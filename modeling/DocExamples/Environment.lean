/-
# Environments

The variables that a program finds set. Their values are bytes, which need not be a text. A setting
that is to be a text is not taken from such a variable, which counts as one that is not set; a path
is shown with what is no text in it replaced.
-/

import DocExamples.Text.Utf8

namespace DocExamples

/-- The variables that are set, with the bytes of their values. -/
structure Environment where
  values : List (String × List UInt8) := []
deriving Repr, Inhabited

namespace Environment

/-- An environment of texts. -/
def ofTexts (texts : List (String × String)) : Environment where
  values := texts.map fun (name, value) => (name, Text.encode value.toList)

def bytes? (env : Environment) (name : String) : Option (List UInt8) := env.values.lookup name

/-- The text that a variable is set to, if it is set and to a text. -/
def text? (env : Environment) (name : String) : Option String :=
  ((env.bytes? name).bind Text.decode?).map String.ofList

/-- The path that a variable is set to. -/
def path? (env : Environment) (name : String) : Option String :=
  (env.bytes? name).map fun bytes => String.ofList (Text.decodeLossy bytes)

end Environment
end DocExamples
