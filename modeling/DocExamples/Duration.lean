/-
# Durations

Durations in whole nanoseconds. They are shown in the largest unit of which they hold at least
one, with as many decimals as needed.
-/

namespace DocExamples

/-- A length of time. -/
structure Duration where
  nanos : Nat
deriving DecidableEq, Repr, Inhabited

namespace Duration

def ofMillis (n : Nat) : Duration := ⟨n * 1000000⟩

/-- Whole milliseconds, the rest dropped. -/
def millis (d : Duration) : Nat := d.nanos / 1000000

/-- `n` as the part behind the point of a number with `width` places, zeros at its end dropped. -/
def fraction (n width : Nat) : String :=
  let ds := Nat.toDigits 10 n
  let ds := List.replicate (width - ds.length) '0' ++ ds
  let kept := (ds.reverse.dropWhile (· == '0')).reverse
  if kept.isEmpty then "" else "." ++ String.ofList kept

/-- The duration in the largest fitting unit. -/
def display (d : Duration) : String :=
  if d.nanos ≥ 1000000000 then
    toString (d.nanos / 1000000000) ++ fraction (d.nanos % 1000000000) 9 ++ "s"
  else if d.nanos ≥ 1000000 then
    toString (d.nanos / 1000000) ++ fraction (d.nanos % 1000000) 6 ++ "ms"
  else if d.nanos ≥ 1000 then toString (d.nanos / 1000) ++ fraction (d.nanos % 1000) 3 ++ "µs"
  else toString d.nanos ++ "ns"

end Duration
end DocExamples
