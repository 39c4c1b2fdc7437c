/-
# Projects as maps of names

A project is a map from the names of configurations to configurations, and a configuration is a map
from the names of targets to targets; both keep the order in which the names came. Whatever
operations a new project goes through, names are distinct on both levels (`Named.perform`), so that
the first configuration or target of a name is the only one. Adding a target puts it into its
configuration and the configuration into the project, removing one takes it out, and everything else
stays as it is (`naming_perform`).
-/

import DocExamples.Proofs.Project.Placed

namespace DocExamples

/-- An operation on a project. Without the name of a configuration the current one is meant. -/
inductive ProjectOp where
  | add (t : Target) (configuration : Option String)
  | remove (name : String) (configuration : Option String)
  | select (name : String)

namespace Project

/-- The project after an operation. -/
def apply (p : Project) : ProjectOp → Project
  | .add t configuration => p.addTarget t configuration
  | .remove name configuration => (p.removeTarget name configuration).2
  | .select name => (p.select name).2

/-- The project after a sequence of operations. -/
def perform (p : Project) (ops : List ProjectOp) : Project := ops.foldl apply p

variable {p q : Project} {c : BuildConfiguration} {n : String}

/-- Whether the configurations have distinct names, and the targets of each configuration too. -/
structure Named (p : Project) : Prop where
  configurations : (p.configurations.map (·.name)).Nodup
  targets : ∀ c ∈ p.configurations, (c.targets.map (·.name)).Nodup

/-- The configuration of a name, or a new one without targets. -/
def configurationFor (p : Project) (n : String) : BuildConfiguration :=
  (p.configuration? n).getD { name := n, directory := p.buildDirectory ++ "/" ++ n }

/-- The project `q` is `p` with the configuration `c` in the place of the one of its name, or else
as the last one; every other name has the configuration that it had. -/
structure Puts (p : Project) (c : BuildConfiguration) (q : Project) : Prop where
  placed : Placed (·.name) c p.configurations q.configurations
  configuration? : ∀ n, q.configuration? n = if n = c.name then some c else p.configuration? n
  rest : q = { p with configurations := q.configurations }

/-- What comes of removing the target `m` from the configuration `n`: a target of that name is taken
out from between the others, or, if there is none, nothing changes. -/
structure Removes (p : Project) (m n : String) (r : Bool × Project) : Prop where
  removed_iff : r.1 = true ↔ ∃ c, p.configuration? n = some c ∧ m ∈ c.targets.map (·.name)
  removed : r.1 = true → ∃ c before t after, p.configuration? n = some c ∧
    c.targets = before ++ t :: after ∧ t.name = m ∧
      p.Puts { c with targets := before ++ after } r.2
  kept : r.1 = false → r.2 = p

/-! ### Looking up -/

namespace Named

variable (hp : p.Named)
include hp

theorem configuration?_eq_some_iff :
    p.configuration? n = some c ↔ c ∈ p.configurations ∧ c.name = n :=
  Keyed.find?_eq_some_iff hp.configurations

theorem nodup_of_configuration? (hc : p.configuration? n = some c) :
    (c.targets.map (·.name)).Nodup :=
  hp.targets c (hp.configuration?_eq_some_iff.1 hc).1

/-- The target of a name is the one that the current configuration has. -/
theorem target?_eq_some_iff {m : String} {t : Target} : p.target? m = some t ↔
    ∃ c, p.configuration? p.current = some c ∧ t ∈ c.targets ∧ t.name = m := by
  rw [target?, Project.targets]
  cases hc : p.configuration? p.current with
  | none => simp
  | some c =>
      rw [Option.map_some, Option.getD_some,
        Keyed.find?_eq_some_iff (hp.nodup_of_configuration? hc)]
      simp

theorem puts (h : Placed (·.name) c p.configurations q.configurations)
    (hrest : q = { p with configurations := q.configurations }) : p.Puts c q :=
  ⟨h, h.find?_eq hp.configurations, hrest⟩

end Named

/-! ### One operation -/

theorem Puts.named (h : p.Puts c q) (hp : p.Named) (hc : (c.targets.map (·.name)).Nodup) :
    q.Named where
  configurations := h.placed.nodup hp.configurations
  targets d hd := by
    obtain rfl | hd := h.placed.mem_of_mem hd
    · exact hc
    · exact hp.targets d hd

theorem name_configurationFor (p : Project) (n : String) : (p.configurationFor n).name = n := by
  rw [configurationFor]
  cases hc : p.configuration? n with
  | none => rfl
  | some c => simpa using List.find?_some hc

theorem Named.configurationFor (hp : p.Named) (n : String) :
    ((p.configurationFor n).targets.map (·.name)).Nodup := by
  rw [Project.configurationFor]
  cases hc : p.configuration? n with
  | none => exact List.nodup_nil
  | some c => exact hp.nodup_of_configuration? hc

/-- **Adding a target** puts it into its configuration, and that into the project. -/
theorem Named.addTarget (hp : p.Named) (t : Target) (configuration : Option String) :
    let c := p.configurationFor (configuration.getD p.current)
    ∃ targets, Placed (·.name) t c.targets targets ∧
      p.Puts { c with targets } (p.addTarget t configuration) := by
  intro c
  have hname : c.name = configuration.getD p.current := p.name_configurationFor _
  let d : BuildConfiguration := { c with targets := putFirst (·.name == t.name) t c.targets }
  have hd : d.name = configuration.getD p.current := hname
  exact ⟨_, placed_putFirst rfl c.targets, hp.puts (placed_putFirst hd p.configurations) rfl⟩

theorem removeTarget_of_none {m : String} {configuration : Option String}
    (hc : p.configuration? (configuration.getD p.current) = none) :
    p.removeTarget m configuration = (false, p) := by
  rw [removeTarget, hc, modifyFirst_of_find?_eq_none hc]
  rfl

theorem removeTarget_fst {configuration : Option String}
    (hc : p.configuration? (configuration.getD p.current) = some c) (m : String) :
    (p.removeTarget m configuration).1 = c.targets.any (·.name == m) := by
  rw [removeTarget, hc]
  rfl

theorem Named.puts_removeTarget (hp : p.Named) {configuration : Option String}
    (hc : p.configuration? (configuration.getD p.current) = some c) (m : String) :
    p.Puts { c with targets := c.targets.filter (·.name != m) }
      (p.removeTarget m configuration).2 := by
  let drop (c : BuildConfiguration) : BuildConfiguration :=
    { c with targets := c.targets.filter (·.name != m) }
  have hdrop : ∀ c, (drop c).name = c.name := fun _ => rfl
  exact hp.puts (placed_modifyFirst hdrop hc) rfl

/-- **Removing a target** takes it out of its configuration. -/
theorem Named.removeTarget (hp : p.Named) (m : String) (configuration : Option String) :
    p.Removes m (configuration.getD p.current) (p.removeTarget m configuration) := by
  cases hc : p.configuration? (configuration.getD p.current) with
  | none =>
      rw [removeTarget_of_none hc]
      exact ⟨by simp [hc], by simp, fun _ => rfl⟩
  | some c =>
      have hfound := removeTarget_fst hc m
      have hputs := hp.puts_removeTarget hc m
      have hnd : (c.targets.map (·.name)).Nodup := hp.nodup_of_configuration? hc
      refine ⟨by simp [hfound, hc], fun h => ?_, fun h => ?_⟩
      · rw [hfound, List.any_eq_true] at h
        obtain ⟨t, ht, hm⟩ := h
        obtain rfl := eq_of_beq hm
        obtain ⟨before, after, hsplit⟩ := List.append_of_mem ht
        rw [hsplit, Keyed.filter_key_ne (hsplit ▸ hnd)] at hputs
        exact ⟨c, before, t, after, hc, hsplit, rfl, hputs⟩
      · have hnone : ∀ t ∈ c.targets, (t.name != m) = true := by
          rw [hfound, List.any_eq_false] at h
          exact fun t ht => bne_iff_ne.2 fun hm => h t ht (beq_iff_eq.2 hm)
        rw [List.filter_eq_self.2 hnone] at hputs
        have hmem : c ∈ p.configurations := (hp.configuration?_eq_some_iff.1 hc).1
        rw [hputs.rest, hputs.placed.eq_of_mem hp.configurations hmem]

/-- **Selecting a configuration** makes it current if it is there. -/
theorem select_eq (p : Project) (n : String) : p.select n =
    if n ∈ p.configurations.map (·.name) then (true, { p with current := n }) else (false, p) := by
  have hiff : (p.configuration? n).isSome ↔ n ∈ p.configurations.map (·.name) := by
    simp [configuration?]
  rw [select]
  exact if_congr hiff rfl rfl

/-- **Every operation keeps the names distinct.** -/
theorem Named.apply (hp : p.Named) (op : ProjectOp) : (p.apply op).Named := by
  cases op with
  | add t configuration =>
      obtain ⟨targets, htargets, hputs⟩ := hp.addTarget t configuration
      exact hputs.named hp (htargets.nodup (hp.configurationFor _))
  | remove m configuration =>
      have h := hp.removeTarget m configuration
      cases hr : (p.removeTarget m configuration).1 with
      | false =>
          rw [Project.apply, h.kept hr]
          exact hp
      | true =>
          obtain ⟨c, before, t, after, hc, hsplit, -, hputs⟩ := h.removed hr
          have hnd : ((before ++ t :: after).map (·.name)).Nodup :=
            hsplit ▸ hp.nodup_of_configuration? hc
          refine hputs.named hp (hnd.sublist (List.Sublist.map _ ?_))
          exact (List.sublist_cons_self t after).append_left before
  | select n =>
      rw [Project.apply, select_eq]
      split_ifs
      · exact ⟨hp.configurations, hp.targets⟩
      · exact hp

/-- **Any operations keep the names distinct.** -/
theorem Named.perform (hp : p.Named) (ops : List ProjectOp) : (p.perform ops).Named :=
  List.foldlRecOn _ _ hp fun _ hp op _ => hp.apply op

/-- **A project is a map from configurations to named targets** after any operations. Names are
distinct on both levels, so a name leads to the one configuration or target that has it. Adding a
target puts it into its configuration as the only one of its name, and the configuration into the
project. Removing a target succeeds if and only if its configuration has one of that name, and takes
it out; otherwise nothing changes. Selecting a configuration succeeds if and only if there is one of
that name, and makes it current, nothing else. -/
theorem naming_perform (name sourceDirectory buildDirectory : String) (ops : List ProjectOp) :
    let p := ({ name, sourceDirectory, buildDirectory } : Project).perform ops
    p.Named ∧
      (∀ n c, p.configuration? n = some c ↔ c ∈ p.configurations ∧ c.name = n) ∧
      (∀ m t, p.target? m = some t ↔
        ∃ c, p.configuration? p.current = some c ∧ t ∈ c.targets ∧ t.name = m) ∧
      (∀ t configuration,
        let c := p.configurationFor (configuration.getD p.current)
        c.name = configuration.getD p.current ∧
          ∃ targets, Placed (·.name) t c.targets targets ∧
            targets.filter (·.name == t.name) = [t] ∧
            p.Puts { c with targets } (p.addTarget t configuration)) ∧
      (∀ m configuration,
        p.Removes m (configuration.getD p.current) (p.removeTarget m configuration)) ∧
      ∀ n, p.select n =
        if n ∈ p.configurations.map (·.name) then (true, { p with current := n })
        else (false, p) := by
  intro p
  have hnew : ({ name, sourceDirectory, buildDirectory } : Project).Named :=
    ⟨List.nodup_nil, fun _ h => absurd h List.not_mem_nil⟩
  have hp : p.Named := hnew.perform ops
  refine ⟨hp, fun n c => hp.configuration?_eq_some_iff, fun m t => hp.target?_eq_some_iff,
    fun t configuration => ?_, hp.removeTarget, p.select_eq⟩
  obtain ⟨targets, htargets, hputs⟩ := hp.addTarget t configuration
  exact ⟨p.name_configurationFor _, targets, htargets,
    htargets.filter_eq (hp.configurationFor _), hputs⟩

end Project
end DocExamples
