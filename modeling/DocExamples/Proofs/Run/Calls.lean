/-
# The calls that a backend receives

A backend with a state answers a call by what the state holds then, and each call changes the
state. So a run is described by the calls it makes: the state at its end is the state at its start
changed by the calls in order. `Makes` says that a run makes certain calls and ends with a certain
answer, whether a record of the calls is kept or not. It composes (`Makes.bind`), so each part of a
run is described once. A pending test makes two calls, and its verdict is on the completion that
the second one gives (`Test.run_of_pending`).
-/

import DocExamples.Proofs.Test.Operation
import DocExamples.Run.Backend
import Mathlib.Logic.Basic

namespace DocExamples

/-- A call of a backend. -/
inductive Call where
  | begin (r : Request)
  | finish (r : Request)

namespace Call

/-- The requests that calls begin, in their order. -/
def begun (calls : List Call) : List Request :=
  calls.filterMap fun
    | begin r => some r
    | finish _ => none

/-- The requests that calls ask the completion of, in their order. -/
def finished (calls : List Call) : List Request :=
  calls.filterMap fun
    | begin _ => none
    | finish r => some r

@[simp] theorem begun_append (l l' : List Call) : begun (l ++ l') = begun l ++ begun l' :=
  List.filterMap_append

@[simp] theorem finished_append (l l' : List Call) :
    finished (l ++ l') = finished l ++ finished l' := List.filterMap_append

@[simp] theorem begun_map_finish (rs : List Request) : begun (rs.map .finish) = [] := by
  rw [begun, List.filterMap_map]
  exact List.filterMap_eq_nil_iff.2 fun _ _ => rfl

@[simp] theorem finished_map_finish (rs : List Request) : finished (rs.map .finish) = rs := by
  rw [finished, List.filterMap_map]
  exact List.filterMap_some

/-- Requests that are begun and asked for one after the other. -/
theorem begun_flatMap {α : Type} (l : List α) (f : α → Request) :
    begun (l.flatMap fun a => [.begin (f a), .finish (f a)]) = l.map f := by
  rw [begun, List.filterMap_flatMap, List.map_eq_flatMap]
  rfl

theorem finished_flatMap {α : Type} (l : List α) (f : α → Request) :
    finished (l.flatMap fun a => [.begin (f a), .finish (f a)]) = l.map f := by
  rw [finished, List.filterMap_flatMap, List.map_eq_flatMap]
  rfl

end Call

variable {σ α β : Type} {b : Backend (StateM σ)} {w : σ} {r : Request} {c : Completion} {t : Test}

namespace Backend

/-- The state of a backend after a call. -/
def after (b : Backend (StateM σ)) (w : σ) : Call → σ
  | .begin r => ((b.begin r).run w).2
  | .finish r => ((b.finish r).run w).2

/-- The state of a backend after calls in order. -/
def replay (b : Backend (StateM σ)) (w : σ) (calls : List Call) : σ := calls.foldl b.after w

/-- Whether the backend, told of a request in some state, answers so to the question whether it has
completed right away. -/
def Begins (b : Backend (StateM σ)) (r : Request) (atOnce : Bool) : Prop :=
  ∃ w, ((b.begin r).run w).1 = atOnce

/-- A completion, as it counts, that the backend gives a request in some state. -/
def Gives (b : Backend (StateM σ)) (r : Request) (c : Completion) : Prop :=
  ∃ atOnce, b.Begins r atOnce ∧ ∃ w, c = r.settle atOnce ((b.finish r).run w).1

/-- Whether what a request yields is a function of the request. Whether it completes right away and
how long it takes may depend on anything, as long as that does not decide about the timeout. -/
def Answers (b : Backend (StateM σ)) (reply : Request → Outcome) : Prop :=
  ∀ r w w', (r.settle ((b.begin r).run w).1 ((b.finish r).run w').1).outcome = reply r

theorem Gives.outcome_eq {reply : Request → Outcome} (hc : b.Gives r c) (hb : b.Answers reply) :
    c.outcome = reply r := by
  obtain ⟨_, ⟨w, rfl⟩, w', rfl⟩ := hc
  exact hb r w w'

/-- The backend with a record of the calls it receives. -/
def recorded (b : Backend (StateM σ)) : Backend (StateM (σ × List Call)) where
  begin r := fun (w, calls) =>
    (((b.begin r).run w).1, b.after w (.begin r), calls ++ [.begin r])
  finish r := fun (w, calls) =>
    (((b.finish r).run w).1, b.after w (.finish r), calls ++ [.finish r])
  order := b.order

/-- Whether a run from a state ends with an answer after making some calls; `p` is the run with the
backend and `q` the same run with the backend that keeps a record. -/
structure Makes (b : Backend (StateM σ)) (w : σ) (p : StateM σ α) (q : StateM (σ × List Call) α)
    (a : α) (calls : List Call) : Prop where
  plain : p.run w = (a, b.replay w calls)
  recorded : ∀ old, q.run (w, old) = (a, b.replay w calls, old ++ calls)

namespace Makes

variable {p : StateM σ α} {q : StateM (σ × List Call) α} {f : α → StateM σ β}
  {g : α → StateM (σ × List Call) β} {a : α} {v : β} {l l' : List Call}

theorem pure (a : α) : b.Makes w (pure a) (pure a) a [] where
  plain := rfl
  recorded old := by rw [List.append_nil]; rfl

/-- **One run after another** makes the calls of both in order. -/
theorem bind (hp : b.Makes w p q a l) (hf : b.Makes (b.replay w l) (f a) (g a) v l') :
    b.Makes w (p >>= f) (q >>= g) v (l ++ l') := by
  have hreplay : b.replay w (l ++ l') = b.replay (b.replay w l) l' := List.foldl_append
  constructor
  · change (f (p.run w).1).run (p.run w).2 = _
    rw [hp.plain, hf.plain, hreplay]
  · intro old
    change (g (q.run (w, old)).1).run (q.run (w, old)).2 = _
    rw [hp.recorded, hf.recorded, hreplay, List.append_assoc]

/-- A last step without calls. -/
theorem bind_pure {h : α → β} (hp : b.Makes w p q a l) :
    b.Makes w (p >>= fun a => Pure.pure (h a)) (q >>= fun a => Pure.pure (h a)) (h a) l := by
  have := hp.bind (f := fun a => Pure.pure (h a)) (g := fun a => Pure.pure (h a)) (pure (h a))
  rwa [List.append_nil] at this

end Makes

theorem makes_begin (b : Backend (StateM σ)) (w : σ) (r : Request) :
    b.Makes w (b.begin r) (b.recorded.begin r) ((b.begin r).run w).1 [.begin r] where
  plain := rfl
  recorded _ := rfl

theorem makes_finish (b : Backend (StateM σ)) (w : σ) (r : Request) :
    b.Makes w (b.finish r) (b.recorded.finish r) ((b.finish r).run w).1 [.finish r] where
  plain := rfl
  recorded _ := rfl

end Backend

namespace Test

/-- The result of a test whose request has completed. -/
def verdict (t : Test) (c : Completion) : TestResult := t.judge c.outcome c.elapsed

/-- **Waiting for a running test** asks for its completion and ends with the verdict on it. -/
theorem await_of_running (h : t.status = .running) {atOnce : Bool}
    (hbegin : b.Begins t.request atOnce) (w : σ) :
    ∃ c, b.Gives t.request c ∧ b.Makes w (t.await b atOnce) (t.await b.recorded atOnce)
      (.ok (t.verdict c), t.conclude (t.verdict c)) [.finish t.request] := by
  refine ⟨_, ⟨atOnce, hbegin, w, rfl⟩, ?_⟩
  have hfinish : ∀ c : Completion, t.finish c.outcome c.elapsed =
      (.ok (t.verdict c), t.conclude (t.verdict c)) := fun c => if_pos h
  rw [← hfinish]
  exact (b.makes_finish w t.request).bind_pure

/-- **Running a pending test** begins its request, asks for its completion and ends with the
verdict on it. -/
theorem run_of_pending (h : t.status = .pending) (b : Backend (StateM σ)) (w : σ) :
    ∃ c, b.Gives t.request c ∧ b.Makes w (t.run b) (t.run b.recorded)
      (.ok (t.verdict c), t.conclude (t.verdict c)) [.begin t.request, .finish t.request] := by
  have hstart : t.start = (.ok (), { t with status := .running }) := if_pos h
  have hb := b.makes_begin w t.request
  obtain ⟨c, hc, ha⟩ := await_of_running (t := { t with status := .running }) rfl ⟨w, rfl⟩
    (b.replay w [.begin t.request])
  refine ⟨c, hc, ?_⟩
  unfold run
  rw [hstart]
  exact hb.bind ha

/-- A test that is not pending is not run. -/
theorem run_of_ne_pending {m : Type → Type} [Monad m] (h : t.status ≠ .pending) (b : Backend m) :
    t.run b = pure (.error ⟨t.status, .running⟩, t) := by
  have hstart : t.start = (.error ⟨t.status, .running⟩, t) := if_neg h
  unfold run
  rw [hstart]

end Test
end DocExamples
