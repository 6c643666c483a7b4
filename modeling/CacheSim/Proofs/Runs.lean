import Mathlib
import CacheSim.Cache

/-!
# Runs of calls

A store that is called again and again is described by a step: it takes a state and a call to an
answer and the next state, or fails.  `runCalls` makes calls in order and collects the answers.  A
failed call ends the run.

* `runCalls_induction`: what holds at the start and is kept by every call holds at the end of a
  run, with the log of calls and answers in view;
* `runCalls_error`: a run that fails does so in a state that calls alone have led to.
-/

namespace CacheSim

/-! ## Steps that succeed -/

section Except

variable {ε ε' α β : Type}

lemma bind_eq_ok {x : Except ε α} {f : α → Except ε β} {b : β} :
    (x >>= f) = .ok b ↔ ∃ a, x = .ok a ∧ f a = .ok b := by
  cases x <;> simp [bind, Except.bind]

lemma bind_eq_error {x : Except ε α} {f : α → Except ε β} {e : ε} :
    (x >>= f) = .error e ↔ x = .error e ∨ ∃ a, x = .ok a ∧ f a = .error e := by
  cases x <;> simp [bind, Except.bind]

lemma map_eq_ok {x : Except ε α} {f : α → β} {b : β} :
    f <$> x = .ok b ↔ ∃ a, x = .ok a ∧ f a = b := by
  cases x <;> simp [Functor.map, Except.map]

lemma map_eq_error {x : Except ε α} {f : α → β} {e : ε} :
    f <$> x = .error e ↔ x = .error e := by
  cases x <;> simp [Functor.map, Except.map]

lemma mapError_eq_ok {x : Except ε α} {f : ε → ε'} {a : α} :
    x.mapError f = .ok a ↔ x = .ok a := by
  cases x <;> simp [Except.mapError]

/-- A counter step succeeds inside the cache exactly as it does by itself. -/
lemma lift_eq_ok {x : Except Fault α} {a : α} :
    (liftM x : Except Refusal α) = .ok a ↔ x = .ok a := by
  cases x <;> simp [liftM, monadLift, MonadLift.monadLift, Except.mapError]

/-- A counter step that fails inside the cache is a fault. -/
lemma lift_eq_error {x : Except Fault α} {e : Refusal} :
    (liftM x : Except Refusal α) = .error e ↔ ∃ f, x = .error f ∧ e = .fault f := by
  cases x <;> simp [liftM, monadLift, MonadLift.monadLift, Except.mapError, eq_comm]

end Except

/-! ## Runs -/

variable {σ κ α ε : Type} {perform : σ → κ → Except ε (α × σ)}
variable {s s' : σ} {calls : List κ} {answers : List α}

/-- Makes calls in order and collects the answers. -/
def runCalls (perform : σ → κ → Except ε (α × σ)) (s : σ) : List κ → Except ε (List α × σ)
  | [] => .ok ([], s)
  | call :: calls => do
    let (answer, s) ← perform s call
    let (answers, s) ← runCalls perform s calls
    .ok (answer :: answers, s)

lemma runCalls_nil_eq_ok : runCalls perform s [] = .ok (answers, s') ↔ answers = [] ∧ s' = s := by
  simp [runCalls, eq_comm]

lemma runCalls_cons_eq_ok {call : κ} :
    runCalls perform s (call :: calls) = .ok (answers, s') ↔
      ∃ answer s₁ rest, perform s call = .ok (answer, s₁) ∧
        runCalls perform s₁ calls = .ok (rest, s') ∧ answers = answer :: rest := by
  simp only [runCalls, bind_eq_ok, Prod.exists, Except.ok.injEq, Prod.mk.injEq]
  constructor
  · rintro ⟨answer, s₁, h₁, rest, s₂, h₂, rfl, rfl⟩
    exact ⟨answer, s₁, rest, h₁, h₂, rfl⟩
  · rintro ⟨answer, s₁, rest, h₁, h₂, rfl⟩
    exact ⟨answer, s₁, h₁, rest, s', h₂, rfl, rfl⟩

/-- Every call is answered. -/
lemma length_answers (hrun : runCalls perform s calls = .ok (answers, s')) :
    answers.length = calls.length := by
  induction calls generalizing s answers with
  | nil => simp [(runCalls_nil_eq_ok.mp hrun).1]
  | cons call calls ih =>
    obtain ⟨answer, s₁, rest, -, hrest, rfl⟩ := runCalls_cons_eq_ok.mp hrun
    rw [List.length_cons, List.length_cons, ih hrest]

/-- A run that goes through does so up to every call. -/
lemma exists_run_of_prefix {begun : List κ} (hbegun : begun <+: calls)
    (hrun : runCalls perform s calls = .ok (answers, s')) :
    ∃ answers₁ s₁, runCalls perform s begun = .ok (answers₁, s₁) ∧ answers₁ <+: answers := by
  induction begun generalizing s calls answers with
  | nil => exact ⟨[], s, rfl, List.nil_prefix⟩
  | cons call begun ih =>
    obtain ⟨rest, rfl⟩ := hbegun
    rw [List.cons_append] at hrun
    obtain ⟨answer, s₂, answers₂, hcall, hrest, rfl⟩ := runCalls_cons_eq_ok.mp hrun
    obtain ⟨answers₁, s₁, hfirst, hbefore⟩ := ih (List.prefix_append begun rest) hrest
    exact ⟨answer :: answers₁, s₁,
      runCalls_cons_eq_ok.mpr ⟨answer, s₂, answers₁, hcall, hfirst, rfl⟩,
      List.cons_prefix_cons.mpr ⟨rfl, hbefore⟩⟩

/-- What holds at the start and is kept by every call holds at the end of a run.  The property may
speak of the log of calls and answers up to the state. -/
theorem runCalls_induction {P : List (κ × α) → σ → Prop} (hstart : P [] s)
    (hstep : ∀ log s call answer s', P log s → perform s call = .ok (answer, s') →
      P (log ++ [(call, answer)]) s')
    (hrun : runCalls perform s calls = .ok (answers, s')) : P (calls.zip answers) s' := by
  -- the calls are taken from the front and the log grows at its end, so any log may come before
  have hfrom : ∀ log, P log s → P (log ++ calls.zip answers) s' := by
    clear hstart
    induction calls generalizing s answers with
    | nil =>
      intro log hlog
      obtain ⟨rfl, rfl⟩ := runCalls_nil_eq_ok.mp hrun
      simpa using hlog
    | cons call calls ih =>
      intro log hlog
      obtain ⟨answer, s₁, rest, hcall, hrest, rfl⟩ := runCalls_cons_eq_ok.mp hrun
      have hlog' := ih hrest _ (hstep log s call answer s₁ hlog hcall)
      simpa using hlog'
  simpa using hfrom [] hstart

/-- A property of states alone that every call keeps holds at the end of a run. -/
theorem runCalls_invariant {P : σ → Prop} (hstart : P s)
    (hstep : ∀ s call answer s', P s → perform s call = .ok (answer, s') → P s')
    (hrun : runCalls perform s calls = .ok (answers, s')) : P s' :=
  runCalls_induction (P := fun _ s => P s) hstart (fun _ s => hstep s) hrun

/-- A run that fails does so at a call, in a state that the calls before it have led to. -/
theorem runCalls_error {P : σ → Prop} {e : ε} (hstart : P s)
    (hstep : ∀ s call answer s', P s → perform s call = .ok (answer, s') → P s')
    (hrun : runCalls perform s calls = .error e) :
    ∃ s' call, P s' ∧ perform s' call = .error e := by
  induction calls generalizing s with
  | nil => simp [runCalls] at hrun
  | cons call calls ih =>
    rw [runCalls, bind_eq_error] at hrun
    rcases hrun with hcall | ⟨⟨answer, s₁⟩, hcall, hrest⟩
    · exact ⟨s, call, hstart, hcall⟩
    · rw [bind_eq_error] at hrest
      rcases hrest with hrest | ⟨_, -, hnever⟩
      · exact ih (hstep s call answer s₁ hstart hcall) hrest
      · simp at hnever

end CacheSim
