import Mathlib
import CacheSim.Sweep

/-!
# Schedules of a sweep

The simulations of a sweep are tasks that wait for a permit, run while they hold one, and are
collected some time after they have ended.  Which waiting task is next to get a permit, which
running task is next to end and which ended one is next to be collected is left open, and so are
the ids and the times of the simulations.  What is fixed is the number of permits.

* `Sweep.Progress.accounts`: on any schedule no task is lost or doubled, none has another outcome
  than its simulation alone, and no more tasks run than there are permits;
* `Sweep.isComplete_or_advances`: a sweep that is not complete can go on;
* `Sweep.exists_reaches`: its simulations can be collected in any order.
-/

namespace CacheSim.Sweep

/-- A sweep that is going on, with the cache sizes of the tasks that wait and that run. -/
structure Progress where
  /-- The tasks that wait for a permit. -/
  waiting : List UInt64
  /-- The tasks that hold a permit. -/
  running : List UInt64
  /-- The simulations that have ended. -/
  ended : List Finished
  /-- The simulations that have been collected, in this order. -/
  collected : List Finished

namespace Progress

/-- A sweep that has not begun. -/
def start (cacheSizes : List UInt64) : Progress :=
  ⟨cacheSizes, [], [], []⟩

/-- All tasks of a sweep have been collected. -/
def IsComplete (p : Progress) : Prop :=
  p.waiting = [] ∧ p.running = [] ∧ p.ended = []

/-- The cache sizes of all tasks, wherever they are. -/
def tasks (p : Progress) : List UInt64 :=
  p.waiting ++ p.running ++ p.ended.map Finished.cacheSize ++ p.collected.map Finished.cacheSize

/-- How often the tasks can still go on, each of them three times. -/
def stepsLeft (p : Progress) : Nat :=
  3 * p.waiting.length + 2 * p.running.length + p.ended.length

end Progress

variable {permits : Nat} {simulate : UInt64 → Except RunError Tally} {cacheSizes : List UInt64}
variable {n : Nat} {p p' : Progress}

/-- What may happen next. -/
inductive Advances (permits : Nat) (simulate : UInt64 → Except RunError Tally) :
    Progress → Progress → Prop where
  /-- A task gets a permit. -/
  | begin {before after running : List UInt64} {size : UInt64} {ended collected : List Finished} :
      running.length < permits →
      Advances permits simulate ⟨before ++ size :: after, running, ended, collected⟩
        ⟨before ++ after, size :: running, ended, collected⟩
  /-- A simulation ends, and gives its permit back. -/
  | finish {waiting before after : List UInt64} {size : UInt64} {ended collected : List Finished}
      (runId : String) (elapsedMs : UInt64) :
      Advances permits simulate ⟨waiting, before ++ size :: after, ended, collected⟩
        ⟨waiting, before ++ after, ⟨runId, size, simulate size, elapsedMs⟩ :: ended, collected⟩
  /-- A simulation that has ended is collected. -/
  | collect {waiting running : List UInt64} {before after collected : List Finished}
      {f : Finished} :
      Advances permits simulate ⟨waiting, running, before ++ f :: after, collected⟩
        ⟨waiting, running, before ++ after, collected ++ [f]⟩

/-- The progress that can be made in a number of steps. -/
inductive Reaches (permits : Nat) (simulate : UInt64 → Except RunError Tally)
    (cacheSizes : List UInt64) : Nat → Progress → Prop where
  | start : Reaches permits simulate cacheSizes 0 (.start cacheSizes)
  | step {n : Nat} {p p' : Progress} : Reaches permits simulate cacheSizes n p →
      Advances permits simulate p p' → Reaches permits simulate cacheSizes (n + 1) p'

/-- What can be said of a sweep after `n` steps. -/
structure Progress.Accounts (permits : Nat) (simulate : UInt64 → Except RunError Tally)
    (cacheSizes : List UInt64) (n : Nat) (p : Progress) : Prop where
  tasks : p.tasks.Perm cacheSizes
  permits : p.running.length ≤ permits
  ended : ∀ f ∈ p.ended, f.outcome = simulate f.cacheSize
  collected : ∀ f ∈ p.collected, f.outcome = simulate f.cacheSize
  steps : n + p.stepsLeft = 3 * cacheSizes.length

lemma Progress.accounts_start (permits : Nat) (simulate : UInt64 → Except RunError Tally)
    (cacheSizes : List UInt64) : (start cacheSizes).Accounts permits simulate cacheSizes 0 where
  tasks := by simp [Progress.tasks, start]
  permits := Nat.zero_le _
  ended := by simp [start]
  collected := by simp [start]
  steps := by simp [stepsLeft, start]

lemma Progress.Accounts.step (h : p.Accounts permits simulate cacheSizes n)
    (hstep : Advances permits simulate p p') :
    p'.Accounts permits simulate cacheSizes (n + 1) := by
  obtain ⟨htasks, hpermits, hended, hcollected, hsteps⟩ := h
  -- a task that moves on leaves its place in one list for a place in the next
  cases hstep with
  | @begin before after running size ended collected hfree =>
    refine ⟨?_, hfree, hended, hcollected, ?_⟩
    · refine List.Perm.trans (List.perm_iff_count.mpr fun a => ?_) htasks
      simp only [Progress.tasks, List.count_append, List.count_cons]
      omega
    · simp only [stepsLeft, List.length_append, List.length_cons] at hsteps ⊢
      omega
  | @finish waiting before after size ended collected runId elapsedMs =>
    refine ⟨?_, ?_, ?_, hcollected, ?_⟩
    · refine List.Perm.trans (List.perm_iff_count.mpr fun a => ?_) htasks
      simp only [Progress.tasks, List.count_append, List.count_cons, List.map_cons]
      omega
    · simp only [List.length_append, List.length_cons] at hpermits ⊢
      omega
    · exact List.forall_mem_cons.mpr ⟨rfl, hended⟩
    · simp only [stepsLeft, List.length_append, List.length_cons] at hsteps ⊢
      omega
  | @collect waiting running before after collected f =>
    refine ⟨?_, hpermits, ?_, ?_, ?_⟩
    · refine List.Perm.trans (List.perm_iff_count.mpr fun a => ?_) htasks
      simp only [Progress.tasks, List.count_append, List.count_cons, List.map_append, List.map_cons,
        List.map_nil, List.count_nil]
      omega
    · intro g hg
      exact hended g (by simp only [List.mem_append, List.mem_cons] at hg ⊢; tauto)
    · intro g hg
      rcases List.mem_append.mp hg with hg | hg
      · exact hcollected g hg
      · rw [List.mem_singleton.mp hg]
        exact hended f (by simp)
    · simp only [stepsLeft, List.length_append, List.length_cons] at hsteps ⊢
      omega

/-- On any schedule the tasks are accounted for. -/
lemma Progress.accounts (h : Reaches permits simulate cacheSizes n p) :
    p.Accounts permits simulate cacheSizes n := by
  induction h with
  | start => exact accounts_start permits simulate cacheSizes
  | step h hstep ih => exact ih.step hstep

/-- A sweep that is not complete can go on. -/
lemma isComplete_or_advances (hpermits : 0 < permits) (p : Progress) :
    p.IsComplete ∨ ∃ p', Advances permits simulate p p' := by
  obtain ⟨waiting, running, ended, collected⟩ := p
  rcases ended with _ | ⟨f, ended⟩
  · rcases running with _ | ⟨size, running⟩
    · rcases waiting with _ | ⟨size, waiting⟩
      · exact Or.inl ⟨rfl, rfl, rfl⟩
      · have hfree : ([] : List UInt64).length < permits := hpermits
        exact Or.inr ⟨_, @Advances.begin _ _ [] waiting [] size [] collected hfree⟩
    · exact Or.inr ⟨_, @Advances.finish _ _ waiting [] running size [] collected "-" 0⟩
  · exact Or.inr ⟨_, @Advances.collect _ _ waiting running [] ended collected f⟩

/-- Tasks that wait can run one after the other, and be collected in any order. -/
lemma Reaches.one_by_one {waiting : List UInt64} {done todo : List Finished}
    (h : Reaches permits simulate cacheSizes n ⟨waiting, [], [], done⟩) (hpermits : 0 < permits)
    (htodo : (todo.map Finished.cacheSize).Perm waiting)
    (houtcomes : ∀ f ∈ todo, f.outcome = simulate f.cacheSize) :
    ∃ n', Reaches permits simulate cacheSizes n' ⟨[], [], [], done ++ todo⟩ := by
  induction todo generalizing n waiting done with
  | nil =>
    obtain rfl : waiting = [] := htodo.nil_eq.symm
    exact ⟨n, by rwa [List.append_nil]⟩
  | cons f todo ih =>
    obtain ⟨hf, htodo'⟩ := List.forall_mem_cons.mp houtcomes
    have hmem : f.cacheSize ∈ waiting := htodo.mem_iff.mp (by simp)
    obtain ⟨before, after, rfl⟩ := List.append_of_mem hmem
    have hfree : ([] : List UInt64).length < permits := hpermits
    have hbegun := h.step (.begin hfree)
    have hended := hbegun.step (@Advances.finish _ _ (before ++ after) [] [] f.cacheSize [] done
      f.runId f.elapsedMs)
    rw [← hf] at hended
    have hcollected := hended.step (@Advances.collect _ _ (before ++ after) [] [] [] done f)
    have hrest : (todo.map Finished.cacheSize).Perm (before ++ after) :=
      (htodo.trans List.perm_middle).cons_inv
    obtain ⟨n', hdone⟩ := ih hcollected hrest htodo'
    exact ⟨n', by rwa [List.append_assoc] at hdone⟩

/-- Every order in which the simulations can be collected is that of a schedule. -/
lemma exists_reaches {finished : List Finished} (hpermits : 0 < permits)
    (hperm : (finished.map Finished.cacheSize).Perm cacheSizes)
    (houtcomes : ∀ f ∈ finished, f.outcome = simulate f.cacheSize) :
    ∃ n, Reaches permits simulate cacheSizes n ⟨[], [], [], finished⟩ :=
  Reaches.start.one_by_one hpermits hperm houtcomes

end CacheSim.Sweep
