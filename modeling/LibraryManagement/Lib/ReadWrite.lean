import Mathlib.Algebra.BigOperators.Group.List.Basic
import Mathlib.Data.List.Induction
import Mathlib.Logic.Function.Basic
import Mathlib.Tactic.Abel

/-!
# Reading and writing a shared value in two steps

Agents `κ` change a shared value by reading it and, later, storing what they read plus an
increment. Nothing keeps another agent from storing in between.

`State.drift` sums, over all stores, how far the shared value had moved since the copy was
read. It is exactly what is lost: `shared_exec` gives the shared value as the initial one
plus all increments less the drift, and `drift_exec_of_serial` says that nothing is lost when
no store stands between an agent's read and its store.
-/

namespace ReadWrite

variable {κ G : Type*}

/-- A read of one agent, or its store of what it read plus an increment. -/
inductive Label (κ G : Type*)
  | read (k : κ)
  | write (k : κ) (increment : G)

namespace Label

/-- The increment of a store. -/
def increment [Zero G] : Label κ G → G
  | read _ => 0
  | write _ x => x

def IsWrite : Label κ G → Prop
  | read _ => False
  | write _ _ => True

end Label

/-- Before every store its agent has read, and nothing was stored since. -/
def Serial (es : List (Label κ G)) : Prop :=
  ∀ (k : κ) (x : G) (before rest : List (Label κ G)), es = before ++ .write k x :: rest →
    ∃ earlier between, before = earlier ++ .read k :: between ∧ ∀ e ∈ between, ¬ e.IsWrite

/-- A prefix of undisturbed steps is undisturbed. -/
theorem Serial.of_append {es es' : List (Label κ G)} (h : Serial (es ++ es')) : Serial es := by
  intro k x before rest hes
  refine h k x before (rest ++ es') ?_
  rw [hes, List.append_assoc, List.cons_append]

structure State (κ G : Type*) where
  shared : G
  /-- What each agent read last. -/
  copy : κ → G
  /-- How far the shared value had moved between reads and stores, in total. -/
  drift : G

/-- Every agent has read the initial value. -/
def State.start [Zero G] (x : G) : State κ G := ⟨x, fun _ => x, 0⟩

variable [DecidableEq κ] [AddCommGroup G]

def step (s : State κ G) : Label κ G → State κ G
  | .read k => { s with copy := Function.update s.copy k s.shared }
  | .write k x => ⟨s.copy k + x, s.copy, s.drift + (s.shared - s.copy k)⟩

def exec (s : State κ G) (es : List (Label κ G)) : State κ G := es.foldl step s

@[simp] theorem exec_nil (s : State κ G) : exec s [] = s := rfl

@[simp] theorem exec_append (s : State κ G) (es es' : List (Label κ G)) :
    exec s (es ++ es') = exec (exec s es) es' := List.foldl_append

@[simp] theorem exec_cons (s : State κ G) (e : Label κ G) (es : List (Label κ G)) :
    exec s (e :: es) = exec (step s e) es := rfl

/-! ## What is lost -/

theorem shared_add_drift_step (s : State κ G) (e : Label κ G) :
    (step s e).shared + (step s e).drift = s.shared + s.drift + e.increment := by
  cases e with
  | read k => simp [step, Label.increment]
  | write k x =>
    simp only [step, Label.increment]
    abel

/-- The shared value and the drift together grow by the increments. -/
theorem shared_add_drift_exec (s : State κ G) (es : List (Label κ G)) :
    (exec s es).shared + (exec s es).drift
      = s.shared + s.drift + (es.map Label.increment).sum := by
  induction es generalizing s with
  | nil => simp
  | cons e es ih =>
    rw [exec_cons, ih, shared_add_drift_step, List.map_cons, List.sum_cons, add_assoc]

/-- The shared value is the initial one plus all increments, less the drift. -/
theorem shared_exec (x : G) (es : List (Label κ G)) :
    (exec (State.start x) es).shared
      = x + (es.map Label.increment).sum - (exec (State.start x) es).drift := by
  rw [eq_sub_iff_add_eq, shared_add_drift_exec]
  simp [State.start]

/-! ## Undisturbed stores -/

/-- Reads keep an up-to-date copy up to date. -/
theorem copy_exec_of_reads {s : State κ G} {k : κ} (hs : s.copy k = s.shared)
    {es : List (Label κ G)} (hes : ∀ e ∈ es, ¬ e.IsWrite) :
    (exec s es).copy k = (exec s es).shared := by
  induction es generalizing s with
  | nil => exact hs
  | cons e es ih =>
    cases e with
    | read j =>
      refine ih ?_ fun e he => hes e (List.mem_cons_of_mem _ he)
      by_cases hk : k = j
      · subst hk
        simp [step]
      · simpa [step, hk] using hs
    | write j x => exact absurd trivial (hes _ List.mem_cons_self)

/-- Nothing is lost by undisturbed stores. -/
theorem drift_exec_of_serial (x : G) {es : List (Label κ G)} (h : Serial es) :
    (exec (State.start x) es).drift = 0 := by
  induction es using List.reverseRecOn with
  | nil => rfl
  | append_singleton es e ih =>
    rw [exec_append, exec_cons, exec_nil]
    cases e with
    | read k => exact ih h.of_append
    | write k y =>
      obtain ⟨earlier, between, hes, hreads⟩ := h k y es [] rfl
      have hcopy : (exec (State.start x) es).copy k = (exec (State.start x) es).shared := by
        rw [hes, exec_append, exec_cons]
        exact copy_exec_of_reads (by simp [step]) hreads
      simp only [step, hcopy, sub_self, add_zero]
      exact ih h.of_append

end ReadWrite
