-- Locks that are taken and given back along a path: which paths can be walked
-- at all, and which of them leave every lock as they found it.
import Mathlib.Tactic

namespace Locks

variable {L : Type*} [DecidableEq L]

inductive Op (L : Type*)
  | acquire (l : L)
  | release (l : L)
  deriving DecidableEq, Repr

/-- A lock that is held cannot be acquired, and one that is not held cannot be
released. -/
def step (held : L → Bool) : Op L → Option (L → Bool)
  | .acquire l => if held l then none else some (Function.update held l true)
  | .release l => if held l then some (Function.update held l false) else none

/-- The locks held at the end of a path. -/
def exec : (L → Bool) → List (Op L) → Option (L → Bool)
  | held, [] => some held
  | held, op :: ops => (step held op).bind fun held' => exec held' ops

/-- The path leaves the locks as they were. -/
def Balanced (held : L → Bool) (ops : List (Op L)) : Prop := exec held ops = some held

variable {held : L → Bool} {l : L} {ops : List (Op L)}

theorem exec_append (held : L → Bool) (ops ops' : List (Op L)) :
    exec held (ops ++ ops') = (exec held ops).bind fun held' => exec held' ops' := by
  induction ops generalizing held with
  | nil => rfl
  | cons op ops ih =>
    rw [List.cons_append, exec, exec, Option.bind_assoc]
    exact congrArg _ (funext fun held' => ih held')

theorem balanced_nil (held : L → Bool) : Balanced held [] := rfl

theorem exec_acquire (h : held l = false) (ops : List (Op L)) :
    exec held (.acquire l :: ops) = exec (Function.update held l true) ops := by
  simp [exec, step, h]

theorem exec_release (h : held l = true) (ops : List (Op L)) :
    exec held (.release l :: ops) = exec (Function.update held l false) ops := by
  simp [exec, step, h]

/-- A balanced path in the middle can be left out. -/
theorem Balanced.exec_append (h : Balanced held ops)
    (ops' : List (Op L)) : exec held (ops ++ ops') = exec held ops' := by
  rw [Locks.exec_append, h, Option.bind_some]

theorem update_eq_self {b : Bool} (h : held l = b) :
    Function.update held l b = held := by
  rw [← h, Function.update_eq_self]

/-- A lock around a balanced path. -/
theorem Balanced.bracket (h : held l = false)
    (hops : Balanced (Function.update held l true) ops) :
    Balanced held (.acquire l :: (ops ++ [.release l])) := by
  rw [Balanced, exec_acquire h, hops.exec_append, exec_release (Function.update_self ..),
    Function.update_idem, update_eq_self h]
  rfl

/-- One lock is taken under another, which is given back first. -/
theorem Balanced.handover {m : L} (hl : held l = false)
    (hm : held m = false) (hne : l ≠ m) (hops : Balanced (Function.update held m true) ops) :
    Balanced held (.acquire l :: .acquire m :: .release l :: (ops ++ [.release m])) := by
  have hm' : Function.update held l true m = false := by rw [Function.update_of_ne hne.symm, hm]
  have hback : Function.update (Function.update (Function.update held l true) m true) l false =
      Function.update held m true := by
    rw [Function.update_comm hne.symm, Function.update_idem, update_eq_self hl]
  rw [Balanced, exec_acquire hl, exec_acquire hm', exec_release, hback, hops.exec_append,
    exec_release (Function.update_self ..), Function.update_idem, update_eq_self hm]
  · rfl
  · rw [Function.update_of_ne hne, Function.update_self]

/-- A path that only takes a lock is not balanced. -/
theorem not_balanced_acquire (h : held l = false) :
    ¬Balanced held [.acquire l] := by
  rw [Balanced, exec_acquire h, exec]
  intro he
  have hl := congrFun (Option.some.inj he) l
  rw [Function.update_self, h] at hl
  cases hl

def acquires (l : L) (ops : List (Op L)) : Nat := ops.count (.acquire l)

def releases (l : L) (ops : List (Op L)) : Nat := ops.count (.release l)

theorem exec_count {held' : L → Bool} (h : exec held ops = some held')
    (l : L) : acquires l ops + (held l).toNat = releases l ops + (held' l).toNat := by
  induction ops generalizing held with
  | nil =>
    obtain rfl := Option.some.inj h
    rfl
  | cons op ops ih =>
    obtain ⟨mid, hstep, hrest⟩ := Option.bind_eq_some_iff.mp h
    have hih := ih hrest
    unfold acquires releases at hih ⊢
    cases op with
    | acquire m =>
      simp only [step] at hstep
      split at hstep
      · cases hstep
      obtain rfl := Option.some.inj hstep
      by_cases hm : m = l
      · subst hm
        rw [Function.update_self] at hih
        simp_all
      · rw [Function.update_of_ne (Ne.symm hm)] at hih
        simp_all
    | release m =>
      simp only [step] at hstep
      split at hstep
      · obtain rfl := Option.some.inj hstep
        by_cases hm : m = l
        · subst hm
          rw [Function.update_self] at hih
          simp_all
          omega
        · rw [Function.update_of_ne (Ne.symm hm)] at hih
          simp_all
      · cases hstep

/-- On a balanced path each lock is released as often as it is acquired. -/
theorem Balanced.count_eq (h : Balanced held ops) (l : L) :
    acquires l ops = releases l ops := by
  have hc := exec_count h l
  omega

end Locks
