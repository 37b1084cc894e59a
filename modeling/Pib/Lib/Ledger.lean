-- A first-in first-out queue whose entries may be withdrawn while they wait,
-- kept as the history of what was put into it. An entry is known by its number
-- in that history.
import Mathlib.Tactic

/-- What was put in so far, how many entries were handed out, and the numbers of
the entries that were withdrawn. -/
structure Ledger (α : Type*) where
  joined : List α := []
  served : Nat := 0
  withdrawn : List Nat := []

namespace Ledger

variable {α : Type*} (l : Ledger α)

/-- The entries that were not withdrawn, with their numbers, in the order in
which they were put in. -/
def standing : List (α × Nat) := l.joined.zipIdx.filter fun x => decide (x.2 ∉ l.withdrawn)

/-- Those of them that have not been handed out. -/
def waiting : List (α × Nat) := l.standing.drop l.served

/-- The entries handed out so far, in order. -/
def handed : List α := (l.standing.take l.served).map Prod.fst

/-- The entries that wait, in order. -/
def queue : List α := l.waiting.map Prod.fst

def join (a : α) : Ledger α := { l with joined := l.joined ++ [a] }

/-- The first `k` entries are handed out, or all if there are fewer. -/
def serve (k : Nat) : Ledger α := { l with served := l.served + min k l.queue.length }

/-- The entries for which `p` holds are taken out of the queue. -/
def withdraw (p : α → Bool) : Ledger α :=
  { l with withdrawn := l.withdrawn ++ (l.waiting.filter fun x => p x.1).map Prod.snd }

/-- Only what is there was handed out or withdrawn. -/
structure Sound : Prop where
  served : l.served ≤ l.standing.length
  withdrawn : ∀ i ∈ l.withdrawn, i < l.joined.length

theorem sound_empty : Sound ({} : Ledger α) :=
  ⟨Nat.zero_le _, fun _ hi => absurd hi List.not_mem_nil⟩

/-- Nothing is lost: what was handed out and what waits is what was put in,
without what was withdrawn. -/
theorem handed_append_queue : l.handed ++ l.queue = l.standing.map Prod.fst := by
  unfold handed queue waiting
  rw [← List.map_append, List.take_append_drop]

theorem lt_of_mem_zipIdx {as : List α} {x : α × Nat} (h : x ∈ as.zipIdx) : x.2 < as.length := by
  obtain ⟨a, i⟩ := x
  have h := List.mem_zipIdx h
  simpa using h.2.1

theorem pairwise_standing : l.standing.Pairwise fun x y => x.2 ≠ y.2 := by
  unfold standing
  apply List.Pairwise.filter
  rw [← List.pairwise_map (f := Prod.snd) (R := fun i j => i ≠ j), List.zipIdx_map_snd]
  exact List.nodup_range'

variable {l}

/-! ## Putting in -/

theorem standing_join (h : l.Sound) (a : α) :
    (l.join a).standing = l.standing ++ [(a, l.joined.length)] := by
  have hnew : l.joined.length ∉ l.withdrawn := fun hi => absurd (h.withdrawn _ hi) (lt_irrefl _)
  unfold standing join
  simp [List.zipIdx_append, hnew]

theorem sound_join (h : l.Sound) (a : α) : (l.join a).Sound := by
  constructor
  · rw [standing_join h, List.length_append]
    exact Nat.le_add_right_of_le h.served
  · intro i hi
    have := h.withdrawn i hi
    simp only [join, List.length_append]
    omega

theorem handed_join (h : l.Sound) (a : α) : (l.join a).handed = l.handed := by
  unfold handed
  rw [standing_join h]
  congr 1
  exact List.take_append_of_le_length h.served

theorem queue_join (h : l.Sound) (a : α) : (l.join a).queue = l.queue ++ [a] := by
  unfold queue waiting
  rw [standing_join h]
  have hdrop : (l.standing ++ [(a, l.joined.length)]).drop (l.join a).served =
      l.standing.drop l.served ++ [(a, l.joined.length)] :=
    List.drop_append_of_le_length h.served
  rw [hdrop, List.map_append]
  rfl

/-! ## Handing out -/

theorem length_queue : l.queue.length = l.standing.length - l.served := by
  simp [queue, waiting]

theorem sound_serve (h : l.Sound) (k : Nat) : (l.serve k).Sound := by
  have hs := h.served
  refine ⟨?_, h.withdrawn⟩
  have hq := length_queue (l := l)
  change l.served + min k l.queue.length ≤ l.standing.length
  omega

theorem handed_serve (k : Nat) : (l.serve k).handed = l.handed ++ l.queue.take k := by
  change (l.standing.take (l.served + min k l.queue.length)).map Prod.fst = _
  rw [List.take_add, List.map_append]
  congr 1
  unfold queue waiting
  rw [← List.map_take, List.length_map]
  congr 1
  rcases Nat.le_total k (l.standing.drop l.served).length with hk | hk
  · rw [Nat.min_eq_left hk]
  · rw [Nat.min_eq_right hk, List.take_length, List.take_of_length_le hk]

theorem queue_serve (k : Nat) : (l.serve k).queue = l.queue.drop k := by
  change (l.standing.drop (l.served + min k l.queue.length)).map Prod.fst = _
  unfold queue waiting
  rw [← List.drop_drop, ← List.map_drop, List.length_map]
  congr 1
  rcases Nat.le_total k (l.standing.drop l.served).length with hk | hk
  · rw [Nat.min_eq_left hk]
  · rw [Nat.min_eq_right hk, List.drop_length, List.drop_of_length_le hk]

/-! ## Withdrawing -/

/-- An entry that waits is withdrawn exactly if `p` holds for it, and no other
entry is. -/
theorem standing_withdraw (p : α → Bool) :
    (l.withdraw p).standing =
      l.standing.take l.served ++ l.waiting.filter fun x => !p x.1 := by
  have hfilter : (l.withdraw p).standing = l.standing.filter fun x =>
      decide (x.2 ∉ (l.waiting.filter fun y => p y.1).map Prod.snd) := by
    unfold standing withdraw
    rw [List.filter_filter]
    apply List.filter_congr
    intro x _
    simp only [List.mem_append, not_or, Bool.decide_and]
    rw [Bool.and_comm]
  have hpair := l.pairwise_standing
  rw [← List.take_append_drop l.served l.standing, List.pairwise_append] at hpair
  obtain ⟨-, hwait, hcross⟩ := hpair
  rw [hfilter]
  nth_rewrite 1 [← List.take_append_drop l.served l.standing]
  rw [List.filter_append]
  congr 1
  · apply List.filter_eq_self.mpr
    intro x hx
    simp only [List.mem_map, List.mem_filter, not_exists, not_and, decide_eq_true_eq]
    intro y hy he
    exact hcross x hx y hy.1 he.symm
  · apply List.filter_congr
    intro x hx
    rw [Bool.eq_iff_iff]
    simp only [List.mem_map, List.mem_filter, not_exists, not_and, decide_eq_true_eq,
      Bool.not_eq_eq_eq_not, Bool.not_true]
    constructor
    · intro h
      by_contra hp
      exact h x ⟨hx, by simpa using hp⟩ rfl
    · intro hp y hy he
      -- the numbers of the entries that wait are different
      have hyx : y = x := by
        by_contra hne
        have hsymm : Std.Symm fun x y : α × Nat => x.2 ≠ y.2 := ⟨fun _ _ h => h.symm⟩
        exact hwait.forall hy.1 hx hne he
      rw [hyx, hp] at hy
      exact absurd hy.2 (by decide)

theorem sound_withdraw (h : l.Sound) (p : α → Bool) : (l.withdraw p).Sound := by
  constructor
  · rw [standing_withdraw, List.length_append, List.length_take, Nat.min_eq_left h.served]
    exact Nat.le_add_right ..
  · intro i hi
    rcases List.mem_append.mp hi with hi | hi
    · exact h.withdrawn i hi
    obtain ⟨x, hx, rfl⟩ := List.mem_map.mp hi
    have hx := List.mem_of_mem_drop (List.mem_filter.mp hx).1
    exact lt_of_mem_zipIdx (List.mem_filter.mp hx).1

theorem handed_withdraw (h : l.Sound) (p : α → Bool) : (l.withdraw p).handed = l.handed := by
  unfold handed
  rw [standing_withdraw]
  congr 1
  exact List.take_left' (by rw [List.length_take, Nat.min_eq_left h.served]; rfl)

theorem queue_withdraw (h : l.Sound) (p : α → Bool) :
    (l.withdraw p).queue = l.queue.filter fun a => !p a := by
  unfold queue
  rw [List.filter_map]
  congr 1
  change (l.withdraw p).standing.drop l.served = _
  rw [standing_withdraw]
  exact List.drop_left' (by rw [List.length_take, Nat.min_eq_left h.served])

end Ledger
