-- Bytes at scattered places of a memory: a list of addresses is read or
-- written in its order, and runs of addresses and pages are such lists.
import Pib.Lib.Bytes

namespace Bytes

variable (m : Mem) {ls : List Nat}

/-- The bytes at these places. -/
def gather (m : Mem) (ls : List Nat) : List UInt8 := ls.map m

/-- The memory with these bytes stored at these places, in order. What one of
the lists has more than the other is left out. -/
def scatter (m : Mem) : List Nat → List UInt8 → Mem
  | a :: ls, b :: bs => scatter (Function.update m a b) ls bs
  | _, _ => m

@[simp] theorem length_gather (ls : List Nat) : (gather m ls).length = ls.length := by
  simp [gather]

@[simp] theorem gather_append (ls ls' : List Nat) :
    gather m (ls ++ ls') = gather m ls ++ gather m ls' := by
  simp [gather]

@[simp] theorem scatter_nil_left (bs : List UInt8) : scatter m [] bs = m := rfl

@[simp] theorem scatter_nil_right (ls : List Nat) : scatter m ls [] = m := by
  cases ls <;> rfl

theorem scatter_append (ls ls' : List Nat) (bs : List UInt8) :
    scatter m (ls ++ ls') bs = scatter (scatter m ls bs) ls' (bs.drop ls.length) := by
  induction ls generalizing m bs with
  | nil => simp
  | cons a ls ih =>
    cases bs with
    | nil => simp
    | cons b bs => exact ih (Function.update m a b) bs

/-- Bytes beyond the places do not count. -/
theorem scatter_take {n : Nat} (h : ls.length ≤ n) (bs : List UInt8) :
    scatter m ls (bs.take n) = scatter m ls bs := by
  induction ls generalizing m n bs with
  | nil => rfl
  | cons a ls ih =>
    obtain ⟨n, rfl⟩ : ∃ k, n = k + 1 := ⟨n - 1, by simp at h; omega⟩
    cases bs with
    | nil => rfl
    | cons b bs => exact ih (Function.update m a b) (by simpa using h) bs

theorem scatter_outside {m : Mem} {x : Nat} (h : x ∉ ls) (bs : List UInt8) :
    scatter m ls bs x = m x := by
  induction ls generalizing m bs with
  | nil => rfl
  | cons a ls ih =>
    cases bs with
    | nil => rfl
    | cons b bs =>
      obtain ⟨ha, hls⟩ := not_or.mp (List.mem_cons.not.mp h)
      rw [scatter, ih hls, Function.update_of_ne ha]

/-- What is stored at distinct places is found there. -/
theorem gather_scatter (hnd : ls.Nodup) (m : Mem) {bs : List UInt8}
    (hlen : bs.length = ls.length) : gather (scatter m ls bs) ls = bs := by
  induction ls generalizing m bs with
  | nil => exact (List.eq_nil_of_length_eq_zero hlen).symm
  | cons a ls ih =>
    cases bs with
    | nil => cases hlen
    | cons b bs =>
      obtain ⟨ha, hls⟩ := List.nodup_cons.mp hnd
      have htail := ih hls (Function.update m a b) (Nat.succ.inj hlen)
      simp only [gather, List.map_cons] at htail ⊢
      rw [scatter, htail, scatter_outside ha, Function.update_self]

/-! ## Runs of addresses -/

theorem read_eq_gather (a n : Nat) : read m a n = gather m (List.range' a n) := by
  simp only [read, gather, List.range'_eq_map_range, List.map_map]
  rfl

theorem write_eq_scatter (a n : Nat) (bs : List UInt8) :
    write m a (bs.take n) = scatter m (List.range' a n) bs := by
  induction n generalizing m a bs with
  | zero => simp
  | succ n ih =>
    cases bs with
    | nil => simp
    | cons b bs =>
      have hone : write m a [b] = Function.update m a b := by
        funext x
        by_cases hx : x = a
        · simp [write, hx]
        rw [Function.update_of_ne hx, write_outside]
        simp only [List.length_singleton]
        omega
      have happ := write_append m a [b] (bs.take n)
      rw [List.take_succ_cons, ← List.singleton_append, happ, hone, List.range'_succ]
      exact ih _ _ _

theorem take_range' (a m n : Nat) : (List.range' a m).take n = List.range' a (min m n) := by
  apply List.ext_getElem?
  intro i
  rw [List.getElem?_take]
  grind

/-! ## Pages -/

/-- The places of a list of pages, up to the first one that is missing. -/
def pageBytes (page_size : Nat) : List (Option Nat) → List Nat
  | some v :: pages => List.range' v page_size ++ pageBytes page_size pages
  | _ => []

/-- A stretch that begins beyond the first page. -/
theorem drop_pageBytes {page_size v d : Nat} {pages : List (Option Nat)} (h : page_size ≤ d) :
    (pageBytes page_size (some v :: pages)).drop d = (pageBytes page_size pages).drop (d - page_size) := by
  rw [pageBytes, List.drop_append, List.drop_eq_nil_of_le (by simpa using h), List.nil_append,
    List.length_range']

/-- A stretch that begins in the first page: the rest of it, and what follows. -/
theorem stretch_pageBytes {page_size v d n : Nat} {pages : List (Option Nat)} (h : d ≤ page_size) :
    ((pageBytes page_size (some v :: pages)).drop d).take n =
      List.range' (v + d) (min (page_size - d) n) ++
        (pageBytes page_size pages).take (n - (page_size - d)) := by
  have hd : (List.range' v page_size).drop d = List.range' (v + d) (page_size - d) := by
    simp [List.drop_range']
  rw [pageBytes, List.drop_append_of_le_length (by simpa using h), hd, List.take_append,
    List.length_range', take_range']

end Bytes
