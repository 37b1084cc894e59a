-- Byte strings: numbers in big- and little-endian order, and a flat memory
-- that is read and written in runs of bytes.
import Mathlib.Data.List.GetD
import Mathlib.Tactic

namespace Bytes

variable (n : Nat) (m : Mem)

/-! ## Numbers as bytes -/

/-- The low `n` bytes of a number, the lowest first. -/
def le : Nat → Nat → List UInt8
  | 0, _ => []
  | n + 1, x => UInt8.ofNat x :: le n (x / 256)

/-- The number whose bytes these are, the lowest first. -/
def ofLe : List UInt8 → Nat
  | [] => 0
  | b :: l => b.toNat + 256 * ofLe l

/-- The low `n` bytes of a number, the highest first. -/
def be (n x : Nat) : List UInt8 := (le n x).reverse

def ofBe (l : List UInt8) : Nat := ofLe l.reverse

@[simp] theorem length_le (x : Nat) : (le n x).length = n := by
  induction n generalizing x with
  | zero => rfl
  | succ n ih => simp [le, ih]

@[simp] theorem length_be (x : Nat) : (be n x).length = n := by simp [be]

theorem ofLe_le (x : Nat) : ofLe (le n x) = x % 256 ^ n := by
  induction n generalizing x with
  | zero => simp [le, ofLe, Nat.mod_one]
  | succ n ih =>
    have hb : (UInt8.ofNat x).toNat = x % 256 := by simp
    rw [le, ofLe, ih, hb, Nat.pow_succ', Nat.mod_mul]

theorem ofBe_be (x : Nat) : ofBe (be n x) = x % 256 ^ n := by
  simp [ofBe, be, ofLe_le]

theorem ofBe_be_of_lt {n x : Nat} (h : x < 256 ^ n) : ofBe (be n x) = x := by
  rw [ofBe_be, Nat.mod_eq_of_lt h]

theorem le_ofLe (l : List UInt8) : le l.length (ofLe l) = l := by
  induction l with
  | nil => rfl
  | cons b l ih =>
    have hb := b.toNat_lt
    have h0 : UInt8.ofNat (b.toNat + 256 * ofLe l) = b := by
      apply UInt8.toNat_inj.1
      rw [UInt8.toNat_ofNat']
      omega
    rw [ofLe, List.length_cons, le, h0, show (b.toNat + 256 * ofLe l) / 256 = ofLe l by omega, ih]

theorem be_ofBe {l : List UInt8} {n : Nat} (h : l.length = n) : be n (ofBe l) = l := by
  rw [be, ofBe, ← h, ← List.length_reverse, le_ofLe, List.reverse_reverse]

theorem ofLe_lt (l : List UInt8) : ofLe l < 256 ^ l.length := by
  induction l with
  | nil => simp [ofLe]
  | cons b l ih =>
    have hb := b.toNat_lt
    simp only [ofLe, List.length_cons, Nat.pow_succ]
    omega

theorem ofBe_lt (l : List UInt8) : ofBe l < 256 ^ l.length := by
  simpa [ofBe] using ofLe_lt l.reverse

/-! ## Memory -/

/-- A flat memory. -/
abbrev Mem := Nat → UInt8

/-- The `n` bytes from address `a` on. -/
def read (m : Mem) (a n : Nat) : List UInt8 := (List.range n).map fun i => m (a + i)

/-- The memory with the bytes `bs` stored from address `a` on. -/
def write (m : Mem) (a : Nat) (bs : List UInt8) : Mem := fun x =>
  if a ≤ x ∧ x < a + bs.length then bs.getD (x - a) 0 else m x

@[simp] theorem length_read (a n : Nat) : (read m a n).length = n := by simp [read]

@[simp] theorem read_zero (a : Nat) : read m a 0 = [] := rfl

@[simp] theorem write_nil (a : Nat) : write m a [] = m := by
  funext x
  simp [write]

theorem getElem?_read (a n i : Nat) :
    (read m a n)[i]? = if i < n then some (m (a + i)) else none := by
  simp only [read, List.getElem?_map]
  split
  · rename_i h
    simp [List.getElem?_range h]
  · rename_i h
    simp [Nat.le_of_not_lt h]

theorem read_add (a n k : Nat) : read m a (n + k) = read m a n ++ read m (a + n) k := by
  apply List.ext_getElem?
  intro i
  rw [List.getElem?_append]
  simp only [getElem?_read, length_read]
  by_cases h : i < n
  · simp [h, Nat.lt_add_right]
  simp only [h, if_false]
  have e : a + n + (i - n) = a + i := by omega
  rw [e]
  by_cases h2 : i < n + k
  · rw [if_pos h2, if_pos (by omega)]
  · rw [if_neg h2, if_neg (by omega)]

theorem write_outside {m : Mem} {a x : Nat} {bs : List UInt8} (h : x < a ∨ a + bs.length ≤ x) :
    write m a bs x = m x := by
  unfold write
  rw [if_neg (by omega)]

theorem write_inside {m : Mem} {a i : Nat} {bs : List UInt8} (h : i < bs.length) :
    write m a bs (a + i) = bs[i] := by
  unfold write
  rw [if_pos (by omega), Nat.add_sub_cancel_left, List.getD_eq_getElem _ _ h]

theorem read_write_same (a : Nat) (bs : List UInt8) :
    read (write m a bs) a bs.length = bs := by
  apply List.ext_getElem?
  intro i
  rw [getElem?_read]
  split
  · rename_i h
    rw [write_inside h, List.getElem?_eq_getElem h]
  · rename_i h
    rw [List.getElem?_eq_none (by omega)]

theorem write_append (a : Nat) (bs cs : List UInt8) :
    write m a (bs ++ cs) = write (write m a bs) (a + bs.length) cs := by
  funext x
  unfold write
  simp only [List.length_append]
  by_cases h1 : a ≤ x ∧ x < a + bs.length
  · rw [if_pos (by omega), if_neg (by omega), if_pos h1, List.getD_append _ _ _ _ (by omega)]
  by_cases h2 : a + bs.length ≤ x ∧ x < a + bs.length + cs.length
  · rw [if_pos (by omega), if_pos h2, List.getD_append_right _ _ _ _ (by omega), Nat.sub_sub]
  · rw [if_neg (by omega), if_neg h2, if_neg h1]

end Bytes
