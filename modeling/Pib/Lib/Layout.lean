-- Memory that holds a string of bytes at an address, and what becomes of the
-- string when other bytes are written.
import Pib.Lib.Bytes

namespace Bytes

/-- The memory has these bytes from this address on. -/
def Holds (m : Mem) (a : Nat) (bs : List UInt8) : Prop := read m a bs.length = bs

variable {m : Mem} {a : Nat} {bs cs : List UInt8}

@[simp] theorem holds_nil (m : Mem) (a : Nat) : Holds m a [] := rfl

theorem holds_write (m : Mem) (a : Nat) (bs : List UInt8) : Holds (write m a bs) a bs :=
  read_write_same m a bs

theorem holds_append : Holds m a (bs ++ cs) ↔ Holds m a bs ∧ Holds m (a + bs.length) cs := by
  unfold Holds
  rw [List.length_append, read_add]
  constructor
  · intro h
    exact List.append_inj h (by simp)
  · rintro ⟨h1, h2⟩
    rw [h1, h2]

theorem Holds.byte (h : Holds m a bs) {i : Nat} (hi : i < bs.length) : m (a + i) = bs[i] := by
  have hget : (read m a bs.length)[i]? = some (m (a + i)) := by
    rw [getElem?_read, if_pos hi]
  rw [h, List.getElem?_eq_getElem hi] at hget
  exact (Option.some.inj hget).symm

/-- A write elsewhere leaves the string alone. -/
theorem Holds.frame (h : Holds m a bs) (b : Nat) (cs : List UInt8)
    (hd : a + bs.length ≤ b ∨ b + cs.length ≤ a) : Holds (write m b cs) a bs := by
  unfold Holds at h ⊢
  apply List.ext_getElem?
  intro i
  rw [← h, getElem?_read, getElem?_read, length_read]
  split
  · rw [write_outside]
    omega
  · rfl

/-- A write behind the string makes it longer. -/
theorem Holds.append (h : Holds m a bs) (cs : List UInt8) :
    Holds (write m (a + bs.length) cs) a (bs ++ cs) :=
  holds_append.mpr ⟨h.frame _ _ (Or.inl (le_refl _)), holds_write _ _ _⟩

/-- A write into the string replaces a part of it. -/
theorem Holds.put (A O B : List UInt8) (h : Holds m a (A ++ O ++ B)) (bs : List UInt8)
    (hlen : bs.length = O.length) : Holds (write m (a + A.length) bs) a (A ++ bs ++ B) := by
  obtain ⟨hAO, hB⟩ := holds_append.mp h
  obtain ⟨hA, -⟩ := holds_append.mp hAO
  refine holds_append.mpr ⟨hA.append bs, ?_⟩
  rw [List.length_append] at hB ⊢
  rw [hlen]
  exact hB.frame _ _ (Or.inr (by omega))

end Bytes
