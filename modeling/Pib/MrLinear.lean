-- `mr_copy_data` against a plain copy: the region as one row of bytes, of which
-- a stretch is read or overwritten. The pages are no concern of the caller.
import Pib.MrCopy

namespace pib

open Bytes

/-! ## The pointer to the user memory -/

/-- `mr->ib_umem`: `pib_reg_user_mr` is the only one that sets it. -/
def Mr.ibUmem (mr : Mr) : Option Umem :=
  if mr.is_dma ∨ mr.is_fast_reg_mr then none else some mr.umem

/-- `mr_copy_data` with the read of `ib_umem_offset` through `mr->ib_umem`, which comes
before the test for a fast-register region. There is no result if the pointer is NULL. -/
def mrCopyDataDeref (mr : Mr) (mem : Mem) (buffer : List UInt8) (offset size swap compare : Nat)
    (direction : MrDirection) : Option MrCopy :=
  if mr.state = .VALID ∧ mr.is_dma = false ∧ size ≠ 0 then
    mr.ibUmem.map fun _ => mrCopyData mr mem buffer offset size swap compare direction
  else some (mrCopyData mr mem buffer offset size swap compare direction)

/-! ## The region as one row of bytes -/

namespace Mr

/-- The places of all bytes of a region. -/
def row (mr : Mr) : List Nat := mr.places 0 mr.length

/-- The bytes of a region. -/
def content (mr : Mr) (mem : Mem) : List UInt8 := gather mem mr.row

/-- A copy reads or overwrites a stretch of the bytes and nothing else. -/
structure CopiesLinearly (mr : Mr) (offset size : Nat) : Prop where
  read : ∀ mem buffer, mrCopyDataDeref mr mem buffer offset size 0 0 .COPY_FROM =
    some ⟨mem, ((mr.content mem).drop offset).take size, true⟩
  write : ∀ mem buffer, buffer.length = size → ∃ mem',
    mrCopyDataDeref mr mem buffer offset size 0 0 .COPY_TO = some ⟨mem', [], true⟩ ∧
    mr.content mem' = (mr.content mem).take offset ++ buffer ++ (mr.content mem).drop (offset + size) ∧
    (∀ x ∉ mr.row, mem' x = mem x) ∧
    mrCopyDataDeref mr mem' [] offset size 0 0 .COPY_FROM = some ⟨mem', buffer, true⟩

/-- The pages of user memory are mapped and cover the region, which begins in the first
one. The page list of a fast-register region covers it. -/
structure Covered (mr : Mr) : Prop where
  mapped : mr.is_fast_reg_mr = false → ∀ page ∈ mr.umem.pages, page ≠ none
  first : mr.is_fast_reg_mr = false → mr.umem.offset < 2 ^ mr.umem.page_shift
  room : mr.is_fast_reg_mr = false →
    mr.umem.offset + mr.length ≤ 2 ^ mr.umem.page_shift * mr.umem.pages.length
  listed : mr.is_fast_reg_mr = true → mr.length ≤ 2 ^ mr.page_shift * mr.page_list.length

/-- No byte of the stretch has the place of another byte of the region. -/
def Unshared (mr : Mr) (offset size : Nat) : Prop :=
  ∀ i j, offset ≤ i → i < offset + size → j < mr.length → mr.row[i]? = mr.row[j]? → i = j

theorem length_pageBytes {page_size : Nat} {pages : List (Option Nat)}
    (h : ∀ page ∈ pages, page ≠ none) :
    (pageBytes page_size pages).length = page_size * pages.length := by
  induction pages with
  | nil => rfl
  | cons page pages ih =>
    obtain ⟨v, rfl⟩ := Option.ne_none_iff_exists'.mp (h page List.mem_cons_self)
    rw [pageBytes, List.length_append, List.length_range',
      ih fun p hp => h p (List.mem_cons_of_mem _ hp), List.length_cons, Nat.mul_succ, Nat.add_comm]

variable {mr : Mr} {offset size : Nat}

theorem Covered.length_places (h : mr.Covered) (hdma : mr.is_dma = false)
    (hfast : mr.is_fast_reg_mr = false) (hle : offset + size ≤ mr.length) :
    (mr.places offset size).length = size := by
  have hroom := h.room hfast
  rw [places, hdma, hfast, if_neg (by simp), if_neg (by simp), List.length_take, List.length_drop,
    length_pageBytes (h.mapped hfast)]
  omega

/-- The places of a stretch stand in the row between the others. -/
theorem Covered.row_split (h : mr.Covered) (hdma : mr.is_dma = false)
    (hfast : mr.is_fast_reg_mr = false) (hle : offset + size ≤ mr.length) :
    ∃ before after, mr.row = before ++ mr.places offset size ++ after ∧ before.length = offset ∧
      before.length + size + after.length = mr.length := by
  obtain ⟨k, hk⟩ : ∃ k, mr.length = offset + size + k := ⟨mr.length - (offset + size), by omega⟩
  refine ⟨mr.places 0 offset, mr.places (offset + size) k, ?_, ?_, ?_⟩
  · rw [row, hk, places_add, places_add, Nat.zero_add, Nat.zero_add]
  · exact h.length_places hdma hfast (by omega)
  · rw [h.length_places hdma hfast (by omega), h.length_places hdma hfast (by omega), hk]

end Mr

variable {mr : Mr} {offset size : Nat} {direction : MrDirection}

/-- Where the pointer is set, the copy is a transfer from or to the stretch. -/
theorem mrCopyDataDeref_eq (hd : direction.IsCopy) (hvalid : mr.state = .VALID)
    (hdma : mr.is_dma = false) (hfast : mr.is_fast_reg_mr = false) (hc : mr.Covered)
    (hle : offset + size ≤ mr.length) (hs : 0 < size) (mem : Mem) (buffer : List UInt8) :
    mrCopyDataDeref mr mem buffer offset size 0 0 direction =
      some ⟨(transfer direction mem buffer (mr.places offset size)).1,
        (transfer direction mem buffer (mr.places offset size)).2, true⟩ := by
  have hlen := hc.length_places hdma hfast hle
  have hplaces : mr.places offset size = ((pageBytes (2 ^ mr.umem.page_shift) mr.umem.pages).drop
      (offset + mr.umem.offset)).take size := by
    rw [Mr.places, hdma, hfast, if_neg (by simp), if_neg (by simp)]
  rw [hplaces, List.length_take, List.length_drop] at hlen
  have hcopy := @mrCopyPages_transfer _ hd (2 ^ mr.umem.page_shift) 0 0 mr.umem.pages 0
    (offset + mr.umem.offset) size mem buffer (dvd_zero _) (Nat.zero_le _) hs (by omega)
  rw [Nat.sub_zero, ← hplaces] at hcopy
  simp only [mrCopyDataDeref, mrCopyData, Mr.ibUmem, hvalid, hdma, hfast, hs.ne', hcopy, ne_eq,
    not_false_eq_true, and_self, if_true, or_self, Bool.false_eq_true, if_false, not_true_eq_false,
    Option.map_some]

theorem copiesLinearly_zero (hvalid : mr.state = .VALID) (hdma : mr.is_dma = false) (offset : Nat) :
    mr.CopiesLinearly offset 0 := by
  have h : ∀ mem buffer direction, mrCopyDataDeref mr mem buffer offset 0 0 0 direction =
      some ⟨mem, [], true⟩ := by
    intro mem buffer direction
    simp [mrCopyDataDeref, mrCopyData, hvalid, hdma]
  refine ⟨fun mem buffer => by rw [h, List.take_zero], fun mem buffer hb => ⟨mem, h _ _ _, ?_⟩⟩
  rw [List.eq_nil_of_length_eq_zero hb, h]
  simp

/-- Bytes at places of their own are overwritten one by one. -/
theorem copiesLinearly_of_unshared (hvalid : mr.state = .VALID) (hdma : mr.is_dma = false)
    (hfast : mr.is_fast_reg_mr = false) (hc : mr.Covered) (hle : offset + size ≤ mr.length)
    (hs : 0 < size) (hu : mr.Unshared offset size) : mr.CopiesLinearly offset size := by
  have hcopy := fun (d : MrDirection) (hd : d.IsCopy) => mrCopyDataDeref_eq hd hvalid hdma hfast hc hle hs
  have hlen := hc.length_places hdma hfast hle
  obtain ⟨before, after, hrow, rfl, hall⟩ := hc.row_split hdma hfast hle
  generalize hl : mr.places before.length size = ls at hrow hlen hcopy
  have hcontent : ∀ mem, mr.content mem = gather mem before ++ (gather mem ls ++ gather mem after) := by
    intro mem
    rw [Mr.content, hrow, gather_append, gather_append, List.append_assoc]
  -- the places of the stretch are distinct, and none of them stands before or after it
  have hget : ∀ i, i < size → ls[i]? = mr.row[before.length + i]? := by
    intro i hi
    rw [hrow, List.append_assoc, List.getElem?_append_right (Nat.le_add_right _ _),
      Nat.add_sub_cancel_left, List.getElem?_append_left (by omega)]
  have hnd : ls.Nodup := by
    rw [List.nodup_iff_getElem?_ne_getElem?]
    intro i j hij hj he
    rw [hget i (by omega), hget j (by omega)] at he
    have := hu _ _ (Nat.le_add_right _ i) (by omega) (by omega) he
    omega
  have hout : ∀ x ∈ before ++ after, x ∉ ls := by
    intro x hx hmem
    obtain ⟨i, hi, rfl⟩ := List.mem_iff_getElem.mp hmem
    have hi' := (List.getElem?_eq_getElem hi).symm.trans (hget i (by omega))
    rcases List.mem_append.mp hx with hx | hx
    · obtain ⟨j, hj, he⟩ := List.mem_iff_getElem.mp hx
      have hj' : mr.row[j]? = some ls[i] := by
        rw [hrow, List.append_assoc, List.getElem?_append_left hj, List.getElem?_eq_getElem hj, he]
      have := hu _ _ (Nat.le_add_right _ i) (by omega) (by omega) (hi'.symm.trans hj'.symm)
      omega
    obtain ⟨j, hj, he⟩ := List.mem_iff_getElem.mp hx
    have hj' : mr.row[before.length + size + j]? = some ls[i] := by
      rw [hrow, List.getElem?_append_right (by simp [hlen]), List.length_append, hlen,
        Nat.add_sub_cancel_left, List.getElem?_eq_getElem hj, he]
    have := hu _ _ (Nat.le_add_right _ i) (by omega) (by omega) (hi'.symm.trans hj'.symm)
    omega
  refine ⟨fun mem buffer => ?_, fun mem buffer hb => ⟨scatter mem ls buffer, ?_, ?_, ?_, ?_⟩⟩
  · rw [hcopy _ (Or.inl rfl), hcontent, List.drop_left' (length_gather _ _),
      List.take_left' ((length_gather _ _).trans hlen)]
    rfl
  · exact hcopy _ (Or.inr rfl) _ _
  · have hrest : ∀ l : List Nat, (∀ x ∈ l, x ∉ ls) → gather (scatter mem ls buffer) l = gather mem l :=
      fun l h => List.map_congr_left fun x hx => scatter_outside (h x hx) buffer
    rw [hcontent, hcontent, gather_scatter hnd mem (hb.trans hlen.symm),
      hrest before fun x hx => hout x (List.mem_append_left _ hx),
      hrest after fun x hx => hout x (List.mem_append_right _ hx),
      List.take_left' (length_gather _ _), ← List.append_assoc (gather mem before) (gather mem ls),
      List.drop_left' (by simp [hlen]), List.append_assoc]
  · intro x hx
    refine scatter_outside (fun h => hx ?_) buffer
    rw [hrow]
    simp [h]
  · rw [hcopy _ (Or.inl rfl)]
    simp only [transfer, gather_scatter hnd mem (hb.trans hlen.symm)]

/-- A copy shows which bytes share a place. -/
theorem unshared_of_copiesLinearly (hc : mr.Covered) (hdma : mr.is_dma = false)
    (hfast : mr.is_fast_reg_mr = false) (hle : offset + size ≤ mr.length)
    (h : mr.CopiesLinearly offset size) : mr.Unshared offset size := by
  intro i j hi hi' hj he
  by_contra hne
  -- a single byte is set, in a memory of zeros
  obtain ⟨mem', -, hrow, -, -⟩ := h.write (fun _ => 0)
    ((List.range size).map fun k => if k = i - offset then 1 else 0) (by simp)
  have hlen : mr.row.length = mr.length := hc.length_places hdma hfast (by omega)
  have hget : ∀ k : Nat, (mr.content mem')[k]? = (mr.row[k]?).map mem' := by simp [Mr.content, gather]
  have hsame : (mr.content mem')[i]? = (mr.content mem')[j]? := by rw [hget, hget, he]
  have hzero : mr.content (fun _ => 0) = List.replicate mr.length 0 := by
    simp [Mr.content, gather, hlen]
  rw [hrow, hzero] at hsame
  simp only [List.append_assoc, List.getElem?_append, List.length_take, List.length_replicate,
    List.length_map, List.length_range, List.getElem?_map, List.getElem?_take,
    List.getElem?_drop, List.getElem?_replicate] at hsame
  grind

/-- Two pages of user memory, of which the region begins in the middle of the first. -/
def twoPages : Mr :=
  { mr_num := 1, lkey := 0, rkey := 0, state := .VALID, start := 4, length := 8, access_flags := 0
    umem := { page_shift := 3, offset := 4, pages := [some 64, some 16] } }

/-- The same pages in a fast-register region, from the start of the first on. -/
def fastPages : Mr :=
  { twoPages with
    is_fast_reg_mr := true, page_shift := 3, page_list := [64, 16]
    umem := { page_shift := 0, offset := 0, pages := [] } }

end pib
