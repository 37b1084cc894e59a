-- What the copies of `pib_mr.c` do, in terms of places: a region is a list of
-- places, a scatter/gather list is the places of its elements one after the
-- other, and a copy transfers bytes from or to a stretch of such a list.
import Pib.Lib.Places
import Pib.Mr

namespace pib

open Bytes

variable {mr : Mr} {size offset : Nat} {ls : List Nat} {pd : Pd}

/-! ## Transfers -/

/-- Bytes are moved from these places to the buffer, or to these places from
the buffer. -/
def transfer (direction : MrDirection) (mem : Mem) (buffer : List UInt8) (ls : List Nat) :
    Mem × List UInt8 :=
  match direction with
  | .COPY_FROM => (mem, gather mem ls)
  | .COPY_TO => (scatter mem ls buffer, [])
  | _ => (mem, [])

/-- The direction is one of the two copies. -/
def MrDirection.IsCopy (direction : MrDirection) : Prop :=
  direction = .COPY_FROM ∨ direction = .COPY_TO

variable {direction : MrDirection}

theorem transfer_append (mem : Mem) (buffer : List UInt8) (ls ls' : List Nat) :
    transfer direction mem buffer (ls ++ ls') =
      ((transfer direction (transfer direction mem buffer ls).1 (buffer.drop ls.length) ls').1,
        (transfer direction mem buffer ls).2 ++
          (transfer direction (transfer direction mem buffer ls).1 (buffer.drop ls.length) ls').2) := by
  cases direction <;> simp [transfer, scatter_append]

theorem mrCopyDataSub_transfer (hd : direction.IsCopy) (mem : Mem) (buffer : List UInt8)
    (target_vaddr range swap compare : Nat) :
    mrCopyDataSub mem buffer target_vaddr range swap compare direction =
      ((transfer direction mem buffer (List.range' target_vaddr range)).1,
        (transfer direction mem buffer (List.range' target_vaddr range)).2, false) := by
  rcases hd with rfl | rfl
  · simp [mrCopyDataSub, transfer, read_eq_gather]
  · simp [mrCopyDataSub, transfer, write_eq_scatter]

/-! ## Regions -/

/-- A stretch of the pages that is there is copied as a whole. -/
theorem mrCopyPages_transfer (hd : direction.IsCopy) {page_size : Nat} (swap compare : Nat)
    (pages : List (Option Nat)) : ∀ (addr offset size : Nat) (mem : Mem) (buffer : List UInt8), page_size ∣ addr → addr ≤ offset →
    0 < size → offset - addr + size ≤ (pageBytes page_size pages).length →
    mrCopyPages page_size swap compare direction pages addr offset size mem buffer =
      ⟨(transfer direction mem buffer (((pageBytes page_size pages).drop (offset - addr)).take size)).1,
        (transfer direction mem buffer (((pageBytes page_size pages).drop (offset - addr)).take size)).2,
        true⟩ := by
  induction pages with
  | nil =>
    intro addr offset size mem buffer _ _ hs hlen
    simp only [pageBytes, List.length_nil] at hlen
    omega
  | cons page pages ih =>
    intro addr offset size mem buffer hdvd hle hs hlen
    cases page with
    | none =>
      simp only [pageBytes, List.length_nil] at hlen
      omega
    | some vaddr =>
      have hrest : (pageBytes page_size (some vaddr :: pages)).length =
          page_size + (pageBytes page_size pages).length := by
        simp [pageBytes]
      have hdvd' : page_size ∣ addr + page_size := (Nat.dvd_add_right hdvd).mpr (dvd_refl _)
      unfold mrCopyPages
      by_cases hin : offset < addr + page_size
      · -- the stretch begins in this page
        have hmod : offset % page_size = offset - addr := by
          obtain ⟨k, rfl⟩ := hdvd
          have he : offset = (offset - page_size * k) + page_size * k := by omega
          rw [he, Nat.add_mul_mod_self_left, Nat.mod_eq_of_lt (by omega)]
          omega
        have hd' : page_size - (offset - addr) = addr + page_size - offset := by omega
        rw [if_pos ⟨hle, hin⟩, stretch_pageBytes (by omega), hd', hmod]
        dsimp only
        rw [mrCopyDataSub_transfer hd]
        dsimp only
        by_cases hall : size ≤ addr + page_size - offset
        · rw [if_pos (by omega), Nat.sub_eq_zero_of_le hall, List.take_zero, List.append_nil]
        have hmin : min (addr + page_size - offset) size = addr + page_size - offset := by omega
        have hoff : offset + (addr + page_size - offset) = addr + page_size := by omega
        rw [if_neg (by omega), hmin, hoff, transfer_append,
          ih (addr + page_size) (addr + page_size) _ _ _ hdvd' (le_refl _) (by omega) (by omega)]
        simp
      · rw [if_neg (by omega), if_neg (by omega), drop_pageBytes (by omega),
          ih (addr + page_size) offset size mem buffer hdvd' (by omega) hs (by omega)]
        have he : offset - (addr + page_size) = offset - addr - page_size := by omega
        rw [he]

namespace Mr

/-- The places of `n` bytes of a region, from this offset on. A DMA region is
all of memory. -/
def places (mr : Mr) (offset n : Nat) : List Nat :=
  if mr.is_dma then List.range' offset n
  else if mr.is_fast_reg_mr then
    ((pageBytes (2 ^ mr.page_shift) (mr.page_list.map some)).drop (offset + mr.umem.offset)).take n
  else
    ((pageBytes (2 ^ mr.umem.page_shift) mr.umem.pages).drop (offset + mr.umem.offset)).take n

theorem places_add (mr : Mr) (offset n k : Nat) :
    mr.places offset (n + k) = mr.places offset n ++ mr.places (offset + n) k := by
  have h : ∀ l : List Nat, (l.drop (offset + mr.umem.offset)).take (n + k) =
      (l.drop (offset + mr.umem.offset)).take n ++
        (l.drop (offset + n + mr.umem.offset)).take k := by
    intro l
    rw [List.take_add, List.drop_drop]
    have he : offset + mr.umem.offset + n = offset + n + mr.umem.offset := by omega
    rw [he]
  unfold places
  split
  · rw [← List.range'_append_1]
  · split <;> exact h _

/-- What the verbs layer promises of a region that it has pinned: every byte
has a place, and the region does not reach the end of the address space. -/
structure Backed (mr : Mr) : Prop where
  places : ∀ {offset n}, offset + n ≤ mr.length → (mr.places offset n).length = n
  bound : mr.start + mr.length < 2 ^ 64

/-- A stretch of a stretch of a region. -/
theorem Backed.stretch (h : mr.Backed) {n k j : Nat} (hn : offset + n ≤ mr.length)
    (hk : k + j ≤ n) : ((mr.places offset n).drop k).take j = mr.places (offset + k) j := by
  have hlen : (mr.places offset k).length = k := h.places (by omega)
  have hlen' : (mr.places (offset + k) j).length = j := h.places (by omega)
  obtain ⟨i, rfl⟩ : ∃ i, n = k + (j + i) := ⟨n - k - j, by omega⟩
  rw [places_add, places_add, List.drop_append_of_le_length (by omega),
    List.drop_eq_nil_of_le (by omega), List.nil_append, List.take_append_of_le_length (by omega),
    List.take_of_length_le (by omega)]

/-- A region that lies in one page. -/
theorem backed_of_page {v : Nat} (hdma : mr.is_dma = false) (hfast : mr.is_fast_reg_mr = false)
    (hpage : mr.umem.pages = [some v]) (hroom : mr.umem.offset + mr.length ≤ 2 ^ mr.umem.page_shift)
    (hbound : mr.start + mr.length < 2 ^ 64) : mr.Backed := by
  refine ⟨fun {offset n} h => ?_, hbound⟩
  simp only [places, hdma, hfast, hpage, pageBytes, Bool.false_eq_true, if_false, List.length_take,
    List.length_drop, List.length_append, List.length_range', List.length_nil]
  omega

end Mr

/-- A copy that has put in all its bytes leaves nothing of the buffer. -/
theorem filled_transfer (hd : direction.IsCopy) {mem : Mem} {buffer : List UInt8} (hlen : ls.length = size) (m : Mem) (ok : Bool) :
    MrCopy.filled ⟨m, (transfer direction mem buffer ls).2, ok⟩ direction size buffer =
      (transfer direction mem buffer ls).2 := by
  rcases hd with rfl | rfl
  · simp [MrCopy.filled, putInto, transfer, hlen]
  · rfl

theorem mrCopyData_transfer (hd : direction.IsCopy) (hb : mr.Backed)
    (hvalid : mr.state = .VALID) (mem : Mem) (buffer : List UInt8)
    (hs : 0 < size) (hle : offset + size ≤ mr.length) (swap compare : Nat) :
    mrCopyData mr mem buffer offset size swap compare direction =
      ⟨(transfer direction mem buffer (mr.places offset size)).1,
        (transfer direction mem buffer (mr.places offset size)).2, true⟩ := by
  have hpages : ∀ (page_shift : Nat) (pages : List (Option Nat)),
      mr.places offset size =
        ((pageBytes (2 ^ page_shift) pages).drop (offset + mr.umem.offset)).take size →
      mrCopyPages (2 ^ page_shift) swap compare direction pages 0 (offset + mr.umem.offset) size mem
          buffer =
        ⟨(transfer direction mem buffer (mr.places offset size)).1,
          (transfer direction mem buffer (mr.places offset size)).2, true⟩ := by
    intro page_shift pages he
    have hlen := hb.places hle
    rw [he, List.length_take, List.length_drop] at hlen
    rw [he]
    exact mrCopyPages_transfer hd swap compare pages 0 _ size mem buffer
      (dvd_zero _) (Nat.zero_le _) hs (by omega)
  unfold mrCopyData
  rw [if_neg (by simp [hvalid])]
  by_cases hdma : mr.is_dma = true
  · rw [if_pos hdma, mrCopyDataSub_transfer hd]
    simp [Mr.places, hdma]
  rw [if_neg hdma, if_neg (by omega)]
  by_cases hfast : mr.is_fast_reg_mr = true
  · rw [if_pos hfast]
    exact hpages _ _ (by rw [Mr.places, if_neg hdma, if_pos hfast])
  · rw [if_neg hfast]
    exact hpages _ _ (by rw [Mr.places, if_neg hdma, if_neg hfast])

/-- The range test lets exactly the ranges through that lie in the region, but
for the empty ones at its two ends. -/
theorem outsideMr_eq (hb : mr.Backed) {address : Nat} (hlo : mr.start ≤ address)
    (hhi : address + size ≤ mr.start + mr.length) :
    outsideMr mr address size = false ↔
      size ≠ 0 ∨ (mr.start < address ∧ address < mr.start + mr.length) := by
  have hbound := hb.bound
  have h1 : u64 (mr.start + mr.length) = mr.start + mr.length := Nat.mod_eq_of_lt hbound
  have h2 : u64 (address + size) = address + size := Nat.mod_eq_of_lt (by omega)
  unfold outsideMr
  rw [h1, h2]
  simp only [Bool.or_eq_false_iff, decide_eq_false_iff_not]
  omega

/-! ## Scatter/gather lists -/

/-- Every element of the list lies in a region that grants the access, and
`ls` are the places of its bytes. -/
inductive SgesAt (pd : Pd) (access_flags : Nat) : List Sge → List Nat → Prop
  | nil : SgesAt pd access_flags [] []
  | cons {sge : Sge} {sges : List Sge} {ls : List Nat} (mr : Mr)
      (hmr : pd.mr_table (mrIndex sge.lkey) = some mr) (hvalid : mr.state = .VALID)
      (hkey : sge.lkey = mr.lkey) (hacc : hasAccess mr access_flags = true) (hb : mr.Backed)
      (hlo : mr.start ≤ sge.addr) (hhi : sge.addr + sge.length ≤ mr.start + mr.length)
      (h : SgesAt pd access_flags sges ls) :
      SgesAt pd access_flags (sge :: sges) (mr.places (sge.addr - mr.start) sge.length ++ ls)

/-- A stretch of a list is copied as a whole. -/
theorem copySges_transfer (hd : direction.IsCopy) {access_flags : Nat} {sges : List Sge} (h : SgesAt pd access_flags sges ls) :
    ∀ (offset size : Nat) (mem : Mem) (buffer : List UInt8), 0 < size → offset + size ≤ ls.length →
    copySges pd access_flags direction sges offset size mem buffer =
      (.SUCCESS, transfer direction mem buffer ((ls.drop offset).take size)) := by
  induction h with
  | nil =>
    intro offset size mem buffer hs hlen
    simp only [List.length_nil] at hlen
    omega
  | @cons sge sges ls mr hmr hvalid hkey hacc hb hlo hhi _ ih =>
    intro offset size mem buffer hs hlen
    have hroom : sge.addr - mr.start + sge.length ≤ mr.length := by omega
    have hA := hb.places hroom
    rw [List.length_append, hA] at hlen
    have hoff : (if 0 < offset then if sge.length < offset then offset - sge.length else 0
        else offset) = offset - sge.length := by
      split
      · split <;> omega
      · omega
    unfold copySges
    simp only [hmr, hoff]
    rw [if_neg (by simp [hvalid, hkey, hacc])]
    by_cases hin : offset < sge.length
    · -- the stretch begins in this element
      have hrange : offset < min sge.length (offset + size) := by omega
      have hout : outsideMr mr sge.addr (min sge.length (offset + size)) = false :=
        (outsideMr_eq hb hlo (by omega)).mpr (Or.inl (by omega))
      have hchunk : min sge.length (offset + size) - offset = min (sge.length - offset) size := by
        omega
      rw [hout, if_neg (by simp), if_pos hrange, hchunk,
        mrCopyData_transfer hd hb hvalid mem buffer (by omega) (by omega)]
      dsimp only
      rw [filled_transfer hd (hb.places (by omega))]
      have hst := hb.stretch (k := offset) (j := min (sge.length - offset) size) hroom (by omega)
      rw [← hst]
      by_cases hall : size ≤ sge.length - offset
      · rw [if_pos (by omega), Nat.min_eq_right hall, List.drop_append_of_le_length (by omega),
          List.take_append_of_le_length (by simp [hA, hall])]
      have hmin : min (sge.length - offset) size = sge.length - offset := by omega
      have hwhole : ((mr.places (sge.addr - mr.start) sge.length).drop offset).take
          (sge.length - offset) = (mr.places (sge.addr - mr.start) sge.length).drop offset :=
        List.take_of_length_le (by simp [hA])
      have hlenD : ((mr.places (sge.addr - mr.start) sge.length).drop offset).length =
          sge.length - offset := by simp [hA]
      have hsplit : ((mr.places (sge.addr - mr.start) sge.length ++ ls).drop offset).take size =
          (mr.places (sge.addr - mr.start) sge.length).drop offset ++
            (ls.drop 0).take (size - (sge.length - offset)) := by
        rw [List.drop_append_of_le_length (by omega), List.take_append,
          List.take_of_length_le (by omega), hlenD]
        rfl
      rw [if_neg (by omega), hmin, hwhole, Nat.sub_eq_zero_of_le hin.le,
        ih 0 _ _ _ (by omega) (by omega), hsplit, transfer_append, hlenD]
    · have hrange : ¬offset < min sge.length (offset + size) := by omega
      have hskip : ((mr.places (sge.addr - mr.start) sge.length ++ ls).drop offset) =
          ls.drop (offset - sge.length) := by
        rw [List.drop_append, List.drop_eq_nil_of_le (by omega), List.nil_append, hA]
      rw [hskip, if_neg hrange, if_neg hs.ne', ih _ _ _ _ hs (by omega)]
      split <;> rfl

theorem pibUtilMrCopyData_transfer (hd : direction.IsCopy) {access_flags : Nat} {sges : List Sge}
    (h : SgesAt pd access_flags sges ls) (mem : Mem) (buffer : List UInt8) (hs : 0 < size)
    (hmax : size ≤ PIB_MAX_PAYLOAD_LEN) (hlen : offset + size ≤ ls.length) :
    pibUtilMrCopyData pd sges mem buffer offset size access_flags direction =
      (.SUCCESS, transfer direction mem buffer ((ls.drop offset).take size)) := by
  unfold pibUtilMrCopyData
  rw [if_neg (by omega), copySges_transfer hd h offset size mem buffer hs hlen]

/-! ## Remote keys -/

/-- The key names the region. -/
structure RkeyNames (pd : Pd) (rkey : Nat) (mr : Mr) : Prop where
  table : pd.mr_table (mrIndex rkey) = some mr
  valid : mr.state = .VALID
  key : rkey = mr.rkey
  backed : mr.Backed

/-- The ranges of a region that a copy through its rkey reaches: none without
the rights, none of a DMA region, and no empty one at either end. -/
def Mr.Admits (mr : Mr) (access_flags address size : Nat) : Prop :=
  hasAccess mr access_flags = true ∧ mr.is_dma = false ∧
    (size ≠ 0 ∨ (mr.start < address ∧ address < mr.start + mr.length))

instance (mr : Mr) (access_flags address size : Nat) : Decidable (mr.Admits access_flags address size) := by
  unfold Mr.Admits
  infer_instance

/-- A range of the region is copied if the region admits it, and refused if it
does not. -/
theorem copyDataWithRkey_eq (hd : direction.IsCopy) {rkey : Nat}
    (h : RkeyNames pd rkey mr) (access_flags : Nat) (mem : Mem) (buffer : List UInt8) {address : Nat}
    (hmax : size ≤ PIB_MAX_PAYLOAD_LEN) (hlo : mr.start ≤ address)
    (hhi : address + size ≤ mr.start + mr.length) :
    pibUtilMrCopyDataWithRkey pd rkey mem buffer address size access_flags direction =
      if mr.Admits access_flags address size then
        (.SUCCESS, transfer direction mem buffer (mr.places (address - mr.start) size))
      else (.LOC_PROT_ERR, mem, []) := by
  have hout := outsideMr_eq h.backed hlo hhi
  unfold pibUtilMrCopyDataWithRkey copyDataWithRkey
  simp only [h.table]
  rw [if_neg (by omega)]
  by_cases hin : mr.Admits access_flags address size
  · have hcond : ¬(mr.state ≠ .VALID ∨ rkey ≠ mr.rkey ∨ hasAccess mr access_flags = false ∨
        mr.is_dma = true ∨ outsideMr mr address size = true) := by
      simp [h.valid, ← h.key, hin.1, hin.2.1, hout.mpr hin.2.2]
    rw [if_pos hin, if_neg hcond, if_neg (by simp)]
    by_cases hz : size = 0
    · subst hz
      have hnil : mr.places (address - mr.start) 0 = [] :=
        List.eq_nil_of_length_eq_zero (h.backed.places (by omega))
      have hzero : mrCopyData mr mem buffer (address - mr.start) 0 0 0 direction = ⟨mem, [], true⟩ := by
        simp [mrCopyData, h.valid, hin.2.1]
      rw [hzero, hnil]
      rcases hd with rfl | rfl <;> rfl
    · rw [mrCopyData_transfer hd h.backed h.valid mem buffer (by omega) (by omega)]
      simp only [if_true]
      rw [filled_transfer hd (h.backed.places (by omega))]
  · rw [if_neg hin, if_pos]
    refine Or.inr (Or.inr ?_)
    by_contra hf
    simp only [not_or, Bool.not_eq_true, Bool.not_eq_false] at hf
    exact hin ⟨hf.1, hf.2.1, hout.mp hf.2.2⟩

end pib
