-- The copy through a scatter/gather list against the bytes that the list
-- describes (pib_mr.c 326-378).
import Pib.MrCopy

namespace pib

open Bytes

variable {pd : Pd} {access_flags : Nat} {sge : Sge} {mr : Mr}

/-! ## What the list describes -/

/-- The region that the key of an element names, with the access that is asked
for. -/
def keyMr (pd : Pd) (access_flags : Nat) (sge : Sge) : Option Mr :=
  match pd.mr_table (mrIndex sge.lkey) with
  | none => none
  | some mr =>
    if mr.state ≠ .VALID ∨ sge.lkey ≠ mr.lkey ∨ hasAccess mr access_flags = false then none
    else some mr

/-- The element lies in the region. -/
def Sge.InMr (sge : Sge) (mr : Mr) : Prop :=
  mr.start ≤ sge.addr ∧ sge.addr + sge.length ≤ mr.start + mr.length

instance (sge : Sge) (mr : Mr) : Decidable (sge.InMr mr) := by
  unfold Sge.InMr
  infer_instance

/-- The key is valid, with the access, and the element lies in its region. -/
def Usable (pd : Pd) (access_flags : Nat) (sge : Sge) : Prop :=
  ∃ mr, keyMr pd access_flags sge = some mr ∧ sge.InMr mr

def sgeSum (sges : List Sge) : Nat := (sges.map Sge.length).sum

/-- An element at `start` of the concatenation has bytes of the range. -/
def Meets (start : Nat) (sge : Sge) (offset size : Nat) : Prop :=
  max start offset < min (start + sge.length) (offset + size)

instance (start : Nat) (sge : Sge) (offset size : Nat) : Decidable (Meets start sge offset size) := by
  unfold Meets
  infer_instance

/-- The range lies in the concatenation, and every element that has bytes of it
is usable. -/
def Covers (pd : Pd) (access_flags : Nat) (sges : List Sge) (offset size : Nat) : Prop :=
  offset + size ≤ sgeSum sges ∧
    ∀ pre sge post, sges = pre ++ sge :: post → Meets (sgeSum pre) sge offset size →
      Usable pd access_flags sge

/-- The places of the bytes `[offset, offset + size)` of the concatenation. -/
def placesIn (pd : Pd) : List Sge → Nat → Nat → List Nat
  | [], _, _ => []
  | sge :: sges, offset, size =>
    (match pd.mr_table (mrIndex sge.lkey) with
      | none => []
      | some mr => mr.places (sge.addr - mr.start + offset) (min (sge.length - offset) size)) ++
    placesIn pd sges (offset - sge.length) (size - (sge.length - offset))

/-- The copy does what the list says: it succeeds exactly for a range that the
list covers, and then has moved exactly the bytes of the range. -/
structure CopiesRange (pd : Pd) (sges : List Sge) (mem : Mem) (buffer : List UInt8)
    (offset size access_flags : Nat) (direction : MrDirection) : Prop where
  status : (pibUtilMrCopyData pd sges mem buffer offset size access_flags direction).1 = .SUCCESS ↔
    Covers pd access_flags sges offset size
  bytes : (pibUtilMrCopyData pd sges mem buffer offset size access_flags direction).1 = .SUCCESS →
    (pibUtilMrCopyData pd sges mem buffer offset size access_flags direction).2 =
      transfer direction mem buffer (placesIn pd sges offset size)

/-! ## What the loop accepts -/

/-- The loop succeeds: an element outside its region is passed over, of the
others only the part up to the end of the range is looked at. -/
def Passes (pd : Pd) (access_flags : Nat) : List Sge → Nat → Nat → Prop
  | [], _, _ => False
  | sge :: sges, offset, size =>
    ∃ mr, keyMr pd access_flags sge = some mr ∧
      if outsideMr mr sge.addr (min sge.length (offset + size)) = true then
        Passes pd access_flags sges (offset - sge.length) size
      else size ≤ sge.length - offset ∨
        Passes pd access_flags sges (offset - sge.length) (size - (sge.length - offset))

/-- Where the loop goes right. It ends at an element with a bad key, so that has
to be in the way. An element of the range outside its region is passed over,
so the later ones must not make up for it. -/
def GoesRight (pd : Pd) (access_flags : Nat) : List Sge → Nat → Nat → Prop
  | [], offset, size => 0 < offset + size
  | sge :: sges, offset, size =>
    match keyMr pd access_flags sge with
    | none => ¬Covers pd access_flags (sge :: sges) offset size
    | some mr =>
      if 0 < size then
        if offset < sge.length then
          if sge.InMr mr then
            size ≤ sge.length - offset ∨
              GoesRight pd access_flags sges 0 (size - (sge.length - offset))
          else ¬Passes pd access_flags (sge :: sges) offset size
        else GoesRight pd access_flags sges (offset - sge.length) size
      else
        -- nothing to copy: success at the first element that is not outside
        if outsideMr mr sge.addr (min sge.length offset) = true then
          GoesRight pd access_flags sges (offset - sge.length) 0
        else offset ≤ sgeSum (sge :: sges)

/-! ## The loop -/

theorem keyMr_some (h : keyMr pd access_flags sge = some mr) :
    pd.mr_table (mrIndex sge.lkey) = some mr ∧ mr.state = .VALID ∧
      ¬(mr.state ≠ .VALID ∨ sge.lkey ≠ mr.lkey ∨ hasAccess mr access_flags = false) := by
  unfold keyMr at h
  cases htab : pd.mr_table (mrIndex sge.lkey) with
  | none => simp [htab] at h
  | some mr' =>
    rw [htab] at h
    dsimp only at h
    split at h
    · cases h
    rename_i hok
    cases h
    refine ⟨rfl, ?_, hok⟩
    by_contra hne
    exact hok (Or.inl hne)

theorem copySges_cons_none (h : keyMr pd access_flags sge = none) (direction : MrDirection)
    (sges : List Sge) (offset size : Nat) (mem : Mem) (buffer : List UInt8) :
    copySges pd access_flags direction (sge :: sges) offset size mem buffer =
      (.LOC_PROT_ERR, mem, []) := by
  unfold keyMr at h
  unfold copySges
  cases htab : pd.mr_table (mrIndex sge.lkey) with
  | none => rfl
  | some mr =>
    rw [htab] at h
    dsimp only at h ⊢
    split at h
    · rename_i hbad
      rw [if_pos hbad]
    · cases h

theorem copySges_cons_some (h : keyMr pd access_flags sge = some mr) (direction : MrDirection)
    (sges : List Sge) (offset size : Nat) (mem : Mem) (buffer : List UInt8) :
    copySges pd access_flags direction (sge :: sges) offset size mem buffer =
      if outsideMr mr sge.addr (min sge.length (offset + size)) = true then
        copySges pd access_flags direction sges (offset - sge.length) size mem buffer
      else if 0 < min (sge.length - offset) size then
        let c := mrCopyData mr mem buffer (sge.addr - mr.start + offset)
          (min (sge.length - offset) size) 0 0 direction
        let filled := c.filled direction (min (sge.length - offset) size) buffer
        if size ≤ sge.length - offset then (.SUCCESS, c.mem, filled)
        else
          let r := copySges pd access_flags direction sges (offset - sge.length)
            (size - (sge.length - offset)) c.mem (buffer.drop (min (sge.length - offset) size))
          (r.1, r.2.1, filled ++ r.2.2)
      else if size = 0 then (.SUCCESS, mem, [])
      else copySges pd access_flags direction sges (offset - sge.length) size mem buffer := by
  obtain ⟨htab, -, hok⟩ := keyMr_some h
  have hoff : (if 0 < offset then if sge.length < offset then offset - sge.length else 0
      else offset) = offset - sge.length := by
    split
    · split <;> omega
    · omega
  have hchunk : min sge.length (offset + size) - offset = min (sge.length - offset) size := by omega
  have hlt : offset < min sge.length (offset + size) ↔ 0 < min (sge.length - offset) size := by omega
  rw [copySges]
  simp only [htab, hoff]
  rw [if_neg hok]
  by_cases hout : outsideMr mr sge.addr (min sge.length (offset + size)) = true
  · rw [if_pos hout, if_pos hout]
  rw [if_neg hout, if_neg hout]
  by_cases hin : 0 < min (sge.length - offset) size
  · rw [if_pos (hlt.mpr hin), if_pos hin, hchunk]
    by_cases hall : size ≤ sge.length - offset
    · rw [if_pos (by omega)]
      simp only [if_pos hall]
    have hmin : min (sge.length - offset) size = sge.length - offset := by omega
    rw [if_neg (by omega)]
    simp only [if_neg hall, hmin]
  · rw [if_neg (fun hc => hin (hlt.mp hc)), if_neg hin]

/-- The loop succeeds exactly where `Passes` says so. -/
theorem copySges_success {direction : MrDirection}
    (sges : List Sge) : ∀ (offset size : Nat) (mem : Mem) (buffer : List UInt8),
    (copySges pd access_flags direction sges offset size mem buffer).1 = .SUCCESS ↔
      Passes pd access_flags sges offset size := by
  induction sges with
  | nil =>
    intro offset size mem buffer
    simp [copySges, Passes]
  | cons sge sges ih =>
    intro offset size mem buffer
    cases hk : keyMr pd access_flags sge with
    | none => simp [copySges_cons_none hk, Passes, hk]
    | some mr =>
      rw [copySges_cons_some hk]
      simp only [Passes, hk, Option.some.injEq, exists_eq_left']
      by_cases hout : outsideMr mr sge.addr (min sge.length (offset + size)) = true
      · rw [if_pos hout, if_pos hout]
        exact ih _ _ _ _
      rw [if_neg hout, if_neg hout]
      by_cases hall : size ≤ sge.length - offset
      · refine iff_of_true ?_ (Or.inl hall)
        by_cases hin : 0 < min (sge.length - offset) size
        · rw [if_pos hin]
          simp only [if_pos hall]
        · rw [if_neg hin, if_pos (by omega)]
      refine Iff.trans ?_ (or_iff_right hall).symm
      by_cases hin : 0 < min (sge.length - offset) size
      · rw [if_pos hin]
        simp only [if_neg hall]
        exact ih _ _ _ _
      rw [if_neg hin, if_neg (by omega)]
      have hsize : size - (sge.length - offset) = size := by omega
      rw [hsize]
      exact ih _ _ _ _

/-! ## The range along the list -/

@[simp] theorem sgeSum_cons (sge : Sge) (sges : List Sge) :
    sgeSum (sge :: sges) = sge.length + sgeSum sges := rfl

/-- The range behind the first element. -/
theorem covers_cons {sges : List Sge} {offset size : Nat} :
    Covers pd access_flags (sge :: sges) offset size ↔
      (0 < min (sge.length - offset) size → Usable pd access_flags sge) ∧
        Covers pd access_flags sges (offset - sge.length) (size - (sge.length - offset)) := by
  have hshift : ∀ start x, Meets (sge.length + start) x offset size ↔
      Meets start x (offset - sge.length) (size - (sge.length - offset)) := by
    intro start x
    unfold Meets
    omega
  have hsum : offset + size ≤ sgeSum (sge :: sges) ↔
      offset - sge.length + (size - (sge.length - offset)) ≤ sgeSum sges := by
    rw [sgeSum_cons]
    omega
  constructor
  · rintro ⟨hle, hall⟩
    refine ⟨fun hin => hall [] sge sges rfl ?_, hsum.mp hle, fun pre x post he hm => ?_⟩
    · unfold Meets sgeSum
      simp only [List.map_nil, List.sum_nil]
      omega
    · exact hall (sge :: pre) x post (by rw [he]; rfl) ((hshift _ x).mpr hm)
  · rintro ⟨hfirst, hle, hall⟩
    refine ⟨hsum.mpr hle, fun pre x post he hm => ?_⟩
    cases pre with
    | nil =>
      cases he
      refine hfirst ?_
      unfold Meets sgeSum at hm
      simp only [List.map_nil, List.sum_nil] at hm
      omega
    | cons y pre =>
      cases he
      exact hall pre x post rfl ((hshift _ x).mp hm)

theorem covers_empty {sges : List Sge} {offset : Nat} :
    Covers pd access_flags sges offset 0 ↔ offset ≤ sgeSum sges := by
  refine ⟨fun h => h.1, fun h => ⟨h, fun pre sge post _ hm => ?_⟩⟩
  unfold Meets at hm
  omega

theorem Mr.places_zero (mr : Mr) (offset : Nat) : mr.places offset 0 = [] := by
  unfold Mr.places
  split
  · rfl
  · split <;> exact List.take_zero

theorem placesIn_zero (pd : Pd) (sges : List Sge) : ∀ offset, placesIn pd sges offset 0 = [] := by
  induction sges with
  | nil =>
    intro offset
    rfl
  | cons sge sges ih =>
    intro offset
    rw [placesIn, Nat.min_zero, Nat.zero_sub, ih]
    split
    · rfl
    · rw [Mr.places_zero]
      rfl

theorem placesIn_cons
    (h : pd.mr_table (mrIndex sge.lkey) = some mr) (sges : List Sge) (offset size : Nat) :
    placesIn pd (sge :: sges) offset size =
      mr.places (sge.addr - mr.start + offset) (min (sge.length - offset) size) ++
        placesIn pd sges (offset - sge.length) (size - (sge.length - offset)) := by
  rw [placesIn, h]

/-- Every region of the domain that can be used is backed. -/
def Pd.Backed (pd : Pd) : Prop :=
  ∀ i mr, pd.mr_table i = some mr → mr.state = .VALID → mr.Backed

/-- An element in its region passes the range test where it has a byte to give. -/
theorem outsideMr_inMr (hb : mr.Backed) (hin : sge.InMr mr) {range : Nat}
    (hpos : 0 < range) (hle : range ≤ sge.length) : outsideMr mr sge.addr range = false := by
  have hlo := hin.1
  have hhi := hin.2
  exact (outsideMr_eq hb hlo (by omega)).mpr (Or.inl (by omega))

theorem transfer_nil (direction : MrDirection) (mem : Mem) (buffer : List UInt8) :
    transfer direction mem buffer [] = (mem, []) := by
  cases direction <;> rfl

/-- A range that the list covers and the loop accepts is moved as it should be. -/
theorem copySges_bytes (hpd : pd.Backed) {direction : MrDirection}
    (hd : direction.IsCopy) (sges : List Sge) :
    ∀ (offset size : Nat) (mem : Mem) (buffer : List UInt8),
    Covers pd access_flags sges offset size → Passes pd access_flags sges offset size →
    (copySges pd access_flags direction sges offset size mem buffer).2 =
      transfer direction mem buffer (placesIn pd sges offset size) := by
  induction sges with
  | nil =>
    intro offset size mem buffer _ hp
    exact hp.elim
  | cons sge sges ih =>
    intro offset size mem buffer hc hp
    obtain ⟨mr, hk, hp⟩ := hp
    obtain ⟨htab, hvalid, -⟩ := keyMr_some hk
    have hb := hpd _ _ htab hvalid
    obtain ⟨hfirst, hrest⟩ := covers_cons.mp hc
    rw [copySges_cons_some hk, placesIn_cons htab]
    by_cases hin : 0 < min (sge.length - offset) size
    · -- the range has bytes of this element
      obtain ⟨mr', hk', hmr⟩ := hfirst hin
      cases hk.symm.trans hk'
      have hout := @outsideMr_inMr sge mr hb hmr (min sge.length (offset + size)) (by omega) (by omega)
      rw [hout] at hp ⊢
      rw [if_neg Bool.false_ne_true] at hp ⊢
      have hlo := hmr.1
      have hhi := hmr.2
      have hroom : sge.addr - mr.start + offset + min (sge.length - offset) size ≤ mr.length := by
        omega
      rw [if_pos hin, mrCopyData_transfer hd hb hvalid mem buffer hin hroom]
      dsimp only
      rw [filled_transfer hd (hb.places hroom)]
      by_cases hall : size ≤ sge.length - offset
      · rw [if_pos hall, Nat.sub_eq_zero_of_le hall, placesIn_zero, List.append_nil]
      rw [if_neg hall]
      dsimp only
      rw [ih _ _ _ _ hrest (hp.resolve_left hall), transfer_append, hb.places hroom]
    · -- it has none
      have hzero : min (sge.length - offset) size = 0 := by omega
      rw [if_neg hin, hzero, Mr.places_zero, List.nil_append]
      rcases Nat.eq_zero_or_pos size with rfl | hpos
      · rw [Nat.zero_sub, placesIn_zero, transfer_nil]
        split
        · rename_i hout
          rw [if_pos hout] at hp
          rw [Nat.zero_sub] at hrest
          rw [ih _ _ _ _ hrest hp, placesIn_zero, transfer_nil]
        · rfl
      · have hsame : size - (sge.length - offset) = size := by omega
        rw [hsame] at hp hrest ⊢
        rw [if_neg (by omega : ¬size = 0)]
        have hp' : Passes pd access_flags sges (offset - sge.length) size := by
          split at hp
          · exact hp
          · exact hp.resolve_left (by omega)
        rw [ite_self]
        exact ih _ _ _ _ hrest hp'

theorem passes_cons
    (h : keyMr pd access_flags sge = some mr) (sges : List Sge) (offset size : Nat) :
    Passes pd access_flags (sge :: sges) offset size ↔
      if outsideMr mr sge.addr (min sge.length (offset + size)) = true then
        Passes pd access_flags sges (offset - sge.length) size
      else size ≤ sge.length - offset ∨
        Passes pd access_flags sges (offset - sge.length) (size - (sge.length - offset)) := by
  rw [Passes]
  simp only [h, Option.some.injEq, exists_eq_left']

/-- The loop accepts what the list covers exactly where it goes right. -/
theorem goesRight_iff (hpd : pd.Backed) (sges : List Sge) :
    ∀ offset size, GoesRight pd access_flags sges offset size ↔
      (Passes pd access_flags sges offset size ↔ Covers pd access_flags sges offset size) := by
  induction sges with
  | nil =>
    intro offset size
    have hnil : Covers pd access_flags [] offset size ↔ offset + size = 0 := by
      refine ⟨fun h => Nat.le_zero.mp h.1, fun h => ⟨h.le, fun pre sge post he => ?_⟩⟩
      exact absurd he (by simp)
    simp only [GoesRight, Passes, false_iff, hnil]
    omega
  | cons sge sges ih =>
    intro offset size
    rw [GoesRight]
    cases hk : keyMr pd access_flags sge with
    | none =>
      have hno : ¬Passes pd access_flags (sge :: sges) offset size := by
        rintro ⟨mr, hmr, -⟩
        cases hk.symm.trans hmr
      simp only [hno, false_iff]
    | some mr =>
      obtain ⟨htab, hvalid, -⟩ := keyMr_some hk
      have hb := hpd _ _ htab hvalid
      have hpasses := passes_cons hk sges offset size
      dsimp only
      by_cases hpos : 0 < size
      · rw [if_pos hpos]
        by_cases hoff : offset < sge.length
        · have hzero : offset - sge.length = 0 := by omega
          have hmeets : 0 < min (sge.length - offset) size := by omega
          rw [if_pos hoff]
          by_cases hin : sge.InMr mr
          · have husable : Usable pd access_flags sge := ⟨mr, hk, hin⟩
            have hout := @outsideMr_inMr sge mr hb hin (min sge.length (offset + size)) (by omega)
              (by omega)
            rw [if_pos hin, hpasses, covers_cons, hout, if_neg Bool.false_ne_true, hzero]
            by_cases hall : size ≤ sge.length - offset
            · rw [Nat.sub_eq_zero_of_le hall, covers_empty]
              simp [hall, husable]
            · simp only [hall, false_or, husable, implies_true, true_and]
              exact ih _ _
          · have hno : ¬Covers pd access_flags (sge :: sges) offset size := by
              intro hc
              obtain ⟨mr', hk', hin'⟩ := (covers_cons.mp hc).1 hmeets
              cases hk.symm.trans hk'
              exact hin hin'
            rw [if_neg hin]
            simp only [hno, iff_false]
        · have hsame : size - (sge.length - offset) = size := by omega
          have hnone : ¬0 < min (sge.length - offset) size := by omega
          have hle : ¬size ≤ sge.length - offset := by omega
          rw [if_neg hoff, hpasses, covers_cons, hsame]
          simp only [hle, false_or, hnone, false_implies, true_and, ite_self]
          exact ih _ _
      · have hzero : size = 0 := by omega
        subst hzero
        rw [if_neg hpos, hpasses, Nat.add_zero]
        by_cases hout : outsideMr mr sge.addr (min sge.length offset) = true
        · rw [if_pos hout]
          have hcov : Covers pd access_flags (sge :: sges) offset 0 ↔
              Covers pd access_flags sges (offset - sge.length) 0 := by
            rw [covers_empty, covers_empty, sgeSum_cons]
            omega
          rw [hcov, if_pos hout]
          exact ih _ _
        · rw [if_neg hout, covers_empty, if_neg hout]
          simp

/-- A domain with one region: a page of 64 bytes at address 4096. -/
def onePagePd : Pd where
  nr_mr := 1
  mr_table i := if i = 0 then some {
    mr_num := 0, lkey := 0, rkey := 0, state := .VALID, start := 4096, length := 64
    access_flags := 0, umem := { page_shift := 6, offset := 0, pages := [some 0] } } else none

theorem onePagePd_backed : onePagePd.Backed := by
  intro i mr h _
  simp only [onePagePd] at h
  split at h
  · cases h
    exact Mr.backed_of_page rfl rfl rfl (by decide) (by decide)
  · cases h

end pib
