-- The copy into a list of elements that can all be used: it succeeds where the
-- list has room, fails where it has not, and never leaves the elements.
import Pib.GatherScatter

namespace pib

open Bytes

variable {sge : Sge} {sges : List Sge}

/-! ## Room -/

/-- Every element of the list can be used. -/
def AllUsable (pd : Pd) (access_flags : Nat) (sges : List Sge) : Prop :=
  ∀ sge ∈ sges, Usable pd access_flags sge

/-- The element begins between the ends of its region. -/
def Inside (pd : Pd) (access_flags : Nat) (sge : Sge) : Prop :=
  ∃ mr, keyMr pd access_flags sge = some mr ∧ mr.start < sge.addr ∧ sge.addr < mr.start + mr.length

/-- The list takes a range of this size: it has room for it, and an empty range has
an element that does not begin at an end of its region. -/
def Takes (pd : Pd) (access_flags : Nat) (sges : List Sge) (size : Nat) : Prop :=
  size ≤ sgeSum sges ∧ (0 < size ∨ ∃ sge ∈ sges, Inside pd access_flags sge)

variable {pd : Pd} {access_flags : Nat}

theorem AllUsable.tail (h : AllUsable pd access_flags (sge :: sges)) :
    AllUsable pd access_flags sges := fun x hx => h x (List.mem_cons_of_mem sge hx)

theorem backed_of_key (hpd : pd.Backed) {mr : Mr}
    (hk : keyMr pd access_flags sge = some mr) : mr.Backed ∧ mr.state = .VALID := by
  obtain ⟨htab, hvalid, -⟩ := keyMr_some hk
  exact ⟨hpd _ _ htab hvalid, hvalid⟩

/-- A range with bytes that the list has room for passes. -/
theorem passes_of_room (hpd : pd.Backed) (sges : List Sge) :
    ∀ {offset size : Nat}, AllUsable pd access_flags sges → 0 < size →
      offset + size ≤ sgeSum sges → Passes pd access_flags sges offset size := by
  induction sges with
  | nil =>
    intro offset size _ hs hroom
    change offset + size ≤ 0 at hroom
    omega
  | cons sge sges ih =>
    intro offset size hall hs hroom
    rw [sgeSum_cons] at hroom
    obtain ⟨mr, hk, hin⟩ := hall sge List.mem_cons_self
    obtain ⟨hb, -⟩ := backed_of_key hpd hk
    rw [passes_cons hk]
    rcases Nat.eq_zero_or_pos sge.length with hz | hpos
    · -- an element without bytes is passed over, one way or the other
      split
      · exact ih hall.tail hs (by omega)
      · exact Or.inr (ih hall.tail (by omega) (by omega))
    have hout : outsideMr mr sge.addr (min sge.length (offset + size)) = false :=
      outsideMr_inMr hb hin (by omega) (by omega)
    rw [hout, if_neg Bool.false_ne_true]
    by_cases hfit : size ≤ sge.length - offset
    · exact Or.inl hfit
    · exact Or.inr (ih hall.tail (by omega) (by omega))

/-- A range with bytes that passes has room. -/
theorem room_of_passes (sges : List Sge) :
    ∀ {offset size : Nat}, 0 < size → Passes pd access_flags sges offset size →
      offset + size ≤ sgeSum sges := by
  induction sges with
  | nil =>
    intro offset size _ hp
    exact hp.elim
  | cons sge sges ih =>
    intro offset size hs hp
    obtain ⟨mr, hk, hp⟩ := hp
    rw [sgeSum_cons]
    split at hp
    · have := ih hs hp
      omega
    rcases hp with hfit | hp
    · omega
    by_cases hfit : size ≤ sge.length - offset
    · omega
    · have := ih (by omega) hp
      omega

/-- An empty range passes at an element that begins inside of its region. -/
theorem passes_empty (hpd : pd.Backed) (sges : List Sge) (hall : AllUsable pd access_flags sges) :
    Passes pd access_flags sges 0 0 ↔ ∃ sge ∈ sges, Inside pd access_flags sge := by
  induction sges with
  | nil => simp [Passes]
  | cons sge sges ih =>
    obtain ⟨mr, hk, hin⟩ := hall sge List.mem_cons_self
    obtain ⟨hb, -⟩ := backed_of_key hpd hk
    have hhi : sge.addr + 0 ≤ mr.start + mr.length := by
      have := hin.2
      omega
    have hinside : Inside pd access_flags sge ↔ outsideMr mr sge.addr 0 = false := by
      rw [outsideMr_eq hb hin.1 hhi]
      unfold Inside
      rw [hk]
      simp
    rw [passes_cons hk, Nat.zero_add, Nat.min_zero, Nat.zero_sub, Nat.zero_sub]
    simp only [List.mem_cons, exists_eq_or_imp, hinside]
    split
    · rename_i h
      rw [ih hall.tail, h]
      simp
    · rename_i h
      simp only [Nat.zero_le, true_or, true_iff]
      exact Or.inl (by simpa using h)

/-- A range passes from the start of the list exactly if the list takes it. -/
theorem passes_iff_takes (hpd : pd.Backed) (hall : AllUsable pd access_flags sges)
    (size : Nat) : Passes pd access_flags sges 0 size ↔ Takes pd access_flags sges size := by
  unfold Takes
  rcases Nat.eq_zero_or_pos size with rfl | hpos
  · rw [passes_empty hpd sges hall]
    simp
  constructor
  · intro hp
    have := room_of_passes sges hpos hp
    exact ⟨by omega, Or.inl hpos⟩
  · rintro ⟨hroom, -⟩
    exact passes_of_room hpd sges hall hpos (by omega)

/-! ## The status and the memory -/

theorem copySges_status (direction : MrDirection) (sges : List Sge) :
    ∀ (offset size : Nat) (mem : Mem) (buffer : List UInt8),
      (copySges pd access_flags direction sges offset size mem buffer).1 = .SUCCESS ∨
        (copySges pd access_flags direction sges offset size mem buffer).1 = .LOC_PROT_ERR := by
  induction sges with
  | nil =>
    intro offset size mem buffer
    exact Or.inr rfl
  | cons sge sges ih =>
    intro offset size mem buffer
    cases hk : keyMr pd access_flags sge with
    | none =>
      rw [copySges_cons_none hk]
      exact Or.inr rfl
    | some mr =>
      rw [copySges_cons_some hk]
      split
      · exact ih _ _ _ _
      split
      · dsimp only
        split
        · exact Or.inl rfl
        · exact ih _ _ _ _
      · split
        · exact Or.inl rfl
        · exact ih _ _ _ _

/-- A copy of at most the largest payload succeeds or reports a protection error. -/
theorem copyData_status {mem : Mem} {buffer : List UInt8} {offset size : Nat}
    {direction : MrDirection} (hmax : size ≤ PIB_MAX_PAYLOAD_LEN) :
    ((pibUtilMrCopyData pd sges mem buffer offset size access_flags direction).1 = .SUCCESS ↔
        Passes pd access_flags sges offset size) ∧
      ((pibUtilMrCopyData pd sges mem buffer offset size access_flags direction).1 ≠ .SUCCESS →
        (pibUtilMrCopyData pd sges mem buffer offset size access_flags direction).1 =
          .LOC_PROT_ERR) := by
  unfold pibUtilMrCopyData
  rw [if_neg (by omega)]
  refine ⟨copySges_success sges offset size mem buffer, ?_⟩
  intro hne
  exact (copySges_status direction sges offset size mem buffer).resolve_left hne

/-- The places of an element. -/
def sgePlaces (pd : Pd) (sge : Sge) : List Nat :=
  match pd.mr_table (mrIndex sge.lkey) with
  | none => []
  | some mr => mr.places (sge.addr - mr.start) sge.length

/-- The places of all elements of the list. -/
def listPlaces (pd : Pd) (sges : List Sge) : List Nat := sges.flatMap (sgePlaces pd)

/-- The bytes of an element that a copy touches are places of the element. -/
theorem places_sub_sge (hpd : pd.Backed) {mr : Mr} (hk : keyMr pd access_flags sge = some mr)
    (hin : sge.InMr mr) {offset size : Nat} (hle : offset + size ≤ sge.length) {x : Nat}
    (hx : x ∈ mr.places (sge.addr - mr.start + offset) size) : x ∈ sgePlaces pd sge := by
  obtain ⟨hb, -⟩ := backed_of_key hpd hk
  obtain ⟨htab, -, -⟩ := keyMr_some hk
  have hlo := hin.1
  have hhi := hin.2
  have hroom : sge.addr - mr.start + sge.length ≤ mr.length := by omega
  have hst := hb.stretch hroom hle
  rw [← hst] at hx
  unfold sgePlaces
  rw [htab]
  exact List.mem_of_mem_drop (List.mem_of_mem_take hx)

/-- A copy into usable elements writes nowhere else, whether it succeeds or not. -/
theorem copySges_outside (hpd : pd.Backed) (sges : List Sge) :
    ∀ (offset size : Nat) (mem : Mem) (buffer : List UInt8) {x : Nat},
      AllUsable pd access_flags sges → x ∉ listPlaces pd sges →
      (copySges pd access_flags .COPY_TO sges offset size mem buffer).2.1 x = mem x := by
  induction sges with
  | nil =>
    intro offset size mem buffer x _ _
    rfl
  | cons sge sges ih =>
    intro offset size mem buffer x hall hx
    obtain ⟨mr, hk, hin⟩ := hall sge List.mem_cons_self
    obtain ⟨hb, hvalid⟩ := backed_of_key hpd hk
    have hx' : x ∉ sgePlaces pd sge ∧ x ∉ listPlaces pd sges := by
      simpa [listPlaces] using hx
    rw [copySges_cons_some hk]
    split
    · exact ih _ _ _ _ hall.tail hx'.2
    split
    · rename_i hpos
      have hlo := hin.1
      have hhi := hin.2
      have hto : MrDirection.IsCopy .COPY_TO := Or.inr rfl
      have hroom : sge.addr - mr.start + offset + min (sge.length - offset) size ≤ mr.length := by
        omega
      have hcopy := mrCopyData_transfer hto hb hvalid mem buffer hpos hroom 0 0
      have hmem : (mrCopyData mr mem buffer (sge.addr - mr.start + offset)
          (min (sge.length - offset) size) 0 0 .COPY_TO).mem x = mem x := by
        rw [hcopy]
        refine scatter_outside (fun hmem => hx'.1 ?_) buffer
        exact places_sub_sge hpd hk hin (by omega) hmem
      dsimp only
      split
      · exact hmem
      dsimp only
      rw [ih _ _ _ _ hall.tail hx'.2]
      exact hmem
    · split
      · rfl
      · exact ih _ _ _ _ hall.tail hx'.2

theorem copyData_outside (hpd : pd.Backed) (hall : AllUsable pd access_flags sges)
    (mem : Mem) (buffer : List UInt8) (offset size : Nat) {x : Nat} (hx : x ∉ listPlaces pd sges) :
    (pibUtilMrCopyData pd sges mem buffer offset size access_flags .COPY_TO).2.1 x = mem x := by
  unfold pibUtilMrCopyData
  split
  · rfl
  · exact copySges_outside hpd sges offset size mem buffer hall hx

/-! ## A region of one page -/

/-- 64 bytes in one page, open for local writes. -/
def recvPage : Mr :=
  { mr_num := 0, lkey := 0, rkey := 0, state := .VALID, start := 4096, length := 64
    access_flags := IB_ACCESS_LOCAL_WRITE, umem := { page_shift := 6, offset := 0, pages := [some 0] } }

def recvPagePd : Pd := ⟨1, fun i => if i = 0 then some recvPage else none⟩

theorem recvPagePd_backed : recvPagePd.Backed := by
  intro i mr hmr _
  have hmr : (if i = 0 then some recvPage else none) = some mr := hmr
  split at hmr
  · cases hmr
    exact Mr.backed_of_page rfl rfl rfl (by decide) (by decide)
  · cases hmr

theorem recvPage_usable (hkey : sge.lkey = 0) (hin : sge.InMr recvPage) :
    AllUsable recvPagePd IB_ACCESS_LOCAL_WRITE [sge] := by
  intro x hx
  obtain rfl := List.mem_singleton.mp hx
  refine ⟨recvPage, ?_, hin⟩
  unfold keyMr
  rw [hkey]
  rfl

end pib
