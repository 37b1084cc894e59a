-- What a copy from memory leaves in the caller's buffer: a copy that succeeds
-- is as long as was asked for, and of pinned regions nothing of the old
-- contents is left in it.
import Pib.MrCopy

namespace pib

open Bytes

variable {size access_flags : Nat} {buffer : List UInt8} {pd : Pd}

/-! ## Lengths -/

theorem length_putInto {out : List UInt8} (h : out.length ≤ size) :
    (putInto size buffer out).length = size := by
  simp only [putInto, List.length_append, List.length_drop, List.length_take,
    List.length_replicate]
  omega

theorem length_filled {c : MrCopy} (h : c.out.length ≤ size) (buffer : List UInt8) :
    (c.filled .COPY_FROM size buffer).length = size :=
  length_putInto h

/-- A copy that has put in all its bytes. -/
theorem filled_full {c : MrCopy} (h : c.out.length = size) (buffer : List UInt8) :
    c.filled .COPY_FROM size buffer = c.out := by
  simp [MrCopy.filled, putInto, h]

theorem mrCopyPages_length_le (page_size swap compare : Nat) (pages : List (Option Nat)) :
    ∀ (addr offset size : Nat) (mem : Mem) (buffer : List UInt8),
    (mrCopyPages page_size swap compare .COPY_FROM pages addr offset size mem buffer).out.length ≤
      size := by
  induction pages with
  | nil =>
    intro addr offset size mem buffer
    exact Nat.zero_le _
  | cons page pages ih =>
    intro addr offset size mem buffer
    cases page with
    | none => exact Nat.zero_le _
    | some vaddr =>
      simp only [mrCopyPages, mrCopyDataSub]
      split
      · split
        · simp
        have h := ih (addr + page_size) (offset + min (addr + page_size - offset) size)
          (size - min (addr + page_size - offset) size) mem
          (buffer.drop (min (addr + page_size - offset) size))
        simp only [List.length_append, length_read]
        omega
      · split
        · exact Nat.zero_le _
        · exact ih _ _ _ _ _

theorem mrCopyData_length_le (mr : Mr) (mem : Mem) (buffer : List UInt8)
    (offset size swap compare : Nat) :
    (mrCopyData mr mem buffer offset size swap compare .COPY_FROM).out.length ≤ size := by
  unfold mrCopyData
  split
  · exact Nat.zero_le _
  split
  · simp [mrCopyDataSub]
  split
  · exact Nat.zero_le _
  split
  · exact mrCopyPages_length_le _ _ _ _ _ _ _ _ _
  · exact mrCopyPages_length_le _ _ _ _ _ _ _ _ _

/-- The elements that are passed over put nothing in, and the others together
what was asked for. -/
theorem copySges_length (sges : List Sge) :
    ∀ (offset size : Nat) (mem : Mem) (buffer : List UInt8),
    (copySges pd access_flags .COPY_FROM sges offset size mem buffer).1 = .SUCCESS →
    (copySges pd access_flags .COPY_FROM sges offset size mem buffer).2.2.length = size := by
  induction sges with
  | nil =>
    intro offset size mem buffer h
    exact absurd h (by simp [copySges])
  | cons sge sges ih =>
    intro offset size mem buffer
    unfold copySges
    cases hmr : pd.mr_table (mrIndex sge.lkey) with
    | none => simp
    | some mr =>
      dsimp only
      split
      · simp
      split
      · exact ih _ _ _ _
      split
      · have hc := length_filled (mrCopyData_length_le mr mem buffer (sge.addr - mr.start + offset)
          (min sge.length (offset + size) - offset) 0 0) buffer
        split
        · intro _
          dsimp only
          omega
        intro h
        have hrest := ih _ _ _ _ h
        simp only [List.length_append, hrest, hc]
        omega
      · split
        · intro _
          simp [*]
        · exact ih _ _ _ _

theorem pibUtilMrCopyData_length {sges : List Sge} {mem : Mem} {offset : Nat}
    (h : (pibUtilMrCopyData pd sges mem buffer offset size access_flags .COPY_FROM).1 = .SUCCESS) :
    (pibUtilMrCopyData pd sges mem buffer offset size access_flags .COPY_FROM).2.2.length = size := by
  unfold pibUtilMrCopyData at h ⊢
  split at h
  · exact absurd h (by simp)
  rename_i hmax
  rw [if_neg hmax]
  exact copySges_length _ _ _ _ _ h

theorem pibUtilMrCopyDataWithRkey_length {rkey : Nat} {mem : Mem} {address : Nat}
    (h : (pibUtilMrCopyDataWithRkey pd rkey mem buffer address size access_flags .COPY_FROM).1 =
      .SUCCESS) :
    (pibUtilMrCopyDataWithRkey pd rkey mem buffer address size access_flags .COPY_FROM).2.2.length =
      size := by
  unfold pibUtilMrCopyDataWithRkey copyDataWithRkey at h ⊢
  by_cases hmax : PIB_MAX_PAYLOAD_LEN < size
  · rw [if_pos hmax] at h
    exact absurd h (by simp)
  rw [if_neg hmax] at h ⊢
  cases hmr : pd.mr_table (mrIndex rkey) with
  | none => simp [hmr] at h
  | some mr =>
    simp only [hmr] at h ⊢
    split at h
    · exact absurd h (by simp)
    rename_i hin
    rw [if_neg hin, if_neg (by simp)]
    exact length_filled (mrCopyData_length_le _ _ _ _ _ _ _) buffer

/-! ## Pinned regions -/

/-- What the verbs layer promises of a region of a process: it is backed, and
lies far below the end of the address space. -/
structure Mr.Pinned (mr : Mr) : Prop where
  backed : mr.Backed
  room : mr.is_dma = false → mr.start + mr.length + 2 ^ 34 ≤ 2 ^ 64

/-- Every region of the domain that can be used is pinned. -/
def Pd.Pinned (pd : Pd) : Prop :=
  ∀ i mr, pd.mr_table i = some mr → mr.state = .VALID → mr.Pinned

/-- The range test does not wrap around. -/
theorem Mr.Pinned.range {mr : Mr} (h : mr.Pinned) (hdma : mr.is_dma = false) (address size : Nat)
    (hsize : size ≤ 2 ^ 34) (hin : outsideMr mr address size = false) :
    mr.start ≤ address ∧ address + size ≤ mr.start + mr.length := by
  have hroom := h.room hdma
  have h1 : u64 (mr.start + mr.length) = mr.start + mr.length :=
    Nat.mod_eq_of_lt (by omega)
  unfold outsideMr at hin
  rw [h1] at hin
  simp only [Bool.or_eq_false_iff, decide_eq_false_iff_not] at hin
  have h2 : u64 (address + size) = address + size := Nat.mod_eq_of_lt (by omega)
  rw [h2] at hin
  omega

/-- A copy out of a pinned region takes nothing from the buffer and fills it. -/
theorem Mr.Pinned.copy {mr : Mr} (h : mr.Pinned) (hvalid : mr.state = .VALID) (mem : Mem)
    (offset size : Nat) (hs : 0 < size) (hin : mr.is_dma = false → offset + size ≤ mr.length) :
    ∃ out : List UInt8, out.length = size ∧ ∀ buffer,
      mrCopyData mr mem buffer offset size 0 0 .COPY_FROM = ⟨mem, out, true⟩ := by
  by_cases hdma : mr.is_dma = true
  · refine ⟨read mem offset size, length_read _ _ _, fun buffer => ?_⟩
    simp [mrCopyData, mrCopyDataSub, hvalid, hdma]
  have hle := hin (by simpa using hdma)
  refine ⟨gather mem (mr.places offset size), by simp [h.backed.places hle], fun buffer => ?_⟩
  exact mrCopyData_transfer (Or.inl rfl) h.backed hvalid mem buffer hs hle 0 0

theorem copySges_pinned (hpd : pd.Pinned) (sges : List Sge) :
    ∀ (offset size : Nat) (mem : Mem) (b₁ b₂ : List UInt8), offset + size ≤ 2 ^ 34 →
    copySges pd access_flags .COPY_FROM sges offset size mem b₁ =
      copySges pd access_flags .COPY_FROM sges offset size mem b₂ := by
  induction sges with
  | nil =>
    intro offset size mem b₁ b₂ _
    rfl
  | cons sge sges ih =>
    intro offset size mem b₁ b₂ hle
    unfold copySges
    cases hmr : pd.mr_table (mrIndex sge.lkey) with
    | none => rfl
    | some mr =>
      have hoff : (if 0 < offset then if sge.length < offset then offset - sge.length else 0
          else offset) ≤ offset := by
        split
        · split <;> omega
        · exact le_refl _
      dsimp only
      generalize (if 0 < offset then if sge.length < offset then offset - sge.length else 0
          else offset) = offset' at hoff ⊢
      split
      · rfl
      rename_i hkey
      simp only [not_or, not_not] at hkey
      split
      · exact ih _ _ _ _ _ (by omega)
      rename_i hin
      split
      · rename_i hlt
        -- the element fills its part of the buffer
        have hp := hpd _ _ hmr hkey.1
        have hroom : mr.is_dma = false → sge.addr - mr.start + offset +
            (min sge.length (offset + size) - offset) ≤ mr.length := by
          intro hdma
          have hr := hp.range hdma sge.addr (min sge.length (offset + size)) (by omega)
            (by simpa using hin)
          omega
        obtain ⟨out, hlen, hcopy⟩ := hp.copy hkey.1 mem (sge.addr - mr.start + offset)
          (min sge.length (offset + size) - offset) (by omega) hroom
        rw [hcopy, hcopy, filled_full hlen, filled_full hlen,
          ih offset' _ mem (b₁.drop _) (b₂.drop (min sge.length (offset + size) - offset)) (by omega)]
      · split
        · rfl
        · exact ih _ _ _ _ _ (by omega)

theorem pibUtilMrCopyData_pinned (hpd : pd.Pinned) (sges : List Sge) (mem : Mem)
    (b₁ b₂ : List UInt8) {offset : Nat} (hoff : offset < 2 ^ 32) (size access_flags : Nat) :
    pibUtilMrCopyData pd sges mem b₁ offset size access_flags .COPY_FROM =
      pibUtilMrCopyData pd sges mem b₂ offset size access_flags .COPY_FROM := by
  unfold pibUtilMrCopyData
  split
  · rfl
  rename_i hmax
  unfold PIB_MAX_PAYLOAD_LEN at hmax
  exact copySges_pinned hpd sges _ _ _ _ _ (by omega)

theorem pibUtilMrCopyDataWithRkey_pinned (hpd : pd.Pinned) (rkey : Nat) (mem : Mem)
    (b₁ b₂ : List UInt8) (address size access_flags : Nat) :
    pibUtilMrCopyDataWithRkey pd rkey mem b₁ address size access_flags .COPY_FROM =
      pibUtilMrCopyDataWithRkey pd rkey mem b₂ address size access_flags .COPY_FROM := by
  unfold pibUtilMrCopyDataWithRkey copyDataWithRkey
  split
  · rfl
  rename_i hmax
  unfold PIB_MAX_PAYLOAD_LEN at hmax
  cases hmr : pd.mr_table (mrIndex rkey) with
  | none => rfl
  | some mr =>
    dsimp only
    split
    · rfl
    rename_i hin
    simp only [not_or, not_not, Bool.not_eq_true, Bool.not_eq_false] at hin
    obtain ⟨hvalid, -, -, hdma, hout⟩ := hin
    simp only [Bool.false_eq_true, if_false]
    by_cases hs : size = 0
    · subst hs
      simp [mrCopyData, hvalid, hdma, MrCopy.filled, putInto]
    have hp := hpd _ _ hmr hvalid
    have hr := hp.range hdma address size (by omega) hout
    obtain ⟨out, hlen, hcopy⟩ := hp.copy hvalid mem (address - mr.start) size (by omega)
      (by omega)
    rw [hcopy, hcopy, filled_full hlen, filled_full hlen]

end pib
