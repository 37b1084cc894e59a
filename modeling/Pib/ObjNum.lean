-- The numbers of the objects of a device (`pib_alloc_obj_num`): seven ranges in one
-- bitmap, each with the number that was given out last. Numbers are given out in
-- turn, from there on and then from the start of the range.
import Pib.QpTables

namespace pib

/-! ## The search -/

/-- How far a number is after the last one, in the order of the search. -/
def gap (size last n : Nat) : Nat := if last < n then n - last else n + size - last

theorem findNextZeroBit_le {bitmap : Nat → Bool} {size n m : Nat} (hm : n ≤ m)
    (h : bitmap m = false) : findNextZeroBit bitmap size n ≤ m := by
  by_contra hlt
  have := (findNextZeroBit_spec bitmap size n).2.1 m hm (by omega)
  simp [h] at this

theorem freeObjNum_none {bitmap : Nat → Bool} {size last : Nat} :
    freeObjNum bitmap size last = none ↔ ∀ n, 0 < n → n < size → bitmap n = true := by
  obtain ⟨hle, -, hbit⟩ := findNextZeroBit_spec bitmap size (last + 1)
  obtain ⟨hle', hall, hbit'⟩ := findNextZeroBit_spec bitmap size 1
  unfold freeObjNum
  constructor
  · intro h n hpos hlt
    split at h
    · cases h
    split at h
    · cases h
    · exact hall n hpos (by omega)
  · intro h
    rw [if_neg fun hne => ?_, if_neg fun hne => ?_]
    · obtain ⟨hge, hzero⟩ := hbit' hne
      have := h (findNextZeroBit bitmap size 1) (by omega) (by omega)
      simp [hzero] at this
    · obtain ⟨hge, hzero⟩ := hbit hne
      have := h (findNextZeroBit bitmap size (last + 1)) (by omega) (by omega)
      simp [hzero] at this

/-- The number found is the first free one. -/
theorem freeObjNum_first {bitmap : Nat → Bool} {size last n : Nat}
    (h : freeObjNum bitmap size last = some n) : 0 < n ∧ n < size ∧
      ∀ m, 0 < m → m < size → bitmap m = false → gap size last n ≤ gap size last m := by
  obtain ⟨hle, -, hbit⟩ := findNextZeroBit_spec bitmap size (last + 1)
  obtain ⟨hle', -, hbit'⟩ := findNextZeroBit_spec bitmap size 1
  unfold freeObjNum at h
  split at h
  · rename_i hne
    obtain rfl := Option.some.inj h
    obtain ⟨hge, -⟩ := hbit hne
    refine ⟨by omega, by omega, fun m hm hm' hfree => ?_⟩
    have hmin : last < m → _ := fun h => @findNextZeroBit_le bitmap size (last + 1) m h hfree
    simp only [gap]
    split_ifs <;> omega
  · rename_i hend
    split at h
    · rename_i hne
      obtain rfl := Option.some.inj h
      obtain ⟨hge, -⟩ := hbit' hne
      refine ⟨by omega, by omega, fun m hm hm' hfree => ?_⟩
      have hmin : last < m → _ := fun h => @findNextZeroBit_le bitmap size (last + 1) m h hfree
      have hmin' := @findNextZeroBit_le bitmap size 1 m hm hfree
      simp only [gap]
      split_ifs <;> omega
    · cases h

theorem findNextZeroBit_here {bitmap : Nat → Bool} {size n : Nat} (hn : n < size)
    (h : bitmap n = false) : findNextZeroBit bitmap size n = n := by
  obtain ⟨k, hk⟩ : ∃ k, size - n = k + 1 := ⟨size - n - 1, by omega⟩
  rw [findNextZeroBit, if_neg (by omega), hk, zeroBitFrom, h]
  rfl

/-! ## The ranges -/

/-- What has a number of its own. -/
inductive ObjKind
  | CONTEXT | PD | SRQ | CQ | MR | AH | QP
  deriving DecidableEq, Repr

namespace ObjKind

/-- `PIB_MAX_CONTEXT` and its like. -/
def size : ObjKind → Nat
  | .AH | .QP => 0x1000000
  | _ => 0x10000

/-- `PIB_BITMAP_CONTEXT_START` and its like. -/
def start : ObjKind → Nat
  | .CONTEXT => 0
  | .PD => CONTEXT.size
  | .SRQ => CONTEXT.size + PD.size
  | .CQ => CONTEXT.size + PD.size + SRQ.size
  | .MR => CONTEXT.size + PD.size + SRQ.size + CQ.size
  | .AH => CONTEXT.size + PD.size + SRQ.size + CQ.size + MR.size
  | .QP => CONTEXT.size + PD.size + SRQ.size + CQ.size + MR.size + AH.size

/-- The numbers that are never given out. -/
def reserved : ObjKind → List Nat
  | .QP => [PIB_QP0, PIB_QP1, PIB_LINK_QP, IB_MULTICAST_QPN]
  | _ => [0]

end ObjKind

def BITS_PER_LONG : Nat := 64

/-- The part of `struct pib_dev` with the bitmap and the numbers given out last. -/
structure ObjNums where
  obj_num_bitmap : Nat → Bool
  last : ObjKind → Nat

namespace ObjNums

/-- The bit of a number of a range, in the words from `start / BITS_PER_LONG` on. -/
def place (k : ObjKind) (n : Nat) : Nat := k.start / BITS_PER_LONG * BITS_PER_LONG + n

def bits (d : ObjNums) (k : ObjKind) (n : Nat) : Bool := d.obj_num_bitmap (place k n)

/-- `setup_obj_num_bitmap`, on a cleared bitmap. `last_qp_num` begins at random. -/
def setupObjNumBitmap (last_qp_num : Nat) : ObjNums :=
  { obj_num_bitmap := fun i => decide (i ∈ [ObjKind.CONTEXT.start, ObjKind.PD.start,
      ObjKind.SRQ.start, ObjKind.CQ.start, ObjKind.MR.start, ObjKind.AH.start,
      ObjKind.QP.start + PIB_QP0, ObjKind.QP.start + PIB_QP1, ObjKind.QP.start + PIB_LINK_QP,
      ObjKind.QP.start + IB_MULTICAST_QPN])
    last := fun k => if k = .QP then last_qp_num else 0 }

/-- `pib_alloc_obj_num`. -/
def pibAllocObjNum (d : ObjNums) (k : ObjKind) : ObjNums × Option Nat :=
  match freeObjNum (d.bits k) k.size (d.last k) with
  | some n => (⟨Function.update d.obj_num_bitmap (place k n) true, Function.update d.last k n⟩, some n)
  | none => (d, none)

/-- `pib_dealloc_obj_num`. -/
def pibDeallocObjNum (d : ObjNums) (k : ObjKind) (index : Nat) : ObjNums :=
  { d with obj_num_bitmap := Function.update d.obj_num_bitmap (place k index) false }

/-- The ranges do not overlap. -/
theorem place_inj {k j : ObjKind} {n m : Nat} (hn : n < k.size) (hm : m < j.size)
    (h : place j m = place k n) : j = k ∧ m = n := by
  cases k <;> cases j <;> simp [place, ObjKind.start, ObjKind.size, BITS_PER_LONG] at h hn hm ⊢ <;>
    omega

theorem bits_update {d : ObjNums} {k j : ObjKind} {n m : Nat} (hn : n < k.size) (hm : m < j.size)
    (b : Bool) (last : ObjKind → Nat) :
    (ObjNums.mk (Function.update d.obj_num_bitmap (place k n) b) last).bits j m =
      if j = k ∧ m = n then b else d.bits j m := by
  unfold bits
  dsimp only
  split
  · rename_i h
    rw [h.1, h.2, Function.update_self]
  · rename_i h
    rw [Function.update_of_ne fun he => h (place_inj hn hm he)]

theorem bits_setup {k : ObjKind} {n : Nat} (last_qp_num : Nat) (hn : n < k.size) :
    (setupObjNumBitmap last_qp_num).bits k n = true ↔ n ∈ k.reserved := by
  cases k <;> simp [bits, place, setupObjNumBitmap, ObjKind.start, ObjKind.size, ObjKind.reserved,
    BITS_PER_LONG, PIB_QP0, PIB_QP1, PIB_LINK_QP, IB_MULTICAST_QPN] at hn ⊢ <;> omega

end ObjNums

/-! ## Numbers in use -/

/-- The device, with the numbers that were given out and not yet given back. -/
structure Numbers where
  dev : ObjNums
  live : ObjKind → List Nat

inductive NumCall
  | alloc (k : ObjKind)
  | dealloc (k : ObjKind) (index : Nat)
  deriving DecidableEq

namespace Numbers

def init (last_qp_num : Nat) : Numbers := ⟨.setupObjNumBitmap last_qp_num, fun _ => []⟩

def step (s : Numbers) : NumCall → Numbers
  | .alloc k => ⟨(s.dev.pibAllocObjNum k).1,
      Function.update s.live k (s.live k ++ (s.dev.pibAllocObjNum k).2.toList)⟩
  | .dealloc k n => ⟨s.dev.pibDeallocObjNum k n, Function.update s.live k ((s.live k).erase n)⟩

/-- The object that is given up has its number. -/
def Owned (s : Numbers) : NumCall → Prop
  | .alloc _ => True
  | .dealloc k n => n ∈ s.live k

instance (s : Numbers) (c : NumCall) : Decidable (s.Owned c) := by
  cases c <;> unfold Owned <;> infer_instance

def Free (s : Numbers) (k : ObjKind) (n : Nat) : Prop :=
  n < k.size ∧ n ∉ k.reserved ∧ n ∉ s.live k

/-- The numbers of a range that a run gives out. -/
def given (k : ObjKind) : Numbers → List NumCall → List Nat
  | _, [] => []
  | s, c :: cs =>
    (if c = .alloc k then (s.dev.pibAllocObjNum k).2.toList else []) ++ given k (s.step c) cs

/-- The bitmap has the reserved numbers and those in use. -/
structure Sound (s : Numbers) : Prop where
  bits : ∀ k n, n < k.size → (s.dev.bits k n = true ↔ n ∈ k.reserved ∨ n ∈ s.live k)
  live : ∀ k, ∀ n ∈ s.live k, n < k.size ∧ n ∉ k.reserved
  nodup : ∀ k, (s.live k).Nodup

theorem zero_reserved (k : ObjKind) : 0 ∈ k.reserved := by cases k <;> decide

variable {s : Numbers} {k j : ObjKind} {n : Nat}

theorem Free.pos (h : s.Free k n) : 0 < n :=
  Nat.pos_of_ne_zero fun h0 => h.2.1 (h0 ▸ zero_reserved k)

theorem Sound.free_iff (h : s.Sound) (hn : n < k.size) : s.dev.bits k n = false ↔ s.Free k n := by
  rw [← Bool.not_eq_true, h.bits k n hn, not_or]
  exact ⟨fun hf => ⟨hn, hf⟩, fun hf => hf.2⟩

theorem sound_init (last_qp_num : Nat) : (init last_qp_num).Sound :=
  ⟨fun k n hn => by simp [init, ObjNums.bits_setup _ hn], fun _ _ h => (List.not_mem_nil h).elim,
    fun _ => List.nodup_nil⟩

/-- What a search gives: nothing if all is in use, and otherwise the first free number. -/
theorem Sound.alloc (h : s.Sound) (k : ObjKind) :
    ((s.dev.pibAllocObjNum k).2 = none ∧ s.step (.alloc k) = s ∧ ∀ m, ¬s.Free k m) ∨
    ∃ n, (s.dev.pibAllocObjNum k).2 = some n ∧ s.Free k n ∧
      (∀ m, s.Free k m → gap k.size (s.dev.last k) n ≤ gap k.size (s.dev.last k) m) ∧
      s.step (.alloc k) = ⟨⟨Function.update s.dev.obj_num_bitmap (ObjNums.place k n) true,
        Function.update s.dev.last k n⟩, Function.update s.live k (s.live k ++ [n])⟩ := by
  rcases hf : freeObjNum (s.dev.bits k) k.size (s.dev.last k) with _ | n
  · refine Or.inl ⟨by simp [ObjNums.pibAllocObjNum, hf], by simp [step, ObjNums.pibAllocObjNum, hf],
      fun m hm => ?_⟩
    have hbit := freeObjNum_none.mp hf m hm.pos hm.1
    exact absurd ((h.free_iff hm.1).mpr hm) (by simp [hbit])
  · obtain ⟨-, hlt, hfirst⟩ := freeObjNum_first hf
    refine Or.inr ⟨n, by simp [ObjNums.pibAllocObjNum, hf], (h.free_iff hlt).mp (freeObjNum_spec hf),
      fun m hm => hfirst m hm.pos hm.1 ((h.free_iff hm.1).mpr hm), ?_⟩
    simp [step, ObjNums.pibAllocObjNum, hf]

/-- One number comes into use or goes out of it. -/
theorem Sound.change (h : s.Sound) {b : Bool} {ns : List Nat} (hn : n < k.size) (hres : n ∉ k.reserved)
    (hns : ns.Nodup) (hmem : ∀ m, m ∈ ns ↔ if m = n then b = true else m ∈ s.live k)
    (last : ObjKind → Nat) :
    Sound ⟨⟨Function.update s.dev.obj_num_bitmap (ObjNums.place k n) b, last⟩,
      Function.update s.live k ns⟩ := by
  refine ⟨fun j m hm => ?_, fun j => ?_, fun j => ?_⟩
  · have hbits := h.bits j m hm
    rw [ObjNums.bits_update hn hm]
    by_cases hj : j = k
    · subst hj
      by_cases hmn : m = n
      · simp [hmem, hmn, hres]
      · simp [hmem, hmn, hbits]
    · simp [hj, hbits]
  · by_cases hj : j = k
    · subst hj
      intro m hm
      simp only [Function.update_self, hmem] at hm
      split at hm
      · rename_i he
        exact he ▸ ⟨hn, hres⟩
      · exact h.live j m hm
    · simpa [hj] using h.live j
  · by_cases hj : j = k
    · subst hj
      simpa using hns
    · simpa [hj] using h.nodup j

theorem sound_step (s : Numbers) (c : NumCall) (h : s.Sound) (hc : s.Owned c) : (s.step c).Sound := by
  cases c with
  | alloc k =>
    rcases h.alloc k with ⟨-, hs, -⟩ | ⟨n, -, ⟨hn, hres, hlive⟩, -, hs⟩
    · rw [hs]
      exact h
    rw [hs]
    refine h.change hn hres ?_ (fun m => ?_) _
    · rw [← List.concat_eq_append]
      exact (h.nodup k).concat hlive
    · by_cases hm : m = n <;> simp [hm]
  | dealloc k n =>
    obtain ⟨hn, hres⟩ := h.live k n hc
    refine h.change hn hres ((h.nodup k).erase n) (fun m => ?_) _
    rw [(h.nodup k).mem_erase_iff]
    by_cases hm : m = n <;> simp [hm]

/-! ## The order in which numbers come back -/

theorem given_cons (k : ObjKind) (s : Numbers) (c : NumCall) (cs : List NumCall) :
    given k s (c :: cs) =
      (if c = .alloc k then (s.dev.pibAllocObjNum k).2.toList else []) ++ given k (s.step c) cs := rfl

/-- Since `n` was given back, the numbers `F` that were free then have been passed in
their order: what has not been given out of them lies ahead. -/
structure Ahead (k : ObjKind) (n : Nat) (F : Nat → Prop) (gone : List Nat) (s : Numbers) : Prop where
  sound : s.Sound
  own : s.Free k n
  last : s.dev.last k < k.size
  rest : ∀ m, F m → m ∉ gone → s.Free k m
  beyond : ∀ m, F m → m ∉ gone → s.dev.last k ≠ n → gap k.size n (s.dev.last k) < gap k.size n m

theorem gap_lt {size n m : Nat} (hn : n < size) (hm : m < size) (h : m ≠ n) : gap size n m < size := by
  unfold gap
  split <;> omega

/-- The distance from `n` is the one to a number on the way and the rest. -/
theorem gap_add {size n l m : Nat} (hn : n < size) (hl : l < size) (hm : m < size)
    (h : gap size n l < gap size n m) : gap size n m = gap size n l + gap size l m := by
  unfold gap at *
  by_cases h1 : n < l <;> by_cases h2 : n < m <;> by_cases h3 : l < m <;>
    simp only [h1, h2, h3, if_true, if_false] at h ⊢ <;> omega

theorem gap_back {size n l : Nat} (hn : n < size) (hl : l < size) (h : l ≠ n) :
    gap size n l + gap size l n = size := by
  simp only [gap]
  split_ifs <;> omega

theorem gap_inj {size l n m : Nat} (hl : l < size) (hn : n < size) (hm : m < size)
    (h : gap size l n = gap size l m) : n = m := by
  simp only [gap] at h
  split_ifs at h <;> omega

variable {F : Nat → Prop} {gone : List Nat}

/-- A number that the search finds is no farther from `n` than the others. -/
theorem Ahead.gap_le (h : Ahead k n F gone s) {x m : Nat} (hx : s.Free k x)
    (hfirst : ∀ m, s.Free k m → gap k.size (s.dev.last k) x ≤ gap k.size (s.dev.last k) m)
    (hF : F m) (hm : m ∉ gone) : gap k.size n x ≤ gap k.size n m := by
  have hfree := h.rest m hF hm
  by_cases hl : s.dev.last k = n
  · rw [hl] at hfirst
    exact hfirst m hfree
  have hmid := h.beyond m hF hm hl
  have hback := gap_back h.own.1 h.last hl
  have hadd := gap_add h.own.1 h.last hfree.1 hmid
  have hxn := hfirst n h.own
  have hxm := hfirst m hfree
  by_cases hxl : gap k.size n (s.dev.last k) < gap k.size n x
  · rw [gap_add h.own.1 h.last hx.1 hxl]
    omega
  · omega

theorem Ahead.step (h : Ahead k n F gone s) {c : NumCall} (hc : s.Owned c)
    (hn : n ∉ (if c = .alloc k then (s.dev.pibAllocObjNum k).2.toList else [])) :
    Ahead k n F (gone ++ if c = .alloc k then (s.dev.pibAllocObjNum k).2.toList else [])
      (s.step c) := by
  have hsound := sound_step s c h.sound hc
  cases c with
  | alloc j =>
    rcases h.sound.alloc j with ⟨hnone, hs, -⟩ | ⟨x, hx, hfree, hfirst, hs⟩
    · rw [hs]
      by_cases hj : j = k
      · subst hj
        simpa [hnone] using h
      · simpa [hj] using h
    by_cases hj : j = k
    · subst hj
      simp only [hx, Option.toList_some, if_true, List.mem_singleton] at hn ⊢
      refine ⟨hsound, ?_, ?_, fun m hF hm => ?_, fun m hF hm _ => ?_⟩
      · rw [hs]
        refine ⟨h.own.1, h.own.2.1, ?_⟩
        simp [h.own.2.2, hn]
      · rw [hs]
        simpa using hfree.1
      · obtain ⟨hm1, hm2⟩ := not_or.mp (List.mem_append.not.mp hm)
        obtain ⟨h1, h2, h3⟩ := h.rest m hF hm1
        rw [hs]
        refine ⟨h1, h2, ?_⟩
        simpa [h3] using hm2
      · obtain ⟨hm1, hm2⟩ := not_or.mp (List.mem_append.not.mp hm)
        have hle := h.gap_le hfree hfirst hF hm1
        have hne : gap j.size n x ≠ gap j.size n m := fun he =>
          hm2 (List.mem_singleton.mpr (gap_inj h.own.1 hfree.1 (h.rest m hF hm1).1 he).symm)
        rw [hs]
        simp only [Function.update_self]
        omega
    · have hk : k ≠ j := Ne.symm hj
      simp only [NumCall.alloc.injEq, hj, if_false, List.append_nil]
      refine ⟨hsound, ?_, ?_, fun m hF hm => ?_, fun m hF hm => ?_⟩ <;> rw [hs]
      · simpa [Free, hk] using h.own
      · simpa [hk] using h.last
      · simpa [Free, hk] using h.rest m hF hm
      · simpa [hk] using h.beyond m hF hm
  | dealloc j i =>
    have hlive : ∀ m, m ∈ (s.step (.dealloc j i)).live k → m ∈ s.live k := by
      intro m hm
      by_cases hj : k = j
      · subst hj
        exact List.mem_of_mem_erase (by simpa [Numbers.step] using hm)
      · simpa [Numbers.step, hj] using hm
    simp only [reduceCtorEq, if_false, List.append_nil]
    exact ⟨hsound, ⟨h.own.1, h.own.2.1, fun hm => h.own.2.2 (hlive n hm)⟩, h.last, fun m hF hm =>
      ⟨(h.rest m hF hm).1, (h.rest m hF hm).2.1, fun hl => (h.rest m hF hm).2.2 (hlive m hl)⟩, h.beyond⟩

theorem Ahead.run (cs : List NumCall) : ∀ {s gone}, Ahead k n F gone s →
    Run.Meets Numbers.step Owned s cs → n ∉ given k s cs →
    Ahead k n F (gone ++ given k s cs) (Run.run Numbers.step s cs) := by
  induction cs with
  | nil =>
    intro s gone h _ _
    simpa [given] using h
  | cons c cs ih =>
    intro s gone h hm hn
    rw [given_cons] at hn ⊢
    obtain ⟨hn1, hn2⟩ := not_or.mp (List.mem_append.not.mp hn)
    rw [Run.run_cons, ← List.append_assoc]
    exact ih (h.step hm.1 hn1) hm.2 hn2

/-- The number given out last, once it is given back, comes after all that were free
then. -/
theorem reused_late (h : s.Sound) (hlast : s.dev.last k = n) (hn : n ∈ s.live k) {cs : List NumCall}
    (hm : Run.Meets step Owned (s.step (.dealloc k n)) cs)
    (hnew : n ∉ given k (s.step (.dealloc k n)) cs)
    (hback : ((Run.run step (s.step (.dealloc k n)) cs).dev.pibAllocObjNum k).2 = some n) (m : Nat)
    (hfree : (s.step (.dealloc k n)).Free k m) (hne : m ≠ n) :
    m ∈ given k (s.step (.dealloc k n)) cs := by
  have hsound := sound_step s (.dealloc k n) h hn
  obtain ⟨hlt, hres⟩ := h.live k n hn
  have hstart : Ahead k n ((s.step (.dealloc k n)).Free k) [] (s.step (.dealloc k n)) := by
    refine ⟨hsound, ⟨hlt, hres, ?_⟩, ?_, fun m hm _ => hm, fun m _ _ hl => absurd hlast hl⟩
    · simp [Numbers.step, (h.nodup k).mem_erase_iff]
    · exact hlast.symm ▸ hlt
  have hend := hstart.run cs hm hnew
  rw [List.nil_append] at hend
  by_contra hgone
  rcases hend.sound.alloc k with ⟨hnone, -⟩ | ⟨x, hx, hxfree, hfirst, -⟩
  · rw [hnone] at hback
    cases hback
  obtain rfl : x = n := Option.some.inj (hx.symm.trans hback)
  have hle := hend.gap_le hxfree hfirst hfree hgone
  have hlt' := gap_lt hlt hfree.1 hne
  have hself : gap k.size x x = k.size := by simp [gap]
  omega

/-! ## Allocation as a whole -/

theorem dealloc_ne (s : Numbers) {n : Nat} (hn : n < k.size) (hj : j ≠ k) {m : Nat} (hm : m < j.size) :
    (s.step (.dealloc k n)).dev.bits j m = s.dev.bits j m := by
  rw [step, ObjNums.pibDeallocObjNum, ObjNums.bits_update hn hm, if_neg fun h => hj h.1]

theorem Sound.alloc_ne (h : s.Sound) (hj : j ≠ k) {m : Nat} (hm : m < j.size) :
    (s.step (.alloc k)).dev.bits j m = s.dev.bits j m := by
  rcases h.alloc k with ⟨-, hs, -⟩ | ⟨n, -, hfree, -, hs⟩
  · rw [hs]
  · rw [hs, ObjNums.bits_update hfree.1 hm, if_neg fun h => hj h.1]

/-- After any calls in which only numbers in use are given back: the numbers in use are
distinct and none is reserved, allocation fails when there is none left and otherwise
gives the next free number, a call leaves the other ranges alone, and a number that is
given back while it is the last one comes again only after all others that are free. -/
theorem obj_num_round_robin (last_qp_num : Nat) (cs : List NumCall)
    (hcs : Run.Meets step Owned (init last_qp_num) cs) :
    let s := Run.run step (init last_qp_num) cs
    (∀ k, (s.live k).Nodup ∧ ∀ n ∈ s.live k, 0 < n ∧ n < k.size ∧ n ∉ k.reserved) ∧
    (∀ k, (s.dev.pibAllocObjNum k).2 = none ↔ ∀ n < k.size, n ∈ k.reserved ∨ n ∈ s.live k) ∧
    (∀ k n, (s.dev.pibAllocObjNum k).2 = some n → s.Free k n ∧ (s.step (.alloc k)).dev.last k = n ∧
      ∀ m, s.Free k m → gap k.size (s.dev.last k) n ≤ gap k.size (s.dev.last k) m) ∧
    (∀ k j n m, j ≠ k → n ∈ s.live k → m < j.size →
      (s.step (.alloc k)).dev.bits j m = s.dev.bits j m ∧
        (s.step (.dealloc k n)).dev.bits j m = s.dev.bits j m) ∧
    ∀ k n ds, s.dev.last k = n → n ∈ s.live k →
      Run.Meets step Owned (s.step (.dealloc k n)) ds → n ∉ given k (s.step (.dealloc k n)) ds →
      ((Run.run step (s.step (.dealloc k n)) ds).dev.pibAllocObjNum k).2 = some n →
      ∀ m, (s.step (.dealloc k n)).Free k m → m ≠ n → m ∈ given k (s.step (.dealloc k n)) ds := by
  intro s
  have h : s.Sound := Run.invariant sound_step (sound_init last_qp_num) hcs
  refine ⟨fun k => ⟨h.nodup k, fun n hn => ?_⟩, fun k => ?_, fun k n hn => ?_, fun k j n m hj hn hm => ?_,
    fun k n ds hlast hn hm hnew hback => reused_late h hlast hn hm hnew hback⟩
  · have hfree := h.live k n hn
    exact ⟨Nat.pos_of_ne_zero fun h0 => hfree.2 (h0 ▸ zero_reserved k), hfree⟩
  · rcases h.alloc k with ⟨hnone, -, hall⟩ | ⟨n, hsome, hfree, -⟩
    · refine ⟨fun _ n hn => ?_, fun _ => hnone⟩
      by_contra hno
      exact hall n ⟨hn, not_or.mp hno⟩
    · rw [hsome]
      exact ⟨nofun, fun hall => absurd (hall n hfree.1) (not_or.mpr hfree.2)⟩
  · rcases h.alloc k with ⟨hnone, -⟩ | ⟨n', hsome, hfree, hfirst, hs⟩
    · rw [hnone] at hn
      cases hn
    · obtain rfl : n' = n := Option.some.inj (hsome.symm.trans hn)
      refine ⟨hfree, ?_, hfirst⟩
      rw [hs]
      exact Function.update_self ..
  · exact ⟨h.alloc_ne hj hm, dealloc_ne s (h.live k n hn).1 hj hm⟩

/-- Two queue pairs, of which the first goes and a third comes. -/
theorem obj_num_round_robin_three :
    (Run.run step (init 4) [.alloc .QP, .alloc .QP, .dealloc .QP 5, .alloc .QP]).live .QP = [6, 7] ∧
      ([6, 7] : List Nat).Nodup := by
  have h := ((obj_num_round_robin 4 [.alloc .QP, .alloc .QP, .dealloc .QP 5, .alloc .QP]
    (by decide +kernel)).1 .QP).1
  have hlive : (Run.run step (init 4) [.alloc .QP, .alloc .QP, .dealloc .QP 5, .alloc .QP]).live .QP =
      [6, 7] := by decide +kernel
  exact ⟨hlive, hlive ▸ h⟩

/-! ## A number that comes back early -/

/-- Protection domains get the numbers from 1 on. -/
theorem run_alloc (i : Nat) (hi : i < ObjKind.PD.size) :
    let s := Run.run step (init 0) (List.replicate i (.alloc .PD))
    s.Sound ∧ s.dev.last .PD = i ∧ ∀ n, n ∈ s.live .PD ↔ 0 < n ∧ n ≤ i := by
  induction i with
  | zero => exact ⟨sound_init 0, rfl, fun n => ⟨nofun, fun h => absurd h.1 (by omega)⟩⟩
  | succ i ih =>
    rw [List.replicate_succ', Run.run_append]
    obtain ⟨hs, hlast, hlive⟩ := ih (by omega)
    generalize Run.run step (init 0) (List.replicate i (.alloc .PD)) = s at hs hlast hlive
    have hfree : s.Free .PD (i + 1) := ⟨hi, by simp [ObjKind.reserved], by rw [hlive]; omega⟩
    have hfind : freeObjNum (s.dev.bits .PD) ObjKind.PD.size i = some (i + 1) := by
      rw [freeObjNum, findNextZeroBit_here hi ((hs.free_iff hi).mpr hfree), if_pos hi.ne]
    refine ⟨sound_step s (.alloc .PD) hs trivial, ?_, fun n => ?_⟩ <;>
      simp only [Run.run_cons, Run.run_nil, step, ObjNums.pibAllocObjNum, hlast, hfind,
        Function.update_self, Option.toList_some, List.mem_append, List.mem_singleton, hlive]
    omega

theorem meets_alloc (k : ObjKind) (i : Nat) (s : Numbers) :
    Run.Meets step Owned s (List.replicate i (.alloc k)) := by
  induction i generalizing s with
  | zero => trivial
  | succ i ih => exact ⟨trivial, ih _⟩

theorem Sound.mem_dealloc (h : s.Sound) (k : ObjKind) (i n : Nat) :
    n ∈ (s.step (.dealloc k i)).live k ↔ n ≠ i ∧ n ∈ s.live k := by
  simp [step, (h.nodup k).mem_erase_iff]

theorem reused_early (i : Nat) (hi : i + 1 = ObjKind.PD.size) :
    let cs := List.replicate i (NumCall.alloc .PD) ++ [.dealloc .PD 1, .alloc .PD, .dealloc .PD 3]
    let s := Run.run step (init 0) cs
    Run.Meets step Owned (init 0) cs ∧ 2 ∈ s.live .PD ∧ (s.step (.dealloc .PD 2)).Free .PD 3 ∧
      ((s.step (.dealloc .PD 2)).dev.pibAllocObjNum .PD).2 = some 2 := by
  obtain ⟨h0, hlast, hlive0⟩ := run_alloc i (by omega)
  have hm := meets_alloc .PD i (init 0)
  have hsize : i = 65535 := Nat.succ.inj hi
  dsimp only
  rw [Run.run_append, Run.meets_append]
  generalize Run.run step (init 0) (List.replicate i (.alloc .PD)) = s₀ at h0 hlast hlive0
  have hown1 : s₀.Owned (.dealloc .PD 1) := (hlive0 1).mpr (by omega)
  have h1 := sound_step s₀ (.dealloc .PD 1) h0 hown1
  have hlive1 := h0.mem_dealloc .PD 1
  generalize he1 : s₀.step (.dealloc .PD 1) = s₁ at h1 hlive1
  have hfree1 : s₁.Free .PD 1 := ⟨by decide, by decide, by simp [hlive1]⟩
  -- the only free number is found
  obtain ⟨n, -, hn, -, hs2⟩ := (h1.alloc .PD).resolve_left fun h => h.2.2 1 hfree1
  obtain rfl : n = 1 := by
    have hlt : n < 65536 := hn.1
    have hno := hn.2.2
    rw [hlive1, hlive0] at hno
    have := hn.pos
    omega
  have h2 := sound_step s₁ (.alloc .PD) h1 trivial
  have hlive2 : ∀ n, n ∈ (s₁.step (.alloc .PD)).live .PD ↔ 0 < n ∧ n ≤ i := by
    intro n
    rw [hs2]
    simp only [Function.update_self, List.mem_append, List.mem_singleton, hlive1, hlive0]
    omega
  have hlast2 : (s₁.step (.alloc .PD)).dev.last .PD = 1 := by
    rw [hs2]
    simp
  generalize he2 : s₁.step (.alloc .PD) = s₂ at h2 hlive2 hlast2
  have hown3 : s₂.Owned (.dealloc .PD 3) := (hlive2 3).mpr (by omega)
  have h3 := sound_step s₂ (.dealloc .PD 3) h2 hown3
  have hlive3 := h2.mem_dealloc .PD 3
  have hlast3 : (s₂.step (.dealloc .PD 3)).dev.last .PD = 1 := hlast2
  refine ⟨⟨hm, ?_⟩, ?_⟩
  · refine ⟨hown1, trivial, ?_, trivial⟩
    rw [he1, he2]
    exact hown3
  simp only [Run.run_cons, Run.run_nil, he1, he2]
  generalize s₂.step (.dealloc .PD 3) = s₃ at h3 hlive3 hlast3
  have hmem : 2 ∈ s₃.live .PD := (hlive3 2).mpr ⟨by decide, (hlive2 2).mpr (by omega)⟩
  have h4 := sound_step s₃ (.dealloc .PD 2) h3 hmem
  have hlive4 := h3.mem_dealloc .PD 2
  have hlast4 : (s₃.step (.dealloc .PD 2)).dev.last .PD = 1 := hlast3
  generalize s₃.step (.dealloc .PD 2) = s₄ at h4 hlive4 hlast4
  have hfree2 : s₄.Free .PD 2 := ⟨by decide, by decide, by simp [hlive4]⟩
  refine ⟨hmem, ⟨by decide, by decide, by simp [hlive4, hlive3]⟩, ?_⟩
  obtain ⟨n, hsome, hn, hfirst, -⟩ := (h4.alloc .PD).resolve_left fun h => h.2.2 2 hfree2
  have hle := hfirst 2 hfree2
  have hpos := hn.pos
  have hone : n ≠ 1 := by
    rintro rfl
    refine hn.2.2 ((hlive4 1).mpr ⟨by decide, (hlive3 1).mpr ⟨by decide, (hlive2 1).mpr ?_⟩⟩)
    omega
  have hn2 : n = 2 := by
    rw [hlast4, gap, gap, if_pos (by omega)] at hle
    simp only [if_true, Nat.one_lt_ofNat] at hle
    omega
  rw [hsome, hn2]

/-- All numbers are in use, and 1 is given back and out again. Then 3 and 2 are given
back, and 2 is the next to be given out. -/
theorem obj_num_reused_early :
    let cs := List.replicate 65535 (NumCall.alloc .PD) ++ [.dealloc .PD 1, .alloc .PD, .dealloc .PD 3]
    let s := Run.run step (init 0) cs
    Run.Meets step Owned (init 0) cs ∧ 2 ∈ s.live .PD ∧ (s.step (.dealloc .PD 2)).Free .PD 3 ∧
      ((s.step (.dealloc .PD 2)).dev.pibAllocObjNum .PD).2 = some 2 :=
  reused_early 65535 rfl

end Numbers

end pib
