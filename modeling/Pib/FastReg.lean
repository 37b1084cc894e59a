-- Fast-register memory regions over their whole life (`create_mr`, its three
-- callers, `pib_util_mr_fast_reg_pmr` and `pib_util_mr_invalidate`): what a
-- region would have to go through, and why no region gets past the first step.
import Pib.Lib.Run
import Pib.Mr

namespace pib

open Bytes

/-! ## Creating regions -/

/-- What `create_mr` gets from its surroundings: which allocations succeed, the
number, and the random draws for the keys. -/
structure MrAlloc where
  mr_cachep : Bool := true
  page_list : Bool := true
  mr_num : Option Nat := some 1
  hackImmDataLkey : Bool := false
  draws : List (Nat × Nat) := [(0, 0)]

/-- A region as `kmem_cache_zalloc` returns it, with its number. -/
def zallocMr (mr_num : Nat) : Mr :=
  { mr_num, lkey := 0, rkey := 0, state := .INVALID, start := 0, length := 0, access_flags := 0
    umem := { page_shift := 0, offset := 0, pages := [] } }

/-- `create_mr`. `fill` is what the caller assigns afterwards, to the region that
is in the table already. -/
def createMr (pd : Pd) (a : MrAlloc) (init_state : MrState) (fast_reg_mr : Bool)
    (max_page_list_len : Nat) (fill : Mr → Mr) : Option (Pd × Mr) :=
  if a.mr_cachep = false then none
  else if fast_reg_mr = true ∧ 0 < max_page_list_len ∧ a.page_list = false then none
  else do
    let mr_num ← a.mr_num
    let i ← emptySlot pd
    let (pd, mr) ← regMr a.hackImmDataLkey a.draws pd (zallocMr mr_num)
    let mr := fill { mr with state := init_state, max_page_list_len }
    return (pd.setMr i (some mr), mr)

/-- `pib_get_dma_mr`. -/
def pibGetDmaMr (pd : Pd) (a : MrAlloc) (access_flags : Nat) : Option (Pd × Mr) :=
  createMr pd a .VALID false 0 fun mr =>
    { mr with start := 0, length := 2 ^ 64 - 1, access_flags, is_dma := true }

/-- `pib_reg_user_mr` on memory that `ib_umem_get` has pinned. -/
def pibRegUserMr (pd : Pd) (a : MrAlloc) (start length access_flags : Nat) (umem : Umem) :
    Option (Pd × Mr) :=
  createMr pd a .VALID false 0 fun mr => { mr with start, length, access_flags, umem }

/-- `pib_alloc_fast_reg_mr`. -/
def pibAllocFastRegMr (pd : Pd) (a : MrAlloc) (max_page_list_len : Nat) : Option (Pd × Mr) :=
  createMr pd a .FREE true max_page_list_len fun mr =>
    { mr with start := 0, length := 2 ^ 64 - 1, access_flags := 0 }

/-! ## The life of a fast-register region -/

/-- The byte of the listed pages behind an address of the region. -/
def FastReg.byteAt (f : FastReg) (address : Nat) : Nat :=
  let offset := address - f.iova_start
  f.page_list.getD (offset / 2 ^ f.page_shift) 0 + offset % 2 ^ f.page_shift

/-- `[address, address + size)` is a part of the region. -/
def FastReg.Covers (f : FastReg) (address size : Nat) : Prop :=
  f.iova_start ≤ address ∧ 0 < size ∧ address + size ≤ f.iova_start + f.length

/-- Every access through the key is refused. -/
def KeyRefused (pd : Pd) (rkey : Nat) : Prop :=
  ∀ mem,
    (∀ buffer address size access_flags direction check_only, (copyDataWithRkey pd rkey mem buffer
      address size access_flags direction check_only).1 ≠ .SUCCESS) ∧
    ∀ address swap compare direction,
      (pibUtilMrAtomic pd rkey mem address swap compare direction).1 ≠ .SUCCESS

/-- What a fast registration, the accesses and the invalidation that follow it
have to do. -/
structure LifeCycle (pd : Pd) (f : FastReg) : Prop where
  registered : (pibUtilMrFastRegPmr pd f).1 = .SUCCESS
  read : ∀ mem buffer address size, f.Covers address size → size ≤ PIB_MAX_PAYLOAD_LEN →
    f.access_flags &&& IB_ACCESS_REMOTE_READ ≠ 0 →
    pibUtilMrCopyDataWithRkey (pibUtilMrFastRegPmr pd f).2 f.rkey mem buffer address size
      IB_ACCESS_REMOTE_READ .COPY_FROM =
      (.SUCCESS, mem, (List.range size).map fun k => mem (f.byteAt (address + k)))
  written : ∀ mem buffer address size, f.Covers address size → size ≤ PIB_MAX_PAYLOAD_LEN →
    buffer.length = size → f.access_flags &&& IB_ACCESS_REMOTE_WRITE ≠ 0 →
    (pibUtilMrCopyDataWithRkey (pibUtilMrFastRegPmr pd f).2 f.rkey mem buffer address size
      IB_ACCESS_REMOTE_WRITE .COPY_TO).1 = .SUCCESS ∧
    (pibUtilMrCopyDataWithRkey (pibUtilMrFastRegPmr pd f).2 f.rkey mem buffer address size
      IB_ACCESS_REMOTE_WRITE .COPY_TO).2.1 = (List.range size).foldl
        (fun m k => Function.update m (f.byteAt (address + k)) (buffer.getD k 0)) mem
  atomic : ∀ mem address swap compare direction, f.Covers address 8 →
    f.access_flags &&& IB_ACCESS_REMOTE_ATOMIC ≠ 0 →
    (pibUtilMrAtomic (pibUtilMrFastRegPmr pd f).2 f.rkey mem address swap compare
      direction).1 = .SUCCESS
  second : ∀ again : FastReg, again.rkey = f.rkey →
    (pibUtilMrFastRegPmr (pibUtilMrFastRegPmr pd f).2 again).1 ≠ .SUCCESS
  invalidated : (pibUtilMrInvalidate (pibUtilMrFastRegPmr pd f).2 f.rkey).1 = .SUCCESS
  refused : KeyRefused (pibUtilMrInvalidate (pibUtilMrFastRegPmr pd f).2 f.rkey).2 f.rkey

/-! ## No region is a fast-register region -/

/-- The calls that change the regions of a protection domain. -/
inductive PdOp
  | getDmaMr (a : MrAlloc) (access_flags : Nat)
  | regUserMr (a : MrAlloc) (start length access_flags : Nat) (umem : Umem)
  | allocFastRegMr (a : MrAlloc) (max_page_list_len : Nat)
  | deregMr (mr : Mr)
  | fastRegMr (f : FastReg)
  | invalidate (rkey : Nat)

/-- A registration that fails changes nothing. -/
def pdStep (pd : Pd) : PdOp → Pd
  | .getDmaMr a access_flags => ((pibGetDmaMr pd a access_flags).map Prod.fst).getD pd
  | .regUserMr a start length access_flags umem =>
    ((pibRegUserMr pd a start length access_flags umem).map Prod.fst).getD pd
  | .allocFastRegMr a max_page_list_len =>
    ((pibAllocFastRegMr pd a max_page_list_len).map Prod.fst).getD pd
  | .deregMr mr => pibDeregMr pd mr
  | .fastRegMr f => (pibUtilMrFastRegPmr pd f).2
  | .invalidate rkey => (pibUtilMrInvalidate pd rkey).2

/-- A protection domain without regions. -/
def emptyPd : Pd := { nr_mr := 0, mr_table := fun _ => none }

/-- No region of the protection domain counts as a fast-register region. -/
def Unmarked (pd : Pd) : Prop := ∀ i mr, pd.mr_table i = some mr → mr.is_fast_reg_mr = false

theorem unmarked_setMr {pd : Pd} (h : Unmarked pd) (i : Nat) {mr : Option Mr}
    (hmr : ∀ m, mr = some m → m.is_fast_reg_mr = false) : Unmarked (pd.setMr i mr) := by
  intro j m hm
  simp only [Pd.setMr] at hm
  split at hm
  · exact hmr m hm
  · exact h j m hm

theorem regMr_spec {hack : Bool} {draws : List (Nat × Nat)} {pd pd' : Pd} {mr mr' : Mr}
    (h : regMr hack draws pd mr = some (pd', mr')) : ∃ i lkey rkey,
      mr' = { mr with lkey, rkey } ∧
      pd' = { pd.setMr i (some mr') with nr_mr := pd.nr_mr + 1 } := by
  unfold regMr at h
  rcases hi : emptySlot pd with _ | i
  · simp [hi] at h
  rcases hk : drawKeys hack i draws with _ | ⟨lkey, rkey⟩
  · simp [hi, hk] at h
  simp only [hi, hk, Option.bind_eq_bind, Option.bind_some, Option.pure_def, Option.some.injEq,
    Prod.mk.injEq] at h
  obtain ⟨rfl, rfl⟩ := h
  exact ⟨i, lkey, rkey, rfl, rfl⟩

/-- `create_mr` never writes `is_fast_reg_mr`: its argument `fast_reg_mr` only
decides whether a page list is allocated. -/
theorem unmarked_createMr {pd : Pd} (h : Unmarked pd) (a : MrAlloc) (init_state : MrState)
    (fast_reg_mr : Bool) (max_page_list_len : Nat) {fill : Mr → Mr}
    (hfill : ∀ mr, (fill mr).is_fast_reg_mr = mr.is_fast_reg_mr) :
    Unmarked (((createMr pd a init_state fast_reg_mr max_page_list_len fill).map
      Prod.fst).getD pd) := by
  unfold createMr
  split
  · exact h
  split
  · exact h
  rcases a.mr_num with _ | mr_num
  · exact h
  rcases emptySlot pd with _ | i
  · exact h
  rcases hreg : regMr a.hackImmDataLkey a.draws pd (zallocMr mr_num) with _ | ⟨pd', mr'⟩
  · simpa [hreg] using h
  obtain ⟨j, lkey, rkey, hmr, hpd⟩ := regMr_spec hreg
  have hflag : mr'.is_fast_reg_mr = false := by simp [hmr, zallocMr]
  have hpd' : Unmarked pd' := by
    rw [hpd]
    apply unmarked_setMr h j
    intro m hm
    rw [← Option.some.inj hm]
    exact hflag
  simp only [Option.bind_eq_bind, Option.bind_some, hreg, Option.pure_def, Option.map_some,
    Option.getD_some]
  apply unmarked_setMr hpd' i
  intro m hm
  rw [← Option.some.inj hm, hfill]
  exact hflag

theorem Unmarked.fastReg {pd : Pd} (h : Unmarked pd) (f : FastReg) :
    pibUtilMrFastRegPmr pd f = (.MW_BIND_ERR, pd) := by
  unfold pibUtilMrFastRegPmr
  rcases hmr : pd.mr_table (mrIndex f.rkey) with _ | mr
  · rfl
  · simp [h _ mr hmr]

theorem Unmarked.invalidate {pd : Pd} (h : Unmarked pd) (rkey : Nat) :
    pibUtilMrInvalidate pd rkey = (.MW_BIND_ERR, pd) := by
  unfold pibUtilMrInvalidate
  rcases hmr : pd.mr_table (mrIndex rkey) with _ | mr
  · rfl
  · simp [h _ mr hmr]

theorem unmarked_step (pd : Pd) (op : PdOp) (h : Unmarked pd) : Unmarked (pdStep pd op) := by
  cases op with
  | getDmaMr | regUserMr | allocFastRegMr =>
    apply unmarked_createMr h
    intro mr
    rfl
  | deregMr mr =>
    dsimp only [pdStep, pibDeregMr]
    split
    · exact h
    split
    · exact unmarked_setMr h _ (by simp)
    · exact h
  | fastRegMr f =>
    dsimp only [pdStep]
    rw [h.fastReg f]
    exact h
  | invalidate rkey =>
    dsimp only [pdStep]
    rw [h.invalidate rkey]
    exact h

/-- After any calls both operations refuse every key and change nothing, so no
registration begins the life that it should. -/
theorem fast_reg_never (ops : List PdOp) (f : FastReg) :
    let pd := Run.run pdStep emptyPd ops
    ¬ LifeCycle pd f ∧ pibUtilMrFastRegPmr pd f = (.MW_BIND_ERR, pd) ∧
      ∀ rkey, pibUtilMrInvalidate pd rkey = (.MW_BIND_ERR, pd) := by
  intro pd
  have hpd : Unmarked pd := by
    apply Run.always unmarked_step
    intro i mr hmr
    cases hmr
  refine ⟨?_, hpd.fastReg f, hpd.invalidate⟩
  intro hlife
  have hreg := hlife.registered
  rw [hpd.fastReg f] at hreg
  cases hreg

/-- A region of one page is allocated in the state `FREE`, and the registration of
that page with its key and full rights is refused. -/
theorem fast_reg_refused :
    let a : MrAlloc := { draws := [(5, 6)] }
    let f : FastReg :=
      { iova_start := 4096, page_list := [8192], max_page_list_len := 1, page_shift := 12
        page_list_len := 1, length := 4096, access_flags := 15, rkey := mrKey 0 6 }
    let pd := Run.run pdStep emptyPd [.allocFastRegMr a 1]
    ((pd.mr_table (mrIndex f.rkey)).map fun mr => (mr.state, mr.rkey, mr.max_page_list_len)) =
        some (.FREE, f.rkey, 1) ∧
      (pibUtilMrFastRegPmr pd f).1 = .MW_BIND_ERR ∧ ¬ LifeCycle pd f := by
  intro a f pd
  have hrefused : (pibUtilMrFastRegPmr pd f).1 = .MW_BIND_ERR := by decide +kernel
  refine ⟨by decide +kernel, hrefused, ?_⟩
  intro hlife
  have hreg := hlife.registered
  rw [hrefused] at hreg
  cases hreg

end pib
