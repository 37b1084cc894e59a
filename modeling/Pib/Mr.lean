-- Memory regions (`pib_mr.c`): the key table of a protection domain, the
-- copies through lkeys and rkeys, the atomic operations and the two
-- operations on fast-register regions.
import Pib.Types

namespace pib

open Bytes

/-! ## Regions and protection domains -/

/-- `enum pib_mr_state`. -/
inductive MrState
  | INVALID | FREE | VALID
  deriving DecidableEq, Repr

/-- `enum pib_mr_direction`. -/
inductive MrDirection
  | COPY_FROM | COPY_TO | CAS | FETCHADD | CHECK
  deriving DecidableEq, Repr

/-- The bits of `enum ib_access_flags`. -/
def IB_ACCESS_LOCAL_WRITE : Nat := 1
def IB_ACCESS_REMOTE_WRITE : Nat := 2
def IB_ACCESS_REMOTE_READ : Nat := 4
def IB_ACCESS_REMOTE_ATOMIC : Nat := 8

/-- `struct ib_umem`: one entry a page, with the page's kernel address
(`page_address`, which may be missing). The page size is `2 ^ page_shift`. -/
structure Umem where
  page_shift : Nat
  offset : Nat
  pages : List (Option Nat)
  deriving DecidableEq, Repr

/-- `struct pib_mr`. -/
structure Mr where
  mr_num : Nat
  lkey : Nat
  rkey : Nat
  state : MrState
  is_fast_reg_mr : Bool := false
  is_dma : Bool := false
  start : Nat
  length : Nat
  access_flags : Nat
  umem : Umem
  max_page_list_len : Nat := 0
  page_list : List Nat := []
  page_shift : Nat := 0
  deriving DecidableEq, Repr

/-- `struct pib_pd`: `mr_table` has `PIB_MAX_MR_PER_PD` entries. -/
structure Pd where
  nr_mr : Int
  mr_table : Nat → Option Mr

/-- `(key & PIB_MR_INDEX_MASK) >> PIB_MR_INDEX_SHIFT`. -/
def mrIndex (key : Nat) : Nat := key / 2 ^ PIB_MR_INDEX_SHIFT % PIB_MAX_MR_PER_PD

/-! ## Copying in and out of one region -/

/-- What a copy leaves: the memory, the bytes put in the caller's buffer,
and whether it returned 0. -/
structure MrCopy where
  mem : Mem
  out : List UInt8
  ok : Bool

/-- The `size` bytes of the caller's buffer after `out` has been put at their
front. What was not copied stays as it was; a buffer that is not given counts
as cleared. -/
def putInto (size : Nat) (buffer out : List UInt8) : List UInt8 :=
  out ++ ((buffer ++ List.replicate size 0).take size).drop out.length

/-- The part of the caller's buffer that a copy of `size` bytes is for. -/
def MrCopy.filled (c : MrCopy) (direction : MrDirection) (size : Nat) (buffer : List UInt8) :
    List UInt8 :=
  if direction = .COPY_FROM then putInto size buffer c.out else c.out

/-- `mr_copy_data_sub`: one contiguous piece. The flag tells that the
caller returns at once. `CHECK` is a `BUG()` that no caller reaches. -/
def mrCopyDataSub (mem : Mem) (buffer : List UInt8) (target_vaddr range swap compare : Nat) :
    MrDirection → Mem × List UInt8 × Bool
  | .COPY_FROM => (mem, read mem target_vaddr range, false)
  | .COPY_TO => (write mem target_vaddr (buffer.take range), [], false)
  | .CAS =>
    let old := ofLe (read mem target_vaddr 8)
    (if old = compare then write mem target_vaddr (le 8 swap) else mem, le 8 old, true)
  | .FETCHADD =>
    let res := u64 (ofLe (read mem target_vaddr 8) + compare)
    (write mem target_vaddr (le 8 res), le 8 (res + 2 ^ 64 - u64 compare), true)
  | .CHECK => (mem, [], true)

/-- The loop of `mr_copy_data` over the pages of a region. `addr` is the
offset at which the current page begins. -/
def mrCopyPages (page_size swap compare : Nat) (direction : MrDirection) :
    List (Option Nat) → Nat → Nat → Nat → Mem → List UInt8 → MrCopy
  | [], _, _, _, mem, _ => ⟨mem, [], true⟩
  | none :: _, _, _, _, mem, _ => ⟨mem, [], false⟩
  | some vaddr :: pages, addr, offset, size, mem, buffer =>
    if addr ≤ offset ∧ offset < addr + page_size then
      let range := min (addr + page_size - offset) size
      let target_vaddr := vaddr + offset % page_size
      match mrCopyDataSub mem buffer target_vaddr range swap compare direction with
      | (mem, out, true) => ⟨mem, out, true⟩
      | (mem, out, false) =>
        if size - range = 0 then ⟨mem, out, true⟩
        else
          let c := mrCopyPages page_size swap compare direction pages (addr + page_size)
            (offset + range) (size - range) mem (buffer.drop range)
          ⟨c.mem, out ++ c.out, c.ok⟩
    else if size = 0 then ⟨mem, [], true⟩
    else mrCopyPages page_size swap compare direction pages (addr + page_size) offset size mem
      buffer

/-- `mr_copy_data`. -/
def mrCopyData (mr : Mr) (mem : Mem) (buffer : List UInt8) (offset size swap compare : Nat)
    (direction : MrDirection) : MrCopy :=
  if mr.state ≠ .VALID then ⟨mem, [], false⟩
  else if mr.is_dma then
    let (mem, out, _) := mrCopyDataSub mem buffer offset size swap compare direction
    ⟨mem, out, true⟩
  else if size = 0 then ⟨mem, [], true⟩
  else if mr.is_fast_reg_mr then
    mrCopyPages (2 ^ mr.page_shift) swap compare direction (mr.page_list.map some) 0
      (offset + mr.umem.offset) size mem buffer
  else
    mrCopyPages (2 ^ mr.umem.page_shift) swap compare direction mr.umem.pages 0
      (offset + mr.umem.offset) size mem buffer

/-! ## Copying through keys -/

/-- `(mr->access_flags & access_flags) == access_flags`. -/
def hasAccess (mr : Mr) (access_flags : Nat) : Bool :=
  mr.access_flags &&& access_flags == access_flags

/-- The range test that the copies share: `[address, address + size)` may
not leave the region. -/
def outsideMr (mr : Mr) (address size : Nat) : Bool :=
  decide (address < mr.start) || decide (u64 (mr.start + mr.length) ≤ address) ||
    decide (u64 (address + size) ≤ mr.start) ||
    decide (u64 (mr.start + mr.length) < u64 (address + size))

/-- The loop of `pib_util_mr_copy_data` over the scatter/gather list. -/
def copySges (pd : Pd) (access_flags : Nat) (direction : MrDirection) :
    List Sge → Nat → Nat → Mem → List UInt8 → WcStatus × Mem × List UInt8
  | [], _, _, mem, _ => (.LOC_PROT_ERR, mem, [])
  | sge :: sges, offset, size, mem, buffer =>
    match pd.mr_table (mrIndex sge.lkey) with
    | none => (.LOC_PROT_ERR, mem, [])
    | some mr =>
      if mr.state ≠ .VALID ∨ sge.lkey ≠ mr.lkey ∨ hasAccess mr access_flags = false then
        (.LOC_PROT_ERR, mem, [])
      else
        let range := min sge.length (offset + size)
        let offset_tmp := offset
        let offset := if 0 < offset then (if sge.length < offset then offset - sge.length else 0)
          else offset
        if outsideMr mr sge.addr range then
          -- the element is passed over and the buffer does not move
          copySges pd access_flags direction sges offset size mem buffer
        else if offset_tmp < range then
          let chunk_size := range - offset_tmp
          -- the result is not looked at, and the buffer moves on all the same
          let c := mrCopyData mr mem buffer (sge.addr - mr.start + offset_tmp) chunk_size 0 0
            direction
          let filled := c.filled direction chunk_size buffer
          if size - chunk_size = 0 then (.SUCCESS, c.mem, filled)
          else
            let (status, mem, out) := copySges pd access_flags direction sges offset
              (size - chunk_size) c.mem (buffer.drop chunk_size)
            (status, mem, filled ++ out)
        else if size = 0 then (.SUCCESS, mem, [])
        else copySges pd access_flags direction sges offset size mem buffer

/-- `pib_util_mr_copy_data`. -/
def pibUtilMrCopyData (pd : Pd) (sge_array : List Sge) (mem : Mem) (buffer : List UInt8)
    (offset size access_flags : Nat) (direction : MrDirection) : WcStatus × Mem × List UInt8 :=
  if PIB_MAX_PAYLOAD_LEN < size then (.LOC_LEN_ERR, mem, [])
  else copySges pd access_flags direction sge_array offset size mem buffer

/-- `copy_data_with_rkey`. -/
def copyDataWithRkey (pd : Pd) (rkey : Nat) (mem : Mem) (buffer : List UInt8)
    (address size access_flags : Nat) (direction : MrDirection) (check_only : Bool) :
    WcStatus × Mem × List UInt8 :=
  if PIB_MAX_PAYLOAD_LEN < size then (.LOC_LEN_ERR, mem, [])
  else
    match pd.mr_table (mrIndex rkey) with
    | none => (.LOC_PROT_ERR, mem, [])
    | some mr =>
      if mr.state ≠ .VALID ∨ rkey ≠ mr.rkey ∨ hasAccess mr access_flags = false ∨
          mr.is_dma = true ∨ outsideMr mr address size = true then (.LOC_PROT_ERR, mem, [])
      else if check_only then (.SUCCESS, mem, [])
      else
        let c := mrCopyData mr mem buffer (address - mr.start) size 0 0 direction
        (if c.ok then .SUCCESS else .LOC_PROT_ERR, c.mem, c.filled direction size buffer)

/-- `pib_util_mr_verify_rkey_validation`. -/
def pibUtilMrVerifyRkeyValidation (pd : Pd) (rkey address size access_flags : Nat) : WcStatus :=
  (copyDataWithRkey pd rkey (fun _ => 0) [] address size access_flags .CHECK true).1

/-- `pib_util_mr_copy_data_with_rkey`. -/
def pibUtilMrCopyDataWithRkey (pd : Pd) (rkey : Nat) (mem : Mem) (buffer : List UInt8)
    (address size access_flags : Nat) (direction : MrDirection) : WcStatus × Mem × List UInt8 :=
  copyDataWithRkey pd rkey mem buffer address size access_flags direction false

/-- `pib_util_mr_atomic`. -/
def pibUtilMrAtomic (pd : Pd) (rkey : Nat) (mem : Mem) (address swap compare : Nat)
    (direction : MrDirection) : WcStatus × Mem × Nat :=
  match pd.mr_table (mrIndex rkey) with
  | none => (.LOC_PROT_ERR, mem, 0)
  | some mr =>
    if mr.state ≠ .VALID ∨ rkey ≠ mr.rkey ∨ hasAccess mr IB_ACCESS_REMOTE_ATOMIC = false ∨
        outsideMr mr address 8 = true then (.LOC_PROT_ERR, mem, 0)
    else
      let c := mrCopyData mr mem [] (address - mr.start) 8 swap compare
        (if direction = .FETCHADD then .FETCHADD else .CAS)
      (if c.ok then .SUCCESS else .LOC_PROT_ERR, c.mem, ofLe c.out)

/-! ## Registration -/

/-- The slot that `reg_mr` finds: the first free one. -/
def emptySlot (pd : Pd) : Option Nat :=
  (List.range PIB_MAX_MR_PER_PD).find? fun i => (pd.mr_table i).isNone

/-- A key of slot `i` around a random number. -/
def mrKey (i random : Nat) : Nat :=
  u32 (u32 (i + u32 random * PIB_MAX_MR_PER_PD) * 2 ^ PIB_MR_INDEX_SHIFT)

/-- The draws of `reg_mr` until one gives a usable lkey. Draws that never
do are the loop that does not end. -/
def drawKeys (hackImmDataLkey : Bool) (i : Nat) : List (Nat × Nat) → Option (Nat × Nat)
  | [] => none
  | (r1, r2) :: draws =>
    let lkey := mrKey i r1
    if lkey = PIB_LOCAL_DMA_LKEY ∨ (hackImmDataLkey = true ∧ lkey = PIB_IMM_DATA_LKEY) then
      drawKeys hackImmDataLkey i draws
    else some (lkey, mrKey i r2)

def Pd.setMr (pd : Pd) (i : Nat) (mr : Option Mr) : Pd :=
  { pd with mr_table := fun j => if j = i then mr else pd.mr_table j }

/-- `reg_mr` on a region that has no keys yet. -/
def regMr (hackImmDataLkey : Bool) (draws : List (Nat × Nat)) (pd : Pd) (mr : Mr) :
    Option (Pd × Mr) := do
  let i ← emptySlot pd
  let (lkey, rkey) ← drawKeys hackImmDataLkey i draws
  let mr := { mr with lkey := lkey, rkey := rkey }
  return ({ pd.setMr i (some mr) with nr_mr := pd.nr_mr + 1 }, mr)

/-- The table part of `pib_dereg_mr`: the slot that the lkey names is
cleared when it holds this region. -/
def pibDeregMr (pd : Pd) (mr : Mr) : Pd :=
  match pd.mr_table (mrIndex mr.lkey) with
  | none => pd
  | some mr_comp =>
    if mr_comp.mr_num = mr.mr_num then
      { pd.setMr (mrIndex mr.lkey) none with nr_mr := pd.nr_mr - 1 }
    else pd

/-! ## Local operations on fast-register regions -/

/-- `pib_util_mr_invalidate`. -/
def pibUtilMrInvalidate (pd : Pd) (rkey : Nat) : WcStatus × Pd :=
  match pd.mr_table (mrIndex rkey) with
  | none => (.MW_BIND_ERR, pd)
  | some mr =>
    if mr.state = .INVALID ∨ mr.is_fast_reg_mr = false ∨ rkey ≠ mr.rkey then (.MW_BIND_ERR, pd)
    else (.SUCCESS, pd.setMr (mrIndex rkey) (some { mr with state := .FREE }))

/-- `pib_util_mr_fast_reg_pmr`. -/
def pibUtilMrFastRegPmr (pd : Pd) (f : FastReg) : WcStatus × Pd :=
  match pd.mr_table (mrIndex f.rkey) with
  | none => (.MW_BIND_ERR, pd)
  | some mr =>
    if mr.state = .INVALID ∨ mr.state = .VALID ∨ mr.is_fast_reg_mr = false ∨ f.rkey ≠ mr.rkey ∨
        mr.max_page_list_len < f.page_list_len ∨ f.max_page_list_len < f.page_list_len ∨
        2 ^ f.page_shift * f.page_list_len < f.length then (.MW_BIND_ERR, pd)
    else
      (.SUCCESS, pd.setMr (mrIndex f.rkey) (some { mr with
        start := f.iova_start
        length := f.length
        access_flags := f.access_flags
        page_shift := f.page_shift
        page_list := f.page_list.take f.page_list_len }))

end pib
