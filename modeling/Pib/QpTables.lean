-- The tables in which a device finds its queue pairs (`pib_create_qp` and
-- `pib_destroy_qp`): the list of all of them, the tree of RC and UD queue
-- pairs, the bitmap of their numbers, and QP0 and QP1 of each port.
import Pib.Lib.Run
import Pib.QpOps
import Pib.ReceivePath

namespace pib

variable {q qp : DevQp} {qs : List DevQp} {n : Nat} {d : QpDev}

/-! ## The tables -/

def PIB_MAX_QP : Nat := 0x1000000
def PIB_MAX_INLINE : Nat := 2048

/-- A queue pair as the tables see it. `id` is the object: no two objects that
are ever allocated share it. -/
structure DevQp where
  id : Nat
  qp_num : Nat
  qp_type : QpType
  port_num : Nat
  deriving DecidableEq, Repr

/-- QP0 and QP1 are not in the tree. -/
def QpType.special (qp_type : QpType) : Bool := qp_type = .SMI ∨ qp_type = .GSI

/-- The numbers that `setup_obj_num_bitmap` takes. -/
def reservedQpn (n : Nat) : Bool :=
  n = PIB_QP0 ∨ n = PIB_QP1 ∨ n = PIB_LINK_QP ∨ n = IB_MULTICAST_QPN

/-- The tables of `struct pib_dev`. The tree is the list of its elements in
order, and `qp_info` is indexed by the port and by 0 or 1. -/
structure QpTables where
  qp_head : List DevQp := []
  qp_table : List DevQp := []
  nr_qp : Int := 0
  obj_num_bitmap : Nat → Bool := reservedQpn
  last_qp_num : Nat
  qp_info : Nat → Nat → Option DevQp := fun _ _ => none

/-- A call of `pib_create_qp`: its arguments, the setting of
`PIB_BEHAVIOR_QPN_REALLOCATION`, and which allocations succeed. Other types of
queue pairs are refused by the first check. -/
structure QpCreate where
  ibpd : Option Nat := some 0
  qp_type : QpType
  port_num : Nat := 1
  send_cq : Bool := true
  recv_cq : Bool := true
  /-- the protection domain of the shared receive queue -/
  srq : Option Nat := none
  cap : QpInitAttr := {}
  qpn_reallocation : Bool := false
  qp_cachep : Bool := true
  inline_data_buffer : Bool := true
  send_wqe_cachep : Nat → Bool := fun _ => true
  recv_wqe_cachep : Nat → Bool := fun _ => true

/-- `qp_cap_is_ok`, with the limits of the device. -/
def qpCapIsOk (cap : QpInitAttr) (use_srq : Bool) : Bool :=
  decide (cap.max_send_wr ≤ 16351) && decide (cap.max_send_sge ≤ PIB_MAX_SGE) &&
    (use_srq || (decide (1 ≤ cap.max_recv_wr) && decide (cap.max_recv_wr ≤ 16351) &&
      decide (1 ≤ cap.max_recv_sge) && decide (cap.max_recv_sge ≤ PIB_MAX_SGE))) &&
    decide (cap.max_inline_data ≤ PIB_MAX_INLINE)

/-- `qp_init_attr_is_ok`, and the checks around it. -/
def qpInitAttrIsOk (c : QpCreate) : Bool :=
  c.ibpd.isSome && c.send_cq && c.recv_cq && qpCapIsOk c.cap c.srq.isSome &&
    (c.srq.isNone || decide (c.ibpd = c.srq))

/-- The allocations after the registration: the inline data and the elements. -/
def wqesAllocated (c : QpCreate) : Bool :=
  (decide (c.cap.max_inline_data = 0) || c.inline_data_buffer) &&
    (List.range c.cap.max_send_wr).all c.send_wqe_cachep &&
    (List.range c.cap.max_recv_wr).all c.recv_wqe_cachep

/-- The search of `find_next_zero_bit`, over the given number of bits. -/
def zeroBitFrom (bitmap : Nat → Bool) : Nat → Nat → Nat
  | 0, n => n
  | k + 1, n => if bitmap n then zeroBitFrom bitmap k (n + 1) else n

/-- `find_next_zero_bit`. -/
def findNextZeroBit (bitmap : Nat → Bool) (size n : Nat) : Nat :=
  if size ≤ n then size else zeroBitFrom bitmap (size - n) n

/-- The number that `pib_alloc_obj_num` finds. -/
def freeObjNum (bitmap : Nat → Bool) (size last : Nat) : Option Nat :=
  if findNextZeroBit bitmap size (last + 1) ≠ size then
    some (findNextZeroBit bitmap size (last + 1))
  else if findNextZeroBit bitmap size 1 ≠ size then some (findNextZeroBit bitmap size 1)
  else none

/-- `insert_qp`. -/
def insertQp (qp : DevQp) : List DevQp → List DevQp
  | [] => [qp]
  | q :: qs => if q.qp_num > qp.qp_num then qp :: q :: qs else q :: insertQp qp qs

/-- `list_del` and `rb_erase` of an object. -/
def unlink (qp : DevQp) (qs : List DevQp) : List DevQp := qs.filter fun q => decide (q.id ≠ qp.id)

namespace QpTables

/-- `pib_alloc_obj_num` for queue pairs. -/
def pibAllocObjNum (t : QpTables) : QpTables × Option Nat :=
  match freeObjNum t.obj_num_bitmap PIB_MAX_QP t.last_qp_num with
  | some n => ({ t with
      obj_num_bitmap := Function.update t.obj_num_bitmap n true, last_qp_num := n }, some n)
  | none => (t, none)

/-- `pib_dealloc_obj_num` for queue pairs. -/
def pibDeallocObjNum (t : QpTables) (n : Nat) : QpTables :=
  { t with obj_num_bitmap := Function.update t.obj_num_bitmap n false }

/-- `pib_util_find_qp`. -/
def pibUtilFindQp (t : QpTables) (n : Nat) : Option DevQp :=
  t.qp_table.find? fun q => decide (q.qp_num = n)

/-- A slot of `qp_info` is written. -/
def setInfo (t : QpTables) (port_num qp_num : Nat) (v : Option DevQp) : QpTables :=
  let port := Function.update (t.qp_info port_num) qp_num v
  { t with qp_info := Function.update t.qp_info port_num port }

/-- The number of QP0 or QP1. -/
def specialQpn (qp_type : QpType) : Nat := if qp_type = .SMI then PIB_QP0 else PIB_QP1

/-- The object that `pib_create_qp` fills in for a call. -/
def objectOf (c : QpCreate) (id qp_num : Nat) : DevQp :=
  { id, qp_num, qp_type := c.qp_type, port_num := c.port_num }

/-- The registration of QP0 or QP1: the slot is kept when it is taken. -/
def registerSpecial (t : QpTables) (qp : DevQp) : QpTables :=
  let t := if t.qp_info qp.port_num qp.qp_num = none then
    t.setInfo qp.port_num qp.qp_num (some qp) else t
  { t with qp_head := t.qp_head ++ [qp] }

/-- The registration of an RC or UD queue pair that has got its number. -/
def registerOrdinary (t : QpTables) (qp : DevQp) : QpTables :=
  { t with
    nr_qp := t.nr_qp + 1
    qp_head := t.qp_head ++ [qp]
    last_qp_num := qp.qp_num
    qp_table := insertQp qp t.qp_table }

/-- What is undone when an element cannot be allocated: the label
`err_alloc_inlin_data_buffer`. -/
def undoCreate (t : QpTables) (qp : DevQp) : QpTables :=
  let t := if qp.qp_type.special then t else { t with qp_table := unlink qp t.qp_table }
  let t := { t with qp_head := unlink qp t.qp_head }
  if qp.qp_num ≠ PIB_QP0 ∧ qp.qp_num ≠ PIB_QP1 then
    { t with nr_qp := t.nr_qp - 1 }.pibDeallocObjNum qp.qp_num
  else t

/-- `pib_create_qp`; `id` is the object that `kmem_cache_zalloc` returns. -/
def pibCreateQp (t : QpTables) (id : Nat) (c : QpCreate) : QpTables × Except Errno DevQp :=
  if qpInitAttrIsOk c = false then (t, .error .EINVAL)
  else if c.qp_cachep = false then (t, .error .ENOMEM)
  else if c.qp_type.special then
    let qp := objectOf c id (specialQpn c.qp_type)
    let t := t.registerSpecial qp
    if wqesAllocated c then (t, .ok qp) else (t.undoCreate qp, .error .ENOMEM)
  else
    let t := if c.qpn_reallocation then { t with last_qp_num := PIB_QP1 + 1 } else t
    match t.pibAllocObjNum with
    | (t, none) => (t, .error .ENOMEM)
    | (t, some n) =>
      let qp := objectOf c id n
      let t := t.registerOrdinary qp
      if wqesAllocated c then (t, .ok qp) else (t.undoCreate qp, .error .ENOMEM)

/-- `pib_destroy_qp`. -/
def pibDestroyQp (t : QpTables) (qp : DevQp) : QpTables :=
  let t := if qp.qp_num = PIB_QP0 ∨ qp.qp_num = PIB_QP1 then
      t.setInfo qp.port_num qp.qp_num none
    else { t with qp_table := unlink qp t.qp_table }
  let t := { t with qp_head := unlink qp t.qp_head }
  if qp.qp_num ≠ PIB_QP0 ∧ qp.qp_num ≠ PIB_QP1 then
    { t with nr_qp := t.nr_qp - 1 }.pibDeallocObjNum qp.qp_num
  else t

end QpTables

/-! ## The device and its live queue pairs -/

/-- The tables, with the queue pairs that were created and not yet destroyed, and
the next object. -/
structure QpDev where
  tables : QpTables
  live : List DevQp := []
  next : Nat := 0

/-- A call on the device. -/
inductive QpCall
  | create (c : QpCreate)
  | destroy (qp : DevQp)

namespace QpDev

/-- Only a live queue pair is destroyed. -/
def step (d : QpDev) : QpCall → QpDev
  | .create c =>
    match d.tables.pibCreateQp d.next c with
    | (tables, .ok qp) => { tables, live := d.live ++ [qp], next := d.next + 1 }
    | (tables, .error _) => { d with tables, next := d.next + 1 }
  | .destroy qp =>
    if qp ∈ d.live then
      { d with tables := d.tables.pibDestroyQp qp, live := unlink qp d.live }
    else d

/-- The live RC and UD queue pairs. -/
def ordinary (d : QpDev) : List DevQp := d.live.filter fun q => !q.qp_type.special

/-- The tables refer to the live queue pairs, and to nothing else. -/
structure Consistent (d : QpDev) : Prop where
  qp_head : d.tables.qp_head = d.live
  qp_table : d.tables.qp_table.Perm d.ordinary
  find : ∀ n qp, d.tables.pibUtilFindQp n = some qp ↔ qp ∈ d.ordinary ∧ qp.qp_num = n
  nr_qp : d.tables.nr_qp = d.ordinary.length
  bitmap : ∀ n, d.tables.obj_num_bitmap n = true ↔
    reservedQpn n = true ∨ ∃ qp ∈ d.ordinary, qp.qp_num = n
  qp_info : ∀ port_num n qp, d.tables.qp_info port_num n = some qp →
    qp ∈ d.live ∧ qp.port_num = port_num ∧ qp.qp_type.special = true ∧ qp.qp_num = n

/-- What a call has to do: the tables stay consistent, a failed creation leaves
them as they were (apart from where the next number is looked for), and no other
queue pair loses its slot when one is destroyed. -/
structure Kept (d : QpDev) (call : QpCall) : Prop where
  consistent : (d.step call).Consistent
  failed : ∀ c e, call = .create c → (d.tables.pibCreateQp d.next c).2 = .error e →
    { (d.step call).tables with last_qp_num := d.tables.last_qp_num } = d.tables
  second : ∀ qp port_num n q, call = .destroy qp → d.tables.qp_info port_num n = some q →
    q ≠ qp → (d.step call).tables.qp_info port_num n = some q

/-- A call that does not run into what the code leaves out: the failed creation
of a QP0 or QP1 that found its slot empty, and the destruction of a QP0 or QP1
whose slot belongs to another one. -/
def Careful (d : QpDev) : QpCall → Prop
  | .create c => qpInitAttrIsOk c = true → c.qp_cachep = true → c.qp_type.special = true →
      d.tables.qp_info c.port_num (QpTables.specialQpn c.qp_type) = none → wqesAllocated c = true
  | .destroy qp => qp ∈ d.live → qp.qp_type.special = true →
      ∀ q, d.tables.qp_info qp.port_num qp.qp_num = some q → q = qp

end QpDev

/-! ## Lists, bits and slots -/

theorem mem_unlink : q ∈ unlink qp qs ↔ q ∈ qs ∧ q.id ≠ qp.id := by
  simp [unlink]

theorem unlink_of_fresh (h : ∀ q ∈ qs, q.id ≠ qp.id) : unlink qp qs = qs := by
  unfold unlink
  apply List.filter_eq_self.mpr
  intro q hq
  simpa using h q hq

theorem unlink_cons (qp q : DevQp) (qs : List DevQp) :
    unlink qp (q :: qs) = if q.id = qp.id then unlink qp qs else q :: unlink qp qs := by
  by_cases hq : q.id = qp.id <;> simp [unlink, hq]

theorem unlink_append_self (h : ∀ q ∈ qs, q.id ≠ qp.id) : unlink qp (qs ++ [qp]) = qs := by
  have hfresh := unlink_of_fresh h
  unfold unlink at hfresh ⊢
  rw [List.filter_append, hfresh]
  simp

theorem unlink_insertQp (h : ∀ q ∈ qs, q.id ≠ qp.id) : unlink qp (insertQp qp qs) = qs := by
  induction qs with
  | nil => simp [insertQp, unlink]
  | cons q qs ih =>
    have hq : q.id ≠ qp.id := h q List.mem_cons_self
    have hqs : ∀ x ∈ qs, x.id ≠ qp.id := fun x hx => h x (List.mem_cons_of_mem q hx)
    unfold insertQp
    split
    · rw [unlink_cons, if_pos rfl, unlink_of_fresh h]
    · rw [unlink_cons, if_neg hq, ih hqs]

theorem perm_unlink (hn : (qs.map DevQp.id).Nodup)
    (hqp : qp ∈ qs) : qs.Perm (qp :: unlink qp qs) := by
  induction qs with
  | nil => cases hqp
  | cons q qs ih =>
    rw [List.map_cons, List.nodup_cons] at hn
    obtain ⟨hq, hqs⟩ := hn
    rw [unlink_cons]
    rcases List.mem_cons.mp hqp with rfl | hmem
    · rw [if_pos rfl, unlink_of_fresh]
      intro x hx hid
      exact hq (hid ▸ List.mem_map_of_mem hx)
    · have hne : q.id ≠ qp.id := fun hid => hq (hid ▸ List.mem_map_of_mem hmem)
      rw [if_neg hne]
      exact ((ih hqs hmem).cons q).trans (List.Perm.swap qp q _)

theorem perm_insertQp (qp : DevQp) (qs : List DevQp) : (insertQp qp qs).Perm (qp :: qs) := by
  induction qs with
  | nil => exact List.Perm.refl _
  | cons q qs ih =>
    unfold insertQp
    split
    · exact List.Perm.refl _
    · exact (ih.cons q).trans (List.Perm.swap qp q qs)

theorem sorted_insertQp (hnew : ∀ q ∈ qs, q.qp_num ≠ qp.qp_num)
    (hs : qs.Pairwise fun a b => a.qp_num < b.qp_num) :
    (insertQp qp qs).Pairwise fun a b => a.qp_num < b.qp_num := by
  induction qs with
  | nil => simp [insertQp]
  | cons q qs ih =>
    obtain ⟨hq, hqs⟩ := List.pairwise_cons.mp hs
    unfold insertQp
    split
    · rename_i hlt
      refine List.pairwise_cons.mpr ⟨?_, hs⟩
      intro x hx
      rcases List.mem_cons.mp hx with rfl | hx
      · exact hlt
      · exact Nat.lt_trans hlt (hq x hx)
    · rename_i hle
      refine List.pairwise_cons.mpr ⟨?_, ih (fun x hx => hnew x (List.mem_cons_of_mem q hx)) hqs⟩
      intro x hx
      have hne := hnew q List.mem_cons_self
      rcases List.mem_cons.mp ((perm_insertQp qp qs).mem_iff.mp hx) with rfl | hx
      · omega
      · exact hq x hx

theorem zeroBitFrom_spec (bitmap : Nat → Bool) (k n : Nat) :
    n ≤ zeroBitFrom bitmap k n ∧ zeroBitFrom bitmap k n ≤ n + k ∧
      (∀ m, n ≤ m → m < zeroBitFrom bitmap k n → bitmap m = true) ∧
      (zeroBitFrom bitmap k n = n + k ∨ bitmap (zeroBitFrom bitmap k n) = false) := by
  induction k generalizing n with
  | zero => exact ⟨le_rfl, le_rfl, fun m h h' => absurd h (Nat.not_le.mpr h'), Or.inl rfl⟩
  | succ k ih =>
    unfold zeroBitFrom
    split
    · rename_i hbit
      obtain ⟨h1, h2, h3, h4⟩ := ih (n + 1)
      refine ⟨by omega, by omega, fun m hm hlt => ?_, h4.imp_left fun h => by omega⟩
      rcases hm.eq_or_lt with rfl | hm
      · exact hbit
      · exact h3 m hm hlt
    · rename_i hbit
      exact ⟨le_rfl, by omega, fun m h h' => absurd h (Nat.not_le.mpr h'), Or.inr (by simpa using hbit)⟩

theorem findNextZeroBit_spec (bitmap : Nat → Bool) (size n : Nat) :
    findNextZeroBit bitmap size n ≤ size ∧
      (∀ m, n ≤ m → m < findNextZeroBit bitmap size n → bitmap m = true) ∧
      (findNextZeroBit bitmap size n ≠ size → n ≤ findNextZeroBit bitmap size n ∧
        bitmap (findNextZeroBit bitmap size n) = false) := by
  unfold findNextZeroBit
  split
  · exact ⟨le_rfl, fun m h h' => by omega, fun h => absurd rfl h⟩
  · obtain ⟨h1, h2, h3, h4⟩ := zeroBitFrom_spec bitmap (size - n) n
    exact ⟨by omega, h3, fun h => ⟨h1, h4.resolve_left (by omega)⟩⟩

/-- The number that is given out is free. -/
theorem freeObjNum_spec {bitmap : Nat → Bool} {size last : Nat}
    (h : freeObjNum bitmap size last = some n) : bitmap n = false := by
  unfold freeObjNum at h
  split at h
  · rename_i hne
    obtain rfl := Option.some.inj h
    exact ((findNextZeroBit_spec _ _ _).2.2 hne).2
  split at h
  · rename_i hne
    obtain rfl := Option.some.inj h
    exact ((findNextZeroBit_spec _ _ _).2.2 hne).2
  · cases h

namespace QpTables

theorem setInfo_apply (t : QpTables) (port_num qp_num : Nat) (v : Option DevQp) (p n : Nat) :
    (t.setInfo port_num qp_num v).qp_info p n =
      if p = port_num ∧ n = qp_num then v else t.qp_info p n := by
  unfold setInfo
  by_cases hp : p = port_num
  · subst hp
    by_cases hn : n = qp_num
    · subst hn
      simp
    · simp [hn]
  · simp [hp]

end QpTables

namespace QpDev

/-! ## The invariant -/

/-- The tables and the live queue pairs, with what the numbers and the objects
have to satisfy. -/
structure Good (d : QpDev) : Prop where
  qp_head : d.tables.qp_head = d.live
  qp_table : d.tables.qp_table.Perm d.ordinary
  sorted : d.tables.qp_table.Pairwise fun a b => a.qp_num < b.qp_num
  nr_qp : d.tables.nr_qp = d.ordinary.length
  bitmap : ∀ n, d.tables.obj_num_bitmap n = true ↔
    reservedQpn n = true ∨ ∃ qp ∈ d.ordinary, qp.qp_num = n
  qp_info : ∀ port_num n qp, d.tables.qp_info port_num n = some qp →
    qp ∈ d.live ∧ qp.port_num = port_num ∧ qp.qp_type.special = true ∧ qp.qp_num = n
  ids : ∀ q ∈ d.live, q.id < d.next
  nodup : (d.live.map DevQp.id).Nodup
  numbers : ∀ q ∈ d.live, if q.qp_type.special then q.qp_num = QpTables.specialQpn q.qp_type
    else reservedQpn q.qp_num = false

/-- A number is in the tree once. -/
theorem Good.num_inj (h : d.Good) (hq : q ∈ d.tables.qp_table)
    (hqp : qp ∈ d.tables.qp_table) (hnum : q.qp_num = qp.qp_num) : q = qp := by
  have hlt := List.pairwise_iff_getElem.mp h.sorted
  obtain ⟨i, hi, rfl⟩ := List.getElem_of_mem hq
  obtain ⟨k, hk, rfl⟩ := List.getElem_of_mem hqp
  rcases Nat.lt_trichotomy i k with hik | rfl | hik
  · have := hlt i k hi hk hik
    omega
  · rfl
  · have := hlt k i hk hi hik
    omega

theorem Good.consistent (h : d.Good) : d.Consistent := by
  refine ⟨h.qp_head, h.qp_table, ?_, h.nr_qp, h.bitmap, h.qp_info⟩
  intro n qp
  rw [← h.qp_table.mem_iff]
  unfold QpTables.pibUtilFindQp
  constructor
  · intro hfind
    exact ⟨List.mem_of_find?_eq_some hfind, by simpa using List.find?_some hfind⟩
  · rintro ⟨hmem, rfl⟩
    rcases hfind : d.tables.qp_table.find? fun q => decide (q.qp_num = qp.qp_num) with _ | q
    · have hnone := List.find?_eq_none.mp hfind qp hmem
      simp at hnone
    · have hnum : q.qp_num = qp.qp_num := by simpa using List.find?_some hfind
      rw [hfind, h.num_inj (List.mem_of_find?_eq_some hfind) hmem hnum]

theorem good_start (last_qp_num : Nat) : Good { tables := { last_qp_num } } := by
  constructor
  case qp_head => rfl
  case qp_table => exact List.Perm.refl _
  case sorted => exact List.Pairwise.nil
  case nr_qp => rfl
  case bitmap => simp [ordinary]
  case qp_info => intro port_num n qp h; cases h
  case ids => simp
  case nodup => simp
  case numbers => simp

/-- Nothing that is live is the next object. -/
theorem Good.fresh (h : d.Good) (hq : q ∈ d.live) : q.id ≠ d.next :=
  Nat.ne_of_lt (h.ids q hq)

theorem Good.mem_table (h : d.Good) (hq : q ∈ d.tables.qp_table) :
    q ∈ d.live ∧ q.qp_type.special = false := by
  have hord := h.qp_table.mem_iff.mp hq
  simpa [ordinary] using hord

/-- An object that is not put anywhere. -/
theorem Good.skip (h : d.Good) (last_qp_num : Nat) :
    Good { d with tables := { d.tables with last_qp_num }, next := d.next + 1 } :=
  ⟨h.qp_head, h.qp_table, h.sorted, h.nr_qp, h.bitmap, h.qp_info,
    fun q hq => Nat.lt_succ_of_lt (h.ids q hq), h.nodup, h.numbers⟩

/-! ## Creating -/

theorem Good.ids_add (h : d.Good) (hid : qp.id = d.next) :
    ∀ q ∈ d.live ++ [qp], q.id < d.next + 1 := by
  intro q hq
  rcases List.mem_append.mp hq with hq | hq
  · exact Nat.lt_succ_of_lt (h.ids q hq)
  · rw [List.mem_singleton.mp hq, hid]
    exact Nat.lt_succ_self _

theorem Good.nodup_add (h : d.Good) (hid : qp.id = d.next) :
    ((d.live ++ [qp]).map DevQp.id).Nodup := by
  rw [List.map_append, List.map_singleton]
  apply List.Nodup.append h.nodup (by simp)
  simp only [List.disjoint_singleton, List.mem_map, not_exists, not_and]
  intro q hq
  rw [hid]
  exact h.fresh hq

/-- A free number belongs to no live queue pair, and is none of the reserved. -/
theorem Good.free (h : d.Good) (hn : d.tables.obj_num_bitmap n = false) :
    reservedQpn n = false ∧ ∀ q ∈ d.ordinary, q.qp_num ≠ n := by
  have hbit := h.bitmap n
  rw [hn] at hbit
  constructor
  · by_contra hres
    exact absurd (hbit.mpr (Or.inl (by simpa using hres))) (by simp)
  · intro q hq hnum
    exact absurd (hbit.mpr (Or.inr ⟨q, hq, hnum⟩)) (by simp)

/-- The tables after the number `n` is given out. -/
def numbered (t : QpTables) (n : Nat) : QpTables :=
  { t with obj_num_bitmap := Function.update t.obj_num_bitmap n true, last_qp_num := n }

theorem good_ordinary (h : d.Good)
    (hn : d.tables.obj_num_bitmap n = false) (c : QpCreate) (hc : c.qp_type.special = false) :
    Good { tables := (numbered d.tables n).registerOrdinary (QpTables.objectOf c d.next n)
           live := d.live ++ [QpTables.objectOf c d.next n]
           next := d.next + 1 } := by
  obtain ⟨hres, hnew⟩ := h.free hn
  generalize hqp : QpTables.objectOf c d.next n = qp
  have hid : qp.id = d.next := by simp [← hqp, QpTables.objectOf]
  have hnum : qp.qp_num = n := by simp [← hqp, QpTables.objectOf]
  have htype : qp.qp_type.special = false := by simpa [← hqp, QpTables.objectOf] using hc
  have hord : ∀ tables next, (QpDev.mk tables (d.live ++ [qp]) next).ordinary =
      d.ordinary ++ [qp] := by
    intro tables next
    simp [ordinary, htype]
  have hperm : (insertQp qp d.tables.qp_table).Perm (d.ordinary ++ [qp]) :=
    ((perm_insertQp qp _).trans (h.qp_table.cons qp)).trans (List.perm_append_singleton qp _).symm
  constructor
  case qp_head => simp [QpTables.registerOrdinary, numbered, h.qp_head]
  case qp_table =>
    rw [hord]
    exact hperm
  case sorted =>
    apply sorted_insertQp _ h.sorted
    intro q hq
    rw [hnum]
    exact hnew q (h.qp_table.mem_iff.mp hq)
  case nr_qp =>
    rw [hord]
    simp [QpTables.registerOrdinary, numbered, h.nr_qp]
  case bitmap =>
    intro k
    rw [hord]
    have hk := h.bitmap k
    by_cases hkn : k = n
    · subst hkn
      simp [QpTables.registerOrdinary, numbered, hnum]
    · simp [QpTables.registerOrdinary, numbered, hkn, hk, hnum, Ne.symm hkn]
  case qp_info =>
    intro port_num k q hslot
    obtain ⟨hq, hrest⟩ := h.qp_info port_num k q hslot
    exact ⟨List.mem_append_left _ hq, hrest⟩
  case ids => exact h.ids_add hid
  case nodup => exact h.nodup_add hid
  case numbers =>
    intro q hq
    rcases List.mem_append.mp hq with hq | hq
    · exact h.numbers q hq
    · rw [List.mem_singleton.mp hq, htype, hnum]
      exact hres

/-- The creation of an RC or UD queue pair is undone altogether. -/
theorem undo_ordinary (h : d.Good)
    (hn : d.tables.obj_num_bitmap n = false) (c : QpCreate) (hc : c.qp_type.special = false) :
    ((numbered d.tables n).registerOrdinary (QpTables.objectOf c d.next n)).undoCreate
      (QpTables.objectOf c d.next n) = { d.tables with last_qp_num := n } := by
  obtain ⟨hres, -⟩ := h.free hn
  have hhead : ∀ q ∈ d.tables.qp_head, q.id ≠ (QpTables.objectOf c d.next n).id := by
    intro q hq
    rw [h.qp_head] at hq
    exact h.fresh hq
  have htable : ∀ q ∈ d.tables.qp_table, q.id ≠ (QpTables.objectOf c d.next n).id := by
    intro q hq
    exact h.fresh (h.mem_table hq).1
  have hspecial : n ≠ PIB_QP0 ∧ n ≠ PIB_QP1 := by
    simp only [reservedQpn, decide_eq_false_iff_not] at hres
    exact ⟨fun h0 => hres (Or.inl h0), fun h1 => hres (Or.inr (Or.inl h1))⟩
  have hbits : Function.update (Function.update d.tables.obj_num_bitmap n true) n false =
      d.tables.obj_num_bitmap := by
    rw [Function.update_idem, ← hn, Function.update_eq_self]
  have htype : (QpTables.objectOf c d.next n).qp_type.special = false := hc
  have hnum : (QpTables.objectOf c d.next n).qp_num = n := rfl
  unfold QpTables.undoCreate QpTables.registerOrdinary numbered QpTables.pibDeallocObjNum
  simp only [htype, Bool.false_eq_true, if_false, unlink_append_self hhead, unlink_insertQp htable,
    hnum]
  rw [if_pos hspecial]
  simp only [hbits, Int.add_sub_cancel]

/-- An RC or UD queue pair gets a free number, or nothing changes but where the
next number is looked for. -/
theorem create_ordinary (h : d.Good) (c : QpCreate) (hc : c.qp_type.special = false) :
    (∃ last_qp_num e, d.tables.pibCreateQp d.next c =
      ({ d.tables with last_qp_num }, .error e)) ∨
    ∃ n, d.tables.obj_num_bitmap n = false ∧ d.tables.pibCreateQp d.next c =
      ((numbered d.tables n).registerOrdinary (QpTables.objectOf c d.next n),
        .ok (QpTables.objectOf c d.next n)) := by
  unfold QpTables.pibCreateQp
  split
  · exact Or.inl ⟨d.tables.last_qp_num, _, rfl⟩
  split
  · exact Or.inl ⟨d.tables.last_qp_num, _, rfl⟩
  rw [if_neg (by simp [hc])]
  -- where the search starts does not matter
  obtain ⟨last, hlast⟩ : ∃ last, (if c.qpn_reallocation = true then
      { d.tables with last_qp_num := PIB_QP1 + 1 } else d.tables) =
      { d.tables with last_qp_num := last } := by
    split
    · exact ⟨_, rfl⟩
    · exact ⟨d.tables.last_qp_num, rfl⟩
  rw [hlast]
  unfold QpTables.pibAllocObjNum
  dsimp only
  rcases hfree : freeObjNum d.tables.obj_num_bitmap PIB_MAX_QP last with _ | n
  · exact Or.inl ⟨last, _, rfl⟩
  have hn := freeObjNum_spec hfree
  dsimp only
  split
  · exact Or.inr ⟨n, hn, rfl⟩
  refine Or.inl ⟨n, .ENOMEM, ?_⟩
  rw [← undo_ordinary h hn c hc]
  rfl

theorem good_registerSpecial (h : d.Good) (c : QpCreate) (hc : c.qp_type.special = true) :
    let qp := QpTables.objectOf c d.next (QpTables.specialQpn c.qp_type)
    Good { tables := d.tables.registerSpecial qp, live := d.live ++ [qp], next := d.next + 1 } := by
  intro qp
  have hid : qp.id = d.next := rfl
  have htype : qp.qp_type.special = true := hc
  have hord : ∀ tables next, (QpDev.mk tables (d.live ++ [qp]) next).ordinary = d.ordinary := by
    intro tables next
    simp [ordinary, htype]
  -- only the list and one slot change
  obtain ⟨qp_info, hreg, hinfo⟩ : ∃ qp_info, d.tables.registerSpecial qp =
      { d.tables with qp_info, qp_head := d.tables.qp_head ++ [qp] } ∧
      ∀ p n q, qp_info p n = some q → d.tables.qp_info p n = some q ∨
        (q = qp ∧ p = qp.port_num ∧ n = qp.qp_num) := by
    unfold QpTables.registerSpecial
    split
    · refine ⟨_, rfl, ?_⟩
      intro p n q hslot
      rw [QpTables.setInfo_apply] at hslot
      split at hslot
      · rename_i hpn
        exact Or.inr ⟨(Option.some.inj hslot).symm, hpn⟩
      · exact Or.inl hslot
    · exact ⟨d.tables.qp_info, rfl, fun p n q hslot => Or.inl hslot⟩
  rw [hreg]
  constructor
  case qp_head => simp [h.qp_head]
  case qp_table =>
    rw [hord]
    exact h.qp_table
  case sorted => exact h.sorted
  case nr_qp =>
    rw [hord]
    exact h.nr_qp
  case bitmap =>
    rw [hord]
    exact h.bitmap
  case qp_info =>
    intro port_num k q hslot
    rcases hinfo port_num k q hslot with hold | ⟨rfl, rfl, rfl⟩
    · obtain ⟨hq, hrest⟩ := h.qp_info port_num k q hold
      exact ⟨List.mem_append_left _ hq, hrest⟩
    · exact ⟨List.mem_append_right _ (List.mem_singleton_self _), rfl, htype, rfl⟩
  case ids => exact h.ids_add hid
  case nodup => exact h.nodup_add hid
  case numbers =>
    intro q hq
    rcases List.mem_append.mp hq with hq | hq
    · exact h.numbers q hq
    · rw [List.mem_singleton.mp hq, if_pos htype]
      rfl

theorem specialQpn_cases (qp_type : QpType) :
    QpTables.specialQpn qp_type = PIB_QP0 ∨ QpTables.specialQpn qp_type = PIB_QP1 := by
  unfold QpTables.specialQpn
  split
  · exact Or.inl rfl
  · exact Or.inr rfl

/-- The creation of a QP0 or QP1 is undone but for its slot. -/
theorem undo_special (h : d.Good) (c : QpCreate) (hc : c.qp_type.special = true) :
    let qp := QpTables.objectOf c d.next (QpTables.specialQpn c.qp_type)
    (d.tables.registerSpecial qp).undoCreate qp =
      if d.tables.qp_info c.port_num (QpTables.specialQpn c.qp_type) = none then
        d.tables.setInfo c.port_num (QpTables.specialQpn c.qp_type) (some qp)
      else d.tables := by
  intro qp
  have htype : qp.qp_type.special = true := hc
  have hhead : ∀ q ∈ d.tables.qp_head, q.id ≠ qp.id := by
    intro q hq
    rw [h.qp_head] at hq
    exact h.fresh hq
  have hnum : ¬ (qp.qp_num ≠ PIB_QP0 ∧ qp.qp_num ≠ PIB_QP1) := by
    rintro ⟨h0, h1⟩
    rcases specialQpn_cases c.qp_type with hq | hq
    · exact h0 hq
    · exact h1 hq
  show _ = if d.tables.qp_info qp.port_num qp.qp_num = none then
    d.tables.setInfo qp.port_num qp.qp_num (some qp) else d.tables
  unfold QpTables.undoCreate QpTables.registerSpecial
  simp only [htype, if_true, if_neg hnum]
  split
  · simp only [QpTables.setInfo, unlink_append_self hhead]
  · simp only [unlink_append_self hhead]

/-- A QP0 or QP1 is refused, registered, or left in its slot although its
elements could not be allocated. -/
theorem create_special (h : d.Good) (c : QpCreate) (hc : c.qp_type.special = true) :
    let qp := QpTables.objectOf c d.next (QpTables.specialQpn c.qp_type)
    (d.Careful (.create c) ∧ ∃ e, d.tables.pibCreateQp d.next c = (d.tables, .error e)) ∨
    (d.Careful (.create c) ∧
      d.tables.pibCreateQp d.next c = (d.tables.registerSpecial qp, .ok qp)) ∨
    (¬ d.Careful (.create c) ∧ d.tables.pibCreateQp d.next c =
      (d.tables.setInfo c.port_num (QpTables.specialQpn c.qp_type) (some qp),
        .error .ENOMEM)) := by
  intro qp
  unfold QpTables.pibCreateQp Careful
  by_cases hok : qpInitAttrIsOk c = false
  · rw [if_pos hok]
    exact Or.inl ⟨by simp [hok], _, rfl⟩
  rw [if_neg hok]
  by_cases hcache : c.qp_cachep = false
  · rw [if_pos hcache]
    exact Or.inl ⟨by simp [hcache], _, rfl⟩
  rw [if_neg hcache, if_pos hc]
  by_cases hwqes : wqesAllocated c = true
  · exact Or.inr (Or.inl ⟨fun _ _ _ _ => hwqes, if_pos hwqes⟩)
  dsimp only
  rw [if_neg hwqes, undo_special h c hc]
  by_cases hslot : d.tables.qp_info c.port_num (QpTables.specialQpn c.qp_type) = none
  · rw [if_pos hslot]
    refine Or.inr (Or.inr ⟨fun hcareful => hwqes ?_, rfl⟩)
    exact hcareful (by simpa using hok) (by simpa using hcache) hc hslot
  · rw [if_neg hslot]
    exact Or.inl ⟨fun _ _ _ hnone => absurd hnone hslot, _, rfl⟩

/-! ## Destroying -/

theorem Good.eq_of_id (h : d.Good) (hq : q ∈ d.live)
    (hqp : qp ∈ d.live) (hid : q.id = qp.id) : q = qp :=
  List.inj_on_of_nodup_map h.nodup hq hqp hid

/-- A live queue pair is QP0 or QP1 exactly when its number says so. -/
theorem Good.special_iff (h : d.Good) (hqp : qp ∈ d.live) :
    (qp.qp_num = PIB_QP0 ∨ qp.qp_num = PIB_QP1) ↔ qp.qp_type.special = true := by
  have hnum := h.numbers qp hqp
  split at hnum
  · rename_i hspecial
    rw [hnum]
    exact ⟨fun _ => hspecial, fun _ => specialQpn_cases _⟩
  rename_i hspecial
  simp only [reservedQpn, decide_eq_false_iff_not] at hnum
  constructor
  · rintro (h0 | h1)
    · exact absurd (Or.inl h0) hnum
    · exact absurd (Or.inr (Or.inl h1)) hnum
  · intro hs
    exact absurd hs hspecial

theorem Good.unlink_live (h : d.Good) (hqp : qp ∈ d.live) :
    q ∈ unlink qp d.live ↔ q ∈ d.live ∧ q ≠ qp := by
  rw [mem_unlink]
  constructor
  · rintro ⟨hq, hid⟩
    exact ⟨hq, fun heq => hid (by rw [heq])⟩
  · rintro ⟨hq, hne⟩
    exact ⟨hq, fun hid => hne (h.eq_of_id hq hqp hid)⟩

theorem good_destroySpecial (h : d.Good) (hqp : qp ∈ d.live) (hs : qp.qp_type.special = true) :
    Good { d with
      tables := { d.tables.setInfo qp.port_num qp.qp_num none with
        qp_head := unlink qp d.tables.qp_head }
      live := unlink qp d.live } := by
  have hord : ∀ tables next, (QpDev.mk tables (unlink qp d.live) next).ordinary = d.ordinary := by
    intro tables next
    simp only [ordinary, unlink, List.filter_filter]
    apply List.filter_congr
    intro q hq
    by_cases hid : q.id = qp.id
    · simp [h.eq_of_id hq hqp hid, hs]
    · simp [hid]
  constructor
  case qp_head => simp only [h.qp_head]
  case qp_table =>
    rw [hord]
    exact h.qp_table
  case sorted => exact h.sorted
  case nr_qp =>
    rw [hord]
    exact h.nr_qp
  case bitmap =>
    rw [hord]
    exact h.bitmap
  case qp_info =>
    intro port_num n q hslot
    have hslot : (d.tables.setInfo qp.port_num qp.qp_num none).qp_info port_num n = some q := hslot
    rw [QpTables.setInfo_apply] at hslot
    split at hslot
    · cases hslot
    rename_i hpn
    obtain ⟨hq, hport, hrest, hnum⟩ := h.qp_info port_num n q hslot
    refine ⟨(h.unlink_live hqp).mpr ⟨hq, ?_⟩, hport, hrest, hnum⟩
    rintro rfl
    exact hpn ⟨hport.symm, hnum.symm⟩
  case ids => exact fun q hq => h.ids q ((h.unlink_live hqp).mp hq).1
  case nodup => exact h.nodup.sublist (List.filter_sublist.map _)
  case numbers => exact fun q hq => h.numbers q ((h.unlink_live hqp).mp hq).1

theorem good_destroyOrdinary (h : d.Good) (hqp : qp ∈ d.live) (hs : qp.qp_type.special = false) :
    Good { d with
      tables := QpTables.pibDeallocObjNum { d.tables with
        qp_table := unlink qp d.tables.qp_table
        qp_head := unlink qp d.tables.qp_head
        nr_qp := d.tables.nr_qp - 1 } qp.qp_num
      live := unlink qp d.live } := by
  have hmem : qp ∈ d.ordinary := by simp [ordinary, hqp, hs]
  have hord : ∀ tables next, (QpDev.mk tables (unlink qp d.live) next).ordinary =
      unlink qp d.ordinary := by
    intro tables next
    simp only [ordinary, unlink, List.filter_filter]
    apply List.filter_congr
    intro q _
    exact Bool.and_comm _ _
  have hperm : d.ordinary.Perm (qp :: unlink qp d.ordinary) :=
    perm_unlink (h.nodup.sublist (List.filter_sublist.map _)) hmem
  have hres := h.numbers qp hqp
  rw [hs] at hres
  constructor
  case qp_head => simp only [QpTables.pibDeallocObjNum, h.qp_head]
  case qp_table =>
    rw [hord]
    exact h.qp_table.filter _
  case sorted => exact h.sorted.sublist List.filter_sublist
  case nr_qp =>
    rw [hord]
    have hlen := hperm.length_eq
    have hnr := h.nr_qp
    rw [List.length_cons] at hlen
    simp only [QpTables.pibDeallocObjNum]
    omega
  case bitmap =>
    intro n
    rw [hord]
    simp only [QpTables.pibDeallocObjNum]
    by_cases hn : n = qp.qp_num
    · subst hn
      -- the number is neither reserved nor used by another queue pair
      simp only [Function.update_self, Bool.false_eq_true, false_iff, not_or]
      refine ⟨by simpa using hres, ?_⟩
      rintro ⟨q, hq, hnum⟩
      obtain ⟨hq, hid⟩ := mem_unlink.mp hq
      have heq := h.num_inj (h.qp_table.mem_iff.mpr hq) (h.qp_table.mem_iff.mpr hmem) hnum
      exact hid (by rw [heq])
    · rw [Function.update_of_ne hn, h.bitmap n]
      constructor
      · rintro (hr | ⟨q, hq, hnum⟩)
        · exact Or.inl hr
        · refine Or.inr ⟨q, mem_unlink.mpr ⟨hq, fun hid => ?_⟩, hnum⟩
          rw [h.eq_of_id (List.mem_filter.mp hq).1 hqp hid] at hnum
          exact hn hnum.symm
      · rintro (hr | ⟨q, hq, hnum⟩)
        · exact Or.inl hr
        · exact Or.inr ⟨q, (mem_unlink.mp hq).1, hnum⟩
  case qp_info =>
    intro port_num n q hslot
    obtain ⟨hq, hport, hrest, hnum⟩ := h.qp_info port_num n q hslot
    refine ⟨(h.unlink_live hqp).mpr ⟨hq, ?_⟩, hport, hrest, hnum⟩
    rintro rfl
    rw [hs] at hrest
    cases hrest
  case ids => exact fun q hq => h.ids q ((h.unlink_live hqp).mp hq).1
  case nodup => exact h.nodup.sublist (List.filter_sublist.map _)
  case numbers => exact fun q hq => h.numbers q ((h.unlink_live hqp).mp hq).1

theorem pibDestroyQp_special (h : d.Good) (hqp : qp ∈ d.live) (hs : qp.qp_type.special = true) :
    d.tables.pibDestroyQp qp = { d.tables.setInfo qp.port_num qp.qp_num none with
      qp_head := unlink qp d.tables.qp_head } := by
  have hnum := (h.special_iff hqp).mpr hs
  have hnot : ¬ (qp.qp_num ≠ PIB_QP0 ∧ qp.qp_num ≠ PIB_QP1) := by
    rintro ⟨h0, h1⟩
    exact hnum.elim h0 h1
  unfold QpTables.pibDestroyQp
  simp only [if_pos hnum, if_neg hnot]
  rfl

theorem pibDestroyQp_ordinary (h : d.Good) (hqp : qp ∈ d.live) (hs : qp.qp_type.special = false) :
    d.tables.pibDestroyQp qp = QpTables.pibDeallocObjNum { d.tables with
      qp_table := unlink qp d.tables.qp_table
      qp_head := unlink qp d.tables.qp_head
      nr_qp := d.tables.nr_qp - 1 } qp.qp_num := by
  have hnum : ¬ (qp.qp_num = PIB_QP0 ∨ qp.qp_num = PIB_QP1) := by
    rw [h.special_iff hqp, hs]
    simp
  have hnot : qp.qp_num ≠ PIB_QP0 ∧ qp.qp_num ≠ PIB_QP1 := not_or.mp hnum
  unfold QpTables.pibDestroyQp
  simp only [if_neg hnum, if_pos hnot]

theorem good_destroy (h : d.Good) (qp : DevQp) : (d.step (.destroy qp)).Good := by
  unfold step
  by_cases hqp : qp ∈ d.live
  · simp only [if_pos hqp]
    cases hs : qp.qp_type.special with
    | true =>
      rw [pibDestroyQp_special h hqp hs]
      exact good_destroySpecial h hqp hs
    | false =>
      rw [pibDestroyQp_ordinary h hqp hs]
      exact good_destroyOrdinary h hqp hs
  · simp only [if_neg hqp]
    exact h

/-! ## Whole runs -/

theorem good_step (d : QpDev) (call : QpCall) (h : d.Good) (hcareful : d.Careful call) :
    (d.step call).Good := by
  cases call with
  | destroy qp => exact good_destroy h qp
  | create c =>
    unfold step
    cases hs : c.qp_type.special with
    | false =>
      rcases create_ordinary h c hs with ⟨last, e, heq⟩ | ⟨n, hn, heq⟩
      · simp only [heq]
        exact h.skip last
      · simp only [heq]
        exact good_ordinary h hn c hs
    | true =>
      rcases create_special h c hs with ⟨-, e, heq⟩ | ⟨-, heq⟩ | ⟨hnot, -⟩
      · simp only [heq]
        exact h.skip d.tables.last_qp_num
      · simp only [heq]
        exact good_registerSpecial h c hs
      · exact absurd hcareful hnot

theorem failed_of_careful (h : d.Good) {c : QpCreate} {e : Errno}
    (hcareful : d.Careful (.create c)) (he : (d.tables.pibCreateQp d.next c).2 = .error e) :
    { (d.step (.create c)).tables with last_qp_num := d.tables.last_qp_num } = d.tables := by
  unfold step
  cases hs : c.qp_type.special with
  | false =>
    rcases create_ordinary h c hs with ⟨last, e', heq⟩ | ⟨n, -, heq⟩
    · simp only [heq]
    · rw [heq] at he
      cases he
  | true =>
    rcases create_special h c hs with ⟨-, e', heq⟩ | ⟨-, heq⟩ | ⟨hnot, -⟩
    · simp only [heq]
    · rw [heq] at he
      cases he
    · exact absurd hcareful hnot

theorem second_of_careful (h : d.Good) {port_num : Nat}
    (hcareful : d.Careful (.destroy qp)) (hslot : d.tables.qp_info port_num n = some q)
    (hne : q ≠ qp) : (d.step (.destroy qp)).tables.qp_info port_num n = some q := by
  unfold step
  by_cases hqp : qp ∈ d.live
  · simp only [if_pos hqp]
    cases hs : qp.qp_type.special with
    | false =>
      rw [pibDestroyQp_ordinary h hqp hs]
      exact hslot
    | true =>
      rw [pibDestroyQp_special h hqp hs]
      dsimp only
      rw [QpTables.setInfo_apply, if_neg]
      · exact hslot
      · rintro ⟨rfl, rfl⟩
        exact hne (hcareful hqp hs q hslot)
  · simpa only [if_neg hqp] using hslot

/-- A call does what it has to exactly when it is a careful one. -/
theorem kept_iff (h : d.Good) (call : QpCall) : d.Kept call ↔ d.Careful call := by
  constructor
  · intro hkept
    cases call with
    | destroy qp =>
      intro hqp hs q hslot
      by_contra hne
      have hstill := hkept.second qp _ _ q rfl hslot hne
      unfold step at hstill
      simp only [if_pos hqp, pibDestroyQp_special h hqp hs] at hstill
      rw [QpTables.setInfo_apply, if_pos ⟨rfl, rfl⟩] at hstill
      cases hstill
    | create c =>
      by_contra hnot
      cases hs : c.qp_type.special with
      | false =>
        apply hnot
        intro _ _ hspecial
        rw [hs] at hspecial
        cases hspecial
      | true =>
        rcases create_special h c hs with ⟨hc, -⟩ | ⟨hc, -⟩ | ⟨-, heq⟩
        · exact hnot hc
        · exact hnot hc
        -- the slot points to an object that has been freed
        have hslot := hkept.consistent.qp_info c.port_num (QpTables.specialQpn c.qp_type)
          (QpTables.objectOf c d.next (QpTables.specialQpn c.qp_type))
        simp only [step, heq, QpTables.setInfo_apply, and_self, if_true, forall_const] at hslot
        exact h.fresh hslot.1 rfl
  · intro hcareful
    constructor
    case consistent => exact (good_step d call h hcareful).consistent
    case failed =>
      rintro c e rfl he
      exact failed_of_careful h hcareful he
    case second =>
      rintro qp port_num n q rfl hslot hne
      exact second_of_careful h hcareful hslot hne

/-- A device on which no queue pair was created yet. -/
def start (last_qp_num : Nat) : QpDev := { tables := { last_qp_num } }

/-- After any careful calls the tables refer to the live queue pairs only, and a
further call does what it has to exactly when it is careful. -/
theorem qp_tables_consistent (last_qp_num : Nat) (calls : List QpCall)
    (hm : Run.Meets step Careful (start last_qp_num) calls) :
    let d := Run.run step (start last_qp_num) calls
    d.Consistent ∧ ∀ call, d.Kept call ↔ d.Careful call := by
  have hgood : (Run.run step (start last_qp_num) calls).Good :=
    Run.invariant good_step (good_start last_qp_num) hm
  exact ⟨hgood.consistent, kept_iff hgood⟩

/-- QP1 of two ports, an RC queue pair whose elements cannot be allocated, and one
that is created and destroyed. -/
theorem qp_tables_consistent_four :
    let d := Run.run step (start 7) [.create { qp_type := .GSI, port_num := 1 },
      .create { qp_type := .GSI, port_num := 2 },
      .create { qp_type := .RC, send_wqe_cachep := fun i => decide (i ≠ 3) },
      .create { qp_type := .RC }, .destroy ⟨3, 9, .RC, 1⟩]
    (d.tables.nr_qp = 0 ∧ d.live.map DevQp.id = [0, 1]) ∧ d.Consistent := by
  refine ⟨by decide, (qp_tables_consistent 7 _ ?_).1⟩
  refine ⟨?_, ?_, ?_, ?_, ?_, trivial⟩
  · intro _ _ _ _
    decide
  · intro _ _ _ _
    decide
  · intro _ _ hspecial
    exact absurd hspecial (by decide)
  · intro _ _ _ _
    decide
  · intro _ hspecial
    exact absurd hspecial (by decide)

/-- A QP1 whose elements cannot be allocated is freed and stays in its slot, and a
second QP0 takes the first one out of its slot when it is destroyed. -/
theorem special_qp_dangling :
    let failing : QpCall := .create { qp_type := .GSI, send_wqe_cachep := fun _ => false }
    let two := Run.run step (start 7) [.create { qp_type := .SMI }, .create { qp_type := .SMI }]
    ((start 7).step failing).live = [] ∧
      ((start 7).step failing).tables.qp_info 1 1 = some ⟨0, 1, .GSI, 1⟩ ∧
      ¬ (start 7).Kept failing ∧
      two.tables.qp_info 1 0 = some ⟨0, 0, .SMI, 1⟩ ∧
      (two.step (.destroy ⟨1, 0, .SMI, 1⟩)).tables.qp_info 1 0 = none ∧
      ¬ two.Kept (.destroy ⟨1, 0, .SMI, 1⟩) := by
  intro failing two
  have hslot : ((start 7).step failing).tables.qp_info 1 1 = some ⟨0, 1, .GSI, 1⟩ := by decide
  have hfirst : two.tables.qp_info 1 0 = some ⟨0, 0, .SMI, 1⟩ := by decide
  have hgone : (two.step (.destroy ⟨1, 0, .SMI, 1⟩)).tables.qp_info 1 0 = none := by decide
  have hlive : ((start 7).step failing).live = [] := by decide
  refine ⟨hlive, hslot, ?_, hfirst, hgone, ?_⟩
  · intro hkept
    have hmem := (hkept.consistent.qp_info 1 1 _ hslot).1
    rw [hlive] at hmem
    cases hmem
  · intro hkept
    have hstill := hkept.second _ 1 0 _ rfl hfirst (by decide)
    rw [hgone] at hstill
    cases hstill

end QpDev

end pib
