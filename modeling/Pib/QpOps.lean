-- What `pib_qp.c` and `pib_util_reschedule_qp` do to a queue pair: flush
-- and reset, scheduling, posting work requests and `modify_qp`.
import Pib.Qp

namespace pib

open Bytes

/-! ## Completions -/

/-- `pib_util_insert_wc_error` on the send completion queue. -/
def Qp.insertSendError (q : Qp) (wr_id : Nat) (status : WcStatus) (opcode : WrOpcode) : Qp :=
  { q with send_cq := q.send_cq ++ [{ wr_id, status, opcode := .ofWr opcode }] }

/-- `pib_util_insert_wc_error` on the receive completion queue. -/
def Qp.insertRecvError (q : Qp) (wr_id : Nat) (status : WcStatus) (opcode : WcOpcode) : Qp :=
  { q with recv_cq := q.recv_cq ++ [({ wr_id, status, opcode }, true)] }

def Qp.insertEvent (q : Qp) (event : EventType) : Qp := { q with events := q.events ++ [event] }

/-- `pib_util_free_send_wqe`. -/
def Qp.freeSendWqe (q : Qp) (w : SendWqe) : Qp :=
  { q with requester := { q.requester with free_swqe := q.requester.free_swqe ++ [w] } }

/-- `pib_util_free_recv_wqe`: the element goes back to where it came from. -/
def Qp.freeRecvWqe (q : Qp) : Qp :=
  match q.srq with
  | some srq => { q with srq := some { srq with free_recv_wqe := srq.free_recv_wqe + 1 } }
  | none =>
    { q with responder := { q.responder with free_rwqe := q.responder.free_rwqe + 1 } }

/-! ## Scheduling -/

/-- The label `skip` of `pib_util_reschedule_qp`: a time that is as good as
never leaves the queue pair off the scheduler's tree. -/
def skipTime (now t : Nat) : Option Nat := if t = now + PIB_SCHED_TIMEOUT then none else some t

/-- The time of the first waiting element, if it is before any other. -/
def waitingTime (now : Nat) (q : Qp) : Nat :=
  match q.requester.waiting_swqe with
  | [] => now + PIB_SCHED_TIMEOUT
  | w :: _ =>
    if w.processing.local_ack_time < now + PIB_SCHED_TIMEOUT then w.processing.local_ack_time
    else now + PIB_SCHED_TIMEOUT

/-- A submitted element that can start makes the queue pair run at once. -/
def submittedTime (now : Nat) (q : Qp) (t : Nat) : Option Nat :=
  if q.state = .RTS then
    match q.requester.submitted_swqe with
    | [] => skipTime now t
    | w :: _ =>
      if pibIsWrOpcodeRdAtomic w.opcode = true ∧
          (q.requester.max_rd_atomic : Int) ≤ q.requester.nr_rd_atomic then skipTime now t
      else skipTime now now
  else skipTime now t

/-- The next time at which `pib_util_reschedule_qp` wants the queue pair to
run. Nothing when it is left off the scheduler's tree. -/
def scheduleTime (now : Nat) (q : Qp) : Option Nat :=
  if q.qp_type = .RC ∧ pibIsRecvOk q.state = true ∧ q.responder.acks ≠ [] ∧
      q.responder.nr_contig_read_acks < PIB_MAX_CONTIG_READ_ACKS then skipTime now now
  else if q.state ≠ .RTS ∧ q.state ≠ .SQD then none
  else
    let t := waitingTime now q
    match q.requester.sending_swqe with
    | [] => submittedTime now q t
    | w :: _ =>
      if w.processing.status ≠ .SUCCESS ∧ q.requester.waiting_swqe ≠ [] then skipTime now t
      else if PIB_MAX_CONTIG_REQUESTS < q.requester.nr_contig_requests then skipTime now t
      else submittedTime now q
        (if w.processing.schedule_time < t then w.processing.schedule_time else t)

/-- `pib_util_reschedule_qp`. -/
def pibUtilRescheduleQp (now : Nat) (q : Qp) : Qp :=
  match scheduleTime now q with
  | none => { q with sched_on := false }
  | some t => { q with sched_on := true, sched_time := t }

@[simp] theorem rescheduleQp_state (now : Nat) (q : Qp) :
    (pibUtilRescheduleQp now q).state = q.state := by
  unfold pibUtilRescheduleQp
  split <;> rfl

@[simp] theorem rescheduleQp_responder (now : Nat) (q : Qp) :
    (pibUtilRescheduleQp now q).responder = q.responder := by
  unfold pibUtilRescheduleQp
  split <;> rfl

/-- The three throttle counters are cleared together. -/
def Qp.clearContig (q : Qp) : Qp :=
  { q with
    requester := { q.requester with nr_contig_requests := 0, nr_contig_read_acks := 0 }
    responder := { q.responder with nr_contig_read_acks := 0 } }

/-- `get_ready_to_send`: the counters are cleared after the scheduling. -/
def getReadyToSend (now : Nat) (q : Qp) : Qp := (pibUtilRescheduleQp now q).clearContig

/-! ## Flush and reset -/

/-- `flush_send_wqe`. -/
def flushSendWqe (q : Qp) (w : SendWqe) : Qp :=
  (q.insertSendError w.wr_id .WR_FLUSH_ERR w.opcode).freeSendWqe w

/-- The loops of `pib_util_flush_qp` over the three send lists. -/
def flushSendQueue (q : Qp) : Qp :=
  let q := q.requester.waiting_swqe.foldl flushSendWqe q
  let q := q.requester.sending_swqe.foldl flushSendWqe q
  let q := q.requester.submitted_swqe.foldl flushSendWqe q
  { q with requester := { q.requester with
      waiting_swqe := [], nr_waiting_swqe := 0
      sending_swqe := [], nr_sending_swqe := 0
      submitted_swqe := [], nr_submitted_swqe := 0
      nr_rd_atomic := 0 } }

/-- The part of `pib_util_flush_qp` after the send lists. -/
def flushRecvQueue (q : Qp) : Qp :=
  let q := q.responder.recv_wqe.foldl
    (fun q w => (q.insertRecvError w.wr_id .WR_FLUSH_ERR .RECV).freeRecvWqe) q
  let q := { q with responder := { q.responder with
    recv_wqe := [], nr_recv_wqe := 0, acks := [], nr_rd_atomic := 0 } }
  if q.srq.isSome ∧ q.push_rcqe = true ∧ q.issue_last_wqe_reached = false then
    { q.insertEvent .QP_LAST_WQE_REACHED with issue_last_wqe_reached := true }
  else q

/-- `pib_util_flush_qp`. -/
def pibUtilFlushQp (now : Nat) (send_only : Bool) (q : Qp) : Qp :=
  let q := flushSendQueue q
  if send_only then q else (pibUtilRescheduleQp now (flushRecvQueue q)).clearContig

/-- `reset_qp_attr`. The slots are cleared and `slot_index` is kept. -/
def resetQpAttr (cfg : Config) (q : Qp) : Qp :=
  { q with
    local_ack_timeout := pibGetLocalAckTime cfg.HZ q.attr.timeout
    requester := { q.requester with psn := 0, expected_psn := 0, nr_rd_atomic := 0 }
    responder := { q.responder with
      psn := 0, last_OpCode := .SEND_ONLY, offset := 0, nr_rd_atomic := 0, slots := fun _ => {} }
    push_rcqe := false
    issue_comm_est := false
    issue_sq_drained := false
    issue_last_wqe_reached := false }

/-- `reset_qp`: every queue is emptied and this queue pair's completions
are removed from its completion queues. -/
def resetQp (cfg : Config) (now : Nat) (q : Qp) : Qp :=
  let r := q.requester
  let q := { q with requester := { r with
    free_swqe := r.free_swqe ++ r.waiting_swqe ++ r.sending_swqe ++ r.submitted_swqe
    waiting_swqe := [], nr_waiting_swqe := 0
    sending_swqe := [], nr_sending_swqe := 0
    submitted_swqe := [], nr_submitted_swqe := 0
    nr_rd_atomic := 0 } }
  let q := q.responder.recv_wqe.foldl (fun q _ => q.freeRecvWqe) q
  let q := { q with
    responder := { q.responder with
      recv_wqe := [], nr_recv_wqe := 0, acks := [], nr_rd_atomic := 0 }
    send_cq := []
    recv_cq := [] }
  (pibUtilRescheduleQp now (resetQpAttr cfg q)).clearContig

/-! ## Posting -/

/-- The errors that the verbs return. -/
inductive Errno
  | EINVAL | ENOMEM | EMSGSIZE | EFAULT | EPERM | EBUSY
  deriving DecidableEq, Repr

/-- The last element with the lkey `PIB_IMM_DATA_LKEY` is taken out of the
list, and its length is the immediate data. -/
def immDataHack (sg_list : List Sge) (imm_data : Nat) : List Sge × Nat :=
  match sg_list.reverse.findIdx? (fun s => s.lkey == PIB_IMM_DATA_LKEY) with
  | none => (sg_list, imm_data)
  | some i =>
    let k := sg_list.length - 1 - i
    (sg_list.eraseIdx k, (sg_list[k]?.map (·.length)).getD imm_data)

/-- The length an element counts for. -/
def sgeLength (cfg : Config) (s : Sge) : Nat :=
  if cfg.zero_len_sge_consider_as_max_len = true ∧ s.length = 0 then PIB_MAX_PAYLOAD_LEN
  else s.length

def sgeTotal (cfg : Config) (sges : List Sge) : Nat := (sges.map (sgeLength cfg)).sum

/-- `copy_from_user`: the bytes at an address, if all of them can be read. -/
abbrev UserCopy := Nat → Nat → Option (List UInt8)

/-- The bytes that `copy_from_user` fetches for a list, until it fails. -/
def copyFromUserList (copyFromUser : Nat → Nat → Option (List UInt8)) :
    List Sge → List UInt8 × Bool
  | [] => ([], true)
  | s :: sges =>
    match copyFromUser s.addr s.length with
    | none => ([], false)
    | some bs =>
      let (rest, ok) := copyFromUserList copyFromUser sges
      (bs ++ rest, ok)

/-- `copy_inline_data`. The flag is false for `-EFAULT`. -/
def copyInlineData (copyFromUser : Nat → Nat → Option (List UInt8)) (q : Qp) (w : SendWqe)
    (total_length : Nat) : SendWqe × Bool :=
  if total_length = 0 ∨ q.init_attr.max_inline_data < total_length then (w, true)
  else
    match w.opcode with
    | .SEND | .SEND_WITH_IMM | .SEND_WITH_INV | .RDMA_WRITE | .RDMA_WRITE_WITH_IMM =>
      let (bs, ok) := copyFromUserList copyFromUser w.sge_array
      ({ w with inline_data_buffer := bs ++ w.inline_data_buffer.drop bs.length }, ok)
    | _ => (w, true)

/-- The members of the `wr` union that an RC queue pair takes over. -/
def wrParamsOf (wr : SendWr) : WrParams :=
  match wr.opcode with
  | .RDMA_WRITE | .RDMA_WRITE_WITH_IMM | .RDMA_READ =>
    { remote_addr := wr.wr.remote_addr, rkey := wr.wr.rkey }
  | .ATOMIC_CMP_AND_SWP | .ATOMIC_FETCH_AND_ADD =>
    { remote_addr := wr.wr.remote_addr, rkey := wr.wr.rkey
      compare_add := wr.wr.compare_add, swap := wr.wr.swap }
  | .FAST_REG_MR => { fast_reg := wr.wr.fast_reg }
  | _ => {}

/-- The opcode-dependent part of `pib_post_send` for an RC queue pair. The
flag `local_only_request` is set here and never cleared. -/
def setWrParams (w : SendWqe) (wr : SendWr) : SendWqe :=
  let w := { w with wr := wrParamsOf wr }
  match wr.opcode with
  | .SEND_WITH_INV => { w with ex := wr.ex }
  | .LOCAL_INV => { w with local_only_request := true, ex := wr.ex }
  | .FAST_REG_MR => { w with local_only_request := true }
  | _ => w

/-- The fields of a free element that `pib_post_send` overwrites first. -/
def startSwqe (w : SendWqe) (wr : SendWr) (sges : List Sge) (imm_data : Nat) : SendWqe :=
  { w with
    wr_id := wr.wr_id
    opcode := wr.opcode
    send_flags := wr.send_flags
    ex := imm_data
    processing := {}
    wr := {}
    sge_array := sges }

/-- `total_length` after one more work request. -/
def addLength (cfg : Config) (total_length : Nat) (wr : SendWr) (sges : List Sge) : Nat :=
  if wr.opcode = .ATOMIC_CMP_AND_SWP ∨ wr.opcode = .ATOMIC_FETCH_AND_ADD then 8
  else total_length + sgeTotal cfg sges

/-- A free element is filled in for a work request, until an error. -/
def fillSwqe (cfg : Config) (copyFromUser : Nat → Nat → Option (List UInt8)) (q : Qp)
    (total_length : Nat) (wr : SendWr) (sges : List Sge) (imm_data : Nat) (w : SendWqe) :
    SendWqe × Option Errno :=
  let w := startSwqe w wr sges imm_data
  let total_length := addLength cfg total_length wr sges
  if PIB_MAX_PAYLOAD_LEN < total_length then (w, some .EMSGSIZE)
  else
    let w := { w with total_length := total_length }
    let (w, ok) :=
      if w.send_flags.INLINE then copyInlineData copyFromUser q w total_length else (w, true)
    if ok = false then (w, some .EFAULT)
    else
      let w := setWrParams w wr
      ({ w with processing := { w.processing with
        list_type := .SUBMITTED, status := .SUCCESS } }, none)

/-- The list of a work request after the hack for immediate data. -/
def sgesOf (cfg : Config) (wr : SendWr) : List Sge × Nat :=
  if cfg.hack_imm_data_lkey then immDataHack wr.sg_list wr.ex else (wr.sg_list, wr.ex)

/-- What one work request does in `pib_post_send`: the queue pair, the
running `total_length` of the call, and the error if there is one. An
element that fails half-way stays first in the free list, overwritten. -/
def postSendWr (cfg : Config) (copyFromUser : Nat → Nat → Option (List UInt8)) (q : Qp)
    (total_length : Nat) (wr : SendWr) : Qp × Nat × Option Errno :=
  if q.state = .RESET ∨ q.state = .INIT then (q, total_length, some .EINVAL)
  else if q.state = .ERR ∨ q.state = .SQE then
    (q.insertSendError wr.wr_id .WR_FLUSH_ERR wr.opcode, total_length, none)
  else
    let (sges, imm_data) := sgesOf cfg wr
    if sges.length < 1 ∨ q.init_attr.max_send_sge < sges.length then
      (q, total_length, some .EINVAL)
    else
      match q.requester.free_swqe with
      | [] => (q, total_length, some .ENOMEM)
      | w :: free =>
        match fillSwqe cfg copyFromUser q total_length wr sges imm_data w with
        | (w, some e) =>
          ({ q with requester := { q.requester with free_swqe := w :: free } },
            addLength cfg total_length wr sges, some e)
        | (w, none) =>
          ({ q with requester := { q.requester with
              free_swqe := free
              submitted_swqe := q.requester.submitted_swqe ++ [w]
              nr_submitted_swqe := q.requester.nr_submitted_swqe + 1 } },
            addLength cfg total_length wr sges, none)

/-- The `next_wr` loop of `pib_post_send`. `total_length` runs on from one
work request of the call to the next. -/
def postSendLoop (cfg : Config) (copyFromUser : Nat → Nat → Option (List UInt8)) :
    Qp → Nat → List SendWr → Qp × Option Errno
  | q, _, [] => (q, none)
  | q, total_length, wr :: wrs =>
    match postSendWr cfg copyFromUser q total_length wr with
    | (q, _, some e) => (q, some e)
    | (q, total_length, none) => postSendLoop cfg copyFromUser q total_length wrs

/-- `pib_post_send` with a chain of work requests. -/
def pibPostSend (cfg : Config) (copyFromUser : Nat → Nat → Option (List UInt8)) (now : Nat)
    (q : Qp) (wrs : List SendWr) : Qp × Option Errno :=
  match wrs with
  | [] => (q, some .EINVAL)
  | _ :: _ =>
    let (q', e) := postSendLoop cfg copyFromUser q 0 wrs
    (if q.state = .RTS then getReadyToSend now q' else q', e)

/-- The `next_wr` loop of `pib_post_recv`. -/
def postRecvLoop (cfg : Config) : Qp → Nat → List RecvWr → Option Errno → Qp × Option Errno
  | q, _, [], ret => (q, ret)
  | q, total_length, wr :: wrs, ret =>
    match q.state with
    | .RESET => (q, some .EINVAL)
    | .ERR => postRecvLoop cfg (q.insertRecvError wr.wr_id .WR_FLUSH_ERR .RECV)
        total_length wrs (some .EPERM)
    | .INIT | .RTR | .RTS | .SQD | .SQE =>
      if wr.sg_list.length < 1 ∨ q.init_attr.max_recv_sge < wr.sg_list.length then
        (q, some .EINVAL)
      else if q.responder.free_rwqe = 0 then (q, some .ENOMEM)
      else
        let total_length := total_length + sgeTotal cfg wr.sg_list
        if PIB_MAX_PAYLOAD_LEN < total_length then (q, some .EMSGSIZE)
        else
          let w : RecvWqe := { wr_id := wr.wr_id, total_length, sge_array := wr.sg_list }
          postRecvLoop cfg { q with responder := { q.responder with
              free_rwqe := q.responder.free_rwqe - 1
              recv_wqe := q.responder.recv_wqe ++ [w]
              nr_recv_wqe := q.responder.nr_recv_wqe + 1 } } total_length wrs ret

/-- `pib_post_recv` with a chain of work requests. -/
def pibPostRecv (cfg : Config) (q : Qp) (wrs : List RecvWr) : Qp × Option Errno :=
  if wrs = [] ∨ q.srq.isSome then (q, some .EINVAL) else postRecvLoop cfg q 0 wrs none

/-- The queue pair that `pib_create_qp` returns. -/
def pibCreateQp (cfg : Config) (qp_type : QpType) (init_attr : QpInitAttr) (srq : Option Srq) :
    Qp :=
  let q : Qp := { qp_type, init_attr, srq, attr := { path_mtu := 0, port_num := 0 } }
  let q := resetQpAttr cfg q
  { q with
    requester := { q.requester with
      free_swqe := (List.range init_attr.max_send_wr).map fun i =>
        { trace_id := i + 1, inline_data_buffer := List.replicate init_attr.max_inline_data 0 } }
    responder := { q.responder with free_rwqe := init_attr.max_recv_wr } }

/-! ## `modify_qp` -/

/-- `attr_mask`. `IB_QP_CAP` and `IB_QP_ACCESS_FLAGS` are left out: the verbs
layer refuses the first, and nothing reads the second. -/
structure AttrMask where
  STATE : Bool := false
  CUR_STATE : Bool := false
  PATH_MTU : Bool := false
  QKEY : Bool := false
  RQ_PSN : Bool := false
  SQ_PSN : Bool := false
  DEST_QPN : Bool := false
  AV : Bool := false
  PKEY_INDEX : Bool := false
  EN_SQD_ASYNC_NOTIFY : Bool := false
  MAX_QP_RD_ATOMIC : Bool := false
  MAX_DEST_RD_ATOMIC : Bool := false
  MIN_RNR_TIMER : Bool := false
  PORT : Bool := false
  TIMEOUT : Bool := false
  RETRY_CNT : Bool := false
  RNR_RETRY : Bool := false
  ALT_PATH : Bool := false
  PATH_MIG_STATE : Bool := false
  deriving DecidableEq, Repr

/-- The `attr` argument of `pib_modify_qp`. -/
structure ModifyAttr extends QpAttr where
  qp_state : QpState := .RESET
  cur_qp_state : QpState := .RESET
  deriving DecidableEq, Repr

/-- `modify_qp_is_ok`. -/
def modifyQpIsOk (cfg : Config) (q : Qp) (cur_state : QpState) (attr : ModifyAttr)
    (mask : AttrMask) : Bool :=
  !(mask.PORT && ((decide (cur_state = .SQD) && !cfg.change_phy_port) ||
      decide (q.qp_type = .SMI) || decide (q.qp_type = .GSI) ||
      decide (attr.port_num = 0) || decide (cfg.phys_port_cnt < attr.port_num))) &&
  !(mask.AV && decide (0xC000 ≤ attr.ah_attr.dlid)) &&
  !(mask.PATH_MTU && (decide (attr.path_mtu < 1) || decide (5 < attr.path_mtu))) &&
  !(mask.TIMEOUT && decide (0x1F < attr.timeout)) &&
  !(mask.RETRY_CNT && decide (7 < attr.retry_cnt)) &&
  !(mask.MIN_RNR_TIMER && decide (0x1F < attr.min_rnr_timer)) &&
  !(mask.RNR_RETRY && decide (7 < attr.rnr_retry)) &&
  !(mask.MAX_QP_RD_ATOMIC && decide (128 < attr.max_rd_atomic)) &&
  !(mask.MAX_DEST_RD_ATOMIC && decide (PIB_MAX_RD_ATOM < attr.max_dest_rd_atomic)) &&
  !(mask.RQ_PSN && cfg.error_manner_psn && decide (PSN_MOD ≤ attr.rq_psn)) &&
  !(mask.SQ_PSN && cfg.error_manner_psn && decide (PSN_MOD ≤ attr.sq_psn)) &&
  !(mask.PKEY_INDEX && decide (32 ≤ attr.pkey_index))

/-- The attribute assignments of `pib_modify_qp`, in the order of the source. -/
def setAttrs (cfg : Config) (q : Qp) (attr : ModifyAttr) (mask : AttrMask) : Qp :=
  let a := q.attr
  let alt_ah_attr := if mask.ALT_PATH then attr.alt_ah_attr else a.alt_ah_attr
  { q with
    attr := { a with
      path_mtu := if mask.PATH_MTU then attr.path_mtu else a.path_mtu
      qkey := if mask.QKEY then attr.qkey else a.qkey
      dest_qp_num := if mask.DEST_QPN then attr.dest_qp_num else a.dest_qp_num
      ah_attr := if mask.PATH_MIG_STATE then alt_ah_attr
        else if mask.AV then attr.ah_attr else a.ah_attr
      pkey_index := if mask.PATH_MIG_STATE then attr.alt_pkey_index
        else if mask.PKEY_INDEX then attr.pkey_index else a.pkey_index
      alt_ah_attr := alt_ah_attr
      alt_pkey_index := if mask.ALT_PATH then attr.alt_pkey_index else a.alt_pkey_index
      en_sqd_async_notify :=
        if mask.EN_SQD_ASYNC_NOTIFY then attr.en_sqd_async_notify else a.en_sqd_async_notify
      max_rd_atomic := if mask.MAX_QP_RD_ATOMIC then attr.max_rd_atomic else a.max_rd_atomic
      max_dest_rd_atomic :=
        if mask.MAX_DEST_RD_ATOMIC then attr.max_dest_rd_atomic else a.max_dest_rd_atomic
      min_rnr_timer := if mask.MIN_RNR_TIMER then attr.min_rnr_timer else a.min_rnr_timer
      port_num := if mask.PORT then attr.port_num else a.port_num
      timeout := if mask.TIMEOUT then attr.timeout else a.timeout
      retry_cnt := if mask.RETRY_CNT then attr.retry_cnt else a.retry_cnt
      rnr_retry := if mask.RNR_RETRY then attr.rnr_retry else a.rnr_retry }
    local_ack_timeout :=
      if mask.TIMEOUT then pibGetLocalAckTime cfg.HZ attr.timeout else q.local_ack_timeout
    requester := { q.requester with
      psn := if mask.SQ_PSN then psnMask attr.sq_psn else q.requester.psn
      expected_psn := if mask.SQ_PSN then psnMask attr.sq_psn else q.requester.expected_psn
      max_rd_atomic :=
        if mask.MAX_QP_RD_ATOMIC then attr.max_rd_atomic else q.requester.max_rd_atomic }
    responder := { q.responder with
      psn := if mask.RQ_PSN then psnMask attr.rq_psn else q.responder.psn } }

/-- The side reactions of `pib_modify_qp` to a new state. -/
def enterState (cfg : Config) (now : Nat) (q : Qp) (new_state : QpState) : Qp :=
  let q := { q with state := new_state }
  match new_state with
  | .RESET => resetQp cfg now q
  | .RTR => { q with issue_comm_est := false }
  | .SQE => pibUtilFlushQp now true q
  | .ERR => pibUtilFlushQp now false q
  | .INIT | .RTS | .SQD => q

/-- `get_send_wr_num`. -/
def getSendWrNum (q : Qp) : Int :=
  q.requester.nr_submitted_swqe + q.requester.nr_sending_swqe + q.requester.nr_waiting_swqe

/-- The end of `pib_modify_qp`: a drained send queue is reported, and pending
work requests are started. -/
def settleState (now : Nat) (q : Qp) (cur_state new_state : QpState) (drained : Bool) : Qp :=
  let q' :=
    if drained then
      { (if q.attr.en_sqd_async_notify then q.insertEvent .SQ_DRAINED else q) with
        issue_sq_drained := true }
    else q
  let q' := if cur_state = .SQD ∧ new_state ≠ .SQD then { q' with issue_sq_drained := false } else q'
  if new_state = .RTS ∧ getSendWrNum q ≠ 0 then getReadyToSend now q' else q'

/-- The part of `pib_modify_qp` after the attributes are set. -/
def changeState (cfg : Config) (now : Nat) (q : Qp) (cur_state new_state : QpState)
    (drained : Bool) (mask : AttrMask) : Qp × Option Errno :=
  if mask.STATE = false then (q, none)
  else if new_state = .SQE ∧ q.qp_type = .RC then (q, some .EINVAL)
  else if cur_state = .SQD ∧ q.issue_sq_drained = false ∧ (new_state = .RTS ∨ new_state = .SQD)
    then (q, some .EINVAL)
  else (settleState now (enterState cfg now q new_state) cur_state new_state drained, none)

/-- `ib_modify_qp_is_ok`: the states before and after, and the attributes that are set. -/
abbrev StateCheck := QpState → QpState → AttrMask → Bool

/-- `pib_modify_qp` of an RC queue pair. `ibModifyQpIsOk` is the check of the
verbs layer: the state the caller names, the new state and the mask. -/
def pibModifyQp (cfg : Config) (ibModifyQpIsOk : QpState → QpState → AttrMask → Bool) (now : Nat)
    (q : Qp) (attr : ModifyAttr) (mask : AttrMask) : Qp × Option Errno :=
  let cur_state := if mask.CUR_STATE then attr.cur_qp_state else q.state
  let new_state := if mask.STATE then attr.qp_state else cur_state
  let drained := decide (q.requester.sending_swqe = [] ∧ q.requester.waiting_swqe = [])
  if cur_state = .SQD ∧ (new_state = .SQD ∨ new_state = .RTS) ∧ drained = false then
    (q, some .EBUSY)
  else if ibModifyQpIsOk cur_state new_state mask = false then (q, some .EINVAL)
  else if modifyQpIsOk cfg q cur_state attr mask = false then (q, some .EINVAL)
  else changeState cfg now (setAttrs cfg q attr mask) cur_state new_state drained mask

end pib
