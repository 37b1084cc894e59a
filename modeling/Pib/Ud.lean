-- Unreliable datagrams (`pib_ud.c`): address handles, and posting, sending
-- and receiving on a UD, GSI or SMI queue pair.
import Pib.Thread

namespace pib

open Bytes

/-! ## Address handles and datagrams -/

/-- `struct pib_ah`. `same_pd` tells that the handle belongs to the protection
domain of the queue pair. -/
structure Ah where
  same_pd : Bool := true
  attr : AhAttr := {}
  deriving DecidableEq, Repr

/-- What `pib_process_ud_qp_request` puts together in the send buffer. -/
structure Datagram where
  ah_attr : AhAttr
  port_num : Nat
  with_imm : Bool
  imm_data : Nat
  pkey_index : Nat
  remote_qpn : Nat
  qkey : Nat
  psn : Nat
  solicited : Bool
  payload : List UInt8
  deriving DecidableEq, Repr

/-- A queue pair for datagrams with what it needs. `ahs` are the address
handles that `pib_create_ah` has given out. -/
structure UdNode where
  qp : Qp
  pd : Pd
  mem : Mem
  ahs : Nat → Option Ah := fun _ => none
  send_buffer : Option Datagram := none
  crashes : List Crash := []

namespace UdNode

def setQp (n : UdNode) (q : Qp) : UdNode := { n with qp := q }

/-- `pib_create_ah` and `pib_modify_ah`: the attributes are stored unchecked. -/
def setAh (n : UdNode) (i : Nat) (ah : Ah) : UdNode :=
  { n with ahs := fun j => if j = i then some ah else n.ahs j }

@[simp] theorem setQp_qp (n : UdNode) (q : Qp) : (n.setQp q).qp = q := rfl
@[simp] theorem setQp_crashes (n : UdNode) (q : Qp) : (n.setQp q).crashes = n.crashes := rfl

end UdNode

/-! ## Posting -/

/-- The opcodes that a datagram can have. -/
def isUdSend (opcode : WrOpcode) : Bool := decide (opcode = .SEND ∨ opcode = .SEND_WITH_IMM)

/-- `pib_post_send` refuses a handle that is missing or of another domain,
unless it is to be reported as a completion. -/
def ahRefused (cfg : Config) (ahs : Nat → Option Ah) (wr : SendWr) : Bool :=
  isUdSend wr.opcode && !cfg.ah_pd_violation_comp_err &&
    match wr.wr.ud.ah.bind ahs with
    | none => true
    | some ah => !ah.same_pd

/-- A free element is filled in for a work request on a datagram queue pair. -/
def fillUdSwqe (cfg : Config) (copyFromUser : Nat → Nat → Option (List UInt8))
    (ahs : Nat → Option Ah) (q : Qp) (total_length : Nat) (wr : SendWr) (sges : List Sge)
    (imm_data : Nat) (w : SendWqe) : SendWqe × Option Errno :=
  let w := startSwqe w wr sges imm_data
  let total_length := addLength cfg total_length wr sges
  if PIB_MAX_PAYLOAD_LEN < total_length then (w, some .EMSGSIZE)
  else
    let w := { w with total_length := total_length }
    let (w, ok) :=
      if w.send_flags.INLINE then copyInlineData copyFromUser q w total_length else (w, true)
    if ok = false then (w, some .EFAULT)
    else if ahRefused cfg ahs wr then (w, some .EINVAL)
    else
      ({ w with
        wr := if isUdSend wr.opcode then { ud := wr.wr.ud } else {}
        processing := { w.processing with list_type := .SUBMITTED, status := .SUCCESS } }, none)

/-- What one work request does in `pib_post_send`. -/
def postUdSendWr (cfg : Config) (copyFromUser : Nat → Nat → Option (List UInt8))
    (ahs : Nat → Option Ah) (q : Qp) (total_length : Nat) (wr : SendWr) : Qp × Nat × Option Errno :=
  if q.state = .RESET ∨ q.state = .INIT then (q, total_length, some .EINVAL)
  else if q.state = .ERR ∨ q.state = .SQE then
    (q.insertSendError wr.wr_id .WR_FLUSH_ERR wr.opcode, total_length, none)
  else
    let (sges, imm_data) := sgesOf cfg wr
    if sges.length < 1 ∨ q.init_attr.max_send_sge < sges.length then
      (q, total_length, some .EINVAL)
    else
      match q.requester.free_swqe with
      | [] => (q, total_length, some .ENOMEM)
      | w :: free =>
        match fillUdSwqe cfg copyFromUser ahs q total_length wr sges imm_data w with
        | (w, some e) =>
          ({ q with requester := { q.requester with free_swqe := w :: free } },
            addLength cfg total_length wr sges, some e)
        | (w, none) =>
          ({ q with requester := { q.requester with
              free_swqe := free
              submitted_swqe := q.requester.submitted_swqe ++ [w]
              nr_submitted_swqe := q.requester.nr_submitted_swqe + 1 } },
            addLength cfg total_length wr sges, none)

/-- The `next_wr` loop of `pib_post_send`. -/
def postUdSendLoop (cfg : Config) (copyFromUser : Nat → Nat → Option (List UInt8))
    (ahs : Nat → Option Ah) : Qp → Nat → List SendWr → Qp × Option Errno
  | q, _, [] => (q, none)
  | q, total_length, wr :: wrs =>
    match postUdSendWr cfg copyFromUser ahs q total_length wr with
    | (q, _, some e) => (q, some e)
    | (q, total_length, none) => postUdSendLoop cfg copyFromUser ahs q total_length wrs

/-- `pib_post_send` on a datagram queue pair. -/
def pibPostUdSend (cfg : Config) (copyFromUser : Nat → Nat → Option (List UInt8)) (now : Nat)
    (ahs : Nat → Option Ah) (q : Qp) (wrs : List SendWr) : Qp × Option Errno :=
  match wrs with
  | [] => (q, some .EINVAL)
  | _ :: _ =>
    let (q', e) := postUdSendLoop cfg copyFromUser ahs q 0 wrs
    (if q.state = .RTS then getReadyToSend now q' else q', e)

/-! ## Sending -/

/-- The tests at the head of `pib_process_ud_qp_request`. Nothing is
`IB_WC_LOC_QP_OP_ERR`. -/
def udRoute (cfg : Config) (n : UdNode) (w : SendWqe) : Option Ah :=
  if isUdSend w.opcode = false then none
  else
    match w.wr.ud.ah.bind n.ahs with
    | none => none
    | some ah =>
      if 32 ≤ w.wr.ud.pkey_index ∨ ah.same_pd = false ∨ ah.attr.port_num < 1 ∨
          cfg.phys_port_cnt < ah.attr.port_num ∨
          (n.qp.qp_type = .UD ∧ n.qp.attr.port_num ≠ ah.attr.port_num) then none
      else some ah

/-- The payload of a datagram, from the inline data or from memory. -/
def gatherUd (n : UdNode) (w : SendWqe) : WcStatus × List UInt8 :=
  if w.total_length = 0 then (.SUCCESS, [])
  else if w.send_flags.INLINE then
    (.SUCCESS, padTo w.total_length (w.inline_data_buffer.take w.total_length))
  else
    let (status, _, out) := pibUtilMrCopyData n.pd w.sge_array n.mem [] 0 w.total_length 0 .COPY_FROM
    (status, padTo w.total_length out)

/-- The Q_Key of a datagram: one with the high bit set stands for that of the
queue pair. -/
def udQkey (q : Qp) (remote_qkey : Nat) : Nat :=
  if 2 ^ 31 ≤ u32 remote_qkey then q.attr.qkey else remote_qkey

/-- What goes out for an element, or the status it fails with. -/
def buildUd (cfg : Config) (n : UdNode) (w : SendWqe) : WcStatus × Option Datagram :=
  match udRoute cfg n w with
  | none => (.LOC_QP_OP_ERR, none)
  | some ah =>
    if w.processing.all_packets ≠ 1 then (.LOC_LEN_ERR, none)
    else
      let (status, payload) := gatherUd n w
      if status ≠ .SUCCESS then (status, none)
      else (.SUCCESS, some
        { ah_attr := ah.attr, port_num := ah.attr.port_num
          with_imm := decide (w.opcode = .SEND_WITH_IMM), imm_data := w.ex
          pkey_index := w.wr.ud.pkey_index, remote_qpn := w.wr.ud.remote_qpn
          qkey := udQkey n.qp w.wr.ud.remote_qkey, psn := psnMask n.qp.attr.sq_psn
          solicited := w.send_flags.SOLICITED, payload })

/-- The accesses outside a table or a buffer behind a datagram: `gid[]` in
`pib_fill_grh`, and the inline data. -/
def udCrashes (cfg : Config) (n : UdNode) (w : SendWqe) : List Crash :=
  match udRoute cfg n w with
  | none => []
  | some ah =>
    (if ah.attr.grh = true ∧ 16 ≤ ah.attr.sgid_index then [.gidTable] else []) ++
      if w.processing.all_packets = 1 ∧ w.send_flags.INLINE = true ∧
          w.inline_data_buffer.length < w.total_length then [.inlineOverrun] else []

def SendWqe.release (w : SendWqe) : SendWqe :=
  { w with processing := { w.processing with list_type := .FREE } }

/-- A datagram that fails: the queue pair goes to SQE, and the send queue is
flushed. `ws` is the rest of the sending list. -/
def failUd (q : Qp) (w : SendWqe) (ws : List SendWqe) (status : WcStatus) : Qp :=
  let q := { q with state := .SQE }
  let q := (q.insertSendError w.wr_id status w.opcode).setInFlight .sending ws (-1)
  (pibUtilFlushQp 0 true q).freeSendWqe w.release

/-- A datagram that has been sent leaves the sending list. -/
def finishUd (q : Qp) (w : SendWqe) (ws : List SendWqe) : Qp :=
  let q := { q with attr := { q.attr with sq_psn := u32 (q.attr.sq_psn + 1) } }
  let q := q.setInFlight .sending ws (-1)
  let q := if isSignaled q w then
      { q with send_cq := q.send_cq ++ [{ wr_id := w.wr_id, status := .SUCCESS, opcode := .SEND }] }
    else q
  q.freeSendWqe w.release

/-- `pib_process_ud_qp_request` of the first sending element, and the list
change that follows it. -/
def pibProcessUdQpRequest (cfg : Config) (n : UdNode) (w : SendWqe) (ws : List SendWqe) : UdNode :=
  let n := { n with crashes := n.crashes ++ udCrashes cfg n w }
  match buildUd cfg n w with
  | (.SUCCESS, some d) => { n with send_buffer := some d, qp := finishUd n.qp w ws }
  | (status, _) => n.setQp (failUd n.qp w ws status)

/-- `process_send_wr` on a datagram queue pair. -/
def processUdSendWr (cfg : Config) (n : UdNode) (w : SendWqe) (ws : List SendWqe) : UdNode :=
  if w.processing.list_type ≠ .SENDING then { n with crashes := n.crashes ++ [.swqeList] }
  else if w.processing.status ≠ .SUCCESS then n.setQp (failUd n.qp w ws w.processing.status)
  else pibProcessUdQpRequest cfg n w ws

def processUdSendingHead (cfg : Config) (now : Nat) (n : UdNode) : UdNode :=
  match n.qp.requester.sending_swqe with
  | [] => n
  | w :: ws =>
    if PIB_MAX_CONTIG_REQUESTS < n.qp.requester.nr_contig_requests then n
    else if now < w.processing.schedule_time then n
    else processUdSendWr cfg n (w.setSchedule now) ws

/-- One iteration of `process_on_qp_scheduler` for a datagram queue pair. No
acknowledges are generated, and nothing ever gets to the waiting list. -/
def processUdScheduler (cfg : Config) (now : Nat) (n : UdNode) : UdNode :=
  let n :=
    if n.qp.state ≠ .RTS ∧ n.qp.state ≠ .SQD then n
    else if n.qp.requester.sending_swqe = [] then
      match processNewSendWr now n.qp with
      | none => n
      | some q => processUdSendingHead cfg now (n.setQp q)
    else processUdSendingHead cfg now n
  n.setQp (pibUtilRescheduleQp now n.qp)

/-! ## Receiving -/

def IB_OPCODE_UD_SEND_ONLY : OpCode := .OTHER 0x64
def IB_OPCODE_UD_SEND_ONLY_WITH_IMMEDIATE : OpCode := .OTHER 0x65
def IB_QP1_QKEY : Nat := 0x80010000

/-- A datagram as it arrives: `psn` is the whole word, `buffer` is what follows
the base transport header. -/
structure UdPacket where
  opcode : OpCode
  psn : Nat
  padcnt : Nat := 0
  slid : Nat := 0
  grh : Option (List UInt8) := none
  buffer : List UInt8 := []
  deriving DecidableEq, Repr

/-- The first receive element, taken from the shared receive queue or from the
queue pair's own, and the queue pair without it. -/
def takeRecvWqe (q : Qp) : Option (RecvWqe × Qp) :=
  match q.srq with
  | some srq =>
    if srq.ok = false then none
    else
      match srq.recv_wqe with
      | [] => none
      | w :: _ => some (w, { q with srq := some srq.pop })
  | none =>
    match q.responder.recv_wqe with
    | [] => none
    | w :: ws => some (w, { q with responder := { q.responder with
        recv_wqe := ws, nr_recv_wqe := q.responder.nr_recv_wqe - 1 } })

theorem takeRecvWqe_qp {q q' : Qp} {w : RecvWqe} (h : takeRecvWqe q = some (w, q')) :
    ∃ srq responder, q' = { q with srq, responder } := by
  unfold takeRecvWqe at h
  split at h
  · split at h
    · cases h
    split at h
    · cases h
    · cases h
      exact ⟨_, _, rfl⟩
  · split at h
    · cases h
    · cases h
      exact ⟨_, _, rfl⟩

/-- The GRH is copied to the first 40 bytes of the receive element, if there is
one, and the payload behind them. -/
def storeDatagram (pd : Pd) (mem : Mem) (w : RecvWqe) (grh : Option (List UInt8))
    (payload : List UInt8) : WcStatus × Mem :=
  let copy (mem : Mem) (bytes : List UInt8) (offset : Nat) :=
    pibUtilMrCopyData pd w.sge_array mem bytes offset bytes.length IB_ACCESS_LOCAL_WRITE .COPY_TO
  match grh with
  | none =>
    let (status, mem, _) := copy mem payload 40
    (status, mem)
  | some grh =>
    match copy mem grh 0 with
    | (.SUCCESS, mem, _) =>
      let (status, mem, _) := copy mem payload 40
      (status, mem)
    | (status, mem, _) => (status, mem)

/-- The ends of `pib_receive_ud_qp_incoming_message` once the receive element
`w` is taken out. Errors are reported on the send completion queue. -/
def finishUdReceive (now : Nat) (q : Qp) (w : RecvWqe) (wc : Wc) (solicited : Bool)
    (status : WcStatus) : Qp :=
  if status = .SUCCESS then
    Qp.freeRecvWqe { q with
      recv_cq := q.recv_cq ++ [(wc, solicited)]
      push_rcqe := true
      attr := { q.attr with rq_psn := u32 (q.attr.rq_psn + 1) } }
  else if status = .LOC_LEN_ERR then
    if q.srq.isSome then
      Qp.freeRecvWqe { q with
        send_cq := q.send_cq ++ [{ wr_id := w.wr_id, status := .REM_ABORT_ERR, opcode := .RECV }]
        push_rcqe := true }
    else q.freeRecvWqe
  else
    let q := { q with
      state := .ERR
      send_cq := q.send_cq ++ [{ wr_id := w.wr_id, status, opcode := .RECV }] }
    Qp.freeRecvWqe { pibUtilFlushQp now false q with push_rcqe := true }

/-- The datagram passes the checks that need no receive element. What remains
of the buffer, the immediate data and the source queue pair. -/
def udAccepts (port_num : Nat) (q : Qp) (p : UdPacket) : Option (Nat × Nat × List UInt8) :=
  if pibIsRecvOk q.state = false then none
  else if p.opcode ≠ IB_OPCODE_UD_SEND_ONLY ∧ p.opcode ≠ IB_OPCODE_UD_SEND_ONLY_WITH_IMMEDIATE then
    none
  else if 2 ^ 31 ≤ u32 p.psn ∨ p.buffer.length < 8 then none
  else if q.qp_type = .UD ∧ q.attr.port_num ≠ port_num then none
  else
    let qkey := ofBe (p.buffer.take 4)
    let src_qp := ofBe ((p.buffer.drop 4).take 4) % 2 ^ 24
    if (q.qp_type = .GSI ∧ qkey ≠ IB_QP1_QKEY) ∨
        (q.qp_type ≠ .SMI ∧ q.qp_type ≠ .GSI ∧ qkey ≠ q.attr.qkey) then none
    else
      match takeWord (decide (p.opcode = IB_OPCODE_UD_SEND_ONLY_WITH_IMMEDIATE)) (p.buffer.drop 8) with
      | none => none
      | some (imm_data, payload) => some (src_qp, imm_data, payload)

/-- `pib_receive_ud_qp_incoming_message`. -/
def pibReceiveUdQpIncomingMessage (now port_num : Nat) (n : UdNode) (p : UdPacket) : UdNode :=
  match udAccepts port_num n.qp p with
  | none => n
  | some (src_qp, imm_data, payload) =>
    match takeRecvWqe n.qp with
    | none => n
    | some (w, q) =>
      -- a datagram that is too long is dropped, and its element freed unreported
      if w.total_length < payload.length then n.setQp q.freeRecvWqe
      else
        let (status, mem) := storeDatagram n.pd n.mem w p.grh payload
        let wc : Wc :=
          { wr_id := w.wr_id, status := .SUCCESS, opcode := .RECV, byte_len := payload.length + 40
            ex := imm_data, slid := p.slid, src_qp, with_grh := p.grh.isSome
            with_imm := decide (p.opcode = IB_OPCODE_UD_SEND_ONLY_WITH_IMMEDIATE) }
        { n with mem, qp := finishUdReceive now q w wc (decide (p.padcnt ≠ 0)) status }

/-! ## The queue pair as a machine -/

/-- What can happen to a datagram queue pair. -/
inductive UdAct
  | postSend (copyFromUser : Nat → Nat → Option (List UInt8)) (wrs : List SendWr)
  | postRecv (wrs : List RecvWr)
  | schedule
  | receive (port_num : Nat) (p : UdPacket)
  | modify (attr : ModifyAttr) (mask : AttrMask)
  | fatal
  /-- `pib_create_ah` or `pib_modify_ah` -/
  | setAh (i : Nat) (ah : Ah)
  | environment (pd : Pd) (mem : Mem) (srq : Option Srq)

/-- One step at time `now`. -/
def udAct (cfg : Config) (ibModifyQpIsOk : QpState → QpState → AttrMask → Bool) (now : Nat)
    (n : UdNode) (a : UdAct) : UdNode :=
  let n := { n with send_buffer := none }
  match a with
  | .postSend copyFromUser wrs => n.setQp (pibPostUdSend cfg copyFromUser now n.ahs n.qp wrs).1
  | .postRecv wrs => n.setQp (pibPostRecv cfg n.qp wrs).1
  | .schedule => processUdScheduler cfg now n
  | .receive port_num p =>
    let n := pibReceiveUdQpIncomingMessage now port_num n p
    n.setQp (pibUtilRescheduleQp now n.qp)
  | .modify attr mask => n.setQp (pibModifyQp cfg ibModifyQpIsOk now n.qp attr mask).1
  | .fatal => n.setQp (failQp now n.qp)
  | .setAh i ah => n.setAh i ah
  | .environment pd mem srq =>
    { n with pd, mem, qp := { n.qp with srq := if n.qp.srq.isSome then srq else none } }

end pib
