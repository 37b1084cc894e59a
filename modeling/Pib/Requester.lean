-- The requester half of `pib_rc.c`: generating request packets and taking
-- in the responses to them.
import Pib.Responder

namespace pib

open Bytes

/-! ## Generating request packets -/

/-- Where the next packet of a SEND or RDMA WRITE stands in its message. -/
inductive Position
  | only | first | last | middle
  deriving DecidableEq, Repr

def positionOf (pr : Processing) : Position :=
  if pr.all_packets = 1 then .only
  else if pr.sent_packets = 0 then .first
  else if pr.all_packets = u32 (pr.sent_packets + 1) then .last
  else .middle

def sendOpcode : Position → OpCode
  | .only => .SEND_ONLY
  | .first => .SEND_FIRST
  | .last => .SEND_LAST
  | .middle => .SEND_MIDDLE

def writeOpcode : Position → OpCode
  | .only => .RDMA_WRITE_ONLY
  | .first => .RDMA_WRITE_FIRST
  | .last => .RDMA_WRITE_LAST
  | .middle => .RDMA_WRITE_MIDDLE

/-- The wire opcode of the next packet, for the opcodes that carry data. -/
def dataOpcode (pos : Position) : WrOpcode → Option OpCode
  | .SEND => some (sendOpcode pos)
  | .SEND_WITH_IMM => some (match pos with
    | .only => .SEND_ONLY_WITH_IMMEDIATE
    | .last => .SEND_LAST_WITH_IMMEDIATE
    | pos => sendOpcode pos)
  | .SEND_WITH_INV => some (match pos with
    | .only => .SEND_ONLY_WITH_INVALIDATE
    | .last => .SEND_LAST_WITH_INVALIDATE
    | pos => sendOpcode pos)
  | .RDMA_WRITE => some (writeOpcode pos)
  | .RDMA_WRITE_WITH_IMM => some (match pos with
    | .only => .RDMA_WRITE_ONLY_WITH_IMMEDIATE
    | .last => .RDMA_WRITE_LAST_WITH_IMMEDIATE
    | pos => writeOpcode pos)
  | _ => none

def Position.isStart : Position → Bool
  | .only | .first => true
  | _ => false

def Position.isEnd : Position → Bool
  | .only | .last => true
  | _ => false

/-- `with_reth`: the first packet of an RDMA WRITE. -/
def withReth (pos : Position) (opcode : WrOpcode) : Bool :=
  pos.isStart && decide (opcode = .RDMA_WRITE ∨ opcode = .RDMA_WRITE_WITH_IMM)

/-- `with_imm` or `with_inv`: the last packet carries four bytes more. -/
def withWord (pos : Position) (opcode : WrOpcode) : Bool :=
  pos.isEnd && decide (opcode = .SEND_WITH_IMM ∨ opcode = .SEND_WITH_INV ∨
    opcode = .RDMA_WRITE_WITH_IMM)

/-- The offset of the next packet in the message. -/
def mrOffset (q : Qp) (w : SendWqe) : Nat :=
  u32 (w.processing.sent_packets * pmtuOf q.attr.path_mtu)

/-- The payload of the next packet: a full one but for the last. -/
def payloadSize (q : Qp) (w : SendWqe) : Nat :=
  if u32Sub w.processing.all_packets w.processing.sent_packets = 1 then
    u32Sub w.total_length (mrOffset q w)
  else pmtuOf q.attr.path_mtu

section Segment

variable {q : Qp} {w : SendWqe} (hlen : w.total_length ≤ PIB_MAX_PAYLOAD_LEN)
  (hall : w.processing.all_packets = pibGetNumOfPackets .RC q.attr.path_mtu w.total_length)
  (hsent : w.processing.sent_packets < w.processing.all_packets)
include hlen hall hsent

theorem mrOffset_eq : mrOffset q w = w.processing.sent_packets * pmtuOf q.attr.path_mtu := by
  have h := mul_pmtuOf_le (hall ▸ hsent)
  unfold PIB_MAX_PAYLOAD_LEN at hlen
  exact Nat.mod_eq_of_lt (by omega)

theorem payloadSize_eq : payloadSize q w =
    if w.processing.sent_packets + 1 = w.processing.all_packets then
      w.total_length - w.processing.sent_packets * pmtuOf q.attr.path_mtu
    else pmtuOf q.attr.path_mtu := by
  have hle := mul_pmtuOf_le (hall ▸ hsent)
  have hlt := pibGetNumOfPackets_lt .RC q.attr.path_mtu hlen
  rw [← hall] at hlt
  have hdiff := u32Sub_of_le hsent.le (hlt.trans (by decide))
  unfold payloadSize
  rw [hdiff, mrOffset_eq hlen hall hsent]
  unfold PIB_MAX_PAYLOAD_LEN at hlen
  by_cases h : w.processing.sent_packets + 1 = w.processing.all_packets
  · rw [if_pos h, if_pos (by omega), u32Sub_of_le hle (by omega)]
  · rw [if_neg h, if_neg (by omega)]

/-- The next packet lies within the message. -/
theorem payload_le : mrOffset q w + payloadSize q w ≤ w.total_length := by
  have hle := mul_pmtuOf_le (hall ▸ hsent)
  rw [mrOffset_eq hlen hall hsent, payloadSize_eq hlen hall hsent]
  split
  · omega
  rename_i h
  have hnext : w.processing.sent_packets + 1 < w.processing.all_packets := by omega
  have h := mul_pmtuOf_le (hall ▸ hnext)
  rw [Nat.add_mul, Nat.one_mul] at h
  exact h

end Segment

/-- The bytes of the next packet, from the inline data or from memory. -/
def gatherPayload (n : Node) (w : SendWqe) (mr_offset payload_size : Nat) :
    WcStatus × List UInt8 :=
  if payload_size = 0 then (.SUCCESS, [])
  else if w.send_flags.INLINE then
    (.SUCCESS, padTo payload_size ((w.inline_data_buffer.drop mr_offset).take payload_size))
  else
    let (status, _, out) := pibUtilMrCopyData n.pd w.sge_array n.mem [] mr_offset payload_size 0
      .COPY_FROM
    (status, padTo payload_size out)

/-- What one of the three `process_*_request` functions yields: a status and,
with success, the packet. -/
abbrev Request := WcStatus × Option RcPacket

/-- The PSN of the next packet. -/
def nextPsn (w : SendWqe) : Nat := psnMask (u32 (w.processing.based_psn + w.processing.sent_packets))

/-- `process_SEND_or_RDMA_WRITE_request`, without its effect on the counter. -/
def processSendOrRdmaWriteRequest (n : Node) (w : SendWqe) (opcode : OpCode) : Request :=
  let pos := positionOf w.processing
  if PIB_MAX_PAYLOAD_LEN < w.total_length then (.LOC_LEN_ERR, none)
  else
    let reth := if withReth pos w.opcode then
        Reth.encode { vaddr := w.wr.remote_addr, rkey := w.wr.rkey, dmalen := w.total_length }
      else []
    let word := if withWord pos w.opcode then be 4 w.ex else []
    let payload_size := payloadSize n.qp w
    let (status, data) := gatherPayload n w (mrOffset n.qp w) payload_size
    if status ≠ .SUCCESS then (status, none)
    else (.SUCCESS, some
      { opcode, psn := nextPsn w, padcnt := padOf payload_size
        solicited := w.send_flags.SOLICITED, buffer := reth ++ word ++ data })

/-- `process_RDMA_READ_request`: a retried request asks for the rest only. -/
def processRdmaReadRequest (n : Node) (w : SendWqe) : Request :=
  if PIB_MAX_PAYLOAD_LEN < w.total_length then (.LOC_LEN_ERR, none)
  else
    let offset := mrOffset n.qp w
    (.SUCCESS, some
      { opcode := .RDMA_READ_REQUEST, psn := nextPsn w, solicited := w.send_flags.SOLICITED
        buffer := Reth.encode
          { vaddr := u64 (w.wr.remote_addr + offset), rkey := w.wr.rkey
            dmalen := u32Sub w.total_length offset } })

/-- `process_Atomic_request`. -/
def processAtomicRequest (w : SendWqe) (opcode : OpCode) : Request :=
  (.SUCCESS, some
    { opcode, psn := nextPsn w, solicited := w.send_flags.SOLICITED
      buffer := AtomicEth.encode
        { vaddr := w.wr.remote_addr, rkey := w.wr.rkey, swap_dt := w.wr.swap
          cmp_dt := w.wr.compare_add } })

/-- The `switch` of `pib_process_rc_qp_request` over the opcode. -/
def buildRequest (n : Node) (w : SendWqe) : Request :=
  match w.opcode with
  | .RDMA_READ => processRdmaReadRequest n w
  | .ATOMIC_CMP_AND_SWP => processAtomicRequest w .COMPARE_SWAP
  | .ATOMIC_FETCH_AND_ADD => processAtomicRequest w .FETCH_ADD
  | _ =>
    match dataOpcode (positionOf w.processing) w.opcode with
    | some opcode => processSendOrRdmaWriteRequest n w opcode
    | none => (.LOC_QP_OP_ERR, none)

/-- The opcode of the next packet of an element. Nothing is one that the
switch does not know. -/
def requestOpcode (w : SendWqe) : Option OpCode :=
  match w.opcode with
  | .RDMA_READ => some .RDMA_READ_REQUEST
  | .ATOMIC_CMP_AND_SWP => some .COMPARE_SWAP
  | .ATOMIC_FETCH_AND_ADD => some .FETCH_ADD
  | o => dataOpcode (positionOf w.processing) o

/-- A read past the inline data of the element. -/
def inlineOverrun (n : Node) (w : SendWqe) : Bool :=
  (dataOpcode (positionOf w.processing) w.opcode).isSome && w.send_flags.INLINE &&
    decide (w.total_length ≤ PIB_MAX_PAYLOAD_LEN) && decide (payloadSize n.qp w ≠ 0) &&
    decide (w.inline_data_buffer.length < mrOffset n.qp w + payloadSize n.qp w)

/-- `pib_process_local_only_request`. The flag is false for a return of -1. -/
def pibProcessLocalOnlyRequest (n : Node) (w : SendWqe) : Node × SendWqe × Bool :=
  if w.processing.done then (n, w, decide (w.processing.status = .SUCCESS))
  else
    match w.opcode with
    | .LOCAL_INV =>
      let (status, pd) := pibUtilMrInvalidate n.pd w.ex
      ({ n with pd }, { w with processing := { w.processing with status, done := true } },
        decide (status = .SUCCESS))
    | .FAST_REG_MR =>
      let (status, pd) := pibUtilMrFastRegPmr n.pd w.wr.fast_reg
      ({ n with pd }, { w with processing := { w.processing with status, done := true } },
        decide (status = .SUCCESS))
    | _ => (n.crash .localOnlyOpcode, w, true)

/-- The element waits for its acknowledge from now on. -/
def SendWqe.startWaiting (now : Nat) (q : Qp) (w : SendWqe) : SendWqe :=
  { w with processing := { w.processing with
    list_type := .WAITING, local_ack_time := now + q.local_ack_timeout } }

def SendWqe.setStatus (w : SendWqe) (status : WcStatus) : SendWqe :=
  { w with processing := { w.processing with status } }

/-- The counter of requests without a response: the first packet of an RDMA
WRITE clears it, and each packet but an RDMA READ request counts. -/
def countRequest (q : Qp) (w : SendWqe) (sent : Bool) : Qp :=
  let nr := if withReth (positionOf w.processing) w.opcode = true ∧
      w.total_length ≤ PIB_MAX_PAYLOAD_LEN then 0 else q.requester.nr_contig_requests
  let nr := if sent = true ∧ w.opcode ≠ .RDMA_READ then nr + 1 else nr
  { q with requester := { q.requester with nr_contig_requests := nr } }

/-- `pib_process_rc_qp_request` of an element that sends a packet. -/
def sendRequest (now : Nat) (n : Node) (w : SendWqe) : Node × SendWqe :=
  let n := n.headers
  let n := if inlineOverrun n w then n.crash .inlineOverrun else n
  match buildRequest n w with
  | (.SUCCESS, some p) =>
    let n := (n.transmit p).setQp (countRequest n.qp w true)
    if w.opcode = .RDMA_READ then (n, w.startWaiting now n.qp)
    else
      let w := { w with processing := { w.processing with
        sent_packets := u32 (w.processing.sent_packets + 1) } }
      if w.processing.sent_packets < w.processing.all_packets then (n, w)
      else (n, w.startWaiting now n.qp)
  | (status, _) => (n.setQp (countRequest n.qp w false), w.setStatus status)

/-- `pib_process_rc_qp_request`. -/
def pibProcessRcQpRequest (cfg : Config) (now : Nat) (n : Node) (w : SendWqe) : Node × SendWqe :=
  if w.local_only_request then
    if cfg.relaxed_invalidation_ordering then
      match pibProcessLocalOnlyRequest n w with
      | (n, w, true) => (n, w.startWaiting now n.qp)
      | (n, w, false) => (n, w)
    else (n, w.startWaiting now n.qp)
  else if w.processing.retry_cnt < 0 then (n, w.setStatus .RETRY_EXC_ERR)
  else if w.processing.rnr_retry < 0 then (n, w.setStatus .RNR_RETRY_EXC_ERR)
  else sendRequest now n w

/-! ## The lists of elements in flight -/

/-- The two lists that a response is matched against. -/
inductive InFlight
  | waiting | sending
  deriving DecidableEq, Repr

def Qp.inFlight (q : Qp) : InFlight → List SendWqe
  | .waiting => q.requester.waiting_swqe
  | .sending => q.requester.sending_swqe

/-- One of the two lists is replaced, and its counter moves by `d`. -/
def Qp.setInFlight (q : Qp) (l : InFlight) (ws : List SendWqe) (d : Int) : Qp :=
  match l with
  | .waiting => { q with requester := { q.requester with
      waiting_swqe := ws, nr_waiting_swqe := q.requester.nr_waiting_swqe + d } }
  | .sending => { q with requester := { q.requester with
      sending_swqe := ws, nr_sending_swqe := q.requester.nr_sending_swqe + d } }

/-- Back from the waiting to the sending list, with the packets that were
not acknowledged to be sent again. -/
def SendWqe.resend (w : SendWqe) : SendWqe :=
  { w with processing := { w.processing with
    list_type := .SENDING, sent_packets := w.processing.ack_packets } }

/-- The elements that wait are put in front of the sending list. The elements
that were there have `SENDING` as their list type. -/
def resendWaiting (q : Qp) : Qp :=
  let r := q.requester
  { q with requester := { r with
    waiting_swqe := []
    nr_waiting_swqe := r.nr_waiting_swqe - r.waiting_swqe.length
    sending_swqe := r.waiting_swqe.map SendWqe.resend ++ r.sending_swqe.map fun w =>
      { w with processing := { w.processing with sent_packets := w.processing.ack_packets } }
    nr_sending_swqe := r.nr_sending_swqe + r.waiting_swqe.length } }

/-- `postpone_local_ack_timeout`. -/
def postponeLocalAckTimeout (now : Nat) (q : Qp) : Qp :=
  { q with requester := { q.requester with
    waiting_swqe := q.requester.waiting_swqe.map fun w =>
      { w with processing := { w.processing with
        retry_cnt := q.attr.retry_cnt, local_ack_time := now + q.local_ack_timeout } } } }

/-- The PSN falls into the range of the element. -/
def matchesPsn (psn : Nat) (w : SendWqe) : Bool :=
  decide (0 ≤ getPsnDiff psn w.processing.based_psn) &&
    decide (getPsnDiff psn w.processing.expected_psn < 0)

/-- `match_send_wqe`: the list and the place in it. -/
def matchSendWqe (q : Qp) (psn : Nat) : Option (InFlight × Nat) :=
  match q.requester.waiting_swqe.findIdx? (matchesPsn psn) with
  | some i => some (.waiting, i)
  | none => (q.requester.sending_swqe.findIdx? (matchesPsn psn)).map fun i => (.sending, i)

/-- `first_send_wqe`: no element stands before this one. -/
def isFirst (q : Qp) (l : InFlight) (i : Nat) : Bool :=
  decide (i = 0) && (decide (l = .waiting) || q.requester.waiting_swqe.isEmpty)

def Qp.modifyInFlight (q : Qp) (l : InFlight) (i : Nat) (f : SendWqe → SendWqe) : Qp :=
  q.setInFlight l ((q.inFlight l).modify i f) 0

/-- `set_send_wqe_to_error`. -/
def setSendWqeToError (q : Qp) (psn : Nat) (status : WcStatus) : Qp :=
  match matchSendWqe q psn with
  | none => q
  | some (l, i) => q.modifyInFlight l i (·.setStatus status)

/-! ## Responses -/

/-- The work request reports its success. -/
def isSignaled (q : Qp) (w : SendWqe) : Bool := q.init_attr.sig_all_wr || w.send_flags.SIGNALED

/-- A successful completion of an element, when it is to be reported. -/
def completeSend (n : Node) (w : SendWqe) : Node :=
  if isSignaled n.qp w then
    match pibConvertWrOpcodeToWcOpcode w.opcode with
    | none => n.crash .wcOpcode
    | some opcode =>
      n.setQp { n.qp with send_cq := n.qp.send_cq ++ [{ wr_id := w.wr_id, status := .SUCCESS, opcode }] }
  else n

def Qp.setRequesterPsn (q : Qp) (w : SendWqe) : Qp :=
  { q with requester := { q.requester with psn := psnMask w.processing.expected_psn } }

/-- The return values of `process_acknowledge`. -/
inductive AckRet
  | ERROR | COMPLETE | CONTINUE | STOP
  deriving DecidableEq, Repr

/-- `process_acknowledge`. -/
def processAcknowledge (n : Node) (w : SendWqe) (psn : Nat) : AckRet × SendWqe × Node :=
  let psn_diff := getPsnDiff psn w.processing.based_psn
  if w.processing.status ≠ .SUCCESS then (.ERROR, w, n)
  else if psn_diff < 0 ∨ psn_diff + 1 ≤ w.processing.ack_packets then (.STOP, w, n)
  else if pibIsWrOpcodeRdAtomic w.opcode then (.ERROR, w.setStatus .BAD_RESP_ERR, n)
  else if psn_diff + 1 < w.processing.all_packets then
    (.CONTINUE, { w with processing := { w.processing with
      ack_packets := (psn_diff + 1).toNat } }, n)
  else
    let n := completeSend n w
    (.COMPLETE, w, n.setQp (n.qp.setRequesterPsn w))

/-- How a loop of `receive_ACK_response` ends. -/
inductive AckEnd
  | next | stop | error (w : SendWqe)

/-- The loop of `receive_ACK_response` over one of the two lists. -/
def ackLoop (l : InFlight) (psn : Nat) : List SendWqe → Node → Node × AckEnd
  | [], n => (n, .next)
  | w :: ws, n =>
    match processAcknowledge n w psn with
    | (.ERROR, w, n) => (n.setQp (n.qp.setInFlight l ws (-1)), .error w)
    | (.COMPLETE, w, n) => ackLoop l psn ws (n.setQp ((n.qp.setInFlight l ws (-1)).freeSendWqe w))
    | (.CONTINUE, w, n) => (n.setQp (n.qp.setInFlight l (w :: ws) 0), .stop)
    | (.STOP, _, n) => (n, .stop)

/-- The `completion_error` part of `receive_ACK_response`. -/
def failSend (now : Nat) (q : Qp) (w : SendWqe) : Qp :=
  failQp now ((q.insertSendError w.wr_id w.processing.status w.opcode).freeSendWqe w)

/-- `receive_ACK_response`. -/
def receiveAckResponse (now : Nat) (n : Node) (psn : Nat) : Node :=
  match ackLoop .waiting psn n.qp.requester.waiting_swqe n with
  | (n, .error w) => n.setQp (failSend now n.qp w)
  | (n, .stop) => n.setQp (postponeLocalAckTimeout now n.qp)
  | (n, .next) =>
    match ackLoop .sending psn n.qp.requester.sending_swqe n with
    | (n, .error w) => n.setQp (failSend now n.qp w)
    | (n, _) => n.setQp (postponeLocalAckTimeout now n.qp)

/-- The requester's counter of RDMA READ and atomic requests goes down. -/
def Qp.decRequesterRdAtomic (q : Qp) : Qp :=
  { q with requester := { q.requester with nr_rd_atomic := q.requester.nr_rd_atomic - 1 } }

/-- The element at this place is done: it leaves its list, and the counter of
RDMA READ and atomic requests goes down. -/
def finishRdAtomic (now : Nat) (n : Node) (l : InFlight) (i : Nat) (w : SendWqe) : Node :=
  let n := completeSend n w
  let n := if n.qp.decRequesterRdAtomic.requester.nr_rd_atomic < 0 then n.crash .nrRdAtomic else n
  let q := (n.qp.decRequesterRdAtomic.setRequesterPsn w).setInFlight l
    ((n.qp.inFlight l).eraseIdx i) (-1)
  n.setQp (postponeLocalAckTimeout now (q.freeSendWqe w))

/-- `process_cnp_notify_request`. -/
def processCnpNotifyRequest (n : Node) : Node :=
  n.headers.transmit { opcode := .CNP_SEND_NOTIFY, psn := psnMask n.qp.responder.psn }

/-- The responses to RDMA READ are counted, and from time to time the peer is
told that they arrive. -/
def countReadResponse (n : Node) : Node :=
  let nr := n.qp.requester.nr_contig_read_acks + 1
  if PIB_MAX_CONTIG_READ_ACKS / 3 < nr then
    processCnpNotifyRequest (n.setQp { n.qp with requester := { n.qp.requester with
      nr_contig_read_acks := 0 } })
  else n.setQp { n.qp with requester := { n.qp.requester with nr_contig_read_acks := nr } }

/-- The part of `receive_RDMA_READ_response` after the data is stored: `w` is
the element with one more packet received. -/
def acceptReadResponse (now : Nat) (n : Node) (l : InFlight) (i : Nat) (w : SendWqe) : Node :=
  let n := countReadResponse n
  if w.processing.sent_packets < w.processing.all_packets then
    n.setQp (n.qp.modifyInFlight l i fun _ => w)
  else finishRdAtomic now n l i w

/-- The data of a response to an RDMA READ is stored behind what came before
it. What the last packet has beyond the message is cut off. -/
def storeReadResponse (n : Node) (w : SendWqe) (buffer : List UInt8) : WcStatus × Mem × List UInt8 :=
  let offset := u32 (w.processing.ack_packets * pmtuOf n.qp.attr.path_mtu)
  let data := buffer.take (u32Sub w.total_length offset)
  pibUtilMrCopyData n.pd w.sge_array n.mem data offset data.length IB_ACCESS_LOCAL_WRITE .COPY_TO

/-- The value of a response to an atomic is stored in the host's byte order. -/
def storeAtomicResponse (n : Node) (w : SendWqe) (buffer : List UInt8) :
    WcStatus × Mem × List UInt8 :=
  pibUtilMrCopyData n.pd w.sge_array n.mem (le 8 (ofBe buffer)) 0 8 IB_ACCESS_LOCAL_WRITE .COPY_TO

/-- `receive_RDMA_READ_response`. -/
def receiveRdmaReadResponse (now : Nat) (n : Node) (psn : Nat) (buffer : List UInt8) : Node :=
  match matchSendWqe n.qp psn with
  | none => n
  | some (l, i) =>
    match (n.qp.inFlight l)[i]? with
    | none => n
    | some w =>
      let pr := w.processing
      if w.opcode ≠ .RDMA_READ then
        n.setQp (n.qp.modifyInFlight l i (·.setStatus .BAD_RESP_ERR))
      else if isFirst n.qp l i = false ∨ getPsnDiff (u32 (pr.based_psn + pr.sent_packets)) psn ≠ 0 ∨
          getPsnDiff (u32 (pr.based_psn + pr.ack_packets)) psn ≠ 0 then n
      else
        let (status, mem, _) := storeReadResponse n w buffer
        let n := { n with mem }
        if status ≠ .SUCCESS then n.setQp (n.qp.modifyInFlight l i (·.setStatus status))
        else
          let w := { w with processing := { pr with
            local_ack_time := now + n.qp.local_ack_timeout
            sent_packets := u32 (pr.sent_packets + 1)
            ack_packets := u32 (pr.ack_packets + 1) } }
          acceptReadResponse now n l i w

/-- `receive_Atomic_response`. -/
def receiveAtomicResponse (now : Nat) (n : Node) (psn : Nat) (buffer : List UInt8) : Node :=
  if buffer.length ≠ 8 then n
  else
    match matchSendWqe n.qp psn with
    | none => n
    | some (l, i) =>
      match (n.qp.inFlight l)[i]? with
      | none => n
      | some w =>
        if w.opcode ≠ .ATOMIC_CMP_AND_SWP ∧ w.opcode ≠ .ATOMIC_FETCH_AND_ADD then
          n.setQp (n.qp.modifyInFlight l i (·.setStatus .BAD_RESP_ERR))
        else if isFirst n.qp l i = false ∨ getPsnDiff w.processing.based_psn psn ≠ 0 then n
        else
          let (status, mem, _) := storeAtomicResponse n w buffer
          let n := { n with mem }
          if status ≠ .SUCCESS then n.setQp (n.qp.modifyInFlight l i (·.setStatus status))
          else finishRdAtomic now n l i w

/-- The RNR part of `retry_send`: the time is stored as it is read from the
table. -/
def applyRnr (rnr_nak_timeout : Nat) (q : Qp) : Qp :=
  match q.requester.sending_swqe with
  | [] => q
  | w :: ws =>
    if w.opcode = .SEND ∨ w.opcode = .SEND_WITH_IMM ∨ w.opcode = .RDMA_WRITE_WITH_IMM then
      let w := { w with processing := { w.processing with
        schedule_time := rnr_nak_timeout
        rnr_retry := if q.attr.rnr_retry < 7 then w.processing.rnr_retry - 1
          else w.processing.rnr_retry } }
      { q with requester := { q.requester with sending_swqe := w :: ws } }
    else q

/-- The status that a NAK gives the element it is for. -/
def nakStatus (syndrome : Nat) : Option WcStatus :=
  if syndrome = PIB_SYND_NAK_CODE_INV_REQ_ERR then some .REM_INV_REQ_ERR
  else if syndrome = PIB_SYND_NAK_CODE_REM_ACCESS_ERR then some .REM_ACCESS_ERR
  else if syndrome = PIB_SYND_NAK_CODE_REM_OP_ERR then some .REM_OP_ERR
  else if syndrome = PIB_SYND_NAK_CODE_INV_RD_REQ_ERR then some .REM_INV_RD_REQ_ERR
  else none

/-- The `switch_OpCode` part of `receive_response`. -/
def dispatchResponse (now : Nat) (n : Node) (psn : Nat) (p : RcPacket) : Node :=
  match p.opcode with
  | .ACKNOWLEDGE => receiveAckResponse now n psn
  | .RDMA_READ_RESPONSE_FIRST | .RDMA_READ_RESPONSE_LAST | .RDMA_READ_RESPONSE_ONLY
  | .RDMA_READ_RESPONSE_MIDDLE => receiveRdmaReadResponse now n psn (p.buffer.drop 4)
  | .ATOMIC_ACKNOWLEDGE => receiveAtomicResponse now n psn (p.buffer.drop 4)
  | _ => n.crash .requestOpcode

/-- The end of `receive_response`: a drained send queue is reported. -/
def reportDrained (q : Qp) : Qp :=
  if q.state = .SQD ∧ q.issue_sq_drained = false ∧ q.requester.sending_swqe = [] ∧
      q.requester.waiting_swqe = [] then
    { (if q.attr.en_sqd_async_notify then q.insertEvent .SQ_DRAINED else q) with
      issue_sq_drained := true }
  else q

/-- A response that is neither dropped nor a cause to send again. -/
def acceptResponse (now : Nat) (n : Node) (psn : Nat) (p : RcPacket) : Node :=
  let n := dispatchResponse now n psn p
  n.setQp (reportDrained n.qp)

/-- `receive_response`. Four bytes are taken off every response, also off the
middle ones that carry no acknowledge header. -/
def receiveResponse (cfg : Config) (now : Nat) (n : Node) (p : RcPacket) : Node :=
  if p.buffer.length < 4 then n
  else
    let n := n.setQp { n.qp with requester := { n.qp.requester with nr_contig_requests := 0 } }
    let psn := psnMask p.psn
    let syndrome := ofBe (p.buffer.take 4) / 2 ^ 24
    if p.opcode = .RDMA_READ_RESPONSE_MIDDLE then acceptResponse now n psn p
    else if syndCode syndrome = PIB_SYND_ACK_CODE then acceptResponse now n psn p
    else if syndCode syndrome = PIB_SYND_RNR_NAK_CODE then
      n.setQp (applyRnr (pibGetRnrNakTime cfg.HZ (syndrome % 32)) (resendWaiting n.qp))
    else if syndCode syndrome = PIB_SYND_NAK_CODE_PSN_SEQ_ERR then
      if syndrome = PIB_SYND_NAK_CODE_PSN_SEQ_ERR then n.setQp (resendWaiting n.qp)
      else
        match nakStatus syndrome with
        | some status => acceptResponse now (n.setQp (setSendWqeToError n.qp psn status)) psn p
        | none => acceptResponse now n psn p
    else n

/-! ## Any packet -/

/-- `receive_cnp_notify`. -/
def receiveCnpNotify (q : Qp) : Qp :=
  { q with responder := { q.responder with nr_contig_read_acks := 0 } }

/-- `pib_receive_rc_qp_incoming_message`. -/
def pibReceiveRcQpIncomingMessage (cfg : Config) (now port_num : Nat) (n : Node) (p : RcPacket) :
    Node :=
  if pibIsRecvOk n.qp.state = false ∨ n.qp.attr.port_num ≠ port_num then n
  else if p.opcode = .CNP_SEND_NOTIFY then n.setQp (receiveCnpNotify n.qp)
  else
    match pibOpcodeIsAcknowledge p.opcode with
    | none => n.crash .attrOpCode
    | some true => receiveResponse cfg now n p
    | some false => receiveRequest cfg now n p

end pib
