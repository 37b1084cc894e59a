-- A packet on its way to a queue pair (`process_incoming_message_per_qp` in
-- `pib_thread.c`), and the locks of the device, the queue pair and the
-- protection domain that are taken and given back on the way, up to the
-- functions of `pib_rc.c` and `pib_ud.c` that touch memory.
import Pib.Lib.Locks
import Pib.Packet
import Pib.Compose
import Pib.Thread
import Pib.Ud

namespace pib

open Bytes

/-- `dev->lock`, `qp->lock` and `pd->lock`. -/
inductive SpinLock
  | dev | qp | pd
  deriving DecidableEq, Repr

abbrev LockOp := Locks.Op SpinLock

/-- `pd->lock` around one call into `pib_mr.c`. -/
def pdLocked : List LockOp := [.acquire .pd, .release .pd]

/-! ## Requests -/

/-- What `receive_SEND_request` has at hand when it takes `pd->lock`. -/
structure SendAtLock where
  qp : Qp
  segment : Segment
  recv_wqe : RecvWqe
  word : Nat
  data : List UInt8

/-- `receive_SEND_request` as far as `pd->lock`. -/
def sendAtLock (n : Node) (p : RcPacket) : Option SendAtLock :=
  match sendSegment (pmtuOf n.qp.attr.path_mtu) p.opcode with
  | none => none
  | some s =>
    let q := if s.init then
        takeFromSrq { n.qp with responder := { n.qp.responder with offset := 0 } }
      else n.qp
    match q.responder.recv_wqe with
    | [] => none
    | w :: _ =>
      match takeWord (s.with_imm || s.with_inv) p.buffer with
      | none => none
      | some (word, data) =>
        if data.length < s.min ∨ s.max < data.length then none
        else some { qp := q, segment := s, recv_wqe := w, word, data }

/-- The data is stored, and the invalidation that comes with it is refused. -/
def SendAtLock.invalidateFails (x : SendAtLock) (n : Node) : Bool :=
  let op := MemOp.recv x.recv_wqe x.qp.responder.offset x.data
  x.segment.with_inv && decide ((op.run n.pd n.mem).1 = .SUCCESS) &&
    decide ((pibUtilMrInvalidate n.pd x.word).1 ≠ .SUCCESS)

/-- The locks of `receive_SEND_request`. The jump to `completion_error` after a
refused invalidation leaves `pd->lock` taken. -/
def sendLocks (n : Node) (p : RcPacket) : List LockOp :=
  match sendAtLock n p with
  | none => []
  | some x => if x.invalidateFails n then [.acquire .pd] else pdLocked

/-- The queue pair, the data and the segment when `receive_RDMA_WRITE_request`
has taken the headers off. -/
def writeHeadersOff (n : Node) (p : RcPacket) : Option (Qp × Segment × List UInt8) :=
  match writeSegment (pmtuOf n.qp.attr.path_mtu) p.opcode with
  | none => none
  | some s =>
    if s.init = true ∧ p.buffer.length < 16 then none
    else
      let q := if s.init then startWrite n.qp (Reth.decode p.buffer) else n.qp
      let buffer := if s.init then p.buffer.drop 16 else p.buffer
      if s.with_imm then
        let q := takeFromSrq q
        match q.responder.recv_wqe with
        | [] => none
        | _ :: _ => (takeWord true buffer).map fun x => (q, s, x.2)
      else some (q, s, buffer)

/-- The locks of `receive_RDMA_WRITE_request` once the headers are taken off. -/
def placeWriteLocks (q : Qp) (s : Segment) (data : List UInt8) : List LockOp :=
  let r := q.responder
  let size := data.length
  if size < s.min ∨ s.max < size ∨ r.rdma_write_dmalen < u32 (r.offset + size) ∨
      (s.finit = true ∧ r.rdma_write_dmalen ≠ u32 (r.offset + size)) then []
  else if PIB_MAX_PAYLOAD_LEN < r.rdma_write_dmalen then []
  else pdLocked

/-- The locks of `receive_RDMA_WRITE_request`. -/
def writeLocks (n : Node) (p : RcPacket) : List LockOp :=
  match writeHeadersOff n p with
  | none => []
  | some (q, s, data) => placeWriteLocks q s data

/-- The locks of `receive_Atomic_request`. -/
def atomicLocks (n : Node) (p : RcPacket) : List LockOp :=
  if p.buffer.length ≠ 28 then []
  else if (AtomicEth.decode p.buffer).vaddr % 8 ≠ 0 ∨
      (n.qp.attr.max_dest_rd_atomic : Int) ≤ n.qp.responder.nr_rd_atomic then []
  else pdLocked

/-- The locks of `receive_RDMA_READ_request`, of a new and of a retried request
alike. -/
def readLocks (p : RcPacket) : List LockOp :=
  if p.buffer.length ≠ 16 then []
  else if PIB_MAX_PAYLOAD_LEN < (Reth.decode p.buffer).dmalen then []
  else pdLocked

/-- The locks of the dispatch of `receive_request`. Nothing is the default,
which is a `BUG`. -/
def executeLocks (n : Node) (p : RcPacket) : Option (List LockOp) :=
  match p.opcode with
  | .SEND_FIRST | .SEND_MIDDLE | .SEND_LAST | .SEND_ONLY | .SEND_LAST_WITH_IMMEDIATE
  | .SEND_ONLY_WITH_IMMEDIATE | .SEND_LAST_WITH_INVALIDATE | .SEND_ONLY_WITH_INVALIDATE =>
    some (sendLocks n p)
  | .RDMA_WRITE_FIRST | .RDMA_WRITE_MIDDLE | .RDMA_WRITE_LAST | .RDMA_WRITE_LAST_WITH_IMMEDIATE
  | .RDMA_WRITE_ONLY | .RDMA_WRITE_ONLY_WITH_IMMEDIATE => some (writeLocks n p)
  | .RDMA_READ_REQUEST => some (readLocks p)
  | .COMPARE_SWAP | .FETCH_ADD => some (atomicLocks n p)
  | _ => none

/-- The locks of `receive_request`. Nothing is a `BUG`, or a lookup that leaves
the table of opcodes. -/
def requestLocks (n : Node) (p : RcPacket) : Option (List LockOp) :=
  let psn := psnMask p.psn
  let n := n.setQp (issueCommEst n.qp)
  let psn_diff := getPsnDiff psn n.qp.responder.psn
  if 0 < psn_diff then some []
  else if psn_diff < 0 then
    match p.opcode, findSlot n.qp p.opcode psn with
    | .RDMA_READ_REQUEST, some _ => some (readLocks p)
    | _, _ => some []
  else
    match pibOpcodeIsInOrderSequence p.opcode n.qp.responder.last_OpCode with
    | none => none
    | some false => some []
    | some true => executeLocks n p

/-! ## Responses -/

/-- The locks of `receive_RDMA_READ_response`. -/
def readResponseLocks (q : Qp) (psn : Nat) : List LockOp :=
  match matchSendWqe q psn with
  | none => []
  | some (l, i) =>
    match (q.inFlight l)[i]? with
    | none => []
    | some w =>
      let pr := w.processing
      if w.opcode ≠ .RDMA_READ then []
      else if isFirst q l i = false ∨ getPsnDiff (u32 (pr.based_psn + pr.sent_packets)) psn ≠ 0 ∨
          getPsnDiff (u32 (pr.based_psn + pr.ack_packets)) psn ≠ 0 then []
      else pdLocked

/-- The locks of `receive_Atomic_response`. -/
def atomicResponseLocks (q : Qp) (psn : Nat) (buffer : List UInt8) : List LockOp :=
  if buffer.length ≠ 8 then []
  else
    match matchSendWqe q psn with
    | none => []
    | some (l, i) =>
      match (q.inFlight l)[i]? with
      | none => []
      | some w =>
        if w.opcode ≠ .ATOMIC_CMP_AND_SWP ∧ w.opcode ≠ .ATOMIC_FETCH_AND_ADD then []
        else if isFirst q l i = false ∨ getPsnDiff w.processing.based_psn psn ≠ 0 then []
        else pdLocked

/-- The locks of the `switch_OpCode` part of `receive_response`. Nothing is the
default, which is a `BUG`. -/
def dispatchLocks (q : Qp) (psn : Nat) (p : RcPacket) : Option (List LockOp) :=
  match p.opcode with
  | .ACKNOWLEDGE => some []
  | .RDMA_READ_RESPONSE_FIRST | .RDMA_READ_RESPONSE_LAST | .RDMA_READ_RESPONSE_ONLY
  | .RDMA_READ_RESPONSE_MIDDLE => some (readResponseLocks q psn)
  | .ATOMIC_ACKNOWLEDGE => some (atomicResponseLocks q psn (p.buffer.drop 4))
  | _ => none

/-- The locks of `receive_response`. -/
def responseLocks (q : Qp) (p : RcPacket) : Option (List LockOp) :=
  if p.buffer.length < 4 then some []
  else
    let q := { q with requester := { q.requester with nr_contig_requests := 0 } }
    let psn := psnMask p.psn
    let syndrome := ofBe (p.buffer.take 4) / 2 ^ 24
    if p.opcode = .RDMA_READ_RESPONSE_MIDDLE then dispatchLocks q psn p
    else if syndCode syndrome = PIB_SYND_ACK_CODE then dispatchLocks q psn p
    else if syndCode syndrome = PIB_SYND_RNR_NAK_CODE then some []
    else if syndCode syndrome = PIB_SYND_NAK_CODE_PSN_SEQ_ERR then
      if syndrome = PIB_SYND_NAK_CODE_PSN_SEQ_ERR then some []
      else
        match nakStatus syndrome with
        | some status => dispatchLocks (setSendWqeToError q psn status) psn p
        | none => dispatchLocks q psn p
    else some []

/-- The locks of `pib_receive_rc_qp_incoming_message`. -/
def rcLocks (port_num : Nat) (n : Node) (p : RcPacket) : Option (List LockOp) :=
  if pibIsRecvOk n.qp.state = false ∨ n.qp.attr.port_num ≠ port_num then some []
  else if p.opcode = .CNP_SEND_NOTIFY then some []
  else
    match pibOpcodeIsAcknowledge p.opcode with
    | none => none
    | some true => responseLocks n.qp p
    | some false => requestLocks n p

/-- The locks of `pib_receive_ud_qp_incoming_message`. -/
def udLocks (port_num : Nat) (n : UdNode) (p : UdPacket) : List LockOp :=
  match udAccepts port_num n.qp p with
  | none => []
  | some (_, _, payload) =>
    match takeRecvWqe n.qp with
    | none => []
    | some (w, _) => if w.total_length < payload.length then [] else pdLocked

/-! ## The device -/

/-- A queue pair of the device, with what its receive function works on. -/
inductive AnyQp
  | rc (n : Node)
  | ud (n : UdNode)

/-- What `process_incoming_message_per_qp` reads and writes: the port, and the
queue pairs that `qp_info` and `pib_util_find_qp` lead to. -/
structure Hca where
  port : Port
  qkey_viol_cntr : Nat := 0
  bad_pkey_cntr : Nat := 0
  qp_info : Nat → Option AnyQp
  qp_table : Nat → Option AnyQp

def PIB_QP1 : Nat := 1
def PIB_LINK_QP : Nat := 3
def IB_MULTICAST_QPN : Nat := 0xFFFFFF
def PIB_PKEY_TABLE_LEN : Nat := 32

/-- `pib_is_permissive_lid`. -/
def pibIsPermissiveLid (lid : Nat) : Bool := decide (lid = 0 ∨ lid = IB_LID_PERMISSIVE)

/-- `pib_is_unicast_lid`. -/
def pibIsUnicastLid (lid : Nat) : Bool := decide (lid < 0xC000 ∨ lid = IB_LID_PERMISSIVE)

namespace AnyQp

def qp : AnyQp → Qp
  | rc n => n.qp
  | ud n => n.qp

/-- The packet as `pib_receive_rc_qp_incoming_message` sees it. -/
def rcPacket (x : Incoming) : RcPacket :=
  { opcode := OpCode.ofNat x.bth.OpCode.toNat
    psn := x.bth.psn
    padcnt := pibPacketBthGetPadcnt x.bth
    solicited := pibPacketBthGetSolicited x.bth
    slid := x.slid
    buffer := x.buffer }

/-- The packet as `pib_receive_ud_qp_incoming_message` sees it. -/
def udPacket (x : Incoming) : UdPacket :=
  { opcode := OpCode.ofNat x.bth.OpCode.toNat
    psn := x.bth.psn
    padcnt := pibPacketBthGetPadcnt x.bth
    slid := x.slid
    grh := x.grh
    buffer := x.buffer }

/-- The receive function of the queue pair's type, and `pib_util_reschedule_qp`.
The thread's send buffer is empty when a packet comes. -/
def receive (cfg : Config) (now port_num : Nat) (x : Incoming) : AnyQp → AnyQp
  | rc n =>
    let n := pibReceiveRcQpIncomingMessage cfg now port_num { n with send_buffer := none } (rcPacket x)
    rc (n.setQp (pibUtilRescheduleQp now n.qp))
  | ud n =>
    let n := pibReceiveUdQpIncomingMessage now port_num { n with send_buffer := none } (udPacket x)
    ud (n.setQp (pibUtilRescheduleQp now n.qp))

/-- The locks of the receive function of the queue pair's type. -/
def receiveLocks (port_num : Nat) (x : Incoming) : AnyQp → Option (List LockOp)
  | rc n => rcLocks port_num n (rcPacket x)
  | ud n => some (udLocks port_num n (udPacket x))

end AnyQp

namespace Hca

/-- The `switch` at the head of `process_incoming_message_per_qp`. The outer
nothing is the `BUG` of the multicast number. -/
def lookup (d : Hca) (dest_qp_num : Nat) : Option (Option AnyQp) :=
  if dest_qp_num = PIB_QP0 ∨ dest_qp_num = PIB_QP1 then some (d.qp_info dest_qp_num)
  else if dest_qp_num = IB_MULTICAST_QPN then none
  else some (d.qp_table dest_qp_num)

/-- The queue pair is put back where `lookup` finds it. -/
def store (d : Hca) (dest_qp_num : Nat) (q : AnyQp) : Hca :=
  if dest_qp_num = PIB_QP0 ∨ dest_qp_num = PIB_QP1 then
    { d with qp_info := Function.update d.qp_info dest_qp_num (some q) }
  else { d with qp_table := Function.update d.qp_table dest_qp_num (some q) }

/-- The check of the DLID against the LID of the port. -/
def lidPasses (d : Hca) (dest_qp_num dlid : Nat) : Bool :=
  decide (dest_qp_num = PIB_QP0) && pibIsPermissiveLid dlid || !pibIsUnicastLid dlid ||
    decide (dlid = d.port.lid)

/-- The check of the P_Key. -/
def pkeyPasses (d : Hca) (dest_qp_num pkey : Nat) (q : AnyQp) : Bool :=
  if dest_qp_num = PIB_QP0 then true
  else if dest_qp_num = PIB_QP1 then
    (List.range PIB_PKEY_TABLE_LEN).any fun i => d.port.pkey_table i == pkey
  else d.port.pkey_table q.qp.attr.pkey_index == pkey

/-- `process_incoming_message_per_qp`, and the locks on its path. Nothing is a
path that does not return: a `BUG`, or a lookup that leaves the table of
opcodes. -/
def processIncomingMessagePerQp (cfg : Config) (now port_num : Nat) (d : Hca)
    (dlid dest_qp_num : Nat) (x : Incoming) : Option (Hca × List LockOp) :=
  match d.lookup dest_qp_num with
  | none => none
  | some none =>
    some ({ d with qkey_viol_cntr := d.qkey_viol_cntr + 1 }, [.acquire .dev, .release .dev])
  | some (some q) =>
    if d.lidPasses dest_qp_num dlid = false then some (d, [.acquire .dev, .release .dev])
    else if d.pkeyPasses dest_qp_num x.bth.pkey q = false then
      -- `silently_drop` comes after the locks are given back
      some ({ d with bad_pkey_cntr := d.bad_pkey_cntr + 1 }, [.acquire .dev])
    else
      (q.receiveLocks port_num x).map fun locks =>
        (d.store dest_qp_num (q.receive cfg now port_num x),
          .acquire .dev :: .acquire .qp :: .release .dev :: (locks ++ [.release .qp]))

end Hca

end pib
