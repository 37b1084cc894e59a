-- The responder half of `pib_rc.c`: taking in request packets, the queue of
-- acknowledges, and generating acknowledge packets.
import Pib.Node

namespace pib

open Bytes

/-! ## The queue of acknowledges -/

/-- `get_resources_not_ready`: the RNR code with the timer in the low five bits. -/
def getResourcesNotReady (q : Qp) : Nat := PIB_SYND_RNR_NAK_CODE + q.attr.min_rnr_timer % 32

/-- The last acknowledge makes a new one of this syndrome superfluous: an RNR
NAK is not sent twice, and a positive acknowledge is coalesced. -/
def coalesces (last : Ack) (syndrome code : Nat) : Bool :=
  decide (last.type = .NORMAL) && decide (syndCode syndrome = code) &&
    decide (syndCode last.syndrome = code)

/-- A new acknowledge at the end of the queue. All but positive ones clear the
count of RDMA READ responses sent in a row. -/
def appendAck (r : Responder) (psn syndrome : Nat) : Responder :=
  { r with
    acks := r.acks ++ [{ type := .NORMAL, psn, expected_psn := u32 (psn + 1), syndrome }]
    nr_contig_read_acks :=
      if syndCode syndrome = PIB_SYND_ACK_CODE then r.nr_contig_read_acks else 0 }

/-- The part of `push_acknowledge` that looks at the last acknowledge. -/
def pushOrCoalesce (r : Responder) (psn syndrome : Nat) : Responder :=
  match r.acks.getLast? with
  | none => appendAck r psn syndrome
  | some last =>
    if coalesces last syndrome PIB_SYND_RNR_NAK_CODE then r
    else if coalesces last syndrome PIB_SYND_ACK_CODE then
      { r with acks := r.acks.dropLast ++ [{ last with psn, expected_psn := u32 (psn + 1) }] }
    else appendAck r psn syndrome

/-- `push_acknowledge`. The allocation of the acknowledge succeeds. -/
def pushAcknowledge (q : Qp) (psn syndrome : Nat) : Qp :=
  { q with responder := pushOrCoalesce q.responder psn syndrome }

/-- The test of `remove_overlapped_rdma_read_acknowledge`: the range of the
acknowledge meets `[psn, expected_psn)` or comes after it. -/
def overlapsRead (psn expected_psn : Nat) (ack : Ack) : Bool :=
  (decide (0 ≤ getPsnDiff ack.psn psn) && decide (getPsnDiff ack.psn expected_psn < 0)) ||
    (decide (0 < getPsnDiff ack.expected_psn psn) &&
      decide (getPsnDiff ack.expected_psn expected_psn ≤ 0)) ||
    decide (0 ≤ getPsnDiff ack.psn expected_psn)

/-- The acknowledge counts in `responder.nr_rd_atomic`. -/
def Ack.isRdAtomic (ack : Ack) : Bool := decide (ack.type = .RDMA_READ ∨ ack.type = .ATOMIC)

/-- `remove_overlapped_rdma_read_acknowledge`. -/
def removeOverlappedRdmaReadAcknowledge (q : Qp) (psn expected_psn : Nat) : Qp :=
  let gone := q.responder.acks.filter (overlapsRead psn expected_psn)
  { q with responder := { q.responder with
    acks := q.responder.acks.filter fun ack => !overlapsRead psn expected_psn ack
    nr_rd_atomic := q.responder.nr_rd_atomic - (gone.countP Ack.isRdAtomic : Nat) } }

/-- `push_rdma_read_acknowledge`. -/
def pushRdmaReadAcknowledge (q : Qp) (psn expected_psn vaddress rkey size : Nat) : Qp :=
  { q with responder := { q.responder with
    acks := q.responder.acks ++ [{ type := .RDMA_READ, psn, expected_psn, vaddress, rkey, size }]
    nr_rd_atomic := q.responder.nr_rd_atomic + 1 } }

/-- `push_atomic_acknowledge`. -/
def pushAtomicAcknowledge (q : Qp) (psn res : Nat) : Qp :=
  { q with responder := { q.responder with
    acks := q.responder.acks ++ [{ type := .ATOMIC, psn, expected_psn := u32 (psn + 1), res }]
    nr_rd_atomic := q.responder.nr_rd_atomic + 1 } }

/-! ## Receive elements and errors -/

/-- The first receive element leaves the queue. -/
def Qp.popRecvWqe (q : Qp) : Qp :=
  Qp.freeRecvWqe { q with responder := { q.responder with
    recv_wqe := q.responder.recv_wqe.tail, nr_recv_wqe := q.responder.nr_recv_wqe - 1 } }

/-- `pib_util_get_srq` with a non-empty, working shared receive queue. -/
def Srq.pop (srq : Srq) : Srq :=
  let nr_recv_wqe := srq.nr_recv_wqe - 1
  { srq with
    recv_wqe := srq.recv_wqe.tail
    nr_recv_wqe := nr_recv_wqe
    issue_srq_limit := srq.issue_srq_limit ||
      (decide (srq.srq_limit ≠ 0) && decide (nr_recv_wqe < srq.srq_limit)) }

/-- One element is moved from the shared receive queue, if the queue pair
has one and it holds one. -/
def takeFromSrq (q : Qp) : Qp :=
  match q.srq with
  | none => q
  | some srq =>
    match srq.recv_wqe with
    | [] => q
    | w :: _ =>
      if srq.ok then
        { q with
          srq := some srq.pop
          responder := { q.responder with
            recv_wqe := q.responder.recv_wqe ++ [w]
            nr_recv_wqe := q.responder.nr_recv_wqe + 1 } }
      else q

/-- The queue pair goes to the error state and is flushed. -/
def failQp (now : Nat) (q : Qp) : Qp := pibUtilFlushQp now false { q with state := .ERR }

/-- `abort_active_rwqe`. -/
def abortActiveRwqe (q : Qp) : Qp :=
  match q.responder.recv_wqe with
  | [] => q
  | w :: _ =>
    if q.responder.offset = 0 then q
    else
      Qp.popRecvWqe { q.insertRecvError w.wr_id .GENERAL_ERR .RECV with push_rcqe := true }

/-- `insert_async_qp_error`. -/
def insertAsyncQpError (now : Nat) (q : Qp) (event : EventType) : Qp :=
  failQp now (abortActiveRwqe (q.insertEvent event))

/-- A request is refused for good: a NAK is queued and the queue pair fails. -/
def refuse (now : Nat) (q : Qp) (psn syndrome : Nat) (event : EventType) : Qp :=
  insertAsyncQpError now (pushAcknowledge q psn syndrome) event

/-- `issue_comm_est`. -/
def issueCommEst (q : Qp) : Qp :=
  if q.state ≠ .RTR ∨ q.issue_comm_est = true then q
  else { q.insertEvent .COMM_EST with issue_comm_est := true }

/-! ## SEND -/

/-- Where a SEND or RDMA WRITE packet stands in its message, what it carries
besides data, and the bounds of its payload. -/
structure Segment where
  init : Bool := false
  finit : Bool := false
  with_imm : Bool := false
  with_inv : Bool := false
  min : Nat
  max : Nat
  deriving DecidableEq, Repr

/-- The `switch` at the head of `receive_SEND_request`. -/
def sendSegment (pmtu : Nat) : OpCode → Option Segment
  | .SEND_ONLY_WITH_IMMEDIATE =>
    some { init := true, finit := true, with_imm := true, min := 0, max := pmtu }
  | .SEND_ONLY_WITH_INVALIDATE =>
    some { init := true, finit := true, with_inv := true, min := 0, max := pmtu }
  | .SEND_ONLY => some { init := true, finit := true, min := 0, max := pmtu }
  | .SEND_FIRST => some { init := true, min := pmtu, max := pmtu }
  | .SEND_LAST_WITH_IMMEDIATE =>
    some { finit := true, with_imm := true, min := 1, max := pmtu }
  | .SEND_LAST_WITH_INVALIDATE =>
    some { finit := true, with_inv := true, min := 1, max := pmtu }
  | .SEND_LAST => some { finit := true, min := 1, max := pmtu }
  | .SEND_MIDDLE => some { min := pmtu, max := pmtu }
  | _ => none

/-- Four bytes in front of the data, when the packet carries them. -/
def takeWord (present : Bool) (buffer : List UInt8) : Option (Nat × List UInt8) :=
  if present then
    if buffer.length < 4 then none else some (ofBe (buffer.take 4), buffer.drop 4)
  else some (0, buffer)

/-- The `finit` part of `receive_SEND_request`. -/
def completeRecv (q : Qp) (w : RecvWqe) (s : Segment) (ex : Nat) (opcode : WcOpcode)
    (p : RcPacket) : Qp :=
  let wc : Wc :=
    { wr_id := w.wr_id, status := .SUCCESS, opcode, byte_len := q.responder.offset
      ex, with_imm := s.with_imm, with_inv := s.with_inv, slid := p.slid }
  -- the pad count stands where the solicited bit belongs
  Qp.popRecvWqe { q with recv_cq := q.recv_cq ++ [(wc, decide (p.padcnt ≠ 0))], push_rcqe := true }

/-- The `completion_error` part of the SEND and RDMA WRITE requests. -/
def failRecv (q : Qp) (w : RecvWqe) (status : WcStatus) (opcode : WcOpcode) : Qp :=
  Qp.popRecvWqe { q.insertRecvError w.wr_id status opcode with push_rcqe := true }

/-- A packet of `len` data bytes is taken: the offset advances, a message that
ends in a receive element is completed, and the packet is acknowledged. -/
def acceptData (q : Qp) (psn : Nat) (p : RcPacket) (s : Segment) (completes : Bool) (w : RecvWqe)
    (ex len : Nat) (opcode : WcOpcode) : Qp :=
  let q := { q with responder := { q.responder with offset := u32 (q.responder.offset + len) } }
  let q := if completes then completeRecv q w s ex opcode p else q
  pushAcknowledge q psn PIB_SYND_ACK_CODE

/-- `receive_SEND_request` once the receive element and the data are at hand. -/
def placeSend (now : Nat) (n : Node) (psn : Nat) (p : RcPacket) (s : Segment) (w : RecvWqe)
    (ex : Nat) (data : List UInt8) : Node × Option Nat :=
  let op := MemOp.recv w n.qp.responder.offset data
  let status := (op.run n.pd n.mem).1
  let n := n.perform op
  if status ≠ .SUCCESS then
    let syndrome := if status = .LOC_LEN_ERR then PIB_SYND_NAK_CODE_INV_REQ_ERR
      else PIB_SYND_NAK_CODE_REM_OP_ERR
    (n.setQp (failQp now (pushAcknowledge (failRecv n.qp w status .RECV) psn syndrome)), none)
  else if s.with_inv then
    let (status, pd) := pibUtilMrInvalidate n.pd ex
    if status = .SUCCESS then
      ({ n with pd, qp := acceptData n.qp psn p s s.finit w ex data.length .RECV }, some 1)
    else
      -- no NAK is queued when the invalidation fails
      ({ n with pd, qp := failQp now (failRecv n.qp w status .RECV) }, none)
  else (n.setQp (acceptData n.qp psn p s s.finit w ex data.length .RECV), some 1)

/-- `receive_SEND_request`. The number is the one by which the PSN advances;
nothing is the return value -1. -/
def receiveSendRequest (now : Nat) (n : Node) (psn : Nat) (p : RcPacket) : Node × Option Nat :=
  match sendSegment (pmtuOf n.qp.attr.path_mtu) p.opcode with
  | none => (n.crash .requestOpcode, none)
  | some s =>
    let q := if s.init then
        takeFromSrq { n.qp with responder := { n.qp.responder with offset := 0 } }
      else n.qp
    match q.responder.recv_wqe with
    | [] => (n.setQp (pushAcknowledge q psn (getResourcesNotReady q)), none)
    | w :: _ =>
      match takeWord (s.with_imm || s.with_inv) p.buffer with
      | none => (n.setQp (refuse now q psn PIB_SYND_NAK_CODE_INV_REQ_ERR .QP_REQ_ERR), none)
      | some (ex, data) =>
        if data.length < s.min ∨ s.max < data.length then
          (n.setQp (refuse now q psn PIB_SYND_NAK_CODE_INV_REQ_ERR .QP_REQ_ERR), none)
        else placeSend now (n.setQp q) psn p s w ex data

/-! ## RDMA WRITE -/

/-- The `switch` at the head of `receive_RDMA_WRITE_request`. -/
def writeSegment (pmtu : Nat) : OpCode → Option Segment
  | .RDMA_WRITE_ONLY_WITH_IMMEDIATE =>
    some { init := true, finit := true, with_imm := true, min := 0, max := pmtu }
  | .RDMA_WRITE_ONLY => some { init := true, finit := true, min := 0, max := pmtu }
  | .RDMA_WRITE_FIRST => some { init := true, min := pmtu, max := pmtu }
  | .RDMA_WRITE_LAST_WITH_IMMEDIATE =>
    some { finit := true, with_imm := true, min := 1, max := pmtu }
  | .RDMA_WRITE_LAST => some { finit := true, min := 1, max := pmtu }
  | .RDMA_WRITE_MIDDLE => some { min := pmtu, max := pmtu }
  | _ => none

/-- `struct pib_packet_reth`: address, key and length. -/
structure Reth where
  vaddr : Nat
  rkey : Nat
  dmalen : Nat
  deriving DecidableEq, Repr

def Reth.encode (r : Reth) : List UInt8 := be 8 r.vaddr ++ be 4 r.rkey ++ be 4 r.dmalen

def Reth.decode (buffer : List UInt8) : Reth :=
  { vaddr := ofBe (buffer.take 8)
    rkey := ofBe ((buffer.drop 8).take 4)
    dmalen := ofBe ((buffer.drop 12).take 4) }

/-- The `init` part of `receive_RDMA_WRITE_request`. -/
def startWrite (q : Qp) (r : Reth) : Qp :=
  { q with responder := { q.responder with
    offset := 0
    rdma_write_vaddr := r.vaddr
    rdma_write_rkey := r.rkey
    rdma_write_dmalen := r.dmalen } }

/-- The ways out of `receive_RDMA_WRITE_request` with a status other than
success. With immediate data the receive element takes the error. -/
def failWrite (cfg : Config) (now : Nat) (q : Qp) (psn : Nat) (s : Segment) (w : RecvWqe)
    (status : WcStatus) : Qp :=
  let q :=
    if s.with_imm = true ∧ cfg.rdma_write_with_imm_always_async_err = false then
      failRecv q w status .RECV_RDMA_WITH_IMM
    else abortActiveRwqe (q.insertEvent .QP_ACCESS_ERR)
  let syndrome := if status = .LOC_LEN_ERR then PIB_SYND_NAK_CODE_INV_REQ_ERR
    else PIB_SYND_NAK_CODE_REM_ACCESS_ERR
  failQp now (pushAcknowledge q psn syndrome)

/-- `receive_RDMA_WRITE_request` once the headers are taken off. -/
def placeWrite (cfg : Config) (now : Nat) (n : Node) (psn : Nat) (p : RcPacket) (s : Segment)
    (w : RecvWqe) (imm_data : Nat) (data : List UInt8) : Node × Option Nat :=
  let r := n.qp.responder
  let size := data.length
  if size < s.min ∨ s.max < size ∨ r.rdma_write_dmalen < u32 (r.offset + size) ∨
      (s.finit = true ∧ r.rdma_write_dmalen ≠ u32 (r.offset + size)) then
    (n.setQp (refuse now n.qp psn PIB_SYND_NAK_CODE_INV_REQ_ERR .QP_REQ_ERR), none)
  else if PIB_MAX_PAYLOAD_LEN < r.rdma_write_dmalen then
    (n.setQp (failWrite cfg now n.qp psn s w .LOC_LEN_ERR), none)
  else
    let op := MemOp.write r.rdma_write_rkey (u64 (r.rdma_write_vaddr + r.offset)) data
    let status := (op.run n.pd n.mem).1
    let n := n.perform op
    if status ≠ .SUCCESS then (n.setQp (failWrite cfg now n.qp psn s w status), none)
    else
      (n.setQp (acceptData n.qp psn p s (s.finit && s.with_imm) w imm_data size
        .RECV_RDMA_WITH_IMM), some 1)

/-- `receive_RDMA_WRITE_request`. -/
def receiveRdmaWriteRequest (cfg : Config) (now : Nat) (n : Node) (psn : Nat) (p : RcPacket) :
    Node × Option Nat :=
  match writeSegment (pmtuOf n.qp.attr.path_mtu) p.opcode with
  | none => (n.crash .requestOpcode, none)
  | some s =>
    if s.init = true ∧ p.buffer.length < 16 then
      (n.setQp (refuse now n.qp psn PIB_SYND_NAK_CODE_INV_REQ_ERR .QP_REQ_ERR), none)
    else
      let q := if s.init then startWrite n.qp (Reth.decode p.buffer) else n.qp
      let buffer := if s.init then p.buffer.drop 16 else p.buffer
      if s.with_imm then
        let q := takeFromSrq q
        match q.responder.recv_wqe with
        | [] => (n.setQp (pushAcknowledge q psn (getResourcesNotReady q)), none)
        | w :: _ =>
          match takeWord true buffer with
          | none => (n.setQp (refuse now q psn PIB_SYND_NAK_CODE_INV_REQ_ERR .QP_REQ_ERR), none)
          | some (imm_data, data) => placeWrite cfg now (n.setQp q) psn p s w imm_data data
      else
        -- no receive element is used without immediate data
        placeWrite cfg now (n.setQp q) psn p s { wr_id := 0, total_length := 0, sge_array := [] } 0
          buffer

/-! ## Atomics and RDMA READ -/

/-- A slot is stored at `slot_index`, which is a signed counter that wraps. -/
def storeSlot (n : Node) (slot : Slot) : Node :=
  let i := Int.tmod n.qp.responder.slot_index PIB_MAX_RD_ATOM
  let r := n.qp.responder
  let r := { r with slot_index := Int.bmod (r.slot_index + 1) (2 ^ 32) }
  if i < 0 then (n.setQp { n.qp with responder := r }).crash .slotIndex
  else n.setQp { n.qp with responder := { r with
    slots := fun j => if j = i.toNat then slot else r.slots j } }

/-- `struct pib_packet_atomiceth`. -/
structure AtomicEth where
  vaddr : Nat
  rkey : Nat
  swap_dt : Nat
  cmp_dt : Nat
  deriving DecidableEq, Repr

def AtomicEth.encode (a : AtomicEth) : List UInt8 :=
  be 8 a.vaddr ++ be 4 a.rkey ++ be 8 a.swap_dt ++ be 8 a.cmp_dt

def AtomicEth.decode (buffer : List UInt8) : AtomicEth :=
  { vaddr := ofBe (buffer.take 8)
    rkey := ofBe ((buffer.drop 8).take 4)
    swap_dt := ofBe ((buffer.drop 12).take 8)
    cmp_dt := ofBe ((buffer.drop 20).take 8) }

/-- The operation an atomic request asks for. The wire opcode is compared with
a number of the other enumeration. -/
def atomicOp (p : RcPacket) : MemOp :=
  let a := AtomicEth.decode p.buffer
  .atomic a.rkey a.vaddr a.swap_dt a.cmp_dt
    (if p.opcode.toNat = IB_WR_ATOMIC_CMP_AND_SWP then .CAS else .FETCHADD)

/-- `receive_Atomic_request`. -/
def receiveAtomicRequest (now : Nat) (n : Node) (psn : Nat) (p : RcPacket) : Node × Option Nat :=
  if p.buffer.length ≠ 28 then
    (n.setQp (refuse now n.qp psn PIB_SYND_NAK_CODE_INV_REQ_ERR .QP_REQ_ERR), none)
  else if (AtomicEth.decode p.buffer).vaddr % 8 ≠ 0 ∨
      (n.qp.attr.max_dest_rd_atomic : Int) ≤ n.qp.responder.nr_rd_atomic then
    (n.setQp (refuse now n.qp psn PIB_SYND_NAK_CODE_INV_REQ_ERR .QP_ACCESS_ERR), none)
  else
    let (status, _, result) := (atomicOp p).run n.pd n.mem
    let n := n.perform (atomicOp p)
    if status ≠ .SUCCESS then
      (n.setQp (refuse now n.qp psn PIB_SYND_NAK_CODE_REM_ACCESS_ERR .QP_ACCESS_ERR), none)
    else
      let rpsn := n.qp.responder.psn
      let n := storeSlot n
        { opcode := p.opcode, psn := rpsn, expected_psn := u32 (rpsn + 1), res := result }
      (n.setQp (pushAtomicAcknowledge n.qp psn result), some 1)

/-- The part of `receive_RDMA_READ_request` that new and retried requests
share: the response is queued in place of the ones it overlaps. -/
def scheduleRead (now : Nat) (n : Node) (psn expected_psn : Nat) (r : Reth) (ret : Nat) :
    Node × Option Nat :=
  let q := removeOverlappedRdmaReadAcknowledge n.qp psn expected_psn
  if (q.attr.max_dest_rd_atomic : Int) ≤ q.responder.nr_rd_atomic then
    (n.setQp (refuse now q psn PIB_SYND_NAK_CODE_INV_REQ_ERR .QP_ACCESS_ERR), none)
  else
    let q := pushRdmaReadAcknowledge q psn expected_psn r.vaddr r.rkey r.dmalen
    (n.setQp { q with responder := { q.responder with nr_contig_read_acks := 0 } }, some ret)

/-- How far into the range of a slot a retried RDMA READ starts. -/
def slotOffset (q : Qp) (slot : Slot) (psn : Nat) : Nat :=
  ((getPsnDiff psn slot.psn) * pmtuOf q.attr.path_mtu % 2 ^ 32).toNat

/-- `receive_RDMA_READ_request`: of a new request (`none`), or of a retried
one that falls into the slot with this index. -/
def receiveRdmaReadRequest (now : Nat) (n : Node) (psn : Nat) (p : RcPacket)
    (slot_index : Option Nat) : Node × Option Nat :=
  if p.buffer.length ≠ 16 then
    (n.setQp (refuse now n.qp psn PIB_SYND_NAK_CODE_INV_REQ_ERR .QP_REQ_ERR), none)
  else
    let r := Reth.decode p.buffer
    let tooMany : Node × Option Nat :=
      (n.setQp (refuse now n.qp psn PIB_SYND_NAK_CODE_INV_REQ_ERR .QP_ACCESS_ERR), none)
    if PIB_MAX_PAYLOAD_LEN < r.dmalen then tooMany
    else if pibUtilMrVerifyRkeyValidation n.pd r.rkey r.vaddr r.dmalen IB_ACCESS_REMOTE_READ ≠
        .SUCCESS then
      (n.setQp (refuse now n.qp psn PIB_SYND_NAK_CODE_REM_ACCESS_ERR .QP_ACCESS_ERR), none)
    else
      match slot_index with
      | none =>
        let num_packets := pibGetNumOfPackets n.qp.qp_type n.qp.attr.path_mtu r.dmalen
        let rpsn := n.qp.responder.psn
        if (n.qp.attr.max_dest_rd_atomic : Int) ≤ n.qp.responder.nr_rd_atomic then tooMany
        else
          let slot : Slot :=
            { opcode := .RDMA_READ_REQUEST, psn := rpsn, expected_psn := u32 (rpsn + num_packets)
              vaddress := r.vaddr, rkey := r.rkey, dmalen := r.dmalen }
          scheduleRead now (storeSlot n slot) psn slot.expected_psn r num_packets
      | some i =>
        let slot := n.qp.responder.slots i
        let offset := slotOffset n.qp slot psn
        if slot.rkey ≠ r.rkey ∨ u64 (slot.vaddress + offset) ≠ r.vaddr ∨
            u32Sub slot.dmalen offset ≠ r.dmalen then
          (n.setQp (refuse now n.qp psn PIB_SYND_NAK_CODE_INV_REQ_ERR .QP_REQ_ERR), none)
        else scheduleRead now n psn slot.expected_psn r 0

/-! ## Requests -/

/-- The slot that the `i`-th step of the search for a retried request looks at. -/
def slotAt (q : Qp) (i : Nat) : Nat := ((q.responder.slot_index - i) % PIB_MAX_RD_ATOM).toNat

/-- The slot holds a request of this opcode and PSN. -/
def slotMatches (q : Qp) (opcode : OpCode) (psn i : Nat) : Bool :=
  let slot := q.responder.slots (slotAt q i)
  decide (slot.opcode = opcode) && decide (0 ≤ getPsnDiff psn slot.psn) &&
    decide (getPsnDiff psn slot.expected_psn < 0)

/-- The search of `receive_request` over the last `max_dest_rd_atomic` slots. -/
def findSlot (q : Qp) (opcode : OpCode) (psn : Nat) : Option Nat :=
  ((List.range q.attr.max_dest_rd_atomic).find? fun i => slotMatches q opcode psn (i + 1)).map
    fun i => slotAt q (i + 1)

/-- `receive_request` of a packet with an old PSN. -/
def receiveDuplicate (now : Nat) (n : Node) (psn : Nat) (p : RcPacket) : Node :=
  if p.opcode = .RDMA_READ_REQUEST ∨ p.opcode = .COMPARE_SWAP ∨ p.opcode = .FETCH_ADD then
    match findSlot n.qp p.opcode psn with
    | some i =>
      if p.opcode = .RDMA_READ_REQUEST then (receiveRdmaReadRequest now n psn p (some i)).1
      else n.setQp (pushAtomicAcknowledge n.qp psn (n.qp.responder.slots i).res)
    | none => n.setQp (refuse now n.qp psn PIB_SYND_NAK_CODE_INV_REQ_ERR .QP_ACCESS_ERR)
  else n.setQp (pushAcknowledge n.qp psn PIB_SYND_ACK_CODE)

/-- The dispatch of `receive_request` on the opcode. -/
def executeRequest (cfg : Config) (now : Nat) (n : Node) (psn : Nat) (p : RcPacket) :
    Node × Option Nat :=
  match p.opcode with
  | .SEND_FIRST | .SEND_MIDDLE | .SEND_LAST | .SEND_ONLY | .SEND_LAST_WITH_IMMEDIATE
  | .SEND_ONLY_WITH_IMMEDIATE | .SEND_LAST_WITH_INVALIDATE | .SEND_ONLY_WITH_INVALIDATE =>
    receiveSendRequest now n psn p
  | .RDMA_WRITE_FIRST | .RDMA_WRITE_MIDDLE | .RDMA_WRITE_LAST | .RDMA_WRITE_LAST_WITH_IMMEDIATE
  | .RDMA_WRITE_ONLY | .RDMA_WRITE_ONLY_WITH_IMMEDIATE =>
    receiveRdmaWriteRequest cfg now n psn p
  | .RDMA_READ_REQUEST => receiveRdmaReadRequest now n psn p none
  | .COMPARE_SWAP | .FETCH_ADD => receiveAtomicRequest now n psn p
  | _ => (n.crash .requestOpcode, none)

/-- `receive_request` of the packet with the expected PSN. -/
def receiveExpected (cfg : Config) (now : Nat) (n : Node) (psn : Nat) (p : RcPacket) : Node :=
  match pibOpcodeIsInOrderSequence p.opcode n.qp.responder.last_OpCode with
  | none => n.crash .attrOpCode
  | some false => n.setQp (refuse now n.qp psn PIB_SYND_NAK_CODE_INV_REQ_ERR .QP_REQ_ERR)
  | some true =>
    match executeRequest cfg now n psn p with
    | (n, none) => n
    | (n, some ret) => n.setQp { n.qp with responder := { n.qp.responder with
        psn := u32 (n.qp.responder.psn + ret), last_OpCode := p.opcode } }

/-- `receive_request`. -/
def receiveRequest (cfg : Config) (now : Nat) (n : Node) (p : RcPacket) : Node :=
  let psn := psnMask p.psn
  let n := n.setQp (issueCommEst n.qp)
  let psn_diff := getPsnDiff psn n.qp.responder.psn
  if 0 < psn_diff then n.setQp (pushAcknowledge n.qp psn PIB_SYND_NAK_CODE_PSN_SEQ_ERR)
  else if psn_diff < 0 then receiveDuplicate now n psn p
  else receiveExpected cfg now n psn p

/-! ## Generating acknowledge packets -/

/-- An acknowledge extended transport header: the syndrome over a zero MSN. -/
def aeth (syndrome : Nat) : List UInt8 := be 4 (u32 (syndrome * 2 ^ 24))

/-- `generate_Normal_or_Atomic_acknowledge`. -/
def normalOrAtomicPacket (ack : Ack) : RcPacket :=
  if ack.type = .NORMAL then
    { opcode := .ACKNOWLEDGE, psn := psnMask ack.psn, buffer := aeth ack.syndrome }
  else
    { opcode := .ATOMIC_ACKNOWLEDGE, psn := psnMask ack.psn
      buffer := aeth PIB_SYND_ACK_CODE ++ be 8 ack.res }

/-- The opcode that `generate_RDMA_READ_response` chooses. -/
def readResponseOpcode (ack : Ack) (psn_offset : Nat) : OpCode :=
  if getPsnDiff ack.expected_psn ack.psn = 1 then .RDMA_READ_RESPONSE_ONLY
  else if psn_offset = 0 then .RDMA_READ_RESPONSE_FIRST
  else if 1 < getPsnDiff ack.expected_psn (u32 (ack.psn + psn_offset)) then
    .RDMA_READ_RESPONSE_MIDDLE
  else .RDMA_READ_RESPONSE_LAST

/-- The pad count of a payload. -/
def padOf (len : Nat) : Nat := (4 - len % 4) % 4

/-- A list brought to the given length: the buffer is sent with that length,
however much was copied into it. -/
def padTo (len : Nat) (l : List UInt8) : List UInt8 := l ++ List.replicate (len - l.length) 0

/-- `psn_offset`: the response packets sent before. -/
def psnOffset (q : Qp) (ack : Ack) : Nat := ack.offset / 128 / 2 ^ q.attr.path_mtu

/-- `data_size`: a full packet but for the last. -/
def readDataSize (q : Qp) (ack : Ack) : Nat :=
  if ack.size - ack.offset < pmtuOf q.attr.path_mtu then ack.size - ack.offset
  else pmtuOf q.attr.path_mtu

/-- The response packet with this payload. The middle ones have no
acknowledge header. -/
def readResponsePacket (q : Qp) (ack : Ack) (out : List UInt8) : RcPacket :=
  let opcode := readResponseOpcode ack (psnOffset q ack)
  { opcode
    psn := psnMask (ack.psn + psnOffset q ack)
    padcnt := padOf (readDataSize q ack)
    buffer := (if opcode = .RDMA_READ_RESPONSE_MIDDLE then [] else aeth PIB_SYND_ACK_CODE) ++
      padTo (readDataSize q ack) out }

/-- The first acknowledge of the queue has `size` bytes sent. -/
def advanceRead (q : Qp) (ack : Ack) (acks : List Ack) (size : Nat) : Qp :=
  { q with responder := { q.responder with
    acks := { ack with offset := ack.offset + size } :: acks
    nr_contig_read_acks := q.responder.nr_contig_read_acks + 1 } }

/-- `generate_RDMA_READ_response` on the first acknowledge. When the copy
fails nothing is sent and the acknowledge is left as it is. -/
def generateRdmaReadResponse (n : Node) (ack : Ack) (acks : List Ack) : Node :=
  match pibUtilMrCopyDataWithRkey n.pd ack.rkey n.mem [] (u64 (ack.vaddress + ack.offset))
      (readDataSize n.qp ack) IB_ACCESS_REMOTE_READ .COPY_FROM with
  | (.SUCCESS, _, out) =>
    (n.headers.transmit (readResponsePacket n.qp ack out)).setQp
      (advanceRead n.qp ack acks (readDataSize n.qp ack))
  | _ => n.headers

/-- The first acknowledge leaves the queue. -/
def Qp.popAck (q : Qp) : Qp :=
  { q with responder := { q.responder with acks := q.responder.acks.tail } }

def Qp.decRdAtomic (q : Qp) : Qp :=
  { q with responder := { q.responder with nr_rd_atomic := q.responder.nr_rd_atomic - 1 } }

/-- `pib_generate_rc_qp_acknowledge`. The flag is the return value. -/
def pibGenerateRcQpAcknowledge (n : Node) : Node × Bool :=
  if pibIsRecvOk n.qp.state = false then (n, false)
  else
    match n.qp.responder.acks with
    | [] => (n, false)
    | ack :: acks =>
      match ack.type with
      | .NORMAL => ((n.headers.transmit (normalOrAtomicPacket ack)).setQp n.qp.popAck, true)
      | .ATOMIC =>
        ((n.headers.transmit (normalOrAtomicPacket ack)).setQp n.qp.popAck.decRdAtomic, true)
      | .RDMA_READ =>
        if PIB_MAX_CONTIG_READ_ACKS < n.qp.responder.nr_contig_read_acks then (n, false)
        else
          let n := generateRdmaReadResponse n ack acks
          match n.qp.responder.acks with
          | [] => (n, true)
          | ack :: _ =>
            if ack.offset < ack.size then (n, true)
            else (n.setQp n.qp.popAck.decRdAtomic, true)

end pib
