-- The receiving side of a queue pair seen from a distance: what a request
-- packet can do to memory, to the receive queue and to the responder.
import Pib.Place
import Pib.Refusal

namespace pib

open Bytes

/-! ## Views of the responder -/

/-- What only a request in sequence may change, short of a failure: the
receive queue, its completions, and the place in the stream of requests. -/
structure RecvQ where
  state : QpState
  attr : QpAttr
  srq : Option Srq
  recv_wqe : List RecvWqe
  nr_recv_wqe : Int
  recv_cq : List (Wc × Bool)
  psn : Nat
  last_OpCode : OpCode
  offset : Nat
  rdma_write_vaddr : Nat
  rdma_write_rkey : Nat
  rdma_write_dmalen : Nat
  slot_index : Int
  slots : Nat → Slot

def Qp.recvQ (q : Qp) : RecvQ :=
  { state := q.state
    attr := q.attr
    srq := q.srq
    recv_wqe := q.responder.recv_wqe
    nr_recv_wqe := q.responder.nr_recv_wqe
    recv_cq := q.recv_cq
    psn := q.responder.psn
    last_OpCode := q.responder.last_OpCode
    offset := q.responder.offset
    rdma_write_vaddr := q.responder.rdma_write_vaddr
    rdma_write_rkey := q.responder.rdma_write_rkey
    rdma_write_dmalen := q.responder.rdma_write_dmalen
    slot_index := q.responder.slot_index
    slots := q.responder.slots }

/-- A queue pair that has neither failed nor moved. -/
def Stands (q q' : Qp) : Prop := q'.state = q.state ∧ q'.place = q.place

theorem Stands.trans {q q' q'' : Qp} (h : Stands q q') (h' : Stands q' q'') : Stands q q'' :=
  ⟨h'.1.trans h.1, h'.2.trans h.2⟩

theorem stands_of_recvQ {q q' : Qp} (h : q'.recvQ = q.recvQ) : Stands q q' := by
  simp only [Qp.recvQ, RecvQ.mk.injEq] at h
  simp [Stands, Qp.place, h]

@[simp] theorem recvQ_pushAcknowledge (q : Qp) (psn syndrome : Nat) :
    (pushAcknowledge q psn syndrome).recvQ = q.recvQ := by
  unfold pushAcknowledge pushOrCoalesce
  split
  · rfl
  split
  · rfl
  · split <;> rfl

theorem stands_pushAcknowledge (q : Qp) (psn syndrome : Nat) :
    Stands q (pushAcknowledge q psn syndrome) := stands_of_recvQ (recvQ_pushAcknowledge q psn syndrome)

theorem stands_takeFromSrq (q : Qp) : Stands q (takeFromSrq q) := by
  refine ⟨?_, place_takeFromSrq q⟩
  unfold takeFromSrq
  split
  · rfl
  split
  · rfl
  · split <;> rfl

theorem stands_popRecvWqe (q : Qp) : Stands q q.popRecvWqe := by
  refine ⟨?_, place_popRecvWqe q⟩
  unfold Qp.popRecvWqe Qp.freeRecvWqe
  split <;> rfl

theorem stands_acceptData (q : Qp) (psn : Nat) (p : RcPacket) (s : Segment)
    (completes : Bool) (w : RecvWqe) (ex len : Nat) (opcode : WcOpcode) :
    Stands q (acceptData q psn p s completes w ex len opcode) := by
  unfold acceptData
  dsimp only
  refine Stands.trans ?_ (stands_pushAcknowledge _ _ _)
  split
  · exact Stands.trans ⟨rfl, rfl⟩ (stands_popRecvWqe _)
  · exact ⟨rfl, rfl⟩

theorem failQp_state (now : Nat) (q : Qp) : (failQp now q).state = .ERR := by
  have h := sendQ_failQp now q
  generalize failQp now q = q' at h ⊢
  exact congrArg SendQ.state h

/-! ## What a request in sequence can do -/

/-- The slot of an atomic that found the value `res`. -/
def atomicSlot (q : Qp) (opcode : OpCode) (res : Nat) : Slot :=
  { opcode, psn := q.responder.psn, expected_psn := u32 (q.responder.psn + 1), res }

/-- The acknowledge of an atomic. -/
def atomicAck (psn res : Nat) : Ack := { type := .ATOMIC, psn, expected_psn := u32 (psn + 1), res }

@[simp] theorem storeSlot_ops (n : Node) (slot : Slot) : (storeSlot n slot).ops = n.ops := by
  unfold storeSlot
  dsimp only
  split <;> rfl

end pib
