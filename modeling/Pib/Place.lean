-- The responder's place in the stream of requests: its PSN, the last opcode
-- and the slots of past requests. Nothing but a request in sequence and a
-- call of `pib_modify_qp` moves it.
import Pib.RecvSide

namespace pib

open Bytes

/-! ## The place -/

structure Place where
  attr : QpAttr
  psn : Nat
  last_OpCode : OpCode
  slot_index : Int
  slots : Nat → Slot

def Qp.place (q : Qp) : Place :=
  { attr := q.attr
    psn := q.responder.psn
    last_OpCode := q.responder.last_OpCode
    slot_index := q.responder.slot_index
    slots := q.responder.slots }

/-- The place is part of the receiving side. -/
def RecvSide.place (b : RecvSide) : Place :=
  { attr := b.attr
    psn := b.responder.psn
    last_OpCode := b.responder.last_OpCode
    slot_index := b.responder.slot_index
    slots := b.responder.slots }

@[simp] theorem place_freeRecvWqe (q : Qp) : q.freeRecvWqe.place = q.place := by
  unfold Qp.freeRecvWqe
  split <;> rfl

@[simp] theorem place_popRecvWqe (q : Qp) : q.popRecvWqe.place = q.place :=
  place_freeRecvWqe _

@[simp] theorem place_takeFromSrq (q : Qp) : (takeFromSrq q).place = q.place := by
  unfold takeFromSrq
  split
  · rfl
  split
  · rfl
  · split <;> rfl

end pib
