-- Every function of the driver that touches a send queue is a run of moves
-- of the abstract send queue. The responder's functions leave it alone or
-- fail the queue pair as a whole.
import Pib.SendSide

namespace pib

open Bytes

variable (now : Nat) (q : Qp)

variable {c : Ctx}

/-! ## Functions that leave the send queue alone -/

/-- The send queue is part of the sending side. -/
def SendSide.sendQ (s : SendSide) : SendQ :=
  Qp.sendQ { qp_type := s.qp_type, state := s.state, attr := s.attr, init_attr := s.init_attr
             local_ack_timeout := s.local_ack_timeout, requester := s.requester, send_cq := s.send_cq }

theorem sendQ_of_sendSide {q q' : Qp} (h : q'.sendSide = q.sendSide) : q'.sendQ = q.sendQ :=
  congrArg SendSide.sendQ h

@[simp] theorem sendQ_freeRecvWqe : q.freeRecvWqe.sendQ = q.sendQ :=
  sendQ_of_sendSide (sendSide_freeRecvWqe q)

@[simp] theorem sendQ_rescheduleQp :
    (pibUtilRescheduleQp now q).sendQ = q.sendQ := sendQ_of_sendSide (sendSide_rescheduleQp now q)

@[simp] theorem sendQ_clearContig : q.clearContig.sendQ = q.sendQ := rfl

@[simp] theorem sendQ_getReadyToSend : (getReadyToSend now q).sendQ = q.sendQ := by
  simp [getReadyToSend]

@[simp] theorem sendQ_reportDrained : (reportDrained q).sendQ = q.sendQ := by
  unfold reportDrained
  split
  · split <;> rfl
  · rfl

/-! ## Flushing -/

/-- The elements of a failed queue pair, as they stand in its free list. -/
def SendQ.allFree (s : SendQ) : List SendWqe := s.free ++ s.waiting ++ s.sending ++ s.submitted

@[simp] theorem sendQ_flushRecvQueue : (flushRecvQueue q).sendQ = q.sendQ :=
  sendQ_of_sendSide (sendSide_flushRecvQueue q)

theorem SendSide.sendQ_fail (s : SendSide) : s.fail.sendQ = s.sendQ.failAll s.sendQ.allFree := rfl

theorem sendQ_failQp : (failQp now q).sendQ = q.sendQ.failAll q.sendQ.allFree :=
  (congrArg SendSide.sendQ (sendSide_failQp now q)).trans q.sendSide.sendQ_fail

theorem allFree_perm (s : SendQ) :
    (s.allFree.map SendWqe.key).Perm ((s.free ++ s.flight ++ s.submitted).map SendWqe.key) := by
  unfold SendQ.allFree SendQ.flight
  simp only [List.append_assoc]
  exact List.Perm.refl _

theorem Moves.of_eq {s s' : SendQ} (h : s' = s) : Moves c s [] s' := by
  subst h
  exact Moves.refl _

/-- The send queue is left alone, or all of it is flushed. -/
def Flushes (s s' : SendQ) : Prop := s' = s ∨ s' = s.failAll s.allFree

theorem Flushes.moves {s s' : SendQ} (h : Flushes s s') : Moves c s [] s' := by
  rcases h with rfl | rfl
  · exact Moves.refl _
  · exact Moves.silent (Move.failAll (allFree_perm _))

theorem moves_failQp : Moves c q.sendQ [] (failQp now q).sendQ :=
  Flushes.moves (Or.inr (sendQ_failQp now q))

/-! ## The responder -/

theorem SparesSend.flushes {q q' : Qp} (h : SparesSend q q') : Flushes q.sendQ q'.sendQ := by
  rcases h with h | h
  · exact Or.inl (sendQ_of_sendSide h)
  · exact Or.inr ((congrArg SendSide.sendQ h).trans q.sendSide.sendQ_fail)

/-- A request leaves the send queue alone or fails the queue pair. -/
theorem moves_receiveRequest (cfg : Config) (now : Nat) (n : Node) (p : RcPacket) :
    Moves c n.qp.sendQ [] (receiveRequest cfg now n p).qp.sendQ :=
  (sparesSend_receiveRequest cfg now n p).flushes.moves

/-- Generating acknowledges leaves the send queue alone. -/
theorem sendQ_generateAcknowledge (n : Node) :
    (pibGenerateRcQpAcknowledge n).1.qp.sendQ = n.qp.sendQ :=
  sendQ_of_sendSide (sendSide_generateAcknowledge n)

end pib
