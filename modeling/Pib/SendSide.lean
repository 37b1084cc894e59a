-- The sending side of a queue pair as the responder and the verbs of the receive
-- queue see it: they leave it as it is, or they take the queue pair down and
-- flush it.
import Pib.RequestSteps
import Pib.RequesterSteps
import Pib.SendQueue

namespace pib

open Bytes

variable (cfg : Config) (now : Nat) (n : Node) (q : Qp)

/-! ## The sending side -/

/-- Everything of the sending side. `drained` counts the reports of a drained send
queue. -/
structure SendSide where
  qp_type : QpType
  state : QpState
  attr : QpAttr
  init_attr : QpInitAttr
  local_ack_timeout : Nat
  requester : Requester
  send_cq : List Wc
  drained : Nat
  issue_sq_drained : Bool

def Qp.sendSide (q : Qp) : SendSide :=
  { qp_type := q.qp_type, state := q.state, attr := q.attr, init_attr := q.init_attr
    local_ack_timeout := q.local_ack_timeout, requester := q.requester, send_cq := q.send_cq
    drained := q.events.count .SQ_DRAINED, issue_sq_drained := q.issue_sq_drained }

/-- The queue pair fails: all send elements are reported and freed. -/
def SendSide.fail (s : SendSide) : SendSide :=
  let r := s.requester
  { s with
    state := .ERR
    requester := { r with
      free_swqe := r.free_swqe ++ r.waiting_swqe ++ r.sending_swqe ++ r.submitted_swqe
      waiting_swqe := [], nr_waiting_swqe := 0
      sending_swqe := [], nr_sending_swqe := 0
      submitted_swqe := [], nr_submitted_swqe := 0
      nr_rd_atomic := 0, nr_contig_requests := 0, nr_contig_read_acks := 0 }
    send_cq := s.send_cq ++ (r.waiting_swqe ++ r.sending_swqe ++ r.submitted_swqe).map flushWc }

/-- What has failed is not changed by another failure. -/
theorem SendSide.fail_fail (s : SendSide) : s.fail.fail = s.fail := by simp [SendSide.fail]

/-! ## What leaves it alone -/

theorem sendSide_insertEvent {event : EventType} (h : event ≠ .SQ_DRAINED) :
    (q.insertEvent event).sendSide = q.sendSide := by
  unfold Qp.sendSide Qp.insertEvent
  rw [List.count_append, List.count_singleton, if_neg (by simpa using h)]
  rfl

/-- A receive element goes back to the queue pair or to its shared receive queue. -/
theorem freeRecvWqe_qp : ∃ srq free_rwqe, q.freeRecvWqe = { q with srq, responder :=
    { q.responder with free_rwqe } } := by
  unfold Qp.freeRecvWqe
  split <;> exact ⟨_, _, rfl⟩

theorem foldl_freeRecvWqe (l : List RecvWqe) (q : Qp) :
    ∃ srq free_rwqe, l.foldl (fun q _ => q.freeRecvWqe) q = { q with srq, responder :=
      { q.responder with free_rwqe } } := by
  induction l generalizing q with
  | nil => exact ⟨_, _, rfl⟩
  | cons w l ih =>
    obtain ⟨_, _, h⟩ := freeRecvWqe_qp q
    obtain ⟨_, _, h'⟩ := ih q.freeRecvWqe
    rw [List.foldl_cons, h', h]
    exact ⟨_, _, rfl⟩

@[simp] theorem sendSide_freeRecvWqe : q.freeRecvWqe.sendSide = q.sendSide := by
  obtain ⟨_, _, h⟩ := freeRecvWqe_qp q
  rw [h]
  rfl

@[simp] theorem sendSide_popRecvWqe : q.popRecvWqe.sendSide = q.sendSide :=
  sendSide_freeRecvWqe _

@[simp] theorem sendSide_takeFromSrq : (takeFromSrq q).sendSide = q.sendSide := by
  unfold takeFromSrq
  split
  · rfl
  split
  · rfl
  · split <;> rfl

@[simp] theorem sendSide_abortActiveRwqe : (abortActiveRwqe q).sendSide = q.sendSide := by
  unfold abortActiveRwqe
  split
  · rfl
  split
  · rfl
  · exact sendSide_popRecvWqe _

@[simp] theorem sendSide_issueCommEst : (issueCommEst q).sendSide = q.sendSide := by
  unfold issueCommEst
  split
  · rfl
  · exact sendSide_insertEvent q (by decide)

@[simp] theorem sendSide_failRecv (w : RecvWqe) (status : WcStatus) (opcode : WcOpcode) :
    (failRecv q w status opcode).sendSide = q.sendSide := sendSide_popRecvWqe _

@[simp] theorem sendSide_completeRecv (w : RecvWqe) (s : Segment) (ex : Nat)
    (opcode : WcOpcode) (p : RcPacket) : (completeRecv q w s ex opcode p).sendSide = q.sendSide :=
  sendSide_popRecvWqe _

@[simp] theorem sendSide_storeSlot (slot : Slot) :
    (storeSlot n slot).qp.sendSide = n.qp.sendSide := by
  unfold storeSlot
  dsimp only
  split <;> rfl

@[simp] theorem sendSide_rescheduleQp : (pibUtilRescheduleQp now q).sendSide = q.sendSide := by
  unfold pibUtilRescheduleQp
  split <;> rfl

theorem sendSide_foldl_freeRecv (l : List RecvWqe) (q : Qp) :
    (l.foldl (fun q w => (q.insertRecvError w.wr_id .WR_FLUSH_ERR .RECV).freeRecvWqe) q).sendSide =
      q.sendSide := by
  induction l generalizing q with
  | nil => rfl
  | cons w l ih =>
    rw [List.foldl_cons, ih, sendSide_freeRecvWqe]
    rfl

@[simp] theorem sendSide_flushRecvQueue : (flushRecvQueue q).sendSide = q.sendSide := by
  have hfree := sendSide_foldl_freeRecv q.responder.recv_wqe q
  unfold flushRecvQueue
  generalize List.foldl _ q q.responder.recv_wqe = q' at hfree ⊢
  dsimp only
  split
  · exact (sendSide_insertEvent _ (by decide)).trans hfree
  · exact hfree

/-! ## Flushing -/

theorem foldl_flushSendWqe (l : List SendWqe) (q : Qp) :
    l.foldl flushSendWqe q = { q with
      send_cq := q.send_cq ++ l.map flushWc
      requester := { q.requester with free_swqe := q.requester.free_swqe ++ l } } := by
  induction l generalizing q with
  | nil => simp
  | cons w l ih =>
    rw [List.foldl_cons, ih]
    simp [flushSendWqe, Qp.insertSendError, Qp.freeSendWqe, flushWc]

/-- A failure is a failure of the sending side. -/
theorem sendSide_failQp : (failQp now q).sendSide = q.sendSide.fail := by
  have hclear : ∀ q : Qp, q.clearContig.sendSide = { q.sendSide with requester :=
      { q.sendSide.requester with nr_contig_requests := 0, nr_contig_read_acks := 0 } } :=
    fun _ => rfl
  unfold failQp pibUtilFlushQp
  simp only [Bool.false_eq_true, if_false, hclear, sendSide_rescheduleQp, sendSide_flushRecvQueue]
  simp [flushSendQueue, foldl_flushSendWqe, Qp.sendSide, SendSide.fail]

theorem sendSide_refuse (psn syndrome : Nat) {event : EventType}
    (h : event ≠ .SQ_DRAINED) : (refuse now q psn syndrome event).sendSide = q.sendSide.fail := by
  rw [refuse, insertAsyncQpError, sendSide_failQp, sendSide_abortActiveRwqe, sendSide_insertEvent _ h]
  rfl

/-! ## Requests -/

/-- The sending side is as it was, or it has failed. -/
def SparesSend (q q' : Qp) : Prop := q'.sendSide = q.sendSide ∨ q'.sendSide = q.sendSide.fail

namespace SparesSend

theorem refl : SparesSend q q := Or.inl rfl

theorem trans {q q' q'' : Qp} (h : SparesSend q q') (h' : SparesSend q' q'') : SparesSend q q'' := by
  rcases h' with h' | h'
  · rcases h with h | h
    · exact Or.inl (h'.trans h)
    · exact Or.inr (h'.trans h)
  · rcases h with h | h
    · exact Or.inr (h'.trans (congrArg SendSide.fail h))
    · exact Or.inr (h'.trans ((congrArg SendSide.fail h).trans (SendSide.fail_fail _)))

end SparesSend

theorem sparesSend_reqStep {G : Prop} {now : Nat} {p : RcPacket} {n n' : Node}
    (h : ReqStep G True now p n n') : SparesSend n.qp n'.qp := by
  have hevent : ∀ {e : EventType}, e = .QP_REQ_ERR ∨ e = .QP_ACCESS_ERR → e ≠ .SQ_DRAINED := by
    rintro e (rfl | rfl) <;> decide
  cases h with
  | fail => exact Or.inr (sendSide_failQp now n.qp)
  | event he => exact Or.inl (sendSide_insertEvent _ (hevent he))
  | refuseRead psn expected_psn syndrome he =>
    exact Or.inr ((sendSide_refuse now _ psn syndrome (hevent he)).trans rfl)
  | _ => exact Or.inl (by first | rfl | simp)

/-- A request leaves the sending side alone or fails the queue pair. -/
theorem sparesSend_receiveRequest (p : RcPacket) :
    SparesSend n.qp (receiveRequest cfg now n p).qp :=
  receiveRequest_of_steps (R := fun n n' => SparesSend n.qp n'.qp) (fun n => .refl n.qp)
    SparesSend.trans cfg now p sparesSend_reqStep n

/-! ## Acknowledges and receive elements -/

/-- Generating acknowledges touches nothing but the queue of them. -/
theorem generateAcknowledge_qp :
    ∃ acks nr_rd_atomic nr_contig_read_acks, (pibGenerateRcQpAcknowledge n).1.qp = { n.qp with
      responder := { n.qp.responder with acks, nr_rd_atomic, nr_contig_read_acks } } := by
  unfold pibGenerateRcQpAcknowledge
  split
  · exact ⟨_, _, _, rfl⟩
  split
  · exact ⟨_, _, _, rfl⟩
  rename_i ack acks _
  split
  · exact ⟨_, _, _, rfl⟩
  · exact ⟨_, _, _, rfl⟩
  split
  · exact ⟨_, _, _, rfl⟩
  have hread : ∃ acks' k, (generateRdmaReadResponse n ack acks).qp = { n.qp with
      responder := { n.qp.responder with acks := acks', nr_contig_read_acks := k } } := by
    unfold generateRdmaReadResponse
    split <;> exact ⟨_, _, rfl⟩
  obtain ⟨acks', k, hread⟩ := hread
  dsimp only
  generalize generateRdmaReadResponse n ack acks = n' at hread ⊢
  split
  · exact ⟨_, _, _, hread⟩
  split
  · exact ⟨_, _, _, hread⟩
  · rw [Node.setQp_qp, hread]
    exact ⟨_, _, _, rfl⟩

theorem sendSide_generateAcknowledge :
    (pibGenerateRcQpAcknowledge n).1.qp.sendSide = n.qp.sendSide := by
  obtain ⟨_, _, _, h⟩ := generateAcknowledge_qp n
  rw [h]
  rfl

theorem postRecvLoop_qp (wrs : List RecvWr) :
    ∀ (q : Qp) (total_length : Nat) (ret : Option Errno),
      ∃ recv_cq free_rwqe recv_wqe nr_recv_wqe, (postRecvLoop cfg q total_length wrs ret).1 =
        { q with recv_cq, responder := { q.responder with free_rwqe, recv_wqe, nr_recv_wqe } } := by
  induction wrs with
  | nil => exact fun q _ _ => ⟨_, _, _, _, rfl⟩
  | cons wr wrs ih =>
    intro q total_length ret
    unfold postRecvLoop
    split
    · exact ⟨_, _, _, _, rfl⟩
    · obtain ⟨_, _, _, _, h⟩ := ih (q.insertRecvError wr.wr_id .WR_FLUSH_ERR .RECV) total_length
        (some .EPERM)
      exact ⟨_, _, _, _, h⟩
    all_goals
      split
      · exact ⟨_, _, _, _, rfl⟩
      split
      · exact ⟨_, _, _, _, rfl⟩
      dsimp only
      split
      · exact ⟨_, _, _, _, rfl⟩
      · obtain ⟨_, _, _, _, h⟩ := ih _ _ ret
        exact ⟨_, _, _, _, h⟩

/-- Posting receive requests touches the receive list, the free elements and the
completions. -/
theorem pibPostRecv_qp (wrs : List RecvWr) :
    ∃ recv_cq free_rwqe recv_wqe nr_recv_wqe, (pibPostRecv cfg q wrs).1 =
      { q with recv_cq, responder := { q.responder with free_rwqe, recv_wqe, nr_recv_wqe } } := by
  unfold pibPostRecv
  split
  · exact ⟨_, _, _, _, rfl⟩
  · exact postRecvLoop_qp cfg wrs q 0 none

theorem sendSide_pibPostRecv (wrs : List RecvWr) :
    (pibPostRecv cfg q wrs).1.sendSide = q.sendSide := by
  obtain ⟨_, _, _, _, h⟩ := pibPostRecv_qp cfg q wrs
  rw [h]
  rfl

end pib
