-- The receiving side of a queue pair as the requester, the scheduler and the
-- verbs of the send queue see it: they leave it as it is, or they take the
-- queue pair down and flush it.
import Pib.RequesterQueue

namespace pib

open Bytes

variable (cfg : Config) (now : Nat) (n : Node) (q : Qp) {q' : Qp} {L : Reach} {n' : Node}

/-! ## The receiving side -/

/-- Everything of the receiving side but the acknowledges to be sent. -/
structure RecvSide where
  state : QpState
  attr : QpAttr
  init_attr : QpInitAttr
  srq : Option Srq
  recv_cq : List (Wc × Bool)
  responder : Responder

def Qp.recvSide (q : Qp) : RecvSide :=
  { state := q.state, attr := q.attr, init_attr := q.init_attr, srq := q.srq, recv_cq := q.recv_cq
    responder := { q.responder with acks := [], nr_rd_atomic := 0, nr_contig_read_acks := 0 } }

/-- The receiving side with the acknowledges. -/
def Qp.respSide (q : Qp) : RecvSide :=
  { state := q.state, attr := q.attr, init_attr := q.init_attr, srq := q.srq, recv_cq := q.recv_cq
    responder := { q.responder with nr_contig_read_acks := 0 } }

/-- The completion of a receive element that is flushed. -/
def flushRecvWc (w : RecvWqe) : Wc × Bool :=
  ({ wr_id := w.wr_id, status := .WR_FLUSH_ERR, opcode := .RECV }, true)

namespace RecvSide

/-- The free elements of the queue pair, or of its shared receive queue, are `k` more. -/
def free (b : RecvSide) (k : Nat) : RecvSide :=
  match b.srq with
  | some srq => { b with srq := some { srq with free_recv_wqe := srq.free_recv_wqe + k } }
  | none => { b with responder := { b.responder with free_rwqe := b.responder.free_rwqe + k } }

/-- No acknowledge is to be sent any more. -/
def strip (b : RecvSide) : RecvSide :=
  { b with responder := { b.responder with acks := [], nr_rd_atomic := 0 } }

/-- The queue pair fails: all receive elements are reported and freed. -/
def fail (b : RecvSide) : RecvSide :=
  let b' := b.free b.responder.recv_wqe.length
  { b' with
    state := .ERR
    recv_cq := b.recv_cq ++ b.responder.recv_wqe.map flushRecvWc
    responder := { b'.responder with recv_wqe := [], nr_recv_wqe := 0 } }

@[simp] theorem free_zero (b : RecvSide) : b.free 0 = b := by
  unfold free
  split
  · rename_i srq h
    cases b
    simp_all
  · rfl

/-- What has failed is not changed by another failure. -/
@[simp] theorem fail_fail (b : RecvSide) : b.fail.fail = b.fail := by
  have h : b.fail.responder.recv_wqe = [] := rfl
  have hn : b.fail.responder.nr_recv_wqe = 0 := rfl
  rw [fail, h]
  simp only [List.length_nil, free_zero, List.map_nil, List.append_nil]
  rfl

/-- The state before a failure does not matter. -/
theorem fail_setState (b : RecvSide) (state : QpState) : fail { b with state } = b.fail := by
  unfold fail free
  cases b.srq <;> rfl

@[simp] theorem attr_fail (b : RecvSide) : b.fail.attr = b.attr := by
  unfold fail free
  split <;> rfl

theorem strip_fail (b : RecvSide) : b.fail.strip = b.strip.fail := by
  unfold fail free strip
  dsimp only
  cases b.srq <;> rfl

@[simp] theorem strip_strip (b : RecvSide) : b.strip.strip = b.strip := rfl

end RecvSide

@[simp] theorem respSide_freeRecvWqe : q.freeRecvWqe.respSide = q.respSide.free 1 := by
  unfold Qp.freeRecvWqe RecvSide.free
  split <;> rename_i h <;> simp [Qp.respSide, h]

theorem respSide_foldl_freeRecv (l : List RecvWqe) (q : Qp) :
    (l.foldl (fun q w => (q.insertRecvError w.wr_id .WR_FLUSH_ERR .RECV).freeRecvWqe) q).respSide =
      { q.respSide.free l.length with recv_cq := q.recv_cq ++ l.map flushRecvWc } := by
  induction l generalizing q with
  | nil =>
    simp
    rfl
  | cons w l ih =>
    rw [List.foldl_cons, ih, respSide_freeRecvWqe]
    have hcq : (q.insertRecvError w.wr_id .WR_FLUSH_ERR .RECV).freeRecvWqe.recv_cq =
        q.recv_cq ++ [flushRecvWc w] := by
      unfold Qp.freeRecvWqe
      split <;> rfl
    rw [hcq]
    cases hs : q.srq with
    | none | some => simp [RecvSide.free, Qp.respSide, Qp.insertRecvError, hs]; omega

theorem respSide_flushRecvQueue :
    (flushRecvQueue q).respSide = { q.respSide.fail.strip with state := q.state } := by
  have h := respSide_foldl_freeRecv q.responder.recv_wqe q
  unfold flushRecvQueue
  generalize List.foldl _ q q.responder.recv_wqe = q' at h ⊢
  have hq : Qp.respSide { q' with responder := { q'.responder with
      recv_wqe := [], nr_recv_wqe := 0, acks := [], nr_rd_atomic := 0 } } =
      { q.respSide.fail.strip with state := q.state } := by
    have hr : Qp.respSide { q' with responder := { q'.responder with
        recv_wqe := [], nr_recv_wqe := 0, acks := [], nr_rd_atomic := 0 } } =
        { q'.respSide with responder := { q'.respSide.responder with
          recv_wqe := [], nr_recv_wqe := 0, acks := [], nr_rd_atomic := 0 } } := rfl
    rw [hr, h, RecvSide.fail, RecvSide.strip]
    cases hs : q.srq <;> simp [RecvSide.free, Qp.respSide, hs]
  dsimp only
  split
  · exact hq
  · exact hq

/-! ## What leaves it alone -/

@[simp] theorem respSide_rescheduleQp : (pibUtilRescheduleQp now q).respSide = q.respSide := by
  unfold pibUtilRescheduleQp
  split <;> rfl

@[simp] theorem respSide_clearContig : q.clearContig.respSide = q.respSide := rfl

@[simp] theorem respSide_getReadyToSend : (getReadyToSend now q).respSide = q.respSide := by
  rw [getReadyToSend, respSide_clearContig, respSide_rescheduleQp]

@[simp] theorem respSide_settleState (cur new : QpState) (drained : Bool) :
    (settleState now q cur new drained).respSide = q.respSide := by
  have h : ∀ b : Bool, Qp.respSide { (if b then q.insertEvent .SQ_DRAINED else q) with
      issue_sq_drained := true } = q.respSide := by
    intro b
    cases b <;> rfl
  unfold settleState
  dsimp only
  generalize hq : (if drained = true then _ else q) = q₁
  have h₁ : q₁.respSide = q.respSide := by
    rw [← hq]
    split
    · exact h _
    · rfl
  generalize hq₂ : (if cur = .SQD ∧ new ≠ .SQD then _ else q₁) = q₂
  have h₂ : q₂.respSide = q₁.respSide := by
    rw [← hq₂]
    split <;> rfl
  split
  · rw [respSide_getReadyToSend, h₂, h₁]
  · rw [h₂, h₁]

@[simp] theorem respSide_flushSendQueue : (flushSendQueue q).respSide = q.respSide := by
  unfold flushSendQueue
  simp only [foldl_flushSendWqe]
  rfl

/-- A failure is a failure of the receiving side. -/
@[simp] theorem respSide_failQp : (failQp now q).respSide = q.respSide.fail.strip := by
  have hs : ∀ q : Qp, (flushSendQueue q).state = q.state := fun q => by
    unfold flushSendQueue
    simp only [foldl_flushSendWqe]
  unfold failQp pibUtilFlushQp
  simp only [Bool.false_eq_true, if_false, respSide_clearContig, respSide_rescheduleQp,
    respSide_flushRecvQueue, respSide_flushSendQueue, hs]
  exact congrArg RecvSide.strip (RecvSide.fail_setState q.respSide .ERR)

/-- A reset keeps the counter of the slots and forgets everything else. -/
theorem respSide_resetQp : ∃ srq free_rwqe, (resetQp cfg now q).respSide =
    { q.respSide with srq, recv_cq := [], responder := { q.respSide.responder with
      free_rwqe, recv_wqe := [], nr_recv_wqe := 0, acks := [], nr_rd_atomic := 0, psn := 0
      last_OpCode := .SEND_ONLY, offset := 0, slots := fun _ => {} } } := by
  unfold resetQp
  dsimp only
  rw [respSide_clearContig, respSide_rescheduleQp, (foldl_freeRecvWqe _ _).choose_spec.choose_spec]
  exact ⟨_, _, rfl⟩

@[simp] theorem respSide_reportDrained : (reportDrained q).respSide = q.respSide := by
  unfold reportDrained
  split
  · split <;> rfl
  · rfl

/-! ## Spared, or taken down -/

/-- The receiving side is as it was, or it has failed. -/
def Spares (q q' : Qp) : Prop := q'.recvSide = q.recvSide ∨ q'.recvSide = q.recvSide.fail

/-- So is the receiving side with the acknowledges. -/
def SparesAll (q q' : Qp) : Prop := q'.respSide = q.respSide ∨ q'.respSide = q.respSide.fail.strip

theorem strip_respSide : q.respSide.strip = q.recvSide := rfl

theorem recvSide_of_respSide {q : Qp} (h : q'.respSide = q.respSide) :
    q'.recvSide = q.recvSide := congrArg RecvSide.strip h

namespace Spares

theorem refl : Spares q q := Or.inl rfl

theorem same {q : Qp} (h : q'.recvSide = q.recvSide) : Spares q q' := Or.inl h

theorem trans {q q'' : Qp} (h : Spares q q') (h' : Spares q' q'') : Spares q q'' := by
  rcases h with h | h <;> rcases h' with h' | h' <;> rw [h] at h'
  · exact Or.inl h'
  · exact Or.inr h'
  · exact Or.inr h'
  · rw [RecvSide.fail_fail] at h'
    exact Or.inr h'

end Spares

namespace SparesAll

theorem refl : SparesAll q q := Or.inl rfl

theorem same {q : Qp} (h : q'.respSide = q.respSide) : SparesAll q q' := Or.inl h

theorem trans {q q'' : Qp} (h : SparesAll q q') (h' : SparesAll q' q'') : SparesAll q q'' := by
  rcases h with h | h <;> rcases h' with h' | h' <;> rw [h] at h'
  · exact Or.inl h'
  · exact Or.inr h'
  · exact Or.inr h'
  rw [RecvSide.strip_fail q.respSide.fail.strip, RecvSide.strip_strip, ← RecvSide.strip_fail,
    RecvSide.fail_fail] at h'
  exact Or.inr h'

theorem spares {q : Qp} (h : SparesAll q q') : Spares q q' := by
  rcases h with h | h
  · exact Or.inl (recvSide_of_respSide h)
  · refine Or.inr ?_
    rw [← strip_respSide, h, RecvSide.strip_strip, RecvSide.strip_fail, strip_respSide]

end SparesAll

/-! ## The requester's functions -/

theorem sparesAll_sendStep {now : Nat} {n : Node} (h : SendStep L now n n') :
    SparesAll n.qp n'.qp := by
  cases h with
  | fail => exact Or.inr (respSide_failQp now n.qp)
  | drained => exact .same (respSide_reportDrained n.qp)
  | _ => exact .same rfl

theorem SendSteps.sparesAll {now : Nat} {n : Node} (h : SendSteps L now n n') :
    SparesAll n.qp n'.qp :=
  Run.closure (R := fun n n' => SparesAll n.qp n'.qp) (fun n => .refl n.qp) SparesAll.trans
    sparesAll_sendStep h

/-- Steps that may not fail leave the receiving side as it is. -/
theorem SendSteps.respSide {now : Nat} {n : Node} (hL : ¬L.fails)
    (h : SendSteps L now n n') : n'.qp.respSide = n.qp.respSide := by
  refine Run.frame (fun n => n.qp.respSide) (fun h => ?_) h
  cases h with
  | fail hf => exact absurd hf hL
  | drained => exact respSide_reportDrained _
  | _ => rfl

/-- A response spares the receiving side or takes the queue pair down. -/
theorem sparesAll_receiveResponse (p : RcPacket) :
    SparesAll n.qp (receiveResponse cfg now n p).qp := by
  by_cases hlen : p.buffer.length < 4
  · rw [receiveResponse, if_pos hlen]
    exact .refl n.qp
  have hclear : SparesAll n.qp { n.qp with requester :=
    { n.qp.requester with nr_contig_requests := 0 } } := .same rfl
  exact hclear.trans (respSteps_receiveResponse cfg now n hlen).sparesAll

/-! ## The scheduler and the verbs -/

theorem sparesAll_processRequester :
    SparesAll n.qp (processRequester cfg now n).qp := (schedSteps_processRequester cfg now n).sparesAll

theorem recvSide_generateAcknowledge :
    (pibGenerateRcQpAcknowledge n).1.qp.recvSide = n.qp.recvSide := by
  obtain ⟨_, _, _, h⟩ := generateAcknowledge_qp n
  rw [h]
  rfl

/-- So does a turn of the scheduler, but for the acknowledges. -/
theorem spares_processOnQpScheduler : Spares n.qp (processOnQpScheduler cfg now n).qp := by
  have hgen := recvSide_generateAcknowledge n
  obtain ⟨n', he, h⟩ := scheduler_cases cfg now n
  rw [he, Node.setQp_qp]
  refine Spares.trans ?_ (Spares.same (recvSide_of_respSide (respSide_rescheduleQp now _)))
  rcases h with h | ⟨-, rfl⟩
  · rw [h] at hgen
    exact Spares.same hgen
  · exact (sparesAll_processRequester cfg now n).spares

theorem respSide_pibPostSend (copyFromUser : UserCopy) (now : Nat) (q : Qp)
    (wrs : List SendWr) : (pibPostSend cfg copyFromUser now q wrs).1.respSide = q.respSide := by
  obtain ⟨q', ⟨_, _, _, _, rfl⟩, h | ⟨-, h⟩⟩ := pibPostSend_qp cfg copyFromUser now q wrs
  · rw [h]
    rfl
  · rw [h, respSide_getReadyToSend]
    rfl

end pib
