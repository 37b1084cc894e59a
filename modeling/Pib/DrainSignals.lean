-- The event of a drained send queue and the flag that it has been reported.
-- Nothing raises the one or touches the other but `pib_modify_qp` and the end
-- of `receive_response`.
import Pib.StateChanges
import Pib.PsnWindow

namespace pib

open Bytes

variable (cfg : Config) (now : Nat) (n : Node) (q : Qp) (w : SendWqe) (p : RcPacket) {q' : Qp}

/-! ## The signals -/

/-- How often a drained send queue has been reported, and the flag. -/
structure Signals where
  drained : Nat
  issued : Bool
  deriving DecidableEq, Repr

def Qp.signals (q : Qp) : Signals :=
  { drained := q.events.count .SQ_DRAINED, issued := q.issue_sq_drained }

def SendSide.signals (s : SendSide) : Signals :=
  { drained := s.drained, issued := s.issue_sq_drained }

theorem signals_of_sendSide {q : Qp} (h : q'.sendSide = q.sendSide) : q'.signals = q.signals :=
  congrArg SendSide.signals h

@[simp] theorem signals_insertSendError (wr_id : Nat) (status : WcStatus)
    (opcode : WrOpcode) : (q.insertSendError wr_id status opcode).signals = q.signals := rfl

@[simp] theorem signals_freeSendWqe :
    (q.freeSendWqe w).signals = q.signals := rfl

@[simp] theorem signals_setInFlight (l : InFlight) (ws : List SendWqe) (d : Int) :
    (q.setInFlight l ws d).signals = q.signals := by
  cases l <;> rfl

@[simp] theorem signals_rescheduleQp : (pibUtilRescheduleQp now q).signals = q.signals :=
  signals_of_sendSide (sendSide_rescheduleQp now q)

@[simp] theorem signals_clearContig : q.clearContig.signals = q.signals := rfl

@[simp] theorem signals_getReadyToSend :
    (getReadyToSend now q).signals = q.signals := signals_rescheduleQp now q

@[simp] theorem signals_flushSendQueue : (flushSendQueue q).signals = q.signals := by
  unfold flushSendQueue
  simp only [foldl_flushSendWqe]
  rfl

@[simp] theorem signals_failQp : (failQp now q).signals = q.signals :=
  congrArg SendSide.signals (sendSide_failQp now q)

/-! ## Requests -/

/-- The signals are as they were, and the send queue is, or the queue pair has
failed. -/
def Keeps (q q' : Qp) : Prop :=
  q'.signals = q.signals ∧ (q'.sendQ = q.sendQ ∨ q'.state = .ERR)

theorem SparesSend.keeps {q : Qp} (h : SparesSend q q') : Keeps q q' := by
  rcases h with h | h
  · exact ⟨signals_of_sendSide h, Or.inl (sendQ_of_sendSide h)⟩
  · exact ⟨congrArg SendSide.signals h, Or.inr (congrArg SendSide.state h)⟩

/-- A request leaves the send queue and its signals alone, or fails the queue
pair. -/
theorem keeps_receiveRequest :
    Keeps n.qp (receiveRequest cfg now n p).qp := (sparesSend_receiveRequest cfg now n p).keeps

/-! ## Responses -/

/-- Steps that may not report a drained send queue raise nothing. -/
theorem SendSteps.signals {L : Reach} {now : Nat} {n n' : Node} (hL : ¬L.drained)
    (h : SendSteps L now n n') : n'.qp.signals = n.qp.signals := by
  refine Run.frame (fun n => n.qp.signals) (fun h => ?_) h
  cases h with
  | fail => exact signals_failQp now _
  | drained hd => exact absurd hd hL
  | _ => rfl

/-- The signals are as they were, and the state and the attributes are, or the
queue pair has failed. -/
def Follows (q q' : Qp) : Prop :=
  q'.signals = q.signals ∧ (q'.state = .ERR ∨ (q'.state = q.state ∧ q'.attr = q.attr))

theorem Spares.follows {q : Qp} (h : Spares q q') (hs : q'.signals = q.signals) : Follows q q' := by
  refine ⟨hs, ?_⟩
  rcases h with h | h
  · exact Or.inr ⟨congrArg RecvSide.state h, congrArg RecvSide.attr h⟩
  · exact Or.inl (congrArg RecvSide.state h)

theorem Follows.trans {q q'' : Qp} (h : Follows q q') (h' : Follows q' q'') : Follows q q'' := by
  refine ⟨h'.1.trans h.1, ?_⟩
  rcases h'.2 with he | ⟨he, ha⟩
  · exact Or.inl he
  rcases h.2 with hq | ⟨hq, hb⟩
  · exact Or.inl (he.trans hq)
  · exact Or.inr ⟨he.trans hq, ha.trans hb⟩

theorem follows_setInFlight (l : InFlight) (ws : List SendWqe) (d : Int) :
    Follows q (q.setInFlight l ws d) := by
  cases l <;> exact ⟨rfl, Or.inr ⟨rfl, rfl⟩⟩

theorem follows_dispatchResponse (psn : Nat) (p : RcPacket) :
    Follows n.qp (dispatchResponse now n psn p).qp := by
  have h : SendSteps (.response False) now n _ := respSteps_dispatchResponse n psn p
  exact h.sparesAll.spares.follows (h.signals id)

/-! ## Steps that raise nothing -/

/-- Nothing is in flight. -/
def Qp.Quiet (q : Qp) : Prop := q.requester.sending_swqe = [] ∧ q.requester.waiting_swqe = []

instance (q : Qp) : Decidable q.Quiet := by
  unfold Qp.Quiet
  infer_instance

/-- The signals are as they were, and so is whether something is in flight, or
the queue pair has failed. -/
def Stays (q q' : Qp) : Prop :=
  q'.signals = q.signals ∧
    (q'.state = .ERR ∨ (q'.state = q.state ∧ q'.attr = q.attr ∧ (q'.Quiet ↔ q.Quiet)))

theorem Stays.refl : Stays q q := ⟨rfl, Or.inr ⟨rfl, rfl, Iff.rfl⟩⟩

theorem Stays.trans {q q'' : Qp} (h : Stays q q') (h' : Stays q' q'') : Stays q q'' := by
  refine ⟨h'.1.trans h.1, ?_⟩
  rcases h'.2 with he | ⟨he, ha, hf⟩
  · exact Or.inl he
  rcases h.2 with hq | ⟨hq, hb, hg⟩
  · exact Or.inl (he.trans hq)
  · exact Or.inr ⟨he.trans hq, ha.trans hb, hf.trans hg⟩

/-- It is a matter of the signals and the send queue alone. -/
theorem Stays.of_sendQ {q : Qp} (hs : q'.signals = q.signals) (hq : q'.sendQ = q.sendQ) :
    Stays q q' := by
  refine ⟨hs, Or.inr ⟨congrArg SendQ.state hq, congrArg SendQ.attr hq, ?_⟩⟩
  have h1 : q'.requester.sending_swqe = q.requester.sending_swqe := congrArg SendQ.sending hq
  have h2 : q'.requester.waiting_swqe = q.requester.waiting_swqe := congrArg SendQ.waiting hq
  unfold Qp.Quiet
  rw [h1, h2]

theorem Keeps.stays {q : Qp} (h : Keeps q q') : Stays q q' := by
  rcases h.2 with hq | hq
  · exact Stays.of_sendQ h.1 hq
  · exact ⟨h.1, Or.inl hq⟩

theorem stays_failQp {q : Qp} (hs : q'.signals = q.signals) :
    Stays q (failQp now q') := ⟨(signals_failQp now q').trans hs, Or.inl (failQp_state now q')⟩

theorem stays_rescheduleQp : Stays q (pibUtilRescheduleQp now q) :=
  Stays.of_sendQ (signals_rescheduleQp now q) (sendQ_rescheduleQp now q)

theorem stays_resendWaiting : Stays q (resendWaiting q) := by
  refine ⟨rfl, Or.inr ⟨rfl, rfl, ?_⟩⟩
  simp [Qp.Quiet, resendWaiting, and_comm]

theorem stays_applyRnr (t : Nat) (q : Qp) : Stays q (applyRnr t q) := by
  unfold applyRnr
  split
  · exact Stays.refl q
  rename_i w ws hw
  split
  · refine ⟨rfl, Or.inr ⟨rfl, rfl, ?_⟩⟩
    simp [Qp.Quiet, hw]
  · exact Stays.refl q

/-- A response ends with the report of a drained send queue, or it raises
nothing. -/
theorem receiveResponse_ends :
    Stays n.qp (receiveResponse cfg now n p).qp ∨
      ∃ q, Follows n.qp q ∧ (receiveResponse cfg now n p).qp = reportDrained q := by
  have haccept : ∀ q : Qp, Follows n.qp q →
      ∃ q', Follows n.qp q' ∧
        (acceptResponse now (n.setQp q) (psnMask p.psn) p).qp = reportDrained q' := fun q hq =>
    ⟨_, hq.trans (follows_dispatchResponse now (n.setQp q) (psnMask p.psn) p), rfl⟩
  have hclear : Follows n.qp { n.qp with requester :=
      { n.qp.requester with nr_contig_requests := 0 } } := ⟨rfl, Or.inr ⟨rfl, rfl⟩⟩
  unfold receiveResponse
  split
  · exact Or.inl (Stays.refl _)
  dsimp only
  split
  · exact Or.inr (haccept _ hclear)
  split
  · exact Or.inr (haccept _ hclear)
  split
  · exact Or.inl (Stays.trans (Stays.trans (Stays.of_sendQ rfl rfl) (stays_resendWaiting _))
      (stays_applyRnr _ _))
  split
  · split
    · exact Or.inl (Stays.trans (Stays.of_sendQ rfl rfl) (stays_resendWaiting _))
    split
    · refine Or.inr (haccept _ (hclear.trans ?_))
      unfold setSendWqeToError
      split
      · exact ⟨rfl, Or.inr ⟨rfl, rfl⟩⟩
      · exact follows_setInFlight _ _ _ _
    · exact Or.inr (haccept _ hclear)
  · exact Or.inl (Stays.of_sendQ rfl rfl)

/-! ## The scheduler -/

/-- Something stays in flight, or the queue pair fails. -/
theorem stays_processSendWr
    (ws : List SendWqe) (hbusy : ¬n.qp.Quiet) : Stays n.qp (processSendWr cfg now n w ws).qp := by
  have hsteps : SendSteps (.schedule False) now n _ := schedSteps_processRcQpRequest cfg n w
  have hsig := hsteps.signals id
  have hside := hsteps.respSide id
  have hlist := list_processRcQpRequest cfg now n w
  unfold processSendWr
  split
  · exact Stays.refl _
  rename_i hl
  split
  · have hfree : ∀ (q : Qp) (w : SendWqe), (q.freeSendWqe w).state = q.state := fun _ _ => rfl
    rw [Node.setQp_qp]
    refine ⟨?_, Or.inl ?_⟩
    · rw [signals_freeSendWqe, signals_failQp, signals_setInFlight, signals_insertSendError]
    · rw [hfree, failQp_state]
  rename_i hst
  have hlist := hlist (not_not.mp hl) (not_not.mp hst)
  generalize pibProcessRcQpRequest cfg now n w = r at hsig hside hlist ⊢
  obtain ⟨n', w'⟩ := r
  dsimp only at hsig hside hlist ⊢
  have hstate : n'.qp.state = n.qp.state := congrArg RecvSide.state hside
  have hattr : n'.qp.attr = n.qp.attr := congrArg RecvSide.attr hside
  rcases hlist with hw | hw <;> rw [hw]
  · exact ⟨(signals_setInFlight _ _ _ _).trans hsig,
      Or.inr ⟨hstate, hattr, iff_of_false (fun h => nomatch h.1) hbusy⟩⟩
  refine ⟨(signals_setInFlight _ _ _ _).trans ((signals_setInFlight _ _ _ _).trans hsig),
    Or.inr ⟨hstate, hattr, iff_of_false (fun h => ?_) hbusy⟩⟩
  exact absurd h.2 (List.append_ne_nil_of_right_ne_nil _ (List.cons_ne_nil _ _))

theorem stays_processSendingHead : Stays n.qp (processSendingHead cfg now n).qp := by
  unfold processSendingHead
  split
  · exact Stays.refl _
  rename_i w ws hw
  split
  · exact Stays.refl _
  split
  · exact Stays.refl _
  split
  · exact Stays.refl _
  have hbusy : ¬(n.qp.setInFlight .sending (w.setSchedule now :: ws) 0).Quiet := fun h => nomatch h.1
  have hset : Stays n.qp (n.qp.setInFlight .sending (w.setSchedule now :: ws) 0) :=
    ⟨rfl, Or.inr ⟨rfl, rfl, iff_of_false hbusy fun h => nomatch hw.symm.trans h.1⟩⟩
  exact hset.trans (stays_processSendWr cfg now (n.setQp _) _ _ hbusy)

theorem stays_processRequester {n : Node} (hsqd : n.qp.state = .SQD)
    (hlocal : ∀ w ∈ n.qp.flight, w.local_only_request = false) :
    Stays n.qp (processRequester cfg now n).qp := by
  have h := processRequester_cases cfg now n
  generalize processRequester cfg now n = n', sendingTurn now n = o at h ⊢
  cases h with
  | idle => exact Stays.refl _
  | localHead _ hw hl =>
    refine nomatch (hlocal _ (List.mem_append_left _ ?_)).symm.trans hl
    rw [hw]
    exact List.mem_cons_self
  | turn _ _ ht =>
    refine Stays.trans ?_ (stays_processSendingHead cfg now _)
    cases ht with
    | next => exact Stays.refl _
    | expired hw =>
      exact ⟨rfl, Or.inr ⟨rfl, rfl, iff_of_false (fun h => nomatch h.1)
        fun h => nomatch hw.symm.trans h.2⟩⟩
    | new _ hq => exact absurd (hsqd.symm.trans (processNewSendWr_some hq).1) (by decide)

theorem follows_processOnQpScheduler : Follows n.qp (processOnQpScheduler cfg now n).qp := by
  refine (spares_processOnQpScheduler cfg now n).follows ?_
  have hgen := signals_of_sendSide (sendSide_generateAcknowledge n)
  obtain ⟨n', he, h⟩ := scheduler_cases cfg now n
  rw [he, Node.setQp_qp, signals_rescheduleQp]
  rcases h with h | ⟨-, rfl⟩
  · rw [h] at hgen
    exact hgen
  · exact (schedSteps_processRequester cfg now n).signals id

/-- In SQD without local requests the scheduler does not empty the lists. -/
theorem stays_processOnQpScheduler {n : Node} (hsqd : n.qp.state = .SQD)
    (hlocal : ∀ w ∈ n.qp.flight, w.local_only_request = false) :
    Stays n.qp (processOnQpScheduler cfg now n).qp := by
  obtain ⟨n', he, h⟩ := scheduler_cases cfg now n
  rw [he, Node.setQp_qp]
  refine Stays.trans ?_ (stays_rescheduleQp now _)
  rcases h with h | ⟨-, rfl⟩
  · have hgen := Stays.of_sendQ (signals_of_sendSide (sendSide_generateAcknowledge n))
      (sendQ_generateAcknowledge n)
    rw [h] at hgen
    exact hgen
  · exact stays_processRequester cfg now hsqd hlocal

/-! ## Posting -/

theorem stays_pibPostSend (copyFromUser : UserCopy) (now : Nat) (q : Qp)
    (wrs : List SendWr) : Stays q (pibPostSend cfg copyFromUser now q wrs).1 := by
  obtain ⟨q', ⟨_, _, _, _, rfl⟩, h | ⟨-, h⟩⟩ := pibPostSend_qp cfg copyFromUser now q wrs
  · rw [h]
    exact ⟨rfl, Or.inr ⟨rfl, rfl, Iff.rfl⟩⟩
  · rw [h]
    have hready : ∀ q : Qp, Stays q (getReadyToSend now q) := fun q =>
      Stays.of_sendQ (signals_getReadyToSend now q) (sendQ_getReadyToSend now q)
    exact Stays.trans ⟨rfl, Or.inr ⟨rfl, rfl, Iff.rfl⟩⟩ (hready _)

theorem stays_pibPostRecv (wrs : List RecvWr) : Stays q (pibPostRecv cfg q wrs).1 :=
  Stays.of_sendQ (signals_of_sendSide (sendSide_pibPostRecv cfg q wrs)) (sendQ_pibPostRecv cfg q wrs)

end pib
