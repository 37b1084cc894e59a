-- What the requester's work is made of: the single things that `receive_response`
-- and the requester's part of the scheduler can do to a queue pair and the memory
-- behind it. A property that each of these has is a property of every response
-- and of every turn.
import Pib.Turn

namespace pib

open Bytes

variable (cfg : Config) (n : Node) (w : SendWqe) (psn : Nat)

/-! ## The steps -/

/-- How far the steps may go: what they may make of the requester, which packets they may
leave in the send buffer, and whether they may report a drained send queue or fail. -/
structure Reach where
  requester : Requester → Requester → Prop
  packet : RcPacket → Prop
  drained : Prop
  fails : Prop

/-- A response starts nothing and does not count requests. The only packets are
notifications. -/
def Reach.response (drained : Prop) : Reach :=
  { requester := fun r r' => r'.submitted_swqe = r.submitted_swqe ∧
      r'.nr_contig_requests = r.nr_contig_requests
    packet := fun p => p.opcode = .CNP_SEND_NOTIFY
    drained
    fails := True }

def Reach.schedule (fails : Prop) : Reach :=
  { requester := fun _ _ => True, packet := fun _ => True, drained := False, fails }

/-- One step of the requester. -/
inductive SendStep (L : Reach) (now : Nat) : Node → Node → Prop
  | requester (n : Node) (r : Requester) (h : L.requester n.qp.requester r) :
      SendStep L now n (n.setQp { n.qp with requester := r })
  | report (n : Node) (wc : Wc) :
      SendStep L now n (n.setQp { n.qp with send_cq := n.qp.send_cq ++ [wc] })
  | crashes (n : Node) (crashes : List Crash) : SendStep L now n { n with crashes }
  | regions (n : Node) (pd : Pd) (mem : Mem) : SendStep L now n { n with pd, mem }
  | packet (n : Node) (p : RcPacket) (h : L.packet p) : SendStep L now n (n.transmit p)
  | fail (n : Node) (h : L.fails) : SendStep L now n (n.setQp (failQp now n.qp))
  | drained (n : Node) (h : L.drained) : SendStep L now n (n.setQp (reportDrained n.qp))

abbrev SendSteps (L : Reach) (now : Nat) : Node → Node → Prop :=
  Relation.ReflTransGen (SendStep L now)

theorem SendStep.inFlight {L : Reach} {now : Nat} (l : InFlight) (ws : List SendWqe)
    (d : Int) (h : L.requester n.qp.requester (n.qp.setInFlight l ws d).requester) :
    SendStep L now n (n.setQp (n.qp.setInFlight l ws d)) := by
  cases l <;> exact .requester n _ h

section Responses

variable {D : Prop} {now : Nat}

/-- In a response the lists in flight are replaced. -/
theorem respStep_inFlight (l : InFlight) (ws : List SendWqe) (d : Int) :
    SendStep (.response D) now n (n.setQp (n.qp.setInFlight l ws d)) :=
  .inFlight n l ws d (by cases l <;> exact ⟨rfl, rfl⟩)

theorem respStep_free :
    SendStep (.response D) now n (n.setQp (n.qp.freeSendWqe w)) := .requester n _ ⟨rfl, rfl⟩

theorem respStep_postpone :
    SendStep (.response D) now n (n.setQp (postponeLocalAckTimeout now n.qp)) :=
  .requester n _ ⟨rfl, rfl⟩

/-! ## Responses are made of them -/

theorem respSteps_completeSend : SendSteps (.response D) now n (completeSend n w) := by
  unfold completeSend
  split
  · split
    · exact .single (.crashes n _)
    · exact .single (.report n _)
  · exact .refl

theorem respSteps_processAcknowledge :
    SendSteps (.response D) now n (processAcknowledge n w psn).2.2 := by
  unfold processAcknowledge
  dsimp only
  split
  · exact .refl
  split
  · exact .refl
  split
  · exact .refl
  split
  · exact .refl
  · exact (respSteps_completeSend n w).tail (.requester _ _ ⟨rfl, rfl⟩)

theorem respSteps_ackLoop (l : InFlight) (psn : Nat) (ws : List SendWqe) :
    ∀ n : Node, SendSteps (.response D) now n (ackLoop l psn ws n).1 := by
  induction ws with
  | nil => exact fun _ => .refl
  | cons w ws ih =>
    intro n
    have h : SendSteps (.response D) now n _ := respSteps_processAcknowledge n w psn
    unfold ackLoop
    split <;> rename_i he <;> rw [he] at h
    · exact h.tail (respStep_inFlight _ l _ _)
    · exact ((h.tail (respStep_inFlight _ l _ _)).tail (respStep_free _ _)).trans (ih _)
    · exact h.tail (respStep_inFlight _ l _ _)
    · exact h

theorem respSteps_failSend : SendSteps (.response D) now n (n.setQp (failSend now n.qp w)) :=
  .tail (.tail (.single (.report n _)) (respStep_free _ w)) (.fail _ trivial)

theorem respSteps_receiveAckResponse :
    SendSteps (.response D) now n (receiveAckResponse now n psn) := by
  have hwaiting : SendSteps (.response D) now n _ :=
    respSteps_ackLoop .waiting psn n.qp.requester.waiting_swqe n
  unfold receiveAckResponse
  split <;> rename_i he <;> rw [he] at hwaiting
  · exact hwaiting.trans (respSteps_failSend _ _)
  · exact hwaiting.tail (respStep_postpone _)
  · rename_i n'
    have hsending := hwaiting.trans
      (respSteps_ackLoop .sending psn n'.qp.requester.sending_swqe n')
    split <;> rename_i he' <;> rw [he'] at hsending
    · exact hsending.trans (respSteps_failSend _ _)
    · exact hsending.tail (respStep_postpone _)

theorem respSteps_finishRdAtomic (l : InFlight) (i : Nat) (w : SendWqe) :
    SendSteps (.response D) now n (finishRdAtomic now n l i w) := by
  have h : SendSteps (.response D) now n _ := respSteps_completeSend n w
  have hpsn : ∀ n : Node, SendStep (.response D) now n
      (n.setQp (n.qp.decRequesterRdAtomic.setRequesterPsn w)) := fun n => .requester n _ ⟨rfl, rfl⟩
  unfold finishRdAtomic
  dsimp only
  generalize completeSend n w = n' at h ⊢
  have hcrash : SendSteps (.response D) now n
      (if n'.qp.decRequesterRdAtomic.requester.nr_rd_atomic < 0 then n'.crash .nrRdAtomic else n') := by
    split
    · exact h.tail (.crashes n' _)
    · exact h
  generalize (if n'.qp.decRequesterRdAtomic.requester.nr_rd_atomic < 0 then _ else n') = m at hcrash ⊢
  exact (((hcrash.tail (hpsn m)).tail (respStep_inFlight _ l _ _)).tail (respStep_free _ w)).tail
    (respStep_postpone _)

theorem respSteps_acceptReadResponse (l : InFlight) (i : Nat) (w : SendWqe) :
    SendSteps (.response D) now n (acceptReadResponse now n l i w) := by
  have hset : ∀ nr, SendStep (.response D) now n (n.setQp { n.qp with requester :=
      { n.qp.requester with nr_contig_read_acks := nr } }) := fun _ => .requester n _ ⟨rfl, rfl⟩
  have hcount : SendSteps (.response D) now n (countReadResponse n) := by
    unfold countReadResponse
    dsimp only
    split
    · exact .tail (.tail (.single (hset 0)) (.crashes _ _)) (.packet _ _ rfl)
    · exact .single (hset _)
  unfold acceptReadResponse
  dsimp only
  split
  · exact hcount.tail (respStep_inFlight _ l _ _)
  · exact hcount.trans (respSteps_finishRdAtomic _ l i w)

theorem respSteps_receiveRdmaReadResponse (buffer : List UInt8) :
    SendSteps (.response D) now n (receiveRdmaReadResponse now n psn buffer) := by
  unfold receiveRdmaReadResponse
  split
  · exact .refl
  split
  · exact .refl
  dsimp only
  split
  · exact .single (respStep_inFlight n _ _ _)
  split
  · exact .refl
  generalize storeReadResponse n _ buffer = r
  obtain ⟨status, mem, out⟩ := r
  have hmem : SendSteps (.response D) now n { n with mem } := .single (.regions n n.pd mem)
  dsimp only
  split
  · exact hmem.tail (respStep_inFlight _ _ _ _)
  · exact hmem.trans (respSteps_acceptReadResponse _ _ _ _)

theorem respSteps_receiveAtomicResponse (buffer : List UInt8) :
    SendSteps (.response D) now n (receiveAtomicResponse now n psn buffer) := by
  unfold receiveAtomicResponse
  split
  · exact .refl
  split
  · exact .refl
  split
  · exact .refl
  split
  · exact .single (respStep_inFlight n _ _ _)
  split
  · exact .refl
  generalize storeAtomicResponse n _ buffer = r
  obtain ⟨status, mem, out⟩ := r
  have hmem : SendSteps (.response D) now n { n with mem } := .single (.regions n n.pd mem)
  dsimp only
  split
  · exact hmem.tail (respStep_inFlight _ _ _ _)
  · exact hmem.trans (respSteps_finishRdAtomic _ _ _ _)

theorem respSteps_dispatchResponse (p : RcPacket) :
    SendSteps (.response D) now n (dispatchResponse now n psn p) := by
  unfold dispatchResponse
  split
  all_goals first
    | with_reducible exact respSteps_receiveAckResponse n psn
    | with_reducible exact respSteps_receiveRdmaReadResponse n psn _
    | with_reducible exact respSteps_receiveAtomicResponse n psn _
    | exact .single (.crashes n _)

end Responses

theorem respSteps_acceptResponse (now : Nat) (n : Node) (psn : Nat) (p : RcPacket) :
    SendSteps (.response True) now n (acceptResponse now n psn p) :=
  (respSteps_dispatchResponse n psn p).tail (.drained _ trivial)

/-- The counter of requests is cleared first, by all but the shortest responses. -/
theorem respSteps_receiveResponse (now : Nat) (n : Node) {p : RcPacket}
    (hlen : ¬p.buffer.length < 4) :
    SendSteps (.response True) now
      (n.setQp { n.qp with requester := { n.qp.requester with nr_contig_requests := 0 } })
      (receiveResponse cfg now n p) := by
  unfold receiveResponse
  rw [if_neg hlen]
  dsimp only
  generalize n.setQp { n.qp with requester := { n.qp.requester with nr_contig_requests := 0 } } = n
  have hresend : SendSteps (.response True) now n (n.setQp (resendWaiting n.qp)) :=
    .single (.requester n _ ⟨rfl, rfl⟩)
  split
  · exact respSteps_acceptResponse now n _ p
  split
  · exact respSteps_acceptResponse now n _ p
  split
  · refine hresend.trans ?_
    unfold applyRnr
    split
    · exact .refl
    split
    · exact .single (.requester _ _ ⟨rfl, rfl⟩)
    · exact .refl
  split
  · split
    · exact hresend
    split
    · refine .trans ?_ (respSteps_acceptResponse now (n.setQp (setSendWqeToError n.qp _ _)) _ p)
      unfold setSendWqeToError
      split
      · exact .refl
      · exact .single (respStep_inFlight n _ _ _)
    · exact respSteps_acceptResponse now n _ p
  · exact .refl

/-! ## Turns of the scheduler are made of them -/

section Scheduler

variable {F : Prop} {now : Nat}

theorem schedStep_inFlight (l : InFlight) (ws : List SendWqe) (d : Int) :
    SendStep (.schedule F) now n (n.setQp (n.qp.setInFlight l ws d)) := .inFlight n l ws d trivial

theorem schedSteps_localOnly :
    SendSteps (.schedule F) now n (pibProcessLocalOnlyRequest n w).1 := by
  unfold pibProcessLocalOnlyRequest
  split
  · exact .refl
  split
  · exact .single (.regions n _ n.mem)
  · exact .single (.regions n _ n.mem)
  · exact .single (.crashes n _)

theorem schedSteps_processRcQpRequest :
    SendSteps (.schedule F) now n (pibProcessRcQpRequest cfg now n w).1 := by
  have hlocal : SendSteps (.schedule F) now n _ := schedSteps_localOnly n w
  have hwritten : SendSteps (.schedule F) now n (n.written w) := by
    unfold Node.written
    split <;> exact .single (.crashes n _)
  have h := processRcQpRequest_cases cfg now n w
  generalize pibProcessRcQpRequest cfg now n w = r at h ⊢
  cases h with
  | ran _ _ he | failed _ _ he =>
    rw [he] at hlocal
    exact hlocal
  | later | exhausted => exact .refl
  | unbuilt => exact hwritten.tail (.requester _ _ trivial)
  | sent => exact (hwritten.tail (.packet _ _ trivial)).tail (.requester _ _ trivial)

theorem schedSteps_processSendWr (ws : List SendWqe) :
    SendSteps (.schedule True) now n (processSendWr cfg now n w ws) := by
  have h : SendSteps (.schedule True) now n _ := schedSteps_processRcQpRequest cfg n w
  unfold processSendWr
  split
  · exact .single (.crashes n _)
  split
  · exact .tail (.tail (.tail (.single (.report n _)) (schedStep_inFlight _ .sending ws _)) (.fail _ trivial))
      (.requester _ _ trivial)
  generalize pibProcessRcQpRequest cfg now n w = r at h ⊢
  obtain ⟨n', w'⟩ := r
  dsimp only at h ⊢
  split
  · exact h.tail (schedStep_inFlight _ .sending _ _)
  · exact (h.tail (schedStep_inFlight _ .sending _ _)).tail (schedStep_inFlight _ .waiting _ _)
  · exact (h.tail (schedStep_inFlight _ .sending _ _)).tail (.requester _ _ trivial)
  · exact h.tail (.crashes _ _)

theorem schedSteps_processSendingHead :
    SendSteps (.schedule True) now n (processSendingHead cfg now n) := by
  unfold processSendingHead
  split
  · exact .refl
  split
  · exact .refl
  split
  · exact .refl
  split
  · exact .refl
  · exact .trans (.single (schedStep_inFlight n .sending _ _)) (schedSteps_processSendWr cfg _ _ _)

theorem schedSteps_turn {m : Node} (h : GetsTurn now n m) : SendSteps (.schedule True) now n m := by
  cases h with
  | next => exact .refl
  | expired => exact .single (.requester n _ trivial)
  | new _ hq =>
    obtain ⟨-, w, ws, -, -, rfl⟩ := processNewSendWr_some hq
    exact .single (.requester n _ trivial)

theorem schedSteps_processLocalOnlyHead (ws : List SendWqe) :
    SendSteps (.schedule True) now n (processLocalOnlyHead cfg now n w ws) := by
  have hsettle : ∀ r : Node × SendWqe × Bool, SendSteps (.schedule True) now n r.1 →
      SendSteps (.schedule True) now n (settleLocal now ws r) := by
    rintro ⟨n', w', ok⟩ h
    cases ok
    · have hfail : SendSteps (.schedule True) now n (n'.setQp (failQp now
          ((n'.qp.setInFlight .waiting (w' :: ws) 0).insertSendError w'.wr_id w'.processing.status
            w'.opcode))) :=
        ((h.tail (schedStep_inFlight n' .waiting (w' :: ws) 0)).tail (.report _ _)).tail (.fail _ trivial)
      unfold settleLocal failLocal
      dsimp only
      generalize failQp now _ = q at hfail ⊢
      have hfree : SendStep (.schedule True) now (n'.setQp q) (n'.setQp (Qp.freeSendWqe { q with
          requester := { q.requester with
            free_swqe := q.requester.free_swqe.filter fun f => decide (f.trace_id ≠ w'.trace_id)
            nr_waiting_swqe := q.requester.nr_waiting_swqe - 1 } }
          { w' with processing := { w'.processing with list_type := .FREE } })) :=
        .requester (n'.setQp q) _ trivial
      exact hfail.tail hfree
    · exact (h.tail (schedStep_inFlight _ .waiting _ _)).tail (.requester _ _ trivial)
  unfold processLocalOnlyHead
  refine hsettle _ ?_
  split
  · exact .refl
  · exact schedSteps_localOnly n w

end Scheduler

theorem schedSteps_processRequester (now : Nat) (n : Node) :
    SendSteps (.schedule True) now n (processRequester cfg now n) := by
  have h := processRequester_cases cfg now n
  generalize processRequester cfg now n = n', sendingTurn now n = o at h ⊢
  cases h with
  | idle => exact .refl
  | localHead => exact schedSteps_processLocalOnlyHead cfg n _ _
  | turn _ _ ht => exact (schedSteps_turn n ht).trans (schedSteps_processSendingHead cfg _)

/-! ## Posting -/

/-- A post touches the submitted and the free elements and the completions. -/
theorem postSendLoop_qp (copyFromUser : UserCopy)
    (wrs : List SendWr) : ∀ (q : Qp) (total_length : Nat),
    ∃ send_cq free_swqe submitted_swqe nr_submitted_swqe,
      (postSendLoop cfg copyFromUser q total_length wrs).1 = { q with send_cq, requester :=
        { q.requester with free_swqe, submitted_swqe, nr_submitted_swqe } } := by
  induction wrs with
  | nil => exact fun _ _ => ⟨_, _, _, _, rfl⟩
  | cons wr wrs ih =>
    intro q total_length
    have h : ∃ send_cq free_swqe submitted_swqe nr_submitted_swqe,
        (postSendWr cfg copyFromUser q total_length wr).1 = { q with send_cq, requester :=
          { q.requester with free_swqe, submitted_swqe, nr_submitted_swqe } } := by
      unfold postSendWr
      split
      · exact ⟨_, _, _, _, rfl⟩
      split
      · exact ⟨_, _, _, _, rfl⟩
      dsimp only
      split
      · exact ⟨_, _, _, _, rfl⟩
      split
      · exact ⟨_, _, _, _, rfl⟩
      split <;> exact ⟨_, _, _, _, rfl⟩
    unfold postSendLoop
    split <;> rename_i he <;> rw [he] at h
    · exact h
    · rename_i q' total_length'
      obtain ⟨_, _, _, _, h : q' = _⟩ := h
      obtain ⟨_, _, _, _, h'⟩ := ih q' total_length'
      rw [h', h]
      exact ⟨_, _, _, _, rfl⟩

/-- In RTS the queue pair is scheduled after that, and the counters are cleared. -/
theorem pibPostSend_qp (copyFromUser : UserCopy) (now : Nat)
    (q : Qp) (wrs : List SendWr) :
    ∃ q', (∃ send_cq free_swqe submitted_swqe nr_submitted_swqe, q' = { q with send_cq, requester :=
        { q.requester with free_swqe, submitted_swqe, nr_submitted_swqe } }) ∧
      ((pibPostSend cfg copyFromUser now q wrs).1 = q' ∨
        q.state = .RTS ∧ (pibPostSend cfg copyFromUser now q wrs).1 = getReadyToSend now q') := by
  unfold pibPostSend
  split
  · exact ⟨q, ⟨_, _, _, _, rfl⟩, Or.inl rfl⟩
  rename_i wr wrs
  refine ⟨_, postSendLoop_qp cfg copyFromUser (wr :: wrs) q 0, ?_⟩
  dsimp only
  split
  · exact Or.inr ⟨‹_›, rfl⟩
  · exact Or.inl rfl

end pib
