-- What an iteration of the scheduler comes down to: an acknowledge, a local request,
-- or the turn of the first sending element and what `pib_process_rc_qp_request`
-- makes of it. The ways through the code are told apart here, once for all laws.
import Pib.Thread

namespace pib

open Bytes

variable (cfg : Config) (now : Nat) {n m : Node} {q q' : Qp} {w : SendWqe}

/-! ## The packet of a request -/

/-- Copying to and from the registered memory of a queue pair has its own statuses. -/
theorem status_mrCopyData (pd : Pd) (sges : List Sge) (mem : Mem) (buffer : List UInt8)
    (offset size access_flags : Nat) (direction : MrDirection) :
    (pibUtilMrCopyData pd sges mem buffer offset size access_flags direction).1 ≠
      .RNR_RETRY_EXC_ERR := by
  have hloop : ∀ (sges : List Sge) (offset size : Nat) (mem : Mem) (buffer : List UInt8),
      (copySges pd access_flags direction sges offset size mem buffer).1 ≠ .RNR_RETRY_EXC_ERR := by
    intro sges
    induction sges with
    | nil => exact fun _ _ _ _ => nofun
    | cons sge sges ih =>
      intro offset size mem buffer
      unfold copySges
      split
      · exact nofun
      split
      · exact nofun
      dsimp only
      split
      · exact ih _ _ _ _
      split
      · split
        · exact nofun
        · exact ih _ _ _ _
      split
      · exact nofun
      · exact ih _ _ _ _
  unfold pibUtilMrCopyData
  split
  · exact nofun
  · exact hloop _ _ _ _ _

/-- The packet is the next one of this element. -/
def IsNextPacket (p : RcPacket) (w : SendWqe) : Prop :=
  p.psn = nextPsn w ∧ requestOpcode w = some p.opcode

/-- A request yields the next packet of the element, or an error that does not come
from the responder. -/
inductive Built (w : SendWqe) : Request → Prop
  | packet {p : RcPacket} (hp : IsNextPacket p w) : Built w (.SUCCESS, some p)
  | error {status : WcStatus} (hst : status ≠ .SUCCESS) (hrnr : status ≠ .RNR_RETRY_EXC_ERR) :
      Built w (status, none)

theorem built_buildRequest (n : Node) (w : SendWqe) : Built w (buildRequest n w) := by
  have hgather : ∀ mr_offset payload_size,
      (gatherPayload n w mr_offset payload_size).1 ≠ .RNR_RETRY_EXC_ERR := by
    intro mr_offset payload_size
    unfold gatherPayload
    split
    · exact nofun
    split
    · exact nofun
    · exact status_mrCopyData _ _ _ _ _ _ _ _
  have hdata : ∀ opcode, requestOpcode w = some opcode →
      Built w (processSendOrRdmaWriteRequest n w opcode) := by
    intro opcode hop
    unfold processSendOrRdmaWriteRequest
    dsimp only
    split
    · exact .error nofun nofun
    split
    · exact .error ‹_› (hgather _ _)
    · exact .packet ⟨rfl, hop⟩
  unfold buildRequest
  cases ho : w.opcode
  case RDMA_READ =>
    dsimp only [processRdmaReadRequest]
    split
    · exact .error nofun nofun
    · exact .packet ⟨rfl, by rw [requestOpcode, ho]⟩
  case ATOMIC_CMP_AND_SWP => exact .packet ⟨rfl, by rw [requestOpcode, ho]⟩
  case ATOMIC_FETCH_AND_ADD => exact .packet ⟨rfl, by rw [requestOpcode, ho]⟩
  all_goals
    dsimp only
    split
    · rename_i opcode hop
      exact hdata opcode (by rw [requestOpcode, ho, ← hop])
    · exact .error nofun nofun

/-! ## `pib_process_rc_qp_request` -/

/-- The headers of a request are written, and the data that is inline. -/
def Node.written (n : Node) (w : SendWqe) : Node :=
  if inlineOverrun n.headers w then n.headers.crash .inlineOverrun else n.headers

@[simp] theorem Node.written_qp (n : Node) (w : SendWqe) : (n.written w).qp = n.qp := by
  unfold written
  split <;> rfl

@[simp] theorem Node.written_send_buffer (n : Node) (w : SendWqe) :
    (n.written w).send_buffer = n.send_buffer := by
  unfold written
  split <;> rfl

/-- What `pib_process_rc_qp_request` makes of an element. -/
inductive RcRequest (cfg : Config) (now : Nat) (n : Node) (w : SendWqe) : Node × SendWqe → Prop
  | ran {n' : Node} {w' : SendWqe} (hl : w.local_only_request = true)
      (hr : cfg.relaxed_invalidation_ordering = true)
      (h : pibProcessLocalOnlyRequest n w = (n', w', true)) :
      RcRequest cfg now n w (n', w'.startWaiting now n'.qp)
  | failed {n' : Node} {w' : SendWqe} (hl : w.local_only_request = true)
      (hr : cfg.relaxed_invalidation_ordering = true)
      (h : pibProcessLocalOnlyRequest n w = (n', w', false)) : RcRequest cfg now n w (n', w')
  | later (hl : w.local_only_request = true) (hr : cfg.relaxed_invalidation_ordering = false) :
      RcRequest cfg now n w (n, w.startWaiting now n.qp)
  | exhausted {status : WcStatus} (hl : w.local_only_request = false)
      (h : w.processing.retry_cnt < 0 ∧ status = .RETRY_EXC_ERR ∨
        w.processing.rnr_retry < 0 ∧ status = .RNR_RETRY_EXC_ERR) :
      RcRequest cfg now n w (n, w.setStatus status)
  | unbuilt {status : WcStatus} (hl : w.local_only_request = false)
      (hretry : ¬(w.processing.retry_cnt < 0 ∨ w.processing.rnr_retry < 0))
      (hb : buildRequest n w = (status, none)) (hst : status ≠ .SUCCESS)
      (hrnr : status ≠ .RNR_RETRY_EXC_ERR) :
      RcRequest cfg now n w
        ((n.written w).setQp (countRequest (n.written w).qp w false), w.setStatus status)
  | sent {p : RcPacket} {w' : SendWqe} (hl : w.local_only_request = false)
      (hretry : ¬(w.processing.retry_cnt < 0 ∨ w.processing.rnr_retry < 0))
      (hb : buildRequest n w = (.SUCCESS, some p)) (hp : IsNextPacket p w)
      (hw : w.opcode = .RDMA_READ ∧ w' = w.startWaiting now n.qp ∨
        w.opcode ≠ .RDMA_READ ∧ ∃ v : SendWqe, v = { w with processing := { w.processing with
            sent_packets := u32 (w.processing.sent_packets + 1) } } ∧
          (v.processing.sent_packets < w.processing.all_packets ∧ w' = v ∨
            w.processing.all_packets ≤ v.processing.sent_packets ∧ w' = v.startWaiting now n.qp)) :
      RcRequest cfg now n w
        (((n.written w).transmit p).setQp (countRequest (n.written w).qp w true), w')

theorem processRcQpRequest_cases (n : Node) (w : SendWqe) :
    RcRequest cfg now n w (pibProcessRcQpRequest cfg now n w) := by
  unfold pibProcessRcQpRequest
  split
  · rename_i hl
    split
    · rename_i hr
      rcases h : pibProcessLocalOnlyRequest n w with ⟨n', w', _ | _⟩
      · exact .failed hl hr h
      · exact .ran hl hr h
    · rename_i hr
      exact .later hl (by simpa using hr)
  rename_i hl
  have hl : w.local_only_request = false := by simpa using hl
  split
  · exact .exhausted hl (Or.inl ⟨‹_›, rfl⟩)
  rename_i hretry
  split
  · exact .exhausted hl (Or.inr ⟨‹_›, rfl⟩)
  rename_i hrnr
  have hretry : ¬(w.processing.retry_cnt < 0 ∨ w.processing.rnr_retry < 0) :=
    not_or.mpr ⟨hretry, hrnr⟩
  have hsame : (n.written w).pd = n.pd ∧ (n.written w).mem = n.mem := by
    unfold Node.written
    split <;> exact ⟨rfl, rfl⟩
  have hbuild : buildRequest (n.written w) w = buildRequest n w := by
    simp only [buildRequest, processRdmaReadRequest, processSendOrRdmaWriteRequest, gatherPayload,
      Node.written_qp, hsame.1, hsame.2]
  have hqp := Node.written_qp n w
  have hbuilt := built_buildRequest n w
  unfold sendRequest
  dsimp only
  generalize hm : (if inlineOverrun n.headers w = true then _ else n.headers) = m
  obtain rfl : n.written w = m := hm
  rw [hbuild]
  rcases hb : buildRequest n w with ⟨status, packet⟩
  rw [hb] at hbuilt
  cases hbuilt with
  | error hst hrnr =>
    split
    · rename_i heq
      exact absurd (Prod.mk.inj heq).1 hst
    rename_i heq
    obtain ⟨rfl, -⟩ := Prod.mk.inj heq
    exact .unbuilt hl hretry hb hst hrnr
  | packet hp =>
    have hwait : ∀ v : SendWqe, v.startWaiting now (countRequest (n.written w).qp w true) =
        v.startWaiting now n.qp := fun v => by rw [hqp]; rfl
    dsimp only [Node.setQp_qp]
    split
    · exact .sent hl hretry hb hp (Or.inl ⟨‹_›, hwait w⟩)
    rename_i hop
    split
    · exact .sent hl hretry hb hp (Or.inr ⟨hop, _, rfl, Or.inl ⟨‹_›, rfl⟩⟩)
    · exact .sent hl hretry hb hp (Or.inr ⟨hop, _, rfl, Or.inr ⟨not_lt.mp ‹_›, hwait _⟩⟩)

/-! ## Turns -/

theorem processNewSendWr_some {now : Nat} (h : processNewSendWr now q = some q') :
    q.state = .RTS ∧ ∃ w ws, q.requester.submitted_swqe = w :: ws ∧
      mustWait q.requester w = false ∧ q' = { q with requester := { q.requester with
        nr_rd_atomic := if pibIsWrOpcodeRdAtomic w.opcode then q.requester.nr_rd_atomic + 1
          else q.requester.nr_rd_atomic
        submitted_swqe := ws, nr_submitted_swqe := q.requester.nr_submitted_swqe - 1
        sending_swqe := q.requester.sending_swqe ++ [startSending now q w]
        nr_sending_swqe := q.requester.nr_sending_swqe + 1
        expected_psn := u32 (q.requester.expected_psn +
          pibGetNumOfPackets q.qp_type q.attr.path_mtu w.total_length) } } := by
  unfold processNewSendWr at h
  split at h
  · cases h
  rename_i hst
  split at h
  · cases h
  rename_i w ws hw
  split at h
  · cases h
  rename_i hwait
  exact ⟨not_not.mp hst, w, ws, hw, by simpa using hwait, (Option.some.inj h).symm⟩

/-- The scheduler gets to `first_sending_wsqe` with this node. -/
def firstSending (now : Nat) (n : Node) : Option Node :=
  if n.qp.state ≠ .RTS ∧ n.qp.state ≠ .SQD then none
  else
    match n.qp.requester.waiting_swqe with
    | [] => some n
    | w :: ws =>
      if w.local_only_request then none
      else if now < w.processing.local_ack_time then some n
      else some (n.setQp (expireTimer now n.qp w ws))

/-- The node whose first sending element is up for `process_send_wr`. -/
def sendingTurn (now : Nat) (n : Node) : Option Node :=
  (firstSending now n).bind fun n =>
    if n.qp.requester.sending_swqe = [] then (processNewSendWr now n.qp).map n.setQp else some n

/-- The ways in which an element gets its turn: it is being sent, the timer of those
that wait before it has run out, or it is new. -/
inductive GetsTurn (now : Nat) (n : Node) : Node → Prop
  | next (hs : n.qp.requester.sending_swqe ≠ []) : GetsTurn now n n
  | expired {w : SendWqe} {ws : List SendWqe} (hw : n.qp.requester.waiting_swqe = w :: ws) :
      GetsTurn now n (n.setQp (expireTimer now n.qp w ws))
  | new {q : Qp} (hs : n.qp.requester.sending_swqe = []) (hq : processNewSendWr now n.qp = some q) :
      GetsTurn now n (n.setQp q)

/-- The requester's part of an iteration, with the node of the turn. -/
inductive Requests (cfg : Config) (now : Nat) (n : Node) : Option Node → Node → Prop
  | idle : Requests cfg now n none n
  | localHead {w : SendWqe} {ws : List SendWqe} (hlive : n.qp.state = .RTS ∨ n.qp.state = .SQD)
      (hw : n.qp.requester.waiting_swqe = w :: ws) (hl : w.local_only_request = true) :
      Requests cfg now n none (processLocalOnlyHead cfg now n w ws)
  | turn {m : Node} (hlive : n.qp.state = .RTS ∨ n.qp.state = .SQD)
      (hl : ∀ w ws, n.qp.requester.waiting_swqe = w :: ws → w.local_only_request = false)
      (ht : GetsTurn now n m) : Requests cfg now n (some m) (processSendingHead cfg now m)

theorem processRequester_cases (n : Node) :
    Requests cfg now n (sendingTurn now n) (processRequester cfg now n) := by
  unfold sendingTurn firstSending processRequester
  split
  · exact .idle
  rename_i hst
  have hlive : n.qp.state = .RTS ∨ n.qp.state = .SQD := by tauto
  have hsending (hl : ∀ w ws, n.qp.requester.waiting_swqe = w :: ws → w.local_only_request = false) :
      Requests cfg now n (if n.qp.requester.sending_swqe = [] then
        (processNewSendWr now n.qp).map n.setQp else some n) (processSending cfg now n) := by
    unfold processSending
    split
    · rename_i hs
      rcases hq : processNewSendWr now n.qp with _ | q
      · exact .idle
      · exact .turn hlive hl (.new hs hq)
    · exact .turn hlive hl (.next ‹_›)
  rcases hw : n.qp.requester.waiting_swqe with _ | ⟨w, ws⟩
  · exact hsending (by simp [hw])
  dsimp only
  by_cases hlocal : w.local_only_request = true
  · rw [if_pos hlocal, if_pos hlocal]
    exact .localHead hlive hw hlocal
  rw [if_neg hlocal, if_neg hlocal]
  have hl : ∀ v vs, n.qp.requester.waiting_swqe = v :: vs → v.local_only_request = false := by
    intro v vs hv
    obtain ⟨rfl, rfl⟩ := List.cons.inj (hw.symm.trans hv)
    simpa using hlocal
  by_cases ht : now < w.processing.local_ack_time
  · rw [if_pos ht, if_pos ht]
    exact hsending hl
  · rw [if_neg ht, if_neg ht]
    exact .turn hlive hl (.expired hw)

variable {now}

theorem turn_of_some (h : sendingTurn now n = some m) :
    (n.qp.state = .RTS ∨ n.qp.state = .SQD) ∧ GetsTurn now n m := by
  have hr := processRequester_cases {} now n
  rw [h] at hr
  generalize processRequester {} now n = n' at hr
  cases hr with
  | turn hlive _ ht => exact ⟨hlive, ht⟩

theorem processRequester_of_turn (h : sendingTurn now n = some m) :
    processRequester cfg now n = processSendingHead cfg now m := by
  have hr := processRequester_cases cfg now n
  rw [h] at hr
  generalize processRequester cfg now n = n' at hr ⊢
  cases hr with
  | turn => rfl

theorem turn_send_buffer (h : sendingTurn now n = some m) : m.send_buffer = n.send_buffer := by
  cases (turn_of_some h).2 <;> rfl

/-! ## Iterations -/

theorem generateAcknowledge_false (h : (pibGenerateRcQpAcknowledge n).2 = false) :
    (pibGenerateRcQpAcknowledge n).1 = n := by
  unfold pibGenerateRcQpAcknowledge at h ⊢
  split
  · rfl
  split
  · rfl
  rename_i hok _ ack acks hacks
  rw [if_neg hok, hacks] at h
  split
  · rename_i ht
    simp [ht] at h
  · rename_i ht
    simp [ht] at h
  rename_i ht
  split
  · rfl
  rename_i hc
  simp only [ht, if_neg hc] at h
  split at h
  · simp at h
  · split at h <;> simp at h

/-- An iteration generates an acknowledge or serves the requester. -/
theorem scheduler_cases (now : Nat) (n : Node) :
    ∃ n', processOnQpScheduler cfg now n = n'.setQp (pibUtilRescheduleQp now n'.qp) ∧
      (pibGenerateRcQpAcknowledge n = (n', true) ∨
        pibGenerateRcQpAcknowledge n = (n, false) ∧ n' = processRequester cfg now n) := by
  have hf := generateAcknowledge_false (n := n)
  unfold processOnQpScheduler
  generalize pibGenerateRcQpAcknowledge n = r at hf ⊢
  obtain ⟨n', b⟩ := r
  cases b with
  | true => exact ⟨n', rfl, Or.inl rfl⟩
  | false =>
    obtain rfl : n' = n := hf rfl
    exact ⟨_, rfl, Or.inr ⟨rfl, rfl⟩⟩

end pib
