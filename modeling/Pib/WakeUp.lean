-- The scheduler's decision against the scheduler's work: when an iteration
-- of `process_on_qp_scheduler` would do something for a queue pair, and when
-- `pib_util_reschedule_qp` has put it on the tree for that time.
import Pib.Timer
import Pib.UdQueue

namespace pib

open Bytes

variable (cfg : Config) {now : Nat} {q : Qp} {n : Node}

/-! ## The decision -/

/-- A submitted element can be taken up, as far as the decision looks at it. -/
def Startable (q : Qp) : Prop :=
  q.state = .RTS ∧ ∃ w ws, q.requester.submitted_swqe = w :: ws ∧
    ¬(pibIsWrOpcodeRdAtomic w.opcode = true ∧
      (q.requester.max_rd_atomic : Int) ≤ q.requester.nr_rd_atomic)

/-- The first sending element holds everything behind it up. -/
def HeldUp (q : Qp) : Prop :=
  ∃ w ws, q.requester.sending_swqe = w :: ws ∧
    ((w.processing.status ≠ .SUCCESS ∧ q.requester.waiting_swqe ≠ []) ∨
      PIB_MAX_CONTIG_REQUESTS < q.requester.nr_contig_requests)

/-- The requester has something to do at this time, as the decision sees it. -/
def RequesterDue (now : Nat) (q : Qp) : Prop :=
  (q.state = .RTS ∨ q.state = .SQD) ∧
    ((∃ w ws, q.requester.waiting_swqe = w :: ws ∧ w.processing.local_ack_time ≤ now) ∨
      (¬HeldUp q ∧ (Startable q ∨
        ∃ w ws, q.requester.sending_swqe = w :: ws ∧ w.processing.schedule_time ≤ now)))

/-- Acknowledges wait, and the decision lets them go. -/
def AcksDue (q : Qp) : Prop := pibIsRecvOk q.state = true ∧ AcksReady q

/-- The queue pair is to run at a time that has come. -/
def Due (now : Nat) (q : Qp) : Prop := ∃ t, scheduleTime now q = some t ∧ t ≤ now

theorem skipTime_due {t : Nat} : (∃ t', skipTime now t = some t' ∧ t' ≤ now) ↔ t ≤ now := by
  have hpos : 0 < PIB_SCHED_TIMEOUT := by decide
  unfold skipTime
  split
  · simp
    omega
  · simp

theorem waitingTime_due : waitingTime now q ≤ now ↔
    ∃ w ws, q.requester.waiting_swqe = w :: ws ∧ w.processing.local_ack_time ≤ now := by
  have hpos : 0 < PIB_SCHED_TIMEOUT := by decide
  unfold waitingTime
  rcases hw : q.requester.waiting_swqe with _ | ⟨w, ws⟩
  · simp
    omega
  simp only [List.cons.injEq]
  split
  · exact ⟨fun h => ⟨w, ws, ⟨rfl, rfl⟩, h⟩, fun ⟨_, _, ⟨he, _⟩, h⟩ => he ▸ h⟩
  refine ⟨fun h => by omega, fun ⟨_, _, ⟨he, _⟩, h⟩ => ?_⟩
  subst he
  omega

theorem submittedTime_due {t : Nat} :
    (∃ t', submittedTime now q t = some t' ∧ t' ≤ now) ↔ Startable q ∨ t ≤ now := by
  unfold submittedTime Startable
  by_cases hst : q.state = .RTS
  · rw [if_pos hst]
    rcases hs : q.requester.submitted_swqe with _ | ⟨w, ws⟩
    · simp only [skipTime_due, hst, true_and]
      simp
    dsimp only
    split
    · rename_i hfull
      rw [skipTime_due]
      refine ⟨Or.inr, ?_⟩
      rintro (⟨-, w', ws', he, hn⟩ | h)
      · obtain ⟨rfl, rfl⟩ := List.cons.inj he
        exact absurd hfull hn
      · exact h
    · rename_i hroom
      rw [skipTime_due]
      exact ⟨fun _ => Or.inl ⟨hst, w, ws, rfl, hroom⟩, fun _ => le_refl now⟩
  · rw [if_neg hst, skipTime_due]
    simp [hst]

/-- The queue pair is due exactly if it has acknowledges that are not put off,
or the requester is due. -/
theorem due_iff (now : Nat) (q : Qp) :
    Due now q ↔ (q.qp_type = .RC ∧ AcksDue q) ∨ RequesterDue now q := by
  unfold Due scheduleTime
  by_cases hacks : q.qp_type = .RC ∧ AcksDue q
  · rw [if_pos ⟨hacks.1, hacks.2.1, hacks.2.2⟩, skipTime_due]
    exact ⟨fun _ => Or.inl hacks, fun _ => le_refl now⟩
  rw [if_neg fun h => hacks ⟨h.1, h.2.1, h.2.2⟩]
  by_cases hst : q.state ≠ .RTS ∧ q.state ≠ .SQD
  · rw [if_pos hst]
    simp [hacks, RequesterDue, hst.1, hst.2]
  rw [if_neg hst]
  have hlive : q.state = .RTS ∨ q.state = .SQD := by tauto
  simp only [RequesterDue, hacks, hlive, true_and, false_or]
  rw [← waitingTime_due]
  rcases hs : q.requester.sending_swqe with _ | ⟨w, ws⟩
  · have hnot : ¬HeldUp q := by
      rintro ⟨w, ws, he, -⟩
      rw [hs] at he
      cases he
    dsimp only
    rw [submittedTime_due]
    simp [hnot, or_comm]
  · dsimp only
    by_cases herr : w.processing.status ≠ .SUCCESS ∧ q.requester.waiting_swqe ≠ []
    · rw [if_pos herr, skipTime_due]
      have hheld : HeldUp q := ⟨w, ws, hs, Or.inl herr⟩
      simp [hheld]
    rw [if_neg herr]
    by_cases hmany : PIB_MAX_CONTIG_REQUESTS < q.requester.nr_contig_requests
    · rw [if_pos hmany, skipTime_due]
      have hheld : HeldUp q := ⟨w, ws, hs, Or.inr hmany⟩
      simp [hheld]
    rw [if_neg hmany, submittedTime_due]
    have hnot : ¬HeldUp q := by
      rintro ⟨w', ws', he, hb⟩
      rw [hs] at he
      obtain ⟨rfl, rfl⟩ := List.cons.inj he
      exact hb.elim herr hmany
    simp only [hnot, not_false_eq_true, true_and]
    split
    · rename_i hlt
      constructor
      · rintro (h | h)
        · exact Or.inr (Or.inl h)
        · exact Or.inr (Or.inr ⟨w, ws, rfl, h⟩)
      · rintro (h | h | ⟨w', ws', he, h⟩)
        · exact Or.inr (by omega)
        · exact Or.inl h
        · obtain ⟨rfl, rfl⟩ := List.cons.inj he
          exact Or.inr h
    · rename_i hge
      constructor
      · rintro (h | h)
        · exact Or.inr (Or.inl h)
        · exact Or.inl h
      · rintro (h | h | ⟨w', ws', he, h⟩)
        · exact Or.inr h
        · exact Or.inl h
        · obtain ⟨rfl, rfl⟩ := List.cons.inj he
          exact Or.inr (by omega)

/-- The decision as it stands on the queue pair. -/
theorem reschedule_due (now : Nat) (q : Qp) :
    ((pibUtilRescheduleQp now q).sched_on = true ∧ (pibUtilRescheduleQp now q).sched_time ≤ now) ↔
      Due now q := by
  unfold pibUtilRescheduleQp Due
  split <;> rename_i h <;> simp [h]

/-- A second decision at the same time is the first. -/
theorem reschedule_twice (now : Nat) (q : Qp) :
    pibUtilRescheduleQp now (pibUtilRescheduleQp now q) = pibUtilRescheduleQp now q := by
  have h : scheduleTime now (pibUtilRescheduleQp now q) = scheduleTime now q := by
    unfold pibUtilRescheduleQp
    split <;> rfl
  rw [pibUtilRescheduleQp, h]
  unfold pibUtilRescheduleQp
  split <;> rfl

/-! ## The work -/

/-- One iteration of the scheduler changes something, the record of crash sites
apart. -/
def Works (cfg : Config) (now : Nat) (n : Node) : Prop :=
  { processOnQpScheduler cfg now n with crashes := n.crashes } ≠ n

/-- The data of a read response can be copied. -/
def ReadCopies (n : Node) (ack : Ack) : Prop :=
  (pibUtilMrCopyDataWithRkey n.pd ack.rkey n.mem [] (u64 (ack.vaddress + ack.offset))
    (readDataSize n.qp ack) IB_ACCESS_REMOTE_READ .COPY_FROM).1 = .SUCCESS

/-- The first acknowledge goes out, though the count of read responses keeps
the queue pair off the tree: the count concerns read responses only, and the
scheduler lets one more of them go. -/
def OverlookedAck (n : Node) : Prop :=
  pibIsRecvOk n.qp.state = true ∧
    PIB_MAX_CONTIG_READ_ACKS ≤ n.qp.responder.nr_contig_read_acks ∧
    ∃ ack acks, n.qp.responder.acks = ack :: acks ∧
      (ack.type ≠ .RDMA_READ ∨
        (n.qp.responder.nr_contig_read_acks = PIB_MAX_CONTIG_READ_ACKS ∧
          (ReadCopies n ack ∨ ack.size ≤ ack.offset)))

/-- The first waiting element is a local request, and no acknowledge comes
before it. The decision looks at its timer only. -/
def OverlookedLocal (n : Node) : Prop :=
  (n.qp.state = .RTS ∨ n.qp.state = .SQD) ∧
    (n.qp.responder.acks = [] ∨
      PIB_MAX_CONTIG_READ_ACKS < n.qp.responder.nr_contig_read_acks ∧
        ∃ ack acks, n.qp.responder.acks = ack :: acks ∧ ack.type = .RDMA_READ) ∧
    ∃ w ws, n.qp.requester.waiting_swqe = w :: ws ∧ w.local_only_request = true

/-- The work that the decision does not see. -/
def Overlooked (n : Node) : Prop := OverlookedAck n ∨ OverlookedLocal n

/-- Nothing changes but the record of crash sites. -/
def Unchanged (n n' : Node) : Prop := { n' with crashes := n.crashes } = n

theorem generate_failed {ack : Ack} {acks : List Ack} (h : ¬ReadCopies n ack) :
    generateRdmaReadResponse n ack acks = n.headers := by
  unfold ReadCopies at h
  unfold generateRdmaReadResponse
  split
  · rename_i heq
    rw [heq] at h
    exact absurd rfl h
  · rfl

theorem generate_copied {ack : Ack} (h : ReadCopies n ack) (acks : List Ack) :
    ∃ p, generateRdmaReadResponse n ack acks =
      (n.headers.transmit p).setQp (advanceRead n.qp ack acks (readDataSize n.qp ack)) := by
  unfold ReadCopies at h
  unfold generateRdmaReadResponse
  split
  · exact ⟨_, rfl⟩
  rename_i hne
  generalize pibUtilMrCopyDataWithRkey .. = x at h hne
  obtain ⟨st, mem, out⟩ := x
  exact absurd (show (st, mem, out) = (.SUCCESS, mem, out) by rw [← h]) (hne mem out)

/-- When no acknowledge is due or overlooked, generating one does nothing, and
lets the requester go on only if it does nothing at all. -/
theorem generate_idle (hdue : ¬AcksDue n.qp) (hover : ¬OverlookedAck n) :
    Unchanged n (pibGenerateRcQpAcknowledge n).1 ∧
      ((pibGenerateRcQpAcknowledge n).2 = false → pibGenerateRcQpAcknowledge n = (n, false)) := by
  unfold pibGenerateRcQpAcknowledge
  by_cases hok : pibIsRecvOk n.qp.state = false
  · rw [if_pos hok]
    exact ⟨rfl, fun _ => rfl⟩
  rw [if_neg hok]
  have hok : pibIsRecvOk n.qp.state = true := by simpa using hok
  rcases hacks : n.qp.responder.acks with _ | ⟨ack, acks⟩
  · exact ⟨rfl, fun _ => rfl⟩
  have hmany : PIB_MAX_CONTIG_READ_ACKS ≤ n.qp.responder.nr_contig_read_acks := by
    by_contra hlt
    exact hdue ⟨hok, by simp [hacks], by omega⟩
  have hread : ack.type = .RDMA_READ := by
    by_contra hne
    exact hover ⟨hok, hmany, ack, acks, hacks, Or.inl hne⟩
  dsimp only
  rw [hread]
  dsimp only
  by_cases hlt : PIB_MAX_CONTIG_READ_ACKS < n.qp.responder.nr_contig_read_acks
  · rw [if_pos hlt]
    exact ⟨rfl, fun _ => rfl⟩
  rw [if_neg hlt]
  have hfull : n.qp.responder.nr_contig_read_acks = PIB_MAX_CONTIG_READ_ACKS := by omega
  have hstuck : ¬(ReadCopies n ack ∨ ack.size ≤ ack.offset) := fun h =>
    hover ⟨hok, hmany, ack, acks, hacks, Or.inr ⟨hfull, h⟩⟩
  rw [generate_failed fun h => hstuck (Or.inl h), Node.headers_qp, hacks]
  dsimp only
  rw [if_pos (by omega)]
  exact ⟨rfl, nofun⟩

theorem recvOk_of_live {s : QpState} (h : s = .RTS ∨ s = .SQD) : pibIsRecvOk s = true := by
  rcases h with rfl | rfl <;> rfl

/-- What stands in the queue when the requester is let on. -/
theorem generate_false (hok : pibIsRecvOk n.qp.state = true) :
    (pibGenerateRcQpAcknowledge n).2 = false ↔
      n.qp.responder.acks = [] ∨
        PIB_MAX_CONTIG_READ_ACKS < n.qp.responder.nr_contig_read_acks ∧
          ∃ ack acks, n.qp.responder.acks = ack :: acks ∧ ack.type = .RDMA_READ := by
  unfold pibGenerateRcQpAcknowledge
  rw [if_neg (by simp [hok])]
  rcases hacks : n.qp.responder.acks with _ | ⟨ack, acks⟩
  · simp
  dsimp only
  cases hty : ack.type with
  | NORMAL | ATOMIC => simp [hty]
  | RDMA_READ =>
    dsimp only
    split
    · simp_all
    rename_i hle
    simp only [hle, false_and, or_false, reduceCtorEq, iff_false, Bool.not_eq_false]
    split
    · rfl
    · split <;> rfl

theorem newSendWr_none (h : ¬Startable q) : processNewSendWr now q = none := by
  unfold processNewSendWr
  split
  · rfl
  rename_i hst
  rcases hs : q.requester.submitted_swqe with _ | ⟨w, ws⟩
  · rfl
  dsimp only
  rw [if_pos]
  have hfull : pibIsWrOpcodeRdAtomic w.opcode = true ∧
      (q.requester.max_rd_atomic : Int) ≤ q.requester.nr_rd_atomic := by
    by_contra hroom
    exact h ⟨by simpa using hst, w, ws, hs, hroom⟩
  simp [mustWait, hfull.1, hfull.2]

/-- A requester that is not due, with no local request in front, does nothing. -/
theorem requester_idle (hdue : ¬RequesterDue now n.qp)
    (hlocal : (n.qp.state = .RTS ∨ n.qp.state = .SQD) → ∀ w ws,
      n.qp.requester.waiting_swqe = w :: ws → w.local_only_request = false) :
    processRequester cfg now n = n := by
  unfold processRequester
  by_cases hst : n.qp.state ≠ .RTS ∧ n.qp.state ≠ .SQD
  · rw [if_pos hst]
  rw [if_neg hst]
  have hlive : n.qp.state = .RTS ∨ n.qp.state = .SQD := by tauto
  have hsending : processSending cfg now n = n := by
    unfold processSending
    split
    · rename_i hs
      have hnot : ¬HeldUp n.qp := by
        rintro ⟨w, ws, he, -⟩
        rw [hs] at he
        cases he
      have hstart : ¬Startable n.qp := fun h => hdue ⟨hlive, Or.inr ⟨hnot, Or.inl h⟩⟩
      rw [newSendWr_none hstart]
    · rename_i hs
      obtain ⟨w, ws, hs⟩ := List.exists_cons_of_ne_nil hs
      unfold processSendingHead
      rw [hs]
      dsimp only
      split
      · rfl
      rename_i herr
      split
      · rfl
      rename_i hmany
      rw [if_pos]
      by_contra hge
      refine hdue ⟨hlive, Or.inr ⟨?_, Or.inr ⟨w, ws, hs, by omega⟩⟩⟩
      rintro ⟨w', ws', he, hb⟩
      rw [hs] at he
      obtain ⟨rfl, rfl⟩ := List.cons.inj he
      exact hb.elim herr hmany
  rcases hw : n.qp.requester.waiting_swqe with _ | ⟨w, ws⟩
  · exact hsending
  dsimp only
  rw [hlocal hlive w ws hw, if_neg (by decide), if_pos]
  · exact hsending
  · by_contra hge
    exact hdue ⟨hlive, Or.inl ⟨w, ws, hw, by omega⟩⟩

theorem schedule_idle (hsame : pibUtilRescheduleQp now n.qp = n.qp) (hacks : ¬AcksDue n.qp)
    (hreq : ¬RequesterDue now n.qp) (hover : ¬Overlooked n) : ¬Works cfg now n := by
  have hgen := generate_idle hacks fun h => hover (Or.inl h)
  have hun : Unchanged n (processOnQpScheduler cfg now n) := by
    unfold processOnQpScheduler
    rcases hg : pibGenerateRcQpAcknowledge n with ⟨n', b⟩
    rw [hg] at hgen
    cases b with
    | true =>
      have hun : { n' with crashes := n.crashes } = n := hgen.1
      have hqp := congrArg Node.qp hun
      change n'.qp = n.qp at hqp
      dsimp only
      rw [hqp, hsame, ← hqp]
      exact hgen.1
    | false =>
      have hn : n' = n := congrArg Prod.fst (hgen.2 rfl)
      subst hn
      dsimp only
      rw [requester_idle cfg hreq, hsame]
      · rfl
      · intro hlive w ws hw
        by_contra hl
        refine hover (Or.inr ⟨hlive, ?_, w, ws, hw, by simpa using hl⟩)
        exact (generate_false (recvOk_of_live hlive)).1 (by rw [hg])
  exact fun h => h hun

/-- A local request leaves the head of the waiting list, one way or another. -/
theorem settleLocal_waiting (now : Nat) (ws : List SendWqe) (n : Node) (w : SendWqe) (done : Bool) :
    (settleLocal now ws (n, w, done)).qp.requester.waiting_swqe = ws ∨
      (settleLocal now ws (n, w, done)).qp.requester.waiting_swqe = [] := by
  cases done with
  | true => exact Or.inl rfl
  | false =>
    right
    have h := sendQ_failQp now
      ((n.qp.setInFlight .waiting (w :: ws) 0).insertSendError w.wr_id w.processing.status w.opcode)
    simp only [settleLocal, failLocal]
    generalize failQp now _ = q at h ⊢
    exact congrArg SendQ.waiting h

/-- The work that the decision does not see is done. -/
theorem overlooked_works (now : Nat) (hbuf : n.send_buffer = none)
    (h : Overlooked n) : Works cfg now n := by
  intro hun
  have hsend := (congrArg Node.send_buffer hun).trans hbuf
  change (processOnQpScheduler cfg now n).send_buffer = none at hsend
  rcases h with ⟨hok, hmany, ack, acks, hacks, hkind⟩ | ⟨hlive, hacks, w, ws, hw, hl⟩
  · cases hty : ack.type with
    | NORMAL | ATOMIC =>
      simp [processOnQpScheduler, pibGenerateRcQpAcknowledge, hok, hacks, hty] at hsend
    | RDMA_READ =>
      obtain ⟨hfull, hread⟩ := hkind.resolve_left fun h => h hty
      have hle : ¬PIB_MAX_CONTIG_READ_ACKS < n.qp.responder.nr_contig_read_acks := by omega
      by_cases hcopy : ReadCopies n ack
      · obtain ⟨p, hp⟩ := generate_copied hcopy acks
        have hgen : ∃ n', pibGenerateRcQpAcknowledge n = (n', true) ∧ n'.send_buffer = some p := by
          simp only [pibGenerateRcQpAcknowledge, hok, hacks, hty, hle, hp, if_false,
            Bool.true_eq_false, Node.setQp_qp, advanceRead]
          split <;> exact ⟨_, rfl, rfl⟩
        obtain ⟨n', hgen, hp⟩ := hgen
        simp [processOnQpScheduler, hgen, hp] at hsend
      · have hdone : ¬ack.offset < ack.size := by
          have := hread.resolve_left hcopy
          omega
        have hlen := congrArg (fun m : Node => m.qp.responder.acks.length) hun
        simp [processOnQpScheduler, pibGenerateRcQpAcknowledge, hok, hacks, hty, hle,
          generate_failed hcopy, hdone, Qp.popAck, Qp.decRdAtomic] at hlen
  · have hfalse := (generate_false (recvOk_of_live hlive)).2 hacks
    have hgen : pibGenerateRcQpAcknowledge n = (n, false) :=
      Prod.ext (generateAcknowledge_false hfalse) hfalse
    have hwait := (congrArg (fun m : Node => m.qp.requester.waiting_swqe) hun).trans hw
    have hst : ¬(n.qp.state ≠ .RTS ∧ n.qp.state ≠ .SQD) := by tauto
    simp only [processOnQpScheduler, hgen, processRequester, if_neg hst, hw, hl, if_true,
      processLocalOnlyHead, Node.setQp_qp] at hwait
    generalize (if cfg.relaxed_invalidation_ordering = true then (n, w, true)
      else pibProcessLocalOnlyRequest n w) = x at hwait
    obtain ⟨n', w', done⟩ := x
    have hresched : ∀ q, (pibUtilRescheduleQp now q).requester = q.requester := fun q => by
      unfold pibUtilRescheduleQp
      split <;> rfl
    rw [hresched] at hwait
    rcases settleLocal_waiting now ws n' w' done with h | h
    · simp [h] at hwait
    · simp [h] at hwait

/-! ## Datagram queue pairs -/

/-- One iteration of the scheduler changes something on a datagram queue pair. -/
def UdWorks (cfg : Config) (now : Nat) (n : UdNode) : Prop :=
  { processUdScheduler cfg now n with crashes := n.crashes } ≠ n

/-- A datagram queue pair that is not due does nothing. -/
theorem ud_idle {n : UdNode} (hwait : n.qp.requester.waiting_swqe = [])
    (hsame : pibUtilRescheduleQp now n.qp = n.qp) (hdue : ¬RequesterDue now n.qp) :
    processUdScheduler cfg now n = n := by
  have hheld : HeldUp n.qp → PIB_MAX_CONTIG_REQUESTS < n.qp.requester.nr_contig_requests := by
    rintro ⟨w, ws, -, h⟩
    exact h.resolve_left fun h => h.2 hwait
  have hstay : n.setQp (pibUtilRescheduleQp now n.qp) = n := by
    rw [hsame]
    rfl
  unfold processUdScheduler
  by_cases hst : n.qp.state ≠ .RTS ∧ n.qp.state ≠ .SQD
  · rw [if_pos hst]
    exact hstay
  rw [if_neg hst]
  have hlive : n.qp.state = .RTS ∨ n.qp.state = .SQD := by tauto
  rcases hs : n.qp.requester.sending_swqe with _ | ⟨w, ws⟩
  · have hstart : ¬Startable n.qp := by
      refine fun h => hdue ⟨hlive, Or.inr ⟨?_, Or.inl h⟩⟩
      rintro ⟨w, ws, he, -⟩
      rw [hs] at he
      cases he
    rw [if_pos rfl, newSendWr_none hstart]
    exact hstay
  · rw [if_neg (List.cons_ne_nil w ws)]
    have hhead : processUdSendingHead cfg now n = n := by
      unfold processUdSendingHead
      rw [hs]
      dsimp only
      split
      · rfl
      rename_i hmany
      rw [if_pos]
      by_contra hge
      exact hdue ⟨hlive, Or.inr ⟨fun h => hmany (hheld h), Or.inr ⟨w, ws, hs, by omega⟩⟩⟩
    rw [hhead]
    exact hstay

/-! ## The decision agrees with the work, but for what it overlooks -/

/-- The queue pair is on the scheduler's tree, for a time that has come. -/
def OnTree (now : Nat) (q : Qp) : Prop := q.sched_on = true ∧ q.sched_time ≤ now

/-- A node after `pib_util_reschedule_qp`. The thread's send buffer is empty. -/
def Node.decided (n : Node) (now : Nat) : Node :=
  { n with send_buffer := none, qp := pibUtilRescheduleQp now n.qp }

def UdNode.decided (n : UdNode) (now : Nat) : UdNode :=
  { n with send_buffer := none, qp := pibUtilRescheduleQp now n.qp }

theorem onTree_decided : OnTree now (pibUtilRescheduleQp now q) ↔
    Due now (pibUtilRescheduleQp now q) := by
  have h := reschedule_due now (pibUtilRescheduleQp now q)
  rw [reschedule_twice] at h
  exact h

/-- If an iteration of the scheduler would do anything for an RC queue pair, it
is on the tree, unless the work is overlooked and nothing else is due. For a
datagram queue pair nothing is overlooked. -/
theorem on_tree_if_works (cfg : Config) (now : Nat) :
    (∀ n : Node, n.qp.qp_type = .RC →
      ((Works cfg now (n.decided now) → OnTree now (n.decided now).qp) ↔
        (Overlooked (n.decided now) → RequesterDue now (n.decided now).qp))) ∧
    ∀ (ibModifyQpIsOk : QpState → QpState → AttrMask → Bool) (qp_type : QpType)
      (init_attr : QpInitAttr) (srq : Option Srq) (pd : Pd) (mem : Mem) (xs : List (Nat × UdAct)),
      qp_type ≠ .RC →
      let n := Run.run (udStep cfg ibModifyQpIsOk) (createdUd cfg qp_type init_attr srq pd mem) xs
      UdWorks cfg now (n.decided now) → OnTree now (n.decided now).qp := by
  constructor
  · intro n hrc
    have hrc : (n.decided now).qp.qp_type = .RC :=
      (congrArg SendQ.qp_type (sendQ_rescheduleQp now n.qp)).trans hrc
    have hdue : OnTree now (n.decided now).qp ↔
        AcksDue (n.decided now).qp ∨ RequesterDue now (n.decided now).qp := by
      have h := due_iff now (n.decided now).qp
      rw [hrc] at h
      simp only [true_and] at h
      exact onTree_decided.trans h
    constructor
    · intro h hover
      -- no acknowledge is due when one is overlooked, and none when the requester is let on
      refine (hdue.1 (h (overlooked_works cfg now rfl hover))).resolve_left ?_
      rintro ⟨-, hne, hlt⟩
      rcases hover with ⟨-, hmany, -⟩ | ⟨-, hnil | ⟨hmany, -⟩, -⟩
      · omega
      · exact hne hnil
      · omega
    · intro h hworks
      rw [hdue]
      by_contra hnot
      have hnot := not_or.mp hnot
      have hover : ¬Overlooked (n.decided now) := fun ho => hnot.2 (h ho)
      exact schedule_idle cfg (reschedule_twice now n.qp) hnot.1 hnot.2 hover hworks
  · intro ibModifyQpIsOk qp_type init_attr srq pd mem xs hud n hworks
    have hq : DatagramQ (fun _ => True) n.qp.lists :=
      Run.always (I := fun n : UdNode => DatagramQ (fun _ => True) n.qp.lists)
        (fun n x => datagramQ_step (fun _ _ _ h => h) cfg ibModifyQpIsOk n x (posts_true cfg n x.2))
        (datagramQ_created cfg hud init_attr srq pd mem) xs
    have hq : DatagramQ (fun _ => True) (n.decided now).qp.lists := by
      rw [show (n.decided now).qp.lists = n.qp.lists from lists_rescheduleQp now n.qp]
      exact hq
    refine onTree_decided.2 ((due_iff now _).2 (Or.inr ?_))
    by_contra hdue
    refine hworks ?_
    rw [ud_idle cfg hq.waiting (reschedule_twice now n.qp) hdue]

/-- A queue pair in RTS with an RDMA READ posted to it. -/
theorem on_tree_if_works_read :
    let n := Run.run (step {} ibStateTable) (created {} {} none ⟨0, fun _ => none⟩ fun _ => 0)
      (readRun.take 4)
    n.qp.qp_type = .RC ∧ Works {} 2 (n.decided 2) ∧ OnTree 2 (n.decided 2).qp := by
  intro n
  have hrc : n.qp.qp_type = .RC := by decide
  have hacks : (n.decided 2).qp.responder.acks = [] := by decide
  have hwait : (n.decided 2).qp.requester.waiting_swqe = [] := by decide
  have hworks : Works {} 2 (n.decided 2) := by
    intro h
    have hs := congrArg (fun n : Node => n.send_buffer.isSome) h
    exact absurd hs (by decide)
  refine ⟨hrc, hworks, ((on_tree_if_works {} 2).1 n hrc).2 ?_ hworks⟩
  rintro (⟨-, -, ack, acks, h, -⟩ | ⟨-, -, w, ws, h, -⟩)
  · rw [hacks] at h
    cases h
  · rw [hwait] at h
    cases h

/-- A responder in RTR, which has just sent the last of 64 read responses, with
an acknowledge in the queue. -/
def sixtyFourth : Node :=
  { created {} {} none ⟨0, fun _ => none⟩ (fun _ => 0) with
    qp := { pibCreateQp {} .RC {} none with
      state := .RTR
      responder := { (pibCreateQp {} .RC {} none).responder with
        acks := [{ type := .NORMAL, psn := 0, expected_psn := 1 }], nr_contig_read_acks := 64 } } }

/-- A local request on a queue pair whose local acknowledge timeout is infinite. -/
def localRun : List (Nat × Act) :=
  bringUp { path_mtu := 1 } ++
    [(1, .postSend (fun _ _ => none)
        [{ wr_id := 9, opcode := .LOCAL_INV, sg_list := [{ addr := 0, length := 0, lkey := 0 }] }]),
     (2, .schedule)]

theorem works_off_tree :
    let n := Run.run (step {} ibStateTable) (created {} {} none ⟨0, fun _ => none⟩ fun _ => 0)
      localRun
    (Works {} 2 (n.decided 2) ∧ (n.decided 2).qp.sched_on = false) ∧
      Works {} 0 (sixtyFourth.decided 0) ∧ (sixtyFourth.decided 0).qp.sched_on = false := by
  intro n
  refine ⟨⟨overlooked_works {} 2 rfl (Or.inr ?_), by decide⟩,
    overlooked_works {} 0 rfl (Or.inl ?_), by decide⟩
  · have hwait : ((n.decided 2).qp.requester.waiting_swqe.map (·.local_only_request)) = [true] := by
      decide
    refine ⟨by decide, Or.inl (by decide), ?_⟩
    rcases h : (n.decided 2).qp.requester.waiting_swqe with _ | ⟨w, ws⟩
    · rw [h] at hwait
      cases hwait
    · rw [h] at hwait
      exact ⟨w, ws, rfl, (List.cons.inj hwait).1⟩
  · exact ⟨by decide, by decide, _, [], rfl, Or.inl (by decide)⟩

end pib
