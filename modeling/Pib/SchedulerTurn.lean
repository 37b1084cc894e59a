-- One iteration of `process_on_qp_scheduler` against the decision that follows it:
-- what it leaves less to do, and the queue pairs that it leaves as they are though
-- they are to run at once.
import Pib.SchedulerWork
import Pib.WakeUp

namespace pib

open Bytes

variable {v : SendWqe} {vs : List SendWqe} {s : SendQ}

/-! ## The next packet of an element -/

/-- The next packet cannot be made, or the element must not be sent again. -/
def requestFails (cfg : Config) (n : Node) (w : SendWqe) : Prop :=
  if w.local_only_request = true then
    cfg.relaxed_invalidation_ordering = true ∧ (pibProcessLocalOnlyRequest n w).2.2 = false
  else w.processing.retry_cnt < 0 ∨ w.processing.rnr_retry < 0 ∨ (buildRequest n w).1 ≠ .SUCCESS

/-- What `pib_process_rc_qp_request` makes of an element that has no error. -/
inductive RequestTurn (cfg : Config) (now : Nat) (n : Node) (w : SendWqe) (n' : Node)
    (w' : SendWqe) : Prop
  | marks (hfail : requestFails cfg n w) (hst : w'.processing.status ≠ .SUCCESS)
      (hcore : w'.core = w.core)
      (hsched : w'.processing.schedule_time = w.processing.schedule_time)
      (hbuf : n'.send_buffer = n.send_buffer)
      (hcount : PIB_MAX_CONTIG_REQUESTS < n'.qp.requester.nr_contig_requests →
        PIB_MAX_CONTIG_REQUESTS < n.qp.requester.nr_contig_requests)
  | sends (hok : ¬requestFails cfg n w) (hbuf : n'.send_buffer.isSome = true)
      (hw : w' = w.setSent (u32 (w.processing.sent_packets + 1)))
      (hlt : u32 (w.processing.sent_packets + 1) < w.processing.all_packets)
  | waits (hok : ¬requestFails cfg n w)
      (hbuf : w.local_only_request = true ∨ n'.send_buffer.isSome = true)
      (hlist : w'.processing.list_type = .WAITING)
      (hack : w'.processing.local_ack_time = now + n.qp.local_ack_timeout)

theorem processRcQpRequest_turn (cfg : Config) (now : Nat) (n : Node) (w : SendWqe) :
    RequestTurn cfg now n w (pibProcessRcQpRequest cfg now n w).1
      (pibProcessRcQpRequest cfg now n w).2 := by
  obtain ⟨hq, ⟨status, done, hw⟩, -⟩ := processLocalOnly_touched n w
  have hbuf := send_buffer_localOnly n w
  have hmark : (pibProcessLocalOnlyRequest n w).2.2 = false →
      (pibProcessLocalOnlyRequest n w).2.1.processing.status ≠ .SUCCESS := by
    unfold pibProcessLocalOnlyRequest
    split
    · simp
    · split <;> simp
  have hr := processRcQpRequest_cases cfg now n w
  generalize pibProcessRcQpRequest cfg now n w = r at hr ⊢
  cases hr with
  | ran hl _ he =>
    refine .waits ?_ (Or.inl hl) rfl ?_
    · simp [requestFails, hl, he]
    · rw [he] at hq
      rw [← hq]
      rfl
  | failed hl hrelaxed he =>
    have hfail : requestFails cfg n w := by simp [requestFails, hl, hrelaxed, he]
    rw [he] at hq hw hbuf hmark
    obtain rfl := hw
    refine .marks hfail (hmark rfl) rfl rfl hbuf ?_
    rw [hq]
    exact id
  | later hl hstrict =>
    exact .waits (by simp [requestFails, hl, hstrict]) (Or.inl hl) rfl rfl
  | exhausted hl hneg =>
    have hfail : requestFails cfg n w := by
      rcases hneg with ⟨hneg, -⟩ | ⟨hneg, -⟩ <;> simp [requestFails, hl, hneg]
    refine .marks hfail ?_ rfl rfl rfl id
    rcases hneg with ⟨-, rfl⟩ | ⟨-, rfl⟩ <;> exact nofun
  | unbuilt hl hretry hb hst =>
    refine .marks (by simp [requestFails, hl, hb, hst]) hst rfl rfl (n.written_send_buffer w) ?_
    rw [Node.setQp_qp, Node.written_qp]
    simp only [countRequest, Bool.false_eq_true, false_and, if_false]
    split
    · exact fun h => absurd h (by decide)
    · exact id
  | sent hl hretry hb _ hw =>
    have hok : ¬requestFails cfg n w := by
      simpa [requestFails, hl, hb] using hretry
    rcases hw with ⟨-, rfl⟩ | ⟨-, v, rfl, ⟨hlt, rfl⟩ | ⟨-, rfl⟩⟩
    · exact .waits hok (Or.inr rfl) rfl rfl
    · exact .sends hok rfl rfl hlt
    · exact .waits hok (Or.inr rfl) rfl rfl

/-! ## The first sending element -/

/-- What an iteration makes of the first sending element, `w`, with `ws` behind it. -/
inductive HeadTurn (cfg : Config) (now : Nat) (n : Node) (w : SendWqe) (ws : List SendWqe)
    (n' : Node) : Prop
  | stays (hn : n' = n) (hwhy : HeldUp n.qp ∨ now < w.processing.schedule_time)
  | fails (hst : w.processing.status ≠ .SUCCESS) (hstate : n'.qp.sendQ.state = .ERR)
      (hflight : n'.qp.sendQ.flight = []) (hsub : n'.qp.sendQ.submitted = [])
  | marks (w' : SendWqe) (hok : w.processing.status = .SUCCESS) (hheld : ¬HeldUp n.qp)
      (htime : w.processing.schedule_time ≤ now) (hfail : requestFails cfg n w)
      (hq : n'.qp.sendQ = { n.qp.sendQ with sending := w' :: ws })
      (hst : w'.processing.status ≠ .SUCCESS) (hcore : w'.core = w.core)
      (hsched : w'.processing.schedule_time = now) (hbuf : n'.send_buffer = n.send_buffer)
      (hcount : PIB_MAX_CONTIG_REQUESTS < n'.qp.requester.nr_contig_requests →
        PIB_MAX_CONTIG_REQUESTS < n.qp.requester.nr_contig_requests)
  | sends (w' : SendWqe) (hfail : ¬requestFails cfg n w)
      (hq : n'.qp.sendQ = { n.qp.sendQ with sending := w' :: ws })
      (hall : w'.processing.all_packets = w.processing.all_packets)
      (hsent : w'.processing.sent_packets = u32 (w.processing.sent_packets + 1))
      (hlt : u32 (w.processing.sent_packets + 1) < w.processing.all_packets)
      (hbuf : n'.send_buffer.isSome = true)
  | waits (w' : SendWqe) (hfail : ¬requestFails cfg n w)
      (hq : n'.qp.sendQ = { n.qp.sendQ with
        sending := ws, nr_sending := n.qp.sendQ.nr_sending + -1
        waiting := n.qp.sendQ.waiting ++ [w'], nr_waiting := n.qp.sendQ.nr_waiting + 1 })
      (hack : w'.processing.local_ack_time = now + n.qp.local_ack_timeout)
      (hbuf : w.local_only_request = true ∨ n'.send_buffer.isSome = true)

/-- Neither the lists nor the schedule time matter to the next packet. -/
theorem requestFails_setSchedule (cfg : Config) (now : Nat) (n : Node) (w : SendWqe)
    (vs : List SendWqe) :
    requestFails cfg (n.setQp (n.qp.setInFlight .sending vs 0)) (w.setSchedule now) ↔
      requestFails cfg n w := by
  have hlocal : (pibProcessLocalOnlyRequest (n.setQp (n.qp.setInFlight .sending vs 0))
      (w.setSchedule now)).2.2 = (pibProcessLocalOnlyRequest n w).2.2 := by
    by_cases hdone : w.processing.done = true
    · simp [pibProcessLocalOnlyRequest, SendWqe.setSchedule, hdone]
    · cases ho : w.opcode <;> simp [pibProcessLocalOnlyRequest, SendWqe.setSchedule, hdone, ho]
  have hbuild : buildRequest (n.setQp (n.qp.setInFlight .sending vs 0)) (w.setSchedule now) =
      buildRequest n w := rfl
  unfold requestFails
  rw [hlocal, hbuild]
  rfl

theorem processSendWr_turn (cfg : Config) (now : Nat) {n : Node} {w : SendWqe} (ws : List SendWqe)
    (hlist : w.processing.list_type = .SENDING)
    (hheld : ¬HeldUp n.qp) (htime : w.processing.schedule_time ≤ now) :
    HeadTurn cfg now n w ws (processSendWr cfg now
      (n.setQp (n.qp.setInFlight .sending (w.setSchedule now :: ws) 0)) (w.setSchedule now) ws) := by
  have hfails := requestFails_setSchedule cfg now n w (w.setSchedule now :: ws)
  generalize hm : n.setQp (n.qp.setInFlight .sending (w.setSchedule now :: ws) 0) = m at hfails ⊢
  have hmq : m.qp.sendQ = { n.qp.sendQ with sending := w.setSchedule now :: ws } := by
    rw [← hm, Node.setQp_qp, sendQ_setSending, Int.add_zero]
  obtain ⟨hbuf, hcount, htimeout⟩ : m.send_buffer = n.send_buffer ∧
      m.qp.requester.nr_contig_requests = n.qp.requester.nr_contig_requests ∧
      m.qp.local_ack_timeout = n.qp.local_ack_timeout := by
    rw [← hm]
    exact ⟨rfl, rfl, rfl⟩
  have hl : (w.setSchedule now).processing.list_type = .SENDING := hlist
  unfold processSendWr
  rw [if_neg (not_not.mpr hl)]
  by_cases hst : w.processing.status = .SUCCESS
  · have hst' : (w.setSchedule now).processing.status = .SUCCESS := hst
    rw [if_neg (not_not.mpr hst')]
    have hturn := processRcQpRequest_turn cfg now m (w.setSchedule now)
    have hq := (processRcQpRequest_sent (c := Ctx.any now) cfg m _ hst').1
    change (pibProcessRcQpRequest cfg now m (w.setSchedule now)).1.qp.sendQ = _ at hq
    rw [hmq] at hq
    generalize pibProcessRcQpRequest cfg now m (w.setSchedule now) = r at hturn hq ⊢
    obtain ⟨n', w'⟩ := r
    dsimp only at hturn hq ⊢
    cases hturn with
    | marks hfail hbad hcore hsched hb hc =>
      have hl' : w'.processing.list_type = .SENDING :=
        (congrArg (fun x : SendWqe => x.processing.list_type) hcore).trans hl
      rw [hl']
      refine .marks w' hst hheld htime (hfails.1 hfail) ?_ hbad (hcore.trans rfl) hsched
        (hb.trans hbuf) (fun h => hcount ▸ hc h)
      rw [Node.setQp_qp, sendQ_setSending, hq, Int.add_zero]
    | sends hok hb hw hlt =>
      subst hw
      have hl' : ((w.setSchedule now).setSent (u32 ((w.setSchedule now).processing.sent_packets +
          1))).processing.list_type = .SENDING := hl
      rw [hl']
      refine .sends ((w.setSchedule now).setSent (u32 (w.processing.sent_packets + 1)))
        (fun h => hok (hfails.2 h)) ?_ rfl rfl hlt hb
      rw [Node.setQp_qp, sendQ_setSending, hq, Int.add_zero]
      rfl
    | waits hok hb hl' hack =>
      rw [hl']
      refine .waits w' (fun h => hok (hfails.2 h)) ?_ (hack.trans (by rw [htimeout])) hb
      have hw : (n'.qp.setInFlight .sending ws (-1)).requester.waiting_swqe = n.qp.sendQ.waiting :=
        congrArg SendQ.waiting hq
      dsimp only
      rw [Node.setQp_qp, sendQ_setWaiting, sendQ_setSending, hq, hw]
  · have hst' : (w.setSchedule now).processing.status ≠ .SUCCESS := hst
    rw [if_pos hst']
    dsimp only
    have hf := sendQ_failQp now ((m.qp.insertSendError (w.setSchedule now).wr_id
      (w.setSchedule now).processing.status (w.setSchedule now).opcode).setInFlight .sending ws (-1))
    generalize failQp now _ = q at hf ⊢
    refine .fails hst ?_ ?_ ?_
    · exact congrArg SendQ.state hf
    · exact congrArg SendQ.flight hf
    · exact congrArg SendQ.submitted hf

/-- The part of an iteration from `first_sending_wsqe` on. -/
theorem processSendingHead_turn (cfg : Config) (now : Nat) {n : Node} {w : SendWqe}
    {ws : List SendWqe} (hs : n.qp.requester.sending_swqe = w :: ws) (hl : Listed n.qp.sendQ) :
    HeadTurn cfg now n w ws (processSendingHead cfg now n) := by
  have hlist : w.processing.list_type = .SENDING := hl w (by simp [Qp.sendQ, hs])
  unfold processSendingHead
  rw [hs]
  dsimp only
  split
  · rename_i herr
    exact .stays rfl (Or.inl ⟨w, ws, hs, Or.inl herr⟩)
  rename_i herr
  split
  · rename_i hmany
    exact .stays rfl (Or.inl ⟨w, ws, hs, Or.inr hmany⟩)
  rename_i hmany
  split
  · rename_i hearly
    exact .stays rfl (Or.inr hearly)
  rename_i htime
  refine processSendWr_turn cfg now ws hlist ?_ (Nat.le_of_not_lt htime)
  rintro ⟨v, vs, he, hb⟩
  rw [hs] at he
  obtain ⟨rfl, rfl⟩ := List.cons.inj he
  exact hb.elim herr hmany

/-! ## Stalled queue pairs -/

/-- The fence keeps the element from being started. -/
def fencedOff (r : Requester) (w : SendWqe) : Bool :=
  w.send_flags.FENCE && (decide (0 < r.nr_rd_atomic) ||
    (decide (w.opcode = .LOCAL_INV) &&
      (decide (0 < r.nr_sending_swqe) || decide (0 < r.nr_waiting_swqe))))

/-- A submitted element makes the queue pair run at once, but an iteration can do
nothing for it: it is fenced off, or the first sending element before it waits for
its RNR timer. No waiting element is up either. -/
def Stalled (now : Nat) (q : Qp) : Prop :=
  Startable q ∧
  (∀ w ∈ q.requester.waiting_swqe.head?, w.local_only_request = false ∧
    now < w.processing.local_ack_time) ∧
  match q.requester.sending_swqe with
  | [] => ∀ w ∈ q.requester.submitted_swqe.head?, fencedOff q.requester w = true
  | w :: _ => ¬HeldUp q ∧ now < w.processing.schedule_time

/-- The next packet of the first element in flight cannot be made. -/
def Spoiled (cfg : Config) (now : Nat) (n : Node) : Prop :=
  (n.qp.state = .RTS ∨ n.qp.state = .SQD) ∧ n.qp.requester.waiting_swqe = [] ∧ ¬HeldUp n.qp ∧
  ∃ w ws, n.qp.requester.sending_swqe = w :: ws ∧ w.processing.status = .SUCCESS ∧
    w.processing.schedule_time ≤ now ∧ requestFails cfg n w

theorem mustWait_of_room {r : Requester} {w : SendWqe}
    (h : ¬(pibIsWrOpcodeRdAtomic w.opcode = true ∧ (r.max_rd_atomic : Int) ≤ r.nr_rd_atomic)) :
    mustWait r w = fencedOff r w := by
  have h : (pibIsWrOpcodeRdAtomic w.opcode && decide ((r.max_rd_atomic : Int) ≤ r.nr_rd_atomic)) =
      false := by
    simpa using h
  unfold mustWait fencedOff
  rw [h, Bool.or_false]

theorem newSendWr_none_of_mustWait {now : Nat} {q : Qp}
    (hsub : q.requester.submitted_swqe = v :: vs) (h : mustWait q.requester v = true) :
    processNewSendWr now q = none := by
  unfold processNewSendWr
  split
  · rfl
  rw [hsub]
  dsimp only
  rw [if_pos h]

theorem heldUp_of_nil {q : Qp} (h : q.requester.sending_swqe = []) : ¬HeldUp q := by
  rintro ⟨w, ws, he, -⟩
  rw [h] at he
  cases he

/-- A stalled queue pair is due. -/
theorem Stalled.due {now : Nat} {q : Qp} (h : Stalled now q) : RequesterDue now q := by
  obtain ⟨hstart, -, hsend⟩ := h
  refine ⟨Or.inl hstart.1, Or.inr ⟨?_, Or.inl hstart⟩⟩
  rcases hs : q.requester.sending_swqe with _ | ⟨w, ws⟩
  · exact heldUp_of_nil hs
  · rw [hs] at hsend
    exact hsend.1

section NotDue

variable {now : Nat} {q : Qp}
  (hwait : ∀ w ∈ q.requester.waiting_swqe.head?, w.local_only_request = false ∧
    now < w.processing.local_ack_time)
  (h : ¬Stalled now q)
include hwait h

/-- What cannot be started does not make the queue pair run. -/
theorem not_due_of_none (hs : q.requester.sending_swqe = [])
    (hnew : processNewSendWr now q = none) : ¬RequesterDue now q := by
  rintro ⟨-, ⟨w, ws, hw, ht⟩ | ⟨-, ⟨hrts, v, vs, hsub, hroom⟩ | ⟨w, ws, hw, -⟩⟩⟩
  · have := (hwait w (by rw [hw]; rfl)).2
    omega
  · -- it would have to be fenced off
    refine h ⟨⟨hrts, v, vs, hsub, hroom⟩, hwait, ?_⟩
    rw [hs, hsub]
    rintro x ⟨⟩
    unfold processNewSendWr at hnew
    rw [if_neg (not_not.mpr hrts), hsub] at hnew
    dsimp only at hnew
    split at hnew
    · rename_i hm
      rw [← mustWait_of_room hroom]
      exact hm
    · cases hnew
  · rw [hs] at hw
    cases hw

/-- Nor does a sending element that cannot be served. -/
theorem not_due_of_stays {w : SendWqe} {ws : List SendWqe} (hs : q.requester.sending_swqe = w :: ws)
    (hwhy : HeldUp q ∨ now < w.processing.schedule_time) : ¬RequesterDue now q := by
  rintro ⟨-, ⟨v, vs, hw, ht⟩ | ⟨hnot, hdue⟩⟩
  · have := (hwait v (by rw [hw]; rfl)).2
    omega
  · have hlate := hwhy.resolve_left hnot
    rcases hdue with hstart | ⟨v, vs, he, ht⟩
    · refine h ⟨hstart, hwait, ?_⟩
      rw [hs]
      exact ⟨hnot, hlate⟩
    · rw [hs] at he
      obtain ⟨rfl, rfl⟩ := List.cons.inj he
      omega

end NotDue

/-- With no waiting element up, the scheduler gets to the sending list at once. -/
theorem processRequester_of_idle (cfg : Config) {now : Nat} {n : Node}
    (hlive : n.qp.state = .RTS ∨ n.qp.state = .SQD)
    (hwait : ∀ w ∈ n.qp.requester.waiting_swqe.head?, w.local_only_request = false ∧
      now < w.processing.local_ack_time) :
    processRequester cfg now n = processSending cfg now n := by
  unfold processRequester
  rw [if_neg (by tauto)]
  split
  · rfl
  rename_i w ws hw
  obtain ⟨hl, ht⟩ := hwait w (by rw [hw]; rfl)
  rw [hl, if_neg Bool.false_ne_true, if_pos ht]

/-- The fence keeps a stalled queue pair from starting anything. -/
theorem Stalled.starts_none {now : Nat} {q : Qp} (h : Stalled now q)
    (hs : q.requester.sending_swqe = []) : processNewSendWr now q = none := by
  obtain ⟨⟨-, v, vs, hsub, hroom⟩, -, hsend⟩ := h
  rw [hs] at hsend
  refine newSendWr_none_of_mustWait hsub ?_
  rw [mustWait_of_room hroom]
  exact hsend v (by rw [hsub]; rfl)

/-- An iteration does nothing for a stalled queue pair. -/
theorem Stalled.stays (cfg : Config) {now : Nat} {n : Node} (h : Stalled now n.qp) :
    processRequester cfg now n = n := by
  have hnone := h.starts_none
  obtain ⟨⟨hrts, -⟩, hwait, hsend⟩ := h
  rw [processRequester_of_idle cfg (Or.inl hrts) hwait]
  unfold processSending
  rcases hs : n.qp.requester.sending_swqe with _ | ⟨w, ws⟩
  · rw [if_pos rfl, hnone hs]
  rw [hs] at hsend
  rw [if_neg (List.cons_ne_nil w ws)]
  unfold processSendingHead
  rw [hs]
  dsimp only
  rw [if_neg fun he => hsend.1 ⟨w, ws, hs, Or.inl he⟩,
    if_neg fun he => hsend.1 ⟨w, ws, hs, Or.inr he⟩, if_pos hsend.2]

/-! ## What an iteration gets done -/

/-- Less is left to do, and a packet goes out or an element moves. -/
structure Serves (now : Nat) (n n' : Node) : Prop where
  falls : n'.qp.sendQ.workLeft now < n.qp.sendQ.workLeft now
  acts : n'.send_buffer.isSome = true ∨ n'.qp.sendQ.places ≠ n.qp.sendQ.places

/-- An element has left the submitted list, alone or with all others. -/
theorem started_serves (now : Nat) {s' : SendQ}
    (hlive : s.live = true) (hsub : s.submitted = v :: vs)
    (h : (s'.live = false ∧ s'.submitted = []) ∨ (s'.state = s.state ∧ s'.submitted = vs)) :
    s'.workLeft now < s.workLeft now ∧ s'.places ≠ s.places := by
  have hlen : s'.submitted.length < s.submitted.length := by
    rw [hsub]
    rcases h with ⟨-, hs⟩ | ⟨-, hs⟩
    · rw [hs]
      exact Nat.zero_lt_succ _
    · rw [hs]
      exact Nat.lt_succ_self _
  refine ⟨?_, fun he => hlen.ne (SendQ.submitted_length_of_places he)⟩
  rcases h with ⟨hdead, -⟩ | ⟨hst, -⟩
  · exact SendQ.falls_dead hlive hdead
  · exact SendQ.falls_started hst hlen

theorem overdue_append {now : Nat} {w : SendWqe} (h : now < w.processing.local_ack_time) :
    ((s.waiting ++ [w]).any fun v => decide (v.processing.local_ack_time ≤ now)) = s.overdue now := by
  have hw : decide (w.processing.local_ack_time ≤ now) = false := by simpa using h
  rw [List.any_append, List.any_cons, hw, List.any_nil, Bool.or_false, Bool.or_false]
  rfl

section HeadTurns

variable {cfg : Config} {now : Nat} {n n' : Node} {w : SendWqe} {ws : List SendWqe}

/-- The queue pair fails, or its state and its submitted elements stay. -/
theorem HeadTurn.frame (h : HeadTurn cfg now n w ws n') :
    (n'.qp.sendQ.state = .ERR ∧ n'.qp.sendQ.flight = [] ∧ n'.qp.sendQ.submitted = []) ∨
      (n'.qp.sendQ.state = n.qp.sendQ.state ∧ n'.qp.sendQ.submitted = n.qp.sendQ.submitted) := by
  cases h with
  | stays hn => exact Or.inr (by rw [hn]; exact ⟨rfl, rfl⟩)
  | fails hst hstate hflight hsub => exact Or.inl ⟨hstate, hflight, hsub⟩
  | marks w' _ _ _ _ hq => exact Or.inr (by rw [hq]; exact ⟨rfl, rfl⟩)
  | sends w' _ hq => exact Or.inr (by rw [hq]; exact ⟨rfl, rfl⟩)
  | waits w' _ hq => exact Or.inr (by rw [hq]; exact ⟨rfl, rfl⟩)

/-- An element that starts to wait is not overdue. -/
theorem HeadTurn.overdue (h : HeadTurn cfg now n w ws n') (ht : 0 < n.qp.local_ack_timeout) :
    n'.qp.sendQ.overdue now = n.qp.sendQ.overdue now ∨ n'.qp.sendQ.waiting = [] := by
  cases h with
  | stays hn => exact Or.inl (by rw [hn])
  | fails hst hstate hflight hsub => exact Or.inr (List.append_eq_nil_iff.mp hflight).1
  | marks w' _ _ _ _ hq => exact Or.inl (by rw [hq]; rfl)
  | sends w' _ hq => exact Or.inl (by rw [hq]; rfl)
  | waits w' _ hq hack =>
    left
    rw [hq]
    exact overdue_append (by omega)

/-- An element that has just been started is served. -/
theorem HeadTurn.started {m : Node} (hlive : m.qp.sendQ.live = true)
    (hsub : m.qp.sendQ.submitted = v :: vs) (hstate : n.qp.sendQ.state = m.qp.sendQ.state)
    (hsub' : n.qp.sendQ.submitted = vs) (h : HeadTurn cfg now n w ws n') : Serves now m n' := by
  have hend : (n'.qp.sendQ.live = false ∧ n'.qp.sendQ.submitted = []) ∨
      (n'.qp.sendQ.state = m.qp.sendQ.state ∧ n'.qp.sendQ.submitted = vs) := by
    rcases h.frame with ⟨herr, -, hs⟩ | ⟨hst, hs⟩
    · exact Or.inl ⟨SendQ.dead_of_err herr, hs⟩
    · exact Or.inr ⟨hst.trans hstate, hs.trans hsub'⟩
  obtain ⟨hfall, hmoved⟩ := started_serves now hlive hsub hend
  exact ⟨hfall, Or.inr hmoved⟩

/-- The elements whose timer is over are put back, and the first of them is served. -/
theorem HeadTurn.expired {m : Node} (hlive : m.qp.sendQ.live = true)
    (hover : m.qp.sendQ.overdue now = true) (hne : m.qp.sendQ.waiting ≠ [])
    (hwait : n.qp.sendQ.waiting = []) (hstate : n.qp.sendQ.state = m.qp.sendQ.state)
    (hsub : n.qp.sendQ.submitted = m.qp.sendQ.submitted) (hlocal : w.local_only_request = false)
    (ht : 0 < n.qp.local_ack_timeout) (h : HeadTurn cfg now n w ws n') : Serves now m n' := by
  have hmoved : n'.qp.sendQ.waiting = [] → n'.qp.sendQ.places ≠ m.qp.sendQ.places := by
    intro he hp
    have hlen := SendQ.waiting_length_of_places hp
    rw [he] at hlen
    exact hne (List.length_eq_zero_iff.mp hlen.symm)
  constructor
  case falls =>
    have hover' : n'.qp.sendQ.overdue now = false := by
      rcases h.overdue ht with ho | ho
      · rw [ho, SendQ.overdue, hwait]
        rfl
      · rw [SendQ.overdue, ho]
        rfl
    rcases h.frame with ⟨herr, -⟩ | ⟨hst, hs⟩
    · exact SendQ.falls_dead hlive (SendQ.dead_of_err herr)
    · exact SendQ.falls_expired (hst.trans hstate) (hs.trans hsub) hover hover'
  case acts =>
    cases h with
    | stays hn => exact Or.inr (hmoved (by rw [hn, hwait]))
    | fails _ _ hflight => exact Or.inr (hmoved (List.append_eq_nil_iff.mp hflight).1)
    | marks w' _ _ _ _ hq => exact Or.inr (hmoved (by rw [hq]; exact hwait))
    | sends w' _ _ _ _ _ hbuf => exact Or.inl hbuf
    | waits w' _ _ _ hbuf => exact Or.inl (hbuf.resolve_left (by simp [hlocal]))

/-- The first sending element is served, is given an error or cannot be served now. -/
theorem HeadTurn.outcome (hs : n.qp.sendQ.sending = w :: ws) (hlive : n.qp.sendQ.live = true)
    (hc : Clocked n.qp.sendQ) (h : HeadTurn cfg now n w ws n') :
    (n' = n ∧ (HeldUp n.qp ∨ now < w.processing.schedule_time)) ∨
    Serves now n n' ∨
    (n'.qp.sendQ.workLeft now < n.qp.sendQ.workLeft now ∧
      w.processing.status = .SUCCESS ∧ ¬HeldUp n.qp ∧ w.processing.schedule_time ≤ now ∧
      requestFails cfg n w ∧ ∃ w', n'.qp.sendQ = { n.qp.sendQ with sending := w' :: ws } ∧
        w'.processing.status ≠ .SUCCESS) := by
  have hmoved : n'.qp.sendQ.sending.length < n.qp.sendQ.sending.length →
      n'.qp.sendQ.places ≠ n.qp.sendQ.places :=
    fun hlt he => hlt.ne (SendQ.sending_length_of_places he)
  have hlen : ws.length < n.qp.sendQ.sending.length := by
    rw [hs]
    exact Nat.lt_succ_self _
  cases h with
  | stays hn hwhy => exact Or.inl ⟨hn, hwhy⟩
  | fails hst hstate hflight hsub =>
    refine Or.inr (Or.inl ⟨SendQ.falls_dead hlive (SendQ.dead_of_err hstate), Or.inr (hmoved ?_)⟩)
    rw [(List.append_eq_nil_iff.mp hflight).2]
    exact Nat.zero_lt_of_lt hlen
  | marks w' hok hheld htime hfail hq hst hcore hsched hbuf hcount =>
    refine Or.inr (Or.inr ⟨?_, hok, hheld, htime, hfail, w', hq, hst⟩)
    refine SendQ.falls_head w' hs hq (Or.inr ⟨?_, hst, hok⟩)
    have hcore := congrArg SendWqe.processing hcore
    have hall := congrArg Processing.all_packets hcore
    have hsent := congrArg Processing.sent_packets hcore
    change w'.processing.all_packets = w.processing.all_packets at hall
    change w'.processing.sent_packets = w.processing.sent_packets at hsent
    rw [hall, hsent]
  | sends w' hfail hq hall hsent hlt hbuf =>
    refine Or.inr (Or.inl ⟨SendQ.falls_head w' hs hq (Or.inl ?_), Or.inl hbuf⟩)
    have hmax : w.processing.all_packets < 2 ^ 24 := hc.flight w (by
      rw [SendQ.flight, hs]
      exact List.mem_append_right _ List.mem_cons_self)
    have hnext : u32 (u32 (w.processing.sent_packets + 1) + 1) = u32 (w.processing.sent_packets + 1) + 1 :=
      Nat.mod_eq_of_lt (by omega)
    rw [hall, hsent, hnext]
    omega
  | waits w' hfail hq hack hbuf =>
    have ht := hc.timeout
    change 0 < n.qp.local_ack_timeout at ht
    refine Or.inr (Or.inl ⟨?_, Or.inr (hmoved (by rw [hq]; exact hlen))⟩)
    rw [hq]
    exact SendQ.falls_sent rfl rfl (overdue_append (by omega)) hlen

end HeadTurns

/-! ## One iteration for an RC queue pair -/

theorem live_of_state {q : Qp} (h : q.state = .RTS ∨ q.state = .SQD) : q.sendQ.live = true :=
  decide_eq_true h

/-- A local request leaves the waiting list, or takes all elements with it. -/
theorem localDone_serves (now : Nat) {s' : SendQ} {w : SendWqe} {ws : List SendWqe}
    (hlive : s.live = true) (hw : s.waiting = w :: ws) (h : LocalDone s ws s') :
    s'.workLeft now < s.workLeft now ∧ s'.places ≠ s.places := by
  have hmoved : s'.waiting.length < s.waiting.length → s'.places ≠ s.places :=
    fun hlt he => hlt.ne (SendQ.waiting_length_of_places he)
  have hlen : ws.length < s.waiting.length := by
    rw [hw]
    exact Nat.lt_succ_self _
  cases h with
  | retired f hf =>
    refine ⟨SendQ.falls_retired rfl rfl (fun ho => ?_) rfl hlen, hmoved hlen⟩
    have ho : (ws.any fun v => decide (v.processing.local_ack_time ≤ now)) = true := ho
    rw [SendQ.overdue, hw, List.any_cons, ho, Bool.or_true]
  | failed free nr_waiting cq hf =>
    exact ⟨SendQ.falls_dead hlive (SendQ.dead_of_err rfl), hmoved (Nat.zero_lt_of_lt hlen)⟩

/-- What `process_new_send_wr` does to the lists. -/
theorem newSendWr_lists {now : Nat} {q q' : Qp} (hs : q.requester.sending_swqe = [])
    (h : processNewSendWr now q = some q') :
    ∃ v vs, q.requester.submitted_swqe = v :: vs ∧ q'.requester.submitted_swqe = vs ∧
      q'.requester.sending_swqe = [startSending now q v] ∧ q'.state = q.state := by
  obtain ⟨-, v, vs, hsub, -, rfl⟩ := processNewSendWr_some h
  exact ⟨v, vs, hsub, rfl, congrArg (· ++ [startSending now q v]) hs, rfl⟩

/-- An iteration that finds no waiting element up. -/
theorem sending_turn (cfg : Config) {now : Nat} {n : Node} (hc : Clocked n.qp.sendQ)
    (hlive : n.qp.state = .RTS ∨ n.qp.state = .SQD)
    (hwait : ∀ w ∈ n.qp.requester.waiting_swqe.head?, w.local_only_request = false ∧
      now < w.processing.local_ack_time) (h : ¬Stalled now n.qp) :
    (processSending cfg now n = n ∧ ¬RequesterDue now n.qp) ∨
    Serves now n (processSending cfg now n) ∨
    ((processSending cfg now n).qp.sendQ.workLeft now < n.qp.sendQ.workLeft now ∧
      (Spoiled cfg now n ∨ ¬RequesterDue now (processSending cfg now n).qp)) := by
  have hearly : ∀ {w ws}, n.qp.requester.waiting_swqe = w :: ws → ¬w.processing.local_ack_time ≤ now := by
    intro w ws hw
    have := (hwait w (by rw [hw]; rfl)).2
    omega
  unfold processSending
  rcases hs : n.qp.requester.sending_swqe with _ | ⟨w, ws⟩
  · rw [if_pos rfl]
    rcases hnew : processNewSendWr now n.qp with _ | q
    · exact Or.inl ⟨rfl, not_due_of_none hwait h hs hnew⟩
    obtain ⟨v, vs, hsub, hsub', hsend', hstate'⟩ := newSendWr_lists hs hnew
    have hl : Listed (n.setQp q).qp.sendQ := by
      rw [Listed, Node.setQp_qp]
      show ∀ x ∈ q.requester.sending_swqe, _
      rw [hsend']
      exact List.forall_mem_singleton.mpr rfl
    have hturn := processSendingHead_turn cfg now (n := n.setQp q) hsend' hl
    exact Or.inr (Or.inl (HeadTurn.started (n := n.setQp q) (live_of_state hlive) hsub hstate'
      hsub' hturn))
  · rw [if_neg (List.cons_ne_nil w ws)]
    rcases (processSendingHead_turn cfg now hs hc.listed).outcome hs (live_of_state hlive) hc with
      ⟨hn, hwhy⟩ | hserves | ⟨hfall, hok, hheld, htime, hfail, w', hq, hst⟩
    · exact Or.inl ⟨hn, not_due_of_stays hwait h hs hwhy⟩
    · exact Or.inr (Or.inl hserves)
    · refine Or.inr (Or.inr ⟨hfall, ?_⟩)
      rcases hw : n.qp.requester.waiting_swqe with _ | ⟨v, vs⟩
      · exact Or.inl ⟨hlive, hw, hheld, w, ws, hs, hok, htime, hfail⟩
      -- the element with the error is held back until those before it are done
      right
      generalize processSendingHead cfg now n = n' at hq
      have hs' : n'.qp.requester.sending_swqe = w' :: ws := congrArg SendQ.sending hq
      have hw' : n'.qp.requester.waiting_swqe = v :: vs := (congrArg SendQ.waiting hq).trans hw
      rintro ⟨-, ⟨x, xs, he, ht⟩ | ⟨hnot, -⟩⟩
      · rw [hw'] at he
        obtain ⟨rfl, rfl⟩ := List.cons.inj he
        exact hearly hw ht
      · exact hnot ⟨w', ws, hs', Or.inl ⟨hst, by rw [hw']; exact List.cons_ne_nil _ _⟩⟩

/-- The elements that wait are put back when the first of them is overdue. -/
theorem expired_turn (cfg : Config) {now : Nat} {n : Node} {w : SendWqe} {ws : List SendWqe}
    (hc : Clocked n.qp.sendQ) (hlive : n.qp.state = .RTS ∨ n.qp.state = .SQD)
    (hw : n.qp.requester.waiting_swqe = w :: ws) (hlocal : w.local_only_request = false)
    (ht : w.processing.local_ack_time ≤ now) :
    Serves now n (processSending cfg now (n.setQp (expireTimer now n.qp w ws))) := by
  have hover : n.qp.sendQ.overdue now = true := by
    have hd : decide (w.processing.local_ack_time ≤ now) = true := decide_eq_true ht
    show (n.qp.requester.waiting_swqe.any _) = true
    rw [hw, List.any_cons, hd, Bool.true_or]
  have hne : n.qp.sendQ.waiting ≠ [] := by
    show n.qp.requester.waiting_swqe ≠ []
    rw [hw]
    exact List.cons_ne_nil w ws
  have hl : Listed (n.setQp (expireTimer now n.qp w ws)).qp.sendQ := by
    intro v hv
    rcases List.mem_append.mp hv with hv | hv
    · obtain ⟨x, -, rfl⟩ := List.mem_map.mp hv
      rfl
    · obtain ⟨x, hx, rfl⟩ := List.mem_map.mp hv
      exact hc.listed x hx
  obtain ⟨v, vs, hs, hv⟩ : ∃ v vs, (n.setQp (expireTimer now n.qp w ws)).qp.requester.sending_swqe =
      v :: vs ∧ v.local_only_request = false := ⟨_, _, rfl, hlocal⟩
  have hturn := processSendingHead_turn cfg now hs hl
  unfold processSending
  rw [if_neg (by rw [hs]; exact List.cons_ne_nil v vs)]
  exact HeadTurn.expired (n := n.setQp (expireTimer now n.qp w ws)) (live_of_state hlive) hover hne
    rfl rfl rfl hv hc.timeout hturn

/-- An iteration finds nothing to do and nothing due, or gets something done, or only
gives an element an error. -/
theorem requester_turn (cfg : Config) {now : Nat} {n : Node} (hc : Clocked n.qp.sendQ)
    (h : ¬Stalled now n.qp) :
    (processRequester cfg now n = n ∧ ¬RequesterDue now n.qp) ∨
    Serves now n (processRequester cfg now n) ∨
    ((processRequester cfg now n).qp.sendQ.workLeft now < n.qp.sendQ.workLeft now ∧
      (Spoiled cfg now n ∨ ¬RequesterDue now (processRequester cfg now n).qp)) := by
  by_cases hlive : n.qp.state = .RTS ∨ n.qp.state = .SQD
  · by_cases hwait : ∀ w ∈ n.qp.requester.waiting_swqe.head?, w.local_only_request = false ∧
        now < w.processing.local_ack_time
    · rw [processRequester_of_idle cfg hlive hwait]
      exact sending_turn cfg hc hlive hwait h
    · refine Or.inr (Or.inl ?_)
      rcases hw : n.qp.requester.waiting_swqe with _ | ⟨w, ws⟩
      · exact absurd (by simp [hw]) hwait
      unfold processRequester
      rw [if_neg (by tauto), hw]
      dsimp only
      split
      · have hdone := localDone_localHead cfg now hw
        obtain ⟨hfall, hmoved⟩ := localDone_serves now (live_of_state hlive) hw hdone
        exact ⟨hfall, Or.inr hmoved⟩
      rename_i hlocal
      have hlocal : w.local_only_request = false := by simpa using hlocal
      have ht : w.processing.local_ack_time ≤ now := by
        by_contra hgt
        refine hwait ?_
        rw [hw]
        rintro x ⟨⟩
        exact ⟨hlocal, Nat.lt_of_not_le hgt⟩
      rw [if_neg (Nat.not_lt.mpr ht)]
      exact expired_turn cfg hc hlive hw hlocal ht
  · left
    unfold processRequester
    rw [if_pos (by tauto)]
    exact ⟨rfl, fun hd => hlive hd.1⟩

/-- An iteration for a spoiled element gives it an error, and does nothing else. The
queue pair remains due, and the next iteration takes it down. -/
theorem Spoiled.marks {cfg : Config} {now : Nat} {n : Node} (hl : Listed n.qp.sendQ)
    (h : Spoiled cfg now n) :
    (processRequester cfg now n).send_buffer = n.send_buffer ∧
      (processRequester cfg now n).qp.sendQ.places = n.qp.sendQ.places ∧
      RequesterDue now (processRequester cfg now n).qp := by
  obtain ⟨hlive, hnil, hheld, w, ws, hs, hok, htime, hfail⟩ := h
  rw [processRequester_of_idle cfg hlive (by simp [hnil]), processSending, if_neg (by simp [hs])]
  cases processSendingHead_turn cfg now hs hl with
  | stays _ hwhy => exact absurd hwhy (by simp [hheld, htime])
  | fails hst => exact absurd hok hst
  | sends _ hnot => exact absurd hfail hnot
  | waits _ hnot => exact absurd hfail hnot
  | marks w' _ _ _ _ hq hst hcore hsched hbuf hcount =>
    generalize processSendingHead cfg now n = n' at hq hbuf hcount
    refine ⟨hbuf, ?_, ?_, Or.inr ⟨?_, Or.inr ⟨w', ws, congrArg SendQ.sending hq, hsched.le⟩⟩⟩
    · have hid : w'.core.trace_id = w.core.trace_id := congrArg SendWqe.trace_id hcore
      have hid : w'.trace_id = w.trace_id := hid
      have hs : n.qp.sendQ.sending = w :: ws := hs
      rw [hq]
      simp [SendQ.places, hs, hid]
    · have hstate : n'.qp.state = n.qp.state := congrArg SendQ.state hq
      rw [hstate]
      exact hlive
    · have hw : n'.qp.requester.waiting_swqe = [] := (congrArg SendQ.waiting hq).trans hnil
      rintro ⟨x, xs, -, ⟨-, hne⟩ | hmany⟩
      · exact hne hw
      · exact hheld ⟨w, ws, hs, Or.inr (hcount hmany)⟩

/-! ## One iteration for a datagram queue pair -/

/-- An iteration for a datagram queue pair, up to the decision at its end. -/
def udRequester (cfg : Config) (now : Nat) (n : UdNode) : UdNode :=
  if n.qp.state ≠ .RTS ∧ n.qp.state ≠ .SQD then n
  else if n.qp.requester.sending_swqe = [] then
    match processNewSendWr now n.qp with
    | none => n
    | some q => processUdSendingHead cfg now (n.setQp q)
  else processUdSendingHead cfg now n

theorem processUdScheduler_eq (cfg : Config) (now : Nat) (n : UdNode) :
    processUdScheduler cfg now n =
      (udRequester cfg now n).setQp (pibUtilRescheduleQp now (udRequester cfg now n).qp) := rfl

theorem Stalled.ud_stays (cfg : Config) {now : Nat} {n : UdNode} (h : Stalled now n.qp) :
    udRequester cfg now n = n := by
  have hnone := h.starts_none
  obtain ⟨⟨hrts, -⟩, -, hsend⟩ := h
  unfold udRequester
  rw [if_neg fun hst => hst.1 hrts]
  rcases hs : n.qp.requester.sending_swqe with _ | ⟨w, ws⟩
  · rw [if_pos rfl, hnone hs]
  rw [hs] at hsend
  rw [if_neg (List.cons_ne_nil w ws)]
  unfold processUdSendingHead
  rw [hs]
  dsimp only
  rw [if_neg fun he => hsend.1 ⟨w, ws, hs, Or.inr he⟩, if_pos hsend.2]

/-- What an iteration makes of the first sending datagram. -/
inductive UdTurn (now : Nat) (n : UdNode) (w : SendWqe) (ws : List SendWqe) (n' : UdNode) : Prop
  | stays (hn : n' = n) (hwhy : HeldUp n.qp ∨ now < w.processing.schedule_time)
  | fails (hdead : n'.qp.sendQ.live = false) (hflight : n'.qp.sendQ.flight = [])
      (hsub : n'.qp.sendQ.submitted = [])
  | sends (hstate : n'.qp.sendQ.state = n.qp.sendQ.state)
      (hsub : n'.qp.sendQ.submitted = n.qp.sendQ.submitted)
      (hwait : n'.qp.sendQ.waiting = n.qp.sendQ.waiting) (hsend : n'.qp.sendQ.sending = ws)

theorem udTurn_failUd {now : Nat} {n m : UdNode} {w : SendWqe} {ws : List SendWqe} (q : Qp)
    (v : SendWqe) (status : WcStatus) : UdTurn now n w ws (m.setQp (failUd q v ws status)) := by
  have h : (failUd q v ws status).sendQ.live = false ∧ (failUd q v ws status).sendQ.flight = [] ∧
      (failUd q v ws status).sendQ.submitted = [] := by
    unfold failUd pibUtilFlushQp flushSendQueue
    simp only [foldl_flushSendWqe]
    exact ⟨rfl, rfl, rfl⟩
  exact .fails h.1 h.2.1 h.2.2

theorem udSendingHead_turn (cfg : Config) (now : Nat) {n : UdNode} {w : SendWqe} {ws : List SendWqe}
    (hs : n.qp.requester.sending_swqe = w :: ws) (hlist : w.processing.list_type = .SENDING) :
    UdTurn now n w ws (processUdSendingHead cfg now n) := by
  have hdone : ∀ (q : Qp) (v : SendWqe), (finishUd q v ws).sendQ.state = q.sendQ.state ∧
      (finishUd q v ws).sendQ.submitted = q.sendQ.submitted ∧
      (finishUd q v ws).sendQ.waiting = q.sendQ.waiting ∧ (finishUd q v ws).sendQ.sending = ws := by
    intro q v
    unfold finishUd
    dsimp only
    split <;> exact ⟨rfl, rfl, rfl, rfl⟩
  have hlist : (w.setSchedule now).processing.list_type = .SENDING := hlist
  unfold processUdSendingHead
  rw [hs]
  dsimp only
  split
  · rename_i hmany
    exact .stays rfl (Or.inl ⟨w, ws, hs, Or.inr hmany⟩)
  split
  · rename_i hearly
    exact .stays rfl (Or.inr hearly)
  unfold processUdSendWr
  rw [if_neg (not_not.mpr hlist)]
  split
  · exact udTurn_failUd _ _ _
  unfold pibProcessUdQpRequest
  dsimp only
  split
  · obtain ⟨h1, h2, h3, h4⟩ := hdone n.qp (w.setSchedule now)
    exact .sends h1 h2 h3 h4
  · exact udTurn_failUd _ _ _

/-- An iteration finds nothing to do and nothing due, or moves an element. -/
theorem ud_turn (cfg : Config) {now : Nat} {n : UdNode} (hq : DatagramQ (fun _ => True) n.qp.lists)
    (h : ¬Stalled now n.qp) :
    (udRequester cfg now n = n ∧ ¬RequesterDue now n.qp) ∨
    ((udRequester cfg now n).qp.sendQ.workLeft now < n.qp.sendQ.workLeft now ∧
      (udRequester cfg now n).qp.sendQ.places ≠ n.qp.sendQ.places) := by
  have hnil : n.qp.requester.waiting_swqe = [] := hq.waiting
  have hwait : ∀ w ∈ n.qp.requester.waiting_swqe.head?, w.local_only_request = false ∧
      now < w.processing.local_ack_time := by
    simp [hnil]
  unfold udRequester
  by_cases hlive : n.qp.state = .RTS ∨ n.qp.state = .SQD
  · rw [if_neg (by tauto)]
    have hl := live_of_state hlive
    rcases hs : n.qp.requester.sending_swqe with _ | ⟨w, ws⟩
    · rw [if_pos rfl]
      rcases hnew : processNewSendWr now n.qp with _ | q
      · exact Or.inl ⟨rfl, not_due_of_none hwait h hs hnew⟩
      obtain ⟨v, vs, hsub, hsub', hsend', hstate'⟩ := newSendWr_lists hs hnew
      refine Or.inr (started_serves now hl hsub ?_)
      dsimp only
      cases udSendingHead_turn cfg now (n := n.setQp q) hsend' rfl with
      | stays hn =>
        rw [hn]
        exact Or.inr ⟨hstate', hsub'⟩
      | fails hdead _ hnone => exact Or.inl ⟨hdead, hnone⟩
      | sends hstate hsame => exact Or.inr ⟨hstate.trans hstate', hsame.trans hsub'⟩
    · rw [if_neg (List.cons_ne_nil w ws)]
      have hlist : w.processing.list_type = .SENDING := (hq.sending w (by simp [Qp.lists, hs])).1
      have hlen : ws.length < n.qp.sendQ.sending.length := by
        have hs : n.qp.sendQ.sending = w :: ws := hs
        rw [hs]
        exact Nat.lt_succ_self _
      have hmoved : ∀ s : SendQ, s.sending.length < n.qp.sendQ.sending.length →
          s.places ≠ n.qp.sendQ.places :=
        fun s hlt he => hlt.ne (SendQ.sending_length_of_places he)
      cases udSendingHead_turn cfg now hs hlist with
      | stays hn hwhy => exact Or.inl ⟨hn, not_due_of_stays hwait h hs hwhy⟩
      | fails hdead hflight =>
        refine Or.inr ⟨SendQ.falls_dead hl hdead, hmoved _ ?_⟩
        rw [(List.append_eq_nil_iff.mp hflight).2]
        exact Nat.zero_lt_of_lt hlen
      | sends hstate hsub hw hsend =>
        have hlt := (congrArg List.length hsend).trans_lt hlen
        refine Or.inr ⟨SendQ.falls_sent hstate hsub ?_ hlt, hmoved _ hlt⟩
        rw [SendQ.overdue, hw, SendQ.overdue]
  · rw [if_pos (by tauto)]
    exact Or.inl ⟨rfl, fun hd => hlive hd.1⟩

end pib
