-- The scheduler and the verbs are runs of moves of the abstract send queue:
-- one iteration for a queue pair, and a chain of work requests.
import Pib.SendMovesResponse

namespace pib

open Bytes

variable (cfg : Config) (now : Nat) {q : Qp} {n : Node} {w w' : SendWqe} {ws : List SendWqe}
    {copyFromUser : Nat → Nat → Option (List UInt8)} {total_length : Nat} {wr : SendWr}

variable {c : Ctx}

/-! ## The scheduler -/

/-- A new element starts when nothing is being sent. -/
theorem moves_processNewSendWr {q' : Qp} (hsend : q.requester.sending_swqe = [])
    (h : processNewSendWr c.now q = some q') : Moves c q.sendQ [] q'.sendQ := by
  obtain ⟨hst, w, ws, hw, hopen, rfl⟩ := processNewSendWr_some h
  simp only [mustWait, Bool.or_eq_false_iff, Bool.and_eq_false_iff] at hopen
  have hrd : (pibIsWrOpcodeRdAtomic w.opcode = true →
      q.requester.nr_rd_atomic < q.requester.max_rd_atomic) ∧
      (w.send_flags.FENCE = true → q.requester.nr_rd_atomic ≤ 0) := by
    constructor
    · intro hop
      exact not_le.mp (of_decide_eq_false (hopen.2.resolve_left (by simp [hop])))
    · intro hf
      exact not_lt.mp (of_decide_eq_false (hopen.1.resolve_left (by simp [hf])).1)
  have hm := @Move.start c q.sendQ w (startSending c.now q w) ws hst hsend hw _ rfl hrd rfl
  refine (Moves.silent hm).trans_silent (Moves.of_eq ?_)
  simp only [Qp.sendQ, hsend, List.nil_append]

/-- What becomes of the first sending element in `pib_process_rc_qp_request`. -/
inductive Sent (c : Ctx) (t : Nat) (w w' : SendWqe) : Prop
  | same (h : Touched c w w') (hl : w'.processing.list_type = w.processing.list_type)
  | more (hop : w.opcode ≠ .RDMA_READ)
      (hk : u32 (w.processing.sent_packets + 1) < w.processing.all_packets)
      (h : w' = w.setSent (u32 (w.processing.sent_packets + 1)))
  | waits (sent : Nat)
      (hsent : (w.local_only_request = true ∧ sent = w.processing.sent_packets) ∨
        (w.opcode = .RDMA_READ ∧ sent = w.processing.sent_packets) ∨
        (w.opcode ≠ .RDMA_READ ∧ sent = u32 (w.processing.sent_packets + 1) ∧
          w.processing.all_packets ≤ sent))
      (hcore : w'.core = ((w.setSent sent).setList .WAITING).core)
      (hack : w'.processing.local_ack_time = t)
      (hsch : w'.processing.schedule_time = w.processing.schedule_time)
      (hst : w'.processing.status = w.processing.status ∧
        w'.processing.rnr_retry = w.processing.rnr_retry)

/-- What `pib_process_local_only_request` does to its element. -/
theorem processLocalOnly_touched (n : Node) (w : SendWqe) :
    (pibProcessLocalOnlyRequest n w).1.qp = n.qp ∧
      (∃ status, ∃ done, (pibProcessLocalOnlyRequest n w).2.1 =
        { w with processing := { w.processing with status, done } }) ∧
      w.MayGet (pibProcessLocalOnlyRequest n w).2.1.processing.status ∧
      (w.processing.status = .SUCCESS → (pibProcessLocalOnlyRequest n w).2.2 = true →
        (pibProcessLocalOnlyRequest n w).2.1.processing.status = w.processing.status) := by
  have hinv : ∀ rkey, (pibUtilMrInvalidate n.pd rkey).1 ≠ .RNR_RETRY_EXC_ERR := by
    intro rkey
    unfold pibUtilMrInvalidate
    split
    · exact nofun
    · split <;> exact nofun
  have hreg : ∀ f, (pibUtilMrFastRegPmr n.pd f).1 ≠ .RNR_RETRY_EXC_ERR := by
    intro f
    unfold pibUtilMrFastRegPmr
    split
    · exact nofun
    · split <;> exact nofun
  unfold pibProcessLocalOnlyRequest
  split
  · exact ⟨rfl, ⟨_, _, rfl⟩, Or.inl, fun _ _ => rfl⟩
  split
  · refine ⟨rfl, ⟨_, _, rfl⟩, fun h => absurd h (hinv _), fun hst h => ?_⟩
    simpa [hst] using h
  · refine ⟨rfl, ⟨_, _, rfl⟩, fun h => absurd h (hreg _), fun hst h => ?_⟩
    simpa [hst] using h
  · exact ⟨rfl, ⟨_, _, rfl⟩, Or.inl, fun _ _ => rfl⟩

theorem processRcQpRequest_sent (n : Node) (w : SendWqe) (hst : w.processing.status = .SUCCESS) :
    (pibProcessRcQpRequest cfg c.now n w).1.qp.sendQ = n.qp.sendQ ∧
      Sent c (c.now + n.qp.local_ack_timeout) w (pibProcessRcQpRequest cfg c.now n w).2 := by
  obtain ⟨hq, ⟨status, done, hw⟩, hget, hok⟩ := processLocalOnly_touched n w
  have h := processRcQpRequest_cases cfg c.now n w
  generalize pibProcessRcQpRequest cfg c.now n w = r at h ⊢
  cases h with
  | ran hl _ he =>
    rw [he] at hq hw hok
    obtain rfl := hw
    refine ⟨by rw [hq], .waits _ (Or.inl ⟨hl, rfl⟩) rfl ?_ rfl ⟨hok hst rfl, rfl⟩⟩
    rw [← hq]
    rfl
  | failed _ _ he =>
    rw [he] at hq hw hget
    obtain rfl := hw
    exact ⟨by rw [hq], .same ⟨rfl, Or.inl rfl, Or.inl rfl, hget⟩ rfl⟩
  | later hl => exact ⟨rfl, .waits _ (Or.inl ⟨hl, rfl⟩) rfl rfl rfl ⟨rfl, rfl⟩⟩
  | exhausted _ hneg =>
    refine ⟨rfl, .same ⟨rfl, Or.inl rfl, Or.inl rfl, fun hrnr => ?_⟩ rfl⟩
    rcases hneg with ⟨-, rfl⟩ | ⟨hneg, -⟩
    · cases hrnr
    · exact Or.inr hneg
  | unbuilt _ _ _ _ hrnr =>
    have hs : (countRequest (n.written w).qp w false).sendQ = (n.written w).qp.sendQ := rfl
    exact ⟨hs.trans (by rw [Node.written_qp]), .same ⟨rfl, Or.inl rfl, Or.inl rfl,
      fun h => absurd h hrnr⟩ rfl⟩
  | sent _ _ _ _ hsent =>
    have hs : (countRequest (n.written w).qp w true).sendQ = (n.written w).qp.sendQ := rfl
    refine ⟨hs.trans (by rw [Node.written_qp]), ?_⟩
    rcases hsent with ⟨hop, rfl⟩ | ⟨hop, v, rfl, ⟨hlt, rfl⟩ | ⟨hge, rfl⟩⟩
    · exact .waits _ (Or.inr (Or.inl ⟨hop, rfl⟩)) rfl rfl rfl ⟨rfl, rfl⟩
    · exact .more hop hlt rfl
    · exact .waits _ (Or.inr (Or.inr ⟨hop, rfl, hge⟩)) rfl rfl rfl ⟨rfl, rfl⟩

/-- An element that is sent stays on the sending list or goes to the waiting list. -/
theorem list_processRcQpRequest (n : Node) (w : SendWqe)
    (hl : w.processing.list_type = .SENDING) (hst : w.processing.status = .SUCCESS) :
    (pibProcessRcQpRequest cfg now n w).2.processing.list_type = .SENDING ∨
      (pibProcessRcQpRequest cfg now n w).2.processing.list_type = .WAITING := by
  have hsent := (processRcQpRequest_sent (c := Ctx.any now) cfg n w hst).2
  cases hsent with
  | same _ h => exact Or.inl (h.trans hl)
  | more _ _ h =>
    have h : (pibProcessRcQpRequest cfg now n w).2 = w.setSent _ := h
    rw [h]
    exact Or.inl hl
  | waits _ _ hcore => exact Or.inr (congrArg (fun w => w.processing.list_type) hcore)

/-- The first sending element is touched. -/
theorem moves_touchSending {s : SendQ} (w' : SendWqe) (h : s.sending = w :: ws)
    (ht : Touched c w w') : Moves c s [] { s with sending := w' :: ws } := by
  refine Moves.silent (Move.touch s.waiting (w' :: ws)
    (List.forall₂_same.mpr fun x _ => TouchedWaiting.refl c _ x) ?_)
  rw [h]
  exact List.Forall₂.cons ht (List.forall₂_same.mpr fun x _ => Touched.refl c x)

/-- The first sending element has failed, and nothing waits before it. -/
theorem moves_failSending {now : Nat} (f : SendWqe)
    (h : q.requester.sending_swqe = w :: ws) (hwait : q.requester.waiting_swqe = [])
    (hne : w.processing.status ≠ .SUCCESS) (hf : f.key = w.key) :
    Moves c q.sendQ [] ((failQp now ((q.insertSendError w.wr_id w.processing.status
      w.opcode).setInFlight .sending ws (-1))).freeSendWqe f).sendQ := by
  have hfront : Front .sending (w :: ws) q.sendQ := ⟨hwait, h⟩
  have hhead := front_head hfront
  have hd := sendQ_dropHead hfront
  have hq : ((q.insertSendError w.wr_id w.processing.status w.opcode).setInFlight .sending ws
      (-1)).sendQ = { q.sendQ.dropHead with
        cq := q.sendQ.dropHead.cq ++ [errorWc w w.processing.status] } := by
    rw [← hd]
    rfl
  rw [sendQ_freeSendWqe, sendQ_failQp, hq]
  refine Moves.trans_silent (Moves.silent (Move.fail hhead hne Or.inl ?_))
    (Moves.of_eq (failHead_eq w.processing.status q.sendQ.dropHead.free _ hhead))
  refine List.Perm.trans ?_ (failHead_perm q.sendQ.cq hhead hf)
  refine List.Perm.map _ ?_
  simp only [SendQ.allFree, SendQ.failAll, SendQ.empty, List.append_assoc]
  refine List.Perm.append_left _ ?_
  simp only [← List.append_assoc, List.singleton_append]
  exact List.perm_append_singleton f _

/-- `process_send_wr` and the list change after it, for the first sending element. -/
theorem moves_processSendWr (h : n.qp.requester.sending_swqe = w :: ws)
    (hwait : w.processing.status ≠ .SUCCESS → n.qp.requester.waiting_swqe = []) :
    Moves c n.qp.sendQ [] (processSendWr cfg c.now n w ws).qp.sendQ := by
  unfold processSendWr
  split
  · exact Moves.refl _
  rename_i hlist
  have hlist : w.processing.list_type = .SENDING := by simpa using hlist
  split
  · rename_i hne
    exact moves_failSending _ h (hwait hne) hne rfl
  rename_i hst
  have hst : w.processing.status = .SUCCESS := by simpa using hst
  obtain ⟨hq, hsent⟩ := processRcQpRequest_sent (c := c) cfg n w hst
  generalize pibProcessRcQpRequest cfg c.now n w = r at hq hsent ⊢
  obtain ⟨n', w'⟩ := r
  dsimp only at hq hsent ⊢
  have hs : n.qp.sendQ.sending = w :: ws := h
  rcases hsent with ⟨ht, hl⟩ | ⟨hop, hk, rfl⟩ | ⟨sent, hsent, hcore, hack, hsch, hst'⟩
  · rw [hl, hlist]
    dsimp only
    rw [Node.setQp_qp, sendQ_setSending, hq, Int.add_zero]
    exact moves_touchSending w' hs ht
  · rw [show (w.setSent (u32 (w.processing.sent_packets + 1))).processing.list_type = .SENDING
      from hlist]
    dsimp only
    rw [Node.setQp_qp, sendQ_setSending, hq, Int.add_zero]
    exact Moves.silent (Move.sendMore hs hop hk)
  rw [show w'.processing.list_type = .WAITING from
    congrArg (fun x : SendWqe => x.processing.list_type) hcore]
  dsimp only
  have hm := Move.wait (c := c) sent hs hsent hcore hack hsch hst'
  have hw : (n'.qp.setInFlight .sending ws (-1)).requester.waiting_swqe =
      n.qp.sendQ.waiting := congrArg SendQ.waiting hq
  rw [Node.setQp_qp, sendQ_setWaiting, sendQ_setSending, hq, hw]
  exact Moves.silent hm

/-- The schedule time of the first sending element is set. -/
theorem moves_setSchedule (h : q.requester.sending_swqe = w :: ws)
    (ht : w.processing.schedule_time ≤ c.now) :
    Moves c q.sendQ [] (q.setInFlight .sending (w.setSchedule c.now :: ws) 0).sendQ := by
  rw [sendQ_setSending, Int.add_zero]
  exact moves_touchSending (s := q.sendQ) (w.setSchedule c.now) h
    ⟨rfl, Or.inr (Or.inl ⟨ht, rfl⟩), Or.inl rfl, Or.inl⟩

theorem moves_processSendingHead (n : Node) :
    Moves c n.qp.sendQ [] (processSendingHead cfg c.now n).qp.sendQ := by
  unfold processSendingHead
  split
  · exact Moves.refl _
  rename_i w ws hw
  split
  · exact Moves.refl _
  rename_i hwait
  split
  · exact Moves.refl _
  split
  · exact Moves.refl _
  rename_i htime
  refine (moves_setSchedule (c := c) hw (Nat.le_of_not_lt htime)).trans_silent
    (moves_processSendWr cfg (n := n.setQp _) rfl fun hne => ?_)
  by_contra hw
  exact hwait ⟨hne, hw⟩

theorem moves_expireTimer (h : q.requester.waiting_swqe = w :: ws) :
    Moves c q.sendQ [] (expireTimer c.now q w ws).sendQ := by
  have hw : q.sendQ.waiting = w :: ws := h
  have hm := Move.resend (c := c) (s := q.sendQ) ({ w with processing := { w.processing with
      retry_cnt := w.processing.retry_cnt - 1
      local_ack_time := c.now + PIB_SCHED_TIMEOUT } } :: ws) ?_
  · refine Moves.trans_silent (Moves.silent hm) (Moves.of_eq ?_)
    unfold expireTimer resendWaiting SendQ.resend
    simp [Qp.sendQ, Qp.setInFlight, h, SendWqe.setSent]
  · rw [hw]
    exact List.Forall₂.cons ⟨rfl, Or.inl rfl, Or.inl rfl, Or.inl⟩
      (List.forall₂_same.mpr fun x _ => Touched.refl c x)

theorem moves_turn {m : Node} (h : GetsTurn c.now n m) : Moves c n.qp.sendQ [] m.qp.sendQ := by
  cases h with
  | next => exact Moves.refl _
  | expired hw => exact moves_expireTimer hw
  | new hs hq => exact moves_processNewSendWr hs hq

/-- The requester's part of the scheduler, when no local request waits first. -/
theorem moves_processRequester
    (hlocal : ∀ w ws, n.qp.requester.waiting_swqe = w :: ws → w.local_only_request = false) :
    Moves c n.qp.sendQ [] (processRequester cfg c.now n).qp.sendQ := by
  have h := processRequester_cases cfg c.now n
  generalize processRequester cfg c.now n = n', sendingTurn c.now n = o at h ⊢
  cases h with
  | idle => exact Moves.refl _
  | localHead _ hw hl => exact nomatch (hlocal _ _ hw).symm.trans hl
  | turn _ _ ht => exact (moves_turn ht).trans_silent (moves_processSendingHead cfg _)

/-- One iteration of the scheduler, when no local request waits first. -/
theorem moves_processOnQpScheduler
    (hlocal : ∀ w ws, n.qp.requester.waiting_swqe = w :: ws → w.local_only_request = false) :
    Moves c n.qp.sendQ [] (processOnQpScheduler cfg c.now n).qp.sendQ := by
  obtain ⟨n', he, h⟩ := scheduler_cases cfg c.now n
  rw [he, Node.setQp_qp, sendQ_rescheduleQp]
  rcases h with h | ⟨-, rfl⟩
  · exact Moves.of_eq (by rw [← sendQ_generateAcknowledge n, h])
  · exact moves_processRequester cfg hlocal

/-- A turn of the scheduler that carries out a local request, or none. -/
theorem schedule_localHead (n : Node) :
    (∀ w ws, n.qp.requester.waiting_swqe = w :: ws → w.local_only_request = false) ∨
    (processOnQpScheduler cfg now n).qp.sendQ = n.qp.sendQ ∨
    ∃ w ws, n.qp.requester.waiting_swqe = w :: ws ∧ w.local_only_request = true ∧
      (pibGenerateRcQpAcknowledge n).2 = false ∧ (n.qp.state = .RTS ∨ n.qp.state = .SQD) ∧
      (processOnQpScheduler cfg now n).qp.sendQ = (processLocalOnlyHead cfg now n w ws).qp.sendQ := by
  obtain ⟨n', he, h⟩ := scheduler_cases cfg now n
  rw [he, Node.setQp_qp, sendQ_rescheduleQp]
  rcases h with h | ⟨h, rfl⟩
  · exact Or.inr (Or.inl (by rw [← sendQ_generateAcknowledge n, h]))
  have hr := processRequester_cases cfg now n
  generalize processRequester cfg now n = n', sendingTurn now n = o at hr ⊢
  cases hr with
  | idle => exact Or.inr (Or.inl rfl)
  | localHead hlive hw hl => exact Or.inr (Or.inr ⟨_, _, hw, hl, by rw [h], hlive, rfl⟩)
  | turn _ hl => exact Or.inl hl

/-- An element without what `processing` holds. -/
def SendWqe.body (w : SendWqe) : SendWqe := { w with processing := {} }

/-- What a local request at the head of the waiting list leaves of the send
queue: it goes to the free list, or the queue pair fails. The counter of
waiting elements is then wrong. -/
inductive LocalDone (s : SendQ) (ws : List SendWqe) : SendQ → Prop
  | retired (f : SendWqe) (hf : ∃ w ∈ s.waiting, f.body = w.body) :
      LocalDone s ws
        { s with waiting := ws, nr_waiting := s.nr_waiting - 1, free := s.free ++ [f] }
  | failed (free : List SendWqe) (nr_waiting : Int) (cq : List Wc)
      (hf : ∀ f ∈ free, ∃ w ∈ s.allFree, f.body = w.body)
      (hcq : ∃ w vs status, s.waiting = w :: ws ∧ w.MayGet status ∧
        cq = s.cq ++ errorWc w status :: List.map flushWc vs) :
      LocalDone s ws { s with
        state := .ERR, waiting := [], sending := [], submitted := [], free, nr_waiting
        nr_sending := 0, nr_submitted := 0, nr_rd_atomic := 0, cq }

theorem localDone_localHead (hw : n.qp.requester.waiting_swqe = w :: ws) :
    LocalDone n.qp.sendQ ws (processLocalOnlyHead cfg now n w ws).qp.sendQ := by
  have hmem : w ∈ n.qp.sendQ.waiting := by simp [Qp.sendQ, hw]
  have hres : ∀ r : Node × SendWqe × Bool, r.1.qp = n.qp →
      (∃ status, ∃ done, r.2.1 = { w with processing := { w.processing with status, done } }) →
      w.MayGet r.2.1.processing.status → LocalDone n.qp.sendQ ws (settleLocal now ws r).qp.sendQ := by
    rintro ⟨n', f, ok⟩ hq ⟨status, done, hf⟩ hget
    have hq : n'.qp = n.qp := hq
    have hf : f = { w with processing := { w.processing with status, done } } := hf
    have hbody : f.body = w.body := by rw [hf]; rfl
    cases ok <;> rw [settleLocal, Node.setQp_qp, hq]
    · have he := sendQ_failQp now
        ((n.qp.setInFlight .waiting (f :: ws) 0).insertSendError f.wr_id f.processing.status f.opcode)
      unfold failLocal
      dsimp only
      generalize failQp now _ = q at he ⊢
      have hframe : ∀ free nr, (∀ x ∈ free, ∃ y ∈ n.qp.sendQ.allFree, x.body = y.body) →
          LocalDone n.qp.sendQ ws { q.sendQ with free := free, nr_waiting := nr } := by
        intro free nr hfree
        rw [he]
        refine .failed free nr _ hfree ⟨w, f :: ws ++ n.qp.requester.sending_swqe ++
          n.qp.requester.submitted_swqe, f.processing.status, hw, hget, ?_⟩
        subst hf
        exact List.append_assoc ..
      refine hframe _ _ fun x hx => ?_
      have hfree : q.requester.free_swqe = n.qp.requester.free_swqe ++ (f :: ws) ++
          n.qp.requester.sending_swqe ++ n.qp.requester.submitted_swqe := congrArg SendQ.free he
      simp only [Qp.freeSendWqe, List.mem_append, List.mem_filter, hfree, List.mem_cons,
        List.not_mem_nil, or_false] at hx
      simp only [SendQ.allFree, Qp.sendQ, hw, List.mem_append, List.mem_cons]
      rcases hx with ⟨((hx | hx | hx) | hx) | hx, -⟩ | rfl
      · exact ⟨x, by tauto, rfl⟩
      · exact ⟨w, by tauto, hx ▸ hbody⟩
      · exact ⟨x, by tauto, rfl⟩
      · exact ⟨x, by tauto, rfl⟩
      · exact ⟨x, by tauto, rfl⟩
      · exact ⟨w, by tauto, hbody⟩
    · exact .retired _ ⟨w, hmem, hbody⟩
  unfold processLocalOnlyHead
  split
  · exact hres _ rfl ⟨_, _, rfl⟩ Or.inl
  · obtain ⟨hq, hf, hget, -⟩ := processLocalOnly_touched n w
    exact hres _ hq hf hget

/-! ## The verbs -/

/-- The work requests of a chain that `pib_post_send` accepts. -/
def acceptedWrs (cfg : Config) (copyFromUser : Nat → Nat → Option (List UInt8)) :
    Qp → Nat → List SendWr → List SendWr
  | _, _, [] => []
  | q, total_length, wr :: wrs =>
    match postSendWr cfg copyFromUser q total_length wr with
    | (_, _, some _) => []
    | (q, total_length, none) => wr :: acceptedWrs cfg copyFromUser q total_length wrs

theorem copyInlineData_frame (copyFromUser : UserCopy) (q : Qp) (w : SendWqe)
    (total_length : Nat) :
    ∃ bs, (copyInlineData copyFromUser q w total_length).1 = { w with inline_data_buffer := bs } := by
  unfold copyInlineData
  split
  · exact ⟨w.inline_data_buffer, rfl⟩
  · split <;> exact ⟨_, rfl⟩

theorem setWrParams_spec (w : SendWqe) (wr : SendWr) :
    (setWrParams w wr).trace_id = w.trace_id ∧
      (setWrParams w wr).local_only_request = (w.local_only_request ||
        decide (wr.opcode = .LOCAL_INV ∨ wr.opcode = .FAST_REG_MR)) ∧
      (setWrParams w wr).wr_id = w.wr_id ∧ (setWrParams w wr).opcode = w.opcode ∧
      (setWrParams w wr).send_flags = w.send_flags ∧
      (setWrParams w wr).total_length = w.total_length := by
  unfold setWrParams
  dsimp only
  split
  · rename_i h
    exact ⟨rfl, by simp [h], rfl, rfl, rfl, rfl⟩
  · rename_i h
    exact ⟨rfl, by simp [h], rfl, rfl, rfl, rfl⟩
  · rename_i h
    exact ⟨rfl, by simp [h], rfl, rfl, rfl, rfl⟩
  rename_i h1 h2 h3
  have h : ¬(wr.opcode = .LOCAL_INV ∨ wr.opcode = .FAST_REG_MR) := by
    rintro (h | h)
    · exact h2 h
    · exact h3 h
  exact ⟨rfl, by simp [h], rfl, rfl, rfl, rfl⟩

/-- An element that fails half-way is still the same free element. -/
theorem fillSwqe_error {cfg : Config} {sges : List Sge} {imm_data : Nat}
    {e : Errno} (h : fillSwqe cfg copyFromUser q total_length wr sges imm_data w = (w', some e)) :
    w'.key = w.key := by
  unfold fillSwqe at h
  dsimp only at h
  split at h
  · obtain ⟨rfl, -⟩ := Prod.mk.inj h
    rfl
  split at h
  · obtain ⟨bs, hbs⟩ := copyInlineData_frame copyFromUser q
      { startSwqe w wr sges imm_data with total_length := addLength cfg total_length wr sges }
      (addLength cfg total_length wr sges)
    split at h
    · obtain ⟨rfl, -⟩ := Prod.mk.inj h
      rw [hbs]
      rfl
    · simp at h
  · simp at h

/-- An element that is filled in stands for the work request. -/
theorem fillSwqe_ok {cfg : Config} {sges : List Sge} {imm_data : Nat}
    (h : fillSwqe cfg copyFromUser q total_length wr sges imm_data w = (w', none)) :
    w'.trace_id = w.trace_id ∧
      w'.local_only_request = (w.local_only_request ||
        decide (wr.opcode = .LOCAL_INV ∨ wr.opcode = .FAST_REG_MR)) ∧
      (w'.wr_id = wr.wr_id ∧ w'.opcode = wr.opcode ∧ w'.send_flags = wr.send_flags) ∧
      w'.processing.status = .SUCCESS ∧ w'.total_length ≤ PIB_MAX_PAYLOAD_LEN ∧
      w'.total_length = addLength cfg total_length wr sges := by
  unfold fillSwqe at h
  dsimp only at h
  split at h
  · simp at h
  rename_i hlen
  have hlen : addLength cfg total_length wr sges ≤ PIB_MAX_PAYLOAD_LEN := Nat.le_of_not_lt hlen
  split at h
  · obtain ⟨bs, hbs⟩ := copyInlineData_frame copyFromUser q
      { startSwqe w wr sges imm_data with total_length := addLength cfg total_length wr sges }
      (addLength cfg total_length wr sges)
    split at h
    · simp at h
    obtain ⟨rfl, -⟩ := Prod.mk.inj h
    rw [hbs]
    obtain ⟨h1, h2, h3, h4, h5, h6⟩ := setWrParams_spec { startSwqe w wr sges imm_data with
      total_length := addLength cfg total_length wr sges, inline_data_buffer := bs } wr
    exact ⟨h1, h2, ⟨h3, h4, h5⟩, rfl, h6.le.trans hlen, h6⟩
  · obtain ⟨rfl, -⟩ := Prod.mk.inj h
    obtain ⟨h1, h2, h3, h4, h5, h6⟩ := setWrParams_spec { startSwqe w wr sges imm_data with
      total_length := addLength cfg total_length wr sges } wr
    exact ⟨h1, h2, ⟨h3, h4, h5⟩, rfl, h6.le.trans hlen, h6⟩

/-- One work request is taken in, flushed or refused. -/
theorem moves_postSendWr {cfg : Config} {q' : Qp} {total_length' : Nat} {e : Option Errno}
    (h : postSendWr cfg copyFromUser q total_length wr = (q', total_length', e)) :
    Moves c q.sendQ (if e = none then [wr] else []) q'.sendQ := by
  unfold postSendWr at h
  split at h
  · obtain ⟨rfl, -, rfl⟩ : q = q' ∧ _ ∧ _ := by simpa using h
    exact Moves.refl _
  rename_i hreset
  split at h
  · rename_i herr
    obtain ⟨rfl, -, rfl⟩ : _ = q' ∧ _ ∧ none = e := by simpa using h
    exact Moves.one (Move.postFlushed wr herr)
  rename_i herr
  have hs : q.state = .RTR ∨ q.state = .RTS ∨ q.state = .SQD := by
    cases hq : q.state <;> simp [hq] at hreset herr ⊢
  dsimp only at h
  split at h
  · obtain ⟨rfl, -, rfl⟩ : q = q' ∧ _ ∧ _ := by simpa using h
    exact Moves.refl _
  split at h
  · obtain ⟨rfl, -, rfl⟩ : q = q' ∧ _ ∧ _ := by simpa using h
    exact Moves.refl _
  rename_i f fs hfree
  split at h
  · rename_i w e' he
    obtain ⟨rfl, -, rfl⟩ : _ = q' ∧ _ ∧ some e' = e := by simpa using h
    exact Moves.silent (Move.touchFree (s := q.sendQ) hfree (fillSwqe_error he))
  rename_i w he
  obtain ⟨rfl, -, rfl⟩ : _ = q' ∧ _ ∧ none = e := by simpa using h
  obtain ⟨h1, h2, h3, h4, h5, -⟩ := fillSwqe_ok he
  exact Moves.one (Move.post (s := q.sendQ) wr hs hfree h1 h2 h3 h4 h5)

/-- A chain of work requests, of which those in front of the first error are taken in. -/
theorem moves_postSendLoop (copyFromUser : UserCopy)
    (wrs : List SendWr) : ∀ (q : Qp) (total_length : Nat),
    Moves c q.sendQ (acceptedWrs cfg copyFromUser q total_length wrs)
      (postSendLoop cfg copyFromUser q total_length wrs).1.sendQ := by
  induction wrs with
  | nil =>
    intro q total_length
    exact Moves.refl _
  | cons wr wrs ih =>
    intro q total_length
    unfold postSendLoop acceptedWrs
    rcases hr : postSendWr cfg copyFromUser q total_length wr with ⟨q', total_length', _ | e⟩
    · exact (moves_postSendWr hr).trans (ih q' total_length')
    · exact moves_postSendWr hr

theorem moves_pibPostSend (copyFromUser : UserCopy)
    (now : Nat) (q : Qp) (wrs : List SendWr) :
    Moves c q.sendQ (acceptedWrs cfg copyFromUser q 0 wrs)
      (pibPostSend cfg copyFromUser now q wrs).1.sendQ := by
  unfold pibPostSend
  split
  · exact Moves.refl _
  have h := moves_postSendLoop (c := c) cfg copyFromUser (‹SendWr› :: ‹List SendWr›) q 0
  dsimp only
  split
  · rw [sendQ_getReadyToSend]
    exact h
  · exact h

/-- Posting receive requests leaves the send queue alone. -/
theorem sendQ_pibPostRecv (q : Qp) (wrs : List RecvWr) :
    (pibPostRecv cfg q wrs).1.sendQ = q.sendQ := sendQ_of_sendSide (sendSide_pibPostRecv cfg q wrs)

/-! ## One step of the machine -/

/-- The work requests that a step accepts. -/
def Act.accepted (cfg : Config) (q : Qp) : Act → List SendWr
  | .postSend copyFromUser wrs => acceptedWrs cfg copyFromUser q 0 wrs
  | _ => []

/-- The act is an RNR NAK that the queue pair takes. -/
def Act.rnrNak (cfg : Config) (q : Qp) : Act → Option Nat
  | .receive port_num p => rnrNakTaken cfg q port_num p
  | _ => none

/-- Every step but a change of state is a run of moves, when no local request
waits first. -/
theorem moves_act (isOk : StateCheck) {a : Act}
    (hmod : ∀ attr mask, a ≠ .modify attr mask)
    (hlocal : a = .schedule →
      ∀ w ws, n.qp.requester.waiting_swqe = w :: ws → w.local_only_request = false)
    (hc : (a.rnrNak cfg n.qp).isSome = true → c.rnr) :
    Moves c n.qp.sendQ (a.accepted cfg n.qp) (act cfg isOk c.now n a).qp.sendQ := by
  cases a with
  | postSend copyFromUser wrs => exact moves_pibPostSend cfg copyFromUser c.now n.qp wrs
  | postRecv wrs => exact Moves.of_eq (sendQ_pibPostRecv cfg n.qp wrs)
  | schedule =>
    exact moves_processOnQpScheduler cfg (n := { n with send_buffer := none }) (hlocal rfl)
  | receive port_num p =>
    have h := moves_receive (n := { n with send_buffer := none }) hc
    unfold act
    dsimp only
    rw [Node.setQp_qp, sendQ_rescheduleQp]
    exact h
  | modify attr mask => exact absurd rfl (hmod attr mask)
  | fatal => exact moves_failQp c.now n.qp
  | environment pd mem srq => exact Moves.refl _

end pib
