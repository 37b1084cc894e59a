-- Responses are runs of moves of the abstract send queue: the loop over the
-- acknowledged elements, the responses of RDMA READ and atomic requests, and
-- the two causes to send again.
import Pib.SendMoves

namespace pib

open Bytes

variable (q : Qp) (psn : Nat) {l : InFlight} {w w' w₀ : SendWqe} {ws : List SendWqe} {s : SendQ}
    {n : Node} {p : RcPacket}

variable {c : Ctx}

/-! ## The front of the elements in flight -/

/-- `ws` is the list `l`, and nothing in flight stands before it. -/
def Front (l : InFlight) (ws : List SendWqe) (s : SendQ) : Prop :=
  match l with
  | .waiting => s.waiting = ws
  | .sending => s.waiting = [] ∧ s.sending = ws

theorem front_head (h : Front l (w :: ws) s) : s.head? = some w := by
  cases l with
  | waiting =>
    have h : s.waiting = w :: ws := h
    simp [SendQ.head?, SendQ.flight, h]
  | sending =>
    obtain ⟨h1, h2⟩ := h
    simp [SendQ.head?, SendQ.flight, h1, h2]

@[simp] theorem sendQ_setWaiting (ws : List SendWqe) (d : Int) :
    (q.setInFlight .waiting ws d).sendQ =
      { q.sendQ with waiting := ws, nr_waiting := q.sendQ.nr_waiting + d } := rfl

@[simp] theorem sendQ_setSending (ws : List SendWqe) (d : Int) :
    (q.setInFlight .sending ws d).sendQ =
      { q.sendQ with sending := ws, nr_sending := q.sendQ.nr_sending + d } := rfl

@[simp] theorem sendQ_freeSendWqe (w : SendWqe) :
    (q.freeSendWqe w).sendQ = { q.sendQ with free := q.sendQ.free ++ [w] } := rfl

theorem sendQ_setHead {q : Qp} (h : Front l (w :: ws) q.sendQ) :
    (q.setInFlight l (w' :: ws) 0).sendQ = q.sendQ.setHead w' := by
  cases l with
  | waiting =>
    have h : q.requester.waiting_swqe = w :: ws := h
    simp [SendQ.setHead, Qp.sendQ, Qp.setInFlight, h]
  | sending =>
    obtain ⟨h1, h2⟩ : q.requester.waiting_swqe = [] ∧ q.requester.sending_swqe = w :: ws := h
    simp [SendQ.setHead, Qp.sendQ, Qp.setInFlight, h1, h2]

theorem sendQ_dropHead {q : Qp} (h : Front l (w :: ws) q.sendQ) :
    (q.setInFlight l ws (-1)).sendQ = q.sendQ.dropHead := by
  cases l with
  | waiting =>
    have h : q.requester.waiting_swqe = w :: ws := h
    simp [SendQ.dropHead, Qp.sendQ, Qp.setInFlight, h, Int.sub_eq_add_neg]
  | sending =>
    obtain ⟨h1, h2⟩ : q.requester.waiting_swqe = [] ∧ q.requester.sending_swqe = w :: ws := h
    simp [SendQ.dropHead, Qp.sendQ, Qp.setInFlight, h1, h2, Int.sub_eq_add_neg]

theorem sendQ_completeSend (n : Node) (w : SendWqe) :
    (completeSend n w).qp.sendQ = { n.qp.sendQ with
      cq := n.qp.sendQ.cq ++ n.qp.sendQ.successWc w } := by
  have hs : isSignaled n.qp w = (n.qp.sendQ.sig_all || w.send_flags.SIGNALED) := rfl
  unfold completeSend SendQ.successWc
  rw [← hs]
  by_cases h : isSignaled n.qp w = true
  · rw [if_pos h, if_pos h]
    cases pibConvertWrOpcodeToWcOpcode w.opcode with
    | none => simp
    | some o => rfl
  · rw [if_neg h, if_neg h, List.append_nil]

/-! ## Positive acknowledges -/

/-- What `process_acknowledge` does to the first element in flight. -/
theorem processAcknowledge_cases (n : Node) (w : SendWqe) (psn : Nat) :
    (∃ w', processAcknowledge n w psn = (.ERROR, w', n) ∧ w'.core = w.core ∧
      w'.processing.status ≠ .SUCCESS ∧ w.MayGet w'.processing.status) ∨
    processAcknowledge n w psn = (.STOP, w, n) ∨
    (∃ k, processAcknowledge n w psn = (.CONTINUE, w.setAck k, n) ∧
      w.processing.ack_packets < k ∧ k < w.processing.all_packets ∧
      pibIsWrOpcodeRdAtomic w.opcode = false) ∨
    (processAcknowledge n w psn = (.COMPLETE, w,
        (completeSend n w).setQp ((completeSend n w).qp.setRequesterPsn w)) ∧
      pibIsWrOpcodeRdAtomic w.opcode = false ∧ w.processing.status = .SUCCESS) := by
  unfold processAcknowledge
  dsimp only
  split
  · rename_i h
    exact Or.inl ⟨w, rfl, rfl, h, Or.inl⟩
  rename_i hst
  split
  · exact Or.inr (Or.inl rfl)
  rename_i hd
  split
  · exact Or.inl ⟨_, rfl, rfl, by simp [SendWqe.setStatus], nofun⟩
  rename_i hr
  have hr : pibIsWrOpcodeRdAtomic w.opcode = false := by simpa using hr
  split
  · exact Or.inr (Or.inr (Or.inl ⟨_, rfl, by omega, by omega, hr⟩))
  · exact Or.inr (Or.inr (Or.inr ⟨rfl, hr, by simpa using hst⟩))

/-- How the queue stands when a loop of `receive_ACK_response` ends. -/
def AckEnds (c : Ctx) (l : InFlight) (s : SendQ) (n : Node) : AckEnd → Prop
  | .next => Moves c s [] n.qp.sendQ ∧ Front l [] n.qp.sendQ
  | .stop => Moves c s [] n.qp.sendQ
  | .error w => ∃ (s' : SendQ) (w₀ : SendWqe), Moves c s [] s' ∧ s'.head? = some w₀ ∧
      w.core = w₀.core ∧ n.qp.sendQ = s'.dropHead ∧ w.processing.status ≠ .SUCCESS ∧
      w₀.MayGet w.processing.status

theorem AckEnds.trans {s' : SendQ} {e : AckEnd}
    (h : Moves c s [] s') (he : AckEnds c l s' n e) : AckEnds c l s n e := by
  cases e with
  | next => exact ⟨Moves.trans_silent h he.1, he.2⟩
  | stop => exact Moves.trans_silent h he
  | error w =>
    obtain ⟨s₁, w₀, hm, hrest⟩ := he
    exact ⟨s₁, w₀, Moves.trans_silent h hm, hrest⟩

/-- Completing the first element, step by step as the driver does it. -/
theorem completeHead_eq (s : SendQ) (w f : SendWqe) (d : Int)
    (hd : d = if pibIsWrOpcodeRdAtomic w.opcode then s.nr_rd_atomic - 1 else s.nr_rd_atomic) :
    let s' := SendQ.dropHead { s with
      cq := s.cq ++ s.successWc w, nr_rd_atomic := d, psn := psnMask w.processing.expected_psn }
    { s' with free := s'.free ++ [f] } = s.completeHead w f := by
  subst hd
  unfold SendQ.completeHead SendQ.dropHead
  cases s.waiting <;> rfl

theorem front_dropHead (h : Front l (w :: ws) s) : Front l ws s.dropHead := by
  cases l with
  | waiting =>
    have h : s.waiting = w :: ws := h
    unfold SendQ.dropHead
    rw [h]
    rfl
  | sending =>
    obtain ⟨h1, h2⟩ := h
    unfold SendQ.dropHead
    simp only [h1, h2]
    exact ⟨rfl, rfl⟩

/-- The first element leaves its list for the free list, the rest being done. -/
theorem sendQ_leaveHead {f : SendWqe} {q : Qp} {d : Int} (hf : Front l (w :: ws) s)
    (hd : d = if pibIsWrOpcodeRdAtomic w.opcode then s.nr_rd_atomic - 1 else s.nr_rd_atomic)
    (hq : q.sendQ = { s with
      cq := s.cq ++ s.successWc w, nr_rd_atomic := d, psn := psnMask w.processing.expected_psn }) :
    ((q.setInFlight l ws (-1)).freeSendWqe f).sendQ = s.completeHead w f := by
  have hf' : Front l (w :: ws) q.sendQ := by
    rw [hq]
    cases l <;> exact hf
  rw [← completeHead_eq s w f d hd, ← hq, ← sendQ_dropHead hf']
  rfl

theorem sendQ_completeLoop
    (hf : Front l (w :: ws) n.qp.sendQ) (hop : pibIsWrOpcodeRdAtomic w.opcode = false) :
    ((((completeSend n w).qp.setRequesterPsn w).setInFlight l ws (-1)).freeSendWqe w).sendQ =
      n.qp.sendQ.completeHead w w := by
  refine sendQ_leaveHead (d := n.qp.sendQ.nr_rd_atomic) hf (by simp [hop]) ?_
  rw [show ((completeSend n w).qp.setRequesterPsn w).sendQ = { (completeSend n w).qp.sendQ with
    psn := psnMask w.processing.expected_psn } from rfl, sendQ_completeSend]

theorem ackLoop_ends (l : InFlight) :
    ∀ (ws : List SendWqe) (n : Node), Front l ws n.qp.sendQ →
      AckEnds c l n.qp.sendQ (ackLoop l psn ws n).1 (ackLoop l psn ws n).2 := by
  intro ws
  induction ws with
  | nil =>
    intro n hf
    exact ⟨Moves.refl _, hf⟩
  | cons w ws ih =>
    intro n hf
    have hhead := front_head hf
    unfold ackLoop
    rcases processAcknowledge_cases n w psn with ⟨w', he, hcore, hne, hst⟩ | he |
      ⟨k, he, hk1, hk2, hop⟩ | ⟨he, hop, hst⟩
    · rw [he]
      exact ⟨n.qp.sendQ, w, Moves.refl _, hhead, hcore, sendQ_dropHead hf, hne, hst⟩
    · rw [he]
      exact Moves.refl _
    · rw [he]
      have h := Move.ack (c := c) k hhead hop hk1 hk2
      rw [← sendQ_setHead hf] at h
      exact Moves.silent h
    · rw [he]
      -- the element completes and the loop goes on with the rest
      have h := Move.complete (c := c) (f := w) hhead rfl (.acked hop hst)
      have hq := sendQ_completeLoop hf hop
      refine AckEnds.trans (Moves.silent h) ?_
      rw [← hq]
      refine ih _ ?_
      rw [Node.setQp_qp, Node.setQp_qp, hq]
      have hfd := front_dropHead hf
      cases l <;> exact hfd

theorem core_wr_id (h : w'.core = w.core) : w'.wr_id = w.wr_id := by
  have h' := congrArg SendWqe.wr_id h
  exact h'

theorem core_opcode (h : w'.core = w.core) : w'.opcode = w.opcode := by
  have h' := congrArg SendWqe.opcode h
  exact h'

theorem core_key (h : w'.core = w.core) : w'.key = w.key := by
  have h' := congrArg SendWqe.key h
  exact h'

/-- The rest of the flight after its first element. -/
theorem flight_dropHead (h : s.head? = some w) :
    s.flight = w :: s.dropHead.flight ∧ s.dropHead.flight = s.flight.tail := by
  unfold SendQ.head? SendQ.flight at h
  unfold SendQ.flight SendQ.dropHead
  rcases hw : s.waiting with _ | ⟨a, as⟩
  · rw [hw] at h
    rcases hs : s.sending with _ | ⟨b, bs⟩
    · rw [hs] at h
      simp at h
    rw [hs] at h
    simp at h
    simp [h]
  · rw [hw] at h
    simp at h
    simp [h]

theorem dropHead_frame (s : SendQ) :
    s.dropHead.submitted = s.submitted ∧ s.dropHead.free = s.free ∧ s.dropHead.cq = s.cq ∧
      s.dropHead.empty [] [] = s.empty [] [] := by
  unfold SendQ.dropHead
  split <;> exact ⟨rfl, rfl, rfl, rfl⟩

/-- The first element fails: it is reported, and then all is flushed. -/
theorem failHead_eq (status : WcStatus) (free free' : List SendWqe) (hhead : s.head? = some w₀) :
    SendQ.failAll { s.dropHead with cq := s.dropHead.cq ++ [errorWc w₀ status], free } free' =
      s.failHead w₀ status free' := by
  obtain ⟨-, hf⟩ := flight_dropHead hhead
  obtain ⟨h1, h2, h3, h4⟩ := dropHead_frame s
  rw [SendQ.failHead, ← hf]
  simp only [SendQ.empty, SendQ.mk.injEq] at h4
  simp [SendQ.failAll, SendQ.empty, SendQ.flight, h1, h3, h4]

theorem failHead_perm (wcs : List Wc) (hhead : s.head? = some w₀) (hkey : w.key = w₀.key) :
    ((SendQ.allFree { s.dropHead with cq := wcs, free := s.dropHead.free ++ [w] }).map
      SendWqe.key).Perm ((s.free ++ s.flight ++ s.submitted).map SendWqe.key) := by
  obtain ⟨hf, -⟩ := flight_dropHead hhead
  obtain ⟨h1, h2, -⟩ := dropHead_frame s
  rw [hf]
  simp [SendQ.allFree, SendQ.flight, h1, h2, hkey]

/-- `failSend` on an element that has left its list fails the queue pair. -/
theorem moves_failSend {now : Nat} {q : Qp} (hq : q.sendQ = s.dropHead) (hhead : s.head? = some w₀)
    (hcore : w.core = w₀.core) (hne : w.processing.status ≠ .SUCCESS)
    (hst : w₀.MayGet w.processing.status) : Moves c s [] (failSend now q w).sendQ := by
  have hwc : errorWc w₀ w.processing.status =
      { wr_id := w.wr_id, status := w.processing.status, opcode := .ofWr w.opcode } := by
    rw [errorWc, core_wr_id hcore, core_opcode hcore]
  have hq' : ((q.insertSendError w.wr_id w.processing.status w.opcode).freeSendWqe w).sendQ =
      { s.dropHead with
        cq := s.dropHead.cq ++ [errorWc w₀ w.processing.status]
        free := s.dropHead.free ++ [w] } := by
    rw [← hq, hwc]
    rfl
  rw [failSend, sendQ_failQp, hq', failHead_eq _ _ _ hhead]
  exact Moves.silent (Move.fail hhead hne hst (failHead_perm _ hhead (core_key hcore)))

/-- Nothing or one element of a list is touched. -/
theorem forall₂_modify {R : SendWqe → SendWqe → Prop} (hrefl : ∀ w, R w w) (ws : List SendWqe)
    (i : Nat) (f : SendWqe → SendWqe) (hf : ∀ w, ws[i]? = some w → R w (f w)) :
    List.Forall₂ R ws (ws.modify i f) := by
  induction ws generalizing i with
  | nil => simp
  | cons w ws ih =>
    cases i with
    | zero =>
      rw [List.modify_zero_cons]
      exact List.Forall₂.cons (hf w rfl) (List.forall₂_same.mpr fun x _ => hrefl x)
    | succ i =>
      rw [List.modify_succ_cons]
      exact List.Forall₂.cons (hrefl w) (ih i fun x hx => hf x hx)

theorem moves_postpone : Moves c q.sendQ [] (postponeLocalAckTimeout c.now q).sendQ := by
  refine Moves.silent (Move.touch (s := q.sendQ) _ _ ?_ (List.forall₂_same.mpr fun w _ =>
    Touched.refl c w))
  refine List.forall₂_map_right_iff.mpr (List.forall₂_same.mpr fun w _ => ?_)
  exact ⟨⟨rfl, Or.inl rfl, Or.inl rfl, Or.inl⟩, Or.inr rfl⟩

theorem completeSend_requester (n : Node) (w : SendWqe) :
    (completeSend n w).qp.requester = n.qp.requester := by
  unfold completeSend
  split
  · split <;> rfl
  · rfl

theorem moves_receiveAckResponse (n : Node) (psn : Nat) :
    Moves c n.qp.sendQ [] (receiveAckResponse c.now n psn).qp.sendQ := by
  have h1 := ackLoop_ends (c := c) psn .waiting n.qp.requester.waiting_swqe n rfl
  unfold receiveAckResponse
  generalize ackLoop .waiting psn n.qp.requester.waiting_swqe n = r at h1 ⊢
  obtain ⟨n₁, e₁⟩ := r
  cases e₁ with
  | error w =>
    obtain ⟨s', w₀, hm, hh, hcore, hd, hne, hst⟩ := h1
    exact hm.trans_silent (moves_failSend hd hh hcore hne hst)
  | stop =>
    have h1 : Moves c n.qp.sendQ [] n₁.qp.sendQ := h1
    exact h1.trans_silent (moves_postpone n₁.qp)
  | next =>
    obtain ⟨hm, hf⟩ := h1
    have hf' : Front .sending n₁.qp.requester.sending_swqe n₁.qp.sendQ := ⟨hf, rfl⟩
    have h2 := ackLoop_ends (c := c) psn .sending n₁.qp.requester.sending_swqe n₁ hf'
    refine hm.trans_silent ?_
    dsimp only
    generalize ackLoop .sending psn n₁.qp.requester.sending_swqe n₁ = r at h2 ⊢
    obtain ⟨n₂, e₂⟩ := r
    cases e₂ with
    | error w =>
      obtain ⟨s', w₀, hm, hh, hcore, hd, hne, hst⟩ := h2
      exact hm.trans_silent (moves_failSend hd hh hcore hne hst)
    | stop =>
      have h2 : Moves c n₁.qp.sendQ [] n₂.qp.sendQ := h2
      exact h2.trans_silent (moves_postpone n₂.qp)
    | next => exact h2.1.trans_silent (moves_postpone n₂.qp)

/-! ## Responses to RDMA READ and atomic requests -/

/-- The status of one element in flight is set. -/
theorem moves_setStatusAt (l : InFlight) (i : Nat) {status : WcStatus}
    (hst : status ≠ .RNR_RETRY_EXC_ERR) :
    Moves c q.sendQ [] (q.modifyInFlight l i (·.setStatus status)).sendQ := by
  have hw := fun w => (⟨rfl, Or.inl rfl, Or.inl rfl, fun h => absurd h hst⟩ :
    Touched c w (w.setStatus status))
  cases l with
  | waiting =>
    have h := Moves.silent (Move.touch (c := c) (s := q.sendQ) _ _
      (forall₂_modify (TouchedWaiting.refl c _) _ i (·.setStatus status) fun w _ =>
        ⟨hw w, Or.inl rfl⟩) (List.forall₂_same.mpr fun w _ => Touched.refl c w))
    simpa [Qp.modifyInFlight, Qp.setInFlight, Qp.inFlight, Qp.sendQ] using h
  | sending =>
    have h := Moves.silent (Move.touch (c := c) (s := q.sendQ) _ _
      (List.forall₂_same.mpr fun w _ => TouchedWaiting.refl c _ w)
      (forall₂_modify (Touched.refl c) _ i (·.setStatus status) fun w _ => hw w))
    simpa [Qp.modifyInFlight, Qp.setInFlight, Qp.inFlight, Qp.sendQ] using h

/-- `first_send_wqe` finds the front of the elements in flight. -/
theorem front_of_isFirst {q : Qp} {i : Nat} (h : isFirst q l i = true)
    (hw : (q.inFlight l)[i]? = some w) : i = 0 ∧ ∃ ws, Front l (w :: ws) q.sendQ := by
  simp only [isFirst, Bool.and_eq_true, Bool.or_eq_true, decide_eq_true_eq] at h
  obtain ⟨rfl, hl⟩ := h
  rcases hq : q.inFlight l with _ | ⟨x, ws⟩
  · rw [hq] at hw
    simp at hw
  rw [hq] at hw
  obtain rfl : x = w := by simpa using hw
  refine ⟨rfl, ws, ?_⟩
  cases l with
  | waiting => exact hq
  | sending =>
    rcases hl with hl | hl
    · simp at hl
    · exact ⟨List.isEmpty_iff.mp hl, hq⟩

theorem finishRdAtomic_qp (now : Nat) (n : Node) (l : InFlight) (i : Nat) (w : SendWqe) :
    (finishRdAtomic now n l i w).qp = postponeLocalAckTimeout now
      ((((completeSend n w).qp.decRequesterRdAtomic.setRequesterPsn w).setInFlight l
        (((completeSend n w).qp.inFlight l).eraseIdx i) (-1)).freeSendWqe w) := by
  unfold finishRdAtomic
  dsimp only
  split <;> rfl

theorem front_inFlight {q : Qp} (h : Front l ws q.sendQ) : q.inFlight l = ws := by
  cases l with
  | waiting => exact h
  | sending => exact h.2

/-- The first element in flight is done and leaves the queue as `f`. -/
theorem moves_finishRdAtomic {f : SendWqe}
    (hf : Front l (w :: ws) n.qp.sendQ) (hrd : pibIsWrOpcodeRdAtomic w.opcode = true)
    (why : Completes w) (hcore : f.key = w.key ∧ n.qp.sendQ.successWc f = n.qp.sendQ.successWc w ∧
      f.processing.expected_psn = w.processing.expected_psn) :
    Moves c n.qp.sendQ [] (finishRdAtomic c.now n l 0 f).qp.sendQ := by
  obtain ⟨hk, hwc, he⟩ := hcore
  have hr := completeSend_requester n f
  have hin : (completeSend n f).qp.inFlight l = w :: ws := by
    rw [← front_inFlight hf]
    cases l with
    | waiting => exact congrArg Requester.waiting_swqe hr
    | sending => exact congrArg Requester.sending_swqe hr
  rw [finishRdAtomic_qp, hin]
  refine Moves.trans_silent (Moves.silent (Move.complete (front_head hf) hk why)) ?_
  refine Moves.trans_silent (Moves.of_eq ?_) (moves_postpone _)
  refine sendQ_leaveHead (d := n.qp.sendQ.nr_rd_atomic - 1) hf (by simp [hrd]) ?_
  rw [← hwc, ← he]
  rw [show ((completeSend n f).qp.decRequesterRdAtomic.setRequesterPsn f).sendQ =
    { (completeSend n f).qp.sendQ with
      nr_rd_atomic := (completeSend n f).qp.sendQ.nr_rd_atomic - 1
      psn := psnMask f.processing.expected_psn } from rfl, sendQ_completeSend]

theorem countReadResponse_sendQ (n : Node) : (countReadResponse n).qp.sendQ = n.qp.sendQ := by
  unfold countReadResponse
  dsimp only
  split <;> rfl

/-- The data of a response to an RDMA READ has been stored. -/
theorem moves_acceptReadResponse (hf : Front l (w :: ws) n.qp.sendQ) (hop : w.opcode = .RDMA_READ) :
    Moves c n.qp.sendQ [] (acceptReadResponse c.now n l 0
      (w.progress (c.now + n.qp.local_ack_timeout))).qp.sendQ := by
  have hs := countReadResponse_sendQ n
  unfold acceptReadResponse
  dsimp only
  have hlat : n.qp.local_ack_timeout = n.qp.sendQ.local_ack_timeout := rfl
  rw [hlat, ← hs]
  rw [← hs] at hf
  generalize countReadResponse n = n' at hf ⊢
  have hin := front_inFlight hf
  split
  · rename_i hlt
    have h := Move.progress (c := c) (front_head hf) hop hlt
    rw [← sendQ_setHead hf] at h
    rw [Node.setQp_qp, Qp.modifyInFlight, hin]
    exact Moves.silent h
  · rename_i hge
    exact moves_finishRdAtomic hf (by simp [hop, pibIsWrOpcodeRdAtomic])
      (Completes.read hop (Nat.le_of_not_lt hge)) ⟨rfl, rfl, rfl⟩

theorem moves_receiveRdmaReadResponse (n : Node) (psn : Nat) (buffer : List UInt8) :
    Moves c n.qp.sendQ [] (receiveRdmaReadResponse c.now n psn buffer).qp.sendQ := by
  unfold receiveRdmaReadResponse
  split
  · exact Moves.refl _
  rename_i l i hm
  split
  · exact Moves.refl _
  rename_i w hw
  have hne : (storeReadResponse n w buffer).1 ≠ .RNR_RETRY_EXC_ERR :=
    status_mrCopyData _ _ _ _ _ _ _ _
  generalize storeReadResponse n w buffer = r at hne ⊢
  obtain ⟨status, mem, data⟩ := r
  dsimp only at hne ⊢
  split
  · exact moves_setStatusAt n.qp l i nofun
  rename_i hop
  have hop : w.opcode = .RDMA_READ := by simpa using hop
  split
  · exact Moves.refl _
  rename_i hfirst
  have hfirst : isFirst n.qp l i = true := by
    by_contra h
    exact hfirst (Or.inl (by simpa using h))
  split
  · exact moves_setStatusAt n.qp l i hne
  · obtain ⟨rfl, ws, hf⟩ := front_of_isFirst hfirst hw
    exact moves_acceptReadResponse (n := { n with mem }) hf hop

theorem moves_receiveAtomicResponse (n : Node) (psn : Nat) (buffer : List UInt8) :
    Moves c n.qp.sendQ [] (receiveAtomicResponse c.now n psn buffer).qp.sendQ := by
  unfold receiveAtomicResponse
  split
  · exact Moves.refl _
  split
  · exact Moves.refl _
  rename_i l i hm
  split
  · exact Moves.refl _
  rename_i w hw
  have hne : (storeAtomicResponse n w buffer).1 ≠ .RNR_RETRY_EXC_ERR :=
    status_mrCopyData _ _ _ _ _ _ _ _
  generalize storeAtomicResponse n w buffer = r at hne ⊢
  obtain ⟨status, mem, data⟩ := r
  dsimp only at hne ⊢
  split
  · exact moves_setStatusAt n.qp l i nofun
  rename_i hop
  have hop : w.opcode = .ATOMIC_CMP_AND_SWP ∨ w.opcode = .ATOMIC_FETCH_AND_ADD := by
    by_contra h
    exact hop ⟨fun e => h (Or.inl e), fun e => h (Or.inr e)⟩
  split
  · exact Moves.refl _
  rename_i hfirst
  have hfirst : isFirst n.qp l i = true := by
    by_contra h
    exact hfirst (Or.inl (by simpa using h))
  split
  · exact moves_setStatusAt n.qp l i hne
  obtain ⟨rfl, ws, hf⟩ := front_of_isFirst hfirst hw
  refine moves_finishRdAtomic (n := { n with mem }) hf ?_ (.atomic hop)
    ⟨rfl, rfl, rfl⟩
  rcases hop with h | h <;> simp [h, pibIsWrOpcodeRdAtomic]

/-! ## Negative acknowledges -/

theorem moves_setSendWqeToError {status : WcStatus} (hst : status ≠ .RNR_RETRY_EXC_ERR) :
    Moves c q.sendQ [] (setSendWqeToError q psn status).sendQ := by
  unfold setSendWqeToError
  split
  · exact Moves.refl _
  · exact moves_setStatusAt q _ _ hst

theorem nakStatus_ne_rnr (syndrome : Nat) : nakStatus syndrome ≠ some .RNR_RETRY_EXC_ERR := by
  unfold nakStatus
  repeat' split
  all_goals exact nofun

theorem moves_resendWaiting : Moves c q.sendQ [] (resendWaiting q).sendQ :=
  Moves.silent (Move.resend (s := q.sendQ) q.requester.waiting_swqe
    (List.forall₂_same.mpr fun w _ => Touched.refl c w))

theorem moves_applyRnr {t : Nat} (hc : c.rnr) (ht : t < PIB_SCHED_TIMEOUT) :
    Moves c q.sendQ [] (applyRnr t q).sendQ := by
  unfold applyRnr
  split
  · exact Moves.refl _
  rename_i w ws hw
  split
  · refine Moves.silent (Move.touch (s := q.sendQ) _ _
      (List.forall₂_same.mpr fun w _ => TouchedWaiting.refl c _ w) ?_)
    have hs : q.sendQ.sending = w :: ws := hw
    rw [hs]
    exact List.Forall₂.cons ⟨rfl, Or.inr (Or.inr ⟨hc, ht⟩), Or.inr hc, Or.inl⟩
      (List.forall₂_same.mpr fun w _ => Touched.refl c w)
  · exact Moves.refl _

/-! ## Any response -/

theorem moves_acceptResponse (n : Node) (psn : Nat) (p : RcPacket) :
    Moves c n.qp.sendQ [] (acceptResponse c.now n psn p).qp.sendQ := by
  unfold acceptResponse dispatchResponse
  rw [Node.setQp_qp, sendQ_reportDrained]
  split
  all_goals first
    | with_reducible exact moves_receiveAckResponse n _
    | with_reducible exact moves_receiveRdmaReadResponse n _ _
    | with_reducible exact moves_receiveAtomicResponse n _ _
    | exact Moves.refl _

/-- The time that an RNR NAK asks to wait. -/
def rnrNakTime (cfg : Config) (p : RcPacket) : Option Nat :=
  if p.buffer.length < 4 ∨ p.opcode = .RDMA_READ_RESPONSE_MIDDLE then none
  else
    let syndrome := ofBe (p.buffer.take 4) / 2 ^ 24
    if syndCode syndrome = PIB_SYND_RNR_NAK_CODE then
      some (pibGetRnrNakTime cfg.HZ (syndrome % 32))
    else none

theorem moves_receiveResponse {cfg : Config} (hc : (rnrNakTime cfg p).isSome = true → c.rnr) :
    Moves c n.qp.sendQ [] (receiveResponse cfg c.now n p).qp.sendQ := by
  unfold receiveResponse
  split
  · exact Moves.refl _
  rename_i hlen
  dsimp only
  generalize hn : n.setQp { n.qp with requester := { n.qp.requester with
    nr_contig_requests := 0 } } = n'
  have hs : n'.qp.sendQ = n.qp.sendQ := by
    subst hn
    rfl
  rw [← hs]
  split
  · exact moves_acceptResponse n' _ p
  rename_i hmiddle
  split
  · exact moves_acceptResponse n' _ p
  split
  · rename_i hrnr
    refine (moves_resendWaiting n'.qp).trans_silent
      (moves_applyRnr _ (hc ?_) (pibGetRnrNakTime_lt cfg.HZ _))
    rw [rnrNakTime, if_neg (not_or.mpr ⟨hlen, hmiddle⟩)]
    exact (congrArg Option.isSome (if_pos hrnr)).trans rfl
  split
  · split
    · exact moves_resendWaiting n'.qp
    split
    · rename_i status hnak
      have hne : status ≠ .RNR_RETRY_EXC_ERR := fun h => nakStatus_ne_rnr _ (h ▸ hnak)
      exact (moves_setSendWqeToError n'.qp (psnMask p.psn) hne).trans_silent
        (moves_acceptResponse (n'.setQp _) _ p)
    · exact moves_acceptResponse n' _ p
  · exact Moves.refl _

/-- The packet is an RNR NAK that the queue pair takes. -/
def rnrNakTaken (cfg : Config) (q : Qp) (port_num : Nat) (p : RcPacket) : Option Nat :=
  if pibIsRecvOk q.state = true ∧ q.attr.port_num = port_num ∧
      pibOpcodeIsAcknowledge p.opcode = some true then rnrNakTime cfg p
  else none

/-- Any packet is a run of moves, and only responses move more than a failure. -/
theorem moves_receive {cfg : Config} {port_num : Nat}
    (hc : (rnrNakTaken cfg n.qp port_num p).isSome = true → c.rnr) :
    Moves c n.qp.sendQ [] (pibReceiveRcQpIncomingMessage cfg c.now port_num n p).qp.sendQ := by
  unfold pibReceiveRcQpIncomingMessage
  split
  · exact Moves.refl _
  rename_i htaken
  obtain ⟨hok, hport⟩ := not_or.mp htaken
  split
  · exact Moves.refl _
  split
  · exact Moves.refl _
  · rename_i hack
    rw [rnrNakTaken, if_pos ⟨by simpa using hok, not_not.mp hport, hack⟩] at hc
    exact moves_receiveResponse hc
  · exact moves_receiveRequest cfg c.now n p

end pib
