-- Positive acknowledges that tell the requester nothing new: one that comes a
-- second time, and one that lies before every packet that is outstanding. They
-- move nothing but the timers, which each of them starts again.
import Pib.RequesterQueue

namespace pib

open Bytes

variable (q : Qp) {s : SendQ} {w : SendWqe} {psn : Nat}

/-! ## The timers -/

/-- `postpone_local_ack_timeout` on the send queue. -/
def SendQ.postpone (now : Nat) (s : SendQ) : SendQ :=
  { s with waiting := s.waiting.map fun w => { w with processing := { w.processing with
      retry_cnt := s.attr.retry_cnt, local_ack_time := now + s.local_ack_timeout } } }

/-- The timers and the retry budgets of the waiting elements are as if they had been
started at `now`. -/
def SendQ.Renewed (now : Nat) (s : SendQ) : Prop :=
  ∀ w ∈ s.waiting, w.processing.retry_cnt = s.attr.retry_cnt ∧
    w.processing.local_ack_time = now + s.local_ack_timeout

theorem renewed_postpone (now : Nat) (s : SendQ) : (s.postpone now).Renewed now := by
  intro w hw
  obtain ⟨v, -, rfl⟩ := List.mem_map.mp hw
  exact ⟨rfl, rfl⟩

theorem postpone_eq_iff {now : Nat} : s.postpone now = s ↔ s.Renewed now := by
  constructor
  · intro h
    rw [← h]
    exact renewed_postpone now s
  · intro h
    have hmap : s.waiting.map (fun w => { w with processing := { w.processing with
        retry_cnt := (s.attr.retry_cnt : Int), local_ack_time := now + s.local_ack_timeout } }) =
        s.waiting := by
      refine (List.map_congr_left fun w hw => ?_).trans (List.map_id _)
      obtain ⟨hr, ht⟩ := h w hw
      rw [← hr, ← ht]
      rfl
    unfold SendQ.postpone
    rw [hmap]

/-- Renewed at two times: the times are the same, or nothing waits. -/
theorem renewed_again_iff {now now' : Nat} (h : s.Renewed now) :
    s.Renewed now' ↔ s.waiting = [] ∨ now' = now := by
  constructor
  · intro h'
    cases hw : s.waiting with
    | nil => exact Or.inl rfl
    | cons w ws =>
      have hm : w ∈ s.waiting := hw ▸ List.mem_cons_self
      have ht := (h w hm).2.symm.trans (h' w hm).2
      exact Or.inr (by omega)
  · rintro (hw | rfl)
    · intro w hm
      rw [hw] at hm
      cases hm
    · exact h

/-! ## Where the loops stop -/

/-- The acknowledge does not reach the next packet of the element. -/
def SendWqe.Behind (psn : Nat) (w : SendWqe) : Prop :=
  getPsnDiff psn w.processing.based_psn < 0 ∨
    getPsnDiff psn w.processing.based_psn + 1 ≤ w.processing.ack_packets

/-- The loops of `receive_ACK_response` stop at the element and leave it as it is. -/
def SendWqe.Settled (psn : Nat) (w : SendWqe) : Prop := w.processing.status = .SUCCESS ∧ w.Behind psn

theorem processAcknowledge_settled {n : Node} (h : w.Settled psn) :
    processAcknowledge n w psn = (.STOP, w, n) := by
  unfold processAcknowledge
  dsimp only
  rw [if_neg (not_not.mpr h.1)]
  exact if_pos h.2

/-- What `process_acknowledge` makes of an element: it fails, it is settled, as it was or
with more of its packets acknowledged, or it is complete. -/
theorem processAcknowledge_settles (n : Node) (w : SendWqe) (psn : Nat) :
    (∃ w', processAcknowledge n w psn = (.ERROR, w', n)) ∨
    (processAcknowledge n w psn = (.STOP, w, n) ∧ w.Settled psn) ∨
    (∃ w', processAcknowledge n w psn = (.CONTINUE, w', n) ∧ w'.Settled psn) ∨
    ∃ n', processAcknowledge n w psn = (.COMPLETE, w, n') ∧
      n'.qp.requester.waiting_swqe = n.qp.requester.waiting_swqe := by
  unfold processAcknowledge
  dsimp only
  by_cases hs : w.processing.status = .SUCCESS
  · rw [if_neg (not_not.mpr hs)]
    split
    · rename_i hb
      exact Or.inr (Or.inl ⟨rfl, hs, hb⟩)
    rename_i hb
    split
    · exact Or.inl ⟨_, rfl⟩
    split
    · refine Or.inr (Or.inr (Or.inl ⟨_, rfl, hs, Or.inr ?_⟩))
      dsimp only
      omega
    · refine Or.inr (Or.inr (Or.inr ⟨_, rfl, ?_⟩))
      have h := congrArg Requester.waiting_swqe (completeSend_requester n w)
      exact h
  · rw [if_pos hs]
    exact Or.inl ⟨_, rfl⟩

/-- What the loop over one of the lists leaves in it. -/
def AckLeft (psn : Nat) (l : InFlight) (q : Qp) : AckEnd → Prop
  | .next => q.inFlight l = []
  | .stop => ∃ w, (q.inFlight l).head? = some w ∧ w.Settled psn
  | .error _ => True

@[simp] theorem inFlight_setInFlight (l : InFlight) (ws : List SendWqe) (d : Int) :
    (q.setInFlight l ws d).inFlight l = ws := by
  cases l <;> rfl

@[simp] theorem inFlight_freeSendWqe (l : InFlight) (w : SendWqe) :
    (q.freeSendWqe w).inFlight l = q.inFlight l := by
  cases l <;> rfl

theorem ackLoop_left (psn : Nat) (l : InFlight) (ws : List SendWqe) (n : Node)
    (h : n.qp.inFlight l = ws) :
    AckLeft psn l (ackLoop l psn ws n).1.qp (ackLoop l psn ws n).2 := by
  induction ws generalizing n with
  | nil => exact h
  | cons w ws ih =>
    unfold ackLoop
    rcases processAcknowledge_settles n w psn with
      ⟨w', he⟩ | ⟨he, hs⟩ | ⟨w', he, hs⟩ | ⟨n', he, -⟩ <;> rw [he]
    · trivial
    · exact ⟨w, by rw [h]; rfl, hs⟩
    · exact ⟨w', by simp, hs⟩
    · exact ih _ (by simp)

/-- The loop over the sending list leaves the waiting list alone. -/
theorem ackLoop_sending_waiting (psn : Nat) (ws : List SendWqe) (n : Node) :
    (ackLoop .sending psn ws n).1.qp.requester.waiting_swqe = n.qp.requester.waiting_swqe := by
  induction ws generalizing n with
  | nil => rfl
  | cons w ws ih =>
    unfold ackLoop
    rcases processAcknowledge_settles n w psn with
      ⟨w', he⟩ | ⟨he, -⟩ | ⟨w', he, -⟩ | ⟨n', he, hw⟩ <;> rw [he]
    · rfl
    · rfl
    · exact (ih _).trans hw

/-! ## One acknowledge -/

/-- The first element in flight is one that the acknowledge does not touch. -/
def SendQ.HeadSettled (psn : Nat) (s : SendQ) : Prop := ∀ w ∈ s.head?, w.Settled psn

theorem headSettled_empty (hw : s.waiting = []) (hs : s.sending = []) : s.HeadSettled psn := by
  intro w hm
  rw [SendQ.head?, SendQ.flight, hw, hs] at hm
  cases hm

theorem headSettled_waiting (hw : s.waiting.head? = some w)
    (h : w.Settled psn) : s.HeadSettled psn := by
  intro v hv
  rw [SendQ.head?, SendQ.flight, List.head?_append, hw] at hv
  obtain rfl := Option.some.inj hv
  exact h

theorem headSettled_sending (hw : s.waiting = [])
    (hs : s.sending.head? = some w) (h : w.Settled psn) : s.HeadSettled psn := by
  intro v hv
  rw [SendQ.head?, SendQ.flight, hw, List.nil_append, hs] at hv
  obtain rfl := Option.some.inj hv
  exact h

/-- The timers have no part in being settled. -/
theorem headSettled_postpone {now : Nat} (h : s.HeadSettled psn) :
    (s.postpone now).HeadSettled psn := by
  cases hw : s.waiting with
  | nil =>
    intro w hm
    refine h w ?_
    rw [SendQ.head?, SendQ.flight, hw]
    rwa [SendQ.head?, SendQ.flight, SendQ.postpone, hw] at hm
  | cons w ws =>
    have hset : w.Settled psn := h w (by rw [SendQ.head?, SendQ.flight, hw]; rfl)
    refine headSettled_waiting (s := s.postpone now) (w := { w with processing := { w.processing with
      retry_cnt := s.attr.retry_cnt, local_ack_time := now + s.local_ack_timeout } }) ?_ hset
    rw [SendQ.postpone, hw]
    rfl

/-- A settled head stops the loops at once, and the timers are started again. -/
theorem sendQ_ack_settled {now : Nat} {n : Node} (h : n.qp.sendQ.HeadSettled psn) :
    (receiveAckResponse now n psn).qp.sendQ = n.qp.sendQ.postpone now := by
  have hstop : ∀ (l : InFlight) (w : SendWqe) (ws : List SendWqe), w.Settled psn →
      ackLoop l psn (w :: ws) n = (n, .stop) := by
    intro l w ws hw
    unfold ackLoop
    rw [processAcknowledge_settled hw]
  unfold receiveAckResponse
  cases hw : n.qp.requester.waiting_swqe with
  | cons w ws =>
    have hset : w.Settled psn := h w (by
      change (n.qp.requester.waiting_swqe ++ _).head? = _
      rw [hw]
      rfl)
    rw [hstop .waiting w ws hset]
    rfl
  | nil =>
    rw [ackLoop]
    dsimp only
    cases hs : n.qp.requester.sending_swqe with
    | nil => rfl
    | cons w ws =>
      have hset : w.Settled psn := h w (by
        change (n.qp.requester.waiting_swqe ++ n.qp.requester.sending_swqe).head? = _
        rw [hw, hs]
        rfl)
      rw [hstop .sending w ws hset]
      rfl

theorem sendQ_failSend_empty (now : Nat) (q : Qp) (w : SendWqe) :
    (failSend now q w).sendQ.waiting = [] ∧ (failSend now q w).sendQ.sending = [] := by
  rw [failSend, sendQ_failQp]
  exact ⟨rfl, rfl⟩

/-- After any acknowledge the head is settled and the timers have been started. -/
theorem ack_settles (now psn : Nat) (n : Node) :
    (receiveAckResponse now n psn).qp.sendQ.HeadSettled psn ∧
      (receiveAckResponse now n psn).qp.sendQ.Renewed now := by
  have hfail : ∀ (q : Qp) (w : SendWqe),
      (failSend now q w).sendQ.HeadSettled psn ∧ (failSend now q w).sendQ.Renewed now := by
    intro q w
    obtain ⟨hw, hs⟩ := sendQ_failSend_empty now q w
    refine ⟨headSettled_empty hw hs, fun v hv => ?_⟩
    rw [hw] at hv
    cases hv
  have hpost : ∀ q : Qp, q.sendQ.HeadSettled psn →
      (postponeLocalAckTimeout now q).sendQ.HeadSettled psn ∧
        (postponeLocalAckTimeout now q).sendQ.Renewed now :=
    fun q hq => ⟨headSettled_postpone hq, renewed_postpone now q.sendQ⟩
  have h1 := ackLoop_left psn .waiting n.qp.requester.waiting_swqe n rfl
  unfold receiveAckResponse
  generalize ackLoop .waiting psn n.qp.requester.waiting_swqe n = r at h1 ⊢
  obtain ⟨n₁, e₁⟩ := r
  cases e₁ with
  | error w => exact hfail n₁.qp w
  | stop =>
    obtain ⟨w, hw, hs⟩ := h1
    exact hpost n₁.qp (headSettled_waiting hw hs)
  | next =>
    have h1 : n₁.qp.requester.waiting_swqe = [] := h1
    have h2 := ackLoop_left psn .sending n₁.qp.requester.sending_swqe n₁ rfl
    have hwait := (ackLoop_sending_waiting psn n₁.qp.requester.sending_swqe n₁).trans h1
    dsimp only
    generalize ackLoop .sending psn n₁.qp.requester.sending_swqe n₁ = r at h2 hwait ⊢
    obtain ⟨n₂, e₂⟩ := r
    cases e₂ with
    | error w => exact hfail n₂.qp w
    | stop =>
      obtain ⟨w, hw, hs⟩ := h2
      exact hpost n₂.qp (headSettled_sending hwait hw hs)
    | next => exact hpost n₂.qp (headSettled_empty hwait h2)

/-- A head with an error takes the queue pair down at the next acknowledge. -/
theorem ack_fails {now : Nat} {n : Node} (hw : n.qp.sendQ.head? = some w)
    (hs : w.processing.status ≠ .SUCCESS) :
    (receiveAckResponse now n psn).qp.sendQ ≠ n.qp.sendQ := by
  have herr : ∀ (l : InFlight) (ws : List SendWqe),
      ackLoop l psn (w :: ws) n = (n.setQp (n.qp.setInFlight l ws (-1)), .error w) := by
    intro l ws
    unfold ackLoop processAcknowledge
    dsimp only
    rw [if_pos hs]
  -- the failure is reported, so that there are more completions than before
  have hcq : ∀ q : Qp, q.send_cq = n.qp.send_cq → (failSend now q w).sendQ ≠ n.qp.sendQ := by
    intro q hq he
    have hlen := congrArg (fun s : SendQ => s.cq.length) he
    rw [failSend, sendQ_failQp] at hlen
    simp only [SendQ.failAll, SendQ.empty, Qp.sendQ, Qp.freeSendWqe, Qp.insertSendError, hq,
      List.length_append, List.length_singleton] at hlen
    omega
  unfold receiveAckResponse
  cases hwait : n.qp.requester.waiting_swqe with
  | cons v ws =>
    have hv : v = w := by
      have h := hw
      rw [SendQ.head?, SendQ.flight, List.head?_append] at h
      rw [show n.qp.sendQ.waiting = v :: ws from hwait] at h
      exact Option.some.inj h
    rw [hv, herr .waiting ws]
    exact hcq _ rfl
  | nil =>
    rw [ackLoop]
    dsimp only
    cases hsend : n.qp.requester.sending_swqe with
    | nil =>
      rw [SendQ.head?, SendQ.flight, show n.qp.sendQ.waiting = [] from hwait,
        show n.qp.sendQ.sending = [] from hsend] at hw
      cases hw
    | cons v ws =>
      have hv : v = w := by
        have h := hw
        rw [SendQ.head?, SendQ.flight, show n.qp.sendQ.waiting = [] from hwait,
          show n.qp.sendQ.sending = v :: ws from hsend] at h
        exact Option.some.inj h
      rw [hv, herr .sending ws]
      exact hcq _ rfl

/-! ## Stale acknowledges -/

/-- The PSN lies before every packet that is outstanding. -/
def SendQ.Stale (psn : Nat) (s : SendQ) : Prop :=
  ∀ w ∈ s.flight, getPsnDiff psn (u32 (w.processing.based_psn + w.processing.ack_packets)) < 0

/-- The element in front, if there is one, has no error yet. -/
def SendQ.HeadSound (s : SendQ) : Prop := ∀ w ∈ s.head?, w.processing.status = .SUCCESS

theorem SendWqe.behind_of_before
    (h : getPsnDiff psn (u32 (w.processing.based_psn + w.processing.ack_packets)) < 0) :
    w.Behind psn := by
  by_contra hb
  unfold SendWqe.Behind at hb
  obtain ⟨h0, h1⟩ := not_or.mp hb
  have hbd := getPsnDiff_bounds psn w.processing.based_psn
  have hmod := getPsnDiff_emod psn w.processing.based_psn
  -- otherwise the PSN is as far beyond the next packet as it should be before it
  have hd := getPsnDiff_eq (p := psn) (b := u32 (w.processing.based_psn + w.processing.ack_packets))
    (P := (w.processing.based_psn : Int) + getPsnDiff psn w.processing.based_psn)
    (B := (w.processing.based_psn : Int) + w.processing.ack_packets) (by omega)
    (by unfold u32; omega) (by omega) (by omega)
  omega

theorem ack_stale_iff {now : Nat} {n : Node} (h : n.qp.sendQ.Stale psn) :
    (receiveAckResponse now n psn).qp.sendQ = n.qp.sendQ ↔
      n.qp.sendQ.HeadSound ∧ n.qp.sendQ.Renewed now := by
  by_cases hs : n.qp.sendQ.HeadSound
  · have hset : n.qp.sendQ.HeadSettled psn := fun w hw =>
      ⟨hs w hw, SendWqe.behind_of_before (h w (List.mem_of_mem_head? hw))⟩
    rw [sendQ_ack_settled hset, postpone_eq_iff, and_iff_right hs]
  refine ⟨fun he => ?_, fun hc => absurd hc.1 hs⟩
  obtain ⟨w, hw⟩ := not_forall.mp hs
  obtain ⟨hw, hne⟩ := Classical.not_imp.mp hw
  exact absurd he (ack_fails hw hne)

/-! ## As packets -/

/-- A positive acknowledge. -/
structure RcPacket.IsPositiveAck (p : RcPacket) : Prop where
  opcode : p.opcode = .ACKNOWLEDGE
  aeth : 4 ≤ p.buffer.length
  syndrome : syndCode (ofBe (p.buffer.take 4) / 2 ^ 24) = PIB_SYND_ACK_CODE

/-- The queue pair takes no packet from this port. -/
def SendQ.Drops (port_num : Nat) (s : SendQ) : Prop :=
  pibIsRecvOk s.state = false ∨ s.attr.port_num ≠ port_num

/-- A response has come: the requests in a row are counted from 0 again. -/
def Node.heard (n : Node) : Node :=
  n.setQp { n.qp with requester := { n.qp.requester with nr_contig_requests := 0 } }

section Arrivals

variable {cfg : Config} {now port_num : Nat} {n : Node} {p : RcPacket}

theorem ack_dropped (h : n.qp.sendQ.Drops port_num) :
    pibReceiveRcQpIncomingMessage cfg now port_num n p = n := by
  unfold pibReceiveRcQpIncomingMessage
  exact if_pos h

theorem sendQ_ack (cfg : Config) (hp : p.IsPositiveAck) (h : ¬n.qp.sendQ.Drops port_num) :
    (pibReceiveRcQpIncomingMessage cfg now port_num n p).qp.sendQ =
      (receiveAckResponse now n.heard (psnMask p.psn)).qp.sendQ := by
  have htaken : ¬(pibIsRecvOk n.qp.state = false ∨ n.qp.attr.port_num ≠ port_num) := h
  have hack : pibOpcodeIsAcknowledge .ACKNOWLEDGE = some true := by decide
  unfold pibReceiveRcQpIncomingMessage
  rw [if_neg htaken, hp.opcode, if_neg (by decide), hack]
  dsimp only
  unfold receiveResponse
  rw [if_neg (Nat.not_lt.mpr hp.aeth), hp.opcode]
  dsimp only
  rw [if_neg (by decide), if_pos hp.syndrome]
  unfold acceptResponse dispatchResponse
  rw [hp.opcode]
  dsimp only
  rw [Node.setQp_qp, sendQ_reportDrained]
  rfl

end Arrivals

/-- When a positive acknowledge leaves the send queue as it is, in every state: one that
comes a second time, if it is dropped, if nothing waits, or if no time has passed; and
one that lies before all that is outstanding, if it is dropped, or if the element in front
has no error and the timers would be started with the values that they have. -/
theorem ack_without_effect_iff (cfg : Config) (now now' port_num : Nat) (n : Node) (p : RcPacket)
    (hp : p.IsPositiveAck) :
    let n₁ := pibReceiveRcQpIncomingMessage cfg now port_num n p
    ((pibReceiveRcQpIncomingMessage cfg now' port_num n₁ p).qp.sendQ = n₁.qp.sendQ ↔
      n₁.qp.sendQ.Drops port_num ∨ n₁.qp.sendQ.waiting = [] ∨ now' = now) ∧
    (n.qp.sendQ.Stale (psnMask p.psn) →
      (n₁.qp.sendQ = n.qp.sendQ ↔
        n.qp.sendQ.Drops port_num ∨ n.qp.sendQ.HeadSound ∧ n.qp.sendQ.Renewed now)) := by
  intro n₁
  refine ⟨?_, fun hs => ?_⟩
  · by_cases hd₁ : n₁.qp.sendQ.Drops port_num
    · rw [ack_dropped hd₁]
      exact ⟨fun _ => Or.inl hd₁, fun _ => rfl⟩
    have hd : ¬n.qp.sendQ.Drops port_num := by
      intro hd
      have hn₁ : n₁ = n := ack_dropped hd
      rw [hn₁] at hd₁
      exact hd₁ hd
    -- the first one has settled the head and started the timers
    obtain ⟨hset, hren⟩ := ack_settles now (psnMask p.psn) n.heard
    rw [← sendQ_ack cfg hp hd] at hset hren
    rw [sendQ_ack cfg hp hd₁, or_iff_right hd₁, sendQ_ack_settled (n := n₁.heard) hset]
    exact postpone_eq_iff.trans (renewed_again_iff hren)
  · by_cases hd : n.qp.sendQ.Drops port_num
    · have hn₁ : n₁ = n := ack_dropped hd
      rw [hn₁]
      exact ⟨fun _ => Or.inl hd, fun _ => rfl⟩
    rw [or_iff_right hd, show n₁.qp.sendQ = _ from sendQ_ack cfg hp hd]
    exact ack_stale_iff (n := n.heard) hs

/-- A SEND of one packet goes out under PSN 5. -/
def sentRun : List (Nat × Act) :=
  bringUp { timeout := 14, retry_cnt := 7, sq_psn := 5, path_mtu := 1, port_num := 1 } ++
    [(1, .postSend (fun _ _ => some [1, 2, 3, 4])
        [{ wr_id := 9, opcode := .SEND, send_flags := { INLINE := true }
           sg_list := [{ addr := 0, length := 4, lkey := 0 }] }]),
     (2, .schedule)]

/-- The node after it. -/
def sentNode : Node :=
  Run.run (step {} ibStateTable)
    (created {} { max_inline_data := 4 } none ⟨0, fun _ => none⟩ fun _ => 0) sentRun

/-- A positive acknowledge with this PSN. -/
def plainAck (psn : Nat) : RcPacket := { opcode := .ACKNOWLEDGE, psn, buffer := [0, 0, 0, 0] }

theorem plainAck_isPositiveAck (psn : Nat) : (plainAck psn).IsPositiveAck := by
  have hsynd : syndCode (ofBe (([0, 0, 0, 0] : List UInt8).take 4) / 2 ^ 24) = PIB_SYND_ACK_CODE := by
    decide
  exact ⟨rfl, Nat.le_refl 4, hsynd⟩

/-- The acknowledge of the packet comes twice: it is complete after the first. -/
theorem ack_without_effect_sentNode :
    (plainAck 5).IsPositiveAck ∧
      let n₁ := pibReceiveRcQpIncomingMessage {} 3 1 sentNode (plainAck 5)
      (pibReceiveRcQpIncomingMessage {} 9 1 n₁ (plainAck 5)).qp.sendQ = n₁.qp.sendQ :=
  ⟨plainAck_isPositiveAck 5, (ack_without_effect_iff {} 3 9 1 sentNode (plainAck 5)
    (plainAck_isPositiveAck 5)).1.mpr (Or.inr (Or.inl (by decide)))⟩

/-- The acknowledge of the packet before it comes again and again, late: the timer of the
packet that is outstanding starts anew each time. -/
theorem stale_ack_postpones :
    let times := fun n : Node => n.qp.requester.waiting_swqe.map (·.processing.local_ack_time)
    let late := fun now n => pibReceiveRcQpIncomingMessage {} now 1 n (plainAck 4)
    sentNode.qp.sendQ.Stale 4 ∧ times sentNode = [69] ∧
      times (late 60 sentNode) = [127] ∧ times (late 120 (late 60 sentNode)) = [187] := by
  refine ⟨?_, by decide, by decide, by decide⟩
  unfold SendQ.Stale
  decide

end pib
