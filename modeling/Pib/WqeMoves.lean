-- The elements of the send queue with what they keep on their way through it. Whatever
-- the driver does to them is a run of a few moves: they leave at the front, are served,
-- and start at the end.
import Pib.FlightOrder

namespace pib

open Bytes

variable (cfg : Config) (isOk : StateCheck)
    (copyFromUser : UserCopy) (n : Node) {q q' : Qp}
    {ws : List SendWqe} {time : Nat} {w w' : SendWqe} {p : RcPacket}

/-! ## The abstract queue -/

/-- A status as far as it tells that too many RNR NAKs came. -/
def WcStatus.rnrOnly : WcStatus → WcStatus
  | .RNR_RETRY_EXC_ERR => .RNR_RETRY_EXC_ERR
  | _ => .SUCCESS

/-- The completions that tell that too many RNR NAKs came. -/
def rnrErrors (cq : List Wc) : List Wc :=
  cq.filter fun wc => decide (wc.status = .RNR_RETRY_EXC_ERR)

@[simp] theorem rnrErrors_append (cq wcs : List Wc) :
    rnrErrors (cq ++ wcs) = rnrErrors cq ++ rnrErrors wcs := List.filter_append ..

@[simp] theorem rnrErrors_flush (ws : List SendWqe) : rnrErrors (ws.map flushWc) = [] :=
  List.filter_eq_nil_iff.mpr fun wc hwc => by
    obtain ⟨w, -, rfl⟩ := List.mem_map.mp hwc
    simp [flushWc]

/-- An element without what changes while it is in flight: its list, its acknowledge
timer, its retries, the packets sent and acknowledged, and most of its status. -/
def SendWqe.lasting (w : SendWqe) : SendWqe :=
  { w with processing := { w.processing with
    list_type := .FREE, status := w.processing.status.rnrOnly, ack_packets := 0, sent_packets := 0
    local_ack_time := 0, retry_cnt := 0, done := false } }

/-- The completion of an element that fails with its status, if that is one of the above. -/
def SendWqe.rnrError (w : SendWqe) : List Wc := rnrErrors [errorWc w w.processing.status]

/-- The elements in flight, those that wait to be started, and the completions with
`RNR_RETRY_EXC_ERR`. -/
structure WqeQ where
  flight : List SendWqe
  submitted : List SendWqe
  errors : List Wc

def SendQ.wqeQ (s : SendQ) : WqeQ := ⟨s.flight.map SendWqe.lasting, s.submitted, rnrErrors s.cq⟩

def Qp.wqeQ (q : Qp) : WqeQ := q.sendQ.wqeQ

/-- What can happen to the elements, at this time and with these attributes. -/
inductive WqeMove (now : Nat) (attr : QpAttr) : WqeQ → WqeQ → Prop
  /-- the first one is done -/
  | drop (w : SendWqe) (fs ss : List SendWqe) (e : List Wc) :
      WqeMove now attr ⟨w :: fs, ss, e⟩ ⟨fs, ss, e⟩
  /-- the first one fails, and the others are flushed -/
  | fail (w : SendWqe) (fs ss : List SendWqe) (e : List Wc) :
      WqeMove now attr ⟨w :: fs, ss, e⟩ ⟨[], [], e ++ w.rnrError⟩
  /-- the queue pair is flushed -/
  | clear (s : WqeQ) : WqeMove now attr s ⟨[], [], s.errors⟩
  /-- the queue pair is reset -/
  | reset (s : WqeQ) : WqeMove now attr s ⟨[], [], []⟩
  /-- one of them, whose time has come, is served -/
  | serve (fs gs ss : List SendWqe) (e : List Wc) (w : SendWqe)
      (h : w.processing.schedule_time ≤ now) :
      WqeMove now attr ⟨fs ++ w :: gs, ss, e⟩ ⟨fs ++ w.setSchedule now :: gs, ss, e⟩
  /-- one of them is given a status -/
  | mark (fs gs ss : List SendWqe) (e : List Wc) (w : SendWqe) (status : WcStatus)
      (h : w.MayGet status) :
      WqeMove now attr ⟨fs ++ w :: gs, ss, e⟩ ⟨fs ++ w.setStatus status.rnrOnly :: gs, ss, e⟩
  /-- the next one is started -/
  | start (fs ss : List SendWqe) (e : List Wc) (w w' : SendWqe)
      (hrnr : w'.processing.rnr_retry = attr.rnr_retry)
      (hst : w'.processing.status = w.processing.status.rnrOnly) :
      WqeMove now attr ⟨fs, w :: ss, e⟩ ⟨fs ++ [w'], ss, e⟩

/-- A run of moves. -/
def WqeMoves (now : Nat) (attr : QpAttr) : WqeQ → WqeQ → Prop :=
  Relation.ReflTransGen (WqeMove now attr)

variable {now : Nat} {attr : QpAttr} {s s' s'' : WqeQ}

namespace WqeMoves

theorem of_eq (h : s' = s) : WqeMoves now attr s s' := h ▸ Relation.ReflTransGen.refl

theorem one (h : WqeMove now attr s s') : WqeMoves now attr s s' := Relation.ReflTransGen.single h

theorem trans (h : WqeMoves now attr s s') (h' : WqeMoves now attr s' s'') :
    WqeMoves now attr s s'' := Relation.ReflTransGen.trans h h'

theorem cleared (h : s' = ⟨[], [], s.errors⟩) : WqeMoves now attr s s' := h ▸ one (.clear s)

end WqeMoves

theorem wqeQ_of_sendQ (h : q'.sendQ = q.sendQ) : q'.wqeQ = q.wqeQ :=
  congrArg SendQ.wqeQ h

theorem wqeQ_failQp (now : Nat) (q : Qp) : (failQp now q).wqeQ = ⟨[], [], q.wqeQ.errors⟩ := by
  have h := congrArg SendQ.wqeQ (sendQ_failQp now q)
  refine h.trans ?_
  simp [SendQ.wqeQ, SendQ.failAll, SendQ.empty, SendQ.flight, Qp.wqeQ, - List.map_append]

/-- The three lists of elements, and the completions. -/
structure SendLists where
  waiting : List SendWqe
  sending : List SendWqe
  submitted : List SendWqe
  errors : List Wc

def Qp.sendLists (q : Qp) : SendLists :=
  ⟨q.requester.waiting_swqe, q.requester.sending_swqe, q.requester.submitted_swqe,
    rnrErrors q.send_cq⟩

def SendLists.wqeQ (x : SendLists) : WqeQ :=
  ⟨(x.waiting ++ x.sending).map SendWqe.lasting, x.submitted, x.errors⟩

theorem wqeQ_lists (q : Qp) : q.wqeQ = q.sendLists.wqeQ := rfl

theorem rnrOnly_eq (status : WcStatus) :
    status.rnrOnly = .RNR_RETRY_EXC_ERR ↔ status = .RNR_RETRY_EXC_ERR := by
  cases status <;> simp [WcStatus.rnrOnly]

/-! ## The moves of the send queue -/

section Moves

variable {c : Ctx} (hc : ¬c.rnr)

theorem mayGet_lasting {status : WcStatus} (h : w.MayGet status) : w.lasting.MayGet status :=
  fun hs => (h hs).imp_left (rnrOnly_eq _).mpr

include hc in
/-- An element that is touched is served and given its status. -/
theorem wqeMoves_touched (h : Touched c w w') (fs gs ss : List SendWqe) (e : List Wc) :
    WqeMoves c.now attr ⟨fs ++ w.lasting :: gs, ss, e⟩ ⟨fs ++ w'.lasting :: gs, ss, e⟩ := by
  have hw' : w'.lasting = (w.lasting.setSchedule w'.processing.schedule_time).setStatus
      w'.processing.status.rnrOnly := by
    have hcore : w'.lasting = { w'.core with processing := { w'.core.processing with
      list_type := .FREE, ack_packets := 0, sent_packets := 0
      status := w'.processing.status.rnrOnly, schedule_time := w'.processing.schedule_time
      rnr_retry := w'.processing.rnr_retry } } := rfl
    rw [hcore, h.core, h.retries.resolve_right hc]
    rfl
  rw [hw']
  have hserve : WqeMoves c.now attr ⟨fs ++ w.lasting :: gs, ss, e⟩
      ⟨fs ++ w.lasting.setSchedule w'.processing.schedule_time :: gs, ss, e⟩ := by
    rcases h.sched with hs | ⟨hle, hs⟩ | ⟨hr, -⟩
    · rw [hs]
      exact .of_eq rfl
    · rw [hs]
      exact .one (.serve _ _ _ _ _ hle)
    · exact absurd hr hc
  exact hserve.trans (.one (.mark _ _ _ _ _ _ (mayGet_lasting h.status)))

include hc in
theorem wqeMoves_allTouched {ws' : List SendWqe} (h : List.Forall₂ (Touched c) ws ws')
    (gs ss : List SendWqe) (e : List Wc) : ∀ fs, WqeMoves c.now attr
      ⟨fs ++ (ws.map SendWqe.lasting ++ gs), ss, e⟩ ⟨fs ++ (ws'.map SendWqe.lasting ++ gs), ss, e⟩ := by
  induction h with
  | nil => exact fun _ => .of_eq rfl
  | @cons w w' ws ws' hw _ ih =>
    intro fs
    refine (wqeMoves_touched hc hw fs _ ss e).trans ?_
    have := ih (fs ++ [w'.lasting])
    simpa using this

theorem rnrErrors_successWc (s : SendQ) (w : SendWqe) : rnrErrors (s.successWc w) = [] := by
  unfold SendQ.successWc
  split
  · split <;> rfl
  · rfl

include hc in
/-- Every move of the send queue is a run of these moves. -/
theorem wqeMoves_move {s s' : SendQ} (h : Move c s none s') :
    s'.attr = s.attr ∧ WqeMoves c.now s.attr s.wqeQ s'.wqeQ := by
  have hset : ∀ {w w' : SendWqe}, s.head? = some w → w'.lasting = w.lasting →
      (s.setHead w').attr = s.attr ∧ WqeMoves c.now s.attr s.wqeQ (s.setHead w').wqeQ := by
    intro w w' hh hw
    obtain ⟨hf, hf'⟩ := flight_setHead w' hh
    have hframe : (s.setHead w').attr = s.attr ∧ (s.setHead w').submitted = s.submitted ∧
        (s.setHead w').cq = s.cq := by
      unfold SendQ.setHead
      split <;> exact ⟨rfl, rfl, rfl⟩
    refine ⟨hframe.1, .of_eq ?_⟩
    rw [SendQ.wqeQ, SendQ.wqeQ, hframe.2.1, hframe.2.2, hf, hf', List.map_cons, List.map_cons, hw]
  cases h with
  | touch waiting sending hw hs =>
    have h1 : WqeMoves c.now s.attr _ _ := wqeMoves_allTouched hc (hw.imp fun _ _ h => h.1)
      (s.sending.map SendWqe.lasting) s.submitted (rnrErrors s.cq) []
    have h2 : WqeMoves c.now s.attr _ _ := wqeMoves_allTouched hc hs [] s.submitted (rnrErrors s.cq)
      (waiting.map SendWqe.lasting)
    rw [List.append_nil, List.append_nil] at h2
    refine ⟨rfl, ?_⟩
    simp only [SendQ.wqeQ, SendQ.flight, List.map_append]
    exact h1.trans h2
  | ack k h => exact hset h rfl
  | progress h => exact hset h rfl
  | @complete w f h =>
    obtain ⟨hf, -⟩ := flight_dropHead h
    have hdrop : (s.completeHead w f).flight = s.dropHead.flight ∧
        (s.completeHead w f).submitted = s.submitted ∧ (s.completeHead w f).attr = s.attr := by
      unfold SendQ.completeHead SendQ.dropHead
      split <;> exact ⟨rfl, rfl, rfl⟩
    have hcq : rnrErrors (s.completeHead w f).cq = rnrErrors s.cq := by
      simp [SendQ.completeHead, rnrErrors_successWc]
    refine ⟨hdrop.2.2, ?_⟩
    rw [SendQ.wqeQ, SendQ.wqeQ, hdrop.1, hdrop.2.1, hcq, hf]
    exact .one (.drop _ _ _ _)
  | @fail w status free h hne hst =>
    obtain ⟨fs, hf⟩ : ∃ fs, s.flight = w :: fs := List.head?_eq_some_iff.mp h
    have herr : rnrErrors (s.failHead w status free).cq =
        rnrErrors s.cq ++ (w.lasting.setStatus status.rnrOnly).rnrError := by
      have hw : (w.lasting.setStatus status.rnrOnly).rnrError = rnrErrors [errorWc w status] := by
        cases status <;> rfl
      rw [hw]
      show rnrErrors (s.cq ++ ([errorWc w status] ++ List.map flushWc _)) = _
      simp only [rnrErrors_append, rnrErrors_flush, List.append_nil]
    refine ⟨rfl, ?_⟩
    rw [SendQ.wqeQ, SendQ.wqeQ, herr, hf]
    exact (WqeMoves.one (.mark [] _ _ _ _ _ (mayGet_lasting hst))).trans (.one (.fail _ _ _ _))
  | failAll =>
    refine ⟨rfl, .cleared ?_⟩
    simp [SendQ.wqeQ, SendQ.failAll, SendQ.empty, SendQ.flight, - List.map_append]
  | resend waiting hw =>
    have h1 : SendWqe.lasting ∘ SendWqe.resend = SendWqe.lasting := rfl
    have h2 : (SendWqe.lasting ∘ fun w => w.setSent w.processing.ack_packets) = SendWqe.lasting := rfl
    have h : WqeMoves c.now s.attr _ _ := wqeMoves_allTouched hc hw (s.sending.map SendWqe.lasting)
      s.submitted (rnrErrors s.cq) []
    refine ⟨rfl, ?_⟩
    simp only [SendQ.wqeQ, SendQ.resend, SendQ.flight, List.nil_append, List.map_append,
      List.map_map, h1, h2]
    exact h
  | sendMore h =>
    refine ⟨rfl, .of_eq ?_⟩
    simp [SendQ.wqeQ, SendQ.flight, h, SendWqe.lasting, SendWqe.setSent]
  | @wait w w' ws sent h hsent hcore hack hsch hst =>
    have hw : w'.lasting = w.lasting := by
      have he : w'.lasting = { w'.core with processing := { w'.core.processing with
        list_type := .FREE, ack_packets := 0, sent_packets := 0
        status := w'.processing.status.rnrOnly, schedule_time := w'.processing.schedule_time
        rnr_retry := w'.processing.rnr_retry } } := rfl
      rw [he, hcore, hst.1, hst.2, hsch]
      rfl
    refine ⟨rfl, .of_eq ?_⟩
    simp [SendQ.wqeQ, SendQ.flight, h, hw]
  | @start w w' ws hs hsend h all hall hrd hw' =>
    have hmove : WqeMove c.now s.attr _ _ := .start (s.flight.map SendWqe.lasting) ws
      (rnrErrors s.cq) w w'.lasting (by rw [hw']; rfl) (by rw [hw']; rfl)
    refine ⟨rfl, ?_⟩
    rw [SendQ.wqeQ, h]
    refine (WqeMoves.one hmove).trans (.of_eq ?_)
    simp [SendQ.wqeQ, SendQ.flight, hsend]
  | touchFree => exact ⟨rfl, .of_eq rfl⟩

include hc in
theorem wqeMoves_moves {s s' : SendQ} (h : Moves c s [] s') :
    WqeMoves c.now s.attr s.wqeQ s'.wqeQ := by
  have hrun : s'.attr = s.attr ∧ WqeMoves c.now s.attr s.wqeQ s'.wqeQ := by
    refine Moves.keep_silent (I := fun x => x.attr = s.attr ∧
      WqeMoves c.now s.attr s.wqeQ x.wqeQ) ?_ h ⟨rfl, .of_eq rfl⟩
    rintro x x' hm ⟨ha, hx⟩
    obtain ⟨ha', hx'⟩ := wqeMoves_move hc hm
    rw [ha] at ha' hx'
    exact ⟨ha', hx.trans hx'⟩
  exact hrun.2

end Moves

/-- The first element is a local request that is done or fails. -/
theorem wqeMoves_localDone {s s' : SendQ} (hw : s.waiting = w :: ws) (h : LocalDone s ws s') :
    WqeMoves now attr s.wqeQ s'.wqeQ := by
  have hf : s.flight = w :: (ws ++ s.sending) := by rw [SendQ.flight, hw, List.cons_append]
  rw [SendQ.wqeQ, hf]
  cases h with
  | retired => exact .one (.drop _ _ _ _)
  | failed free nr_waiting cq _ hcq =>
    obtain ⟨v, vs, status, hv, hget, rfl⟩ := hcq
    obtain ⟨rfl, -⟩ := List.cons.inj (hw.symm.trans hv)
    refine (WqeMoves.one (.mark [] _ _ _ _ _ (mayGet_lasting hget))).trans
      ((WqeMoves.one (.fail _ _ _ _)).trans (.of_eq ?_))
    have herr : (w.lasting.setStatus status.rnrOnly).rnrError = rnrErrors [errorWc w status] := by
      cases status <;> rfl
    rw [herr, SendQ.wqeQ]
    show WqeQ.mk [] [] (rnrErrors (s.cq ++ ([errorWc w status] ++ vs.map flushWc))) = _
    simp only [rnrErrors_append, rnrErrors_flush, List.append_nil]

/-! ## RNR NAKs -/

/-- What an RNR NAK makes of the first element in flight. -/
def SendWqe.backOff (attr : QpAttr) (time : Nat) (w : SendWqe) : SendWqe :=
  if w.opcode = .SEND ∨ w.opcode = .SEND_WITH_IMM ∨ w.opcode = .RDMA_WRITE_WITH_IMM then
    { w with processing := { w.processing with
      schedule_time := time
      rnr_retry := if attr.rnr_retry < 7 then w.processing.rnr_retry - 1
        else w.processing.rnr_retry } }
  else w

def WqeQ.backOff (s : WqeQ) (attr : QpAttr) (time : Nat) : WqeQ :=
  match s.flight with
  | [] => s
  | w :: ws => { s with flight := w.backOff attr time :: ws }

theorem wqeQ_resendWaiting (q : Qp) : (resendWaiting q).wqeQ = q.wqeQ := by
  have h1 : SendWqe.lasting ∘ SendWqe.resend = SendWqe.lasting := rfl
  have h2 : (SendWqe.lasting ∘ fun w : SendWqe => { w with processing := { w.processing with
      sent_packets := w.processing.ack_packets } }) = SendWqe.lasting := rfl
  simp only [wqeQ_lists, resendWaiting, Qp.sendLists, SendLists.wqeQ, List.nil_append,
    List.map_append, List.map_map, h1, h2]

theorem lasting_backOff (attr : QpAttr) (time : Nat) (w : SendWqe) :
    (w.backOff attr time).lasting = w.lasting.backOff attr time := by
  unfold SendWqe.backOff
  rw [show w.lasting.opcode = w.opcode from rfl]
  split <;> rfl

theorem wqeQ_applyRnr (h : q.requester.waiting_swqe = []) (time : Nat) :
    (applyRnr time q).wqeQ = q.wqeQ.backOff q.attr time := by
  unfold applyRnr
  cases hs : q.requester.sending_swqe with
  | nil => simp [wqeQ_lists, Qp.sendLists, SendLists.wqeQ, WqeQ.backOff, h, hs]
  | cons w ws =>
    have hback := lasting_backOff q.attr time w
    have hq : q.wqeQ = ⟨w.lasting :: ws.map SendWqe.lasting, q.requester.submitted_swqe,
        rnrErrors q.send_cq⟩ := by
      simp [wqeQ_lists, Qp.sendLists, SendLists.wqeQ, h, hs]
    rw [hq]
    dsimp only [WqeQ.backOff]
    rw [← hback]
    unfold SendWqe.backOff
    split <;> simp [wqeQ_lists, Qp.sendLists, SendLists.wqeQ, h, hs]

/-- An RNR NAK is for the first element in flight, whatever its PSN. -/
theorem wqeQ_receiveResponse_rnr {cfg : Config} {n : Node} (h : rnrNakTime cfg p = some time) :
    (receiveResponse cfg now n p).qp.wqeQ = n.qp.wqeQ.backOff n.qp.attr time := by
  unfold rnrNakTime at h
  split at h
  · cases h
  rename_i hp
  obtain ⟨hlen, hmiddle⟩ := not_or.mp hp
  dsimp only at h
  split at h
  · rename_i hrnr
    cases h
    have hack : syndCode (ofBe (p.buffer.take 4) / 2 ^ 24) ≠ PIB_SYND_ACK_CODE := by
      rw [hrnr]
      decide
    unfold receiveResponse
    rw [if_neg hlen]
    dsimp only
    rw [if_neg hmiddle, if_neg hack, if_pos hrnr, Node.setQp_qp, wqeQ_applyRnr rfl,
      wqeQ_resendWaiting]
    rfl
  · cases h

theorem wqeQ_freeSendWqe (q : Qp) (w : SendWqe) : (q.freeSendWqe w).wqeQ = q.wqeQ := rfl

theorem wqeQ_sendingHead (h : q.requester.sending_swqe = w :: ws) :
    q.wqeQ = ⟨q.requester.waiting_swqe.map SendWqe.lasting ++ w.lasting :: ws.map SendWqe.lasting,
      q.requester.submitted_swqe, rnrErrors q.send_cq⟩ := by
  simp [wqeQ_lists, Qp.sendLists, SendLists.wqeQ, h]

theorem wqeQ_expireTimer (now : Nat)
    (h : q.requester.waiting_swqe = w :: ws) : (expireTimer now q w ws).wqeQ = q.wqeQ := by
  unfold expireTimer
  dsimp only
  rw [wqeQ_resendWaiting, wqeQ_lists, wqeQ_lists]
  simp only [Qp.sendLists, SendLists.wqeQ, Qp.setInFlight, h]
  rfl

theorem wqeQ_receive_rnr {cfg : Config} {port_num : Nat} {n : Node}
    (h : rnrNakTaken cfg n.qp port_num p = some time) :
    (pibReceiveRcQpIncomingMessage cfg now port_num n p).qp.wqeQ =
      n.qp.wqeQ.backOff n.qp.attr time := by
  unfold rnrNakTaken at h
  split at h
  · rename_i htaken
    obtain ⟨hok, hport, hack⟩ := htaken
    have hcnp : p.opcode ≠ .CNP_SEND_NOTIFY := by
      rintro hcnp
      rw [hcnp] at hack
      exact absurd hack (by decide)
    unfold pibReceiveRcQpIncomingMessage
    rw [if_neg (by simp [hok, hport]), if_neg hcnp, hack]
    exact wqeQ_receiveResponse_rnr h
  · cases h

/-! ## Changes of state -/

theorem wqeMoves_enterState (now : Nat) (q : Qp) (new : QpState) :
    WqeMoves now attr q.wqeQ (enterState cfg now q new).wqeQ := by
  cases new with
  | RESET =>
    have h : (enterState cfg now q .RESET).wqeQ = ⟨[], [], []⟩ :=
      congrArg SendQ.wqeQ (sendQ_resetQp cfg now { q with state := .RESET })
    rw [h]
    exact .one (.reset _)
  | ERR => exact .cleared (wqeQ_failQp now q)
  | SQE =>
    have h : ∀ q : Qp, (flushSendQueue q).wqeQ = ⟨[], [], q.wqeQ.errors⟩ := by
      intro q
      unfold flushSendQueue
      simp only [foldl_flushSendWqe]
      simp [wqeQ_lists, Qp.sendLists, SendLists.wqeQ, - List.map_append]
    exact .cleared (h { q with state := .SQE })
  | INIT | RTR | RTS | SQD => exact .of_eq rfl

theorem wqeMoves_modify (q : Qp) (a : ModifyAttr) (mask : AttrMask) :
    WqeMoves now attr q.wqeQ (pibModifyQp cfg isOk now q a mask).1.wqeQ := by
  rcases pibModifyQp_settles cfg isOk now q a mask with h | ⟨-, h⟩ | ⟨-, -, -, h⟩
  · rw [h]
    exact .of_eq rfl
  · rw [h]
    exact .of_eq rfl
  · rw [h, wqeQ_of_sendQ (sendQ_settleState now _ _ _ _)]
    exact wqeMoves_enterState cfg now (setAttrs cfg q a mask) a.qp_state

/-! ## Posting -/

/-- Elements are put at the end of the submitted list. -/
def SendLists.post (x : SendLists) (new : List SendWqe) : SendLists :=
  { x with submitted := x.submitted ++ new }

/-- A work request leaves the lists alone, or the element that it fills in is submitted. -/
theorem lists_postSendWr (q : Qp) (total_length : Nat) (wr : SendWr) :
    (postSendWr cfg copyFromUser q total_length wr).1.sendLists = q.sendLists ∨
    ∃ f w, fillSwqe cfg copyFromUser q total_length wr (sgesOf cfg wr).1 (sgesOf cfg wr).2 f =
        (w, none) ∧
      (postSendWr cfg copyFromUser q total_length wr).1.sendLists = q.sendLists.post [w] := by
  unfold postSendWr
  split
  · exact Or.inl rfl
  split
  · refine Or.inl ?_
    simp [Qp.sendLists, Qp.insertSendError, rnrErrors]
  dsimp only
  split
  · exact Or.inl rfl
  split
  · exact Or.inl rfl
  split
  · exact Or.inl rfl
  · rename_i w hw
    exact Or.inr ⟨_, w, hw, rfl⟩

theorem lists_postSendLoop (wrs : List SendWr) : ∀ (q : Qp) (total_length : Nat), ∃ new,
      (∀ w ∈ new, w.processing.status = .SUCCESS) ∧
        (postSendLoop cfg copyFromUser q total_length wrs).1.sendLists = q.sendLists.post new := by
  have hnil : ∀ x : SendLists, x.post [] = x := fun x => by simp [SendLists.post]
  induction wrs with
  | nil => exact fun q _ => ⟨[], by simp, (hnil _).symm⟩
  | cons wr wrs ih =>
    intro q total_length
    have hone : ∃ new, (∀ w ∈ new, w.processing.status = .SUCCESS) ∧
        (postSendWr cfg copyFromUser q total_length wr).1.sendLists = q.sendLists.post new := by
      rcases lists_postSendWr cfg copyFromUser q total_length wr with h | ⟨f, w, hw, h⟩
      · exact ⟨[], by simp, h.trans (hnil _).symm⟩
      refine ⟨[w], fun x hx => ?_, h⟩
      rw [List.mem_singleton.mp hx]
      exact (fillSwqe_ok hw).2.2.2.1
    obtain ⟨new, hnew, hlists⟩ := hone
    unfold postSendLoop
    generalize postSendWr cfg copyFromUser q total_length wr = r at hlists
    obtain ⟨q', total_length', _ | e⟩ := r
    · obtain ⟨more, hmore, hloop⟩ := ih q' total_length'
      refine ⟨new ++ more, fun w hw => ?_, ?_⟩
      · exact (List.mem_append.mp hw).elim (hnew w) (hmore w)
      · refine hloop.trans ?_
        rw [show q'.sendLists = _ from hlists]
        simp [SendLists.post]
    · exact ⟨new, hnew, hlists⟩

/-- Posting changes the submitted list only, at its end. -/
theorem wqeQ_pibPostSend (now : Nat) (q : Qp) (wrs : List SendWr) : ∃ new,
      (∀ w ∈ new, w.processing.status = .SUCCESS) ∧
        (pibPostSend cfg copyFromUser now q wrs).1.wqeQ =
          ⟨q.wqeQ.flight, q.wqeQ.submitted ++ new, q.wqeQ.errors⟩ := by
  unfold pibPostSend
  split
  · exact ⟨[], by simp, by simp⟩
  rename_i wr wrs
  obtain ⟨new, hnew, hlists⟩ := lists_postSendLoop cfg copyFromUser (wr :: wrs) q 0
  have hq := congrArg SendLists.wqeQ hlists
  refine ⟨new, hnew, ?_⟩
  dsimp only
  split
  · exact (wqeQ_of_sendQ (sendQ_getReadyToSend now _)).trans hq
  · exact hq

/-! ## Steps -/

/-- Every step that neither posts nor takes an RNR NAK is a run of moves. -/
theorem wqeMoves_step {a : Act} (hpost : ∀ copyFromUser wrs, a ≠ .postSend copyFromUser wrs)
    (hrnr : a.rnrNak cfg n.qp = none) :
    WqeMoves now n.qp.attr n.qp.wqeQ (step cfg isOk n (now, a)).qp.wqeQ := by
  by_cases hmod : ∃ attr mask, a = .modify attr mask
  · obtain ⟨attr, mask, rfl⟩ := hmod
    exact wqeMoves_modify cfg isOk n.qp attr mask
  rcases step_moves (c := ⟨now, False⟩) cfg isOk n hpost
    (fun attr mask he => hmod ⟨attr, mask, he⟩) (by simp [hrnr]) with hm | ⟨w, ws, hw, hdone⟩
  · exact wqeMoves_moves id hm
  · exact wqeMoves_localDone hw hdone

/-- A step that takes an RNR NAK. -/
theorem wqeQ_step_rnr {n : Node} (now : Nat) {a : Act} (h : a.rnrNak cfg n.qp = some time) :
    (step cfg isOk n (now, a)).qp.wqeQ = n.qp.wqeQ.backOff n.qp.attr time := by
  cases a with
  | receive port_num p =>
    refine (wqeQ_of_sendQ (sendQ_rescheduleQp now _)).trans ?_
    exact wqeQ_receive_rnr (n := { n with send_buffer := none }) h
  | _ => cases h

end pib
