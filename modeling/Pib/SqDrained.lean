-- When a queue pair reports that its send queue is drained. The report is
-- made from two places, guarded by a flag that each change of state with an
-- empty send queue sets, so that it comes once for each entry into SQD only
-- under a discipline of the caller and of the scheduler.
import Pib.DrainSignals
import Pib.SendCrashes

namespace pib

variable (cfg : Config) (copyFromUser : UserCopy) (now : Nat) {q q' : Qp}
    {raised : Nat} {attr : ModifyAttr} {mask : AttrMask}

/-! ## What a report is to be -/

/-- The user has asked for the report. -/
def Qp.notify (q : Qp) : Bool := q.attr.en_sqd_async_notify

/-- The queue pair has come into SQD. -/
def Enters (q q' : Qp) : Prop := q.state ≠ .SQD ∧ q'.state = .SQD

instance (q q' : Qp) : Decidable (Enters q q') := by
  unfold Enters
  infer_instance

/-- How many reports a step makes. -/
def newReports (q q' : Qp) : Nat := q'.signals.drained - q.signals.drained

/-- The reports since the last entry into SQD, after a step. -/
def reports (q q' : Qp) (raised : Nat) : Nat :=
  if Enters q q' then newReports q q' else raised + newReports q q'

/-- What a step that ends with `raised` reports for this entry may do. -/
structure ReportsOnce (q q' : Qp) (raised : Nat) : Prop where
  /-- a report is made in SQD, with nothing in flight -/
  drained : q.signals.drained < q'.signals.drained → q'.state = .SQD ∧ q'.Quiet
  once : q'.state = .SQD → raised ≤ 1
  /-- no report is lost -/
  told : q'.state = .SQD → q'.notify = true → q'.Quiet → 1 ≤ raised

/-- What holds in SQD: there is a report for this entry only with the flag
set, and one that is still due finds the flag clear. -/
structure ReportDue (q : Qp) (raised : Nat) : Prop where
  once : raised ≤ 1
  issued : 1 ≤ raised → q.signals.issued = true
  told : q.notify = true → q.Quiet → 1 ≤ raised
  clear : q.notify = true → raised = 0 → q.signals.issued = false

def ReportInv (q : Qp) (raised : Nat) : Prop := q.state = .SQD → ReportDue q raised

/-! ## Steps that report nothing -/

/-- The signals are as they were, SQD is not entered, and in SQD a report that
is asked for does not become due. -/
def Hush (q q' : Qp) : Prop :=
  q'.signals = q.signals ∧
    (q'.state = .SQD → q.state = .SQD ∧ q'.notify = q.notify ∧
      (q.notify = true → q'.Quiet → q.Quiet))

theorem Stays.hush (h : Stays q q') : Hush q q' := by
  refine ⟨h.1, fun hsqd => ?_⟩
  rcases h.2 with he | ⟨he, ha, hq⟩
  · exact nomatch he.symm.trans hsqd
  · exact ⟨he.symm.trans hsqd, congrArg QpAttr.en_sqd_async_notify ha, fun _ => hq.mp⟩

/-- Outside SQD, and where no report is asked for, the lists do not matter. -/
theorem Follows.hush (h : Follows q q') (hq : q.state = .SQD → q.notify = false) : Hush q q' := by
  refine ⟨h.1, fun hsqd => ?_⟩
  rcases h.2 with he | ⟨he, ha⟩
  · exact nomatch he.symm.trans hsqd
  · have hs : q.state = .SQD := he.symm.trans hsqd
    exact ⟨hs, congrArg QpAttr.en_sqd_async_notify ha, fun hn => absurd (hq hs) (by simp [hn])⟩

/-- A queue pair that leaves for another state than SQD reports nothing more. -/
theorem Hush.left (hs : q'.signals = q.signals) (h : q'.state ≠ .SQD) : Hush q q' :=
  ⟨hs, fun hsqd => absurd hsqd h⟩

theorem newReports_same (h : q'.signals = q.signals) : newReports q q' = 0 := by
  rw [newReports, h, Nat.sub_self]

theorem Hush.reports (h : Hush q q') (hsqd : q'.state = .SQD) (raised : Nat) :
    reports q q' raised = raised := by
  rw [pib.reports, if_neg fun he => he.1 (h.2 hsqd).1, newReports_same h.1, Nat.add_zero]

theorem Hush.inv (h : Hush q q') (hi : ReportInv q raised) :
    ReportInv q' (pib.reports q q' raised) := by
  intro hsqd
  obtain ⟨hs, hn, hq⟩ := h.2 hsqd
  have hd := hi hs
  rw [h.reports hsqd]
  refine ⟨hd.once, ?_, ?_, ?_⟩
  · rw [h.1]
    exact hd.issued
  · rw [hn]
    exact fun ha hf => hd.told ha (hq ha hf)
  · rw [hn, h.1]
    exact hd.clear

/-- A step that makes no report keeps the law when the invariant holds after
it. -/
theorem ReportsOnce.of_inv
    (hd : q.signals.drained < q'.signals.drained → q'.state = .SQD ∧ q'.Quiet)
    (hi : ReportInv q' raised) : ReportsOnce q q' raised :=
  ⟨hd, fun h => (hi h).once, fun h => (hi h).told⟩

theorem Hush.reportsOnce (h : Hush q q') (hi : ReportInv q raised) :
    ReportsOnce q q' (pib.reports q q' raised) := by
  refine ReportsOnce.of_inv (fun hlt => ?_) (h.inv hi)
  rw [h.1] at hlt
  exact absurd hlt (lt_irrefl _)

/-- A step keeps the law and the invariant. -/
def KeepsReports (q q' : Qp) : Prop :=
  ∀ raised, ReportInv q raised →
    ReportInv q' (reports q q' raised) ∧ ReportsOnce q q' (reports q q' raised)

theorem Hush.keepsReports (h : Hush q q') : KeepsReports q q' :=
  fun _ hi => ⟨h.inv hi, h.reportsOnce hi⟩

/-! ## The end of a response -/

/-- The report, if it is asked for. -/
def Qp.tell (q : Qp) : Qp := if q.notify then q.insertEvent .SQ_DRAINED else q

theorem tell_sendQ (q : Qp) : q.tell.sendQ = q.sendQ := by
  unfold Qp.tell
  split <;> rfl

theorem tell_drained (q : Qp) :
    q.tell.signals.drained = q.signals.drained + (if q.notify then 1 else 0) := by
  unfold Qp.tell
  split
  · exact List.count_append
  · rfl

theorem notify_of_sendQ (h : q'.sendQ = q.sendQ) : q'.notify = q.notify :=
  congrArg (fun s : SendQ => s.attr.en_sqd_async_notify) h

theorem quiet_of_sendQ (h : q'.sendQ = q.sendQ) : q'.Quiet ↔ q.Quiet :=
  iff_of_eq (congrArg (fun s : SendQ => s.sending = [] ∧ s.waiting = []) h)

theorem reportDrained_of_busy
    (h : ¬(q.state = .SQD ∧ q.issue_sq_drained = false ∧ q.Quiet)) : reportDrained q = q :=
  if_neg h

theorem reportDrained_of_quiet (h : q.state = .SQD ∧ q.issue_sq_drained = false ∧ q.Quiet) :
    reportDrained q = { q.tell with issue_sq_drained := true } := if_pos h

/-- A response reports the drained send queue if that is due. -/
theorem keepsReports_reportDrained (h : Follows q q') : KeepsReports q (reportDrained q') := by
  intro raised hi
  have hsame : ∀ {s : Qp}, s.state = q'.state → s.state = .SQD →
      q.state = .SQD ∧ q'.notify = q.notify := by
    intro s hs hsqd
    rcases h.2 with he | ⟨he, ha⟩
    · exact nomatch (he.symm.trans hs.symm).trans hsqd
    · exact ⟨(he.symm.trans hs.symm).trans hsqd, congrArg QpAttr.en_sqd_async_notify ha⟩
  by_cases hr : q'.state = .SQD ∧ q'.issue_sq_drained = false ∧ q'.Quiet
  · have he := reportDrained_of_quiet hr
    have hsendQ : (reportDrained q').sendQ = q'.sendQ := by
      rw [he]
      exact tell_sendQ q'
    have hstate : (reportDrained q').state = q'.state := congrArg SendQ.state hsendQ
    have hissued : (reportDrained q').signals.issued = true := by rw [he]; rfl
    have hcount : (reportDrained q').signals.drained =
        q'.signals.drained + (if q'.notify then 1 else 0) := by
      rw [he]
      exact tell_drained q'
    have hsqd : (reportDrained q').state = .SQD := hstate.trans hr.1
    obtain ⟨hs, hn⟩ := hsame hstate hsqd
    have hd := hi hs
    have hflag : q.signals.issued = false := (congrArg Signals.issued h.1).symm.trans hr.2.1
    -- the flag was clear, so there has been no report for this entry
    have hzero : raised = 0 := by
      by_contra hne
      exact nomatch hflag.symm.trans (hd.issued (Nat.pos_of_ne_zero hne))
    have hnew : reports q (reportDrained q') raised = if q.notify then 1 else 0 := by
      rw [reports, if_neg fun he => he.1 hs, newReports, hcount, h.1, hn, hzero]
      omega
    have hinv : ReportInv (reportDrained q') (reports q (reportDrained q') raised) := by
      intro _
      rw [hnew]
      refine ⟨by split <;> decide, fun _ => hissued, ?_, ?_⟩
      · intro ha _
        rw [notify_of_sendQ hsendQ, hn] at ha
        rw [if_pos ha]
      · intro ha hz
        rw [notify_of_sendQ hsendQ, hn] at ha
        rw [if_pos ha] at hz
        cases hz
    exact ⟨hinv, ReportsOnce.of_inv (fun _ => ⟨hsqd, (quiet_of_sendQ hsendQ).mpr hr.2.2⟩) hinv⟩
  · rw [reportDrained_of_busy hr]
    have hinv : ReportInv q' (reports q q' raised) := by
      intro hsqd
      obtain ⟨hs, hn⟩ := hsame rfl hsqd
      have hd := hi hs
      rw [reports, if_neg fun he => he.1 hs, newReports_same h.1, Nat.add_zero]
      refine ⟨hd.once, ?_, ?_, ?_⟩
      · rw [h.1]
        exact hd.issued
      · -- nothing is in flight, so the flag must be set, and the report was made
        intro ha hf
        by_contra hz
        have hc := hd.clear (hn ▸ ha) (by omega)
        exact hr ⟨hsqd, (congrArg Signals.issued h.1).trans hc, hf⟩
      · rw [hn, h.1]
        exact hd.clear
    refine ⟨hinv, ReportsOnce.of_inv (fun hlt => ?_) hinv⟩
    rw [h.1] at hlt
    exact absurd hlt (lt_irrefl _)

/-! ## Changes of state -/

/-- Whether the report is asked for once the attributes are set. -/
def notifyAfter (q : Qp) (attr : ModifyAttr) (mask : AttrMask) : Bool :=
  if mask.EN_SQD_ASYNC_NOTIFY then attr.en_sqd_async_notify else q.notify

/-- A call of `pib_modify_qp` that the reports survive. -/
structure OrderlyModify (q : Qp) (attr : ModifyAttr) (mask : AttrMask) : Prop where
  /-- with nothing in flight and the report asked for, the change of state is
  an entry into SQD -/
  quiet : mask.STATE = true → q.Quiet → notifyAfter q attr mask = true →
    attr.qp_state = .SQD ∧ q.state ≠ .SQD
  /-- with something in flight and the report asked for, SQD is entered with
  the flag clear -/
  busy : mask.STATE = true → attr.qp_state = .SQD → q.state ≠ .SQD → ¬q.Quiet →
    notifyAfter q attr mask = true → q.issue_sq_drained = false
  /-- the report is not asked for later than at the entry -/
  asked : q.state = .SQD → notifyAfter q attr mask = true → q.notify = true

theorem orderlyModify_iff (q : Qp) (attr : ModifyAttr) (mask : AttrMask) :
    OrderlyModify q attr mask ↔
      (mask.STATE = true ∧ q.Quiet ∧ notifyAfter q attr mask = true →
        attr.qp_state = .SQD ∧ q.state ≠ .SQD) ∧
      (mask.STATE = true ∧ attr.qp_state = .SQD ∧ q.state ≠ .SQD ∧ ¬q.Quiet ∧
        notifyAfter q attr mask = true → q.issue_sq_drained = false) ∧
      (q.state = .SQD ∧ notifyAfter q attr mask = true → q.notify = true) := by
  constructor
  · rintro ⟨hquiet, hbusy, hasked⟩
    exact ⟨fun h => hquiet h.1 h.2.1 h.2.2, fun h => hbusy h.1 h.2.1 h.2.2.1 h.2.2.2.1 h.2.2.2.2,
      fun h => hasked h.1 h.2⟩
  · rintro ⟨hquiet, hbusy, hasked⟩
    exact ⟨fun h₁ h₂ h₃ => hquiet ⟨h₁, h₂, h₃⟩, fun h₁ h₂ h₃ h₄ h₅ => hbusy ⟨h₁, h₂, h₃, h₄, h₅⟩,
      fun h₁ h₂ => hasked ⟨h₁, h₂⟩⟩

instance (q : Qp) (attr : ModifyAttr) (mask : AttrMask) : Decidable (OrderlyModify q attr mask) :=
  decidable_of_iff' _ (orderlyModify_iff q attr mask)

theorem drained_resetQp (q : Qp) : (resetQp cfg now q).signals.drained = q.signals.drained := by
  unfold resetQp
  dsimp only
  rw [signals_clearContig, signals_rescheduleQp, (foldl_freeRecvWqe _ _).choose_spec.choose_spec]
  rfl

theorem drained_enterState (q : Qp) (new : QpState) :
    (enterState cfg now q new).signals.drained = q.signals.drained := by
  cases new with
  | RESET => exact drained_resetQp cfg now { q with state := .RESET }
  | SQE => exact congrArg Signals.drained (signals_flushSendQueue { q with state := .SQE })
  | ERR => exact congrArg Signals.drained (signals_failQp now q)
  | _ => rfl

/-- The reports at the end of `pib_modify_qp`. -/
theorem drained_settleState (q : Qp) (cur new : QpState) (drained : Bool) :
    (settleState now q cur new drained).signals.drained =
      q.signals.drained + (if drained = true ∧ q.notify = true then 1 else 0) := by
  have hend : ∀ r : Qp, (if new = .RTS ∧ getSendWrNum q ≠ 0 then getReadyToSend now r else r).signals =
      r.signals := by
    intro r
    split
    · exact signals_getReadyToSend now r
    · rfl
  have hflag : ∀ r : Qp, Signals.drained
      (Qp.signals (if cur = .SQD ∧ new ≠ .SQD then { r with issue_sq_drained := false } else r)) =
      r.signals.drained := by
    intro r
    split <;> rfl
  rw [settleState, hend, hflag]
  cases drained
  · rfl
  · rw [if_pos rfl]
    exact (tell_drained q).trans (by simp)

/-- The flag after a change to SQD. -/
theorem issued_settleState (q : Qp) (cur : QpState) (drained : Bool) :
    (settleState now q cur .SQD drained).signals.issued = (drained || q.signals.issued) := by
  unfold settleState
  cases drained <;> simp [Qp.signals]

theorem reportInv_setAttrs (h : OrderlyModify q attr mask) (hi : ReportInv q raised) :
    ReportInv (setAttrs cfg q attr mask) raised := by
  intro hsqd
  have hsqd : q.state = .SQD := hsqd
  have hd := hi hsqd
  exact ⟨hd.once, hd.issued, fun ha hq => hd.told (h.asked hsqd ha) hq,
    fun ha hz => hd.clear (h.asked hsqd ha) hz⟩

/-- A change of the state, `q'`, that sets the flag and makes the report as
`pib_modify_qp` does. -/
theorem keepsReports_change (h : OrderlyModify q attr mask) (hm : mask.STATE = true)
    (hstate : q'.state = attr.qp_state) (hn : q'.notify = notifyAfter q attr mask)
    (hcount : q'.signals.drained = q.signals.drained +
      (if q.Quiet ∧ notifyAfter q attr mask = true then 1 else 0)) (hsqd : attr.qp_state = .SQD →
      (q'.Quiet ↔ q.Quiet) ∧ q'.signals.issued = (decide q.Quiet || q.signals.issued)) :
    KeepsReports q q' := by
  intro raised hi
  have hnew : newReports q q' = if q.Quiet ∧ notifyAfter q attr mask = true then 1 else 0 := by
    rw [newReports, hcount]
    omega
  by_cases htell : q.Quiet ∧ notifyAfter q attr mask = true
  · -- the report is made, and by the discipline this is an entry into SQD
    obtain ⟨hto, hfrom⟩ := h.quiet hm htell.1 htell.2
    obtain ⟨hq, hissued⟩ := hsqd hto
    have hraised : reports q q' raised = 1 := by
      rw [reports, if_pos ⟨hfrom, hstate.trans hto⟩, hnew, if_pos htell]
    have hinv : ReportInv q' (reports q q' raised) := by
      intro _
      rw [hraised]
      exact ⟨le_refl 1, fun _ => by simp [hissued, htell.1], fun _ _ => le_refl 1, fun _ hz => nomatch hz⟩
    exact ⟨hinv, ReportsOnce.of_inv (fun _ => ⟨hstate.trans hto, hq.mpr htell.1⟩) hinv⟩
  · rw [if_neg htell] at hnew hcount
    have hinv : ReportInv q' (reports q q' raised) := by
      intro hs
      have hto : attr.qp_state = .SQD := hstate.symm.trans hs
      obtain ⟨hq, hissued⟩ := hsqd hto
      have htold : q'.notify = true → ¬q.Quiet := fun ha hf => htell ⟨hf, hn ▸ ha⟩
      by_cases hfrom : q.state = .SQD
      · have hd := hi hfrom
        rw [reports, if_neg fun he => he.1 hfrom, hnew, Nat.add_zero]
        refine ⟨hd.once, fun hr => by simp [hissued, hd.issued hr],
          fun ha hf => absurd (hq.mp hf) (htold ha), fun ha hz => ?_⟩
        simp [hissued, htold ha, hd.clear (h.asked hfrom (hn ▸ ha)) hz]
      · rw [reports, if_pos ⟨hfrom, hs⟩, hnew]
        refine ⟨Nat.zero_le 1, fun hr => absurd hr (by decide), fun ha hf => absurd (hq.mp hf) (htold ha),
          fun ha _ => ?_⟩
        have hflag : q.signals.issued = false := h.busy hm hto hfrom (htold ha) (hn ▸ ha)
        simp [hissued, htold ha, hflag]
    refine ⟨hinv, ReportsOnce.of_inv (fun hlt => ?_) hinv⟩
    omega

theorem keepsReports_modify
    (isOk : StateCheck) (now : Nat) (h : OrderlyModify q attr mask) :
    KeepsReports q (pibModifyQp cfg isOk now q attr mask).1 := by
  rcases pibModifyQp_settles cfg isOk now q attr mask with he | ⟨-, he⟩ | ⟨hm, -, -, he⟩
  · rw [he]
    exact (Stays.refl q).hush.keepsReports
  · rw [he]
    intro raised hi
    have hsig : (setAttrs cfg q attr mask).signals = q.signals := rfl
    have hsame : reports q (setAttrs cfg q attr mask) raised = raised := by
      rw [reports, if_neg fun hent => hent.1 hent.2, newReports_same hsig, Nat.add_zero]
    have hinv := reportInv_setAttrs cfg h hi
    rw [hsame]
    exact ⟨hinv, ReportsOnce.of_inv (fun hlt => absurd hlt (lt_irrefl _)) hinv⟩
  · rw [he]
    obtain ⟨hnew, -, hattr⟩ := enterState_frame cfg now (setAttrs cfg q attr mask) attr.qp_state
    have hsendQ := sendQ_settleState now (enterState cfg now (setAttrs cfg q attr mask) attr.qp_state)
      (curState q attr mask) attr.qp_state (decide q.Quiet)
    have hnotify : (enterState cfg now (setAttrs cfg q attr mask) attr.qp_state).notify =
        notifyAfter q attr mask := congrArg QpAttr.en_sqd_async_notify hattr
    refine keepsReports_change h hm ((congrArg SendQ.state hsendQ).trans hnew)
      ((notify_of_sendQ hsendQ).trans hnotify) ?_ fun hto => ⟨(quiet_of_sendQ hsendQ).trans ?_, ?_⟩
    · refine (drained_settleState ..).trans ?_
      simp only [hnotify, drained_enterState, decide_eq_true_iff]
      rfl
    · rw [hto]
      rfl
    · rw [hto]
      exact issued_settleState ..

/-! ## Datagram queue pairs -/

/-- What the reports depend on. -/
structure DrainView where
  state : QpState
  notify : Bool
  sending : List SendWqe
  waiting : List SendWqe
  signals : Signals

def Qp.drainView (q : Qp) : DrainView :=
  { state := q.state, notify := q.notify, signals := q.signals
    sending := q.requester.sending_swqe, waiting := q.requester.waiting_swqe }

theorem Hush.of_view (h : q'.drainView = q.drainView) : Hush q q' := by
  refine ⟨congrArg DrainView.signals h, fun hsqd => ⟨?_, congrArg DrainView.notify h, fun _ hq => ?_⟩⟩
  · exact (congrArg DrainView.state h).symm.trans hsqd
  · exact ⟨(congrArg DrainView.sending h).symm.trans hq.1,
      (congrArg DrainView.waiting h).symm.trans hq.2⟩

theorem drainView_rescheduleQp (q : Qp) : (pibUtilRescheduleQp now q).drainView = q.drainView := by
  unfold pibUtilRescheduleQp
  split <;> rfl

theorem drainView_freeRecvWqe (q : Qp) : q.freeRecvWqe.drainView = q.drainView := by
  unfold Qp.freeRecvWqe
  split <;> rfl

theorem drainView_postUdSendWr (ahs : Nat → Option Ah) (q : Qp) (total_length : Nat) (wr : SendWr) :
    (postUdSendWr cfg copyFromUser ahs q total_length wr).1.drainView = q.drainView := by
  unfold postUdSendWr
  split
  · rfl
  split
  · rfl
  dsimp only
  split
  · rfl
  split
  · rfl
  · split <;> rfl

theorem drainView_postUdSendLoop (ahs : Nat → Option Ah) (wrs : List SendWr) :
    ∀ (q : Qp) (total_length : Nat),
      (postUdSendLoop cfg copyFromUser ahs q total_length wrs).1.drainView = q.drainView := by
  induction wrs with
  | nil => exact fun _ _ => rfl
  | cons wr wrs ih =>
    intro q total_length
    have h := drainView_postUdSendWr cfg copyFromUser ahs q total_length wr
    unfold postUdSendLoop
    split <;> rename_i heq <;> rw [heq] at h
    · exact h
    · exact (ih _ _).trans h

theorem drainView_pibPostUdSend (ahs : Nat → Option Ah) (q : Qp) (wrs : List SendWr) :
    (pibPostUdSend cfg copyFromUser now ahs q wrs).1.drainView = q.drainView := by
  unfold pibPostUdSend
  split
  · rfl
  rename_i wr wrs
  have h := drainView_postUdSendLoop cfg copyFromUser ahs (wr :: wrs) q 0
  generalize postUdSendLoop cfg copyFromUser ahs q 0 (wr :: wrs) = r at h ⊢
  dsimp only
  split
  · exact (drainView_rescheduleQp now r.1).trans h
  · exact h

/-- A datagram that has been sent or has failed makes no report, although it
may leave nothing in flight. -/
theorem follows_sendingHead (n : UdNode) :
    (processUdSendingHead cfg now n).qp.signals = n.qp.signals ∧
      ((processUdSendingHead cfg now n).qp.state = .SQE ∨
        ((processUdSendingHead cfg now n).qp.state = n.qp.state ∧
          (processUdSendingHead cfg now n).qp.notify = n.qp.notify)) := by
  have hfail : ∀ (w : SendWqe) (ws : List SendWqe) (status : WcStatus),
      (failUd n.qp w ws status).signals = n.qp.signals ∧
        (failUd n.qp w ws status).state = .SQE := by
    intro w ws status
    have hs : ∀ q : Qp, (flushSendQueue q).state = q.state := by
      intro q
      unfold flushSendQueue
      simp only [foldl_flushSendWqe]
    exact ⟨signals_flushSendQueue _, hs _⟩
  have hfinish : ∀ (w : SendWqe) (ws : List SendWqe),
      (finishUd n.qp w ws).signals = n.qp.signals ∧ (finishUd n.qp w ws).state = n.qp.state ∧
        (finishUd n.qp w ws).notify = n.qp.notify := by
    intro w ws
    unfold finishUd
    dsimp only
    split <;> exact ⟨rfl, rfl, rfl⟩
  unfold processUdSendingHead
  split
  · exact ⟨rfl, Or.inr ⟨rfl, rfl⟩⟩
  split
  · exact ⟨rfl, Or.inr ⟨rfl, rfl⟩⟩
  split
  · exact ⟨rfl, Or.inr ⟨rfl, rfl⟩⟩
  unfold processUdSendWr
  split
  · exact ⟨rfl, Or.inr ⟨rfl, rfl⟩⟩
  split
  · exact (hfail _ _ _).imp_right Or.inl
  unfold pibProcessUdQpRequest
  dsimp only
  split
  · exact (hfinish _ _).imp_right Or.inr
  · exact (hfail _ _ _).imp_right Or.inl

theorem Hush.trans {q'' : Qp} (h : Hush q q') (h' : Hush q' q'') : Hush q q'' := by
  refine ⟨h'.1.trans h.1, fun hsqd => ?_⟩
  obtain ⟨hs', hn', hq'⟩ := h'.2 hsqd
  obtain ⟨hs, hn, hq⟩ := h.2 hs'
  exact ⟨hs, hn'.trans hn, fun ha hf => hq ha (hq' (hn.trans ha) hf)⟩

/-- In SQD the scheduler has nothing to do for a datagram queue pair with
nothing in flight. -/
theorem hush_processUdScheduler {n : UdNode}
    (h : n.qp.state = .SQD → n.qp.notify = true → n.qp.Quiet) :
    Hush n.qp (processUdScheduler cfg now n).qp := by
  unfold processUdScheduler
  rw [UdNode.setQp_qp]
  refine Hush.trans ?_ (Hush.of_view (drainView_rescheduleQp now _))
  split
  · exact Hush.of_view rfl
  split
  · split
    · exact Hush.of_view rfl
    rename_i q hq
    obtain ⟨hrts, w, ws, -, -, rfl⟩ := processNewSendWr_some hq
    obtain ⟨hsig, hstate⟩ := follows_sendingHead cfg now (n.setQp _)
    refine Hush.left hsig fun hsqd => ?_
    rcases hstate with he | ⟨he, -⟩
    · exact nomatch he.symm.trans hsqd
    · exact nomatch (he.trans hrts).symm.trans hsqd
  · rename_i hne
    obtain ⟨hsig, hstate⟩ := follows_sendingHead cfg now n
    refine ⟨hsig, fun hsqd => ?_⟩
    rcases hstate with he | ⟨he, hn⟩
    · exact nomatch he.symm.trans hsqd
    · exact ⟨he.symm.trans hsqd, hn, fun ha _ => h (he.symm.trans hsqd) ha⟩

theorem hush_finishUdReceive (q : Qp) (w : RecvWqe) (wc : Wc) (solicited : Bool)
    (status : WcStatus) : Hush q (finishUdReceive now q w wc solicited status) := by
  unfold finishUdReceive
  split
  · exact Hush.of_view (drainView_freeRecvWqe _)
  split
  · split
    · exact Hush.of_view (drainView_freeRecvWqe _)
    · exact Hush.of_view (drainView_freeRecvWqe _)
  refine Hush.trans ?_ (Hush.of_view (drainView_freeRecvWqe _))
  have hsig := signals_failQp now { q with
    send_cq := q.send_cq ++ [{ wr_id := w.wr_id, status, opcode := .RECV }] }
  have hstate := failQp_state now { q with
    send_cq := q.send_cq ++ [{ wr_id := w.wr_id, status, opcode := .RECV }] }
  unfold failQp at hsig hstate
  dsimp only at hsig hstate ⊢
  generalize pibUtilFlushQp now false _ = q' at hsig hstate ⊢
  exact Hush.left hsig (by rw [hstate]; decide)

theorem hush_receiveUd (port_num : Nat) (n : UdNode) (p : UdPacket) :
    Hush n.qp (pibReceiveUdQpIncomingMessage now port_num n p).qp := by
  unfold pibReceiveUdQpIncomingMessage
  split
  · exact Hush.of_view rfl
  split
  · exact Hush.of_view rfl
  rename_i w q htake
  have hq : q.drainView = n.qp.drainView := by
    obtain ⟨_, _, rfl⟩ := takeRecvWqe_qp htake
    rfl
  split
  · exact Hush.of_view ((drainView_freeRecvWqe q).trans hq)
  · dsimp only
    exact Hush.trans (Hush.of_view hq) (hush_finishUdReceive now q w _ _ _)

/-! ## Steps -/

/-- What a step needs so that the reports are right. The scheduler retires
local requests, and datagrams, without looking at the flag. -/
def Orderly (n : Node) : Nat × Act → Prop
  | (_, .schedule) => n.qp.state = .SQD → n.qp.notify = true →
      ∀ w ∈ n.qp.flight, w.local_only_request = false
  | (_, .modify attr mask) => OrderlyModify n.qp attr mask
  | _ => True

def UdOrderly (n : UdNode) : Nat × UdAct → Prop
  | (_, .schedule) => n.qp.state = .SQD → n.qp.notify = true → n.qp.Quiet
  | (_, .modify attr mask) => OrderlyModify n.qp attr mask
  | _ => True

instance (n : Node) : DecidablePred (Orderly n)
  | (_, .schedule) => inferInstanceAs (Decidable (_ → _ → ∀ w ∈ n.qp.flight, _))
  | (_, .modify attr mask) => inferInstanceAs (Decidable (OrderlyModify n.qp attr mask))
  | (_, .postSend _ _) | (_, .postRecv _) | (_, .receive _ _) | (_, .fatal)
  | (_, .environment _ _ _) => inferInstanceAs (Decidable True)

instance (n : UdNode) : DecidablePred (UdOrderly n)
  | (_, .schedule) => inferInstanceAs (Decidable (_ → _ → n.qp.Quiet))
  | (_, .modify attr mask) => inferInstanceAs (Decidable (OrderlyModify n.qp attr mask))
  | (_, .postSend _ _) | (_, .postRecv _) | (_, .receive _ _) | (_, .fatal) | (_, .setAh _ _)
  | (_, .environment _ _ _) => inferInstanceAs (Decidable True)

/-- What comes after a step without a report does not matter. -/
theorem KeepsReports.trans_view {q'' : Qp} (h : KeepsReports q q')
    (hv : q''.drainView = q'.drainView) : KeepsReports q q'' := by
  intro raised hi
  have hhush := Hush.of_view hv
  have hstate : q''.state = q'.state := congrArg DrainView.state hv
  have hreports : reports q q'' raised = reports q q' raised := by
    have henters : Enters q q'' ↔ Enters q q' := by rw [Enters, hstate, Enters]
    rw [reports, reports, newReports, hhush.1]
    exact if_congr henters rfl rfl
  obtain ⟨hinv, honce⟩ := h raised hi
  have hsame : ReportInv q'' (reports q q' raised) := by
    intro hsqd
    have h' := hhush.inv hinv hsqd
    rwa [hhush.reports hsqd] at h'
  rw [hreports]
  refine ⟨hsame, ReportsOnce.of_inv (fun hlt => ?_) hsame⟩
  obtain ⟨hs, hq⟩ := honce.drained (by rw [← hhush.1]; exact hlt)
  refine ⟨hstate.trans hs, ?_⟩
  exact ⟨(congrArg DrainView.sending hv).trans hq.1, (congrArg DrainView.waiting hv).trans hq.2⟩

theorem keepsReports_receive (port_num : Nat) (n : Node) (p : RcPacket) :
    KeepsReports n.qp (pibReceiveRcQpIncomingMessage cfg now port_num n p).qp := by
  unfold pibReceiveRcQpIncomingMessage
  split
  · exact (Stays.refl _).hush.keepsReports
  split
  · exact Hush.keepsReports (Hush.of_view rfl)
  split
  · exact (Stays.refl _).hush.keepsReports
  · rcases receiveResponse_ends cfg now n p with h | ⟨q, hq, h⟩
    · exact h.hush.keepsReports
    · rw [h]
      exact keepsReports_reportDrained hq
  · exact (keeps_receiveRequest cfg now n p).stays.hush.keepsReports

variable {isOk : StateCheck}

theorem keepsReports_step {n : Node} {x : Nat × Act} (h : Orderly n x) :
    KeepsReports n.qp (step cfg isOk n x).qp := by
  obtain ⟨now, a⟩ := x
  cases a with
  | postSend copyFromUser wrs =>
    exact (stays_pibPostSend cfg copyFromUser now n.qp wrs).hush.keepsReports
  | postRecv wrs => exact (stays_pibPostRecv cfg n.qp wrs).hush.keepsReports
  | schedule =>
    refine Hush.keepsReports ?_
    by_cases hdue : n.qp.state = .SQD ∧ n.qp.notify = true
    · exact (stays_processOnQpScheduler cfg now (n := { n with send_buffer := none }) hdue.1
        (h hdue.1 hdue.2)).hush
    · refine (follows_processOnQpScheduler cfg now { n with send_buffer := none }).hush fun hs => ?_
      simpa using fun ha => hdue ⟨hs, ha⟩
  | receive port_num p =>
    exact (keepsReports_receive cfg now port_num { n with send_buffer := none } p).trans_view
      (drainView_rescheduleQp now _)
  | modify attr mask => exact keepsReports_modify cfg isOk now h
  | fatal => exact (stays_failQp now rfl).hush.keepsReports
  | environment pd mem srq => exact Hush.keepsReports (Hush.of_view rfl)

theorem keepsReports_udStep {n : UdNode} {x : Nat × UdAct} (h : UdOrderly n x) :
    KeepsReports n.qp (udStep cfg isOk n x).qp := by
  obtain ⟨now, a⟩ := x
  cases a with
  | postSend copyFromUser wrs =>
    exact (Hush.of_view (drainView_pibPostUdSend cfg copyFromUser now n.ahs n.qp wrs)).keepsReports
  | postRecv wrs => exact (stays_pibPostRecv cfg n.qp wrs).hush.keepsReports
  | schedule =>
    exact (hush_processUdScheduler cfg now (n := { n with send_buffer := none }) h).keepsReports
  | receive port_num p =>
    exact ((hush_receiveUd now port_num { n with send_buffer := none } p).trans
      (Hush.of_view (drainView_rescheduleQp now _))).keepsReports
  | modify attr mask => exact keepsReports_modify cfg isOk now h
  | fatal => exact (stays_failQp now rfl).hush.keepsReports
  | setAh | environment => exact Hush.keepsReports (Hush.of_view rfl)

/-! ## Runs -/

section

variable {σ ℓ : Type*}

/-- The step with the reports since the last entry into SQD counted along. -/
def counted (qp : σ → Qp) (step : σ → ℓ → σ) (s : σ × Nat) (x : ℓ) : σ × Nat :=
  (step s.1 x, reports (qp s.1) (qp (step s.1 x)) s.2)

/-- The law of a step of the counted run. -/
def Reports (qp : σ → Qp) (step : σ → ℓ → σ) (s : σ × Nat) (x : ℓ) : Prop :=
  ReportsOnce (qp s.1) (qp (step s.1 x)) (reports (qp s.1) (qp (step s.1 x)) s.2)

theorem meets_reports {qp : σ → Qp} {step : σ → ℓ → σ} {C : σ → ℓ → Prop}
    (hstep : ∀ s x, C s x → KeepsReports (qp s) (qp (step s x))) {s : σ} (hs : (qp s).state ≠ .SQD)
    {xs : List ℓ} (h : Run.Meets (counted qp step) (fun s x => C s.1 x) (s, 0) xs) :
    Run.Meets (counted qp step) (Reports qp step) (s, 0) xs := by
  refine Run.Meets.of_invariant (I := fun s => ReportInv (qp s.1) s.2) ?_ ?_ ?_ h
  · exact fun s x hi hc => (hstep s.1 x hc s.2 hi).1
  · exact fun s x hi hc => (hstep s.1 x hc s.2 hi).2
  · exact fun hsqd => absurd hsqd hs

end

/-- In a run of orderly steps the drained send queue of a queue pair, connected
or datagram, is reported in SQD with nothing in flight, at most once for each
entry, and no report that is asked for is lost. -/
theorem sq_drained_reported_once (cfg : Config)
    (ibModifyQpIsOk : QpState → QpState → AttrMask → Bool) :
    (∀ (n : Node) (xs : List (Nat × Act)), n.qp.state ≠ .SQD →
      Run.Meets (counted Node.qp (step cfg ibModifyQpIsOk)) (fun s x => Orderly s.1 x) (n, 0) xs →
      Run.Meets (counted Node.qp (step cfg ibModifyQpIsOk))
        (Reports Node.qp (step cfg ibModifyQpIsOk)) (n, 0) xs) ∧
    ∀ (n : UdNode) (xs : List (Nat × UdAct)), n.qp.state ≠ .SQD →
      Run.Meets (counted UdNode.qp (udStep cfg ibModifyQpIsOk)) (fun s x => UdOrderly s.1 x)
        (n, 0) xs →
      Run.Meets (counted UdNode.qp (udStep cfg ibModifyQpIsOk))
        (Reports UdNode.qp (udStep cfg ibModifyQpIsOk)) (n, 0) xs :=
  ⟨fun _ _ hs => meets_reports (fun _ _ => keepsReports_step cfg) hs,
    fun _ _ hs => meets_reports (fun _ _ => keepsReports_udStep cfg) hs⟩

/-- The calls that a datagram queue pair is brought to SQD with, the report
asked for. -/
def udDrainRun : List (Nat × UdAct) :=
  [(0, .modify { qp_state := .INIT } { STATE := true }), (0, .modify { qp_state := .RTR } { STATE := true }),
   (0, .modify { qp_state := .RTS } { STATE := true }),
   (1, .modify { qp_state := .SQD, en_sqd_async_notify := true }
      { STATE := true, EN_SQD_ASYNC_NOTIFY := true })]

def inlineSend : SendWr :=
  { wr_id := 9, opcode := .SEND, send_flags := { INLINE := true }
    sg_list := [{ addr := 0, length := 4, lkey := 0 }] }

/-- A SEND is in flight when SQD is entered, and is acknowledged there. -/
def drainTail : List (Nat × Act) :=
  [(1, .postSend (fun _ _ => some [1, 2, 3, 4]) [inlineSend]), (2, .schedule),
   (2, .modify { qp_state := .SQD, en_sqd_async_notify := true }
      { STATE := true, EN_SQD_ASYNC_NOTIFY := true }),
   (3, .receive 1 { opcode := .ACKNOWLEDGE, psn := 5, buffer := [0, 0, 0, 0] })]

def drainStart : Node := created {} { max_inline_data := 4 } none ⟨0, fun _ => none⟩ fun _ => 0

def bringUpFive : List (Nat × Act) :=
  bringUp { timeout := 14, retry_cnt := 7, sq_psn := 5, path_mtu := 1, port_num := 1 }

/-- The flag that the calls of the bring-up have set is cleared by a way
through SQD. -/
def drainRun : List (Nat × Act) :=
  bringUpFive ++ [(1, .modify { qp_state := .SQD } { STATE := true }),
    (1, .modify { qp_state := .RTS } { STATE := true })] ++ drainTail

theorem sq_drained_reported_drainRun :
    let s := Run.run (counted Node.qp (step {} ibStateTable)) (drainStart, 0) drainRun
    let u := createdUd {} .UD {} none ⟨0, fun _ => none⟩ fun _ => 0
    (s.1.qp.state = .SQD ∧ s.2 = 1) ∧
      Run.Meets (counted Node.qp (step {} ibStateTable)) (Reports Node.qp (step {} ibStateTable))
        (drainStart, 0) drainRun ∧
      Run.Meets (counted UdNode.qp (udStep {} ibStateTable))
        (Reports UdNode.qp (udStep {} ibStateTable)) (u, 0) udDrainRun := by
  refine ⟨by decide, (sq_drained_reported_once {} ibStateTable).1 _ _ (by decide) (by decide),
    (sq_drained_reported_once {} ibStateTable).2 _ _ (by decide) (by decide)⟩

/-- SQD is entered with nothing in flight and left again. -/
def leaveRun : List (Nat × Act) :=
  bringUpFive ++ [(1, .modify { qp_state := .SQD, en_sqd_async_notify := true }
      { STATE := true, EN_SQD_ASYNC_NOTIFY := true }),
    (2, .modify { qp_state := .RTS } { STATE := true })]

/-- The bring-up sets the flag, so that the send queue drains in SQD without a
report, and leaving SQD makes a second report in RTS. -/
theorem sq_drained_lost_and_repeated :
    let s := Run.run (counted Node.qp (step {} ibStateTable)) (drainStart, 0) (bringUpFive ++ drainTail)
    let n := Run.run (step {} ibStateTable) drainStart (leaveRun.take 4)
    let n' := Run.run (step {} ibStateTable) drainStart leaveRun
    (s.1.qp.state = .SQD ∧ s.1.qp.notify = true ∧ s.1.qp.Quiet ∧ s.2 = 0) ∧
      n.qp.signals.drained = 1 ∧ n'.qp.state = .RTS ∧ n'.qp.signals.drained = 2 := by
  decide

end pib
