-- The timer of the requester: when a queue pair with requests in flight is
-- on the scheduler's tree, over whole runs of a queue pair in RTS.
import Pib.RequesterQueue

namespace pib

open Bytes

variable {now : Nat} {w : SendWqe} {n : Node} {q : Qp} {cfg : Config}

variable {c : Ctx} {s s' : SendQ} {a : Option SendWr}

/-! ## The times of the elements in flight -/

/-- An element that waits is due within the acknowledge timeout, and one in
flight is never put off for good. -/
structure Timed (now : Nat) (s : SendQ) : Prop where
  waiting : ∀ w ∈ s.waiting, w.processing.local_ack_time ≤ now + s.local_ack_timeout
  flight : ∀ w ∈ s.flight, w.processing.schedule_time < now + PIB_SCHED_TIMEOUT

theorem Timed.mono {now' : Nat} (h : Timed now s) (hle : now ≤ now') : Timed now' s :=
  ⟨fun w hw => (h.waiting w hw).trans (by omega), fun w hw => (h.flight w hw).trans_le (by omega)⟩

/-- Fewer elements in flight are in time as well. -/
theorem Timed.subset (h : Timed now s) (hw : s'.waiting ⊆ s.waiting)
    (hf : s'.flight ⊆ s.flight) (ht : s'.local_ack_timeout = s.local_ack_timeout) : Timed now s' :=
  ⟨fun w hm => ht ▸ h.waiting w (hw hm), fun w hm => h.flight w (hf hm)⟩

theorem Touched.schedule_lt {w' : SendWqe} (h : Touched c w w')
    (hw : w.processing.schedule_time < c.now + PIB_SCHED_TIMEOUT) :
    w'.processing.schedule_time < c.now + PIB_SCHED_TIMEOUT := by
  rcases h.sched with h | ⟨-, h⟩ | ⟨-, h⟩
  · rw [h]
    exact hw
  · rw [h]
    exact Nat.lt_add_of_pos_right (by decide)
  · omega

/-- The law, list by list. -/
theorem timed_iff : Timed now s ↔ ListLaw (fun _ => True)
    (fun w => w.processing.schedule_time < now + PIB_SCHED_TIMEOUT ∧
      w.processing.local_ack_time ≤ now + s.local_ack_timeout)
    (fun w => w.processing.schedule_time < now + PIB_SCHED_TIMEOUT) s := by
  constructor
  · rintro ⟨hw, hf⟩
    obtain ⟨hfw, hfs⟩ := List.forall_mem_append.mp hf
    exact ⟨fun _ _ => trivial, fun w hm => ⟨hfw w hm, hw w hm⟩, hfs⟩
  · rintro ⟨-, hw, hs⟩
    exact ⟨fun w hm => (hw w hm).2, List.forall_mem_append.mpr ⟨fun w hm => (hw w hm).1, hs⟩⟩

/-- Every move keeps the times of the elements in flight within bounds. -/
theorem timed_move (hm : Move c s a s') (h : Timed c.now s) : Timed c.now s' := by
  have hlaw := ListLaw.move hm
    { touchWaiting := fun ht hw => ⟨ht.1.schedule_lt hw.1, ht.2.elim (fun he => he ▸ hw.2) fun he => he.le⟩
      touch := fun ht => ht.schedule_lt
      ack := fun _ _ => ⟨id, id⟩
      progress := fun _ _ => ⟨fun hw => ⟨hw.1, le_refl _⟩, id⟩
      resend := fun ht hw => ht.schedule_lt hw.1
      back := id
      more := fun _ _ => id
      wait := fun _ _ _ hack hsch hw => ⟨hsch ▸ hw, hack.le⟩
      start := fun _ _ _ _ ht _ => ht.trans_lt (Nat.lt_add_of_pos_right (by decide))
      post := fun _ _ => trivial }
    (timed_iff.mp h)
  rw [timed_iff, (sameAttrs_move hm).local_ack_timeout]
  exact hlaw

/-- The times stay within bounds, and the attributes stay as they are. -/
def Runs (now : Nat) (s s' : SendQ) : Prop := Timed now s' ∧ SameAttrs s s'

theorem runs_moves {as : List SendWr} (hm : Moves c s as s') (h : Timed c.now s) :
    Runs c.now s s' := by
  refine Moves.keep (I := Runs c.now s) ?_ hm ⟨h, .refl s⟩
  rintro s₁ s₂ a hm ⟨ht, hk⟩
  exact ⟨timed_move hm ht, hk.trans (sameAttrs_move hm)⟩

/-- A local request that is carried out only shortens the waiting list, or
makes the queue pair fail. -/
theorem runs_localHead (cfg : Config) {ws : List SendWqe}
    (hw : n.qp.requester.waiting_swqe = w :: ws) (h : Timed now n.qp.sendQ) :
    Runs now n.qp.sendQ (processLocalOnlyHead cfg now n w ws).qp.sendQ := by
  have hd := localDone_localHead cfg now hw
  have hwait : n.qp.sendQ.waiting = w :: ws := hw
  generalize (processLocalOnlyHead cfg now n w ws).qp.sendQ = s' at hd ⊢
  cases hd with
  | retired f hf =>
    refine ⟨h.subset ?_ ?_ rfl, rfl, rfl, rfl, rfl, Or.inl rfl⟩
    · simp [hwait]
    · simp [SendQ.flight, hwait]
  | failed free nr_waiting cq hf =>
    refine ⟨⟨?_, ?_⟩, rfl, rfl, rfl, rfl, ?_⟩
    all_goals simp [SendQ.flight]

/-- Every step but a call of `pib_modify_qp` keeps the times within bounds. -/
theorem runs_act (cfg : Config) (isOk : StateCheck) {a : Act} (hmod : ∀ attr mask, a ≠ .modify attr mask) (h : Timed now n.qp.sendQ) :
    Runs now n.qp.sendQ (act cfg isOk now n a).qp.sendQ := by
  by_cases hs : a = .schedule
  · subst hs
    rcases schedule_localHead cfg now { n with send_buffer := none } with hl | he |
      ⟨w, ws, hw, -, -, -, he⟩
    · exact runs_moves (c := Ctx.any now) (moves_step cfg isOk n now .schedule hmod
        fun _ => hl) h
    · have he : (act cfg isOk now n .schedule).qp.sendQ = n.qp.sendQ := he
      rw [he]
      exact ⟨h, .refl _⟩
    · have he : (act cfg isOk now n .schedule).qp.sendQ = _ := he
      rw [he]
      exact runs_localHead cfg (n := { n with send_buffer := none }) hw h
  · exact runs_moves (c := Ctx.any now) (moves_step cfg isOk n now a hmod
      fun h => absurd h hs) h

/-! ## When a queue pair is scheduled -/

/-- Acknowledges wait, and may be sent. -/
def AcksReady (q : Qp) : Prop :=
  q.responder.acks ≠ [] ∧ q.responder.nr_contig_read_acks < PIB_MAX_CONTIG_READ_ACKS

/-- Too many requests have gone out without a response, and nothing waits
that could time out. -/
def Throttled (q : Qp) : Prop :=
  q.requester.waiting_swqe = [] ∧ PIB_MAX_CONTIG_REQUESTS < q.requester.nr_contig_requests ∧
    ¬ AcksReady q

theorem skipTime_isSome {t : Nat} (h : t < now + PIB_SCHED_TIMEOUT) :
    (skipTime now t).isSome = true := by
  rw [skipTime, if_neg h.ne]
  rfl

theorem skipTime_now (now : Nat) : (skipTime now now).isSome = true :=
  skipTime_isSome (Nat.lt_add_of_pos_right (by decide))

theorem submittedTime_isSome {t : Nat} (h : t < now + PIB_SCHED_TIMEOUT) :
    (submittedTime now q t).isSome = true := by
  have ht := skipTime_isSome h
  unfold submittedTime
  split
  · split
    · exact ht
    split
    · exact ht
    · exact skipTime_now now
  · exact ht

theorem waitingTime_lt (ht : Timed now q.sendQ) (hfin : q.local_ack_timeout < PIB_SCHED_TIMEOUT)
    (hw : q.requester.waiting_swqe ≠ []) : waitingTime now q < now + PIB_SCHED_TIMEOUT := by
  unfold waitingTime
  split
  · exact absurd ‹_› hw
  rename_i w ws he
  have hle : w.processing.local_ack_time ≤ now + q.local_ack_timeout :=
    ht.waiting w (by simp [Qp.sendQ, he])
  split <;> omega

/-- With requests in flight the queue pair wants to be scheduled, unless the
throttle holds it back. -/
theorem scheduleTime_isSome (hrc : q.qp_type = .RC) (hst : q.state = .RTS)
    (ht : Timed now q.sendQ) (hfin : q.local_ack_timeout < PIB_SCHED_TIMEOUT)
    (hne : q.flight ≠ []) : (scheduleTime now q).isSome ↔ ¬ Throttled q := by
  unfold scheduleTime
  by_cases hack : AcksReady q
  · rw [if_pos ⟨hrc, by rw [hst]; rfl, hack.1, hack.2⟩]
    exact iff_of_true (skipTime_now now) fun h => h.2.2 hack
  rw [if_neg fun h => hack ⟨h.2.2.1, h.2.2.2⟩, if_neg (by simp [hst])]
  dsimp only
  have hwait := waitingTime_lt ht hfin
  rcases hs : q.requester.sending_swqe with _ | ⟨w, ws⟩
  · have hw : q.requester.waiting_swqe ≠ [] := by
      intro hw
      exact hne (by rw [Qp.flight, hw, hs]; rfl)
    exact iff_of_true (submittedTime_isSome (hwait hw)) fun h => hw h.1
  dsimp only
  by_cases herr : w.processing.status ≠ .SUCCESS ∧ q.requester.waiting_swqe ≠ []
  · rw [if_pos herr]
    exact iff_of_true (skipTime_isSome (hwait herr.2)) fun h => herr.2 h.1
  rw [if_neg herr]
  by_cases hcontig : PIB_MAX_CONTIG_REQUESTS < q.requester.nr_contig_requests
  · rw [if_pos hcontig]
    by_cases hw : q.requester.waiting_swqe = []
    · refine iff_of_false ?_ fun h => h ⟨hw, hcontig, hack⟩
      simp [skipTime, waitingTime, hw]
    · exact iff_of_true (skipTime_isSome (hwait hw)) fun h => hw h.1
  · rw [if_neg hcontig]
    refine iff_of_true (submittedTime_isSome ?_) fun h => hcontig h.2.1
    have hsch : w.processing.schedule_time < now + PIB_SCHED_TIMEOUT :=
      ht.flight w (by simp [SendQ.flight, Qp.sendQ, hs])
    split <;> omega

/-! ## The last call of `pib_util_reschedule_qp` -/

/-- The queue pair as a step hands it to `pib_util_reschedule_qp`, if the step
calls it. -/
def rescheduled (cfg : Config) (now : Nat) (n : Node) (a : Act) : Option Qp :=
  let n := { n with send_buffer := none }
  match a with
  | .postSend copyFromUser wrs =>
    if wrs ≠ [] ∧ n.qp.state = .RTS then some (postSendLoop cfg copyFromUser n.qp 0 wrs).1 else none
  | .schedule => some (match pibGenerateRcQpAcknowledge n with
    | (n, true) => n
    | (n, false) => processRequester cfg now n).qp
  | .receive port_num p => some (pibReceiveRcQpIncomingMessage cfg now port_num n p).qp
  | _ => none

theorem reschedule_on (now : Nat) (q : Qp) :
    (pibUtilRescheduleQp now q).sched_on = (scheduleTime now q).isSome := by
  unfold pibUtilRescheduleQp
  split <;> rename_i h <;> rw [h] <;> rfl

/-- A step that calls `pib_util_reschedule_qp` leaves the queue pair on the
tree or not as that call decides. -/
theorem act_rescheduled (cfg : Config) (isOk : StateCheck) {a : Act} (h : rescheduled cfg now n a = some q) :
    (act cfg isOk now n a).qp.sched_on = (scheduleTime now q).isSome ∧
      (act cfg isOk now n a).qp.sendQ = q.sendQ := by
  cases a with
  | postSend copyFromUser wrs =>
    simp only [rescheduled, Option.ite_none_right_eq_some, Option.some.injEq] at h
    obtain ⟨⟨hwrs, hst⟩, rfl⟩ := h
    rcases wrs with _ | ⟨wr, wrs⟩
    · exact absurd rfl hwrs
    · simp only [act, pibPostSend, hst, if_true, Node.setQp_qp, sendQ_getReadyToSend, and_true]
      exact reschedule_on now _
  | schedule | receive =>
    simp only [rescheduled, Option.some.injEq] at h
    subst h
    exact ⟨reschedule_on now _, sendQ_rescheduleQp now _⟩
  | _ => simp [rescheduled] at h

/-- A step that does not call it leaves the queue pair where it is. -/
theorem act_not_rescheduled (cfg : Config) (isOk : StateCheck) {a : Act} (hmod : ∀ attr mask, a ≠ .modify attr mask)
    (h : rescheduled cfg now n a = none)
    (hst : (act cfg isOk now n a).qp.state = .RTS) :
    (act cfg isOk now n a).qp.sched_on = n.qp.sched_on ∧
      (act cfg isOk now n a).qp.sendQ = n.qp.sendQ := by
  cases a with
  | postSend copyFromUser wrs =>
    rcases wrs with _ | ⟨wr, wrs⟩
    · exact ⟨rfl, rfl⟩
    have hst' : n.qp.state = .RTS := by
      have hm := moves_pibPostSend (c := Ctx.any now) cfg copyFromUser now n.qp (wr :: wrs)
      exact Moves.keep (I := fun s' => s'.state = .RTS → n.qp.sendQ.state = .RTS)
        (fun hm h he => h ((sameAttrs_move hm).rts he)) hm id hst
    simp [rescheduled, hst'] at h
  | postRecv wrs =>
    obtain ⟨_, _, _, _, hq⟩ := pibPostRecv_qp cfg n.qp wrs
    have hon : (pibPostRecv cfg n.qp wrs).1.sched_on = n.qp.sched_on := by rw [hq]
    exact ⟨hon, sendQ_pibPostRecv cfg n.qp wrs⟩
  | schedule | receive => simp [rescheduled] at h
  | modify attr mask => exact absurd rfl (hmod attr mask)
  | fatal =>
    have hs := sendQ_failQp now n.qp
    simp only [act, Node.setQp_qp] at hst
    generalize failQp now n.qp = q at hst hs
    have he : q.state = .ERR := congrArg SendQ.state hs
    simp [hst] at he
  | environment pd mem srq => exact ⟨rfl, rfl⟩

/-! ## Runs of a queue pair -/

/-- A node with the time of its last step and the queue pair as the last
`pib_util_reschedule_qp` found it. -/
structure Watch where
  node : Node
  now : Nat
  found : Qp

def Watch.step (cfg : Config) (ibModifyQpIsOk : QpState → QpState → AttrMask → Bool) (w : Watch)
    (x : Nat × Act) : Watch :=
  { node := pib.step cfg ibModifyQpIsOk w.node x
    now := x.1
    found := (rescheduled cfg x.1 w.node x.2).getD w.found }

/-- Time does not go back, and the queue pair is not modified. -/
def Watch.Proceeds (w : Watch) (x : Nat × Act) : Prop :=
  w.now ≤ x.1 ∧ ∀ attr mask, x.2 ≠ .modify attr mask

/-- A connected queue pair before its first request: nothing is in flight, and
its timeout is the one of its attributes. -/
structure Idle (cfg : Config) (q : Qp) : Prop where
  rc : q.qp_type = .RC
  flight : q.flight = []
  timeout : q.local_ack_timeout = pibGetLocalAckTime cfg.HZ q.attr.timeout

/-- It is a matter of the send queue alone. -/
theorem Idle.of_sendQ (he : q.sendQ = s) (hrc : s.qp_type = .RC) (hf : s.flight = [])
    (ht : s.local_ack_timeout = pibGetLocalAckTime cfg.HZ s.attr.timeout) : Idle cfg q := by
  subst he
  exact ⟨hrc, hf, ht⟩

theorem idle_setAttrs (h : Idle cfg q) (attr : ModifyAttr) (mask : AttrMask) :
    Idle cfg (setAttrs cfg q attr mask) := by
  refine ⟨h.rc, h.flight, ?_⟩
  show (if mask.TIMEOUT = true then _ else _) =
    pibGetLocalAckTime cfg.HZ (if mask.TIMEOUT = true then _ else _)
  split
  · rfl
  · exact h.timeout

theorem idle_enterState (h : Idle cfg q) (now : Nat) (new : QpState)
    (hne : new ≠ .SQE) : Idle cfg (enterState cfg now q new) := by
  cases new with
  | RESET => exact Idle.of_sendQ (sendQ_resetQp cfg now { q with state := .RESET }) h.rc rfl rfl
  | ERR => exact Idle.of_sendQ (sendQ_failQp now q) h.rc rfl h.timeout
  | SQE => exact absurd rfl hne
  | _ => exact ⟨h.rc, h.flight, h.timeout⟩

/-- `pib_modify_qp` leaves a queue pair with nothing in flight, and with the
timeout of its attributes. -/
theorem idle_modify (h : Idle cfg q)
    (isOk : StateCheck) (now : Nat) (attr : ModifyAttr)
    (mask : AttrMask) : Idle cfg (pibModifyQp cfg isOk now q attr mask).1 := by
  rcases pibModifyQp_settles cfg isOk now q attr mask with he | ⟨-, he⟩ |
    ⟨-, -, hsqe, he⟩
  · rw [he]
    exact h
  · rw [he]
    exact idle_setAttrs h attr mask
  · rw [he]
    have hi := idle_enterState (idle_setAttrs h attr mask) now attr.qp_state
      fun hs => hsqe ⟨hs, h.rc⟩
    exact Idle.of_sendQ (sendQ_settleState now _ _ _ _) hi.rc hi.flight hi.timeout

structure Watch.Good (cfg : Config) (w : Watch) : Prop where
  rc : w.node.qp.qp_type = .RC
  timeout : w.node.qp.local_ack_timeout = pibGetLocalAckTime cfg.HZ w.node.qp.attr.timeout
  timed : Timed w.now w.node.qp.sendQ
  pending : w.node.qp.state = .RTS → w.node.qp.attr.timeout ≠ 0 → w.node.qp.flight ≠ [] →
    (w.node.qp.sched_on = true ↔ ¬ Throttled w.found)

theorem Idle.good (h : Idle cfg n.qp) (t : Nat) (q : Qp) : Watch.Good cfg ⟨n, t, q⟩ := by
  have hnil : n.qp.requester.waiting_swqe = [] ∧ n.qp.requester.sending_swqe = [] :=
    List.append_eq_nil_iff.mp h.flight
  refine ⟨h.rc, h.timeout, ⟨?_, ?_⟩, fun _ _ hne => absurd h.flight hne⟩ <;>
    simp [SendQ.flight, Qp.sendQ, hnil]

theorem good_watch (hHZ : 24 ≤ cfg.HZ)
    (isOk : StateCheck) {w : Watch} {x : Nat × Act}
    (hg : w.Good cfg) (hx : w.Proceeds x) : (w.step cfg isOk x).Good cfg := by
  obtain ⟨now, a⟩ := x
  obtain ⟨hle, hmod⟩ := hx
  obtain ⟨htimed, hsame⟩ := runs_act cfg isOk hmod (hg.timed.mono hle)
  have hrts' := hsame.rts
  obtain ⟨hlat, hattr, hty, -, -⟩ := hsame
  have hrc := hty.trans hg.rc
  have htimeout : (act cfg isOk now w.node a).qp.local_ack_timeout =
      pibGetLocalAckTime cfg.HZ (act cfg isOk now w.node a).qp.attr.timeout := by
    rw [show (act cfg isOk now w.node a).qp.attr = w.node.qp.attr from hattr]
    exact hlat.trans hg.timeout
  refine ⟨hrc, htimeout, htimed, fun hrts hfin hne => ?_⟩
  unfold Watch.step
  rcases hr : rescheduled cfg now w.node a with _ | q
  · obtain ⟨hon, hsame⟩ := act_not_rescheduled cfg isOk hmod hr hrts
    have hflight := congrArg SendQ.flight hsame
    have h := hg.pending (hrts' hrts) (fun h => hfin ((congrArg QpAttr.timeout hattr).trans h))
      fun h => hne (hflight.trans h)
    rw [← hon] at h
    exact h
  · obtain ⟨hon, hsame⟩ := act_rescheduled cfg isOk hr
    have hlat' : q.local_ack_timeout < PIB_SCHED_TIMEOUT := by
      have h : (act cfg isOk now w.node a).qp.local_ack_timeout = q.local_ack_timeout :=
        congrArg SendQ.local_ack_timeout hsame
      rw [← h, htimeout]
      exact pibGetLocalAckTime_lt hHZ hfin
    have htimed' : Timed now q.sendQ := hsame ▸ htimed
    have h := scheduleTime_isSome ((congrArg SendQ.qp_type hsame).symm.trans hrc)
      ((congrArg SendQ.state hsame).symm.trans hrts) htimed' hlat'
      fun h => hne ((congrArg SendQ.flight hsame).trans h)
    rw [← hon] at h
    exact h

/-- In every run of a queue pair that starts with nothing in flight: in RTS,
with a finite timeout and requests in flight, the queue pair is on the
scheduler's tree exactly if the last `pib_util_reschedule_qp` did not find it
throttled. -/
theorem timer_pending_iff (cfg : Config) (hHZ : 24 ≤ cfg.HZ)
    (ibModifyQpIsOk : QpState → QpState → AttrMask → Bool) (n : Node) (hidle : Idle cfg n.qp)
    (t : Nat) (xs : List (Nat × Act))
    (hxs : Run.Meets (Watch.step cfg ibModifyQpIsOk) Watch.Proceeds ⟨n, t, n.qp⟩ xs) :
    let w := Run.run (Watch.step cfg ibModifyQpIsOk) ⟨n, t, n.qp⟩ xs
    w.node.qp.state = .RTS → w.node.qp.attr.timeout ≠ 0 →
      (w.node.qp.requester.sending_swqe ≠ [] ∨ w.node.qp.requester.waiting_swqe ≠ []) →
      (w.node.qp.sched_on = true ↔ ¬ Throttled w.found) := by
  have hg := Run.invariant (fun w x hg hx => good_watch hHZ ibModifyQpIsOk hg hx)
    (hidle.good t n.qp) hxs
  intro w hst hfin hne
  refine hg.pending hst hfin fun h => ?_
  obtain ⟨hw, hs⟩ := List.append_eq_nil_iff.mp h
  exact hne.elim (fun h => h hs) fun h => h hw

/-- A queue pair in RTS with the timeout 1. -/
def connected (max_send_wr : Nat) : Node :=
  Run.run (step {} ibStateTable)
    (created {} { max_send_wr } none ⟨0, fun _ => none⟩ fun _ => 0)
    (bringUp { timeout := 1, retry_cnt := 7, sq_psn := 5, path_mtu := 1 })

/-- Empty SENDs are posted, each is sent once, all their packets are lost and
the timer runs out. -/
def lostRun (k : Nat) : List (Nat × Act) :=
  (1, .postSend (fun _ _ => none) (List.replicate k
      { wr_id := 9, opcode := .SEND, sg_list := [{ addr := 0, length := 0, lkey := 0 }] })) ::
    List.replicate k (1, .schedule) ++ [(9, .schedule)]

theorem idle_connected (k : Nat) : Idle {} (connected k).qp := by
  have h0 : Idle {} (created {} { max_send_wr := k } none ⟨0, fun _ => none⟩ fun _ => 0).qp :=
    ⟨rfl, rfl, rfl⟩
  exact idle_modify (idle_modify (idle_modify h0 ibStateTable 0 _ _) ibStateTable 0 _ _)
    ibStateTable 0 _ _

/-- A run proceeds when its times ascend and nothing is modified. -/
theorem meets_proceeds (cfg : Config) (isOk : StateCheck)
    {xs : List (Nat × Act)} : ∀ {w : Watch}, (w.now :: xs.map Prod.fst).IsChain (· ≤ ·) →
      (∀ x ∈ xs, ∀ attr mask, x.2 ≠ .modify attr mask) →
      Run.Meets (Watch.step cfg isOk) Watch.Proceeds w xs := by
  induction xs with
  | nil =>
    intro w _ _
    trivial
  | cons x xs ih =>
    intro w ht hm
    rw [List.forall_mem_cons] at hm
    rw [List.map_cons, List.isChain_cons_cons] at ht
    exact ⟨⟨ht.1, hm.1⟩, ih ht.2 hm.2⟩

theorem lostRun_not_modify (k : Nat) : ∀ x ∈ lostRun k, ∀ attr mask, x.2 ≠ .modify attr mask := by
  intro x hx attr mask
  simp only [lostRun, List.cons_append, List.mem_cons, List.mem_append, List.mem_replicate,
    List.not_mem_nil, or_false] at hx
  rcases hx with rfl | ⟨-, rfl⟩ | rfl <;> simp

theorem timer_pending_of_few :
    let w := Run.run (Watch.step {} ibStateTable) ⟨connected 2, 0, (connected 2).qp⟩ (lostRun 2)
    w.node.qp.requester.sending_swqe.length = 1 ∧ w.node.qp.sched_on = true ∧
      ¬ Throttled w.found := by
  have h := timer_pending_iff {} (by decide) ibStateTable (connected 2) (idle_connected 2) 0
    (lostRun 2) (meets_proceeds {} ibStateTable (by decide) (lostRun_not_modify 2))
    (by decide) (by decide) (Or.inl (by decide))
  exact ⟨by decide, by decide, h.mp (by decide)⟩

/-- The packets of 65 requests are lost: when the timer runs out, all of them
are to be sent again, and the queue pair is on the tree no more. -/
theorem timer_lost :
    Idle {} (connected 65).qp ∧ Run.Meets (Watch.step {} ibStateTable) Watch.Proceeds
      ⟨connected 65, 0, (connected 65).qp⟩ (lostRun 65) ∧
    let n := (Run.run (Watch.step {} ibStateTable) ⟨connected 65, 0, (connected 65).qp⟩
      (lostRun 65)).node
    n.qp.state = .RTS ∧ n.qp.attr.timeout = 1 ∧ n.qp.requester.sending_swqe.length = 65 ∧
      n.qp.sched_on = false :=
  ⟨idle_connected 65, meets_proceeds {} ibStateTable (by decide +kernel) (lostRun_not_modify 65),
    by decide +kernel⟩

end pib
