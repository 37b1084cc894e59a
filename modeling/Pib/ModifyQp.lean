-- `pib_modify_qp` with its return value (pib_qp.c 559-871): what a call that fails has
-- changed, and what a call that succeeds has stored.
import Pib.RecvSide

namespace pib

/-! ## The call -/

/-- `attr_mask` with the bits that `AttrMask` leaves out. -/
structure FullMask extends AttrMask where
  ACCESS_FLAGS : Bool := false
  CAP : Bool := false
  deriving DecidableEq, Repr

/-- `attr` with the members that no other call reads. -/
structure FullAttr extends ModifyAttr where
  qp_access_flags : Nat := 0
  path_mig_state : Nat := 0
  deriving DecidableEq, Repr

/-- A queue pair with these members. -/
structure FullQp where
  qp : Qp
  qp_access_flags : Nat := 0
  path_mig_state : Nat := 0

/-- The value that a verb returns for an error. -/
def Errno.ret : Errno → Int
  | .EPERM => -1
  | .ENOMEM => -12
  | .EFAULT => -14
  | .EBUSY => -16
  | .EINVAL => -22
  | .EMSGSIZE => -90

/-- What `reset_qp` returns: the completions that are lost, those of elements that are
thrown away and those that nobody has polled yet. `polled` is the number of completions
that were polled. -/
def resetCount (polled : Nat) (q : Qp) : Nat :=
  let reports := fun w : SendWqe => q.init_attr.sig_all_wr || w.send_flags.SIGNALED
  q.requester.waiting_swqe.countP reports + q.requester.sending_swqe.countP reports +
    q.requester.submitted_swqe.countP reports + q.responder.recv_wqe.length +
    (q.send_cq.length + q.recv_cq.length - polled)

/-- The types whose MTU is that of the port. -/
def QpType.isDatagram : QpType → Bool
  | .UD | .SMI | .GSI => true
  | _ => false

/-- All assignments of `pib_modify_qp` to attributes. `IB_QP_CAP` is never accepted. -/
def setFullAttrs (cfg : Config) (activeMtu : Nat → Nat) (s : FullQp) (attr : FullAttr)
    (mask : FullMask) : FullQp :=
  let q := setAttrs cfg s.qp attr.toModifyAttr mask.toAttrMask
  { qp :=
      if mask.PORT = true ∧ q.qp_type.isDatagram = true then
        { q with attr := { q.attr with path_mtu := activeMtu attr.port_num } }
      else q
    qp_access_flags := if mask.ACCESS_FLAGS then attr.qp_access_flags else s.qp_access_flags
    path_mig_state := if mask.PATH_MIG_STATE then attr.path_mig_state else s.path_mig_state }

/-- The state that the call asks for. -/
def newState (q : Qp) (attr : FullAttr) (mask : FullMask) : QpState :=
  if mask.STATE then attr.qp_state else curState q attr.toModifyAttr mask.toAttrMask

/-- Nothing is on its way. -/
def Qp.drained (q : Qp) : Bool :=
  decide (q.requester.sending_swqe = [] ∧ q.requester.waiting_swqe = [])

/-- `pib_modify_qp` with the value it returns. `ibModifyQpIsOk` is the check of the verbs
layer, `activeMtu` the MTU of a port. The device has no `IB_DEVICE_RESIZE_MAX_WR`, so that
`modify_qp_is_ok` refuses `IB_QP_CAP`. -/
def modifyQp (cfg : Config) (ibModifyQpIsOk : QpState → QpState → FullMask → Bool)
    (activeMtu : Nat → Nat) (now polled : Nat) (s : FullQp) (attr : FullAttr) (mask : FullMask) :
    FullQp × Int :=
  let cur_state := curState s.qp attr.toModifyAttr mask.toAttrMask
  let new_state := newState s.qp attr mask
  if cur_state = .SQD ∧ (new_state = .SQD ∨ new_state = .RTS) ∧ s.qp.drained = false then
    (s, Errno.EBUSY.ret)
  else if ibModifyQpIsOk cur_state new_state mask = false then (s, Errno.EINVAL.ret)
  else if modifyQpIsOk cfg s.qp cur_state attr.toModifyAttr mask.toAttrMask = false ∨
      mask.CAP = true then (s, Errno.EINVAL.ret)
  else
    let s' := setFullAttrs cfg activeMtu s attr mask
    match changeState cfg now s'.qp cur_state new_state s.qp.drained mask.toAttrMask with
    | (q, some e) => ({ s' with qp := q }, e.ret)
    | (q, none) =>
      ({ s' with qp := q },
        if mask.STATE = true ∧ new_state = .RESET then resetCount polled s'.qp else 0)

section Outcome

variable {cfg : Config} {ibModifyQpIsOk : QpState → QpState → FullMask → Bool}
  {activeMtu : Nat → Nat} {now polled : Nat} {s : FullQp} {attr : FullAttr} {mask : FullMask}

/-- The call comes to its assignments. -/
structure Checked (cfg : Config) (ibModifyQpIsOk : QpState → QpState → FullMask → Bool) (q : Qp)
    (attr : FullAttr) (mask : FullMask) : Prop where
  drained : curState q attr.toModifyAttr mask.toAttrMask = .SQD →
    newState q attr mask = .SQD ∨ newState q attr mask = .RTS → q.drained = true
  verbs : ibModifyQpIsOk (curState q attr.toModifyAttr mask.toAttrMask) (newState q attr mask) mask =
    true
  values : modifyQpIsOk cfg q (curState q attr.toModifyAttr mask.toAttrMask) attr.toModifyAttr
    mask.toAttrMask = true
  cap : mask.CAP = false

/-- The call fails after its assignments. -/
def FailsLate (q : Qp) (attr : FullAttr) (mask : FullMask) : Prop :=
  mask.STATE = true ∧
    (attr.qp_state = .SQE ∧ q.qp_type = .RC ∨
      curState q attr.toModifyAttr mask.toAttrMask = .SQD ∧ q.issue_sq_drained = false ∧
        (attr.qp_state = .RTS ∨ attr.qp_state = .SQD))

/-- The queue pair after the state has changed, if it does. -/
def stateChanged (cfg : Config) (now : Nat) (s s' : FullQp) (attr : FullAttr) (mask : FullMask) :
    FullQp :=
  let cur_state := curState s.qp attr.toModifyAttr mask.toAttrMask
  let q := enterState cfg now s'.qp attr.qp_state
  if mask.STATE = true then
    { s' with qp := settleState now q cur_state attr.qp_state s.qp.drained }
  else s'

theorem modifyQp_unchecked (h : ¬Checked cfg ibModifyQpIsOk s.qp attr mask) :
    (modifyQp cfg ibModifyQpIsOk activeMtu now polled s attr mask).1 = s ∧
      (modifyQp cfg ibModifyQpIsOk activeMtu now polled s attr mask).2 ≠ 0 := by
  unfold modifyQp
  dsimp only
  split
  · exact ⟨rfl, fun h => nomatch h⟩
  rename_i hbusy
  split
  · exact ⟨rfl, fun h => nomatch h⟩
  rename_i hverbs
  split
  · exact ⟨rfl, fun h => nomatch h⟩
  rename_i hvalues
  refine absurd ⟨fun hcur hnew => ?_, by simpa using hverbs, ?_, ?_⟩ h
  · by_contra hd
    exact hbusy ⟨hcur, hnew, by simpa using hd⟩
  · by_contra hv
    exact hvalues (Or.inl (by simpa using hv))
  · by_contra hc
    exact hvalues (Or.inr (by simpa using hc))

theorem modifyQp_checked (h : Checked cfg ibModifyQpIsOk s.qp attr mask) :
    modifyQp cfg ibModifyQpIsOk activeMtu now polled s attr mask =
      let s' := setFullAttrs cfg activeMtu s attr mask
      match changeState cfg now s'.qp (curState s.qp attr.toModifyAttr mask.toAttrMask)
          (newState s.qp attr mask) s.qp.drained mask.toAttrMask with
      | (q, some e) => ({ s' with qp := q }, e.ret)
      | (q, none) =>
        ({ s' with qp := q },
          if mask.STATE = true ∧ newState s.qp attr mask = .RESET then resetCount polled s'.qp
          else 0) := by
  obtain ⟨hdrained, hverbs, hvalues, hcap⟩ := h
  unfold modifyQp
  dsimp only
  rw [if_neg, if_neg (by simp [hverbs]), if_neg (by simp [hvalues, hcap])]
  rintro ⟨hcur, hnew, hd⟩
  exact absurd ((hdrained hcur hnew).symm.trans hd) (by decide)

theorem setFullAttrs_type (cfg : Config) (activeMtu : Nat → Nat) (s : FullQp) (attr : FullAttr)
    (mask : FullMask) :
    (setFullAttrs cfg activeMtu s attr mask).qp.qp_type = s.qp.qp_type ∧
      (setFullAttrs cfg activeMtu s attr mask).qp.issue_sq_drained = s.qp.issue_sq_drained := by
  unfold setFullAttrs
  dsimp only
  split <;> exact ⟨rfl, rfl⟩

theorem modifyQp_late (h : Checked cfg ibModifyQpIsOk s.qp attr mask)
    (hlate : FailsLate s.qp attr mask) :
    modifyQp cfg ibModifyQpIsOk activeMtu now polled s attr mask =
      (setFullAttrs cfg activeMtu s attr mask, Errno.EINVAL.ret) := by
  obtain ⟨hstate, hwhy⟩ := hlate
  obtain ⟨htype, hdrained⟩ := setFullAttrs_type cfg activeMtu s attr mask
  have hnew : newState s.qp attr mask = attr.qp_state := if_pos hstate
  rw [modifyQp_checked h]
  unfold changeState
  dsimp only
  rw [if_neg (by simp [hstate]), hnew, htype, hdrained]
  rcases hwhy with hsqe | hsqd
  · rw [if_pos hsqe]
  by_cases hsqe : attr.qp_state = .SQE ∧ s.qp.qp_type = .RC
  · rw [if_pos hsqe]
  · rw [if_neg hsqe, if_pos hsqd]

theorem modifyQp_done (h : Checked cfg ibModifyQpIsOk s.qp attr mask)
    (hlate : ¬FailsLate s.qp attr mask) :
    modifyQp cfg ibModifyQpIsOk activeMtu now polled s attr mask =
      (stateChanged cfg now s (setFullAttrs cfg activeMtu s attr mask) attr mask,
        if mask.STATE = true ∧ attr.qp_state = .RESET then
          (resetCount polled (setFullAttrs cfg activeMtu s attr mask).qp : Int) else 0) := by
  obtain ⟨htype, hdrained⟩ := setFullAttrs_type cfg activeMtu s attr mask
  rw [modifyQp_checked h]
  unfold changeState stateChanged
  dsimp only
  cases hstate : mask.STATE with
  | false => simp
  | true =>
    have hnew : newState s.qp attr mask = attr.qp_state := if_pos hstate
    rw [if_neg (by decide), hnew, htype, hdrained, if_neg fun hsqe => hlate ⟨hstate, Or.inl hsqe⟩,
      if_neg fun hsqd => hlate ⟨hstate, Or.inr hsqd⟩]
    simp

end Outcome

/-! ## What the state change leaves -/

/-- The attributes, timers and PSNs that `pib_modify_qp` sets. -/
structure Settings where
  attr : QpAttr
  local_ack_timeout : Nat
  max_rd_atomic : Nat
  state : QpState
  psn : Nat
  expected_psn : Nat
  rq_psn : Nat

def Qp.settings (q : Qp) : Settings :=
  { attr := q.sendQ.attr, local_ack_timeout := q.sendQ.local_ack_timeout
    max_rd_atomic := q.sendQ.max_rd_atomic, state := q.sendQ.state, psn := q.sendQ.psn
    expected_psn := q.sendQ.expected_psn, rq_psn := q.respSide.responder.psn }

theorem settings_settleState (now : Nat) (q : Qp) (cur new : QpState) (drained : Bool) :
    (settleState now q cur new drained).settings = q.settings := by
  unfold Qp.settings
  rw [sendQ_settleState, respSide_settleState]

theorem resetQp_empty (cfg : Config) (now : Nat) (q : Qp) :
    (resetQp cfg now q).responder.psn = 0 ∧ (resetQp cfg now q).responder.recv_wqe = [] ∧
      (resetQp cfg now q).recv_cq = [] := by
  obtain ⟨_, _, h⟩ := respSide_resetQp cfg now q
  exact ⟨congrArg (fun b => b.responder.psn) h, congrArg (fun b => b.responder.recv_wqe) h,
    congrArg RecvSide.recv_cq h⟩

theorem psn_fail (b : RecvSide) : b.fail.strip.responder.psn = b.responder.psn := by
  unfold RecvSide.strip RecvSide.fail RecvSide.free
  dsimp only
  split <;> rfl

theorem settings_enterState (cfg : Config) (now : Nat) (q : Qp) {new : QpState}
    (h : new ≠ .RESET) : (enterState cfg now q new).settings = { q.settings with state := new } := by
  cases new with
  | RESET => exact absurd rfl h
  | ERR =>
    have hs : (enterState cfg now q .ERR).sendQ = _ := sendQ_failQp now q
    have hr : (enterState cfg now q .ERR).respSide = _ := respSide_failQp now q
    unfold Qp.settings
    rw [hs, hr, psn_fail]
    rfl
  | SQE =>
    have hflush : ∀ q : Qp, (flushSendQueue q).settings = q.settings := by
      intro q
      unfold flushSendQueue
      simp only [foldl_flushSendWqe]
      rfl
    exact hflush { q with state := .SQE }
  | INIT | RTR | RTS | SQD => rfl

theorem settings_reset (cfg : Config) (now : Nat) (q : Qp) :
    (enterState cfg now q .RESET).settings =
      { q.settings with
        state := .RESET, psn := 0, expected_psn := 0, rq_psn := 0
        local_ack_timeout := pibGetLocalAckTime cfg.HZ q.attr.timeout } := by
  have hs : (enterState cfg now q .RESET).sendQ = _ := sendQ_resetQp cfg now { q with state := .RESET }
  have hr : (enterState cfg now q .RESET).respSide.responder.psn = 0 :=
    (resetQp_empty cfg now { q with state := .RESET }).1
  unfold Qp.settings
  rw [hs, hr]
  rfl

/-! ## All or nothing -/

/-- Every attribute in the mask has its new value. A PSN has 24 bits. -/
structure AttrsStored (cfg : Config) (s : FullQp) (attr : FullAttr) (mask : FullMask) : Prop where
  path_mtu : mask.PATH_MTU = true → s.qp.attr.path_mtu = attr.path_mtu
  qkey : mask.QKEY = true → s.qp.attr.qkey = attr.qkey
  rq_psn : mask.RQ_PSN = true → s.qp.responder.psn = psnMask attr.rq_psn
  sq_psn : mask.SQ_PSN = true → s.qp.requester.psn = psnMask attr.sq_psn ∧
    s.qp.requester.expected_psn = psnMask attr.sq_psn
  dest_qpn : mask.DEST_QPN = true → s.qp.attr.dest_qp_num = attr.dest_qp_num
  access_flags : mask.ACCESS_FLAGS = true → s.qp_access_flags = attr.qp_access_flags
  cap : mask.CAP = false
  av : mask.AV = true → s.qp.attr.ah_attr = attr.ah_attr
  pkey_index : mask.PKEY_INDEX = true → s.qp.attr.pkey_index = attr.pkey_index
  en_sqd_async_notify : mask.EN_SQD_ASYNC_NOTIFY = true →
    s.qp.attr.en_sqd_async_notify = attr.en_sqd_async_notify
  max_qp_rd_atomic : mask.MAX_QP_RD_ATOMIC = true → s.qp.attr.max_rd_atomic = attr.max_rd_atomic ∧
    s.qp.requester.max_rd_atomic = attr.max_rd_atomic
  max_dest_rd_atomic : mask.MAX_DEST_RD_ATOMIC = true →
    s.qp.attr.max_dest_rd_atomic = attr.max_dest_rd_atomic
  min_rnr_timer : mask.MIN_RNR_TIMER = true → s.qp.attr.min_rnr_timer = attr.min_rnr_timer
  port : mask.PORT = true → s.qp.attr.port_num = attr.port_num
  timeout : mask.TIMEOUT = true → s.qp.attr.timeout = attr.timeout ∧
    s.qp.local_ack_timeout = pibGetLocalAckTime cfg.HZ attr.timeout
  retry_cnt : mask.RETRY_CNT = true → s.qp.attr.retry_cnt = attr.retry_cnt
  rnr_retry : mask.RNR_RETRY = true → s.qp.attr.rnr_retry = attr.rnr_retry
  alt_path : mask.ALT_PATH = true → s.qp.attr.alt_ah_attr = attr.alt_ah_attr ∧
    s.qp.attr.alt_pkey_index = attr.alt_pkey_index
  path_mig_state : mask.PATH_MIG_STATE = true → s.path_mig_state = attr.path_mig_state

/-- No attribute of the mask is overwritten by another one, or by a reset. -/
structure Consistent (activeMtu : Nat → Nat) (q : Qp) (attr : FullAttr) (mask : FullMask) :
    Prop where
  path_mtu : mask.PATH_MTU = true → mask.PORT = true → q.qp_type.isDatagram = true →
    activeMtu attr.port_num = attr.path_mtu
  av : mask.AV = true → mask.PATH_MIG_STATE = true →
    (if mask.ALT_PATH then attr.alt_ah_attr else q.attr.alt_ah_attr) = attr.ah_attr
  pkey_index : mask.PKEY_INDEX = true → mask.PATH_MIG_STATE = true →
    attr.alt_pkey_index = attr.pkey_index
  psn : mask.STATE = true → attr.qp_state = .RESET →
    (mask.RQ_PSN = true → psnMask attr.rq_psn = 0) ∧ (mask.SQ_PSN = true → psnMask attr.sq_psn = 0)

/-- A call that fails changes nothing, and one that succeeds has stored everything. -/
def AllOrNothing (cfg : Config) (s : FullQp) (attr : FullAttr) (mask : FullMask)
    (r : FullQp × Int) : Prop :=
  (r.2 ≠ 0 → r.1 = s) ∧
    (r.2 = 0 → r.1.qp.state = (if mask.STATE then attr.qp_state else s.qp.state) ∧
      AttrsStored cfg r.1 attr mask)

section Settings

variable {cfg : Config} {activeMtu : Nat → Nat} {s s' : FullQp} {attr : FullAttr}
  {mask : FullMask}

theorem attr_setFullAttrs (cfg : Config) (activeMtu : Nat → Nat) (s : FullQp) (attr : FullAttr)
    (mask : FullMask) :
    (setFullAttrs cfg activeMtu s attr mask).qp.attr =
      { (setAttrs cfg s.qp attr.toModifyAttr mask.toAttrMask).attr with
        path_mtu :=
          if mask.PORT = true ∧ s.qp.qp_type.isDatagram = true then activeMtu attr.port_num
          else if mask.PATH_MTU then attr.path_mtu else s.qp.attr.path_mtu } := by
  unfold setFullAttrs
  dsimp only
  split
  · rename_i h
    rw [if_pos (show mask.PORT = true ∧ s.qp.qp_type.isDatagram = true from h)]
  rename_i h
  rw [if_neg (show ¬(mask.PORT = true ∧ s.qp.qp_type.isDatagram = true) from h)]
  rfl

/-- The rest of the settings does not see the MTU. -/
theorem settings_setFullAttrs (cfg : Config) (activeMtu : Nat → Nat) (s : FullQp)
    (attr : FullAttr) (mask : FullMask) :
    (setFullAttrs cfg activeMtu s attr mask).qp.settings =
      { (setAttrs cfg s.qp attr.toModifyAttr mask.toAttrMask).settings with
        attr := (setFullAttrs cfg activeMtu s attr mask).qp.attr } := by
  unfold setFullAttrs
  dsimp only
  split <;> rfl

/-- What the call leaves: the settings, with the PSNs at zero after a reset. -/
structure LeftBehind (cfg : Config) (activeMtu : Nat → Nat) (s : FullQp) (attr : FullAttr)
    (mask : FullMask) (s' : FullQp) : Prop where
  attrs : s'.qp.attr = (setFullAttrs cfg activeMtu s attr mask).qp.attr
  timeout : mask.TIMEOUT = true → s'.qp.local_ack_timeout = pibGetLocalAckTime cfg.HZ attr.timeout
  max_rd_atomic : mask.MAX_QP_RD_ATOMIC = true → s'.qp.requester.max_rd_atomic = attr.max_rd_atomic
  psn : mask.SQ_PSN = true →
    s'.qp.requester.psn = (if mask.STATE = true ∧ attr.qp_state = .RESET then 0
      else psnMask attr.sq_psn) ∧ s'.qp.requester.expected_psn = s'.qp.requester.psn
  rq_psn : mask.RQ_PSN = true → s'.qp.responder.psn =
    if mask.STATE = true ∧ attr.qp_state = .RESET then 0 else psnMask attr.rq_psn
  state : s'.qp.state = if mask.STATE then attr.qp_state else s.qp.state
  flags : s'.qp_access_flags = (setFullAttrs cfg activeMtu s attr mask).qp_access_flags
  mig : s'.path_mig_state = (setFullAttrs cfg activeMtu s attr mask).path_mig_state

/-- The settings at the end of the call. -/
theorem settings_stateChanged (cfg : Config) (now : Nat) (s t : FullQp) (attr : FullAttr)
    (mask : FullMask) :
    (stateChanged cfg now s t attr mask).qp.settings =
      if mask.STATE = true ∧ attr.qp_state = .RESET then
        { t.qp.settings with
          state := .RESET, psn := 0, expected_psn := 0, rq_psn := 0
          local_ack_timeout := pibGetLocalAckTime cfg.HZ t.qp.attr.timeout }
      else { t.qp.settings with state := if mask.STATE then attr.qp_state else t.qp.state } := by
  unfold stateChanged
  cases hstate : mask.STATE with
  | false => simp [Qp.settings, Qp.sendQ]
  | true =>
    simp only [if_true, true_and, settings_settleState]
    by_cases hreset : attr.qp_state = .RESET
    · rw [if_pos hreset, hreset, settings_reset]
    · rw [if_neg hreset, settings_enterState cfg now t.qp hreset]

theorem left_stateChanged (cfg : Config) (activeMtu : Nat → Nat) (now : Nat) (s : FullQp)
    (attr : FullAttr) (mask : FullMask) :
    LeftBehind cfg activeMtu s attr mask
      (stateChanged cfg now s (setFullAttrs cfg activeMtu s attr mask) attr mask) := by
  have hset := settings_setFullAttrs cfg activeMtu s attr mask
  have htimeout := congrArg QpAttr.timeout (attr_setFullAttrs cfg activeMtu s attr mask)
  have hstate : (setFullAttrs cfg activeMtu s attr mask).qp.state = s.qp.state :=
    congrArg Settings.state hset
  have hend := settings_stateChanged cfg now s (setFullAttrs cfg activeMtu s attr mask) attr mask
  have hfields : ∀ (t u : FullQp), (stateChanged cfg now t u attr mask).qp_access_flags =
      u.qp_access_flags ∧ (stateChanged cfg now t u attr mask).path_mig_state = u.path_mig_state := by
    intro t u
    unfold stateChanged
    dsimp only
    split <;> exact ⟨rfl, rfl⟩
  obtain ⟨hflags, hmig⟩ := hfields s (setFullAttrs cfg activeMtu s attr mask)
  rw [hset, hstate] at hend
  generalize stateChanged .. = s' at hend hflags hmig ⊢
  by_cases hreset : mask.STATE = true ∧ attr.qp_state = .RESET
  · rw [if_pos hreset] at hend
    refine ⟨congrArg Settings.attr hend, fun hm => ?_, fun hm => ?_, fun _ => ?_, fun _ => ?_, ?_,
      hflags, hmig⟩
    · refine (congrArg Settings.local_ack_timeout hend).trans ?_
      rw [htimeout]
      simp [setAttrs, hm]
    · refine (congrArg Settings.max_rd_atomic hend).trans ?_
      simp [Qp.settings, Qp.sendQ, setAttrs, hm]
    · rw [if_pos hreset]
      exact ⟨congrArg Settings.psn hend, (congrArg Settings.expected_psn hend).trans
        (congrArg Settings.psn hend).symm⟩
    · rw [if_pos hreset]
      exact congrArg Settings.rq_psn hend
    · rw [if_pos hreset.1, hreset.2]
      exact congrArg Settings.state hend
  · rw [if_neg hreset] at hend
    refine ⟨congrArg Settings.attr hend, fun hm => ?_, fun hm => ?_, fun hm => ?_, fun hm => ?_,
      congrArg Settings.state hend, hflags, hmig⟩
    · refine (congrArg Settings.local_ack_timeout hend).trans ?_
      simp [Qp.settings, Qp.sendQ, setAttrs, hm]
    · refine (congrArg Settings.max_rd_atomic hend).trans ?_
      simp [Qp.settings, Qp.sendQ, setAttrs, hm]
    · rw [if_neg hreset]
      have hpsn : s'.qp.requester.psn = psnMask attr.sq_psn := by
        refine (congrArg Settings.psn hend).trans ?_
        simp [Qp.settings, Qp.sendQ, setAttrs, hm]
      refine ⟨hpsn, Eq.trans (congrArg Settings.expected_psn hend) (Eq.trans ?_ hpsn.symm)⟩
      simp [Qp.settings, Qp.sendQ, setAttrs, hm]
    · rw [if_neg hreset]
      refine (congrArg Settings.rq_psn hend).trans ?_
      simp [Qp.settings, Qp.respSide, setAttrs, hm]

theorem stored_iff (hcap : mask.CAP = false) (h : LeftBehind cfg activeMtu s attr mask s') :
    AttrsStored cfg s' attr mask ↔ Consistent activeMtu s.qp attr mask := by
  have hattr := h.attrs.trans (attr_setFullAttrs cfg activeMtu s attr mask)
  constructor
  · intro hs
    refine ⟨fun hm hp ht => ?_, fun hm hp => ?_, fun hm hp => ?_, fun hst hr => ⟨fun hm => ?_,
      fun hm => ?_⟩⟩
    · have := hs.path_mtu hm
      rwa [hattr, if_pos ⟨hp, ht⟩] at this
    · have := hs.av hm
      rw [hattr] at this
      simpa [setAttrs, hp] using this
    · have := hs.pkey_index hm
      rw [hattr] at this
      simpa [setAttrs, hp] using this
    · have := (h.rq_psn hm).symm.trans (hs.rq_psn hm)
      rwa [if_pos ⟨hst, hr⟩, eq_comm] at this
    · have := (h.psn hm).1.symm.trans (hs.sq_psn hm).1
      rwa [if_pos ⟨hst, hr⟩, eq_comm] at this
  · intro hc
    have hpsn : ∀ {psn k : Nat}, (psn = if mask.STATE = true ∧ attr.qp_state = .RESET then 0 else k) →
        (mask.STATE = true → attr.qp_state = .RESET → k = 0) → psn = k := by
      intro psn k hk hzero
      by_cases hreset : mask.STATE = true ∧ attr.qp_state = .RESET
      · rw [hk, if_pos hreset, hzero hreset.1 hreset.2]
      · rw [hk, if_neg hreset]
    constructor
    case cap => exact hcap
    all_goals intro hm
    case path_mtu =>
      rw [hattr]
      dsimp only
      split
      · rename_i hport
        exact hc.path_mtu hm hport.1 hport.2
      · rfl
    case rq_psn => exact hpsn (h.rq_psn hm) fun hst hr => (hc.psn hst hr).1 hm
    case sq_psn =>
      have hsq := hpsn (h.psn hm).1 fun hst hr => (hc.psn hst hr).2 hm
      exact ⟨hsq, (h.psn hm).2.trans hsq⟩
    case access_flags => simp [h.flags, setFullAttrs, hm]
    case av =>
      cases hmig : mask.PATH_MIG_STATE with
      | false => simp [hattr, setAttrs, hm, hmig]
      | true => simpa [hattr, setAttrs, hmig] using hc.av hm hmig
    case pkey_index =>
      cases hmig : mask.PATH_MIG_STATE with
      | false => simp [hattr, setAttrs, hm, hmig]
      | true => simpa [hattr, setAttrs, hmig] using hc.pkey_index hm hmig
    case max_qp_rd_atomic => exact ⟨by simp [hattr, setAttrs, hm], h.max_rd_atomic hm⟩
    case timeout => exact ⟨by simp [hattr, setAttrs, hm], h.timeout hm⟩
    case path_mig_state => simp [h.mig, setFullAttrs, hm]
    all_goals simp [hattr, setAttrs, hm]

theorem resetCount_setFullAttrs (polled : Nat) :
    resetCount polled (setFullAttrs cfg activeMtu s attr mask).qp = resetCount polled s.qp := by
  unfold setFullAttrs
  dsimp only
  split <;> rfl

/-- A reset leaves nothing that would be lost by another one. -/
theorem resetCount_stateChanged (cfg : Config) (now : Nat) (s t : FullQp) (polled : Nat)
    (hstate : mask.STATE = true) (hreset : attr.qp_state = .RESET) :
    resetCount polled (stateChanged cfg now s t attr mask).qp = 0 := by
  have hsend : (stateChanged cfg now s t attr mask).qp.sendQ =
      (resetQp cfg now { t.qp with state := .RESET }).sendQ := by
    unfold stateChanged
    rw [if_pos hstate, sendQ_settleState, hreset]
    rfl
  have hrecv : (stateChanged cfg now s t attr mask).qp.respSide =
      (resetQp cfg now { t.qp with state := .RESET }).respSide := by
    unfold stateChanged
    rw [if_pos hstate, respSide_settleState, hreset]
    rfl
  obtain ⟨-, hwqe, hcq⟩ := resetQp_empty cfg now { t.qp with state := .RESET }
  rw [sendQ_resetQp] at hsend
  generalize (stateChanged cfg now s t attr mask).qp = q at hsend hrecv ⊢
  have hw : q.requester.waiting_swqe = [] := congrArg SendQ.waiting hsend
  have hs : q.requester.sending_swqe = [] := congrArg SendQ.sending hsend
  have hb : q.requester.submitted_swqe = [] := congrArg SendQ.submitted hsend
  have hc : q.send_cq = [] := congrArg SendQ.cq hsend
  have hrw : q.responder.recv_wqe = [] := (congrArg (·.responder.recv_wqe) hrecv).trans hwqe
  have hrc : q.recv_cq = [] := (congrArg RecvSide.recv_cq hrecv).trans hcq
  simp [resetCount, hw, hs, hb, hc, hrw, hrc]

end Settings

/-- The calls that are all or nothing: one that fails late has nothing to store, a reset
throws nothing away, and the attributes of the mask do not overwrite each other. -/
structure CleanModify (cfg : Config) (activeMtu : Nat → Nat) (polled : Nat) (s : FullQp)
    (attr : FullAttr) (mask : FullMask) : Prop where
  late : FailsLate s.qp attr mask → setFullAttrs cfg activeMtu s attr mask = s
  reset : mask.STATE = true → attr.qp_state = .RESET → resetCount polled s.qp = 0
  consistent : ¬FailsLate s.qp attr mask → Consistent activeMtu s.qp attr mask

theorem not_late_of_reset {q : Qp} {attr : FullAttr} {mask : FullMask}
    (h : attr.qp_state = .RESET) : ¬FailsLate q attr mask := by
  rintro ⟨-, ⟨hsqe, -⟩ | ⟨-, -, hrts | hsqd⟩⟩
  · exact nomatch h.symm.trans hsqe
  · exact nomatch h.symm.trans hrts
  · exact nomatch h.symm.trans hsqd

/-- `pib_modify_qp` changes nothing when it returns something else than zero, and has
entered the state and stored every attribute that was asked for when it returns zero,
exactly if the checks refuse the call or the call is clean. -/
theorem modifyQp_allOrNothing_iff (cfg : Config)
    (ibModifyQpIsOk : QpState → QpState → FullMask → Bool) (activeMtu : Nat → Nat)
    (now polled : Nat) (s : FullQp) (attr : FullAttr) (mask : FullMask) :
    AllOrNothing cfg s attr mask (modifyQp cfg ibModifyQpIsOk activeMtu now polled s attr mask) ↔
      (Checked cfg ibModifyQpIsOk s.qp attr mask → CleanModify cfg activeMtu polled s attr mask) := by
  by_cases hchecked : Checked cfg ibModifyQpIsOk s.qp attr mask
  swap
  · obtain ⟨hsame, hne⟩ := @modifyQp_unchecked _ _ activeMtu now polled _ _ _ hchecked
    exact iff_of_true ⟨fun _ => hsame, fun h => absurd h hne⟩ fun h => absurd h hchecked
  by_cases hlate : FailsLate s.qp attr mask
  · rw [modifyQp_late hchecked hlate]
    constructor
    · rintro ⟨hfail, -⟩ _
      refine ⟨fun _ => hfail (fun h => nomatch h), fun _ hreset => ?_, fun h => absurd hlate h⟩
      exact absurd hlate (not_late_of_reset hreset)
    · intro h
      exact ⟨fun _ => (h hchecked).late hlate, fun h => nomatch h⟩
  have hleft := left_stateChanged cfg activeMtu now s attr mask
  have hstored := stored_iff hchecked.cap hleft
  rw [modifyQp_done hchecked hlate]
  by_cases hlost : (mask.STATE = true ∧ attr.qp_state = .RESET) ∧ resetCount polled s.qp ≠ 0
  · -- the queues were not empty, and are now
    refine iff_of_false (fun h => ?_) fun h => hlost.2 ((h hchecked).reset hlost.1.1 hlost.1.2)
    rw [if_pos hlost.1, resetCount_setFullAttrs] at h
    have hsame : stateChanged cfg now s (setFullAttrs cfg activeMtu s attr mask) attr mask = s :=
      h.1 (Int.natCast_ne_zero.mpr hlost.2)
    have hempty := resetCount_stateChanged cfg now s (setFullAttrs cfg activeMtu s attr mask) polled
      hlost.1.1 hlost.1.2
    rw [hsame] at hempty
    exact hlost.2 hempty
  · have hzero : (if mask.STATE = true ∧ attr.qp_state = .RESET then
        (resetCount polled (setFullAttrs cfg activeMtu s attr mask).qp : Int) else 0) = 0 := by
      split
      · rename_i hreset
        rw [resetCount_setFullAttrs]
        exact_mod_cast not_not.mp fun hne => hlost ⟨hreset, hne⟩
      · rfl
    rw [hzero]
    constructor
    · rintro ⟨-, hdone⟩ _
      refine ⟨fun h => absurd h hlate, fun hstate hreset => ?_, fun _ => hstored.1 (hdone rfl).2⟩
      exact not_not.mp fun hne => hlost ⟨⟨hstate, hreset⟩, hne⟩
    · intro h
      exact ⟨fun hne => absurd rfl hne,
        fun _ => ⟨hleft.state, hstored.2 ((h hchecked).consistent hlate)⟩⟩

/-- A queue pair in INIT with one receive request. -/
def receivingQp : Qp :=
  (Run.run (step {} ibStateTable) (created {} {} none ⟨0, fun _ => none⟩ fun _ => 0)
    [(0, .modify { qp_state := .INIT } { STATE := true, PORT := true, PKEY_INDEX := true }),
     (1, .postRecv [{ wr_id := 1, sg_list := [{ addr := 0, length := 4, lkey := 0 }] }])]).qp

/-- A queue pair in SQD, and back in RTS. -/
def drainedNode : Node :=
  Run.run (step {} ibStateTable) (created {} {} none ⟨0, fun _ => none⟩ fun _ => 0)
    (bringUp {} ++ [(1, .modify { qp_state := .SQD } { STATE := true })])

def resumedQp : Qp :=
  (step {} ibStateTable drainedNode (1, .modify { qp_state := .RTS } { STATE := true })).qp

/-- The check of the verbs layer as far as the states go. -/
def ibFullTable (cur new : QpState) (mask : FullMask) : Bool := ibStateTable cur new mask.toAttrMask

/-- A reset that throws a receive request away returns 1. A call that names SQD as the
current state fails, and the timer is set. And of two attributes that both give an address
only one is stored. -/
theorem modifyQp_half_done :
    let reset := modifyQp {} ibFullTable (fun _ => 3) 2 0 ⟨receivingQp, 0, 0⟩
      { qp_state := .RESET } { STATE := true }
    let drained := modifyQp {} ibFullTable (fun _ => 3) 2 0 ⟨resumedQp, 0, 0⟩
      { qp_state := .RTS, cur_qp_state := .SQD, min_rnr_timer := 7 }
      { STATE := true, CUR_STATE := true, MIN_RNR_TIMER := true }
    let moved := modifyQp {} ibFullTable (fun _ => 3) 2 0 ⟨drainedNode.qp, 0, 0⟩
      { ah_attr := { dlid := 5 }, path_mig_state := 1 } { AV := true, PATH_MIG_STATE := true }
    receivingQp.state = .INIT ∧ reset.2 = 1 ∧ reset.1.qp.state = .RESET ∧
      reset.1.qp.responder.recv_wqe = [] ∧
      resumedQp.attr.min_rnr_timer = 0 ∧ drained.2 = -22 ∧ drained.1.qp.attr.min_rnr_timer = 7 ∧
      moved.2 = 0 ∧ moved.1.qp.attr.ah_attr.dlid = 0 := by
  decide

end pib
