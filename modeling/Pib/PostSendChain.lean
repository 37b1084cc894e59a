-- The send queue under a chain of work requests (pib_qp.c 912-1126).
import Pib.PostChain

namespace pib

variable (copyFromUser : UserCopy) (now : Nat) (q : Qp) {wr : SendWr}

/-- What scheduling changes is put to fixed values. -/
def Qp.unsched (q : Qp) : Qp := { q.clearContig with sched_on := false, sched_time := 0 }

/-- The end of `pib_post_send`. -/
def sendSettle (now : Nat) (q : Qp) : Qp := if q.state = .RTS then getReadyToSend now q else q

theorem unsched_sendSettle : (sendSettle now q).unsched = q.unsched := by
  unfold sendSettle getReadyToSend pibUtilRescheduleQp
  split
  · split <;> rfl
  · rfl

/-- What counts of the send queue. -/
structure SendResult where
  submitted_swqe : List SendWqe
  nr_submitted_swqe : Int
  send_cq : List Wc
  free : Nat

def Qp.sendResult (q : Qp) : SendResult where
  submitted_swqe := q.requester.submitted_swqe
  nr_submitted_swqe := q.requester.nr_submitted_swqe
  send_cq := q.send_cq
  free := q.requester.free_swqe.length

/-- `pib_post_send` up to the length of the work request. -/
def sendBefore (cfg : Config) (q : Qp) (wr : SendWr) : Option (Qp × Option Errno) :=
  if q.state = .RESET ∨ q.state = .INIT then some (q, some .EINVAL)
  else if q.state = .ERR ∨ q.state = .SQE then
    some (q.insertSendError wr.wr_id .WR_FLUSH_ERR wr.opcode, none)
  else if (sgesOf cfg wr).1.length < 1 ∨ q.init_attr.max_send_sge < (sgesOf cfg wr).1.length then
    some (q, some .EINVAL)
  else if q.requester.free_swqe = [] then some (q, some .ENOMEM)
  else none

/-- The first free element is overwritten. -/
def Qp.overwrite (q : Qp) (f : SendWqe → SendWqe) : Qp :=
  { q with requester := { q.requester with
      free_swqe := q.requester.free_swqe.take 1 |>.map f |>.append (q.requester.free_swqe.drop 1) } }

/-- The first free element is queued as `w`. -/
def Qp.submit (q : Qp) (w : SendWqe) : Qp :=
  { q with requester := { q.requester with
      free_swqe := q.requester.free_swqe.drop 1
      submitted_swqe := q.requester.submitted_swqe ++ [w]
      nr_submitted_swqe := q.requester.nr_submitted_swqe + 1 } }

/-- The fields of a free element with the length of the work request. -/
def lengthSwqe (cfg : Config) (wr : SendWr) (t : Nat) (w : SendWqe) : SendWqe :=
  { startSwqe w wr (sgesOf cfg wr).1 (sgesOf cfg wr).2 with total_length := t }

/-- The rest of `pib_post_send` for an element with its length. -/
def sendAfter (cfg : Config) (finish : Qp → SendWr → SendWqe → SendWqe × Option Errno) (q : Qp)
    (wr : SendWr) (t : Nat) : Qp × Option Errno :=
  match q.requester.free_swqe with
  | [] => (q, none)
  | w :: _ =>
    match finish q wr (lengthSwqe cfg wr t w) with
    | (w, some e) => (q.overwrite fun _ => w, some e)
    | (w, none) => (q.submit w, none)

def sendPoster (cfg : Config) (finish : Qp → SendWr → SendWqe → SendWqe × Option Errno) :
    Chain.Poster Qp SendWr Errno where
  max := PIB_MAX_PAYLOAD_LEN
  tooLongError := .EMSGSIZE
  before := sendBefore cfg
  add total wr := addLength cfg total wr (sgesOf cfg wr).1
  tooLong q wr := q.overwrite fun w => startSwqe w wr (sgesOf cfg wr).1 (sgesOf cfg wr).2
  after := sendAfter cfg finish

/-- The inline data of an element is fetched. -/
def withInline (copyFromUser : Nat → Nat → Option (List UInt8)) (q : Qp) (w : SendWqe) :
    SendWqe × Bool :=
  if w.send_flags.INLINE then copyInlineData copyFromUser q w w.total_length else (w, true)

def submittedSwqe (w : SendWqe) : SendWqe :=
  { w with processing := { w.processing with list_type := .SUBMITTED, status := .SUCCESS } }

def fillRc (copyFromUser : Nat → Nat → Option (List UInt8)) (q : Qp) (wr : SendWr)
    (w : SendWqe) : SendWqe × Option Errno :=
  if (withInline copyFromUser q w).2 = false then ((withInline copyFromUser q w).1, some .EFAULT)
  else (submittedSwqe (setWrParams (withInline copyFromUser q w).1 wr), none)

def fillUd (cfg : Config) (copyFromUser : Nat → Nat → Option (List UInt8))
    (ahs : Nat → Option Ah) (q : Qp) (wr : SendWr) (w : SendWqe) : SendWqe × Option Errno :=
  if (withInline copyFromUser q w).2 = false then ((withInline copyFromUser q w).1, some .EFAULT)
  else if ahRefused cfg ahs wr then ((withInline copyFromUser q w).1, some .EINVAL)
  else (submittedSwqe { (withInline copyFromUser q w).1 with
      wr := if isUdSend wr.opcode then { ud := wr.wr.ud } else {} }, none)

theorem fillSwqe_eq (cfg : Config) (copyFromUser : UserCopy) (q : Qp)
    (total_length : Nat) (wr : SendWr) (w : SendWqe) :
    fillSwqe cfg copyFromUser q total_length wr (sgesOf cfg wr).1 (sgesOf cfg wr).2 w =
      if PIB_MAX_PAYLOAD_LEN < addLength cfg total_length wr (sgesOf cfg wr).1 then
        (startSwqe w wr (sgesOf cfg wr).1 (sgesOf cfg wr).2, some .EMSGSIZE)
      else fillRc copyFromUser q wr
        (lengthSwqe cfg wr (addLength cfg total_length wr (sgesOf cfg wr).1) w) := rfl

theorem fillUdSwqe_eq (cfg : Config) (copyFromUser : UserCopy)
    (ahs : Nat → Option Ah) (q : Qp) (total_length : Nat) (wr : SendWr) (w : SendWqe) :
    fillUdSwqe cfg copyFromUser ahs q total_length wr (sgesOf cfg wr).1 (sgesOf cfg wr).2 w =
      if PIB_MAX_PAYLOAD_LEN < addLength cfg total_length wr (sgesOf cfg wr).1 then
        (startSwqe w wr (sgesOf cfg wr).1 (sgesOf cfg wr).2, some .EMSGSIZE)
      else fillUd cfg copyFromUser ahs q wr
        (lengthSwqe cfg wr (addLength cfg total_length wr (sgesOf cfg wr).1) w) := rfl

section Step

variable {cfg : Config} {finish : Qp → SendWr → SendWqe → SendWqe × Option Errno}
  {fill : Qp → Nat → SendWr → List Sge → Nat → SendWqe → SendWqe × Option Errno}

/-- What one work request does in `pib_post_send`, with the filling of the
element left open. -/
def postWr (cfg : Config)
    (fill : Qp → Nat → SendWr → List Sge → Nat → SendWqe → SendWqe × Option Errno) (q : Qp)
    (total_length : Nat) (wr : SendWr) : Qp × Nat × Option Errno :=
  if q.state = .RESET ∨ q.state = .INIT then (q, total_length, some .EINVAL)
  else if q.state = .ERR ∨ q.state = .SQE then
    (q.insertSendError wr.wr_id .WR_FLUSH_ERR wr.opcode, total_length, none)
  else
    let (sges, imm_data) := sgesOf cfg wr
    if sges.length < 1 ∨ q.init_attr.max_send_sge < sges.length then
      (q, total_length, some .EINVAL)
    else
      match q.requester.free_swqe with
      | [] => (q, total_length, some .ENOMEM)
      | w :: free =>
        match fill q total_length wr sges imm_data w with
        | (w, some e) =>
          ({ q with requester := { q.requester with free_swqe := w :: free } },
            addLength cfg total_length wr sges, some e)
        | (w, none) =>
          ({ q with requester := { q.requester with
              free_swqe := free
              submitted_swqe := q.requester.submitted_swqe ++ [w]
              nr_submitted_swqe := q.requester.nr_submitted_swqe + 1 } },
            addLength cfg total_length wr sges, none)

theorem postWr_eq_step (hfill : ∀ q total_length wr w,
      fill q total_length wr (sgesOf cfg wr).1 (sgesOf cfg wr).2 w =
        if PIB_MAX_PAYLOAD_LEN < addLength cfg total_length wr (sgesOf cfg wr).1 then
          (startSwqe w wr (sgesOf cfg wr).1 (sgesOf cfg wr).2, some .EMSGSIZE)
        else finish q wr (lengthSwqe cfg wr (addLength cfg total_length wr (sgesOf cfg wr).1) w))
    (q : Qp) (total : Nat) (wr : SendWr) :
    postWr cfg fill q total wr = (sendPoster cfg finish).step q total wr := by
  unfold postWr Chain.Poster.step
  simp only [sendPoster, sendBefore]
  by_cases h1 : q.state = .RESET ∨ q.state = .INIT
  · rw [if_pos h1, if_pos h1]
  rw [if_neg h1, if_neg h1]
  by_cases h2 : q.state = .ERR ∨ q.state = .SQE
  · rw [if_pos h2, if_pos h2]
  rw [if_neg h2, if_neg h2]
  by_cases h3 : (sgesOf cfg wr).1.length < 1 ∨
      q.init_attr.max_send_sge < (sgesOf cfg wr).1.length
  · rw [if_pos h3, if_pos h3]
  rw [if_neg h3, if_neg h3]
  unfold sendAfter Qp.overwrite Qp.submit
  cases hfree : q.requester.free_swqe with
  | nil => rfl
  | cons w free =>
    rw [if_neg (List.cons_ne_nil _ _)]
    dsimp only
    rw [hfill]
    by_cases h4 : PIB_MAX_PAYLOAD_LEN < addLength cfg total wr (sgesOf cfg wr).1
    · rw [if_pos h4]
      exact (if_pos h4).symm
    rw [if_neg h4]
    refine Eq.trans ?_ (if_neg h4).symm
    rcases finish q wr (lengthSwqe cfg wr (addLength cfg total wr (sgesOf cfg wr).1) w) with
      ⟨w', _ | e⟩
    · rfl
    · rfl

end Step

theorem postSendWr_eq_step (cfg : Config) (copyFromUser : UserCopy) :
    postSendWr cfg copyFromUser = (sendPoster cfg (fillRc copyFromUser)).step := by
  funext q total wr
  exact postWr_eq_step (fillSwqe_eq cfg copyFromUser) q total wr

theorem postUdSendWr_eq_step (cfg : Config) (copyFromUser : UserCopy)
    (ahs : Nat → Option Ah) :
    postUdSendWr cfg copyFromUser ahs = (sendPoster cfg (fillUd cfg copyFromUser ahs)).step := by
  funext q total wr
  exact postWr_eq_step (fillUdSwqe_eq cfg copyFromUser ahs) q total wr

/-! ## The laws -/

/-- What the filling of an element keeps to. -/
structure Filling (finish : Qp → SendWr → SendWqe → SendWqe × Option Errno) : Prop where
  unsched : ∀ q wr w, finish q.unsched wr w = finish q wr w
  total_length : ∀ q wr w, (finish q wr w).1.total_length = w.total_length
  sge_array : ∀ q wr w, (finish q wr w).1.sge_array = w.sge_array
  error : ∀ q wr w, (finish q wr w).2 ≠ some .EMSGSIZE

theorem withInline_rest (w : SendWqe) :
    (withInline copyFromUser q w).1.total_length = w.total_length ∧
      (withInline copyFromUser q w).1.sge_array = w.sge_array := by
  unfold withInline copyInlineData
  split
  · split
    · exact ⟨rfl, rfl⟩
    · split <;> exact ⟨rfl, rfl⟩
  · exact ⟨rfl, rfl⟩

theorem setWrParams_rest (w : SendWqe) (wr : SendWr) :
    (setWrParams w wr).total_length = w.total_length ∧
      (setWrParams w wr).sge_array = w.sge_array := by
  unfold setWrParams
  split <;> exact ⟨rfl, rfl⟩

theorem filling_fillRc :
    Filling (fillRc copyFromUser) where
  unsched _ _ _ := rfl
  total_length q wr w := by
    unfold fillRc
    split
    · exact (withInline_rest copyFromUser q w).1
    · exact (setWrParams_rest _ _).1.trans (withInline_rest copyFromUser q w).1
  sge_array q wr w := by
    unfold fillRc
    split
    · exact (withInline_rest copyFromUser q w).2
    · exact (setWrParams_rest _ _).2.trans (withInline_rest copyFromUser q w).2
  error q wr w := by
    unfold fillRc
    split <;> nofun

theorem filling_fillUd (cfg : Config) (copyFromUser : UserCopy)
    (ahs : Nat → Option Ah) : Filling (fillUd cfg copyFromUser ahs) where
  unsched _ _ _ := rfl
  total_length q wr w := by
    unfold fillUd
    split
    · exact (withInline_rest copyFromUser q w).1
    · split <;> exact (withInline_rest copyFromUser q w).1
  sge_array q wr w := by
    unfold fillUd
    split
    · exact (withInline_rest copyFromUser q w).2
    · split <;> exact (withInline_rest copyFromUser q w).2
  error q wr w := by
    unfold fillUd
    split
    · nofun
    · split <;> nofun

theorem sendBefore_unsched (cfg : Config) (q : Qp) (wr : SendWr) :
    sendBefore cfg q.unsched wr = (sendBefore cfg q wr).map fun r => (r.1.unsched, r.2) := by
  have hstate : q.unsched.state = q.state := rfl
  have hmax : q.unsched.init_attr.max_send_sge = q.init_attr.max_send_sge := rfl
  have hfree : q.unsched.requester.free_swqe = q.requester.free_swqe := rfl
  unfold sendBefore
  rw [hstate, hmax, hfree]
  split
  · rfl
  split
  · rfl
  split
  · rfl
  split <;> rfl

theorem sendAfter_unsched {finish : Qp → SendWr → SendWqe → SendWqe × Option Errno}
    (hf : Filling finish) (cfg : Config) (q : Qp) (wr : SendWr) (t : Nat) :
    sendAfter cfg finish q.unsched wr t =
      ((sendAfter cfg finish q wr t).1.unsched, (sendAfter cfg finish q wr t).2) := by
  have hfree : q.unsched.requester.free_swqe = q.requester.free_swqe := rfl
  unfold sendAfter
  rw [hfree]
  cases q.requester.free_swqe with
  | nil => rfl
  | cons w free =>
    dsimp only
    rw [hf.unsched]
    rcases finish q wr (lengthSwqe cfg wr t w) with ⟨w', _ | e⟩ <;> rfl

def sendLengths (cfg : Config) (r : SendResult) : List (Nat × Nat) :=
  r.submitted_swqe.map fun w => (w.total_length, sgeTotal cfg w.sge_array)

def sendOwn (cfg : Config) (wr : SendWr) : Nat := sgeTotal cfg (sgesOf cfg wr).1

def rcSend (cfg : Config) (copyFromUser : Nat → Nat → Option (List UInt8)) (now : Nat) :
    PostCall Qp SendWr SendResult where
  post := pibPostSend cfg copyFromUser now
  bad_wr := sendBadWr cfg copyFromUser now
  queue := Qp.sendResult
  lengths := sendLengths cfg
  own := sendOwn cfg

def udSend (cfg : Config) (copyFromUser : Nat → Nat → Option (List UInt8)) (now : Nat)
    (ahs : Nat → Option Ah) : PostCall Qp SendWr SendResult where
  post := pibPostUdSend cfg copyFromUser now ahs
  bad_wr := udSendBadWr cfg copyFromUser now ahs
  queue := Qp.sendResult
  lengths := sendLengths cfg
  own := sendOwn cfg

/-- What is seen of a send queue. -/
def sendLens (cfg : Config) : Chain.Poster.Lens Qp SendWr Qp SendResult where
  view := Qp.unsched
  obs := Qp.sendResult
  lengths := sendLengths cfg
  own := sendOwn cfg

theorem sendBefore_none {cfg : Config} {q : Qp} (h : sendBefore cfg q wr = none) :
    q.requester.free_swqe ≠ [] := by
  unfold sendBefore at h
  intro hfree
  rw [if_pos hfree] at h
  split at h
  · cases h
  split at h
  · cases h
  split at h <;> cases h

/-- Up to the length of a work request no element is queued, and the error is
not that of the length. -/
theorem sendBefore_some {cfg : Config} {q : Qp} {r : Qp × Option Errno}
    (h : sendBefore cfg q wr = some r) :
    r.1.requester = q.requester ∧ r.1.state = q.state ∧ r.2 ≠ some .EMSGSIZE := by
  unfold sendBefore at h
  split at h
  · cases h
    exact ⟨rfl, rfl, nofun⟩
  split at h
  · cases h
    exact ⟨rfl, rfl, nofun⟩
  split at h
  · cases h
    exact ⟨rfl, rfl, nofun⟩
  split at h
  · cases h
    exact ⟨rfl, rfl, nofun⟩
  · cases h

theorem sendAfter_cons {cfg : Config} {finish : Qp → SendWr → SendWqe → SendWqe × Option Errno}
    {q : Qp} {w : SendWqe} {free : List SendWqe} (hw : q.requester.free_swqe = w :: free)
    (wr : SendWr) (t : Nat) :
    sendAfter cfg finish q wr t =
      (if (finish q wr (lengthSwqe cfg wr t w)).2 = none then
          q.submit (finish q wr (lengthSwqe cfg wr t w)).1
        else q.overwrite fun _ => (finish q wr (lengthSwqe cfg wr t w)).1,
        (finish q wr (lengthSwqe cfg wr t w)).2) := by
  unfold sendAfter
  rw [hw]
  dsimp only
  rcases finish q wr (lengthSwqe cfg wr t w) with ⟨w', _ | e⟩ <;> rfl

section Lawful

variable {cfg : Config} {finish : Qp → SendWr → SendWqe → SendWqe × Option Errno}

theorem sendAfter_queued (hf : Filling finish) {q : Qp} {t : Nat}
    (hfree : q.requester.free_swqe ≠ []) (h : (sendAfter cfg finish q wr t).2 = none) :
    sendLengths cfg (sendAfter cfg finish q wr t).1.sendResult =
      sendLengths cfg q.sendResult ++ [(t, sendOwn cfg wr)] := by
  obtain ⟨w, free, hw⟩ := List.exists_cons_of_ne_nil hfree
  rw [sendAfter_cons hw] at h ⊢
  have hlen : (finish q wr (lengthSwqe cfg wr t w)).1.total_length = t := hf.total_length _ _ _
  have hsge : (finish q wr (lengthSwqe cfg wr t w)).1.sge_array = (sgesOf cfg wr).1 :=
    hf.sge_array _ _ _
  rw [if_pos h]
  simp only [sendLengths, Qp.sendResult, Qp.submit, List.map_append, List.map_cons,
    List.map_nil, hlen, hsge, sendOwn]

theorem sendAfter_refused {q : Qp} {t : Nat} (h : (sendAfter cfg finish q wr t).2 ≠ none) :
    (sendAfter cfg finish q wr t).1.sendResult = q.sendResult := by
  cases hw : q.requester.free_swqe with
  | nil =>
    unfold sendAfter
    rw [hw]
  | cons w free =>
    rw [sendAfter_cons hw] at h ⊢
    rw [if_neg h]
    simp [Qp.sendResult, Qp.overwrite, hw]

theorem sendAfter_error (hf : Filling finish) (q : Qp) (wr : SendWr) (t : Nat) :
    (sendAfter cfg finish q wr t).2 ≠ some .EMSGSIZE := by
  cases hw : q.requester.free_swqe with
  | nil =>
    unfold sendAfter
    rw [hw]
    nofun
  | cons w free =>
    rw [sendAfter_cons hw]
    exact hf.error _ _ _

theorem addLength_own (total : Nat) (wr : SendWr) :
    addLength cfg total wr (sgesOf cfg wr).1 = 8 ∧ addLength cfg 0 wr (sgesOf cfg wr).1 = 8 ∨
      addLength cfg total wr (sgesOf cfg wr).1 = total + sendOwn cfg wr ∧
        addLength cfg 0 wr (sgesOf cfg wr).1 = sendOwn cfg wr := by
  unfold addLength sendOwn
  split
  · exact Or.inl ⟨rfl, rfl⟩
  · exact Or.inr ⟨rfl, Nat.zero_add _⟩

/-- Posting to a send queue keeps to the laws. -/
theorem sendPoster_lawful (hf : Filling finish) (now : Nat) :
    (sendPoster cfg finish).Lawful (sendSettle now) (sendLens cfg) where
  settle_view := unsched_sendSettle now
  obs_view {q q'} hv := by
    have hv : q.unsched = q'.unsched := hv
    change q.unsched.sendResult = q'.unsched.sendResult
    rw [hv]
  before_view {q q'} wr hv := by
    have hv : q.unsched = q'.unsched := hv
    have h := (sendBefore_unsched cfg q wr).symm.trans
      ((congrArg (sendBefore cfg · wr) hv).trans (sendBefore_unsched cfg q' wr))
    exact h
  tooLong_view {q q'} wr hv := by
    have hv : q.unsched = q'.unsched := hv
    exact congrArg (Qp.overwrite · fun w => startSwqe w wr (sgesOf cfg wr).1 (sgesOf cfg wr).2) hv
  after_view {q q'} wr t hv := by
    have hv : q.unsched = q'.unsched := hv
    have h := (sendAfter_unsched hf cfg q wr t).symm.trans
      ((congrArg (sendAfter cfg finish · wr t) hv).trans (sendAfter_unsched hf cfg q' wr t))
    exact h
  before_lengths {q wr q' e} h := by
    obtain ⟨hreq, -, -⟩ := sendBefore_some h
    exact congrArg (fun r => r.submitted_swqe.map fun w => (w.total_length, sgeTotal cfg w.sge_array))
      hreq
  tooLong_lengths _ _ := rfl
  after_queued hb ha := sendAfter_queued hf (sendBefore_none hb) ha
  after_refused _ ha := sendAfter_refused ha
  before_error h := (sendBefore_some h).2.2
  after_error := sendAfter_error hf
  add_mono total wr := by
    have h := @addLength_own cfg total wr
    change addLength cfg 0 wr (sgesOf cfg wr).1 ≤ addLength cfg total wr (sgesOf cfg wr).1
    omega
  add_own {total wr} h := by
    have h : addLength cfg total wr (sgesOf cfg wr).1 = sendOwn cfg wr := h
    change addLength cfg 0 wr (sgesOf cfg wr).1 = sendOwn cfg wr
    have := @addLength_own cfg total wr
    omega
  add_long {total wr} h h' := by
    have h : PIB_MAX_PAYLOAD_LEN < addLength cfg total wr (sgesOf cfg wr).1 := h
    have h' : PIB_MAX_PAYLOAD_LEN < sendOwn cfg wr := h'
    change PIB_MAX_PAYLOAD_LEN < addLength cfg 0 wr (sgesOf cfg wr).1
    have := @addLength_own cfg total wr
    omega

theorem sendStep_state (total : Nat) (wr : SendWr) :
    ((sendPoster cfg finish).step q total wr).1.state = q.state := by
  unfold Chain.Poster.step
  cases hb : (sendPoster cfg finish).before q wr with
  | some r => exact (sendBefore_some hb).2.1
  | none =>
    dsimp only
    split
    · rfl
    change (sendAfter cfg finish q wr _).1.state = q.state
    cases hw : q.requester.free_swqe with
    | nil =>
      unfold sendAfter
      rw [hw]
    | cons w free =>
      rw [sendAfter_cons hw]
      dsimp only
      split <;> rfl

end Lawful

theorem sendRun_state {cfg : Config}
    {finish : Qp → SendWr → SendWqe → SendWqe × Option Errno} (total : Nat)
    (wrs : List SendWr) : ((sendPoster cfg finish).run q total wrs).1.state = q.state :=
  Chain.Poster.run_keeps (p := sendPoster cfg finish)
    (fun s total w h => (sendStep_state s total w).trans h) wrs q total rfl

theorem sendRest_eq {p : Chain.Poster Qp SendWr Errno} (total : Nat)
    (wrs : List SendWr) : sendRest p.step q total wrs = (p.run q total wrs).2.2 := by
  refine Chain.Poster.eq_run (fun _ => True) (fun _ _ _ _ => trivial) (fun r => r.2.2)
    (sendRest p.step) (fun _ _ _ => rfl) ?_ ?_ wrs q total trivial
  · intro s total w ws e _ he
    rw [sendRest]
    rcases hs : p.step s total w with ⟨s', t, r⟩
    rw [hs] at he
    cases he
    rfl
  · intro s total w ws _ he
    rw [sendRest]
    rcases hs : p.step s total w with ⟨s', t, r⟩
    rw [hs] at he
    cases he
    rfl

theorem postSendLoop_eq (cfg : Config) (copyFromUser : UserCopy) (q : Qp)
    (total : Nat) (wrs : List SendWr) :
    postSendLoop cfg copyFromUser q total wrs =
      (((sendPoster cfg (fillRc copyFromUser)).run q total wrs).1,
        ((sendPoster cfg (fillRc copyFromUser)).run q total wrs).2.1) := by
  refine Chain.Poster.eq_run (fun _ => True) (fun _ _ _ _ => trivial)
    (fun r => (r.1, r.2.1)) (postSendLoop cfg copyFromUser) (fun _ _ _ => rfl) ?_ ?_ wrs q total
    trivial
  · intro s total w ws e _ he
    rw [postSendLoop, postSendWr_eq_step]
    rcases hs : (sendPoster cfg (fillRc copyFromUser)).step s total w with ⟨s', t, r⟩
    rw [hs] at he
    cases he
    rfl
  · intro s total w ws _ he
    rw [postSendLoop, postSendWr_eq_step]
    rcases hs : (sendPoster cfg (fillRc copyFromUser)).step s total w with ⟨s', t, r⟩
    rw [hs] at he
    cases he
    rfl

theorem postUdSendLoop_eq (cfg : Config) (copyFromUser : UserCopy)
    (ahs : Nat → Option Ah) (q : Qp) (total : Nat) (wrs : List SendWr) :
    postUdSendLoop cfg copyFromUser ahs q total wrs =
      (((sendPoster cfg (fillUd cfg copyFromUser ahs)).run q total wrs).1,
        ((sendPoster cfg (fillUd cfg copyFromUser ahs)).run q total wrs).2.1) := by
  refine Chain.Poster.eq_run (fun _ => True) (fun _ _ _ _ => trivial)
    (fun r => (r.1, r.2.1)) (postUdSendLoop cfg copyFromUser ahs) (fun _ _ _ => rfl) ?_ ?_ wrs q
    total trivial
  · intro s total w ws e _ he
    rw [postUdSendLoop, postUdSendWr_eq_step]
    rcases hs : (sendPoster cfg (fillUd cfg copyFromUser ahs)).step s total w with ⟨s', t, r⟩
    rw [hs] at he
    cases he
    rfl
  · intro s total w ws _ he
    rw [postUdSendLoop, postUdSendWr_eq_step]
    rcases hs : (sendPoster cfg (fillUd cfg copyFromUser ahs)).step s total w with ⟨s', t, r⟩
    rw [hs] at he
    cases he
    rfl

theorem rcSend_implements (cfg : Config) (copyFromUser : UserCopy)
    (now : Nat) :
    (rcSend cfg copyFromUser now).Implements (sendPoster cfg (fillRc copyFromUser))
      (sendSettle now) (fun _ => True) := by
  have hpost : ∀ q w ws, pibPostSend cfg copyFromUser now q (w :: ws) =
      (sendSettle now ((sendPoster cfg (fillRc copyFromUser)).run q 0 (w :: ws)).1,
        ((sendPoster cfg (fillRc copyFromUser)).run q 0 (w :: ws)).2.1) := by
    intro q w ws
    unfold pibPostSend sendSettle
    rw [postSendLoop_eq, sendRun_state]
  refine ⟨rfl, rfl, fun w ws _ => hpost _ w ws, fun {q} w ws _ hne => ?_, fun _ _ => trivial⟩
  change sendBadWr cfg copyFromUser now q (w :: ws) = _
  unfold sendBadWr
  rw [hpost, if_neg (by simpa using hne), postSendWr_eq_step, sendRest_eq]

theorem udSend_implements (cfg : Config) (copyFromUser : UserCopy)
    (now : Nat) (ahs : Nat → Option Ah) :
    (udSend cfg copyFromUser now ahs).Implements (sendPoster cfg (fillUd cfg copyFromUser ahs))
      (sendSettle now) (fun _ => True) := by
  have hpost : ∀ q w ws, pibPostUdSend cfg copyFromUser now ahs q (w :: ws) =
      (sendSettle now ((sendPoster cfg (fillUd cfg copyFromUser ahs)).run q 0 (w :: ws)).1,
        ((sendPoster cfg (fillUd cfg copyFromUser ahs)).run q 0 (w :: ws)).2.1) := by
    intro q w ws
    unfold pibPostUdSend sendSettle
    rw [postUdSendLoop_eq, sendRun_state]
  refine ⟨rfl, rfl, fun w ws _ => hpost _ w ws, fun {q} w ws _ hne => ?_, fun _ _ => trivial⟩
  change udSendBadWr cfg copyFromUser now ahs q (w :: ws) = _
  unfold udSendBadWr
  rw [hpost, if_neg (by simpa using hne), postUdSendWr_eq_step, sendRest_eq]

end pib
