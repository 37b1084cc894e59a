-- The receive queues under a chain of work requests (pib_qp.c 1163-1258,
-- pib_srq.c 248-325).
import Pib.PostSendChain

namespace pib

variable {cfg : Config} {q : Qp}

/-- What counts of a receive queue. -/
structure RecvResult where
  recv_wqe : List RecvWqe
  nr_recv_wqe : Int
  recv_cq : List (Wc × Bool)
  free : Nat

def Qp.recvResult (q : Qp) : RecvResult where
  recv_wqe := q.responder.recv_wqe
  nr_recv_wqe := q.responder.nr_recv_wqe
  recv_cq := q.recv_cq
  free := q.responder.free_rwqe

/-- A shared receive queue has no completion queue of its own. -/
def Srq.recvResult (srq : Srq) : RecvResult where
  recv_wqe := srq.recv_wqe
  nr_recv_wqe := srq.nr_recv_wqe
  recv_cq := []
  free := srq.free_recv_wqe

def recvLengths (cfg : Config) (r : RecvResult) : List (Nat × Nat) :=
  r.recv_wqe.map fun w => (w.total_length, sgeTotal cfg w.sge_array)

def recvOwn (cfg : Config) (wr : RecvWr) : Nat := sgeTotal cfg wr.sg_list

def recv (cfg : Config) : PostCall Qp RecvWr RecvResult where
  post := pibPostRecv cfg
  bad_wr := recvBadWr cfg
  queue := Qp.recvResult
  lengths := recvLengths cfg
  own := recvOwn cfg

def srqRecv (cfg : Config) (max_sge : Nat) : PostCall Srq RecvWr RecvResult where
  post := pibPostSrqRecv cfg max_sge
  bad_wr := srqRecvBadWr cfg max_sge
  queue := Srq.recvResult
  lengths := recvLengths cfg
  own := recvOwn cfg

/-- The element of a work request. -/
def recvWqeOf (wr : RecvWr) (total_length : Nat) : RecvWqe :=
  { wr_id := wr.wr_id, total_length, sge_array := wr.sg_list }

def Qp.queueRecv (q : Qp) (w : RecvWqe) : Qp :=
  { q with responder := { q.responder with
      free_rwqe := q.responder.free_rwqe - 1
      recv_wqe := q.responder.recv_wqe ++ [w]
      nr_recv_wqe := q.responder.nr_recv_wqe + 1 } }

def Srq.queueRecv (srq : Srq) (w : RecvWqe) : Srq :=
  { srq with
    free_recv_wqe := srq.free_recv_wqe - 1
    recv_wqe := srq.recv_wqe ++ [w]
    nr_recv_wqe := srq.nr_recv_wqe + 1 }

/-- Posting to a receive queue that is not in the error state. -/
def recvPoster (cfg : Config) : Chain.Poster Qp RecvWr Errno where
  max := PIB_MAX_PAYLOAD_LEN
  tooLongError := .EMSGSIZE
  before q wr :=
    if q.state = .RESET then some (q, some .EINVAL)
    else if wr.sg_list.length < 1 ∨ q.init_attr.max_recv_sge < wr.sg_list.length then
      some (q, some .EINVAL)
    else if q.responder.free_rwqe = 0 then some (q, some .ENOMEM)
    else none
  add total wr := total + recvOwn cfg wr
  tooLong q _ := q
  after q wr t := (q.queueRecv (recvWqeOf wr t), none)

def srqPoster (cfg : Config) (max_sge : Nat) : Chain.Poster Srq RecvWr Errno where
  max := PIB_MAX_PAYLOAD_LEN
  tooLongError := .EMSGSIZE
  before srq wr :=
    if wr.sg_list.length < 1 ∨ max_sge < wr.sg_list.length then some (srq, some .EINVAL)
    else if srq.free_recv_wqe = 0 then some (srq, some .ENOMEM)
    else none
  add total wr := total + recvOwn cfg wr
  tooLong srq _ := { srq with free_recv_wqe := srq.free_recv_wqe - 1 }
  after srq wr t := (srq.queueRecv (recvWqeOf wr t), none)

/-- What is refused before its length counts leaves a receive queue alone. -/
theorem recvPoster_before {wr : RecvWr} {r : Qp × Option Errno}
    (h : (recvPoster cfg).before q wr = some r) : r.1 = q ∧ r.2 ≠ none ∧ r.2 ≠ some .EMSGSIZE := by
  simp only [recvPoster] at h
  split at h
  · cases h
    exact ⟨rfl, nofun, nofun⟩
  split at h
  · cases h
    exact ⟨rfl, nofun, nofun⟩
  split at h
  · cases h
    exact ⟨rfl, nofun, nofun⟩
  · cases h

theorem srqPoster_before {max_sge : Nat} {srq : Srq} {wr : RecvWr} {r : Srq × Option Errno}
    (h : (srqPoster cfg max_sge).before srq wr = some r) : r.1 = srq ∧ r.2 ≠ some .EMSGSIZE := by
  simp only [srqPoster] at h
  split at h
  · cases h
    exact ⟨rfl, nofun⟩
  split at h
  · cases h
    exact ⟨rfl, nofun⟩
  · cases h

theorem recvPoster_lawful (cfg : Config) :
    (recvPoster cfg).Lawful id ((recv cfg).lens id) where
  settle_view _ := rfl
  obs_view hv := congrArg Qp.recvResult hv
  before_view {q q'} wr hv := by rw [show q = q' from hv]
  tooLong_view _ hv := hv
  after_view {q q'} wr t hv := by rw [show q = q' from hv]
  before_lengths h := congrArg (recvLengths cfg ∘ Qp.recvResult) (recvPoster_before h).1
  tooLong_lengths _ _ := rfl
  after_queued _ _ := List.map_append
  after_refused _ hne := absurd rfl hne
  before_error h := (recvPoster_before h).2.2
  after_error _ _ _ := nofun
  add_mono _ _ := Nat.add_le_add_right (Nat.zero_le _) _
  add_own _ := Nat.zero_add _
  add_long _ h := lt_of_lt_of_eq h (Nat.zero_add _).symm

theorem srqPoster_lawful (cfg : Config) (max_sge : Nat) :
    (srqPoster cfg max_sge).Lawful id ((srqRecv cfg max_sge).lens id) where
  settle_view _ := rfl
  obs_view hv := congrArg Srq.recvResult hv
  before_view {q q'} wr hv := by rw [show q = q' from hv]
  tooLong_view {q q'} _ hv := by rw [show q = q' from hv]
  after_view {q q'} wr t hv := by rw [show q = q' from hv]
  before_lengths h := congrArg (recvLengths cfg ∘ Srq.recvResult) (srqPoster_before h).1
  tooLong_lengths _ _ := rfl
  after_queued _ _ := List.map_append
  after_refused _ hne := absurd rfl hne
  before_error h := (srqPoster_before h).2
  after_error _ _ _ := nofun
  add_mono _ _ := Nat.add_le_add_right (Nat.zero_le _) _
  add_own _ := Nat.zero_add _
  add_long _ h := lt_of_lt_of_eq h (Nat.zero_add _).symm

theorem postRecvLoop_cons (h : q.state ≠ .ERR) (total : Nat) (wr : RecvWr) (wrs : List RecvWr) :
    postRecvLoop cfg q total (wr :: wrs) none =
      if q.state = .RESET then (q, some .EINVAL)
      else if wr.sg_list.length < 1 ∨ q.init_attr.max_recv_sge < wr.sg_list.length then
        (q, some .EINVAL)
      else if q.responder.free_rwqe = 0 then (q, some .ENOMEM)
      else if PIB_MAX_PAYLOAD_LEN < total + recvOwn cfg wr then (q, some .EMSGSIZE)
      else postRecvLoop cfg (q.queueRecv (recvWqeOf wr (total + recvOwn cfg wr)))
        (total + recvOwn cfg wr) wrs none := by
  rw [postRecvLoop]
  split
  · rw [if_pos ‹_›]
  · exact absurd ‹_› h
  all_goals
    have hreset : q.state ≠ .RESET := by simp [*]
    rw [if_neg hreset]
    rfl

theorem recvRest_cons (h : q.state ≠ .ERR) (total : Nat) (wr : RecvWr) (wrs : List RecvWr) :
    recvRest cfg q total (wr :: wrs) =
      if q.state = .RESET then wr :: wrs
      else if wr.sg_list.length < 1 ∨ q.init_attr.max_recv_sge < wr.sg_list.length then wr :: wrs
      else if q.responder.free_rwqe = 0 then wr :: wrs
      else if PIB_MAX_PAYLOAD_LEN < total + recvOwn cfg wr then wr :: wrs
      else recvRest cfg (q.queueRecv (recvWqeOf wr (total + recvOwn cfg wr)))
        (total + recvOwn cfg wr) wrs := by
  rw [recvRest]
  split
  · rw [if_pos ‹_›]
  · exact absurd ‹_› h
  all_goals
    have hreset : q.state ≠ .RESET := by simp [*]
    rw [if_neg hreset]
    rfl

theorem recvStep_eq (cfg : Config) (q : Qp) (total : Nat) (wr : RecvWr) :
    (recvPoster cfg).step q total wr =
      if q.state = .RESET then (q, total, some .EINVAL)
      else if wr.sg_list.length < 1 ∨ q.init_attr.max_recv_sge < wr.sg_list.length then
        (q, total, some .EINVAL)
      else if q.responder.free_rwqe = 0 then (q, total, some .ENOMEM)
      else if PIB_MAX_PAYLOAD_LEN < total + recvOwn cfg wr then
        (q, total + recvOwn cfg wr, some .EMSGSIZE)
      else (q.queueRecv (recvWqeOf wr (total + recvOwn cfg wr)), total + recvOwn cfg wr, none) := by
  unfold Chain.Poster.step
  simp only [recvPoster]
  split_ifs <;> first | rfl | exact if_pos ‹_› | exact if_neg ‹_›

/-- One turn of the loop of `pib_post_recv` is one step. -/
theorem recvStep_cases (h : q.state ≠ .ERR) (total : Nat) (wr : RecvWr) :
    (∃ t e, (recvPoster cfg).step q total wr = (q, t, some e) ∧
      ∀ wrs, postRecvLoop cfg q total (wr :: wrs) none = (q, some e) ∧
        recvRest cfg q total (wr :: wrs) = wr :: wrs) ∨
    (∃ q' t, (recvPoster cfg).step q total wr = (q', t, none) ∧
      q'.state = q.state ∧ q'.srq = q.srq ∧
      ∀ wrs, postRecvLoop cfg q total (wr :: wrs) none = postRecvLoop cfg q' t wrs none ∧
        recvRest cfg q total (wr :: wrs) = recvRest cfg q' t wrs) := by
  simp only [postRecvLoop_cons h, recvRest_cons h, recvStep_eq]
  by_cases hreset : q.state = .RESET
  · simp only [if_pos hreset]
    exact Or.inl ⟨_, _, rfl, fun _ => ⟨rfl, trivial⟩⟩
  simp only [if_neg hreset]
  by_cases hsge : wr.sg_list.length < 1 ∨ q.init_attr.max_recv_sge < wr.sg_list.length
  · simp only [if_pos hsge]
    exact Or.inl ⟨_, _, rfl, fun _ => ⟨rfl, trivial⟩⟩
  simp only [if_neg hsge]
  by_cases hfree : q.responder.free_rwqe = 0
  · simp only [if_pos hfree]
    exact Or.inl ⟨_, _, rfl, fun _ => ⟨rfl, trivial⟩⟩
  simp only [if_neg hfree]
  by_cases hlong : PIB_MAX_PAYLOAD_LEN < total + recvOwn cfg wr
  · simp only [if_pos hlong]
    exact Or.inl ⟨_, _, rfl, fun _ => ⟨rfl, trivial⟩⟩
  · simp only [if_neg hlong]
    exact Or.inr ⟨_, _, rfl, rfl, rfl, fun _ => ⟨rfl, rfl⟩⟩

/-- The states in which `pib_post_recv` posts at all. -/
def Qp.TakesRecv (q : Qp) : Prop := q.srq = none ∧ q.state ≠ .ERR

theorem recvStep_takesRecv (q : Qp) (total : Nat) (wr : RecvWr) (h : q.TakesRecv) :
    ((recvPoster cfg).step q total wr).1.TakesRecv := by
  rcases recvStep_cases h.2 total wr with ⟨t, e, hs, -⟩ | ⟨q', t, hs, hstate, hsrq, -⟩
  · rw [hs]
    exact h
  · rw [hs]
    exact ⟨hsrq.trans h.1, hstate ▸ h.2⟩

theorem postRecvLoop_eq (h : q.TakesRecv) (total : Nat) (wrs : List RecvWr) :
    (postRecvLoop cfg q total wrs none, recvRest cfg q total wrs) =
      ((((recvPoster cfg).run q total wrs).1, ((recvPoster cfg).run q total wrs).2.1),
        ((recvPoster cfg).run q total wrs).2.2) := by
  refine Chain.Poster.eq_run Qp.TakesRecv recvStep_takesRecv
    (fun r => ((r.1, r.2.1), r.2.2))
    (fun q total wrs => (postRecvLoop cfg q total wrs none, recvRest cfg q total wrs))
    (fun _ _ _ => rfl) ?_ ?_ wrs q total h
  · intro q total wr wrs e hq he
    rcases recvStep_cases hq.2 total wr with ⟨t, e', hs, hl⟩ | ⟨q', t, hs, -⟩
    · rw [hs] at he ⊢
      cases he
      rw [(hl wrs).1, (hl wrs).2]
    · rw [hs] at he
      cases he
  · intro q total wr wrs hq he
    rcases recvStep_cases hq.2 total wr with ⟨t, e', hs, -⟩ | ⟨q', t, hs, -, -, hl⟩
    · rw [hs] at he
      cases he
    · rw [hs, (hl wrs).1, (hl wrs).2]

/-- `pib_post_recv` runs the loop of the poster where the queue pair has its
own receive queue and is not in the error state. -/
theorem recv_implements (cfg : Config) :
    (recv cfg).Implements (recvPoster cfg) id Qp.TakesRecv := by
  have hpost : ∀ (q : Qp) wr wrs, q.TakesRecv →
      pibPostRecv cfg q (wr :: wrs) = (((recvPoster cfg).run q 0 (wr :: wrs)).1,
        ((recvPoster cfg).run q 0 (wr :: wrs)).2.1) := by
    intro q wr wrs hq
    unfold pibPostRecv
    rw [if_neg (by simp [hq.1])]
    exact congrArg Prod.fst (postRecvLoop_eq hq 0 (wr :: wrs))
  refine ⟨rfl, rfl, fun wr wrs hq => hpost _ wr wrs hq, fun {q} wr wrs hq hne => ?_,
    fun wr hq => recvStep_takesRecv _ 0 wr hq⟩
  change recvBadWr cfg q (wr :: wrs) = _
  unfold recvBadWr
  rw [hpost q wr wrs hq, if_neg (by simpa [hq.1] using hne)]
  exact congrArg (some ∘ Prod.snd) (postRecvLoop_eq hq 0 (wr :: wrs))

theorem srqStep_eq (cfg : Config) (max_sge : Nat) (srq : Srq) (total : Nat) (wr : RecvWr) :
    (srqPoster cfg max_sge).step srq total wr =
      if wr.sg_list.length < 1 ∨ max_sge < wr.sg_list.length then (srq, total, some .EINVAL)
      else if srq.free_recv_wqe = 0 then (srq, total, some .ENOMEM)
      else if PIB_MAX_PAYLOAD_LEN < total + recvOwn cfg wr then
        ({ srq with free_recv_wqe := srq.free_recv_wqe - 1 }, total + recvOwn cfg wr,
          some .EMSGSIZE)
      else (srq.queueRecv (recvWqeOf wr (total + recvOwn cfg wr)), total + recvOwn cfg wr, none) := by
  unfold Chain.Poster.step
  simp only [srqPoster]
  split_ifs <;> first | rfl | exact if_pos ‹_› | exact if_neg ‹_›

theorem postSrqRecvLoop_cons (cfg : Config) (max_sge : Nat) (srq : Srq) (total : Nat) (wr : RecvWr)
    (wrs : List RecvWr) :
    postSrqRecvLoop cfg max_sge srq total (wr :: wrs) =
      if wr.sg_list.length < 1 ∨ max_sge < wr.sg_list.length then (srq, some .EINVAL, wr :: wrs)
      else if srq.free_recv_wqe = 0 then (srq, some .ENOMEM, wr :: wrs)
      else if PIB_MAX_PAYLOAD_LEN < total + recvOwn cfg wr then
        ({ srq with free_recv_wqe := srq.free_recv_wqe - 1 }, some .EMSGSIZE, wr :: wrs)
      else postSrqRecvLoop cfg max_sge (srq.queueRecv (recvWqeOf wr (total + recvOwn cfg wr)))
        (total + recvOwn cfg wr) wrs := by
  rw [postSrqRecvLoop]
  rfl

theorem postSrqRecvLoop_eq (cfg : Config) (max_sge : Nat) (srq : Srq) (total : Nat)
    (wrs : List RecvWr) :
    postSrqRecvLoop cfg max_sge srq total wrs = (srqPoster cfg max_sge).run srq total wrs := by
  refine Chain.Poster.eq_run (fun _ => True) (fun _ _ _ _ => trivial) id
    (postSrqRecvLoop cfg max_sge) (fun _ _ _ => rfl) ?_ ?_ wrs srq total trivial
  · intro srq total wr wrs e _ he
    rw [postSrqRecvLoop_cons]
    rw [srqStep_eq] at he ⊢
    split_ifs at he ⊢ <;> cases he <;> rfl
  · intro srq total wr wrs _ he
    rw [postSrqRecvLoop_cons]
    rw [srqStep_eq] at he ⊢
    split_ifs at he ⊢
    rfl

theorem srqRecv_implements (cfg : Config) (max_sge : Nat) :
    (srqRecv cfg max_sge).Implements (srqPoster cfg max_sge) id (fun _ => True) := by
  have hpost : ∀ (srq : Srq) wr wrs, pibPostSrqRecv cfg max_sge srq (wr :: wrs) =
      (((srqPoster cfg max_sge).run srq 0 (wr :: wrs)).1,
        ((srqPoster cfg max_sge).run srq 0 (wr :: wrs)).2.1) := by
    intro srq wr wrs
    unfold pibPostSrqRecv
    rw [if_neg (List.cons_ne_nil _ _), postSrqRecvLoop_eq]
  refine ⟨rfl, rfl, fun wr wrs _ => hpost _ wr wrs, fun {srq} wr wrs _ hne => ?_,
    fun _ _ => trivial⟩
  change srqRecvBadWr cfg max_sge srq (wr :: wrs) = _
  unfold srqRecvBadWr
  rw [hpost, if_neg (by simpa using hne), postSrqRecvLoop_eq]

/-- In the error state the whole chain is flushed: `-EPERM`, and `*bad_wr` is
`NULL`. -/
theorem postRecvLoop_err (wrs : List RecvWr) : ∀ {q : Qp} (total : Nat)
    (ret : Option Errno), q.state = .ERR →
    (postRecvLoop cfg q total wrs ret).2 = (if wrs = [] then ret else some .EPERM) ∧
      recvRest cfg q total wrs = [] := by
  induction wrs with
  | nil =>
    intro q total ret _
    exact ⟨rfl, rfl⟩
  | cons wr wrs ih =>
    intro q total ret h
    rw [postRecvLoop, recvRest, h]
    obtain ⟨h1, h2⟩ := @ih (q.insertRecvError wr.wr_id .WR_FLUSH_ERR .RECV) total
      (some .EPERM) h
    refine ⟨h1.trans ?_, h2⟩
    rw [if_neg (List.cons_ne_nil _ _)]
    split <;> rfl

/-- Outside `TakesRecv` the call fails, and `*bad_wr` is not where it should be. -/
theorem recv_bad_wr_of_not_takes (hq : ¬q.TakesRecv) (wr : RecvWr) (wrs : List RecvWr) :
    (pibPostRecv cfg q (wr :: wrs)).2 ≠ none ∧
      (recvBadWr cfg q (wr :: wrs) = none ∨ recvBadWr cfg q (wr :: wrs) = some []) := by
  by_cases hsrq : q.srq = none
  · have hstate : q.state = .ERR := by
      by_contra hne
      exact hq ⟨hsrq, hne⟩
    obtain ⟨herr, hrest⟩ := @postRecvLoop_err cfg (wr :: wrs) q 0 none hstate
    have hpost : (pibPostRecv cfg q (wr :: wrs)).2 ≠ none := by
      rw [pibPostRecv, if_neg (by simp [hsrq]), herr, if_neg (List.cons_ne_nil _ _)]
      nofun
    refine ⟨hpost, Or.inr ?_⟩
    rw [recvBadWr, if_neg (by simp [hsrq, hpost]), hrest]
  · have hsome : q.srq.isSome = true := Option.isSome_iff_ne_none.mpr hsrq
    constructor
    · rw [pibPostRecv, if_pos (Or.inr hsome)]
      nofun
    · exact Or.inl (if_pos (Or.inr (Or.inl hsome)))

theorem recv_agrees_iff (cfg : Config) (q : Qp) (wr : RecvWr) (wrs : List RecvWr) :
    (recv cfg).Agrees q (wr :: wrs) ↔
      q.TakesRecv ∧ (recvPoster cfg).Clean ((recv cfg).lens id) q 0 (wr :: wrs) := by
  by_cases hq : q.TakesRecv
  · rw [(recv_implements cfg).agrees_iff (recvPoster_lawful cfg) hq wr wrs]
    exact ⟨fun h => ⟨hq, h⟩, And.right⟩
  refine ⟨fun h => ?_, fun h => absurd h.1 hq⟩
  have hfirst : ((recv cfg).oneByOne q (wr :: wrs)).2.2 = wr :: wrs := by
    have hne := (@recv_bad_wr_of_not_takes cfg q hq wr []).1
    rw [PostCall.oneByOne]
    rcases hp : (recv cfg).post q [wr] with ⟨q', _ | e⟩
    · exact absurd (congrArg Prod.snd hp) hne
    · rfl
  obtain ⟨hne, hbad⟩ := @recv_bad_wr_of_not_takes cfg q hq wr wrs
  have hwr := h.bad_wr hne
  rw [hfirst] at hwr
  rcases hbad with hbad | hbad
  · cases hbad.symm.trans hwr
  · cases hbad.symm.trans hwr

/-- Posting a chain gives what its work requests give one at a time exactly if
the `total_length` that runs on through the call does no harm, and for
`pib_post_recv` besides if the queue pair has its own receive queue and is not
in the error state. -/
theorem post_chain_agrees_iff (cfg : Config) (copyFromUser : Nat → Nat → Option (List UInt8))
    (now : Nat) (ahs : Nat → Option Ah) (max_sge : Nat) :
    (∀ q wr wrs, (rcSend cfg copyFromUser now).Agrees q (wr :: wrs) ↔
      (sendPoster cfg (fillRc copyFromUser)).Clean (sendLens cfg) q 0 (wr :: wrs)) ∧
    (∀ q wr wrs, (udSend cfg copyFromUser now ahs).Agrees q (wr :: wrs) ↔
      (sendPoster cfg (fillUd cfg copyFromUser ahs)).Clean (sendLens cfg) q 0 (wr :: wrs)) ∧
    (∀ q wr wrs, (recv cfg).Agrees q (wr :: wrs) ↔
      q.TakesRecv ∧ (recvPoster cfg).Clean ((recv cfg).lens id) q 0 (wr :: wrs)) ∧
    (∀ srq wr wrs, (srqRecv cfg max_sge).Agrees srq (wr :: wrs) ↔
      (srqPoster cfg max_sge).Clean ((srqRecv cfg max_sge).lens id) srq 0 (wr :: wrs)) := by
  refine ⟨fun q wr wrs => ?_, fun q wr wrs => ?_, recv_agrees_iff cfg, fun srq wr wrs => ?_⟩
  · exact (rcSend_implements cfg copyFromUser now).agrees_iff
      (sendPoster_lawful (filling_fillRc copyFromUser) now) trivial wr wrs
  · exact (udSend_implements cfg copyFromUser now ahs).agrees_iff
      (sendPoster_lawful (filling_fillUd cfg copyFromUser ahs) now) trivial wr wrs
  · exact (srqRecv_implements cfg max_sge).agrees_iff (srqPoster_lawful cfg max_sge) trivial wr wrs

/-- Two receive requests of four bytes in one call: the second is queued with
eight. -/
theorem recv_chain_disagrees :
    ¬(recv {}).Agrees
      { state := .INIT, init_attr := { max_recv_sge := 1 }, responder := { free_rwqe := 2 } }
      [{ wr_id := 1, sg_list := [{ addr := 0, length := 4, lkey := 0 }] },
        { wr_id := 2, sg_list := [{ addr := 0, length := 4, lkey := 0 }] }] := by
  intro h
  obtain ⟨new, hnew, hall⟩ := h.lengths
  have hnew : [(4, 4), (8, 4)] = new := hnew
  exact absurd (hall (8, 4) (hnew ▸ by decide)) (by decide)

end pib
