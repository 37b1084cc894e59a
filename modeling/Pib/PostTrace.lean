-- A work request that is refused: what the call leaves behind (pib_qp.c 912-1258,
-- pib_srq.c 248-325).
import Pib.PostRecvChain

namespace pib

/-! ## Traces -/

/-- A call with one work request leaves no trace when it fails, and has done its work
when it does not. -/
structure Traceless {S W T : Type} (post : S → List W → S × Option Errno) (trace : S → T)
    (Done : S → W → S → Prop) (s : S) (wr : W) : Prop where
  refused : (post s [wr]).2 ≠ none → trace (post s [wr]).1 = trace s
  done : (post s [wr]).2 = none → Done s wr (post s [wr]).1

theorem traceless_iff {S W T : Type} {post : S → List W → S × Option Errno} {trace : S → T}
    {Done : S → W → S → Prop} {s s' : S} {wr : W} {e : Option Errno} (h : post s [wr] = (s', e)) :
    Traceless post trace Done s wr ↔ (e ≠ none → trace s' = trace s) ∧ (e = none → Done s wr s') := by
  constructor
  · rintro ⟨h1, h2⟩
    rw [h] at h1 h2
    exact ⟨h1, h2⟩
  · rintro ⟨h1, h2⟩
    exact ⟨by rwa [h], by rwa [h]⟩

/-- The queue pair without what is written in its free elements and without its place
in the tree of the scheduler. -/
def Qp.trace (q : Qp) : Qp :=
  { q with
    sched_on := false
    sched_time := 0
    requester := { q.requester with
      free_swqe := q.requester.free_swqe.map fun w => { trace_id := w.trace_id } } }

/-- The work request is queued in an element that was free, or flushed with one
completion. -/
def SendDone (q : Qp) (wr : SendWr) (q' : Qp) : Prop :=
  (∃ w free, w.wr_id = wr.wr_id ∧ q.requester.free_swqe.map SendWqe.trace_id = w.trace_id :: free ∧
    q'.requester.free_swqe.map SendWqe.trace_id = free ∧
    q'.sendResult = { q.sendResult with
      submitted_swqe := q.requester.submitted_swqe ++ [w]
      nr_submitted_swqe := q.requester.nr_submitted_swqe + 1
      free := q.requester.free_swqe.length - 1 }) ∨
  (q'.requester.free_swqe = q.requester.free_swqe ∧
    q'.sendResult = { q.sendResult with send_cq := q.send_cq ++
      [{ wr_id := wr.wr_id, status := .WR_FLUSH_ERR, opcode := .ofWr wr.opcode }] })

/-- The work request is queued. A receive request that is flushed is refused as well. -/
def RecvDone (cfg : Config) (r : RecvResult) (wr : RecvWr) (r' : RecvResult) : Prop :=
  0 < r.free ∧ r' = { r with
    recv_wqe := r.recv_wqe ++ [recvWqeOf wr (recvOwn cfg wr)]
    nr_recv_wqe := r.nr_recv_wqe + 1
    free := r.free - 1 }

/-! ## The send queue -/

/-- The throttle counters are at their start. -/
def Qp.Unthrottled (q : Qp) : Prop :=
  q.requester.nr_contig_requests = 0 ∧ q.requester.nr_contig_read_acks = 0 ∧
    q.responder.nr_contig_read_acks = 0

instance decidableUnthrottled (q : Qp) : Decidable q.Unthrottled :=
  inferInstanceAs (Decidable (_ ∧ _))

theorem clearContig_eq_iff (q : Qp) : q.clearContig = q ↔ q.Unthrottled := by
  have hrequester : ∀ r : Requester, r.nr_contig_requests = 0 → r.nr_contig_read_acks = 0 →
      { r with nr_contig_requests := 0, nr_contig_read_acks := 0 } = r := by
    rintro ⟨⟩ rfl rfl
    rfl
  have hresponder : ∀ r : Responder, r.nr_contig_read_acks = 0 →
      { r with nr_contig_read_acks := 0 } = r := by
    rintro ⟨⟩ rfl
    rfl
  constructor
  · intro h
    exact ⟨(congrArg (·.requester.nr_contig_requests) h).symm,
      (congrArg (·.requester.nr_contig_read_acks) h).symm,
      (congrArg (·.responder.nr_contig_read_acks) h).symm⟩
  · rintro ⟨h1, h2, h3⟩
    rw [Qp.clearContig, hrequester _ h1 h2, hresponder _ h3]

theorem trace_sendSettle (now : Nat) (q : Qp) :
    (sendSettle now q).trace = if q.state = .RTS then q.trace.clearContig else q.trace := by
  unfold sendSettle getReadyToSend pibUtilRescheduleQp
  split
  · split <;> rfl
  · rfl

/-- The end of the call leaves a trace only where the throttle counters count. -/
theorem trace_sendSettle_iff {now : Nat} {q q' : Qp} (hq : q'.trace = q.trace)
    (hstate : q'.state = q.state) :
    (sendSettle now q').trace = q.trace ↔ (q.state = .RTS → q.Unthrottled) := by
  rw [trace_sendSettle, hq, hstate]
  by_cases hrts : q.state = .RTS
  · rw [if_pos hrts, clearContig_eq_iff]
    exact ⟨fun h _ => h, fun h => h hrts⟩
  · rw [if_neg hrts]
    exact iff_of_true rfl fun h => absurd h hrts

section Send

variable {cfg : Config} {finish : Qp → SendWr → SendWqe → SendWqe × Option Errno} {q : Qp}
  {wr : SendWr}

/-- The filling of an element keeps what it is and whose it is. -/
structure KeepsIdentity (finish : Qp → SendWr → SendWqe → SendWqe × Option Errno) : Prop where
  trace_id : ∀ q wr w, (finish q wr w).1.trace_id = w.trace_id
  wr_id : ∀ q wr w, (finish q wr w).1.wr_id = w.wr_id

theorem withInline_identity (copyFromUser : UserCopy) (q : Qp)
    (w : SendWqe) :
    (withInline copyFromUser q w).1.trace_id = w.trace_id ∧
      (withInline copyFromUser q w).1.wr_id = w.wr_id := by
  unfold withInline copyInlineData
  split
  · split
    · exact ⟨rfl, rfl⟩
    · split <;> exact ⟨rfl, rfl⟩
  · exact ⟨rfl, rfl⟩

theorem setWrParams_identity (w : SendWqe) (wr : SendWr) :
    (setWrParams w wr).trace_id = w.trace_id ∧ (setWrParams w wr).wr_id = w.wr_id := by
  unfold setWrParams
  split <;> exact ⟨rfl, rfl⟩

theorem keepsIdentity_fillRc (copyFromUser : UserCopy) :
    KeepsIdentity (fillRc copyFromUser) := by
  constructor
  all_goals
    intro q wr w
    have hinline := withInline_identity copyFromUser q w
    have hparams := setWrParams_identity (withInline copyFromUser q w).1 wr
    unfold fillRc
    split
  · exact hinline.1
  · exact hparams.1.trans hinline.1
  · exact hinline.2
  · exact hparams.2.trans hinline.2

theorem keepsIdentity_fillUd (cfg : Config) (copyFromUser : UserCopy)
    (ahs : Nat → Option Ah) : KeepsIdentity (fillUd cfg copyFromUser ahs) := by
  constructor
  all_goals
    intro q wr w
    have hinline := withInline_identity copyFromUser q w
    unfold fillUd
    split
  · exact hinline.1
  · split <;> exact hinline.1
  · exact hinline.2
  · split <;> exact hinline.2

theorem trace_overwrite {w : SendWqe} {free : List SendWqe} {f : SendWqe → SendWqe}
    (hw : q.requester.free_swqe = w :: free) (hf : (f w).trace_id = w.trace_id) :
    (q.overwrite f).trace = q.trace := by
  unfold Qp.trace Qp.overwrite
  simp [hw, hf]

/-- What one work request does to the send queue. -/
theorem sendStep_cases (hf : KeepsIdentity finish) :
    ((sendPoster cfg finish).step q 0 wr).2.2 ≠ none ∧
        ((sendPoster cfg finish).step q 0 wr).1.trace = q.trace ∨
      ((sendPoster cfg finish).step q 0 wr).2.2 = none ∧
        SendDone q wr ((sendPoster cfg finish).step q 0 wr).1 := by
  cases hb : sendBefore cfg q wr with
  | some r =>
    rw [Chain.Poster.step_before (p := sendPoster cfg finish) hb]
    unfold sendBefore at hb
    split at hb
    · cases hb
      exact Or.inl ⟨nofun, rfl⟩
    split at hb
    · cases hb
      exact Or.inr ⟨rfl, Or.inr ⟨rfl, rfl⟩⟩
    split at hb
    · cases hb
      exact Or.inl ⟨nofun, rfl⟩
    split at hb
    · cases hb
      exact Or.inl ⟨nofun, rfl⟩
    · cases hb
  | none =>
    obtain ⟨w, free, hw⟩ := List.exists_cons_of_ne_nil (sendBefore_none hb)
    by_cases hlong : (sendPoster cfg finish).max < (sendPoster cfg finish).add 0 wr
    · rw [Chain.Poster.step_long (p := sendPoster cfg finish) hb hlong]
      exact Or.inl ⟨nofun, trace_overwrite hw rfl⟩
    rw [Chain.Poster.step_after (p := sendPoster cfg finish) hb hlong,
      show (sendPoster cfg finish).after = sendAfter cfg finish from rfl, sendAfter_cons hw]
    generalize hfill : finish q wr (lengthSwqe cfg wr _ w) = r
    have htrace : r.1.trace_id = w.trace_id := by rw [← hfill, hf.trace_id]; rfl
    have hid : r.1.wr_id = wr.wr_id := by rw [← hfill, hf.wr_id]; rfl
    cases hr : r.2 with
    | some e =>
      exact Or.inl ⟨nofun, trace_overwrite hw htrace⟩
    | none =>
      refine Or.inr ⟨rfl, Or.inl ⟨r.1, free.map SendWqe.trace_id, hid, ?_, ?_, ?_⟩⟩
      · rw [hw, List.map_cons, htrace]
      · simp [Qp.submit, hw]
      · simp [Qp.sendResult, Qp.submit]

theorem sendDone_settle {now : Nat} {q' : Qp} (h : SendDone q wr q') :
    SendDone q wr (sendSettle now q') := by
  have hunsched := unsched_sendSettle now q'
  have hresult : (sendSettle now q').unsched.sendResult = q'.unsched.sendResult :=
    congrArg Qp.sendResult hunsched
  have hfree : (sendSettle now q').unsched.requester.free_swqe = q'.unsched.requester.free_swqe :=
    congrArg (·.requester.free_swqe) hunsched
  unfold SendDone
  rw [show (sendSettle now q').sendResult = q'.sendResult from hresult,
    show (sendSettle now q').requester.free_swqe = q'.requester.free_swqe from hfree]
  exact h

/-- Posting to a send queue leaves a trace only if the work request is refused while
the throttle counters count. -/
theorem send_traceless_iff {c : PostCall Qp SendWr SendResult} {now : Nat}
    (hc : c.Implements (sendPoster cfg finish) (sendSettle now) fun _ => True)
    (hf : KeepsIdentity finish) :
    Traceless c.post Qp.trace SendDone q wr ↔
      ((c.post q [wr]).2 ≠ none → q.state = .RTS → q.Unthrottled) := by
  have hsingle := hc.post_single wr (s := q) trivial
  have hstate := @sendStep_state q cfg finish 0 wr
  rw [traceless_iff hsingle, hsingle]
  rcases @sendStep_cases cfg finish q wr hf with ⟨hr, ht⟩ | ⟨hr, hd⟩
  · have hiff := @trace_sendSettle_iff now _ _ ht hstate
    exact ⟨fun h _ => hiff.1 (h.1 hr), fun h => ⟨fun _ => hiff.2 (h hr), fun hn => absurd hn hr⟩⟩
  · exact iff_of_true ⟨fun hne => absurd hr hne, fun _ => sendDone_settle hd⟩
      fun hne => absurd hr hne

end Send

/-! ## The receive queues -/

/-- The flush of a queue pair in the error state is reported twice. -/
def FlushedAndRefused (q : Qp) : Prop := q.srq = none ∧ q.state = .ERR

/-- The element of a shared receive queue is lost. -/
def Lost (cfg : Config) (max_sge : Nat) (srq : Srq) (wr : RecvWr) : Prop :=
  1 ≤ wr.sg_list.length ∧ wr.sg_list.length ≤ max_sge ∧ 0 < srq.free_recv_wqe ∧
    PIB_MAX_PAYLOAD_LEN < sgeTotal cfg wr.sg_list

/-- A receive queue of its own: a request is refused, and nothing has changed, or queued. -/
theorem recvStep_outcome (cfg : Config) (q : Qp) (wr : RecvWr) :
    ((recvPoster cfg).step q 0 wr).2.2 ≠ none ∧ ((recvPoster cfg).step q 0 wr).1 = q ∨
      ((recvPoster cfg).step q 0 wr).2.2 = none ∧
        RecvDone cfg q.recvResult wr ((recvPoster cfg).step q 0 wr).1.recvResult := by
  cases hb : (recvPoster cfg).before q wr with
  | some r =>
    rw [Chain.Poster.step_before hb]
    obtain ⟨h1, h2, -⟩ := recvPoster_before hb
    exact Or.inl ⟨h2, h1⟩
  | none =>
    have hfree : q.responder.free_rwqe ≠ 0 := by
      intro hfree
      simp only [recvPoster, if_pos hfree] at hb
      split at hb
      · cases hb
      split at hb <;> cases hb
    by_cases hlong : (recvPoster cfg).max < (recvPoster cfg).add 0 wr
    · rw [Chain.Poster.step_long hb hlong]
      exact Or.inl ⟨by simp, rfl⟩
    rw [Chain.Poster.step_after hb hlong]
    have hown : (recvPoster cfg).add 0 wr = recvOwn cfg wr := Nat.zero_add _
    refine Or.inr ⟨rfl, Nat.pos_of_ne_zero hfree, ?_⟩
    rw [hown]
    rfl

theorem recv_traceless_iff (cfg : Config) (q : Qp) (wr : RecvWr) :
    Traceless (pibPostRecv cfg) Qp.trace
        (fun q wr q' => RecvDone cfg q.recvResult wr q'.recvResult) q wr ↔ ¬FlushedAndRefused q := by
  by_cases htakes : q.TakesRecv
  · have hsingle : pibPostRecv cfg q [wr] = _ := (recv_implements cfg).post_single wr htakes
    rw [traceless_iff hsingle]
    refine iff_of_true ?_ fun h => htakes.2 h.2
    rcases recvStep_outcome cfg q wr with ⟨hr, hq⟩ | ⟨hr, hd⟩
    · exact ⟨fun _ => congrArg Qp.trace hq, fun hnone => absurd hnone hr⟩
    · exact ⟨fun hne => absurd hr hne, fun _ => hd⟩
  · have hne := (@recv_bad_wr_of_not_takes cfg q htakes wr []).1
    by_cases hsrq : q.srq = none
    · have hstate : q.state = .ERR := by
        by_contra herr
        exact htakes ⟨hsrq, herr⟩
      refine iff_of_false (fun h => ?_) (not_not_intro ⟨hsrq, hstate⟩)
      -- the completion is there, and the call has failed
      have hcq := congrArg (fun q : Qp => q.recv_cq.length) (h.refused hne)
      have hpost : (pibPostRecv cfg q [wr]).1 = q.insertRecvError wr.wr_id .WR_FLUSH_ERR .RECV := by
        rw [pibPostRecv, if_neg (by simp [hsrq]), postRecvLoop, hstate]
        rfl
      rw [hpost] at hcq
      simp [Qp.trace, Qp.insertRecvError] at hcq
    · have hpost : pibPostRecv cfg q [wr] = (q, some .EINVAL) :=
        if_pos (Or.inr (Option.isSome_iff_ne_none.mpr hsrq))
      rw [traceless_iff hpost]
      exact iff_of_true ⟨fun _ => rfl, by simp⟩ fun h => hsrq h.1

theorem srq_traceless_iff (cfg : Config) (max_sge : Nat) (srq : Srq) (wr : RecvWr) :
    Traceless (pibPostSrqRecv cfg max_sge) id
        (fun srq wr srq' => RecvDone cfg srq.recvResult wr srq'.recvResult) srq wr ↔
      ¬Lost cfg max_sge srq wr := by
  have hsingle : pibPostSrqRecv cfg max_sge srq [wr] = _ :=
    (srqRecv_implements cfg max_sge).post_single wr trivial
  rw [srqStep_eq, Nat.zero_add] at hsingle
  rw [traceless_iff hsingle]
  by_cases hsge : wr.sg_list.length < 1 ∨ max_sge < wr.sg_list.length
  · simp only [if_pos hsge]
    exact iff_of_true ⟨fun _ => rfl, nofun⟩ fun h => by have := h.1; have := h.2.1; omega
  simp only [if_neg hsge]
  by_cases hfree : srq.free_recv_wqe = 0
  · simp only [if_pos hfree]
    exact iff_of_true ⟨fun _ => rfl, nofun⟩ fun h => absurd hfree h.2.2.1.ne'
  simp only [if_neg hfree]
  by_cases hlong : PIB_MAX_PAYLOAD_LEN < recvOwn cfg wr
  · simp only [if_pos hlong]
    have hlost : Lost cfg max_sge srq wr := ⟨by omega, by omega, by omega, hlong⟩
    refine iff_of_false (fun h => ?_) (not_not_intro hlost)
    have hless : srq.free_recv_wqe - 1 = srq.free_recv_wqe :=
      congrArg Srq.free_recv_wqe (h.1 nofun)
    omega
  · simp only [if_neg hlong]
    exact iff_of_true ⟨nofun, fun _ => ⟨Nat.pos_of_ne_zero hfree, rfl⟩⟩ fun h => hlong h.2.2.2

/-! ## Refused work requests -/

/-- Posting one work request leaves no trace when it is refused, and queues or flushes
it once when it is not, exactly in these cases: to a send queue, unless the refusal comes
in RTS with a throttle counter that is not zero; to a receive queue, unless the queue pair
is in the error state; to a shared receive queue, unless the work request is too long. -/
theorem refused_post_traceless_iff (cfg : Config) (copyFromUser : Nat → Nat → Option (List UInt8))
    (now : Nat) (ahs : Nat → Option Ah) (max_sge : Nat) :
    (∀ q wr, Traceless (pibPostSend cfg copyFromUser now) Qp.trace SendDone q wr ↔
      ((pibPostSend cfg copyFromUser now q [wr]).2 ≠ none → q.state = .RTS → q.Unthrottled)) ∧
    (∀ q wr, Traceless (pibPostUdSend cfg copyFromUser now ahs) Qp.trace SendDone q wr ↔
      ((pibPostUdSend cfg copyFromUser now ahs q [wr]).2 ≠ none → q.state = .RTS →
        q.Unthrottled)) ∧
    (∀ q wr, Traceless (pibPostRecv cfg) Qp.trace
        (fun q wr q' => RecvDone cfg q.recvResult wr q'.recvResult) q wr ↔
      ¬FlushedAndRefused q) ∧
    (∀ srq wr, Traceless (pibPostSrqRecv cfg max_sge) id
        (fun srq wr srq' => RecvDone cfg srq.recvResult wr srq'.recvResult) srq wr ↔
      ¬Lost cfg max_sge srq wr) :=
  ⟨fun _ _ => send_traceless_iff (rcSend_implements cfg copyFromUser now)
      (keepsIdentity_fillRc copyFromUser),
    fun _ _ => send_traceless_iff (udSend_implements cfg copyFromUser now ahs)
      (keepsIdentity_fillUd cfg copyFromUser ahs),
    recv_traceless_iff cfg, srq_traceless_iff cfg max_sge⟩

/-- A shared receive queue with one element. -/
def oneElement : Srq := { free_recv_wqe := 1 }

/-- One byte more than a message may have. -/
def tooLongRecv : RecvWr :=
  { wr_id := 1, sg_list := [{ addr := 0, length := PIB_MAX_PAYLOAD_LEN + 1, lkey := 0 }] }

def fourBytes : RecvWr := { wr_id := 2, sg_list := [{ addr := 0, length := 4, lkey := 0 }] }

/-- After one refused work request the shared receive queue takes no other, and the
refused work request of the queue pair has a completion. -/
theorem refused_post_traces :
    pibPostSrqRecv {} 1 oneElement [tooLongRecv] = ({ free_recv_wqe := 0 }, some .EMSGSIZE) ∧
      (pibPostSrqRecv {} 1 oneElement [fourBytes]).2 = none ∧
      (pibPostSrqRecv {} 1 (pibPostSrqRecv {} 1 oneElement [tooLongRecv]).1 [fourBytes]).2 =
        some .ENOMEM ∧
      (pibPostRecv {} { state := .ERR } [fourBytes]).2 = some .EPERM ∧
      (pibPostRecv {} { state := .ERR } [fourBytes]).1.recv_cq =
        [({ wr_id := 2, status := .WR_FLUSH_ERR, opcode := .RECV }, true)] := by
  decide

end pib
