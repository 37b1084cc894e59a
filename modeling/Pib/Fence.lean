-- The fence: an element with `IB_SEND_FENCE` is in flight only when no RDMA
-- READ or atomic request is in flight before it. The test is made once, with
-- a counter, and holds for good because the elements in flight never change
-- their order and the counter never falls behind them.
import Pib.FlightOrder

namespace pib

open Bytes

variable (cfg : Config) (now : Nat) {as : List SendWr} {q : Qp} {w : SendWqe} {m n : Node}
    {p : RcPacket}

variable {c : Ctx} {s s' s'' : SendQ} {a : Option SendWr}

/-! ## What a step does to the elements in flight -/

def Label.rdAtomic (l : Label) : Bool := pibIsWrOpcodeRdAtomic l.opcode

/-- No fenced element comes after an RDMA READ or atomic request. -/
def Fenced (ls : List Label) : Prop := ls.Pairwise fun l m => m.fence = true → l.rdAtomic = false

/-- How many RDMA READ and atomic requests are in flight. -/
def SendQ.rdAtomics (s : SendQ) : Nat := (labels s.flight).countP Label.rdAtomic

theorem rdAtomics_eq (s : SendQ) : s.rdAtomics = s.flight.countP SendWqe.isRdAtomic := by
  unfold SendQ.rdAtomics labels
  rw [List.countP_map]
  rfl

/-! ## The laws -/

/-- The fence holds, and the counter is not behind the requests in flight. -/
structure FenceInv (s : SendQ) : Prop where
  fenced : Fenced (labels s.flight)
  excess : 0 ≤ s.excess

theorem FenceInv.empty (hf : s.flight = []) (hn : 0 ≤ s.nr_rd_atomic) : FenceInv s := by
  refine ⟨?_, ?_⟩
  · rw [hf]
    exact List.Pairwise.nil
  · simpa [SendQ.excess, hf] using hn

theorem FenceInv.of_same (h : FenceInv s) (hf : s'.flight = s.flight)
    (hn : s'.nr_rd_atomic = s.nr_rd_atomic) : FenceInv s' :=
  ⟨hf ▸ h.fenced, by rw [SendQ.excess, hf, hn]; exact h.excess⟩

/-- With the counter at zero no RDMA READ or atomic request is in flight. -/
theorem FenceInv.none_of_zero (h : FenceInv s) (hz : s.nr_rd_atomic ≤ 0) {l : Label}
    (hl : l ∈ labels s.flight) : l.rdAtomic = false := by
  have hx := h.excess
  rw [SendQ.excess, ← rdAtomics_eq] at hx
  have hcount : s.rdAtomics = 0 := by omega
  have hnone := List.countP_eq_zero.mp hcount l hl
  simpa using hnone

theorem fenceInv_move (h : Move c s a s') (hi : FenceInv s) : FenceInv s' := by
  have hx : 0 ≤ s'.excess := by
    rcases excess_move h with he | he
    · exact he ▸ hi.excess
    · exact he.ge
  refine ⟨?_, hx⟩
  have hfenced := hi.fenced
  cases flight_move h with
  | stay hf =>
    rw [labels, map_of_part label_fixed hf]
    exact hfenced
  | drop hh =>
    rw [(completeHead_frame hh _).1, labels_cons] at hfenced
    exact hfenced.tail
  | clear => exact List.Pairwise.nil
  | start hs hsub hcq hf hw hall hpsns hr he hnr hrd =>
    rename_i w w' all
    rw [hf, labels_append]
    refine List.pairwise_append.mpr ⟨hfenced, List.pairwise_singleton _ _, ?_⟩
    rintro k hk m hm hfence
    obtain rfl : m = w'.label := by simpa [labels] using hm
    have hfence : w'.send_flags.FENCE = true := hfence
    rw [hw] at hfence
    exact hi.none_of_zero (hrd.2 hfence) hk

theorem bounded_move (h : Move c s a s') (hi : FenceInv s) (hb : s.rdAtomics ≤ s.max_rd_atomic) :
    s'.rdAtomics ≤ s'.max_rd_atomic := by
  rw [(sameAttrs_move h).max_rd_atomic]
  rw [rdAtomics_eq] at hb ⊢
  cases flight_move h with
  | stay hf =>
    rw [countP_of_map (map_of_part isRdAtomic_fixed hf)]
    exact hb
  | drop hh =>
    rename_i w f
    rw [(completeHead_frame hh f).1, List.countP_cons] at hb
    omega
  | clear => exact Nat.zero_le _
  | start hs hsub hcq hf hw hall hpsns hr he hnr hrd =>
    rename_i w w' all
    rw [hf, List.countP_append, List.countP_singleton]
    split
    · rename_i hop
      rw [hw] at hop
      have hlt := hrd.1 hop
      have hx := hi.excess
      rw [SendQ.excess] at hx
      omega
    · exact hb

/-- A request that is taken for a local one leaves the counter too high. -/
theorem fenceInv_localDone {ws : List SendWqe} (hw : s.waiting = w :: ws) (h : LocalDone s ws s')
    (hi : FenceInv s) : FenceInv s' ∧ s'.rdAtomics ≤ s.rdAtomics ∧ s'.max_rd_atomic = s.max_rd_atomic := by
  obtain ⟨hfenced, hx⟩ := hi
  cases h with
  | retired f hf =>
    simp only [SendQ.flight, hw, List.cons_append, labels_cons] at hfenced
    simp only [SendQ.excess, SendQ.flight, hw, List.cons_append, List.countP_cons] at hx
    refine ⟨⟨hfenced.tail, ?_⟩, ?_, rfl⟩
    · simp only [SendQ.excess, SendQ.flight]
      omega
    · simp only [rdAtomics_eq, SendQ.flight, hw, List.cons_append, List.countP_cons]
      omega
  | failed free nr_waiting cq hf =>
    exact ⟨FenceInv.empty rfl (le_refl 0), Nat.zero_le _, rfl⟩

variable {ibModifyQpIsOk : QpState → QpState → AttrMask → Bool}

/-- Whatever the caller says about the state. -/
theorem fenceInv_modify (attr : ModifyAttr) (mask : AttrMask)
    (h : FenceInv q.sendQ) : FenceInv (pibModifyQp cfg ibModifyQpIsOk now q attr mask).1.sendQ :=
  law_modify cfg now ibModifyQpIsOk h (h.of_same rfl rfl) (fun hs => hs.of_same rfl rfl)
    fun hc => FenceInv.empty hc.flight hc.nr_rd_atomic.ge

theorem fenceInv_step (n : Node) (x : Nat × Act) (h : FenceInv n.qp.sendQ) :
    FenceInv (step cfg ibModifyQpIsOk n x).qp.sendQ :=
  law_step fenceInv_move (fun hw hd hi => (fenceInv_localDone hw hd hi).1) cfg ibModifyQpIsOk
    (fun attr mask _ => fenceInv_modify cfg x.1 attr mask h) h

/-! ## The order of posting -/

/-- The queue, from the first element in flight to the last one posted. -/
def SendQ.queue (s : SendQ) : List Label := labels (s.flight ++ s.submitted)

theorem Advances.queue (h : Advances s s') : s'.queue.Sublist s.queue := by
  unfold SendQ.queue
  rcases h with ⟨-, hf, hsub⟩ | ⟨-, started, hsub, -, hsuf⟩
  · rw [hf, hsub]
    exact List.nil_sublist _
  · rw [hsub, ← List.append_assoc, labels_append, labels_append]
    exact hsuf.sublist.append_right _

theorem queue_move (h : Move c s a s') :
    s'.queue.Sublist (s.queue ++ a.toList.map SendWr.label) := by
  cases a with
  | none =>
    rw [Option.toList_none, List.map_nil, List.append_nil]
    exact (advances_move h).queue
  | some wr =>
    cases h with
    | post wr hs h hid hlocal hwr hst hlen =>
      rename_i f w fs
      obtain ⟨h1, h2, h3⟩ := hwr
      have hw : w.label = wr.label := by rw [SendWqe.label, SendWr.label, h1, h2, h3]
      have hq : s.queue ++ [w.label] = labels (s.flight ++ (s.submitted ++ [w])) := by
        simp [SendQ.queue]
      rw [Option.toList_some, List.map_singleton, ← hw, hq]
      exact List.Sublist.refl _
    | postFlushed wr hs => exact List.sublist_append_left _ _

theorem queue_moves (h : Moves c s as s') : s'.queue.Sublist (s.queue ++ as.map SendWr.label) := by
  induction h with
  | refl s =>
    rw [List.map_nil, List.append_nil]
  | step hm _ ih =>
    rw [List.map_append, ← List.append_assoc]
    exact ih.trans ((queue_move hm).append_right _)

theorem queue_modify (q : Qp) (attr : ModifyAttr) (mask : AttrMask) :
    (pibModifyQp cfg ibModifyQpIsOk now q attr mask).1.sendQ.queue.Sublist q.sendQ.queue := by
  refine law_modify (I := fun s => s.queue.Sublist q.sendQ.queue) cfg now ibModifyQpIsOk
    (List.Sublist.refl _) (List.Sublist.refl _) id fun hc => ?_
  rw [SendQ.queue, hc.flight, hc.submitted]
  exact List.nil_sublist _

theorem queue_step (n : Node) (x : Nat × Act) :
    (step cfg ibModifyQpIsOk n x).qp.sendQ.queue.Sublist
      (n.qp.sendQ.queue ++ (x.2.accepted cfg n.qp).map SendWr.label) := by
  obtain ⟨now, a⟩ := x
  rcases step_cases cfg ibModifyQpIsOk n now a with ⟨copyFromUser, wrs, rfl⟩ | ⟨attr, mask, rfl⟩ |
    hm | ⟨w, ws, hw, hd⟩
  · exact queue_moves (moves_step cfg ibModifyQpIsOk n now _ (by simp) (by simp))
  · exact (queue_modify cfg now n.qp attr mask).trans (List.sublist_append_left _ _)
  · exact (advances_moves hm rfl).queue.trans (List.sublist_append_left _ _)
  · exact (advances_localDone hw hd).queue.trans (List.sublist_append_left _ _)

/-! ## The bound -/

/-- The verbs layer lets the bound of RDMA READ and atomic requests be set
from RTR to RTS and in SQD only. -/
def RdAtomicTable (ibModifyQpIsOk : QpState → QpState → AttrMask → Bool) : Prop :=
  ∀ {cur new mask}, ibModifyQpIsOk cur new mask = true → mask.MAX_QP_RD_ATOMIC = true →
    (cur = .RTR ∧ new = .RTS) ∨ (cur = .SQD ∧ new = .SQD)

/-- A call that changes something has been accepted by the verbs layer, and
does not keep the queue pair in SQD with something in flight. -/
theorem modify_accepted {attr : ModifyAttr} {mask : AttrMask}
    (h : (pibModifyQp cfg ibModifyQpIsOk now q attr mask).1 ≠ q) :
    ∃ new, ibModifyQpIsOk (curState q attr mask) new mask = true ∧
      (curState q attr mask = .SQD → new = .SQD → q.Quiet) := by
  unfold pibModifyQp at h
  dsimp only at h
  rw [show (if mask.CUR_STATE then attr.cur_qp_state else q.state) = curState q attr mask
    from rfl] at h
  generalize (if mask.STATE = true then attr.qp_state else curState q attr mask) = new at h
  refine ⟨new, ?_, fun hs hn => ?_⟩
  · by_contra hno
    have hno : ibModifyQpIsOk (curState q attr mask) new mask = false := by simpa using hno
    rw [if_pos hno] at h
    split at h <;> exact h rfl
  · by_contra hbusy
    rw [if_pos ⟨hs, Or.inl hn, decide_eq_false hbusy⟩] at h
    exact h rfl

/-- The bound is changed only when nothing is in flight. -/
theorem bounded_modify (hrd : RdAtomicTable ibModifyQpIsOk) (cfg : Config) (now : Nat)
    {attr : ModifyAttr} {mask : AttrMask} (hname : NamesState q.state attr mask)
    (hc : PsnChain q.sendQ) (hb : q.sendQ.rdAtomics ≤ q.sendQ.max_rd_atomic) :
    (pibModifyQp cfg ibModifyQpIsOk now q attr mask).1.sendQ.rdAtomics ≤
      (pibModifyQp cfg ibModifyQpIsOk now q attr mask).1.sendQ.max_rd_atomic := by
  have hcur : curState q attr mask = q.state := by
    unfold curState
    split
    · exact hname ‹_›
    · rfl
  by_cases hsame : (pibModifyQp cfg ibModifyQpIsOk now q attr mask).1 = q
  · rw [hsame]
    exact hb
  -- the attributes are set, so the verbs layer has agreed and nothing is in flight in SQD
  have hset : (setAttrs cfg q attr mask).sendQ.rdAtomics ≤
      (setAttrs cfg q attr mask).sendQ.max_rd_atomic := by
    cases hm : mask.MAX_QP_RD_ATOMIC with
    | false =>
      have hmax : (setAttrs cfg q attr mask).sendQ.max_rd_atomic = q.sendQ.max_rd_atomic := by
        simp [setAttrs, Qp.sendQ, hm]
      rw [hmax]
      exact hb
    | true =>
      have hidle : q.sendQ.flight = [] := by
        obtain ⟨new, hagree, hquiet⟩ := modify_accepted cfg now hsame
        rcases hrd hagree hm with ⟨hs, -⟩ | ⟨hs, hn⟩
        · have hs : q.sendQ.state = .RTR := hcur.symm.trans hs
          exact hc.idle (by rw [hs]; decide) (by rw [hs]; decide)
        · exact List.append_eq_nil_iff.mpr (hquiet hs hn).symm
      have hflight : (setAttrs cfg q attr mask).sendQ.flight = q.sendQ.flight := rfl
      rw [SendQ.rdAtomics, hflight, hidle]
      exact Nat.zero_le _
  refine law_modify (I := fun s => s.rdAtomics ≤ s.max_rd_atomic) cfg now ibModifyQpIsOk hb hset id
    fun hc => ?_
  rw [SendQ.rdAtomics, hc.flight]
  exact Nat.zero_le _

/-! ## The packets that go out -/

/-- The packet is put together from the element, with the memory and the attributes of
the node. -/
def BuiltFrom (m : Node) (p : RcPacket) (w : SendWqe) : Prop :=
  ∃ n : Node, n.qp.attr = m.qp.attr ∧ n.pd = m.pd ∧ n.mem = m.mem ∧
    buildRequest n w = (.SUCCESS, some p)

theorem send_buffer_localOnly (n : Node) (w : SendWqe) :
    (pibProcessLocalOnlyRequest n w).1.send_buffer = n.send_buffer := by
  unfold pibProcessLocalOnlyRequest
  split
  · rfl
  · split <;> rfl

theorem built_process
    (hn : n.send_buffer = none) (h : (pibProcessRcQpRequest cfg now n w).1.send_buffer = some p) :
    BuiltFrom n p w ∧ w.local_only_request = false ∧ 0 ≤ w.processing.rnr_retry := by
  have hlocal := send_buffer_localOnly n w
  have hr := processRcQpRequest_cases cfg now n w
  generalize pibProcessRcQpRequest cfg now n w = r at h hr
  cases hr with
  | ran _ _ he | failed _ _ he =>
    rw [he] at hlocal
    exact nomatch (hn.symm.trans hlocal.symm).trans h
  | later | exhausted => exact nomatch hn.symm.trans h
  | unbuilt => exact nomatch (hn.symm.trans (n.written_send_buffer w).symm).trans h
  | sent hl hretry hb =>
    obtain rfl := Option.some.inj h
    exact ⟨⟨n, rfl, rfl, rfl, hb⟩, hl, not_lt.mp (not_or.mp hretry).2⟩

/-- A packet of an element that is due goes out: its next one, and RNR NAKs have
not used up its retries. -/
structure IsSentNow (now : Nat) (m : Node) (p : RcPacket) (w : SendWqe) : Prop where
  built : BuiltFrom m p w
  wire : w.local_only_request = false
  due : w.processing.schedule_time ≤ now
  rnr : 0 ≤ w.processing.rnr_retry

theorem IsSentNow.next {now : Nat} (h : IsSentNow now m p w) : IsNextPacket p w := by
  obtain ⟨n, -, -, -, hbuild⟩ := h.built
  have hbuilt := built_buildRequest n w
  rw [hbuild] at hbuilt
  cases hbuilt with
  | packet hp => exact hp

theorem isSentNow_sendingHead
    (hn : n.send_buffer = none) (h : (processSendingHead cfg now n).send_buffer = some p) :
    ∃ w ws, n.qp.requester.sending_swqe = w :: ws ∧ IsSentNow now n p w := by
  unfold processSendingHead at h
  split at h
  · exact nomatch hn.symm.trans h
  rename_i w ws hw
  refine ⟨w, ws, hw, ?_⟩
  split at h
  · exact nomatch hn.symm.trans h
  split at h
  · exact nomatch hn.symm.trans h
  split at h
  · exact nomatch hn.symm.trans h
  rename_i hdue
  unfold processSendWr at h
  split at h
  · exact nomatch hn.symm.trans h
  split at h
  · exact nomatch hn.symm.trans h
  have hbuilt := built_process cfg now (p := p)
    (n := n.setQp (n.qp.setInFlight .sending (w.setSchedule now :: ws) 0)) (w := w.setSchedule now) hn
  generalize pibProcessRcQpRequest cfg now _ _ = r at h hbuilt
  obtain ⟨n', w'⟩ := r
  dsimp only at h hbuilt
  have hsent : n'.send_buffer = some p := by split at h <;> exact h
  obtain ⟨⟨m, hattr, hpd, hmem, hp⟩, hwire, hrnr⟩ := hbuilt hsent
  exact ⟨⟨m, hattr, hpd, hmem, hp⟩, hwire, Nat.le_of_not_lt hdue, hrnr⟩

theorem acknowledge_sent (hn : n.send_buffer = none)
    (h : (pibGenerateRcQpAcknowledge n).1.send_buffer = some p) :
    pibOpcodeIsAcknowledge p.opcode = some true := by
  have hnormal : ∀ ack, pibOpcodeIsAcknowledge (normalOrAtomicPacket ack).opcode = some true := by
    intro ack
    unfold normalOrAtomicPacket
    split <;> rfl
  have hread : ∀ ack acks, (generateRdmaReadResponse n ack acks).send_buffer = some p →
      pibOpcodeIsAcknowledge p.opcode = some true := by
    intro ack acks h
    unfold generateRdmaReadResponse at h
    split at h
    · obtain rfl := Option.some.inj h
      have hop : ∀ psn_offset, pibOpcodeIsAcknowledge (readResponseOpcode ack psn_offset) = some true := by
        intro psn_offset
        unfold readResponseOpcode
        split
        · rfl
        split
        · rfl
        split <;> rfl
      exact hop _
    · exact nomatch hn.symm.trans h
  unfold pibGenerateRcQpAcknowledge at h
  split at h
  · exact nomatch hn.symm.trans h
  split at h
  · exact nomatch hn.symm.trans h
  split at h
  · obtain rfl := Option.some.inj h
    exact hnormal _
  · obtain rfl := Option.some.inj h
    exact hnormal _
  split at h
  · exact nomatch hn.symm.trans h
  dsimp only at h
  split at h
  · exact hread _ _ h
  split at h <;> exact hread _ _ h

theorem turn_moves {now : Nat} (h : sendingTurn now n = some m) :
    Moves (Ctx.any now) n.qp.sendQ [] m.qp.sendQ := moves_turn (turn_of_some h).2

/-- A request packet that the scheduler sends is the next one of the element
that is up. -/
theorem requester_sends
    (hn : n.send_buffer = none) (h : (processRequester cfg now n).send_buffer = some p) :
    ∃ m w ws, sendingTurn now n = some m ∧ m.qp.requester.sending_swqe = w :: ws ∧
      IsSentNow now m p w := by
  have hr := processRequester_cases cfg now n
  generalize processRequester cfg now n = n', sendingTurn now n = o at h hr ⊢
  cases hr with
  | idle => exact nomatch hn.symm.trans h
  | @localHead w ws _ hw hl =>
    have hsettle : ∀ r : Node × SendWqe × Bool, (settleLocal now ws r).send_buffer =
        r.1.send_buffer := by
      rintro ⟨n', w', ok⟩
      cases ok <;> rfl
    unfold processLocalOnlyHead at h
    rw [hsettle] at h
    split at h
    · exact nomatch hn.symm.trans h
    · exact nomatch (hn.symm.trans (send_buffer_localOnly n w).symm).trans h
  | @turn m _ _ ht =>
    have hm : m.send_buffer = none := by cases ht <;> exact hn
    obtain ⟨w, ws, hw, hp⟩ := isSentNow_sendingHead cfg now hm h
    exact ⟨m, w, ws, rfl, hw, hp⟩

theorem scheduler_sends
    (hn : n.send_buffer = none) (h : (processOnQpScheduler cfg now n).send_buffer = some p)
    (hreq : pibOpcodeIsAcknowledge p.opcode ≠ some true) :
    ∃ m w ws, sendingTurn now n = some m ∧ m.qp.requester.sending_swqe = w :: ws ∧
      IsSentNow now m p w := by
  obtain ⟨n', he, hr⟩ := scheduler_cases cfg now n
  rw [he] at h
  rcases hr with hr | ⟨-, rfl⟩
  · exact absurd (acknowledge_sent hn (by rw [hr]; exact h)) hreq
  · exact requester_sends cfg now hn h

/-! ## Runs -/

/-- A step of the node, with the work requests that it accepts noted in their
order. -/
def noted (cfg : Config) (ibModifyQpIsOk : QpState → QpState → AttrMask → Bool)
    (s : Node × List Label) (x : Nat × Act) : Node × List Label :=
  (step cfg ibModifyQpIsOk s.1 x, s.2 ++ (x.2.accepted cfg s.1.qp).map SendWr.label)

/-- What holds of the elements in flight in every reached state. -/
structure FenceLaw (s : Node × List Label) : Prop where
  posted : s.1.qp.sendQ.queue.Sublist s.2
  inv : FenceInv s.1.qp.sendQ

theorem fenceLaw_step (s : Node × List Label) (x : Nat × Act) (h : FenceLaw s) :
    FenceLaw (noted cfg ibModifyQpIsOk s x) :=
  ⟨(queue_step cfg s.1 x).trans (h.posted.append_right _), fenceInv_step cfg s.1 x h.inv⟩

structure BoundLaw (s : Node × List Label) : Prop where
  chain : PsnChain s.1.qp.sendQ
  inv : FenceInv s.1.qp.sendQ
  bound : s.1.qp.sendQ.rdAtomics ≤ s.1.qp.sendQ.max_rd_atomic

theorem boundLaw_step (hok : IbTable ibModifyQpIsOk) (hrd : RdAtomicTable ibModifyQpIsOk)
    (cfg : Config) (s : Node × List Label) (x : Nat × Act) (h : BoundLaw s) (hx : Truthful s.1 x) :
    BoundLaw (noted cfg ibModifyQpIsOk s x) := by
  have hb := law_step (I := fun s => FenceInv s ∧ s.rdAtomics ≤ s.max_rd_atomic)
    (fun hm hi => ⟨fenceInv_move hm hi.1, bounded_move hm hi.1 hi.2⟩)
    (fun hw hd hi => by
      obtain ⟨hinv, hle, hmax⟩ := fenceInv_localDone hw hd hi.1
      exact ⟨hinv, hmax ▸ hle.trans hi.2⟩) cfg ibModifyQpIsOk
    (fun attr mask he => ⟨fenceInv_modify cfg x.1 attr mask h.inv,
      bounded_modify hrd cfg x.1 (hx attr mask he) h.chain h.bound⟩) ⟨h.inv, h.bound⟩
  exact ⟨psnChain_step hok cfg hx h.chain, hb.1, hb.2⟩

theorem laws_created (init_attr : QpInitAttr) (srq : Option Srq) (pd : Pd) (mem : Mem) :
    FenceLaw (created cfg init_attr srq pd mem, []) ∧ BoundLaw (created cfg init_attr srq pd mem, []) := by
  have hinv : FenceInv (created cfg init_attr srq pd mem).qp.sendQ := FenceInv.empty rfl (le_refl 0)
  exact ⟨⟨List.Sublist.refl _, hinv⟩, ⟨PsnChain.empty rfl, hinv, Nat.zero_le _⟩⟩

/-- In every run the queue is in the order of posting, and no fenced element
is in flight, nor has a packet sent, with an RDMA READ or atomic request posted
before it still in flight. As long as the calls of `pib_modify_qp` name the
actual state no more of them are in flight than the bound allows. -/
theorem fence_ordering (hok : IbTable ibModifyQpIsOk) (hrd : RdAtomicTable ibModifyQpIsOk)
    (cfg : Config) (init_attr : QpInitAttr) (srq : Option Srq) (pd : Pd) (mem : Mem)
    (xs : List (Nat × Act)) :
    let start := (created cfg init_attr srq pd mem, [])
    let s := Run.run (noted cfg ibModifyQpIsOk) start xs
    (s.1.qp.sendQ.queue.Sublist s.2 ∧
      s.1.qp.flight.Pairwise fun v w => w.send_flags.FENCE = true → v.isRdAtomic = false) ∧
    (∀ now p, (step cfg ibModifyQpIsOk s.1 (now, .schedule)).send_buffer = some p →
      pibOpcodeIsAcknowledge p.opcode ≠ some true →
      ∃ m w ws, sendingTurn now { s.1 with send_buffer := none } = some m ∧
        m.qp.requester.sending_swqe = w :: ws ∧ IsNextPacket p w ∧
        (w.send_flags.FENCE = true → ∀ v ∈ m.qp.requester.waiting_swqe, v.isRdAtomic = false)) ∧
    (Run.Meets (noted cfg ibModifyQpIsOk) (fun s x => Truthful s.1 x) start xs →
      s.1.qp.flight.countP SendWqe.isRdAtomic ≤ s.1.qp.requester.max_rd_atomic) := by
  obtain ⟨hfence, hbound⟩ := laws_created cfg init_attr srq pd mem
  dsimp only
  have hlaw := Run.always (@fenceLaw_step cfg ibModifyQpIsOk) hfence xs
  refine ⟨⟨hlaw.posted, List.pairwise_map.mp hlaw.inv.fenced⟩, fun now p hsent hreq => ?_,
    fun hm => ?_⟩
  · obtain ⟨m, w, ws, hturn, hw, hp⟩ := scheduler_sends cfg now rfl hsent hreq
    refine ⟨m, w, ws, hturn, hw, hp.next, fun hf v hv => ?_⟩
    have hpair := List.pairwise_map.mp ((turn_moves hturn).keep fenceInv_move hlaw.inv).fenced
    have hsplit : m.qp.sendQ.flight = m.qp.requester.waiting_swqe ++ w :: ws := by
      rw [← hw]
      rfl
    rw [hsplit] at hpair
    exact (List.pairwise_append.mp hpair).2.2 v hv w List.mem_cons_self hf
  · have hb := Run.invariant (boundLaw_step hok hrd cfg) hbound hm
    exact (rdAtomics_eq _).ge.trans hb.bound

/-- A check that follows the state table, and knows when the PSN and the bound
of RDMA READ and atomic requests may be set. -/
def ibRdTable (cur new : QpState) (mask : AttrMask) : Bool :=
  ibStateTable cur new mask && (!mask.MAX_QP_RD_ATOMIC ||
    (decide (cur = .RTR) && decide (new = .RTS)) || (decide (cur = .SQD) && decide (new = .SQD)))

theorem ibTable_ibRdTable : IbTable ibRdTable ∧ RdAtomicTable ibRdTable := by
  have hstate : ∀ {cur new mask}, ibRdTable cur new mask = true →
      ibStateTable cur new mask = true := by
    intro cur new mask h
    simp only [ibRdTable, Bool.and_eq_true] at h
    exact h.1
  refine ⟨⟨fun h => ibTable_ibStateTable.transition (hstate h),
    fun h => ibTable_ibStateTable.sq_psn (hstate h)⟩, fun h hm => ?_⟩
  simp only [ibRdTable, Bool.and_eq_true] at h
  simpa [hm] using h.2

/-- An RDMA READ is sent, and a fenced SEND posted behind it. -/
def fenceRun : List (Nat × Act) :=
  readRun ++ [(3, .postSend (fun _ _ => none)
      [{ wr_id := 10, opcode := .SEND, send_flags := { FENCE := true }
         sg_list := [{ addr := 0, length := 0, lkey := 0 }] }]), (4, .schedule)]

theorem fence_ordering_fenceRun :
    let start := (created {} {} none ⟨0, fun _ => none⟩ fun _ => 0, [])
    let s := Run.run (noted {} ibRdTable) start fenceRun
    (s.1.qp.flight.map SendWqe.wr_id, s.1.qp.requester.submitted_swqe.map SendWqe.wr_id) = ([9], [10]) ∧
      s.1.qp.flight.countP SendWqe.isRdAtomic ≤ s.1.qp.requester.max_rd_atomic := by
  refine ⟨by decide, (fence_ordering ibTable_ibRdTable.1 ibTable_ibRdTable.2 {} {} none
    ⟨0, fun _ => none⟩ (fun _ => 0) fenceRun).2.2 ?_⟩
  refine ⟨?_, ?_, ?_, ?_, ?_, ?_, ?_, trivial⟩
  case refine_1 | refine_2 | refine_3 => exact truthful_unnamed _ _ _ rfl
  all_goals exact fun _ _ h => nomatch h

/-- With an RDMA READ in flight the caller names RTR, and the bound is set to
zero. -/
def lowerRun : List (Nat × Act) :=
  readRun ++ [(3, .modify { qp_state := .RTS, cur_qp_state := .RTR, max_rd_atomic := 0 }
      { STATE := true, CUR_STATE := true, TIMEOUT := true, RETRY_CNT := true, RNR_RETRY := true
        SQ_PSN := true, MAX_QP_RD_ATOMIC := true })]

theorem bound_lowered_in_flight :
    let n := Run.run (step {} ibRdTable) (created {} {} none ⟨0, fun _ => none⟩ fun _ => 0) lowerRun
    n.qp.requester.max_rd_atomic < n.qp.flight.countP SendWqe.isRdAtomic := by
  decide

end pib
