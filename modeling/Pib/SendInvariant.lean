-- The laws of the send queue: the counters, the elements, the chain of PSNs
-- and the count of RDMA READ and atomic requests. Each law is proved for every
-- move, and so for every run.
import Pib.SendMovesSchedule

namespace pib

variable {ws ws' : List SendWqe} {f w w' : SendWqe}

variable {c : Ctx} {s s' : SendQ} {a : Option SendWr}

/-! ## Elements that keep their core -/

/-- A property of an element that does not read its timers or status. -/
def OnCore (P : SendWqe → Prop) : Prop := ∀ w w' : SendWqe, w'.core = w.core → P w → P w'

theorem touched_core (h : List.Forall₂ (Touched c) ws ws') :
    ws'.map SendWqe.core = ws.map SendWqe.core := by
  induction h with
  | nil => rfl
  | cons hw _ ih => rw [List.map_cons, List.map_cons, ih, hw.core]

theorem touchedWaiting_core {t : Nat} (h : List.Forall₂ (TouchedWaiting c t) ws ws') :
    ws'.map SendWqe.core = ws.map SendWqe.core :=
  touched_core (h.imp fun _ _ hw => hw.1)

theorem length_of_core
    (h : ws'.map SendWqe.core = ws.map SendWqe.core) : ws'.length = ws.length := by
  have := congrArg List.length h
  simpa using this

/-- What is read of a part of an element is the same as long as the part is. -/
theorem map_of_part {α : Type} {f : SendWqe → α} {part : SendWqe → SendWqe} (hf : ∀ w, f w = f (part w))
    (h : ws'.map part = ws.map part) : ws'.map f = ws.map f := by
  have hcomp : f = f ∘ part := funext hf
  rw [hcomp, ← List.map_map, ← List.map_map, h]

/-! ## The first element -/

theorem head_cases (h : s.head? = some w) :
    (∃ ws, s.waiting = w :: ws) ∨ (s.waiting = [] ∧ ∃ ws, s.sending = w :: ws) := by
  unfold SendQ.head? SendQ.flight at h
  rcases hw : s.waiting with _ | ⟨x, xs⟩
  · rw [hw] at h
    rcases hs : s.sending with _ | ⟨y, ys⟩
    · rw [hs] at h
      simp at h
    · rw [hs] at h
      exact Or.inr ⟨rfl, ys, by simpa using h⟩
  · rw [hw] at h
    exact Or.inl ⟨xs, by simpa using h⟩

/-! ## What no move changes -/

/-- The attributes stay, and the state does unless the queue pair fails. -/
structure SameAttrs (s s' : SendQ) : Prop where
  local_ack_timeout : s'.local_ack_timeout = s.local_ack_timeout
  attr : s'.attr = s.attr
  qp_type : s'.qp_type = s.qp_type
  max_rd_atomic : s'.max_rd_atomic = s.max_rd_atomic
  state : s'.state = s.state ∨ s'.state = .ERR

theorem sameAttrs_move (h : Move c s a s') : SameAttrs s s' := by
  cases h with
  | ack | progress =>
    unfold SendQ.setHead
    split <;> exact ⟨rfl, rfl, rfl, rfl, Or.inl rfl⟩
  | complete hh =>
    unfold SendQ.completeHead SendQ.dropHead
    split <;> exact ⟨rfl, rfl, rfl, rfl, Or.inl rfl⟩
  | fail | failAll => exact ⟨rfl, rfl, rfl, rfl, Or.inr rfl⟩
  | _ => exact ⟨rfl, rfl, rfl, rfl, Or.inl rfl⟩

theorem SameAttrs.refl (s : SendQ) : SameAttrs s s := ⟨rfl, rfl, rfl, rfl, Or.inl rfl⟩

theorem SameAttrs.trans {s'' : SendQ} (h : SameAttrs s s') (h' : SameAttrs s' s'') : SameAttrs s s'' :=
  ⟨h'.1.trans h.1, h'.2.trans h.2, h'.3.trans h.3, h'.4.trans h.4,
    h'.5.elim (fun he => h.5.imp he.trans he.trans) Or.inr⟩

theorem SameAttrs.rts (h : SameAttrs s s') (hs : s'.state = .RTS) : s.state = .RTS := by
  rcases h.state with he | he
  · exact he ▸ hs
  · exact nomatch he.symm.trans hs

/-! ## The elements in flight -/

theorem flight_setHead (w' : SendWqe) (h : s.head? = some w) :
    s.flight = w :: s.flight.tail ∧ (s.setHead w').flight = w' :: s.flight.tail := by
  rcases head_cases h with ⟨ws, hw⟩ | ⟨hw, ws, hs⟩
  · simp [SendQ.flight, SendQ.setHead, hw]
  · simp [SendQ.flight, SendQ.setHead, hw, hs]

/-- What an element keeps as long as it is in flight. -/
def SendWqe.fixed (w : SendWqe) : SendWqe := ((w.core.setAck 0).setSent 0).setList .SENDING

theorem fixed_core (w : SendWqe) : w.fixed = w.core.fixed := rfl

/-- The PSNs of an element. -/
def SendWqe.psns (w : SendWqe) : Nat × Nat × Nat :=
  (w.processing.based_psn, w.processing.expected_psn, w.processing.all_packets)

def SendWqe.isRdAtomic (w : SendWqe) : Bool := pibIsWrOpcodeRdAtomic w.opcode

/-- What only a failure changes, or the completion of an element. -/
structure SameFrame (s s' : SendQ) : Prop where
  state : s'.state = s.state
  psn : s'.psn = s.psn
  sig_all : s'.sig_all = s.sig_all

/-- The moves by what they do to the flight: its elements stay, the first one
leaves, all leave, or one joins it. -/
inductive FlightMove (s : SendQ) : Option SendWr → SendQ → Prop
  | stay {a : Option SendWr} {s' : SendQ}
      (hf : s'.flight.map SendWqe.fixed = s.flight.map SendWqe.fixed) (hr : SameFrame s s')
      (he : s'.expected_psn = s.expected_psn) (hnr : s'.nr_rd_atomic = s.nr_rd_atomic)
      (hn : a = none → s'.submitted = s.submitted ∧ s'.cq = s.cq)
      (hlen : ∀ w ∈ s'.submitted, w ∈ s.submitted ∨ w.total_length ≤ PIB_MAX_PAYLOAD_LEN) :
      FlightMove s a s'
  | drop {w f : SendWqe} (h : s.head? = some w) : FlightMove s none (s.completeHead w f)
  | clear {free : List SendWqe} {wcs : List Wc} (hw : wcs = (s.flight ++ s.submitted).map flushWc ∨
        ∃ w status, s.head? = some w ∧ status ≠ .SUCCESS ∧
          wcs = errorWc w status :: (s.flight.tail ++ s.submitted).map flushWc) :
      FlightMove s none (s.empty free wcs)
  | start {w w' : SendWqe} {s' : SendQ} {all : Nat} (hs : s.state = .RTS)
      (hsub : s.submitted = w :: s'.submitted) (hcq : s'.cq = s.cq) (hf : s'.flight = s.flight ++ [w'])
      (hw : w' = { w with processing := w'.processing })
      (hall : all = pibGetNumOfPackets s.qp_type s.attr.path_mtu w.total_length)
      (hpsns : w'.psns = (s.expected_psn, u32 (s.expected_psn + all), all))
      (hr : SameFrame s s') (he : s'.expected_psn = u32 (s.expected_psn + all))
      (hnr : s'.nr_rd_atomic = if w.isRdAtomic then s.nr_rd_atomic + 1 else s.nr_rd_atomic)
      (hrd : (w.isRdAtomic = true → s.nr_rd_atomic < s.max_rd_atomic) ∧
        (w.send_flags.FENCE = true → s.nr_rd_atomic ≤ 0)) :
      FlightMove s none s'

theorem flight_move (h : Move c s a s') : FlightMove s a s' := by
  have hset : ∀ {w w' : SendWqe}, s.head? = some w → w'.fixed = w.fixed →
      FlightMove s none (s.setHead w') := by
    intro w w' h hw
    obtain ⟨hf, hf'⟩ := flight_setHead w' h
    have hmap : (s.setHead w').flight.map SendWqe.fixed = s.flight.map SendWqe.fixed := by
      rw [hf', hf]
      simp [hw]
    unfold SendQ.setHead at hmap ⊢
    split at hmap <;> exact .stay hmap ⟨rfl, rfl, rfl⟩ rfl rfl (fun _ => ⟨rfl, rfl⟩) fun _ => Or.inl
  cases h with
  | touch waiting sending hw hs =>
    refine .stay ?_ ⟨rfl, rfl, rfl⟩ rfl rfl (fun _ => ⟨rfl, rfl⟩) fun _ => Or.inl
    simp [SendQ.flight, map_of_part fixed_core (touchedWaiting_core hw),
      map_of_part fixed_core (touched_core hs)]
  | ack k h => exact hset h rfl
  | progress h => exact hset h rfl
  | complete h => exact .drop h
  | fail h hne => exact .clear (Or.inr ⟨_, _, h, hne, rfl⟩)
  | failAll => exact .clear (Or.inl rfl)
  | resend waiting hw =>
    refine .stay ?_ ⟨rfl, rfl, rfl⟩ rfl rfl (fun _ => ⟨rfl, rfl⟩) fun _ => Or.inl
    have h1 : SendWqe.fixed ∘ SendWqe.resend = SendWqe.fixed := rfl
    have h2 : (SendWqe.fixed ∘ fun w => w.setSent w.processing.ack_packets) = SendWqe.fixed := rfl
    simp [SendQ.resend, SendQ.flight, h1, h2, map_of_part fixed_core (touched_core hw)]
  | sendMore h =>
    refine .stay ?_ ⟨rfl, rfl, rfl⟩ rfl rfl (fun _ => ⟨rfl, rfl⟩) fun _ => Or.inl
    rw [SendQ.flight, SendQ.flight, h]
    simp only [List.map_append, List.map_cons]
    rfl
  | wait sent h hsent hcore =>
    refine .stay ?_ ⟨rfl, rfl, rfl⟩ rfl rfl (fun _ => ⟨rfl, rfl⟩) fun _ => Or.inl
    have hw := congrArg SendWqe.fixed hcore
    rw [← fixed_core] at hw
    simp only [SendQ.flight, h, List.map_append, List.map_cons, List.map_nil, hw, List.append_assoc]
    rfl
  | start hs hsend h all hall hrd hw' =>
    rename_i w w' ws
    have hf : s.waiting ++ [w'] = s.flight ++ [w'] := by simp [SendQ.flight, hsend]
    exact .start hs h rfl hf (by rw [hw']) hall (by rw [hw']; rfl) ⟨rfl, rfl, rfl⟩ rfl rfl hrd
  | post wr hs h hid hlocal hwr hst hlen =>
    refine .stay rfl ⟨rfl, rfl, rfl⟩ rfl rfl (fun h => by cases h) fun v hv => ?_
    rcases List.mem_append.mp hv with hv | hv
    · exact Or.inl hv
    · exact Or.inr (List.mem_singleton.mp hv ▸ hlen)
  | touchFree => exact .stay rfl ⟨rfl, rfl, rfl⟩ rfl rfl (fun _ => ⟨rfl, rfl⟩) fun _ => Or.inl
  | postFlushed => exact .stay rfl ⟨rfl, rfl, rfl⟩ rfl rfl (fun h => by cases h) fun _ => Or.inl

/-- A queue that the first element leaves. -/
theorem completeHead_frame (h : s.head? = some w) (f : SendWqe) :
    s.flight = w :: (s.completeHead w f).flight ∧ (s.completeHead w f).submitted = s.submitted ∧
      (s.completeHead w f).state = s.state ∧ (s.completeHead w f).expected_psn = s.expected_psn ∧
      (s.completeHead w f).sig_all = s.sig_all := by
  refine ⟨(flight_dropHead h).1, ?_⟩
  unfold SendQ.completeHead SendQ.dropHead
  split <;> exact ⟨rfl, rfl, rfl, rfl⟩

/-! ## Laws of single elements -/

theorem forall_of_forall₂ {P Q : SendWqe → Prop} {R : SendWqe → SendWqe → Prop}
    (hR : ∀ {w w'}, R w w' → P w → Q w') (h : List.Forall₂ R ws ws')
    (hP : ∀ w ∈ ws, P w) : ∀ w ∈ ws', Q w := by
  induction h with
  | nil => simp
  | cons hr _ ih =>
    rw [List.forall_mem_cons] at hP ⊢
    exact ⟨hR hr hP.1, ih hP.2⟩

/-- A law for the elements of each list. -/
structure ListLaw (A W S : SendWqe → Prop) (s : SendQ) : Prop where
  submitted : ∀ w ∈ s.submitted, A w
  waiting : ∀ w ∈ s.waiting, W w
  sending : ∀ w ∈ s.sending, S w

/-- What a move does to single elements keeps the law. -/
structure ElementRules (c : Ctx) (s : SendQ) (a : Option SendWr) (A W S : SendWqe → Prop) : Prop where
  touchWaiting : ∀ {w w'}, TouchedWaiting c (c.now + s.local_ack_timeout) w w' → W w → W w'
  touch : ∀ {w w'}, Touched c w w' → S w → S w'
  ack : ∀ {w k}, pibIsWrOpcodeRdAtomic w.opcode = false → k < w.processing.all_packets →
    (W w → W (w.setAck k)) ∧ (S w → S (w.setAck k))
  progress : ∀ {w}, w.opcode = .RDMA_READ →
    u32 (w.processing.sent_packets + 1) < w.processing.all_packets →
    (W w → W (w.progress (c.now + s.local_ack_timeout))) ∧
      (S w → S (w.progress (c.now + s.local_ack_timeout)))
  resend : ∀ {w w'}, Touched c w w' → W w → S w'.resend
  back : ∀ {w}, S w → S (w.setSent w.processing.ack_packets)
  more : ∀ {w}, w.opcode ≠ .RDMA_READ →
    u32 (w.processing.sent_packets + 1) < w.processing.all_packets →
    S w → S (w.setSent (u32 (w.processing.sent_packets + 1)))
  wait : ∀ {w w' sent}, w ∈ s.sending → w.AllSent sent →
    w'.core = ((w.setSent sent).setList .WAITING).core →
    w'.processing.local_ack_time = c.now + s.local_ack_timeout →
    w'.processing.schedule_time = w.processing.schedule_time → S w → W w'
  start : ∀ {w p}, p.list_type = .SENDING →
    p.all_packets = pibGetNumOfPackets s.qp_type s.attr.path_mtu w.total_length →
    p.ack_packets = 0 → p.sent_packets = 0 → p.schedule_time = c.now →
    A w → S { w with processing := p }
  post : ∀ {w}, a ≠ none → w.total_length ≤ PIB_MAX_PAYLOAD_LEN → A w

variable {A W S : SendWqe → Prop}

theorem ListLaw.empty (hf : s.flight = []) (hs : s.submitted = []) : ListLaw A W S s := by
  obtain ⟨h1, h2⟩ := List.append_eq_nil_iff.mp hf
  exact ⟨by simp [hs], by simp [h1], by simp [h2]⟩

theorem ListLaw.setHead (h : s.head? = some w) (hl : ListLaw A W S s)
    (hw : (W w → W w') ∧ (S w → S w')) : ListLaw A W S (s.setHead w') := by
  obtain ⟨h1, h2, h3⟩ := hl
  rcases head_cases h with ⟨ws, he⟩ | ⟨he, ws, he'⟩
  · rw [he, List.forall_mem_cons] at h2
    simp only [SendQ.setHead, he]
    exact ⟨h1, List.forall_mem_cons.mpr ⟨hw.1 h2.1, h2.2⟩, h3⟩
  · rw [he', List.forall_mem_cons] at h3
    simp only [SendQ.setHead, he, he', List.tail_cons]
    exact ⟨h1, by simp, List.forall_mem_cons.mpr ⟨hw.2 h3.1, h3.2⟩⟩

theorem ListLaw.dropHead (hl : ListLaw A W S s) : ListLaw A W S s.dropHead := by
  unfold SendQ.dropHead
  split
  · rename_i he
    exact ⟨hl.submitted, fun v hv => hl.waiting v (he ▸ List.mem_cons_of_mem _ hv), hl.sending⟩
  · exact ⟨hl.submitted, hl.waiting, fun v hv => hl.sending v (List.mem_of_mem_tail hv)⟩

theorem ListLaw.move (h : Move c s a s') (hr : ElementRules c s a A W S) (hl : ListLaw A W S s) :
    ListLaw A W S s' := by
  obtain ⟨h1, h2, h3⟩ := hl
  cases h with
  | touch waiting sending hw hs =>
    exact ⟨h1, forall_of_forall₂ (fun ht => hr.touchWaiting ht) hw h2,
      forall_of_forall₂ (fun ht => hr.touch ht) hs h3⟩
  | ack k h hop hk hk' => exact ListLaw.setHead h ⟨h1, h2, h3⟩ (hr.ack hop hk')
  | progress h hop hk => exact ListLaw.setHead h ⟨h1, h2, h3⟩ (hr.progress hop hk)
  | complete h =>
    obtain ⟨d1, d2, d3⟩ := ListLaw.dropHead ⟨h1, h2, h3⟩
    exact ⟨d1, d2, d3⟩
  | fail | failAll => exact ListLaw.empty rfl rfl
  | resend waiting hw =>
    refine ⟨h1, by simp [SendQ.resend], List.forall_mem_append.mpr ⟨?_, ?_⟩⟩
    · exact List.forall_mem_map.mpr (forall_of_forall₂ (fun ht => hr.resend ht) hw h2)
    · exact List.forall_mem_map.mpr fun w hw => hr.back (h3 w hw)
  | sendMore h hop hk =>
    rw [h, List.forall_mem_cons] at h3
    exact ⟨h1, h2, List.forall_mem_cons.mpr ⟨hr.more hop hk h3.1, h3.2⟩⟩
  | wait sent h hsent hcore hack hsch hst =>
    rename_i w w' ws
    have hmem : w ∈ s.sending := h ▸ List.mem_cons_self
    rw [h, List.forall_mem_cons] at h3
    refine ⟨h1, List.forall_mem_append.mpr ⟨h2, List.forall_mem_singleton.mpr ?_⟩, h3.2⟩
    exact hr.wait hmem hsent hcore hack hsch h3.1
  | start hs hsend h all hall hrd hw' =>
    rename_i w w' ws
    rw [h, List.forall_mem_cons] at h1
    refine ⟨h1.2, h2, List.forall_mem_singleton.mpr ?_⟩
    rw [hw']
    exact hr.start rfl hall rfl rfl rfl h1.1
  | post wr hs h hid hlocal hwr hst hlen =>
    exact ⟨List.forall_mem_append.mpr ⟨h1, List.forall_mem_singleton.mpr (hr.post nofun hlen)⟩, h2, h3⟩
  | touchFree | postFlushed => exact ⟨h1, h2, h3⟩

/-! ## Counters -/

/-- The three counters are the lengths of the lists. -/
def Counted (s : SendQ) : Prop :=
  s.nr_submitted = s.submitted.length ∧ s.nr_sending = s.sending.length ∧
    s.nr_waiting = s.waiting.length

theorem counted_setHead (h : s.head? = some w) (hc : Counted s) : Counted (s.setHead w') := by
  obtain ⟨h1, h2, h3⟩ := hc
  rcases head_cases h with ⟨ws, hw⟩ | ⟨hw, ws, hs⟩
  · simp [SendQ.setHead, Counted, hw, h1, h2, h3]
  · simp [SendQ.setHead, Counted, hw, hs, h1, h2, h3]

theorem counted_dropHead (h : s.head? = some w) (hc : Counted s) : Counted s.dropHead := by
  obtain ⟨h1, h2, h3⟩ := hc
  rcases head_cases h with ⟨ws, hw⟩ | ⟨hw, ws, hs⟩
  · simp [SendQ.dropHead, Counted, hw, h1, h2, h3]
  · simp [SendQ.dropHead, Counted, hw, hs, h1, h2, h3]

theorem counted_move (h : Move c s a s') (hc : Counted s) : Counted s' := by
  have hc' := hc
  obtain ⟨h1, h2, h3⟩ := hc'
  cases h with
  | touch waiting sending hw hs =>
    have hlw := length_of_core (touchedWaiting_core hw)
    have hls := length_of_core (touched_core hs)
    exact ⟨h1, by rw [hls]; exact h2, by rw [hlw]; exact h3⟩
  | ack k h => exact counted_setHead h hc
  | progress h => exact counted_setHead h hc
  | complete h => exact counted_dropHead h hc
  | fail | failAll => exact ⟨rfl, rfl, rfl⟩
  | resend waiting hw =>
    have hlw := length_of_core (touched_core hw)
    refine ⟨h1, ?_, ?_⟩
    · simp [SendQ.resend, h2, hlw, Int.add_comm]
    · simp [SendQ.resend, h3]
  | sendMore h => exact ⟨h1, by simp [h2, h], h3⟩
  | wait sent h => exact ⟨h1, by simp [h2, h], by simp [h3]⟩
  | start hs hsend h => exact ⟨by simp [h1, h], by simp [h2, hsend], h3⟩
  | post wr hs h => exact ⟨by simp [h1], h2, h3⟩
  | touchFree | postFlushed => exact ⟨h1, h2, h3⟩

/-! ## The elements -/

/-- The identities of all elements, with their local-only flags. -/
def SendQ.keys (s : SendQ) : List (Nat × Bool) :=
  (s.free ++ s.flight ++ s.submitted).map SendWqe.key

theorem key_core (w : SendWqe) : w.key = w.core.key := rfl

/-- The work request is one of the two that never leave the host. -/
def SendWr.isLocal (wr : SendWr) : Bool := decide (wr.opcode = .LOCAL_INV ∨ wr.opcode = .FAST_REG_MR)

theorem keys_setHead (h : s.head? = some w) (hk : w'.key = w.key) :
    (s.setHead w').keys = s.keys := by
  obtain ⟨hf, hf'⟩ := flight_setHead w' h
  have hframe : (s.setHead w').free = s.free ∧ (s.setHead w').submitted = s.submitted := by
    unfold SendQ.setHead
    split <;> exact ⟨rfl, rfl⟩
  rw [SendQ.keys, SendQ.keys, hf', hf, hframe.1, hframe.2]
  simp [hk]

theorem keys_completeHead (h : s.head? = some w) (hk : f.key = w.key) :
    (s.completeHead w f).keys.Perm s.keys := by
  obtain ⟨hf, hsub, -⟩ := completeHead_frame h f
  rw [SendQ.keys, SendQ.keys, hf, hsub]
  simp [SendQ.completeHead, hk]

/-- A move moves elements between the lists; a post may set the local-only flag of one. -/
theorem keys_move (h : Move c s a s') :
    s'.keys.Perm s.keys ∨ ∃ wr k rest, a = some wr ∧ s.keys.Perm (k :: rest) ∧
      s'.keys.Perm ((k.1, k.2 || wr.isLocal) :: rest) := by
  cases h with
  | touch waiting sending hw hs =>
    refine Or.inl (List.Perm.of_eq ?_)
    simp [SendQ.keys, SendQ.flight, map_of_part key_core (touchedWaiting_core hw),
      map_of_part key_core (touched_core hs)]
  | ack k h => exact Or.inl (List.Perm.of_eq (keys_setHead h rfl))
  | progress h => exact Or.inl (List.Perm.of_eq (keys_setHead h rfl))
  | complete h hf => exact Or.inl (keys_completeHead h hf)
  | fail h hne hst hfree => exact Or.inl (by simpa [SendQ.keys, SendQ.failHead, SendQ.empty,
      SendQ.flight] using hfree)
  | failAll hfree => exact Or.inl (by simpa [SendQ.keys, SendQ.failAll, SendQ.empty,
      SendQ.flight] using hfree)
  | resend waiting hw =>
    refine Or.inl (List.Perm.of_eq ?_)
    have hkw := map_of_part key_core (touched_core hw)
    have h1 : SendWqe.key ∘ SendWqe.resend = SendWqe.key := rfl
    have h2 : (SendWqe.key ∘ fun w => w.setSent w.processing.ack_packets) = SendWqe.key := rfl
    simp [SendQ.keys, SendQ.resend, SendQ.flight, h1, h2, hkw]
  | sendMore h =>
    refine Or.inl (List.Perm.of_eq ?_)
    simp [SendQ.keys, SendQ.flight, h, SendWqe.setSent, SendWqe.key]
  | wait sent h hsent hcore hack hsch hst =>
    rename_i w w' ws
    refine Or.inl (List.Perm.of_eq ?_)
    have hk : w'.key = w.key := (core_key hcore).trans rfl
    simp [SendQ.keys, SendQ.flight, h, hk]
  | start hs hsend h all hall hrd hw' =>
    rename_i w w' ws
    refine Or.inl (List.Perm.of_eq ?_)
    have hk : w'.key = w.key := by rw [hw']; rfl
    simp [SendQ.keys, SendQ.flight, hsend, h, hk]
  | post wr hs h hid hlocal hwr hst hlen =>
    rename_i f w fs
    refine Or.inr ⟨wr, f.key, (fs ++ s.flight ++ s.submitted).map SendWqe.key, rfl, ?_, ?_⟩
    · simp [SendQ.keys, h]
    · have hk : w.key = (f.key.1, f.key.2 || wr.isLocal) := by
        rw [SendWqe.key, hid, hlocal]
        rfl
      rw [← hk]
      have hp := List.perm_append_singleton w.key ((fs ++ s.flight ++ s.submitted).map SendWqe.key)
      simpa [SendQ.keys, SendQ.flight] using hp
  | touchFree h hf =>
    refine Or.inl (List.Perm.of_eq ?_)
    simp [SendQ.keys, SendQ.flight, h, hf]
  | postFlushed => exact Or.inl (List.Perm.refl _)

/-- Every element keeps its place in one of the four lists. -/
theorem ids_move (h : Move c s a s') : (s'.keys.map Prod.fst).Perm (s.keys.map Prod.fst) := by
  rcases keys_move h with hp | ⟨wr, k, rest, -, hp, hp'⟩
  · exact hp.map _
  · exact (hp'.map Prod.fst).trans (hp.map Prod.fst).symm

/-- No element is marked as a local request. -/
def NoLocal (s : SendQ) : Prop := ∀ k ∈ s.keys, k.2 = false

theorem noLocal_move (h : Move c s a s') (ha : ∀ wr ∈ a, wr.isLocal = false) (hn : NoLocal s) :
    NoLocal s' := by
  intro k' hk'
  rcases keys_move h with hp | ⟨wr, k, rest, rfl, hp, hp'⟩
  · exact hn k' (hp.mem_iff.mp hk')
  rcases List.mem_cons.mp (hp'.mem_iff.mp hk') with rfl | hr
  · have hk := hn k (hp.mem_iff.mpr List.mem_cons_self)
    simp [hk, ha wr rfl]
  · exact hn k' (hp.mem_iff.mpr (List.mem_cons_of_mem _ hr))

theorem NoLocal.flight (hn : NoLocal s) (hw : w ∈ s.flight) : w.local_only_request = false :=
  hn w.key (List.mem_map_of_mem (List.mem_append_left _ (List.mem_append_right _ hw)))

/-! ## The PSNs -/

/-- The elements follow each other without a gap, from PSN `b` to PSN `e`. -/
def Chained (b : Nat) : List SendWqe → Nat → Prop
  | [], e => b = e
  | w :: ws, e => w.processing.based_psn = b ∧
      w.processing.expected_psn = u32 (b + w.processing.all_packets) ∧
      Chained w.processing.expected_psn ws e

theorem chained_of_psns {b e : Nat}
    (h : ws'.map SendWqe.psns = ws.map SendWqe.psns) (hc : Chained b ws e) : Chained b ws' e := by
  induction ws generalizing b ws' with
  | nil =>
    obtain rfl : ws' = [] := by simpa using h
    exact hc
  | cons w ws ih =>
    rcases ws' with _ | ⟨w', ws'⟩
    · simp at h
    obtain ⟨hw, hws⟩ := List.cons.inj h
    obtain ⟨h1, h2, h3⟩ := hc
    obtain ⟨hb, he, ha⟩ : _ ∧ _ ∧ _ := by simpa [SendWqe.psns] using hw
    exact ⟨hb.trans h1, by rw [he, ha]; exact h2, he ▸ ih hws h3⟩

theorem chained_append {b e : Nat} (hc : Chained b ws e) (hb : w.processing.based_psn = e)
    (he : w.processing.expected_psn = u32 (e + w.processing.all_packets)) :
    Chained b (ws ++ [w]) w.processing.expected_psn := by
  induction ws generalizing b with
  | nil => exact ⟨hb.trans hc.symm, by rw [he, show b = e from hc], rfl⟩
  | cons x xs ih => exact ⟨hc.1, hc.2.1, ih hc.2.2⟩

/-- The elements in flight are chained up to the next PSN, and begin at the
PSN of the oldest packet that is not acknowledged. Nothing is in flight
outside of RTS and SQD. -/
structure Psns (s : SendQ) : Prop where
  chain : ∃ b, Chained b s.flight s.expected_psn ∧ (s.state ≠ .ERR → b % PSN_MOD = s.psn % PSN_MOD)
  idle : s.state ≠ .RTS → s.state ≠ .SQD → s.flight = []

/-- The flight keeps its PSNs, and what else the law reads is the same. -/
theorem Psns.of_map (hp : Psns s)
    (hf : s'.flight.map SendWqe.psns = s.flight.map SendWqe.psns) (hr : SameFrame s s')
    (he : s'.expected_psn = s.expected_psn) : Psns s' := by
  obtain ⟨⟨b, hc, hb⟩, hi⟩ := hp
  refine ⟨⟨b, he ▸ chained_of_psns hf hc, ?_⟩, ?_⟩
  · rw [hr.state, hr.psn]
    exact hb
  · intro h1 h2
    rw [hr.state] at h1 h2
    rw [hi h1 h2] at hf
    simpa using hf

theorem psns_fixed (w : SendWqe) : w.psns = w.fixed.psns := rfl

theorem psns_completeHead (h : s.head? = some w) (hp : Psns s) : Psns (s.completeHead w f) := by
  obtain ⟨hf, -, h1, h2, -⟩ := completeHead_frame h f
  obtain ⟨⟨b, hc, -⟩, hi⟩ := hp
  rw [hf] at hc
  refine ⟨⟨w.processing.expected_psn, ?_, fun _ => ?_⟩, ?_⟩
  · rw [h2]
    exact hc.2.2
  · exact (Nat.mod_mod _ _).symm
  · intro hr hs
    rw [h1] at hr hs
    rw [hi hr hs] at hf
    simp at hf

/-- A new element begins where the last one ends. -/
theorem chained_start {b all : Nat} (hc : Chained b s.flight s.expected_psn)
    (hf : s'.flight = s.flight ++ [w']) (he : s'.expected_psn = u32 (s.expected_psn + all))
    (hw : w'.psns = (s.expected_psn, u32 (s.expected_psn + all), all)) :
    Chained b s'.flight s'.expected_psn := by
  obtain ⟨h1, h2, h3⟩ : _ ∧ _ ∧ _ := by simpa [SendWqe.psns] using hw
  have hc' := chained_append hc h1 (by rw [h2, h3])
  rwa [h2, ← hf, ← he] at hc'

theorem psns_move (h : Move c s a s') (hp : Psns s) : Psns s' := by
  cases flight_move h with
  | stay hf hr he => exact hp.of_map (map_of_part psns_fixed hf) hr he
  | drop hh => exact psns_completeHead hh hp
  | clear => exact ⟨⟨s.expected_psn, rfl, fun hne => absurd rfl hne⟩, fun _ _ => rfl⟩
  | start hs hsub hcq hf hw hall hpsns hr he hnr hrd =>
    obtain ⟨⟨b, hc, hb⟩, -⟩ := hp
    refine ⟨⟨b, chained_start hc hf he hpsns, ?_⟩, fun h => absurd (hr.state.trans hs) h⟩
    rw [hr.state, hr.psn]
    exact hb

/-! ## RDMA READ and atomic requests in flight -/

/-- The counter counts the RDMA READ and atomic requests in flight. -/
def RdAtomics (s : SendQ) : Prop := s.nr_rd_atomic = s.flight.countP SendWqe.isRdAtomic

theorem countP_of_map (h : ws'.map SendWqe.isRdAtomic = ws.map SendWqe.isRdAtomic) :
    ws'.countP SendWqe.isRdAtomic = ws.countP SendWqe.isRdAtomic := by
  have h' := congrArg (List.countP id) h
  simpa [List.countP_map] using h'

/-- By how much the counter exceeds the requests it counts. -/
def SendQ.excess (s : SendQ) : Int := s.nr_rd_atomic - s.flight.countP SendWqe.isRdAtomic

theorem rdAtomics_iff : RdAtomics s ↔ s.excess = 0 := by
  unfold RdAtomics SendQ.excess
  omega

theorem excess_of_map
    (hf : s'.flight.map SendWqe.isRdAtomic = s.flight.map SendWqe.isRdAtomic)
    (hn : s'.nr_rd_atomic = s.nr_rd_atomic) : s'.excess = s.excess := by
  rw [SendQ.excess, hn, countP_of_map hf, SendQ.excess]

theorem isRdAtomic_fixed (w : SendWqe) : w.isRdAtomic = w.fixed.isRdAtomic := rfl

theorem excess_completeHead (h : s.head? = some w) : (s.completeHead w f).excess = s.excess := by
  have hnr : (s.completeHead w f).nr_rd_atomic =
      if w.isRdAtomic then s.nr_rd_atomic - 1 else s.nr_rd_atomic := rfl
  rw [SendQ.excess, SendQ.excess, (completeHead_frame h f).1, List.countP_cons, hnr]
  split
  · push_cast
    omega
  · simp

/-- A move keeps the excess, or empties the queue. -/
theorem excess_move (h : Move c s a s') : s'.excess = s.excess ∨ s'.excess = 0 := by
  cases flight_move h with
  | stay hf hr he hnr => exact Or.inl (excess_of_map (map_of_part isRdAtomic_fixed hf) hnr)
  | drop hh => exact Or.inl (excess_completeHead hh)
  | clear => exact Or.inr rfl
  | start hs hsub hcq hf hw hall hpsns hr he hnr hrd =>
    rename_i w w' all
    have hop : w'.isRdAtomic = w.isRdAtomic := by rw [hw]; rfl
    left
    rw [SendQ.excess, SendQ.excess, hf, hnr, List.countP_append, List.countP_singleton, hop]
    split
    · push_cast
      omega
    · simp

theorem rdAtomics_move (h : Move c s a s') (hr : RdAtomics s) : RdAtomics s' := by
  rw [rdAtomics_iff] at hr ⊢
  rcases excess_move h with he | he
  · rw [he, hr]
  · exact he

/-! ## Packets sent and acknowledged -/

/-- An element in flight is not wholly acknowledged; of an RDMA READ as many
packets are counted as sent as have been received. -/
def FlightOk (w : SendWqe) : Prop :=
  w.processing.ack_packets < w.processing.all_packets ∧ w.processing.all_packets < 2 ^ 24 ∧
    (w.opcode = .RDMA_READ → w.processing.sent_packets = w.processing.ack_packets)

def SendingOk (w : SendWqe) : Prop :=
  FlightOk w ∧ w.processing.sent_packets < w.processing.all_packets

def WaitingOk (w : SendWqe) : Prop :=
  FlightOk w ∧ (w.opcode ≠ .RDMA_READ → w.processing.sent_packets = w.processing.all_packets)

abbrev Progress : SendQ → Prop :=
  ListLaw (fun w => w.total_length ≤ PIB_MAX_PAYLOAD_LEN) WaitingOk SendingOk

theorem sendingOk_core : OnCore SendingOk := by
  intro w w' h hw
  have h' : SendingOk w'.core := h ▸ hw
  exact h'

theorem waitingOk_core : OnCore WaitingOk := by
  intro w w' h hw
  have h' : WaitingOk w'.core := h ▸ hw
  exact h'

/-- Going back to the acknowledged packets. -/
theorem sendingOk_resend (h : FlightOk w) : SendingOk w.resend :=
  ⟨⟨h.1, h.2.1, fun _ => rfl⟩, h.1⟩

theorem sendingOk_setSent (h : FlightOk w) : SendingOk (w.setSent w.processing.ack_packets) :=
  ⟨⟨h.1, h.2.1, fun _ => rfl⟩, h.1⟩

theorem not_read_of_not_rdAtomic (h : pibIsWrOpcodeRdAtomic w.opcode = false) :
    w.opcode ≠ .RDMA_READ := by
  intro he
  rw [he] at h
  exact absurd h (by decide)

theorem progress_move (h : Move c s a s') (hn : NoLocal s) (hp : Progress s) : Progress s' := by
  refine ListLaw.move h
    { touchWaiting := fun ht => waitingOk_core _ _ ht.1.core
      touch := fun ht => sendingOk_core _ _ ht.core
      ack := fun hop hk => ?_
      progress := fun hop hk => ?_
      resend := fun ht hw => sendingOk_resend (waitingOk_core _ _ ht.core hw).1
      back := fun hw => sendingOk_setSent hw.1
      more := fun hop hk hw => ⟨⟨hw.1.1, hw.1.2.1, fun he => absurd he hop⟩, hk⟩
      wait := fun hm hsent hcore _ _ hw => waitingOk_core _ _ hcore ?_
      start := fun _ hall hack hsent _ hlen => ?_
      post := fun _ => id } hp
  · have hr := not_read_of_not_rdAtomic hop
    exact ⟨fun hw => ⟨⟨hk, hw.1.2.1, fun he => absurd he hr⟩, hw.2⟩,
      fun hw => ⟨⟨hk, hw.1.2.1, fun he => absurd he hr⟩, hw.2⟩⟩
  · rename_i w
    have hok : FlightOk w → FlightOk (w.progress (c.now + s.local_ack_timeout)) := by
      intro hw
      have hsame : u32 (w.processing.sent_packets + 1) = u32 (w.processing.ack_packets + 1) := by
        rw [hw.2.2 hop]
      exact ⟨hsame.symm.trans_lt hk, hw.2.1, fun _ => hsame⟩
    exact ⟨fun hw => ⟨hok hw.1, fun he => absurd hop he⟩, fun hw => ⟨hok hw.1, hk⟩⟩
  · obtain ⟨hw, hlt⟩ := hw
    rcases hsent with ⟨hl, -⟩ | ⟨hop, rfl⟩ | ⟨hop, rfl, hall⟩
    · exact nomatch (hn.flight (List.mem_append_right _ hm)).symm.trans hl
    · exact ⟨hw, fun he => absurd hop he⟩
    have hall' := hw.2.1
    rename_i w _ _ _
    have hu := Nat.mod_eq_of_lt (show w.processing.sent_packets + 1 < 2 ^ 32 by omega)
    refine ⟨⟨hw.1, hw.2.1, fun he => absurd he hop⟩, fun _ => ?_⟩
    exact Nat.le_antisymm (hu.trans_le hlt) hall
  · rename_i w p _ _
    have hpos := pibGetNumOfPackets_pos s.qp_type s.attr.path_mtu w.total_length
    have hlt := pibGetNumOfPackets_lt s.qp_type s.attr.path_mtu hlen
    rw [← hall] at hpos hlt
    exact ⟨⟨hack.trans_lt hpos, hlt, fun _ => hsent.trans hack.symm⟩, hsent.trans_lt hpos⟩

/-! ## All laws together -/

/-- The send queue of a queue pair with these elements, none of them a local request. -/
structure SendInv (ids : List Nat) (s : SendQ) : Prop where
  rc : s.qp_type = .RC
  counted : Counted s
  ids : (s.keys.map Prod.fst).Perm ids
  noLocal : NoLocal s
  psns : Psns s
  rdAtomics : RdAtomics s
  progress : Progress s

theorem sendInv_move {ids : List Nat} (h : Move c s a s') (ha : ∀ wr ∈ a, wr.isLocal = false)
    (hi : SendInv ids s) : SendInv ids s' :=
  { rc := (sameAttrs_move h).qp_type.trans hi.rc
    counted := counted_move h hi.counted
    ids := (ids_move h).trans hi.ids
    noLocal := noLocal_move h ha hi.noLocal
    psns := psns_move h hi.psns
    rdAtomics := rdAtomics_move h hi.rdAtomics
    progress := progress_move h hi.noLocal hi.progress }

theorem sendInv_moves {ids : List Nat} {as : List SendWr} (h : Moves c s as s')
    (ha : ∀ wr ∈ as, wr.isLocal = false) (hi : SendInv ids s) : SendInv ids s' := by
  induction h with
  | refl => exact hi
  | step hm _ ih =>
    refine ih (fun wr hwr => ha wr (List.mem_append_right _ hwr)) (sendInv_move hm ?_ hi)
    exact fun wr hwr => ha wr (List.mem_append_left _ (by simpa using hwr))

end pib
