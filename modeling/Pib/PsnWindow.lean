-- The window of outstanding PSNs: how many PSNs the elements in flight take
-- up, and what `get_psn_diff` says about them as long as these are at most
-- half of the PSN space.
import Pib.StateChanges
import Pib.Timer

namespace pib

open Bytes

variable (cfg : Config) (now : Nat) {w : SendWqe} {q : Qp} {attr : ModifyAttr} {mask : AttrMask}
    {n : Node} {i j psn : Nat}

variable {c : Ctx} {s s' : SendQ} {a : Option SendWr}

/-! ## The chain of PSNs -/

/-- The elements in flight are chained up to the next PSN, and nothing is in
flight outside of RTS and SQD. Local requests take part in the chain. -/
structure PsnChain (s : SendQ) : Prop where
  chain : ∃ b, Chained b s.flight s.expected_psn
  idle : s.state ≠ .RTS → s.state ≠ .SQD → s.flight = []

theorem PsnChain.of_map (h : PsnChain s)
    (hf : s'.flight.map SendWqe.psns = s.flight.map SendWqe.psns)
    (he : s'.expected_psn = s.expected_psn) (hst : s'.state = s.state) : PsnChain s' := by
  obtain ⟨⟨b, hc⟩, hi⟩ := h
  refine ⟨⟨b, he ▸ chained_of_psns hf hc⟩, fun h1 h2 => ?_⟩
  rw [hst] at h1 h2
  rw [hi h1 h2] at hf
  simpa using hf

/-- The first element can leave the chain. -/
theorem PsnChain.tail (h : PsnChain s) (hf : s.flight = w :: s'.flight)
    (he : s'.expected_psn = s.expected_psn) (hst : s'.state = s.state) : PsnChain s' := by
  obtain ⟨⟨b, hc⟩, hi⟩ := h
  rw [hf] at hc
  refine ⟨⟨w.processing.expected_psn, he ▸ hc.2.2⟩, fun h1 h2 => ?_⟩
  rw [hst] at h1 h2
  rw [hi h1 h2] at hf
  cases hf

theorem PsnChain.empty (hf : s.flight = []) : PsnChain s :=
  ⟨⟨s.expected_psn, by rw [hf]; rfl⟩, fun _ _ => hf⟩

theorem psnChain_move (h : Move c s a s') (hp : PsnChain s) : PsnChain s' := by
  cases flight_move h with
  | stay hf hr he => exact hp.of_map (map_of_part psns_fixed hf) he hr.state
  | drop hh =>
    obtain ⟨hfl, -, hst, he, -⟩ := completeHead_frame hh _
    exact hp.tail hfl he hst
  | clear => exact PsnChain.empty rfl
  | start hs hsub hcq hf hw hall hpsns hr he =>
    obtain ⟨⟨b, hc⟩, -⟩ := hp
    exact ⟨⟨b, chained_start hc hf he hpsns⟩, fun h => absurd (hr.state.trans hs) h⟩

theorem psnChain_localDone {ws : List SendWqe} (hw : s.waiting = w :: ws)
    (h : LocalDone s ws s') (hp : PsnChain s) : PsnChain s' := by
  cases h with
  | retired f hf => exact hp.tail (w := w) (by simp [SendQ.flight, hw]) rfl rfl
  | failed free nr_waiting cq hf => exact PsnChain.empty rfl

/-! ## The PSNs taken up -/

/-- The PSNs that these elements take up together. -/
def packetsOf (ws : List SendWqe) : Nat := (ws.map fun w => w.processing.all_packets).sum

/-- The PSNs that an element will take up when it starts. -/
def SendQ.packets (s : SendQ) (w : SendWqe) : Nat :=
  pibGetNumOfPackets s.qp_type s.attr.path_mtu w.total_length

theorem packetsOf_append (ws vs : List SendWqe) :
    packetsOf (ws ++ vs) = packetsOf ws + packetsOf vs := by
  simp [packetsOf]

theorem packetsOf_of_psns {ws ws' : List SendWqe}
    (h : ws'.map SendWqe.psns = ws.map SendWqe.psns) : packetsOf ws' = packetsOf ws := by
  have hp : (fun w : SendWqe => w.processing.all_packets) = (fun p => p.2.2) ∘ SendWqe.psns := rfl
  unfold packetsOf
  rw [hp, ← List.map_map, ← List.map_map, h]

/-- Between two states of the send queue the elements `started` were started,
unless it has failed. -/
def Starts (s s' : SendQ) : Prop :=
  (s'.submitted = [] ∧ packetsOf s'.flight = 0) ∨ ∃ started, s.submitted = started ++ s'.submitted ∧
    packetsOf s'.flight ≤ packetsOf s.flight + (started.map s.packets).sum

theorem Starts.same (hsub : s'.submitted = s.submitted)
    (h : packetsOf s'.flight ≤ packetsOf s.flight) : Starts s s' :=
  Or.inr ⟨[], hsub.symm, h⟩

/-- One move that is not a post. -/
theorem starts_move (h : Move c s none s') : Starts s s' := by
  cases flight_move h with
  | stay hf hr he hnr hn => exact Starts.same (hn rfl).1 (packetsOf_of_psns (map_of_part psns_fixed hf)).le
  | drop hh =>
    obtain ⟨hfl, hsub, -⟩ := completeHead_frame hh _
    refine Starts.same hsub ?_
    rw [hfl]
    simp [packetsOf]
  | clear => exact Or.inl ⟨rfl, rfl⟩
  | start hs hsub hcq hf hw hall hpsns hr he hnr hrd =>
    rename_i w w' all
    have hp : w'.processing.all_packets = s.packets w :=
      (congrArg (fun p => p.2.2) hpsns).trans hall
    refine Or.inr ⟨[w], hsub, ?_⟩
    simp [hf, packetsOf, hp]

theorem Starts.trans {s'' : SendQ} (h : Starts s s') (h' : Starts s' s'')
    (hp : s'.packets = s.packets) : Starts s s'' := by
  rcases h with ⟨hsub, hz⟩ | ⟨started, hsub, hle⟩ <;>
    rcases h' with ⟨hsub', hz'⟩ | ⟨started', hsub', hle'⟩
  · exact Or.inl ⟨hsub', hz'⟩
  · rw [hsub] at hsub'
    obtain ⟨rfl, hnil⟩ := List.append_eq_nil_iff.mp hsub'.symm
    simp only [List.map_nil, List.sum_nil] at hle'
    exact Or.inl ⟨hnil, by omega⟩
  · exact Or.inl ⟨hsub', hz'⟩
  · refine Or.inr ⟨started ++ started', by rw [hsub, hsub', List.append_assoc], ?_⟩
    rw [hp] at hle'
    simp only [List.map_append, List.sum_append]
    omega

theorem packets_move (h : Move c s a s') : s'.packets = s.packets := by
  have hk := sameAttrs_move h
  funext w
  rw [SendQ.packets, SendQ.packets, hk.attr, hk.qp_type]

/-- A run of moves without posts. -/
theorem starts_moves {as : List SendWr} (h : Moves c s as s') (has : as = []) : Starts s s' := by
  induction h with
  | refl => exact Starts.same rfl (le_refl _)
  | step hm _ ih =>
    obtain ⟨ha, has⟩ := List.append_eq_nil_iff.mp has
    obtain rfl : _ = none := by simpa using ha
    exact (starts_move hm).trans (ih has) (packets_move hm)

/-! ## What a step does to the window -/

/-- The PSNs in flight. -/
def Qp.outstanding (q : Qp) : Nat := packetsOf q.flight

/-- The window: half of the PSN space. -/
def PSN_WINDOW : Nat := 2 ^ 23

/-- The elements that a step starts find room in the window. -/
def FindsRoom (cfg : Config) (ibModifyQpIsOk : QpState → QpState → AttrMask → Bool) (n : Node)
    (x : Nat × Act) : Prop :=
  ∀ started, started ≠ [] →
    n.qp.requester.submitted_swqe =
      started ++ (step cfg ibModifyQpIsOk n x).qp.requester.submitted_swqe →
    n.qp.outstanding + (started.map n.qp.sendQ.packets).sum ≤ PSN_WINDOW

theorem window_of_starts (h : Starts s s') (hs : packetsOf s.flight ≤ PSN_WINDOW)
    (hroom : ∀ started, started ≠ [] → s.submitted = started ++ s'.submitted →
      packetsOf s.flight + (started.map s.packets).sum ≤ PSN_WINDOW) :
    packetsOf s'.flight ≤ PSN_WINDOW := by
  rcases h with ⟨-, hz⟩ | ⟨started, hsub, hle⟩
  · omega
  by_cases hnil : started = []
  · subst hnil
    simp only [List.map_nil, List.sum_nil] at hle
    omega
  · exact hle.trans (hroom started hnil hsub)

/-- A post touches the submitted and the free elements and the completions. -/
theorem frame_pibPostSend (copyFromUser : UserCopy) (now : Nat)
    (q : Qp) (wrs : List SendWr) : ∃ free submitted nr_submitted cq,
    (pibPostSend cfg copyFromUser now q wrs).1.sendQ =
      { q.sendQ with free, submitted, nr_submitted, cq } := by
  obtain ⟨q', ⟨_, _, _, _, rfl⟩, h | ⟨-, h⟩⟩ := pibPostSend_qp cfg copyFromUser now q wrs
  · rw [h]
    exact ⟨_, _, _, _, rfl⟩
  · rw [h, sendQ_getReadyToSend]
    exact ⟨_, _, _, _, rfl⟩

/-- The send queue has been emptied. -/
structure Cleared (cfg : Config) (s s' : SendQ) : Prop where
  flight : s'.flight = []
  submitted : s'.submitted = []
  nr_rd_atomic : s'.nr_rd_atomic = 0
  timeout : s'.local_ack_timeout = s.local_ack_timeout ∨
    ∃ t, s'.local_ack_timeout = pibGetLocalAckTime cfg.HZ t

/-- A new state keeps the send queue, or empties it. -/
theorem sendQ_enterState (q : Qp) (new : QpState) :
    (new ≠ .RESET ∧ new ≠ .ERR ∧ new ≠ .SQE ∧
      (enterState cfg now q new).sendQ = { q.sendQ with state := new }) ∨
    Cleared cfg q.sendQ (enterState cfg now q new).sendQ := by
  cases new with
  | RESET =>
    right
    have h := sendQ_resetQp cfg now { q with state := .RESET }
    have he : (enterState cfg now q .RESET).sendQ = (resetQp cfg now { q with state := .RESET }).sendQ :=
      rfl
    rw [he, h]
    exact ⟨rfl, rfl, rfl, Or.inr ⟨_, rfl⟩⟩
  | SQE =>
    refine Or.inr ⟨rfl, rfl, rfl, Or.inl ?_⟩
    simp [enterState, pibUtilFlushQp, flushSendQueue, foldl_flushSendWqe]
    rfl
  | ERR =>
    right
    have he : (enterState cfg now q .ERR).sendQ = (failQp now q).sendQ := rfl
    rw [he, sendQ_failQp]
    exact ⟨rfl, rfl, rfl, Or.inl rfl⟩
  | INIT | RTR | RTS | SQD => exact Or.inl ⟨by simp, by simp, by simp, rfl⟩

/-- A law of the send queue that `pib_modify_qp` keeps, whatever the caller says
about the state. -/
theorem law_modify {I : SendQ → Prop} (isOk : StateCheck)
    (h : I q.sendQ) (hset : I (setAttrs cfg q attr mask).sendQ)
    (hstate : ∀ {s : SendQ} {new : QpState}, I s → I { s with state := new })
    (hclear : ∀ {s' : SendQ}, Cleared cfg (setAttrs cfg q attr mask).sendQ s' → I s') :
    I (pibModifyQp cfg isOk now q attr mask).1.sendQ := by
  rcases pibModifyQp_settles cfg isOk now q attr mask with he | ⟨-, he⟩ | ⟨-, -, -, he⟩
  · rw [he]
    exact h
  · rw [he]
    exact hset
  rw [he, sendQ_settleState]
  rcases sendQ_enterState cfg now (setAttrs cfg q attr mask) attr.qp_state with ⟨-, -, -, hq⟩ | hc
  · rw [hq]
    exact hstate hset
  · exact hclear hc

/-- What `pib_modify_qp` can do to the send queue, when the caller names the
actual state: keep it, with new attributes and a new state, or empty it. -/
theorem sendQ_modify (hname : NamesState q.state attr mask)
    (isOk : StateCheck) :
    (pibModifyQp cfg isOk now q attr mask).1.sendQ = q.sendQ ∨
    (∃ new, isOk q.state new mask = true ∧
      ((pibModifyQp cfg isOk now q attr mask).1.sendQ = (setAttrs cfg q attr mask).sendQ ∨
      ((new ≠ .RESET ∧ new ≠ .ERR ∧ new ≠ .SQE) ∧
        (pibModifyQp cfg isOk now q attr mask).1.sendQ =
          { (setAttrs cfg q attr mask).sendQ with state := new }))) ∨
    ((pibModifyQp cfg isOk now q attr mask).1.sendQ.flight = [] ∧
      (pibModifyQp cfg isOk now q attr mask).1.sendQ.submitted = []) := by
  have hc : curState q attr mask = q.state := by
    unfold curState
    split
    · exact hname ‹_›
    · rfl
  rcases pibModifyQp_settles cfg isOk now q attr mask with he | ⟨⟨new, hnew⟩, he⟩ |
    ⟨-, hnew, -, he⟩
  · exact Or.inl (by rw [he])
  · exact Or.inr (Or.inl ⟨new, hc ▸ hnew, Or.inl (by rw [he])⟩)
  · rw [he, sendQ_settleState]
    rcases sendQ_enterState cfg now (setAttrs cfg q attr mask) attr.qp_state with
      ⟨h1, h2, h3, hq⟩ | hq
    · exact Or.inr (Or.inl ⟨attr.qp_state, hc ▸ hnew, Or.inr ⟨⟨h1, h2, h3⟩, hq⟩⟩)
    · exact Or.inr (Or.inr ⟨hq.flight, hq.submitted⟩)

theorem psnChain_setAttrs (attr : ModifyAttr) (mask : AttrMask)
    (hpsn : mask.SQ_PSN = true → q.state = .RTR) (h : PsnChain q.sendQ) :
    PsnChain (setAttrs cfg q attr mask).sendQ := by
  cases hm : mask.SQ_PSN with
  | true =>
    have hst : q.sendQ.state = .RTR := hpsn hm
    have hidle : q.sendQ.flight = [] := h.idle (by simp [hst]) (by simp [hst])
    exact PsnChain.empty hidle
  | false =>
    refine h.of_map rfl ?_ rfl
    obtain ⟨a, t, m, he⟩ := sendQ_setAttrs cfg q attr mask
    rw [he, hm]
    rfl

variable {ibModifyQpIsOk : QpState → QpState → AttrMask → Bool}

theorem psnChain_modify (hok : IbTable ibModifyQpIsOk) (cfg : Config) (now : Nat) (hname : NamesState q.state attr mask)
    (h : PsnChain q.sendQ) :
    PsnChain (pibModifyQp cfg ibModifyQpIsOk now q attr mask).1.sendQ := by
  rcases sendQ_modify cfg now hname ibModifyQpIsOk with he | ⟨new, hnew, he | ⟨hlive, he⟩⟩ | he
  · rw [he]
    exact h
  · rw [he]
    exact psnChain_setAttrs cfg attr mask (fun hm => (hok.sq_psn hnew hm).1) h
  · have hset := psnChain_setAttrs cfg attr mask (fun hm => (hok.sq_psn hnew hm).1) h
    rw [he]
    refine ⟨hset.chain, fun h1 h2 => ?_⟩
    -- only from a state with nothing in flight
    have ht := hok.transition hnew
    have hst : (setAttrs cfg q attr mask).sendQ.state = q.state := rfl
    clear he
    refine hset.idle ?_ ?_
    · rw [hst]
      cases hq : q.state <;> cases new <;> simp_all [ibTransition]
    · rw [hst]
      cases hq : q.state <;> cases new <;> simp_all [ibTransition]
  · exact PsnChain.empty he.1

/-- The law of the window. -/
structure Window (s : SendQ) : Prop extends PsnChain s where
  room : packetsOf s.flight ≤ PSN_WINDOW

theorem Window.empty (hf : s.flight = []) : Window s := ⟨PsnChain.empty hf, by rw [hf]; decide⟩

theorem window_modify (hok : IbTable ibModifyQpIsOk) (cfg : Config) (now : Nat) (hname : NamesState q.state attr mask)
    (h : Window q.sendQ) : Window (pibModifyQp cfg ibModifyQpIsOk now q attr mask).1.sendQ := by
  refine ⟨psnChain_modify hok cfg now hname h.toPsnChain, ?_⟩
  have hsame : ∀ {s : SendQ}, s.flight = q.sendQ.flight → packetsOf s.flight ≤ PSN_WINDOW :=
    fun he => he ▸ h.room
  rcases sendQ_modify cfg now hname ibModifyQpIsOk with he | ⟨new, -, he | ⟨-, he⟩⟩ | he
  · exact hsame (by rw [he])
  · exact hsame (by rw [he]; rfl)
  · exact hsame (by rw [he]; rfl)
  · rw [he.1]
    decide

theorem psnChain_step (hok : IbTable ibModifyQpIsOk) (cfg : Config) {x : Nat × Act}
    (hname : Truthful n x) (h : PsnChain n.qp.sendQ) :
    PsnChain (step cfg ibModifyQpIsOk n x).qp.sendQ :=
  law_step psnChain_move psnChain_localDone cfg ibModifyQpIsOk
    (fun attr mask he => psnChain_modify hok cfg x.1 (hname attr mask he) h) h

/-- A step keeps the law, when what it starts finds room. -/
theorem window_step (hok : IbTable ibModifyQpIsOk) (cfg : Config) {x : Nat × Act}
    (hname : Truthful n x) (hroom : FindsRoom cfg ibModifyQpIsOk n x) (h : Window n.qp.sendQ) :
    Window (step cfg ibModifyQpIsOk n x).qp.sendQ := by
  refine ⟨psnChain_step hok cfg hname h.toPsnChain, ?_⟩
  obtain ⟨now, a⟩ := x
  rcases step_cases cfg ibModifyQpIsOk n now a with ⟨copyFromUser, wrs, rfl⟩ | ⟨attr, mask, rfl⟩ |
    hm | ⟨w, ws, hw, hd⟩
  · obtain ⟨f, s, nr, cq, hf⟩ := frame_pibPostSend cfg copyFromUser now n.qp wrs
    simp only [step, act, Node.setQp_qp]
    rw [hf]
    exact h.room
  · exact (window_modify hok cfg now (hname attr mask rfl) h).room
  · exact window_of_starts (starts_moves hm rfl) h.room hroom
  · have hr := h.room
    generalize (step cfg ibModifyQpIsOk n (now, a)).qp.sendQ = s' at hd ⊢
    cases hd with
    | retired f hf =>
      refine le_trans ?_ hr
      simp [SendQ.flight, packetsOf, hw]
    | failed free nr_waiting cq hf => exact Nat.zero_le _

/-! ## The order of PSNs in the window -/

/-- The PSNs before the `i`-th element. -/
def startOf (ws : List SendWqe) (i : Nat) : Nat := packetsOf (ws.take i)

/-- The `k`-th packet of an element has this PSN. -/
def HasPsn (w : SendWqe) (k psn : Nat) : Prop :=
  k < w.processing.all_packets ∧ psn % PSN_MOD = (w.processing.based_psn + k) % PSN_MOD

theorem u32_mod_psn (x : Nat) : u32 x % PSN_MOD = x % PSN_MOD := by
  unfold u32 PSN_MOD
  omega

/-- The PSNs of a chained element, counted from the beginning of the chain. -/
theorem Chained.psns_at {b e : Nat} {ws : List SendWqe} (h : Chained b ws e)
    (hw : ws[i]? = some w) :
    w.processing.based_psn % PSN_MOD = (b + startOf ws i) % PSN_MOD ∧
      w.processing.expected_psn % PSN_MOD =
        (b + startOf ws i + w.processing.all_packets) % PSN_MOD := by
  induction ws generalizing b i with
  | nil => simp at hw
  | cons v ws ih =>
    obtain ⟨hb, he, hrest⟩ := h
    cases i with
    | zero =>
      obtain rfl : v = w := by simpa using hw
      rw [he, u32_mod_psn, hb]
      simp [startOf, packetsOf]
    | succ i =>
      obtain ⟨h1, h2⟩ := ih hrest (by simpa using hw)
      have hs : startOf (v :: ws) (i + 1) = v.processing.all_packets + startOf ws i := by
        simp [startOf, packetsOf]
      have hv : v.processing.expected_psn % PSN_MOD = (b + v.processing.all_packets) % PSN_MOD := by
        rw [he, u32_mod_psn]
      rw [hs]
      unfold PSN_MOD at *
      constructor <;> omega

/-- An element ends before the next one begins, and within the whole. -/
theorem startOf_add_le {ws : List SendWqe} (hw : ws[i]? = some w)
    (hij : i < j) : startOf ws i + w.processing.all_packets ≤ startOf ws j := by
  induction ws generalizing i j with
  | nil => simp at hw
  | cons v ws ih =>
    obtain ⟨j, rfl⟩ : ∃ j', j = j' + 1 := ⟨j - 1, by omega⟩
    cases i with
    | zero =>
      obtain rfl : v = w := by simpa using hw
      simp [startOf, packetsOf]
    | succ i =>
      have h := ih (i := i) (by simpa using hw) (j := j) (by omega)
      simp only [startOf, packetsOf, List.take_succ_cons, List.map_cons, List.sum_cons] at h ⊢
      omega

theorem startOf_le (ws : List SendWqe) (i : Nat) : startOf ws i ≤ packetsOf ws := by
  have h : packetsOf ws = startOf ws i + packetsOf (ws.drop i) := by
    rw [startOf, ← packetsOf_append, List.take_append_drop]
  omega

theorem startOf_add_le_all {ws : List SendWqe} (hw : ws[i]? = some w) :
    startOf ws i + w.processing.all_packets ≤ packetsOf ws :=
  (startOf_add_le hw (Nat.lt_succ_self i)).trans (startOf_le ws (i + 1))

variable {b e : Nat} {ws : List SendWqe}

/-- The difference of a PSN in the window and the first PSN of an element is
the real one. -/
theorem Chained.diff (h : Chained b ws e) (hroom : packetsOf ws ≤ PSN_WINDOW) {k : Nat}
    {v : SendWqe} (hw : ws[i]? = some w) (hv : ws[j]? = some v) (hpsn : HasPsn w k psn) :
    getPsnDiff psn v.processing.based_psn = (startOf ws i + k : Int) - startOf ws j := by
  obtain ⟨hk, hp⟩ := hpsn
  have hi := startOf_add_le_all hw
  have hj := startOf_le ws j
  have hwb := (h.psns_at hw).1
  have hvb := (h.psns_at hv).1
  have hd := getPsnDiff_eq (p := psn) (b := v.processing.based_psn)
    (P := (b + startOf ws i + k : Nat)) (B := (b + startOf ws j : Nat)) ?_ ?_ ?_ ?_
  · rw [hd]
    push_cast
    ring
  all_goals unfold PSN_WINDOW at hroom; unfold PSN_MOD at *; push_cast; omega

/-- The test of `match_send_wqe` says whether a PSN belongs to an element of
at most half the PSN space. -/
theorem matchesPsn_iff (hlen : w.processing.all_packets ≤ PSN_WINDOW)
    (he : w.processing.expected_psn % PSN_MOD =
      (w.processing.based_psn + w.processing.all_packets) % PSN_MOD) (psn : Nat) :
    matchesPsn psn w = true ↔ ∃ k, HasPsn w k psn := by
  unfold PSN_WINDOW at hlen
  unfold PSN_MOD at he
  have hbd := getPsnDiff_bounds psn w.processing.based_psn
  have hmod := getPsnDiff_emod psn w.processing.based_psn
  have hexp : 0 ≤ getPsnDiff psn w.processing.based_psn →
      getPsnDiff psn w.processing.expected_psn =
        getPsnDiff psn w.processing.based_psn - w.processing.all_packets := by
    intro h0
    have hd := getPsnDiff_eq (p := psn) (b := w.processing.expected_psn)
      (P := (w.processing.based_psn : Int) + getPsnDiff psn w.processing.based_psn)
      (B := (w.processing.based_psn : Int) + w.processing.all_packets)
      (by omega) (by omega) (by omega) (by omega)
    rw [hd]
    ring
  simp only [matchesPsn, Bool.and_eq_true, decide_eq_true_eq]
  constructor
  · rintro ⟨h0, h1⟩
    rw [hexp h0] at h1
    refine ⟨(getPsnDiff psn w.processing.based_psn).toNat, by omega, ?_⟩
    unfold PSN_MOD
    omega
  · rintro ⟨k, hk, hp⟩
    unfold PSN_MOD at hp
    have hd := getPsnDiff_eq (p := psn) (b := w.processing.based_psn)
      (P := (w.processing.based_psn : Int) + k) (B := w.processing.based_psn)
      (by omega) rfl (by omega) (by omega)
    have h0 : getPsnDiff psn w.processing.based_psn = k := by omega
    refine ⟨by omega, ?_⟩
    rw [hexp (by omega), h0]
    omega

/-- A PSN of the window belongs to one element only. -/
theorem Chained.unique (h : Chained b ws e) (hroom : packetsOf ws ≤ PSN_WINDOW) {k l : Nat}
    {v : SendWqe} (hw : ws[i]? = some w) (hv : ws[j]? = some v) (hp : HasPsn w k psn)
    (hq : HasPsn v l psn) : i = j := by
  have hd := h.diff hroom hw hv hp
  have hd' := h.diff hroom hv hv hq
  have hk := hp.1
  have hl := hq.1
  rcases Nat.lt_trichotomy i j with hlt | heq | hgt
  · have := startOf_add_le hw hlt
    omega
  · exact heq
  · have := startOf_add_le hv hgt
    omega

/-! ## Selecting an element by its PSN -/

/-- The list and the place of the `i`-th element in flight. -/
def Qp.placeOf (q : Qp) (i : Nat) : InFlight × Nat :=
  if i < q.requester.waiting_swqe.length then (.waiting, i)
  else (.sending, i - q.requester.waiting_swqe.length)

theorem placeOf_injective (q : Qp) : Function.Injective q.placeOf := by
  intro i j h
  unfold Qp.placeOf at h
  split at h <;> split at h <;> simp only [Prod.mk.injEq, reduceCtorEq, false_and] at h
  · exact h.2
  · omega

/-- `match_send_wqe` takes the first element in flight that the PSN falls into. -/
theorem matchSendWqe_eq (q : Qp) (psn : Nat) :
    matchSendWqe q psn = (q.flight.findIdx? (matchesPsn psn)).map q.placeOf := by
  unfold matchSendWqe Qp.flight
  rw [List.findIdx?_append]
  rcases hw : q.requester.waiting_swqe.findIdx? (matchesPsn psn) with _ | i
  · rcases hs : q.requester.sending_swqe.findIdx? (matchesPsn psn) with _ | i
    · rfl
    · simp [Qp.placeOf]
  have hi : i < q.requester.waiting_swqe.length := by
    obtain ⟨h, -⟩ := List.findIdx?_eq_some_iff_getElem.mp hw
    exact h
  simp [Qp.placeOf, hi]

theorem Chained.selects (h : Chained b q.flight e) (hroom : q.outstanding ≤ PSN_WINDOW) (hw : q.flight[i]? = some w) :
    (∃ k, HasPsn w k psn) ↔ matchSendWqe q psn = some (q.placeOf i) := by
  have hiff : ∀ {j : Nat} {v : SendWqe}, q.flight[j]? = some v →
      (matchesPsn psn v = true ↔ ∃ k, HasPsn v k psn) := by
    intro j v hv
    have hle := startOf_add_le_all hv
    obtain ⟨h1, h2⟩ := h.psns_at hv
    refine matchesPsn_iff ((Nat.le_add_left _ _).trans (hle.trans hroom)) ?_ psn
    unfold PSN_MOD at *
    omega
  rw [matchSendWqe_eq, Option.map_eq_some_iff]
  constructor
  · rintro ⟨k, hk⟩
    refine ⟨i, List.findIdx?_eq_some_iff_getElem.mpr ?_, rfl⟩
    obtain ⟨hi, hget⟩ := List.getElem?_eq_some_iff.mp hw
    refine ⟨hi, hget ▸ (hiff hw).2 ⟨k, hk⟩, fun j hj hm => ?_⟩
    have hv : q.flight[j]? = some q.flight[j] := List.getElem?_eq_getElem _
    obtain ⟨l, hl⟩ := (hiff hv).1 hm
    exact absurd (h.unique hroom hv hw hl hk) (by omega)
  · rintro ⟨j, hj, hp⟩
    obtain rfl := placeOf_injective q hp
    obtain ⟨hlt, hm, -⟩ := List.findIdx?_eq_some_iff_getElem.mp hj
    obtain ⟨_, hget⟩ := List.getElem?_eq_some_iff.mp hw
    exact (hiff hw).1 (hget ▸ hm)

/-- The outstanding PSNs fit in half of the PSN space, `get_psn_diff` orders
them, and a PSN selects the one element that it belongs to. -/
structure Ordered (q : Qp) : Prop where
  room : q.outstanding ≤ PSN_WINDOW
  /-- what `process_acknowledge` compares: the PSN lies after, in or before the element -/
  order : ∀ {i j k psn : Nat} {w v : SendWqe}, q.flight[i]? = some w → q.flight[j]? = some v →
    HasPsn w k psn →
    (j < i → (v.processing.all_packets : Int) ≤ getPsnDiff psn v.processing.based_psn) ∧
      (j = i → getPsnDiff psn v.processing.based_psn = k) ∧
      (i < j → getPsnDiff psn v.processing.based_psn < 0)
  selects : ∀ {i psn : Nat} {w : SendWqe}, q.flight[i]? = some w →
    ((∃ k, HasPsn w k psn) ↔ matchSendWqe q psn = some (q.placeOf i))
  errs : ∀ {i k psn : Nat} {w : SendWqe} (status : WcStatus), q.flight[i]? = some w →
    HasPsn w k psn → setSendWqeToError q psn status =
      q.modifyInFlight (q.placeOf i).1 (q.placeOf i).2 (·.setStatus status)

theorem Window.ordered (h : Window q.sendQ) : Ordered q := by
  obtain ⟨⟨⟨b, hc⟩, -⟩, hroom⟩ := h
  have hc : Chained b q.flight q.requester.expected_psn := hc
  have hroom : q.outstanding ≤ PSN_WINDOW := hroom
  refine ⟨hroom, ?_, hc.selects hroom, ?_⟩
  · intro i j k psn w v hw hv hp
    rw [hc.diff hroom hw hv hp]
    have hk := hp.1
    refine ⟨fun hlt => ?_, fun heq => ?_, fun hlt => ?_⟩
    · have := startOf_add_le hv hlt
      omega
    · subst heq
      omega
    · have := startOf_add_le hw hlt
      omega
  · intro i k psn w status hw hp
    rw [setSendWqeToError, (hc.selects hroom hw).1 ⟨k, hp⟩]

/-- RDMA READs of the greatest length at the smallest path MTU are posted and
their requests sent. -/
def longReads (k : Nat) : List (Nat × Act) :=
  bringUp { timeout := 14, retry_cnt := 7, max_rd_atomic := 128, path_mtu := 1 } ++
    (List.replicate k ((1, .postSend (fun _ _ => none)
      [{ wr_id := 9, opcode := .RDMA_READ
         sg_list := [{ addr := 0, length := PIB_MAX_PAYLOAD_LEN, lkey := 0 }] }]) : Nat × Act)) ++
    List.replicate k (2, .schedule)

theorem findsRoom_of_nil {x : Nat × Act}
    (h : n.qp.requester.submitted_swqe = []) : FindsRoom cfg ibModifyQpIsOk n x := by
  intro started hne hs
  rw [h] at hs
  exact absurd (List.append_eq_nil_iff.mp hs.symm).1 hne

end pib
