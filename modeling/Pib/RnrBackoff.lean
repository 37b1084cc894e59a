-- Backing off after RNR NAKs. An RNR NAK asks the requester to leave its first
-- work request alone for a time, and it may do so only so often. The driver takes
-- the time to wait for a point in time, and forgets one of the opcodes.
import Pib.Fence
import Pib.WqeMoves

namespace pib

open Bytes

variable {w w' : SendWqe} {fs ss ws : List SendWqe} {e : List Wc} {time : Nat} {q : Qp} {a : Act}
    {m n : Node} {hold : Watched → Nat}

/-! ## The elements under a watch -/

/-- The retries that are left after so many RNR NAKs. Seven stands for no limit. -/
def rnrLeft (r naks : Nat) : Int := if r < 7 then r - naks else r

/-- More RNR NAKs came than the element may be retried for. -/
def Exhausted (r naks : Nat) : Prop := r < 7 ∧ r < naks

instance (r naks : Nat) : Decidable (Exhausted r naks) :=
  inferInstanceAs (Decidable (r < 7 ∧ r < naks))

theorem rnrLeft_neg {r naks : Nat} : rnrLeft r naks < 0 ↔ Exhausted r naks := by
  unfold rnrLeft Exhausted
  split <;> omega

/-- The elements with `r` retries each, when the first of them has taken so many RNR
NAKs and is to be left alone until `release`. -/
structure Spaced (r naks release : Nat) (s : WqeQ) : Prop where
  idle : s.flight = [] → naks = 0 ∧ release = 0
  left : ∀ w ∈ s.flight.head?, w.processing.rnr_retry = rnrLeft r naks
  held : ∀ w ∈ s.flight.head?, release ≤ w.processing.schedule_time
  failed : ∀ w ∈ s.flight.head?, w.processing.status = .RNR_RETRY_EXC_ERR → Exhausted r naks
  others : ∀ w ∈ s.flight.tail,
    w.processing.rnr_retry = r ∧ w.processing.status ≠ .RNR_RETRY_EXC_ERR
  fresh : ∀ w ∈ s.submitted, w.processing.status ≠ .RNR_RETRY_EXC_ERR

theorem Spaced.empty (r : Nat) (e : List Wc) : Spaced r 0 0 ⟨[], [], e⟩ :=
  { idle := fun _ => ⟨rfl, rfl⟩
    left := by simp
    held := by simp
    failed := by simp
    others := by simp
    fresh := by simp }

variable {r naks release : Nat} {s s' : WqeQ}

/-- The first element is gone, and with it what was held against it. -/
theorem Spaced.drop (h : Spaced r naks release ⟨w :: fs, ss, e⟩) : Spaced r 0 0 ⟨fs, ss, e⟩ := by
  have hothers : ∀ v ∈ fs, v.processing.rnr_retry = r ∧
      v.processing.status ≠ .RNR_RETRY_EXC_ERR := h.others
  have hhead : ∀ v ∈ fs.head?, v.processing.rnr_retry = r ∧
      v.processing.status ≠ .RNR_RETRY_EXC_ERR := fun v hv =>
    hothers v (List.mem_of_mem_head? hv)
  constructor
  case idle => exact fun _ => ⟨rfl, rfl⟩
  case left =>
    intro v hv
    rw [(hhead v hv).1]
    simp [rnrLeft]
  case held => exact fun v _ => Nat.zero_le _
  case failed => exact fun v hv hst => absurd hst (hhead v hv).2
  case others => exact fun v hv => hothers v (List.mem_of_mem_tail hv)
  case fresh => exact h.fresh

/-- One element in flight changes. -/
theorem Spaced.change {gs : List SendWqe} (h : Spaced r naks release ⟨fs ++ w :: gs, ss, e⟩)
    (hleft : w'.processing.rnr_retry = w.processing.rnr_retry)
    (hheld : w.processing.schedule_time ≤ w'.processing.schedule_time)
    (hst : w'.processing.status = .RNR_RETRY_EXC_ERR →
      w.processing.status = .RNR_RETRY_EXC_ERR ∨ w.processing.rnr_retry < 0) :
    Spaced r naks release ⟨fs ++ w' :: gs, ss, e⟩ := by
  cases fs with
  | nil =>
    have hw : w.processing.rnr_retry = rnrLeft r naks := h.left w rfl
    constructor
    case idle => simp
    case left =>
      rintro v ⟨⟩
      exact hleft.trans hw
    case held =>
      rintro v ⟨⟩
      exact (h.held w rfl).trans hheld
    case failed =>
      rintro v ⟨⟩ hv
      rcases hst hv with hold | hneg
      · exact h.failed w rfl hold
      · exact rnrLeft_neg.mp (hw ▸ hneg)
    case others => exact h.others
    case fresh => exact h.fresh
  | cons f fs =>
    have hw := h.others w (List.mem_append_right fs List.mem_cons_self)
    constructor
    case idle => simp
    case left => exact h.left
    case held => exact h.held
    case failed => exact h.failed
    case others =>
      intro v hv
      have hv : v ∈ fs ++ w' :: gs := hv
      rcases List.mem_append.mp hv with hv | hv
      · exact h.others v (List.mem_append_left _ hv)
      rcases List.mem_cons.mp hv with rfl | hv
      · refine ⟨hleft.trans hw.1, fun hrnr => ?_⟩
        rcases hst hrnr with hold | hneg
        · exact hw.2 hold
        · rw [hw.1] at hneg
          exact absurd hneg (not_lt.mpr (Int.natCast_nonneg r))
      · exact h.others v (List.mem_append_right _ (List.mem_cons_of_mem _ hv))
    case fresh => exact h.fresh

/-- An element starts behind the others. -/
theorem Spaced.start (h : Spaced r naks release ⟨fs, w :: ss, e⟩) (hr : w'.processing.rnr_retry = r)
    (hst : w'.processing.status = .RNR_RETRY_EXC_ERR → w.processing.status = .RNR_RETRY_EXC_ERR) :
    Spaced r naks release ⟨fs ++ [w'], ss, e⟩ := by
  have hfresh : w'.processing.status ≠ .RNR_RETRY_EXC_ERR := fun hs =>
    h.fresh w List.mem_cons_self (hst hs)
  have hrest : ∀ v ∈ ss, v.processing.status ≠ .RNR_RETRY_EXC_ERR := fun v hv =>
    h.fresh v (List.mem_cons_of_mem _ hv)
  cases fs with
  | nil =>
    obtain ⟨rfl, rfl⟩ := h.idle rfl
    constructor
    case idle => simp
    case left =>
      rintro v ⟨⟩
      rw [hr]
      simp [rnrLeft]
    case held => exact fun v _ => Nat.zero_le _
    case failed =>
      rintro v ⟨⟩ hv
      exact absurd hv hfresh
    case others => simp
    case fresh => exact hrest
  | cons f fs =>
    constructor
    case idle => simp
    case left => exact h.left
    case held => exact h.held
    case failed => exact h.failed
    case others =>
      intro v hv
      have hv : v ∈ fs ++ [w'] := hv
      rcases List.mem_append.mp hv with hv | hv
      · exact h.others v hv
      · rw [List.mem_singleton.mp hv]
        exact ⟨hr, hfresh⟩
    case fresh => exact hrest

theorem Spaced.of_idle (h : Spaced r naks release s) (hf : s.flight = []) (r' : Nat) :
    Spaced r' naks release s := by
  constructor
  case idle => exact h.idle
  case fresh => exact h.fresh
  all_goals simp [hf]

theorem Spaced.post (h : Spaced r naks release s) {new : List SendWqe}
    (hnew : ∀ w ∈ new, w.processing.status = .SUCCESS) :
    Spaced r naks release ⟨s.flight, s.submitted ++ new, s.errors⟩ := by
  refine ⟨h.idle, h.left, h.held, h.failed, h.others, fun w hw => ?_⟩
  rcases List.mem_append.mp hw with hw | hw
  · exact h.fresh w hw
  · rw [hnew w hw]
    exact nofun

/-- An RNR NAK for the first element, of an opcode that `retry_send` knows. -/
theorem Spaced.backOff {attr : QpAttr}
    {hold : Nat} (h : Spaced attr.rnr_retry naks release ⟨w :: fs, ss, e⟩)
    (hop : w.opcode = .SEND ∨ w.opcode = .SEND_WITH_IMM ∨ w.opcode = .RDMA_WRITE_WITH_IMM)
    (ht : hold ≤ time) :
    Spaced attr.rnr_retry (naks + 1) hold ⟨w.backOff attr time :: fs, ss, e⟩ := by
  have hw : w.processing.rnr_retry = rnrLeft attr.rnr_retry naks := h.left w rfl
  rw [SendWqe.backOff, if_pos hop]
  constructor
  case idle => simp
  case left =>
    rintro v ⟨⟩
    dsimp only
    rw [hw, rnrLeft, rnrLeft]
    split <;> omega
  case held =>
    rintro v ⟨⟩
    exact ht
  case failed =>
    rintro v ⟨⟩ hv
    obtain ⟨h7, hr⟩ := h.failed w rfl hv
    exact ⟨h7, hr.trans (Nat.lt_succ_self naks)⟩
  case others => exact h.others
  case fresh => exact h.fresh

/-! ## Moves -/

def WqeQ.size (s : WqeQ) : Nat := s.flight.length + s.submitted.length

variable {now : Nat} {attr : QpAttr}

/-- A move leaves the watch as it is, or the first element is gone. -/
theorem spaced_move (h : WqeMove now attr s s') (hs : Spaced attr.rnr_retry naks release s) :
    (s'.size = s.size ∧ Spaced attr.rnr_retry naks release s') ∨
      (s'.size < s.size ∧ Spaced attr.rnr_retry 0 0 s') := by
  have hempty : ∀ e, (0 = s.size ∧ Spaced attr.rnr_retry naks release ⟨[], [], e⟩) ∨
      (0 < s.size ∧ Spaced attr.rnr_retry 0 0 ⟨[], [], e⟩) := by
    intro e
    rcases Nat.eq_zero_or_pos s.size with h0 | hpos
    · have hf : s.flight = [] := List.eq_nil_of_length_eq_zero (Nat.eq_zero_of_add_eq_zero_right h0)
      obtain ⟨rfl, rfl⟩ := hs.idle hf
      exact Or.inl ⟨h0.symm, Spaced.empty _ e⟩
    · exact Or.inr ⟨hpos, Spaced.empty _ e⟩
  cases h with
  | drop w fs ss e => exact Or.inr ⟨by simp [WqeQ.size], hs.drop⟩
  | fail | clear | reset => exact hempty _
  | serve fs gs ss e w hdue =>
    exact Or.inl ⟨by simp [WqeQ.size], hs.change rfl hdue Or.inl⟩
  | mark fs gs ss e w status hget =>
    exact Or.inl ⟨by simp [WqeQ.size], hs.change rfl (le_refl _) fun hst =>
      hget ((rnrOnly_eq status).mp hst)⟩
  | start fs ss e w w' hrnr hw' =>
    exact Or.inl ⟨by simp [WqeQ.size]; omega, hs.start hrnr fun hst =>
      (rnrOnly_eq _).mp (hw'.symm.trans hst)⟩

/-- No completion with `RNR_RETRY_EXC_ERR` comes before its time. -/
theorem errors_move (h : WqeMove now attr s s') (hs : Spaced attr.rnr_retry naks release s) :
    s'.errors = s.errors ∨ s'.errors = [] ∨ Exhausted attr.rnr_retry naks := by
  cases h with
  | fail w fs ss e =>
    by_cases hst : w.processing.status = .RNR_RETRY_EXC_ERR
    · exact Or.inr (Or.inr (hs.failed w rfl hst))
    · exact Or.inl (by simp [SendWqe.rnrError, rnrErrors, errorWc, hst])
  | reset => exact Or.inr (Or.inl rfl)
  | drop | clear | serve | mark | start => exact Or.inl rfl

/-- The same for a run of moves. -/
theorem spaced_moves (h : WqeMoves now attr s s') (hs : Spaced attr.rnr_retry naks release s) :
    ((s'.size = s.size ∧ Spaced attr.rnr_retry naks release s') ∨
      (s'.size < s.size ∧ Spaced attr.rnr_retry 0 0 s')) ∧
    (s'.errors = s.errors ∨ s'.errors = [] ∨ Exhausted attr.rnr_retry naks) := by
  have hnone : ¬ Exhausted attr.rnr_retry 0 := fun h => absurd h.2 (Nat.not_lt_zero _)
  induction h with
  | refl => exact ⟨Or.inl ⟨rfl, hs⟩, Or.inl rfl⟩
  | @tail b c _ hmove ih =>
    obtain ⟨hsize, herr⟩ := ih
    -- once the first element is gone nothing is held against the others
    have hnew : c.errors = b.errors ∨ c.errors = [] ∨ Exhausted attr.rnr_retry naks := by
      rcases hsize with ⟨-, hb⟩ | ⟨-, hb⟩
      · exact errors_move hmove hb
      · exact (errors_move hmove hb).imp_right fun h => h.imp_right fun h => absurd h hnone
    constructor
    · rcases hsize with ⟨hlen, hb⟩ | ⟨hlen, hb⟩
      · rcases spaced_move hmove hb with ⟨hl, hc⟩ | ⟨hl, hc⟩
        · exact Or.inl ⟨hl.trans hlen, hc⟩
        · exact Or.inr ⟨lt_of_lt_of_eq hl hlen, hc⟩
      · rcases spaced_move hmove hb with ⟨hl, hc⟩ | ⟨hl, hc⟩
        · exact Or.inr ⟨hl ▸ hlen, hc⟩
        · exact Or.inr ⟨hl.trans hlen, hc⟩
    · rcases hnew with h | h | h
      · rcases herr with h' | h' | h'
        · exact Or.inl (h.trans h')
        · exact Or.inr (Or.inl (h.trans h'))
        · exact Or.inr (Or.inr h')
      · exact Or.inr (Or.inl h)
      · exact Or.inr (Or.inr h)

/-! ## A node under a watch -/

/-- The opcodes that take a receive element at the responder. -/
def WrOpcode.takesReceive : WrOpcode → Bool
  | .SEND | .SEND_WITH_IMM | .SEND_WITH_INV | .RDMA_WRITE_WITH_IMM => true
  | _ => false

/-- The act is an RNR NAK for the first work request in flight, of an opcode that it
can be meant for: the time that it asks for. -/
def rnrTaken (cfg : Config) (q : Qp) (a : Act) : Option Nat :=
  if ∃ w ∈ q.sendQ.head?, w.opcode.takesReceive = true then a.rnrNak cfg q else none

/-- A node, the RNR NAKs that its first work request in flight has taken, and the time
until which they ask to leave it alone. -/
structure Watched where
  node : Node
  naks : Nat := 0
  release : Nat := 0

namespace Watched

def step (cfg : Config) (ibModifyQpIsOk : QpState → QpState → AttrMask → Bool) (s : Watched)
    (x : Nat × Act) : Watched :=
  let n := pib.step cfg ibModifyQpIsOk s.node x
  match rnrTaken cfg s.node.qp x.2 with
  | some time => { node := n, naks := s.naks + 1, release := max s.release (x.1 + time) }
  | none =>
    -- the first work request is done when there are fewer of them
    if n.qp.wqeQ.size < s.node.qp.wqeQ.size then { node := n } else { s with node := n }

/-- The step does not ask for what the driver does not count: an RNR NAK for a
`SEND_WITH_INV`, or another `rnr_retry` for work requests that are in flight. -/
def Fair (cfg : Config) (ibModifyQpIsOk : QpState → QpState → AttrMask → Bool) (s : Watched)
    (x : Nat × Act) : Prop :=
  ((rnrTaken cfg s.node.qp x.2).isSome = true →
      s.node.qp.sendQ.head?.map SendWqe.opcode ≠ some .SEND_WITH_INV) ∧
    ((pib.step cfg ibModifyQpIsOk s.node x).qp.attr.rnr_retry = s.node.qp.attr.rnr_retry ∨
      (pib.step cfg ibModifyQpIsOk s.node x).qp.sendQ.flight.isEmpty = true)

/-- The step brings no RNR NAK, or one at time 0 that asks for longer than those before it. -/
def InTime (cfg : Config) (s : Watched) (x : Nat × Act) : Prop :=
  ∀ time ∈ rnrTaken cfg s.node.qp x.2, x.1 = 0 ∧ s.release ≤ time

instance (cfg : Config) (ibModifyQpIsOk : QpState → QpState → AttrMask → Bool) (s : Watched)
    (x : Nat × Act) : Decidable (s.Fair cfg ibModifyQpIsOk x) :=
  inferInstanceAs (Decidable (_ ∧ _))

instance (cfg : Config) (s : Watched) (x : Nat × Act) : Decidable (s.InTime cfg x) :=
  inferInstanceAs (Decidable (∀ time ∈ rnrTaken cfg s.node.qp x.2, x.1 = 0 ∧ s.release ≤ time))

end Watched

variable {cfg : Config} {isOk : StateCheck}

theorem flight_eq_nil : q.wqeQ.flight = [] ↔ q.sendQ.flight = [] :=
  List.map_eq_nil_iff

/-- The work request that an RNR NAK is for, of an opcode that `retry_send` knows. -/
theorem rnrTaken_some (htaken : rnrTaken cfg q a = some time)
    (hop : q.sendQ.head?.map SendWqe.opcode ≠ some .SEND_WITH_INV) :
    a.rnrNak cfg q = some time ∧ ∃ w fs, q.wqeQ = ⟨w :: fs, q.wqeQ.submitted, q.wqeQ.errors⟩ ∧
      (w.opcode = .SEND ∨ w.opcode = .SEND_WITH_IMM ∨ w.opcode = .RDMA_WRITE_WITH_IMM) := by
  unfold rnrTaken at htaken
  split at htaken
  · rename_i hw
    obtain ⟨w, hw, htakes⟩ := hw
    obtain ⟨ws, hflight⟩ : ∃ ws, q.sendQ.flight = w :: ws := List.head?_eq_some_iff.mp hw
    refine ⟨htaken, w.lasting, ws.map SendWqe.lasting, ?_, ?_⟩
    · rw [Qp.wqeQ, SendQ.wqeQ, hflight]
      rfl
    · have hne : w.opcode ≠ .SEND_WITH_INV := by
        rintro hinv
        rw [show q.sendQ.head? = some w from hw] at hop
        exact hop (congrArg some hinv)
      show w.opcode = _ ∨ w.opcode = _ ∨ w.opcode = _
      revert htakes hne
      cases w.opcode <;> simp [WrOpcode.takesReceive]
  · cases htaken

/-- What an RNR NAK makes of a watch that `retry_send` takes into account. -/
theorem spaced_rnr (isOk : StateCheck) (htaken : rnrTaken cfg n.qp a = some time)
    (hop : n.qp.sendQ.head?.map SendWqe.opcode ≠ some .SEND_WITH_INV) (now : Nat)
    (hs : Spaced n.qp.attr.rnr_retry naks release n.qp.wqeQ) {hold : Nat} (ht : hold ≤ time) :
    Spaced n.qp.attr.rnr_retry (naks + 1) hold
        (step cfg isOk n (now, a)).qp.wqeQ ∧
      (step cfg isOk n (now, a)).qp.wqeQ.errors = n.qp.wqeQ.errors := by
  obtain ⟨hnak, w, fs, hq, hknown⟩ := rnrTaken_some htaken hop
  rw [wqeQ_step_rnr cfg isOk now hnak]
  rw [hq] at hs ⊢
  exact ⟨hs.backOff hknown ht, rfl⟩

/-- The time that an RNR NAK asks for is stored as if it were the time at which it ends. -/
theorem rnr_stored (htaken : rnrTaken cfg n.qp a = some time)
    (hop : n.qp.sendQ.head?.map SendWqe.opcode ≠ some .SEND_WITH_INV) (now : Nat) :
    ∀ w ∈ (step cfg isOk n (now, a)).qp.sendQ.head?,
      w.processing.schedule_time = time := by
  obtain ⟨hnak, v, fs, hq, hknown⟩ := rnrTaken_some htaken hop
  have hstep := wqeQ_step_rnr cfg isOk now hnak
  rw [hq] at hstep
  intro w hw
  obtain ⟨ws, hflight⟩ : ∃ ws, (step cfg isOk n (now, a)).qp.sendQ.flight = w :: ws :=
    List.head?_eq_some_iff.mp hw
  have hhead : w.lasting = v.backOff n.qp.attr time := by
    have hlist := congrArg WqeQ.flight hstep
    rw [Qp.wqeQ, SendQ.wqeQ, hflight] at hlist
    exact (List.cons.inj hlist).1
  have htime := congrArg (fun x : SendWqe => x.processing.schedule_time) hhead
  rw [SendWqe.backOff, if_pos hknown] at htime
  exact htime

/-- Any other step leaves the watch as it is, or the first work request is done. -/
theorem spaced_other (isOk : StateCheck)
    (htaken : rnrTaken cfg n.qp a = none) (now : Nat)
    (hs : Spaced n.qp.attr.rnr_retry naks release n.qp.wqeQ) :
    (((step cfg isOk n (now, a)).qp.wqeQ.size < n.qp.wqeQ.size ∧
        Spaced n.qp.attr.rnr_retry 0 0 (step cfg isOk n (now, a)).qp.wqeQ) ∨
      (¬ (step cfg isOk n (now, a)).qp.wqeQ.size < n.qp.wqeQ.size ∧
        Spaced n.qp.attr.rnr_retry naks release (step cfg isOk n (now, a)).qp.wqeQ)) ∧
    ((step cfg isOk n (now, a)).qp.wqeQ.errors = n.qp.wqeQ.errors ∨
      (step cfg isOk n (now, a)).qp.wqeQ.errors = [] ∨
      Exhausted n.qp.attr.rnr_retry naks) := by
  by_cases hpost : ∃ copyFromUser wrs, a = .postSend copyFromUser wrs
  · obtain ⟨copyFromUser, wrs, rfl⟩ := hpost
    obtain ⟨new, hnew, hq⟩ := wqeQ_pibPostSend cfg copyFromUser now n.qp wrs
    have hq : (step cfg isOk n (now, .postSend copyFromUser wrs)).qp.wqeQ =
        ⟨n.qp.wqeQ.flight, n.qp.wqeQ.submitted ++ new, n.qp.wqeQ.errors⟩ := hq
    rw [hq]
    refine ⟨Or.inr ⟨?_, hs.post hnew⟩, Or.inl rfl⟩
    simp only [WqeQ.size, List.length_append]
    omega
  rcases hrnr : a.rnrNak cfg n.qp with _ | time
  · have hmoves := @wqeMoves_step cfg isOk n now a
      (fun copyFromUser wrs ha => hpost ⟨copyFromUser, wrs, ha⟩) hrnr
    obtain ⟨hsize, herr⟩ := spaced_moves hmoves hs
    refine ⟨?_, herr⟩
    rcases hsize with ⟨hlen, hc⟩ | ⟨hlen, hc⟩
    · exact Or.inr ⟨hlen ▸ lt_irrefl _, hc⟩
    · exact Or.inl ⟨hlen, hc⟩
  · -- the first work request has nothing to do with receive elements
    have hsame : (step cfg isOk n (now, a)).qp.wqeQ = n.qp.wqeQ := by
      rw [wqeQ_step_rnr cfg isOk now hrnr]
      unfold rnrTaken at htaken
      split at htaken
      · cases hrnr.symm.trans htaken
      rename_i hno
      cases hflight : n.qp.sendQ.flight with
      | nil =>
        have hnil : n.qp.wqeQ.flight = [] := flight_eq_nil.mpr hflight
        unfold WqeQ.backOff
        rw [hnil]
      | cons w ws =>
        have hq : n.qp.wqeQ = ⟨w.lasting :: ws.map SendWqe.lasting, n.qp.wqeQ.submitted,
            n.qp.wqeQ.errors⟩ := by
          rw [Qp.wqeQ, SendQ.wqeQ, hflight]
          rfl
        have hne : ¬ (w.lasting.opcode = .SEND ∨ w.lasting.opcode = .SEND_WITH_IMM ∨
            w.lasting.opcode = .RDMA_WRITE_WITH_IMM) := by
          intro hop
          refine hno ⟨w, by simp [SendQ.head?, hflight], ?_⟩
          rcases hop with h | h | h <;> exact congrArg WrOpcode.takesReceive h
        rw [hq]
        dsimp only [WqeQ.backOff]
        rw [SendWqe.backOff, if_neg hne]
    rw [hsame]
    exact ⟨Or.inr ⟨lt_irrefl _, hs⟩, Or.inl rfl⟩

namespace Watched

/-- What the first work request carries agrees with the watch, from the time `hold s` on. -/
def Agrees (hold : Watched → Nat) (s : Watched) : Prop :=
  Spaced s.node.qp.attr.rnr_retry s.naks (hold s) s.node.qp.wqeQ

/-- A fair step keeps the watch and the first work request in agreement. -/
theorem agrees_step {s : Watched} {x : Nat × Act}
    (hs : s.Agrees hold) (hx : s.Fair cfg isOk x)
    (hreset : ∀ n, hold { node := n } = 0) (hkeep : ∀ n, hold { s with node := n } = hold s)
    (htime : ∀ time ∈ rnrTaken cfg s.node.qp x.2, ∀ n,
      hold ⟨n, s.naks + 1, max s.release (x.1 + time)⟩ ≤ time) :
    (s.step cfg isOk x).Agrees hold := by
  obtain ⟨now, a⟩ := x
  obtain ⟨hop, hattr⟩ := hx
  have hmove : ∀ {naks release}, Spaced s.node.qp.attr.rnr_retry naks release
      (pib.step cfg isOk s.node (now, a)).qp.wqeQ →
      Spaced (pib.step cfg isOk s.node (now, a)).qp.attr.rnr_retry naks release
        (pib.step cfg isOk s.node (now, a)).qp.wqeQ := by
    intro naks release h
    rcases hattr with hsame | hempty
    · rw [hsame]
      exact h
    · exact h.of_idle (flight_eq_nil.mpr (List.isEmpty_iff.mp hempty)) _
  unfold step
  dsimp only at htime ⊢
  rcases htaken : rnrTaken cfg s.node.qp a with _ | time
  · obtain ⟨hsize, -⟩ := spaced_other isOk htaken now hs
    dsimp only
    rcases hsize with ⟨hlt, hc⟩ | ⟨hge, hc⟩
    · rw [if_pos hlt]
      refine hmove ?_
      rw [hreset]
      exact hc
    · rw [if_neg hge]
      refine hmove ?_
      rw [hkeep]
      exact hc
  · have hop := hop (by simp only [htaken, Option.isSome_some])
    exact hmove (spaced_rnr isOk htaken hop now hs (htime time htaken _)).1

/-- The retries agree in every fair run. -/
theorem agrees_retries {s : Watched} {x : Nat × Act} (hs : s.Agrees fun _ => 0)
    (hx : s.Fair cfg isOk x) : (s.step cfg isOk x).Agrees fun _ => 0 :=
  agrees_step hs hx (fun _ => rfl) (fun _ => rfl) fun _ _ _ => Nat.zero_le _

/-- The times agree as well, when the RNR NAKs come in time. -/
theorem agrees_times {s : Watched} {x : Nat × Act} (hs : s.Agrees Watched.release)
    (hx : s.Fair cfg isOk x ∧ s.InTime cfg x) :
    (s.step cfg isOk x).Agrees Watched.release := by
  refine agrees_step hs hx.1 (fun _ => rfl) (fun _ => rfl) fun time htime n => ?_
  obtain ⟨h0, hle⟩ := hx.2 time htime
  exact max_le hle (by simp [h0])

/-- A queue pair that has just been created. -/
def start (cfg : Config) (init_attr : QpInitAttr) (srq : Option Srq) (pd : Pd) (mem : Mem) :
    Watched :=
  { node := created cfg init_attr srq pd mem }

theorem start_agrees (cfg : Config) (init_attr : QpInitAttr) (srq : Option Srq) (pd : Pd)
    (mem : Mem) (h : hold (start cfg init_attr srq pd mem) = 0) :
    (start cfg init_attr srq pd mem).Agrees hold := by
  unfold Agrees
  rw [h]
  exact Spaced.empty _ _

end Watched

/-! ## The sending list -/

/-- The elements on the sending list are marked as such. -/
def Listed (s : SendQ) : Prop := ∀ w ∈ s.sending, w.processing.list_type = .SENDING

theorem Listed.empty {s : SendQ} (h : s.sending = []) : Listed s := by simp [Listed, h]

theorem listed_iff {s : SendQ} : Listed s ↔
    ListLaw (fun _ => True) (fun _ => True) (fun w => w.processing.list_type = .SENDING) s :=
  ⟨fun h => ⟨fun _ _ => trivial, fun _ _ => trivial, h⟩, fun h => h.sending⟩

theorem listed_move {c : Ctx} {s s' : SendQ} {a : Option SendWr} (h : Move c s a s')
    (hl : Listed s) : Listed s' := by
  refine listed_iff.mpr (ListLaw.move h
    { touchWaiting := fun _ _ => trivial
      touch := fun ht hw => ?_
      ack := fun _ _ => ⟨id, id⟩
      progress := fun _ _ => ⟨id, id⟩
      resend := fun _ _ => rfl
      back := id
      more := fun _ _ => id
      wait := fun _ _ _ _ _ _ => trivial
      start := fun hlist _ _ _ _ _ => hlist
      post := fun _ _ => trivial } (listed_iff.mp hl))
  have hcore := congrArg (fun x : SendWqe => x.processing.list_type) ht.core
  exact hcore.trans hw

/-- Whatever the caller says about the state. -/
theorem listed_modify (cfg : Config) (now : Nat) (attr : ModifyAttr) (mask : AttrMask)
    (h : Listed q.sendQ) : Listed (pibModifyQp cfg isOk now q attr mask).1.sendQ :=
  law_modify cfg now isOk h h id fun hc => Listed.empty (List.append_eq_nil_iff.mp hc.flight).2

theorem listed_localDone {s s' : SendQ} (h : LocalDone s ws s') (hl : Listed s) : Listed s' := by
  cases h with
  | retired f hf => exact hl
  | failed free nr_waiting cq hf => exact Listed.empty rfl

theorem listed_step (cfg : Config) (isOk : StateCheck) (n : Node)
    (x : Nat × Act) (h : Listed n.qp.sendQ) : Listed (step cfg isOk n x).qp.sendQ :=
  law_step (fun hm => listed_move hm) (fun _ hd => listed_localDone hd) cfg isOk
    (fun attr mask _ => listed_modify cfg x.1 attr mask h) h

/-! ## Turns of the scheduler -/

/-- What is in flight stays in front when an element starts for a turn. -/
theorem turn_wqeQ (h : sendingTurn now n = some m) :
    (∃ more, m.qp.wqeQ.flight = n.qp.wqeQ.flight ++ more) ∧
      m.qp.wqeQ.errors = n.qp.wqeQ.errors ∧ (Listed n.qp.sendQ → Listed m.qp.sendQ) := by
  have hlisted : Listed n.qp.sendQ → Listed m.qp.sendQ := (turn_moves h).keep fun hm => listed_move hm
  cases (turn_of_some h).2 with
  | next => exact ⟨⟨[], (List.append_nil _).symm⟩, rfl, hlisted⟩
  | expired hw =>
    have he : (expireTimer now n.qp _ _).wqeQ = n.qp.wqeQ := wqeQ_expireTimer now hw
    rw [Node.setQp_qp, he]
    exact ⟨⟨[], (List.append_nil _).symm⟩, rfl, hlisted⟩
  | new _ hq =>
    obtain ⟨-, w, ws, -, -, rfl⟩ := processNewSendWr_some hq
    refine ⟨⟨[(startSending now n.qp w).lasting], ?_⟩, rfl, hlisted⟩
    simp [wqeQ_lists, Qp.sendLists, SendLists.wqeQ]

/-- The element of a turn, when nothing waits before it, is the first one in flight. -/
theorem turn_first (h : sendingTurn now n = some m)
    (hw : m.qp.requester.sending_swqe = w :: ws) (hwait : m.qp.requester.waiting_swqe = []) :
    n.qp.wqeQ.flight = [] ∨ n.qp.wqeQ.flight.head? = some w.lasting := by
  obtain ⟨⟨more, hmore⟩, -⟩ := turn_wqeQ h
  rw [wqeQ_sendingHead hw, hwait] at hmore
  cases hf : n.qp.wqeQ.flight with
  | nil => exact Or.inl rfl
  | cons v vs =>
    rw [hf] at hmore
    exact Or.inr (congrArg some (List.cons.inj hmore).1.symm)

/-- In agreement with its watch, the first work request in flight is sent only when its
time has come and its retries last. -/
theorem Spaced.sends {p : RcPacket}
    (hs : Spaced r naks release n.qp.wqeQ) (h : sendingTurn now n = some m)
    (hw : m.qp.requester.sending_swqe = w :: ws) (hp : IsSentNow now m p w)
    (hwait : m.qp.requester.waiting_swqe = []) : release ≤ now ∧ ¬ Exhausted r naks := by
  rcases turn_first h hw hwait with hidle | hhead
  · obtain ⟨rfl, rfl⟩ := hs.idle hidle
    exact ⟨Nat.zero_le _, fun h => absurd h.2 (Nat.not_lt_zero _)⟩
  have hleft : w.processing.rnr_retry = rnrLeft r naks := hs.left w.lasting hhead
  refine ⟨(hs.held w.lasting hhead).trans hp.due, fun hex => ?_⟩
  have hneg := rnrLeft_neg.mpr hex
  rw [← hleft] at hneg
  exact absurd hp.rnr (not_le.mpr hneg)

/-- A turn that goes to the first work request in flight. -/
structure FirstTurn (now : Nat) (n : Node) (w : SendWqe) : Prop where
  quiet : (pibGenerateRcQpAcknowledge n).2 = false
  up : ∃ m ws, sendingTurn now n = some m ∧ m.qp.requester.sending_swqe = w :: ws ∧
    m.qp.requester.waiting_swqe = [] ∧
    ¬ PIB_MAX_CONTIG_REQUESTS < m.qp.requester.nr_contig_requests
  due : w.processing.schedule_time ≤ now

theorem FirstTurn.schedule (cfg : Config)
    (h : FirstTurn now n w) : ∃ m ws, sendingTurn now n = some m ∧
      m.qp.requester.sending_swqe = w :: ws ∧ m.qp.requester.waiting_swqe = [] ∧
      ∃ n', n' = processSendWr cfg now
          (m.setQp (m.qp.setInFlight .sending (w.setSchedule now :: ws) 0)) (w.setSchedule now) ws ∧
        processOnQpScheduler cfg now n = n'.setQp (pibUtilRescheduleQp now n'.qp) := by
  obtain ⟨m, ws, hm, hw, hwait, hcontig⟩ := h.up
  refine ⟨m, ws, hm, hw, hwait, _, rfl, ?_⟩
  have hfalse := generateAcknowledge_false h.quiet
  have hack : pibGenerateRcQpAcknowledge n = (n, false) := Prod.ext hfalse h.quiet
  have hrun : processSendingHead cfg now m = processSendWr cfg now
      (m.setQp (m.qp.setInFlight .sending (w.setSchedule now :: ws) 0)) (w.setSchedule now) ws := by
    unfold processSendingHead
    rw [hw]
    dsimp only
    rw [if_neg (fun hf => hf.2 hwait), if_neg hcontig, if_neg (not_lt.mpr h.due)]
  obtain ⟨n', he, hr⟩ := scheduler_cases cfg now n
  rw [hack] at hr
  rcases hr with hr | ⟨-, rfl⟩
  · exact nomatch (Prod.mk.inj hr).2
  · rw [he, processRequester_of_turn cfg hm, hrun]

/-- An element whose retries are used up gets its status instead of a turn. -/
theorem processSendWr_exhausted (cfg : Config) (now : Nat) (n : Node)
    (ws : List SendWqe) (hl : w.processing.list_type = .SENDING)
    (hst : w.processing.status = .SUCCESS) (hlocal : w.local_only_request = false)
    (hretry : 0 ≤ w.processing.retry_cnt) (hrnr : w.processing.rnr_retry < 0) :
    processSendWr cfg now n w ws =
      n.setQp (n.qp.setInFlight .sending (w.setStatus .RNR_RETRY_EXC_ERR :: ws) 0) := by
  have hreq : pibProcessRcQpRequest cfg now n w = (n, w.setStatus .RNR_RETRY_EXC_ERR) := by
    unfold pibProcessRcQpRequest
    rw [if_neg (by simp [hlocal]), if_neg (not_lt.mpr hretry), if_pos hrnr]
  unfold processSendWr
  rw [if_neg (not_not.mpr hl), if_neg (not_not.mpr hst), hreq]
  dsimp only
  rw [show (w.setStatus .RNR_RETRY_EXC_ERR).processing.list_type = .SENDING from hl]

/-- An element that has failed is completed with its status. -/
theorem errors_processSendWr (cfg : Config) (now : Nat) (n : Node) (ws : List SendWqe)
    (hl : w.processing.list_type = .SENDING) (hst : w.processing.status = .RNR_RETRY_EXC_ERR) :
    (processSendWr cfg now n w ws).qp.wqeQ.errors =
      n.qp.wqeQ.errors ++ [errorWc w .RNR_RETRY_EXC_ERR] := by
  unfold processSendWr
  rw [if_neg (not_not.mpr hl), if_pos (by rw [hst]; exact nofun), Node.setQp_qp, wqeQ_freeSendWqe,
    wqeQ_failQp]
  refine (rnrErrors_append _ _).trans ?_
  rw [hst]
  rfl

/-- With nothing to wait for, a turn goes to what is being sent already. -/
theorem turn_of_sending (h : sendingTurn now n = some m)
    (hwait : n.qp.requester.waiting_swqe = []) (hs : n.qp.requester.sending_swqe ≠ []) : m = n := by
  cases (turn_of_some h).2 with
  | next => rfl
  | expired hw => exact nomatch hwait.symm.trans hw
  | new hnil => exact absurd hnil hs

/-- The next turn after too many RNR NAKs sends nothing. -/
theorem exhausted_turn (cfg : Config) (h : FirstTurn now n w) (hl : Listed n.qp.sendQ)
    (hst : w.processing.status = .SUCCESS) (hlocal : w.local_only_request = false)
    (hretry : 0 ≤ w.processing.retry_cnt) (hrnr : w.processing.rnr_retry < 0) :
    (processOnQpScheduler cfg now n).send_buffer = n.send_buffer ∧
      (processOnQpScheduler cfg now n).qp.wqeQ.errors = n.qp.wqeQ.errors ∧
      (processOnQpScheduler cfg now n).qp.sendQ.waiting = [] ∧
      ∃ ws, (processOnQpScheduler cfg now n).qp.sendQ.sending =
        (w.setSchedule now).setStatus .RNR_RETRY_EXC_ERR :: ws := by
  obtain ⟨m, ws, hm, hw, hwait, n', hn', hrun⟩ := h.schedule cfg
  obtain ⟨-, herr, hlisted⟩ := turn_wqeQ hm
  have hwl : w.processing.list_type = .SENDING := hlisted hl w (by simp [Qp.sendQ, hw])
  rw [processSendWr_exhausted cfg now _ ws (w := w.setSchedule now) hwl hst hlocal hretry hrnr] at hn'
  have hbuf := turn_send_buffer hm
  have hlists : n'.qp.sendLists = ⟨[], (w.setSchedule now).setStatus .RNR_RETRY_EXC_ERR :: ws,
      m.qp.requester.submitted_swqe, m.qp.wqeQ.errors⟩ := by
    rw [hn']
    simp only [Node.setQp_qp, Qp.setInFlight, Qp.sendLists, hwait]
    rfl
  have hbuf' : n'.send_buffer = m.send_buffer := by rw [hn']; rfl
  have hsq := sendQ_rescheduleQp now n'.qp
  rw [hrun, Node.setQp_qp, hsq, wqeQ_of_sendQ hsq, wqeQ_lists, hlists]
  exact ⟨hbuf'.trans hbuf, herr, congrArg SendLists.waiting hlists, ws,
    congrArg SendLists.sending hlists⟩

/-- A turn that goes to an element that has failed completes it. -/
theorem failed_turn (cfg : Config) {v : SendWqe}
    (h : FirstTurn now n w) (hwait : n.qp.sendQ.waiting = []) (hs : n.qp.sendQ.sending = v :: ws)
    (hl : v.processing.list_type = .SENDING) (hst : v.processing.status = .RNR_RETRY_EXC_ERR) :
    (processOnQpScheduler cfg now n).qp.wqeQ.errors =
      n.qp.wqeQ.errors ++ [errorWc v .RNR_RETRY_EXC_ERR] := by
  obtain ⟨m, ws', hm, hw, -, n', hn', hrun⟩ := h.schedule cfg
  obtain rfl := turn_of_sending hm hwait (fun hnil => nomatch hnil.symm.trans hs)
  obtain ⟨rfl, rfl⟩ := List.cons.inj (hw.symm.trans hs)
  rw [hrun, Node.setQp_qp, wqeQ_of_sendQ (sendQ_rescheduleQp now n'.qp), hn']
  exact errors_processSendWr cfg now _ ws' hl hst

/-- The turn after it completes the work request with `RNR_RETRY_EXC_ERR`. -/
theorem completed_in_error (cfg : Config) {now' : Nat}
    (h : FirstTurn now n w) (hl : Listed n.qp.sendQ) (hst : w.processing.status = .SUCCESS)
    (hlocal : w.local_only_request = false) (hretry : 0 ≤ w.processing.retry_cnt)
    (hrnr : w.processing.rnr_retry < 0)
    (h' : FirstTurn now' { processOnQpScheduler cfg now n with send_buffer := none } w') :
    (processOnQpScheduler cfg now'
      { processOnQpScheduler cfg now n with send_buffer := none }).qp.wqeQ.errors =
      n.qp.wqeQ.errors ++ [errorWc w .RNR_RETRY_EXC_ERR] := by
  have hwl : w.processing.list_type = .SENDING := by
    obtain ⟨m, ws, hm, hw, -⟩ := h.up
    exact (turn_wqeQ hm).2.2 hl w (by simp [Qp.sendQ, hw])
  obtain ⟨-, herr, hwait, ws, hs⟩ := exhausted_turn cfg h hl hst hlocal hretry hrnr
  rw [← herr]
  generalize processOnQpScheduler cfg now n = n' at h' hwait hs
  have hdone := failed_turn cfg h' hwait hs hwl rfl
  exact hdone

/-! ## Runs -/

namespace Watched

/-- A request that the next turn sends at this time is of the element that is up; if that
is the first one in flight, what is asked of it holds. -/
def Sends (cfg : Config) (ibModifyQpIsOk : QpState → QpState → AttrMask → Bool) (s : Watched)
    (now : Nat) (P : Prop) : Prop :=
  ∀ p, (pib.step cfg ibModifyQpIsOk s.node (now, .schedule)).send_buffer = some p →
    pibOpcodeIsAcknowledge p.opcode ≠ some true →
    ∃ m w ws, sendingTurn now { s.node with send_buffer := none } = some m ∧
      m.qp.requester.sending_swqe = w :: ws ∧ IsNextPacket p w ∧
      (m.qp.requester.waiting_swqe = [] → P)

/-- The first work request in flight is sent again only when its time has come. -/
def Delays (cfg : Config) (ibModifyQpIsOk : QpState → QpState → AttrMask → Bool) (s : Watched) :
    Prop :=
  ∀ now, s.Sends cfg ibModifyQpIsOk now (s.release ≤ now)

/-- The first work request in flight fails with `RNR_RETRY_EXC_ERR` after as many RNR
NAKs as its retries do not cover, and only then. -/
structure Counts (cfg : Config) (ibModifyQpIsOk : QpState → QpState → AttrMask → Bool)
    (s : Watched) : Prop where
  /-- with retries left no step reports it; only a reset takes such reports back -/
  spares : ¬ Exhausted s.node.qp.attr.rnr_retry s.naks → ∀ x, s.Fair cfg ibModifyQpIsOk x →
    rnrErrors (pib.step cfg ibModifyQpIsOk s.node x).qp.send_cq = rnrErrors s.node.qp.send_cq ∨
      rnrErrors (pib.step cfg ibModifyQpIsOk s.node x).qp.send_cq = []
  /-- without, it is not sent again -/
  stops : ∀ now, s.Sends cfg ibModifyQpIsOk now (¬ Exhausted s.node.qp.attr.rnr_retry s.naks)
  /-- and two turns report it, if nothing else is wrong with it -/
  fails : Exhausted s.node.qp.attr.rnr_retry s.naks → ∀ now w,
    FirstTurn now { s.node with send_buffer := none } w → w.processing.status = .SUCCESS →
    w.local_only_request = false → 0 ≤ w.processing.retry_cnt →
    let n := pib.step cfg ibModifyQpIsOk s.node (now, .schedule)
    n.send_buffer = none ∧ ∀ now' w', FirstTurn now' { n with send_buffer := none } w' →
      rnrErrors (pib.step cfg ibModifyQpIsOk n (now', .schedule)).qp.send_cq =
        rnrErrors s.node.qp.send_cq ++ [errorWc w .RNR_RETRY_EXC_ERR]

/-- The scheduler sends in agreement with the watch. -/
theorem sends_of_agrees {s : Watched} (h : s.Agrees hold) (now : Nat) :
    s.Sends cfg isOk now
      (hold s ≤ now ∧ ¬ Exhausted s.node.qp.attr.rnr_retry s.naks) := by
  intro p hsent hreq
  obtain ⟨m, w, ws, hturn, hw, hp⟩ := scheduler_sends cfg now rfl hsent hreq
  exact ⟨m, w, ws, hturn, hw, hp.next,
    Spaced.sends (n := { s.node with send_buffer := none }) h hturn hw hp⟩

theorem Sends.imp {s : Watched} {P Q : Prop} (hPQ : P → Q)
    (h : s.Sends cfg isOk now P) : s.Sends cfg isOk now Q := by
  intro p hsent hreq
  obtain ⟨m, w, ws, hturn, hw, hp, hP⟩ := h p hsent hreq
  exact ⟨m, w, ws, hturn, hw, hp, fun hwait => hPQ (hP hwait)⟩

/-- No step reports `RNR_RETRY_EXC_ERR` before its time. -/
theorem spares_of_agrees {s : Watched} (h : s.Agrees fun _ => 0)
    (hleft : ¬ Exhausted s.node.qp.attr.rnr_retry s.naks) {x : Nat × Act}
    (hx : s.Fair cfg isOk x) :
    rnrErrors (pib.step cfg isOk s.node x).qp.send_cq = rnrErrors s.node.qp.send_cq ∨
      rnrErrors (pib.step cfg isOk s.node x).qp.send_cq = [] := by
  obtain ⟨now, a⟩ := x
  rcases htaken : rnrTaken cfg s.node.qp a with _ | time
  · obtain ⟨-, herr⟩ := spaced_other isOk htaken now h
    rcases herr with herr | herr | hex
    · exact Or.inl herr
    · exact Or.inr herr
    · exact absurd hex hleft
  · have hop := hx.1 (by simp only [htaken, Option.isSome_some])
    exact Or.inl (spaced_rnr isOk htaken hop now h
      (Nat.zero_le time)).2

theorem counts_of_agrees {s : Watched} (h : s.Agrees fun _ => 0) (hl : Listed s.node.qp.sendQ) :
    s.Counts cfg isOk := by
  refine ⟨fun hleft x hx => spares_of_agrees h hleft hx,
    fun now => (sends_of_agrees h now).imp And.right, ?_⟩
  intro hex now w hturn hst hlocal hretry
  have hneg : w.processing.rnr_retry < 0 := by
    obtain ⟨m, ws, hm, hw, hwait, -⟩ := hturn.up
    rcases turn_first hm hw hwait with hidle | hhead
    · exact absurd hex.2 (by simp [(h.idle hidle).1])
    have hleft : w.processing.rnr_retry = rnrLeft s.node.qp.attr.rnr_retry s.naks :=
      h.left w.lasting hhead
    rw [hleft]
    exact rnrLeft_neg.mpr hex
  exact ⟨(exhausted_turn cfg hturn hl hst hlocal hretry hneg).1, fun now' w' hturn' =>
    completed_in_error cfg hturn hl hst hlocal hretry hneg hturn'⟩

theorem listed_watched (cfg : Config) (isOk : StateCheck)
    (s : Watched) (x : Nat × Act) (h : Listed s.node.qp.sendQ) :
    Listed (s.step cfg isOk x).node.qp.sendQ := by
  have hstep := listed_step cfg isOk s.node x h
  unfold step
  dsimp only
  split
  · exact hstep
  · split <;> exact hstep

end Watched

/-- In every run whose RNR NAKs are for opcodes that the driver knows, the first work
request in flight fails when its retries are used up and not before. In every run
whose RNR NAKs moreover come at time 0 it is not sent again before its time has come:
the element that an RNR NAK is for is held for as long as that asks at time 0 only. -/
theorem rnr_backOff (cfg : Config) (ibModifyQpIsOk : QpState → QpState → AttrMask → Bool)
    (init_attr : QpInitAttr) (srq : Option Srq) (pd : Pd) (mem : Mem) (xs : List (Nat × Act)) :
    let start := Watched.start cfg init_attr srq pd mem
    let s := Run.run (Watched.step cfg ibModifyQpIsOk) start xs
    (Run.Meets (Watched.step cfg ibModifyQpIsOk) (Watched.Fair cfg ibModifyQpIsOk) start xs →
      s.Counts cfg ibModifyQpIsOk) ∧
    (Run.Meets (Watched.step cfg ibModifyQpIsOk)
        (fun s x => s.Fair cfg ibModifyQpIsOk x ∧ s.InTime cfg x) start xs →
      s.Delays cfg ibModifyQpIsOk) ∧
    (∀ now a, ∀ time ∈ rnrTaken cfg s.node.qp a,
      s.node.qp.sendQ.head?.map SendWqe.opcode ≠ some .SEND_WITH_INV →
      ∀ w ∈ (step cfg ibModifyQpIsOk s.node (now, a)).qp.sendQ.head?,
        now + time ≤ w.processing.schedule_time ↔ now = 0) := by
  intro start s
  have hlisted : Listed s.node.qp.sendQ :=
    Run.always (I := fun s : Watched => Listed s.node.qp.sendQ)
      (Watched.listed_watched cfg ibModifyQpIsOk) (Listed.empty rfl) xs
  refine ⟨fun hm => ?_, fun hm now => ?_, fun now a time htaken hop w hw => ?_⟩
  · have hagrees := Run.invariant (I := fun s => Watched.Agrees (fun _ => 0) s)
      (fun _ _ hs hx => Watched.agrees_retries hs hx)
      (Watched.start_agrees cfg init_attr srq pd mem rfl) hm
    exact Watched.counts_of_agrees hagrees hlisted
  · have hagrees := Run.invariant (I := fun s => Watched.Agrees Watched.release s)
      (fun _ _ hs hx => Watched.agrees_times hs hx)
      (Watched.start_agrees cfg init_attr srq pd mem rfl) hm
    exact (Watched.sends_of_agrees hagrees now).imp And.left
  · rw [rnr_stored htaken hop now w hw]
    omega

/-- A work request is sent at once and an RNR NAK that asks for 655 jiffies comes back. -/
def rnrRun (now : Nat) (opcode : WrOpcode) (rnr_retry : Nat) : List (Nat × Act) :=
  bringUp { timeout := 14, retry_cnt := 7, rnr_retry, sq_psn := 5, path_mtu := 1, port_num := 1 } ++
    [(now, .postSend (fun _ _ => some [1, 2, 3, 4])
        [{ wr_id := 9, opcode, send_flags := { INLINE := true }
           sg_list := [{ addr := 0, length := 4, lkey := 0 }] }]),
     (now, .schedule),
     (now, .receive 1 { opcode := .ACKNOWLEDGE, psn := 5, buffer := [0x20, 0, 0, 0] })]

def rnrStart : Watched :=
  Watched.start {} { max_inline_data := 4 } none ⟨0, fun _ => none⟩ fun _ => 0

/-- An RNR NAK at time 0: the work request is held, and not yet given up. -/
theorem rnr_backOff_rnrRun :
    let s := Run.run (Watched.step {} ibStateTable) rnrStart (rnrRun 0 .SEND 1)
    (s.naks = 1 ∧ s.release = 655) ∧ s.Counts {} ibStateTable ∧ s.Delays {} ibStateTable := by
  have h := rnr_backOff {} ibStateTable { max_inline_data := 4 } none ⟨0, fun _ => none⟩
    (fun _ => 0) (rnrRun 0 .SEND 1)
  exact ⟨by decide, h.1 (by decide), h.2.1 (by decide)⟩

/-- What goes wrong in a state, read off the next turn: a request of the first element in
flight goes out although this should not be. -/
theorem not_sends {s : Watched} {P : Prop} (hP : ¬ P)
    (hsent : ((pib.step cfg isOk s.node (now, .schedule)).send_buffer.map fun p =>
      decide (pibOpcodeIsAcknowledge p.opcode ≠ some true)) = some true)
    (hfirst : ((sendingTurn now { s.node with send_buffer := none }).map fun m =>
      m.qp.requester.waiting_swqe.isEmpty) = some true) : ¬ s.Sends cfg isOk now P := by
  intro h
  obtain ⟨p, hp, hack⟩ := Option.map_eq_some_iff.mp hsent
  obtain ⟨m, w, ws, hturn, -, -, hPm⟩ := h p hp (of_decide_eq_true hack)
  rw [hturn] at hfirst
  exact hP (hPm (List.isEmpty_iff.mp (Option.some.inj hfirst)))

/-- A SEND that is to be left alone for 655 jiffies is sent again at once. A
`SEND_WITH_INV` without retries is sent again as well. -/
theorem rnr_nak_ignored :
    let s := Run.run (Watched.step {} ibStateTable) rnrStart (rnrRun 1000 .SEND 1)
    let v := Run.run (Watched.step {} ibStateTable) rnrStart (rnrRun 1000 .SEND_WITH_INV 0)
    ((s.naks = 1 ∧ s.release = 1655) ∧ ¬ s.Sends {} ibStateTable 1000 (s.release ≤ 1000)) ∧
    (Exhausted v.node.qp.attr.rnr_retry v.naks ∧
      ¬ v.Sends {} ibStateTable 1000 (¬ Exhausted v.node.qp.attr.rnr_retry v.naks)) :=
  ⟨⟨by decide, not_sends (by decide) (by decide) (by decide)⟩,
    ⟨by decide, not_sends (by decide) (by decide) (by decide)⟩⟩

end pib
