-- The laws of the send queue over whole runs of a queue pair, from its
-- creation through every change of state.
import Pib.SendInvariant
import Pib.Crashes

namespace pib

open Bytes

variable (cfg : Config) (isOk : StateCheck) (now : Nat)
    (n : Node) (q : Qp) {ids : List Nat} {s : SendQ} {b e : Nat} {ws : List SendWqe}

/-! ## `modify_qp` -/

/-- The transitions of the verbs layer's state table for an RC queue pair. -/
def ibTransition : QpState → QpState → Bool
  | _, .RESET => true
  | .RESET, .INIT | .INIT, .INIT | .INIT, .RTR | .RTR, .RTS | .RTS, .RTS | .RTS, .SQD
  | .SQD, .RTS | .SQD, .SQD | .SQE, .RTS => true
  | .RESET, .ERR => false
  | _, .ERR => true
  | _, _ => false

/-- What the verbs layer's check is relied on for: it follows its state table,
and lets the PSN of the send queue be set from RTR to RTS only. -/
structure IbTable (ibModifyQpIsOk : QpState → QpState → AttrMask → Bool) : Prop where
  transition : ∀ {cur new mask}, ibModifyQpIsOk cur new mask = true → ibTransition cur new = true
  sq_psn : ∀ {cur new mask}, ibModifyQpIsOk cur new mask = true → mask.SQ_PSN = true →
    cur = .RTR ∧ new = .RTS

theorem sendQ_setAttrs (attr : ModifyAttr) (mask : AttrMask) :
    ∃ a t m, (setAttrs cfg q attr mask).sendQ = { q.sendQ with
      attr := a, local_ack_timeout := t, max_rd_atomic := m
      psn := if mask.SQ_PSN then psnMask attr.sq_psn else q.sendQ.psn
      expected_psn := if mask.SQ_PSN then psnMask attr.sq_psn else q.sendQ.expected_psn } :=
  ⟨_, _, _, rfl⟩

/-- The laws read neither the attributes nor the timeouts. -/
theorem SendInv.of_frame {s' : SendQ} (hi : SendInv ids s)
    (h : ∃ a t m, s' = { s with attr := a, local_ack_timeout := t, max_rd_atomic := m }) :
    SendInv ids s' := by
  obtain ⟨a, t, m, rfl⟩ := h
  obtain ⟨h1, h2, h3, h4, ⟨h5, h6⟩, h7, ⟨h8, h9, h10⟩⟩ := hi
  exact ⟨h1, h2, h3, h4, ⟨h5, h6⟩, h7, ⟨h8, h9, h10⟩⟩

/-- New attributes keep the laws: where they set the PSN, nothing is in flight. -/
theorem sendInv_setAttrs {q : Qp} (attr : ModifyAttr)
    (mask : AttrMask) (hpsn : mask.SQ_PSN = true → q.state = .RTR) (hi : SendInv ids q.sendQ) :
    SendInv ids (setAttrs cfg q attr mask).sendQ := by
  obtain ⟨a, t, m, he⟩ := sendQ_setAttrs cfg q attr mask
  rw [he]
  cases hm : mask.SQ_PSN with
  | false => exact hi.of_frame ⟨a, t, m, by simp⟩
  | true =>
    have hst : q.sendQ.state = .RTR := hpsn hm
    have hidle : q.sendQ.flight = [] := hi.psns.idle (by simp [hst]) (by simp [hst])
    obtain ⟨h1, h2, h3, h4, -, h7, ⟨h8, h9, h10⟩⟩ := hi
    refine ⟨h1, h2, h3, h4, ⟨⟨psnMask attr.sq_psn, ?_, fun _ => rfl⟩, fun _ _ => hidle⟩, h7,
      ⟨h8, h9, h10⟩⟩
    have hfl : SendQ.flight { q.sendQ with
        attr := a, local_ack_timeout := t, max_rd_atomic := m
        psn := psnMask attr.sq_psn, expected_psn := psnMask attr.sq_psn } = [] := hidle
    simp only [if_true]
    rw [hfl]
    rfl

/-- A reset empties the queue and starts its PSNs at zero. -/
theorem sendQ_resetQp :
    (resetQp cfg now q).sendQ = { q.sendQ with
      local_ack_timeout := pibGetLocalAckTime cfg.HZ q.attr.timeout, psn := 0, expected_psn := 0
      free := q.sendQ.allFree, waiting := [], sending := [], submitted := []
      nr_waiting := 0, nr_sending := 0, nr_submitted := 0, nr_rd_atomic := 0, cq := [] } := by
  unfold resetQp
  dsimp only
  rw [sendQ_clearContig, sendQ_rescheduleQp, (foldl_freeRecvWqe _ _).choose_spec.choose_spec]
  rfl

theorem keys_allFree (s : SendQ) : s.allFree.map SendWqe.key = s.keys := by
  simp [SendQ.allFree, SendQ.keys, SendQ.flight]

/-- A queue that holds nothing but free elements meets the laws. -/
theorem sendInv_empty (hrc : s.qp_type = .RC) (hids : (s.keys.map Prod.fst).Perm ids)
    (hn : NoLocal s) (hlists : s.waiting = [] ∧ s.sending = [] ∧ s.submitted = [])
    (hcount : s.nr_waiting = 0 ∧ s.nr_sending = 0 ∧ s.nr_submitted = 0 ∧ s.nr_rd_atomic = 0)
    (hpsn : s.state = .ERR ∨ s.expected_psn = s.psn) : SendInv ids s := by
  obtain ⟨hw, hs, hsub⟩ := hlists
  obtain ⟨n1, n2, n3, n4⟩ := hcount
  have hfl : s.flight = [] := by simp [SendQ.flight, hw, hs]
  refine ⟨hrc, ⟨by simp [n3, hsub], by simp [n2, hs], by simp [n1, hw]⟩, hids, hn,
    ⟨⟨s.expected_psn, ?_, ?_⟩, fun _ _ => hfl⟩, ?_, ⟨?_, ?_, ?_⟩⟩
  · rw [hfl]
    rfl
  · intro hne
    rw [hpsn.resolve_left hne]
  · rw [RdAtomics, hfl, n4]
    rfl
  all_goals simp [hw, hs, hsub]

/-- A new state that is neither reset nor error leaves the queue as it is. -/
theorem sendInv_setState (new : QpState) (hi : SendInv ids s) (herr : s.state ≠ .ERR)
    (hidle : new ≠ .RTS → new ≠ .SQD → s.flight = []) : SendInv ids { s with state := new } := by
  obtain ⟨h1, h2, h3, h4, ⟨⟨b, hc, hb⟩, -⟩, h7, ⟨h8, h9, h10⟩⟩ := hi
  exact ⟨h1, h2, h3, h4, ⟨⟨b, hc, fun _ => hb herr⟩, hidle⟩, h7, ⟨h8, h9, h10⟩⟩

theorem sendInv_enterState {q : Qp} {new : QpState}
    (ht : ibTransition q.state new = true) (hne : new ≠ .SQE) (hi : SendInv ids q.sendQ) :
    SendInv ids (enterState cfg now q new).sendQ := by
  have hidle := hi.psns.idle
  have hst : q.sendQ.state = q.state := rfl
  cases new with
  | RESET =>
    have he := sendQ_resetQp cfg now { q with state := .RESET }
    have he' : (enterState cfg now q .RESET).sendQ =
        (resetQp cfg now { q with state := .RESET }).sendQ := rfl
    have hk := keys_allFree q.sendQ
    rw [show Qp.sendQ { q with state := .RESET } = { q.sendQ with state := .RESET } from rfl,
      show SendQ.allFree { q.sendQ with state := .RESET } = q.sendQ.allFree from rfl] at he
    rw [he', he]
    refine sendInv_empty hi.rc ?_ ?_ ⟨rfl, rfl, rfl⟩ ⟨rfl, rfl, rfl, rfl⟩ (Or.inr rfl)
    · have hids := hi.ids
      rw [← hk] at hids
      simpa [SendQ.keys, SendQ.flight] using hids
    · intro k hmem
      refine hi.noLocal k ?_
      rw [← hk]
      simpa [SendQ.keys, SendQ.flight] using hmem
  | INIT =>
    refine sendInv_setState .INIT hi ?_ fun _ _ => hidle ?_ ?_ <;>
      (rw [hst]; cases h : q.state <;> simp_all [ibTransition])
  | RTR =>
    refine sendInv_setState .RTR hi ?_ fun _ _ => hidle ?_ ?_ <;>
      (rw [hst]; cases h : q.state <;> simp_all [ibTransition])
  | RTS =>
    refine sendInv_setState .RTS hi ?_ fun h => absurd rfl h
    rw [hst]
    cases h : q.state <;> simp_all [ibTransition]
  | SQD =>
    refine sendInv_setState .SQD hi ?_ fun _ h => absurd rfl h
    rw [hst]
    cases h : q.state <;> simp_all [ibTransition]
  | SQE => exact absurd rfl hne
  | ERR =>
    have he : (enterState cfg now q .ERR).sendQ = (failQp now q).sendQ := rfl
    rw [he, sendQ_failQp]
    exact sendInv_move (c := Ctx.any 0) (Move.failAll (allFree_perm _))
      (by simp) hi

@[simp] theorem sendQ_settleState (cur new : QpState) (drained : Bool) :
    (settleState now q cur new drained).sendQ = q.sendQ := by
  have h : ∀ b : Bool, Qp.sendQ { (if b then q.insertEvent .SQ_DRAINED else q) with
      issue_sq_drained := true } = q.sendQ := by
    intro b
    cases b <;> rfl
  unfold settleState
  dsimp only
  generalize hq : (if drained = true then _ else q) = q₁
  have h₁ : q₁.sendQ = q.sendQ := by
    rw [← hq]
    split
    · exact h _
    · rfl
  generalize hq₂ : (if cur = .SQD ∧ new ≠ .SQD then _ else q₁) = q₂
  have h₂ : q₂.sendQ = q₁.sendQ := by
    rw [← hq₂]
    split <;> rfl
  split
  · rw [sendQ_getReadyToSend, h₂, h₁]
  · rw [h₂, h₁]

/-- The state that a call of `pib_modify_qp` takes for the current one. -/
def curState (q : Qp) (attr : ModifyAttr) (mask : AttrMask) : QpState :=
  if mask.CUR_STATE then attr.cur_qp_state else q.state

/-- What `pib_modify_qp` can do to a queue pair: nothing, set its attributes,
or set them and enter a new state. -/
theorem pibModifyQp_settles (attr : ModifyAttr) (mask : AttrMask) :
    (pibModifyQp cfg isOk now q attr mask).1 = q ∨
    ((∃ new, isOk (curState q attr mask) new mask = true) ∧
      (pibModifyQp cfg isOk now q attr mask).1 = setAttrs cfg q attr mask) ∨
    (mask.STATE = true ∧ isOk (curState q attr mask) attr.qp_state mask = true ∧
      ¬(attr.qp_state = .SQE ∧ q.qp_type = .RC) ∧
      (pibModifyQp cfg isOk now q attr mask).1 =
        settleState now (enterState cfg now (setAttrs cfg q attr mask) attr.qp_state)
          (curState q attr mask) attr.qp_state
          (decide (q.requester.sending_swqe = [] ∧ q.requester.waiting_swqe = []))) := by
  unfold pibModifyQp
  dsimp only
  rw [show (if mask.CUR_STATE then attr.cur_qp_state else q.state) = curState q attr mask from rfl]
  generalize hnew : (if mask.STATE = true then attr.qp_state else curState q attr mask) = new
  generalize decide (q.requester.sending_swqe = [] ∧ q.requester.waiting_swqe = []) = drained
  by_cases h1 : curState q attr mask = .SQD ∧ (new = .SQD ∨ new = .RTS) ∧ drained = false
  · rw [if_pos h1]
    exact Or.inl rfl
  rw [if_neg h1]
  by_cases h2 : isOk (curState q attr mask) new mask = false
  · rw [if_pos h2]
    exact Or.inl rfl
  rw [if_neg h2]
  have h2 : isOk (curState q attr mask) new mask = true := by simpa using h2
  by_cases h3 : modifyQpIsOk cfg q (curState q attr mask) attr mask = false
  · rw [if_pos h3]
    exact Or.inl rfl
  rw [if_neg h3, changeState]
  by_cases h4 : mask.STATE = false
  · rw [if_pos h4]
    exact Or.inr (Or.inl ⟨⟨new, h2⟩, rfl⟩)
  have h4' : mask.STATE = true := by simpa using h4
  obtain rfl : attr.qp_state = new := by simpa [h4'] using hnew
  rw [if_neg h4]
  by_cases h5 : attr.qp_state = .SQE ∧ (setAttrs cfg q attr mask).qp_type = .RC
  · rw [if_pos h5]
    exact Or.inr (Or.inl ⟨⟨_, h2⟩, rfl⟩)
  rw [if_neg h5]
  split
  · exact Or.inr (Or.inl ⟨⟨_, h2⟩, rfl⟩)
  · exact Or.inr (Or.inr ⟨h4', h2, h5, rfl⟩)

/-- Entering a state changes neither the type nor the attributes. -/
theorem enterState_frame (new : QpState) :
    (enterState cfg now q new).state = new ∧ (enterState cfg now q new).qp_type = q.qp_type ∧
      (enterState cfg now q new).attr = q.attr := by
  cases new with
  | RESET =>
    have h := sendQ_resetQp cfg now { q with state := .RESET }
    exact ⟨congrArg SendQ.state h, congrArg SendQ.qp_type h, congrArg SendQ.attr h⟩
  | ERR =>
    have h := sendQ_failQp now q
    exact ⟨congrArg SendQ.state h, congrArg SendQ.qp_type h, congrArg SendQ.attr h⟩
  | SQE =>
    unfold enterState pibUtilFlushQp flushSendQueue
    simp only [foldl_flushSendWqe]
    exact ⟨rfl, rfl, rfl⟩
  | _ => exact ⟨rfl, rfl, rfl⟩

theorem qp_type_modify (attr : ModifyAttr) (mask : AttrMask) :
    (pibModifyQp cfg isOk now q attr mask).1.qp_type = q.qp_type := by
  rcases pibModifyQp_settles cfg isOk now q attr mask with h | ⟨-, h⟩ | ⟨-, -, -, h⟩
  · rw [h]
  · rw [h]
    rfl
  rw [h]
  refine (congrArg SendQ.qp_type (sendQ_settleState now _ _ _ _)).trans ?_
  exact (enterState_frame cfg now (setAttrs cfg q attr mask) attr.qp_state).2.1

/-- `pib_modify_qp` keeps the laws, when the caller names the actual state. -/
theorem sendInv_modify {isOk : StateCheck}
    (hok : IbTable isOk) (cfg : Config) (now : Nat) {q : Qp} {attr : ModifyAttr}
    {mask : AttrMask} (hcur : mask.CUR_STATE = true → attr.cur_qp_state = q.state)
    (hi : SendInv ids q.sendQ) :
    SendInv ids (pibModifyQp cfg isOk now q attr mask).1.sendQ := by
  have hc : curState q attr mask = q.state := by
    unfold curState
    split
    · exact hcur ‹_›
    · rfl
  have hset : ∀ {new}, isOk q.state new mask = true →
      SendInv ids (setAttrs cfg q attr mask).sendQ :=
    fun h => sendInv_setAttrs cfg attr mask (fun hm => (hok.sq_psn h hm).1) hi
  rcases pibModifyQp_settles cfg isOk now q attr mask with h | ⟨⟨new, hnew⟩, h⟩ |
    ⟨-, hnew, hsqe, h⟩
  · rw [h]
    exact hi
  · rw [h]
    exact hset (hc ▸ hnew)
  · rw [hc] at hnew
    rw [h, sendQ_settleState]
    exact sendInv_enterState cfg now (hok.transition hnew) (fun he => hsqe ⟨he, hi.rc⟩) (hset hnew)

/-! ## Runs -/

/-- A step of a run: something happens at a time. -/
def step (cfg : Config) (ibModifyQpIsOk : QpState → QpState → AttrMask → Bool) (n : Node)
    (x : Nat × Act) : Node :=
  act cfg ibModifyQpIsOk x.1 n x.2

/-- A node whose queue pair has just been created. -/
def created (cfg : Config) (init_attr : QpInitAttr) (srq : Option Srq) (pd : Pd) (mem : Mem) : Node :=
  { qp := pibCreateQp cfg .RC init_attr srq, pd, mem }

/-- Every step but a change of state is a run of moves, when no local request
waits first. -/
theorem moves_step (now : Nat) (a : Act) (hmod : ∀ attr mask, a ≠ .modify attr mask)
    (hlocal : a = .schedule →
      ∀ w ws, n.qp.requester.waiting_swqe = w :: ws → w.local_only_request = false) :
    Moves (Ctx.any now) n.qp.sendQ (a.accepted cfg n.qp)
      (step cfg isOk n (now, a)).qp.sendQ := by
  exact moves_act (c := Ctx.any now) cfg isOk hmod hlocal fun _ => trivial

/-- A step that neither posts nor calls `pib_modify_qp` is a run of moves, or
carries out a local request. -/
theorem step_moves {c : Ctx} {a : Act} (hpost : ∀ copyFromUser wrs, a ≠ .postSend copyFromUser wrs)
    (hmod : ∀ attr mask, a ≠ .modify attr mask)
    (hc : (a.rnrNak cfg n.qp).isSome = true → c.rnr) :
    Moves c n.qp.sendQ [] (step cfg isOk n (c.now, a)).qp.sendQ ∨
      ∃ w ws, n.qp.sendQ.waiting = w :: ws ∧
        LocalDone n.qp.sendQ ws (step cfg isOk n (c.now, a)).qp.sendQ := by
  have hmoves := fun hl => moves_act (c := c) cfg isOk (n := n) hmod hl hc
  cases a with
  | postSend copyFromUser wrs => exact absurd rfl (hpost copyFromUser wrs)
  | schedule =>
    rcases schedule_localHead cfg c.now { n with send_buffer := none } with hl | he |
      ⟨w, ws, hw, -, -, -, he⟩
    · exact Or.inl (hmoves fun _ => hl)
    · exact Or.inl (Moves.of_eq he)
    · have hd := localDone_localHead cfg c.now (n := { n with send_buffer := none }) hw
      rw [← he] at hd
      exact Or.inr ⟨w, ws, hw, hd⟩
  | _ => exact Or.inl (hmoves (by simp))

theorem step_cases (now : Nat) (a : Act) :
    (∃ copyFromUser wrs, a = .postSend copyFromUser wrs) ∨ (∃ attr mask, a = .modify attr mask) ∨
      Moves (Ctx.any now) n.qp.sendQ [] (step cfg isOk n (now, a)).qp.sendQ ∨
      ∃ w ws, n.qp.sendQ.waiting = w :: ws ∧
        LocalDone n.qp.sendQ ws (step cfg isOk n (now, a)).qp.sendQ := by
  by_cases hp : ∃ copyFromUser wrs, a = .postSend copyFromUser wrs
  · exact Or.inl hp
  by_cases hm : ∃ attr mask, a = .modify attr mask
  · exact Or.inr (Or.inl hm)
  exact Or.inr (Or.inr (step_moves (c := Ctx.any now) cfg isOk n
    (fun copyFromUser wrs he => hp ⟨copyFromUser, wrs, he⟩)
    (fun attr mask he => hm ⟨attr, mask, he⟩) fun _ => trivial))

/-- A law of the send queue that the moves keep, that a local request which is carried out keeps
and that the change of state at hand keeps, is kept by the step. -/
theorem law_step {I : SendQ → Prop}
    (hmove : ∀ {c : Ctx} {s s' : SendQ} {a : Option SendWr}, Move c s a s' → I s → I s')
    (hlocal : ∀ {s s' : SendQ} {w : SendWqe} {ws : List SendWqe}, s.waiting = w :: ws →
      LocalDone s ws s' → I s → I s')
    (cfg : Config) (isOk : StateCheck) {n : Node} {x : Nat × Act}
    (hmod : ∀ attr mask, x.2 = .modify attr mask →
      I (pibModifyQp cfg isOk x.1 n.qp attr mask).1.sendQ)
    (h : I n.qp.sendQ) : I (step cfg isOk n x).qp.sendQ := by
  obtain ⟨now, a⟩ := x
  rcases step_cases cfg isOk n now a with ⟨copyFromUser, wrs, rfl⟩ | ⟨attr, mask, rfl⟩ |
    hm | ⟨w, ws, hw, hd⟩
  · exact (moves_step cfg isOk n now _ (by simp) (by simp)).keep hmove h
  · exact hmod attr mask rfl
  · exact hm.keep hmove h
  · exact hlocal hw hd h

theorem acceptedWrs_subset (copyFromUser : UserCopy) (wrs : List SendWr) :
    ∀ (q : Qp) (total_length : Nat), ∀ wr ∈ acceptedWrs cfg copyFromUser q total_length wrs,
      wr ∈ wrs := by
  induction wrs with
  | nil =>
    intro q total_length wr h
    exact h
  | cons w wrs ih =>
    intro q total_length wr h
    unfold acceptedWrs at h
    split at h
    · simp at h
    rcases List.mem_cons.mp h with rfl | h
    · exact List.mem_cons_self
    · exact List.mem_cons_of_mem _ (ih _ _ wr h)

/-- The steps of the requester's life: posts of requests to the peer, the
scheduler, packets, failures, and changes of the actual state. -/
def QueueStep (n : Node) : Nat × Act → Prop
  | (_, .postSend _ wrs) => ∀ wr ∈ wrs, wr.isLocal = false
  | (_, .modify attr mask) => mask.CUR_STATE = true → attr.cur_qp_state = n.qp.state
  | _ => True

theorem sendInv_step {isOk : StateCheck}
    (hok : IbTable isOk) (cfg : Config) {n : Node} {x : Nat × Act} (hx : QueueStep n x)
    (hi : SendInv ids n.qp.sendQ) : SendInv ids (step cfg isOk n x).qp.sendQ := by
  obtain ⟨now, a⟩ := x
  have hlocal : ∀ w ws, n.qp.requester.waiting_swqe = w :: ws → w.local_only_request = false := by
    intro w ws hw
    refine hi.noLocal.flight ?_
    simp [SendQ.flight, Qp.sendQ, hw]
  by_cases hmod : ∃ attr mask, a = .modify attr mask
  · obtain ⟨attr, mask, rfl⟩ := hmod
    exact sendInv_modify hok cfg now hx hi
  refine sendInv_moves (moves_step cfg isOk n now a ?_ fun _ => hlocal) ?_ hi
  · exact fun attr mask h => hmod ⟨attr, mask, h⟩
  · intro wr hwr
    cases a with
    | postSend copyFromUser wrs => exact hx wr (acceptedWrs_subset cfg copyFromUser wrs _ _ wr hwr)
    | _ => simp [Act.accepted] at hwr

/-- The counter of RDMA READ and atomic requests never becomes negative. -/
theorem noCrash_step {n : Node} (x : Nat × Act)
    (hi : SendInv ids n.qp.sendQ) (h : Crash.nrRdAtomic ∉ n.crashes) :
    Crash.nrRdAtomic ∉ (step cfg isOk n x).crashes := by
  obtain ⟨now, a⟩ := x
  have hadds : KeepsCount n (step cfg isOk n (now, a)) := by
    cases a with
    | schedule =>
      refine adds_processOnQpScheduler cfg now (n := { n with send_buffer := none }) fun n' _ => ?_
      exact ⟨noRdAtomic_headers n'.qp.attr, fun _ _ _ => Or.inr (by decide),
        fun _ _ => Or.inr (by decide), fun _ _ _ => Or.inr (by decide)⟩
    | receive port_num p =>
      exact (keepsCount_receive cfg now port_num { n with send_buffer := none } p hi.rdAtomics).trans
        (Adds.qp _ _)
    | _ => exact Adds.same rfl
  intro hmem
  rcases hadds.mem hmem with h' | h'
  · exact h h'
  · exact h' rfl

/-! ## The requester's queue -/

/-- The elements in flight of a queue pair, in the order of their PSNs. -/
def Qp.flight (q : Qp) : List SendWqe := q.requester.waiting_swqe ++ q.requester.sending_swqe

/-- The laws of the requester's queue, in the fields of the queue pair. -/
structure QueueInvariant (max_send_wr : Nat) (q : Qp) : Prop where
  nr_submitted : q.requester.nr_submitted_swqe = q.requester.submitted_swqe.length
  nr_sending : q.requester.nr_sending_swqe = q.requester.sending_swqe.length
  nr_waiting : q.requester.nr_waiting_swqe = q.requester.waiting_swqe.length
  one_list : ((q.requester.free_swqe ++ q.requester.submitted_swqe ++ q.requester.sending_swqe ++
    q.requester.waiting_swqe).map SendWqe.trace_id).Perm (List.range' 1 max_send_wr)
  packets : ∀ w ∈ q.flight, w.processing.expected_psn =
    u32 (w.processing.based_psn + w.processing.all_packets)
  next : q.flight.IsChain fun w w' => w.processing.expected_psn = w'.processing.based_psn
  last : ∀ w ∈ q.flight.getLast?, w.processing.expected_psn = q.requester.expected_psn
  first : ∀ w ∈ q.flight.head?, w.processing.based_psn % PSN_MOD = q.requester.psn % PSN_MOD
  acked : ∀ w ∈ q.flight, w.processing.ack_packets ≤ w.processing.all_packets
  sent : ∀ w ∈ q.requester.waiting_swqe, w.opcode ≠ .RDMA_READ →
    w.processing.sent_packets = w.processing.all_packets
  nr_rd_atomic : q.requester.nr_rd_atomic =
    q.flight.countP fun w => pibIsWrOpcodeRdAtomic w.opcode

theorem Chained.packets (h : Chained b ws e) :
    ∀ w ∈ ws, w.processing.expected_psn =
      u32 (w.processing.based_psn + w.processing.all_packets) := by
  induction ws generalizing b with
  | nil => simp
  | cons w ws ih =>
    obtain ⟨h1, h2, h3⟩ := h
    exact List.forall_mem_cons.mpr ⟨by rw [h2, h1], ih h3⟩

theorem Chained.isChain (h : Chained b ws e) :
    ws.IsChain fun w w' => w.processing.expected_psn = w'.processing.based_psn := by
  induction ws generalizing b with
  | nil => exact .nil
  | cons w ws ih =>
    obtain ⟨-, -, h3⟩ := h
    rcases ws with _ | ⟨w', ws⟩
    · exact .singleton _
    · exact .cons_cons h3.1.symm (ih h3)

theorem Chained.last (h : Chained b ws e) : ∀ w ∈ ws.getLast?, w.processing.expected_psn = e := by
  induction ws generalizing b with
  | nil => simp
  | cons w ws ih =>
    obtain ⟨-, -, h3⟩ := h
    rcases ws with _ | ⟨w', ws⟩
    · intro x hx
      obtain rfl : w = x := by simpa using hx
      exact h3
    · intro x hx
      exact ih h3 x (by simpa using hx)

/-- The laws of the abstract queue are the laws of the queue pair. -/
theorem SendInv.queueInvariant {max_send_wr : Nat} {q : Qp}
    (hi : SendInv (List.range' 1 max_send_wr) q.sendQ) (hst : q.state ≠ .ERR) :
    QueueInvariant max_send_wr q := by
  obtain ⟨b, hc, hb⟩ := hi.psns.chain
  have hb := hb hst
  refine { nr_submitted := hi.counted.1, nr_sending := hi.counted.2.1
           nr_waiting := hi.counted.2.2, one_list := ?_, packets := hc.packets
           next := hc.isChain, last := hc.last, first := ?_, acked := ?_
           sent := fun w hw => (hi.progress.waiting w hw).2, nr_rd_atomic := hi.rdAtomics }
  · refine List.Perm.trans ?_ hi.ids
    rw [SendQ.keys, List.map_map]
    refine List.Perm.map _ ?_
    simp only [List.append_assoc, SendQ.flight]
    refine List.Perm.append_left _ (List.perm_append_comm.trans ?_)
    rw [← List.append_assoc]
    exact List.Perm.append_right _ List.perm_append_comm
  · intro w hw
    have hw : q.sendQ.flight.head? = some w := hw
    rcases hfl : q.sendQ.flight with _ | ⟨x, xs⟩
    · rw [hfl] at hw
      simp at hw
    rw [hfl] at hw hc
    obtain rfl : x = w := by simpa using hw
    rw [hc.1]
    exact hb
  · intro w hw
    rcases List.mem_append.mp hw with hw | hw
    · exact (hi.progress.waiting w hw).1.1.le
    · exact (hi.progress.sending w hw).1.1.le

theorem created_sendInv (init_attr : QpInitAttr) (srq : Option Srq) (pd : Pd) (mem : Mem) :
    SendInv (List.range' 1 init_attr.max_send_wr) (created cfg init_attr srq pd mem).qp.sendQ := by
  refine sendInv_empty rfl ?_ ?_ ⟨rfl, rfl, rfl⟩ ⟨rfl, rfl, rfl, rfl⟩ (Or.inr rfl)
  · have h : (created cfg init_attr srq pd mem).qp.sendQ.keys.map Prod.fst =
        (List.range init_attr.max_send_wr).map (1 + ·) := by
      simp [created, SendQ.keys, SendQ.flight, Qp.sendQ, pibCreateQp, resetQpAttr, SendWqe.key,
        Function.comp_def, Nat.add_comm]
    rw [h, List.range'_eq_map_range]
  · intro k hk
    simp only [created, SendQ.keys, SendQ.flight, Qp.sendQ, pibCreateQp, resetQpAttr,
      List.append_nil, List.map_map, List.mem_map] at hk
    obtain ⟨i, -, rfl⟩ := hk
    rfl

/-- In every reachable state of an RC queue pair in RTS or SQD the laws of the
requester's queue hold, and the counter of RDMA READ and atomic requests has
never been found negative. -/
theorem requester_queue_invariant {ibModifyQpIsOk : QpState → QpState → AttrMask → Bool}
    (hok : IbTable ibModifyQpIsOk) (cfg : Config) (init_attr : QpInitAttr) (srq : Option Srq)
    (pd : Pd) (mem : Mem) (xs : List (Nat × Act))
    (hxs : Run.Meets (step cfg ibModifyQpIsOk) QueueStep (created cfg init_attr srq pd mem) xs) :
    let n := Run.run (step cfg ibModifyQpIsOk) (created cfg init_attr srq pd mem) xs
    (n.qp.state = .RTS ∨ n.qp.state = .SQD → QueueInvariant init_attr.max_send_wr n.qp) ∧
      Crash.nrRdAtomic ∉ n.crashes := by
  have hinv := Run.invariant (I := fun n => SendInv (List.range' 1 init_attr.max_send_wr) n.qp.sendQ ∧
    Crash.nrRdAtomic ∉ n.crashes)
    (fun n x hn hx => ⟨sendInv_step hok cfg hx hn.1, noCrash_step cfg ibModifyQpIsOk x hn.1 hn.2⟩)
    ⟨created_sendInv cfg init_attr srq pd mem, by simp [created]⟩ hxs
  refine ⟨fun hst => hinv.1.queueInvariant ?_, hinv.2⟩
  rcases hst with h | h <;> simp [h]

/-- A check that follows the state table and knows of no other rule. -/
def ibStateTable (cur new : QpState) (mask : AttrMask) : Bool :=
  ibTransition cur new && (!mask.SQ_PSN || (decide (cur = .RTR) && decide (new = .RTS)))

theorem ibTable_ibStateTable : IbTable ibStateTable := by
  refine ⟨fun {cur new mask} h => ?_, fun {cur new mask} h hm => ?_⟩
  · simp only [ibStateTable, Bool.and_eq_true] at h
    exact h.1
  · simpa [ibStateTable, hm] using And.right (by simpa [ibStateTable, hm] using h)

/-- The calls that bring a queue pair from RESET to RTS. -/
def bringUp (attr : ModifyAttr) : List (Nat × Act) :=
  [(0, .modify { attr with qp_state := .INIT } { STATE := true, PORT := true, PKEY_INDEX := true }),
   (0, .modify { attr with qp_state := .RTR }
      { STATE := true, AV := true, PATH_MTU := true, DEST_QPN := true, RQ_PSN := true,
        MAX_DEST_RD_ATOMIC := true, MIN_RNR_TIMER := true }),
   (0, .modify { attr with qp_state := .RTS }
      { STATE := true, TIMEOUT := true, RETRY_CNT := true, RNR_RETRY := true, SQ_PSN := true,
        MAX_QP_RD_ATOMIC := true })]

/-- An RDMA READ is posted to a queue pair in RTS and its request is sent. -/
def readRun : List (Nat × Act) :=
  bringUp { timeout := 14, retry_cnt := 7, sq_psn := 5, max_rd_atomic := 1, path_mtu := 1 } ++
    [(1, .postSend (fun _ _ => none)
        [{ wr_id := 9, opcode := .RDMA_READ, sg_list := [{ addr := 0, length := 600, lkey := 0 }] }]),
     (2, .schedule)]

theorem requester_queue_read :
    let n := Run.run (step {} ibStateTable) (created {} {} none ⟨0, fun _ => none⟩ fun _ => 0) readRun
    n.qp.requester.waiting_swqe.map (·.processing.based_psn) = [5] ∧
      QueueInvariant 16 n.qp ∧ Crash.nrRdAtomic ∉ n.crashes := by
  have h := requester_queue_invariant ibTable_ibStateTable {} {} none ⟨0, fun _ => none⟩
    (fun _ => 0) readRun ⟨by simp [QueueStep], by simp [QueueStep], by simp [QueueStep],
      by simp [QueueStep, SendWr.isLocal], trivial, trivial⟩
  exact ⟨by decide, h.1 (Or.inl (by decide)), h.2⟩

end pib
