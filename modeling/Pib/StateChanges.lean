-- The state of a queue pair over whole runs: which calls and events change
-- it, from which state, and how a queue pair gets out of the error state.
import Pib.ReceiveSide
import Pib.Ud

namespace pib

open Bytes

variable (cfg : Config) (now : Nat) {mask : AttrMask}

/-! ## The state after `modify_qp` -/

/-- A call that changes the state has had the change from the state it names
accepted by the verbs layer. -/
theorem state_modify (isOk : StateCheck)
    (now : Nat) (q : Qp) (attr : ModifyAttr) (mask : AttrMask) :
    (pibModifyQp cfg isOk now q attr mask).1.state = q.state ∨
      isOk (curState q attr mask)
        (pibModifyQp cfg isOk now q attr mask).1.state mask = true := by
  rcases pibModifyQp_settles cfg isOk now q attr mask with h | ⟨-, h⟩ | ⟨-, hok, -, h⟩
  · exact Or.inl (by rw [h])
  · exact Or.inl (by rw [h]; rfl)
  refine Or.inr ?_
  have hst : (pibModifyQp cfg isOk now q attr mask).1.state = attr.qp_state := by
    rw [h]
    refine (congrArg SendQ.state (sendQ_settleState now _ _ _ _)).trans ?_
    exact (enterState_frame cfg now (setAttrs cfg q attr mask) attr.qp_state).1
  rw [hst]
  exact hok

/-! ## The law -/

/-- The caller of `pib_modify_qp` names the actual state, if any. -/
def NamesState (state : QpState) (attr : ModifyAttr) (mask : AttrMask) : Prop :=
  mask.CUR_STATE = true → attr.cur_qp_state = state

/-- A change of state that keeps the law: the error state is left for RESET
only. -/
def LeavesByReset (state state' : QpState) : Prop :=
  state = .ERR → state' = .ERR ∨ state' = .RESET

/-- A change by `pib_modify_qp` is permitted from the actual state. -/
def Permitted (ibModifyQpIsOk : QpState → QpState → AttrMask → Bool) (state state' : QpState)
    (mask : AttrMask) : Prop :=
  state' ≠ state → ibModifyQpIsOk state state' mask = true

variable {ibModifyQpIsOk : QpState → QpState → AttrMask → Bool}

theorem permitted_modify {q : Qp} {attr : ModifyAttr} (hname : NamesState q.state attr mask) :
    Permitted ibModifyQpIsOk q.state (pibModifyQp cfg ibModifyQpIsOk now q attr mask).1.state
      mask := by
  intro hne
  have hcur : curState q attr mask = q.state := by
    unfold curState
    split
    · exact hname ‹_›
    · rfl
  have h := (state_modify cfg ibModifyQpIsOk now q attr mask).resolve_left hne
  rwa [hcur] at h

theorem leavesByReset_modify (hok : IbTable ibModifyQpIsOk) (cfg : Config) (now : Nat) {q : Qp}
    {attr : ModifyAttr} (hname : NamesState q.state attr mask) :
    LeavesByReset q.state (pibModifyQp cfg ibModifyQpIsOk now q attr mask).1.state := by
  intro herr
  by_cases hsame : (pibModifyQp cfg ibModifyQpIsOk now q attr mask).1.state = q.state
  · exact Or.inl (hsame.trans herr)
  have h := hok.transition (permitted_modify cfg now hname hsame)
  rw [herr] at h
  generalize (pibModifyQp cfg ibModifyQpIsOk now q attr mask).1.state = new at h ⊢
  cases new <;> simp_all [ibTransition]

/-- A step of an RC queue pair keeps the law. -/
def LawfulStep (cfg : Config) (ibModifyQpIsOk : QpState → QpState → AttrMask → Bool) (n : Node)
    (x : Nat × Act) : Prop :=
  LeavesByReset n.qp.state (step cfg ibModifyQpIsOk n x).qp.state ∧
    ∀ attr mask, x.2 = .modify attr mask →
      Permitted ibModifyQpIsOk n.qp.state (step cfg ibModifyQpIsOk n x).qp.state mask

/-- Every call of `pib_modify_qp` names the actual state. -/
def Truthful (n : Node) (x : Nat × Act) : Prop :=
  ∀ attr mask, x.2 = .modify attr mask → NamesState n.qp.state attr mask

/-- A call that names no state is truthful. -/
theorem truthful_unnamed (n : Node) (now : Nat) (attr : ModifyAttr)
    (hm : mask.CUR_STATE = false) : Truthful n (now, .modify attr mask) := by
  rintro _ _ h hc
  cases h
  rw [hm] at hc
  cases hc

theorem lawful_step (hok : IbTable ibModifyQpIsOk) (cfg : Config) {n : Node} {x : Nat × Act}
    (hx : Truthful n x) : LawfulStep cfg ibModifyQpIsOk n x := by
  obtain ⟨now, a⟩ := x
  by_cases hmod : NotModified (now, a)
  · refine ⟨fun herr => Or.inl (step_err cfg ibModifyQpIsOk herr hmod).1, fun attr mask h => ?_⟩
    exact absurd h (hmod attr mask)
  obtain ⟨attr, mask, rfl⟩ : ∃ attr mask, a = .modify attr mask := by
    simpa [NotModified] using hmod
  refine ⟨leavesByReset_modify hok cfg now (hx attr mask rfl), ?_⟩
  rintro attr' mask' h
  obtain ⟨rfl, rfl⟩ : attr = attr' ∧ mask = mask' := by simpa using h
  exact permitted_modify cfg now (hx attr mask rfl)

/-! ## Datagram queue pairs -/

def udStep (cfg : Config) (ibModifyQpIsOk : QpState → QpState → AttrMask → Bool) (n : UdNode)
    (x : Nat × UdAct) : UdNode :=
  udAct cfg ibModifyQpIsOk x.1 n x.2

theorem state_postUdSendWr (copyFromUser : UserCopy)
    (ahs : Nat → Option Ah) (q : Qp) (total_length : Nat) (wr : SendWr) :
    (postUdSendWr cfg copyFromUser ahs q total_length wr).1.state = q.state := by
  unfold postUdSendWr
  split
  · rfl
  split
  · rfl
  dsimp only
  split
  · rfl
  split
  · rfl
  · split <;> rfl

theorem state_postUdSendLoop (copyFromUser : UserCopy)
    (ahs : Nat → Option Ah) (wrs : List SendWr) :
    ∀ (q : Qp) (total_length : Nat),
      (postUdSendLoop cfg copyFromUser ahs q total_length wrs).1.state = q.state := by
  induction wrs with
  | nil => exact fun _ _ => rfl
  | cons wr wrs ih =>
    intro q total_length
    have h := state_postUdSendWr cfg copyFromUser ahs q total_length wr
    unfold postUdSendLoop
    split
    · rename_i heq
      rw [heq] at h
      exact h
    rename_i heq
    rw [heq] at h
    rw [ih]
    exact h

/-- A datagram queue pair that has failed stays so, short of a change of state
by the user. -/
theorem udStep_err {n : UdNode} {x : Nat × UdAct} (h : n.qp.state = .ERR)
    (hx : ∀ attr mask, x.2 ≠ .modify attr mask) :
    (udStep cfg ibModifyQpIsOk n x).qp.state = .ERR := by
  obtain ⟨now, a⟩ := x
  have hrecv : pibIsRecvOk n.qp.state = false := by rw [h]; rfl
  cases a with
  | postSend copyFromUser wrs =>
    cases wrs with
    | nil => exact h
    | cons wr wrs =>
      have hl := state_postUdSendLoop cfg copyFromUser n.ahs (wr :: wrs) n.qp 0
      simp only [udStep, udAct, pibPostUdSend, UdNode.setQp_qp, h] at hl ⊢
      exact hl
  | postRecv wrs => exact (congrArg SendQ.state (sendQ_pibPostRecv cfg n.qp wrs)).trans h
  | schedule =>
    simp only [udStep, udAct, processUdScheduler, UdNode.setQp_qp, rescheduleQp_state]
    rw [if_pos (by simp [h])]
    exact h
  | receive port_num p =>
    have hnone : pibReceiveUdQpIncomingMessage now port_num { n with send_buffer := none } p =
        { n with send_buffer := none } := by
      simp only [pibReceiveUdQpIncomingMessage, udAccepts, hrecv, if_true]
    simp only [udStep, udAct, hnone, UdNode.setQp_qp, rescheduleQp_state, h]
  | modify attr mask => exact absurd rfl (hx attr mask)
  | fatal => exact failQp_state now n.qp
  | setAh | environment => exact h

/-- A step of a datagram queue pair keeps the law. -/
def UdLawfulStep (cfg : Config) (ibModifyQpIsOk : QpState → QpState → AttrMask → Bool) (n : UdNode)
    (x : Nat × UdAct) : Prop :=
  LeavesByReset n.qp.state (udStep cfg ibModifyQpIsOk n x).qp.state ∧
    ∀ attr mask, x.2 = .modify attr mask →
      Permitted ibModifyQpIsOk n.qp.state (udStep cfg ibModifyQpIsOk n x).qp.state mask

def UdTruthful (n : UdNode) (x : Nat × UdAct) : Prop :=
  ∀ attr mask, x.2 = .modify attr mask → NamesState n.qp.state attr mask

theorem ud_lawful_step (hok : IbTable ibModifyQpIsOk) (cfg : Config) {n : UdNode}
    {x : Nat × UdAct} (hx : UdTruthful n x) : UdLawfulStep cfg ibModifyQpIsOk n x := by
  obtain ⟨now, a⟩ := x
  by_cases hmod : ∃ attr mask, a = .modify attr mask
  · obtain ⟨attr, mask, rfl⟩ := hmod
    refine ⟨leavesByReset_modify hok cfg now (hx attr mask rfl), ?_⟩
    rintro attr' mask' h
    obtain ⟨rfl, rfl⟩ : attr = attr' ∧ mask = mask' := by simpa using h
    exact permitted_modify cfg now (hx attr mask rfl)
  · have hno : ∀ attr mask, a ≠ .modify attr mask := fun attr mask h => hmod ⟨attr, mask, h⟩
    exact ⟨fun herr => Or.inl (udStep_err cfg herr hno), fun attr mask h => absurd h (hno attr mask)⟩

/-! ## Runs -/

/-- A queue pair is brought up, fails and is reset. -/
def failAndReset : List (Nat × Act) :=
  bringUp {} ++ [(1, .fatal), (2, .modify { qp_state := .RESET } { STATE := true })]

/-- A queue pair that has failed is called one in RTR and set to RTS. -/
def reviveRun : List (Nat × Act) :=
  bringUp {} ++ [(1, .fatal),
    (2, .modify { qp_state := .RTS, cur_qp_state := .RTR } { STATE := true, CUR_STATE := true })]

end pib
