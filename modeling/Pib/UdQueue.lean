-- The send queue of a datagram queue pair: what its steps can do to the four
-- lists of elements, as a run of a few moves.
import Pib.StateChanges

namespace pib

/-! ## Moves -/

/-- The lists of elements that are in use, and the type of the queue pair. -/
structure Lists where
  qp_type : QpType
  waiting : List SendWqe
  sending : List SendWqe
  submitted : List SendWqe

def Qp.lists (q : Qp) : Lists :=
  { qp_type := q.qp_type, waiting := q.requester.waiting_swqe, sending := q.requester.sending_swqe
    submitted := q.requester.submitted_swqe }

/-- One move of a datagram queue pair. What is posted satisfies `P`. -/
inductive UdMove (P : SendWqe → Prop) : Lists → Lists → Prop
  | post {s : Lists} {w : SendWqe} (hP : P w) :
      UdMove P s { s with submitted := s.submitted ++ [w] }
  | start {s : Lists} {w : SendWqe} {ws : List SendWqe} (now : Nat) (q : Qp)
      (h : s.submitted = w :: ws) :
      UdMove P s { s with submitted := ws, sending := s.sending ++ [startSending now q w] }
  | leave {s : Lists} {w : SendWqe} {ws : List SendWqe} (h : s.sending = w :: ws) :
      UdMove P s { s with sending := ws }
  | flush {s : Lists} : UdMove P s { s with waiting := [], sending := [], submitted := [] }

/-- A run of moves. -/
def UdMoves (P : SendWqe → Prop) : Lists → Lists → Prop := Relation.ReflTransGen (UdMove P)

namespace UdMoves

variable {P : SendWqe → Prop} {s s' s'' : Lists}

theorem of_eq (h : s' = s) : UdMoves P s s' := h ▸ Relation.ReflTransGen.refl

theorem one (h : UdMove P s s') : UdMoves P s s' := Relation.ReflTransGen.single h

theorem trans (h : UdMoves P s s') (h' : UdMoves P s' s'') : UdMoves P s s'' :=
  Relation.ReflTransGen.trans h h'

/-- A law that every move keeps is kept by the run. -/
theorem keep {I : Lists → Prop} (hstep : ∀ {s s'}, UdMove P s s' → I s → I s')
    (h : UdMoves P s s') (hi : I s) : I s' := by
  induction h with
  | refl => exact hi
  | tail _ hm ih => exact hstep hm ih

end UdMoves

/-! ## What leaves the lists alone -/

theorem lists_of_sendQ {q q' : Qp} (h : q'.sendQ = q.sendQ) : q'.lists = q.lists := by
  simp only [Qp.sendQ, SendQ.mk.injEq] at h
  simp only [Qp.lists, h]

@[simp] theorem lists_rescheduleQp (now : Nat) (q : Qp) :
    (pibUtilRescheduleQp now q).lists = q.lists := lists_of_sendQ (sendQ_rescheduleQp now q)

@[simp] theorem lists_getReadyToSend (now : Nat) (q : Qp) :
    (getReadyToSend now q).lists = q.lists := lists_of_sendQ (sendQ_getReadyToSend now q)

@[simp] theorem lists_freeRecvWqe (q : Qp) : q.freeRecvWqe.lists = q.lists :=
  lists_of_sendQ (sendQ_freeRecvWqe q)

/-- The lists after a flush, of the send queue or of both queues. -/
theorem lists_flushQp (now : Nat) (send_only : Bool) (q : Qp) :
    (pibUtilFlushQp now send_only q).lists =
      { q.lists with waiting := [], sending := [], submitted := [] } := by
  have h : (flushSendQueue q).lists = { q.lists with waiting := [], sending := [], submitted := [] } := by
    unfold flushSendQueue
    simp only [foldl_flushSendWqe]
    rfl
  unfold pibUtilFlushQp
  cases send_only with
  | true => exact h
  | false =>
    refine Eq.trans (lists_of_sendQ ?_) h
    simp

theorem udMoves_flushQp {P : SendWqe → Prop} (now : Nat) (send_only : Bool) {q q' : Qp}
    (h : q'.lists = q.lists) : UdMoves P q.lists (pibUtilFlushQp now send_only q').lists := by
  rw [lists_flushQp, h]
  exact UdMoves.one .flush

/-! ## Posting -/

section Post

variable (cfg : Config) (copyFromUser : Nat → Nat → Option (List UInt8)) (ahs : Nat → Option Ah)
variable {P : SendWqe → Prop}

/-- What a chain of work requests posts satisfies `P`. -/
def UdPosts (P : SendWqe → Prop) : Qp → Nat → List SendWr → Prop
  | _, _, [] => True
  | q, total_length, wr :: wrs =>
    match postUdSendWr cfg copyFromUser ahs q total_length wr with
    | (q', total_length, none) =>
      (∀ w, q'.requester.submitted_swqe = q.requester.submitted_swqe ++ [w] → P w) ∧
        UdPosts P q' total_length wrs
    | (_, _, some _) => True

/-- One work request is refused, flushed at once or put on the list. -/
theorem lists_postUdSendWr (q : Qp) (total_length : Nat) (wr : SendWr) :
    (postUdSendWr cfg copyFromUser ahs q total_length wr).1.lists = q.lists ∨
      ∃ w, (postUdSendWr cfg copyFromUser ahs q total_length wr).2.2 = none ∧
        (postUdSendWr cfg copyFromUser ahs q total_length wr).1.lists =
          { q.lists with submitted := q.lists.submitted ++ [w] } := by
  unfold postUdSendWr
  split
  · exact Or.inl rfl
  split
  · exact Or.inl rfl
  dsimp only
  split
  · exact Or.inl rfl
  split
  · exact Or.inl rfl
  split
  · exact Or.inl rfl
  · exact Or.inr ⟨_, rfl, rfl⟩

theorem udMoves_postSendLoop (wrs : List SendWr) : ∀ (q : Qp) (total_length : Nat),
    UdPosts cfg copyFromUser ahs P q total_length wrs →
    UdMoves P q.lists (postUdSendLoop cfg copyFromUser ahs q total_length wrs).1.lists := by
  induction wrs with
  | nil => exact fun _ _ _ => UdMoves.of_eq rfl
  | cons wr wrs ih =>
    intro q total_length hp
    have hone := lists_postUdSendWr cfg copyFromUser ahs q total_length wr
    unfold UdPosts at hp
    unfold postUdSendLoop
    generalize postUdSendWr cfg copyFromUser ahs q total_length wr = r at hone hp ⊢
    obtain ⟨q', total_length', _ | e⟩ := r
    · refine UdMoves.trans ?_ (ih q' total_length' hp.2)
      rcases hone with h | ⟨w, -, h⟩
      · exact UdMoves.of_eq h
      · rw [h]
        exact UdMoves.one (.post (hp.1 w (congrArg Lists.submitted h)))
    · exact UdMoves.of_eq (hone.resolve_right (by simp))

theorem udMoves_postSend (now : Nat) (q : Qp) (wrs : List SendWr)
    (hp : UdPosts cfg copyFromUser ahs P q 0 wrs) :
    UdMoves P q.lists (pibPostUdSend cfg copyFromUser now ahs q wrs).1.lists := by
  have hloop := udMoves_postSendLoop cfg copyFromUser ahs wrs q 0 hp
  unfold pibPostUdSend
  split
  · exact UdMoves.of_eq rfl
  dsimp only
  split
  · rw [lists_getReadyToSend]
    exact hloop
  · exact hloop

end Post

/-! ## Sending and receiving -/

section Steps

variable {P : SendWqe → Prop}

theorem udMoves_failUd (q : Qp) (w : SendWqe) (ws : List SendWqe) (status : WcStatus) :
    UdMoves P q.lists (failUd q w ws status).lists := by
  have hf := lists_flushQp 0 true
    ((Qp.insertSendError { q with state := .SQE } w.wr_id status w.opcode).setInFlight
      .sending ws (-1))
  have h : (failUd q w ws status).lists =
      { q.lists with waiting := [], sending := [], submitted := [] } := by
    unfold failUd
    dsimp only
    generalize pibUtilFlushQp 0 true _ = q' at hf ⊢
    exact hf
  rw [h]
  exact UdMoves.one .flush

theorem lists_finishUd (q : Qp) (w : SendWqe) (ws : List SendWqe) :
    (finishUd q w ws).lists = { q.lists with sending := ws } := by
  unfold finishUd
  dsimp only
  split <;> rfl

theorem udMoves_sendingHead (cfg : Config) (now : Nat) (n : UdNode) :
    UdMoves P n.qp.lists (processUdSendingHead cfg now n).qp.lists := by
  unfold processUdSendingHead
  rcases hs : n.qp.requester.sending_swqe with _ | ⟨w, ws⟩
  · exact UdMoves.of_eq rfl
  dsimp only
  split
  · exact UdMoves.of_eq rfl
  split
  · exact UdMoves.of_eq rfl
  unfold processUdSendWr
  split
  · exact UdMoves.of_eq rfl
  split
  · exact udMoves_failUd n.qp _ ws _
  unfold pibProcessUdQpRequest
  dsimp only
  split
  · rw [lists_finishUd]
    exact UdMoves.one (.leave hs)
  · exact udMoves_failUd n.qp _ ws _

theorem udMoves_newSendWr {now : Nat} {q q' : Qp} (h : processNewSendWr now q = some q') :
    UdMoves P q.lists q'.lists := by
  obtain ⟨-, w, ws, hs, -, rfl⟩ := processNewSendWr_some h
  exact UdMoves.one (.start now q hs)

theorem udMoves_scheduler (cfg : Config) (now : Nat) (n : UdNode) :
    UdMoves P n.qp.lists (processUdScheduler cfg now n).qp.lists := by
  unfold processUdScheduler
  rw [UdNode.setQp_qp, lists_rescheduleQp]
  split
  · exact UdMoves.of_eq rfl
  split
  · rcases hnew : processNewSendWr now n.qp with _ | q
    · exact UdMoves.of_eq rfl
    · exact (udMoves_newSendWr hnew).trans (udMoves_sendingHead cfg now (n.setQp q))
  · exact udMoves_sendingHead cfg now n

theorem udMoves_finishReceive (now : Nat) (q : Qp) (w : RecvWqe) (wc : Wc) (solicited : Bool)
    (status : WcStatus) : UdMoves P q.lists (finishUdReceive now q w wc solicited status).lists := by
  unfold finishUdReceive
  split
  · rw [lists_freeRecvWqe]
    exact UdMoves.of_eq rfl
  split
  · split
    · rw [lists_freeRecvWqe]
      exact UdMoves.of_eq rfl
    · rw [lists_freeRecvWqe]
      exact UdMoves.of_eq rfl
  dsimp only
  generalize hq : ({ q with state := .ERR, send_cq := _ } : Qp) = q'
  have h : UdMoves P q.lists (pibUtilFlushQp now false q').lists := by
    refine udMoves_flushQp now false ?_
    rw [← hq]
    rfl
  rw [lists_freeRecvWqe]
  generalize pibUtilFlushQp now false q' = flushed at h ⊢
  exact h

theorem udMoves_receive (now port_num : Nat) (n : UdNode) (p : UdPacket) :
    UdMoves P n.qp.lists (pibReceiveUdQpIncomingMessage now port_num n p).qp.lists := by
  unfold pibReceiveUdQpIncomingMessage
  split
  · exact UdMoves.of_eq rfl
  split
  · exact UdMoves.of_eq rfl
  rename_i w q htake
  have hq : q.lists = n.qp.lists := by
    unfold takeRecvWqe at htake
    grind [Qp.lists]
  split
  · exact UdMoves.of_eq ((lists_freeRecvWqe q).trans hq)
  rw [← hq]
  generalize storeDatagram n.pd n.mem w p.grh _ = stored
  exact udMoves_finishReceive now q w _ _ stored.1

theorem udMoves_enterState (cfg : Config) (now : Nat) (q : Qp) (new : QpState) :
    UdMoves P q.lists (enterState cfg now q new).lists := by
  cases new with
  | RESET =>
    have h := sendQ_resetQp cfg now { q with state := .RESET }
    have hl : (enterState cfg now q .RESET).lists =
        { q.lists with waiting := [], sending := [], submitted := [] } := by
      unfold enterState
      dsimp only
      generalize resetQp cfg now _ = q' at h ⊢
      simp only [Qp.sendQ, SendQ.mk.injEq] at h
      simp only [Qp.lists, h]
    rw [hl]
    exact UdMoves.one .flush
  | SQE => exact udMoves_flushQp now true rfl
  | ERR => exact udMoves_flushQp now false rfl
  | INIT | RTR | RTS | SQD => exact UdMoves.of_eq rfl

theorem udMoves_modify (cfg : Config) (isOk : StateCheck)
    (now : Nat) (q : Qp) (attr : ModifyAttr) (mask : AttrMask) :
    UdMoves P q.lists (pibModifyQp cfg isOk now q attr mask).1.lists := by
  rcases pibModifyQp_settles cfg isOk now q attr mask with h | ⟨-, h⟩ | ⟨-, -, -, h⟩
  · exact UdMoves.of_eq (congrArg Qp.lists h)
  · rw [h]
    exact UdMoves.of_eq rfl
  · rw [h, lists_of_sendQ (sendQ_settleState now _ _ _ _)]
    exact udMoves_enterState cfg now (setAttrs cfg q attr mask) attr.qp_state

/-- What a call posts satisfies `P`. -/
def UdAct.Posts (cfg : Config) (P : SendWqe → Prop) (n : UdNode) : UdAct → Prop
  | .postSend copyFromUser wrs => UdPosts cfg copyFromUser n.ahs P n.qp 0 wrs
  | _ => True

/-- A step of a datagram queue pair is a run of moves. -/
theorem udMoves_step (cfg : Config) (isOk : StateCheck)
    (n : UdNode) (x : Nat × UdAct) (hp : x.2.Posts cfg P n) :
    UdMoves P n.qp.lists (udStep cfg isOk n x).qp.lists := by
  obtain ⟨now, a⟩ := x
  cases a with
  | postSend copyFromUser wrs => exact udMoves_postSend cfg copyFromUser n.ahs now n.qp wrs hp
  | postRecv wrs => exact UdMoves.of_eq (lists_of_sendQ (sendQ_pibPostRecv cfg n.qp wrs))
  | schedule => exact udMoves_scheduler cfg now { n with send_buffer := none }
  | receive port_num p =>
    simp only [udStep, udAct, UdNode.setQp_qp, lists_rescheduleQp]
    exact udMoves_receive now port_num { n with send_buffer := none } p
  | modify attr mask => exact udMoves_modify cfg isOk now n.qp attr mask
  | fatal =>
    simp only [udStep, udAct, UdNode.setQp_qp, failQp]
    exact udMoves_flushQp now false rfl
  | setAh | environment => exact UdMoves.of_eq rfl

end Steps

/-! ## The law of the lists -/

/-- Nothing waits, and the elements being sent are marked so. What is not yet
sent satisfies `P`. -/
structure DatagramQ (P : SendWqe → Prop) (s : Lists) : Prop where
  type : s.qp_type ≠ .RC
  waiting : s.waiting = []
  sending : ∀ w ∈ s.sending, w.processing.list_type = .SENDING ∧ P w
  submitted : ∀ w ∈ s.submitted, P w

/-- The law does not depend on what `processing` holds. -/
def OnBody (P : SendWqe → Prop) : Prop := ∀ w w' : SendWqe, w'.body = w.body → P w → P w'

theorem datagramQ_move {P : SendWqe → Prop} (hbody : OnBody P) {s s' : Lists} (h : UdMove P s s')
    (hi : DatagramQ P s) : DatagramQ P s' := by
  obtain ⟨htype, hwait, hsend, hsub⟩ := hi
  cases h with
  | post hP =>
    refine ⟨htype, hwait, hsend, fun w hw => ?_⟩
    rcases List.mem_append.mp hw with hw | hw
    · exact hsub w hw
    · rw [List.mem_singleton.mp hw]
      exact hP
  | start now q hs =>
    rename_i v vs
    rw [hs] at hsub
    refine ⟨htype, hwait, fun w hw => ?_, fun w hw => hsub w (List.mem_cons_of_mem _ hw)⟩
    rcases List.mem_append.mp hw with hw | hw
    · exact hsend w hw
    · rw [List.mem_singleton.mp hw]
      exact ⟨rfl, hbody v _ rfl (hsub v List.mem_cons_self)⟩
  | leave hs =>
    exact ⟨htype, hwait, fun w hw => hsend w (hs ▸ List.mem_cons_of_mem _ hw), hsub⟩
  | flush => exact ⟨htype, rfl, by simp, by simp⟩

/-- A node whose datagram queue pair has just been created. -/
def createdUd (cfg : Config) (qp_type : QpType) (init_attr : QpInitAttr) (srq : Option Srq) (pd : Pd)
    (mem : Bytes.Mem) : UdNode :=
  { qp := pibCreateQp cfg qp_type init_attr srq, pd, mem, ahs := fun _ => none }

theorem datagramQ_created {P : SendWqe → Prop} (cfg : Config) {qp_type : QpType}
    (h : qp_type ≠ .RC) (init_attr : QpInitAttr) (srq : Option Srq) (pd : Pd) (mem : Bytes.Mem) :
    DatagramQ P (createdUd cfg qp_type init_attr srq pd mem).qp.lists :=
  ⟨h, rfl, fun _ hw => (List.not_mem_nil hw).elim, fun _ hw => (List.not_mem_nil hw).elim⟩

theorem datagramQ_step {P : SendWqe → Prop} (hbody : OnBody P) (cfg : Config)
    (isOk : StateCheck) (n : UdNode) (x : Nat × UdAct)
    (hp : x.2.Posts cfg P n) (hi : DatagramQ P n.qp.lists) :
    DatagramQ P (udStep cfg isOk n x).qp.lists :=
  (udMoves_step cfg isOk n x hp).keep (datagramQ_move hbody) hi

/-- Anything may be posted. -/
theorem posts_true (cfg : Config) (n : UdNode) (a : UdAct) : a.Posts cfg (fun _ => True) n := by
  cases a with
  | postSend copyFromUser wrs =>
    have h : ∀ (wrs : List SendWr) (q : Qp) (total_length : Nat),
        UdPosts cfg copyFromUser n.ahs (fun _ => True) q total_length wrs := by
      intro wrs
      induction wrs with
      | nil => exact fun _ _ => trivial
      | cons wr wrs ih =>
        intro q total_length
        unfold UdPosts
        split
        · exact ⟨fun _ _ => trivial, ih _ _⟩
        · trivial
    exact h wrs n.qp 0
  | _ => trivial

end pib
