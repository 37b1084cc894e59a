-- The completions of receive work requests on a queue pair without a shared
-- receive queue: each work request that was taken stands in the receive list
-- or has exactly one completion, and the completions come in the order of the
-- posts.
import Pib.RecvSide
import Pib.SendCompletions

namespace pib

open Bytes

variable (cfg : Config) (now : Nat) (psn : Nat) {q : Qp} {n : Node}

/-! ## The accounts -/

/-- The receive queue and its completions. -/
structure Intake where
  state : QpState
  init_attr : QpInitAttr
  srq : Option Srq
  recv_cq : List (Wc × Bool)
  recv_wqe : List RecvWqe
  nr_recv_wqe : Int
  free_rwqe : Nat

def RecvSide.intake (b : RecvSide) : Intake :=
  { state := b.state, init_attr := b.init_attr, srq := b.srq, recv_cq := b.recv_cq
    recv_wqe := b.responder.recv_wqe, nr_recv_wqe := b.responder.nr_recv_wqe
    free_rwqe := b.responder.free_rwqe }

def Qp.intake (q : Qp) : Intake := q.recvSide.intake

/-- The accounts of a receive queue, after these work requests were taken: the
completions and then the receive list name them one by one, the counter and
the free elements agree with the list, and nothing is left in the error state. -/
structure Receives (posted : List Nat) (s : Intake) : Prop where
  own : s.srq = none
  order : s.recv_cq.map (fun c => c.1.wr_id) ++ s.recv_wqe.map (fun w => w.wr_id) = posted
  counted : s.nr_recv_wqe = s.recv_wqe.length
  pool : s.free_rwqe + s.recv_wqe.length = s.init_attr.max_recv_wr
  err : s.state = .ERR → s.recv_wqe = []

variable {posted : List Nat}

theorem Receives.fail {b : RecvSide} (h : Receives posted b.intake) :
    Receives posted b.fail.intake := by
  obtain ⟨hown, horder, hcount, hpool, herr⟩ := h
  have hown : b.srq = none := hown
  have he : b.fail.intake = { b.intake with
      state := .ERR, recv_cq := b.recv_cq ++ b.responder.recv_wqe.map flushRecvWc
      recv_wqe := [], nr_recv_wqe := 0
      free_rwqe := b.responder.free_rwqe + b.responder.recv_wqe.length } := by
    simp [RecvSide.fail, RecvSide.free, RecvSide.intake, hown]
  rw [he]
  refine ⟨hown, ?_, rfl, hpool, fun _ => rfl⟩
  rw [← horder]
  simp [RecvSide.intake, flushRecvWc]

theorem Receives.spares {q' : Qp} (h : Spares q q') (hr : Receives posted q.intake) :
    Receives posted q'.intake := by
  rw [Qp.intake] at hr ⊢
  rcases h with h | h
  · rw [h]
    exact hr
  · rw [h]
    exact hr.fail

theorem Receives.failQp (h : Receives posted q.intake) :
    Receives posted (failQp now q).intake := 
  h.spares (SparesAll.spares (Or.inr (respSide_failQp now q)))

/-- The first element is reported and leaves the list. -/
theorem Receives.pop {w : RecvWqe} {ws : List RecvWqe} (wc : Wc) (solicited push : Bool)
    (hw : q.responder.recv_wqe = w :: ws) (hid : wc.wr_id = w.wr_id)
    (h : Receives posted q.intake) :
    Receives posted (Qp.popRecvWqe { q with
      recv_cq := q.recv_cq ++ [(wc, solicited)], push_rcqe := push }).intake := by
  obtain ⟨hown, horder, hcount, hpool, herr⟩ := h
  have hown : q.srq = none := hown
  have he : (Qp.popRecvWqe { q with
      recv_cq := q.recv_cq ++ [(wc, solicited)], push_rcqe := push }).intake = { q.intake with
        recv_cq := q.recv_cq ++ [(wc, solicited)], recv_wqe := ws
        nr_recv_wqe := q.responder.nr_recv_wqe - 1, free_rwqe := q.responder.free_rwqe + 1 } := by
    simp [Qp.popRecvWqe, Qp.freeRecvWqe, Qp.intake, RecvSide.intake, Qp.recvSide, hown, hw]
  have hlist : q.intake.recv_wqe = w :: ws := hw
  rw [hlist] at horder hcount hpool herr
  rw [he]
  refine ⟨hown, ?_, ?_, ?_, fun hst => absurd (herr hst) (List.cons_ne_nil w ws)⟩
  · rw [← horder]
    simp [hid, Qp.intake, RecvSide.intake, Qp.recvSide]
  · have hcount : q.responder.nr_recv_wqe = (w :: ws).length := hcount
    simp [hcount]
  · have hpool : q.responder.free_rwqe + (w :: ws).length = q.init_attr.max_recv_wr := hpool
    simp only [List.length_cons] at hpool
    change q.responder.free_rwqe + 1 + ws.length = q.init_attr.max_recv_wr
    omega

/-! ## Requests -/

@[simp] theorem recvSide_pushAcknowledge (q : Qp) (psn syndrome : Nat) :
    (pushAcknowledge q psn syndrome).recvSide = q.recvSide := by
  unfold pushAcknowledge pushOrCoalesce
  split
  · rfl
  split
  · rfl
  · split <;> rfl

@[simp] theorem recvSide_issueCommEst (q : Qp) : (issueCommEst q).recvSide = q.recvSide := by
  unfold issueCommEst
  split <;> rfl

theorem intake_of_recvSide {q' : Qp} (h : q'.recvSide = q.recvSide) : q'.intake = q.intake :=
  congrArg RecvSide.intake h

@[simp] theorem intake_pushAcknowledge (q : Qp) (psn syndrome : Nat) :
    (pushAcknowledge q psn syndrome).intake = q.intake :=
  intake_of_recvSide (recvSide_pushAcknowledge q psn syndrome)

@[simp] theorem intake_storeSlot (n : Node) (slot : Slot) :
    (storeSlot n slot).qp.intake = n.qp.intake := by
  unfold storeSlot
  dsimp only
  split <;> rfl

/-- Without a shared receive queue there is nothing to take from it. -/
theorem intake_takeFromSrq (h : q.intake.srq = none) : (takeFromSrq q).intake = q.intake := by
  have h : q.srq = none := h
  rw [takeFromSrq, h]

theorem receives_abortActiveRwqe (h : Receives posted q.intake) :
    Receives posted (abortActiveRwqe q).intake := by
  unfold abortActiveRwqe
  rcases hw : q.responder.recv_wqe with _ | ⟨w, ws⟩
  · exact h
  dsimp only
  split
  · exact h
  · exact h.pop { wr_id := w.wr_id, status := .GENERAL_ERR, opcode := .RECV } true true hw rfl

theorem receives_refuse (syndrome : Nat) (event : EventType)
    (h : Receives posted q.intake) : Receives posted (refuse now q psn syndrome event).intake := by
  refine Receives.failQp now (receives_abortActiveRwqe ?_)
  have he : ((pushAcknowledge q psn syndrome).insertEvent event).intake = q.intake :=
    intake_pushAcknowledge q psn syndrome
  rw [he]
  exact h

theorem receives_failRecv {w : RecvWqe} {ws : List RecvWqe} (status : WcStatus)
    (opcode : WcOpcode) (hw : q.responder.recv_wqe = w :: ws) (h : Receives posted q.intake) :
    Receives posted (failRecv q w status opcode).intake :=
  h.pop { wr_id := w.wr_id, status, opcode } true true hw rfl

theorem receives_reqStep {now : Nat} {p : RcPacket} {n' : Node} (hs : ReqStep False True now p n n')
    (h : Receives posted n.qp.intake) : Receives posted n'.qp.intake := by
  have hsame : n'.qp.intake = n.qp.intake → Receives posted n'.qp.intake := fun he => he ▸ h
  cases hs with
  | commEst => exact hsame (intake_of_recvSide (recvSide_issueCommEst n.qp))
  | fromSrq => exact hsame (intake_takeFromSrq h.own)
  | ack psn syndrome => exact hsame (intake_pushAcknowledge n.qp psn syndrome)
  | abort => exact receives_abortActiveRwqe h
  | failRecv opcode hw => exact receives_failRecv _ opcode hw h
  | fail => exact h.failQp now
  | complete s ex opcode hw => exact h.pop _ _ _ hw rfl
  | store slot => exact hsame (intake_storeSlot n slot)
  | refuseRead psn expected_psn syndrome =>
    exact receives_refuse now (q := removeOverlappedRdmaReadAcknowledge n.qp psn expected_psn)
      psn _ _ h
  | _ => exact h

/-- A request keeps the accounts, whatever it is. -/
theorem receives_receiveRequest (p : RcPacket)
    (h : Receives posted n.qp.intake) : Receives posted (receiveRequest cfg now n p).qp.intake :=
  receiveRequest_of_steps (R := fun n n' => Receives posted n.qp.intake → Receives posted n'.qp.intake)
    (fun _ => id) (fun h h' => h' ∘ h) cfg now p receives_reqStep n h

/-- So does any packet. -/
theorem receives_receive (port_num : Nat) (p : RcPacket) (h : Receives posted n.qp.intake) :
    Receives posted (pibReceiveRcQpIncomingMessage cfg now port_num n p).qp.intake := by
  unfold pibReceiveRcQpIncomingMessage
  split
  · exact h
  split
  · exact h
  split
  · exact h
  · exact h.spares (sparesAll_receiveResponse cfg now n p).spares
  · exact receives_receiveRequest cfg now p h

/-! ## The verbs -/

/-- The receive work requests that `pib_post_recv` takes, with `free` free
elements left. Those that it flushes at once in the error state are included. -/
def acceptedRecvs (cfg : Config) (state : QpState) (init_attr : QpInitAttr) :
    Nat → Nat → List RecvWr → List RecvWr
  | _, _, [] => []
  | free, total_length, wr :: wrs =>
    match state with
    | .RESET => []
    | .ERR => wr :: acceptedRecvs cfg state init_attr free total_length wrs
    | .INIT | .RTR | .RTS | .SQD | .SQE =>
      if wr.sg_list.length < 1 ∨ init_attr.max_recv_sge < wr.sg_list.length then []
      else if free = 0 then []
      else
        let total_length := total_length + sgeTotal cfg wr.sg_list
        if PIB_MAX_PAYLOAD_LEN < total_length then []
        else wr :: acceptedRecvs cfg state init_attr (free - 1) total_length wrs

/-- The receive work requests that a step takes. -/
def Act.acceptedRecvs (cfg : Config) (q : Qp) : Act → List RecvWr
  | .postRecv wrs =>
    if wrs = [] ∨ q.srq.isSome then []
    else pib.acceptedRecvs cfg q.state q.init_attr q.responder.free_rwqe 0 wrs
  | _ => []

/-- A flushed work request is reported at once: the list is empty. -/
theorem Receives.flushed (wr_id : Nat) (hst : q.state = .ERR) (h : Receives posted q.intake) :
    Receives (posted ++ [wr_id]) (q.insertRecvError wr_id .WR_FLUSH_ERR .RECV).intake := by
  obtain ⟨hown, horder, hcount, hpool, herr⟩ := h
  have hnil : q.responder.recv_wqe = [] := herr hst
  refine ⟨hown, ?_, hcount, hpool, herr⟩
  simp only [Qp.intake, RecvSide.intake, Qp.recvSide, hnil, List.map_nil, List.append_nil] at horder
  simp [Qp.intake, RecvSide.intake, Qp.recvSide, Qp.insertRecvError, hnil, horder]

/-- A posted work request stands at the end of the list. -/
theorem Receives.post (w : RecvWqe) (hst : q.state ≠ .ERR)
    (hfree : q.responder.free_rwqe ≠ 0) (h : Receives posted q.intake) :
    Receives (posted ++ [w.wr_id]) (Qp.intake { q with responder := { q.responder with
      free_rwqe := q.responder.free_rwqe - 1
      recv_wqe := q.responder.recv_wqe ++ [w]
      nr_recv_wqe := q.responder.nr_recv_wqe + 1 } }) := by
  obtain ⟨hown, horder, hcount, hpool, herr⟩ := h
  simp only [Qp.intake, RecvSide.intake, Qp.recvSide] at *
  refine ⟨hown, ?_, ?_, ?_, fun h => absurd h hst⟩
  · simp [← horder]
  · simp [hcount]
  · simp only [List.length_append, List.length_singleton]
    omega

/-- The receive queue after a work request was put on it. -/
def Qp.pushRecv (q : Qp) (w : RecvWqe) : Qp :=
  { q with responder := { q.responder with
    free_rwqe := q.responder.free_rwqe - 1
    recv_wqe := q.responder.recv_wqe ++ [w]
    nr_recv_wqe := q.responder.nr_recv_wqe + 1 } }

/-- The body of the loop, where work requests are put on the list. -/
theorem postRecvLoop_live (hr : q.state ≠ .RESET) (he : q.state ≠ .ERR)
    (total_length : Nat) (wr : RecvWr) (wrs : List RecvWr) (ret : Option Errno) :
    postRecvLoop cfg q total_length (wr :: wrs) ret =
      if wr.sg_list.length < 1 ∨ q.init_attr.max_recv_sge < wr.sg_list.length then
        (q, some .EINVAL)
      else if q.responder.free_rwqe = 0 then (q, some .ENOMEM)
      else if PIB_MAX_PAYLOAD_LEN < total_length + sgeTotal cfg wr.sg_list then (q, some .EMSGSIZE)
      else postRecvLoop cfg (q.pushRecv
        { wr_id := wr.wr_id, total_length := total_length + sgeTotal cfg wr.sg_list
          sge_array := wr.sg_list }) (total_length + sgeTotal cfg wr.sg_list) wrs ret := by
  rw [postRecvLoop]
  split
  · exact absurd ‹_› hr
  · exact absurd ‹_› he
  all_goals rfl

theorem acceptedRecvs_live {state : QpState} (hr : state ≠ .RESET) (he : state ≠ .ERR)
    (init_attr : QpInitAttr) (free total_length : Nat) (wr : RecvWr) (wrs : List RecvWr) :
    acceptedRecvs cfg state init_attr free total_length (wr :: wrs) =
      if wr.sg_list.length < 1 ∨ init_attr.max_recv_sge < wr.sg_list.length then []
      else if free = 0 then []
      else if PIB_MAX_PAYLOAD_LEN < total_length + sgeTotal cfg wr.sg_list then []
      else wr :: acceptedRecvs cfg state init_attr (free - 1)
        (total_length + sgeTotal cfg wr.sg_list) wrs := by
  rw [acceptedRecvs.eq_def]
  dsimp only
  split
  · exact absurd rfl hr
  · exact absurd rfl he
  all_goals rfl

theorem receives_postRecvLoop (wrs : List RecvWr) :
    ∀ (posted : List Nat) (q : Qp) (total_length : Nat) (ret : Option Errno),
      Receives posted q.intake →
      Receives (posted ++ (acceptedRecvs cfg q.state q.init_attr q.responder.free_rwqe
        total_length wrs).map RecvWr.wr_id) (postRecvLoop cfg q total_length wrs ret).1.intake := by
  induction wrs with
  | nil =>
    intro posted q total_length ret h
    simpa [acceptedRecvs, postRecvLoop] using h
  | cons wr wrs ih =>
    intro posted q total_length ret h
    by_cases hr : q.state = .RESET
    · simpa [acceptedRecvs, postRecvLoop, hr] using h
    by_cases he : q.state = .ERR
    · have hw := ih _ _ total_length (some .EPERM) (h.flushed wr.wr_id he)
      rw [List.append_assoc] at hw
      have hs : (q.insertRecvError wr.wr_id .WR_FLUSH_ERR .RECV).state = .ERR := he
      rw [hs] at hw
      rw [he, acceptedRecvs, postRecvLoop, he]
      exact hw
    · rw [acceptedRecvs_live cfg hr he, postRecvLoop_live cfg hr he]
      split
      · simpa using h
      split
      · simpa using h
      rename_i hfree
      split
      · simpa using h
      have hw := ih _ _ (total_length + sgeTotal cfg wr.sg_list) ret (h.post
        { wr_id := wr.wr_id, total_length := total_length + sgeTotal cfg wr.sg_list
          sge_array := wr.sg_list } he hfree)
      rw [List.append_assoc] at hw
      exact hw

theorem receives_enterState {new : QpState} (hnew : new ≠ .RESET) (h : Receives posted q.intake) :
    Receives posted (enterState cfg now q new).intake := by
  have hset : new ≠ .ERR → Receives posted (Qp.intake { q with state := new }) := fun hne =>
    ⟨h.own, h.order, h.counted, h.pool, fun he => absurd he hne⟩
  cases new with
  | RESET => exact absurd rfl hnew
  | INIT | RTR | RTS | SQD => exact hset (by simp)
  | SQE =>
    have he : (enterState cfg now q .SQE).intake = Qp.intake { q with state := .SQE } :=
      intake_of_recvSide (recvSide_of_respSide (respSide_flushSendQueue { q with state := .SQE }))
    rw [he]
    exact hset (by simp)
  | ERR => exact h.failQp now

theorem receives_modify (isOk : StateCheck)
    (now : Nat) {attr : ModifyAttr} {mask : AttrMask}
    (hreset : mask.STATE = true → attr.qp_state ≠ .RESET) (h : Receives posted q.intake) :
    Receives posted (pibModifyQp cfg isOk now q attr mask).1.intake := by
  have hset : Receives posted (setAttrs cfg q attr mask).intake := h
  rcases pibModifyQp_settles cfg isOk now q attr mask with he | ⟨-, he⟩ | ⟨hm, -, -, he⟩
  · rw [he]
    exact h
  · rw [he]
    exact hset
  rw [he]
  rw [intake_of_recvSide (recvSide_of_respSide (respSide_settleState now _ _ _ _))]
  exact receives_enterState cfg now (hreset hm) hset

/-! ## Runs -/

/-- A queue pair with the receive work requests that it has taken, in order. -/
structure RecvHistory where
  node : Node
  posted : List RecvWr

namespace RecvHistory

def step (cfg : Config) (ibModifyQpIsOk : QpState → QpState → AttrMask → Bool) (h : RecvHistory)
    (x : Nat × Act) : RecvHistory :=
  { node := pib.step cfg ibModifyQpIsOk h.node x
    posted := h.posted ++ x.2.acceptedRecvs cfg h.node.qp }

/-- A queue pair without a shared receive queue, just created. -/
def start (cfg : Config) (init_attr : QpInitAttr) (pd : Pd) (mem : Mem) : RecvHistory :=
  { node := created cfg init_attr none pd mem, posted := [] }

/-- The accounts hold. -/
def Accounted (h : RecvHistory) : Prop := Receives (h.posted.map RecvWr.wr_id) h.node.qp.intake

theorem accounted_step (isOk : StateCheck)
    {h : RecvHistory} {x : Nat × Act} (hg : h.Accounted) (hx : NoReset x) :
    (h.step cfg isOk x).Accounted := by
  obtain ⟨now, a⟩ := x
  have hsame : a.acceptedRecvs cfg h.node.qp = [] →
      Receives (h.posted.map RecvWr.wr_id) (pib.step cfg isOk h.node (now, a)).qp.intake →
      (h.step cfg isOk (now, a)).Accounted := by
    intro hnil hr
    simpa [Accounted, step, hnil] using hr
  cases a with
  | postSend copyFromUser wrs =>
    refine hsame rfl (hg.spares (Or.inl ?_))
    exact recvSide_of_respSide (respSide_pibPostSend cfg copyFromUser now h.node.qp wrs)
  | postRecv wrs =>
    by_cases hwrs : wrs = [] ∨ h.node.qp.srq.isSome = true
    · refine hsame (if_pos hwrs) ?_
      simpa [pib.step, act, pibPostRecv, if_pos hwrs, Accounted] using hg
    · have hr := receives_postRecvLoop cfg wrs _ h.node.qp 0 none hg
      simpa [Accounted, step, pib.step, act, pibPostRecv, if_neg hwrs, Act.acceptedRecvs] using hr
  | schedule =>
    exact hsame rfl (hg.spares (spares_processOnQpScheduler cfg now
      { h.node with send_buffer := none }))
  | receive port_num p =>
    refine hsame rfl ?_
    have hr := receives_receive cfg now port_num (n := { h.node with send_buffer := none }) p hg
    exact hr.spares (Or.inl (recvSide_of_respSide (respSide_rescheduleQp now _)))
  | modify attr mask => exact hsame rfl (receives_modify cfg isOk now hx hg)
  | fatal =>
    refine hsame rfl ?_
    simp only [pib.step, act, Node.setQp_qp]
    exact Receives.failQp now hg
  | environment pd mem srq =>
    have hown : h.node.qp.srq = none := hg.own
    refine hsame rfl ?_
    simpa [pib.step, act, hown, Qp.intake, RecvSide.intake, Qp.recvSide, Accounted] using hg

theorem accounted_start (init_attr : QpInitAttr) (pd : Pd) (mem : Mem) :
    (start cfg init_attr pd mem).Accounted :=
  ⟨rfl, rfl, rfl, rfl, fun h => nomatch h⟩

end RecvHistory

/-- In every run of a queue pair without a shared receive queue that is not
reset, whatever arrives, each receive work request that was taken stands in the
receive list or has exactly one completion, and the completions come in the
order of the posts. The counter is the length of the list, and together with
the free elements the list makes up `max_recv_wr`. -/
theorem recv_completions_exactly_once (cfg : Config)
    (ibModifyQpIsOk : QpState → QpState → AttrMask → Bool) (init_attr : QpInitAttr) (pd : Pd)
    (mem : Mem) (xs : List (Nat × Act))
    (hxs : Run.Meets (RecvHistory.step cfg ibModifyQpIsOk) (fun _ x => NoReset x)
      (RecvHistory.start cfg init_attr pd mem) xs) :
    let h := Run.run (RecvHistory.step cfg ibModifyQpIsOk)
      (RecvHistory.start cfg init_attr pd mem) xs
    h.node.qp.recv_cq.map (fun c => c.1.wr_id) ++
        h.node.qp.responder.recv_wqe.map RecvWqe.wr_id = h.posted.map RecvWr.wr_id ∧
      h.node.qp.responder.nr_recv_wqe = h.node.qp.responder.recv_wqe.length ∧
      h.node.qp.responder.free_rwqe + h.node.qp.responder.recv_wqe.length =
        h.node.qp.init_attr.max_recv_wr := by
  have hg := Run.invariant (I := RecvHistory.Accounted)
    (fun _ _ hg hx => RecvHistory.accounted_step cfg ibModifyQpIsOk hg hx)
    (RecvHistory.accounted_start cfg init_attr pd mem) hxs
  exact ⟨hg.order, hg.counted, hg.pool⟩

/-- Two receives into memory that is not registered are posted, and a SEND comes:
the first fails, and the second is flushed. -/
def recvRun : List (Nat × Act) :=
  bringUp { rq_psn := 7, path_mtu := 1, port_num := 1 } ++
    [(1, .postRecv [{ wr_id := 3, sg_list := [{ addr := 0, length := 0, lkey := 0 }] },
        { wr_id := 4, sg_list := [{ addr := 0, length := 0, lkey := 0 }] }]),
     (2, .receive 1 { opcode := .SEND_ONLY, psn := 7 })]

theorem recv_completions_of_recvRun :
    let h := Run.run (RecvHistory.step {} ibStateTable)
      (RecvHistory.start {} {} ⟨0, fun _ => none⟩ fun _ => 0) recvRun
    h.node.qp.recv_cq.map (fun c => (c.1.wr_id, c.1.status)) =
      [(3, .LOC_PROT_ERR), (4, .WR_FLUSH_ERR)] ∧
      h.node.qp.recv_cq.map (fun c => c.1.wr_id) ++
        h.node.qp.responder.recv_wqe.map RecvWqe.wr_id = h.posted.map RecvWr.wr_id := by
  refine ⟨by decide, (recv_completions_exactly_once {} ibStateTable {} ⟨0, fun _ => none⟩
    (fun _ => 0) recvRun ?_).1⟩
  refine ⟨?_, ?_, ?_, trivial, trivial, trivial⟩ <;> simp [NoReset]

end pib
