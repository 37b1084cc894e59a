-- What becomes of a request that the responder refuses for good: the NAK is
-- queued, and nothing is ever sent.
import Pib.RequesterQueue

namespace pib

open Bytes

variable (cfg : Config) (isOk : StateCheck) (now : Nat)
    {n : Node} {port_num : Nat} {p : RcPacket}

/-! ## Taking in a request sends nothing -/

/-- Whatever the responder makes of a request, it sends nothing at once. -/
theorem receiveRequest_send_buffer (n : Node) (p : RcPacket) :
    (receiveRequest cfg now n p).send_buffer = n.send_buffer := by
  refine receiveRequest_of_steps (R := fun n n' => n'.send_buffer = n.send_buffer) (fun _ => rfl)
    (fun h h' => h'.trans h) cfg now p (fun h => ?_) n
  cases h with
  | store slot =>
    unfold storeSlot
    dsimp only
    split <;> rfl
  | _ => rfl

/-- A request that comes to the right port of a queue pair that can receive. -/
theorem receive_request_eq (hready : pibIsRecvOk n.qp.state = true)
    (hport : n.qp.attr.port_num = port_num) (hreq : pibOpcodeIsAcknowledge p.opcode = some false) :
    pibReceiveRcQpIncomingMessage cfg now port_num n p = receiveRequest cfg now n p := by
  have hcnp : p.opcode ≠ .CNP_SEND_NOTIFY := by
    intro he
    simp [he, pibOpcodeIsAcknowledge, attrOpCode] at hreq
  unfold pibReceiveRcQpIncomingMessage
  rw [if_neg (by simp [hready, hport]), if_neg hcnp, hreq]

/-- A request with the expected PSN is executed. -/
theorem receive_expected_eq (hready : pibIsRecvOk n.qp.state = true)
    (hport : n.qp.attr.port_num = port_num) (hreq : pibOpcodeIsAcknowledge p.opcode = some false)
    (hpsn : p.psn % 2 ^ 24 = n.qp.responder.psn % 2 ^ 24) :
    pibReceiveRcQpIncomingMessage cfg now port_num n p =
      receiveExpected cfg now (n.setQp (issueCommEst n.qp)) (psnMask p.psn) p := by
  have hdiff : getPsnDiff (psnMask p.psn) n.qp.responder.psn = 0 := by
    refine getPsnDiff_zero ?_
    rw [psnMask, PSN_MOD, Nat.mod_mod]
    exact hpsn
  rw [receive_request_eq cfg now hready hport hreq]
  simp [receiveRequest, hdiff]

/-! ## A queue pair in the error state is silent -/

/-- The step is not a call of `pib_modify_qp`. -/
def NotModified (x : Nat × Act) : Prop := ∀ attr mask, x.2 ≠ .modify attr mask

theorem moves_err {c : Ctx} {q q' : Qp} {as : List SendWr} (hm : Moves c q.sendQ as q'.sendQ)
    (h : q.state = .ERR) : q'.state = .ERR :=
  Moves.keep (I := fun s => s.state = .ERR)
    (fun hm hs => (sameAttrs_move hm).state.elim (fun he => he.trans hs) id) hm h

/-- A queue pair that has failed stays so, and sends nothing, whatever
happens to it short of a change of state by the user. -/
theorem step_err {x : Nat × Act} (h : n.qp.state = .ERR) (hx : NotModified x) :
    (step cfg isOk n x).qp.state = .ERR ∧
      (step cfg isOk n x).send_buffer = none := by
  obtain ⟨now, a⟩ := x
  have hrecv : pibIsRecvOk n.qp.state = false := by rw [h]; rfl
  cases a with
  | schedule =>
    have hgen : pibGenerateRcQpAcknowledge { n with send_buffer := none } =
        ({ n with send_buffer := none }, false) := by
      unfold pibGenerateRcQpAcknowledge
      rw [if_pos hrecv]
    have hreq : processRequester cfg now { n with send_buffer := none } =
        { n with send_buffer := none } := by
      unfold processRequester
      rw [if_pos (by simp [h])]
    simp only [step, act, processOnQpScheduler, hgen, hreq, Node.setQp_qp, Node.setQp_send_buffer,
      rescheduleQp_state, h, and_true]
  | receive port_num p =>
    have hnone : pibReceiveRcQpIncomingMessage cfg now port_num { n with send_buffer := none } p =
        { n with send_buffer := none } := by
      unfold pibReceiveRcQpIncomingMessage
      rw [if_pos (Or.inl hrecv)]
    simp only [step, act, hnone, Node.setQp_qp, Node.setQp_send_buffer, rescheduleQp_state, h,
      and_true]
  | modify attr mask => exact absurd rfl (hx attr mask)
  | _ =>
    exact ⟨moves_err (moves_step cfg isOk n now _ hx (by simp)) h, rfl⟩

/-! ## The packets of a run -/

/-- The packets that a run puts on the wire. -/
def transmitted (cfg : Config) (ibModifyQpIsOk : QpState → QpState → AttrMask → Bool) :
    Node → List (Nat × Act) → List RcPacket
  | _, [] => []
  | n, x :: xs => (step cfg ibModifyQpIsOk n x).send_buffer.toList ++
      transmitted cfg ibModifyQpIsOk (step cfg ibModifyQpIsOk n x) xs

theorem transmitted_err (xs : List (Nat × Act)) (hxs : ∀ x ∈ xs, NotModified x) :
    ∀ n : Node, n.qp.state = .ERR → transmitted cfg isOk n xs = [] := by
  induction xs with
  | nil =>
    intro n _
    rfl
  | cons x xs ih =>
    intro n h
    rw [List.forall_mem_cons] at hxs
    obtain ⟨hst, hnone⟩ := step_err cfg isOk h hxs.1
    rw [transmitted, hnone, ih hxs.2 _ hst]
    rfl

/-! ## Refused requests -/

/-- A request packet in sequence that makes the queue pair fail. -/
structure Refuses (cfg : Config) (now port_num : Nat) (n : Node) (p : RcPacket) : Prop where
  ready : pibIsRecvOk n.qp.state = true
  port : n.qp.attr.port_num = port_num
  request : pibOpcodeIsAcknowledge p.opcode = some false
  in_sequence : getPsnDiff (psnMask p.psn) n.qp.responder.psn = 0
  fails : (pibReceiveRcQpIncomingMessage cfg now port_num n p).qp.state = .ERR

/-- A NAK with this PSN that gives the element it is for an error status. -/
def IsNakFor (psn : Nat) (p : RcPacket) : Prop :=
  p.opcode = .ACKNOWLEDGE ∧ p.psn = psn ∧ nakStatus (ofBe (p.buffer.take 4) / 2 ^ 24) ≠ none

/-- The error is reported: in some run from the arrival of the request on, a
NAK for it goes out. -/
def Reported (cfg : Config) (ibModifyQpIsOk : QpState → QpState → AttrMask → Bool)
    (now port_num : Nat) (n : Node) (p : RcPacket) : Prop :=
  ∃ xs : List (Nat × Act), (∀ x ∈ xs, NotModified x) ∧
    ∃ nak ∈ transmitted cfg ibModifyQpIsOk n ((now, .receive port_num p) :: xs),
      IsNakFor (psnMask p.psn) nak

/-- From the arrival of a request that is refused on, the queue pair sends
nothing, neither the acknowledges queued before nor the NAK. -/
theorem refusal_silent (port_num : Nat) (n : Node) (p : RcPacket)
    (h : Refuses cfg now port_num { n with send_buffer := none } p) (xs : List (Nat × Act))
    (hxs : ∀ x ∈ xs, NotModified x) :
    transmitted cfg isOk n ((now, .receive port_num p) :: xs) = [] := by
  have hstep : (step cfg isOk n (now, .receive port_num p)).qp.state = .ERR ∧
      (step cfg isOk n (now, .receive port_num p)).send_buffer = none := by
    have hfails := h.fails
    simp only [step, act, Node.setQp_qp, Node.setQp_send_buffer]
    rw [receive_request_eq cfg now h.ready h.port h.request] at hfails ⊢
    rw [rescheduleQp_state, receiveRequest_send_buffer]
    exact ⟨hfails, rfl⟩
  rw [transmitted, hstep.2, transmitted_err cfg isOk xs hxs _ hstep.1]
  rfl

theorem not_reported_of_silent {cfg : Config}
    {isOk : StateCheck} {now : Nat} (h : ∀ xs : List (Nat × Act), (∀ x ∈ xs, NotModified x) →
      transmitted cfg isOk n ((now, .receive port_num p) :: xs) = []) :
    ¬ Reported cfg isOk now port_num n p := by
  rintro ⟨xs, hxs, nak, hmem, -⟩
  rw [h xs hxs] at hmem
  simp at hmem

/-- No fatal refusal is reported, whatever is queued and whatever follows. -/
theorem refusal_never_reported (cfg : Config)
    (ibModifyQpIsOk : QpState → QpState → AttrMask → Bool) (now port_num : Nat) (n : Node)
    (p : RcPacket) (h : Refuses cfg now port_num { n with send_buffer := none } p) :
    ¬ Reported cfg ibModifyQpIsOk now port_num n p ∧
      ∀ xs : List (Nat × Act), (∀ x ∈ xs, NotModified x) →
        transmitted cfg ibModifyQpIsOk n ((now, .receive port_num p) :: xs) = [] := by
  have hsilent := refusal_silent cfg ibModifyQpIsOk now port_num n p h
  exact ⟨not_reported_of_silent hsilent, hsilent⟩

/-- A queue pair that has sent a request to read four bytes, and will not retry it. -/
def readRequester : Node :=
  Run.run (step {} ibStateTable)
    (created {} { max_send_wr := 1 } none ⟨0, fun _ => none⟩ fun _ => 0)
    (bringUp { timeout := 1, retry_cnt := 0, sq_psn := 5, max_rd_atomic := 1, path_mtu := 1 } ++
      [(1, .postSend (fun _ _ => none)
          [{ wr_id := 9, opcode := .RDMA_READ, sg_list := [{ addr := 0, length := 4, lkey := 0 }] }]),
       (1, .schedule)])

def readRequest : RcPacket := readRequester.send_buffer.getD { opcode := .SEND_ONLY, psn := 0 }

/-- Its peer, which has no memory region. -/
def readResponder : Node :=
  Run.run (step {} ibStateTable) (created {} {} none ⟨0, fun _ => none⟩ fun _ => 0)
    (bringUp { rq_psn := 5, max_dest_rd_atomic := 1, path_mtu := 1 })

theorem refuses_readRequest :
    Refuses {} 2 1 { readResponder with send_buffer := none } readRequest :=
  ⟨by decide, by decide, by decide, by decide, by decide⟩

theorem refusal_of_readRequest : ¬ Reported {} ibStateTable 2 1 readResponder readRequest :=
  (refusal_never_reported {} ibStateTable 2 1 readResponder readRequest refuses_readRequest).1

/-- The peer refuses the request for its key. No NAK comes back, and the
requester ends with its retries exceeded. -/
theorem refused_read_retries_exceeded :
    readRequester.send_buffer = some readRequest ∧
      Refuses {} 2 1 { readResponder with send_buffer := none } readRequest ∧
      ¬ Reported {} ibStateTable 2 1 readResponder readRequest ∧
      (Run.run (step {} ibStateTable) readRequester [(9, .schedule), (10, .schedule)]).qp.send_cq =
        [{ wr_id := 9, status := .RETRY_EXC_ERR, opcode := .ofWr .RDMA_READ }] :=
  ⟨by decide, refuses_readRequest, not_reported_of_silent
    (refusal_silent {} ibStateTable 2 1 readResponder readRequest refuses_readRequest), by decide⟩

end pib
