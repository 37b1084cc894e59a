-- What a refused request does to the receive elements that are posted. The
-- offset in the message decides whether the first one is taken for partly
-- filled, and it is kept after a message has ended and shared with RDMA WRITE.
import Pib.RecvCompletions
import Pib.StateChanges
import Pib.Solicited

namespace pib

open Bytes

variable (cfg : Config) (now : Nat) (n : Node) (q : Qp) (psn : Nat) {r : Qp} {p : RcPacket}
    {n₀ : Node}

/-! ## Errors and the completions of a refusal -/

/-- The errors that `insert_async_qp_error` reports. -/
def isAsyncError (e : EventType) : Bool := decide (e = .QP_REQ_ERR ∨ e = .QP_ACCESS_ERR)

/-- The number of errors that have been reported. -/
def Qp.asyncErrors (q : Qp) : Nat := q.events.countP isAsyncError

/-- The completion of a receive element by `abort_active_rwqe`. -/
def abortWc (w : RecvWqe) : Wc × Bool :=
  ({ wr_id := w.wr_id, status := .GENERAL_ERR, opcode := .RECV }, true)

/-- The completions of the receive elements when a request is refused at this
offset. -/
def refusalWcs (offset : Nat) : List RecvWqe → List (Wc × Bool)
  | [] => []
  | w :: ws => (if offset = 0 then flushRecvWc w else abortWc w) :: ws.map flushRecvWc

theorem wr_ids_refusalWcs (offset : Nat) (ws : List RecvWqe) :
    (refusalWcs offset ws).map (fun c => c.1.wr_id) = ws.map fun w => w.wr_id := by
  cases ws with
  | nil => rfl
  | cons w ws =>
    have hflush : (ws.map flushRecvWc).map (fun c => c.1.wr_id) = ws.map fun w => w.wr_id := by
      rw [List.map_map]
      rfl
    unfold refusalWcs
    rw [List.map_cons, hflush, List.map_cons]
    congr 1
    split <;> rfl

theorem recv_cq_failQp :
    (failQp now q).recv_cq = q.recv_cq ++ q.responder.recv_wqe.map flushRecvWc :=
  congrArg RecvSide.recv_cq (respSide_failQp now q)

theorem recv_wqe_failQp : (failQp now q).responder.recv_wqe = [] :=
  congrArg (fun b => b.responder.recv_wqe) (respSide_failQp now q)

theorem recv_cq_popRecvWqe : q.popRecvWqe.recv_cq = q.recv_cq := by
  unfold Qp.popRecvWqe Qp.freeRecvWqe
  split <;> rfl

theorem recv_wqe_popRecvWqe : q.popRecvWqe.responder.recv_wqe = q.responder.recv_wqe.tail := by
  unfold Qp.popRecvWqe Qp.freeRecvWqe
  split <;> rfl

/-- A failure after `abort_active_rwqe` completes every receive element. -/
theorem recv_cq_abort :
    (failQp now (abortActiveRwqe q)).recv_cq =
      q.recv_cq ++ refusalWcs q.responder.offset q.responder.recv_wqe := by
  rw [recv_cq_failQp]
  unfold abortActiveRwqe refusalWcs
  cases hw : q.responder.recv_wqe with
  | nil => simp [hw]
  | cons w ws =>
    dsimp only
    split
    · rw [hw, List.map_cons]
    · rw [recv_cq_popRecvWqe, recv_wqe_popRecvWqe]
      simp [Qp.insertRecvError, hw, abortWc]

@[simp] theorem asyncErrors_freeRecvWqe : q.freeRecvWqe.asyncErrors = q.asyncErrors := by
  unfold Qp.freeRecvWqe
  split <;> rfl

@[simp] theorem asyncErrors_popRecvWqe : q.popRecvWqe.asyncErrors = q.asyncErrors :=
  asyncErrors_freeRecvWqe _

theorem asyncErrors_insertEvent {e : EventType} (h : isAsyncError e = false) :
    (q.insertEvent e).asyncErrors = q.asyncErrors := by
  simp [Qp.asyncErrors, Qp.insertEvent, h]

@[simp] theorem asyncErrors_rescheduleQp :
    (pibUtilRescheduleQp now q).asyncErrors = q.asyncErrors := by
  unfold pibUtilRescheduleQp
  split <;> rfl

/-- A failure by itself reports no error but the last receive element. -/
@[simp] theorem asyncErrors_failQp : (failQp now q).asyncErrors = q.asyncErrors := by
  have hfold : ∀ (l : List RecvWqe) (q : Qp),
      (l.foldl (fun q w => (q.insertRecvError w.wr_id .WR_FLUSH_ERR .RECV).freeRecvWqe)
        q).asyncErrors = q.asyncErrors := by
    intro l
    induction l with
    | nil =>
      intro q
      rfl
    | cons w l ih =>
      intro q
      rw [List.foldl_cons, ih, asyncErrors_freeRecvWqe]
      rfl
  have hrecv : ∀ q : Qp, (flushRecvQueue q).asyncErrors = q.asyncErrors := by
    intro q
    have hq := hfold q.responder.recv_wqe q
    unfold flushRecvQueue
    generalize List.foldl _ q q.responder.recv_wqe = q' at hq ⊢
    dsimp only
    split
    · change (Qp.insertEvent _ .QP_LAST_WQE_REACHED).asyncErrors = _
      rw [asyncErrors_insertEvent _ (by decide)]
      exact hq
    · exact hq
  have hsend : ∀ q : Qp, (flushSendQueue q).asyncErrors = q.asyncErrors := by
    intro q
    unfold flushSendQueue
    simp only [foldl_flushSendWqe]
    rfl
  unfold failQp pibUtilFlushQp
  simp only [Bool.false_eq_true, if_false]
  change (pibUtilRescheduleQp now (flushRecvQueue _)).asyncErrors = _
  rw [asyncErrors_rescheduleQp, hrecv, hsend]
  rfl

@[simp] theorem asyncErrors_takeFromSrq : (takeFromSrq q).asyncErrors = q.asyncErrors := by
  unfold takeFromSrq
  split
  · rfl
  split
  · rfl
  · split <;> rfl

@[simp] theorem asyncErrors_failRecv (w : RecvWqe) (status : WcStatus) (opcode : WcOpcode) :
    (failRecv q w status opcode).asyncErrors = q.asyncErrors := by
  unfold failRecv
  rw [asyncErrors_popRecvWqe]
  rfl

@[simp] theorem asyncErrors_acceptData (p : RcPacket) (s : Segment)
    (completes : Bool) (w : RecvWqe) (ex len : Nat) (opcode : WcOpcode) :
    (acceptData q psn p s completes w ex len opcode).asyncErrors = q.asyncErrors := by
  unfold acceptData
  dsimp only
  split
  · exact (asyncErrors_popRecvWqe _).trans rfl
  · rfl

/-! ## How a request ends -/

/-- The part of a queue pair that a request which changes nothing leaves. -/
structure Desk where
  state : QpState
  last_OpCode : OpCode
  recv_wqe : List RecvWqe
  recv_cq : List (Wc × Bool)
  asyncErrors : Nat

def Qp.desk (q : Qp) : Desk :=
  { state := q.state, last_OpCode := q.responder.last_OpCode, recv_wqe := q.responder.recv_wqe
    recv_cq := q.recv_cq, asyncErrors := q.asyncErrors }

@[simp] theorem desk_pushAcknowledge (syndrome : Nat) :
    (pushAcknowledge q psn syndrome).desk = q.desk := by
  unfold pushAcknowledge pushOrCoalesce
  split
  · rfl
  split
  · rfl
  · split <;> rfl

@[simp] theorem desk_issueCommEst : (issueCommEst q).desk = q.desk := by
  unfold issueCommEst
  split
  · rfl
  have h := asyncErrors_insertEvent q (e := .COMM_EST) rfl
  unfold Qp.desk
  exact congrArg (Desk.mk q.state q.responder.last_OpCode q.responder.recv_wqe q.recv_cq) h

/-- The offset and the receive elements at the point of a refusal: a message may
have been begun, and an element taken from the shared receive queue. -/
structure Brink (q : Qp) (offset : Nat) (ws : List RecvWqe) : Prop where
  offset : offset = q.responder.offset ∨ offset = 0
  queue : ws = q.responder.recv_wqe ∨ q.srq ≠ none ∧ ∃ w, ws = q.responder.recv_wqe ++ [w]

/-- The request was refused: the queue pair has failed, and every receive element
is completed. -/
structure Refused (q q' : Qp) : Prop where
  state : q'.state = .ERR
  empty : q'.responder.recv_wqe = []
  completions : ∃ offset ws, Brink q offset ws ∧ q'.recv_cq = q.recv_cq ++ refusalWcs offset ws

theorem Brink.refl : Brink q q.responder.offset q.responder.recv_wqe :=
  ⟨Or.inl rfl, Or.inl rfl⟩

/-- What `insert_async_qp_error` does, with the acknowledge queued before or after
the element is aborted. -/
theorem refused_abort {q : Qp} (hb : Brink q r.responder.offset r.responder.recv_wqe)
    (hcq : r.recv_cq = q.recv_cq) {q₂ : Qp} (hside : q₂.recvSide = (abortActiveRwqe r).recvSide) :
    Refused q (failQp now q₂) := by
  have hrecv : q₂.recv_cq = (abortActiveRwqe r).recv_cq := congrArg RecvSide.recv_cq hside
  have hlist : q₂.responder.recv_wqe = (abortActiveRwqe r).responder.recv_wqe :=
    congrArg (fun b => b.responder.recv_wqe) hside
  refine ⟨failQp_state now _, recv_wqe_failQp now _, _, _, hb, ?_⟩
  rw [recv_cq_failQp, hrecv, hlist, ← recv_cq_failQp now, recv_cq_abort, hcq]

theorem refused_refuse {q : Qp} (syndrome : Nat) (event : EventType)
    (hb : Brink q r.responder.offset r.responder.recv_wqe) (hcq : r.recv_cq = q.recv_cq) :
    Refused q (refuse now r psn syndrome event) := by
  have hside : ((pushAcknowledge r psn syndrome).insertEvent event).recvSide = r.recvSide :=
    recvSide_pushAcknowledge r psn syndrome
  have hoff : ((pushAcknowledge r psn syndrome).insertEvent event).responder.offset =
      r.responder.offset := congrArg (fun b => b.responder.offset) hside
  have hlist : ((pushAcknowledge r psn syndrome).insertEvent event).responder.recv_wqe =
      r.responder.recv_wqe := congrArg (fun b => b.responder.recv_wqe) hside
  have hrecv := congrArg RecvSide.recv_cq hside
  refine refused_abort now (r := (pushAcknowledge r psn syndrome).insertEvent event) ?_
    (hrecv.trans hcq) rfl
  rw [hoff, hlist]
  exact hb

/-- The step has stored the data of a SEND in a receive element. -/
def placedBy (n n' : Node) : Bool :=
  match n'.ops.drop n.ops.length with
  | [(.recv _ _ _, .SUCCESS)] => true
  | _ => false

/-- The packets after which a SEND goes on. -/
def leavesOpen : OpCode → Bool
  | .SEND_FIRST | .SEND_MIDDLE => true
  | _ => false

/-- The ways in which a request in sequence can end. -/
inductive Ended (n : Node) (p : RcPacket) : Node × Option Nat → Prop
  /-- there is no receive element, or the opcode is unknown -/
  | waits {n' : Node} (hdesk : n'.qp.desk = n.qp.desk) (hops : n'.ops = n.ops) : Ended n p (n', none)
  /-- it is taken; a SEND that goes on has stored its data in an element that stays -/
  | taken {n' : Node} {k : Nat} (hstate : n'.qp.state = n.qp.state)
      (hasync : n'.qp.asyncErrors = n.qp.asyncErrors)
      (hopen : leavesOpen p.opcode = true →
        placedBy n n' = true ∧ n'.qp.responder.recv_wqe ≠ []) : Ended n p (n', some k)
  /-- its receive element is completed in error -/
  | failed {n' : Node} (hstate : n'.qp.state = .ERR) (hempty : n'.qp.responder.recv_wqe = [])
      (hasync : n'.qp.asyncErrors = n.qp.asyncErrors) : Ended n p (n', none)
  | refused {n' : Node} (h : Refused n.qp n'.qp) : Ended n p (n', none)

@[simp] theorem asyncErrors_pushAcknowledge (syndrome : Nat) :
    (pushAcknowledge q psn syndrome).asyncErrors = q.asyncErrors :=
  congrArg Desk.asyncErrors (desk_pushAcknowledge q psn syndrome)

/-- A queue pair at the point where the packet is looked at: a message may have
been begun, and an element taken from the shared receive queue. -/
structure Prepared (q q₁ : Qp) : Prop where
  brink : Brink q q₁.responder.offset q₁.responder.recv_wqe
  recv_cq : q₁.recv_cq = q.recv_cq
  state : q₁.state = q.state
  asyncErrors : q₁.asyncErrors = q.asyncErrors

theorem Prepared.refl : Prepared q q := ⟨Brink.refl q, rfl, rfl, rfl⟩

theorem ended_refuse {q : Qp} (syndrome : Nat) (event : EventType) (hq : Prepared n.qp q) :
    Ended n p (n.setQp (refuse now q psn syndrome event), none) :=
  .refused (refused_refuse now psn syndrome event hq.brink hq.recv_cq)

/-- A packet that leaves a SEND open neither ends it nor carries a key. -/
theorem segment_of_leavesOpen {pmtu : Nat} {o : OpCode} {s : Segment}
    (hs : sendSegment pmtu o = some s) (ho : leavesOpen o = true) :
    s.finit = false ∧ s.with_inv = false := by
  cases o <;> simp only [leavesOpen, Bool.false_eq_true] at ho
  all_goals
    obtain rfl := Option.some.inj hs
    exact ⟨rfl, rfl⟩

theorem placedBy_perform {n : Node} (hops : n.ops = n₀.ops) {w : RecvWqe} {offset : Nat}
    {data : List UInt8} (hok : ((MemOp.recv w offset data).run n.pd n.mem).1 = .SUCCESS) (q : Qp) :
    placedBy n₀ ((n.perform (.recv w offset data)).setQp q) = true := by
  have hdrop : ((n.perform (.recv w offset data)).setQp q).ops.drop n₀.ops.length =
      [(.recv w offset data, .SUCCESS)] := by
    rw [Node.setQp_ops]
    simp only [Node.perform, hok, hops, List.drop_left]
  rw [placedBy, hdrop]

/-- The list that a packet leaves open still has its first element. -/
theorem recv_wqe_acceptData_open (p : RcPacket) (s : Segment) (w : RecvWqe)
    (ex len : Nat) (opcode : WcOpcode) :
    (acceptData q psn p s false w ex len opcode).responder.recv_wqe = q.responder.recv_wqe := by
  unfold acceptData
  dsimp only
  rw [if_neg Bool.false_ne_true]
  exact congrArg Desk.recv_wqe (desk_pushAcknowledge _ psn PIB_SYND_ACK_CODE)

theorem ended_placeSend {n : Node} (hops : n.ops = n₀.ops) (hq : Prepared n₀.qp n.qp) (psn : Nat)
    {s : Segment} {pmtu : Nat} (hs : sendSegment pmtu p.opcode = some s) {w : RecvWqe}
    {ws : List RecvWqe} (hw : n.qp.responder.recv_wqe = w :: ws) (ex : Nat) (data : List UInt8) :
    Ended n₀ p (placeSend now n psn p s w ex data) := by
  have hasync := hq.asyncErrors
  unfold placeSend
  dsimp only
  by_cases hst : (MemOp.run n.pd n.mem (.recv w n.qp.responder.offset data)).1 ≠ .SUCCESS
  · rw [if_pos hst]
    refine .failed (failQp_state now _) (recv_wqe_failQp now _) ?_
    simpa using hasync
  have hok : (MemOp.run n.pd n.mem (.recv w n.qp.responder.offset data)).1 = .SUCCESS := by
    simpa using hst
  rw [if_neg hst]
  have hstate' := (stands_acceptData n.qp psn p s s.finit w ex data.length .RECV).1.trans hq.state
  by_cases hinv : s.with_inv = true
  · rw [if_pos hinv]
    split
    · refine .taken hstate' ?_ ?_
      · simpa using hasync
      · intro ho
        rw [(segment_of_leavesOpen hs ho).2] at hinv
        exact absurd hinv Bool.false_ne_true
    · refine .failed (failQp_state now _) (recv_wqe_failQp now _) ?_
      simpa using hasync
  · rw [if_neg hinv]
    refine .taken hstate' ?_ ?_
    · simpa using hasync
    · intro ho
      refine ⟨placedBy_perform hops hok _, ?_⟩
      rw [Node.setQp_qp, Node.perform_qp, (segment_of_leavesOpen hs ho).1,
        recv_wqe_acceptData_open, hw]
      exact List.cons_ne_nil w ws

/-- So is one where an element may have been taken from the shared receive queue. -/
theorem prepared_takeFromSrq {q : Qp} (hq : Prepared q r)
    (hlist : r.responder.recv_wqe = q.responder.recv_wqe) (hsrq : r.srq = q.srq) :
    Prepared q (takeFromSrq r) := by
  refine ⟨⟨?_, ?_⟩, ?_, (stands_takeFromSrq r).1.trans hq.state,
    (asyncErrors_takeFromSrq r).trans hq.asyncErrors⟩
  · have hoff : (takeFromSrq r).responder.offset = r.responder.offset := by
      unfold takeFromSrq
      split
      · rfl
      split
      · rfl
      · split <;> rfl
    rw [hoff]
    exact hq.brink.offset
  · unfold takeFromSrq
    split
    · exact Or.inl hlist
    rename_i srq hs
    split
    · exact Or.inl hlist
    rename_i w ws _
    split
    · refine Or.inr ⟨?_, w, ?_⟩
      · rw [← hsrq, hs]
        exact Option.some_ne_none srq
      · rw [← hlist]
    · exact Or.inl hlist
  · rw [← hq.recv_cq]
    unfold takeFromSrq
    split
    · rfl
    split
    · rfl
    · split <;> rfl

/-- If the list is empty afterwards, nothing was taken. -/
theorem desk_takeFromSrq_of_empty {q : Qp} (h : (takeFromSrq q).responder.recv_wqe = []) :
    (takeFromSrq q).desk = q.desk := by
  unfold takeFromSrq at h ⊢
  split
  · rfl
  rename_i srq hs
  simp only [hs] at h
  split
  · rfl
  rename_i w ws hl
  simp only [hl] at h
  split
  · rename_i hok
    rw [if_pos hok] at h
    exact absurd h (by simp)
  · rfl

theorem ended_receiveSendRequest (p : RcPacket) : Ended n p (receiveSendRequest now n psn p) := by
  unfold receiveSendRequest
  rcases hs : sendSegment (pmtuOf n.qp.attr.path_mtu) p.opcode with _ | s
  · exact .waits rfl rfl
  dsimp only
  generalize hq : (if s.init = true then
    takeFromSrq { n.qp with responder := { n.qp.responder with offset := 0 } } else n.qp) = q
  have hprep : Prepared n.qp q := by
    rw [← hq]
    split
    · exact prepared_takeFromSrq (r := { n.qp with responder := { n.qp.responder with
        offset := 0 } }) ⟨⟨Or.inr rfl, Or.inl rfl⟩, rfl, rfl, rfl⟩ rfl rfl
    · exact Prepared.refl n.qp
  have hempty : q.responder.recv_wqe = [] → q.desk = n.qp.desk := by
    rw [← hq]
    split
    · exact desk_takeFromSrq_of_empty
    · exact fun _ => rfl
  rcases hw : q.responder.recv_wqe with _ | ⟨w, ws⟩
  · refine .waits ?_ rfl
    rw [Node.setQp_qp, desk_pushAcknowledge]
    exact hempty hw
  dsimp only
  split
  · exact ended_refuse now n psn _ _ hprep
  split
  · exact ended_refuse now n psn _ _ hprep
  · exact ended_placeSend now (n := n.setQp q) (n.setQp_ops q) hprep psn hs hw _ _

/-- Without an error of the receive element, an RDMA WRITE that fails is refused. -/
theorem ended_failWrite {n : Node}
    (hq : Prepared n₀.qp n.qp) (psn : Nat) (s : Segment) (w : RecvWqe) (status : WcStatus) :
    Ended n₀ p (n.setQp (failWrite cfg now n.qp psn s w status), none) := by
  unfold failWrite
  dsimp only
  split
  · refine .failed (failQp_state now _) (recv_wqe_failQp now _) ?_
    simpa using hq.asyncErrors
  refine .refused (refused_abort now (r := n.qp.insertEvent .QP_ACCESS_ERR) hq.brink
    hq.recv_cq ?_)
  exact recvSide_pushAcknowledge _ psn _

theorem ended_placeWrite {n : Node} (hq : Prepared n₀.qp n.qp) (psn : Nat)
    (ho : leavesOpen p.opcode = false) (s : Segment) (w : RecvWqe) (imm_data : Nat)
    (data : List UInt8) : Ended n₀ p (placeWrite cfg now n psn p s w imm_data data) := by
  unfold placeWrite
  dsimp only
  split
  · exact .refused (refused_refuse now psn _ _ hq.brink hq.recv_cq)
  split
  · exact ended_failWrite cfg now hq psn s w _
  generalize MemOp.write n.qp.responder.rdma_write_rkey _ data = op
  by_cases hst : (op.run n.pd n.mem).1 ≠ .SUCCESS
  · rw [if_pos hst]
    exact ended_failWrite cfg now (n := n.perform op) hq psn s w _
  rw [if_neg hst]
  refine .taken ?_ ?_ ?_
  · exact (stands_acceptData n.qp psn p s _ w imm_data data.length _).1.trans hq.state
  · simpa using hq.asyncErrors
  · intro hop
    rw [ho] at hop
    exact absurd hop Bool.false_ne_true

theorem ended_receiveRdmaWriteRequest (ho : leavesOpen p.opcode = false) :
    Ended n p (receiveRdmaWriteRequest cfg now n psn p) := by
  unfold receiveRdmaWriteRequest
  rcases writeSegment (pmtuOf n.qp.attr.path_mtu) p.opcode with _ | s
  · exact .waits rfl rfl
  dsimp only
  split
  · exact ended_refuse now n psn _ _ (Prepared.refl n.qp)
  generalize hq : (if s.init = true then startWrite n.qp (Reth.decode p.buffer) else n.qp) = q
  have hprep : Prepared n.qp q ∧ q.responder.recv_wqe = n.qp.responder.recv_wqe ∧
      q.srq = n.qp.srq ∧ q.desk = n.qp.desk := by
    rw [← hq]
    split
    · exact ⟨⟨⟨Or.inr rfl, Or.inl rfl⟩, rfl, rfl, rfl⟩, rfl, rfl, rfl⟩
    · exact ⟨Prepared.refl n.qp, rfl, rfl, rfl⟩
  obtain ⟨hprep, hlist, hsrq, hdesk⟩ := hprep
  split
  · have hprep' := prepared_takeFromSrq hprep hlist hsrq
    have hempty := fun h => (desk_takeFromSrq_of_empty (q := q) h).trans hdesk
    generalize takeFromSrq q = q' at hprep' hempty ⊢
    rcases hw : q'.responder.recv_wqe with _ | ⟨w, ws⟩
    · refine .waits ?_ rfl
      rw [Node.setQp_qp, desk_pushAcknowledge]
      exact hempty hw
    dsimp only
    split
    · exact ended_refuse now n psn _ _ hprep'
    · exact ended_placeWrite cfg now (n := n.setQp q') hprep' psn ho s _ _ _
  · exact ended_placeWrite cfg now (n := n.setQp q) hprep psn ho s _ _ _

/-- An RDMA READ is refused, or it leaves all of this alone. -/
inductive ReadEnded (n : Node) : Node × Option Nat → Prop
  | scheduled {n' : Node} {k : Nat} (hdesk : n'.qp.desk = n.qp.desk) (hops : n'.ops = n.ops) :
      ReadEnded n (n', some k)
  | refused {n' : Node} (h : Refused n.qp n'.qp) : ReadEnded n (n', none)

theorem desk_storeSlot (slot : Slot) : (storeSlot n slot).qp.desk = n.qp.desk := by
  unfold storeSlot
  dsimp only
  split <;> rfl

theorem readEnded_scheduleRead {n : Node} (hq : Prepared n₀.qp n.qp)
    (hdesk : n.qp.desk = n₀.qp.desk) (hops : n.ops = n₀.ops) (psn expected_psn : Nat) (r : Reth)
    (ret : Nat) : ReadEnded n₀ (scheduleRead now n psn expected_psn r ret) := by
  unfold scheduleRead
  dsimp only
  split
  · exact .refused (refused_refuse now
      (r := removeOverlappedRdmaReadAcknowledge n.qp psn expected_psn) psn _ _ hq.brink hq.recv_cq)
  · exact .scheduled hdesk hops

theorem prepared_storeSlot (slot : Slot) : Prepared n.qp (storeSlot n slot).qp := by
  unfold storeSlot
  dsimp only
  split <;> exact ⟨⟨Or.inl rfl, Or.inl rfl⟩, rfl, rfl, rfl⟩

theorem readEnded_receiveRdmaReadRequest (p : RcPacket)
    (slot_index : Option Nat) : ReadEnded n (receiveRdmaReadRequest now n psn p slot_index) := by
  have href : ∀ syndrome event,
      ReadEnded n (n.setQp (refuse now n.qp psn syndrome event), none) := fun _ _ =>
    .refused (refused_refuse now psn _ _ (Brink.refl n.qp) rfl)
  unfold receiveRdmaReadRequest
  dsimp only
  split
  · exact href _ _
  split
  · exact href _ _
  split
  · exact href _ _
  split
  · split
    · exact href _ _
    · exact readEnded_scheduleRead now (prepared_storeSlot n _) (desk_storeSlot n _)
        (storeSlot_ops n _) psn _ _ _
  · split
    · exact href _ _
    · exact readEnded_scheduleRead now (Prepared.refl n.qp) rfl rfl psn _ _ _

theorem ended_receiveAtomicRequest
    (ho : leavesOpen p.opcode = false) : Ended n p (receiveAtomicRequest now n psn p) := by
  unfold receiveAtomicRequest
  split
  · exact ended_refuse now n psn _ _ (Prepared.refl n.qp)
  split
  · exact ended_refuse now n psn _ _ (Prepared.refl n.qp)
  dsimp only
  split
  · exact .refused (refused_refuse now psn _ _ (Brink.refl n.qp) rfl)
  generalize hslot : Slot.mk _ _ _ _ _ _ _ = slot
  have hprep := prepared_storeSlot (n.perform (atomicOp p)) slot
  refine .taken hprep.state hprep.asyncErrors ?_
  intro hop
  rw [ho] at hop
  exact absurd hop Bool.false_ne_true

theorem ended_executeRequest (p : RcPacket) : Ended n p (executeRequest cfg now n psn p) := by
  have hread : p.opcode = .RDMA_READ_REQUEST →
      Ended n p (receiveRdmaReadRequest now n psn p none) := by
    intro hop
    have hr := readEnded_receiveRdmaReadRequest now n psn p none
    generalize receiveRdmaReadRequest now n psn p none = r at hr ⊢
    cases hr with
    | refused h => exact .refused h
    | scheduled hdesk _ =>
      refine .taken (congrArg Desk.state hdesk) (congrArg Desk.asyncErrors hdesk) ?_
      rw [hop]
      exact fun h => absurd h (by decide)
  unfold executeRequest
  split
  all_goals rename_i hop
  all_goals first
    | with_reducible exact ended_receiveSendRequest now n psn p
    | with_reducible exact ended_receiveRdmaWriteRequest cfg now n psn (by simp only [hop, leavesOpen])
    | with_reducible exact hread hop
    | with_reducible exact ended_receiveAtomicRequest now n psn (by simp only [hop, leavesOpen])
    | exact .waits rfl rfl

/-! ## Any request -/

/-- The ways in which any request can end. -/
inductive Settled (n : Node) (p : RcPacket) (n' : Node) : Prop
  /-- it changes nothing here -/
  | quiet (hdesk : n'.qp.desk = n.qp.desk) (hops : n'.ops = n.ops)
  | taken (hstate : n'.qp.state = n.qp.state) (hasync : n'.qp.asyncErrors = n.qp.asyncErrors)
      (hlast : n'.qp.responder.last_OpCode = p.opcode)
      (hopen : leavesOpen p.opcode = true → placedBy n n' = true ∧ n'.qp.responder.recv_wqe ≠ [])
  | failed (hstate : n'.qp.state = .ERR) (hempty : n'.qp.responder.recv_wqe = [])
      (hasync : n'.qp.asyncErrors = n.qp.asyncErrors)
  | refused (h : Refused n.qp n'.qp)

theorem settled_receiveDuplicate (p : RcPacket) : Settled n p (receiveDuplicate now n psn p) := by
  unfold receiveDuplicate
  split
  · split
    · split
      · rename_i i _ _
        have hr := readEnded_receiveRdmaReadRequest now n psn p (some i)
        generalize receiveRdmaReadRequest now n psn p (some i) = r at hr ⊢
        cases hr with
        | refused h => exact .refused h
        | scheduled hdesk hops => exact .quiet hdesk hops
      · exact .quiet rfl rfl
    · exact .refused (refused_refuse now psn _ _ (Brink.refl n.qp) rfl)
  · exact .quiet (desk_pushAcknowledge n.qp psn _) rfl

theorem settled_receiveExpected (p : RcPacket) : Settled n p (receiveExpected cfg now n psn p) := by
  unfold receiveExpected
  split
  · exact .quiet rfl rfl
  · exact .refused (refused_refuse now psn _ _ (Brink.refl n.qp) rfl)
  have he := ended_executeRequest cfg now n psn p
  generalize executeRequest cfg now n psn p = r at he ⊢
  cases he with
  | waits hdesk hops => exact .quiet hdesk hops
  | taken hstate hasync hopen => exact .taken hstate hasync rfl hopen
  | failed hstate hempty hasync => exact .failed hstate hempty hasync
  | refused h => exact .refused h

/-- The end of a request is the same from a queue pair that differs elsewhere. -/
theorem Settled.base {n n' : Node} (h : Settled n₀ p n') (hside : n₀.qp.recvSide = n.qp.recvSide)
    (hasync : n₀.qp.asyncErrors = n.qp.asyncErrors) (hops : n₀.ops = n.ops) : Settled n p n' := by
  have hstate : n₀.qp.state = n.qp.state := congrArg RecvSide.state hside
  have hcq : n₀.qp.recv_cq = n.qp.recv_cq := congrArg RecvSide.recv_cq hside
  have hsrq : n₀.qp.srq = n.qp.srq := congrArg RecvSide.srq hside
  have hoff : n₀.qp.responder.offset = n.qp.responder.offset :=
    congrArg (fun b => b.responder.offset) hside
  have hlist : n₀.qp.responder.recv_wqe = n.qp.responder.recv_wqe :=
    congrArg (fun b => b.responder.recv_wqe) hside
  have hlast : n₀.qp.responder.last_OpCode = n.qp.responder.last_OpCode :=
    congrArg (fun b => b.responder.last_OpCode) hside
  have hdesk : n₀.qp.desk = n.qp.desk := by
    simp only [Qp.desk, hstate, hlast, hlist, hcq, hasync]
  rcases h with ⟨hd, ho⟩ | ⟨hst, ha, hl, hop⟩ | ⟨hst, he, ha⟩ |
    ⟨hst, he, offset, ws, ⟨hb, hq⟩, hws⟩
  · exact .quiet (hd.trans hdesk) (ho.trans hops)
  · refine .taken (hst.trans hstate) (ha.trans hasync) hl ?_
    rw [placedBy, ← hops]
    exact hop
  · exact .failed hst he (ha.trans hasync)
  · rw [hoff] at hb
    rw [hlist, hsrq] at hq
    rw [hcq] at hws
    exact .refused ⟨hst, he, offset, ws, ⟨hb, hq⟩, hws⟩

theorem settled_receiveRequest (p : RcPacket) : Settled n p (receiveRequest cfg now n p) := by
  -- the report of the first packet changes nothing that is looked at here
  have hsame : ∀ {n' : Node}, Settled (n.setQp (issueCommEst n.qp)) p n' → Settled n p n' :=
    fun h => h.base (recvSide_issueCommEst n.qp)
      (congrArg Desk.asyncErrors (desk_issueCommEst n.qp)) rfl
  unfold receiveRequest
  dsimp only
  split
  · refine hsame (.quiet ?_ rfl)
    exact desk_pushAcknowledge _ _ _
  split
  · exact hsame (settled_receiveDuplicate now _ _ p)
  · exact hsame (settled_receiveExpected cfg now _ _ p)

/-- The end of a request is read off the desk and the operations. -/
theorem Settled.of_desk {n n' n'' : Node} (h : Settled n p n')
    (hd : n''.qp.desk = n'.qp.desk) (ho : n''.ops = n'.ops) : Settled n p n'' := by
  have hstate : n''.qp.state = n'.qp.state := congrArg Desk.state hd
  have hlist : n''.qp.responder.recv_wqe = n'.qp.responder.recv_wqe := congrArg Desk.recv_wqe hd
  have hlast : n''.qp.responder.last_OpCode = n'.qp.responder.last_OpCode :=
    congrArg Desk.last_OpCode hd
  have hasync : n''.qp.asyncErrors = n'.qp.asyncErrors := congrArg Desk.asyncErrors hd
  have hcq : n''.qp.recv_cq = n'.qp.recv_cq := congrArg Desk.recv_cq hd
  have hplaced : placedBy n n'' = placedBy n n' := by rw [placedBy, ho, placedBy]
  rcases h with ⟨hd', ho'⟩ | ⟨hst, ha, hl, hop⟩ | ⟨hst, he, ha⟩ | ⟨hst, he, offset, ws, hb, hws⟩
  · exact .quiet (hd.trans hd') (ho.trans ho')
  · refine .taken (hstate.trans hst) (hasync.trans ha) (hlast.trans hl) ?_
    rw [hplaced, hlist]
    exact hop
  · exact .failed (hstate.trans hst) (hlist.trans he) (hasync.trans ha)
  · exact .refused ⟨hstate.trans hst, hlist.trans he, offset, ws, hb, hcq.trans hws⟩

@[simp] theorem desk_rescheduleQp : (pibUtilRescheduleQp now q).desk = q.desk := by
  unfold pibUtilRescheduleQp
  split <;> rfl

/-! ## A queue pair with the filling of its first receive element -/

/-- A queue pair, and whether a packet of a SEND that has not ended was placed
into its first receive element. -/
structure RecvFill where
  node : Node
  partly : Bool := false

namespace RecvFill

/-- The request that a step takes in. -/
def request : Act → Option RcPacket
  | .receive _ p => if pibOpcodeIsAcknowledge p.opcode = some false then some p else none
  | _ => none

/-- A packet that is placed into the element fills it in part, or ends the SEND. -/
def fills (s : RecvFill) (n' : Node) (a : Act) : Bool :=
  match request a with
  | some p => if placedBy s.node n' then leavesOpen p.opcode else s.partly
  | none => s.partly

def step (cfg : Config) (ibModifyQpIsOk : QpState → QpState → AttrMask → Bool) (s : RecvFill)
    (x : Nat × Act) : RecvFill :=
  let n' := pib.step cfg ibModifyQpIsOk s.node x
  { node := n', partly := s.fills n' x.2 && !n'.qp.responder.recv_wqe.isEmpty }

/-- Nothing is left in the error state, and while the last packet leaves a SEND
open the first receive element is filled in part. -/
structure Good (s : RecvFill) : Prop where
  err : s.node.qp.state = .ERR → s.node.qp.responder.recv_wqe = []
  filled : leavesOpen s.node.qp.responder.last_OpCode = true → s.node.qp.state ≠ .ERR →
    s.node.qp.responder.recv_wqe ≠ [] ∧ s.partly = true

variable {s : RecvFill} {n' : Node} {partly : Bool}

theorem good_down (hstate : n'.qp.state = .ERR) (hempty : n'.qp.responder.recv_wqe = []) :
    Good { node := n', partly } :=
  ⟨fun _ => hempty, fun _ hne => absurd hstate hne⟩

/-- A step that takes in no request and keeps the elements keeps the invariant. -/
theorem Good.kept (hg : s.Good) {a : Act} (ha : request a = none)
    (hlast : n'.qp.responder.last_OpCode = s.node.qp.responder.last_OpCode)
    (hfrom : s.node.qp.state = .ERR → n'.qp.state = .ERR)
    (herr : n'.qp.state = .ERR → n'.qp.responder.recv_wqe = [])
    (hlist : s.node.qp.responder.recv_wqe ≠ [] → n'.qp.responder.recv_wqe ≠ []) :
    Good { node := n', partly := s.fills n' a && !n'.qp.responder.recv_wqe.isEmpty } := by
  refine ⟨herr, ?_⟩
  intro hl hne
  obtain ⟨hw, hp⟩ := hg.filled (hlast ▸ hl) fun he => hne (hfrom he)
  refine ⟨hlist hw, ?_⟩
  unfold fills
  rw [ha]
  simpa [hp] using hlist hw

theorem Good.spares (hg : s.Good) {a : Act} (ha : request a = none) (h : Spares s.node.qp n'.qp) :
    Good { node := n', partly := s.fills n' a && !n'.qp.responder.recv_wqe.isEmpty } := by
  rcases h with h | h
  · have hstate : n'.qp.state = s.node.qp.state := congrArg RecvSide.state h
    have hlist : n'.qp.responder.recv_wqe = s.node.qp.responder.recv_wqe :=
      congrArg (fun b => b.responder.recv_wqe) h
    refine hg.kept ha (congrArg (fun b => b.responder.last_OpCode) h) (hstate.trans ·) ?_ ?_
    · rw [hstate, hlist]
      exact hg.err
    · rw [hlist]
      exact id
  · exact good_down (congrArg RecvSide.state h) (congrArg (fun b => b.responder.recv_wqe) h)

/-- So does a step that changes nothing of this. -/
theorem Good.quiet (hg : s.Good) (a : Act) (hd : n'.qp.desk = s.node.qp.desk)
    (ho : n'.ops = s.node.ops) :
    Good { node := n', partly := s.fills n' a && !n'.qp.responder.recv_wqe.isEmpty } := by
  have hfills : s.fills n' a = s.partly := by
    have hno : placedBy s.node n' = false := by
      unfold placedBy
      rw [ho, List.drop_length]
    unfold fills
    rw [hno]
    split <;> rfl
  have hstate : n'.qp.state = s.node.qp.state := congrArg Desk.state hd
  have hlist : n'.qp.responder.recv_wqe = s.node.qp.responder.recv_wqe :=
    congrArg Desk.recv_wqe hd
  have hlast : n'.qp.responder.last_OpCode = s.node.qp.responder.last_OpCode :=
    congrArg Desk.last_OpCode hd
  refine ⟨fun hs => hlist.trans (hg.err (hstate.symm.trans hs)), ?_⟩
  intro hopen hne
  obtain ⟨hw, hpart⟩ := hg.filled (hlast ▸ hopen) (hstate ▸ hne)
  rw [← hlist] at hw
  refine ⟨hw, ?_⟩
  simpa [hfills, hpart] using hw

theorem Good.settled (hg : s.Good) (h : Settled s.node p n') (hlive : s.node.qp.state ≠ .ERR)
    {port_num : Nat} (hp : request (.receive port_num p) = some p) :
    Good { node := n'
           partly := s.fills n' (.receive port_num p) && !n'.qp.responder.recv_wqe.isEmpty } := by
  rcases h with ⟨hd, ho⟩ | ⟨hst, -, hl, hop⟩ | ⟨hst, he, -⟩ | ⟨hst, he, -⟩
  · exact hg.quiet _ hd ho
  · refine ⟨fun hs => absurd (hst.symm.trans hs) hlive, ?_⟩
    intro hopen _
    have ho : leavesOpen p.opcode = true := hl ▸ hopen
    obtain ⟨hplaced, hw⟩ := hop ho
    refine ⟨hw, ?_⟩
    unfold fills
    rw [hp]
    simpa [hplaced, ho] using hw
  · exact good_down hst he
  · exact good_down hst he

/-- Posting adds to the receive list, and in the error state it does not. -/
theorem posted_postRecvLoop (wrs : List RecvWr) :
    ∀ (q : Qp) (total_length : Nat) (ret : Option Errno),
      (postRecvLoop cfg q total_length wrs ret).1.state = q.state ∧
        (postRecvLoop cfg q total_length wrs ret).1.responder.last_OpCode =
          q.responder.last_OpCode ∧
        ∃ ws, (postRecvLoop cfg q total_length wrs ret).1.responder.recv_wqe =
          q.responder.recv_wqe ++ ws ∧ (q.state = .ERR → ws = []) := by
  induction wrs with
  | nil =>
    intro q total_length ret
    exact ⟨rfl, rfl, [], (List.append_nil _).symm, fun _ => rfl⟩
  | cons wr wrs ih =>
    intro q total_length ret
    have hnone : ∃ ws, q.responder.recv_wqe = q.responder.recv_wqe ++ ws ∧
        (q.state = .ERR → ws = []) := ⟨[], (List.append_nil _).symm, fun _ => rfl⟩
    by_cases hr : q.state = .RESET
    · rw [postRecvLoop]
      simp only [hr]
      rw [hr] at hnone
      exact ⟨trivial, trivial, hnone⟩
    by_cases he : q.state = .ERR
    · have h := ih (q.insertRecvError wr.wr_id .WR_FLUSH_ERR .RECV) total_length (some .EPERM)
      obtain ⟨hst, hl, ws, hws, hnil⟩ := h
      rw [postRecvLoop]
      simp only [he]
      exact ⟨hst.trans he, hl, ws, hws, fun _ => hnil he⟩
    rw [postRecvLoop_live cfg hr he]
    split
    · exact ⟨rfl, rfl, hnone⟩
    split
    · exact ⟨rfl, rfl, hnone⟩
    split
    · exact ⟨rfl, rfl, hnone⟩
    obtain ⟨hst, hl, ws, hws, -⟩ := ih (q.pushRecv
      { wr_id := wr.wr_id, total_length := total_length + sgeTotal cfg wr.sg_list
        sge_array := wr.sg_list }) (total_length + sgeTotal cfg wr.sg_list) ret
    refine ⟨hst, hl, _ :: ws, hws.trans (List.append_assoc _ [_] ws), ?_⟩
    exact fun h => absurd h he

theorem reset_resetQp :
    (resetQp cfg now q).responder.recv_wqe = [] ∧
      (resetQp cfg now q).responder.last_OpCode = .SEND_ONLY := by
  obtain ⟨_, _, h⟩ := respSide_resetQp cfg now q
  exact ⟨congrArg (fun b => b.responder.recv_wqe) h,
    congrArg (fun b => b.responder.last_OpCode) h⟩

/-- A new state is RESET, with nothing left; the error state, with no element left;
or it keeps the elements. -/
theorem enterState_recv (cfg : Config) (now : Nat) (q : Qp) (new : QpState) :
    let q' := enterState cfg now q new
    new = .RESET ∧ q'.responder.recv_wqe = [] ∧ q'.responder.last_OpCode = .SEND_ONLY ∨
      new = .ERR ∧ q'.responder.recv_wqe = [] ∨
      new ≠ .RESET ∧ new ≠ .ERR ∧ q'.responder.recv_wqe = q.responder.recv_wqe ∧
        q'.responder.last_OpCode = q.responder.last_OpCode := by
  cases new with
  | RESET => exact Or.inl ⟨rfl, reset_resetQp cfg now { q with state := .RESET }⟩
  | ERR => exact Or.inr (Or.inl ⟨rfl, recv_wqe_failQp now q⟩)
  | SQE =>
    have h := respSide_flushSendQueue { q with state := .SQE }
    exact Or.inr (Or.inr ⟨by simp, by simp, congrArg (fun b => b.responder.recv_wqe) h,
      congrArg (fun b => b.responder.last_OpCode) h⟩)
  | _ => exact Or.inr (Or.inr ⟨by simp, by simp, rfl, rfl⟩)

variable {ibModifyQpIsOk : QpState → QpState → AttrMask → Bool}

theorem Good.modify (hg : s.Good) (hok : IbTable ibModifyQpIsOk) (cfg : Config) (now : Nat)
    {attr : ModifyAttr} {mask : AttrMask} (hname : NamesState s.node.qp.state attr mask)
    (hqp : n'.qp = (pibModifyQp cfg ibModifyQpIsOk now s.node.qp attr mask).1) :
    Good { node := n'
           partly := s.fills n' (.modify attr mask) && !n'.qp.responder.recv_wqe.isEmpty } := by
  have hlaw := leavesByReset_modify hok cfg now hname
  rw [← hqp] at hlaw
  rcases pibModifyQp_settles cfg ibModifyQpIsOk now s.node.qp attr mask with he | ⟨-, he⟩ |
    ⟨-, -, -, he⟩
  · exact hg.spares rfl (Or.inl (by rw [hqp, he]))
  · have hq : n'.qp = setAttrs cfg s.node.qp attr mask := hqp.trans he
    refine hg.kept rfl (by rw [hq]; rfl) (fun h => by rw [hq]; exact h) ?_ ?_
    · rw [hq]
      exact hg.err
    · rw [hq]
      exact id
  · have hside : n'.qp.respSide =
        (enterState cfg now (setAttrs cfg s.node.qp attr mask) attr.qp_state).respSide := by
      rw [hqp, he, respSide_settleState]
    have hst := (enterState_frame cfg now (setAttrs cfg s.node.qp attr mask) attr.qp_state).1
    have hr := enterState_recv cfg now (setAttrs cfg s.node.qp attr mask) attr.qp_state
    generalize enterState cfg now (setAttrs cfg s.node.qp attr mask) attr.qp_state = q'
      at hside hst hr
    have hstate : n'.qp.state = attr.qp_state := (congrArg RecvSide.state hside).trans hst
    have hlist : n'.qp.responder.recv_wqe = q'.responder.recv_wqe :=
      congrArg (fun b => b.responder.recv_wqe) hside
    have hlast : n'.qp.responder.last_OpCode = q'.responder.last_OpCode :=
      congrArg (fun b => b.responder.last_OpCode) hside
    rcases hr with ⟨hnew, hw, hl⟩ | ⟨hnew, hw⟩ | ⟨hreset, hne, hw, hl⟩
    · refine ⟨fun _ => hlist.trans hw, ?_⟩
      intro hopen
      change leavesOpen n'.qp.responder.last_OpCode = true at hopen
      rw [hlast, hl] at hopen
      exact absurd hopen (by decide)
    · exact good_down (hstate.trans hnew) (hlist.trans hw)
    refine hg.kept rfl (hlast.trans hl) ?_ ?_ ?_
    · -- the error state is left for RESET only
      intro herr
      rcases hlaw herr with h | h
      · exact h
      · exact absurd (hstate.symm.trans h) hreset
    · exact fun h => absurd (hstate.symm.trans h) hne
    · rw [hlist, hw]
      exact id

variable (ibModifyQpIsOk) in
/-- A packet is left aside, spares the receiving side as a response, or ends in one
of the ways of a request. -/
theorem receive_cases (cfg : Config) (now port_num : Nat) (n : Node) (p : RcPacket) :
    let n' := pib.step cfg ibModifyQpIsOk n (now, .receive port_num p)
    n'.qp.desk = n.qp.desk ∧ n'.ops = n.ops ∨
      request (.receive port_num p) = none ∧ Spares n.qp n'.qp ∨
      n.qp.state ≠ .ERR ∧ request (.receive port_num p) = some p ∧ Settled n p n' := by
  dsimp only [pib.step, act]
  generalize hn : ({ n with send_buffer := none } : Node) = n₀
  have hqp : n₀.qp = n.qp := by rw [← hn]
  have hops : n₀.ops = n.ops := by rw [← hn]
  have hset : ∀ {n'}, Settled n₀ p n' → Settled n p n' := fun h =>
    h.base (congrArg Qp.recvSide hqp) (congrArg Qp.asyncErrors hqp) hops
  rw [← hqp, ← hops]
  unfold pibReceiveRcQpIncomingMessage
  split
  · exact Or.inl ⟨desk_rescheduleQp now _, rfl⟩
  rename_i hrecv
  have hlive : n₀.qp.state ≠ .ERR := by
    intro he
    rw [he] at hrecv
    exact hrecv (Or.inl rfl)
  split
  · exact Or.inl ⟨desk_rescheduleQp now _, rfl⟩
  split
  · exact Or.inl ⟨desk_rescheduleQp now _, rfl⟩
  · rename_i hack
    refine Or.inr (Or.inl ⟨by simp [request, hack], ?_⟩)
    refine (sparesAll_receiveResponse cfg now n₀ p).spares.trans (Spares.same ?_)
    exact recvSide_of_respSide (respSide_rescheduleQp now _)
  rename_i hack
  refine Or.inr (Or.inr ⟨hlive, by simp [request, hack], hset ?_⟩)
  have hreq := settled_receiveRequest cfg now n₀ p
  generalize receiveRequest cfg now n₀ p = n₁ at hreq ⊢
  exact hreq.of_desk (desk_rescheduleQp now n₁.qp) rfl

theorem good_step (hok : IbTable ibModifyQpIsOk) (cfg : Config) {x : Nat × Act} (hg : s.Good)
    (hx : Truthful s.node x) : (s.step cfg ibModifyQpIsOk x).Good := by
  obtain ⟨now, a⟩ := x
  unfold step
  cases a with
  | postSend copyFromUser wrs =>
    refine hg.spares rfl (Or.inl ?_)
    exact recvSide_of_respSide (respSide_pibPostSend cfg copyFromUser now s.node.qp wrs)
  | postRecv wrs =>
    by_cases hwrs : wrs = [] ∨ s.node.qp.srq.isSome = true
    · refine hg.spares rfl (Or.inl ?_)
      simp [pib.step, act, pibPostRecv, if_pos hwrs]
    have hq : (pib.step cfg ibModifyQpIsOk s.node (now, .postRecv wrs)).qp =
        (postRecvLoop cfg s.node.qp 0 wrs none).1 := by
      simp [pib.step, act, pibPostRecv, if_neg hwrs]
    obtain ⟨hst, hl, ws, hws, hnil⟩ := posted_postRecvLoop cfg wrs s.node.qp 0 none
    rw [← hq] at hst hl hws
    refine hg.kept rfl hl hst.trans ?_ ?_
    · intro he
      have he := hst.symm.trans he
      rw [hws, hg.err he, hnil he]
      rfl
    · rw [hws]
      exact fun hne => List.append_ne_nil_of_left_ne_nil hne ws
  | schedule =>
    exact hg.spares rfl (spares_processOnQpScheduler cfg now { s.node with send_buffer := none })
  | receive port_num p =>
    rcases receive_cases ibModifyQpIsOk cfg now port_num s.node p with
      ⟨hd, ho⟩ | ⟨hnone, hsp⟩ | ⟨hlive, hp, hset⟩
    · exact hg.quiet _ hd ho
    · exact hg.spares hnone hsp
    · exact hg.settled hset hlive hp
  | modify attr mask => exact hg.modify hok cfg now (hx attr mask rfl) rfl
  | fatal => exact good_down (failQp_state now s.node.qp) (recv_wqe_failQp now s.node.qp)
  | environment pd mem srq => exact hg.quiet _ rfl rfl

/-! ## The completions of an error -/

/-- The completions that an error leaves the receive elements with: each is
flushed, but the first one may be aborted if it is filled in part. -/
def Spared (s : RecvFill) (n' : Node) : Prop :=
  n'.qp.responder.recv_wqe = [] ∧ ∃ cs : List (Wc × Bool),
    n'.qp.recv_cq = s.node.qp.recv_cq ++ cs ∧
    s.node.qp.responder.recv_wqe.map RecvWqe.wr_id <+: cs.map (fun c => c.1.wr_id) ∧
    (∀ c ∈ cs.tail, c.1.status = .WR_FLUSH_ERR) ∧
    ∀ c ∈ cs.head?, c.1.status = .WR_FLUSH_ERR ∨ c.1.status = .GENERAL_ERR ∧ s.partly = true

/-- The offset says nothing wrong about the first receive element: it is zero, a
SEND is under way, or there is no element. -/
def Clean (q : Qp) : Prop :=
  q.responder.offset = 0 ∨ leavesOpen q.responder.last_OpCode = true ∨
    q.responder.recv_wqe = [] ∧ q.srq = none

/-- A refusal at a brink where the offset is zero, or the first element is filled
in part, or there is none, spares the elements. -/
theorem spared_refused (h : Refused s.node.qp n'.qp) (hlive : s.node.qp.state ≠ .ERR)
    (hg : s.Good) (hc : Clean s.node.qp) : s.Spared n' := by
  obtain ⟨-, hempty, offset, ws, ⟨hoff, hqueue⟩, hcq⟩ := h
  refine ⟨hempty, refusalWcs offset ws, hcq, ?_, ?_, ?_⟩
  · rw [wr_ids_refusalWcs]
    rcases hqueue with rfl | ⟨-, w, rfl⟩
    · exact List.prefix_rfl
    · rw [List.map_append]
      exact List.prefix_append _ _
  · cases ws with
    | nil => exact fun c hc => absurd hc List.not_mem_nil
    | cons w ws =>
      intro c hc
      obtain ⟨v, -, rfl⟩ := List.mem_map.mp hc
      rfl
  · cases ws with
    | nil => exact fun c hc => absurd hc (by simp [refusalWcs])
    | cons w ws =>
      intro c hcs
      obtain rfl : (if offset = 0 then flushRecvWc w else abortWc w) = c := by
        simpa [refusalWcs] using hcs
      by_cases hz : offset = 0
      · rw [if_pos hz]
        exact Or.inl rfl
      rw [if_neg hz]
      refine Or.inr ⟨rfl, ?_⟩
      rcases hc with h0 | hopen | ⟨hnil, hsrq⟩
      · exact absurd (hoff.elim (fun h => h.trans h0) id) hz
      · exact (hg.filled hopen hlive).2
      rcases hqueue with h | ⟨h, -⟩
      · rw [hnil] at h
        exact absurd h (List.cons_ne_nil w ws)
      · exact absurd hsrq h

/-- A queue pair that has just been created. -/
def start (cfg : Config) (init_attr : QpInitAttr) (srq : Option Srq) (pd : Pd) (mem : Mem) :
    RecvFill :=
  { node := created cfg init_attr srq pd mem }

theorem good_start (init_attr : QpInitAttr) (srq : Option Srq) (pd : Pd) (mem : Mem) :
    (start cfg init_attr srq pd mem).Good :=
  ⟨fun h => (nomatch h), fun h => (nomatch h)⟩

/-- In every run in which the calls of `pib_modify_qp` name the actual state, a
request that raises an asynchronous error spares the receive elements, if the
offset says nothing wrong about the first one at that time. -/
theorem abort_only_partly_filled (hok : IbTable ibModifyQpIsOk) (cfg : Config)
    (init_attr : QpInitAttr) (srq : Option Srq) (pd : Pd) (mem : Mem) (xs : List (Nat × Act))
    (hxs : Run.Meets (step cfg ibModifyQpIsOk) (fun s x => Truthful s.node x)
      (start cfg init_attr srq pd mem) xs) (now port_num : Nat) (p : RcPacket) :
    let s := Run.run (step cfg ibModifyQpIsOk) (start cfg init_attr srq pd mem) xs
    let n' := pib.step cfg ibModifyQpIsOk s.node (now, .receive port_num p)
    request (.receive port_num p) = some p → s.node.qp.asyncErrors < n'.qp.asyncErrors →
      Clean s.node.qp → s.Spared n' := by
  intro s n' hreq hraised hclean
  have hg : s.Good := Run.invariant (I := Good) (fun _ _ hg hx => good_step hok cfg hg hx)
    (good_start cfg init_attr srq pd mem) hxs
  rcases receive_cases ibModifyQpIsOk cfg now port_num s.node p with
    ⟨hd, -⟩ | ⟨hnone, -⟩ | ⟨hlive, -, hset⟩
  · have h : n'.qp.asyncErrors = s.node.qp.asyncErrors := congrArg Desk.asyncErrors hd
    omega
  · rw [hreq] at hnone
    exact absurd hnone (Option.some_ne_none p)
  · rcases hset with ⟨hd, -⟩ | ⟨-, ha, -, -⟩ | ⟨-, -, ha⟩ | hrefused
    · have h : n'.qp.asyncErrors = s.node.qp.asyncErrors := congrArg Desk.asyncErrors hd
      omega
    · have h : n'.qp.asyncErrors = s.node.qp.asyncErrors := ha
      omega
    · have h : n'.qp.asyncErrors = s.node.qp.asyncErrors := ha
      omega
    · exact spared_refused hrefused hlive hg hclean

/-- Two receive elements are posted, and a packet of a SEND comes. -/
def sendRun (p : RcPacket) : List (Nat × Act) :=
  bringUp { rq_psn := 7, path_mtu := 1, port_num := 1 } ++
    [(1, .postRecv [{ wr_id := 3, sg_list := [⟨0x8000, 512, 0⟩] },
        { wr_id := 4, sg_list := [⟨0x9000, 512, 0⟩] }]),
     (2, .receive 1 p)]

theorem truthful_sendRun (p : RcPacket) :
    Run.Meets (step {} ibStateTable) (fun s x => Truthful s.node x)
      (start {} {} none anywherePd fun _ => 0) (sendRun p) := by
  refine ⟨?_, ?_, ?_, ?_, ?_, trivial⟩
  case refine_4 => exact fun _ _ h => nomatch h
  case refine_5 => exact fun _ _ h => nomatch h
  all_goals exact truthful_unnamed _ _ _ rfl

/-- The first packet of a longer SEND. -/
def firstOfSend : RcPacket :=
  { opcode := .SEND_FIRST, psn := 7, buffer := List.replicate 256 0 }

/-- While a SEND is under way, an error aborts the element that it fills. -/
theorem abort_of_open_send :
    let s := Run.run (step {} ibStateTable) (start {} {} none anywherePd fun _ => 0)
      (sendRun firstOfSend)
    let n' := pib.step {} ibStateTable s.node (3, .receive 1 { opcode := .SEND_ONLY, psn := 8 })
    s.partly = true ∧ n'.qp.recv_cq.map (fun c => (c.1.wr_id, c.1.status)) =
      [(3, .GENERAL_ERR), (4, .WR_FLUSH_ERR)] ∧ s.Spared n' := by
  refine ⟨by decide +kernel, by decide +kernel, ?_⟩
  refine abort_only_partly_filled ibTable_ibStateTable {} {} none anywherePd (fun _ => 0)
    (sendRun firstOfSend) (truthful_sendRun _) 3 1 _ (by decide) (by decide +kernel) ?_
  exact Or.inr (Or.inl (by decide +kernel))

/-- A SEND of four bytes. -/
def wholeSend : RcPacket := { opcode := .SEND_ONLY, psn := 7, buffer := [1, 2, 3, 4] }

/-- After a SEND that has ended, an error aborts the next element, in which no
byte has been placed. -/
theorem abort_after_whole_send :
    let s := Run.run (step {} ibStateTable) (start {} {} none anywherePd fun _ => 0)
      (sendRun wholeSend)
    let n' := pib.step {} ibStateTable s.node (3, .receive 1 { opcode := .SEND_LAST, psn := 8 })
    s.node.qp.recv_cq.map (fun c => (c.1.wr_id, c.1.status)) = [(3, .SUCCESS)] ∧
      s.partly = false ∧ s.node.qp.asyncErrors < n'.qp.asyncErrors ∧
      n'.qp.recv_cq.map (fun c => (c.1.wr_id, c.1.status)) = [(3, .SUCCESS), (4, .GENERAL_ERR)] ∧
      ¬ s.Spared n' := by
  intro s n'
  have hpart : s.partly = false := by decide
  have hcq : n'.qp.recv_cq = s.node.qp.recv_cq ++
      [({ wr_id := 4, status := .GENERAL_ERR, opcode := .RECV }, true)] := by decide
  refine ⟨by decide, hpart, by decide, by decide, ?_⟩
  rintro ⟨-, cs, hcs, -, -, hhead⟩
  obtain rfl := List.append_cancel_left (hcq.symm.trans hcs)
  rcases hhead _ rfl with h | ⟨-, h⟩
  · exact absurd h (by decide)
  · rw [hpart] at h
    exact absurd h Bool.false_ne_true

end RecvFill

end pib
