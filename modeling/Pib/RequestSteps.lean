-- What taking in a request is made of: the single things that `receive_request`
-- and the functions below it can do to a queue pair and the memory behind it. A
-- property that each of these has is a property of every request.
import Pib.Lib.Run
import Pib.Responder

namespace pib

open Bytes

variable (cfg : Config) (n : Node) (psn : Nat) {w : RecvWqe}

/-! ## The steps -/

/-- The requests whose execution is remembered in a slot. -/
def IsRdAtomicOpcode (o : OpCode) : Prop :=
  o = .RDMA_READ_REQUEST ∨ o = .COMPARE_SWAP ∨ o = .FETCH_ADD

instance (o : OpCode) : Decidable (IsRdAtomicOpcode o) := by
  unfold IsRdAtomicOpcode
  infer_instance

/-- An atomic request that comes again, and is answered from its slot. -/
def RetriesAtomic (q : Qp) (psn : Nat) (p : RcPacket) : Prop :=
  (p.opcode = .COMPARE_SWAP ∨ p.opcode = .FETCH_ADD) ∧ getPsnDiff psn q.responder.psn < 0 ∧
    (findSlot q p.opcode psn).isSome

/-- There is room for one more RDMA READ or atomic request. -/
def RdAtomicRoom (q : Qp) : Prop := q.responder.nr_rd_atomic < (q.attr.max_dest_rd_atomic : Int)

/-- One step of taking in a request. Atomic requests are answered only when there is
room, if `G` says so for those that come again. What belongs to the execution of a
request is done only for those that `X` says are executed. -/
inductive ReqStep (G X : Prop) (now : Nat) (p : RcPacket) : Node → Node → Prop
  | commEst (n : Node) : ReqStep G X now p n (n.setQp (issueCommEst n.qp))
  | crash (n : Node) {c : Crash} (hc : c ≠ .nrRdAtomic) (hx : X) : ReqStep G X now p n (n.crash c)
  | rewind (n : Node) (hx : X) :
      ReqStep G X now p n (n.setQp { n.qp with responder := { n.qp.responder with offset := 0 } })
  | fromSrq (n : Node) (hx : X) : ReqStep G X now p n (n.setQp (takeFromSrq n.qp))
  | startWrite (n : Node) (r : Reth) (hx : X) : ReqStep G X now p n (n.setQp (startWrite n.qp r))
  | perform (n : Node) (op : MemOp) (hx : X) : ReqStep G X now p n (n.perform op)
  | invalidate (n : Node) (pd : Pd) (hx : X) : ReqStep G X now p n { n with pd }
  | ack (n : Node) (psn syndrome : Nat) :
      ReqStep G X now p n (n.setQp (pushAcknowledge n.qp psn syndrome))
  | event (n : Node) {e : EventType} (he : e = .QP_REQ_ERR ∨ e = .QP_ACCESS_ERR) :
      ReqStep G X now p n (n.setQp (n.qp.insertEvent e))
  | abort (n : Node) : ReqStep G X now p n (n.setQp (abortActiveRwqe n.qp))
  | failRecv (n : Node) {w : RecvWqe} {ws : List RecvWqe} {status : WcStatus}
      (opcode : WcOpcode) (hw : n.qp.responder.recv_wqe = w :: ws) (hs : status ≠ .SUCCESS)
      (hx : X) :
      ReqStep G X now p n (n.setQp (failRecv n.qp w status opcode))
  | fail (n : Node) : ReqStep G X now p n (n.setQp (failQp now n.qp))
  | fill (n : Node) (offset : Nat) (hx : X) :
      ReqStep G X now p n (n.setQp { n.qp with responder := { n.qp.responder with offset } })
  | complete (n : Node) {w : RecvWqe} {ws : List RecvWqe} (s : Segment) (ex : Nat)
      (opcode : WcOpcode) (hw : n.qp.responder.recv_wqe = w :: ws) (hx : X) :
      ReqStep G X now p n (n.setQp (completeRecv n.qp w s ex opcode p))
  | store (n : Node) (slot : Slot) (hp : IsRdAtomicOpcode p.opcode) (hx : X) :
      ReqStep G X now p n (storeSlot n slot)
  | atomic (n : Node) (psn res : Nat) (hroom : G → RdAtomicRoom n.qp) :
      ReqStep G X now p n (n.setQp (pushAtomicAcknowledge n.qp psn res))
  | read (n : Node) (psn expected_psn vaddress rkey size : Nat)
      (hroom : RdAtomicRoom (removeOverlappedRdmaReadAcknowledge n.qp psn expected_psn)) :
      ReqStep G X now p n (n.setQp (pushRdmaReadAcknowledge
        (removeOverlappedRdmaReadAcknowledge n.qp psn expected_psn) psn expected_psn vaddress rkey
        size))
  | refuseRead (n : Node) (psn expected_psn syndrome : Nat) {e : EventType}
      (he : e = .QP_REQ_ERR ∨ e = .QP_ACCESS_ERR) :
      ReqStep G X now p n (n.setQp (refuse now
        (removeOverlappedRdmaReadAcknowledge n.qp psn expected_psn) psn syndrome e))
  | readAcks (n : Node) :
      ReqStep G X now p n (n.setQp { n.qp with responder :=
        { n.qp.responder with nr_contig_read_acks := 0 } })
  | advance (n : Node) (psn : Nat) (last_OpCode : OpCode) (hx : X) :
      ReqStep G X now p n (n.setQp { n.qp with responder := { n.qp.responder with psn, last_OpCode } })

abbrev ReqSteps (G X : Prop) (now : Nat) (p : RcPacket) : Node → Node → Prop :=
  Relation.ReflTransGen (ReqStep G X now p)

/-! ## Requests are made of them -/

section

open Relation

variable {G X : Prop} {now : Nat} {p : RcPacket}

theorem reqSteps_refuse (syndrome : Nat) {e : EventType}
    (he : e = .QP_REQ_ERR ∨ e = .QP_ACCESS_ERR) :
    ReqSteps G X now p n (n.setQp (refuse now n.qp psn syndrome e)) :=
  .tail (.tail (.tail (.single (.ack n psn syndrome)) (.event _ he)) (.abort _)) (.fail _)

theorem rdAtomicRoom_storeSlot {n : Node} {slot : Slot} :
    RdAtomicRoom (storeSlot n slot).qp ↔ RdAtomicRoom n.qp := by
  unfold storeSlot
  dsimp only
  split <;> exact Iff.rfl

theorem reqSteps_scheduleRead (expected_psn : Nat) (r : Reth) (ret : Nat) :
    ReqSteps G X now p n (scheduleRead now n psn expected_psn r ret).1 := by
  unfold scheduleRead
  dsimp only
  split
  · exact .single (.refuseRead n psn expected_psn _ (Or.inr rfl))
  · rename_i hroom
    exact .tail (.single (.read n psn expected_psn _ _ _ (not_le.mp hroom))) (.readAcks _)

variable (hx : X)
include hx

theorem reqSteps_acceptData (s : Segment) {completes : Bool} (ex len : Nat) (opcode : WcOpcode)
    (hw : completes = true → ∃ ws, n.qp.responder.recv_wqe = w :: ws) :
    ReqSteps G X now p n (n.setQp (acceptData n.qp psn p s completes w ex len opcode)) := by
  have hfill : ReqSteps G X now p n (n.setQp { n.qp with responder := { n.qp.responder with
    offset := u32 (n.qp.responder.offset + len) } }) := .single (.fill n _ hx)
  cases completes with
  | false => exact hfill.tail (.ack _ psn _)
  | true =>
    obtain ⟨ws, hw⟩ := hw rfl
    exact (hfill.tail (.complete _ s ex opcode hw hx)).tail (.ack _ psn _)

theorem reqSteps_placeSend {n : Node} (s : Segment) {ws : List RecvWqe}
    (ex : Nat) (data : List UInt8) (hw : n.qp.responder.recv_wqe = w :: ws) :
    ReqSteps G X now p n (placeSend now n psn p s w ex data).1 := by
  unfold placeSend
  dsimp only
  generalize hop : MemOp.recv w n.qp.responder.offset data = op
  have hperf : ReqSteps G X now p n (n.perform op) := .single (.perform n op hx)
  split
  · rename_i hs
    exact ((hperf.tail (.failRecv _ .RECV hw hs hx)).tail (.ack _ psn _)).tail (.fail _)
  split
  · generalize pibUtilMrInvalidate (n.perform op).pd ex = r
    obtain ⟨status, pd⟩ := r
    have hinv := hperf.tail (.invalidate _ pd hx)
    dsimp only
    split
    · exact hinv.trans (reqSteps_acceptData _ psn hx s ex _ .RECV fun _ => ⟨ws, hw⟩)
    · rename_i hs
      exact (hinv.tail (.failRecv _ .RECV hw hs hx)).tail (.fail _)
  · exact hperf.trans (reqSteps_acceptData (n.perform op) psn hx s ex _ .RECV fun _ => ⟨ws, hw⟩)

theorem reqSteps_receiveSendRequest : ReqSteps G X now p n (receiveSendRequest now n psn p).1 := by
  unfold receiveSendRequest
  split
  · exact .single (.crash n (by decide) hx)
  rename_i s _
  dsimp only
  generalize hq : (if s.init = true then _ else n.qp) = q
  have hi : ReqSteps G X now p n (n.setQp q) := by
    rw [← hq]
    split
    · exact .tail (.single (.rewind n hx)) (.fromSrq _ hx)
    · exact .refl
  split
  · exact hi.tail (.ack _ psn _)
  rename_i w ws hw
  split
  · exact hi.trans (reqSteps_refuse (n.setQp q) psn _ (Or.inl rfl))
  split
  · exact hi.trans (reqSteps_refuse (n.setQp q) psn _ (Or.inl rfl))
  · exact hi.trans (reqSteps_placeSend (n := n.setQp q) psn hx s _ _ hw)

theorem reqSteps_failWrite {s : Segment} {status : WcStatus}
    (hw : s.with_imm = true → ∃ ws, n.qp.responder.recv_wqe = w :: ws) (hs : status ≠ .SUCCESS) :
    ReqSteps G X now p n (n.setQp (failWrite cfg now n.qp psn s w status)) := by
  have htake : ReqSteps G X now p n (n.setQp
      (if s.with_imm = true ∧ cfg.rdma_write_with_imm_always_async_err = false then
        failRecv n.qp w status .RECV_RDMA_WITH_IMM
      else abortActiveRwqe (n.qp.insertEvent .QP_ACCESS_ERR))) := by
    split
    · rename_i him
      obtain ⟨ws, hw⟩ := hw him.1
      exact .single (.failRecv n _ hw hs hx)
    · exact .tail (.single (.event n (Or.inr rfl))) (.abort _)
  exact (htake.tail (.ack _ psn _)).tail (.fail _)

theorem reqSteps_placeWrite {n : Node} {s : Segment} (imm_data : Nat) (data : List UInt8)
    (hw : s.with_imm = true → ∃ ws, n.qp.responder.recv_wqe = w :: ws) :
    ReqSteps G X now p n (placeWrite cfg now n psn p s w imm_data data).1 := by
  unfold placeWrite
  dsimp only
  generalize hop : MemOp.write n.qp.responder.rdma_write_rkey _ data = op
  have hperf : ReqSteps G X now p n (n.perform op) := .single (.perform n op hx)
  split
  · exact reqSteps_refuse n psn _ (Or.inl rfl)
  split
  · exact reqSteps_failWrite cfg n psn hx hw (by decide)
  split
  · rename_i hs
    exact hperf.trans (reqSteps_failWrite cfg (n.perform op) psn hx hw hs)
  · refine hperf.trans (reqSteps_acceptData (n.perform op) psn hx s imm_data _ _ fun hc => hw ?_)
    exact (Bool.and_eq_true_iff.mp hc).2

theorem reqSteps_receiveRdmaWriteRequest :
    ReqSteps G X now p n (receiveRdmaWriteRequest cfg now n psn p).1 := by
  unfold receiveRdmaWriteRequest
  split
  · exact .single (.crash n (by decide) hx)
  rename_i s _
  split
  · exact reqSteps_refuse n psn _ (Or.inl rfl)
  dsimp only
  generalize hq : (if s.init = true then startWrite n.qp _ else n.qp) = q
  have hi : ReqSteps G X now p n (n.setQp q) := by
    rw [← hq]
    split
    · exact .single (.startWrite n _ hx)
    · exact .refl
  split
  · have hi := hi.tail (.fromSrq _ hx)
    split
    · exact hi.tail (.ack _ psn _)
    rename_i w ws hw
    split
    · exact hi.trans (reqSteps_refuse (n.setQp (takeFromSrq q)) psn _ (Or.inl rfl))
    · exact hi.trans (reqSteps_placeWrite cfg (n := n.setQp (takeFromSrq q)) psn hx _ _
        fun _ => ⟨ws, hw⟩)
  · rename_i him
    exact hi.trans (reqSteps_placeWrite cfg (n := n.setQp q) psn hx _ _ fun h => absurd h him)

theorem reqSteps_receiveAtomicRequest (hp : IsRdAtomicOpcode p.opcode) :
    ReqSteps G X now p n (receiveAtomicRequest now n psn p).1 := by
  unfold receiveAtomicRequest
  split
  · exact reqSteps_refuse n psn _ (Or.inl rfl)
  split
  · exact reqSteps_refuse n psn _ (Or.inr rfl)
  rename_i hroom
  have hroom : RdAtomicRoom n.qp := not_le.mp (not_or.mp hroom).2
  have hperf : ReqSteps G X now p n (n.perform (atomicOp p)) := .single (.perform n _ hx)
  dsimp only
  split
  · exact hperf.trans (reqSteps_refuse (n.perform (atomicOp p)) psn _ (Or.inr rfl))
  · exact (hperf.tail (.store _ _ hp hx)).tail
      (.atomic _ psn _ fun _ => rdAtomicRoom_storeSlot.mpr hroom)

omit hx in
theorem reqSteps_receiveRdmaReadRequest (hp : p.opcode = .RDMA_READ_REQUEST)
    {slot_index : Option Nat} (hx : slot_index = none → X) :
    ReqSteps G X now p n (receiveRdmaReadRequest now n psn p slot_index).1 := by
  unfold receiveRdmaReadRequest
  split
  · exact reqSteps_refuse n psn _ (Or.inl rfl)
  dsimp only
  split
  · exact reqSteps_refuse n psn _ (Or.inr rfl)
  split
  · exact reqSteps_refuse n psn _ (Or.inr rfl)
  split
  · split
    · exact reqSteps_refuse n psn _ (Or.inr rfl)
    · exact .trans (.single (.store n _ (Or.inl hp) (hx rfl))) (reqSteps_scheduleRead _ psn _ _ _)
  · split
    · exact reqSteps_refuse n psn _ (Or.inl rfl)
    · exact reqSteps_scheduleRead n psn _ _ _

theorem reqSteps_executeRequest : ReqSteps G X now p n (executeRequest cfg now n psn p).1 := by
  unfold executeRequest
  split
  all_goals first
    | with_reducible exact reqSteps_receiveSendRequest n psn hx
    | with_reducible exact reqSteps_receiveRdmaWriteRequest cfg n psn hx
    | with_reducible exact reqSteps_receiveRdmaReadRequest n psn ‹_› fun _ => hx
    | with_reducible exact reqSteps_receiveAtomicRequest n psn hx (by simp [IsRdAtomicOpcode, *])
    | exact .single (.crash n (by decide) hx)

omit hx in
theorem reqSteps_receiveDuplicate (hd : getPsnDiff psn n.qp.responder.psn < 0)
    (hg : G → RetriesAtomic n.qp psn p → RdAtomicRoom n.qp) :
    ReqSteps G X now p n (receiveDuplicate now n psn p) := by
  unfold receiveDuplicate
  split
  · rename_i hop
    split
    · rename_i i hslot
      split
      · exact reqSteps_receiveRdmaReadRequest n psn ‹_› nofun
      rename_i hr
      refine .single (.atomic n psn _ fun h => hg h ⟨hop.resolve_left hr, hd, ?_⟩)
      rw [hslot]
      rfl
    · exact reqSteps_refuse n psn _ (Or.inr rfl)
  · exact .single (.ack n psn _)

theorem reqSteps_receiveExpected : ReqSteps G X now p n (receiveExpected cfg now n psn p) := by
  have h : ReqSteps G X now p n (executeRequest cfg now n psn p).1 :=
    reqSteps_executeRequest cfg n psn hx
  unfold receiveExpected
  split
  · exact .single (.crash n (by decide) hx)
  · exact reqSteps_refuse n psn _ (Or.inl rfl)
  split <;> rename_i he <;> rw [he] at h
  · exact h
  · exact h.tail (.advance _ _ _ hx)

end

@[simp] theorem issueCommEst_responder (q : Qp) : (issueCommEst q).responder = q.responder := by
  unfold issueCommEst
  split <;> rfl

@[simp] theorem issueCommEst_attr (q : Qp) : (issueCommEst q).attr = q.attr := by
  unfold issueCommEst
  split <;> rfl

theorem reqSteps_receiveRequest (G : Prop) {X : Prop} (cfg : Config) (now : Nat) (n : Node)
    (p : RcPacket)    (hx : getPsnDiff (psnMask p.psn) n.qp.responder.psn = 0 → X)
    (hg : G → RetriesAtomic n.qp (psnMask p.psn) p → RdAtomicRoom n.qp) :
    ReqSteps G X now p n (receiveRequest cfg now n p) := by
  have hest : ReqSteps G X now p n (n.setQp (issueCommEst n.qp)) := .single (.commEst n)
  unfold receiveRequest
  dsimp only
  split
  · exact hest.tail (.ack _ _ _)
  split
  · rename_i hd
    refine hest.trans (reqSteps_receiveDuplicate (n.setQp (issueCommEst n.qp)) _ hd ?_)
    simp only [RetriesAtomic, findSlot, slotMatches, slotAt, RdAtomicRoom, Node.setQp_qp,
      issueCommEst_responder, issueCommEst_attr]
    exact hg
  · rename_i hd hd'
    refine hest.trans (reqSteps_receiveExpected cfg (n.setQp (issueCommEst n.qp)) _ (hx ?_))
    rw [Node.setQp_qp, issueCommEst_responder] at hd hd'
    exact le_antisymm (not_lt.mp hd) (not_lt.mp hd')

/-- What every step has, if it is reflexive and transitive, every request has. -/
theorem receiveRequest_of_steps {R : Node → Node → Prop} (hrefl : ∀ n, R n n)
    (htrans : ∀ {n n' n''}, R n n' → R n' n'' → R n n'') (cfg : Config) (now : Nat) (p : RcPacket)
    (hstep : ∀ {n n'}, ReqStep False True now p n n' → R n n') (n : Node) :
    R n (receiveRequest cfg now n p) :=
  Run.closure hrefl htrans hstep
    (reqSteps_receiveRequest False cfg now n p (fun _ => trivial) False.elim)

end pib
