-- The queue of acknowledges of a responder seen from a distance. Whatever the driver
-- does to it is a run of a few moves.
import Pib.RecvSide

namespace pib

open Bytes

variable (cfg : Config) (now : Nat) (n : Node) (q : Qp) {s s' : AckQ} {a : Ack} {acks : List Ack}

/-! ## The abstract queue -/

structure AckQ where
  acks : List Ack
  nr_rd_atomic : Int
  max_dest_rd_atomic : Nat
  path_mtu : Nat

def RecvSide.ackQ (b : RecvSide) : AckQ :=
  { acks := b.responder.acks
    nr_rd_atomic := b.responder.nr_rd_atomic
    max_dest_rd_atomic := b.attr.max_dest_rd_atomic
    path_mtu := b.attr.path_mtu }

/-- The queue of acknowledges of a queue pair. -/
def Qp.ackQ (q : Qp) : AckQ := q.respSide.ackQ

namespace AckQ

/-- All acknowledges are thrown away. -/
def flush (s : AckQ) : AckQ := { s with acks := [], nr_rd_atomic := 0 }

/-- The acknowledges from this RDMA READ on are thrown away. -/
def cut (s : AckQ) (psn expected_psn : Nat) : AckQ :=
  { s with
    acks := s.acks.filter fun ack => !overlapsRead psn expected_psn ack
    nr_rd_atomic := s.nr_rd_atomic -
      ((s.acks.filter (overlapsRead psn expected_psn)).countP Ack.isRdAtomic : Nat) }

/-- An acknowledge of an RDMA READ or atomic request is queued. -/
def push (s : AckQ) (a : Ack) : AckQ :=
  { s with acks := s.acks ++ [a], nr_rd_atomic := s.nr_rd_atomic + 1 }

/-- The first acknowledge has been sent. -/
def pop (s : AckQ) (a : Ack) (acks : List Ack) : AckQ :=
  { s with acks, nr_rd_atomic := if a.isRdAtomic then s.nr_rd_atomic - 1 else s.nr_rd_atomic }

end AckQ

/-- What can happen to the queue. With `G` the moves that the code does not guard are
guarded as well: an atomic request that comes again, and a change of the limit. -/
inductive AckMove (G : Prop) : AckQ → AckQ → Prop
  /-- the queue pair is flushed or reset -/
  | flush (s : AckQ) : AckMove G s s.flush
  /-- normal acknowledges at the end are replaced by others -/
  | tail (s : AckQ) {init xs xs' : List Ack} (h : s.acks = init ++ xs)
      (hx : ∀ a ∈ xs, a.type = .NORMAL) (hx' : ∀ a ∈ xs', a.type = .NORMAL) :
      AckMove G s { s with acks := init ++ xs' }
  /-- the response to an RDMA READ takes the place of those it overlaps -/
  | read (s : AckQ) (psn expected_psn vaddress rkey size : Nat)
      (h : (s.cut psn expected_psn).nr_rd_atomic < s.max_dest_rd_atomic) :
      AckMove G s ((s.cut psn expected_psn).push
        { type := .RDMA_READ, psn, expected_psn, vaddress, rkey, size })
  /-- the response to an atomic request -/
  | atomic (s : AckQ) (psn res : Nat) (h : G → s.nr_rd_atomic < s.max_dest_rd_atomic) :
      AckMove G s (s.push { type := .ATOMIC, psn, expected_psn := u32 (psn + 1), res })
  /-- the first acknowledge is done -/
  | pop (s : AckQ) {a : Ack} {acks : List Ack} (h : s.acks = a :: acks)
      (hr : a.type = .RDMA_READ → a.size ≤ a.offset) : AckMove G s (s.pop a acks)
  /-- one more packet of the first RDMA READ is sent -/
  | advance (s : AckQ) {a : Ack} {acks : List Ack} (h : s.acks = a :: acks)
      (ht : a.type = .RDMA_READ) (size : Nat) :
      AckMove G s { s with acks := { a with offset := a.offset + size } :: acks }
  /-- attributes change -/
  | retune (s : AckQ) (max_dest_rd_atomic path_mtu : Nat)
      (h : G → s.nr_rd_atomic ≤ max_dest_rd_atomic) :
      AckMove G s { s with max_dest_rd_atomic, path_mtu }

/-- A run of moves. -/
def AckMoves (G : Prop) : AckQ → AckQ → Prop := Relation.ReflTransGen (AckMove G)

variable {G : Prop}

namespace AckMoves

theorem of_eq (h : s' = s) : AckMoves G s s' := h ▸ Relation.ReflTransGen.refl

theorem trans {s'' : AckQ} (h : AckMoves G s s') (h' : AckMoves G s' s'') :
    AckMoves G s s'' := Relation.ReflTransGen.trans h h'

theorem one (h : AckMove G s s') : AckMoves G s s' := Relation.ReflTransGen.single h

theorem flush (h : s' = s.flush) : AckMoves G s s' :=
  h ▸ Relation.ReflTransGen.single (.flush s)

end AckMoves

/-! ## Functions that leave the queue alone -/

theorem ackQ_of_respSide {q q' : Qp} (h : q'.respSide = q.respSide) : q'.ackQ = q.ackQ :=
  congrArg RecvSide.ackQ h

theorem RecvSide.ackQ_fail (b : RecvSide) : b.fail.strip.ackQ = b.ackQ.flush := by
  unfold RecvSide.ackQ RecvSide.strip AckQ.flush
  rw [RecvSide.attr_fail]

theorem SparesAll.ackMoves {q q' : Qp} (h : SparesAll q q') : AckMoves G q.ackQ q'.ackQ := by
  rcases h with h | h
  · exact .of_eq (ackQ_of_respSide h)
  refine .flush ?_
  rw [Qp.ackQ, h, RecvSide.ackQ_fail]
  rfl

@[simp] theorem ackQ_failQp : (failQp now q).ackQ = q.ackQ.flush := by
  rw [Qp.ackQ, respSide_failQp, RecvSide.ackQ_fail]
  rfl

@[simp] theorem ackQ_rescheduleQp :
    (pibUtilRescheduleQp now q).ackQ = q.ackQ := ackQ_of_respSide (respSide_rescheduleQp now q)

@[simp] theorem ackQ_freeRecvWqe : q.freeRecvWqe.ackQ = q.ackQ := by
  unfold Qp.freeRecvWqe
  split <;> rfl

@[simp] theorem ackQ_popRecvWqe : q.popRecvWqe.ackQ = q.ackQ := by
  unfold Qp.popRecvWqe
  rw [ackQ_freeRecvWqe]
  rfl

@[simp] theorem ackQ_takeFromSrq : (takeFromSrq q).ackQ = q.ackQ := by
  unfold takeFromSrq
  split
  · rfl
  split
  · rfl
  · split <;> rfl

@[simp] theorem ackQ_issueCommEst : (issueCommEst q).ackQ = q.ackQ := by
  unfold issueCommEst
  split <;> rfl

@[simp] theorem ackQ_failRecv (w : RecvWqe) (st : WcStatus) (op : WcOpcode) :
    (failRecv q w st op).ackQ = q.ackQ := by
  unfold failRecv
  rw [ackQ_popRecvWqe]
  rfl

@[simp] theorem ackQ_abortActiveRwqe : (abortActiveRwqe q).ackQ = q.ackQ := by
  unfold abortActiveRwqe
  split
  · rfl
  split
  · rfl
  · rw [ackQ_popRecvWqe]
    rfl

@[simp] theorem ackQ_completeRecv (w : RecvWqe) (s : Segment) (ex : Nat) (op : WcOpcode)
    (p : RcPacket) : (completeRecv q w s ex op p).ackQ = q.ackQ := ackQ_popRecvWqe _

@[simp] theorem ackQ_storeSlot (slot : Slot) : (storeSlot n slot).qp.ackQ = n.qp.ackQ := by
  unfold storeSlot
  dsimp only
  split <;> rfl

/-! ## The responder's functions -/

theorem AckMoves.tail {init : List Ack} (xs xs' : List Ack) (h : s.acks = init ++ xs)
    (hx : ∀ a ∈ xs, a.type = .NORMAL) (hx' : ∀ a ∈ xs', a.type = .NORMAL) :
    AckMoves G s { s with acks := init ++ xs' } := .one (.tail s h hx hx')

theorem ackMoves_pushAcknowledge (psn syndrome : Nat) :
    AckMoves G q.ackQ (pushAcknowledge q psn syndrome).ackQ := by
  have happend : AckMoves G q.ackQ
      (Qp.ackQ { q with responder := appendAck q.responder psn syndrome }) :=
    .tail (s := q.ackQ) [] [_] (List.append_nil _).symm (by simp) (by simp)
  unfold pushAcknowledge pushOrCoalesce
  split
  · exact happend
  rename_i last hl
  split
  · exact .of_eq rfl
  split
  · rename_i hc
    have hlast : last.type = .NORMAL := by
      simp only [coalesces, Bool.and_eq_true, decide_eq_true_eq] at hc
      exact hc.1.1
    exact .tail (s := q.ackQ) [last] [_] (List.dropLast_append_getLast? last hl).symm
      (by simpa using hlast) (by simpa using hlast)
  · exact happend

@[simp] theorem ackQ_refuse (psn syndrome : Nat) (event : EventType) :
    (refuse now q psn syndrome event).ackQ = q.ackQ.flush := by
  rw [refuse, insertAsyncQpError, ackQ_failQp, ackQ_abortActiveRwqe]
  rfl

theorem ackMoves_reqStep {now : Nat} {p : RcPacket} {n n' : Node} (h : ReqStep G True now p n n') :
    AckMoves G n.qp.ackQ n'.qp.ackQ := by
  cases h with
  | ack psn syndrome => exact ackMoves_pushAcknowledge n.qp psn syndrome
  | fail => exact .flush (ackQ_failQp now n.qp)
  | refuseRead => exact .flush ((ackQ_refuse ..).trans rfl)
  | atomic psn res hroom => exact .one (.atomic n.qp.ackQ psn res hroom)
  | read psn expected_psn vaddress rkey size hroom =>
    exact .one (.read n.qp.ackQ psn expected_psn vaddress rkey size hroom)
  | _ => exact .of_eq (by first | rfl | simp)

theorem ackMoves_receiveRequest (p : RcPacket) (hg : G → RetriesAtomic n.qp (psnMask p.psn) p →
      n.qp.ackQ.nr_rd_atomic < n.qp.ackQ.max_dest_rd_atomic) :
    AckMoves G n.qp.ackQ (receiveRequest cfg now n p).qp.ackQ :=
  Run.closure (R := fun n n' => AckMoves G n.qp.ackQ n'.qp.ackQ) (fun _ => .of_eq rfl)
    AckMoves.trans ackMoves_reqStep (reqSteps_receiveRequest G cfg now n p (fun _ => trivial) hg)

/-! ## Sending acknowledges -/

theorem ackMoves_popNormal {q : Qp} (h : q.responder.acks = a :: acks)
    (ht : a.type = .NORMAL) : AckMoves G q.ackQ q.popAck.ackQ := by
  have hpop := AckMove.pop (G := G) q.ackQ h fun hr => absurd (ht.symm.trans hr) (by decide)
  have hn : a.isRdAtomic = false := by simp [Ack.isRdAtomic, ht]
  rw [AckQ.pop, if_neg (by rw [hn]; decide)] at hpop
  rw [Qp.popAck, h]
  exact .one hpop

theorem ackMoves_popRdAtomic {q : Qp} (h : q.responder.acks = a :: acks)
    (ht : a.isRdAtomic = true) (hr : a.type = .RDMA_READ → a.size ≤ a.offset) :
    AckMoves G q.ackQ q.popAck.decRdAtomic.ackQ := by
  have hpop := AckMove.pop (G := G) q.ackQ h hr
  rw [AckQ.pop, if_pos ht] at hpop
  rw [Qp.popAck, h]
  exact .one hpop

/-- The head of the queue after a response to an RDMA READ: it has moved on, or the copy
has failed and it is as it was. -/
theorem generateRdmaReadResponse_acks
    (h : n.qp.responder.acks = a :: acks) (ht : a.type = .RDMA_READ) :
    ∃ a', (generateRdmaReadResponse n a acks).qp.responder.acks = a' :: acks ∧
      a'.type = .RDMA_READ ∧
      AckMoves G n.qp.ackQ (generateRdmaReadResponse n a acks).qp.ackQ := by
  unfold generateRdmaReadResponse
  split
  · exact ⟨_, rfl, ht, .one (.advance n.qp.ackQ h ht (readDataSize n.qp a))⟩
  · exact ⟨a, h, ht, .of_eq rfl⟩

theorem ackMoves_generateAcknowledge :
    AckMoves G n.qp.ackQ (pibGenerateRcQpAcknowledge n).1.qp.ackQ := by
  unfold pibGenerateRcQpAcknowledge
  split
  · exact .of_eq rfl
  split
  · exact .of_eq rfl
  rename_i a acks hacks
  split
  · rename_i ht
    exact ackMoves_popNormal hacks ht
  · rename_i ht
    exact ackMoves_popRdAtomic hacks (by simp [Ack.isRdAtomic, ht])
      fun hr => absurd (ht.symm.trans hr) (by decide)
  rename_i ht
  split
  · exact .of_eq rfl
  dsimp only
  obtain ⟨a', ha', ht', hm⟩ := generateRdmaReadResponse_acks (G := G) n hacks ht
  generalize generateRdmaReadResponse n a acks = n' at ha' hm ⊢
  split
  · exact hm
  rename_i b bs hb
  obtain ⟨rfl, rfl⟩ := List.cons.inj (ha'.symm.trans hb)
  split
  · exact hm
  rename_i hdone
  refine hm.trans (ackMoves_popRdAtomic ha' (by simp [Ack.isRdAtomic, ht'])
    fun _ => not_lt.mp hdone)

/-! ## The verbs -/

theorem ackQ_resetQp : (resetQp cfg now q).ackQ = q.ackQ.flush := by
  obtain ⟨_, _, h⟩ := respSide_resetQp cfg now q
  rw [Qp.ackQ, h]
  rfl

theorem ackMoves_enterState (new : QpState) :
    AckMoves G q.ackQ (enterState cfg now q new).ackQ := by
  cases new with
  | RESET =>
    have h := ackQ_resetQp cfg now { q with state := .RESET }
    exact .flush h
  | ERR => exact .flush (ackQ_failQp now q)
  | SQE =>
    have h := congrArg RecvSide.ackQ (respSide_flushSendQueue { q with state := .SQE })
    exact .of_eq h
  | _ => exact .of_eq rfl

theorem ackMoves_setAttrs (attr : ModifyAttr) (mask : AttrMask)
    (hg : G → mask.MAX_DEST_RD_ATOMIC = true → q.ackQ.nr_rd_atomic ≤ attr.max_dest_rd_atomic)
    (hb : G → q.ackQ.nr_rd_atomic ≤ q.ackQ.max_dest_rd_atomic) :
    AckMoves G q.ackQ (setAttrs cfg q attr mask).ackQ := by
  refine .one (.retune q.ackQ _ _ fun h => ?_)
  dsimp only [setAttrs, Qp.respSide]
  split
  · exact hg h ‹_›
  · exact hb h

theorem ackMoves_modify (isOk : StateCheck)
    (now : Nat) (q : Qp) (attr : ModifyAttr) (mask : AttrMask)
    (hg : G → mask.MAX_DEST_RD_ATOMIC = true → q.ackQ.nr_rd_atomic ≤ attr.max_dest_rd_atomic)
    (hb : G → q.ackQ.nr_rd_atomic ≤ q.ackQ.max_dest_rd_atomic) :
    AckMoves G q.ackQ (pibModifyQp cfg isOk now q attr mask).1.ackQ := by
  have hset := ackMoves_setAttrs cfg q attr mask hg hb
  rcases pibModifyQp_settles cfg isOk now q attr mask with h | ⟨-, h⟩ | ⟨-, -, -, h⟩ <;>
    rw [h]
  · exact .of_eq rfl
  · exact hset
  · rw [ackQ_of_respSide (respSide_settleState now _ _ _ _)]
    exact hset.trans (ackMoves_enterState cfg now _ _)

theorem ackQ_pibPostRecv (wrs : List RecvWr) : (pibPostRecv cfg q wrs).1.ackQ = q.ackQ := by
  obtain ⟨_, _, _, _, h⟩ := pibPostRecv_qp cfg q wrs
  rw [h]
  rfl

/-! ## Any step -/

/-- What the code does not look after: an atomic request that comes again finds room in
the queue, and the limit is not set below what is queued. -/
def Admits (n : Node) : Act → Prop
  | .receive _ p => RetriesAtomic n.qp (psnMask p.psn) p →
      n.qp.responder.nr_rd_atomic < n.qp.attr.max_dest_rd_atomic
  | .modify attr mask => mask.MAX_DEST_RD_ATOMIC = true →
      n.qp.responder.nr_rd_atomic ≤ attr.max_dest_rd_atomic
  | _ => True

theorem ackMoves_receive (port_num : Nat) (n : Node) (p : RcPacket)
    (hg : G → Admits n (.receive port_num p)) :
    AckMoves G n.qp.ackQ (pibReceiveRcQpIncomingMessage cfg now port_num n p).qp.ackQ := by
  unfold pibReceiveRcQpIncomingMessage
  split
  · exact .of_eq rfl
  split
  · exact .of_eq rfl
  split
  · exact .of_eq rfl
  · exact (sparesAll_receiveResponse cfg now n p).ackMoves
  · exact ackMoves_receiveRequest cfg now n p hg

/-- Whatever happens to a queue pair is a run of moves of its acknowledges. -/
theorem ackMoves_step (isOk : StateCheck)
    (n : Node) (x : Nat × Act) (hg : G → Admits n x.2)
    (hb : G → n.qp.ackQ.nr_rd_atomic ≤ n.qp.ackQ.max_dest_rd_atomic) :
    AckMoves G n.qp.ackQ (step cfg isOk n x).qp.ackQ := by
  obtain ⟨now, a⟩ := x
  cases a with
  | postSend copyFromUser wrs =>
    exact .of_eq (ackQ_of_respSide (respSide_pibPostSend cfg copyFromUser now n.qp wrs))
  | postRecv wrs => exact .of_eq (ackQ_pibPostRecv cfg n.qp wrs)
  | schedule =>
    have hgen := ackMoves_generateAcknowledge (G := G) { n with send_buffer := none }
    obtain ⟨n', he, h⟩ := scheduler_cases cfg now { n with send_buffer := none }
    unfold step act
    dsimp only
    rw [he, Node.setQp_qp, ackQ_rescheduleQp]
    rcases h with h | ⟨-, rfl⟩
    · rw [h] at hgen
      exact hgen
    · exact (sparesAll_processRequester cfg now { n with send_buffer := none }).ackMoves
  | receive port_num p =>
    have h := ackMoves_receive cfg now port_num { n with send_buffer := none } p hg
    refine h.trans (.of_eq ?_)
    exact ackQ_rescheduleQp now _
  | modify attr mask => exact ackMoves_modify cfg isOk now n.qp attr mask hg hb
  | fatal => exact .flush (ackQ_failQp now n.qp)
  | environment pd mem srq => exact .of_eq rfl

end pib
