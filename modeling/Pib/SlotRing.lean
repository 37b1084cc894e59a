-- The ring of slots in which the responder remembers RDMA READ and atomic
-- requests. Its counter is a signed integer that wraps, and the subscript of a new
-- slot is a signed remainder of it: from the second negative value on the slots
-- are stored outside the ring.
import Pib.AckProgress
import Pib.RdAtomicCount

namespace pib

open Bytes

/-! ## The subscripts -/

/-- The subscript of the slot that the next new request is stored in. -/
def slotWritten (q : Qp) : Int := Int.tmod q.responder.slot_index PIB_MAX_RD_ATOM

/-- `slot_index` after `k` requests. -/
def slotCount (k : Nat) : Int := Int.bmod k (2 ^ 32)

/-- The subscript of request `k`. -/
def ringIndex (k : Nat) : Int := Int.tmod (slotCount k) PIB_MAX_RD_ATOM

theorem slotCount_succ (k : Nat) : Int.bmod (slotCount k + 1) (2 ^ 32) = slotCount (k + 1) := by
  unfold slotCount
  rw [Int.bmod_add_bmod]
  rfl

theorem ringIndex_of_le {k : Nat} (h : k ≤ 2 ^ 31) : ringIndex k = (k % 16 : Nat) := by
  rcases h.eq_or_lt with rfl | h
  · decide
  have hk : slotCount k = k := by
    unfold slotCount
    apply Int.bmod_eq_of_le <;> push_cast <;> omega
  rw [ringIndex, hk, Int.tmod_eq_emod_of_nonneg (Int.natCast_nonneg k)]
  rfl

/-- The search for a retried request subtracts before it takes the remainder, and that
remainder is not signed. -/
theorem slotAt_eq {q : Qp} {k i : Nat} (h : q.responder.slot_index = slotCount k) (hi : i ≤ k) :
    slotAt q i = (k - i) % 16 := by
  have hk : slotCount k % (2 ^ 32 : Nat) = (k : Int) % (2 ^ 32 : Nat) := Int.bmod_emod
  unfold slotAt PIB_MAX_RD_ATOM
  rw [h]
  push_cast at hk ⊢
  omega

/-! ## Requests and the counter -/

variable (cfg : Config) (now : Nat) (n : Node) (q : Qp) (psn : Nat) (p : RcPacket)

theorem place_respSide : q.respSide.place = q.place := rfl

@[simp] theorem place_failQp : (failQp now q).place = q.place := by
  have hfail : ∀ b : RecvSide, b.fail.strip.place = b.place := by
    intro b
    unfold RecvSide.fail RecvSide.free RecvSide.strip RecvSide.place
    cases b.srq <;> rfl
  rw [← place_respSide, respSide_failQp, hfail, place_respSide]

@[simp] theorem place_abortActiveRwqe : (abortActiveRwqe q).place = q.place := by
  unfold abortActiveRwqe
  split
  · rfl
  split
  · rfl
  · exact place_popRecvWqe _

theorem place_refuse (syndrome : Nat) (e : EventType) :
    (refuse now q psn syndrome e).place = q.place := by
  rw [refuse, insertAsyncQpError, place_failQp, place_abortActiveRwqe]
  exact (stands_pushAcknowledge q psn syndrome).2

/-- The place in the stream of requests is moved by those that are executed, and the
slots are written for an RDMA READ or an atomic request. -/
theorem place_reqStep {X : Prop} {now : Nat} {p : RcPacket} {n n' : Node}
    (h : ReqStep False X now p n n') :
    n'.qp.place = n.qp.place ∨ X ∧ (IsRdAtomicOpcode p.opcode ∨
      ∃ psn last_OpCode, n'.qp.place = { n.qp.place with psn, last_OpCode }) := by
  cases h with
  | store slot hp hx => exact Or.inr ⟨hx, Or.inl hp⟩
  | advance psn last_OpCode hx => exact Or.inr ⟨hx, Or.inr ⟨psn, last_OpCode, rfl⟩⟩
  | commEst => exact Or.inl (by unfold issueCommEst; split <;> rfl)
  | ack psn syndrome => exact Or.inl (stands_pushAcknowledge n.qp psn syndrome).2
  | failRecv | complete => exact Or.inl (place_popRecvWqe _)
  | refuseRead psn _ syndrome => exact Or.inl ((place_refuse now _ psn syndrome _).trans rfl)
  | fromSrq | abort | fail => exact Or.inl (by simp)
  | _ => exact Or.inl rfl

/-- A request that is taken advances the counter, nothing else does. -/
def Ticks (taken : Bool) (q q' : Qp) : Prop :=
  q'.responder.slot_index =
    if taken then Int.bmod (q.responder.slot_index + 1) (2 ^ 32) else q.responder.slot_index

theorem ticks_of_place {q q' : Qp} (h : q'.place = q.place) : Ticks false q q' :=
  congrArg Place.slot_index h

theorem ticks_storeSlot (slot : Slot) : Ticks true n.qp (storeSlot n slot).qp := by
  unfold storeSlot
  dsimp only
  split <;> rfl

/-- A new RDMA READ is refused as it stands, or it is stored and answered. -/
theorem newRead_cases :
    (∃ syndrome e, receiveRdmaReadRequest now n psn p none =
      (n.setQp (refuse now n.qp psn syndrome e), none)) ∨
    ∃ slot acks nr_rd_atomic ret, receiveRdmaReadRequest now n psn p none =
      ((storeSlot n slot).setQp { (storeSlot n slot).qp with
        responder := { (storeSlot n slot).qp.responder with
          acks, nr_rd_atomic, nr_contig_read_acks := 0 } }, some ret) := by
  unfold receiveRdmaReadRequest
  split
  · exact Or.inl ⟨_, _, rfl⟩
  dsimp only
  split
  · exact Or.inl ⟨_, _, rfl⟩
  split
  · exact Or.inl ⟨_, _, rfl⟩
  split
  · exact Or.inl ⟨_, _, rfl⟩
  rename_i hroom
  unfold scheduleRead
  dsimp only
  split
  · -- the room that was there is still there when others have been removed
    rename_i hfull
    refine absurd hfull (not_le.mpr ?_)
    exact (Int.sub_le_self _ (Int.natCast_nonneg _)).trans_lt
      (rdAtomicRoom_storeSlot.mpr (not_le.mp hroom))
  · unfold pushRdmaReadAcknowledge removeOverlappedRdmaReadAcknowledge
    exact Or.inr ⟨_, _, _, _, rfl⟩

theorem ticks_executeRequest (hp : IsRdAtomicOpcode p.opcode) :
    Ticks (executeRequest cfg now n psn p).2.isSome n.qp (executeRequest cfg now n psn p).1.qp := by
  have hno : ∀ syndrome e, Ticks false n.qp (refuse now n.qp psn syndrome e) :=
    fun syndrome e => ticks_of_place (place_refuse now n.qp psn syndrome e)
  have hatomic : Ticks (receiveAtomicRequest now n psn p).2.isSome n.qp
      (receiveAtomicRequest now n psn p).1.qp := by
    unfold receiveAtomicRequest
    split
    · exact hno _ _
    split
    · exact hno _ _
    dsimp only
    split
    · rw [Node.perform_qp]
      exact hno _ _
    · exact ticks_storeSlot (n.perform (atomicOp p)) _
  unfold executeRequest
  rcases hp with h | h | h <;> rw [h]
  · rcases newRead_cases now n psn p with ⟨syndrome, e, h⟩ | ⟨slot, _, _, _, h⟩ <;> rw [h]
    · exact hno syndrome e
    · exact ticks_storeSlot n slot
  · exact hatomic
  · exact hatomic

/-- A new RDMA READ or atomic request is taken: it has the expected PSN, it is in order,
and its handler does not return -1. -/
def takesRdAtomic : Bool :=
  decide (IsRdAtomicOpcode p.opcode ∧ getPsnDiff (psnMask p.psn) n.qp.responder.psn = 0) &&
    (decide (pibOpcodeIsInOrderSequence p.opcode n.qp.responder.last_OpCode = some true) &&
      (executeRequest cfg now (n.setQp (issueCommEst n.qp)) (psnMask p.psn) p).2.isSome)

theorem ticks_receiveRequest :
    Ticks (takesRdAtomic cfg now n p) n.qp (receiveRequest cfg now n p).qp := by
  by_cases h : IsRdAtomicOpcode p.opcode ∧ getPsnDiff (psnMask p.psn) n.qp.responder.psn = 0
  · have hest : (n.setQp (issueCommEst n.qp)).qp.responder = n.qp.responder :=
      issueCommEst_responder n.qp
    have ht := ticks_executeRequest cfg now (n.setQp (issueCommEst n.qp)) (psnMask p.psn) p h.1
    unfold takesRdAtomic receiveRequest Ticks at *
    dsimp only
    rw [decide_eq_true h, Bool.true_and]
    rw [hest] at ht ⊢
    rw [if_neg (by omega), if_neg (by omega)]
    unfold receiveExpected
    rw [hest]
    split <;> rename_i horder <;> rw [horder]
    · exact congrArg Responder.slot_index hest
    · exact (ticks_of_place (place_refuse now _ _ _ _)).trans (congrArg Responder.slot_index hest)
    · rw [decide_eq_true rfl, Bool.true_and]
      split <;> rename_i he <;> rw [he] at ht ⊢ <;> exact ht
  · -- no slot is written
    have htaken : takesRdAtomic cfg now n p = false := by simp [takesRdAtomic, h]
    rw [htaken]
    refine Run.frame (fun n => n.qp.place.slot_index) (fun hs => ?_)
      (reqSteps_receiveRequest False cfg now n p id False.elim)
    rcases place_reqStep hs with he | ⟨hx, hp | ⟨_, _, he⟩⟩
    · exact congrArg Place.slot_index he
    · exact absurd ⟨hp, hx⟩ h
    · exact (congrArg Place.slot_index he).trans rfl

/-! ## Runs -/

/-- What happens to a responder: a request comes in, or anything else is done, which
leaves `slot_index` as it is. No other function writes it. -/
inductive SlotEvent
  | request (now : Nat) (p : RcPacket)
  | other (n : Node)

/-- A node, and the subscripts that its requests were stored at, the latest first. -/
structure SlotLog where
  node : Node
  written : List Int := []

namespace SlotLog

def step (s : SlotLog) : SlotEvent → SlotLog
  | .request now p =>
    { node := receiveRequest cfg now s.node p
      written := if takesRdAtomic cfg now s.node p then slotWritten s.node.qp :: s.written
        else s.written }
  | .other n =>
    { s with node := n.setQp { n.qp with responder :=
        { n.qp.responder with slot_index := s.node.qp.responder.slot_index } } }

/-- Every request was stored in the ring, and the search for a retried request looks for
the `i`-th latest one where it was stored. -/
def Sound (s : SlotLog) : Prop :=
  (∀ k ∈ s.written, 0 ≤ k ∧ k < PIB_MAX_RD_ATOM) ∧
    ∀ i, 1 ≤ i → i ≤ s.node.qp.attr.max_dest_rd_atomic →
      ∀ k, s.written[i - 1]? = some k → (slotAt s.node.qp i : Int) = k

/-- The requests were stored one after the other. -/
structure Good (s : SlotLog) : Prop where
  count : s.node.qp.responder.slot_index = slotCount s.written.length
  written : ∀ i k, s.written[i]? = some k → k = ringIndex (s.written.length - 1 - i)

theorem good_step {s : SlotLog} (h : s.Good) (x : SlotEvent) : (s.step cfg x).Good := by
  cases x with
  | other n => exact ⟨h.count, h.written⟩
  | request now p =>
    have ht := ticks_receiveRequest cfg now s.node p
    unfold Ticks at ht
    rw [step]
    generalize takesRdAtomic cfg now s.node p = taken at ht ⊢
    generalize receiveRequest cfg now s.node p = n at ht ⊢
    cases taken with
    | false => exact ⟨ht.trans h.count, h.written⟩
    | true =>
      refine ⟨?_, ?_⟩
      · rw [ht, if_pos rfl, h.count, slotCount_succ]
        rfl
      · rintro (_ | i) k hk
        · obtain rfl := Option.some.inj hk
          rw [slotWritten, h.count]
          rfl
        · rw [if_pos rfl, List.getElem?_cons_succ] at hk
          rw [h.written i k hk, if_pos rfl, List.length_cons]
          congr 1
          omega

theorem sound_iff {s : SlotLog} (h : s.Good) : s.Sound ↔ s.written.length ≤ 2 ^ 31 + 1 := by
  constructor
  · intro hs
    by_contra hlen
    have hlt : s.written.length - 1 - (2 ^ 31 + 1) < s.written.length := by omega
    have hk := h.written _ _ (List.getElem?_eq_getElem hlt)
    have hpos := (hs.1 _ (List.getElem_mem hlt)).1
    rw [hk, show s.written.length - 1 - (s.written.length - 1 - (2 ^ 31 + 1)) = 2 ^ 31 + 1 by omega]
      at hpos
    exact absurd hpos (by decide)
  · intro hlen
    constructor
    · intro k hk
      obtain ⟨i, hi⟩ := List.getElem?_of_mem hk
      rw [h.written i k hi, ringIndex_of_le (by omega)]
      exact ⟨Int.natCast_nonneg _, Int.ofNat_lt.mpr (Nat.mod_lt _ (by decide))⟩
    · intro i hi _ k hk
      have hlt : i - 1 < s.written.length := (List.getElem?_eq_some_iff.mp hk).1
      rw [h.written (i - 1) k hk, ringIndex_of_le (by omega), slotAt_eq h.count (by omega)]
      congr 2
      omega

theorem good_run {n : Node} (h : n.qp.responder.slot_index = 0) (xs : List SlotEvent) :
    (Run.run (step cfg) { node := n } xs).Good := by
  refine Run.always (I := Good) (fun _ x h => good_step cfg h x) ⟨?_, ?_⟩ xs
  · exact h.trans (show (0 : Int) = slotCount 0 by decide)
  · intro i k h
    simp at h

end SlotLog

/-- From the creation of a queue pair on, the ring works exactly as long as there were at
most `2 ^ 31 + 1` RDMA READ and atomic requests. -/
theorem slot_ring_sound_iff (init_attr : QpInitAttr) (srq : Option Srq) (pd : Pd) (mem : Mem)
    (xs : List SlotEvent) :
    let s := Run.run (SlotLog.step cfg) { node := created cfg init_attr srq pd mem } xs
    s.Sound ↔ s.written.length ≤ 2 ^ 31 + 1 :=
  SlotLog.sound_iff (SlotLog.good_run cfg rfl xs)

/-! ## A run that leaves the ring -/

/-- A queue pair in RTS that waits for an RDMA READ of its region with PSN 0. -/
def awaitsRead : Node :=
  Run.run (step {} ibStateTable) (created {} {} none readPd fun _ => 0)
    (bringUp { max_dest_rd_atomic := 1, path_mtu := 1, port_num := 1 })

/-- The queue pair is reset, which keeps `slot_index`, it is brought up again, and another
request comes. -/
def slotRound : List SlotEvent := [.other awaitsRead, .request 0 (readFour 0)]

/-- Every round is one request more. -/
theorem slotRound_written (s : SlotLog) :
    (Run.run (SlotLog.step {}) s slotRound).written.length = s.written.length + 1 := by
  have htaken : takesRdAtomic {} 0 (s.step {} (.other awaitsRead)).node (readFour 0) = true := by
    have hread : (receiveRdmaReadRequest 0 ((s.step {} (.other awaitsRead)).node.setQp
        (issueCommEst (s.step {} (.other awaitsRead)).node.qp)) 0 (readFour 0) none).2.isSome := by
      rw [read_taken_iff]
      refine ⟨?_, fun _ => ?_, nofun⟩
      · show ReadFits awaitsRead (readFour 0)
        unfold ReadFits
        decide
      · show awaitsRead.qp.responder.nr_rd_atomic < awaitsRead.qp.attr.max_dest_rd_atomic
        decide
    have hplace : IsRdAtomicOpcode (readFour 0).opcode ∧
        getPsnDiff (psnMask (readFour 0).psn) awaitsRead.qp.responder.psn = 0 := by decide
    have horder : pibOpcodeIsInOrderSequence (readFour 0).opcode
        awaitsRead.qp.responder.last_OpCode = some true := by decide
    exact Bool.and_eq_true_iff.mpr ⟨decide_eq_true hplace,
      Bool.and_eq_true_iff.mpr ⟨decide_eq_true horder, hread⟩⟩
  rw [slotRound, Run.run_cons, Run.run_cons, Run.run_nil, SlotLog.step, if_pos htaken]
  rfl

theorem slotRounds_written (k : Nat) :
    (Run.run (SlotLog.step {}) { node := awaitsRead }
      (List.replicate k slotRound).flatten).written.length = k := by
  induction k with
  | zero => rfl
  | succ k ih =>
    rw [List.replicate_succ', List.flatten_concat, Run.run_append, slotRound_written, ih]

/-- There are runs of that length, and the subscript of the last request is negative. -/
theorem slot_ring_overrun :
    ∃ xs : List SlotEvent,
      let s := Run.run (SlotLog.step {}) { node := awaitsRead } xs
      s.written.length = 2 ^ 31 + 2 ∧ s.written.head? = some (-15) ∧ ¬s.Sound := by
  refine ⟨(List.replicate (2 ^ 31 + 2) slotRound).flatten, ?_⟩
  have hlen := slotRounds_written (2 ^ 31 + 2)
  have hgood := SlotLog.good_run {} (n := awaitsRead) (by decide)
    (List.replicate (2 ^ 31 + 2) slotRound).flatten
  generalize Run.run (SlotLog.step {}) _ _ = s at hlen hgood ⊢
  refine ⟨hlen, ?_, ?_⟩
  · have hlt : 0 < s.written.length := by omega
    have hk := hgood.written 0 _ (List.getElem?_eq_getElem hlt)
    rw [List.head?_eq_getElem?, List.getElem?_eq_getElem hlt, hk, hlen]
    decide
  · rw [SlotLog.sound_iff hgood, hlen]
    decide

end pib
