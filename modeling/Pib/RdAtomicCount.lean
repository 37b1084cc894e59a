-- The responder's counter of RDMA READ and atomic requests. It counts the
-- acknowledges of these requests in the queue, in every state of every run; what
-- the code does not keep is the limit, which an atomic request that comes again
-- is not held to.
import Pib.AckMoves
import Pib.Atomics

namespace pib

open Bytes

/-! ## The counter and the queue -/

/-- The counter is the number of RDMA READ and atomic acknowledges in the queue. -/
def AckQ.Tallied (s : AckQ) : Prop := s.nr_rd_atomic = (s.acks.countP Ack.isRdAtomic : Nat)

/-- The counter is within the limit. -/
def AckQ.Within (s : AckQ) : Prop := s.nr_rd_atomic ≤ s.max_dest_rd_atomic

variable {G : Prop} {s s' : AckQ}

theorem countP_normal {xs : List Ack} (h : ∀ a ∈ xs, a.type = .NORMAL) :
    xs.countP Ack.isRdAtomic = 0 := by
  rw [List.countP_eq_zero]
  intro a ha
  simp [Ack.isRdAtomic, h a ha]

theorem tallied_cut (ht : s.Tallied) (psn expected_psn : Nat) : (s.cut psn expected_psn).Tallied := by
  have hsplit := List.countP_eq_countP_filter_add s.acks Ack.isRdAtomic
    (overlapsRead psn expected_psn)
  unfold AckQ.Tallied at ht ⊢
  unfold AckQ.cut
  dsimp only
  rw [ht, hsplit]
  push_cast
  simp

theorem tallied_push {a : Ack} (ht : s.Tallied) (ha : a.isRdAtomic = true) : (s.push a).Tallied := by
  unfold AckQ.Tallied at ht ⊢
  unfold AckQ.push
  dsimp only
  rw [ht, List.countP_append]
  simp [ha]

theorem tallied_move (h : AckMove G s s') (ht : s.Tallied) : s'.Tallied := by
  cases h with
  | flush => rfl
  | tail hs hx hx' =>
    unfold AckQ.Tallied at ht ⊢
    rw [hs, List.countP_append, countP_normal hx] at ht
    dsimp only
    rw [List.countP_append, countP_normal hx']
    exact ht
  | read psn expected_psn vaddress rkey size =>
    exact tallied_push (tallied_cut ht psn expected_psn) rfl
  | atomic psn res => exact tallied_push ht rfl
  | pop hs =>
    unfold AckQ.Tallied at ht ⊢
    rw [hs, List.countP_cons] at ht
    unfold AckQ.pop
    dsimp only
    rw [ht]
    split <;> simp
  | advance hs hr size =>
    unfold AckQ.Tallied at ht ⊢
    rw [hs, List.countP_cons] at ht
    dsimp only
    rw [List.countP_cons]
    exact ht
  | retune => exact ht

theorem within_move (h : AckMove True s s') (hw : s.Within) : s'.Within := by
  unfold AckQ.Within at hw ⊢
  cases h with
  | flush => exact Int.natCast_nonneg _
  | tail | advance => exact hw
  | read psn expected_psn vaddress rkey size hroom => exact hroom
  | atomic psn res hroom => exact hroom trivial
  | pop hs =>
    unfold AckQ.pop
    dsimp only
    split <;> omega
  | retune limit mtu hl => exact hl trivial

theorem tallied_moves (h : AckMoves G s s') (ht : s.Tallied) : s'.Tallied := by
  induction h with
  | refl => exact ht
  | tail _ hm ih => exact tallied_move hm ih

theorem within_moves (h : AckMoves True s s') (hw : s.Within) : s'.Within := by
  induction h with
  | refl => exact hw
  | tail _ hm ih => exact within_move hm ih

/-! ## Which requests are taken -/

/-- The queue pair with another limit. -/
def Node.withLimit (n : Node) (limit : Nat) : Node :=
  n.setQp { n.qp with attr := { n.qp.attr with max_dest_rd_atomic := limit } }

section Admission

variable (now : Nat) (n : Node) (psn : Nat) (p : RcPacket)

/-- What an atomic request has to meet besides the limit. -/
def AtomicFits : Prop :=
  p.buffer.length = 28 ∧ (AtomicEth.decode p.buffer).vaddr % 8 = 0 ∧
    ((atomicOp p).run n.pd n.mem).1 = .SUCCESS

/-- What an RDMA READ has to meet besides the limit. -/
def ReadFits : Prop :=
  p.buffer.length = 16 ∧ (Reth.decode p.buffer).dmalen ≤ PIB_MAX_PAYLOAD_LEN ∧
    pibUtilMrVerifyRkeyValidation n.pd (Reth.decode p.buffer).rkey (Reth.decode p.buffer).vaddr
      (Reth.decode p.buffer).dmalen IB_ACCESS_REMOTE_READ = .SUCCESS

/-- What a retried RDMA READ has to agree with in its slot. -/
def SlotFits (slot : Slot) : Prop :=
  slot.rkey = (Reth.decode p.buffer).rkey ∧
    u64 (slot.vaddress + slotOffset n.qp slot psn) = (Reth.decode p.buffer).vaddr ∧
    u32Sub slot.dmalen (slotOffset n.qp slot psn) = (Reth.decode p.buffer).dmalen

theorem atomic_taken_iff : (receiveAtomicRequest now n psn p).2.isSome = true ↔
    AtomicFits n p ∧ n.qp.responder.nr_rd_atomic < n.qp.attr.max_dest_rd_atomic := by
  unfold receiveAtomicRequest AtomicFits
  by_cases hlen : p.buffer.length = 28
  · rw [if_neg (not_not.mpr hlen)]
    by_cases hbad : (AtomicEth.decode p.buffer).vaddr % 8 ≠ 0 ∨
        (n.qp.attr.max_dest_rd_atomic : Int) ≤ n.qp.responder.nr_rd_atomic
    · rw [if_pos hbad]
      simp only [Option.isSome_none, Bool.false_eq_true, false_iff]
      rintro ⟨⟨-, hal, -⟩, hroom⟩
      exact hbad.elim (fun h => h hal) fun h => absurd hroom (not_lt.mpr h)
    · rw [if_neg hbad]
      obtain ⟨hal, hroom⟩ := not_or.mp hbad
      generalize (atomicOp p).run n.pd n.mem = res
      obtain ⟨status, mem, result⟩ := res
      dsimp only
      by_cases hst : status = .SUCCESS
      · rw [if_neg (not_not.mpr hst)]
        simp only [Option.isSome_some, true_iff]
        exact ⟨⟨hlen, not_not.mp hal, hst⟩, not_le.mp hroom⟩
      · rw [if_pos hst]
        simp only [Option.isSome_none, Bool.false_eq_true, false_iff]
        exact fun h => hst h.1.2.2
  · rw [if_pos hlen]
    simp only [Option.isSome_none, Bool.false_eq_true, false_iff]
    exact fun h => hlen h.1.1

theorem attr_storeSlot (slot : Slot) : (storeSlot n slot).qp.attr = n.qp.attr := by
  unfold storeSlot
  dsimp only
  split <;> rfl

theorem scheduleRead_taken_iff (expected_psn : Nat) (r : Reth) (ret : Nat) :
    (scheduleRead now n psn expected_psn r ret).2.isSome = true ↔
      (n.qp.ackQ.cut psn expected_psn).nr_rd_atomic < n.qp.attr.max_dest_rd_atomic := by
  unfold scheduleRead
  dsimp only
  split
  · rename_i h
    simp only [Option.isSome_none, Bool.false_eq_true, false_iff]
    exact not_lt.mpr h
  · rename_i h
    simp only [Option.isSome_some, true_iff]
    exact not_le.mp h

/-- The checks that a new and a retried RDMA READ have in common. -/
theorem read_taken_iff (slot_index : Option Nat) :
    (receiveRdmaReadRequest now n psn p slot_index).2.isSome = true ↔
      ReadFits n p ∧
        (slot_index = none → n.qp.responder.nr_rd_atomic < n.qp.attr.max_dest_rd_atomic) ∧
        ∀ i, slot_index = some i → SlotFits n psn p (n.qp.responder.slots i) ∧
          (n.qp.ackQ.cut psn (n.qp.responder.slots i).expected_psn).nr_rd_atomic <
            n.qp.attr.max_dest_rd_atomic := by
  have hno : ∀ {P : Prop} {m : Node}, ¬P → (((m, none) : Node × Option Nat).2.isSome = true ↔ P) :=
    fun h => ⟨nofun, fun hp => absurd hp h⟩
  unfold receiveRdmaReadRequest
  by_cases hlen : p.buffer.length = 16
  swap
  · rw [if_pos hlen]
    exact hno fun h => hlen h.1.1
  rw [if_neg (not_not.mpr hlen)]
  dsimp only
  by_cases hmax : PIB_MAX_PAYLOAD_LEN < (Reth.decode p.buffer).dmalen
  · rw [if_pos hmax]
    exact hno fun h => absurd h.1.2.1 (not_le.mpr hmax)
  rw [if_neg hmax]
  by_cases hval : pibUtilMrVerifyRkeyValidation n.pd (Reth.decode p.buffer).rkey
      (Reth.decode p.buffer).vaddr (Reth.decode p.buffer).dmalen IB_ACCESS_REMOTE_READ = .SUCCESS
  swap
  · rw [if_pos hval]
    exact hno fun h => hval h.1.2.2
  rw [if_neg (not_not.mpr hval)]
  have hfits : ReadFits n p := ⟨hlen, not_lt.mp hmax, hval⟩
  cases slot_index with
  | none =>
    dsimp only
    by_cases hroom : (n.qp.attr.max_dest_rd_atomic : Int) ≤ n.qp.responder.nr_rd_atomic
    · rw [if_pos hroom]
      exact hno fun h => absurd (h.2.1 rfl) (not_lt.mpr hroom)
    rw [if_neg hroom, scheduleRead_taken_iff, ackQ_storeSlot]
    have hcut : ∀ e, (n.qp.ackQ.cut psn e).nr_rd_atomic ≤ n.qp.responder.nr_rd_atomic := by
      intro e
      unfold AckQ.cut
      exact Int.sub_le_self _ (Int.natCast_nonneg _)
    refine ⟨fun _ => ⟨hfits, fun _ => not_le.mp hroom, nofun⟩, fun _ => ?_⟩
    rw [show (storeSlot n _).qp.attr = n.qp.attr from attr_storeSlot n _]
    exact (hcut _).trans_lt (not_le.mp hroom)
  | some i =>
    dsimp only
    by_cases hslot : (n.qp.responder.slots i).rkey ≠ (Reth.decode p.buffer).rkey ∨
        u64 ((n.qp.responder.slots i).vaddress + slotOffset n.qp (n.qp.responder.slots i) psn) ≠
          (Reth.decode p.buffer).vaddr ∨
        u32Sub (n.qp.responder.slots i).dmalen (slotOffset n.qp (n.qp.responder.slots i) psn) ≠
          (Reth.decode p.buffer).dmalen
    · rw [if_pos hslot]
      refine hno fun h => ?_
      obtain ⟨h1, h2, h3⟩ := (h.2.2 i rfl).1
      exact hslot.elim (fun hn => hn h1) fun hn => hn.elim (fun hn => hn h2) fun hn => hn h3
    · rw [if_neg hslot, scheduleRead_taken_iff]
      simp only [not_or, not_not] at hslot
      constructor
      · refine fun hroom => ⟨hfits, nofun, fun j hj => ?_⟩
        obtain rfl := Option.some.inj hj
        exact ⟨hslot, hroom⟩
      · exact fun h => (h.2.2 i rfl).2

end Admission

/-- How the requests are held to the limit: one that would be taken under some limit is
taken exactly when the queue has room for it. A retried RDMA READ takes the place of
what it overlaps. -/
structure Admission (n : Node) : Prop where
  request : ∀ (cfg : Config) (now psn : Nat) (p : RcPacket), IsRdAtomicOpcode p.opcode →
    (∃ limit, (executeRequest cfg now (n.withLimit limit) psn p).2.isSome = true) →
    ((executeRequest cfg now n psn p).2.isSome = true ↔
      n.qp.responder.acks.countP Ack.isRdAtomic < n.qp.attr.max_dest_rd_atomic)
  retry : ∀ (now psn : Nat) (p : RcPacket) (i : Nat),
    (∃ limit, (receiveRdmaReadRequest now (n.withLimit limit) psn p (some i)).2.isSome = true) →
    ((receiveRdmaReadRequest now n psn p (some i)).2.isSome = true ↔
      (n.qp.responder.acks.filter fun a =>
        !overlapsRead psn (n.qp.responder.slots i).expected_psn a).countP Ack.isRdAtomic <
          n.qp.attr.max_dest_rd_atomic)

theorem admission_of_tallied {n : Node} (ht : n.qp.ackQ.Tallied) : Admission n := by
  have hcount : n.qp.responder.nr_rd_atomic =
      (n.qp.responder.acks.countP Ack.isRdAtomic : Nat) := ht
  constructor
  · intro cfg now psn p hop hex
    obtain ⟨limit, hl⟩ := hex
    rw [← Int.ofNat_lt, ← hcount]
    unfold executeRequest at hl ⊢
    rcases hop with hop | hop | hop <;> rw [hop] at hl ⊢ <;> dsimp only at hl ⊢
    · rw [read_taken_iff] at hl ⊢
      exact ⟨fun h => h.2.1 rfl, fun h => ⟨hl.1, fun _ => h, nofun⟩⟩
    all_goals
      rw [atomic_taken_iff] at hl ⊢
      exact ⟨fun h => h.2, fun h => ⟨hl.1, h⟩⟩
  · intro now psn p i hex
    obtain ⟨limit, hl⟩ := hex
    have hcut := tallied_cut ht psn (n.qp.responder.slots i).expected_psn
    rw [← Int.ofNat_lt, read_taken_iff]
    rw [read_taken_iff] at hl
    constructor
    · intro h
      have hroom := (h.2.2 i rfl).2
      rw [hcut] at hroom
      exact hroom
    · intro h
      refine ⟨hl.1, nofun, fun j hj => ?_⟩
      obtain rfl := Option.some.inj hj
      refine ⟨(hl.2.2 i rfl).1, ?_⟩
      rw [hcut]
      exact h

/-! ## Runs -/

instance decidableRetriesAtomic (q : Qp) (psn : Nat) (p : RcPacket) :
    Decidable (RetriesAtomic q psn p) :=
  inferInstanceAs (Decidable ((_ ∨ _) ∧ _ ∧ _))

instance decidableAdmits (n : Node) : DecidablePred (Admits n)
  | .receive _ p => @instDecidableForall _ _ (decidableRetriesAtomic n.qp (psnMask p.psn) p)
      (Int.decLt _ _)
  | .modify _ mask => @instDecidableForall _ _ (instDecidableEqBool mask.MAX_DEST_RD_ATOMIC true)
      (Int.decLe _ _)
  | .postSend .. | .postRecv .. | .schedule | .fatal | .environment .. => instDecidableTrue

/-- 1 is to be added to the word. -/
def addOne (psn : Nat) : RcPacket :=
  { opcode := .FETCH_ADD, psn
    buffer := AtomicEth.encode { vaddr := 0x1000, rkey := 0, swap_dt := 1, cmp_dt := 0 } }

/-- A responder that expects PSN 5 and takes one such request at a time. -/
def oneAtATime : Node := created {} {} none wordPd fun _ => 0

def expectFive : List (Nat × Act) :=
  bringUp { rq_psn := 5, max_dest_rd_atomic := 1, path_mtu := 1, port_num := 1 }

/-- Two requests, the second after the answer to the first. -/
def inTurn : List (Nat × Act) :=
  expectFive ++ [(1, .receive 1 (addOne 5)), (2, .schedule), (3, .receive 1 (addOne 6))]

/-- The first request comes twice, is answered, and with nothing outstanding the next
request comes: the counter was over the limit, and the request is refused. -/
def withRetry : List (Nat × Act) :=
  expectFive ++ [(1, .receive 1 (addOne 5)), (2, .receive 1 (addOne 5))]

end pib
