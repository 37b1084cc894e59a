-- Which paths of the receive side give back the locks they take. Two of them do
-- not: a packet with a wrong P_Key keeps `dev->lock`, and a refused remote
-- invalidation keeps `pd->lock`.
import Pib.ReceivePath

namespace pib

open Locks

variable {ops : List LockOp} {n : Node} {p : RcPacket}

/-- The locks are as they were on entry, and were taken as often as given back. -/
structure KeepsLocks (held : SpinLock → Bool) (ops : List LockOp) : Prop where
  balanced : Balanced held ops
  paired : ∀ l, acquires l ops = releases l ops

theorem keepsLocks_iff {held : SpinLock → Bool} : KeepsLocks held ops ↔ Balanced held ops :=
  ⟨KeepsLocks.balanced, fun h => ⟨h, h.count_eq⟩⟩

/-- The thread takes a packet with no lock held. -/
def unlocked : SpinLock → Bool := fun _ => false

/-- The receive functions of the queue pairs are entered with `qp->lock` held. -/
def underQpLock : SpinLock → Bool := Function.update unlocked .qp true

/-! ## The receive functions -/

section Receive

variable {held : SpinLock → Bool} (h : held .pd = false)
include h

theorem balanced_pdLocked : Balanced held pdLocked := Balanced.bracket h (balanced_nil _)

/-- A path that either takes nothing or takes the lock around one call. -/
theorem balanced_of_optional (ho : ops = [] ∨ ops = pdLocked) : Balanced held ops := by
  rcases ho with rfl | rfl
  · exact balanced_nil held
  · exact balanced_pdLocked h

end Receive

/-- The invalidation that comes with a SEND is refused. -/
def InvalidateRefused (n : Node) (p : RcPacket) : Prop :=
  ∃ x, sendAtLock n p = some x ∧ x.invalidateFails n = true

theorem sendLocks_of_refused (h : InvalidateRefused n p) : sendLocks n p = [.acquire .pd] := by
  obtain ⟨x, hx, hf⟩ := h
  simp only [sendLocks, hx, hf, if_true]

theorem sendLocks_of_not_refused (h : ¬InvalidateRefused n p) :
    sendLocks n p = [] ∨ sendLocks n p = pdLocked := by
  unfold sendLocks
  cases hx : sendAtLock n p with
  | none => exact Or.inl rfl
  | some x => exact Or.inr (if_neg fun hf => h ⟨x, hx, hf⟩)

theorem sendLocks_balanced_iff {held : SpinLock → Bool} (hpd : held .pd = false) (n : Node)
    (p : RcPacket) : Balanced held (sendLocks n p) ↔ ¬InvalidateRefused n p := by
  constructor
  · intro hb hr
    rw [sendLocks_of_refused hr] at hb
    exact not_balanced_acquire hpd hb
  · intro hr
    exact balanced_of_optional hpd (sendLocks_of_not_refused hr)

theorem writeLocks_optional (n : Node) (p : RcPacket) :
    writeLocks n p = [] ∨ writeLocks n p = pdLocked := by
  unfold writeLocks
  split
  · exact Or.inl rfl
  · simp only [placeWriteLocks]
    split_ifs <;> simp

theorem atomicLocks_optional (n : Node) (p : RcPacket) :
    atomicLocks n p = [] ∨ atomicLocks n p = pdLocked := by
  unfold atomicLocks
  split_ifs <;> simp

theorem readLocks_optional (p : RcPacket) : readLocks p = [] ∨ readLocks p = pdLocked := by
  unfold readLocks
  split_ifs <;> simp

theorem udLocks_optional (port_num : Nat) (n : UdNode) (p : UdPacket) :
    udLocks port_num n p = [] ∨ udLocks port_num n p = pdLocked := by
  unfold udLocks
  split
  · exact Or.inl rfl
  split
  · exact Or.inl rfl
  split_ifs <;> simp

theorem readResponseLocks_optional (q : Qp) (psn : Nat) :
    readResponseLocks q psn = [] ∨ readResponseLocks q psn = pdLocked := by
  unfold readResponseLocks
  split
  · exact Or.inl rfl
  split
  · exact Or.inl rfl
  dsimp only
  split_ifs <;> simp

theorem atomicResponseLocks_optional (q : Qp) (psn : Nat) (buffer : List UInt8) :
    atomicResponseLocks q psn buffer = [] ∨ atomicResponseLocks q psn buffer = pdLocked := by
  unfold atomicResponseLocks
  split
  · exact Or.inl rfl
  split
  · exact Or.inl rfl
  split
  · exact Or.inl rfl
  split_ifs <;> simp

/-! ## A packet for a queue pair -/

/-- The SENDs with an invalidation lie beyond the table of opcodes, so that none of
them is dispatched: a request that is brings no invalidation. -/
theorem not_refused_of_request
    (h : pibOpcodeIsAcknowledge p.opcode = some false) : ¬InvalidateRefused n p := by
  rintro ⟨x, hx, hf⟩
  simp only [SendAtLock.invalidateFails, Bool.and_eq_true] at hf
  have hinv : x.segment.with_inv = true := hf.1.1
  have hs : sendSegment (pmtuOf n.qp.attr.path_mtu) p.opcode = some x.segment := by
    unfold sendAtLock at hx
    split at hx
    · cases hx
    rename_i s hs
    rw [hs]
    dsimp only at hx
    repeat' split at hx
    all_goals first
      | cases hx; done
      | (obtain rfl := Option.some.inj hx; rfl)
  revert hs
  cases ho : p.opcode <;> intro hs <;> rw [ho] at h
  all_goals first
    | (revert h; decide)
    | (obtain hs := Option.some.inj hs; rw [← hs] at hinv; cases hinv)
    | cases hs

theorem executeLocks_optional (hreq : pibOpcodeIsAcknowledge p.opcode = some false)
    (h : executeLocks n p = some ops) : ops = [] ∨ ops = pdLocked := by
  unfold executeLocks at h
  split at h
  all_goals first
    | cases h; done
    | (obtain rfl := Option.some.inj h
       first
         | exact sendLocks_of_not_refused (not_refused_of_request hreq)
         | exact writeLocks_optional n p
         | exact readLocks_optional p
         | exact atomicLocks_optional n p)

theorem requestLocks_optional (hreq : pibOpcodeIsAcknowledge p.opcode = some false)
    (h : requestLocks n p = some ops) : ops = [] ∨ ops = pdLocked := by
  simp only [requestLocks] at h
  split at h
  · exact Or.inl (Option.some.inj h).symm
  split at h
  · split at h
    · obtain rfl := Option.some.inj h
      exact readLocks_optional p
    · exact Or.inl (Option.some.inj h).symm
  split at h
  · cases h
  · exact Or.inl (Option.some.inj h).symm
  · exact executeLocks_optional hreq h

theorem dispatchLocks_optional {q : Qp} {psn : Nat}
    (h : dispatchLocks q psn p = some ops) : ops = [] ∨ ops = pdLocked := by
  unfold dispatchLocks at h
  split at h
  · exact Or.inl (Option.some.inj h).symm
  all_goals first
    | cases h; done
    | (obtain rfl := Option.some.inj h
       first
         | exact readResponseLocks_optional q psn
         | exact atomicResponseLocks_optional q psn _)

theorem responseLocks_optional {q : Qp}
    (h : responseLocks q p = some ops) : ops = [] ∨ ops = pdLocked := by
  simp only [responseLocks] at h
  repeat' split at h
  all_goals first
    | exact dispatchLocks_optional h
    | exact Or.inl (Option.some.inj h).symm

theorem rcLocks_optional {port_num : Nat}
    (h : rcLocks port_num n p = some ops) : ops = [] ∨ ops = pdLocked := by
  unfold rcLocks at h
  split at h
  · exact Or.inl (Option.some.inj h).symm
  split at h
  · exact Or.inl (Option.some.inj h).symm
  split at h
  · cases h
  · exact responseLocks_optional h
  · rename_i hreq
    exact requestLocks_optional hreq h

theorem AnyQp.receiveLocks_optional {port_num : Nat} {x : Incoming} {q : AnyQp} (h : q.receiveLocks port_num x = some ops) : ops = [] ∨ ops = pdLocked := by
  cases q with
  | rc n => exact rcLocks_optional h
  | ud n =>
    obtain rfl := Option.some.inj h
    exact udLocks_optional port_num n _

namespace Hca

/-- The packet finds its queue pair and fails the check of the P_Key. -/
def PkeyRefused (d : Hca) (dlid dest_qp_num pkey : Nat) : Prop :=
  ∃ q, d.lookup dest_qp_num = some (some q) ∧ d.lidPasses dest_qp_num dlid = true ∧
    d.pkeyPasses dest_qp_num pkey q = false

section PerQp

variable {cfg : Config} {now port_num dlid dest_qp_num : Nat} {d d' : Hca} {x : Incoming}
  {ops : List LockOp}

theorem locks_of_pkeyRefused (h : d.PkeyRefused dlid dest_qp_num x.bth.pkey)
    (hret : d.processIncomingMessagePerQp cfg now port_num dlid dest_qp_num x = some (d', ops)) :
    ops = [.acquire .dev] := by
  obtain ⟨q, hq, hlid, hkey⟩ := h
  simp only [processIncomingMessagePerQp, hq, hlid, hkey, Bool.true_eq_false, if_false,
    if_true] at hret
  exact (Prod.mk.inj (Option.some.inj hret)).2.symm

/-- The ways through `process_incoming_message_per_qp` that pass the P_Key. -/
theorem locks_of_not_pkeyRefused (h : ¬d.PkeyRefused dlid dest_qp_num x.bth.pkey)
    (hret : d.processIncomingMessagePerQp cfg now port_num dlid dest_qp_num x = some (d', ops)) :
    ops = [.acquire .dev, .release .dev] ∨
      ∃ locks, (locks = [] ∨ locks = pdLocked) ∧
        ops = .acquire .dev :: .acquire .qp :: .release .dev :: (locks ++ [.release .qp]) := by
  unfold processIncomingMessagePerQp at hret
  split at hret
  · cases hret
  · exact Or.inl (Prod.mk.inj (Option.some.inj hret)).2.symm
  rename_i q hq
  split at hret
  · exact Or.inl (Prod.mk.inj (Option.some.inj hret)).2.symm
  rename_i hlid
  split at hret
  · rename_i hkey
    exact absurd ⟨q, hq, Bool.of_not_eq_false hlid, hkey⟩ h
  · obtain ⟨locks, hlocks, he⟩ := Option.map_eq_some_iff.mp hret
    exact Or.inr ⟨locks, q.receiveLocks_optional hlocks, (Prod.mk.inj he).2.symm⟩

theorem perQp_balanced_iff
    (hret : d.processIncomingMessagePerQp cfg now port_num dlid dest_qp_num x = some (d', ops)) :
    Balanced unlocked ops ↔ ¬d.PkeyRefused dlid dest_qp_num x.bth.pkey := by
  constructor
  · intro hb hr
    rw [locks_of_pkeyRefused hr hret] at hb
    exact not_balanced_acquire rfl hb
  · intro hr
    obtain rfl | ⟨locks, hlocks, rfl⟩ := locks_of_not_pkeyRefused hr hret
    · exact Balanced.bracket rfl (balanced_nil _)
    · exact Balanced.handover rfl rfl (by decide) (balanced_of_optional (by decide) hlocks)

end PerQp

end Hca

/-- The receive functions give back what they take, but for the SEND whose
invalidation is refused; and so does `process_incoming_message_per_qp`, but for
the packet whose P_Key is refused. -/
theorem receive_path_keepsLocks_iff (cfg : Config) (now port_num dlid dest_qp_num : Nat) (n : Node)
    (p : RcPacket) (u : UdNode) (g : UdPacket) (d : Hca) (x : Incoming) :
    (KeepsLocks underQpLock (sendLocks n p) ↔ ¬InvalidateRefused n p) ∧
      KeepsLocks underQpLock (writeLocks n p) ∧
      KeepsLocks underQpLock (atomicLocks n p) ∧
      KeepsLocks underQpLock (readLocks p) ∧
      KeepsLocks underQpLock (udLocks port_num u g) ∧
      ∀ d' ops, d.processIncomingMessagePerQp cfg now port_num dlid dest_qp_num x = some (d', ops) →
        (KeepsLocks unlocked ops ↔ ¬d.PkeyRefused dlid dest_qp_num x.bth.pkey) := by
  have hpd : underQpLock .pd = false := by decide
  simp only [keepsLocks_iff]
  exact ⟨sendLocks_balanced_iff hpd n p, balanced_of_optional hpd (writeLocks_optional n p),
    balanced_of_optional hpd (atomicLocks_optional n p),
    balanced_of_optional hpd (readLocks_optional p),
    balanced_of_optional hpd (udLocks_optional port_num u g),
    fun d' ops hret => Hca.perQp_balanced_iff hret⟩

/-- A queue pair ready to receive into one region, which is no fast-register one. -/
def listening : Node :=
  { qp := { state := .RTR
            responder := { recv_wqe := [
              { wr_id := 1, total_length := 4, sge_array := [⟨4096, 4, 0⟩] }] } }
    pd := { nr_mr := 1
            mr_table := fun i => if i = 0 then some {
              mr_num := 0, lkey := 0, rkey := 0, state := .VALID, start := 4096, length := 64
              access_flags := IB_ACCESS_LOCAL_WRITE
              umem := { page_shift := 6, offset := 0, pages := [some 0] } } else none }
    mem := fun _ => 0 }

/-- A SEND of four bytes that asks to invalidate the region. -/
def strayInvalidate : RcPacket :=
  { opcode := .SEND_ONLY_WITH_INVALIDATE, psn := 0, buffer := [0, 0, 0, 0, 1, 2, 3, 4] }

/-- One queue pair, with number 2, behind a port with the default P_Key. -/
def oneQp : Hca :=
  { port := { lid := 1, pkey_table := fun i => if i = 0 then 0xFFFF else 0 }
    qp_info := fun _ => none
    qp_table := fun i => if i = 2 then some (.rc listening) else none }

/-- A packet for queue pair 2, with the P_Key of a limited member. -/
def foreignPkey : Incoming :=
  { lrh := {}, grh := none, bth := { OpCode := 4, pkey := 0x7FFF }, slid := 2, dlid := 1
    dest_qp_num := 2, buffer := [] }

theorem pkey_and_invalidate_keep_locks :
    sendLocks listening strayInvalidate = [.acquire .pd] ∧
      ¬KeepsLocks underQpLock (sendLocks listening strayInvalidate) ∧
      (oneQp.processIncomingMessagePerQp {} 0 1 1 2 foreignPkey).map Prod.snd =
        some [.acquire .dev] ∧
      ∀ d' ops, oneQp.processIncomingMessagePerQp {} 0 1 1 2 foreignPkey = some (d', ops) →
        ¬KeepsLocks unlocked ops := by
  have hsend : sendLocks listening strayInvalidate = [.acquire .pd] := by decide
  refine ⟨hsend, ?_, rfl, ?_⟩
  · rw [hsend, keepsLocks_iff]
    exact not_balanced_acquire (by decide)
  · intro d' ops hret
    obtain rfl := (Prod.mk.inj (Option.some.inj hret)).2
    rw [keepsLocks_iff]
    exact not_balanced_acquire rfl

end pib
