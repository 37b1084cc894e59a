-- A retried RDMA READ in the queue of acknowledges: the entries that its response
-- makes superfluous are cut off, and the queue stays in the order of PSNs.
import Pib.Responder

namespace pib

/-! ## Positions -/

/-- How far a PSN is behind the base, in the circle of 24 bits. -/
def psnPos (base psn : Nat) : Nat := (psn + (PSN_MOD - base % PSN_MOD)) % PSN_MOD

/-- The acknowledge is for a part of the request `[r.1, r.2)`. -/
def Ack.PartOf (base : Nat) (a : Ack) (r : Nat × Nat) : Prop :=
  psnPos base r.1 ≤ psnPos base a.psn ∧ psnPos base a.psn < psnPos base a.expected_psn ∧
    psnPos base a.expected_psn ≤ psnPos base r.2

instance (base : Nat) (a : Ack) (r : Nat × Nat) : Decidable (a.PartOf base r) :=
  inferInstanceAs (Decidable (_ ∧ _))

/-- The ranges of the acknowledges are disjoint and increase. -/
def AcksOrdered (base : Nat) (acks : List Ack) : Prop :=
  acks.Pairwise fun a b => psnPos base a.expected_psn ≤ psnPos base b.psn

/-- Requests of less than half the PSN space, and a queue of acknowledges for them. -/
structure QueuedFor (base : Nat) (reqs : List (Nat × Nat)) (acks : List Ack) : Prop where
  span : ∀ r ∈ reqs, psnPos base r.1 < psnPos base r.2 ∧ psnPos base r.2 < 2 ^ 23
  disjoint : reqs.Pairwise fun r s => psnPos base r.2 ≤ psnPos base s.1
  parts : ∀ a ∈ acks, ∃ r ∈ reqs, a.PartOf base r
  ordered : AcksOrdered base acks

theorem getPsnDiff_pos {base x y : Nat} (hx : psnPos base x < 2 ^ 23) (hy : psnPos base y < 2 ^ 23) :
    getPsnDiff x y = (psnPos base x : Int) - psnPos base y := by
  have hpos : ∀ z : Nat, (z : Int) % 2 ^ 24 = ((base : Int) + psnPos base z) % 2 ^ 24 := by
    intro z
    unfold psnPos PSN_MOD
    omega
  rw [getPsnDiff_eq (hpos x) (hpos y) (by omega) (by omega)]
  omega

/-! ## The cut -/

variable {base psn expected_psn : Nat} {reqs : List (Nat × Nat)} {r : Nat × Nat} {acks : List Ack}

/-- Requests that share a position are the same. -/
theorem QueuedFor.eq_of_shared (h : QueuedFor base reqs acks) {s : Nat × Nat} {x : Nat}
    (hr : r ∈ reqs) (hs : s ∈ reqs) (hrx : psnPos base r.1 ≤ x ∧ x < psnPos base r.2)
    (hsx : psnPos base s.1 ≤ x ∧ x < psnPos base s.2) : r = s := by
  by_contra hne
  have hd := @List.Pairwise.forall _ (fun r s => psnPos base r.2 ≤ psnPos base s.1 ∨
    psnPos base s.2 ≤ psnPos base r.1) _ ⟨fun _ _ => Or.symm⟩ (h.disjoint.imp Or.inl) _ hr _ hs hne
  omega

/-- Of the entries for requests in sequence, the cut spares those that end before the
retried part. -/
theorem QueuedFor.overlapsRead_iff (h : QueuedFor base reqs acks) (hr : r ∈ reqs)
    (hpsn : psnPos base r.1 ≤ psnPos base psn ∧ psnPos base psn < psnPos base r.2)
    (he : psnPos base expected_psn = psnPos base r.2) {a : Ack} (ha : a ∈ acks) :
    overlapsRead psn expected_psn a = true ↔ ¬psnPos base a.expected_psn ≤ psnPos base psn := by
  obtain ⟨s, hs, h1, h2, h3⟩ := h.parts a ha
  have hspan := h.span r hr
  have hspan' := h.span s hs
  -- an entry around the position of the retry is for the same request and ends with it
  have hsame : psnPos base a.psn ≤ psnPos base psn → psnPos base psn < psnPos base a.expected_psn →
      psnPos base a.expected_psn ≤ psnPos base r.2 := by
    intro hle hlt
    have := h.eq_of_shared hr hs hpsn ⟨h1.trans hle, hlt.trans_le h3⟩
    rw [this]
    exact h3
  have hp : psnPos base psn < 2 ^ 23 := by omega
  have he' : psnPos base expected_psn < 2 ^ 23 := by omega
  have ha₁ : psnPos base a.psn < 2 ^ 23 := by omega
  have ha₂ : psnPos base a.expected_psn < 2 ^ 23 := by omega
  unfold overlapsRead
  rw [getPsnDiff_pos ha₁ hp, getPsnDiff_pos ha₁ he', getPsnDiff_pos ha₂ hp, getPsnDiff_pos ha₂ he']
  simp only [Bool.or_eq_true, Bool.and_eq_true, decide_eq_true_eq]
  by_cases hle : psnPos base a.psn ≤ psnPos base psn
  · by_cases hlt : psnPos base psn < psnPos base a.expected_psn
    · have := hsame hle hlt
      omega
    · omega
  · omega

/-- The response to a retried RDMA READ takes the place of what is queued from its first
PSN on, in a queue that stays in order. -/
theorem retried_read_cuts {q : Qp} (psn expected_psn vaddress rkey size : Nat)
    (h : QueuedFor base reqs q.responder.acks) (hr : r ∈ reqs)
    (hpsn : psnPos base r.1 ≤ psnPos base psn ∧ psnPos base psn < psnPos base r.2)
    (he : psnPos base expected_psn = psnPos base r.2) :
    let before := fun a : Ack => decide (psnPos base a.expected_psn ≤ psnPos base psn)
    let q' := pushRdmaReadAcknowledge (removeOverlappedRdmaReadAcknowledge q psn expected_psn) psn
      expected_psn vaddress rkey size
    q'.responder.acks = q.responder.acks.filter before ++
        [{ type := .RDMA_READ, psn, expected_psn, vaddress, rkey, size }] ∧
      AcksOrdered base q'.responder.acks ∧
      q'.responder.nr_rd_atomic = q.responder.nr_rd_atomic -
        ((q.responder.acks.filter fun a => !before a).countP Ack.isRdAtomic : Nat) + 1 := by
  intro before q'
  have hcut : ∀ a ∈ q.responder.acks, overlapsRead psn expected_psn a = !before a := by
    intro a ha
    rw [Bool.eq_iff_iff, h.overlapsRead_iff hr hpsn he ha]
    simp [before]
  have hacks : q'.responder.acks = q.responder.acks.filter before ++
      [{ type := .RDMA_READ, psn, expected_psn, vaddress, rkey, size }] := by
    refine congrArg (· ++ _) (List.filter_congr fun a ha => ?_)
    rw [hcut a ha, Bool.not_not]
  refine ⟨hacks, ?_, ?_⟩
  · rw [hacks]
    refine List.pairwise_append.mpr ⟨h.ordered.filter _, List.pairwise_singleton .., ?_⟩
    intro a ha b hb
    obtain rfl := List.mem_singleton.mp hb
    exact of_decide_eq_true (List.mem_filter.mp ha).2
  · rw [← List.filter_congr hcut]
    rfl

/-- A READ of three packets across the end of the PSN space, asked for again from its
second packet on while it and an acknowledge before it are queued. -/
theorem retried_read_cuts_wrapped :
    let q : Qp := { responder := { nr_rd_atomic := 1, acks :=
      [{ type := .NORMAL, psn := 0xfffffe, expected_psn := 0xffffff },
       { type := .RDMA_READ, psn := 0xffffff, expected_psn := 2 }] } }
    let q' := pushRdmaReadAcknowledge (removeOverlappedRdmaReadAcknowledge q 0 2) 0 2 0 0 0
    q'.responder.acks.map (·.psn) = [0xfffffe, 0] ∧ q'.responder.nr_rd_atomic = 1 ∧
      AcksOrdered 0xfffffe q'.responder.acks := by
  intro q
  have h : QueuedFor 0xfffffe [(0xfffffe, 0xffffff), (0xffffff, 2)] q.responder.acks :=
    ⟨by decide, by decide, by decide, by unfold AcksOrdered; decide⟩
  exact ⟨by decide, by decide,
    (retried_read_cuts (r := (0xffffff, 2)) 0 2 0 0 0 h (by decide) (by decide) rfl).2.1⟩

end pib
