-- The queue of acknowledges of a responder under `push_acknowledge`: what it has
-- acknowledged it goes on to acknowledge, unless the last acknowledge is overwritten
-- by one for an older packet.
import Pib.RdmaWrite

namespace pib

/-! ## What the queue says -/

/-- A negative acknowledge. -/
def Ack.isNak (a : Ack) : Bool :=
  decide (a.type = .NORMAL) && decide (syndCode a.syndrome ≠ PIB_SYND_ACK_CODE)

/-- The last packet that the acknowledge is about. -/
def Ack.last (a : Ack) : Nat := if a.type = .NORMAL then a.psn else u32Sub a.expected_psn 1

/-- The PSNs that the queue acknowledges, relative to the one that is expected next. -/
def Responder.acknowledged (r : Responder) : List Int :=
  (r.acks.filter fun a => !a.isNak).map fun a => getPsnDiff a.last r.psn

/-- The queue after an acknowledge was pushed is as good as before. -/
structure Responder.NotWeaker (psn syndrome : Nat) (r r' : Responder) : Prop where
  highest : r.acknowledged.maximum ≤ r'.acknowledged.maximum
  kept : ∀ d ∈ r.acknowledged, ∃ d' ∈ r'.acknowledged, d ≤ d'
  naks : r.acks.filter Ack.isNak <+: r'.acks.filter Ack.isNak
  queued : syndCode syndrome ≠ PIB_SYND_ACK_CODE →
    (∃ a, r'.acks = r.acks ++ [a] ∧ a.type = .NORMAL ∧ a.psn = psn ∧ a.syndrome = syndrome) ∨
    ∃ a, r.acks.getLast? = some a ∧ a.type = .NORMAL ∧ a.psn = psn ∧ a.syndrome = syndrome

/-- The push is no loss: a positive acknowledge that takes the place of the last one is
not older, or another entry makes up for it; an RNR NAK that is left out is the same as
the last one. -/
def Responder.Lossless (psn syndrome : Nat) (r : Responder) : Prop :=
  ∀ last ∈ r.acks.getLast?,
    (coalesces last syndrome PIB_SYND_ACK_CODE = true →
      getPsnDiff last.psn r.psn ≤ getPsnDiff psn r.psn ∨
        ∃ a ∈ r.acks.dropLast, a.isNak = false ∧
          getPsnDiff last.psn r.psn ≤ getPsnDiff a.last r.psn) ∧
    (coalesces last syndrome PIB_SYND_RNR_NAK_CODE = true →
      last.psn = psn ∧ last.syndrome = syndrome)

/-! ## The cases of `push_acknowledge` -/

section Push

variable {r : Responder} {psn syndrome : Nat}

theorem coalesces_iff {last : Ack} {code : Nat} : coalesces last syndrome code = true ↔
    last.type = .NORMAL ∧ syndCode syndrome = code ∧ syndCode last.syndrome = code := by
  simp [coalesces, and_assoc]

theorem acknowledged_append (r : Responder) (acks : List Ack) :
    Responder.acknowledged { r with acks := r.acks ++ acks } =
      r.acknowledged ++ Responder.acknowledged { r with acks } := by
  simp [Responder.acknowledged]

/-- `highest` says no more than `kept`. -/
theorem maximum_le_of_kept {l l' : List Int} (h : ∀ d ∈ l, ∃ d' ∈ l', d ≤ d') :
    l.maximum ≤ l'.maximum := by
  refine List.maximum_le_of_forall_le fun d hd => ?_
  obtain ⟨d', hd', hle⟩ := h d hd
  exact (WithBot.coe_le_coe.mpr hle).trans (List.le_maximum_of_mem' hd')

/-- An acknowledge at the end of the queue weakens nothing. -/
theorem notWeaker_append (r : Responder) (psn syndrome : Nat) :
    r.NotWeaker psn syndrome (appendAck r psn syndrome) := by
  have hkept : ∀ d ∈ r.acknowledged, ∃ d' ∈ (appendAck r psn syndrome).acknowledged, d ≤ d' := by
    intro d hd
    refine ⟨d, ?_, le_refl d⟩
    exact (acknowledged_append r _).symm ▸ List.mem_append_left _ hd
  refine ⟨maximum_le_of_kept hkept, hkept, ?_, fun _ => Or.inl ⟨_, rfl, rfl, rfl, rfl⟩⟩
  rw [appendAck, List.filter_append]
  exact List.prefix_append _ _

/-- The three cases of `push_acknowledge`. -/
theorem pushOrCoalesce_cases (r : Responder) (psn syndrome : Nat) :
    (pushOrCoalesce r psn syndrome = appendAck r psn syndrome ∧
      ∀ last ∈ r.acks.getLast?, coalesces last syndrome PIB_SYND_ACK_CODE = false ∧
        coalesces last syndrome PIB_SYND_RNR_NAK_CODE = false) ∨
    ∃ last, r.acks.getLast? = some last ∧
      ((coalesces last syndrome PIB_SYND_RNR_NAK_CODE = true ∧ pushOrCoalesce r psn syndrome = r) ∨
        (coalesces last syndrome PIB_SYND_ACK_CODE = true ∧
          pushOrCoalesce r psn syndrome = { r with
            acks := r.acks.dropLast ++ [{ last with psn, expected_psn := u32 (psn + 1) }] })) := by
  unfold pushOrCoalesce
  cases hl : r.acks.getLast? with
  | none => exact Or.inl ⟨rfl, fun last h => nomatch h⟩
  | some last =>
    dsimp only
    split
    · rename_i h
      exact Or.inr ⟨last, rfl, Or.inl ⟨h, rfl⟩⟩
    rename_i hr
    split
    · rename_i h
      exact Or.inr ⟨last, rfl, Or.inr ⟨h, rfl⟩⟩
    rename_i ha
    refine Or.inl ⟨rfl, fun l h => ?_⟩
    obtain rfl := Option.some.inj h
    exact ⟨Bool.of_not_eq_true ha, Bool.of_not_eq_true hr⟩

/-- The two codes are different. -/
theorem not_both_coalesce {last : Ack} (h : coalesces last syndrome PIB_SYND_ACK_CODE = true) :
    coalesces last syndrome PIB_SYND_RNR_NAK_CODE = false := by
  rw [coalesces_iff] at h
  refine Bool.of_not_eq_true fun h' => ?_
  rw [coalesces_iff] at h'
  exact absurd (h.2.1.symm.trans h'.2.1) (by decide)

/-- The last acknowledge is overwritten: nothing is lost when the new one is not older,
or when another entry makes up for the old one. -/
theorem notWeaker_overwrite_iff {last : Ack} (hl : r.acks.getLast? = some last)
    (hc : coalesces last syndrome PIB_SYND_ACK_CODE = true) :
    r.NotWeaker psn syndrome { r with
        acks := r.acks.dropLast ++ [{ last with psn, expected_psn := u32 (psn + 1) }] } ↔
      getPsnDiff last.psn r.psn ≤ getPsnDiff psn r.psn ∨
        ∃ a ∈ r.acks.dropLast, a.isNak = false ∧
          getPsnDiff last.psn r.psn ≤ getPsnDiff a.last r.psn := by
  obtain ⟨htype, hsynd, hlast⟩ := coalesces_iff.mp hc
  have hsplit : r.acks = r.acks.dropLast ++ [last] := (List.dropLast_append_getLast? last hl).symm
  -- the last entry is positive before and after
  have hone : ∀ p e, Ack.isNak { last with psn := p, expected_psn := e } = false := by
    simp [Ack.isNak, hlast]
  have hold : r.acknowledged = Responder.acknowledged { r with acks := r.acks.dropLast } ++
      [getPsnDiff last.psn r.psn] := by
    have hnak : last.isNak = false := hone last.psn last.expected_psn
    conv_lhs => rw [Responder.acknowledged, hsplit]
    simp [Responder.acknowledged, List.filter_append, hnak, Ack.last, htype]
  have hnew : Responder.acknowledged { r with
        acks := r.acks.dropLast ++ [{ last with psn, expected_psn := u32 (psn + 1) }] } =
      Responder.acknowledged { r with acks := r.acks.dropLast } ++ [getPsnDiff psn r.psn] := by
    simp [Responder.acknowledged, List.filter_append, Ack.isNak, hlast, Ack.last, htype]
  constructor
  · intro h
    obtain ⟨d', hd', hle⟩ := h.kept (getPsnDiff last.psn r.psn) (by rw [hold]; simp)
    rw [hnew, List.mem_append, List.mem_singleton] at hd'
    rcases hd' with hd' | rfl
    · obtain ⟨a, ha, rfl⟩ := List.mem_map.mp hd'
      obtain ⟨ha, hn⟩ := List.mem_filter.mp ha
      exact Or.inr ⟨a, ha, by simpa using hn, hle⟩
    · exact Or.inl hle
  · intro h
    have hkept : ∀ d ∈ r.acknowledged, ∃ d' ∈ Responder.acknowledged { r with
        acks := r.acks.dropLast ++ [{ last with psn, expected_psn := u32 (psn + 1) }] },
        d ≤ d' := by
      intro d hd
      rw [hold, List.mem_append, List.mem_singleton] at hd
      rw [hnew]
      rcases hd with hd | rfl
      · exact ⟨d, List.mem_append_left _ hd, le_refl d⟩
      rcases h with hle | ⟨a, ha, hn, hle⟩
      · exact ⟨_, List.mem_append_right _ (List.mem_singleton_self _), hle⟩
      · refine ⟨getPsnDiff a.last r.psn, List.mem_append_left _ ?_, hle⟩
        exact List.mem_map.mpr ⟨a, List.mem_filter.mpr ⟨ha, by simp [hn]⟩, rfl⟩
    refine ⟨maximum_le_of_kept hkept, hkept, ?_, fun hne => absurd hsynd hne⟩
    have hnak : last.isNak = false := hone last.psn last.expected_psn
    conv_lhs => rw [hsplit]
    simp [List.filter_append, hnak, hone]

theorem notWeaker_left_iff {last : Ack} (hl : r.acks.getLast? = some last)
    (hc : coalesces last syndrome PIB_SYND_RNR_NAK_CODE = true) :
    r.NotWeaker psn syndrome r ↔ last.psn = psn ∧ last.syndrome = syndrome := by
  obtain ⟨htype, hsynd, -⟩ := coalesces_iff.mp hc
  constructor
  · intro h
    have hne : syndCode syndrome ≠ PIB_SYND_ACK_CODE := by
      rw [hsynd]
      decide
    rcases h.queued hne with ⟨a, ha, -⟩ | ⟨a, ha, -, hp, hs⟩
    · exact absurd (congrArg List.length ha) (by simp)
    · obtain rfl := Option.some.inj (hl.symm.trans ha)
      exact ⟨hp, hs⟩
  · rintro ⟨hp, hs⟩
    exact ⟨le_refl _, fun d hd => ⟨d, hd, le_refl d⟩, List.prefix_refl _,
      fun _ => Or.inr ⟨last, hl, htype, hp, hs⟩⟩

end Push

/-- `push_acknowledge` weakens the queue exactly when it is a loss, whatever is in the
queue and whatever is pushed. -/
theorem pushAcknowledge_notWeaker_iff (q : Qp) (psn syndrome : Nat) :
    q.responder.NotWeaker psn syndrome (pushAcknowledge q psn syndrome).responder ↔
      q.responder.Lossless psn syndrome := by
  change q.responder.NotWeaker psn syndrome (pushOrCoalesce q.responder psn syndrome) ↔ _
  unfold Responder.Lossless
  rcases pushOrCoalesce_cases q.responder psn syndrome with
    ⟨he, hno⟩ | ⟨last, hl, ⟨hc, he⟩ | ⟨hc, he⟩⟩ <;> rw [he]
  · refine ⟨fun _ last hl => ?_, fun _ => notWeaker_append _ _ _⟩
    obtain ⟨h1, h2⟩ := hno last hl
    rw [h1, h2]
    exact ⟨nofun, nofun⟩
  · have hack : coalesces last syndrome PIB_SYND_ACK_CODE = false := by
      refine Bool.of_not_eq_true fun h => ?_
      rw [not_both_coalesce h] at hc
      cases hc
    rw [notWeaker_left_iff hl hc, hl]
    simp [hack, hc]
  · rw [notWeaker_overwrite_iff hl hc, hl]
    simp [hc, not_both_coalesce hc]

/-- Four bytes for the region, under this PSN. -/
def writeFour (psn : Nat) : RcPacket :=
  { opcode := .RDMA_WRITE_ONLY, psn, buffer := Reth.encode ⟨0x1000, 0, 4⟩ ++ [1, 2, 3, 4] }

/-- A responder that expects PSN 5. -/
def expectsFive : Node :=
  Run.run (step {} ibStateTable) (created {} {} none writePd fun _ => 0)
    (bringUp { rq_psn := 5, path_mtu := 1, port_num := 1 })

/-- The packets 5 and 6 are written and wait to be acknowledged when packet 5 comes
again: then only packet 5 is acknowledged. -/
theorem duplicate_lowers_acknowledge :
    let arrive := fun n psn => step {} ibStateTable n (1, .receive 1 (writeFour psn))
    let n := arrive (arrive expectsFive 5) 6
    n.qp.responder.psn = 7 ∧ n.qp.responder.acknowledged = [-1] ∧
      (arrive n 5).qp.responder.psn = 7 ∧ (arrive n 5).qp.responder.acknowledged = [-2] := by
  decide

end pib
