-- The two ends agree on how a message is cut into packets: the number that the
-- requester counts, the slices that it takes, and the sizes that the responder
-- asks of a FIRST, MIDDLE, LAST and ONLY packet.
import Pib.SendQueue

namespace pib

variable {k : Nat}

/-! ## The number of packets -/

/-- The packets of a message: as many full ones as it takes, and at least one. -/
theorem pibGetNumOfPackets_eq (qp_type : QpType) (path_mtu length : Nat) :
    pibGetNumOfPackets qp_type path_mtu length =
      max 1 ((length + pmtuOf (packetMtu qp_type path_mtu) - 1) /
        pmtuOf (packetMtu qp_type path_mtu)) := by
  change pibGetNumOfPackets .RC (packetMtu qp_type path_mtu) length = _
  generalize packetMtu qp_type path_mtu = mtu
  have hpos : 0 < pmtuOf mtu := by unfold pmtuOf; positivity
  have hle := le_mul_pmtuOf mtu length
  have hn := pibGetNumOfPackets_pos .RC mtu length
  rcases Nat.eq_zero_or_pos length with rfl | hlen
  · have hone : pibGetNumOfPackets .RC mtu 0 = 1 := by simp [pibGetNumOfPackets]
    rw [hone, Nat.zero_add, Nat.div_eq_of_lt (by omega)]
    rfl
  obtain ⟨k, hk⟩ : ∃ k, pibGetNumOfPackets .RC mtu length = k + 1 := ⟨_, (Nat.sub_add_cancel hn).symm⟩
  have hlt : k * pmtuOf mtu < length := by
    rcases Nat.eq_zero_or_pos k with rfl | h
    · simpa using hlen
    · exact mul_pmtuOf_lt (by omega) h
  rw [hk, Nat.add_mul, Nat.one_mul] at hle
  have hdiv : (length + pmtuOf mtu - 1) / pmtuOf mtu = k + 1 := by
    refine Nat.div_eq_of_lt_le ?_ ?_ <;> simp only [Nat.add_mul, Nat.one_mul] <;> omega
  rw [hk, hdiv]
  omega

/-- The packets do not hold a whole packet more than the message. -/
theorem mul_pmtuOf_lt_add (path_mtu : Nat) {length : Nat} :
    pibGetNumOfPackets .RC path_mtu length * pmtuOf path_mtu ≤ length + pmtuOf path_mtu := by
  obtain ⟨k, hk⟩ : ∃ k, pibGetNumOfPackets .RC path_mtu length = k + 1 :=
    ⟨_, (Nat.sub_add_cancel (pibGetNumOfPackets_pos .RC path_mtu length)).symm⟩
  have hle := @mul_pmtuOf_le k path_mtu length (by omega)
  rw [hk, Nat.add_mul, Nat.one_mul]
  omega

/-! ## The slices -/

/-- The offsets in the message of the bytes of packet `k`. -/
def slice (q : Qp) (w : SendWqe) (k : Nat) : List Nat :=
  List.range' (mrOffset q (w.setSent k)) (payloadSize q (w.setSent k))

/-- The bounds that the responder has for the payload of a packet. -/
def segmentOf (pmtu : Nat) (opcode : OpCode) : Option Segment :=
  (sendSegment pmtu opcode).orElse fun _ => writeSegment pmtu opcode

/-- The opcode of a position asks for a full packet unless the message ends there, and
for a byte at least unless it also begins there. -/
theorem segmentOf_dataOpcode (pmtu : Nat) {pos : Position} {o : WrOpcode} {opcode : OpCode}
    (h : dataOpcode pos o = some opcode) : ∃ s, segmentOf pmtu opcode = some s ∧ s.max = pmtu ∧
      s.min = if pos.isEnd then (if pos.isStart then 0 else 1) else pmtu := by
  cases o <;> cases h <;> cases pos <;> exact ⟨_, rfl, rfl, rfl⟩

section Slices

variable {q : Qp} {w : SendWqe} (hlen : w.total_length ≤ PIB_MAX_PAYLOAD_LEN)
  (hall : w.processing.all_packets = pibGetNumOfPackets .RC q.attr.path_mtu w.total_length)
include hlen hall

theorem slice_eq (hk : k < w.processing.all_packets) :
    slice q w k = List.range' (k * pmtuOf q.attr.path_mtu)
      (if k + 1 = w.processing.all_packets then w.total_length - k * pmtuOf q.attr.path_mtu
        else pmtuOf q.attr.path_mtu) := by
  have hoff := @mrOffset_eq q (w.setSent k) hlen hall hk
  have hsize := @payloadSize_eq q (w.setSent k) hlen hall hk
  rw [slice, hoff, hsize]
  rfl

/-- The slices of the first packets come one after the other. -/
theorem slices_prefix (hk : k < w.processing.all_packets) :
    (List.range k).flatMap (slice q w) = List.range (k * pmtuOf q.attr.path_mtu) := by
  induction k with
  | zero => simp
  | succ k ih =>
    rw [List.range_succ, List.flatMap_append, ih (by omega), List.flatMap_singleton,
      slice_eq hlen hall (by omega), if_neg (by omega), List.range_eq_range', List.range_eq_range',
      Nat.succ_mul, ← List.range'_append_1, Nat.zero_add]

theorem slices_eq : (List.range w.processing.all_packets).flatMap (slice q w) =
    List.range w.total_length := by
  have hpos := pibGetNumOfPackets_pos .RC q.attr.path_mtu w.total_length
  obtain ⟨k, hk⟩ : ∃ k, w.processing.all_packets = k + 1 := ⟨w.processing.all_packets - 1, by omega⟩
  have hle := @mul_pmtuOf_le k q.attr.path_mtu w.total_length (by omega)
  rw [hk, List.range_succ, List.flatMap_append, slices_prefix hlen hall (by omega),
    List.flatMap_singleton, slice_eq hlen hall (by omega), if_pos hk.symm, List.range_eq_range',
    List.range_eq_range']
  have happ := @List.range'_append_1 0 (k * pmtuOf q.attr.path_mtu)
    (w.total_length - k * pmtuOf q.attr.path_mtu)
  rw [Nat.zero_add, Nat.add_sub_of_le hle] at happ
  exact happ

theorem payloadSize_slice (hk : k < w.processing.all_packets) :
    (k + 1 < w.processing.all_packets → payloadSize q (w.setSent k) = pmtuOf q.attr.path_mtu) ∧
      (k + 1 = w.processing.all_packets → payloadSize q (w.setSent k) ≤ pmtuOf q.attr.path_mtu ∧
        (payloadSize q (w.setSent k) = 0 → w.total_length = 0)) := by
  have hsize : payloadSize q (w.setSent k) = if k + 1 = w.processing.all_packets then
      w.total_length - k * pmtuOf q.attr.path_mtu else pmtuOf q.attr.path_mtu :=
    @payloadSize_eq q (w.setSent k) hlen hall hk
  have hle := le_mul_pmtuOf q.attr.path_mtu w.total_length
  refine ⟨fun h => by rw [hsize, if_neg h.ne], fun h => ?_⟩
  rw [hsize, if_pos h]
  rw [← hall, ← h, Nat.add_mul, Nat.one_mul] at hle
  refine ⟨by omega, fun hz => ?_⟩
  rcases Nat.eq_zero_or_pos k with rfl | hpos
  · simpa using hz
  · have hlt := mul_pmtuOf_lt (hall ▸ hk) hpos
    omega

/-- Where packet `k` stands. -/
theorem position_slice (hk : k < w.processing.all_packets) :
    (positionOf (w.setSent k).processing).isStart = decide (k = 0) ∧
      (positionOf (w.setSent k).processing).isEnd = decide (k + 1 = w.processing.all_packets) := by
  have hlt := pibGetNumOfPackets_lt .RC q.attr.path_mtu hlen
  have hu : u32 (k + 1) = k + 1 := Nat.mod_eq_of_lt (by omega)
  simp only [positionOf, SendWqe.setSent, hu]
  by_cases hone : w.processing.all_packets = 1
  · simp [hone, Position.isStart, Position.isEnd]
    omega
  by_cases hzero : k = 0
  · simp [hone, hzero, Position.isStart, Position.isEnd]
    omega
  by_cases hlast : w.processing.all_packets = k + 1
  · simp [hlast, hzero, Position.isStart, Position.isEnd]
  · simp [hone, hzero, hlast, Ne.symm hlast, Position.isStart, Position.isEnd]

end Slices

/-- A message of any length is cut into as many packets as counted, whose slices are the
message in order, and each of them has a size that the responder takes for its opcode. -/
theorem segmentation_agrees {q : Qp} {w : SendWqe} (hmtu : q.attr.path_mtu ≤ 5)
    (hlen : w.total_length ≤ PIB_MAX_PAYLOAD_LEN)
    (hall : w.processing.all_packets = pibGetNumOfPackets .RC q.attr.path_mtu w.total_length) :
    (∀ qp_type, pibGetNumOfPackets qp_type q.attr.path_mtu w.total_length =
      max 1 ((w.total_length + pmtuOf (packetMtu qp_type q.attr.path_mtu) - 1) /
        pmtuOf (packetMtu qp_type q.attr.path_mtu))) ∧
    w.processing.all_packets * pmtuOf q.attr.path_mtu < 2 ^ 32 ∧
    (List.range w.processing.all_packets).flatMap (slice q w) = List.range w.total_length ∧
    ∀ k < w.processing.all_packets,
      (k + 1 < w.processing.all_packets → payloadSize q (w.setSent k) = pmtuOf q.attr.path_mtu) ∧
      (k + 1 = w.processing.all_packets → payloadSize q (w.setSent k) ≤ pmtuOf q.attr.path_mtu ∧
        (payloadSize q (w.setSent k) = 0 → w.total_length = 0)) ∧
      ∀ o opcode, dataOpcode (positionOf (w.setSent k).processing) o = some opcode →
        ∃ s, segmentOf (pmtuOf q.attr.path_mtu) opcode = some s ∧
          s.min ≤ payloadSize q (w.setSent k) ∧ payloadSize q (w.setSent k) ≤ s.max := by
  refine ⟨fun qp_type => pibGetNumOfPackets_eq qp_type _ _, ?_, slices_eq hlen hall, fun k hk => ?_⟩
  · have hle := @mul_pmtuOf_lt_add q.attr.path_mtu w.total_length
    have hpmtu : pmtuOf q.attr.path_mtu ≤ 128 * 2 ^ 5 :=
      Nat.mul_le_mul_left _ (Nat.pow_le_pow_right (by decide) hmtu)
    unfold PIB_MAX_PAYLOAD_LEN at hlen
    rw [hall]
    omega
  · obtain ⟨hfull, hlast⟩ := payloadSize_slice hlen hall hk
    refine ⟨hfull, hlast, fun o opcode ho => ?_⟩
    obtain ⟨s, hs, hmax, hmin⟩ := segmentOf_dataOpcode (pmtuOf q.attr.path_mtu) ho
    refine ⟨s, hs, ?_⟩
    rw [hmax, hmin, (position_slice hlen hall hk).1, (position_slice hlen hall hk).2]
    by_cases hend : k + 1 = w.processing.all_packets
    · obtain ⟨hle, hzero⟩ := hlast hend
      refine ⟨?_, hle⟩
      simp only [hend, decide_true, if_true, decide_eq_true_eq]
      split
      · exact Nat.zero_le _
      rename_i hstart
      refine Nat.pos_of_ne_zero fun hz => hstart ?_
      have hone : w.processing.all_packets = 1 := by
        rw [hall, hzero hz]
        simp [pibGetNumOfPackets]
      omega
    · rw [hfull (by omega)]
      simp [hend]

/-- 600 bytes in packets of 256. -/
theorem segmentation_agrees_three :
    (List.range 3).flatMap (slice { attr := { path_mtu := 1 } }
      { trace_id := 0, total_length := 600, processing := { all_packets := 3 } }) = List.range 600 :=
  (segmentation_agrees (q := { attr := { path_mtu := 1 } })
    (w := { trace_id := 0, total_length := 600, processing := { all_packets := 3 } })
    (by decide) (by decide) (by decide)).2.2.1

end pib
