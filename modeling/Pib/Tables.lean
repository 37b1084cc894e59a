-- The helpers of `pib_lib.c` that the RC transport uses: the opcode
-- attributes, packet counts and timer tables, and the PSN comparison of
-- `pib_rc.c`, with the laws that the later files reason by.
import Pib.Lib.Serial
import Pib.Types

namespace pib

/-! ## Sequence numbers -/

/-- `get_psn_diff`: the low 24 bits of the difference, sign extended. -/
def getPsnDiff (psn based_psn : Nat) : Int :=
  (((BitVec.ofNat 32 psn - BitVec.ofNat 32 based_psn) <<< 8).sshiftRight 8).toInt

/-- The shifts compute the signed serial-number difference modulo `2 ^ 24`. -/
theorem getPsnDiff_eq_sdiff (psn based_psn : Nat) :
    getPsnDiff psn based_psn = Serial.sdiff (2 ^ 23) psn based_psn := by
  unfold getPsnDiff Serial.sdiff
  rw [BitVec.toInt_sshiftRight, Int.shiftRight_eq_div_pow]
  have h : ((BitVec.ofNat 32 psn - BitVec.ofNat 32 based_psn) <<< 8).toInt =
      Int.bmod (((psn : Int) - based_psn) * 256) (2 ^ 32) := by
    rw [BitVec.toInt_shiftLeft, Nat.shiftLeft_eq]
    simp only [BitVec.toNat_sub, BitVec.toNat_ofNat]
    have e : (((2 ^ 32 - based_psn % 2 ^ 32 + psn % 2 ^ 32) % 2 ^ 32 * 2 ^ 8 : Nat) : Int) %
        (2 ^ 32 : Nat) = (((psn : Int) - based_psn) * 256) % (2 ^ 32 : Nat) := by
      push_cast
      omega
    rw [← Int.emod_bmod, e, Int.emod_bmod]
  rw [h, Int.bmod_def, Int.bmod_def]
  push_cast
  omega

/-- Two PSNs less than `2 ^ 23` apart are compared as they are. -/
theorem getPsnDiff_eq {p b : Nat} {P B : Int} (hp : (p : Int) % 2 ^ 24 = P % 2 ^ 24)
    (hb : (b : Int) % 2 ^ 24 = B % 2 ^ 24) (h1 : -2 ^ 23 ≤ P - B) (h2 : P - B < 2 ^ 23) :
    getPsnDiff p b = P - B := by
  rw [getPsnDiff_eq_sdiff]
  exact Serial.sdiff_eq hp hb h1 h2

theorem getPsnDiff_zero {p b : Nat} (h : p % 2 ^ 24 = b % 2 ^ 24) : getPsnDiff p b = 0 := by
  have hd := getPsnDiff_eq (p := p) (b := b) (P := b) (B := b) (by omega) rfl (by norm_num)
    (by norm_num)
  rw [hd, sub_self]

theorem getPsnDiff_emod (p b : Nat) : getPsnDiff p b % 2 ^ 24 = ((p : Int) - b) % 2 ^ 24 := by
  rw [getPsnDiff_eq_sdiff]
  exact Serial.sdiff_emod (2 ^ 23) p b

theorem getPsnDiff_bounds (p b : Nat) : -2 ^ 23 ≤ getPsnDiff p b ∧ getPsnDiff p b < 2 ^ 23 := by
  rw [getPsnDiff_eq_sdiff]
  exact Serial.sdiff_bounds (by norm_num) p b

/-! ## Syndromes of an acknowledge extended transport header -/

def PIB_SYND_ACK_CODE : Nat := 0x00
def PIB_SYND_RNR_NAK_CODE : Nat := 0x20
def PIB_SYND_NAK_CODE_PSN_SEQ_ERR : Nat := 0x60
def PIB_SYND_NAK_CODE_INV_REQ_ERR : Nat := 0x61
def PIB_SYND_NAK_CODE_REM_ACCESS_ERR : Nat := 0x62
def PIB_SYND_NAK_CODE_REM_OP_ERR : Nat := 0x63
def PIB_SYND_NAK_CODE_INV_RD_REQ_ERR : Nat := 0x64

/-- `syndrome & PIB_SYND_CODE_MASK`: the three high bits of the byte. -/
def syndCode (syndrome : Nat) : Nat := syndrome % 256 / 32 * 32

/-! ## Opcodes -/

/-- `attr_OpCode`: the starting, middle, ending and acknowledge bits. -/
structure OpCodeAttr where
  starting : Bool := false
  middle : Bool := false
  ending : Bool := false
  acknowledge : Bool := false
  deriving DecidableEq, Repr

/-- An entry of the table `attr_OpCode`. The table ends with `FETCH_ADD`:
there is no entry for a larger opcode. -/
def attrOpCode : OpCode → Option OpCodeAttr
  | .SEND_FIRST | .RDMA_WRITE_FIRST => some { starting := true }
  | .SEND_MIDDLE | .RDMA_WRITE_MIDDLE => some { middle := true }
  | .SEND_LAST | .SEND_LAST_WITH_IMMEDIATE | .RDMA_WRITE_LAST
  | .RDMA_WRITE_LAST_WITH_IMMEDIATE => some { ending := true }
  | .SEND_ONLY | .SEND_ONLY_WITH_IMMEDIATE | .RDMA_WRITE_ONLY
  | .RDMA_WRITE_ONLY_WITH_IMMEDIATE | .RDMA_READ_REQUEST | .COMPARE_SWAP
  | .FETCH_ADD => some { starting := true, ending := true }
  | .ACKNOWLEDGE | .RDMA_READ_RESPONSE_FIRST | .RDMA_READ_RESPONSE_MIDDLE
  | .RDMA_READ_RESPONSE_LAST | .RDMA_READ_RESPONSE_ONLY
  | .ATOMIC_ACKNOWLEDGE => some { acknowledge := true }
  | .SEND_LAST_WITH_INVALIDATE | .SEND_ONLY_WITH_INVALIDATE | .CNP_SEND_NOTIFY
  | .OTHER _ => none

/-- `pib_opcode_is_acknowledge`. Nothing when the lookup leaves the table. -/
def pibOpcodeIsAcknowledge (opcode : OpCode) : Option Bool :=
  (attrOpCode opcode).map (·.acknowledge)

/-- `pib_opcode_is_in_order_sequence`. Nothing when a lookup leaves the table. -/
def pibOpcodeIsInOrderSequence (opcode last_OpCode : OpCode) : Option Bool := do
  let cur ← attrOpCode opcode
  if !(cur.starting || cur.middle || cur.ending) then
    return false
  if cur.starting then
    return (← attrOpCode last_OpCode).ending
  match opcode with
  | .SEND_MIDDLE | .SEND_LAST | .SEND_LAST_WITH_IMMEDIATE =>
    return last_OpCode = .SEND_FIRST ∨ last_OpCode = .SEND_MIDDLE
  | .RDMA_WRITE_MIDDLE | .RDMA_WRITE_LAST | .RDMA_WRITE_LAST_WITH_IMMEDIATE =>
    return last_OpCode = .RDMA_WRITE_FIRST ∨ last_OpCode = .RDMA_WRITE_MIDDLE
  | _ => return false

/-- A packet that starts a message may follow one that ends a message. -/
theorem inOrder_of_start {o last : OpCode} (ho : (attrOpCode o).map (·.starting) = some true)
    (hl : (attrOpCode last).map (·.ending) = some true) :
    pibOpcodeIsInOrderSequence o last = some true := by
  obtain ⟨a, ha, hs⟩ := Option.map_eq_some_iff.mp ho
  obtain ⟨b, hb, he⟩ := Option.map_eq_some_iff.mp hl
  simp [pibOpcodeIsInOrderSequence, ha, hb, hs, he]

/-- `pib_is_wr_opcode_rd_atomic`. -/
def pibIsWrOpcodeRdAtomic : WrOpcode → Bool
  | .RDMA_READ | .ATOMIC_CMP_AND_SWP | .ATOMIC_FETCH_AND_ADD => true
  | _ => false

/-- `pib_convert_wr_opcode_to_wc_opcode`. Nothing is `BUG()`. -/
def pibConvertWrOpcodeToWcOpcode : WrOpcode → Option WcOpcode
  | .RDMA_WRITE | .RDMA_WRITE_WITH_IMM => some .RDMA_WRITE
  | .SEND | .SEND_WITH_IMM | .SEND_WITH_INV => some .SEND
  | .RDMA_READ | .RDMA_READ_WITH_INV => some .RDMA_READ
  | .ATOMIC_CMP_AND_SWP => some .COMP_SWAP
  | .ATOMIC_FETCH_AND_ADD => some .FETCH_ADD
  | .LSO => some .LSO
  | .LOCAL_INV => some .LOCAL_INV
  | .FAST_REG_MR => some .FAST_REG_MR
  | .MASKED_ATOMIC_CMP_AND_SWP => some .MASKED_COMP_SWAP
  | .MASKED_ATOMIC_FETCH_AND_ADD => some .MASKED_FETCH_ADD
  | .BIND_MW => some .BIND_MW
  | .OTHER _ => none

/-- `pib_is_recv_ok`. -/
def pibIsRecvOk : QpState → Bool
  | .RTR | .RTS | .SQD | .SQE => true
  | _ => false

/-! ## Packet counts -/

/-- The payload of a full packet, `128U << path_mtu`. -/
def pmtuOf (path_mtu : Nat) : Nat := 128 * 2 ^ path_mtu

/-- The MTU that counts for a queue pair of this type. -/
def packetMtu (qp_type : QpType) (qp_path_mtu : Nat) : Nat :=
  match qp_type with
  | .UD => 5
  | .GSI | .SMI => 1
  | .RC => qp_path_mtu

/-- `pib_get_num_of_packets`. -/
def pibGetNumOfPackets (qp_type : QpType) (qp_path_mtu length : Nat) : Nat :=
  let path_mtu := packetMtu qp_type qp_path_mtu
  let num_packets := length / 128 / 2 ^ path_mtu
  if num_packets = 0 then 1
  else if num_packets * pmtuOf path_mtu < length then num_packets + 1
  else num_packets

theorem pibGetNumOfPackets_pos (qp_type : QpType) (qp_path_mtu length : Nat) :
    0 < pibGetNumOfPackets qp_type qp_path_mtu length := by
  unfold pibGetNumOfPackets
  dsimp only
  split
  · exact Nat.one_pos
  rename_i h
  split
  · exact Nat.succ_pos _
  · exact Nat.pos_of_ne_zero h

theorem div_mul_pmtuOf_le (path_mtu length : Nat) :
    length / 128 / 2 ^ path_mtu * pmtuOf path_mtu ≤ length := by
  rw [Nat.div_div_eq_div_mul]
  exact Nat.div_mul_le_self _ _

/-- All packets but the last are full. -/
theorem mul_pmtuOf_le {k path_mtu length : Nat} (h : k < pibGetNumOfPackets .RC path_mtu length) :
    k * pmtuOf path_mtu ≤ length := by
  have hdiv := div_mul_pmtuOf_le path_mtu length
  unfold pibGetNumOfPackets at h
  dsimp only [packetMtu] at h
  generalize length / 128 / 2 ^ path_mtu = num_packets at h hdiv
  have hk : k ≤ num_packets := by
    split at h
    · omega
    · split at h <;> omega
  exact (Nat.mul_le_mul_right _ hk).trans hdiv

/-- No packet but the first is empty. -/
theorem mul_pmtuOf_lt {k path_mtu length : Nat} (h : k < pibGetNumOfPackets .RC path_mtu length)
    (hk : 0 < k) : k * pmtuOf path_mtu < length := by
  have hpos : 0 < pmtuOf path_mtu := by unfold pmtuOf; positivity
  have hdiv := div_mul_pmtuOf_le path_mtu length
  unfold pibGetNumOfPackets at h
  dsimp only [packetMtu] at h
  generalize length / 128 / 2 ^ path_mtu = num_packets at h hdiv
  split at h
  · omega
  split at h
  · rename_i hlt
    exact (Nat.mul_le_mul_right _ (by omega : k ≤ num_packets)).trans_lt hlt
  · exact ((Nat.mul_lt_mul_right hpos).mpr h).trans_le hdiv

/-- The packets hold the whole message. -/
theorem le_mul_pmtuOf (path_mtu length : Nat) :
    length ≤ pibGetNumOfPackets .RC path_mtu length * pmtuOf path_mtu := by
  have hpos : 0 < pmtuOf path_mtu := by unfold pmtuOf; positivity
  have hlt : length < (length / 128 / 2 ^ path_mtu + 1) * pmtuOf path_mtu := by
    rw [Nat.div_div_eq_div_mul, Nat.mul_comm]
    exact Nat.lt_mul_div_succ length hpos
  unfold pibGetNumOfPackets
  dsimp only [packetMtu]
  generalize length / 128 / 2 ^ path_mtu = num_packets at hlt ⊢
  split
  · rename_i h
    rw [h] at hlt
    exact hlt.le
  split
  · exact hlt.le
  · rename_i h
    exact Nat.le_of_not_lt h

theorem pibGetNumOfPackets_lt (qp_type : QpType) (qp_path_mtu : Nat) {length : Nat}
    (h : length ≤ PIB_MAX_PAYLOAD_LEN) : pibGetNumOfPackets qp_type qp_path_mtu length < 2 ^ 24 := by
  have h1 : length / 128 ≤ 2 ^ 23 := by
    have : PIB_MAX_PAYLOAD_LEN = 2 ^ 23 * 128 := by decide
    omega
  have hdiv : length / 128 / 2 ^ packetMtu qp_type qp_path_mtu ≤ 2 ^ 23 :=
    (Nat.div_le_self _ _).trans h1
  unfold pibGetNumOfPackets
  dsimp only
  generalize length / 128 / 2 ^ packetMtu qp_type qp_path_mtu = num_packets at hdiv ⊢
  split
  · decide
  · split <;> omega

/-! ## Timers -/

/-- The microseconds behind `rnr_nak_timeout`. -/
def rnrNakUsec : List Nat :=
  [655360, 10, 20, 30, 40, 60, 80, 120, 160, 240, 320, 480, 640, 960, 1280, 1920, 2560, 3840,
   5120, 7680, 10240, 15360, 20480, 30720, 40960, 61440, 81920, 122880, 163840, 245760, 327680,
   491520]

/-- The nanoseconds behind `local_ack_timeout`, with the empty entry 0. -/
def localAckNsec : List Nat :=
  [0, 8192, 16384, 32768, 65536, 131072, 262144, 524288, 1048576, 2087152, 4194304, 8388608,
   16777216, 33554432, 67108864, 134217728, 268435456, 536870912, 1073741824, 2147483648,
   4294967296, 8589934592, 17179869184, 34359738368, 68719476736, 137438953472, 274877906944,
   549755813888, 1099511627776, 2199023255552, 4398046511104, 8796093022208]

/-- `pib_get_rnr_nak_time`. -/
def pibGetRnrNakTime (HZ timeout : Nat) : Nat :=
  let t := u32 (rnrNakUsec.getD timeout 0 * 1000 / (HZ * 1000))
  if t = 0 then 1 else t

theorem pibGetRnrNakTime_lt (HZ timeout : Nat) : pibGetRnrNakTime HZ timeout < PIB_SCHED_TIMEOUT := by
  have hall : ∀ x ∈ rnrNakUsec, x ≤ 655360 := by decide
  have hx : rnrNakUsec.getD timeout 0 ≤ 655360 := by
    rw [List.getD_eq_getElem?_getD]
    rcases h : rnrNakUsec[timeout]? with _ | x
    · simp
    · exact hall x (List.mem_of_getElem? h)
  have hdiv : rnrNakUsec.getD timeout 0 * 1000 / (HZ * 1000) ≤ 655360 := by
    rw [Nat.mul_div_mul_right _ _ (by omega)]
    exact (Nat.div_le_self _ _).trans hx
  have hmod : u32 (rnrNakUsec.getD timeout 0 * 1000 / (HZ * 1000)) ≤ 655360 :=
    (Nat.mod_le _ _).trans hdiv
  unfold pibGetRnrNakTime
  dsimp only
  split
  · decide
  · exact Nat.lt_of_le_of_lt hmod (by decide)

/-- `pib_get_local_ack_time`. -/
def pibGetLocalAckTime (HZ timeout : Nat) : Nat :=
  if timeout = 0 then PIB_SCHED_TIMEOUT
  else
    let t := localAckNsec.getD timeout 0 * 1000 / (HZ * 1000000)
    if t = 0 then 1 else t

/-- A finite timeout is sooner than the time that stands for never, at every
clock rate of the kernel. -/
theorem pibGetLocalAckTime_lt {HZ timeout : Nat} (hHZ : 24 ≤ HZ) (ht : timeout ≠ 0) :
    pibGetLocalAckTime HZ timeout < PIB_SCHED_TIMEOUT := by
  have hall : ∀ x ∈ localAckNsec, x ≤ 8796093022208 := by decide
  have hx : localAckNsec.getD timeout 0 ≤ 8796093022208 := by
    rw [List.getD_eq_getElem?_getD]
    rcases h : localAckNsec[timeout]? with _ | x
    · simp
    · exact hall x (List.mem_of_getElem? h)
  have hdiv : localAckNsec.getD timeout 0 * 1000 / (HZ * 1000000) ≤
      8796093022208 * 1000 / (24 * 1000000) :=
    Nat.div_le_div (Nat.mul_le_mul_right _ hx) (Nat.mul_le_mul_right _ hHZ) (by decide)
  unfold pibGetLocalAckTime
  rw [if_neg ht]
  dsimp only
  split
  · decide
  · exact Nat.lt_of_le_of_lt hdiv (by decide)

end pib
