-- Multicast forwarding in `pibnetd` and in the easy switch of the driver: the table
-- that the subnet manager writes block by block, and the ports through which a packet
-- for a multicast LID leaves.
import Pib.EasySw
import Pib.Lib.Run
import Pib.Netd.NoStop

namespace pib.Netd

open Bytes

/-! ## Both switches -/

/-- The loop at `relay_mcast` in `pib_easy_sw.c`. The table has the same text in both; here
a packet is sent whether or not the
port has an address. -/
def relayMcastLoop (sw : Switch) (in_sw_port_num dlid : Nat) : List Nat → Except Stop (List Nat)
  | [] => .ok []
  | out_sw_port_num :: rest =>
    if in_sw_port_num = out_sw_port_num then relayMcastLoop sw in_sw_port_num dlid rest
    else do
      index .mcast_fwd_table ((dlid : Int) - PIB_MCAST_LID_BASE)
      index .pm_blocks ((out_sw_port_num / 16 : Nat) : Int)
      let pm_block := sw.mcast_fwd_table (dlid - PIB_MCAST_LID_BASE) (out_sw_port_num / 16)
      if pm_block.testBit (out_sw_port_num % 16) = false then
        relayMcastLoop sw in_sw_port_num dlid rest
      else return out_sw_port_num :: (← relayMcastLoop sw in_sw_port_num dlid rest)

/-- The ports that a multicast packet is sent through. -/
def relayed (sw : Switch) (in_port_num dlid : Nat) (lrh : Lrh) : Code → Except Stop (List Nat)
  | .pibnetd => List.map Sent.port_num <$> relayMulticastPacket sw in_port_num dlid lrh
  | .easySw => relayMcastLoop sw in_port_num dlid sw.external

/-! ## The table that was written -/

/-- A SubnSet(MulticastForwardingTable): the block index is in the low bits of the
attribute modifier, the position in the four highest. -/
structure McastSet where
  smp : Smp
  mod_lt : smp.attr_mod < 2 ^ 32
  block_lt : smp.attr_mod % 2 ^ 28 < 512
  size : smp.data.length = 64

namespace McastSet

def block (m : McastSet) : Nat := m.smp.attr_mod % 2 ^ 28
def position (m : McastSet) : Nat := m.smp.attr_mod / 2 ^ 28

/-- The Set has the entry of this LID for this port. -/
def Covers (m : McastSet) (lid port_num : Nat) : Prop :=
  PIB_MCAST_LID_BASE + m.block * 32 ≤ lid ∧ lid < PIB_MCAST_LID_BASE + m.block * 32 + 32 ∧
    port_num / 16 = m.position

instance (m : McastSet) (lid port_num : Nat) : Decidable (m.Covers lid port_num) :=
  inferInstanceAs (Decidable (_ ∧ _ ∧ _))

/-- The bit for this port in the entry of this LID. -/
def bit (m : McastSet) (lid port_num : Nat) : Bool :=
  (halfAt m.smp.data (2 * (lid - PIB_MCAST_LID_BASE - m.block * 32))).testBit (port_num % 16)

end McastSet

/-- The bit in the most recent Set that covers the LID and the port. -/
def latest (sets : List McastSet) (lid port_num : Nat) : Bool :=
  match sets.reverse.find? (·.Covers lid port_num) with
  | some m => m.bit lid port_num
  | none => false

/-- The ports that a packet must be sent through. -/
def targets (sw : Switch) (sets : List McastSet) (in_port_num lid : Nat) : List Nat :=
  sw.external.filter fun q => decide (in_port_num ≠ q) && latest sets lid q

namespace Switch

/-- The switch after a Set. -/
def setMcast (sw : Switch) (m : McastSet) : Switch :=
  ((subnSetMcastForwardTable m.smp sw).map Prod.snd).toOption.getD sw

/-- The switch after these Sets, from an empty table on. -/
def afterSets (sw : Switch) (sets : List McastSet) : Switch :=
  Run.run setMcast { sw with mcast_fwd_table := fun _ _ => 0 } sets

/-- The bit for this port in the table. -/
def entry (sw : Switch) (lid port_num : Nat) : Bool :=
  (sw.mcast_fwd_table (lid - PIB_MCAST_LID_BASE) (port_num / 16)).testBit (port_num % 16)

end Switch

/-! ## Indexing -/

theorem index_ok {a : Arr} {i : Int} (h : a.Has i) : index a i = .ok () := if_pos h

theorem indexAll_ok {a : Arr} {l : List Int} (h : ∀ i ∈ l, a.Has i) : indexAll a l = .ok () := by
  induction l with
  | nil => rfl
  | cons i l ih =>
    rw [indexAll, index_ok (h i (by simp))]
    exact ih fun j hj => h j (by simp [hj])

theorem indexAll_mcast (smp : Smp) :
    indexAll .mcast_fwd_table ((mcastPlaces smp.attr_mod).map Int.ofNat) = .ok () := by
  apply indexAll_ok
  intro i hi
  obtain ⟨j, hj, rfl⟩ := List.mem_map.mp hi
  exact has_mcastPlaces hj

/-! ## One Set -/

theorem setMcast_eq (sw : Switch) (m : McastSet) :
    sw.setMcast m = { sw with
      mcast_fwd_table := fun i block =>
        if m.smp.attr_mod % 2 ^ 8 * 32 ≤ i ∧ i < m.smp.attr_mod % 2 ^ 8 * 32 + 32 ∧
            block = m.smp.attr_mod / 2 ^ 28 then
          halfAt m.smp.data (2 * (i - m.smp.attr_mod % 2 ^ 8 * 32))
        else sw.mcast_fwd_table i block } := by
  have h1 := indexAll_mcast m.smp
  have h2 := index_ok (has_pmBlocks m.mod_lt)
  unfold Switch.setMcast subnSetMcastForwardTable
  -- the kernel would count out the numbers of the packed modifier
  generalize m.smp.attr_mod / 2 ^ 28 = position at h2 ⊢
  generalize m.smp.attr_mod % 2 ^ 8 * 32 = first at h2 ⊢
  dsimp only
  rw [h1, h2]
  rfl

/-- Up to block 255 a Set writes what it covers and nothing else. -/
theorem entry_setMcast (sw : Switch) {m : McastSet} (hm : m.block < 256) {lid : Nat} (port_num : Nat)
    (hl : PIB_MCAST_LID_BASE ≤ lid) :
    (sw.setMcast m).entry lid port_num =
      if m.Covers lid port_num then m.bit lid port_num else sw.entry lid port_num := by
  have hb : m.smp.attr_mod % 2 ^ 8 = m.block := by
    unfold McastSet.block at hm ⊢
    omega
  have hc : (m.block * 32 ≤ lid - PIB_MCAST_LID_BASE ∧ lid - PIB_MCAST_LID_BASE < m.block * 32 + 32 ∧
      port_num / 16 = m.smp.attr_mod / 2 ^ 28) ↔ m.Covers lid port_num := by
    unfold McastSet.Covers McastSet.position
    omega
  rw [setMcast_eq, Switch.entry]
  simp only [hb, hc]
  split_ifs
  · rfl
  · rfl

theorem flatMap_halfAt (l : List UInt8) (n : Nat) (h : 2 * n ≤ l.length) :
    (List.range n).flatMap (fun i => be 2 (halfAt l (2 * i))) = l.take (2 * n) := by
  induction n with
  | zero => simp
  | succ n ih =>
    have hb : be 2 (halfAt l (2 * n)) = (l.drop (2 * n)).take 2 :=
      be_ofBe (by rw [List.length_take, List.length_drop]; omega)
    rw [List.range_succ, List.flatMap_append, ih (by omega), List.flatMap_singleton, hb,
      Nat.mul_succ, List.take_add]

theorem pad64_of_length {l : List UInt8} (h : l.length = 64) : pad64 l = l := by
  rw [pad64, List.take_append_of_le_length h.ge, List.take_of_length_le h.le]

theorem reply_data (smp : Smp) : smp.reply.2.data = smp.data := by
  simp only [Smp.reply, Smp.respond]
  split_ifs <;> rfl

/-- A Get of the block that was just set, whichever it is. -/
theorem getMcast_setMcast (sw : Switch) (m : McastSet) {smp : Smp}
    (h : smp.attr_mod = m.smp.attr_mod) :
    ∃ r, subnGetMcastForwardTable smp (sw.setMcast m) = .ok r ∧ r.2.data = m.smp.data := by
  have hd : ((mcastPlaces smp.attr_mod).flatMap fun i =>
      be 2 ((sw.setMcast m).mcast_fwd_table i (smp.attr_mod / 2 ^ 28))) = m.smp.data := by
    rw [setMcast_eq, h, mcastPlaces, List.flatMap_map]
    generalize m.smp.attr_mod % 2 ^ 8 * 32 = first
    generalize m.smp.attr_mod / 2 ^ 28 = position
    have hi : ∀ i ∈ List.range 32, be 2 (if first ≤ first + i ∧ first + i < first + 32 ∧
        position = position then halfAt m.smp.data (2 * (first + i - first))
        else sw.mcast_fwd_table (first + i) position) = be 2 (halfAt m.smp.data (2 * i)) := by
      intro i hi
      have := List.mem_range.1 hi
      rw [if_pos ⟨by omega, by omega, rfl⟩, Nat.add_sub_cancel_left]
    refine (List.flatMap_congr hi).trans ?_
    rw [flatMap_halfAt _ 32 m.size.ge, List.take_of_length_le m.size.le]
  unfold subnGetMcastForwardTable
  dsimp only
  rw [indexAll_mcast, index_ok (has_pmBlocks (h ▸ m.mod_lt)), hd]
  refine ⟨_, rfl, ?_⟩
  rw [reply_data]
  exact pad64_of_length m.size

/-! ## A whole run -/

theorem latest_append (sets : List McastSet) (m : McastSet) (lid port_num : Nat) :
    latest (sets ++ [m]) lid port_num =
      if m.Covers lid port_num then m.bit lid port_num else latest sets lid port_num := by
  unfold latest
  rw [List.reverse_append, List.reverse_singleton, List.singleton_append, List.find?_cons]
  by_cases h : m.Covers lid port_num
  · simp [h]
  · simp [h]

theorem afterSets_append (sw : Switch) (sets : List McastSet) (m : McastSet) :
    sw.afterSets (sets ++ [m]) = (sw.afterSets sets).setMcast m := by
  unfold Switch.afterSets
  rw [Run.run_append, Run.run_cons, Run.run_nil]

/-- The table has what the most recent Sets wrote. -/
theorem entry_afterSets (sw : Switch) (sets : List McastSet) (h : ∀ m ∈ sets, m.block < 256)
    {lid : Nat} (port_num : Nat) (hl : PIB_MCAST_LID_BASE ≤ lid) :
    (sw.afterSets sets).entry lid port_num = latest sets lid port_num := by
  induction sets using List.reverseRecOn with
  | nil => simp [Switch.entry, Switch.afterSets, latest]
  | append_singleton sets m ih =>
    rw [afterSets_append, entry_setMcast _ (h m (by simp)) _ hl, latest_append,
      ih fun x hx => h x (by simp [hx])]

/-- The Sets change nothing but the table. -/
theorem afterSets_frame (sw : Switch) (sets : List McastSet) :
    (sw.afterSets sets).ports = sw.ports ∧ (sw.afterSets sets).external = sw.external := by
  induction sets using List.reverseRecOn with
  | nil => exact ⟨rfl, rfl⟩
  | append_singleton sets m ih =>
    rw [afterSets_append, setMcast_eq]
    exact ih

/-! ## One packet -/

section Packet

variable {sw : Switch} {in_port_num dlid : Nat} {lrh : Lrh}

/-- The two accesses to the table. -/
theorem index_entry {q : Nat} (hl : PIB_MCAST_LID_BASE ≤ dlid) (hd : dlid < PIB_MAX_LID) (hq : q < 256) :
    index .mcast_fwd_table ((dlid : Int) - PIB_MCAST_LID_BASE) = .ok () ∧
      index .pm_blocks ((q / 16 : Nat) : Int) = .ok () := by
  constructor
  · apply index_ok
    rw [← Nat.cast_sub hl, Arr.has_natCast]
    change _ < PIB_MAX_LID - PIB_MCAST_LID_BASE
    omega
  · apply index_ok
    rw [Arr.has_natCast]
    change _ < 16
    omega

theorem easySw_loop (hl : PIB_MCAST_LID_BASE ≤ dlid) (hd : dlid < PIB_MAX_LID) (outs : List Nat)
    (ho : ∀ q ∈ outs, q < 256) :
    relayMcastLoop sw in_port_num dlid outs =
      .ok (outs.filter fun q => decide (in_port_num ≠ q) && sw.entry dlid q) := by
  induction outs with
  | nil => rfl
  | cons q outs ih =>
    have ih := ih fun x hx => ho x (by simp [hx])
    obtain ⟨h1, h2⟩ := index_entry (q := q) hl hd (ho q (by simp))
    rw [relayMcastLoop, h1, h2, ih, List.filter_cons]
    by_cases hq : in_port_num = q
    · simp [hq]
    cases he : sw.entry dlid q with
    | true | false =>
      simp [hq, bind, Except.bind, pure, Except.pure, Switch.entry] at he ⊢; simp [he]

theorem netd_loop (hl : PIB_MCAST_LID_BASE ≤ dlid) (hd : dlid < PIB_MAX_LID) (outs : List Nat)
    (ho : ∀ q ∈ outs, q < 256) :
    List.map Sent.port_num <$> relayMulticastLoop sw in_port_num dlid lrh outs =
      .ok (outs.filter fun q => decide (in_port_num ≠ q) && sw.entry dlid q) ↔
    ∀ q ∈ outs.filter (fun q => decide (in_port_num ≠ q) && sw.entry dlid q),
      (sw.ports q).sockaddr ≠ none := by
  induction outs with
  | nil => simp [relayMulticastLoop]
  | cons q outs ih =>
    have ih := ih fun x hx => ho x (by simp [hx])
    obtain ⟨h1, h2⟩ := index_entry (q := q) hl hd (ho q (by simp))
    rw [relayMulticastLoop, h1, h2, List.filter_cons]
    by_cases hq : in_port_num = q
    · simpa [hq] using ih
    rw [if_neg hq]
    change _ <$> (if sw.entry dlid q = false then _ else _) = _ ↔ _
    cases he : sw.entry dlid q with
    | false => simpa [hq] using ih
    | true =>
      simp only [Bool.true_eq_false, if_false, hq, ne_eq, not_false_eq_true, decide_true, Bool.and_true,
        if_true, List.forall_mem_cons]
      rw [← ih]
      cases ha : (sw.ports q).sockaddr with
      | none => simp [sendmsg, ha, bind, Except.bind, Functor.map, Except.map]
      | some a =>
        cases hr : relayMulticastLoop sw in_port_num dlid lrh outs with
        | error e => simp [sendmsg, ha, bind, Except.bind, Functor.map, Except.map]
        | ok sent => simp [sendmsg, ha, bind, Except.bind, Functor.map, Except.map, pure, Except.pure]

end Packet

/-! ## The table and the packets -/

/-- A run of Sets up to block 255 is followed: by every packet that finds an address at
each port it must leave through, and by the Sets and Gets after it. -/
theorem mcast_forwarding_follows (code : Code) {sw : Switch} (hp : sw.port_cnt ≤ 256)
    {sets : List McastSet} (hs : ∀ m ∈ sets, m.block < 256) :
    (∀ lid in_port_num lrh, PIB_MCAST_LID_BASE ≤ lid → lid ≤ 0xFFFE →
      (relayed (sw.afterSets sets) in_port_num lid lrh code = .ok (targets sw sets in_port_num lid) ↔
        (code = .pibnetd → ∀ q ∈ targets sw sets in_port_num lid, (sw.ports q).sockaddr ≠ none))) ∧
    ∀ m : McastSet, m.block < 256 →
      (∀ lid port_num, PIB_MCAST_LID_BASE ≤ lid → ¬m.Covers lid port_num →
        ((sw.afterSets sets).setMcast m).entry lid port_num = (sw.afterSets sets).entry lid port_num) ∧
      ∀ smp : Smp, smp.attr_mod = m.smp.attr_mod →
        ∃ r, subnGetMcastForwardTable smp ((sw.afterSets sets).setMcast m) = .ok r ∧
          r.2.data = m.smp.data := by
  obtain ⟨hports, hext⟩ := afterSets_frame sw sets
  refine ⟨fun lid in_port_num lrh hl hd => ?_, fun m hm => ⟨fun lid q hl hc => ?_, fun smp h => ?_⟩⟩
  · have hd' : lid < PIB_MAX_LID := by
      unfold PIB_MAX_LID
      omega
    have ho : ∀ q ∈ (sw.afterSets sets).external, q < 256 := by
      intro q hq
      rw [hext, mem_external] at hq
      exact hq.2.trans_le hp
    have ht : targets sw sets in_port_num lid = (sw.afterSets sets).external.filter fun q =>
        decide (in_port_num ≠ q) && (sw.afterSets sets).entry lid q := by
      rw [targets, hext]
      refine List.filter_congr fun q _ => ?_
      rw [entry_afterSets sw sets hs q hl]
    rw [ht, ← hports]
    cases code with
    | pibnetd =>
      simp only [true_imp_iff]
      exact netd_loop hl hd' _ ho
    | easySw => exact iff_of_true (easySw_loop hl hd' _ ho) nofun
  · rw [entry_setMcast _ hm q hl, if_neg hc]
  · exact getMcast_setMcast _ m h

/-- A Set of this block at position 0, with port 1 for each of its LIDs. -/
def portOneSet (block : Nat) (h : block < 512) : McastSet where
  smp := {
    base_version := 1, mgmt_class := PIB_MGMT_CLASS_SUBN_LID_ROUTED, class_version := 1
    method := PIB_MGMT_METHOD_SET, status := 0, hop_ptr := 0, hop_cnt := 0, attr_id := 0x001B
    attr_mod := block, dr_slid := 0, dr_dlid := 0, data := (List.replicate 32 [0, 2]).flatten
    initial_path := [], return_path := [] }
  mod_lt := h.trans (by decide)
  block_lt := (Nat.mod_le _ _).trans_lt h
  size := by simp

/-- A switch with an address at every port. -/
def addressed : Switch := { ports := fun _ => { sockaddr := some ⟨1, 1⟩ } }

theorem mcast_forwarding_follows_block :
    relayed (addressed.afterSets [portOneSet 3 (by decide)]) 2 0xC060 { dlid := 0xC060 } .pibnetd =
      .ok (targets addressed [portOneSet 3 (by decide)] 2 0xC060) := by
  refine ((mcast_forwarding_follows .pibnetd (by decide) ?_).1 0xC060 2 { dlid := 0xC060 } (by decide)
    (by decide)).2 fun _ q _ => ?_
  · simp [McastSet.block, portOneSet]
  · simp [addressed]

/-- Block 256 is written over block 0: the LIDs of the Set stay without ports, and those
of another block are sent to. -/
theorem mcast_set_aliased :
    let sw := addressed.afterSets [portOneSet 256 (by decide)]
    (∀ code ∈ [Code.pibnetd, .easySw],
      relayed sw 2 0xE000 { dlid := 0xE000 } code = .ok [] ∧
      relayed sw 2 0xC000 { dlid := 0xC000 } code = .ok [1]) ∧
    targets addressed [portOneSet 256 (by decide)] 2 0xE000 = [1] ∧
    targets addressed [portOneSet 256 (by decide)] 2 0xC000 = [] := by
  decide +kernel

end pib.Netd
