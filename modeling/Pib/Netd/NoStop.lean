-- Which datagrams `pibnetd` comes back from: an exact condition on the datagram
-- and the switch under which no `exit` is called and no array is left.
import Pib.Netd.LinkTable

namespace pib.Netd

open Stopping Bytes

variable {g i : Nat}

/-- The daemon is gone, or has touched memory beyond an array. -/
def Stop.Fatal : Stop → Prop
  | exit _ => True
  | index .. => True
  | endless => False

/-- These stops, or these and a loop without end. -/
class Stop.Grave (F : Stop → Prop) : Prop where
  exit : ∀ e : Exit, F (.exit e)
  index : ∀ (a : Arr) (i : Int), F (.index a i)

instance : Stop.Grave Stop.Fatal := ⟨fun _ => trivial, fun _ _ => trivial⟩

instance : Stop.Grave fun _ => True := ⟨fun _ => trivial, fun _ _ => trivial⟩

variable {F : Stop → Prop} [Stop.Grave F]

/-- `i` is an index of the array. -/
def Arr.Has (a : Arr) (i : Int) : Prop := 0 ≤ i ∧ i < a.size

instance (a : Arr) (i : Int) : Decidable (a.Has i) := inferInstanceAs (Decidable (_ ∧ _))

theorem Arr.has_natCast {a : Arr} : a.Has (i : Int) ↔ i < a.size := by
  unfold Arr.Has
  omega

/-! ## Indexing -/

theorem safe_index {a : Arr} {i : Int} : Avoids F (index a i) ↔ a.Has i := by
  unfold index Arr.Has
  by_cases h : 0 ≤ i ∧ i < a.size
  · rw [if_pos h]
    simp [h]
  · rw [if_neg h]
    simp [h, Stop.Grave.index (F := F)]

theorem safe_index_bind {α : Type} {a : Arr} {i : Int} {f : Unit → Except Stop α} :
    Avoids F (index a i >>= f) ↔ a.Has i ∧ Avoids F (f ()) := by
  rw [avoids_bind, safe_index]
  refine and_congr_right fun h => ⟨fun hf => hf () (if_pos h), fun hf u _ => hf⟩

theorem safe_indexAll {a : Arr} {l : List Int} : Avoids F (indexAll a l) ↔ ∀ i ∈ l, a.Has i := by
  induction l with
  | nil => simp [indexAll]
  | cons i l ih =>
    rw [indexAll, safe_index_bind, ih]
    simp

theorem safe_indexAll_bind {α : Type} {a : Arr} {l : List Int} {f : Unit → Except Stop α} :
    Avoids F (indexAll a l >>= f) ↔ (∀ i ∈ l, a.Has i) ∧
      ∀ u, indexAll a l = .ok u → Avoids F (f u) := by
  rw [avoids_bind, safe_indexAll]

/-! ## Link commands -/

/-- The trap about a changed link finds the entry of the subnet manager. -/
def TrapFits (sw : Switch) : Prop := (sw.ports 0).lid ≠ 0 → (sw.ports 0).sm_lid < PIB_MCAST_LID_BASE

/-- The switch has its ports, and one with a GUID has an address. -/
structure Wired (sw : Switch) : Prop where
  cnt : sw.port_cnt = PIB_MAX_PORTS
  addressed : ∀ i, sw.IsExternal i → (sw.ports i).port_guid ≠ 0 → (sw.ports i).sockaddr ≠ none

section Commands

variable {sw : Switch}

theorem safe_sendTrap : Avoids F (sendTrapNtc128 sw) ↔ TrapFits sw := by
  simp only [sendTrapNtc128, TrapFits]
  split
  · rename_i h
    refine ⟨fun _ hl => ?_, fun _ => avoids_ok _⟩
    rw [h.resolve_left hl]
    decide
  rename_i h
  have hl : (sw.ports 0).lid ≠ 0 := fun h0 => h (Or.inl h0)
  rw [safe_index_bind, Arr.has_natCast]
  refine ⟨fun hs _ => hs.1, fun hs => ⟨hs hl, ?_⟩⟩
  split
  · exact avoids_ok _
  · split <;> exact avoids_ok _

theorem safe_sendmsg {lrh : Lrh} : Avoids F (sendmsg sw i lrh) ↔ (sw.ports i).sockaddr ≠ none := by
  unfold sendmsg
  split
  · rename_i h
    simp [h, Stop.Grave.exit (F := F)]
  · rename_i h
    simp [h]

theorem trapFits_linkUp {a : SockAddr} (h : i ≠ 0) : TrapFits (sw.linkUp i g a) ↔ TrapFits sw := by
  unfold TrapFits Switch.linkUp
  rw [sw.setPort_ne _ h.symm]

theorem safe_connect {a : SockAddr} {lrh : Lrh} :
    Avoids F (connect sw g a lrh) ↔ connectPort sw g ≠ 0 ∧ TrapFits sw := by
  unfold connect
  dsimp only
  by_cases hp : connectPort sw g = 0
  · rw [if_pos hp]
    simp [hp, Stop.Grave.exit (F := F)]
  rw [if_neg hp]
  have hack : (((sw.linkUp (connectPort sw g) g a).ports (connectPort sw g)).sockaddr ≠ none) := by
    rw [Switch.linkUp, Switch.setPort_self]
    simp
  rw [avoids_bind, safe_sendmsg]
  refine ⟨?_, fun h => ⟨hack, fun x _ => ?_⟩⟩
  · rintro ⟨-, hrest⟩
    obtain ⟨x, hx⟩ : ∃ x, sendmsg (sw.linkUp (connectPort sw g) g a) (connectPort sw g) lrh = .ok x := by
      unfold sendmsg Switch.linkUp
      rw [Switch.setPort_self]
      exact ⟨_, rfl⟩
    have ht := (avoids_bind.mp (hrest x hx)).1
    exact ⟨hp, (trapFits_linkUp hp).mp (safe_sendTrap.mp ht)⟩
  · exact avoids_bind.mpr ⟨safe_sendTrap.mpr ((trapFits_linkUp hp).mpr h.2), fun _ _ => avoids_ok _⟩

theorem safe_disconnect (h : Wired sw) (hg : g ≠ 0) {lrh : Lrh} :
    Avoids F (disconnect sw g lrh) ↔ (detectInPort sw g ≠ 0 → TrapFits sw) := by
  unfold disconnect
  dsimp only
  by_cases hp : detectInPort sw g = 0
  · rw [if_pos hp]
    simp [hp]
  rw [if_neg hp]
  obtain ⟨hext, hguid⟩ := detectInPort_some hp
  have haddr : (sw.ports (detectInPort sw g)).sockaddr ≠ none :=
    h.addressed _ hext (by rw [hguid]; exact hg)
  rw [avoids_bind, safe_sendmsg]
  refine ⟨fun ⟨_, hrest⟩ _ => ?_, fun ht => ⟨haddr, fun x _ => ?_⟩⟩
  · obtain ⟨b, hb⟩ := Option.ne_none_iff_exists'.mp haddr
    have hx : sendmsg sw (detectInPort sw g) lrh = .ok { port_num := detectInPort sw g, dest := b, lrh } := by
      unfold sendmsg
      rw [hb]
    exact safe_sendTrap.mp (avoids_bind.mp (hrest _ hx)).1
  · exact avoids_bind.mpr ⟨safe_sendTrap.mpr (ht hp), fun _ _ => avoids_ok _⟩

/-- A link command that the daemon survives. -/
def LinkFits (sw : Switch) (port_guid cmd : Nat) : Prop :=
  (cmd = PIB_LINK_CMD_CONNECT → connectPort sw port_guid ≠ 0 ∧ TrapFits sw) ∧
    (cmd = PIB_LINK_CMD_DISCONNECT → detectInPort sw port_guid ≠ 0 → TrapFits sw)

theorem safe_processRawPacket (h : Wired sw) (hg : g ≠ 0) {a : SockAddr} {lrh : Lrh}
    {buffer : List UInt8} :
    Avoids F (processRawPacket sw g a lrh buffer) ↔
      (4 ≤ buffer.length → LinkFits sw g (wordAt buffer 0)) := by
  unfold processRawPacket LinkFits
  dsimp only
  by_cases hlen : buffer.length < 4
  · rw [if_pos hlen]
    simp only [avoids_ok, true_iff]
    omega
  rw [if_neg hlen, imp_iff_right (by omega : 4 ≤ buffer.length)]
  by_cases hc : wordAt buffer 0 = PIB_LINK_CMD_CONNECT
  · rw [if_pos hc, safe_connect, hc]
    simp [PIB_LINK_CMD_CONNECT, PIB_LINK_CMD_DISCONNECT]
  rw [if_neg hc]
  by_cases hd : wordAt buffer 0 = PIB_LINK_CMD_DISCONNECT
  · rw [if_pos hd, safe_disconnect h hg, hd]
    simp [PIB_LINK_CMD_CONNECT, PIB_LINK_CMD_DISCONNECT]
  · rw [if_neg hd]
    simp [hc, hd]

end Commands

/-! ## Subnet management -/

/-- An SMP that is processed without leaving an array: the port of a PortInfo is one
of the switch, and the LIDs of a random forwarding table are unicast. -/
structure SmpFits (smp : Smp) (sw : Switch) : Prop where
  portInfo : smp.method = PIB_MGMT_METHOD_GET ∨ smp.method = PIB_MGMT_METHOD_SET →
    Attr.ofId smp.attr_id = some .PORT_INFO → smp.portNum < PIB_MAX_PORTS
  random : smp.method = PIB_MGMT_METHOD_SET →
    Attr.ofId smp.attr_id = some .RANDOM_FORWARD_TABLE → smp.attr_mod ≤ 3071 →
      ∀ e ∈ randomEntries smp sw, e.1 < PIB_MCAST_LID_BASE

section Smp

variable {sw : Switch} {smp : Smp} {in_port_num : Nat}

theorem has_linearPlaces (h : ¬767 < smp.attr_mod) (hi : i ∈ linearPlaces smp.attr_mod) :
    Arr.ucast_fwd_table.Has (i : Int) := by
  obtain ⟨k, hk, rfl⟩ := List.mem_map.mp hi
  have hk' := List.mem_range.mp hk
  rw [Arr.has_natCast]
  change _ < 0xC000
  omega

theorem has_mcastPlaces (hi : i ∈ mcastPlaces smp.attr_mod) :
    Arr.mcast_fwd_table.Has (i : Int) := by
  obtain ⟨k, hk, rfl⟩ := List.mem_map.mp hi
  have hk' := List.mem_range.mp hk
  have hm := Nat.mod_lt smp.attr_mod (Nat.two_pow_pos 8)
  rw [Arr.has_natCast]
  change _ < 0x10000 - 0xC000
  omega

theorem has_pmBlocks (h : smp.attr_mod < 2 ^ 32) : Arr.pm_blocks.Has ((smp.attr_mod / 2 ^ 28 : Nat) : Int) := by
  rw [Arr.has_natCast]
  change _ < 16
  omega

theorem safe_getMethod (h : smp.attr_mod < 2 ^ 32) :
    Avoids F (processSmpGetMethod smp sw in_port_num) ↔
      (Attr.ofId smp.attr_id = some .PORT_INFO → smp.portNum < PIB_MAX_PORTS) := by
  unfold processSmpGetMethod
  dsimp only
  rw [Smp.setData_attr_id]
  cases hattr : Attr.ofId smp.attr_id with
  | none => simp
  | some attr =>
    cases attr with
    | PORT_INFO =>
      simp only [subnGetPortinfo, Smp.setData_attr_mod, safe_index_bind, avoids_pure, and_true,
        true_implies, Arr.has_natCast]
      exact Iff.rfl
    | LINEAR_FORWARD_TABLE =>
      simp only [subnGetLinearForwardTable, reduceCtorEq, Option.some.injEq, false_implies, iff_true]
      split
      · exact avoids_ok _
      rename_i hmod
      rw [safe_indexAll_bind]
      refine ⟨fun i hi => ?_, fun _ _ => avoids_ok _⟩
      obtain ⟨j, hj, rfl⟩ := List.mem_map.mp hi
      exact has_linearPlaces hmod (List.mem_filter.mp hj).1
    | MCAST_FORWARD_TABLE =>
      simp only [subnGetMcastForwardTable, reduceCtorEq, Option.some.injEq, false_implies, iff_true]
      rw [safe_indexAll_bind]
      refine ⟨fun i hi => ?_, fun _ _ => ?_⟩
      · obtain ⟨j, hj, rfl⟩ := List.mem_map.mp hi
        exact has_mcastPlaces hj
      · exact safe_index_bind.mpr ⟨has_pmBlocks h, avoids_ok _⟩
    | _ => simp

theorem safe_setMethod (h : smp.attr_mod < 2 ^ 32) :
    Avoids F (processSmpSetMethod smp sw) ↔
      (Attr.ofId smp.attr_id = some .PORT_INFO → smp.portNum < PIB_MAX_PORTS) ∧
        (Attr.ofId smp.attr_id = some .RANDOM_FORWARD_TABLE → smp.attr_mod ≤ 3071 →
          ∀ e ∈ randomEntries smp sw, e.1 < PIB_MCAST_LID_BASE) := by
  unfold processSmpSetMethod
  cases hattr : Attr.ofId smp.attr_id with
  | none => simp
  | some attr =>
    cases attr with
    | PORT_INFO =>
      simp only [subnSetPortinfo, safe_index_bind, avoids_pure, and_true, true_implies,
        Arr.has_natCast, Option.some.injEq, reduceCtorEq, false_implies]
      exact Iff.rfl
    | LINEAR_FORWARD_TABLE =>
      simp only [subnSetLinearForwardTable, reduceCtorEq, Option.some.injEq, false_implies, and_true,
        iff_true]
      split
      · exact avoids_ok _
      rename_i hmod
      rw [safe_indexAll_bind]
      refine ⟨fun i hi => ?_, fun _ _ => avoids_ok _⟩
      obtain ⟨j, hj, rfl⟩ := List.mem_map.mp hi
      exact has_linearPlaces hmod hj
    | RANDOM_FORWARD_TABLE =>
      simp only [subnSetRandomForwardTable, reduceCtorEq, Option.some.injEq, false_implies, true_and,
        true_implies]
      split
      · rename_i hmod
        simp only [avoids_ok, true_iff]
        omega
      rename_i hmod
      rw [safe_indexAll_bind]
      simp only [List.mem_map, forall_exists_index, and_imp, forall_apply_eq_imp_iff₂, avoids_pure,
        implies_true, and_true]
      refine ⟨fun hs _ e he => Arr.has_natCast.mp (hs e he), fun hs e he => ?_⟩
      exact Arr.has_natCast.mpr (hs (by omega) e he)
    | MCAST_FORWARD_TABLE =>
      simp only [subnSetMcastForwardTable, reduceCtorEq, Option.some.injEq, false_implies, and_true,
        iff_true]
      rw [safe_indexAll_bind]
      refine ⟨fun i hi => ?_, fun _ _ => ?_⟩
      · obtain ⟨j, hj, rfl⟩ := List.mem_map.mp hi
        exact has_mcastPlaces hj
      · exact safe_index_bind.mpr ⟨has_pmBlocks h, avoids_ok _⟩
    | _ => simp

/-- The attribute that the answer to a set is read from is the one that was set. -/
theorem processSmpSetMethod_keeps {r : (Nat × Smp) × Switch}
    (h : processSmpSetMethod smp sw = .ok r) :
    r.1.2.attr_id = smp.attr_id ∧ r.1.2.attr_mod = smp.attr_mod := by
  have hdone : ∀ {x : (Nat × Smp) × Switch},
      x.1.2 = smp.respond ∨ (∃ flag, x.1.2 = (smp.addStatus flag).respond) →
      (Except.ok x : Except Stop _) = .ok r →
      r.1.2.attr_id = smp.attr_id ∧ r.1.2.attr_mod = smp.attr_mod := by
    rintro x (hx | ⟨flag, hx⟩) he <;> obtain rfl := Except.ok.inj he <;> rw [hx]
    · exact smp.respond_attr
    · exact (smp.addStatus flag).respond_attr
  unfold processSmpSetMethod at h
  split at h
  · exact hdone (Or.inl rfl) h
  · obtain ⟨_, _, h⟩ := bind_eq_ok h
    exact hdone (Or.inl rfl) h
  · refine hdone ?_ h
    simp only [subnSetPkeyTable]
    split_ifs
    · exact Or.inr ⟨_, rfl⟩
    · exact Or.inr ⟨_, rfl⟩
    · exact Or.inl rfl
  · unfold subnSetLinearForwardTable at h
    split at h
    · exact hdone (Or.inr ⟨_, rfl⟩) h
    · obtain ⟨_, _, h⟩ := bind_eq_ok h
      exact hdone (Or.inl rfl) h
  · unfold subnSetRandomForwardTable at h
    split at h
    · exact hdone (Or.inr ⟨_, rfl⟩) h
    · obtain ⟨_, _, h⟩ := bind_eq_ok h
      exact hdone (Or.inl rfl) h
  · obtain ⟨_, _, h⟩ := bind_eq_ok h
    obtain ⟨_, _, h⟩ := bind_eq_ok h
    exact hdone (Or.inl rfl) h
  all_goals first
    | exact hdone (Or.inl rfl) h
    | exact hdone (Or.inr ⟨_, rfl⟩) h

theorem safe_processSmp (h : smp.attr_mod < 2 ^ 32) :
    Avoids F (pibProcessSmp smp sw in_port_num) ↔ SmpFits smp sw := by
  have hgs : PIB_MGMT_METHOD_SET ≠ PIB_MGMT_METHOD_GET := by decide
  unfold pibProcessSmp
  by_cases hget : smp.method = PIB_MGMT_METHOD_GET
  · rw [if_pos hget, avoids_bind, safe_getMethod h]
    refine ⟨fun hs => ⟨fun _ => hs.1, fun hm => ?_⟩, fun hs => ⟨hs.portInfo (Or.inl hget), ?_⟩⟩
    · exact absurd (hm.symm.trans hget) hgs
    · exact fun _ _ => avoids_ok _
  rw [if_neg hget]
  by_cases hset : smp.method = PIB_MGMT_METHOD_SET
  · rw [if_pos hset, avoids_bind, safe_setMethod h]
    refine ⟨fun hs => ⟨fun _ => hs.1.1, fun _ => hs.1.2⟩, fun hs => ?_⟩
    refine ⟨⟨hs.portInfo (Or.inr hset), hs.random hset⟩, fun r hr => ?_⟩
    obtain ⟨hid, hmod⟩ := processSmpSetMethod_keeps hr
    dsimp only
    split
    · exact avoids_ok _
    refine avoids_bind.mpr ⟨(safe_getMethod (by rw [hmod]; exact h)).mpr ?_, fun _ _ => avoids_ok _⟩
    rw [hid, Smp.portNum, hmod]
    exact hs.portInfo (Or.inr hset)
  rw [if_neg hset]
  have hfits : SmpFits smp sw :=
    ⟨fun hm => absurd hm (not_or.mpr ⟨hget, hset⟩), fun hm => absurd hm hset⟩
  split <;> exact ⟨fun _ => hfits, fun _ => avoids_ok _⟩

end Smp

/-! ## The performance management agent -/

/-- `PerformanceSet(PortCounters)`, which ends in a call of itself. -/
def SetsCounters (mad : Smp) : Prop :=
  mad.base_version = 1 ∧ mad.class_version = 1 ∧ mad.method = PIB_MGMT_METHOD_SET ∧
    PmaAttr.ofId mad.attr_id = some .PORT_COUNTERS

section Pma

variable {sw : Switch} {mad : Smp} {port_num : Nat}

theorem pmaSelected_ok (h : sw.port_cnt = PIB_MAX_PORTS) : pmaSelected mad sw = .ok pmaReply := by
  simp only [pmaSelected]
  by_cases hm : mad.attr_mod ≠ 0
  · rw [if_pos hm]
  rw [if_neg hm]
  by_cases hp : sw.port_cnt ≤ byteAt mad.data 1
  · rw [if_pos hp]
  · rw [if_neg hp, index_ports (by omega)]
    rfl

theorem pmaOwn_ok (h : port_num < PIB_MAX_PORTS) : pmaOwn mad port_num = .ok pmaReply := by
  unfold pmaOwn
  by_cases hm : mad.attr_mod ≠ 0
  · rw [if_pos hm]
  · rw [if_neg hm, index_ports h]
    rfl

/-- The agent answers every packet but the one that sets the counters. -/
theorem pibProcessPmaMad_cases (mad : Smp) (hc : sw.port_cnt = PIB_MAX_PORTS) (hp : port_num < PIB_MAX_PORTS) :
    (SetsCounters mad ∧ pibProcessPmaMad mad sw port_num = .error .endless) ∨
      (¬SetsCounters mad ∧ ∃ ret, pibProcessPmaMad mad sw port_num = .ok ret) := by
  have hset : PIB_MGMT_METHOD_SET ≠ PIB_MGMT_METHOD_GET := by decide
  unfold pibProcessPmaMad
  by_cases hv : mad.base_version ≠ 1 ∨ mad.class_version ≠ 1
  · rw [if_pos hv]
    refine Or.inr ⟨fun h => ?_, _, rfl⟩
    rcases hv with hv | hv
    · exact hv h.1
    · exact hv h.2.1
  rw [if_neg hv]
  simp only [not_or, not_not] at hv
  by_cases hg : mad.method = PIB_MGMT_METHOD_GET
  · rw [if_pos hg]
    refine Or.inr ⟨fun h => hset (h.2.2.1.symm.trans hg), ?_⟩
    split
    · exact ⟨_, rfl⟩
    · exact ⟨_, pmaOwn_ok hp⟩
    · exact ⟨_, pmaOwn_ok hp⟩
    · exact ⟨_, pmaSelected_ok hc⟩
    · exact ⟨_, pmaSelected_ok hc⟩
    · exact ⟨_, pmaSelected_ok hc⟩
    · exact ⟨_, rfl⟩
  rw [if_neg hg]
  by_cases hs : mad.method = PIB_MGMT_METHOD_SET
  · rw [if_pos hs]
    split
    · rename_i ha
      exact Or.inr ⟨fun h => absurd (ha.symm.trans h.2.2.2) nofun, _, pmaSelected_ok hc⟩
    · rename_i ha
      exact Or.inr ⟨fun h => absurd (ha.symm.trans h.2.2.2) nofun, _, pmaSelected_ok hc⟩
    · rename_i ha
      exact Or.inl ⟨⟨hv.1, hv.2, hs, ha⟩, rfl⟩
    · rename_i hne
      exact Or.inr ⟨fun h => hne h.2.2.2, _, rfl⟩
  rw [if_neg hs]
  refine Or.inr ⟨fun h => hs h.2.2.1, ?_⟩
  split <;> exact ⟨_, rfl⟩

end Pma

/-! ## Management packets -/

/-- An SMP on its way out that the daemon survives: it has hops left or ends here, and
names ports that exist. -/
structure OutgoingFits (smp : Smp) (sw : Switch) : Prop where
  cnt : smp.hop_cnt ≠ 0
  ptr : smp.hop_ptr ≠ 0
  beyond : smp.hop_ptr ≠ smp.hop_cnt + 1
  next : smp.hop_ptr < smp.hop_cnt → smp.hop_ptr + 1 < PIB_SMP_MAX_PATH_HOPS ∧
    byteAt smp.initial_path (smp.hop_ptr + 1) < PIB_MAX_PORTS
  last : smp.hop_ptr = smp.hop_cnt → smp.hop_ptr < PIB_SMP_MAX_PATH_HOPS ∧ SmpFits smp sw

/-- An SMP on its way back that the daemon survives. -/
structure ReturningFits (smp : Smp) : Prop where
  ptr : smp.hop_ptr ≠ 0
  place : smp.hop_ptr - 1 < PIB_SMP_MAX_PATH_HOPS
  port : byteAt smp.return_path (smp.hop_ptr - 1) < PIB_MAX_PORTS

section Mad

variable {sw : Switch} {smp : Smp} {in_port_num : Nat} {lrh : Lrh}

theorem safe_sendPacket {out_port_num : Nat} :
    Avoids F (sendPacket sw out_port_num lrh smp) ↔ out_port_num < PIB_MAX_PORTS := by
  unfold sendPacket
  rw [safe_index_bind, Arr.has_natCast]
  refine and_iff_left ?_
  split <;> exact avoids_ok _

theorem and_failure (ret : Nat) : ¬(ret &&& PIB_MAD_RESULT_FAILURE ≠ 0) :=
  not_ne_iff.mpr (Nat.and_zero ret)

/-- What an SMP is processed for does not depend on its path. -/
theorem safe_processSmp_path {path : List UInt8} (h : smp.attr_mod < 2 ^ 32) :
    Avoids F (pibProcessSmp { smp with return_path := path } sw in_port_num) ↔
      SmpFits smp sw := by
  rw [safe_processSmp (by exact h)]
  exact ⟨fun h => ⟨h.portInfo, h.random⟩, fun h => ⟨h.portInfo, h.random⟩⟩

theorem safe_outgoingSmp (h : smp.attr_mod < 2 ^ 32) (hin : in_port_num < PIB_MAX_PORTS) :
    Avoids F (outgoingSmp sw in_port_num lrh smp) ↔ OutgoingFits smp sw := by
  unfold outgoingSmp
  dsimp only
  by_cases hc : smp.hop_cnt = 0
  · rw [if_pos hc]
    simp only [avoids_error, Stop.Grave.exit (F := F), not_true, false_iff]
    exact fun hf => hf.cnt hc
  rw [if_neg hc]
  by_cases hz : smp.hop_ptr = 0
  · rw [if_pos hz]
    simp only [avoids_error, Stop.Grave.exit (F := F), not_true, false_iff]
    exact fun hf => hf.ptr hz
  rw [if_neg hz]
  by_cases hlt : smp.hop_ptr < smp.hop_cnt
  · rw [if_pos hlt, safe_index_bind, safe_index_bind, Arr.has_natCast, Arr.has_natCast, avoids_bind,
      safe_sendPacket]
    constructor
    · rintro ⟨-, h1, h2, -⟩
      exact ⟨hc, hz, by omega, fun _ => ⟨h1, h2⟩, fun he => absurd he (Nat.ne_of_lt hlt)⟩
    · intro hf
      obtain ⟨h1, h2⟩ := hf.next hlt
      exact ⟨Nat.lt_of_succ_lt h1, h1, h2, fun _ _ => avoids_ok _⟩
  rw [if_neg hlt]
  by_cases heq : smp.hop_ptr = smp.hop_cnt
  · rw [if_pos heq, safe_index_bind, Arr.has_natCast, avoids_bind, safe_processSmp_path h]
    constructor
    · rintro ⟨h1, h2, -⟩
      exact ⟨hc, hz, by omega, fun hl => absurd hl hlt, fun _ => ⟨h1, h2⟩⟩
    · intro hf
      obtain ⟨h1, h2⟩ := hf.last heq
      refine ⟨h1, h2, fun r _ => ?_⟩
      rw [if_neg (and_failure _), avoids_bind, safe_sendPacket]
      exact ⟨hin, fun _ _ => avoids_ok _⟩
  rw [if_neg heq]
  by_cases hb : smp.hop_ptr = smp.hop_cnt + 1
  · rw [if_pos hb]
    simp only [avoids_error, Stop.Grave.exit (F := F), not_true, false_iff]
    exact fun hf => hf.beyond hb
  · rw [if_neg hb]
    simp only [avoids_ok, true_iff]
    exact ⟨hc, hz, hb, fun hl => absurd hl hlt, fun he => absurd he heq⟩

theorem safe_returningSmp : Avoids F (returningSmp sw lrh smp) ↔ ReturningFits smp := by
  unfold returningSmp
  by_cases hz : smp.hop_ptr = 0
  · rw [if_pos hz]
    simp only [avoids_error, Stop.Grave.exit (F := F), not_true, false_iff]
    exact fun hf => hf.ptr hz
  rw [if_neg hz, safe_index_bind, Arr.has_natCast, avoids_bind, safe_sendPacket]
  constructor
  · rintro ⟨h1, h2, -⟩
    exact ⟨hz, h1, h2⟩
  · intro hf
    exact ⟨hf.place, hf.port, fun _ _ => avoids_ok _⟩

end Mad

/-- A management packet that the daemon survives. -/
structure MadFits (smp : Smp) (sw : Switch) (dlid : Nat) : Prop where
  mgmtClass : smp.mgmt_class = PIB_MGMT_CLASS_SUBN_DIRECTED_ROUTE ∨
    smp.mgmt_class = PIB_MGMT_CLASS_SUBN_LID_ROUTED ∨ smp.mgmt_class = PIB_MGMT_CLASS_PERF_MGMT
  drLids : smp.mgmt_class = PIB_MGMT_CLASS_SUBN_DIRECTED_ROUTE →
    smp.dr_slid = PIB_LID_PERMISSIVE ∧ smp.dr_dlid = PIB_LID_PERMISSIVE
  outgoing : smp.mgmt_class = PIB_MGMT_CLASS_SUBN_DIRECTED_ROUTE →
    smp.status / PIB_SMP_DIRECTION = 0 → OutgoingFits smp sw
  returning : smp.mgmt_class = PIB_MGMT_CLASS_SUBN_DIRECTED_ROUTE →
    smp.status / PIB_SMP_DIRECTION ≠ 0 → ReturningFits smp
  lidRouted : smp.mgmt_class = PIB_MGMT_CLASS_SUBN_LID_ROUTED → dlid = (sw.ports 0).lid →
    SmpFits smp sw

/-- The management packet behind the headers, if it is whole. -/
def madOf (buffer : List UInt8) : Option Smp :=
  if buffer.length < DETH_SIZE + SMP_SIZE then none else some (Smp.decode (buffer.drop DETH_SIZE))

section Packets

variable {sw : Switch} {in_port_num : Nat} {lrh : Lrh} {buffer : List UInt8}

theorem decode_attr_mod (l : List UInt8) : (Smp.decode l).attr_mod < 2 ^ 32 := by
  have hword : (256 : Nat) ^ ((l.drop 20).take 4).length ≤ 256 ^ 4 :=
    Nat.pow_le_pow_right (by decide) (List.length_take_le 4 (l.drop 20))
  exact (ofBe_lt _).trans_le hword

theorem madOf_none (h : madOf buffer = none) :
    processMadPacket sw in_port_num lrh buffer = .ok (some (sw, [])) := by
  unfold madOf at h
  split at h
  · rename_i hlen
    unfold processMadPacket
    split
    · rfl
    · exact if_pos (by omega)
  · cases h

theorem madOf_some {smp : Smp} (h : madOf buffer = some smp) :
    ¬buffer.length < DETH_SIZE ∧ ¬buffer.length - DETH_SIZE < SMP_SIZE ∧
      smp = Smp.decode (buffer.drop DETH_SIZE) := by
  unfold madOf at h
  split at h
  · cases h
  · exact ⟨by omega, by omega, (Option.some.inj h).symm⟩

theorem safe_processMadPacket (hc : sw.port_cnt = PIB_MAX_PORTS) (hin : in_port_num < PIB_MAX_PORTS) :
    Avoids F (processMadPacket sw in_port_num lrh buffer) ↔
      ∀ smp ∈ madOf buffer, MadFits smp sw lrh.dlid ∧
        (F .endless → smp.mgmt_class = PIB_MGMT_CLASS_PERF_MGMT → ¬SetsCounters smp) := by
  cases hmad : madOf buffer with
  | none => simp [madOf_none hmad]
  | some smp =>
    obtain ⟨h1, h2, hsmp⟩ := madOf_some hmad
    have hmod : smp.attr_mod < 2 ^ 32 := by
      rw [hsmp]
      exact decode_attr_mod _
    have hone : ∀ P : Smp → Prop, (∀ x ∈ some smp, P x) ↔ P smp := by simp
    have hdl : PIB_MGMT_CLASS_SUBN_LID_ROUTED ≠ PIB_MGMT_CLASS_SUBN_DIRECTED_ROUTE := by decide
    rw [hone]
    unfold processMadPacket
    rw [if_neg h1, if_neg h2, ← hsmp]
    dsimp only
    by_cases hpm : smp.mgmt_class = PIB_MGMT_CLASS_PERF_MGMT
    · have hdr : smp.mgmt_class ≠ PIB_MGMT_CLASS_SUBN_DIRECTED_ROUTE := by rw [hpm]; decide
      have hlr : smp.mgmt_class ≠ PIB_MGMT_CLASS_SUBN_LID_ROUTED := by rw [hpm]; decide
      have hfits : MadFits smp sw lrh.dlid := ⟨Or.inr (Or.inr hpm), fun hd => absurd hd hdr,
        fun hd => absurd hd hdr, fun hd => absurd hd hdr, fun hl => absurd hl hlr⟩
      rw [if_neg hdr, if_neg hlr, if_pos hpm, and_iff_right hfits, forall_comm, imp_iff_right hpm]
      obtain ⟨hs, he⟩ | ⟨hs, ret, hret⟩ := pibProcessPmaMad_cases smp hc hin
      · rw [he]
        exact ⟨fun h hf => absurd hf (h .endless rfl), fun h => avoids_error.mpr fun hf => h hf hs⟩
      · rw [hret]
        refine ⟨fun _ _ => hs, fun _ => avoids_bind.mpr ⟨avoids_ok _, fun ret _ => ?_⟩⟩
        rw [if_neg (and_failure _), avoids_bind, safe_sendPacket]
        exact ⟨hin, fun _ _ => avoids_ok _⟩
    rw [and_iff_left fun _ hp => absurd hp hpm]
    by_cases hdr : smp.mgmt_class = PIB_MGMT_CLASS_SUBN_DIRECTED_ROUTE
    · have hnl : smp.mgmt_class ≠ PIB_MGMT_CLASS_SUBN_LID_ROUTED := fun h => hdl (h.symm.trans hdr)
      rw [if_pos hdr]
      by_cases hlid : smp.dr_slid ≠ PIB_LID_PERMISSIVE ∨ smp.dr_dlid ≠ PIB_LID_PERMISSIVE
      · rw [if_pos hlid]
        simp only [avoids_error, Stop.Grave.exit (F := F), not_true, false_iff]
        intro hf
        exact hlid.elim (fun h => h (hf.drLids hdr).1) fun h => h (hf.drLids hdr).2
      rw [if_neg hlid]
      simp only [not_or, not_not] at hlid
      by_cases hdir : smp.status / PIB_SMP_DIRECTION = 0
      · rw [if_pos hdir, avoids_map, safe_outgoingSmp hmod hin]
        exact ⟨fun hf => ⟨Or.inl hdr, fun _ => hlid, fun _ _ => hf, fun _ hd => absurd hdir hd,
          fun hl => absurd hl hnl⟩, fun hf => hf.outgoing hdr hdir⟩
      · rw [if_neg hdir, avoids_map, safe_returningSmp]
        exact ⟨fun hf => ⟨Or.inl hdr, fun _ => hlid, fun _ hd => absurd hd hdir, fun _ _ => hf,
          fun hl => absurd hl hnl⟩, fun hf => hf.returning hdr hdir⟩
    rw [if_neg hdr]
    by_cases hlr : smp.mgmt_class = PIB_MGMT_CLASS_SUBN_LID_ROUTED
    · rw [if_pos hlr]
      have hfits : (lrh.dlid = (sw.ports 0).lid → SmpFits smp sw) → MadFits smp sw lrh.dlid :=
        fun hs => ⟨Or.inr (Or.inl hlr), fun hd => absurd hd hdr, fun hd => absurd hd hdr,
          fun hd => absurd hd hdr, fun _ => hs⟩
      by_cases hown : lrh.dlid ≠ (sw.ports 0).lid
      · rw [if_pos hown]
        exact ⟨fun _ => hfits fun he => absurd he hown, fun _ => avoids_ok _⟩
      rw [if_neg hown, avoids_bind, safe_processSmp hmod]
      refine ⟨fun hs => hfits fun _ => hs.1, fun hf => ⟨hf.lidRouted hlr (not_ne_iff.mp hown), ?_⟩⟩
      intro r _
      split
      · exact avoids_ok _
      rw [if_neg (and_failure _), avoids_bind, safe_sendPacket]
      exact ⟨hin, fun _ _ => avoids_ok _⟩
    rw [if_neg hlr, if_neg hpm]
    simp only [avoids_error, Stop.Grave.exit (F := F), not_true, false_iff]
    exact fun hf => hf.mgmtClass.elim hdr fun h => h.elim hlr hpm

end Packets

/-! ## Relaying -/

/-- The unicast table has an entry for the LID, and it leads nowhere or to a port with
a node. -/
def UnicastFits (sw : Switch) (dlid : Nat) : Prop :=
  dlid < PIB_MCAST_LID_BASE ∧
    (sw.IsExternal (sw.ucast_fwd_table dlid) → (sw.ports (sw.ucast_fwd_table dlid)).sockaddr ≠ none)

/-- The multicast table has an entry for the LID, and it leads to ports with a node,
or back to the port of arrival. -/
def MulticastFits (sw : Switch) (in_port_num dlid : Nat) : Prop :=
  PIB_MCAST_LID_BASE ≤ dlid ∧
    ∀ i, sw.IsExternal i → i ≠ in_port_num →
      (sw.mcast_fwd_table (dlid - PIB_MCAST_LID_BASE) (i / 16)).testBit (i % 16) = true →
      (sw.ports i).sockaddr ≠ none

section Relay

variable {sw : Switch} {in_port_num dlid : Nat} {lrh : Lrh}

theorem safe_relayUnicast : Avoids F (relayUnicastPacket sw dlid lrh) ↔ UnicastFits sw dlid := by
  unfold relayUnicastPacket UnicastFits Switch.IsExternal
  rw [safe_index_bind, Arr.has_natCast]
  refine and_congr Iff.rfl ?_
  dsimp only
  split
  · rename_i hout
    simp only [avoids_pure, true_iff]
    omega
  · rename_i hout
    rw [imp_iff_right (by omega), avoids_bind, safe_sendmsg]
    exact and_iff_left fun _ _ => avoids_ok _

/-- The loop over the output ports: the entry is looked up for each one but the port
of arrival. -/
theorem safe_relayMulticastLoop (hd : dlid < PIB_MAX_LID) (outs : List Nat) (h : ∀ i ∈ outs, i < 256) :
    Avoids F (relayMulticastLoop sw in_port_num dlid lrh outs) ↔
      ∀ i ∈ outs, i ≠ in_port_num → PIB_MCAST_LID_BASE ≤ dlid ∧
        ((sw.mcast_fwd_table (dlid - PIB_MCAST_LID_BASE) (i / 16)).testBit (i % 16) = true →
          (sw.ports i).sockaddr ≠ none) := by
  induction outs with
  | nil => simp [relayMulticastLoop]
  | cons out rest ih =>
    have ih' := ih fun i hi => h i (List.mem_cons_of_mem _ hi)
    have hblock : Arr.pm_blocks.Has ((out / 16 : Nat) : Int) := by
      have := h out List.mem_cons_self
      rw [Arr.has_natCast]
      change _ < 16
      omega
    have hbase : Arr.mcast_fwd_table.Has ((dlid : Int) - PIB_MCAST_LID_BASE) ↔
        PIB_MCAST_LID_BASE ≤ dlid := by
      unfold Arr.Has
      have hsize : (Arr.mcast_fwd_table.size : Int) = PIB_MAX_LID - PIB_MCAST_LID_BASE := by decide
      rw [hsize]
      omega
    rw [relayMulticastLoop, List.forall_mem_cons]
    by_cases hin : in_port_num = out
    · rw [if_pos hin, ih']
      exact ⟨fun hr => ⟨fun hne => absurd hin.symm hne, hr⟩, fun hr => hr.2⟩
    rw [if_neg hin, safe_index_bind, safe_index_bind, hbase, imp_iff_right (Ne.symm hin), and_assoc]
    refine and_congr_right fun _ => ?_
    rw [and_iff_right hblock]
    dsimp only
    by_cases hbit : (sw.mcast_fwd_table (dlid - PIB_MCAST_LID_BASE) (out / 16)).testBit (out % 16) = false
    · rw [if_pos hbit, ih', hbit]
      simp
    rw [if_neg hbit, imp_iff_right (Bool.of_not_eq_false hbit), avoids_bind, safe_sendmsg]
    refine and_congr_right fun haddr => ?_
    obtain ⟨b, hb⟩ := Option.ne_none_iff_exists'.mp haddr
    have hsent : sendmsg sw out lrh = .ok { port_num := out, dest := b, lrh } := by
      unfold sendmsg
      rw [hb]
    rw [← ih']
    refine ⟨fun hr => (avoids_bind.mp (hr _ hsent)).1, fun hr x _ => ?_⟩
    exact avoids_bind.mpr ⟨hr, fun _ _ => avoids_ok _⟩

theorem mem_external : i ∈ sw.external ↔ sw.IsExternal i := by
  unfold Switch.external Switch.IsExternal
  rw [List.mem_map]
  constructor
  · rintro ⟨k, hk, rfl⟩
    have := List.mem_range.mp hk
    omega
  · rintro ⟨h1, h2⟩
    exact ⟨i - 1, List.mem_range.mpr (by omega), by omega⟩

theorem safe_relayMulticast (hc : sw.port_cnt = PIB_MAX_PORTS) (hd : dlid < PIB_MAX_LID) :
    Avoids F (relayMulticastPacket sw in_port_num dlid lrh) ↔
      MulticastFits sw in_port_num dlid := by
  have hports : ∀ i ∈ sw.external, i < 256 := by
    intro i hi
    have := (mem_external.mp hi).2
    rw [hc] at this
    exact this.trans (by decide)
  unfold relayMulticastPacket MulticastFits
  rw [safe_relayMulticastLoop hd _ hports]
  simp only [mem_external]
  constructor
  · intro h
    -- one of the first two ports is not the port of arrival
    have hone : ∃ i, sw.IsExternal i ∧ i ≠ in_port_num := by
      by_cases h1 : in_port_num = 1
      · exact ⟨2, ⟨by decide, by rw [hc]; decide⟩, by omega⟩
      · exact ⟨1, ⟨by decide, by rw [hc]; decide⟩, Ne.symm h1⟩
    obtain ⟨i, hi, hne⟩ := hone
    exact ⟨(h i hi hne).1, fun j hj hjne => (h j hj hjne).2⟩
  · rintro ⟨hbase, h⟩ i hi hne
    exact ⟨hbase, h i hi hne⟩

end Relay

/-! ## Any datagram -/

/-- A packet from a port that the daemon survives. -/
structure PacketFits (sw : Switch) (in_port_num : Nat) (lrh : Lrh) (dest_qp_num : Nat)
    (buffer : List UInt8) : Prop where
  /-- a management packet for the switch, or one that QP0 is asked to look at -/
  mad : dest_qp_num = PIB_QP0 ∨ (dest_qp_num = PIB_QP1 ∧
      (pibIsPermissiveLid lrh.dlid = true ∨ lrh.dlid = (sw.ports 0).lid)) →
    ∀ smp ∈ madOf buffer, MadFits smp sw lrh.dlid
  /-- an SMP routed by LID to another node -/
  smp : dest_qp_num = PIB_QP0 → ∀ smp ∈ madOf buffer,
    smp.mgmt_class = PIB_MGMT_CLASS_SUBN_LID_ROUTED → lrh.dlid ≠ (sw.ports 0).lid →
    UnicastFits sw lrh.dlid
  multicast : dest_qp_num ≠ PIB_QP0 → pibIsPermissiveLid lrh.dlid = false →
    lrh.dlid ≠ (sw.ports 0).lid →
    dest_qp_num = PIB_MULTICAST_QPN ∨ pibIsUnicastLid lrh.dlid = false →
    MulticastFits sw in_port_num lrh.dlid
  unicast : dest_qp_num ≠ PIB_QP0 → pibIsPermissiveLid lrh.dlid = false →
    lrh.dlid ≠ (sw.ports 0).lid → dest_qp_num ≠ PIB_MULTICAST_QPN →
    pibIsUnicastLid lrh.dlid = true → UnicastFits sw lrh.dlid

section Dispatch

variable {sw : Switch} {in_port_num dest_qp_num : Nat} {lrh : Lrh} {buffer : List UInt8}

/-- When a management packet is left to be relayed. -/
theorem processMadPacket_relay (h : processMadPacket sw in_port_num lrh buffer = .ok none) :
    ∃ smp ∈ madOf buffer, smp.mgmt_class = PIB_MGMT_CLASS_SUBN_LID_ROUTED ∧
      lrh.dlid ≠ (sw.ports 0).lid := by
  have hmap : ∀ {x : Outcome}, some <$> x ≠ .ok none := by
    intro x hx
    obtain ⟨r, -, hr⟩ := map_eq_ok hx
    cases hr
  unfold processMadPacket at h
  by_cases h1 : buffer.length < DETH_SIZE
  · rw [if_pos h1] at h
    cases h
  rw [if_neg h1] at h
  by_cases h2 : buffer.length - DETH_SIZE < SMP_SIZE
  · rw [if_pos h2] at h
    cases h
  rw [if_neg h2] at h
  dsimp only at h
  refine ⟨Smp.decode (buffer.drop DETH_SIZE), by unfold madOf; rw [if_neg (by omega)]; rfl, ?_⟩
  generalize Smp.decode (buffer.drop DETH_SIZE) = smp at h ⊢
  split at h
  · split at h
    · cases h
    split at h
    · exact absurd h hmap
    · exact absurd h hmap
  split at h
  · rename_i hc
    split at h
    · rename_i hd
      exact ⟨hc, hd⟩
    obtain ⟨⟨⟨ret, smp'⟩, sw'⟩, -, h⟩ := bind_eq_ok h
    dsimp only at h
    split at h
    · cases h
    split at h
    · cases h
    · obtain ⟨sent, -, h⟩ := bind_eq_ok h
      cases h
  · split at h
    · obtain ⟨ret, -, h⟩ := bind_eq_ok h
      split at h
      · cases h
      · obtain ⟨sent, -, h⟩ := bind_eq_ok h
        cases h
    · cases h

/-- An SMP for another node is left to be relayed. -/
theorem processMadPacket_lidRouted (in_port_num : Nat) {smp : Smp} (hm : madOf buffer = some smp)
    (hc : smp.mgmt_class = PIB_MGMT_CLASS_SUBN_LID_ROUTED) (hd : lrh.dlid ≠ (sw.ports 0).lid) :
    processMadPacket sw in_port_num lrh buffer = .ok none := by
  obtain ⟨h1, h2, hsmp⟩ := madOf_some hm
  have hdl : PIB_MGMT_CLASS_SUBN_LID_ROUTED ≠ PIB_MGMT_CLASS_SUBN_DIRECTED_ROUTE := by decide
  unfold processMadPacket
  rw [if_neg h1, if_neg h2, ← hsmp]
  dsimp only
  rw [if_neg (by rw [hc]; exact hdl), if_pos hc, if_pos hd]

/-- The packet is looked into by the switch. -/
def MadTaken (sw : Switch) (lrh : Lrh) (dest_qp_num : Nat) : Prop :=
  dest_qp_num = PIB_QP0 ∨ (dest_qp_num = PIB_QP1 ∧
    (pibIsPermissiveLid lrh.dlid = true ∨ lrh.dlid = (sw.ports 0).lid))

theorem safe_dispatch (hc : sw.port_cnt = PIB_MAX_PORTS) (hin : in_port_num < PIB_MAX_PORTS)
    (hd : lrh.dlid < PIB_MAX_LID) :
    Avoids F (dispatch sw in_port_num lrh dest_qp_num buffer) ↔
      (dest_qp_num < QPN_MOD → PacketFits sw in_port_num lrh dest_qp_num buffer) ∧
        (F .endless → MadTaken sw lrh dest_qp_num → ∀ smp ∈ madOf buffer,
          smp.mgmt_class = PIB_MGMT_CLASS_PERF_MGMT → ¬SetsCounters smp) := by
  have h0m : PIB_QP0 < QPN_MOD := by decide
  have h1m : PIB_QP1 < QPN_MOD := by decide
  unfold dispatch
  dsimp only
  by_cases hq : QPN_MOD ≤ dest_qp_num
  · rw [if_pos hq]
    refine ⟨fun _ => ⟨fun h => absurd h (by omega), fun _ h => ?_⟩, fun _ => avoids_ok _⟩
    rcases h with h | ⟨h, -⟩ <;> omega
  rw [if_neg hq, imp_iff_right (Nat.lt_of_not_le hq)]
  by_cases h0 : dest_qp_num = PIB_QP0
  · rw [if_pos h0, avoids_bind, safe_processMadPacket hc hin]
    constructor
    · rintro ⟨hmad, hrest⟩
      refine ⟨⟨fun _ smp hm => (hmad smp hm).1, fun _ smp hm hcl hne => ?_, fun h => absurd h0 h,
        fun h => absurd h0 h⟩, fun hf _ smp hm => (hmad smp hm).2 hf⟩
      have hnone := processMadPacket_lidRouted in_port_num hm hcl hne
      exact safe_relayUnicast.mp (avoids_bind.mp (hrest none hnone)).1
    · rintro ⟨hf, hset⟩
      refine ⟨fun smp hm => ⟨hf.mad (Or.inl h0) smp hm, fun he => hset he (Or.inl h0) smp hm⟩,
        fun r hr => ?_⟩
      cases r with
      | some r => exact avoids_ok _
      | none =>
        obtain ⟨smp, hm, hcl, hne⟩ := processMadPacket_relay hr
        exact avoids_bind.mpr ⟨safe_relayUnicast.mpr (hf.smp h0 smp hm hcl hne), fun _ _ => avoids_ok _⟩
  rw [if_neg h0]
  by_cases hother : pibIsPermissiveLid lrh.dlid = false ∧ lrh.dlid ≠ (sw.ports 0).lid
  · rw [if_pos hother]
    have hmad : ¬MadTaken sw lrh dest_qp_num := by
      rintro (h | ⟨-, h | h⟩)
      · exact h0 h
      · rw [hother.1] at h
        cases h
      · exact hother.2 h
    rw [and_iff_left fun _ h => absurd h hmad]
    by_cases hmc : dest_qp_num = PIB_MULTICAST_QPN ∨ pibIsUnicastLid lrh.dlid = false
    · rw [if_pos hmc, avoids_bind, safe_relayMulticast hc hd, and_iff_left fun _ _ => avoids_pure _]
      constructor
      · intro hs
        refine ⟨fun h => absurd h hmad, fun h => absurd h h0, fun _ _ _ _ => hs, fun _ _ _ hn hu => ?_⟩
        rcases hmc with h | h
        · exact absurd h hn
        · rw [hu] at h
          cases h
      · exact fun hf => hf.multicast h0 hother.1 hother.2 hmc
    · rw [if_neg hmc, avoids_bind, safe_relayUnicast, and_iff_left fun _ _ => avoids_pure _]
      obtain ⟨hn, hu⟩ := not_or.mp hmc
      constructor
      · exact fun hs => ⟨fun h => absurd h hmad, fun h => absurd h h0, fun _ _ _ h => absurd h hmc,
          fun _ _ _ _ _ => hs⟩
      · exact fun hf => hf.unicast h0 hother.1 hother.2 hn (Bool.of_not_eq_false hu)
  rw [if_neg hother]
  have hown : pibIsPermissiveLid lrh.dlid = true ∨ lrh.dlid = (sw.ports 0).lid := by
    by_contra hno
    obtain ⟨ha, hb⟩ := not_or.mp hno
    exact hother ⟨Bool.of_not_eq_true ha, hb⟩
  have hfits : (MadTaken sw lrh dest_qp_num → ∀ smp ∈ madOf buffer, MadFits smp sw lrh.dlid) →
      PacketFits sw in_port_num lrh dest_qp_num buffer := fun hmad =>
    ⟨hmad, fun h => absurd h h0, fun _ ha hb => absurd ⟨ha, hb⟩ hother,
      fun _ ha hb => absurd ⟨ha, hb⟩ hother⟩
  by_cases h1 : dest_qp_num = PIB_QP1
  · rw [if_pos h1, avoids_bind, safe_processMadPacket hc hin]
    constructor
    · rintro ⟨hmad, -⟩
      exact ⟨hfits fun _ smp hm => (hmad smp hm).1, fun he _ smp hm => (hmad smp hm).2 he⟩
    · rintro ⟨hf, hset⟩
      refine ⟨fun smp hm => ⟨hf.mad (Or.inr ⟨h1, hown⟩) smp hm,
        fun he => hset he (Or.inr ⟨h1, hown⟩) smp hm⟩, fun r _ => ?_⟩
      cases r <;> exact avoids_ok _
  · have hmad : ¬MadTaken sw lrh dest_qp_num := not_or.mpr ⟨h0, fun h => h1 h.1⟩
    rw [if_neg h1]
    exact ⟨fun _ => ⟨hfits fun h => absurd h hmad, fun _ h => absurd h hmad⟩, fun _ => avoids_ok _⟩

end Dispatch

/-- What `receive_packet` finds in a message. -/
structure Frame where
  port_guid : Nat
  lrh : Lrh
  /-- `none` for a link command, which has no transport header -/
  dest_qp_num : Option Nat
  buffer : List UInt8

/-- The message as it is read; `none` if it is dropped at once. -/
def frameOf (message : List UInt8) : Option Frame :=
  let packet := message.take (message.length - FOOTER_SIZE)
  let port_guid := ofBe (message.drop (message.length - FOOTER_SIZE))
  if message.length < FOOTER_SIZE ∨ port_guid = 0 then none
  else (parsePacketHeader packet).toOption.map fun headers =>
    { port_guid, lrh := Lrh.decode packet
      dest_qp_num := headers.bth.map fun bth => (Bth.decode (packet.drop bth)).destQP
      buffer := packet.drop headers.size }

/-- What is done with it. -/
def Frame.handle (f : Frame) (sw : Switch) (sockaddr : SockAddr) : Outcome :=
  f.dest_qp_num.elim (processRawPacket sw f.port_guid sockaddr f.lrh f.buffer) fun dest_qp_num =>
    if detectInPort sw f.port_guid = 0 then .ok (sw, [])
    else dispatch sw (detectInPort sw f.port_guid) f.lrh dest_qp_num f.buffer

theorem receivePacket_frame (sw : Switch) (a : SockAddr) (message : List UInt8) :
    receivePacket sw a message =
      (frameOf message).elim (.ok (sw, [])) fun f => f.handle sw a := by
  unfold receivePacket frameOf
  dsimp only
  by_cases hlen : message.length < FOOTER_SIZE
  · rw [if_pos hlen, if_pos (Or.inl hlen)]
    rfl
  rw [if_neg hlen]
  by_cases hg : ofBe (message.drop (message.length - FOOTER_SIZE)) = 0
  · rw [if_pos hg, if_pos (Or.inr hg)]
    rfl
  rw [if_neg hg, if_neg (not_or.mpr ⟨hlen, hg⟩)]
  cases parsePacketHeader (message.take (message.length - FOOTER_SIZE)) with
  | error e => rfl
  | ok headers =>
    obtain ⟨size, grh, bth⟩ := headers
    cases bth <;> rfl

theorem frameOf_spec {message : List UInt8} {f : Frame} (h : frameOf message = some f) :
    f.port_guid ≠ 0 ∧ f.lrh.dlid < PIB_MAX_LID := by
  unfold frameOf at h
  dsimp only at h
  split at h
  · cases h
  rename_i hg
  obtain ⟨headers, -, rfl⟩ := Option.map_eq_some_iff.mp h
  refine ⟨fun h0 => hg (Or.inr h0), ?_⟩
  have hhalf : (256 : Nat) ^ ((message.take (message.length - FOOTER_SIZE)).take 2).length ≤ 256 ^ 2 :=
    Nat.pow_le_pow_right (by decide) (List.length_take_le 2 _)
  exact (ofBe_lt _).trans_le hhalf

/-- A message that the daemon survives. -/
structure Frame.Fits (f : Frame) (sw : Switch) : Prop where
  command : f.dest_qp_num = none → 4 ≤ f.buffer.length →
    LinkFits sw f.port_guid (wordAt f.buffer 0)
  packet : ∀ q, f.dest_qp_num = some q → detectInPort sw f.port_guid ≠ 0 → q < QPN_MOD →
    PacketFits sw (detectInPort sw f.port_guid) f.lrh q f.buffer

/-- A message that sets the counters of a port: the loop over them does not end. -/
def Frame.SetsCounters (f : Frame) (sw : Switch) : Prop :=
  ∃ q, f.dest_qp_num = some q ∧ detectInPort sw f.port_guid ≠ 0 ∧
    (q = PIB_QP0 ∨ (q = PIB_QP1 ∧
      (pibIsPermissiveLid f.lrh.dlid = true ∨ f.lrh.dlid = (sw.ports 0).lid))) ∧
    ∃ smp ∈ madOf f.buffer, smp.mgmt_class = PIB_MGMT_CLASS_PERF_MGMT ∧ Netd.SetsCounters smp

section Frames

variable {sw : Switch} {f : Frame} {a : SockAddr}

theorem Wired.detect_lt (h : Wired sw) (hd : detectInPort sw g ≠ 0) :
    detectInPort sw g < PIB_MAX_PORTS := by
  rw [← h.cnt]
  exact (detectInPort_some hd).1.2

theorem safe_frame (h : Wired sw) (hg : f.port_guid ≠ 0) (hd : f.lrh.dlid < PIB_MAX_LID) :
    Avoids F (f.handle sw a) ↔ f.Fits sw ∧ (F .endless → ¬f.SetsCounters sw) := by
  unfold Frame.handle
  cases hq : f.dest_qp_num with
  | none =>
    have hset : ¬f.SetsCounters sw := by
      rintro ⟨q, hq', -⟩
      cases hq.symm.trans hq'
    rw [Option.elim_none, safe_processRawPacket h hg, and_iff_left fun _ => hset]
    refine ⟨fun hs => ⟨fun _ => hs, fun q hq' => ?_⟩, fun hs => hs.command hq⟩
    cases hq.symm.trans hq'
  | some q =>
    rw [Option.elim_some]
    have hfits : (∀ q', f.dest_qp_num = some q' → detectInPort sw f.port_guid ≠ 0 → q' < QPN_MOD →
        PacketFits sw (detectInPort sw f.port_guid) f.lrh q' f.buffer) → f.Fits sw := fun hp =>
      ⟨fun hn => (nomatch hq.symm.trans hn), hp⟩
    by_cases hp : detectInPort sw f.port_guid = 0
    · rw [if_pos hp]
      refine ⟨fun _ => ⟨hfits fun _ _ hp' => absurd hp hp', fun _ => ?_⟩, fun _ => avoids_ok _⟩
      rintro ⟨_, -, hp', -⟩
      exact hp' hp
    rw [if_neg hp, safe_dispatch h.cnt (h.detect_lt hp) hd]
    refine and_congr ⟨fun hs => hfits fun q' hq' _ hlt => ?_, fun hs => hs.packet q hq hp⟩
      (forall_congr' fun _ => ?_)
    · obtain rfl := Option.some.inj (hq.symm.trans hq')
      exact hs hlt
    constructor
    · rintro hs ⟨q', hq', -, hqp, smp, hm, hcl, hset⟩
      obtain rfl := Option.some.inj (hq.symm.trans hq')
      exact hs hqp smp hm hcl hset
    · exact fun hs hqp smp hm hcl hset => hs ⟨q, hq, hp, hqp, smp, hm, hcl, hset⟩

end Frames

/-! ## Every reachable switch -/

/-- The states of the daemon: it has started, and has come back from every message
so far. -/
inductive Reachable : Switch → Prop
  | start (hca_guid_base : Nat) : Reachable { hca_guid_base }
  | step {sw sw' : Switch} {a : SockAddr} {message : List UInt8} {sent : List Sent}
      (h : Reachable sw) (hr : receivePacket sw a message = .ok (sw', sent)) : Reachable sw'

section Wiring

variable {sw sw' : Switch}

theorem setPortInfo_portNum {p : Nat} {smp : Smp} (h : handle sw (.setPortInfo p smp) = .ok sw') :
    smp.portNum < PIB_MAX_PORTS := by
  obtain ⟨r, hr, -⟩ := map_eq_ok h
  have hm : smp.asSetPortInfo.method = PIB_MGMT_METHOD_SET := rfl
  unfold pibProcessSmp at hr
  rw [if_neg (by rw [hm]; decide), if_pos hm] at hr
  obtain ⟨s, hs, -⟩ := bind_eq_ok hr
  have hs' : subnSetPortinfo smp.asSetPortInfo sw = .ok s := hs
  obtain ⟨u, hi, -⟩ := bind_eq_ok hs'
  have hhas : Arr.ports.Has ((smp.portNum : Nat) : Int) := by
    refine safe_index (F := Stop.Fatal).mp ?_
    have hi' : index .ports ((smp.portNum : Nat) : Int) = .ok u := hi
    rw [hi']
    exact avoids_ok _
  exact Arr.has_natCast.mp hhas

theorem Wired.setPort (h : Wired sw) (i : Nat) {port : SwPort}
    (hp : port.port_guid ≠ 0 → port.sockaddr ≠ none) : Wired (sw.setPort i port) := by
  refine ⟨h.cnt, fun j hj hg => ?_⟩
  by_cases hji : j = i
  · subst hji
    rw [Switch.setPort_self] at hg ⊢
    exact hp hg
  · rw [sw.setPort_ne _ hji] at hg ⊢
    exact h.addressed j hj hg

theorem Wired.handle (h : Wired sw) {m : LinkMsg} (hm : Netd.handle sw m = .ok sw') : Wired sw' := by
  cases m with
  | connect g a =>
    obtain ⟨⟨s, sent⟩, hc, rfl⟩ := map_eq_ok hm
    unfold connect at hc
    dsimp only at hc
    split at hc
    · cases hc
    obtain ⟨_, _, hc⟩ := bind_eq_ok hc
    obtain ⟨_, _, hc⟩ := bind_eq_ok hc
    obtain ⟨rfl, -⟩ := Prod.mk.inj (Except.ok.inj hc)
    exact h.setPort _ fun _ => nofun
  | disconnect g a =>
    obtain ⟨⟨s, sent⟩, hc, rfl⟩ := map_eq_ok hm
    unfold disconnect at hc
    dsimp only at hc
    split at hc
    · obtain ⟨rfl, -⟩ := Prod.mk.inj (Except.ok.inj hc)
      exact h
    obtain ⟨_, _, hc⟩ := bind_eq_ok hc
    obtain ⟨_, _, hc⟩ := bind_eq_ok hc
    obtain ⟨rfl, -⟩ := Prod.mk.inj (Except.ok.inj hc)
    exact h.setPort _ fun hg => absurd rfl hg
  | setPortInfo p smp =>
    rw [handle_setPortInfo p (setPortInfo_portNum hm)] at hm
    obtain rfl := Except.ok.inj hm
    refine ⟨h.cnt, fun j hj hg => ?_⟩
    obtain ⟨hguid, haddr⟩ := afterSet_keeps smp j
    rw [hguid] at hg
    rw [haddr]
    exact h.addressed j hj hg

theorem Reachable.wired (h : Reachable sw) : Wired sw := by
  induction h with
  | start g => exact ⟨rfl, fun _ _ hg => absurd rfl hg⟩
  | step _ hr ih =>
    rcases receivePacket_links hr with ⟨hcnt, hlink⟩ | ⟨m, hm⟩
    · refine ⟨hcnt.trans ih.cnt, fun i hi hg => ?_⟩
      obtain ⟨hguid, hrest⟩ := Prod.mk.inj (hlink i)
      rw [hguid] at hg
      rw [(Prod.mk.inj hrest).1]
      exact ih.addressed i ⟨hi.1, hcnt ▸ hi.2⟩ hg
    · exact ih.handle hm

end Wiring

/-- Which messages the daemon comes back from, in every reachable state: those that fit
call no `exit` and leave no array; of these, one that sets the counters is never done. -/
theorem receivePacket_survives {sw : Switch} (h : Reachable sw) (sockaddr : SockAddr)
    (message : List UInt8) :
    (Avoids Stop.Fatal (receivePacket sw sockaddr message) ↔
      ∀ f ∈ frameOf message, f.Fits sw) ∧
    ((∃ r, receivePacket sw sockaddr message = .ok r) ↔
      ∀ f ∈ frameOf message, f.Fits sw ∧ ¬f.SetsCounters sw) := by
  rw [receivePacket_frame, ok_iff_avoids]
  cases hf : frameOf message with
  | none => simp
  | some f =>
    obtain ⟨hg, hd⟩ := frameOf_spec hf
    have hone : ∀ P : Frame → Prop, (∀ x ∈ some f, P x) ↔ P f := by simp
    rw [Option.elim_some, safe_frame h.wired hg hd, safe_frame h.wired hg hd, hone, hone]
    exact ⟨and_iff_left nofun, and_congr_right fun _ => imp_iff_right trivial⟩

/-- The link command CONNECT of the node with GUID 7: header, command, GUID. -/
def connectMessage : List UInt8 :=
  [0, 0, 0, 0, 0, 0, 0, 3] ++ [0, 0, 0, 1] ++ [0, 0, 0, 0, 0, 0, 0, 7]

/-- A packet of that node for the multicast queue pair under the unicast LID 5. -/
def multicastMessage : List UInt8 :=
  [0, 5, 0, 2, 0, 1, 0, 5] ++ [100, 0, 0xFF, 0xFF, 0, 0xFF, 0xFF, 0xFF, 0, 0, 0, 0] ++
    [0, 0, 0, 0, 0, 0, 0, 7]

theorem receivePacket_survives_connect :
    Reachable {} ∧ (∃ f, f ∈ frameOf connectMessage) ∧
      ∀ f ∈ frameOf connectMessage, f.Fits {} ∧ ¬f.SetsCounters {} :=
  ⟨.start 0, ⟨_, rfl⟩, (receivePacket_survives (.start 0) ⟨1, 10⟩ connectMessage).2.mp ⟨_, rfl⟩⟩

/-- The node connects and sends the packet: the multicast table is read below its
start. -/
theorem multicast_to_unicast_lid :
    ∃ sw sent, Reachable sw ∧ receivePacket {} ⟨1, 10⟩ connectMessage = .ok (sw, sent) ∧
      receivePacket sw ⟨1, 10⟩ multicastMessage =
        .error (.index .mcast_fwd_table (5 - PIB_MCAST_LID_BASE)) :=
  ⟨_, _, .step (.start 0) (rfl : receivePacket {} ⟨1, 10⟩ connectMessage = .ok (_, _)), rfl, rfl⟩

end pib.Netd
