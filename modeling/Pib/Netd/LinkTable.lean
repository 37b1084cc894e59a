-- The table of links of `pibnetd`: which node is connected at which port. Link
-- commands and `SubnSet(PortInfo)` both write to it.
import Pib.Netd.Daemon
import Pib.Lib.Stopping

namespace pib.Netd

open Stopping

variable {g in_port_num : Nat} {smp : Smp} {sw' : Switch} {sent : List Sent} {lrh : Lrh}
    {buffer : List UInt8}

/-! ## Finding a port -/

section Detect

variable {sw : Switch} {port_guid : Nat}

theorem detectFrom_some {fuel start : Nat} (hs : 0 < start) (h : detectFrom sw port_guid fuel start ≠ 0) :
    start ≤ detectFrom sw port_guid fuel start ∧
      detectFrom sw port_guid fuel start < start + fuel ∧
      (sw.ports (detectFrom sw port_guid fuel start)).port_guid = port_guid := by
  induction fuel generalizing start with
  | zero => exact absurd rfl h
  | succ fuel ih =>
    rw [detectFrom] at h ⊢
    split
    · rename_i hg
      exact ⟨Nat.le_refl _, by omega, hg.symm⟩
    rename_i hg
    rw [if_neg hg] at h
    obtain ⟨h1, h2, h3⟩ := ih (by omega) h
    exact ⟨by omega, by omega, h3⟩

theorem detectFrom_none {fuel start : Nat} (hs : 0 < start) (h : detectFrom sw port_guid fuel start = 0)
    {i : Nat} (hi : start ≤ i) (hi' : i < start + fuel) : (sw.ports i).port_guid ≠ port_guid := by
  induction fuel generalizing start with
  | zero => omega
  | succ fuel ih =>
    rw [detectFrom] at h
    split at h
    · omega
    rename_i hg
    rcases Nat.eq_or_lt_of_le hi with rfl | hlt
    · exact Ne.symm hg
    · exact ih (by omega) h hlt (by omega)

/-- A port of the switch other than the management port. -/
def Switch.IsExternal (sw : Switch) (i : Nat) : Prop := 0 < i ∧ i < sw.port_cnt

instance (sw : Switch) (i : Nat) : Decidable (sw.IsExternal i) :=
  inferInstanceAs (Decidable (_ ∧ _))

theorem detectInPort_some (h : detectInPort sw port_guid ≠ 0) :
    sw.IsExternal (detectInPort sw port_guid) ∧
      (sw.ports (detectInPort sw port_guid)).port_guid = port_guid := by
  obtain ⟨h1, h2, h3⟩ := detectFrom_some Nat.one_pos h
  refine ⟨⟨h1, ?_⟩, h3⟩
  unfold detectInPort
  omega

theorem detectInPort_none (h : detectInPort sw port_guid = 0) {i : Nat} (hi : sw.IsExternal i) :
    (sw.ports i).port_guid ≠ port_guid := by
  obtain ⟨h1, h2⟩ := hi
  exact detectFrom_none Nat.one_pos h h1 (by omega)

end Detect

/-! ## The messages that write to the table -/

/-- A link command from a node, or `SubnSet(PortInfo)`. -/
inductive LinkMsg
  | connect (port_guid : Nat) (sockaddr : SockAddr)
  | disconnect (port_guid : Nat) (sockaddr : SockAddr)
  | setPortInfo (in_port_num : Nat) (smp : Smp)

def PIB_SMP_ATTR_PORT_INFO : Nat := 0x0015

/-- The SMP as a `SubnSet(PortInfo)`. -/
def Smp.asSetPortInfo (smp : Smp) : Smp :=
  { smp with method := PIB_MGMT_METHOD_SET, attr_id := PIB_SMP_ATTR_PORT_INFO }

/-- The switch after the message. -/
def handle (sw : Switch) : LinkMsg → Except Stop Switch
  | .connect port_guid sockaddr => Prod.fst <$> connect sw port_guid sockaddr {}
  | .disconnect port_guid _ => Prod.fst <$> disconnect sw port_guid {}
  | .setPortInfo in_port_num smp => Prod.snd <$> pibProcessSmp smp.asSetPortInfo sw in_port_num

/-- The switch after the messages, in order. -/
def handleAll (sw : Switch) : List LinkMsg → Except Stop Switch
  | [] => .ok sw
  | m :: ms => do
    let sw ← handle sw m
    handleAll sw ms

/-- The port that a `SubnSet(PortInfo)` is for. -/
def Smp.portNum (smp : Smp) : Nat := smp.attr_mod % 2 ^ 8

/-- The message comes from a node with a GUID, finds a port free where it needs one,
and sets a port only while a node is connected to it. -/
def Orderly (sw : Switch) : LinkMsg → Prop
  | .connect port_guid _ => port_guid ≠ 0 ∧ connectPort sw port_guid ≠ 0
  | .disconnect port_guid _ => port_guid ≠ 0
  | .setPortInfo _ smp =>
    -- the LID of the subnet manager is one of a node
    if smp.portNum = 0 then halfAt smp.data 18 < PIB_MCAST_LID_BASE
    else smp.portNum < sw.port_cnt ∧ (sw.ports smp.portNum).port_guid ≠ 0

instance (sw : Switch) (m : LinkMsg) : Decidable (Orderly sw m) := by
  cases m <;> simp only [Orderly] <;> infer_instance

/-- Each message is orderly where it comes. -/
def AllOrderly : Switch → List LinkMsg → Prop
  | _, [] => True
  | sw, m :: ms => Orderly sw m ∧
      match handle sw m with
      | .ok sw' => AllOrderly sw' ms
      | .error _ => True

/-- The source address of the last CONNECT with each GUID. -/
def noted (last : Nat → Option SockAddr) : LinkMsg → Nat → Option SockAddr
  | .connect g sockaddr => Function.update last g (some sockaddr)
  | _ => last

def lastConnect (ms : List LinkMsg) : Nat → Option SockAddr := ms.foldl noted fun _ => none

/-! ## The invariant -/

/-- What a port is reported with: state, physical state. -/
def reportedState (sw : Switch) (i : Nat) : Nat := byteAt (portInfo (sw.ports i) i) 32 % 2 ^ 4
def reportedPhysState (sw : Switch) (i : Nat) : Nat := byteAt (portInfo (sw.ports i) i) 33 / 2 ^ 4

/-- The laws of the table. `last` gives the address of the last CONNECT with a GUID. -/
structure Linked (sw : Switch) (last : Nat → Option SockAddr) : Prop where
  distinct : ∀ i j, i < sw.port_cnt → j < sw.port_cnt → (sw.ports i).port_guid ≠ 0 →
    (sw.ports i).port_guid = (sw.ports j).port_guid → i = j
  addressed : ∀ i, sw.IsExternal i → ((sw.ports i).port_guid ≠ 0 ↔ (sw.ports i).sockaddr ≠ none)
  down : ∀ i, sw.IsExternal i → (sw.ports i).port_guid = 0 →
    reportedPhysState sw i ≠ PIB_PHYS_PORT_LINK_UP ∧ reportedState sw i < IBV_PORT_INIT
  source : ∀ i, sw.IsExternal i → (sw.ports i).port_guid ≠ 0 →
    (sw.ports i).sockaddr = last (sw.ports i).port_guid

/-- What a link command may do: it changes no port but the one with its GUID, and a
GUID that is connected stays where it is. -/
structure Local (sw : Switch) (sw' : Switch) (port_guid : Nat) : Prop where
  others : ∀ j, (sw.ports j).port_guid ≠ port_guid → (sw'.ports j).port_guid ≠ port_guid →
    sw'.ports j = sw.ports j
  cnt : sw'.port_cnt = sw.port_cnt

/-- The laws of one step. -/
def StepLaw (sw sw' : Switch) : LinkMsg → Prop
  | .connect g sockaddr => Local sw sw' g ∧
      (∀ i, sw.IsExternal i → (sw.ports i).port_guid = g → (sw'.ports i).port_guid = g) ∧
      ∃ i, sw.IsExternal i ∧ (sw'.ports i).port_guid = g ∧ (sw'.ports i).sockaddr = some sockaddr
  | .disconnect g _ => Local sw sw' g ∧
      ∀ i, sw.IsExternal i → (sw'.ports i).port_guid ≠ g
  | .setPortInfo .. => True

/-- The invariant: `down` is stronger here, in the terms of the port. -/
structure LinkInv (sw : Switch) (last : Nat → Option SockAddr) : Prop where
  cnt : sw.port_cnt = PIB_MAX_PORTS
  port0 : (sw.ports 0).port_guid = 0
  smLid : (sw.ports 0).sm_lid < PIB_MCAST_LID_BASE
  distinct : ∀ i j, i < sw.port_cnt → j < sw.port_cnt → (sw.ports i).port_guid ≠ 0 →
    (sw.ports i).port_guid = (sw.ports j).port_guid → i = j
  free : ∀ i, sw.IsExternal i → (sw.ports i).port_guid = 0 →
    (sw.ports i).sockaddr = none ∧ (sw.ports i).state = IBV_PORT_DOWN ∧
      (sw.ports i).phys_state = PIB_PHYS_PORT_POLLING
  source : ∀ i, sw.IsExternal i → (sw.ports i).port_guid ≠ 0 → ∃ a,
    (sw.ports i).sockaddr = some a ∧ last (sw.ports i).port_guid = some a
  linkDown : ∀ i, (sw.ports i).link_down_default_state < 2 ^ 4

theorem linkInv_init (g : Nat) : LinkInv { hca_guid_base := g } fun _ => none where
  cnt := rfl
  port0 := rfl
  smLid := Nat.zero_lt_of_ne_zero (by decide)
  distinct _ _ _ _ h _ := absurd rfl h
  free _ _ _ := ⟨rfl, rfl, rfl⟩
  source _ _ h := absurd rfl h
  linkDown _ := Nat.two_pow_pos 4

/-- The bytes of a port that is neither connected nor set. -/
theorem reported_free {sw : Switch} {i : Nat} (hi : 0 < i) (hs : (sw.ports i).state = IBV_PORT_DOWN)
    (hp : (sw.ports i).phys_state = PIB_PHYS_PORT_POLLING)
    (hd : (sw.ports i).link_down_default_state < 2 ^ 4) :
    reportedPhysState sw i = PIB_PHYS_PORT_POLLING ∧ reportedState sw i = IBV_PORT_DOWN := by
  have hne : i ≠ 0 := Nat.ne_of_gt hi
  have hphys : byteAt (portInfo (sw.ports i) i) 33 =
      (UInt8.ofNat (PIB_PHYS_PORT_POLLING * 2 ^ 4 ||| (sw.ports i).link_down_default_state)).toNat := by
    simp [byteAt, portInfo, hne, hp]
  have hstate : byteAt (portInfo (sw.ports i) i) 32 =
      (UInt8.ofNat (PIB_LINK_SPEED_SUPPORTED * 2 ^ 4 ||| IBV_PORT_DOWN)).toNat := by
    simp [byteAt, portInfo, hne, hs]
  unfold reportedPhysState reportedState
  rw [hphys, hstate]
  refine ⟨?_, by decide⟩
  generalize (sw.ports i).link_down_default_state = d at hd ⊢
  revert d
  decide

theorem LinkInv.linked {sw : Switch} {last : Nat → Option SockAddr} (h : LinkInv sw last) :
    Linked sw last := by
  refine ⟨h.distinct, ?_, ?_, ?_⟩
  · intro i hi
    constructor
    · intro hg
      obtain ⟨a, ha, -⟩ := h.source i hi hg
      rw [ha]
      exact Option.some_ne_none a
    · intro ha hg
      exact ha (h.free i hi hg).1
  · intro i hi hg
    obtain ⟨-, hs, hp⟩ := h.free i hi hg
    obtain ⟨hphys, hstate⟩ := reported_free hi.1 hs hp (h.linkDown i)
    rw [hphys, hstate]
    decide
  · intro i hi hg
    obtain ⟨a, ha, hl⟩ := h.source i hi hg
    rw [ha, hl]

/-! ## Link commands -/

section Link

variable {sw : Switch} {last : Nat → Option SockAddr} {i : Nat}

theorem sendTrapNtc128_ok (h : (sw.ports 0).sm_lid < PIB_MCAST_LID_BASE) :
    ∃ l, sendTrapNtc128 sw = .ok l := by
  unfold sendTrapNtc128
  dsimp only
  split
  · exact ⟨_, rfl⟩
  have hi : index .ucast_fwd_table ((sw.ports 0).sm_lid : Int) = .ok () :=
    if_pos ⟨Int.natCast_nonneg _, Int.ofNat_lt.mpr h⟩
  rw [hi]
  dsimp only [bind, Except.bind]
  split
  · exact ⟨_, rfl⟩
  · split <;> exact ⟨_, rfl⟩

theorem linkInv_linkUp (h : LinkInv sw last) (hi : sw.IsExternal i) (hg : g ≠ 0)
    (a : SockAddr) (hport : ∀ j, j < sw.port_cnt → (sw.ports j).port_guid = g → j = i) :
    LinkInv (sw.linkUp i g a) (Function.update last g (some a)) := by
  have hself : (sw.linkUp i g a).ports i = { sw.ports i with
      port_guid := g, sockaddr := some a, state := IBV_PORT_INIT
      phys_state := PIB_PHYS_PORT_LINK_UP } := sw.setPort_self ..
  have hother : ∀ j, j ≠ i → (sw.linkUp i g a).ports j = sw.ports j := fun j hj => sw.setPort_ne _ hj
  have h0 : (0 : Nat) ≠ i := Nat.ne_of_lt hi.1
  refine ⟨h.cnt, ?_, ?_, ?_, ?_, ?_, ?_⟩
  · rw [hother 0 h0, h.port0]
  · rw [hother 0 h0]
    exact h.smLid
  · intro j k hj hk hgj hjk
    by_cases hji : j = i <;> by_cases hki : k = i
    · rw [hji, hki]
    · rw [hji, hself, hother k hki] at hjk
      exact absurd (hport k hk hjk.symm) hki
    · rw [hki, hself, hother j hji] at hjk
      exact absurd (hport j hj hjk) hji
    rw [hother j hji, hother k hki] at hjk
    rw [hother j hji] at hgj
    exact h.distinct j k hj hk hgj hjk
  · intro j hj hgj
    by_cases hji : j = i
    · rw [hji, hself] at hgj
      exact absurd hgj hg
    · rw [hother j hji] at hgj ⊢
      exact h.free j hj hgj
  · intro j hj hgj
    by_cases hji : j = i
    · rw [hji, hself]
      exact ⟨a, rfl, Function.update_self ..⟩
    rw [hother j hji] at hgj ⊢
    obtain ⟨b, hb, hl⟩ := h.source j hj hgj
    refine ⟨b, hb, ?_⟩
    rw [Function.update_of_ne, hl]
    exact fun he => hji (hport j hj.2 he)
  · intro j
    by_cases hji : j = i
    · rw [hji, hself]
      exact h.linkDown i
    · rw [hother j hji]
      exact h.linkDown j

theorem linkInv_linkDown (h : LinkInv sw last) (hi : sw.IsExternal i) :
    LinkInv (sw.linkDown i) last := by
  have hself : (sw.linkDown i).ports i = { sw.ports i with
      port_guid := 0, sockaddr := none, state := IBV_PORT_DOWN
      phys_state := PIB_PHYS_PORT_POLLING } := sw.setPort_self ..
  have hother : ∀ j, j ≠ i → (sw.linkDown i).ports j = sw.ports j := fun j hj => sw.setPort_ne _ hj
  have h0 : (0 : Nat) ≠ i := Nat.ne_of_lt hi.1
  refine ⟨h.cnt, ?_, ?_, ?_, ?_, ?_, ?_⟩
  · rw [hother 0 h0, h.port0]
  · rw [hother 0 h0]
    exact h.smLid
  · intro j k hj hk hgj hjk
    have hji : j ≠ i := by
      rintro rfl
      rw [hself] at hgj
      exact hgj rfl
    have hki : k ≠ i := by
      rintro rfl
      rw [hjk, hself] at hgj
      exact hgj rfl
    rw [hother j hji, hother k hki] at hjk
    rw [hother j hji] at hgj
    exact h.distinct j k hj hk hgj hjk
  · intro j hj hgj
    by_cases hji : j = i
    · rw [hji, hself]
      exact ⟨rfl, rfl, rfl⟩
    · rw [hother j hji] at hgj ⊢
      exact h.free j hj hgj
  · intro j hj hgj
    by_cases hji : j = i
    · rw [hji, hself] at hgj
      exact absurd rfl hgj
    · rw [hother j hji] at hgj ⊢
      exact h.source j hj hgj
  · intro j
    by_cases hji : j = i
    · rw [hji, hself]
      exact h.linkDown i
    · rw [hother j hji]
      exact h.linkDown j

end Link

section Steps

variable {sw : Switch} {last : Nat → Option SockAddr}

/-- The port that a CONNECT takes is the only one that can have its GUID. -/
theorem connectPort_spec (h : LinkInv sw last) (hg : g ≠ 0) (hp : connectPort sw g ≠ 0) :
    sw.IsExternal (connectPort sw g) ∧
      ∀ j, j < sw.port_cnt → (sw.ports j).port_guid = g → j = connectPort sw g := by
  have hzero : ∀ j, (sw.ports j).port_guid = g → 0 < j := by
    intro j hj
    rcases Nat.eq_zero_or_pos j with rfl | hpos
    · exact absurd (h.port0.symm.trans hj).symm hg
    · exact hpos
  unfold connectPort at hp ⊢
  by_cases hd : detectInPort sw g ≠ 0
  · rw [if_pos hd]
    obtain ⟨hext, hguid⟩ := detectInPort_some hd
    refine ⟨hext, fun j hj hjg => ?_⟩
    exact h.distinct j _ hj hext.2 (by rw [hjg]; exact hg) (hjg.trans hguid.symm)
  · rw [if_neg hd] at hp ⊢
    refine ⟨(detectInPort_some hp).1, fun j hj hjg => ?_⟩
    exact absurd hjg (detectInPort_none (not_ne_iff.mp hd) ⟨hzero j hjg, hj⟩)

theorem handle_connect (h : LinkInv sw last) (a : SockAddr) (hg : g ≠ 0)
    (hp : connectPort sw g ≠ 0) :
    handle sw (.connect g a) = .ok (sw.linkUp (connectPort sw g) g a) := by
  obtain ⟨hext, huniq⟩ := connectPort_spec h hg hp
  obtain ⟨l, hl⟩ := sendTrapNtc128_ok (linkInv_linkUp h hext hg a huniq).smLid
  have hack : sendmsg (sw.linkUp (connectPort sw g) g a) (connectPort sw g) {} =
      .ok { port_num := connectPort sw g, dest := a, lrh := {} } := by
    unfold sendmsg Switch.linkUp
    rw [Switch.setPort_self]
  simp only [handle, connect, if_neg hp, hack, hl, bind, Except.bind]
  rfl

/-- A port with a node has an address, so that the answer to a DISCONNECT is sent. -/
theorem handle_disconnect (h : LinkInv sw last) (a : SockAddr) (hg : g ≠ 0) :
    handle sw (.disconnect g a) =
      .ok (if detectInPort sw g = 0 then sw else sw.linkDown (detectInPort sw g)) := by
  by_cases hp : detectInPort sw g = 0
  · simp only [handle, disconnect, if_pos hp]
    rfl
  obtain ⟨hext, hguid⟩ := detectInPort_some hp
  obtain ⟨b, hb, -⟩ := h.source _ hext (by rw [hguid]; exact hg)
  obtain ⟨l, hl⟩ := sendTrapNtc128_ok h.smLid
  have hack : sendmsg sw (detectInPort sw g) {} =
      .ok { port_num := detectInPort sw g, dest := b, lrh := {} } := by
    unfold sendmsg
    rw [hb]
  simp only [handle, disconnect, if_neg hp, hack, hl, bind, Except.bind]
  rfl

/-- The port after a `SubnSet(PortInfo)`. -/
def portSet (sw : Switch) (smp : Smp) : SwPort :=
  bringUp (writePortInfo (sw.ports smp.portNum) smp.portNum smp.data)

theorem index_ports {i : Nat} (h : i < PIB_MAX_PORTS) : index .ports (i : Int) = .ok () :=
  if_pos ⟨Int.natCast_nonneg i, Int.ofNat_lt.mpr h⟩

/-- The switch after a `SubnSet(PortInfo)`. -/
def Switch.afterSet (sw : Switch) (smp : Smp) : Switch :=
  { sw.setPort smp.portNum (portSet sw smp) with
    port_state_change :=
      if (writePortInfo (sw.ports smp.portNum) smp.portNum smp.data).state < IBV_PORT_INIT then 1
      else sw.port_state_change }

theorem subnSetPortinfo_ok (h : smp.portNum < PIB_MAX_PORTS) :
    subnSetPortinfo smp sw = .ok (smp.reply, sw.afterSet smp) := by
  have hi : index .ports ((smp.attr_mod % 2 ^ 8 : Nat) : Int) = .ok () := index_ports h
  simp only [subnSetPortinfo, hi, bind, Except.bind]
  rfl

theorem getPortInfo_ok (sw : Switch) (h : smp.portNum < PIB_MAX_PORTS)
    (hid : smp.attr_id = PIB_SMP_ATTR_PORT_INFO) (in_port_num : Nat) :
    ∃ r, processSmpGetMethod smp sw in_port_num = .ok r := by
  have hi : index .ports ((smp.attr_mod % 2 ^ 8 : Nat) : Int) = .ok () := index_ports h
  have hattr : Attr.ofId (smp.setData []).attr_id = some .PORT_INFO := by
    rw [Smp.setData, hid]
    rfl
  have hget : processSmpGetMethod smp sw in_port_num = subnGetPortinfo (smp.setData []) sw := by
    unfold processSmpGetMethod
    dsimp only
    rw [hattr]
  rw [hget]
  simp only [subnGetPortinfo, Smp.setData, hi, bind, Except.bind]
  exact ⟨_, rfl⟩

theorem handle_setPortInfo (in_port_num : Nat) (h : smp.portNum < PIB_MAX_PORTS) :
    handle sw (.setPortInfo in_port_num smp) = .ok (sw.afterSet smp) := by
  have hset : processSmpSetMethod smp.asSetPortInfo sw =
      .ok (smp.asSetPortInfo.reply, sw.afterSet smp) := by
    have hport : smp.asSetPortInfo.portNum < PIB_MAX_PORTS := h
    exact subnSetPortinfo_ok hport
  have hkeep : smp.asSetPortInfo.reply.2.portNum = smp.portNum ∧
      smp.asSetPortInfo.reply.2.attr_id = PIB_SMP_ATTR_PORT_INFO := by
    simp only [Smp.reply, Smp.respond]
    split <;> exact ⟨rfl, rfl⟩
  obtain ⟨r, hr⟩ := getPortInfo_ok (sw.afterSet smp) (hkeep.1.trans_lt h) hkeep.2 in_port_num
  have hm : smp.asSetPortInfo.method = PIB_MGMT_METHOD_SET := rfl
  unfold handle pibProcessSmp
  dsimp only
  rw [if_neg (by rw [hm]; decide), if_pos hm, hset]
  simp only [bind, Except.bind]
  split
  · rfl
  · rw [hr]
    rfl

/-- What a `SubnSet(PortInfo)` leaves alone in its port. -/
theorem portSet_keeps (smp : Smp) :
    (portSet sw smp).port_guid = (sw.ports smp.portNum).port_guid ∧
      (portSet sw smp).sockaddr = (sw.ports smp.portNum).sockaddr := by
  unfold portSet bringUp writePortInfo
  dsimp only
  split <;> exact ⟨rfl, rfl⟩

theorem portSet_linkDown (h : (sw.ports smp.portNum).link_down_default_state < 2 ^ 4) :
    (portSet sw smp).link_down_default_state < 2 ^ 4 := by
  unfold portSet bringUp writePortInfo
  dsimp only
  split
  · exact h
  dsimp only
  split
  · exact Nat.mod_lt _ (Nat.two_pow_pos 4)
  · exact h

theorem portSet_smLid (h : smp.portNum = 0) : (portSet sw smp).sm_lid = halfAt smp.data 18 := by
  unfold portSet bringUp writePortInfo
  dsimp only
  rw [if_pos h]

theorem afterSet_ports (smp : Smp) (j : Nat) :
    (sw.afterSet smp).ports j = if j = smp.portNum then portSet sw smp else sw.ports j := by
  by_cases hj : j = smp.portNum
  · rw [if_pos hj, hj]
    exact sw.setPort_self ..
  · rw [if_neg hj]
    exact sw.setPort_ne _ hj

/-- The GUIDs and addresses are as before. -/
theorem afterSet_keeps (smp : Smp) (j : Nat) :
    ((sw.afterSet smp).ports j).port_guid = (sw.ports j).port_guid ∧
      ((sw.afterSet smp).ports j).sockaddr = (sw.ports j).sockaddr := by
  rw [afterSet_ports]
  split
  · rename_i hj
    rw [hj]
    exact portSet_keeps smp
  · exact ⟨rfl, rfl⟩

theorem linkInv_afterSet (h : LinkInv sw last)
    (ho : Orderly sw (.setPortInfo in_port_num smp)) : LinkInv (sw.afterSet smp) last := by
  have hguid : ∀ j, ((sw.afterSet smp).ports j).port_guid = (sw.ports j).port_guid :=
    fun j => (afterSet_keeps smp j).1
  have haddr : ∀ j, ((sw.afterSet smp).ports j).sockaddr = (sw.ports j).sockaddr :=
    fun j => (afterSet_keeps smp j).2
  simp only [Orderly] at ho
  refine ⟨h.cnt, ?_, ?_, ?_, ?_, ?_, ?_⟩
  · rw [hguid, h.port0]
  · rw [afterSet_ports]
    split
    · rename_i h0
      rw [if_pos h0.symm] at ho
      rw [portSet_smLid h0.symm]
      exact ho
    · exact h.smLid
  · intro i j hi hj
    rw [hguid, hguid]
    exact h.distinct i j hi hj
  · -- only a port with a node, or the management port, is set
    intro i hi hg
    rw [hguid] at hg
    have hne : i ≠ smp.portNum := by
      rintro rfl
      rw [if_neg (Nat.ne_of_gt hi.1)] at ho
      exact ho.2 hg
    rw [afterSet_ports, if_neg hne]
    exact h.free i hi hg
  · intro i hi hg
    rw [hguid] at hg ⊢
    rw [haddr]
    exact h.source i hi hg
  · intro j
    rw [afterSet_ports]
    split
    · exact portSet_linkDown (h.linkDown _)
    · exact h.linkDown j

/-- The set port of an orderly `SubnSet(PortInfo)` is one of the switch. -/
theorem Orderly.portNum_lt (h : LinkInv sw last)
    (ho : Orderly sw (.setPortInfo in_port_num smp)) : smp.portNum < PIB_MAX_PORTS := by
  simp only [Orderly] at ho
  split at ho
  · rename_i h0
    rw [h0]
    decide
  · rw [← h.cnt]
    exact ho.1

end Steps

/-! ## Every datagram -/

/-- The part of a port that the table of links is made of. -/
def SwPort.link (port : SwPort) : Nat × Option SockAddr × Nat × Nat :=
  (port.port_guid, port.sockaddr, port.state, port.phys_state)

/-- The links of the switch are as before, or one of the messages was handled. -/
def ByLinkMsg (sw sw' : Switch) : Prop :=
  (sw'.port_cnt = sw.port_cnt ∧ ∀ i, (sw'.ports i).link = (sw.ports i).link) ∨
    ∃ m, handle sw m = .ok sw'

theorem ByLinkMsg.refl (sw : Switch) : ByLinkMsg sw sw := Or.inl ⟨rfl, fun _ => rfl⟩

/-- A datagram that leaves the switch alone. -/
theorem ByLinkMsg.of_ok {sw : Switch} {x : Switch × List Sent}
    (hx : x.1 = sw) (he : (Except.ok x : Outcome) = .ok (sw', sent)) : ByLinkMsg sw sw' := by
  obtain rfl := Except.ok.inj he
  rw [← hx]
  exact .refl _


theorem Attr.ofId_portInfo {id : Nat} (h : Attr.ofId id = some .PORT_INFO) :
    id = PIB_SMP_ATTR_PORT_INFO := by
  unfold Attr.ofId at h
  split at h <;> first | rfl | cases h

theorem subnSetPkeyTable_links (smp : Smp) (sw : Switch) (i : Nat) :
    ((subnSetPkeyTable smp sw).2.ports i).link = (sw.ports i).link := by
  unfold subnSetPkeyTable
  dsimp only
  by_cases hb : smp.attr_mod % 2 ^ 16 ≠ 0
  · rw [if_pos hb]
  rw [if_neg hb]
  by_cases hp : sw.port_cnt ≤ smp.attr_mod / 2 ^ 16 % 2 ^ 16
  · rw [if_pos hp]
  rw [if_neg hp]
  dsimp only
  by_cases hi : i = smp.attr_mod / 2 ^ 16 % 2 ^ 16
  · rw [hi, Switch.setPort_self]
    rfl
  · rw [sw.setPort_ne _ hi]

theorem subnSetPkeyTable_cnt (smp : Smp) (sw : Switch) :
    (subnSetPkeyTable smp sw).2.port_cnt = sw.port_cnt := by
  simp only [subnSetPkeyTable]
  split_ifs <;> rfl

theorem processSmpSetMethod_links {sw : Switch} {r : Nat × Smp}
    (hne : Attr.ofId smp.attr_id ≠ some .PORT_INFO)
    (h : processSmpSetMethod smp sw = .ok (r, sw')) :
    sw'.port_cnt = sw.port_cnt ∧ ∀ i, (sw'.ports i).link = (sw.ports i).link := by
  have hdone : ∀ {x : (Nat × Smp) × Switch}, x.2.port_cnt = sw.port_cnt ∧ x.2.ports = sw.ports →
      (Except.ok x : Except Stop _) = .ok (r, sw') →
      sw'.port_cnt = sw.port_cnt ∧ ∀ i, (sw'.ports i).link = (sw.ports i).link := by
    rintro x ⟨hc, hx⟩ he
    obtain rfl := Except.ok.inj he
    refine ⟨hc, fun i => ?_⟩
    rw [hx]
  unfold processSmpSetMethod at h
  split at h
  · exact hdone ⟨rfl, rfl⟩ h
  · rename_i ha
    exact absurd ha hne
  · obtain rfl := (Prod.mk.inj (Except.ok.inj h)).2
    exact ⟨subnSetPkeyTable_cnt smp sw, subnSetPkeyTable_links smp sw⟩
  · unfold subnSetLinearForwardTable at h
    split at h
    · exact hdone ⟨rfl, rfl⟩ h
    · obtain ⟨_, _, h⟩ := bind_eq_ok h
      exact hdone ⟨rfl, rfl⟩ h
  · unfold subnSetRandomForwardTable at h
    split at h
    · exact hdone ⟨rfl, rfl⟩ h
    · obtain ⟨_, _, h⟩ := bind_eq_ok h
      exact hdone ⟨rfl, rfl⟩ h
  · obtain ⟨_, _, h⟩ := bind_eq_ok h
    obtain ⟨_, _, h⟩ := bind_eq_ok h
    exact hdone ⟨rfl, rfl⟩ h
  all_goals exact hdone ⟨rfl, rfl⟩ h

theorem pibProcessSmp_links {sw : Switch} {r : Nat × Smp}
    (h : pibProcessSmp smp sw in_port_num = .ok (r, sw')) : ByLinkMsg sw sw' := by
  by_cases hset : smp.method = PIB_MGMT_METHOD_SET ∧ Attr.ofId smp.attr_id = some .PORT_INFO
  · have hsmp : smp.asSetPortInfo = smp := by
      rw [Smp.asSetPortInfo, ← hset.1, ← Attr.ofId_portInfo hset.2]
    refine Or.inr ⟨.setPortInfo in_port_num smp, ?_⟩
    rw [handle, hsmp, h]
    rfl
  unfold pibProcessSmp at h
  split at h
  · obtain ⟨_, _, h⟩ := bind_eq_ok h
    obtain rfl := (Prod.mk.inj (Except.ok.inj h)).2
    exact .refl sw
  split at h
  · rename_i hm
    obtain ⟨⟨⟨ret, smp'⟩, sw₁⟩, hs, h⟩ := bind_eq_ok h
    have hl := processSmpSetMethod_links (fun ha => hset ⟨hm, ha⟩) hs
    dsimp only at h
    split at h
    · obtain rfl := (Prod.mk.inj (Except.ok.inj h)).2
      exact Or.inl hl
    obtain ⟨_, _, h⟩ := bind_eq_ok h
    obtain rfl := (Prod.mk.inj (Except.ok.inj h)).2
    exact Or.inl hl
  split at h <;> obtain rfl := (Prod.mk.inj (Except.ok.inj h)).2 <;> exact .refl sw

/-- The header that an answer carries makes no difference to the links. -/
theorem sendmsg_lrh {sw : Switch} {i : Nat} {x : Sent} (h : sendmsg sw i lrh = .ok x) :
    ∃ y, sendmsg sw i {} = .ok y := by
  unfold sendmsg at h ⊢
  split at h
  · cases h
  · exact ⟨_, rfl⟩

theorem processRawPacket_links {sw : Switch} {a : SockAddr}
    (h : processRawPacket sw g a lrh buffer = .ok (sw', sent)) : ByLinkMsg sw sw' := by
  unfold processRawPacket at h
  split at h
  · exact .of_ok rfl h
  dsimp only at h
  split at h
  · refine Or.inr ⟨.connect g a, ?_⟩
    unfold connect at h
    dsimp only at h
    split at h
    · cases h
    rename_i hp
    obtain ⟨x, hack, h⟩ := bind_eq_ok h
    obtain ⟨y, hy⟩ := sendmsg_lrh hack
    obtain ⟨t, ht, h⟩ := bind_eq_ok h
    obtain rfl := (Prod.mk.inj (Except.ok.inj h)).1
    simp only [handle, connect, if_neg hp, hy, ht, bind, Except.bind]
    rfl
  split at h
  · unfold disconnect at h
    dsimp only at h
    split at h
    · exact .of_ok rfl h
    rename_i hp
    refine Or.inr ⟨.disconnect g a, ?_⟩
    obtain ⟨x, hack, h⟩ := bind_eq_ok h
    obtain ⟨y, hy⟩ := sendmsg_lrh hack
    obtain ⟨t, ht, h⟩ := bind_eq_ok h
    obtain rfl := (Prod.mk.inj (Except.ok.inj h)).1
    simp only [handle, disconnect, if_neg hp, hy, ht, bind, Except.bind]
    rfl
  · exact .of_ok rfl h

theorem outgoingSmp_links {sw : Switch} (h : outgoingSmp sw in_port_num lrh smp = .ok (sw', sent)) :
    ByLinkMsg sw sw' := by
  unfold outgoingSmp at h
  dsimp only at h
  split at h
  · cases h
  split at h
  · cases h
  split at h
  · obtain ⟨_, _, h⟩ := bind_eq_ok h
    obtain ⟨_, _, h⟩ := bind_eq_ok h
    obtain ⟨_, _, h⟩ := bind_eq_ok h
    obtain rfl := (Prod.mk.inj (Except.ok.inj h)).1
    exact .refl sw
  split at h
  · obtain ⟨_, _, h⟩ := bind_eq_ok h
    obtain ⟨⟨⟨ret, smp'⟩, sw₁⟩, hs, h⟩ := bind_eq_ok h
    have hl := pibProcessSmp_links hs
    dsimp only at h
    split at h
    · obtain rfl := (Prod.mk.inj (Except.ok.inj h)).1
      exact hl
    obtain ⟨_, _, h⟩ := bind_eq_ok h
    obtain rfl := (Prod.mk.inj (Except.ok.inj h)).1
    exact hl
  split at h
  · cases h
  · obtain rfl := (Prod.mk.inj (Except.ok.inj h)).1
    exact .refl sw

theorem returningSmp_links {sw : Switch}
    (h : returningSmp sw lrh smp = .ok (sw', sent)) : ByLinkMsg sw sw' := by
  unfold returningSmp at h
  split at h
  · cases h
  obtain ⟨_, _, h⟩ := bind_eq_ok h
  obtain ⟨_, _, h⟩ := bind_eq_ok h
  obtain rfl := (Prod.mk.inj (Except.ok.inj h)).1
  exact .refl sw

theorem processMadPacket_links {sw : Switch}
    (h : processMadPacket sw in_port_num lrh buffer = .ok (some (sw', sent))) :
    ByLinkMsg sw sw' := by
  have hsame : ∀ {x : Switch × List Sent}, x.1 = sw →
      (Except.ok (some x) : Except Stop _) = .ok (some (sw', sent)) → ByLinkMsg sw sw' := by
    intro x hx he
    obtain rfl := Option.some.inj (Except.ok.inj he)
    rw [← hx]
    exact .refl _
  unfold processMadPacket at h
  split at h
  · exact hsame rfl h
  split at h
  · exact hsame rfl h
  dsimp only at h
  split at h
  · split at h
    · cases h
    split at h
    · obtain ⟨_, h, he⟩ := map_eq_ok h
      obtain rfl := Option.some.inj he
      exact outgoingSmp_links h
    · obtain ⟨_, h, he⟩ := map_eq_ok h
      obtain rfl := Option.some.inj he
      exact returningSmp_links h
  split at h
  · split at h
    · cases h
    obtain ⟨⟨⟨ret, smp'⟩, sw₁⟩, hs, h⟩ := bind_eq_ok h
    have hl := pibProcessSmp_links hs
    dsimp only at h
    split at h
    · obtain rfl := (Prod.mk.inj (Option.some.inj (Except.ok.inj h))).1
      exact hl
    split at h
    · obtain rfl := (Prod.mk.inj (Option.some.inj (Except.ok.inj h))).1
      exact hl
    obtain ⟨_, _, h⟩ := bind_eq_ok h
    obtain rfl := (Prod.mk.inj (Option.some.inj (Except.ok.inj h))).1
    exact hl
  split at h
  · obtain ⟨ret, -, h⟩ := bind_eq_ok h
    split at h
    · exact hsame rfl h
    · obtain ⟨_, _, h⟩ := bind_eq_ok h
      exact hsame rfl h
  · cases h

theorem dispatch_links {sw : Switch} {dest_qp_num : Nat}
    (h : dispatch sw in_port_num lrh dest_qp_num buffer = .ok (sw', sent)) : ByLinkMsg sw sw' := by
  unfold dispatch at h
  dsimp only at h
  split at h
  · exact .of_ok rfl h
  split at h
  · obtain ⟨r, hr, h⟩ := bind_eq_ok h
    cases r with
    | some r =>
      obtain rfl := Except.ok.inj h
      exact processMadPacket_links hr
    | none =>
      obtain ⟨_, _, h⟩ := bind_eq_ok h
      exact .of_ok rfl h
  split at h
  · split at h <;> obtain ⟨_, _, h⟩ := bind_eq_ok h <;> exact .of_ok rfl h
  split at h
  · obtain ⟨r, hr, h⟩ := bind_eq_ok h
    cases r with
    | some r =>
      obtain rfl := Except.ok.inj h
      exact processMadPacket_links hr
    | none => exact .of_ok rfl h
  · exact .of_ok rfl h

/-- A datagram that the daemon comes back from changes the links by one of the
messages, or not at all. -/
theorem receivePacket_links {sw : Switch} {a : SockAddr} {message : List UInt8} (h : receivePacket sw a message = .ok (sw', sent)) : ByLinkMsg sw sw' := by
  unfold receivePacket at h
  split at h
  · exact .of_ok rfl h
  dsimp only at h
  split at h
  · exact .of_ok rfl h
  split at h
  · exact .of_ok rfl h
  split at h
  · exact processRawPacket_links h
  split at h
  · exact .of_ok rfl h
  · exact dispatch_links h

/-! ## Steps and runs -/

theorem local_setPort {sw : Switch} {i : Nat} {port : SwPort}
    (h : (sw.ports i).port_guid = g ∨ port.port_guid = g) : Local sw (sw.setPort i port) g := by
  refine ⟨fun j hj hj' => ?_, rfl⟩
  by_cases hji : j = i
  · subst hji
    rw [Switch.setPort_self] at hj'
    rcases h with h | h
    · exact absurd h hj
    · exact absurd h hj'
  · exact sw.setPort_ne port hji

/-- An orderly message is handled, keeps the invariant and obeys its law. -/
theorem linkInv_step {sw : Switch} {last : Nat → Option SockAddr} (h : LinkInv sw last)
    {m : LinkMsg} (ho : Orderly sw m) :
    ∃ sw', handle sw m = .ok sw' ∧ LinkInv sw' (noted last m) ∧ StepLaw sw sw' m := by
  cases m with
  | connect g a =>
    obtain ⟨hg, hp⟩ := ho
    obtain ⟨hext, huniq⟩ := connectPort_spec h hg hp
    have hself := sw.setPort_self (connectPort sw g) { sw.ports (connectPort sw g) with
      port_guid := g, sockaddr := some a, state := IBV_PORT_INIT
      phys_state := PIB_PHYS_PORT_LINK_UP }
    refine ⟨_, handle_connect h a hg hp, linkInv_linkUp h hext hg a huniq, ?_, ?_, ?_⟩
    · exact local_setPort (Or.inr rfl)
    · intro i hi hig
      rw [huniq i hi.2 hig, Switch.linkUp, hself]
    · refine ⟨connectPort sw g, hext, ?_, ?_⟩ <;> rw [Switch.linkUp, hself]
  | disconnect g a =>
    have hg : g ≠ 0 := ho
    refine ⟨_, handle_disconnect h a hg, ?_⟩
    by_cases hp : detectInPort sw g = 0
    · rw [if_pos hp]
      exact ⟨h, ⟨fun j _ _ => rfl, rfl⟩, fun i hi => detectInPort_none hp hi⟩
    rw [if_neg hp]
    obtain ⟨hext, hguid⟩ := detectInPort_some hp
    refine ⟨linkInv_linkDown h hext, local_setPort (Or.inl hguid), ?_⟩
    intro i hi hig
    by_cases hi' : i = detectInPort sw g
    · rw [hi', Switch.linkDown, Switch.setPort_self] at hig
      exact hg hig.symm
    · rw [Switch.linkDown, sw.setPort_ne _ hi'] at hig
      exact hi' (h.distinct i _ hi.2 hext.2 (by rw [hig]; exact hg) (hig.trans hguid.symm))
  | setPortInfo in_port_num smp =>
    exact ⟨_, handle_setPortInfo in_port_num (Orderly.portNum_lt h ho), linkInv_afterSet h ho,
      trivial⟩

/-- The induction over the messages. -/
theorem linkInv_run {sw : Switch} {last : Nat → Option SockAddr} {ms : List LinkMsg}
    (h : LinkInv sw last) (ho : AllOrderly sw ms) :
    ∃ sw', handleAll sw ms = .ok sw' ∧ LinkInv sw' (ms.foldl noted last) := by
  induction ms generalizing sw last with
  | nil => exact ⟨sw, rfl, h⟩
  | cons m ms ih =>
    obtain ⟨ho, hrest⟩ := ho
    obtain ⟨sw₁, hm, h₁, -⟩ := linkInv_step h ho
    rw [hm] at hrest
    obtain ⟨sw', hrun, h'⟩ := ih h₁ hrest
    refine ⟨sw', ?_, h'⟩
    rw [handleAll, hm]
    exact hrun

/-- From the start, orderly messages are all handled; the table then keeps its laws,
and the next orderly message keeps to its own port. -/
theorem link_table_laws (hca_guid_base : Nat) (ms : List LinkMsg)
    (h : AllOrderly { hca_guid_base } ms) :
    ∃ sw, handleAll { hca_guid_base } ms = .ok sw ∧ Linked sw (lastConnect ms) ∧
      ∀ m, Orderly sw m → ∃ sw', handle sw m = .ok sw' ∧ StepLaw sw sw' m := by
  obtain ⟨sw, hrun, hinv⟩ := linkInv_run (linkInv_init hca_guid_base) h
  refine ⟨sw, hrun, hinv.linked, fun m hm => ?_⟩
  obtain ⟨sw', hstep, -, hlaw⟩ := linkInv_step hinv hm
  exact ⟨sw', hstep, hlaw⟩

/-- A `SubnSet(PortInfo)` for this port that asks for no change. -/
def plainSet (port_num : Nat) : Smp :=
  { base_version := 1, mgmt_class := PIB_MGMT_CLASS_SUBN_LID_ROUTED, class_version := 1
    method := PIB_MGMT_METHOD_SET, status := 0, hop_ptr := 0, hop_cnt := 0
    attr_id := PIB_SMP_ATTR_PORT_INFO, attr_mod := port_num, dr_slid := 0, dr_dlid := 0
    data := List.replicate 64 0, initial_path := [], return_path := [] }

/-- A node connects, its port is set, another node comes, the first comes back from
another address and leaves. -/
def linkRun : List LinkMsg :=
  [.connect 7 ⟨1, 10⟩, .setPortInfo 1 (plainSet 1), .connect 8 ⟨2, 20⟩, .connect 7 ⟨3, 30⟩,
    .disconnect 7 ⟨3, 30⟩]

theorem link_table_laws_linkRun :
    AllOrderly {} linkRun ∧
      ∃ sw, handleAll {} linkRun = .ok sw ∧ Linked sw (lastConnect linkRun) ∧
        ∀ m, Orderly sw m → ∃ sw', handle sw m = .ok sw' ∧ StepLaw sw sw' m := by
  have h : AllOrderly {} linkRun :=
    ⟨by decide, by decide, by decide, by decide, by decide, trivial⟩
  exact ⟨h, link_table_laws 0 linkRun h⟩

/-- Port 5 of a new switch has no node. Once it is set, it is reported with its link
up. -/
theorem set_port_up_without_node :
    ∃ sw, handleAll {} [.setPortInfo 1 (plainSet 5)] = .ok sw ∧ sw.IsExternal 5 ∧
      (sw.ports 5).port_guid = 0 ∧ (sw.ports 5).sockaddr = none ∧
      reportedPhysState sw 5 = PIB_PHYS_PORT_LINK_UP ∧ reportedState sw 5 = IBV_PORT_INIT ∧
      ¬Linked sw (lastConnect [.setPortInfo 1 (plainSet 5)]) := by
  have hup : reportedPhysState (({} : Switch).afterSet (plainSet 5)) 5 = PIB_PHYS_PORT_LINK_UP := by
    decide
  refine ⟨({} : Switch).afterSet (plainSet 5), ?_, by decide, rfl, rfl, hup, by decide, ?_⟩
  · rw [handleAll, handle_setPortInfo 1 (by decide)]
    rfl
  · intro h
    exact (h.down 5 (by decide) rfl).1 hup

end pib.Netd
