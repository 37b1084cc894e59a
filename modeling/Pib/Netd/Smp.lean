-- The switch that `pibnetd` keeps (`pibnetd.h`), and the subnet management
-- packets that read and change it (`smp.c`).
import Pib.Packet

namespace pib.Netd

open Bytes

variable (sw : Switch) (smp : Smp)

/-! ## The switch -/

def PIB_MAX_PORTS : Nat := 33
def PIB_MAX_LID : Nat := 0x10000
def PIB_MCAST_LID_BASE : Nat := 0xC000
def PIB_SMP_MAX_PATH_HOPS : Nat := 64
def PIB_LID_PERMISSIVE : Nat := 0xFFFF

/-- The arrays that are indexed with numbers out of a datagram. -/
inductive Arr
  | ports | ucast_fwd_table | mcast_fwd_table | pm_blocks | initial_path | return_path
  deriving DecidableEq, Repr

def Arr.size : Arr → Nat
  | ports => PIB_MAX_PORTS
  | ucast_fwd_table => PIB_MCAST_LID_BASE
  | mcast_fwd_table => PIB_MAX_LID - PIB_MCAST_LID_BASE
  | pm_blocks => 16
  | initial_path => PIB_SMP_MAX_PATH_HOPS
  | return_path => PIB_SMP_MAX_PATH_HOPS

/-- The calls of `exit` behind `receive_packet`, but for the ones after a failure
of `recvmsg` and for an address that is no internet address. -/
inductive Exit
  | noEmptyPort | drLid | mgmtClass | hopCntZero | hopPtrZero | hopPtrBeyond | returningHopPtrZero
  | sendmsg
  deriving DecidableEq, Repr

/-- The ways not to come back from a datagram. -/
inductive Stop
  | exit (e : Exit)
  | index (a : Arr) (i : Int)
  /-- `pma_set_port_counters` calls itself -/
  | endless
  deriving DecidableEq, Repr

/-- An access at `i`. -/
def index (a : Arr) (i : Int) : Except Stop Unit :=
  if 0 ≤ i ∧ i < a.size then .ok () else .error (.index a i)

/-- Accesses at each of these places. -/
def indexAll (a : Arr) : List Int → Except Stop Unit
  | [] => .ok ()
  | i :: is => do
    index a i
    indexAll a is

/-- `struct sockaddr_in`. -/
structure SockAddr where
  sin_addr : Nat
  sin_port : Nat
  deriving DecidableEq, Repr

def IBV_PORT_DOWN : Nat := 1
def IBV_PORT_INIT : Nat := 2
def IBV_MTU_256 : Nat := 1
def IBV_MTU_4096 : Nat := 5
def PIB_PHYS_PORT_POLLING : Nat := 2
def PIB_PHYS_PORT_LINK_UP : Nat := 5
def PIB_LINK_WIDTH_SUPPORTED : Nat := 15
def PIB_LINK_SPEED_SUPPORTED : Nat := 7
def PIB_PORT_CAP_FLAGS : Nat := 2 ^ 3 + 2 ^ 11 + 2 ^ 16
def PIB_PKEY_PER_BLOCK : Nat := 32

/-- `struct pib_port`, with the parts of `ibv_port_attr` that change and without the
counters. The defaults are those of `init_switch`. -/
structure SwPort where
  state : Nat := IBV_PORT_DOWN
  active_mtu : Nat := IBV_MTU_256
  lid : Nat := 0
  sm_lid : Nat := 0
  lmc : Nat := 0
  active_width : Nat := 8
  active_speed : Nat := 4
  phys_state : Nat := PIB_PHYS_PORT_POLLING
  mkey : Nat := 0
  mkeyprot : Nat := 0
  mkey_lease_period : Nat := 0
  link_down_default_state : Nat := 0
  link_width_enabled : Nat := PIB_LINK_WIDTH_SUPPORTED
  link_speed_enabled : Nat := PIB_LINK_SPEED_SUPPORTED
  master_smsl : Nat := 0
  client_reregister : Nat := 0
  subnet_timeout : Nat := 0
  local_phy_errors : Nat := 0
  overrun_errors : Nat := 0
  subnet_prefix : Nat := 0xFE80000000000000
  pkey_table : Nat → Nat := fun _ => 0xFFFF
  port_guid : Nat := 0
  sockaddr : Option SockAddr := none

/-- `struct pib_switch`. The defaults are those of `init_switch`. -/
structure Switch where
  hca_guid_base : Nat := 0
  port_cnt : Nat := PIB_MAX_PORTS
  ports : Nat → SwPort := fun _ => {}
  linear_fdb_top : Nat := 0
  default_port : Nat := 0
  default_mcast_primary_port : Nat := 0
  default_mcast_not_primary_port : Nat := 0
  life_time_value : Nat := 0
  port_state_change : Nat := 0
  ucast_fwd_table : Nat → Nat := fun _ => 0
  mcast_fwd_table : Nat → Nat → Nat := fun _ _ => 0

namespace Switch

def setPort (sw : Switch) (i : Nat) (port : SwPort) : Switch :=
  { sw with ports := Function.update sw.ports i port }

@[simp] theorem setPort_port_cnt (i : Nat) (port : SwPort) :
    (sw.setPort i port).port_cnt = sw.port_cnt := rfl

@[simp] theorem setPort_self (i : Nat) (port : SwPort) :
    (sw.setPort i port).ports i = port := Function.update_self ..

theorem setPort_ne {i j : Nat} (port : SwPort) (h : j ≠ i) :
    (sw.setPort i port).ports j = sw.ports j := Function.update_of_ne h ..

end Switch

/-! ## The packet -/

def byteAt (l : List UInt8) (i : Nat) : Nat := (l.getD i 0).toNat
def halfAt (l : List UInt8) (i : Nat) : Nat := ofBe ((l.drop i).take 2)
def wordAt (l : List UInt8) (i : Nat) : Nat := ofBe ((l.drop i).take 4)

/-- `struct pib_smp`, in host order. -/
structure Smp where
  base_version : Nat
  mgmt_class : Nat
  class_version : Nat
  method : Nat
  status : Nat
  hop_ptr : Nat
  hop_cnt : Nat
  attr_id : Nat
  attr_mod : Nat
  dr_slid : Nat
  dr_dlid : Nat
  data : List UInt8
  initial_path : List UInt8
  return_path : List UInt8
  deriving DecidableEq, Repr

def SMP_SIZE : Nat := 256

def Smp.decode (l : List UInt8) : Smp where
  base_version := byteAt l 0
  mgmt_class := byteAt l 1
  class_version := byteAt l 2
  method := byteAt l 3
  status := halfAt l 4
  hop_ptr := byteAt l 6
  hop_cnt := byteAt l 7
  attr_id := halfAt l 16
  attr_mod := wordAt l 20
  dr_slid := halfAt l 32
  dr_dlid := halfAt l 34
  data := (l.drop 64).take 64
  initial_path := (l.drop 128).take 64
  return_path := (l.drop 192).take 64

def PIB_MGMT_CLASS_SUBN_LID_ROUTED : Nat := 0x01
def PIB_MGMT_CLASS_SUBN_DIRECTED_ROUTE : Nat := 0x81
def PIB_MGMT_CLASS_PERF_MGMT : Nat := 0x04
def PIB_MGMT_METHOD_GET : Nat := 0x01
def PIB_MGMT_METHOD_SET : Nat := 0x02
def PIB_MGMT_METHOD_TRAP : Nat := 0x05
def PIB_MGMT_METHOD_TRAP_REPRESS : Nat := 0x07
def PIB_MGMT_METHOD_GET_RESP : Nat := 0x81
def PIB_SMP_UNSUP_METHOD : Nat := 0x0008
def PIB_SMP_UNSUP_METH_ATTR : Nat := 0x000C
def PIB_SMP_INVALID_FIELD : Nat := 0x001C
def PIB_SMP_DIRECTION : Nat := 0x8000

/-- `enum pib_mad_result`. The bit of a failure is no bit at all. -/
def PIB_MAD_RESULT_FAILURE : Nat := 0
def PIB_MAD_RESULT_SUCCESS : Nat := 1
def PIB_MAD_RESULT_REPLY : Nat := 2
def PIB_MAD_RESULT_CONSUMED : Nat := 4

namespace Smp

def addStatus (smp : Smp) (flag : Nat) : Smp := { smp with status := smp.status ||| flag }

/-- `reply` and `reply_failure`, up to the result. -/
def respond (smp : Smp) : Smp :=
  let smp := { smp with method := PIB_MGMT_METHOD_GET_RESP }
  if smp.mgmt_class = PIB_MGMT_CLASS_SUBN_DIRECTED_ROUTE then smp.addStatus PIB_SMP_DIRECTION
  else smp

@[simp] theorem respond_attr :
    smp.respond.attr_id = smp.attr_id ∧ smp.respond.attr_mod = smp.attr_mod := by
  simp only [respond]
  split <;> exact ⟨rfl, rfl⟩

@[simp] theorem addStatus_attr (flag : Nat) :
    (smp.addStatus flag).attr_id = smp.attr_id ∧ (smp.addStatus flag).attr_mod = smp.attr_mod :=
  ⟨rfl, rfl⟩

/-- `reply`. -/
def reply (smp : Smp) : Nat × Smp := (PIB_MAD_RESULT_SUCCESS ||| PIB_MAD_RESULT_REPLY, smp.respond)

/-- `reply_failure`. -/
def replyFailure (smp : Smp) : Nat × Smp :=
  (PIB_MAD_RESULT_FAILURE ||| PIB_MAD_RESULT_REPLY, smp.respond)

end Smp

/-! ## Getting an attribute -/

/-- `data` cut or filled with zeros to its 64 bytes. -/
def pad64 (l : List UInt8) : List UInt8 := (l ++ List.replicate 64 0).take 64

def Smp.setData (smp : Smp) (l : List UInt8) : Smp := { smp with data := pad64 l }

@[simp] theorem Smp.setData_attr_id (l : List UInt8) :
    (smp.setData l).attr_id = smp.attr_id := rfl

@[simp] theorem Smp.setData_attr_mod (l : List UInt8) :
    (smp.setData l).attr_mod = smp.attr_mod := rfl

/-- The characters of `PIB_SWITCH_DESCRIPTION`. -/
def PIB_SWITCH_DESCRIPTION : List UInt8 :=
  "Pseudo InfiniBand HCA switch".toList.map fun c => UInt8.ofNat c.toNat

/-- `subn_get_nodedescription`. -/
def subnGetNodedescription (smp : Smp) : Nat × Smp :=
  let smp := if smp.attr_mod ≠ 0 then smp.addStatus PIB_SMP_INVALID_FIELD else smp
  (smp.setData PIB_SWITCH_DESCRIPTION).reply

/-- `subn_get_nodeinfo`. -/
def subnGetNodeinfo (smp : Smp) (sw : Switch) (in_port_num : Nat) : Nat × Smp :=
  let guid (n : Nat) := be 8 (sw.hca_guid_base ||| n)
  (smp.setData ([1, 1, 2, UInt8.ofNat (sw.port_cnt - 1)] ++ guid 0x0200 ++ guid 0x0100 ++
    guid 0x0100 ++ be 2 1 ++ be 2 1 ++ be 4 1 ++ [UInt8.ofNat in_port_num, 0, 0, 0])).reply

/-- `subn_get_switchinfo`. -/
def subnGetSwitchinfo (smp : Smp) (sw : Switch) : Nat × Smp :=
  (smp.setData (be 2 768 ++ be 2 3072 ++ be 2 256 ++ be 2 sw.linear_fdb_top ++
    [UInt8.ofNat sw.default_port, UInt8.ofNat sw.default_mcast_primary_port,
      UInt8.ofNat sw.default_mcast_not_primary_port,
      UInt8.ofNat (sw.life_time_value * 2 ^ 3 ||| sw.port_state_change * 2 ^ 2)] ++
    be 2 1 ++ be 2 0 ++ [0])).reply

/-- The body of `subn_get_portinfo`: what a port is reported with. Port 0 is the
management port of the switch, and some fields are only for it, some only for the
others. -/
def portInfo (port : SwPort) (port_num : Nat) : List UInt8 :=
  let sp0 (l : List UInt8) := if port_num = 0 then l else List.replicate l.length 0
  let ext (n : Nat) := if port_num = 0 then 0 else UInt8.ofNat n
  let sp0Byte (n : Nat) := if port_num = 0 then UInt8.ofNat n else 0
  sp0 ([UInt8.ofNat port.mkey] ++ List.replicate 7 0) ++ sp0 (be 8 port.subnet_prefix) ++
    sp0 (be 2 port.lid) ++ sp0 (be 2 port.sm_lid) ++ sp0 (be 4 PIB_PORT_CAP_FLAGS) ++ [0, 0] ++
    sp0 (be 2 port.mkey_lease_period) ++
    [0, ext port.link_width_enabled, ext PIB_LINK_WIDTH_SUPPORTED, ext port.active_width,
      ext (PIB_LINK_SPEED_SUPPORTED * 2 ^ 4 ||| port.state),
      ext (port.phys_state * 2 ^ 4 ||| port.link_down_default_state),
      sp0Byte (port.mkeyprot * 2 ^ 6 ||| port.lmc),
      ext (port.active_speed * 2 ^ 4 ||| port.link_speed_enabled),
      if port_num = 0 then UInt8.ofNat port.master_smsl else UInt8.ofNat (port.active_mtu * 2 ^ 4),
      ext (5 * 2 ^ 4), 0, 0, 0, ext IBV_MTU_4096, 0, 0] ++ List.replicate 7 0 ++
    [sp0Byte (port.client_reregister * 2 ^ 7 ||| port.subnet_timeout), 0,
      ext (port.local_phy_errors * 2 ^ 4 ||| port.overrun_errors)]

/-- `subn_get_portinfo`. The attribute modifier is cut to eight bits and not checked
against the number of ports. -/
def subnGetPortinfo (smp : Smp) (sw : Switch) : Except Stop (Nat × Smp) := do
  let port_num : Nat := smp.attr_mod % 2 ^ 8
  index .ports port_num
  return (smp.setData (portInfo (sw.ports port_num) port_num)).reply

/-- `subn_get_pkey_table`. -/
def subnGetPkeyTable (smp : Smp) (sw : Switch) : Nat × Smp :=
  let sw_port_index := smp.attr_mod / 2 ^ 16 % 2 ^ 16
  if smp.attr_mod % 2 ^ 16 ≠ 0 then (smp.addStatus PIB_SMP_INVALID_FIELD).reply
  else if sw.port_cnt ≤ sw_port_index then (smp.addStatus PIB_SMP_INVALID_FIELD).reply
  else
    (smp.setData ((List.range PIB_PKEY_PER_BLOCK).flatMap fun i =>
      be 2 ((sw.ports sw_port_index).pkey_table i))).reply

/-- The places of a block of the linear forwarding table. -/
def linearPlaces (attr_mod : Nat) : List Nat := (List.range 64).map (attr_mod * 64 + ·)

/-- `subn_get_linear_forward_table`. -/
def subnGetLinearForwardTable (smp : Smp) (sw : Switch) : Except Stop (Nat × Smp) :=
  if 767 < smp.attr_mod then .ok (smp.addStatus PIB_SMP_INVALID_FIELD).reply
  else do
    indexAll .ucast_fwd_table
      (((linearPlaces smp.attr_mod).filter (· ≤ sw.linear_fdb_top)).map Int.ofNat)
    return (smp.setData ((linearPlaces smp.attr_mod).map fun i =>
      if i ≤ sw.linear_fdb_top then UInt8.ofNat (sw.ucast_fwd_table i) else 0)).reply

/-- The multicast LIDs of a block of the multicast forwarding table, from the first. -/
def mcastPlaces (attr_mod : Nat) : List Nat :=
  (List.range 32).map (attr_mod % 2 ^ 8 * 32 + ·)

/-- `subn_get_mcast_forward_table`. -/
def subnGetMcastForwardTable (smp : Smp) (sw : Switch) : Except Stop (Nat × Smp) := do
  let port_index : Nat := smp.attr_mod / 2 ^ 28
  indexAll .mcast_fwd_table ((mcastPlaces smp.attr_mod).map Int.ofNat)
  index .pm_blocks port_index
  return (smp.setData ((mcastPlaces smp.attr_mod).flatMap fun i =>
    be 2 (sw.mcast_fwd_table i port_index))).reply

/-- `PIB_SMP_ATTR_*`. -/
inductive Attr
  | NODE_DESC | NODE_INFO | SWITCH_INFO | GUID_INFO | PORT_INFO | PKEY_TABLE | SL_TO_VL_TABLE
  | VL_ARB_TABLE | LINEAR_FORWARD_TABLE | RANDOM_FORWARD_TABLE | MCAST_FORWARD_TABLE
  deriving DecidableEq, Repr

def Attr.ofId : Nat → Option Attr
  | 0x0010 => some NODE_DESC
  | 0x0011 => some NODE_INFO
  | 0x0012 => some SWITCH_INFO
  | 0x0014 => some GUID_INFO
  | 0x0015 => some PORT_INFO
  | 0x0016 => some PKEY_TABLE
  | 0x0017 => some SL_TO_VL_TABLE
  | 0x0018 => some VL_ARB_TABLE
  | 0x0019 => some LINEAR_FORWARD_TABLE
  | 0x001A => some RANDOM_FORWARD_TABLE
  | 0x001B => some MCAST_FORWARD_TABLE
  | _ => none

/-- `process_smp_get_method`. -/
def processSmpGetMethod (smp : Smp) (sw : Switch) (in_port_num : Nat) : Except Stop (Nat × Smp) :=
  let smp := smp.setData []
  match Attr.ofId smp.attr_id with
  | some .NODE_DESC => .ok (subnGetNodedescription smp)
  | some .NODE_INFO => .ok (subnGetNodeinfo smp sw in_port_num)
  | some .SWITCH_INFO => .ok (subnGetSwitchinfo smp sw)
  | some .PORT_INFO => subnGetPortinfo smp sw
  | some .PKEY_TABLE => .ok (subnGetPkeyTable smp sw)
  | some .LINEAR_FORWARD_TABLE => subnGetLinearForwardTable smp sw
  | some .MCAST_FORWARD_TABLE => subnGetMcastForwardTable smp sw
  | some .GUID_INFO | some .SL_TO_VL_TABLE | some .VL_ARB_TABLE | some .RANDOM_FORWARD_TABLE =>
    .ok smp.replyFailure
  | none => .ok (smp.addStatus PIB_SMP_UNSUP_METH_ATTR).reply

/-! ## Setting an attribute -/

/-- `subn_set_switchinfo`. -/
def subnSetSwitchinfo (smp : Smp) (sw : Switch) : (Nat × Smp) × Switch :=
  let various1 := byteAt smp.data 11
  (smp.reply, { sw with
    linear_fdb_top := halfAt smp.data 6
    default_port := byteAt smp.data 8
    default_mcast_primary_port := byteAt smp.data 9
    default_mcast_not_primary_port := byteAt smp.data 10
    life_time_value := various1 / 2 ^ 3 % 2 ^ 5
    port_state_change := if various1 / 2 ^ 2 % 2 = 1 then 0 else sw.port_state_change })

/-- A new value in a field of which some values mean no change and one means all
that is supported. -/
def enabled (old new all supported : Nat) : Nat :=
  if new = 0 then old else if new = all then supported else new

/-- `subn_set_portinfo` up to the fields that follow from others. -/
def writePortInfo (port : SwPort) (port_num : Nat) (data : List UInt8) : SwPort :=
  let phys := byteAt data 33
  if port_num = 0 then
    { port with
      mkey := byteAt data 0
      lid := halfAt data 16
      sm_lid := halfAt data 18
      subnet_prefix := ofBe ((data.drop 8).take 8)
      mkey_lease_period := halfAt data 26
      mkeyprot := byteAt data 34 / 2 ^ 6 % 4
      lmc := byteAt data 34 % 2 ^ 3
      master_smsl := byteAt data 36 % 2 ^ 4
      client_reregister := byteAt data 51 / 2 ^ 7 % 2
      subnet_timeout := byteAt data 51 % 2 ^ 5 }
  else
    { port with
      link_width_enabled := enabled port.link_width_enabled (byteAt data 29) 255
        PIB_LINK_WIDTH_SUPPORTED
      state := if byteAt data 32 % 2 ^ 4 ≠ 0 then byteAt data 32 % 2 ^ 4 else port.state
      phys_state := if phys / 2 ^ 4 ≠ 0 then phys / 2 ^ 4 else port.phys_state
      link_down_default_state :=
        if phys % 2 ^ 4 ≠ 0 then phys % 2 ^ 4 else port.link_down_default_state
      link_speed_enabled := enabled port.link_speed_enabled (byteAt data 35 % 2 ^ 4) 15
        PIB_LINK_SPEED_SUPPORTED
      active_mtu := byteAt data 36 / 2 ^ 4
      local_phy_errors := byteAt data 53 / 2 ^ 4 % 2 ^ 4
      overrun_errors := byteAt data 53 % 2 ^ 4 }

/-- The width that follows from the enabled ones. -/
def activeWidth (port : SwPort) : Nat :=
  if port.link_width_enabled = 0 ∨ 15 < port.link_width_enabled then port.active_width
  else if port.link_width_enabled = 1 then 1
  else if port.link_width_enabled ≤ 3 then 2
  else if port.link_width_enabled ≤ 7 then 4
  else 8

/-- The speed that follows from the enabled ones. -/
def activeSpeed (port : SwPort) : Nat :=
  if port.link_speed_enabled = 1 then 1
  else if port.link_speed_enabled = 3 then 2
  else if port.link_speed_enabled = 5 ∨ port.link_speed_enabled = 7 then 4
  else port.active_speed

/-- The end of `subn_set_portinfo`: whatever was asked for, the link is up, and the
port at least initialized. -/
def bringUp (port : SwPort) : SwPort :=
  { port with
    active_width := activeWidth port
    active_speed := activeSpeed port
    phys_state := PIB_PHYS_PORT_LINK_UP
    state := if port.state < IBV_PORT_INIT then IBV_PORT_INIT else port.state }

/-- `subn_set_portinfo`. -/
def subnSetPortinfo (smp : Smp) (sw : Switch) : Except Stop ((Nat × Smp) × Switch) := do
  let port_num : Nat := smp.attr_mod % 2 ^ 8
  index .ports port_num
  let port := writePortInfo (sw.ports port_num) port_num smp.data
  return (smp.reply, { sw.setPort port_num (bringUp port) with
    port_state_change := if port.state < IBV_PORT_INIT then 1 else sw.port_state_change })

/-- `subn_set_pkey_table`. -/
def subnSetPkeyTable (smp : Smp) (sw : Switch) : (Nat × Smp) × Switch :=
  let sw_port_index := smp.attr_mod / 2 ^ 16 % 2 ^ 16
  if smp.attr_mod % 2 ^ 16 ≠ 0 then ((smp.addStatus PIB_SMP_INVALID_FIELD).reply, sw)
  else if sw.port_cnt ≤ sw_port_index then ((smp.addStatus PIB_SMP_INVALID_FIELD).reply, sw)
  else (smp.reply, sw.setPort sw_port_index { sw.ports sw_port_index with
    pkey_table := fun i => if i < PIB_PKEY_PER_BLOCK then halfAt smp.data (2 * i)
      else (sw.ports sw_port_index).pkey_table i })

/-- `subn_set_linear_forward_table`. -/
def subnSetLinearForwardTable (smp : Smp) (sw : Switch) : Except Stop ((Nat × Smp) × Switch) :=
  if 767 < smp.attr_mod then .ok ((smp.addStatus PIB_SMP_INVALID_FIELD).reply, sw)
  else do
    indexAll .ucast_fwd_table ((linearPlaces smp.attr_mod).map Int.ofNat)
    return (smp.reply, { sw with
      ucast_fwd_table := fun i =>
        if smp.attr_mod * 64 ≤ i ∧ i < smp.attr_mod * 64 + 64 then
          byteAt smp.data (i - smp.attr_mod * 64)
        else sw.ucast_fwd_table i })

/-- An entry of the random forwarding table: the LID and what is stored for it. -/
def randomEntry (default_port value : Nat) : Nat × Nat :=
  -- 0xFF as port number is an invalid port
  let valid := value / 2 ^ 15 % 2 = 1 ∧ value % 2 ^ 8 ≠ 0xFF
  (value / 2 ^ 16, if valid then value % 2 ^ 8 else default_port)

def randomEntries (smp : Smp) (sw : Switch) : List (Nat × Nat) :=
  (List.range 16).map fun i => randomEntry sw.default_port (wordAt smp.data (4 * i))

/-- `subn_set_random_forward_table`. The LID of an entry is not checked. -/
def subnSetRandomForwardTable (smp : Smp) (sw : Switch) : Except Stop ((Nat × Smp) × Switch) :=
  if 3071 < smp.attr_mod then .ok ((smp.addStatus PIB_SMP_INVALID_FIELD).reply, sw)
  else do
    indexAll .ucast_fwd_table ((randomEntries smp sw).map fun e => Int.ofNat e.1)
    return (smp.reply, { sw with
      ucast_fwd_table :=
        (randomEntries smp sw).foldl (fun t e => Function.update t e.1 e.2) sw.ucast_fwd_table })

/-- `subn_set_mcast_forward_table`. -/
def subnSetMcastForwardTable (smp : Smp) (sw : Switch) : Except Stop ((Nat × Smp) × Switch) := do
  let port_index : Nat := smp.attr_mod / 2 ^ 28
  let first := smp.attr_mod % 2 ^ 8 * 32
  indexAll .mcast_fwd_table ((mcastPlaces smp.attr_mod).map Int.ofNat)
  index .pm_blocks port_index
  return (smp.reply, { sw with
    mcast_fwd_table := fun i block =>
      if first ≤ i ∧ i < first + 32 ∧ block = port_index then halfAt smp.data (2 * (i - first))
      else sw.mcast_fwd_table i block })

/-- `process_smp_set_method`. -/
def processSmpSetMethod (smp : Smp) (sw : Switch) : Except Stop ((Nat × Smp) × Switch) :=
  match Attr.ofId smp.attr_id with
  | some .SWITCH_INFO => .ok (subnSetSwitchinfo smp sw)
  | some .PORT_INFO => subnSetPortinfo smp sw
  | some .PKEY_TABLE => .ok (subnSetPkeyTable smp sw)
  | some .LINEAR_FORWARD_TABLE => subnSetLinearForwardTable smp sw
  | some .RANDOM_FORWARD_TABLE => subnSetRandomForwardTable smp sw
  | some .MCAST_FORWARD_TABLE => subnSetMcastForwardTable smp sw
  | some .GUID_INFO | some .SL_TO_VL_TABLE | some .VL_ARB_TABLE => .ok (smp.replyFailure, sw)
  | some .NODE_DESC | some .NODE_INFO | none =>
    .ok ((smp.addStatus PIB_SMP_UNSUP_METH_ATTR).reply, sw)

/-- `pib_process_smp`. -/
def pibProcessSmp (smp : Smp) (sw : Switch) (in_port_num : Nat) :
    Except Stop ((Nat × Smp) × Switch) :=
  if smp.method = PIB_MGMT_METHOD_GET then do
    return (← processSmpGetMethod smp sw in_port_num, sw)
  else if smp.method = PIB_MGMT_METHOD_SET then do
    let ((ret, smp), sw) ← processSmpSetMethod smp sw
    -- every bit but the one of the direction
    if smp.status % PIB_SMP_DIRECTION ≠ 0 then return ((ret, smp), sw)
    else return (← processSmpGetMethod smp sw in_port_num, sw)
  else if (smp.method = PIB_MGMT_METHOD_GET_RESP ∨ smp.method = PIB_MGMT_METHOD_TRAP_REPRESS) ∧
      smp.mgmt_class = PIB_MGMT_CLASS_SUBN_LID_ROUTED then
    .ok ((PIB_MAD_RESULT_SUCCESS ||| PIB_MAD_RESULT_CONSUMED, smp), sw)
  else .ok ((smp.addStatus PIB_SMP_UNSUP_METHOD).reply, sw)

end pib.Netd
