-- The easy switch (`pib_easy_sw.c`), the switch inside the driver: its answers to subnet
-- management packets. Most of the text is that of `pibnetd`, over the same members.
import Pib.Netd.Daemon
import Pib.PortInfo

namespace pib

/-- The two switches. -/
inductive Code
  | pibnetd | easySw
  deriving DecidableEq, Repr

namespace EasySw

open Bytes Netd

/-- The ways not to come back from a packet. -/
inductive Halt
  /-- an access that `pibnetd` makes as well -/
  | index (s : Stop)
  /-- an access beyond `ports` -/
  | ports (i : Nat)
  /-- the `BUG_ON` before a packet is sent -/
  | bugOn
  deriving DecidableEq, Repr

/-- A part with the text of `pibnetd`. -/
def shared {α : Type} (x : Except Stop α) : Except Halt α := x.mapError .index

/-- The characters of `PIB_EASYSW_DESCRIPTION`. -/
def PIB_EASYSW_DESCRIPTION : List UInt8 :=
  "Pseudo InfiniBand HCA easy switch".toList.map fun c => UInt8.ofNat c.toNat

/-- `subn_get_nodedescription`. -/
def subnGetNodedescription (smp : Smp) : Nat × Smp :=
  let smp := if smp.attr_mod ≠ 0 then smp.addStatus PIB_SMP_INVALID_FIELD else smp
  (smp.setData PIB_EASYSW_DESCRIPTION).reply

def portType (port_num : Nat) : PortType := if port_num ≠ 0 then .SW_EXT else .BASE_SP0

/-- `subn_get_portinfo`. -/
def subnGetPortinfo (smp : Smp) (sw : Switch) : Except Halt (Nat × Smp) :=
  let port_num := smp.attr_mod
  if sw.port_cnt ≤ port_num then .error (.ports port_num)
  else .ok (smp.setData (pibSubnGetPortinfo (sw.ports port_num) (portType port_num))).reply

/-- `subn_set_portinfo`. -/
def subnSetPortinfo (smp : Smp) (sw : Switch) : Except Halt ((Nat × Smp) × Switch) :=
  let port_num := smp.attr_mod
  if sw.port_cnt ≤ port_num then .error (.ports port_num)
  else
    let port := pibSubnSetPortinfo (sw.ports port_num) (portType port_num) smp.data
    let down := port.state < IBV_PORT_INIT
    .ok (smp.reply, { sw.setPort port_num { port with
        phys_state := PIB_PHYS_PORT_LINK_UP
        state := if down then IBV_PORT_INIT else port.state } with
      port_state_change := if down then 1 else sw.port_state_change })

/-- `process_smp_get_method`. -/
def processSmpGetMethod (smp : Smp) (sw : Switch) (in_port_num : Nat) : Except Halt (Nat × Smp) :=
  match Attr.ofId smp.attr_id with
  | some .NODE_DESC => .ok (subnGetNodedescription (smp.setData []))
  | some .PORT_INFO => subnGetPortinfo (smp.setData []) sw
  | _ => shared (Netd.processSmpGetMethod smp sw in_port_num)

/-- `process_smp_set_method`. -/
def processSmpSetMethod (smp : Smp) (sw : Switch) : Except Halt ((Nat × Smp) × Switch) :=
  match Attr.ofId smp.attr_id with
  | some .PORT_INFO => subnSetPortinfo smp sw
  | _ => shared (Netd.processSmpSetMethod smp sw)

/-- `process_smp`. -/
def processSmp (smp : Smp) (sw : Switch) (in_port_num : Nat) :
    Except Halt ((Nat × Smp) × Switch) :=
  if smp.method = PIB_MGMT_METHOD_GET then do
    return (← processSmpGetMethod smp sw in_port_num, sw)
  else if smp.method = PIB_MGMT_METHOD_SET then do
    let ((ret, smp), sw) ← processSmpSetMethod smp sw
    if smp.status % PIB_SMP_DIRECTION ≠ 0 then return ((ret, smp), sw)
    else return (← processSmpGetMethod smp sw in_port_num, sw)
  else .ok ((smp.addStatus PIB_SMP_UNSUP_METHOD).reply, sw)

end EasySw

end pib
