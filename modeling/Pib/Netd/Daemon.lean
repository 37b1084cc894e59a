-- What `pibnetd` does with a datagram (`main.c`): link commands, management
-- packets and packets that it relays. The performance management agent
-- (`perf.c`) is kept as far as it decides how the daemon goes on.
import Pib.Netd.Smp

namespace pib.Netd

open Bytes

/-! ## Sending -/

/-- A datagram that leaves through a port. `mad` is the management packet that was
changed on the way; without one the packet leaves as it came. -/
structure Sent where
  port_num : Nat
  dest : SockAddr
  lrh : Lrh
  mad : Option Smp := none
  deriving DecidableEq, Repr

/-- What a datagram leads to. -/
abbrev Outcome := Except Stop (Switch × List Sent)

/-- `sendmsg` fails without an address, and the daemon exits. -/
def sendmsg (sw : Switch) (port_num : Nat) (lrh : Lrh) : Except Stop Sent :=
  match (sw.ports port_num).sockaddr with
  | none => .error (.exit .sendmsg)
  | some dest => .ok { port_num, dest, lrh }

/-! ## Link commands -/

/-- The loop of `detect_in_port`, over the ports from `port_num` on. -/
def detectFrom (sw : Switch) (port_guid : Nat) : Nat → Nat → Nat
  | 0, _ => 0
  | fuel + 1, port_num =>
    if port_guid = (sw.ports port_num).port_guid then port_num
    else detectFrom sw port_guid fuel (port_num + 1)

/-- `detect_in_port`: the port with this GUID, or 0. -/
def detectInPort (sw : Switch) (port_guid : Nat) : Nat :=
  detectFrom sw port_guid (sw.port_cnt - 1) 1

def PIB_LINK_CMD_CONNECT : Nat := 1
def PIB_LINK_CMD_DISCONNECT : Nat := 3

/-- The port that a CONNECT takes: the one with this GUID, or else the first one
without. -/
def connectPort (sw : Switch) (port_guid : Nat) : Nat :=
  if detectInPort sw port_guid ≠ 0 then detectInPort sw port_guid else detectInPort sw 0

/-- `send_trap_ntc128`, up to the trap itself. -/
def sendTrapNtc128 (sw : Switch) : Except Stop (List Sent) :=
  let slid := (sw.ports 0).lid
  let dlid := (sw.ports 0).sm_lid
  if slid = 0 ∨ dlid = 0 then .ok []
  else do
    index .ucast_fwd_table dlid
    let out_port_num := sw.ucast_fwd_table dlid
    if out_port_num = 0 ∨ sw.port_cnt ≤ out_port_num then return []
    else
      match (sw.ports out_port_num).sockaddr with
      | none => return []
      | some dest => return [{ port_num := out_port_num, dest, lrh := { dlid, slid, sl_rsv_lnh := 2 } }]

/-- `PIB_LINK_CMD_CONNECT` at this port. -/
def Switch.linkUp (sw : Switch) (port_num port_guid : Nat) (sockaddr : SockAddr) : Switch :=
  sw.setPort port_num { sw.ports port_num with
    port_guid
    sockaddr := some sockaddr
    state := IBV_PORT_INIT
    phys_state := PIB_PHYS_PORT_LINK_UP }

/-- `PIB_LINK_CMD_DISCONNECT` at this port. -/
def Switch.linkDown (sw : Switch) (port_num : Nat) : Switch :=
  sw.setPort port_num { sw.ports port_num with
    port_guid := 0
    sockaddr := none
    state := IBV_PORT_DOWN
    phys_state := PIB_PHYS_PORT_POLLING }

/-- The CONNECT case of `process_raw_packet`. -/
def connect (sw : Switch) (port_guid : Nat) (sockaddr : SockAddr) (lrh : Lrh) : Outcome := do
  let port_num := connectPort sw port_guid
  if port_num = 0 then .error (.exit .noEmptyPort)
  else
    let sw := sw.linkUp port_num port_guid sockaddr
    -- `resend_ack`
    let ack ← sendmsg sw port_num lrh
    let trap ← sendTrapNtc128 sw
    return (sw, ack :: trap)

/-- The DISCONNECT case of `process_raw_packet`. -/
def disconnect (sw : Switch) (port_guid : Nat) (lrh : Lrh) : Outcome := do
  let port_num := detectInPort sw port_guid
  if port_num = 0 then return (sw, [])
  else
    let ack ← sendmsg sw port_num lrh
    let trap ← sendTrapNtc128 sw
    return (sw.linkDown port_num, ack :: trap)

/-- `process_raw_packet`. -/
def processRawPacket (sw : Switch) (port_guid : Nat) (sockaddr : SockAddr) (lrh : Lrh)
    (buffer : List UInt8) : Outcome :=
  if buffer.length < 4 then .ok (sw, [])
  else
    let cmd := wordAt buffer 0
    if cmd = PIB_LINK_CMD_CONNECT then connect sw port_guid sockaddr lrh
    else if cmd = PIB_LINK_CMD_DISCONNECT then disconnect sw port_guid lrh
    else .ok (sw, [])

/-! ## Relaying -/

/-- `relay_unicast_packet`. -/
def relayUnicastPacket (sw : Switch) (dlid : Nat) (lrh : Lrh) : Except Stop (List Sent) := do
  index .ucast_fwd_table dlid
  let out_port_num := sw.ucast_fwd_table dlid
  if out_port_num = 0 ∨ sw.port_cnt ≤ out_port_num then return []
  else return [← sendmsg sw out_port_num lrh]

/-- The loop of `relay_multicast_packet`, over these output ports. -/
def relayMulticastLoop (sw : Switch) (in_port_num dlid : Nat) (lrh : Lrh) :
    List Nat → Except Stop (List Sent)
  | [] => .ok []
  | out_port_num :: rest =>
    if in_port_num = out_port_num then relayMulticastLoop sw in_port_num dlid lrh rest
    else do
      index .mcast_fwd_table ((dlid : Int) - PIB_MCAST_LID_BASE)
      index .pm_blocks ((out_port_num / 16 : Nat) : Int)
      let pm_block := sw.mcast_fwd_table (dlid - PIB_MCAST_LID_BASE) (out_port_num / 16)
      if pm_block.testBit (out_port_num % 16) = false then
        relayMulticastLoop sw in_port_num dlid lrh rest
      else
        let sent ← sendmsg sw out_port_num lrh
        return sent :: (← relayMulticastLoop sw in_port_num dlid lrh rest)

/-- The external ports. -/
def Switch.external (sw : Switch) : List Nat := (List.range (sw.port_cnt - 1)).map (· + 1)

/-- `relay_multicast_packet`. -/
def relayMulticastPacket (sw : Switch) (in_port_num dlid : Nat) (lrh : Lrh) :
    Except Stop (List Sent) :=
  relayMulticastLoop sw in_port_num dlid lrh sw.external

/-! ## The performance management agent -/

/-- `PIB_PMA_*`. -/
inductive PmaAttr
  | CLASS_PORT_INFO | PORT_SAMPLES_CONTROL | PORT_SAMPLES_RESULT | PORT_COUNTERS | PORT_COUNTERS_EXT
  | PORT_SAMPLES_RESULT_EXT
  deriving DecidableEq, Repr

def PmaAttr.ofId : Nat → Option PmaAttr
  | 0x0001 => some CLASS_PORT_INFO
  | 0x0010 => some PORT_SAMPLES_CONTROL
  | 0x0011 => some PORT_SAMPLES_RESULT
  | 0x0012 => some PORT_COUNTERS
  | 0x001D => some PORT_COUNTERS_EXT
  | 0x001E => some PORT_SAMPLES_RESULT_EXT
  | _ => none

/-- A result of the agent that is sent, and one that is called a failure. -/
def pmaReply : Nat := PIB_MAD_RESULT_SUCCESS ||| PIB_MAD_RESULT_REPLY
def pmaFailure : Nat := PIB_MAD_RESULT_FAILURE ||| PIB_MAD_RESULT_REPLY

/-- The access to the counters of the port that the packet selects, which is checked
against the number of ports. -/
def pmaSelected (mad : Smp) (sw : Switch) : Except Stop Nat :=
  let port_select := byteAt mad.data 1
  if mad.attr_mod ≠ 0 then .ok pmaReply
  else if sw.port_cnt ≤ port_select then .ok pmaReply
  else do
    index .ports port_select
    return pmaReply

/-- The access to the counters of the port the packet came from. -/
def pmaOwn (mad : Smp) (port_num : Nat) : Except Stop Nat :=
  if mad.attr_mod ≠ 0 then .ok pmaReply
  else do
    index .ports port_num
    return pmaReply

/-- `pib_process_pma_mad`, up to the counters: the packet has the header of an SMP and
its data in the same place. -/
def pibProcessPmaMad (mad : Smp) (sw : Switch) (port_num : Nat) : Except Stop Nat :=
  if mad.base_version ≠ 1 ∨ mad.class_version ≠ 1 then .ok pmaReply
  else if mad.method = PIB_MGMT_METHOD_GET then
    match PmaAttr.ofId mad.attr_id with
    | some .CLASS_PORT_INFO => .ok pmaReply
    | some .PORT_SAMPLES_RESULT | some .PORT_SAMPLES_RESULT_EXT => pmaOwn mad port_num
    | some .PORT_SAMPLES_CONTROL | some .PORT_COUNTERS | some .PORT_COUNTERS_EXT =>
      pmaSelected mad sw
    | none => .ok pmaFailure
  else if mad.method = PIB_MGMT_METHOD_SET then
    match PmaAttr.ofId mad.attr_id with
    | some .PORT_SAMPLES_CONTROL | some .PORT_COUNTERS_EXT => pmaSelected mad sw
    -- it ends in a call of itself where the others call their getter
    | some .PORT_COUNTERS => .error .endless
    | _ => .ok pmaFailure
  else if mad.method = PIB_MGMT_METHOD_TRAP ∨ mad.method = PIB_MGMT_METHOD_GET_RESP then .ok pmaReply
  else .ok pmaFailure

/-! ## Management packets -/

/-- A half-word that is stored without a change of its byte order. -/
def swap16 (x : Nat) : Nat := x % 2 ^ 8 * 2 ^ 8 + x / 2 ^ 8 % 2 ^ 8

/-- The `send_packet` part of `process_mad_packet`. Without an address nothing is
sent. -/
def sendPacket (sw : Switch) (out_port_num : Nat) (lrh : Lrh) (mad : Smp) :
    Except Stop (List Sent) := do
  index .ports out_port_num
  match (sw.ports out_port_num).sockaddr with
  | none => return []
  | some dest => return [{ port_num := out_port_num, dest, lrh, mad := some mad }]

/-- An SMP on its way out, in `process_mad_packet`. -/
def outgoingSmp (sw : Switch) (in_port_num : Nat) (lrh : Lrh) (smp : Smp) : Outcome :=
  let hop_ptr := smp.hop_ptr
  let mark : Smp := { smp with return_path := smp.return_path.set hop_ptr (UInt8.ofNat in_port_num) }
  if smp.hop_cnt = 0 then .error (.exit .hopCntZero)
  else if hop_ptr = 0 then .error (.exit .hopPtrZero)
  else if hop_ptr < smp.hop_cnt then do
    index .return_path hop_ptr
    index .initial_path ((hop_ptr + 1 : Nat) : Int)
    let sent ← sendPacket sw (byteAt smp.initial_path (hop_ptr + 1)) lrh
      { mark with hop_ptr := hop_ptr + 1 }
    return (sw, sent)
  else if hop_ptr = smp.hop_cnt then do
    index .return_path hop_ptr
    let ((ret, smp), sw) ← pibProcessSmp mark sw in_port_num
    let lrh := { lrh with dlid := lrh.slid, slid := PIB_LID_PERMISSIVE }
    if ret &&& PIB_MAD_RESULT_FAILURE ≠ 0 then return (sw, [])
    else return (sw, ← sendPacket sw in_port_num lrh { smp with hop_ptr := hop_ptr - 1 })
  else if hop_ptr = smp.hop_cnt + 1 then .error (.exit .hopPtrBeyond)
  else .ok (sw, [])

/-- An SMP on its way back. -/
def returningSmp (sw : Switch) (lrh : Lrh) (smp : Smp) : Outcome :=
  if smp.hop_ptr = 0 then .error (.exit .returningHopPtrZero)
  else do
    index .return_path ((smp.hop_ptr - 1 : Nat) : Int)
    let sent ← sendPacket sw (byteAt smp.return_path (smp.hop_ptr - 1)) lrh
      { smp with hop_ptr := smp.hop_ptr - 1 }
    return (sw, sent)

def DETH_SIZE : Nat := 8

/-- `process_mad_packet`. Nothing is the return value -1: the packet is to be
relayed. -/
def processMadPacket (sw : Switch) (in_port_num : Nat) (lrh : Lrh) (buffer : List UInt8) :
    Except Stop (Option (Switch × List Sent)) :=
  if buffer.length < DETH_SIZE then .ok (some (sw, []))
  else if buffer.length - DETH_SIZE < SMP_SIZE then .ok (some (sw, []))
  else
    let smp := Smp.decode (buffer.drop DETH_SIZE)
    let dlid := lrh.dlid
    if smp.mgmt_class = PIB_MGMT_CLASS_SUBN_DIRECTED_ROUTE then
      if smp.dr_slid ≠ PIB_LID_PERMISSIVE ∨ smp.dr_dlid ≠ PIB_LID_PERMISSIVE then
        .error (.exit .drLid)
      else if smp.status / PIB_SMP_DIRECTION = 0 then
        some <$> outgoingSmp sw in_port_num lrh smp
      else some <$> returningSmp sw lrh smp
    else if smp.mgmt_class = PIB_MGMT_CLASS_SUBN_LID_ROUTED then
      if dlid ≠ (sw.ports 0).lid then .ok none
      else do
        let ((ret, smp), sw) ← pibProcessSmp smp sw in_port_num
        if ret &&& PIB_MAD_RESULT_CONSUMED ≠ 0 then return some (sw, [])
        else if ret &&& PIB_MAD_RESULT_FAILURE ≠ 0 then return some (sw, [])
        else
          return some (sw, ← sendPacket sw in_port_num { lrh with dlid := lrh.slid, slid := dlid } smp)
    else if smp.mgmt_class = PIB_MGMT_CLASS_PERF_MGMT then do
      let ret ← pibProcessPmaMad smp sw in_port_num
      if ret &&& PIB_MAD_RESULT_FAILURE ≠ 0 then return some (sw, [])
      else
        -- the source LID is stored in host order
        return some (sw, ← sendPacket sw in_port_num
          { lrh with dlid := lrh.slid, slid := swap16 dlid } smp)
    else .error (.exit .mgmtClass)

/-! ## Any datagram -/

def PIB_QP0 : Nat := 0
def PIB_QP1 : Nat := 1
def PIB_MULTICAST_QPN : Nat := 0xFFFFFF

/-- `pib_is_unicast_lid`. -/
def pibIsUnicastLid (lid : Nat) : Bool := decide (lid < PIB_MCAST_LID_BASE ∨ lid = PIB_LID_PERMISSIVE)

/-- `pib_is_permissive_lid`. -/
def pibIsPermissiveLid (lid : Nat) : Bool := decide (lid = 0 ∨ lid = PIB_LID_PERMISSIVE)

/-- The dispatch of `receive_packet` on the destination queue pair and LID. -/
def dispatch (sw : Switch) (in_port_num : Nat) (lrh : Lrh) (dest_qp_num : Nat)
    (buffer : List UInt8) : Outcome :=
  let dlid := lrh.dlid
  if QPN_MOD ≤ dest_qp_num then .ok (sw, [])
  else if dest_qp_num = PIB_QP0 then do
    match ← processMadPacket sw in_port_num lrh buffer with
    | some r => return r
    | none => return (sw, ← relayUnicastPacket sw dlid lrh)
  else if pibIsPermissiveLid dlid = false ∧ dlid ≠ (sw.ports 0).lid then
    if dest_qp_num = PIB_MULTICAST_QPN ∨ pibIsUnicastLid dlid = false then do
      return (sw, ← relayMulticastPacket sw in_port_num dlid lrh)
    else do
      return (sw, ← relayUnicastPacket sw dlid lrh)
  else if dest_qp_num = PIB_QP1 then do
    match ← processMadPacket sw in_port_num lrh buffer with
    | some r => return r
    -- the return value is not looked at
    | none => return (sw, [])
  else .ok (sw, [])

/-- `parse_packet_header` is the text of `pib_parse_packet_header`. -/
def parsePacketHeader (buffer : List UInt8) : Except Int Headers := pibParsePacketHeader buffer

/-- `receive_packet` of a message from this address. -/
def receivePacket (sw : Switch) (sockaddr : SockAddr) (message : List UInt8) : Outcome :=
  if message.length < FOOTER_SIZE then .ok (sw, [])
  else
    let packet := message.take (message.length - FOOTER_SIZE)
    let port_guid := ofBe (message.drop (message.length - FOOTER_SIZE))
    if port_guid = 0 then .ok (sw, [])
    else
      match parsePacketHeader packet with
      | .error _ => .ok (sw, [])
      | .ok { size, grh := _, bth } =>
        let lrh := Lrh.decode packet
        let buffer := packet.drop size
        match bth with
        | none => processRawPacket sw port_guid sockaddr lrh buffer
        | some bth =>
          let in_port_num := detectInPort sw port_guid
          if in_port_num = 0 then .ok (sw, [])
          else dispatch sw in_port_num lrh (Bth.decode (packet.drop bth)).destQP buffer

end pib.Netd
