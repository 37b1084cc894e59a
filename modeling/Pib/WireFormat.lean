-- Every packet that the driver puts together is read back as it was written:
-- what is composed is well formed, the parser accepts it, and what is left
-- after padding and ICRC are taken off is what followed the BTH.
import Pib.Composed

namespace pib

open Bytes

variable {x : WirePacket} {n : Node} {buffer : List UInt8}

/-! ## What goes out -/

/-- What the thread can put together in its send buffer. -/
inductive Outgoing
  | request (n : Node) (w : SendWqe)
  | acknowledge (n : Node)
  | cnp (q : Qp)
  | datagram (n : UdNode) (qp_num : Nat) (w : SendWqe)

/-- The extension headers of a request. -/
def requestHeaders (q : Qp) (w : SendWqe) : List UInt8 :=
  match w.opcode with
  | .RDMA_READ => readReth q w
  | .ATOMIC_CMP_AND_SWP | .ATOMIC_FETCH_AND_ADD => atomicEth w
  | _ => writeReth w ++ lastWord w

/-- The length of the payload of a request. -/
def requestLength (q : Qp) (w : SendWqe) : Nat :=
  match w.opcode with
  | .RDMA_READ | .ATOMIC_CMP_AND_SWP | .ATOMIC_FETCH_AND_ADD => 0
  | _ => payloadSize q w

/-- The extension headers of an acknowledge. -/
def responseHeaders (q : Qp) (ack : Ack) : List UInt8 :=
  match ack.type with
  | .NORMAL => aeth ack.syndrome
  | .ATOMIC => aeth PIB_SYND_ACK_CODE ++ be 8 ack.res
  | .RDMA_READ => readAeth q ack

/-- The length of the payload of an acknowledge. -/
def responseLength (q : Qp) (ack : Ack) : Nat :=
  if ack.type = .RDMA_READ then readDataSize q ack else 0

namespace Outgoing

/-- The send buffer when it is ready to be sent. -/
def compose (cfg : Config) (ports : Nat → Port) (buf : Mem) : Outgoing → Option Mem
  | request n w => sentRequest ports n w buf
  | acknowledge n => sentAcknowledge ports n buf
  | cnp q => some (composeCnp ports q buf)
  | datagram n qp_num w => sentDatagram cfg ports n qp_num w buf

/-- The packet in the send buffer. -/
def packet (cfg : Config) (ports : Nat → Port) (buf : Mem) (buffer : List UInt8) :
    Outgoing → Option WirePacket
  | request n w => requestPacket ports n w buffer
  | acknowledge n => acknowledgePacket ports n buffer
  | cnp q => some (cnpPacket ports q)
  | datagram n qp_num w => datagramPacket cfg ports n qp_num w buf buffer

/-- The queue pair that the packet is for. -/
def destQP : Outgoing → Nat
  | request n _ => n.qp.attr.dest_qp_num
  | acknowledge n => n.qp.attr.dest_qp_num
  | cnp q => q.attr.dest_qp_num
  | datagram _ _ w => w.wr.ud.remote_qpn

/-- The extension headers. -/
def extension : Outgoing → List UInt8
  | request n w => requestHeaders n.qp w
  | acknowledge n => (n.qp.responder.acks.head?.map (responseHeaders n.qp)).getD []
  | cnp _ => []
  | datagram n qp_num w => deth n.qp qp_num w ++ udWord w

/-- The length of the headers up to the BTH. -/
def headerLength (cfg : Config) : Outgoing → Nat
  | request n _ => bthOffset n.qp.attr.ah_attr + BTH_SIZE
  | acknowledge n => bthOffset n.qp.attr.ah_attr + BTH_SIZE
  | cnp q => bthOffset q.attr.ah_attr + BTH_SIZE
  | datagram n _ w => ((udRoute cfg n w).map fun ah => bthOffset ah.attr + BTH_SIZE).getD 0

/-- The length of the payload. -/
def payloadLength : Outgoing → Nat
  | request n w => requestLength n.qp w
  | acknowledge n => (n.qp.responder.acks.head?.map (responseLength n.qp)).getD 0
  | cnp _ => 0
  | datagram _ _ w => w.total_length

theorem compose_sends (cfg : Config) (ports : Nat → Port) (buf : Mem) (o : Outgoing) :
    ∃ buffer, SendsPacket (o.compose cfg ports buf) (o.packet cfg ports buf buffer) := by
  cases o with
  | request n w => exact sentRequest_sends ports n w buf
  | acknowledge n => exact sentAcknowledge_sends ports n buf
  | cnp q => exact ⟨[], .packet (composeCnp_framed ports q buf)⟩
  | datagram n qp_num w => exact sentDatagram_sends cfg ports n qp_num w buf

/-- The destination LIDs hold what their type can hold. -/
def DlidTyped : Outgoing → Prop
  | request n _ => n.qp.attr.ah_attr.dlid < 2 ^ 16
  | acknowledge n => n.qp.attr.ah_attr.dlid < 2 ^ 16
  | cnp q => q.attr.ah_attr.dlid < 2 ^ 16
  | datagram n _ _ => ∀ i ah, n.ahs i = some ah → ah.attr.dlid < 2 ^ 16

/-- The fields that go into the headers hold what their types can hold. -/
structure Typed (ports : Nat → Port) (o : Outgoing) : Prop where
  lid : ∀ i, (ports i).lid < 2 ^ 16
  pkey : ∀ i j, (ports i).pkey_table j < 2 ^ 16
  destQP : o.destQP < 2 ^ 32
  dlid : o.DlidTyped

end Outgoing

/-! ## Well-formed packets -/

/-- The parts of a packet that the last step does not write. -/
structure WirePacket.Headed (x : WirePacket) : Prop where
  dlid : x.lrh.dlid < 2 ^ 16
  slid : x.lrh.slid < 2 ^ 16
  bth : x.bth.Typed
  version : x.lrh.vl_lver = 0
  route : (x.grh = [] ∧ x.lrh.lnh = 2) ∨ (x.grh.length = GRH_SIZE ∧ x.lrh.lnh = 3)

theorem padFlags_toNat {padcnt : Nat} (h : padcnt < 4) (solicited : Bool) :
    (padFlags padcnt solicited).toNat / 2 ^ 4 % 4 = padcnt := by
  unfold padFlags
  rw [UInt8.toNat_ofNat']
  split <;> omega

/-- A packet that fits in 2047 words is well formed when it is finished. -/
theorem WirePacket.Headed.finish (h : x.Headed) (solicited : Bool)
    (hlen : x.body.length ≤ 8000) : (x.finish solicited).WellFormed := by
  have hgrh : x.grh.length = 0 ∨ x.grh.length = 40 := by
    rcases h.route with ⟨hg, -⟩ | ⟨hg, -⟩
    · exact Or.inl (by rw [hg]; rfl)
    · exact Or.inr hg
  have hpad := padFlags_toNat (padOf_lt x.body.length) solicited
  have hpktlen : x.pktlen < 2 ^ 11 := by
    unfold pktlen headerSize LRH_SIZE BTH_SIZE
    omega
  have hmod : x.pktlen % 2 ^ 11 = x.pktlen := Nat.mod_eq_of_lt hpktlen
  have hwords : x.pktlen * 4 = x.headerSize + x.body.length + padOf x.body.length + ICRC_SIZE := by
    unfold pktlen headerSize padOf LRH_SIZE BTH_SIZE ICRC_SIZE
    omega
  refine ⟨⟨h.dlid, h.slid, ?_⟩, ⟨h.bth.pkey, h.bth.destQP, h.bth.psn⟩, h.version, h.route, ?_, ?_⟩
  · show x.pktlen % 2 ^ 11 < 2 ^ 16
    omega
  · show x.pktlen % 2 ^ 11 * 4 = x.headerSize + x.body.length +
      (padFlags (padOf x.body.length) solicited).toNat / 2 ^ 4 % 4 + ICRC_SIZE
    rw [hpad, hmod, hwords]
  · show x.pktlen % 2 ^ 11 < 2 ^ 11
    omega

theorem route_lnh (port : Port) (a : AhAttr) :
    (grhOf port a = [] ∧ (slRsvLnh a).toNat % 4 = 2) ∨
      ((grhOf port a).length = GRH_SIZE ∧ (slRsvLnh a).toNat % 4 = 3) := by
  unfold grhOf slRsvLnh
  rw [UInt8.toNat_ofNat']
  split
  · exact Or.inr ⟨length_pibFillGrh port a, by omega⟩
  · exact Or.inl ⟨rfl, by omega⟩

theorem psnMask_lt (psn : Nat) : psnMask psn < 2 ^ 24 := Nat.mod_lt _ (by decide)

theorem rcHead_headed {ports : Nat → Port} {a : QpAttr} (hlid : (ports a.port_num).lid < 2 ^ 16)
    (hpkey : (ports a.port_num).pkey_table a.pkey_index < 2 ^ 16) (hdest : a.dest_qp_num < 2 ^ 32)
    (hdlid : a.ah_attr.dlid < 2 ^ 16) (opcode : OpCode) (psn : Nat) (body : List UInt8) :
    (rcHead ports a opcode psn body).Headed where
  dlid := hdlid
  slid := hlid
  bth := ⟨hpkey, hdest, (psnMask_lt psn).trans (by decide)⟩
  version := rfl
  route := route_lnh _ _

theorem udHead_headed {ports : Nat → Port} {q : Qp} {w : SendWqe} {a : AhAttr}
    (hlid : (ports a.port_num).lid < 2 ^ 16)
    (hpkey : (ports a.port_num).pkey_table w.wr.ud.pkey_index < 2 ^ 16)
    (hdest : w.wr.ud.remote_qpn < 2 ^ 32) (hdlid : a.dlid < 2 ^ 16) (buf : Mem) (body : List UInt8) :
    (udHead ports q w a buf body).Headed where
  dlid := by
    show (if smpCorrected w a buf 34 then IB_LID_PERMISSIVE else a.dlid) < 2 ^ 16
    split
    · decide
    · exact hdlid
  slid := by
    show (if smpCorrected w a buf 32 then IB_LID_PERMISSIVE else (ports a.port_num).lid) < 2 ^ 16
    split
    · decide
    · exact hlid
  bth := ⟨hpkey, hdest, (psnMask_lt _).trans (by decide)⟩
  version := rfl
  route := route_lnh _ _

/-! ## From the send buffer to the network -/

theorem Framed.read_lrh {buf : Mem} (h : Framed buf x) : read buf 0 LRH_SIZE = x.lrh.encode := by
  have hroute := (holds_append.mp h.route).1
  unfold Holds at hroute
  rwa [Lrh.length_encode] at hroute

theorem Framed.read_slid {buf : Mem} (h : Framed buf x) : read buf 4 2 = be 2 x.lrh.slid := by
  have hlrh := (holds_append.mp h.route).1
  unfold Lrh.encode at hlrh
  have hs := (holds_append.mp (holds_append.mp hlrh).1).2
  exact hs

theorem Framed.read_dlid {buf : Mem} (h : Framed buf x) : read buf 0 2 = be 2 x.lrh.dlid := by
  have hlrh := (holds_append.mp h.route).1
  unfold Lrh.encode at hlrh
  have hd := (holds_append.mp (holds_append.mp (holds_append.mp hlrh).1).1).1
  exact hd

/-- The message is the packet, with some padding and the footer. -/
theorem processSendmsg_eq {buf : Mem} (h : Framed buf x) (hx : x.WellFormed) (port_guid : Nat) :
    ∃ pad : List UInt8, pad.length = pibPacketBthGetPadcnt x.bth + ICRC_SIZE ∧
      processSendmsg port_guid buf = some (x.encode ++ pad ++ be 8 port_guid) := by
  have hlrh : Lrh.decode (read buf 0 LRH_SIZE) = x.lrh := by
    rw [h.read_lrh, ← List.append_nil x.lrh.encode]
    exact Lrh.decode_encode hx.lrh []
  have hpktlen : pibPacketLrhGetPktlen x.lrh = x.lrh.pktlen := Nat.mod_eq_of_lt hx.short
  have hshort := hx.short
  have hwords : x.lrh.pktlen * 4 =
      x.encode.length + (pibPacketBthGetPadcnt x.bth + ICRC_SIZE) := by
    rw [hx.words, x.length_encode, Nat.add_assoc]
  refine ⟨read buf x.encode.length (pibPacketBthGetPadcnt x.bth + ICRC_SIZE), length_read _ _ _, ?_⟩
  have hpacket : Holds buf 0 (x.encode ++
      read buf x.encode.length (pibPacketBthGetPadcnt x.bth + ICRC_SIZE)) := by
    refine holds_append.mpr ⟨h.holds, ?_⟩
    unfold Holds
    rw [length_read, Nat.zero_add]
  have hmsg := hpacket.append (be 8 port_guid)
  unfold Holds at hmsg
  unfold processSendmsg
  dsimp only
  rw [hlrh, hpktlen, if_neg (by unfold PIB_PACKET_BUFFER ICRC_SIZE at *; omega)]
  have hlen : (x.encode ++ read buf x.encode.length (pibPacketBthGetPadcnt x.bth + ICRC_SIZE)).length =
      x.lrh.pktlen * 4 := by
    rw [List.length_append, length_read, hwords]
  have htotal : (x.encode ++ read buf x.encode.length (pibPacketBthGetPadcnt x.bth + ICRC_SIZE) ++
      be 8 port_guid).length = x.lrh.pktlen * 4 + FOOTER_SIZE := by
    rw [List.length_append, hlen, length_be]
    rfl
  rw [htotal, hlen, Nat.zero_add] at hmsg
  exact congrArg some hmsg

/-! ## The round trip -/

/-- The message that goes out is taken apart into the headers and the body that
were written, for this queue pair. -/
def ReadsBack (port_guid : Nat) (buf : Mem) (x : WirePacket) (dest_qp_num : Nat) : Prop :=
  ∃ message, processSendmsg port_guid buf = some message ∧
    pibParsePacketHeader (message.take (message.length - FOOTER_SIZE)) = .ok x.headers ∧
    incomingMessage message = some (x.received dest_qp_num)

theorem readsBack_of_lt {buf : Mem} (h : Framed buf x) (hx : x.WellFormed)
    (port_guid : Nat) (hlt : x.bth.destQP < QPN_MOD) : ReadsBack port_guid buf x x.bth.destQP := by
  obtain ⟨pad, hpad, hmsg⟩ := processSendmsg_eq h hx port_guid
  have hfooter : (be 8 port_guid).length = FOOTER_SIZE := length_be 8 port_guid
  refine ⟨_, hmsg, ?_, ?_⟩
  · rw [List.length_append, hfooter, Nat.add_sub_cancel, List.take_left]
    exact WirePacket.parse hx hpad
  · rw [WirePacket.incoming hx hpad hfooter, Nat.mod_eq_of_lt hlt]

namespace Outgoing

/-- A packet that goes out is a finished one: its headers are those of the
request, and its body is the extension headers with the payload. -/
structure Sends (cfg : Config) (o : Outgoing) (x : WirePacket) (y : WirePacket) (solicited : Bool) :
    Prop where
  finish : x = y.finish solicited
  headed : y.Headed
  header : y.headerSize = o.headerLength cfg
  destQP : y.bth.destQP = o.destQP
  body : ∃ data : List UInt8, y.body = o.extension ++ data ∧ data.length = o.payloadLength

theorem gathered_some {c : WcStatus × List UInt8} {data : List UInt8} (h : gathered c = some data) :
    c.1 = .SUCCESS ∧ c.2 = data := by
  obtain ⟨status, bytes⟩ := c
  by_cases hs : status = .SUCCESS
  · subst hs
    exact ⟨rfl, Option.some.inj h⟩
  · rw [gathered_of_ne hs] at h
    cases h

theorem dataBody_some {w : SendWqe} {body : List UInt8} (h : dataBody n w buffer = some body) :
    ∃ data : List UInt8, body = writeReth w ++ lastWord w ++ data ∧
      data.length = payloadSize n.qp w := by
  unfold dataBody at h
  split at h
  · cases h
  obtain ⟨data, hdata, rfl⟩ := Option.map_eq_some_iff.mp h
  obtain ⟨hs, rfl⟩ := gathered_some hdata
  exact ⟨_, rfl, payloadBytes_length _ hs⟩

section

variable {q : Qp} {w : SendWqe} (hread : w.opcode ≠ .RDMA_READ) (hcas : w.opcode ≠ .ATOMIC_CMP_AND_SWP)
  (hadd : w.opcode ≠ .ATOMIC_FETCH_AND_ADD)
include hread hcas hadd

theorem requestHeaders_data : requestHeaders q w = writeReth w ++ lastWord w := by
  unfold requestHeaders
  split <;> first | rfl | contradiction

theorem requestLength_data : requestLength q w = payloadSize q w := by
  unfold requestLength
  split <;> first | rfl | contradiction

end

theorem requestBody_some {w : SendWqe} {body : List UInt8}
    (h : requestBody n w buffer = some body) :
    ∃ data : List UInt8, body = requestHeaders n.qp w ++ data ∧
      data.length = requestLength n.qp w := by
  unfold requestBody at h
  split at h
  · rename_i ho
    rw [requestHeaders, requestLength, ho]
    split at h
    · cases h
    · exact ⟨[], by simp [← Option.some.inj h], rfl⟩
  · rename_i ho
    rw [requestHeaders, requestLength, ho]
    exact ⟨[], by simp [← Option.some.inj h], rfl⟩
  · rename_i ho
    rw [requestHeaders, requestLength, ho]
    exact ⟨[], by simp [← Option.some.inj h], rfl⟩
  · rename_i hread hcas hadd
    rw [requestHeaders_data hread hcas hadd, requestLength_data hread hcas hadd]
    exact dataBody_some h

theorem request_sends {cfg : Config} {ports : Nat → Port} {w : SendWqe} (ht : (request n w).Typed ports) (h : requestPacket ports n w buffer = some x) :
    ∃ y solicited, (request n w).Sends cfg x y solicited := by
  unfold requestPacket at h
  split at h
  · cases h
  cases hop : requestOpcode w with
  | none => simp [hop] at h
  | some opcode =>
    rw [hop] at h
    obtain ⟨body, hbody, hx⟩ := Option.map_eq_some_iff.mp h
    exact ⟨_, _, hx.symm, rcHead_headed (ht.lid _) (ht.pkey _ _) ht.destQP ht.dlid _ _ _,
      headerSize_rcHead, rfl, requestBody_some hbody⟩

theorem acknowledge_sends {cfg : Config} {ports : Nat → Port}
    (ht : (acknowledge n).Typed ports) (h : acknowledgePacket ports n buffer = some x) :
    ∃ y solicited, (acknowledge n).Sends cfg x y solicited := by
  unfold acknowledgePacket at h
  have hhead := rcHead_headed (ht.lid n.qp.attr.port_num) (ht.pkey _ n.qp.attr.pkey_index) ht.destQP
    ht.dlid
  dsimp only at h
  split at h
  · cases h
  cases hacks : n.qp.responder.acks with
  | nil => simp [hacks] at h
  | cons ack acks =>
    have hext : (acknowledge n).extension = responseHeaders n.qp ack := by simp [extension, hacks]
    have hlen : (acknowledge n).payloadLength = responseLength n.qp ack := by
      simp [payloadLength, hacks]
    simp only [hacks] at h
    cases htype : ack.type with
    | NORMAL | ATOMIC =>
      simp only [htype] at h
      refine ⟨_, _, (Option.some.inj h).symm, hhead _ _ _, headerSize_rcHead, rfl, [], ?_, ?_⟩
      · rw [hext, responseHeaders, htype, List.append_nil]
        rfl
      · simp [hlen, responseLength, htype]
    | RDMA_READ =>
      simp only [htype] at h
      split at h
      · cases h
      obtain ⟨data, hdata, hx⟩ := Option.bind_eq_some_iff.mp h
      obtain ⟨hs, rfl⟩ := gathered_some hdata
      refine ⟨_, _, (Option.some.inj hx).symm, hhead _ _ _, headerSize_rcHead, rfl,
        (readBytes n ack buffer).2, ?_, ?_⟩
      · rw [hext, responseHeaders, htype]
        rfl
      · rw [hlen, responseLength, if_pos htype]
        exact readBytes_length _ hs

theorem Typed.dlid_lt {cfg : Config} {ports : Nat → Port} {n : UdNode} {qp_num : Nat} {w : SendWqe}
    {ah : Ah} (ht : (datagram n qp_num w).Typed ports) (h : udRoute cfg n w = some ah) :
    ah.attr.dlid < 2 ^ 16 := by
  unfold udRoute at h
  split at h
  · cases h
  cases hah : w.wr.ud.ah.bind n.ahs with
  | none => simp [hah] at h
  | some ah' =>
    simp only [hah] at h
    split at h
    · cases h
    cases h
    obtain ⟨i, -, hi⟩ := Option.bind_eq_some_iff.mp hah
    exact ht.dlid i _ hi

theorem datagram_sends {cfg : Config} {ports : Nat → Port} {n : UdNode} {qp_num : Nat} {w : SendWqe}
    {buf : Mem} (ht : (datagram n qp_num w).Typed ports)
    (h : datagramPacket cfg ports n qp_num w buf buffer = some x) :
    ∃ y solicited, (datagram n qp_num w).Sends cfg x y solicited := by
  unfold datagramPacket at h
  cases hroute : udRoute cfg n w with
  | none => simp [hroute] at h
  | some ah =>
    have hdlid := ht.dlid_lt hroute
    simp only [hroute] at h
    split at h
    · cases h
    obtain ⟨data, hdata, hx⟩ := Option.map_eq_some_iff.mp h
    obtain ⟨hs, rfl⟩ := gathered_some hdata
    refine ⟨_, _, hx.symm, udHead_headed (ht.lid _) (ht.pkey _ _) ht.destQP hdlid _ _, ?_, rfl, _, rfl,
      payloadBytes_length _ hs⟩
    simp only [headerLength, hroute, Option.map_some, Option.getD_some]
    rw [bthOffset_eq (ports ah.attr.port_num)]
    rfl

theorem packet_sends {cfg : Config} {ports : Nat → Port} {buf : Mem}
    {o : Outgoing} (ht : o.Typed ports) (h : o.packet cfg ports buf buffer = some x) :
    ∃ y solicited, o.Sends cfg x y solicited := by
  cases o with
  | request n w => exact request_sends ht h
  | acknowledge n => exact acknowledge_sends ht h
  | cnp q =>
    exact ⟨_, _, (Option.some.inj h).symm,
      rcHead_headed (ht.lid _) (ht.pkey _ _) ht.destQP ht.dlid _ _ _, headerSize_rcHead, rfl, [],
      rfl, rfl⟩
  | datagram n qp_num w => exact datagram_sends ht h

theorem length_requestHeaders_le (q : Qp) (w : SendWqe) : (requestHeaders q w).length ≤ 28 := by
  unfold requestHeaders
  split
  · simp [readReth, Reth.encode]
  · simp [atomicEth, AtomicEth.encode]
  · simp [atomicEth, AtomicEth.encode]
  · unfold writeReth lastWord
    split <;> split <;> simp [Reth.encode]

theorem length_responseHeaders_le (q : Qp) (ack : Ack) : (responseHeaders q ack).length ≤ 28 := by
  unfold responseHeaders readAeth
  split
  · simp [aeth]
  · simp [aeth]
  · split <;> simp [aeth]

theorem length_extension_le (o : Outgoing) : o.extension.length ≤ 28 := by
  cases o with
  | request n w => exact length_requestHeaders_le n.qp w
  | acknowledge n =>
    cases hacks : n.qp.responder.acks with
    | nil => simp [extension, hacks]
    | cons ack acks => simpa [extension, hacks] using length_responseHeaders_le n.qp ack
  | cnp q => simp [extension]
  | datagram n qp_num w =>
    unfold extension udWord
    rw [List.length_append, length_deth]
    split <;> simp

/-- The packet in the send buffer is the one that was asked for, and is read
back on the other side as it was written. -/
def RoundTrip (cfg : Config) (ports : Nat → Port) (port_guid : Nat) (o : Outgoing) (buf buf' : Mem) :
    Prop :=
  ∃ (buffer : List UInt8) (x : WirePacket), o.packet cfg ports buf buffer = some x ∧
    Holds buf' 0 x.encode ∧
    (∃ data : List UInt8, x.body = o.extension ++ data ∧ data.length = o.payloadLength) ∧
    ReadsBack port_guid buf' x o.destQP

variable {cfg : Config} {ports : Nat → Port} {o : Outgoing} {buf buf' : Mem}

/-- What is composed is a well-formed packet. -/
theorem composed_wellFormed (ht : o.Typed ports) (hlen : o.payloadLength ≤ 4096)
    (h : o.compose cfg ports buf = some buf') :
    ∃ (buffer : List UInt8) (x : WirePacket), o.packet cfg ports buf buffer = some x ∧ Framed buf' x ∧
      x.WellFormed ∧ x.bth.destQP = o.destQP ∧
      ∃ data : List UInt8, x.body = o.extension ++ data ∧ data.length = o.payloadLength := by
  obtain ⟨buffer, hsends⟩ := compose_sends cfg ports buf o
  rw [h] at hsends
  cases hp : o.packet cfg ports buf buffer with
  | none =>
    rw [hp] at hsends
    nomatch hsends
  | some x =>
    rw [hp] at hsends
    cases hsends with
    | packet hframed =>
      obtain ⟨y, solicited, hs⟩ := packet_sends ht hp
      obtain ⟨data, hbody, hdata⟩ := hs.body
      have hext := o.length_extension_le
      have hy : y.body.length ≤ 8000 := by
        rw [hbody, List.length_append]
        omega
      refine ⟨buffer, x, hp, hframed, ?_, ?_, data, ?_, hdata⟩
      · rw [hs.finish]
        exact hs.headed.finish solicited hy
      · rw [hs.finish]
        exact hs.destQP
      · rw [hs.finish]
        exact hbody

theorem destQP_of_roundTrip {port_guid : Nat} (ht : o.Typed ports) (hlen : o.payloadLength ≤ 4096)
    (h : o.compose cfg ports buf = some buf') (hr : o.RoundTrip cfg ports port_guid buf buf') :
    o.destQP < QPN_MOD := by
  obtain ⟨-, x, -, hframed, hwf, hdest, -⟩ := composed_wellFormed ht hlen h
  obtain ⟨-, x', -, -, -, message, hsend, -, hrec⟩ := hr
  obtain ⟨pad, hpad, hmsg⟩ := processSendmsg_eq hframed hwf port_guid
  rw [hmsg] at hsend
  cases hsend
  rw [WirePacket.incoming hwf hpad (length_be 8 port_guid)] at hrec
  have hnum : x.bth.destQP % QPN_MOD = o.destQP :=
    congrArg Incoming.dest_qp_num (Option.some.inj hrec)
  rw [← hnum]
  exact Nat.mod_lt _ (by decide)

/-- Every packet with a payload of at most 4096 bytes makes the round trip,
unless its destination has more than the 24 bits that are read back. -/
theorem roundTrip_iff (cfg : Config) (ports : Nat → Port) (port_guid : Nat) (o : Outgoing)
    (buf buf' : Mem) (ht : o.Typed ports) (hlen : o.payloadLength ≤ 4096)
    (h : o.compose cfg ports buf = some buf') :
    o.RoundTrip cfg ports port_guid buf buf' ↔ o.destQP < 2 ^ 24 := by
  refine ⟨fun hr => destQP_of_roundTrip ht hlen h hr, fun hlt => ?_⟩
  obtain ⟨buffer, x, hp, hframed, hwf, hdest, hbody⟩ := composed_wellFormed ht hlen h
  refine ⟨buffer, x, hp, hframed.holds, hbody, ?_⟩
  rw [← hdest] at hlt ⊢
  exact readsBack_of_lt hframed hwf port_guid hlt

/-- A queue pair that has an acknowledge to send, over a route with a GRH. -/
def answering (dest_qp_num : Nat) : Node :=
  { qp :=
      { state := .RTS
        attr := { dest_qp_num, ah_attr := { dlid := 7, grh := true } }
        responder := { acks := [{ type := .NORMAL, psn := 5, expected_psn := 6 }] } }
    pd := { nr_mr := 0, mr_table := fun _ => none }
    mem := fun _ => 0 }

theorem answering_typed {dest_qp_num : Nat} (h : dest_qp_num < 2 ^ 32) :
    (acknowledge (answering dest_qp_num)).Typed (fun _ => {}) :=
  ⟨fun _ => by decide, fun _ _ => Nat.two_pow_pos 16, h, show 7 < 2 ^ 16 by decide⟩

/-- An acknowledge to queue pair 9 makes the round trip. -/
theorem acknowledge_roundTrip :
    ∃ buf', (acknowledge (answering 9)).compose {} (fun _ => {}) (fun _ => 0) = some buf' ∧
      (acknowledge (answering 9)).RoundTrip {} (fun _ => {}) 0 (fun _ => 0) buf' :=
  ⟨_, rfl, (roundTrip_iff {} _ 0 _ _ _ (answering_typed (by decide)) (by decide) rfl).mpr (by decide)⟩

/-- One to queue pair 0x1000009 is read back as one to queue pair 9. -/
theorem acknowledge_truncated :
    ∃ buf', (acknowledge (answering 0x1000009)).compose {} (fun _ => {}) (fun _ => 0) = some buf' ∧
      ¬(acknowledge (answering 0x1000009)).RoundTrip {} (fun _ => {}) 0 (fun _ => 0) buf' := by
  refine ⟨_, rfl, fun hr => ?_⟩
  have hlt := destQP_of_roundTrip (answering_typed (by decide)) (by decide) rfl hr
  exact absurd hlt (by decide)

end Outgoing

end pib
