-- The packets as bytes: how the functions of `pib_rc.c` and `pib_ud.c` put
-- them together in the thread's send buffer, which still holds the packet that
-- was sent before, and what `process_sendmsg` sends of it.
import Pib.Packet
import Pib.Ud

namespace pib

open Bytes

/-! ## Headers in the send buffer -/

/-- The parts of a port that go into the headers. -/
structure Port where
  lid : Nat := 0
  pkey_table : Nat → Nat := fun _ => 0
  gid : Nat → Nat := fun _ => 0

/-- `pib_packet_lrh_set_pktlen`. -/
def pibPacketLrhSetPktlen (value : Nat) (buf : Mem) : Mem := write buf 6 (be 2 (value % 2 ^ 11))

/-- `pib_packet_bth_set_padcnt` on the BTH at this offset: two bits of the byte
are replaced. -/
def pibPacketBthSetPadcnt (bth padcnt : Nat) (buf : Mem) : Mem :=
  let b := (buf (bth + 1)).toNat
  write buf (bth + 1) [UInt8.ofNat (b - b / 2 ^ 4 % 4 * 2 ^ 4 + padcnt % 4 * 2 ^ 4)]

/-- `pib_packet_bth_set_solicited`: the high bit is replaced. -/
def pibPacketBthSetSolicited (bth : Nat) (solicited : Bool) (buf : Mem) : Mem :=
  let b := (buf (bth + 1)).toNat
  write buf (bth + 1) [UInt8.ofNat (b % 2 ^ 7 + if solicited then 2 ^ 7 else 0)]

/-- The GRH of `pib_fill_grh`. -/
def pibFillGrh (port : Port) (a : AhAttr) : List UInt8 :=
  be 4 (6 * 2 ^ 28 + a.traffic_class * 2 ^ 20 + a.flow_label % 2 ^ 20) ++ be 2 0 ++
    [0, UInt8.ofNat a.hop_limit] ++ be 16 (port.gid a.sgid_index) ++ be 16 a.dgid

/-- The GRH, if there is one. -/
def grhOf (port : Port) (a : AhAttr) : List UInt8 := if a.grh then pibFillGrh port a else []

/-- Where the BTH is written. -/
def bthOffset (a : AhAttr) : Nat := if a.grh then LRH_SIZE + GRH_SIZE else LRH_SIZE

/-- `sl_rsv_lnh`: the service level over the next header. -/
def slRsvLnh (a : AhAttr) : UInt8 := UInt8.ofNat (a.sl * 2 ^ 4 + if a.grh then 3 else 2)

/-- The front of a packet, as all the functions write it. They differ in how
much they clear. -/
def writeRoute (port : Port) (a : AhAttr) (clear : Nat) (buf : Mem) : Mem :=
  let buf := write buf 0 (List.replicate clear 0)
  let buf := write buf LRH_SIZE (grhOf port a)
  let buf := write buf 3 [slRsvLnh a]
  let buf := write buf 0 (be 2 a.dlid)
  write buf 4 (be 2 port.lid)

/-- The BTH but for the byte that holds the pad count. -/
def writeBth (bth OpCode pkey destQP psn : Nat) (buf : Mem) : Mem :=
  let buf := write buf bth [UInt8.ofNat OpCode]
  let buf := write buf (bth + 2) (be 2 pkey)
  let buf := write buf (bth + 4) (be 4 destQP)
  write buf (bth + 8) (be 4 psn)

/-- The headers of an RC packet, with the address of the queue pair. -/
def writeRcHeaders (ports : Nat → Port) (a : QpAttr) (clear : Nat) (opcode : OpCode) (psn : Nat)
    (buf : Mem) : Mem :=
  let port := ports a.port_num
  writeBth (bthOffset a.ah_attr) opcode.toNat (port.pkey_table a.pkey_index) a.dest_qp_num
    (psnMask psn) (writeRoute port a.ah_attr clear buf)

/-- The end of a request of `packet_length` bytes: the length in words with the
ICRC, the pad count and the solicited bit. -/
def finishRequest (bth packet_length : Nat) (solicited : Bool) (buf : Mem) : Mem :=
  let fix_packet_length := (packet_length + 3) / 4 * 4
  let buf := pibPacketLrhSetPktlen ((fix_packet_length + 4) / 4) buf
  let buf := pibPacketBthSetPadcnt bth (fix_packet_length - packet_length) buf
  pibPacketBthSetSolicited bth solicited buf

/-! ## Requests -/

/-- The payload is copied to its place in the send buffer, from the inline data
or from memory. -/
def copyPayload (pd : Pd) (mem : Mem) (w : SendWqe) (mr_offset payload_size pos : Nat) (buf : Mem) :
    WcStatus × Mem :=
  if payload_size = 0 then (.SUCCESS, buf)
  else if w.send_flags.INLINE then
    (.SUCCESS, write buf pos
      (padTo payload_size ((w.inline_data_buffer.drop mr_offset).take payload_size)))
  else
    let (status, _, out) := pibUtilMrCopyData pd w.sge_array mem (read buf pos payload_size) mr_offset
      payload_size 0 .COPY_FROM
    (status, write buf pos out)

/-- The RETH of an RDMA WRITE, in the packets that carry one. -/
def writeReth (w : SendWqe) : List UInt8 :=
  if withReth (positionOf w.processing) w.opcode then
    Reth.encode { vaddr := w.wr.remote_addr, rkey := w.wr.rkey, dmalen := w.total_length }
  else []

/-- The immediate data or the key to invalidate, in the packets that carry it. -/
def lastWord (w : SendWqe) : List UInt8 :=
  if withWord (positionOf w.processing) w.opcode then be 4 w.ex else []

/-- The end of a request follows when its payload could be copied. -/
def finishPayload (bth packet_length : Nat) (solicited : Bool) : WcStatus × Mem → WcStatus × Mem
  | (.SUCCESS, buf) => (.SUCCESS, finishRequest bth packet_length solicited buf)
  | (status, buf) => (status, buf)

/-- `process_SEND_or_RDMA_WRITE_request`, in the send buffer. -/
def composeSendOrRdmaWrite (n : Node) (w : SendWqe) (bth : Nat) (buf : Mem) : WcStatus × Mem :=
  if PIB_MAX_PAYLOAD_LEN < w.total_length then (.LOC_LEN_ERR, buf)
  else
    let pos := bth + BTH_SIZE
    let buf := write buf pos (writeReth w)
    let pos := pos + (writeReth w).length
    let buf := write buf pos (lastWord w)
    let pos := pos + (lastWord w).length
    let payload_size := payloadSize n.qp w
    finishPayload bth (pos + payload_size) w.send_flags.SOLICITED
      (copyPayload n.pd n.mem w (mrOffset n.qp w) payload_size pos buf)

/-- The RETH of an RDMA READ request. -/
def readReth (q : Qp) (w : SendWqe) : List UInt8 :=
  Reth.encode
    { vaddr := u64 (w.wr.remote_addr + mrOffset q w), rkey := w.wr.rkey
      dmalen := u32Sub w.total_length (mrOffset q w) }

/-- `process_RDMA_READ_request`, in the send buffer. -/
def composeRdmaRead (n : Node) (w : SendWqe) (bth : Nat) (buf : Mem) : WcStatus × Mem :=
  if PIB_MAX_PAYLOAD_LEN < w.total_length then (.LOC_LEN_ERR, buf)
  else
    let pos := bth + BTH_SIZE
    let buf := write buf pos (readReth n.qp w)
    (.SUCCESS, finishRequest bth (pos + (readReth n.qp w).length) w.send_flags.SOLICITED buf)

/-- The header of an atomic request. -/
def atomicEth (w : SendWqe) : List UInt8 :=
  AtomicEth.encode
    { vaddr := w.wr.remote_addr, rkey := w.wr.rkey, swap_dt := w.wr.swap
      cmp_dt := w.wr.compare_add }

/-- `process_Atomic_request`, in the send buffer. -/
def composeAtomic (w : SendWqe) (bth : Nat) (buf : Mem) : WcStatus × Mem :=
  let pos := bth + BTH_SIZE
  let buf := write buf pos (atomicEth w)
  (.SUCCESS, finishRequest bth (pos + (atomicEth w).length) w.send_flags.SOLICITED buf)

/-- The headers of a request are written before its kind is looked at. -/
def composeRequest (ports : Nat → Port) (n : Node) (w : SendWqe) (buf : Mem) : WcStatus × Mem :=
  match requestOpcode w with
  | none => (.LOC_QP_OP_ERR, writeRcHeaders ports n.qp.attr 60 .SEND_FIRST (nextPsn w) buf)
  | some opcode =>
    let buf := writeRcHeaders ports n.qp.attr 60 opcode (nextPsn w) buf
    let bth := bthOffset n.qp.attr.ah_attr
    match w.opcode with
    | .RDMA_READ => composeRdmaRead n w bth buf
    | .ATOMIC_CMP_AND_SWP | .ATOMIC_FETCH_AND_ADD => composeAtomic w bth buf
    | _ => composeSendOrRdmaWrite n w bth buf

/-- The send buffer goes out (`ready_to_send`) when all went well. -/
def readyToSend : WcStatus × Mem → Option Mem
  | (.SUCCESS, buf) => some buf
  | _ => none

/-- The send buffer when `pib_process_rc_qp_request` has set `ready_to_send`. -/
def sentRequest (ports : Nat → Port) (n : Node) (w : SendWqe) (buf : Mem) : Option Mem :=
  if w.local_only_request = true ∨ w.processing.retry_cnt < 0 ∨ w.processing.rnr_retry < 0 then none
  else readyToSend (composeRequest ports n w buf)

/-! ## Acknowledges -/

/-- The extension headers of an acknowledge. -/
def ackHeaders (with_aeth : Bool) (syndrome : Nat) (with_atomiceth : Bool) (res : Nat) : List UInt8 :=
  (if with_aeth then aeth syndrome else []) ++ if with_atomiceth then be 8 res else []

/-- `pack_acknowledge_packet`: the size of the packet, and the send buffer. -/
def packAcknowledgePacket (ports : Nat → Port) (q : Qp) (opcode : OpCode) (psn : Nat)
    (with_aeth : Bool) (syndrome : Nat) (with_atomiceth : Bool) (res : Nat) (buf : Mem) :
    Nat × Mem :=
  let bth := bthOffset q.attr.ah_attr
  let buf := writeRcHeaders ports q.attr 72 opcode psn buf
  let pos := bth + BTH_SIZE
  let ext := ackHeaders with_aeth syndrome with_atomiceth res
  let buf := write buf pos ext
  let size := pos + ext.length
  let buf := pibPacketLrhSetPktlen ((size + 4) / 4) buf
  (size, pibPacketBthSetPadcnt bth 0 buf)

/-- `generate_Normal_or_Atomic_acknowledge`, in the send buffer. -/
def composeNormalOrAtomic (ports : Nat → Port) (q : Qp) (ack : Ack) (buf : Mem) : Mem :=
  if ack.type = .NORMAL then
    (packAcknowledgePacket ports q .ACKNOWLEDGE ack.psn true ack.syndrome false 0 buf).2
  else
    (packAcknowledgePacket ports q .ATOMIC_ACKNOWLEDGE ack.psn true PIB_SYND_ACK_CODE true ack.res
      buf).2

/-- `generate_RDMA_READ_response`, in the send buffer. The length is written
before the payload is copied. -/
def composeReadResponse (ports : Nat → Port) (n : Node) (ack : Ack) (buf : Mem) : WcStatus × Mem :=
  let opcode := readResponseOpcode ack (psnOffset n.qp ack)
  let (size, buf) := packAcknowledgePacket ports n.qp opcode (ack.psn + psnOffset n.qp ack)
    (decide (opcode ≠ .RDMA_READ_RESPONSE_MIDDLE)) PIB_SYND_ACK_CODE false 0 buf
  let data_size := readDataSize n.qp ack
  let payload_size := (data_size + 3) / 4 * 4
  let buf := pibPacketLrhSetPktlen ((size + payload_size + 4) / 4) buf
  let buf := pibPacketBthSetPadcnt (bthOffset n.qp.attr.ah_attr) (payload_size - data_size) buf
  let (status, _, out) := pibUtilMrCopyDataWithRkey n.pd ack.rkey n.mem (read buf size data_size)
    (u64 (ack.vaddress + ack.offset)) data_size IB_ACCESS_REMOTE_READ .COPY_FROM
  (status, write buf size out)

/-- The send buffer when `pib_generate_rc_qp_acknowledge` has set
`ready_to_send`. -/
def sentAcknowledge (ports : Nat → Port) (n : Node) (buf : Mem) : Option Mem :=
  if pibIsRecvOk n.qp.state = false then none
  else
    match n.qp.responder.acks with
    | [] => none
    | ack :: _ =>
      if ack.type = .RDMA_READ then
        if PIB_MAX_CONTIG_READ_ACKS < n.qp.responder.nr_contig_read_acks then none
        else readyToSend (composeReadResponse ports n ack buf)
      else some (composeNormalOrAtomic ports n.qp ack buf)

/-! ## Congestion notifications -/

/-- `process_cnp_notify_request`, in the send buffer. -/
def composeCnp (ports : Nat → Port) (q : Qp) (buf : Mem) : Mem :=
  pibPacketLrhSetPktlen ((bthOffset q.attr.ah_attr + BTH_SIZE + 4) / 4)
    (writeRcHeaders ports q.attr 60 .CNP_SEND_NOTIFY q.responder.psn buf)

/-! ## Datagrams -/

def PIB_QP0 : Nat := 0

/-- `IB_LID_PERMISSIVE`. -/
def IB_LID_PERMISSIVE : Nat := 0xFFFF

/-- The correction for a subnet management packet that begins at `smp`: a
directed route with a permissive LID replaces the LID of the packet. -/
def correctSmp (smp : Nat) (buf : Mem) : Mem :=
  if buf (smp + 1) = 0x81 then
    let buf := if read buf (smp + 32) 2 = be 2 IB_LID_PERMISSIVE then
      write buf 4 (be 2 IB_LID_PERMISSIVE) else buf
    if read buf (smp + 34) 2 = be 2 IB_LID_PERMISSIVE then write buf 0 (be 2 IB_LID_PERMISSIVE)
    else buf
  else buf

/-- The opcode byte of a datagram. -/
def udOpcode (w : SendWqe) : OpCode :=
  if w.opcode = .SEND_WITH_IMM then IB_OPCODE_UD_SEND_ONLY_WITH_IMMEDIATE else IB_OPCODE_UD_SEND_ONLY

/-- The DETH of a datagram. -/
def deth (q : Qp) (qp_num : Nat) (w : SendWqe) : List UInt8 :=
  be 4 (udQkey q w.wr.ud.remote_qkey) ++ be 4 qp_num

/-- The immediate data of a datagram. -/
def udWord (w : SendWqe) : List UInt8 := if w.opcode = .SEND_WITH_IMM then be 4 w.ex else []

/-- The headers of a datagram. -/
def writeUdHeaders (ports : Nat → Port) (q : Qp) (qp_num : Nat) (w : SendWqe) (a : AhAttr)
    (buf : Mem) : Mem :=
  let port := ports a.port_num
  let bth := bthOffset a
  let buf := writeRoute port a 68 buf
  let buf := writeBth bth (udOpcode w).toNat (port.pkey_table w.wr.ud.pkey_index)
    w.wr.ud.remote_qpn (psnMask q.attr.sq_psn) buf
  let buf := write buf (bth + BTH_SIZE) (deth q qp_num w)
  write buf (bth + BTH_SIZE + (deth q qp_num w).length) (udWord w)

/-- `pib_process_ud_qp_request`, in the send buffer. The management packet is
looked at before it is copied there. -/
def composeUd (cfg : Config) (ports : Nat → Port) (n : UdNode) (qp_num : Nat) (w : SendWqe)
    (buf : Mem) : WcStatus × Mem :=
  match udRoute cfg n w with
  | none => (.LOC_QP_OP_ERR, buf)
  | some ah =>
    let bth := bthOffset ah.attr
    let buf := writeUdHeaders ports n.qp qp_num w ah.attr buf
    let pos := bth + BTH_SIZE + (deth n.qp qp_num w).length + (udWord w).length
    let buf := if w.wr.ud.remote_qpn = PIB_QP0 then correctSmp pos buf else buf
    if w.processing.all_packets ≠ 1 then (.LOC_LEN_ERR, buf)
    else
      finishPayload bth (pos + w.total_length) w.send_flags.SOLICITED
        (copyPayload n.pd n.mem w 0 w.total_length pos buf)

/-- The send buffer when `pib_process_ud_qp_request` has set `ready_to_send`. -/
def sentDatagram (cfg : Config) (ports : Nat → Port) (n : UdNode) (qp_num : Nat) (w : SendWqe)
    (buf : Mem) : Option Mem :=
  readyToSend (composeUd cfg ports n qp_num w buf)

/-! ## Sending -/

def PIB_PACKET_BUFFER : Nat := 8192

/-- The message that `process_sendmsg` sends: the packet, with the port's GUID
behind it as a footer. -/
def processSendmsg (port_guid : Nat) (buf : Mem) : Option (List UInt8) :=
  let msg_size := pibPacketLrhGetPktlen (Lrh.decode (read buf 0 LRH_SIZE)) * 4
  if msg_size = 0 ∨ PIB_PACKET_BUFFER < msg_size then none
  else some (read (write buf msg_size (be 8 port_guid)) 0 (msg_size + FOOTER_SIZE))

end pib
