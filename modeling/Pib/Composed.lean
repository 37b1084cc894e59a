-- What the composing functions leave in the send buffer: for each kind of
-- packet the record that the buffer holds, as a function of the request and of
-- what was in the buffer before.
import Pib.Framing
import Pib.MrBuffer

namespace pib

open Bytes

/-! ## Payloads -/

/-- The bytes of a copy that has succeeded. -/
def gathered : WcStatus × List UInt8 → Option (List UInt8)
  | (.SUCCESS, data) => some data
  | _ => none

/-- The payload of a request, and the status of getting it. `buffer` is what
stood in its place before. -/
def payloadBytes (pd : Pd) (mem : Mem) (w : SendWqe) (mr_offset payload_size : Nat)
    (buffer : List UInt8) : WcStatus × List UInt8 :=
  if payload_size = 0 then (.SUCCESS, [])
  else if w.send_flags.INLINE then
    (.SUCCESS, padTo payload_size ((w.inline_data_buffer.drop mr_offset).take payload_size))
  else
    let (status, _, out) := pibUtilMrCopyData pd w.sge_array mem buffer mr_offset payload_size 0
      .COPY_FROM
    (status, out)

theorem gathered_of_ne {status : WcStatus} (h : status ≠ .SUCCESS) (data : List UInt8) :
    gathered (status, data) = none := by
  cases status <;> first | rfl | exact absurd rfl h

theorem readyToSend_of_ne {status : WcStatus} (h : status ≠ .SUCCESS) (buf : Mem) :
    readyToSend (status, buf) = none := by
  cases status <;> first | rfl | exact absurd rfl h

section Payload

variable {pd : Pd} {mem : Mem} {w : SendWqe} {mr_offset payload_size : Nat}

theorem copyPayload_eq (pos : Nat) (buf : Mem) :
    copyPayload pd mem w mr_offset payload_size pos buf =
      ((payloadBytes pd mem w mr_offset payload_size (read buf pos payload_size)).1,
        write buf pos (payloadBytes pd mem w mr_offset payload_size (read buf pos payload_size)).2) := by
  unfold copyPayload payloadBytes
  split
  · rw [write_nil]
  · split <;> rfl

theorem payloadBytes_length (buffer : List UInt8)
    (h : (payloadBytes pd mem w mr_offset payload_size buffer).1 = .SUCCESS) :
    (payloadBytes pd mem w mr_offset payload_size buffer).2.length = payload_size := by
  unfold payloadBytes at h ⊢
  by_cases hz : payload_size = 0
  · simp [hz]
  rw [if_neg hz] at h ⊢
  by_cases hin : w.send_flags.INLINE = true
  · rw [if_pos hin]
    simp only [padTo, List.length_append, List.length_replicate, List.length_take]
    omega
  · rw [if_neg hin] at h ⊢
    exact pibUtilMrCopyData_length h

theorem payloadBytes_pinned (hpd : pd.Pinned) (hoff : mr_offset < 2 ^ 32) (b₁ b₂ : List UInt8) :
    payloadBytes pd mem w mr_offset payload_size b₁ =
      payloadBytes pd mem w mr_offset payload_size b₂ := by
  unfold payloadBytes
  rw [pibUtilMrCopyData_pinned hpd w.sge_array mem b₁ b₂ hoff]

end Payload

/-! ## The packets -/

/-- The headers of an RC packet with this body. -/
def rcHead (ports : Nat → Port) (a : QpAttr) (opcode : OpCode) (psn : Nat) (body : List UInt8) :
    WirePacket :=
  { route (ports a.port_num) a.ah_attr with
    bth :=
      { OpCode := UInt8.ofNat opcode.toNat
        pkey := (ports a.port_num).pkey_table a.pkey_index
        destQP := a.dest_qp_num
        psn := psnMask psn }
    body }

/-- What follows the BTH in a SEND or RDMA WRITE packet, if it can be sent. -/
def dataBody (n : Node) (w : SendWqe) (buffer : List UInt8) : Option (List UInt8) :=
  if PIB_MAX_PAYLOAD_LEN < w.total_length then none
  else
    (gathered (payloadBytes n.pd n.mem w (mrOffset n.qp w) (payloadSize n.qp w) buffer)).map
      fun data => writeReth w ++ lastWord w ++ data

/-- What follows the BTH in the next packet of an element. -/
def requestBody (n : Node) (w : SendWqe) (buffer : List UInt8) : Option (List UInt8) :=
  match w.opcode with
  | .RDMA_READ => if PIB_MAX_PAYLOAD_LEN < w.total_length then none else some (readReth n.qp w)
  | .ATOMIC_CMP_AND_SWP | .ATOMIC_FETCH_AND_ADD => some (atomicEth w)
  | _ => dataBody n w buffer

theorem requestBody_data {n : Node} {w : SendWqe} {buffer : List UInt8} (hread : w.opcode ≠ .RDMA_READ)
    (hcas : w.opcode ≠ .ATOMIC_CMP_AND_SWP) (hadd : w.opcode ≠ .ATOMIC_FETCH_AND_ADD) :
    requestBody n w buffer = dataBody n w buffer := by
  unfold requestBody
  split <;> first | rfl | contradiction

/-- The request packet that goes out for an element. -/
def requestPacket (ports : Nat → Port) (n : Node) (w : SendWqe) (buffer : List UInt8) :
    Option WirePacket :=
  if w.local_only_request = true ∨ w.processing.retry_cnt < 0 ∨ w.processing.rnr_retry < 0 then none
  else
    match requestOpcode w with
    | none => none
    | some opcode => (requestBody n w buffer).map fun body =>
        (rcHead ports n.qp.attr opcode (nextPsn w) body).finish w.send_flags.SOLICITED

/-- The acknowledge header of a response to an RDMA READ. -/
def readAeth (q : Qp) (ack : Ack) : List UInt8 :=
  if readResponseOpcode ack (psnOffset q ack) = .RDMA_READ_RESPONSE_MIDDLE then []
  else aeth PIB_SYND_ACK_CODE

/-- The payload of a response to an RDMA READ, and the status of getting it. -/
def readBytes (n : Node) (ack : Ack) (buffer : List UInt8) : WcStatus × List UInt8 :=
  let (status, _, out) := pibUtilMrCopyDataWithRkey n.pd ack.rkey n.mem buffer
    (u64 (ack.vaddress + ack.offset)) (readDataSize n.qp ack) IB_ACCESS_REMOTE_READ .COPY_FROM
  (status, out)

/-- The acknowledge packet that goes out. -/
def acknowledgePacket (ports : Nat → Port) (n : Node) (buffer : List UInt8) : Option WirePacket :=
  let packet opcode psn body := some ((rcHead ports n.qp.attr opcode psn body).finish false)
  if pibIsRecvOk n.qp.state = false then none
  else
    match n.qp.responder.acks with
    | [] => none
    | ack :: _ =>
      match ack.type with
      | .NORMAL => packet .ACKNOWLEDGE ack.psn (aeth ack.syndrome)
      | .ATOMIC => packet .ATOMIC_ACKNOWLEDGE ack.psn (aeth PIB_SYND_ACK_CODE ++ be 8 ack.res)
      | .RDMA_READ =>
        if PIB_MAX_CONTIG_READ_ACKS < n.qp.responder.nr_contig_read_acks then none
        else
          (gathered (readBytes n ack buffer)).bind fun data =>
            packet (readResponseOpcode ack (psnOffset n.qp ack)) (ack.psn + psnOffset n.qp ack)
              (readAeth n.qp ack ++ data)

/-- The congestion notification that goes out. -/
def cnpPacket (ports : Nat → Port) (q : Qp) : WirePacket :=
  (rcHead ports q.attr .CNP_SEND_NOTIFY q.responder.psn []).finish false

/-- The bytes at `smp` are a management packet on a directed route with the
permissive LID at this offset. -/
def directedPermissive (buf : Mem) (smp offset : Nat) : Prop :=
  buf (smp + 1) = 0x81 ∧ read buf (smp + offset) 2 = be 2 IB_LID_PERMISSIVE

instance (buf : Mem) (smp offset : Nat) : Decidable (directedPermissive buf smp offset) := by
  unfold directedPermissive
  infer_instance

/-- Where the payload of a datagram begins. -/
def udPayloadOffset (w : SendWqe) (a : AhAttr) : Nat :=
  bthOffset a + BTH_SIZE + 8 + (udWord w).length

/-- The correction for management packets takes place: what stood in the place
of the payload counts when it lies behind the bytes that are cleared. -/
def smpCorrected (w : SendWqe) (a : AhAttr) (buf : Mem) (offset : Nat) : Prop :=
  w.wr.ud.remote_qpn = PIB_QP0 ∧ a.grh = true ∧ directedPermissive buf (udPayloadOffset w a) offset

instance (w : SendWqe) (a : AhAttr) (buf : Mem) (offset : Nat) :
    Decidable (smpCorrected w a buf offset) := by
  unfold smpCorrected
  infer_instance

/-- The headers of a datagram with this body. -/
def udHead (ports : Nat → Port) (q : Qp) (w : SendWqe) (a : AhAttr) (buf : Mem)
    (body : List UInt8) : WirePacket :=
  { lrh :=
      { dlid := if smpCorrected w a buf 34 then IB_LID_PERMISSIVE else a.dlid
        sl_rsv_lnh := slRsvLnh a
        slid := if smpCorrected w a buf 32 then IB_LID_PERMISSIVE else (ports a.port_num).lid }
    grh := grhOf (ports a.port_num) a
    bth :=
      { OpCode := UInt8.ofNat (udOpcode w).toNat
        pkey := (ports a.port_num).pkey_table w.wr.ud.pkey_index
        destQP := w.wr.ud.remote_qpn
        psn := psnMask q.attr.sq_psn }
    body }

/-- The datagram that goes out for an element. `buf` is the old send buffer, and
`buffer` what stood in the place of the payload. -/
def datagramPacket (cfg : Config) (ports : Nat → Port) (n : UdNode) (qp_num : Nat) (w : SendWqe)
    (buf : Mem) (buffer : List UInt8) : Option WirePacket :=
  match udRoute cfg n w with
  | none => none
  | some ah =>
    if w.processing.all_packets ≠ 1 then none
    else
      (gathered (payloadBytes n.pd n.mem w 0 w.total_length buffer)).map fun data =>
        (udHead ports n.qp w ah.attr buf (deth n.qp qp_num w ++ udWord w ++ data)).finish
          w.send_flags.SOLICITED

/-! ## RC packets in the send buffer -/

/-- The send buffer that goes out holds the packet. -/
inductive SendsPacket : Option Mem → Option WirePacket → Prop
  | nothing : SendsPacket none none
  | packet {buf : Mem} {x : WirePacket} (h : Framed buf x) : SendsPacket (some buf) (some x)

section Rc

variable {ports : Nat → Port} {a : QpAttr} {opcode : OpCode} {psn : Nat} {body : List UInt8} {buf : Mem}

theorem headerSize_rcHead :
    (rcHead ports a opcode psn body).headerSize = bthOffset a.ah_attr + BTH_SIZE := by
  rw [bthOffset_eq (ports a.port_num)]
  rfl

theorem framed_writeRcHeaders {clear : Nat} (hclear : 60 ≤ clear) (buf : Mem) :
    Framed (writeRcHeaders ports a clear opcode psn buf) (rcHead ports a opcode psn []) := by
  unfold writeRcHeaders
  rw [bthOffset_eq (ports a.port_num)]
  exact (framed_writeRoute _ _ hclear buf).writeBth _ _ _ _

theorem framed_rcAppend (h : Framed buf (rcHead ports a opcode psn body)) (cs : List UInt8) {pos : Nat}
    (hpos : pos = bthOffset a.ah_attr + BTH_SIZE + body.length) :
    Framed (write buf pos cs) (rcHead ports a opcode psn (body ++ cs)) := by
  have happ := h.append cs
  rw [headerSize_rcHead] at happ
  rw [hpos]
  exact happ

theorem framed_rcFinish (h : Framed buf (rcHead ports a opcode psn body)) (solicited : Bool) {len : Nat}
    (hlen : len = bthOffset a.ah_attr + BTH_SIZE + body.length) :
    Framed (finishRequest (bthOffset a.ah_attr) len solicited buf)
      ((rcHead ports a opcode psn body).finish solicited) := by
  have hfin := framed_finishRequest h rfl (headerSize_mod _ _) solicited
  rw [headerSize_rcHead] at hfin
  rw [hlen, bthOffset_eq (ports a.port_num)]
  rw [bthOffset_eq (ports a.port_num)] at hfin
  exact hfin

end Rc

/-- The payload and the end of a request or datagram. -/
theorem finishPayload_sends {buf : Mem} {x : WirePacket} (h : Framed buf x)
    (hx : x.bth.se_m_padcnt_tver = 0) (halign : x.headerSize % 4 = 0) {bth pos : Nat}
    (hbth : bth = LRH_SIZE + x.grh.length) (hpos : pos = x.headerSize + x.body.length) (pd : Pd)
    (mem : Mem) (w : SendWqe) (mr_offset payload_size : Nat) (solicited : Bool) :
    SendsPacket
      (readyToSend (finishPayload bth (pos + payload_size) solicited
        (copyPayload pd mem w mr_offset payload_size pos buf)))
      ((gathered (payloadBytes pd mem w mr_offset payload_size (read buf pos payload_size))).map
        fun data => { x with body := x.body ++ data }.finish solicited) := by
  have hlen := @payloadBytes_length pd mem w mr_offset payload_size (read buf pos payload_size)
  rw [copyPayload_eq]
  generalize payloadBytes pd mem w mr_offset payload_size _ = c at hlen ⊢
  obtain ⟨status, data⟩ := c
  by_cases hs : status = .SUCCESS
  · subst hs
    have hfin := framed_finishRequest (h.append data) hx halign solicited
    have hsum : pos + payload_size = x.headerSize + (x.body ++ data).length := by
      rw [List.length_append, hlen rfl, hpos, Nat.add_assoc]
    rw [hsum, hbth, hpos]
    exact .packet hfin
  · have hready : readyToSend (finishPayload bth (pos + payload_size) solicited
        (status, write buf pos data)) = none := by
      cases status <;> first | rfl | exact absurd rfl hs
    dsimp only
    rw [hready, gathered_of_ne hs]
    exact .nothing

section Request

variable {ports : Nat → Port} {n : Node} {w : SendWqe} {opcode : OpCode} {psn : Nat} {buf : Mem}

theorem composeSendOrRdmaWrite_sends (h : Framed buf (rcHead ports n.qp.attr opcode psn [])) :
    ∃ buffer, SendsPacket
      (readyToSend (composeSendOrRdmaWrite n w (bthOffset n.qp.attr.ah_attr) buf))
      ((dataBody n w buffer).map fun body =>
        (rcHead ports n.qp.attr opcode psn body).finish w.send_flags.SOLICITED) := by
  unfold composeSendOrRdmaWrite dataBody
  by_cases hmax : PIB_MAX_PAYLOAD_LEN < w.total_length
  · refine ⟨[], ?_⟩
    rw [if_pos hmax, if_pos hmax]
    exact .nothing
  simp only [if_neg hmax, Option.map_map]
  have hext := framed_rcAppend (framed_rcAppend h (writeReth w) rfl) (lastWord w) rfl
  refine ⟨_, finishPayload_sends hext rfl (headerSize_mod _ _) (bthOffset_eq _ _) ?_ _ _ _ _ _ _⟩
  rw [headerSize_rcHead]
  show _ = _ + (writeReth w ++ lastWord w).length
  rw [List.length_append, ← Nat.add_assoc]

theorem composeRdmaRead_sends (h : Framed buf (rcHead ports n.qp.attr opcode psn [])) :
    SendsPacket (readyToSend (composeRdmaRead n w (bthOffset n.qp.attr.ah_attr) buf))
      ((if PIB_MAX_PAYLOAD_LEN < w.total_length then none else some (readReth n.qp w)).map fun body =>
        (rcHead ports n.qp.attr opcode psn body).finish w.send_flags.SOLICITED) := by
  unfold composeRdmaRead
  split
  · exact .nothing
  · exact .packet (framed_rcFinish (framed_rcAppend h (readReth n.qp w) rfl) _ rfl)

theorem composeAtomic_sends (h : Framed buf (rcHead ports n.qp.attr opcode psn [])) :
    SendsPacket (readyToSend (composeAtomic w (bthOffset n.qp.attr.ah_attr) buf))
      (some ((rcHead ports n.qp.attr opcode psn (atomicEth w)).finish w.send_flags.SOLICITED)) :=
  .packet (framed_rcFinish (framed_rcAppend h (atomicEth w) rfl) _ rfl)

/-- The send buffer holds the request packet. -/
theorem sentRequest_sends (ports : Nat → Port) (n : Node) (w : SendWqe) (buf : Mem) :
    ∃ buffer, SendsPacket (sentRequest ports n w buf) (requestPacket ports n w buffer) := by
  unfold sentRequest requestPacket composeRequest
  split
  · exact ⟨[], .nothing⟩
  cases hop : requestOpcode w with
  | none => exact ⟨[], .nothing⟩
  | some opcode =>
    have h := @framed_writeRcHeaders ports n.qp.attr opcode (nextPsn w) 60 (le_refl _) buf
    dsimp only
    split
    · rename_i ho
      refine ⟨[], ?_⟩
      rw [requestBody, ho]
      exact composeRdmaRead_sends h
    · rename_i ho
      refine ⟨[], ?_⟩
      rw [requestBody, ho]
      exact composeAtomic_sends h
    · rename_i ho
      refine ⟨[], ?_⟩
      rw [requestBody, ho]
      exact composeAtomic_sends h
    rename_i hread hcas hadd
    obtain ⟨buffer, hdata⟩ := @composeSendOrRdmaWrite_sends ports n w _ _ _ h
    refine ⟨buffer, ?_⟩
    rw [requestBody_data hread hcas hadd]
    exact hdata

end Request

section Acknowledge

variable {ports : Nat → Port}

theorem length_ackHeaders_mod (with_aeth : Bool) (syndrome : Nat) (with_atomiceth : Bool) (res : Nat) :
    (ackHeaders with_aeth syndrome with_atomiceth res).length % 4 = 0 := by
  cases with_aeth <;> cases with_atomiceth <;> simp [ackHeaders, aeth]

/-- An acknowledge has only whole words, so it needs no pad count. -/
theorem packAcknowledgePacket_framed (q : Qp) (opcode : OpCode) (psn : Nat) (with_aeth : Bool)
    (syndrome : Nat) (with_atomiceth : Bool) (res : Nat) (buf : Mem) :
    Framed (packAcknowledgePacket ports q opcode psn with_aeth syndrome with_atomiceth res buf).2
      ((rcHead ports q.attr opcode psn (ackHeaders with_aeth syndrome with_atomiceth res)).finish
        false) := by
  have hmod := length_ackHeaders_mod with_aeth syndrome with_atomiceth res
  have hext := framed_rcAppend (@framed_writeRcHeaders ports q.attr opcode psn 72 (by decide) buf)
    (ackHeaders with_aeth syndrome with_atomiceth res) rfl
  have hsize : (bthOffset q.attr.ah_attr + BTH_SIZE +
      (ackHeaders with_aeth syndrome with_atomiceth res).length + 4) / 4 =
        (rcHead ports q.attr opcode psn (ackHeaders with_aeth syndrome with_atomiceth res)).pktlen := by
    have hhead := headerSize_mod (ports q.attr.port_num) q.attr.ah_attr
    rw [← bthOffset_eq] at hhead
    unfold WirePacket.pktlen
    rw [headerSize_rcHead]
    show _ = (_ + (ackHeaders with_aeth syndrome with_atomiceth res).length + 3) / 4 + 1
    omega
  rw [WirePacket.finish_aligned rfl hmod]
  unfold packAcknowledgePacket
  dsimp only
  rw [hsize]
  exact (hext.setPktlen _).setPadcnt rfl (bthOffset_eq _ _) 0

theorem readBytes_length {n : Node} {ack : Ack} (buffer : List UInt8)
    (h : (readBytes n ack buffer).1 = .SUCCESS) :
    (readBytes n ack buffer).2.length = readDataSize n.qp ack :=
  pibUtilMrCopyDataWithRkey_length h

theorem readBytes_pinned {n : Node} (hpd : n.pd.Pinned) (ack : Ack) (b₁ b₂ : List UInt8) :
    readBytes n ack b₁ = readBytes n ack b₂ := by
  unfold readBytes
  rw [pibUtilMrCopyDataWithRkey_pinned hpd ack.rkey n.mem b₁ b₂]

theorem readAeth_eq (q : Qp) (ack : Ack) :
    ackHeaders (decide (readResponseOpcode ack (psnOffset q ack) ≠ .RDMA_READ_RESPONSE_MIDDLE))
      PIB_SYND_ACK_CODE false 0 = readAeth q ack := by
  unfold ackHeaders readAeth
  split <;> split <;> simp_all

theorem length_readAeth_mod (q : Qp) (ack : Ack) : (readAeth q ack).length % 4 = 0 := by
  rw [← readAeth_eq]
  exact length_ackHeaders_mod _ _ _ _

/-- The length and the pad count are those of the packet with its payload. -/
theorem readResponse_framed {a : QpAttr} {opcode : OpCode} {psn : Nat} {ext data : List UInt8}
    {buf : Mem} (hext : ext.length % 4 = 0)
    (h : Framed buf ((rcHead ports a opcode psn ext).finish false)) :
    Framed (write
        (pibPacketBthSetPadcnt (bthOffset a.ah_attr) ((data.length + 3) / 4 * 4 - data.length)
          (pibPacketLrhSetPktlen
            ((bthOffset a.ah_attr + BTH_SIZE + ext.length + (data.length + 3) / 4 * 4 + 4) / 4) buf))
        (bthOffset a.ah_attr + BTH_SIZE + ext.length) data)
      ((rcHead ports a opcode psn (ext ++ data)).finish false) := by
  have hhead := headerSize_mod (ports a.port_num) a.ah_attr
  rw [← bthOffset_eq] at hhead
  have hwords : (bthOffset a.ah_attr + BTH_SIZE + ext.length + (data.length + 3) / 4 * 4 + 4) / 4 =
      (rcHead ports a opcode psn (ext ++ data)).pktlen := by
    unfold WirePacket.pktlen
    rw [headerSize_rcHead]
    show _ = (_ + (ext ++ data).length + 3) / 4 + 1
    rw [List.length_append]
    omega
  have hpad : ((data.length + 3) / 4 * 4 - data.length) % 4 = padOf (ext ++ data).length := by
    unfold padOf
    rw [List.length_append]
    omega
  rw [WirePacket.finish_aligned rfl hext] at h
  have hset := (h.setPktlen ((bthOffset a.ah_attr + BTH_SIZE + ext.length +
    (data.length + 3) / 4 * 4 + 4) / 4)).setPadcnt rfl (bthOffset_eq (ports a.port_num) a.ah_attr)
      ((data.length + 3) / 4 * 4 - data.length)
  have happ := hset.append data
  have hpos : bthOffset a.ah_attr + BTH_SIZE + ext.length =
      (rcHead ports a opcode psn ext).headerSize + ext.length := by
    rw [headerSize_rcHead]
  rw [hpad] at happ
  rw [hwords] at happ ⊢
  rw [hpos]
  exact happ

theorem composeReadResponse_sends (n : Node) (ack : Ack) (buf : Mem) :
    ∃ buffer, SendsPacket (readyToSend (composeReadResponse ports n ack buf))
      ((gathered (readBytes n ack buffer)).bind fun data =>
        some ((rcHead ports n.qp.attr (readResponseOpcode ack (psnOffset n.qp ack))
          (ack.psn + psnOffset n.qp ack) (readAeth n.qp ack ++ data)).finish false)) := by
  have hpack := @packAcknowledgePacket_framed ports n.qp
    (readResponseOpcode ack (psnOffset n.qp ack)) (ack.psn + psnOffset n.qp ack)
    (decide (readResponseOpcode ack (psnOffset n.qp ack) ≠ .RDMA_READ_RESPONSE_MIDDLE))
    PIB_SYND_ACK_CODE false 0 buf
  have hsize : (packAcknowledgePacket ports n.qp
      (readResponseOpcode ack (psnOffset n.qp ack)) (ack.psn + psnOffset n.qp ack)
      (decide (readResponseOpcode ack (psnOffset n.qp ack) ≠ .RDMA_READ_RESPONSE_MIDDLE))
      PIB_SYND_ACK_CODE false 0 buf).1 =
        bthOffset n.qp.attr.ah_attr + BTH_SIZE + (readAeth n.qp ack).length := by
    rw [← readAeth_eq]
    rfl
  rw [readAeth_eq] at hpack
  unfold composeReadResponse
  dsimp only
  rw [hsize]
  generalize (packAcknowledgePacket ports n.qp _ _ _ _ _ _ buf).2 = buf' at hpack ⊢
  generalize read _ _ (readDataSize n.qp ack) = buffer
  refine ⟨buffer, ?_⟩
  have hlen := @readBytes_length n ack buffer
  unfold readBytes at hlen ⊢
  generalize pibUtilMrCopyDataWithRkey n.pd ack.rkey n.mem buffer _ _ _ _ = c at hlen ⊢
  obtain ⟨status, mem, data⟩ := c
  dsimp only at hlen ⊢
  by_cases hs : status = .SUCCESS
  · subst hs
    rw [← hlen rfl]
    exact .packet (readResponse_framed (length_readAeth_mod _ _) hpack)
  · rw [readyToSend_of_ne hs, gathered_of_ne hs]
    exact .nothing

/-- The send buffer holds the acknowledge packet. -/
theorem sentAcknowledge_sends (ports : Nat → Port) (n : Node) (buf : Mem) :
    ∃ buffer, SendsPacket (sentAcknowledge ports n buf) (acknowledgePacket ports n buffer) := by
  unfold sentAcknowledge acknowledgePacket
  dsimp only
  split
  · exact ⟨[], .nothing⟩
  cases n.qp.responder.acks with
  | nil => exact ⟨[], .nothing⟩
  | cons ack acks =>
    dsimp only
    cases htype : ack.type with
    | NORMAL =>
      refine ⟨[], ?_⟩
      rw [if_neg (by simp), composeNormalOrAtomic, if_pos htype]
      exact .packet (packAcknowledgePacket_framed n.qp _ _ true _ false 0 buf)
    | ATOMIC =>
      refine ⟨[], ?_⟩
      rw [if_neg (by simp), composeNormalOrAtomic, if_neg (by simp [htype])]
      exact .packet (packAcknowledgePacket_framed n.qp _ _ true _ true ack.res buf)
    | RDMA_READ =>
      rw [if_pos rfl]
      by_cases hmax : PIB_MAX_CONTIG_READ_ACKS < n.qp.responder.nr_contig_read_acks
      · refine ⟨[], ?_⟩
        rw [if_pos hmax, if_pos hmax]
        exact .nothing
      · simp only [if_neg hmax]
        exact composeReadResponse_sends n ack buf

/-- The send buffer holds the congestion notification. -/
theorem composeCnp_framed (ports : Nat → Port) (q : Qp) (buf : Mem) :
    Framed (composeCnp ports q buf) (cnpPacket ports q) := by
  have hhead := headerSize_mod (ports q.attr.port_num) q.attr.ah_attr
  rw [← bthOffset_eq] at hhead
  have hwords : (bthOffset q.attr.ah_attr + BTH_SIZE + 4) / 4 =
      (rcHead ports q.attr .CNP_SEND_NOTIFY q.responder.psn []).pktlen := by
    unfold WirePacket.pktlen
    rw [headerSize_rcHead]
    show _ = (_ + 0 + 3) / 4 + 1
    omega
  unfold composeCnp cnpPacket
  rw [WirePacket.finish_aligned rfl rfl, hwords]
  exact (framed_writeRcHeaders (le_refl 60) buf).setPktlen _

end Acknowledge

/-! ## Datagrams in the send buffer -/

section Datagram

variable {ports : Nat → Port} {q : Qp} {qp_num : Nat} {w : SendWqe} {a : AhAttr} {buf : Mem}

/-- Behind the headers the buffer is cleared up to where the function clears it,
and old from there on. -/
theorem writeRoute_behind (port : Port) (clear : Nat) {y : Nat} (hy : bthOffset a ≤ y) :
    writeRoute port a clear buf y = if y < clear then 0 else buf y := by
  rw [bthOffset_eq port] at hy
  unfold LRH_SIZE at hy
  unfold writeRoute
  rw [write_outside (by simp; omega), write_outside (by simp; omega), write_outside (by simp; omega),
    write_outside (by unfold LRH_SIZE; omega)]
  unfold write
  simp only [List.length_replicate, Nat.zero_le, true_and, Nat.zero_add, Nat.sub_zero]
  split
  · rename_i h
    rw [List.getD_replicate _ h]
  · rfl

@[simp] theorem length_deth : (deth q qp_num w).length = 8 := by simp [deth]

theorem writeUdHeaders_behind {y : Nat} (hy : udPayloadOffset w a ≤ y) :
    writeUdHeaders ports q qp_num w a buf y = if y < 68 then 0 else buf y := by
  unfold udPayloadOffset BTH_SIZE at hy
  unfold writeUdHeaders writeBth
  rw [length_deth, write_outside (by unfold BTH_SIZE; omega),
    write_outside (by rw [length_deth]; unfold BTH_SIZE; omega),
    write_outside (by simp; omega), write_outside (by simp; omega), write_outside (by simp; omega),
    write_outside (by simp; omega)]
  exact writeRoute_behind _ _ (by omega)

/-- The management packet that the correction looks at is the old one, and only
when a GRH moves it behind the cleared bytes. -/
theorem directedPermissive_headers {offset : Nat} (ho : 1 ≤ offset) :
    directedPermissive (writeUdHeaders ports q qp_num w a buf) (udPayloadOffset w a) offset ↔
      a.grh = true ∧ directedPermissive buf (udPayloadOffset w a) offset := by
  unfold directedPermissive
  rw [writeUdHeaders_behind (by omega)]
  cases hgrh : a.grh with
  | false =>
    have hlt : udPayloadOffset w a + 1 < 68 := by
      have hword : (udWord w).length ≤ 4 := by
        unfold udWord
        split <;> simp
      unfold udPayloadOffset bthOffset LRH_SIZE BTH_SIZE
      rw [hgrh]
      simp only [Bool.false_eq_true, if_false]
      omega
    rw [if_pos hlt]
    simp
  | true =>
    have hge : 68 ≤ udPayloadOffset w a := by
      unfold udPayloadOffset bthOffset LRH_SIZE GRH_SIZE BTH_SIZE
      rw [hgrh]
      simp only [if_true]
      omega
    have hread : read (writeUdHeaders ports q qp_num w a buf) (udPayloadOffset w a + offset) 2 =
        read buf (udPayloadOffset w a + offset) 2 := by
      unfold Bytes.read
      refine List.map_congr_left fun i _ => ?_
      rw [writeUdHeaders_behind (by omega), if_neg (by omega)]
    rw [if_neg (by omega), hread]
    simp

theorem correctSmp_framed {x : WirePacket} (h : Framed buf x) {smp : Nat} (hsmp : LRH_SIZE ≤ smp) :
    Framed (correctSmp smp buf)
      { x with lrh := { x.lrh with
        dlid := if directedPermissive buf smp 34 then IB_LID_PERMISSIVE else x.lrh.dlid
        slid := if directedPermissive buf smp 32 then IB_LID_PERMISSIVE else x.lrh.slid } } := by
  unfold LRH_SIZE at hsmp
  unfold correctSmp
  dsimp only
  by_cases hclass : buf (smp + 1) = 0x81
  · rw [if_pos hclass]
    have hread : read (write buf 4 (be 2 IB_LID_PERMISSIVE)) (smp + 34) 2 = read buf (smp + 34) 2 := by
      unfold Bytes.read
      refine List.map_congr_left fun i _ => ?_
      rw [write_outside (by simp; omega)]
    by_cases hslid : read buf (smp + 32) 2 = be 2 IB_LID_PERMISSIVE
    · rw [if_pos hslid, if_pos (show directedPermissive buf smp 32 from ⟨hclass, hslid⟩), hread]
      by_cases hdlid : read buf (smp + 34) 2 = be 2 IB_LID_PERMISSIVE
      · rw [if_pos hdlid, if_pos (show directedPermissive buf smp 34 from ⟨hclass, hdlid⟩)]
        exact (h.setSlid _).setDlid _
      · rw [if_neg hdlid, if_neg (show ¬directedPermissive buf smp 34 from fun hc => hdlid hc.2)]
        exact h.setSlid _
    · rw [if_neg hslid, if_neg (show ¬directedPermissive buf smp 32 from fun hc => hslid hc.2)]
      by_cases hdlid : read buf (smp + 34) 2 = be 2 IB_LID_PERMISSIVE
      · rw [if_pos hdlid, if_pos (show directedPermissive buf smp 34 from ⟨hclass, hdlid⟩)]
        exact h.setDlid _
      · rw [if_neg hdlid, if_neg (show ¬directedPermissive buf smp 34 from fun hc => hdlid hc.2)]
        exact h
  · rw [if_neg hclass, if_neg (show ¬directedPermissive buf smp 34 from fun hc => hclass hc.1),
      if_neg (show ¬directedPermissive buf smp 32 from fun hc => hclass hc.1)]
    exact h

/-- The headers of a datagram before the correction. -/
def udRouteHead (ports : Nat → Port) (q : Qp) (w : SendWqe) (a : AhAttr) (body : List UInt8) :
    WirePacket :=
  { route (ports a.port_num) a with
    bth :=
      { OpCode := UInt8.ofNat (udOpcode w).toNat
        pkey := (ports a.port_num).pkey_table w.wr.ud.pkey_index
        destQP := w.wr.ud.remote_qpn
        psn := psnMask q.attr.sq_psn }
    body }

theorem writeUdHeaders_framed (ports : Nat → Port) (q : Qp) (qp_num : Nat) (w : SendWqe) (a : AhAttr)
    (buf : Mem) :
    Framed (writeUdHeaders ports q qp_num w a buf)
      (udRouteHead ports q w a (deth q qp_num w ++ udWord w)) := by
  have hbth := (framed_writeRoute (ports a.port_num) a (by decide : 60 ≤ 68) buf).writeBth
    (udOpcode w).toNat ((ports a.port_num).pkey_table w.wr.ud.pkey_index) w.wr.ud.remote_qpn
    (psnMask q.attr.sq_psn)
  have hext : Framed _ (udRouteHead ports q w a (deth q qp_num w ++ udWord w)) :=
    (hbth.append (deth q qp_num w)).append (udWord w)
  unfold writeUdHeaders
  rw [bthOffset_eq (ports a.port_num)]
  exact hext

/-- The LIDs are corrected by the old management packet. -/
theorem udHead_framed (ports : Nat → Port) (q : Qp) (qp_num : Nat) (w : SendWqe) (a : AhAttr)
    (buf : Mem) :
    Framed
      (if w.wr.ud.remote_qpn = PIB_QP0 then
        correctSmp (udPayloadOffset w a) (writeUdHeaders ports q qp_num w a buf)
      else writeUdHeaders ports q qp_num w a buf)
      (udHead ports q w a buf (deth q qp_num w ++ udWord w)) := by
  have h := writeUdHeaders_framed ports q qp_num w a buf
  have hcorr : ∀ {offset : Nat}, 1 ≤ offset → w.wr.ud.remote_qpn = PIB_QP0 →
      ∀ lid : Nat, (if smpCorrected w a buf offset then IB_LID_PERMISSIVE else lid) =
        if directedPermissive (writeUdHeaders ports q qp_num w a buf) (udPayloadOffset w a) offset then
          IB_LID_PERMISSIVE else lid := by
    intro offset ho hqp lid
    have hiff : smpCorrected w a buf offset ↔
        directedPermissive (writeUdHeaders ports q qp_num w a buf) (udPayloadOffset w a) offset := by
      rw [directedPermissive_headers ho]
      exact ⟨And.right, fun hd => ⟨hqp, hd⟩⟩
    simp only [hiff]
  unfold udHead
  by_cases hqp : w.wr.ud.remote_qpn = PIB_QP0
  · rw [if_pos hqp, hcorr (by decide) hqp, hcorr (by decide) hqp]
    refine correctSmp_framed h ?_
    unfold udPayloadOffset bthOffset
    split <;> omega
  · rw [if_neg hqp, if_neg (show ¬smpCorrected w a buf 34 from fun hc => hqp hc.1),
      if_neg (show ¬smpCorrected w a buf 32 from fun hc => hqp hc.1)]
    exact h

/-- The send buffer holds the datagram. -/
theorem sentDatagram_sends (cfg : Config) (ports : Nat → Port) (n : UdNode) (qp_num : Nat)
    (w : SendWqe) (buf : Mem) :
    ∃ buffer, SendsPacket (sentDatagram cfg ports n qp_num w buf)
      (datagramPacket cfg ports n qp_num w buf buffer) := by
  unfold sentDatagram composeUd datagramPacket
  cases udRoute cfg n w with
  | none => exact ⟨[], .nothing⟩
  | some ah =>
    dsimp only
    by_cases hall : w.processing.all_packets ≠ 1
    · refine ⟨[], ?_⟩
      rw [if_pos hall, if_pos hall]
      exact .nothing
    simp only [if_neg hall, length_deth]
    refine ⟨_, finishPayload_sends (udHead_framed ports n.qp qp_num w ah.attr buf) rfl
      (headerSize_mod _ _) (bthOffset_eq _ _) ?_ _ _ _ _ _ _⟩
    show _ = LRH_SIZE + (grhOf (ports ah.attr.port_num) ah.attr).length + BTH_SIZE +
      (deth n.qp qp_num w ++ udWord w).length
    rw [← bthOffset_eq, List.length_append, length_deth, ← Nat.add_assoc]

end Datagram

end pib
