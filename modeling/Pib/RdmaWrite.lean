-- RDMA WRITE from one end to the other: the packets that the requester makes
-- of an element, and what the responder's memory holds when it has taken
-- them in.
import Pib.MrCopy
import Pib.ReceiveSide

namespace pib

open Bytes

variable {p : RcPacket}

variable (cfg : Config) (now : Nat) {o : OpCode} {k pmtu : Nat} {seg : Segment} {data : List UInt8}
    {pos : Position} {s t : WriteSide}

/-! ## What the requester sends -/

/-- The element carries these bytes, inline or in its gather list. -/
structure Carries (n : Node) (w : SendWqe) (bytes : List UInt8) : Prop where
  length : bytes.length = w.total_length
  max : w.total_length ≤ PIB_MAX_PAYLOAD_LEN
  packets : w.processing.all_packets = pibGetNumOfPackets .RC n.qp.attr.path_mtu w.total_length
  inline : w.send_flags.INLINE = true → bytes = w.inline_data_buffer.take w.total_length
  sges : w.send_flags.INLINE = false → ∃ ls, SgesAt n.pd 0 w.sge_array ls ∧ bytes = gather n.mem ls

/-- The data of the `k`-th packet. -/
def chunk (pmtu : Nat) (bytes : List UInt8) (k : Nat) : List UInt8 := (bytes.drop (k * pmtu)).take pmtu

/-- The header that names the target of the element. -/
def SendWqe.reth (w : SendWqe) : Reth :=
  { vaddr := w.wr.remote_addr, rkey := w.wr.rkey, dmalen := w.total_length }

/-- The `k`-th packet of an element that carries these bytes. -/
def dataPacket (pmtu : Nat) (w : SendWqe) (bytes : List UInt8) (k : Nat) (opcode : OpCode) : RcPacket :=
  let pos := positionOf (w.setSent k).processing
  { opcode, psn := nextPsn (w.setSent k), padcnt := padOf (chunk pmtu bytes k).length
    solicited := w.send_flags.SOLICITED
    buffer := (if withReth pos w.opcode then w.reth.encode else []) ++
      (if withWord pos w.opcode then be 4 w.ex else []) ++ chunk pmtu bytes k }

/-- The payload of a full packet at this end. -/
abbrev Node.mtu (n : Node) : Nat := pmtuOf n.qp.attr.path_mtu

variable {n : Node} {w : SendWqe} {bytes : List UInt8}

theorem padTo_of_length {len : Nat} {l : List UInt8} (h : l.length = len) : padTo len l = l := by
  simp [padTo, h]

theorem gatherPayload_eq (h : Carries n w bytes) {offset size : Nat}
    (hle : offset + size ≤ w.total_length) :
    gatherPayload n w offset size = (.SUCCESS, (bytes.drop offset).take size) := by
  have hlen : ((bytes.drop offset).take size).length = size := by
    have := h.length
    simp only [List.length_take, List.length_drop]
    omega
  unfold gatherPayload
  by_cases hz : size = 0
  · simp [hz]
  rw [if_neg hz]
  cases hinl : w.send_flags.INLINE with
  | true =>
    have hb := h.inline hinl
    have he : (w.inline_data_buffer.drop offset).take size = (bytes.drop offset).take size := by
      rw [hb, List.drop_take, List.take_take, Nat.min_eq_left (by omega)]
    rw [if_pos rfl, he, padTo_of_length hlen]
  | false =>
    obtain ⟨ls, hls, hb⟩ := h.sges hinl
    have hlen' : ls.length = w.total_length := by rw [← h.length, hb, length_gather]
    have hmax := h.max
    have he : gather n.mem ((ls.drop offset).take size) = (bytes.drop offset).take size := by
      simp [hb, gather, List.map_drop, List.map_take]
    rw [if_neg (by simp), pibUtilMrCopyData_transfer (Or.inl rfl) hls n.mem [] (by omega) (by omega)
      (by omega)]
    simp only [transfer, he, padTo_of_length hlen]

theorem buildRequest_of_data (h : dataOpcode (positionOf w.processing) w.opcode = some o) :
    buildRequest n w = processSendOrRdmaWriteRequest n w o := by
  unfold buildRequest
  cases ho : w.opcode <;> rw [ho] at h <;> simp_all [dataOpcode]

theorem Node.mtu_pos (n : Node) : 0 < n.mtu := by
  unfold Node.mtu pmtuOf
  positivity

theorem Carries.packets_pos (h : Carries n w bytes) : 0 < w.processing.all_packets :=
  h.packets ▸ pibGetNumOfPackets_pos .RC n.qp.attr.path_mtu w.total_length

theorem Carries.le_mul (h : Carries n w bytes) : w.total_length ≤ w.processing.all_packets * n.mtu :=
  h.packets ▸ le_mul_pmtuOf n.qp.attr.path_mtu w.total_length

theorem Carries.mul_le (h : Carries n w bytes) (hk : k < w.processing.all_packets) :
    k * n.mtu ≤ w.total_length :=
  mul_pmtuOf_le (h.packets ▸ hk)

theorem Carries.mul_lt (h : Carries n w bytes) (hk : k < w.processing.all_packets) (hz : 0 < k) :
    k * n.mtu < w.total_length :=
  mul_pmtuOf_lt (h.packets ▸ hk) hz

theorem length_chunk (h : Carries n w bytes) (hk : k < w.processing.all_packets) :
    (chunk n.mtu bytes k).length = payloadSize n.qp (w.setSent k) ∧
      (bytes.drop (k * n.mtu)).take (payloadSize n.qp (w.setSent k)) =
        chunk n.mtu bytes k := by
  have hsize := payloadSize_eq (q := n.qp) (w := w.setSent k) h.max h.packets hk
  have hle := h.mul_le hk
  have hall := h.le_mul
  have hb := h.length
  change payloadSize n.qp (w.setSent k) = if k + 1 = w.processing.all_packets then
    w.total_length - k * n.mtu else n.mtu at hsize
  unfold chunk
  rw [hsize, List.length_take, List.length_drop, hb]
  by_cases hlast : k + 1 = w.processing.all_packets
  · rw [← hlast, Nat.add_mul, Nat.one_mul] at hall
    rw [if_pos hlast]
    refine ⟨by omega, ?_⟩
    rw [List.take_of_length_le (by simp [hb]), List.take_of_length_le (by simp [hb]; omega)]
  rw [if_neg hlast]
  have hnext : k + 1 < w.processing.all_packets := by omega
  have hle' := h.mul_le hnext
  rw [Nat.add_mul, Nat.one_mul] at hle'
  exact ⟨by omega, rfl⟩

/-- Every request for a packet of the element is answered by the packet. -/
theorem buildRequest_packet (h : Carries n w bytes) (hk : k < w.processing.all_packets)
    (ho : dataOpcode (positionOf (w.setSent k).processing) w.opcode = some o) :
    buildRequest n (w.setSent k) =
      (.SUCCESS, some (dataPacket n.mtu w bytes k o)) := by
  obtain ⟨hlen, hchunk⟩ := length_chunk h hk
  have hoff : mrOffset n.qp (w.setSent k) = k * n.mtu :=
    mrOffset_eq (q := n.qp) (w := w.setSent k) h.max h.packets hk
  have hle := payload_le (q := n.qp) (w := w.setSent k) h.max h.packets hk
  have hgather : gatherPayload n (w.setSent k) (mrOffset n.qp (w.setSent k)) (payloadSize n.qp (w.setSent k)) =
      (.SUCCESS, chunk n.mtu bytes k) := by
    rw [← hchunk, ← hoff]
    exact gatherPayload_eq h hle
  have hmax : ¬PIB_MAX_PAYLOAD_LEN < (w.setSent k).total_length := Nat.not_lt.mpr h.max
  rw [buildRequest_of_data ho]
  unfold processSendOrRdmaWriteRequest
  simp only [if_neg hmax, hgather]
  rw [if_neg (by simp), dataPacket, hlen]
  rfl

/-! ## What the responder does with a packet -/

/-- What an RDMA WRITE packet can change at the responder, and what it reads. -/
structure WriteSide where
  mem : Mem
  pd : Pd
  attr : QpAttr
  state : QpState
  psn : Nat
  last_OpCode : OpCode
  offset : Nat
  vaddr : Nat
  rkey : Nat
  dmalen : Nat
  recv_wqe : List RecvWqe
  srq : Option Srq
  recv_cq : List (Wc × Bool)
  crashes : List Crash

def Node.writeSide (n : Node) : WriteSide :=
  { mem := n.mem, pd := n.pd, attr := n.qp.attr, state := n.qp.state, psn := n.qp.responder.psn
    last_OpCode := n.qp.responder.last_OpCode, offset := n.qp.responder.offset
    vaddr := n.qp.responder.rdma_write_vaddr, rkey := n.qp.responder.rdma_write_rkey
    dmalen := n.qp.responder.rdma_write_dmalen, recv_wqe := n.qp.responder.recv_wqe
    srq := n.qp.srq, recv_cq := n.qp.recv_cq, crashes := n.crashes }

@[simp] theorem writeSide_pushAcknowledge (n : Node) (q : Qp) (psn syndrome : Nat) :
    (n.setQp (pushAcknowledge q psn syndrome)).writeSide = (n.setQp q).writeSide := by
  unfold pushAcknowledge pushOrCoalesce
  split
  · rfl
  split
  · rfl
  · split <;> rfl

@[simp] theorem writeSide_issueCommEst (n : Node) :
    (n.setQp (issueCommEst n.qp)).writeSide = n.writeSide := by
  unfold issueCommEst
  split <;> rfl

/-- The memory of the responder after the data of one packet, which goes to
the address that the message has come to. -/
def WriteSide.store (s : WriteSide) (mr : Mr) (data : List UInt8) : WriteSide :=
  { s with
    mem := scatter s.mem (mr.places (s.vaddr + s.offset - mr.start) data.length) data
    offset := s.offset + data.length }

/-- The receive element that a message with immediate data completes. -/
def WriteSide.complete (s : WriteSide) (v : RecvWqe) (ex padcnt slid : Nat) : WriteSide :=
  { s with
    recv_wqe := s.recv_wqe.tail
    srq := s.srq.map fun srq => { srq with free_recv_wqe := srq.free_recv_wqe + 1 }
    recv_cq := s.recv_cq ++
      [({ wr_id := v.wr_id, status := .SUCCESS, opcode := .RECV_RDMA_WITH_IMM, byte_len := s.offset
          ex, with_imm := true, slid }, decide (padcnt ≠ 0))] }

/-- The rights that an RDMA WRITE needs. -/
def WRITE_ACCESS : Nat := IB_ACCESS_LOCAL_WRITE ||| IB_ACCESS_REMOTE_WRITE

/-- The packet fits into its message and its message into the region. -/
structure WriteFits (s : WriteSide) (seg : Segment) (mr : Mr) (data : List UInt8) : Prop where
  names : RkeyNames s.pd s.rkey mr
  size : seg.min ≤ data.length ∧ data.length ≤ seg.max
  within : s.offset + data.length ≤ s.dmalen
  ends : seg.finit = true → s.offset + data.length = s.dmalen
  max : s.dmalen ≤ PIB_MAX_PAYLOAD_LEN
  lo : mr.start ≤ s.vaddr
  hi : s.vaddr + s.dmalen ≤ mr.start + mr.length

theorem writeSide_acceptData (n : Node) (psn : Nat) (p : RcPacket) (v : RecvWqe) (ex len : Nat)
    (hinv : seg.with_inv = false) (hoff : n.qp.responder.offset + len < 2 ^ 32) :
    (n.setQp (acceptData n.qp psn p seg (seg.finit && seg.with_imm) v ex len
      .RECV_RDMA_WITH_IMM)).writeSide =
      if seg.finit && seg.with_imm then
        { n.writeSide with offset := n.qp.responder.offset + len }.complete v ex p.padcnt p.slid
      else { n.writeSide with offset := n.qp.responder.offset + len } := by
  have hu : u32 (n.qp.responder.offset + len) = n.qp.responder.offset + len := Nat.mod_eq_of_lt hoff
  unfold acceptData
  rw [writeSide_pushAcknowledge, hu]
  cases hfi : seg.finit && seg.with_imm with
  | false => rfl
  | true =>
    have himm : seg.with_imm = true := (Bool.and_eq_true _ _ ▸ hfi).2
    simp only [if_true, completeRecv, Qp.popRecvWqe, Qp.freeRecvWqe, himm, hinv]
    cases hsrq : n.qp.srq <;> simp [Node.writeSide, WriteSide.complete, Node.setQp, hsrq]

/-- The memory operation of an RDMA WRITE in a region that its key names. -/
theorem run_write {pd : Pd} {rkey : Nat} {mr : Mr} (h : RkeyNames pd rkey mr) (mem : Mem)
    (address : Nat) (data : List UInt8) (hmax : data.length ≤ PIB_MAX_PAYLOAD_LEN)
    (hlo : mr.start ≤ address) (hhi : address + data.length ≤ mr.start + mr.length) :
    (MemOp.write rkey address data).run pd mem =
      if mr.Admits WRITE_ACCESS address data.length then
        (.SUCCESS, scatter mem (mr.places (address - mr.start) data.length) data, 0)
      else (.LOC_PROT_ERR, mem, 0) := by
  have hcopy := copyDataWithRkey_eq (Or.inr rfl) h WRITE_ACCESS mem data hmax hlo hhi
  simp only [MemOp.run]
  rw [show IB_ACCESS_LOCAL_WRITE ||| IB_ACCESS_REMOTE_WRITE = WRITE_ACCESS from rfl, hcopy]
  split <;> rfl

/-- A packet that fits is taken if the region admits it, and refused if it does
not. -/
theorem placeWrite_eq (cfg : Config) (now : Nat) (n : Node) (psn : Nat) (p : RcPacket) (v : RecvWqe) (ex : Nat) {mr : Mr}
    (hf : WriteFits n.writeSide seg mr data) (hinv : seg.with_inv = false) :
    let r := placeWrite cfg now n psn p seg v ex data
    if mr.Admits WRITE_ACCESS (n.writeSide.vaddr + n.writeSide.offset) data.length then
      r.2 = some 1 ∧ r.1.writeSide =
        if seg.finit && seg.with_imm then
          (n.writeSide.store mr data).complete v ex p.padcnt p.slid
        else n.writeSide.store mr data
    else r.2 = none ∧ r.1.qp.state = .ERR := by
  obtain ⟨hopen, ⟨hmin, hmax⟩, hin, hend, hlen, hlo, hhi⟩ := hf
  have hbound := hopen.backed.bound
  have hPIB : PIB_MAX_PAYLOAD_LEN = 2 ^ 30 := rfl
  simp only [Node.writeSide] at hin hend hlen hlo hhi hopen ⊢
  have hu : u32 (n.qp.responder.offset + data.length) = n.qp.responder.offset + data.length :=
    Nat.mod_eq_of_lt (by omega)
  have haddr : u64 (n.qp.responder.rdma_write_vaddr + n.qp.responder.offset) =
      n.qp.responder.rdma_write_vaddr + n.qp.responder.offset := Nat.mod_eq_of_lt (by omega)
  have hrun := run_write hopen n.mem (n.qp.responder.rdma_write_vaddr + n.qp.responder.offset) data
    (by omega) (by omega) (by omega)
  have hcheck : ¬(data.length < seg.min ∨ seg.max < data.length ∨
      n.qp.responder.rdma_write_dmalen < n.qp.responder.offset + data.length ∨
      (seg.finit = true ∧
        n.qp.responder.rdma_write_dmalen ≠ n.qp.responder.offset + data.length)) := by
    rintro (h | h | h | ⟨h, h'⟩)
    · omega
    · omega
    · omega
    · exact h' (hend h).symm
  unfold placeWrite
  simp only [hu, haddr, if_neg hcheck, if_neg (Nat.not_lt.mpr hlen), Node.perform, hrun]
  split
  · refine ⟨rfl, ?_⟩
    exact writeSide_acceptData { n with mem := _, ops := _ } psn p v ex data.length hinv
      (by dsimp only; omega)
  · exact ⟨rfl, failQp_state now _⟩

/-! ## The headers of a packet -/

/-- The numbers of the header are of the width of its fields. -/
structure Reth.Typed (r : Reth) : Prop where
  vaddr : r.vaddr < 2 ^ 64
  rkey : r.rkey < 2 ^ 32
  dmalen : r.dmalen < 2 ^ 32

@[simp] theorem Reth.length_encode (r : Reth) : r.encode.length = 16 := by simp [Reth.encode]

theorem Reth.decode_encode {r : Reth} (h : r.Typed) (rest : List UInt8) :
    Reth.decode (r.encode ++ rest) = r := by
  have h1 : ofBe (be 8 r.vaddr) = r.vaddr := ofBe_be_of_lt (h.vaddr.trans_le (by norm_num))
  have h2 : ofBe (be 4 r.rkey) = r.rkey := ofBe_be_of_lt (h.rkey.trans_le (by norm_num))
  have h3 : ofBe (be 4 r.dmalen) = r.dmalen := ofBe_be_of_lt (h.dmalen.trans_le (by norm_num))
  simp [Reth.decode, Reth.encode, List.drop_append, List.drop_eq_nil_of_le, h1, h2, h3]

theorem takeWord_be {ex : Nat} (hex : ex < 2 ^ 32) (data : List UInt8) :
    takeWord true (be 4 ex ++ data) = some (ex, data) := by
  have he : ofBe (be 4 ex) = ex := ofBe_be_of_lt (hex.trans_le (by norm_num))
  simp [takeWord, he]

/-- What `receive_RDMA_WRITE_request` makes of the headers. -/
theorem receiveWrite_eq (cfg : Config) (now : Nat) (n : Node) (psn : Nat) (p : RcPacket) {r : Reth} (ex : Nat) (data : List UInt8)
    (hseg : writeSegment n.mtu p.opcode = some seg) (hr : r.Typed)
    (hbuf : p.buffer = (if seg.init then r.encode else []) ++
      (if seg.with_imm then be 4 ex else []) ++ data) (hex : ex < 2 ^ 32) :
    let q := if seg.init then startWrite n.qp r else n.qp
    if seg.with_imm then
      ∀ v vs, (takeFromSrq q).responder.recv_wqe = v :: vs →
        receiveRdmaWriteRequest cfg now n psn p =
          placeWrite cfg now (n.setQp (takeFromSrq q)) psn p seg v ex data
    else receiveRdmaWriteRequest cfg now n psn p = placeWrite cfg now (n.setQp q) psn p seg
      { wr_id := 0, total_length := 0, sge_array := [] } 0 data := by
  have hword := takeWord_be hex data
  unfold receiveRdmaWriteRequest
  simp only [hseg]
  cases hi : seg.init <;> cases himm : seg.with_imm <;>
    simp only [hi, himm, if_true, if_false, Bool.false_eq_true, List.nil_append, false_and] at hbuf ⊢
  · rw [hbuf]
  · intro v vs hv
    rw [hbuf, hv]
    simp only [hword]
  · rw [if_neg (by simp [hbuf]), hbuf, List.append_nil, Reth.decode_encode hr]
    simp
  · intro v vs hv
    rw [if_neg (by simp [hbuf]), hbuf, List.append_assoc, Reth.decode_encode hr, hv]
    simp [hword]

/-! ## Receiving a packet of the message -/

/-- The bounds that the responder sets a packet by its place in the message. -/
def Position.min (pmtu : Nat) : Position → Nat
  | .only => 0
  | .last => 1
  | _ => pmtu

/-- The element is an RDMA WRITE. -/
def SendWqe.IsWrite (w : SendWqe) : Prop :=
  w.opcode = .RDMA_WRITE ∨ w.opcode = .RDMA_WRITE_WITH_IMM

/-- What the responder makes of the opcode of a packet at this place. -/
def Position.segment (pos : Position) (pmtu : Nat) (op : WrOpcode) : Segment :=
  { init := pos.isStart, finit := pos.isEnd, with_imm := withWord pos op, min := pos.min pmtu, max := pmtu }

theorem writeSegment_data (pos : Position) (hw : w.IsWrite) (pmtu : Nat) :
    ∃ o, dataOpcode pos w.opcode = some o ∧
      writeSegment pmtu o = some (pos.segment pmtu w.opcode) := by
  rcases hw with h | h <;> rw [h] <;> cases pos <;> exact ⟨_, rfl, rfl⟩

theorem withReth_write (hw : w.IsWrite) : withReth pos w.opcode = pos.isStart := by
  rcases hw with h | h <;> rw [h] <;> cases pos <;> rfl

/-- The opcodes that may stand before a packet. -/
def Position.After (pos : Position) (last : OpCode) : Prop :=
  if pos.isStart then (attrOpCode last).map (·.ending) = some true
  else last = .RDMA_WRITE_FIRST ∨ last = .RDMA_WRITE_MIDDLE

theorem inOrder_write {last : OpCode} (hw : w.IsWrite) (ho : dataOpcode pos w.opcode = some o)
    (h : pos.After last) : pibOpcodeIsInOrderSequence o last = some true := by
  rcases hw with hw | hw <;> rw [hw] at ho <;> cases pos <;>
    simp only [dataOpcode, writeOpcode, Option.some.injEq] at ho <;> subst ho <;>
    simp only [Position.After, Position.isStart, if_true, if_false, Bool.false_eq_true] at h
  case inl.only | inl.first | inr.only | inr.first => exact inOrder_of_start rfl h
  all_goals rcases h with rfl | rfl <;> rfl

/-- A request with the expected PSN, in the expected place. -/
theorem receive_inOrder (m : Node)
    (hready : pibIsRecvOk m.qp.state = true) (hreq : pibOpcodeIsAcknowledge p.opcode = some false)
    (hpsn : p.psn % 2 ^ 24 = m.qp.responder.psn % 2 ^ 24)
    (hseq : pibOpcodeIsInOrderSequence p.opcode m.qp.responder.last_OpCode = some true) {r : Node × Option Nat}
    (hr : executeRequest cfg now (m.setQp (issueCommEst m.qp)) (psnMask p.psn) p = r) :
    (r.2 = none → pibReceiveRcQpIncomingMessage cfg now m.qp.attr.port_num m p = r.1) ∧
      (r.2 = some 1 → pibReceiveRcQpIncomingMessage cfg now m.qp.attr.port_num m p =
        r.1.setQp { r.1.qp with responder := { r.1.qp.responder with
          psn := u32 (r.1.qp.responder.psn + 1), last_OpCode := p.opcode } }) := by
  rw [receive_expected_eq cfg now hready rfl hreq hpsn]
  unfold receiveExpected
  simp only [Node.setQp_qp, issueCommEst_responder, hseq, hr]
  obtain ⟨n', ret⟩ := r
  constructor
  · rintro rfl
    rfl
  · rintro rfl
    rfl

theorem executeRequest_write (n : Node) (psn : Nat)
    (hseg : writeSegment pmtu p.opcode = some seg) :
    pibOpcodeIsAcknowledge p.opcode = some false ∧
      executeRequest cfg now n psn p = receiveRdmaWriteRequest cfg now n psn p := by
  cases ho : p.opcode <;> rw [ho] at hseg <;> try cases hseg
  all_goals exact ⟨rfl, by simp only [executeRequest, ho]⟩

/-- What a packet leaves behind that the responder takes. -/
def WriteSide.next (s : WriteSide) (o : OpCode) : WriteSide :=
  { s with psn := u32 (s.psn + 1), last_OpCode := o }

/-- A packet whose headers have led to the store of its data. -/
theorem receive_placed (m : Node)
    (hready : pibIsRecvOk m.qp.state = true) (hseg : writeSegment pmtu p.opcode = some seg)
    (hpsn : p.psn % 2 ^ 24 = m.qp.responder.psn % 2 ^ 24)
    (hseq : pibOpcodeIsInOrderSequence p.opcode m.qp.responder.last_OpCode = some true)
    (N : Node) (v : RecvWqe) (ex : Nat) (mr : Mr) (data : List UInt8)
    (hplace : receiveRdmaWriteRequest cfg now (m.setQp (issueCommEst m.qp)) (psnMask p.psn) p =
      placeWrite cfg now N (psnMask p.psn) p seg v ex data)
    (hf : WriteFits N.writeSide seg mr data) (hinv : seg.with_inv = false) :
    let m' := pibReceiveRcQpIncomingMessage cfg now m.qp.attr.port_num m p
    if mr.Admits WRITE_ACCESS (N.writeSide.vaddr + N.writeSide.offset) data.length then
      m'.writeSide = WriteSide.next (if seg.finit && seg.with_imm then
        (N.writeSide.store mr data).complete v ex p.padcnt p.slid
      else N.writeSide.store mr data) p.opcode
    else m'.qp.state = .ERR := by
  dsimp only
  obtain ⟨hreq, hexec⟩ := executeRequest_write cfg now (m.setQp (issueCommEst m.qp)) (psnMask p.psn) hseg
  obtain ⟨hnone, hsome⟩ := receive_inOrder cfg now m hready hreq hpsn hseq (hexec.trans hplace)
  have hp := placeWrite_eq cfg now N (psnMask p.psn) p v ex hf hinv
  by_cases hadm : mr.Admits WRITE_ACCESS (N.writeSide.vaddr + N.writeSide.offset) data.length
  · rw [if_pos hadm] at hp ⊢
    rw [hsome hp.1, ← hp.2]
    rfl
  · rw [if_neg hadm] at hp ⊢
    rw [hnone hp.1]
    exact hp.2

/-! ## The message as a whole -/

/-- `takeFromSrq`, as far as the message can tell. -/
def WriteSide.take (s : WriteSide) : WriteSide :=
  match s.srq with
  | none => s
  | some srq =>
    match srq.recv_wqe with
    | [] => s
    | v :: _ => if srq.ok then { s with srq := some srq.pop, recv_wqe := s.recv_wqe ++ [v] } else s

theorem writeSide_takeFromSrq (m : Node) (q : Qp) :
    (m.setQp (takeFromSrq q)).writeSide = (m.setQp q).writeSide.take := by
  have hsrq : (m.setQp q).writeSide.srq = q.srq := rfl
  unfold takeFromSrq WriteSide.take
  rw [hsrq]
  cases q.srq with
  | none => rfl
  | some srq =>
    dsimp only
    cases srq.recv_wqe with
    | nil => rfl
    | cons v vs =>
      dsimp only
      split <;> rfl

/-- The receive elements that are left, in the queue pair and in the shared
receive queue. -/
def WriteSide.elements (s : WriteSide) : Nat :=
  s.recv_wqe.length + (s.srq.elim 0 fun srq => srq.recv_wqe.length)

theorem elements_take (s : WriteSide) : s.take.elements = s.elements := by
  unfold WriteSide.take
  split
  · rfl
  rename_i srq hsrq
  split
  · rfl
  rename_i v vs hv
  split
  · simp [WriteSide.elements, hsrq, Srq.pop, hv]
    omega
  · rfl

/-- One receive element has gone into a completion with the length and the
immediate data of the message. -/
structure WriteSide.Consumed (s t : WriteSide) (w : SendWqe) : Prop where
  elements : t.elements + 1 = s.elements
  completion : ∃ v wc solicited, s.take.recv_wqe.head? = some v ∧
    t.recv_cq = s.recv_cq ++ [(wc, solicited)] ∧ wc.wr_id = v.wr_id ∧ wc.status = .SUCCESS ∧
    wc.opcode = .RECV_RDMA_WITH_IMM ∧ wc.byte_len = w.total_length ∧ wc.with_imm = true ∧ wc.ex = w.ex

/-- The two ends of an RDMA WRITE: the element at the requester `n` carries
`bytes`, and the responder `m` waits for the first packet of a message that
its region `mr` has room for. -/
structure WriteSetup (n m : Node) (w : SendWqe) (bytes : List UInt8) (mr : Mr) : Prop where
  isWrite : w.IsWrite
  carries : Carries n w bytes
  rkey_lt : w.wr.rkey < 2 ^ 32
  ex_lt : w.ex < 2 ^ 32
  mtu : m.qp.attr.path_mtu = n.qp.attr.path_mtu
  ready : pibIsRecvOk m.qp.state = true
  psn_lt : m.qp.responder.psn < 2 ^ 32
  psn : m.qp.responder.psn % 2 ^ 24 = w.processing.based_psn % 2 ^ 24
  idle : (attrOpCode m.qp.responder.last_OpCode).map (·.ending) = some true
  names : RkeyNames m.pd w.wr.rkey mr
  grants : hasAccess mr IB_ACCESS_REMOTE_WRITE = true
  lo : mr.start ≤ w.wr.remote_addr
  hi : w.wr.remote_addr + w.total_length ≤ mr.start + mr.length
  element : w.opcode = .RDMA_WRITE_WITH_IMM → m.writeSide.take.recv_wqe ≠ []

/-- The places of the message at the responder. -/
def messagePlaces (w : SendWqe) (mr : Mr) : List Nat :=
  mr.places (w.wr.remote_addr - mr.start) w.total_length

/-- The responder, that was at `s`, has taken `k` packets of the message. -/
structure Midway (pmtu : Nat) (w : SendWqe) (bytes : List UInt8) (mr : Mr) (s t : WriteSide)
    (k : Nat) : Prop where
  mem : t.mem = scatter s.mem ((messagePlaces w mr).take (k * pmtu)) bytes
  psn : t.psn = u32 (s.psn + k)
  pd : t.pd = s.pd
  attr : t.attr = s.attr
  state : t.state = s.state
  crashes : t.crashes = s.crashes
  after : k < w.processing.all_packets →
    (positionOf (w.setSent k).processing).After t.last_OpCode
  message : 0 < k → k < w.processing.all_packets → t.offset = k * pmtu ∧
    t.vaddr = w.wr.remote_addr ∧ t.rkey = w.wr.rkey ∧ t.dmalen = w.total_length
  silent : (w.opcode = .RDMA_WRITE_WITH_IMM → k < w.processing.all_packets) →
    t.recv_wqe = s.recv_wqe ∧ t.srq = s.srq ∧ t.recv_cq = s.recv_cq
  consumed : w.opcode = .RDMA_WRITE_WITH_IMM → k = w.processing.all_packets → s.Consumed t w

variable {m : Node} {mr : Mr}

theorem WriteSetup.typed (h : WriteSetup n m w bytes mr) : w.reth.Typed := by
  have hbound := h.names.backed.bound
  have hhi := h.hi
  have hmax := h.carries.max
  have hPIB : PIB_MAX_PAYLOAD_LEN = 2 ^ 30 := rfl
  exact ⟨by dsimp only [SendWqe.reth]; omega, h.rkey_lt, by dsimp only [SendWqe.reth]; omega⟩

theorem positionOf_setSent (h : Carries n w bytes) (hk : k < w.processing.all_packets) :
    (positionOf (w.setSent k).processing).isStart = decide (k = 0) ∧
      (positionOf (w.setSent k).processing).isEnd = decide (k + 1 = w.processing.all_packets) := by
  have hlt := pibGetNumOfPackets_lt .RC n.qp.attr.path_mtu h.max
  rw [← h.packets] at hlt
  have hu : u32 (k + 1) = k + 1 := Nat.mod_eq_of_lt (by omega)
  simp only [positionOf, SendWqe.setSent, hu]
  by_cases h1 : w.processing.all_packets = 1
  · simp [h1, Position.isStart, Position.isEnd]
    omega
  by_cases h0 : k = 0
  · simp [h1, h0, Position.isStart, Position.isEnd]
    omega
  by_cases hl : w.processing.all_packets = k + 1
  · simp [h0, hl, Position.isStart, Position.isEnd]
  · simp [h1, h0, hl, Position.isStart, Position.isEnd]
    omega

theorem length_chunk_eq (h : Carries n w bytes) (hk : k < w.processing.all_packets) :
    (chunk n.mtu bytes k).length =
      if k + 1 = w.processing.all_packets then w.total_length - k * n.mtu
      else n.mtu :=
  (length_chunk h hk).1.trans (payloadSize_eq (q := n.qp) (w := w.setSent k) h.max h.packets hk)

/-- The data of a packet ends where that of the next one begins, and the last
packet's where the message does. -/
theorem chunk_ends (h : Carries n w bytes) (hk : k < w.processing.all_packets) :
    let pmtu := n.mtu
    k * pmtu + (chunk pmtu bytes k).length = min w.total_length ((k + 1) * pmtu) ∧
      (k + 1 = w.processing.all_packets →
        k * pmtu + (chunk pmtu bytes k).length = w.total_length) := by
  dsimp only
  have hle := h.mul_le hk
  have hall := h.le_mul
  rw [length_chunk_eq h hk]
  split
  · rename_i hlast
    rw [← hlast] at hall
    omega
  rename_i hlast
  have hnext : k + 1 < w.processing.all_packets := by omega
  have hle' := h.mul_le hnext
  rw [Nat.add_mul, Nat.one_mul] at hle' ⊢
  omega

theorem chunk_pos (h : Carries n w bytes) (hk : k < w.processing.all_packets) :
    (chunk n.mtu bytes k).length = 0 ↔ w.total_length = 0 ∧ k = 0 := by
  have hends := (chunk_ends h hk).1
  have hpos := n.mtu_pos
  rw [Nat.add_mul, Nat.one_mul] at hends
  by_cases hz : k = 0
  · subst hz
    omega
  · have hlt := h.mul_lt hk (Nat.pos_of_ne_zero hz)
    omega

theorem chunk_size (h : Carries n w bytes) (hk : k < w.processing.all_packets) :
    let pmtu := n.mtu
    (positionOf (w.setSent k).processing).min pmtu ≤ (chunk pmtu bytes k).length ∧
      (chunk pmtu bytes k).length ≤ pmtu := by
  dsimp only
  have hmax : (chunk n.mtu bytes k).length ≤ n.mtu := by
    rw [chunk, List.length_take]
    exact Nat.min_le_left _ _
  have hlen := length_chunk_eq h hk
  have hzero := chunk_pos h hk
  obtain ⟨hstart, hend⟩ := positionOf_setSent h hk
  refine ⟨?_, hmax⟩
  generalize positionOf (w.setSent k).processing = pos at hstart hend ⊢
  cases pos with
  | only => exact Nat.zero_le _
  | last =>
    have hk0 : k ≠ 0 := by simpa [Position.isStart] using hstart
    change 1 ≤ _
    omega
  | first | middle =>
    have hk1 : k + 1 ≠ w.processing.all_packets := by simpa [Position.isEnd] using hend
    rw [hlen, if_neg hk1]
    exact le_refl _

/-- The region admits a packet of the message exactly if it admits the message. -/
theorem admits_chunk (mr : Mr) (h : Carries n w bytes) (hk : k < w.processing.all_packets) :
    mr.Admits WRITE_ACCESS (w.wr.remote_addr + k * n.mtu)
        (chunk n.mtu bytes k).length ↔
      mr.Admits WRITE_ACCESS w.wr.remote_addr w.total_length := by
  have hzero := chunk_pos h hk
  unfold Mr.Admits
  by_cases hz : w.total_length = 0 ∧ k = 0
  · obtain ⟨hz, rfl⟩ := hz
    rw [hzero.mpr ⟨hz, rfl⟩, hz, Nat.zero_mul, Nat.add_zero]
  have hc : (chunk n.mtu bytes k).length ≠ 0 := fun hc => hz (hzero.mp hc)
  have ht : w.total_length ≠ 0 := by
    intro ht
    have hle := h.mul_le hk
    have hpos := n.mtu_pos
    rw [ht] at hle
    rcases Nat.mul_eq_zero.mp (Nat.le_zero.mp hle) with h0 | h0
    · exact hz ⟨ht, h0⟩
    · omega
  simp [hc, ht]

/-- The data of a packet carries the message on in memory. -/
theorem scatter_chunk (h : Carries n w bytes) (hb : mr.Backed) (hlo : mr.start ≤ w.wr.remote_addr)
    (hhi : w.wr.remote_addr + w.total_length ≤ mr.start + mr.length)
    (hk : k < w.processing.all_packets) (mem : Mem) :
    let pmtu := n.mtu
    scatter (scatter mem ((messagePlaces w mr).take (k * pmtu)) bytes)
        (mr.places (w.wr.remote_addr + k * pmtu - mr.start) (chunk pmtu bytes k).length)
        (chunk pmtu bytes k) =
      scatter mem ((messagePlaces w mr).take ((k + 1) * pmtu)) bytes := by
  dsimp only
  have hroom : w.wr.remote_addr - mr.start + w.total_length ≤ mr.length := by omega
  have hlen := hb.places hroom
  obtain ⟨hends, -⟩ := chunk_ends h hk
  rw [Nat.add_mul, Nat.one_mul] at hends ⊢
  have hle := h.mul_le hk
  have hst := hb.stretch (k := k * n.mtu)
    (j := (chunk n.mtu bytes k).length) hroom (by omega)
  have haddr : w.wr.remote_addr - mr.start + k * n.mtu =
      w.wr.remote_addr + k * n.mtu - mr.start := by omega
  have hcut : ((messagePlaces w mr).drop (k * n.mtu)).take
      n.mtu =
      mr.places (w.wr.remote_addr + k * n.mtu - mr.start)
        (chunk n.mtu bytes k).length := by
    rw [← haddr, ← hst, messagePlaces, List.take_eq_take_iff, List.length_drop, hlen]
    omega
  have htake : ((messagePlaces w mr).take (k * n.mtu)).length =
      k * n.mtu := by
    rw [List.length_take, messagePlaces, hlen]
    omega
  have hcutlen : (mr.places (w.wr.remote_addr + k * n.mtu - mr.start)
      (chunk n.mtu bytes k).length).length ≤ n.mtu := by
    rw [← hcut, List.length_take]
    exact Nat.min_le_left _ _
  rw [List.take_add, scatter_append, htake, hcut]
  exact scatter_take _ hcutlen _

theorem withWord_write (pos : Position) (hw : w.IsWrite) :
    withWord pos w.opcode = (pos.isEnd && decide (w.opcode = .RDMA_WRITE_WITH_IMM)) := by
  rcases hw with h | h <;> rw [h] <;> cases pos <;> rfl

/-- The responder at the address that the message has come to with the `k`-th
packet. -/
def WriteSide.at (s : WriteSide) (pmtu : Nat) (w : SendWqe) (k : Nat) : WriteSide :=
  { s with offset := k * pmtu, vaddr := w.wr.remote_addr, rkey := w.wr.rkey, dmalen := w.total_length }

theorem take_eq (s : WriteSide) :
    s.take = { s with srq := s.take.srq, recv_wqe := s.take.recv_wqe } := by
  unfold WriteSide.take
  split
  · rfl
  split
  · rfl
  · split <;> rfl

theorem take_congr (hr : t.recv_wqe = s.recv_wqe) (hs : t.srq = s.srq) :
    t.take.recv_wqe = s.take.recv_wqe ∧ t.take.srq = s.take.srq := by
  unfold WriteSide.take
  rw [hs]
  cases hsrq : s.srq with
  | none => exact ⟨hr, hs⟩
  | some srq =>
    dsimp only
    cases srq.recv_wqe with
    | nil => exact ⟨hr, hs⟩
    | cons v vs =>
      dsimp only
      split
      · exact ⟨by rw [hr], rfl⟩
      · exact ⟨hr, hs⟩

theorem WriteFits.take (h : WriteFits s seg mr data) : WriteFits s.take seg mr data := by
  rw [take_eq]
  exact ⟨h.names, h.size, h.within, h.ends, h.max, h.lo, h.hi⟩

/-- What the first packet says of the message, the others find in the queue pair. -/
theorem writeSide_at {t : Node}
    (ht : Midway pmtu w bytes mr s t.writeSide k) (hk : k < w.processing.all_packets) :
    (t.setQp (if decide (k = 0) then startWrite (issueCommEst t.qp) w.reth
      else issueCommEst t.qp)).writeSide = t.writeSide.at pmtu w k := by
  have hcomm := writeSide_issueCommEst t
  by_cases hz : k = 0
  · subst hz
    have hstart : ∀ (q : Qp) (r : Reth), (t.setQp (startWrite q r)).writeSide =
        { (t.setQp q).writeSide with
          offset := 0, vaddr := r.vaddr, rkey := r.rkey, dmalen := r.dmalen } := fun _ _ => rfl
    rw [decide_eq_true rfl, if_pos rfl, hstart, hcomm, WriteSide.at, Nat.zero_mul]
    rfl
  · obtain ⟨h1, h2, h3, h4⟩ := ht.message (Nat.pos_of_ne_zero hz) hk
    rw [decide_eq_false hz, if_neg (by simp), hcomm, WriteSide.at, ← h1, ← h2, ← h3, ← h4]

theorem fits_chunk (h : WriteSetup n m w bytes mr)
    (hk : k < w.processing.all_packets) (hpd : t.pd = m.pd) :
    let pmtu := n.mtu
    let pos := positionOf (w.setSent k).processing
    WriteFits (t.at pmtu w k) (pos.segment pmtu w.opcode) mr (chunk pmtu bytes k) := by
  obtain ⟨hends, hlast⟩ := chunk_ends h.carries hk
  refine ⟨?_, chunk_size h.carries hk, ?_, ?_, h.carries.max, h.lo, h.hi⟩
  · change RkeyNames t.pd w.wr.rkey mr
    rw [hpd]
    exact h.names
  · change k * n.mtu + _ ≤ w.total_length
    omega
  · intro hend
    change (positionOf (w.setSent k).processing).isEnd = true at hend
    rw [(positionOf_setSent h.carries hk).2, decide_eq_true_eq] at hend
    exact hlast hend

/-- The responder takes the `k`-th packet if the region admits the message, and
gives up the connection if it does not. -/
theorem receive_packet (h : WriteSetup n m w bytes mr) {t : Node}
    (hk : k < w.processing.all_packets)
    (ht : Midway n.mtu w bytes mr m.writeSide t.writeSide k) :
    let pmtu := n.mtu
    ∃ o, dataOpcode (positionOf (w.setSent k).processing) w.opcode = some o ∧ ∀ cfg now,
      let t' := pibReceiveRcQpIncomingMessage cfg now t.qp.attr.port_num t (dataPacket pmtu w bytes k o)
      if mr.Admits WRITE_ACCESS w.wr.remote_addr w.total_length then
        if w.opcode = .RDMA_WRITE_WITH_IMM ∧ k + 1 = w.processing.all_packets then
          ∃ v padcnt slid, m.writeSide.take.recv_wqe.head? = some v ∧ t'.writeSide =
            (((t.writeSide.at pmtu w k).take.store mr (chunk pmtu bytes k)).complete v w.ex padcnt
              slid).next o
        else t'.writeSide = ((t.writeSide.at pmtu w k).store mr (chunk pmtu bytes k)).next o
      else t'.qp.state = .ERR := by
  obtain ⟨o, ho, hseg⟩ := writeSegment_data (positionOf (w.setSent k).processing) h.isWrite
    n.mtu
  refine ⟨o, ho, fun cfg now => ?_⟩
  dsimp only
  have hstate : t.qp.state = m.qp.state := ht.state
  have hattr : t.qp.attr = m.qp.attr := ht.attr
  have hpsn : nextPsn (w.setSent k) % 2 ^ 24 = t.qp.responder.psn % 2 ^ 24 := by
    have h1 : t.qp.responder.psn = u32 (m.qp.responder.psn + k) := ht.psn
    have h2 := h.psn
    rw [h1]
    simp only [nextPsn, psnMask, PSN_MOD, u32, SendWqe.setSent]
    omega
  have hcomm : (t.setQp (issueCommEst t.qp)).mtu = n.mtu := by
    unfold Node.mtu
    rw [Node.setQp_qp, issueCommEst_attr, hattr, h.mtu]
  have hw := receiveWrite_eq cfg now (t.setQp (issueCommEst t.qp)) (psnMask (nextPsn (w.setSent k)))
    (dataPacket n.mtu w bytes k o) w.ex
    (chunk n.mtu bytes k)
    (by rw [hcomm]; exact hseg) h.typed
    (by rw [dataPacket, withReth_write h.isWrite]; rfl) h.ex_lt
  obtain ⟨hstart, hend⟩ := positionOf_setSent h.carries hk
  have hat := writeSide_at ht hk
  have hfits := fits_chunk h (t := t.writeSide) hk ht.pd
  have hadm := admits_chunk mr h.carries hk
  have hrecv := fun N v ex => receive_placed cfg now t
    (p := dataPacket n.mtu w bytes k o) (by rw [hstate]; exact h.ready) hseg
    hpsn (inOrder_write h.isWrite ho (ht.after hk)) N v ex mr
    (chunk n.mtu bytes k)
  have hseg' : ((positionOf (w.setSent k).processing).segment n.mtu w.opcode).init =
      decide (k = 0) := hstart
  dsimp only at hw hfits
  rw [hseg', Node.setQp_qp] at hw
  generalize (if decide (k = 0) = true then startWrite (issueCommEst t.qp) w.reth
    else issueCommEst t.qp) = q at hat hw
  have hwithWord := withWord_write (positionOf (w.setSent k).processing) h.isWrite
  rw [hend] at hwithWord
  generalize (positionOf (w.setSent k).processing) = pos at *
  by_cases hword : w.opcode = .RDMA_WRITE_WITH_IMM ∧ k + 1 = w.processing.all_packets
  · rw [decide_eq_true hword.1, decide_eq_true hword.2] at hwithWord
    have hfin : ((pos.segment n.mtu w.opcode).finit &&
        (pos.segment n.mtu w.opcode).with_imm) = true := by
      simp only [Position.segment, hwithWord, hend, decide_eq_true hword.2]
      rfl
    obtain ⟨hr, hs, -⟩ := ht.silent fun _ => hk
    have htake := congrArg WriteSide.recv_wqe (writeSide_takeFromSrq t q)
    rw [hat, (take_congr (t := t.writeSide.at _ w k) hr hs).1] at htake
    cases hv : m.writeSide.take.recv_wqe with
    | nil => exact absurd hv (h.element hword.1)
    | cons v vs =>
      rw [if_pos (show (pos.segment _ w.opcode).with_imm = true from hwithWord)] at hw
      have hside : ((t.setQp (issueCommEst t.qp)).setQp (takeFromSrq q)).writeSide =
          (t.writeSide.at n.mtu w k).take := hat ▸ writeSide_takeFromSrq t q
      have hr := hrecv _ _ _ (hw v vs (htake.trans hv)) (hside ▸ hfits.take) rfl
      dsimp only at hr
      rw [hside, if_pos hfin] at hr
      have haddr : (t.writeSide.at n.mtu w k).take.vaddr +
          (t.writeSide.at n.mtu w k).take.offset =
          w.wr.remote_addr + k * n.mtu := by
        rw [take_eq]
        rfl
      rw [haddr] at hr
      simp only [hadm] at hr
      rw [if_pos hword]
      split at hr
      · rename_i ha
        rw [if_pos ha]
        exact ⟨v, _, _, rfl, hr⟩
      · rename_i ha
        rwa [if_neg ha]
  · have hww : withWord pos w.opcode = false := by
      rw [hwithWord, ← Bool.decide_and]
      exact decide_eq_false fun hc => hword hc.symm
    have hfin : ¬((pos.segment n.mtu w.opcode).finit &&
        (pos.segment n.mtu w.opcode).with_imm) = true := by
      simp [Position.segment, hww]
    rw [if_neg (by simp [Position.segment, hww])] at hw
    have hside : ((t.setQp (issueCommEst t.qp)).setQp q).writeSide =
        t.writeSide.at n.mtu w k := hat
    have hr := hrecv _ _ _ hw (hside ▸ hfits) rfl
    dsimp only at hr
    rw [hside, if_neg hfin] at hr
    rw [if_neg hword]
    exact (ite_congr (propext hadm) (fun _ => rfl) (fun _ => rfl)) ▸ hr

theorem opcode_midway (hw : w.IsWrite) (ho : dataOpcode pos w.opcode = some o)
    (hend : pos.isEnd = false) : o = .RDMA_WRITE_FIRST ∨ o = .RDMA_WRITE_MIDDLE := by
  rcases hw with h | h <;> rw [h] at ho <;> cases pos <;> cases ho
  case inl.first | inr.first => exact Or.inl rfl
  case inl.middle | inr.middle => exact Or.inr rfl
  all_goals cases hend

/-- The receive element of the last packet. -/
theorem consumed_complete (mr : Mr) {v : RecvWqe}
    (padcnt slid : Nat) (o : OpCode) (hr : t.recv_wqe = s.recv_wqe) (hs : t.srq = s.srq) (hc : t.recv_cq = s.recv_cq)
    (hv : s.take.recv_wqe.head? = some v) (hlen : t.offset + data.length = w.total_length) :
    s.Consumed (((t.take.store mr data).complete v w.ex padcnt slid).next o) w := by
  have htake := take_congr hr hs
  obtain ⟨vs, hvs⟩ : ∃ vs, s.take.recv_wqe = v :: vs := List.head?_eq_some_iff.mp hv
  have helems : t.take.elements = s.elements := by
    rw [elements_take]
    unfold WriteSide.elements
    rw [hr, hs]
  have hfield : t.take.recv_cq = s.recv_cq ∧ t.take.offset = t.offset := by
    rw [take_eq, ← hc]
    exact ⟨rfl, rfl⟩
  refine ⟨?_, v, _, _, hv, congrArg (· ++ _) hfield.1, rfl, rfl, rfl, ?_, rfl, rfl⟩
  · have hmap : ∀ x : Option Srq, ((x.map fun srq => { srq with free_recv_wqe :=
        srq.free_recv_wqe + 1 }).elim 0 fun srq => srq.recv_wqe.length) =
        x.elim 0 fun srq => srq.recv_wqe.length := by
      intro x
      cases x <;> rfl
    have hthis : (((t.take.store mr data).complete v w.ex padcnt slid).next o).elements =
        t.take.recv_wqe.tail.length + (t.take.srq.elim 0 fun srq => srq.recv_wqe.length) :=
      congrArg (t.take.recv_wqe.tail.length + ·) (hmap t.take.srq)
    rw [hthis, ← helems, WriteSide.elements, htake.1, hvs, List.tail_cons, List.length_cons]
    omega
  · change t.take.offset + data.length = w.total_length
    rw [hfield.2, hlen]

/-- The step from one packet to the next. -/
theorem midway_next (h : WriteSetup n m w bytes mr) {t' : WriteSide}
    (hk : k < w.processing.all_packets)
    (ht : Midway n.mtu w bytes mr m.writeSide t k)
    (ho : dataOpcode (positionOf (w.setSent k).processing) w.opcode = some o)
    (ht' : if w.opcode = .RDMA_WRITE_WITH_IMM ∧ k + 1 = w.processing.all_packets then
        ∃ v padcnt slid, m.writeSide.take.recv_wqe.head? = some v ∧ t' =
          (((t.at n.mtu w k).take.store mr
            (chunk n.mtu bytes k)).complete v w.ex padcnt slid).next o
      else t' = ((t.at n.mtu w k).store mr
        (chunk n.mtu bytes k)).next o) :
    Midway n.mtu w bytes mr m.writeSide t' (k + 1) := by
  obtain ⟨hends, hlast⟩ := chunk_ends h.carries hk
  have hpsn : u32 (t.psn + 1) = u32 (m.writeSide.psn + (k + 1)) := by
    rw [ht.psn]
    simp only [u32]
    omega
  have hmem : scatter t.mem (mr.places (w.wr.remote_addr + k * n.mtu - mr.start)
      (chunk n.mtu bytes k).length) (chunk n.mtu bytes k) =
      scatter m.writeSide.mem ((messagePlaces w mr).take ((k + 1) * n.mtu)) bytes := by
    rw [ht.mem]
    exact scatter_chunk h.carries h.names.backed h.lo h.hi hk _
  obtain ⟨hr, hs, hc⟩ := ht.silent fun _ => hk
  by_cases hword : w.opcode = .RDMA_WRITE_WITH_IMM ∧ k + 1 = w.processing.all_packets
  · rw [if_pos hword] at ht'
    obtain ⟨v, padcnt, slid, hv, rfl⟩ := ht'
    have hcons := consumed_complete mr (t := t.at n.mtu w k) padcnt slid o hr hs
      hc hv (hlast hword.2)
    rw [take_eq] at hcons ⊢
    exact ⟨hmem, hpsn, ht.pd, ht.attr, ht.state, ht.crashes, fun hlt => absurd hword.2 (by omega),
      fun _ hlt => absurd hword.2 (by omega), fun hlt => absurd hword.2 (by have := hlt hword.1; omega),
      fun _ _ => hcons⟩
  · rw [if_neg hword] at ht'
    subst ht'
    refine ⟨hmem, hpsn, ht.pd, ht.attr, ht.state, ht.crashes, ?_, ?_, fun _ => ⟨hr, hs, hc⟩,
      fun himm hall => absurd ⟨himm, hall⟩ hword⟩
    · intro hlt
      have hstart := (positionOf_setSent h.carries hlt).1
      have hend := (positionOf_setSent h.carries hk).2
      rw [decide_eq_false (by omega)] at hstart hend
      unfold Position.After
      rw [hstart, if_neg (by simp)]
      exact opcode_midway h.isWrite ho hend
    · intro _ hlt
      refine ⟨?_, rfl, rfl, rfl⟩
      have hle := h.carries.mul_le hlt
      change k * n.mtu + _ = _
      omega

/-! ## Delivery -/

/-- The packets that the requester sends for the element, while its memory
stays as it is. -/
def emitted (n : Node) (w : SendWqe) : List RcPacket :=
  (List.range w.processing.all_packets).filterMap fun k => (buildRequest n (w.setSent k)).2

/-- The responder after these packets have come in, each at its time. -/
def deliver (cfg : Config) (port_num : Nat) (m : Node) (packets : List (Nat × RcPacket)) : Node :=
  packets.foldl (fun m x => pibReceiveRcQpIncomingMessage cfg x.1 port_num m x.2) m

theorem midway_zero (h : WriteSetup n m w bytes mr) :
    Midway n.mtu w bytes mr m.writeSide m.writeSide 0 := by
  have hpos := h.carries.packets_pos
  refine ⟨?_, ?_, rfl, rfl, rfl, rfl, ?_, ?_, fun _ => ⟨rfl, rfl, rfl⟩, fun _ hz => absurd hz (by omega)⟩
  · rw [Nat.zero_mul, List.take_zero, scatter_nil_left]
  · exact (Nat.mod_eq_of_lt h.psn_lt).symm
  · intro hk
    unfold Position.After
    rw [(positionOf_setSent h.carries hk).1, if_pos (by simp)]
    exact h.idle
  · intro hz
    omega

/-- A queue pair in the error state leaves every packet aside. -/
theorem deliver_of_err (port_num : Nat) (packets : List (Nat × RcPacket))
    {t : Node} (ht : t.qp.state = .ERR) : deliver cfg port_num t packets = t := by
  induction packets with
  | nil => rfl
  | cons x rest ih =>
    have hrefused : pibIsRecvOk t.qp.state = false := by
      rw [ht]
      rfl
    have hstep : pibReceiveRcQpIncomingMessage cfg x.1 port_num t x.2 = t := by
      unfold pibReceiveRcQpIncomingMessage
      rw [if_pos (Or.inl hrefused)]
    change deliver cfg port_num (pibReceiveRcQpIncomingMessage cfg x.1 port_num t x.2) rest = t
    rw [hstep]
    exact ih

/-- The first of the packets that are still to come. -/
theorem next_packet (h : Carries n w bytes) {j : Nat} (hk : k < w.processing.all_packets)
    (ho : dataOpcode (positionOf (w.setSent k).processing) w.opcode = some o)
    {packets : List (Nat × RcPacket)} (hp : packets.map Prod.snd =
      (List.range' k (j + 1)).filterMap (fun i => (buildRequest n (w.setSent i)).2)) :
    ∃ now rest, packets = (now, dataPacket n.mtu w bytes k o) :: rest ∧
      rest.map Prod.snd =
        (List.range' (k + 1) j).filterMap (fun i => (buildRequest n (w.setSent i)).2) := by
  rw [List.range'_succ, List.filterMap_cons, buildRequest_packet h hk ho] at hp
  cases packets with
  | nil => cases hp
  | cons x rest =>
    rw [List.map_cons, List.cons.injEq] at hp
    obtain ⟨now, p⟩ := x
    obtain rfl : p = _ := hp.1
    exact ⟨now, rest, rfl, hp.2⟩

/-- The packets from the `k`-th on take the message to its end. -/
theorem midway_deliver (h : WriteSetup n m w bytes mr)
    (hadm : mr.Admits WRITE_ACCESS w.wr.remote_addr w.total_length) (j : Nat) :
    ∀ (k : Nat) (t : Node) (packets : List (Nat × RcPacket)), k + j = w.processing.all_packets →
    packets.map Prod.snd =
      (List.range' k j).filterMap (fun i => (buildRequest n (w.setSent i)).2) →
    Midway n.mtu w bytes mr m.writeSide t.writeSide k →
    Midway n.mtu w bytes mr m.writeSide
      (deliver cfg m.qp.attr.port_num t packets).writeSide w.processing.all_packets := by
  induction j with
  | zero =>
    intro k t packets hkj hp ht
    have hnil : packets = [] := List.map_eq_nil_iff.mp hp
    rw [hnil, ← hkj]
    exact ht
  | succ j ih =>
    intro k t packets hkj hp ht
    have hk : k < w.processing.all_packets := by omega
    obtain ⟨o, ho, hrecv⟩ := receive_packet h hk ht
    obtain ⟨now, rest, rfl, hrest⟩ := next_packet h.carries hk ho hp
    have hattr : t.qp.attr = m.qp.attr := ht.attr
    replace hrecv := hrecv cfg now
    rw [if_pos hadm, hattr] at hrecv
    exact ih (k + 1) _ rest (by omega) hrest (midway_next h hk ht ho hrecv)

/-- What an RDMA WRITE is for: the responder has taken every packet, the bytes
stand where the element says and nowhere else, and a receive element has gone
only if the message has immediate data for it. -/
structure WriteDelivered (m m' : Node) (w : SendWqe) (bytes : List UInt8) (mr : Mr) : Prop where
  accepted : m'.qp.responder.psn = u32 (m.qp.responder.psn + w.processing.all_packets) ∧
    m'.qp.state = m.qp.state ∧ m'.crashes = m.crashes
  stored : gather m'.mem (messagePlaces w mr) = bytes
  others : ∀ x, x ∉ messagePlaces w mr → m'.mem x = m.mem x
  plain : w.opcode = .RDMA_WRITE → m'.qp.responder.recv_wqe = m.qp.responder.recv_wqe ∧
    m'.qp.srq = m.qp.srq ∧ m'.qp.recv_cq = m.qp.recv_cq
  immediate : w.opcode = .RDMA_WRITE_WITH_IMM → m.writeSide.Consumed m'.writeSide w

/-- An RDMA WRITE is delivered if and only if the region admits its range: it
grants local writes as well, it is no DMA region, and the range is not an empty
one at the first address or beyond the last one. -/
theorem rdma_write_delivered (cfg : Config) (h : WriteSetup n m w bytes mr)
    (hplaces : (messagePlaces w mr).Nodup) (packets : List (Nat × RcPacket))
    (hp : packets.map Prod.snd = emitted n w) :
    WriteDelivered m (deliver cfg m.qp.attr.port_num m packets) w bytes mr ↔
      mr.Admits WRITE_ACCESS w.wr.remote_addr w.total_length := by
  have hpos := h.carries.packets_pos
  rw [emitted, List.range_eq_range'] at hp
  constructor
  · intro hd
    by_contra hadm
    obtain ⟨o, ho, hrecv⟩ := receive_packet h hpos (midway_zero h)
    obtain ⟨j, hj⟩ : ∃ j, w.processing.all_packets = j + 1 := ⟨w.processing.all_packets - 1, by omega⟩
    rw [hj] at hp
    obtain ⟨now, rest, rfl, -⟩ := next_packet h.carries hpos ho hp
    replace hrecv := hrecv cfg now
    rw [if_neg hadm] at hrecv
    have hstate := hd.accepted.2.1
    change (deliver cfg _ (pibReceiveRcQpIncomingMessage cfg now _ m _) rest).qp.state = _ at hstate
    rw [deliver_of_err cfg _ rest hrecv, hrecv] at hstate
    have hready := h.ready
    rw [← hstate] at hready
    cases hready
  · intro hadm
    have hm := midway_deliver cfg h hadm w.processing.all_packets 0 m packets (by omega) hp
      (midway_zero h)
    have hlen : (messagePlaces w mr).length = w.total_length :=
      h.names.backed.places (by have := h.lo; have := h.hi; omega)
    have hall := h.carries.le_mul
    have hmem : (deliver cfg m.qp.attr.port_num m packets).mem =
        scatter m.mem (messagePlaces w mr) bytes := by
      have hmem := hm.mem
      rw [List.take_of_length_le (by omega)] at hmem
      exact hmem
    refine ⟨⟨hm.psn, hm.state, hm.crashes⟩, ?_, ?_, ?_, fun himm => hm.consumed himm rfl⟩
    · rw [hmem]
      exact gather_scatter hplaces _ (by rw [h.carries.length, hlen])
    · intro x hx
      rw [hmem]
      exact scatter_outside hx _
    · intro hop
      exact hm.silent fun himm => absurd (hop.symm.trans himm) (by decide)

/-! ## A page and two messages -/

/-- A region of 512 bytes in one page, open for local and remote writes. -/
def writeRegion : Mr :=
  { mr_num := 1, lkey := 0, rkey := 0, state := .VALID, start := 0x1000, length := 512
    access_flags := WRITE_ACCESS, umem := { page_shift := 12, offset := 0, pages := [some 0x8000] } }

def writePd : Pd := ⟨1, fun i => if i = 0 then some writeRegion else none⟩

theorem writeRegion_backed : writeRegion.Backed :=
  Mr.backed_of_page rfl rfl rfl (by decide) (by decide)

theorem writeRegion_names : RkeyNames writePd 0 writeRegion :=
  ⟨rfl, rfl, rfl, writeRegion_backed⟩

/-- A queue pair in RTS that may reach the region, with one receive posted. -/
def writeNode : Node :=
  Run.run (step {} ibStateTable) (created {} {} none writePd fun a => UInt8.ofNat a)
    (bringUp { path_mtu := 1, port_num := 1 } ++
      [(1, .postRecv [{ wr_id := 3, sg_list := [{ addr := 0, length := 0, lkey := 0 }] }])])

/-- 300 bytes of the region, written 100 bytes further on with immediate data. -/
def longWrite : SendWqe :=
  { trace_id := 0, opcode := .RDMA_WRITE_WITH_IMM, total_length := 300, ex := 7
    sge_array := [{ addr := 0x1000, length := 300, lkey := 0 }]
    processing := { all_packets := 2 }, wr := { remote_addr := 0x1064, rkey := 0 } }

def longBytes : List UInt8 := gather writeNode.mem (writeRegion.places 0 300)

theorem longWrite_setup : WriteSetup writeNode writeNode longWrite longBytes writeRegion where
  isWrite := Or.inr rfl
  carries :=
    { length := (length_gather _ _).trans (writeRegion_backed.places (by decide))
      max := by decide
      packets := by decide
      inline := nofun
      sges := fun _ => ⟨writeRegion.places 0 300 ++ [], .cons writeRegion rfl rfl rfl (by decide)
        writeRegion_backed (by decide) (by decide) .nil, by rw [List.append_nil]; rfl⟩ }
  rkey_lt := by decide
  ex_lt := by decide
  mtu := rfl
  ready := by decide
  psn_lt := by decide
  psn := by decide
  idle := by decide
  names := writeRegion_names
  grants := by decide
  lo := by decide
  hi := by decide
  element := fun _ => by decide

theorem longWrite_delivered :
    WriteDelivered writeNode (deliver {} 1 writeNode ((emitted writeNode longWrite).map fun p => (2, p)))
      longWrite longBytes writeRegion := by
  refine (rdma_write_delivered {} longWrite_setup ?_ _ ?_).mpr (by decide)
  · refine List.Nodup.sublist ((List.take_sublist _ _).trans (List.drop_sublist _ _)) ?_
    simp [pageBytes, writeRegion, List.nodup_range']
  · rw [List.map_map]
    exact List.map_id _

/-- Nothing, written to the first byte of the region. -/
def emptyWrite : SendWqe :=
  { trace_id := 0, opcode := .RDMA_WRITE, total_length := 0, processing := { all_packets := 1 }
    wr := { remote_addr := 0x1000, rkey := 0 } }

theorem emptyWrite_setup : WriteSetup writeNode writeNode emptyWrite [] writeRegion where
  isWrite := Or.inl rfl
  carries :=
    { length := rfl
      max := by decide
      packets := by decide
      inline := nofun
      sges := fun _ => ⟨[], .nil, rfl⟩ }
  rkey_lt := by decide
  ex_lt := by decide
  mtu := rfl
  ready := by decide
  psn_lt := by decide
  psn := by decide
  idle := by decide
  names := writeRegion_names
  grants := by decide
  lo := by decide
  hi := by decide
  element := nofun

/-- The empty write is refused, and the connection is lost. -/
theorem emptyWrite_refused :
    let m' := deliver {} 1 writeNode ((emitted writeNode emptyWrite).map fun p => (2, p))
    WriteSetup writeNode writeNode emptyWrite [] writeRegion ∧ m'.qp.state = .ERR ∧
      ¬ WriteDelivered writeNode m' emptyWrite [] writeRegion := by
  intro m'
  have herr : m'.qp.state = .ERR := by decide
  have hrts : writeNode.qp.state = .RTS := by decide
  refine ⟨emptyWrite_setup, herr, fun hd => ?_⟩
  have hstate := hd.accepted.2.1
  rw [herr, hrts] at hstate
  cases hstate

end pib
