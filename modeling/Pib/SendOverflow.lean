-- A SEND from one end to the other, into a receive element whose list may be
-- shorter than the message: what the responder does with each packet, and what
-- is left of the element when all have come.
import Pib.RdmaWrite
import Pib.ScatterRoom
import Pib.AbortRecv
import Pib.AckQueue

namespace pib

open Bytes

variable {seg : Segment} {data : List UInt8} {t : Node} {k : Nat}

/-! ## The two ends -/

/-- The element is a SEND. -/
def SendWqe.IsSend (w : SendWqe) : Prop := w.opcode = .SEND ∨ w.opcode = .SEND_WITH_IMM

/-- The two ends of a SEND: the element at the requester `n` carries `bytes`, and
the responder `m` waits for the first packet of a message, with the receive
element `v` first, whose list can be used. -/
structure SendSetup (n m : Node) (w : SendWqe) (bytes : List UInt8) (v : RecvWqe) : Prop where
  isSend : w.IsSend
  carries : Carries n w bytes
  ex_lt : w.ex < 2 ^ 32
  mtu : m.qp.attr.path_mtu = n.qp.attr.path_mtu
  ready : pibIsRecvOk m.qp.state = true
  psn_lt : m.qp.responder.psn < 2 ^ 32
  psn : m.qp.responder.psn % 2 ^ 24 = w.processing.based_psn % 2 ^ 24
  idle : (attrOpCode m.qp.responder.last_OpCode).map (·.ending) = some true
  element : (takeFromSrq m.qp).responder.recv_wqe.head? = some v
  backed : m.pd.Backed
  usable : AllUsable m.pd IB_ACCESS_LOCAL_WRITE v.sge_array

/-- The opcodes that may stand before a packet. -/
def Position.AfterSend (pos : Position) (last : OpCode) : Prop :=
  if pos.isStart then (attrOpCode last).map (·.ending) = some true else leavesOpen last = true

variable {n m : Node} {w : SendWqe} {bytes : List UInt8} {v : RecvWqe}

theorem sendSegment_data (pos : Position) (hw : w.IsSend) (pmtu : Nat) :
    ∃ o, dataOpcode pos w.opcode = some o ∧
      sendSegment pmtu o = some (pos.segment pmtu w.opcode) ∧
      (pos.isEnd = false → leavesOpen o = true) := by
  rcases hw with h | h <;> rw [h] <;> cases pos
  case inl.first | inl.middle | inr.first | inr.middle => exact ⟨_, rfl, rfl, fun _ => rfl⟩
  all_goals exact ⟨_, rfl, rfl, fun he => nomatch he⟩

theorem inOrder_send {pos : Position} {o last : OpCode} (hw : w.IsSend)
    (ho : dataOpcode pos w.opcode = some o) (h : pos.AfterSend last) :
    pibOpcodeIsInOrderSequence o last = some true := by
  have hopen : leavesOpen last = true → last = .SEND_FIRST ∨ last = .SEND_MIDDLE := by
    intro hl
    cases last <;> simp [leavesOpen] at hl ⊢
  rcases hw with hw | hw <;> rw [hw] at ho <;> cases pos <;>
    simp only [dataOpcode, sendOpcode, Option.some.injEq] at ho <;> subst ho <;>
    simp only [Position.AfterSend, Position.isStart, if_true, if_false, Bool.false_eq_true] at h
  case inl.only | inl.first | inr.only | inr.first => exact inOrder_of_start rfl h
  all_goals rcases hopen h with rfl | rfl <;> rfl

/-! ## A packet -/

/-- The queue pair with which `receive_SEND_request` looks at a packet. -/
def beginSend (q : Qp) (init : Bool) : Qp :=
  if init then takeFromSrq { q with responder := { q.responder with offset := 0 } } else q

/-- The headers of a packet lead to the store of its data. -/
theorem receiveSend_eq (now : Nat) (n : Node) (psn : Nat) (p : RcPacket) {vs : List RecvWqe}
    (ex : Nat) (data : List UInt8)
    (hseg : sendSegment n.mtu p.opcode = some seg) (hinv : seg.with_inv = false)
    (hbuf : p.buffer = (if seg.with_imm then be 4 ex else []) ++ data) (hex : ex < 2 ^ 32)
    (hsize : seg.min ≤ data.length ∧ data.length ≤ seg.max)
    (hv : (beginSend n.qp seg.init).responder.recv_wqe = v :: vs) :
    ∃ ex', receiveSendRequest now n psn p =
      placeSend now (n.setQp (beginSend n.qp seg.init)) psn p seg v ex' data := by
  have hbad : ¬(data.length < seg.min ∨ seg.max < data.length) := by omega
  unfold receiveSendRequest
  rw [hseg]
  dsimp only
  rw [show (if seg.init = true then takeFromSrq { n.qp with responder := { n.qp.responder with
    offset := 0 } } else n.qp) = beginSend n.qp seg.init from rfl, hv, hinv, Bool.or_false, hbuf]
  cases himm : seg.with_imm with
  | true =>
    simp only [if_true, takeWord_be hex]
    rw [if_neg hbad]
    exact ⟨ex, rfl⟩
  | false =>
    simp only [Bool.false_eq_true, if_false, List.nil_append, takeWord]
    rw [if_neg hbad]
    exact ⟨0, rfl⟩

theorem executeRequest_send (cfg : Config) (now : Nat) (n : Node) (psn : Nat) {p : RcPacket} {pmtu : Nat}
    (hseg : sendSegment pmtu p.opcode = some seg) (hinv : seg.with_inv = false) :
    pibOpcodeIsAcknowledge p.opcode = some false ∧
      executeRequest cfg now n psn p = receiveSendRequest now n psn p := by
  cases ho : p.opcode <;> rw [ho] at hseg <;> try cases hseg
  case SEND_LAST_WITH_INVALIDATE | SEND_ONLY_WITH_INVALIDATE => cases hinv
  all_goals exact ⟨rfl, by simp only [executeRequest, ho]⟩

/-- No NAK of an invalid request has been added to the queue of acknowledges. -/
def NoInvalid (q q' : Qp) : Prop :=
  ∀ ack ∈ q'.responder.acks, ack.syndrome = PIB_SYND_NAK_CODE_INV_REQ_ERR → ack ∈ q.responder.acks

theorem noInvalid_pushAcknowledge (q : Qp) (psn : Nat) :
    NoInvalid q (pushAcknowledge q psn PIB_SYND_ACK_CODE) := by
  intro ack hmem hsynd
  change ack ∈ (pushOrCoalesce q.responder psn PIB_SYND_ACK_CODE).acks at hmem
  rcases pushOrCoalesce_cases q.responder psn PIB_SYND_ACK_CODE with
    ⟨he, -⟩ | ⟨last, hlast, ⟨-, he⟩ | ⟨hco, he⟩⟩
  · rw [he] at hmem
    rcases List.mem_append.mp hmem with h | h
    · exact h
    rw [List.mem_singleton.mp h] at hsynd
    have hne : PIB_SYND_ACK_CODE ≠ PIB_SYND_NAK_CODE_INV_REQ_ERR := by decide
    exact absurd hsynd hne
  · rwa [he] at hmem
  · rw [he] at hmem
    rcases List.mem_append.mp hmem with h | h
    · exact List.dropLast_subset _ h
    -- only a positive acknowledge is coalesced
    rw [List.mem_singleton.mp h] at hsynd
    simp only [coalesces, Bool.and_eq_true, decide_eq_true_eq] at hco
    rw [show last.syndrome = _ from hsynd] at hco
    exact absurd hco.2 (by decide)

theorem acks_popRecvWqe (q : Qp) : q.popRecvWqe.responder.acks = q.responder.acks := by
  unfold Qp.popRecvWqe Qp.freeRecvWqe
  split <;> rfl

/-- The completion of a receive element in which the data did not fit. -/
def protErrWc (v : RecvWqe) : Wc × Bool :=
  ({ wr_id := v.wr_id, status := .LOC_PROT_ERR, opcode := .RECV }, true)

variable {N : Node} {vs : List RecvWqe}

/-- Data that passes is taken. -/
theorem placeSend_passes (now : Nat) (psn : Nat) (p : RcPacket) {s : Segment} (ex : Nat) (hinv : s.with_inv = false) (hmax : data.length ≤ PIB_MAX_PAYLOAD_LEN)
    (hp : Passes N.pd IB_ACCESS_LOCAL_WRITE v.sge_array N.qp.responder.offset data.length) :
    let r := placeSend now N psn p s v ex data
    r.2 = some 1 ∧ r.1.pd = N.pd ∧
      r.1.mem = (pibUtilMrCopyData N.pd v.sge_array N.mem data N.qp.responder.offset data.length
        IB_ACCESS_LOCAL_WRITE .COPY_TO).2.1 ∧
      r.1.qp = acceptData N.qp psn p s s.finit v ex data.length .RECV := by
  have hok : ((MemOp.recv v N.qp.responder.offset data).run N.pd N.mem).1 = .SUCCESS :=
    (copyData_status hmax).1.mpr hp
  unfold placeSend
  dsimp only
  rw [if_neg (by simp [hok]), hinv, if_neg Bool.false_ne_true]
  exact ⟨rfl, rfl, rfl, rfl⟩

/-- Data that does not pass completes the element in error, with a protection error
and not with one of length. -/
theorem placeSend_not_passes (now : Nat) (psn : Nat) (p : RcPacket) {s : Segment} (ex : Nat) (hmax : data.length ≤ PIB_MAX_PAYLOAD_LEN)
    (hw : N.qp.responder.recv_wqe = v :: vs)
    (hp : ¬Passes N.pd IB_ACCESS_LOCAL_WRITE v.sge_array N.qp.responder.offset data.length) :
    let r := placeSend now N psn p s v ex data
    r.2 = none ∧ r.1.mem = (pibUtilMrCopyData N.pd v.sge_array N.mem data N.qp.responder.offset
        data.length IB_ACCESS_LOCAL_WRITE .COPY_TO).2.1 ∧
      r.1.qp.state = .ERR ∧
      r.1.qp.recv_cq = N.qp.recv_cq ++ protErrWc v :: vs.map flushRecvWc := by
  have hne : ((MemOp.recv v N.qp.responder.offset data).run N.pd N.mem).1 ≠ .SUCCESS :=
    fun hok => hp ((copyData_status hmax).1.mp hok)
  have hst : ((MemOp.recv v N.qp.responder.offset data).run N.pd N.mem).1 = .LOC_PROT_ERR :=
    (copyData_status hmax).2 hne
  unfold placeSend
  dsimp only
  rw [if_pos hne]
  refine ⟨rfl, rfl, failQp_state now _, ?_⟩
  generalize hq : pushAcknowledge (failRecv _ v _ .RECV) psn _ = q
  have hd : q.desk = (failRecv N.qp v .LOC_PROT_ERR .RECV).desk := by
    rw [← hq, desk_pushAcknowledge, Node.perform_qp, hst]
  have hcq : q.recv_cq = N.qp.recv_cq ++ [protErrWc v] :=
    (congrArg Desk.recv_cq hd).trans (recv_cq_popRecvWqe _)
  have hlist : q.responder.recv_wqe = vs := by
    refine (congrArg Desk.recv_wqe hd).trans ((recv_wqe_popRecvWqe _).trans ?_)
    exact (congrArg List.tail hw).trans rfl
  rw [Node.setQp_qp, recv_cq_failQp, hcq, hlist, List.append_assoc]
  rfl

/-! ## The message as a whole -/

/-- The responder, that was at `m`, has taken `k` packets of the message, but not
all of them. -/
structure Halfway (m t : Node) (v : RecvWqe) (pmtu k : Nat) : Prop where
  state : t.qp.state = m.qp.state
  attr : t.qp.attr = m.qp.attr
  pd : t.pd = m.pd
  psn : t.qp.responder.psn = u32 (m.qp.responder.psn + k)
  recv_cq : t.qp.recv_cq = m.qp.recv_cq
  naks : NoInvalid m.qp t.qp
  memory : ∀ x, x ∉ listPlaces m.pd v.sge_array → t.mem x = m.mem x
  first : k = 0 → t = m
  filling : 0 < k → leavesOpen t.qp.responder.last_OpCode = true ∧
    t.qp.responder.offset = k * pmtu ∧ t.qp.responder.recv_wqe.head? = some v

/-- All packets have been taken. -/
structure Finished (m t : Node) (v : RecvWqe) (length : Nat) : Prop where
  state : t.qp.state = m.qp.state
  naks : NoInvalid m.qp t.qp
  memory : ∀ x, x ∉ listPlaces m.pd v.sge_array → t.mem x = m.mem x
  completion : ∃ wc solicited, t.qp.recv_cq = m.qp.recv_cq ++ [(wc, solicited)] ∧
    wc.wr_id = v.wr_id ∧ wc.status = .SUCCESS ∧ wc.byte_len = length

/-- A packet has not fitted. -/
structure Broken (m t : Node) (v : RecvWqe) : Prop where
  state : t.qp.state = .ERR
  memory : ∀ x, x ∉ listPlaces m.pd v.sge_array → t.mem x = m.mem x
  completion : ∃ vs : List RecvWqe,
    t.qp.recv_cq = m.qp.recv_cq ++ protErrWc v :: vs.map flushRecvWc

theorem takeFromSrq_congr {q q' : Qp} (hs : q'.srq = q.srq)
    (hr : q'.responder.recv_wqe = q.responder.recv_wqe) :
    (takeFromSrq q').responder.recv_wqe = (takeFromSrq q).responder.recv_wqe := by
  unfold takeFromSrq
  rw [hs]
  split
  · exact hr
  split
  · exact hr
  split
  · dsimp only
    rw [hr]
  · exact hr

/-- What the begin of a message leaves alone. -/
theorem beginSend_frame (q : Qp) (init : Bool) :
    (beginSend q init).state = q.state ∧ (beginSend q init).place = q.place ∧
      (beginSend q init).recv_cq = q.recv_cq ∧ (beginSend q init).responder.acks = q.responder.acks := by
  have htake : ∀ q : Qp, (takeFromSrq q).recv_cq = q.recv_cq ∧
      (takeFromSrq q).responder.acks = q.responder.acks := by
    intro q
    unfold takeFromSrq
    split
    · exact ⟨rfl, rfl⟩
    split
    · exact ⟨rfl, rfl⟩
    · split <;> exact ⟨rfl, rfl⟩
  unfold beginSend
  split
  · obtain ⟨hst, hpl⟩ := stands_takeFromSrq { q with responder := { q.responder with offset := 0 } }
    obtain ⟨hcq, hacks⟩ := htake { q with responder := { q.responder with offset := 0 } }
    exact ⟨hst, hpl, hcq, hacks⟩
  · exact ⟨rfl, rfl, rfl, rfl⟩

theorem offset_takeFromSrq (q : Qp) : (takeFromSrq q).responder.offset = q.responder.offset := by
  unfold takeFromSrq
  split
  · rfl
  split
  · rfl
  · split <;> rfl

/-- At every packet the element is the first one, and the offset is the place of
the packet in the message. -/
theorem beginSend_halfway (h : SendSetup n m w bytes v) {pmtu : Nat} (ht : Halfway m t v pmtu k) :
    (beginSend (issueCommEst t.qp) (decide (k = 0))).responder.offset = k * pmtu ∧
      ∃ vs, (beginSend (issueCommEst t.qp) (decide (k = 0))).responder.recv_wqe = v :: vs := by
  unfold beginSend
  by_cases hz : k = 0
  · obtain rfl := ht.first hz
    subst hz
    rw [decide_eq_true rfl, if_pos rfl, offset_takeFromSrq, Nat.zero_mul]
    refine ⟨rfl, List.head?_eq_some_iff.mp ?_⟩
    rw [← h.element]
    refine congrArg List.head? (takeFromSrq_congr ?_ ?_)
    · exact congrArg RecvSide.srq (recvSide_issueCommEst t.qp)
    · exact congrArg (fun r => r.recv_wqe) (issueCommEst_responder t.qp)
  · obtain ⟨-, hoff, hhead⟩ := ht.filling (Nat.pos_of_ne_zero hz)
    rw [decide_eq_false hz, if_neg Bool.false_ne_true, issueCommEst_responder]
    exact ⟨hoff, List.head?_eq_some_iff.mp hhead⟩

section Accepted

variable {q q' : Qp} {psn ex len : Nat} {p : RcPacket} {s : Segment}

/-- A packet that leaves the message open moves the offset on. -/
theorem acceptData_open (h : q' = acceptData q psn p s false v ex len .RECV) :
    q'.responder.offset = u32 (q.responder.offset + len) ∧
      q'.responder.recv_wqe = q.responder.recv_wqe ∧ q'.recv_cq = q.recv_cq ∧ NoInvalid q q' := by
  have hside := recvSide_pushAcknowledge { q with responder := { q.responder with
    offset := u32 (q.responder.offset + len) } } psn PIB_SYND_ACK_CODE
  subst h
  exact ⟨congrArg (fun b => b.responder.offset) hside, congrArg (fun b => b.responder.recv_wqe) hside,
    congrArg RecvSide.recv_cq hside, noInvalid_pushAcknowledge _ psn⟩

/-- The last packet completes the element with the length of the message. -/
theorem acceptData_close (h : q' = acceptData q psn p s true v ex len .RECV) :
    (∃ wc solicited, q'.recv_cq = q.recv_cq ++ [(wc, solicited)] ∧ wc.wr_id = v.wr_id ∧
      wc.status = .SUCCESS ∧ wc.byte_len = u32 (q.responder.offset + len)) ∧ NoInvalid q q' := by
  let q₁ : Qp := { q with responder := { q.responder with
    offset := u32 (q.responder.offset + len) } }
  have hside := recvSide_pushAcknowledge (completeRecv q₁ v s ex .RECV p) psn PIB_SYND_ACK_CODE
  subst h
  constructor
  · refine ⟨_, _, (congrArg RecvSide.recv_cq hside).trans (recv_cq_popRecvWqe _), rfl, rfl, rfl⟩
  · intro ack hmem hsynd
    have h := noInvalid_pushAcknowledge (completeRecv q₁ v s ex .RECV p) psn ack hmem hsynd
    rw [completeRecv, acks_popRecvWqe] at h
    exact h

end Accepted

variable (cfg : Config)

/-- What a packet in its place leaves: its data is stored if it passes, and the
element completes in error if it does not. -/
theorem receive_send_data (now : Nat) {p : RcPacket} {ex : Nat}
    (hready : pibIsRecvOk t.qp.state = true)
    (hseg : sendSegment (pmtuOf t.qp.attr.path_mtu) p.opcode = some seg) (hinv : seg.with_inv = false)
    (hpsn : p.psn % 2 ^ 24 = t.qp.responder.psn % 2 ^ 24)
    (hseq : pibOpcodeIsInOrderSequence p.opcode t.qp.responder.last_OpCode = some true)
    (hbuf : p.buffer = (if seg.with_imm then be 4 ex else []) ++ data) (hex : ex < 2 ^ 32)
    (hsize : seg.min ≤ data.length ∧ data.length ≤ seg.max) (hmax : data.length ≤ PIB_MAX_PAYLOAD_LEN)
    {q : Qp} (hq : beginSend (issueCommEst t.qp) seg.init = q) (hvs : q.responder.recv_wqe = v :: vs) :
    let t' := pibReceiveRcQpIncomingMessage cfg now t.qp.attr.port_num t p
    t'.mem = (pibUtilMrCopyData t.pd v.sge_array t.mem data q.responder.offset data.length
        IB_ACCESS_LOCAL_WRITE .COPY_TO).2.1 ∧
      ((Passes t.pd IB_ACCESS_LOCAL_WRITE v.sge_array q.responder.offset data.length ∧ t'.pd = t.pd ∧
          ∃ q', (∃ ex', q' = acceptData q (psnMask p.psn) p seg seg.finit v ex' data.length .RECV) ∧
            t'.qp = { q' with responder := { q'.responder with
              psn := u32 (q'.responder.psn + 1), last_OpCode := p.opcode } }) ∨
        ¬Passes t.pd IB_ACCESS_LOCAL_WRITE v.sge_array q.responder.offset data.length ∧
          t'.qp.state = .ERR ∧ t'.qp.recv_cq = q.recv_cq ++ protErrWc v :: vs.map flushRecvWc) := by
  intro t'
  obtain ⟨hreq, hexec⟩ :=
    executeRequest_send cfg now (t.setQp (issueCommEst t.qp)) (psnMask p.psn) hseg hinv
  have hseg' : sendSegment (pmtuOf (t.setQp (issueCommEst t.qp)).qp.attr.path_mtu) p.opcode =
      some seg := by
    rw [Node.setQp_qp, issueCommEst_attr]
    exact hseg
  have hvs' : (beginSend (t.setQp (issueCommEst t.qp)).qp seg.init).responder.recv_wqe = v :: vs := by
    rw [Node.setQp_qp, hq]
    exact hvs
  obtain ⟨ex', hplace⟩ := receiveSend_eq now (t.setQp (issueCommEst t.qp)) (psnMask p.psn) p ex data
    hseg' hinv hbuf hex hsize hvs'
  rw [Node.setQp_qp, hq] at hplace
  obtain ⟨hnone, hsome⟩ := receive_inOrder cfg now t hready hreq hpsn hseq (hexec.trans hplace)
  by_cases hp : Passes t.pd IB_ACCESS_LOCAL_WRITE v.sge_array q.responder.offset data.length
  · obtain ⟨hret, hpd, hmem, hqp⟩ := placeSend_passes (N := (t.setQp (issueCommEst t.qp)).setQp q)
      now (psnMask p.psn) p ex' hinv hmax hp
    have ht' := hsome hret
    refine ⟨?_, Or.inl ⟨hp, ?_, _, ⟨ex', hqp⟩, congrArg Node.qp ht'⟩⟩
    · exact (congrArg Node.mem ht').trans hmem
    · exact (congrArg Node.pd ht').trans hpd
  · obtain ⟨hret, hmem, hst, hcq⟩ := placeSend_not_passes
      (N := (t.setQp (issueCommEst t.qp)).setQp q) (s := seg) now (psnMask p.psn) p ex' hmax hvs hp
    have ht' := hnone hret
    refine ⟨?_, Or.inr ⟨hp, ?_, ?_⟩⟩
    · exact (congrArg Node.mem ht').trans hmem
    · exact (congrArg (fun n => n.qp.state) ht').trans hst
    · exact (congrArg (fun n => n.qp.recv_cq) ht').trans hcq

/-- The responder takes the `k`-th packet if the data passes, and gives up the
connection if it does not. -/
theorem receive_send_packet (h : SendSetup n m w bytes v) (hk : k < w.processing.all_packets)
    (ht : Halfway m t v n.mtu k) :
    let pmtu := n.mtu
    let passes := Passes m.pd IB_ACCESS_LOCAL_WRITE v.sge_array (k * pmtu) (chunk pmtu bytes k).length
    ∃ o, dataOpcode (positionOf (w.setSent k).processing) w.opcode = some o ∧ ∀ now,
      let t' := pibReceiveRcQpIncomingMessage cfg now t.qp.attr.port_num t (dataPacket pmtu w bytes k o)
      (passes ∧ if k + 1 = w.processing.all_packets then Finished m t' v w.total_length
        else Halfway m t' v pmtu (k + 1)) ∨ ¬passes ∧ Broken m t' v := by
  dsimp only
  obtain ⟨o, ho, hseg, hopen⟩ := sendSegment_data (positionOf (w.setSent k).processing) h.isSend
    n.mtu
  refine ⟨o, ho, fun now => ?_⟩
  obtain ⟨hstart, hend⟩ := positionOf_setSent h.carries hk
  have hsize := chunk_size h.carries hk
  obtain ⟨hends, hlast⟩ := chunk_ends h.carries hk
  obtain ⟨hoff, vs, hvs⟩ := beginSend_halfway h ht
  obtain ⟨hst, hpl, hcq, hacks⟩ := beginSend_frame (issueCommEst t.qp) (decide (k = 0))
  have hseq : pibOpcodeIsInOrderSequence o t.qp.responder.last_OpCode = some true := by
    refine inOrder_send h.isSend ho ?_
    unfold Position.AfterSend
    rw [hstart]
    by_cases hz : k = 0
    · rw [decide_eq_true hz, if_pos rfl, ht.first hz]
      exact h.idle
    · rw [decide_eq_false hz, if_neg Bool.false_ne_true]
      exact (ht.filling (Nat.pos_of_ne_zero hz)).1
  have hpsn : nextPsn (w.setSent k) % 2 ^ 24 = t.qp.responder.psn % 2 ^ 24 := by
    have h2 := h.psn
    rw [ht.psn]
    simp only [nextPsn, psnMask, PSN_MOD, u32, SendWqe.setSent]
    omega
  have hreth : withReth (positionOf (w.setSent k).processing) w.opcode = false := by
    rcases h.isSend with hw | hw <;> rw [hw] <;> simp [withReth]
  have hmax : (chunk n.mtu bytes k).length ≤ PIB_MAX_PAYLOAD_LEN := by
    have := h.carries.max
    omega
  have hmtu : pmtuOf t.qp.attr.path_mtu = n.mtu := by rw [ht.attr, h.mtu]
  have hdata := receive_send_data cfg now (t := t)
    (p := dataPacket n.mtu w bytes k o) (v := v) (by rw [ht.state]; exact h.ready)
    (by rw [hmtu]; exact hseg) rfl hpsn hseq (by rw [dataPacket, hreth]; rfl) h.ex_lt hsize hmax
    (congrArg (beginSend _) hstart) hvs
  rw [hoff, ht.pd] at hdata
  dsimp only at hdata
  have hfin : ((positionOf (w.setSent k).processing).segment n.mtu
      w.opcode).finit = decide (k + 1 = w.processing.all_packets) := hend
  rw [hfin] at hdata
  generalize beginSend (issueCommEst t.qp) (decide (k = 0)) = q at *
  generalize pibReceiveRcQpIncomingMessage cfg now t.qp.attr.port_num t
    (dataPacket n.mtu w bytes k o) = t' at *
  obtain ⟨hmem, hrest⟩ := hdata
  have hside := recvSide_issueCommEst t.qp
  have hstate : q.state = m.qp.state :=
    hst.trans ((congrArg RecvSide.state hside).trans ht.state)
  have hcq' : q.recv_cq = m.qp.recv_cq :=
    hcq.trans ((congrArg RecvSide.recv_cq hside).trans ht.recv_cq)
  have hplace : q.place = t.qp.place := hpl.trans (congrArg RecvSide.place hside)
  have hmemory : ∀ x, x ∉ listPlaces m.pd v.sge_array → t'.mem x = m.mem x := by
    intro x hx
    rw [hmem, copyData_outside h.backed h.usable _ _ _ _ hx]
    exact ht.memory x hx
  have hnaks : ∀ {q' : Qp}, NoInvalid q q' → NoInvalid m.qp q' := by
    intro q' hno ack hmem hsynd
    refine ht.naks ack ?_ hsynd
    have h := hno ack hmem hsynd
    rwa [hacks, issueCommEst_responder] at h
  rcases hrest with ⟨hp, hpd, q', ⟨ex', hq'⟩, hqp⟩ | ⟨hp, herr, hrecv⟩
  · refine Or.inl ⟨hp, ?_⟩
    have hstands : Stands q q' := by
      rw [hq']
      exact stands_acceptData _ _ _ _ _ _ _ _ _
    have hstate' : t'.qp.state = m.qp.state := by
      rw [hqp]
      exact hstands.1.trans hstate
    by_cases hall : k + 1 = w.processing.all_packets
    · rw [if_pos hall]
      rw [decide_eq_true hall] at hq'
      obtain ⟨⟨wc, solicited, hwc, hid, hok, hlen⟩, hno⟩ := acceptData_close hq'
      refine ⟨hstate', ?_, hmemory, wc, solicited, ?_, hid, hok, ?_⟩
      · rw [hqp]
        exact hnaks hno
      · rw [hqp, ← hcq']
        exact hwc
      · rw [hlen, hoff, hlast hall]
        exact Nat.mod_eq_of_lt (h.carries.max.trans_lt (by decide))
    · rw [if_neg hall]
      rw [decide_eq_false hall] at hq'
      obtain ⟨hoff', hlist, hrecv, hno⟩ := acceptData_open hq'
      have hpl' : q'.place = t.qp.place := hstands.2.trans hplace
      have hattr' : q'.attr = m.qp.attr := (congrArg Place.attr hpl').trans ht.attr
      have hpsn' : q'.responder.psn = u32 (m.qp.responder.psn + k) :=
        (congrArg Place.psn hpl').trans ht.psn
      refine ⟨hstate', ?_, hpd, ?_, ?_, ?_, hmemory, fun hz => absurd hz (Nat.succ_ne_zero k), ?_⟩
      · rw [hqp]
        exact hattr'
      · rw [hqp]
        change u32 (q'.responder.psn + 1) = _
        rw [hpsn']
        simp only [u32]
        omega
      · rw [hqp, ← hcq']
        exact hrecv
      · rw [hqp]
        exact hnaks hno
      · intro _
        rw [hqp]
        refine ⟨hopen (hend.trans (decide_eq_false hall)), ?_, ?_⟩
        · have hle := h.carries.mul_le (by omega : k + 1 < w.processing.all_packets)
          change q'.responder.offset = _
          rw [hoff', hoff]
          have := h.carries.max
          have hsmall : PIB_MAX_PAYLOAD_LEN < 2 ^ 32 := by decide
          refine (Nat.mod_eq_of_lt (by omega)).trans ?_
          omega
        · change q'.responder.recv_wqe.head? = some v
          rw [hlist, hvs]
          rfl
  · refine Or.inr ⟨hp, herr, hmemory, vs, ?_⟩
    rw [hrecv, hcq']

theorem halfway_zero (h : SendSetup n m w bytes v) (pmtu : Nat) : Halfway m m v pmtu 0 where
  state := rfl
  attr := rfl
  pd := rfl
  psn := (Nat.mod_eq_of_lt h.psn_lt).symm
  recv_cq := rfl
  naks := fun _ h _ => h
  memory := fun _ _ => rfl
  first := fun _ => rfl
  filling := fun h => absurd h (Nat.lt_irrefl 0)

/-- The data of the `k`-th packet passes. -/
def PassesAt (n m : Node) (v : RecvWqe) (bytes : List UInt8) (k : Nat) : Prop :=
  let pmtu := n.mtu
  Passes m.pd IB_ACCESS_LOCAL_WRITE v.sge_array (k * pmtu) (chunk pmtu bytes k).length

/-- The packets from the `k`-th on take the message to its end, or to the first
packet that does not pass. -/
theorem send_deliver (h : SendSetup n m w bytes v) (j : Nat) :
    ∀ (k : Nat) (t : Node) (packets : List (Nat × RcPacket)),
    k + j = w.processing.all_packets →
    packets.map Prod.snd = (List.range' k j).filterMap (fun i => (buildRequest n (w.setSent i)).2) →
    (if k = w.processing.all_packets then Finished m t v w.total_length
      else Halfway m t v n.mtu k) →
    let m' := deliver cfg m.qp.attr.port_num t packets
    ((∀ i, k ≤ i → i < w.processing.all_packets → PassesAt n m v bytes i) ∧
        Finished m m' v w.total_length) ∨
      (∃ i < w.processing.all_packets, ¬PassesAt n m v bytes i) ∧ Broken m m' v := by
  induction j with
  | zero =>
    intro k t packets hkj hp ht
    obtain rfl : packets = [] := List.map_eq_nil_iff.mp hp
    rw [if_pos (by omega)] at ht
    exact Or.inl ⟨fun i hki hi => absurd hi (by omega), ht⟩
  | succ j ih =>
    intro k t packets hkj hp ht
    have hk : k < w.processing.all_packets := by omega
    rw [if_neg hk.ne] at ht
    obtain ⟨o, ho, hrecv⟩ := receive_send_packet cfg h hk ht
    obtain ⟨now, rest, rfl, hrest⟩ := next_packet h.carries hk ho hp
    replace hrecv := hrecv now
    rw [ht.attr] at hrecv
    intro m'
    change (_ ∧ Finished m (deliver cfg m.qp.attr.port_num
      (pibReceiveRcQpIncomingMessage cfg now m.qp.attr.port_num t _) rest) v w.total_length) ∨
      _ ∧ Broken m (deliver cfg m.qp.attr.port_num
        (pibReceiveRcQpIncomingMessage cfg now m.qp.attr.port_num t _) rest) v
    rcases hrecv with ⟨hpass, hnext⟩ | ⟨hpass, hbroken⟩
    · rcases ih (k + 1) _ rest (by omega) hrest hnext with ⟨hall, hfin⟩ | hbroken
      · refine Or.inl ⟨?_, hfin⟩
        intro i hki hi
        rcases Nat.eq_or_lt_of_le hki with rfl | hlt
        · exact hpass
        · exact hall i hlt hi
      · exact Or.inr hbroken
    · refine Or.inr ⟨⟨k, hk, hpass⟩, ?_⟩
      rw [deliver_of_err cfg _ rest hbroken.state]
      exact hbroken

/-- All packets pass exactly if the list takes the message. -/
theorem passesAt_iff (h : SendSetup n m w bytes v) :
    (∀ i < w.processing.all_packets, PassesAt n m v bytes i) ↔
      Takes m.pd IB_ACCESS_LOCAL_WRITE v.sge_array w.total_length := by
  have hpos := h.carries.packets_pos
  unfold PassesAt
  dsimp only
  constructor
  · intro hall
    rcases Nat.eq_zero_or_pos w.total_length with hz | hlen
    · -- an empty message has one packet without data
      have h0 := hall 0 hpos
      rw [(chunk_pos h.carries hpos).mpr ⟨hz, rfl⟩, Nat.zero_mul] at h0
      rw [hz]
      exact (passes_iff_takes h.backed h.usable 0).mp h0
    have hlast : w.processing.all_packets - 1 < w.processing.all_packets := by omega
    have hends := (chunk_ends h.carries hlast).2 (by omega)
    have hroom := room_of_passes _ ?_ (hall _ hlast)
    · exact ⟨by omega, Or.inl hlen⟩
    · refine Nat.pos_of_ne_zero fun hz => ?_
      have := (chunk_pos h.carries hlast).mp hz
      omega
  · intro htakes i hi
    rcases Nat.eq_zero_or_pos (chunk n.mtu bytes i).length with hz | hlen
    · obtain ⟨hz', rfl⟩ := (chunk_pos h.carries hi).mp hz
      rw [hz, Nat.zero_mul]
      rw [hz'] at htakes
      exact (passes_iff_takes h.backed h.usable 0).mpr htakes
    · have hends := (chunk_ends h.carries hi).1
      have hroom := htakes.1
      exact passes_of_room h.backed _ h.usable hlen (by omega)

/-! ## What becomes of the element -/

/-- What a message that is longer than the list should do: it is written nowhere
else, the element completes with a length error, the requester is told that the
request was invalid, and the queue pair fails. -/
structure LengthError (m m' : Node) (v : RecvWqe) : Prop where
  state : m'.qp.state = .ERR
  memory : ∀ x, x ∉ listPlaces m.pd v.sge_array → m'.mem x = m.mem x
  completion : ∃ wc solicited rest, m'.qp.recv_cq = m.qp.recv_cq ++ (wc, solicited) :: rest ∧
    wc.wr_id = v.wr_id ∧ wc.status = .LOC_LEN_ERR ∧ ∀ c ∈ rest, c.1.status = .WR_FLUSH_ERR
  nak : ∃ time p, (processOnQpScheduler cfg time { m' with send_buffer := none }).send_buffer = some p ∧
    p.opcode = .ACKNOWLEDGE ∧ p.buffer = aeth PIB_SYND_NAK_CODE_INV_REQ_ERR

/-- A message of this length is treated as the room in the list asks for. -/
def TreatsLength (m m' : Node) (v : RecvWqe) (length : Nat) : Prop :=
  (sgeSum v.sge_array < length → LengthError cfg m m' v) ∧
    (length ≤ sgeSum v.sge_array → Finished m m' v length)

/-- A SEND is treated as its length asks for exactly if the list takes it: one that
is too long never ends in a length error, and an empty one fails at elements that
begin at the ends of their regions. In no case is memory outside of the element
written. -/
theorem send_treated_iff (h : SendSetup n m w bytes v) (packets : List (Nat × RcPacket))
    (hp : packets.map Prod.snd = emitted n w) :
    let m' := deliver cfg m.qp.attr.port_num m packets
    (TreatsLength cfg m m' v w.total_length ↔
        Takes m.pd IB_ACCESS_LOCAL_WRITE v.sge_array w.total_length) ∧
      ∀ x, x ∉ listPlaces m.pd v.sge_array → m'.mem x = m.mem x := by
  intro m'
  have hpos := h.carries.packets_pos
  rw [emitted, List.range_eq_range'] at hp
  have hiff := passesAt_iff h
  rcases send_deliver cfg h _ 0 m packets (by omega) hp
    ((if_neg hpos.ne).mpr (halfway_zero h _)) with
    ⟨hall, hfin⟩ | ⟨⟨i, hi, hnot⟩, hbroken⟩
  · have htakes := hiff.mp fun i hi => hall i (Nat.zero_le i) hi
    refine ⟨⟨fun _ => htakes, fun _ => ⟨?_, fun _ => hfin⟩⟩, hfin.memory⟩
    intro hlong
    have := htakes.1
    omega
  · refine ⟨⟨?_, fun htakes => absurd (hiff.mpr htakes i hi) hnot⟩, hbroken.memory⟩
    rintro ⟨hlong, hfits⟩
    rcases Nat.lt_or_ge (sgeSum v.sge_array) w.total_length with hlt | hge
    · -- the element has completed with a protection error
      obtain ⟨wc, solicited, rest, hcq, -, hlen, -⟩ := (hlong hlt).completion
      obtain ⟨vs, hcq'⟩ := hbroken.completion
      have he := List.append_cancel_left (hcq.symm.trans hcq')
      rw [List.cons.injEq, protErrWc, Prod.mk.injEq] at he
      rw [he.1.1] at hlen
      cases hlen
    · have hstate : QpState.ERR = m.qp.state := hbroken.state.symm.trans (hfits hge).state
      have hready := h.ready
      rw [← hstate] at hready
      cases hready

/-! ## A message that fits and one that does not -/

/-- A receive element of eight bytes inside of a region. -/
def eightBytes : RecvWqe :=
  { wr_id := 3, total_length := 8, sge_array := [{ addr := 0x1001, length := 8, lkey := 0 }] }

/-- A queue pair in RTS to which the element has been posted. -/
def eightBytesNode : Node :=
  Run.run (step {} ibStateTable) (created {} {} none recvPagePd fun _ => 0)
    (bringUp { path_mtu := 1, port_num := 1 } ++
      [(1, .postRecv [{ wr_id := 3, sg_list := [{ addr := 0x1001, length := 8, lkey := 0 }] }])])

/-- A SEND of inline data in one packet. -/
def sendOfBytes (bytes : List UInt8) : SendWqe :=
  { trace_id := 0, opcode := .SEND, send_flags := { INLINE := true }, total_length := bytes.length
    inline_data_buffer := bytes, processing := { all_packets := 1 } }

theorem eightBytes_setup (hlen : bytes.length < 256) :
    SendSetup eightBytesNode eightBytesNode (sendOfBytes bytes) bytes eightBytes where
  isSend := Or.inl rfl
  carries :=
    { length := rfl
      max := by
        change bytes.length ≤ 2 ^ 30
        omega
      packets := by
        have hmtu : eightBytesNode.qp.attr.path_mtu = 1 := by decide
        have hzero : bytes.length / 128 / 2 ^ 1 = 0 := by omega
        change 1 = pibGetNumOfPackets .RC eightBytesNode.qp.attr.path_mtu bytes.length
        rw [hmtu]
        unfold pibGetNumOfPackets
        dsimp only [packetMtu]
        rw [hzero]
        rfl
      inline := fun _ => (List.take_length).symm
      sges := nofun }
  ex_lt := Nat.two_pow_pos 32
  mtu := rfl
  ready := by decide
  psn_lt := by decide
  psn := by
    change eightBytesNode.qp.responder.psn % 2 ^ 24 = 0 % 2 ^ 24
    decide
  idle := by decide
  element := by decide
  backed := recvPagePd_backed
  usable := recvPage_usable rfl (by decide)

/-- Eight bytes fit, and the element completes with success. -/
theorem send_treated_eight :
    let w := sendOfBytes [1, 2, 3, 4, 5, 6, 7, 8]
    let m' := deliver {} 1 eightBytesNode ((emitted eightBytesNode w).map fun p => (2, p))
    TreatsLength {} eightBytesNode m' eightBytes 8 ∧
      m'.qp.recv_cq.map (fun c => (c.1.wr_id, c.1.status)) = [(3, .SUCCESS)] := by
  intro w m'
  have hp : ((emitted eightBytesNode w).map fun p => (2, p)).map Prod.snd = emitted eightBytesNode w := by
    rw [List.map_map]
    exact List.map_id _
  refine ⟨(send_treated_iff {} (eightBytes_setup (by decide)) _ hp).1.mpr ?_, by decide⟩
  exact ⟨by decide, Or.inl (by decide)⟩

/-- Nine bytes do not fit: the element completes with a protection error, and no
packet goes back to the requester. -/
theorem send_treated_nine :
    let w := sendOfBytes [1, 2, 3, 4, 5, 6, 7, 8, 9]
    let m' := deliver {} 1 eightBytesNode ((emitted eightBytesNode w).map fun p => (2, p))
    SendSetup eightBytesNode eightBytesNode w [1, 2, 3, 4, 5, 6, 7, 8, 9] eightBytes ∧
      m'.qp.state = .ERR ∧
      m'.qp.recv_cq.map (fun c => (c.1.wr_id, c.1.status)) = [(3, .LOC_PROT_ERR)] ∧
      m'.qp.responder.acks = [] ∧ ¬ TreatsLength {} eightBytesNode m' eightBytes 9 := by
  intro w m'
  have hcq : m'.qp.recv_cq.map (fun c => (c.1.wr_id, c.1.status)) = [(3, .LOC_PROT_ERR)] := by decide
  have hcq₀ : eightBytesNode.qp.recv_cq = [] := by decide
  refine ⟨eightBytes_setup (by decide), by decide, hcq, by decide, ?_⟩
  rintro ⟨hlong, -⟩
  obtain ⟨wc, solicited, rest, he, -, hst, -⟩ := (hlong (by decide)).completion
  rw [he, hcq₀, List.nil_append, List.map_cons, List.cons.injEq, Prod.mk.injEq] at hcq
  rw [hst] at hcq
  cases hcq.1.2

end pib
