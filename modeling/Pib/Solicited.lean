-- Solicited events from end to end: the flag of the work request, the byte in
-- the packet that holds it beside the pad count, what the receive functions
-- hand to the completion queue, and when the completion handler is called.
import Pib.Cq
import Pib.ReceivePath
import Pib.RecvCompletions
import Pib.WireFormat

namespace pib

open Bytes

variable (now : Nat) (q : Qp) {q' : Qp} {j armed : Journal} {flags : NotifyFlags} {w : SendWqe}
    {cfg : Config} {ports : Nat → Port} {buf : Mem} {o : Outgoing}

/-! ## What the receive functions hand on -/

/-- The receive completions that `q'` has and `q` has not: the successful ones
among them are inserted with this flag. -/
def Tells (flag : Bool) (q q' : Qp) : Prop :=
  ∃ new, q'.recv_cq = q.recv_cq ++ new ∧ ∀ e ∈ new, e.1.status = .SUCCESS → e.2 = flag

namespace Tells

variable {flag : Bool}

theorem same {q : Qp} (h : q'.recv_cq = q.recv_cq) : Tells flag q q' :=
  ⟨[], by simp [h], by simp⟩

theorem trans {q q'' : Qp} (h : Tells flag q q') (h' : Tells flag q' q'') : Tells flag q q'' := by
  obtain ⟨new, heq, hnew⟩ := h
  obtain ⟨new', heq', hnew'⟩ := h'
  refine ⟨new ++ new', by rw [heq', heq, List.append_assoc], ?_⟩
  intro e he
  rcases List.mem_append.mp he with he | he
  · exact hnew e he
  · exact hnew' e he

/-- One more completion. -/
theorem one {q : Qp} (wc : Wc) (solicited : Bool) (h : q'.recv_cq = q.recv_cq ++ [(wc, solicited)])
    (hflag : wc.status = .SUCCESS → solicited = flag) : Tells flag q q' := by
  refine ⟨_, h, ?_⟩
  intro e he hs
  rw [List.mem_singleton.mp he] at hs ⊢
  exact hflag hs

/-- Elements that are flushed are not completed with success. -/
theorem fail {q : Qp} (h : q'.recvSide = q.recvSide.fail) : Tells flag q q' := by
  refine ⟨q.responder.recv_wqe.map flushRecvWc, congrArg RecvSide.recv_cq h, ?_⟩
  intro e he hs
  obtain ⟨w, -, rfl⟩ := List.mem_map.mp he
  cases hs

theorem spares {q : Qp} (h : Spares q q') : Tells flag q q' := by
  rcases h with h | h
  · exact same (congrArg RecvSide.recv_cq h)
  · exact fail h

theorem failQp : Tells flag q (failQp now q) :=
  fail (by rw [← strip_respSide, respSide_failQp, RecvSide.strip_strip, RecvSide.strip_fail]; rfl)

theorem pushAcknowledge (psn syndrome : Nat) : Tells flag q (pushAcknowledge q psn syndrome) :=
  same (congrArg RecvSide.recv_cq (recvSide_pushAcknowledge q psn syndrome))

end Tells

theorem recv_cq_freeRecvWqe : q.freeRecvWqe.recv_cq = q.recv_cq := by
  unfold Qp.freeRecvWqe
  split <;> rfl

section Requests

variable {flag : Bool}

theorem tells_abortActiveRwqe : Tells flag q (abortActiveRwqe q) := by
  unfold abortActiveRwqe
  split
  · exact .same rfl
  rename_i w ws hw
  split
  · exact .same rfl
  · refine .one { wr_id := w.wr_id, status := .GENERAL_ERR, opcode := .RECV } true ?_ (by simp)
    exact recv_cq_freeRecvWqe _

theorem tells_refuse (psn syndrome : Nat) (event : EventType) :
    Tells flag q (refuse now q psn syndrome event) := by
  have hev : Tells flag (pushAcknowledge q psn syndrome)
      ((pushAcknowledge q psn syndrome).insertEvent event) := .same rfl
  exact (Tells.pushAcknowledge q psn syndrome).trans
    (hev.trans ((tells_abortActiveRwqe _).trans (Tells.failQp now _)))

theorem tells_failRecv (w : RecvWqe) {status : WcStatus} (hs : status ≠ .SUCCESS)
    (opcode : WcOpcode) : Tells flag q (failRecv q w status opcode) :=
  .one { wr_id := w.wr_id, status, opcode } true (recv_cq_freeRecvWqe _) (fun h => absurd h hs)

theorem tells_takeFromSrq : Tells flag q (takeFromSrq q) := by
  unfold takeFromSrq
  split
  · exact .same rfl
  split
  · exact .same rfl
  · split <;> exact .same rfl

theorem recv_cq_storeSlot (n : Node) (slot : Slot) :
    (storeSlot n slot).qp.recv_cq = n.qp.recv_cq := by
  unfold storeSlot
  dsimp only
  split <;> rfl

/-- A message that ends is reported with the pad count in the place of the
solicited bit. -/
theorem tells_reqStep {now : Nat} {p : RcPacket} {n n' : Node} (h : ReqStep False True now p n n') :
    Tells (decide (p.padcnt ≠ 0)) n.qp n'.qp := by
  cases h with
  | commEst => exact .same (congrArg RecvSide.recv_cq (recvSide_issueCommEst n.qp))
  | fromSrq => exact tells_takeFromSrq n.qp
  | ack psn syndrome => exact .pushAcknowledge n.qp psn syndrome
  | abort => exact tells_abortActiveRwqe n.qp
  | failRecv opcode _ hs => exact tells_failRecv n.qp _ hs opcode
  | fail => exact .failQp now n.qp
  | complete s ex opcode => exact .one _ _ (recv_cq_freeRecvWqe _) (fun _ => rfl)
  | store slot => exact .same (recv_cq_storeSlot n slot)
  | refuseRead psn expected_psn syndrome =>
    have hq : Tells (decide (p.padcnt ≠ 0)) n.qp
      (removeOverlappedRdmaReadAcknowledge n.qp psn expected_psn) := .same rfl
    exact hq.trans (tells_refuse now _ psn _ _)
  | _ => exact .same rfl

theorem tells_receiveRequest (cfg : Config) (now : Nat) (n : Node) (p : RcPacket) :
    Tells (decide (p.padcnt ≠ 0)) n.qp (receiveRequest cfg now n p).qp :=
  receiveRequest_of_steps (R := fun n n' => Tells (decide (p.padcnt ≠ 0)) n.qp n'.qp)
    (fun _ => .same rfl) Tells.trans cfg now p tells_reqStep n

end Requests

/-- An RC packet is reported with its pad count as the flag. -/
theorem tells_receiveRc (cfg : Config) (now port_num : Nat) (n : Node) (p : RcPacket) :
    Tells (decide (p.padcnt ≠ 0)) n.qp
      (pibReceiveRcQpIncomingMessage cfg now port_num n p).qp := by
  unfold pibReceiveRcQpIncomingMessage
  split
  · exact .same rfl
  split
  · exact .same rfl
  split
  · exact .same rfl
  · exact .spares (sparesAll_receiveResponse cfg now n p).spares
  · exact tells_receiveRequest cfg now n p

theorem recv_cq_takeRecvWqe {q : Qp} {w : RecvWqe} (h : takeRecvWqe q = some (w, q')) :
    q'.recv_cq = q.recv_cq := by
  obtain ⟨_, _, rfl⟩ := takeRecvWqe_qp h
  rfl

theorem tells_finishUdReceive (w : RecvWqe) (wc : Wc) (flag : Bool)
    (status : WcStatus) : Tells flag q (finishUdReceive now q w wc flag status) := by
  unfold finishUdReceive
  split
  · exact .one wc flag (recv_cq_freeRecvWqe _) (fun _ => rfl)
  split
  · split
    · exact .same (recv_cq_freeRecvWqe _)
    · exact .same (recv_cq_freeRecvWqe _)
  obtain ⟨q₁, hq⟩ : ∃ q₁ : Qp, { q with
    send_cq := q.send_cq ++ [{ wr_id := w.wr_id, status, opcode := .RECV }] } = q₁ := ⟨_, rfl⟩
  have hsame : Tells flag q q₁ := .same (by rw [← hq])
  have hfail : pibUtilFlushQp now false { q with
      state := .ERR
      send_cq := q.send_cq ++ [{ wr_id := w.wr_id, status, opcode := .RECV }] } =
      failQp now q₁ := by
    rw [← hq]
    rfl
  dsimp only
  rw [hfail]
  exact (hsame.trans (Tells.failQp now q₁)).trans (.same (recv_cq_freeRecvWqe _))

/-- So is a datagram. -/
theorem tells_receiveUd (port_num : Nat) (n : UdNode) (p : UdPacket) :
    Tells (decide (p.padcnt ≠ 0)) n.qp
      (pibReceiveUdQpIncomingMessage now port_num n p).qp := by
  unfold pibReceiveUdQpIncomingMessage
  split
  · exact .same rfl
  split
  · exact .same rfl
  rename_i w q htake
  have hq : Tells (decide (p.padcnt ≠ 0)) n.qp q := .same (recv_cq_takeRecvWqe htake)
  split
  · exact hq.trans (.same (recv_cq_freeRecvWqe q))
  · exact hq.trans (tells_finishUdReceive now q w _ _ _)

theorem AnyQp.tells_receive (cfg : Config) (now port_num : Nat) (x : Incoming) (r : AnyQp) :
    Tells (decide (pibPacketBthGetPadcnt x.bth ≠ 0)) r.qp (r.receive cfg now port_num x).qp := by
  have hres : ∀ q, Tells (decide (pibPacketBthGetPadcnt x.bth ≠ 0)) q
      (pibUtilRescheduleQp now q) := fun q => .same
    (congrArg RecvSide.recv_cq (respSide_rescheduleQp now q))
  cases r with
  | rc n =>
    have hr := tells_receiveRc cfg now port_num { n with send_buffer := none } (rcPacket x)
    exact hr.trans (hres _)
  | ud n =>
    have hr := tells_receiveUd now port_num { n with send_buffer := none } (udPacket x)
    exact hr.trans (hres _)

/-! ## Calling the completion handler -/

/-- The call arms the completion handler. -/
def CqOp.arms : CqOp → Bool
  | .reqNotify _ => true
  | _ => false

namespace Journal

/-- The handler was told at most once between the two states, and not armed. -/
def Waits (j j' : Journal) : Prop :=
  j'.cq.notify_flag = j.cq.notify_flag ∧
    ((j'.cq.has_notified = j.cq.has_notified ∧ j'.cq.calls = j.cq.calls) ∨
      (j.cq.has_notified = false ∧ j'.cq.has_notified = true ∧ j'.cq.calls = j.cq.calls + 1))

theorem Waits.trans {j' j'' : Journal} (h : Waits j j') (h' : Waits j' j'') : Waits j j'' := by
  obtain ⟨hflag, h⟩ := h
  obtain ⟨hflag', h'⟩ := h'
  refine ⟨hflag'.trans hflag, ?_⟩
  rcases h with ⟨hn, hc⟩ | ⟨hn, ht, hc⟩
  · rw [hn, hc] at h'
    exact h'
  rcases h' with ⟨hn', hc'⟩ | ⟨hn', -, -⟩
  · exact Or.inr ⟨hn, hn'.trans ht, by rw [hc', hc]⟩
  · rw [ht] at hn'
    cases hn'

theorem waits_tellHandler (cq : Cq) (solicited : Bool) :
    (tellHandler cq solicited).notify_flag = cq.notify_flag ∧
      (((tellHandler cq solicited).has_notified = cq.has_notified ∧
        (tellHandler cq solicited).calls = cq.calls) ∨
      (cq.has_notified = false ∧ (tellHandler cq solicited).has_notified = true ∧
        (tellHandler cq solicited).calls = cq.calls + 1)) := by
  unfold tellHandler
  split
  · rename_i h
    exact ⟨rfl, Or.inr ⟨h.2, rfl, rfl⟩⟩
  · exact ⟨rfl, Or.inl ⟨rfl, rfl⟩⟩

theorem waits_step (j : Journal) (op : CqOp) (h : op.arms = false) : Waits j (j.step op) := by
  have hsame : Waits j j := ⟨rfl, Or.inl ⟨rfl, rfl⟩⟩
  cases op with
  | insert qp wc solicited =>
    dsimp only [step, insertWc]
    by_cases hok : j.cq.state ≠ .OK
    · rw [if_pos hok]
      exact hsame
    rw [if_neg hok]
    rcases j.cq.free_cqe_head with _ | ⟨f, free⟩
    · exact hsame
    exact waits_tellHandler { j.cq with
      free_cqe_head := free
      nr_cqe := j.cq.nr_cqe + 1
      cqe_head := j.cq.cqe_head ++ [entryOf qp wc] } solicited
  | poll num_entries =>
    dsimp only [step]
    by_cases hok : j.cq.state = .OK
    · rw [pibPollCq_of_ok hok]
      exact hsame
    · rw [pibPollCq_of_err hok]
      exact hsame
  | reqNotify flags => cases h
  | remove qp =>
    dsimp only [step]
    rw [pibUtilRemoveCq_eq]
    exact hsame
  | overflowHandler =>
    dsimp only [step]
    split
    · exact hsame
    · exact hsame

theorem waits_run (j : Journal) (ops : List CqOp) (h : ∀ op ∈ ops, op.arms = false) :
    Waits j (Run.run step j ops) := by
  induction ops generalizing j with
  | nil => exact ⟨rfl, Or.inl ⟨rfl, rfl⟩⟩
  | cons op ops ih =>
    refine (waits_step j op (h op List.mem_cons_self)).trans (ih _ ?_)
    intro op' hop
    exact h op' (List.mem_cons_of_mem op hop)

/-- A queue that is in order was in order all the time. -/
theorem ok_of_run {ops : List CqOp} (h : (Run.run step j ops).cq.state = .OK) :
    j.cq.state = .OK := by
  by_contra hne
  have herr : j.cq.state = .ERR := by
    cases hs : j.cq.state with
    | OK => exact absurd hs hne
    | ERR => rfl
  have hshut : Shut j (Run.run step j ops) := Run.always (shut_step j) ⟨herr, rfl, rfl, rfl⟩ ops
  rw [hshut.state] at h
  cases h

/-- The completion handler is called for the completion. -/
def Called (j : Journal) (qp : QpRef) (wc : Wc) (solicited : Bool) : Prop :=
  (j.step (.insert qp wc solicited)).cq.calls = j.cq.calls + 1

theorem called_iff (hok : j.cq.state = .OK) (hfree : j.cq.free_cqe_head ≠ [])
    (qp : QpRef) (wc : Wc) (solicited : Bool) : j.Called qp wc solicited ↔
      (j.cq.notify_flag = .NEXT_COMP ∨ (j.cq.notify_flag = .SOLICITED ∧ solicited = true)) ∧
        j.cq.has_notified = false := by
  unfold Called
  dsimp only [step, insertWc]
  rw [if_neg (by simp [hok])]
  rcases hf : j.cq.free_cqe_head with _ | ⟨f, free⟩
  · exact absurd hf hfree
  dsimp only
  unfold tellHandler
  dsimp only
  split
  · rename_i h
    exact ⟨fun _ => h, fun _ => rfl⟩
  rename_i h
  constructor
  · intro heq
    exact absurd heq (Nat.ne_of_lt (Nat.lt_succ_self _))
  · intro hnew
    exact absurd hnew h

/-- The queue was armed with `flags` in the state `armed`, it is now in the state
`j`, and the handler has been neither armed again nor called since. -/
structure Armed (flags : NotifyFlags) (armed j : Journal) : Prop where
  path : ∃ ops, (∀ op ∈ ops, op.arms = false) ∧ j = Run.run step (armed.step (.reqNotify flags)) ops
  untold : j.cq.calls = armed.cq.calls

theorem Armed.waits (h : Armed flags armed j)
    (hok : j.cq.state = .OK) : Waits (armed.step (.reqNotify flags)) j ∧
      armed.cq.state = .OK ∧ j.cq.has_notified = false := by
  obtain ⟨⟨ops, hops, rfl⟩, huntold⟩ := h
  have hwaits := waits_run (armed.step (.reqNotify flags)) ops hops
  have harmed : armed.cq.state = .OK := by
    apply @ok_of_run armed (CqOp.reqNotify flags :: ops)
    rw [Run.run_cons]
    exact hok
  refine ⟨hwaits, harmed, ?_⟩
  have hcalls : (armed.step (.reqNotify flags)).cq.calls = armed.cq.calls := by
    simp [step, pibReqNotifyCq, harmed]
  have hnot : (armed.step (.reqNotify flags)).cq.has_notified = false := by
    simp [step, pibReqNotifyCq, harmed]
  obtain ⟨-, ⟨hn, -⟩ | ⟨-, -, hc⟩⟩ := hwaits
  · rw [hn, hnot]
  · omega

end Journal

/-! ## From the work request to the handler -/

/-- The last packet of a message goes out: a SEND or an RDMA WRITE with immediate
data on an RC queue pair, or a datagram. The packets are counted as
`process_new_send_wr` does it. -/
inductive EndsMessage : Outgoing → SendWqe → Prop
  | rc {n : Node} {w : SendWqe}
      (opcode : w.opcode = .SEND ∨ w.opcode = .SEND_WITH_IMM ∨ w.opcode = .SEND_WITH_INV ∨
        w.opcode = .RDMA_WRITE_WITH_IMM)
      (path_mtu : n.qp.attr.path_mtu ≤ 5)
      (total_length : w.total_length ≤ PIB_MAX_PAYLOAD_LEN)
      (all_packets : w.processing.all_packets =
        pibGetNumOfPackets .RC n.qp.attr.path_mtu w.total_length)
      (last : w.processing.sent_packets + 1 = w.processing.all_packets) :
      EndsMessage (.request n w) w
  | ud {n : UdNode} {qp_num : Nat} {w : SendWqe} (qp_type : n.qp.qp_type ≠ .RC)
      (all_packets : w.processing.all_packets =
        pibGetNumOfPackets n.qp.qp_type n.qp.attr.path_mtu w.total_length) :
      EndsMessage (.datagram n qp_num w) w

theorem pmtuOf_mod (path_mtu : Nat) : pmtuOf path_mtu % 4 = 0 := by
  unfold pmtuOf
  omega

theorem pmtuOf_le {path_mtu : Nat} (h : path_mtu ≤ 5) : pmtuOf path_mtu ≤ 4096 := by
  unfold pmtuOf
  have hpow : 2 ^ path_mtu ≤ 2 ^ 5 := Nat.pow_le_pow_right (by omega) h
  omega

/-- The rest that the last packet carries has the length of the message, up to
whole words. -/
theorem lastPacket_length {q : Qp} (hmtu : q.attr.path_mtu ≤ 5)
    (hlen : w.total_length ≤ PIB_MAX_PAYLOAD_LEN)
    (hall : w.processing.all_packets = pibGetNumOfPackets .RC q.attr.path_mtu w.total_length)
    (hlast : w.processing.sent_packets + 1 = w.processing.all_packets) :
    payloadSize q w ≤ 4096 ∧ payloadSize q w % 4 = w.total_length % 4 := by
  have hsent : w.processing.sent_packets < w.processing.all_packets := by omega
  have hle := mul_pmtuOf_le (hall ▸ hsent)
  have hge := le_mul_pmtuOf q.attr.path_mtu w.total_length
  rw [← hall, ← hlast, Nat.add_mul, Nat.one_mul] at hge
  have hpmtu := pmtuOf_le hmtu
  have hmod : w.processing.sent_packets * pmtuOf q.attr.path_mtu % 4 = 0 := by
    rw [Nat.mul_mod, pmtuOf_mod, Nat.mul_zero, Nat.zero_mod]
  rw [payloadSize_eq hlen hall hsent, if_pos hlast]
  omega

/-- A datagram is one packet of at most 4096 bytes. -/
theorem datagram_length {qp_type : QpType} (htype : qp_type ≠ .RC) {path_mtu length : Nat}
    (h : pibGetNumOfPackets qp_type path_mtu length = 1) : length ≤ 4096 := by
  have hmtu : packetMtu qp_type path_mtu ≤ 5 := by
    cases qp_type with
    | RC => exact absurd rfl htype
    | UD => exact le_refl 5
    | GSI | SMI => exact (by omega : 1 ≤ 5)
  have hone : pibGetNumOfPackets .RC (packetMtu qp_type path_mtu) length = 1 := h
  have hge := le_mul_pmtuOf (packetMtu qp_type path_mtu) length
  have hpmtu := pmtuOf_le hmtu
  rw [hone, Nat.one_mul] at hge
  omega

theorem length_writeReth_mod (w : SendWqe) : (writeReth w).length % 4 = 0 := by
  unfold writeReth
  split <;> simp [Reth.encode]

theorem length_lastWord_mod (w : SendWqe) : (lastWord w).length % 4 = 0 := by
  unfold lastWord
  split <;> simp

/-- What the last packet carries besides its headers. -/
theorem EndsMessage.lengths {buf' : Mem} (h : EndsMessage o w) (hc : o.compose cfg ports buf = some buf') :
    o.payloadLength ≤ 4096 ∧
      (o.extension.length + o.payloadLength) % 4 = w.total_length % 4 := by
  cases h with
  | @rc n w opcode path_mtu total_length all_packets last =>
    have hread : w.opcode ≠ .RDMA_READ := by rcases opcode with h | h | h | h <;> simp [h]
    have hcas : w.opcode ≠ .ATOMIC_CMP_AND_SWP := by rcases opcode with h | h | h | h <;> simp [h]
    have hadd : w.opcode ≠ .ATOMIC_FETCH_AND_ADD := by
      rcases opcode with h | h | h | h <;> simp [h]
    obtain ⟨hle, hmod⟩ := lastPacket_length path_mtu total_length all_packets last
    have hreth := length_writeReth_mod w
    have hword := length_lastWord_mod w
    have hext : (Outgoing.request n w).extension.length =
        (writeReth w).length + (lastWord w).length := by
      rw [Outgoing.extension, Outgoing.requestHeaders_data hread hcas hadd, List.length_append]
    have hpay : (Outgoing.request n w).payloadLength = payloadSize n.qp w := by
      rw [Outgoing.payloadLength, Outgoing.requestLength_data hread hcas hadd]
    rw [hext, hpay]
    omega
  | @ud n qp_num w qp_type all_packets =>
    have hone : w.processing.all_packets = 1 := by
      by_contra hne
      simp only [Outgoing.compose, sentDatagram, composeUd] at hc
      split at hc
      · simp [readyToSend] at hc
      · rw [if_pos hne] at hc
        simp [readyToSend] at hc
    have hle := datagram_length qp_type (all_packets ▸ hone)
    have hword : (udWord w).length % 4 = 0 := by
      unfold udWord
      split <;> simp
    refine ⟨hle, ?_⟩
    simp only [Outgoing.extension, Outgoing.payloadLength, List.length_append, length_deth]
    omega

/-- The packet that goes out says how many bytes are missing to whole words. -/
theorem padcnt_of_composed {buf' : Mem} (h : EndsMessage o w) (ht : o.Typed ports)
    (hc : o.compose cfg ports buf = some buf') (port_guid : Nat) :
    ∃ message x, processSendmsg port_guid buf' = some message ∧
      incomingMessage message = some x ∧
      pibPacketBthGetPadcnt x.bth = padOf w.total_length := by
  obtain ⟨hlen, hmod⟩ := h.lengths hc
  obtain ⟨buffer, x, hp, hframed, hwf, -, data, hbody, hdata⟩ :=
    Outgoing.composed_wellFormed ht hlen hc
  obtain ⟨y, solicited, hs⟩ := Outgoing.packet_sends ht hp
  obtain ⟨pad, hpad, hmsg⟩ := processSendmsg_eq hframed hwf port_guid
  refine ⟨_, _, hmsg, WirePacket.incoming hwf hpad (length_be 8 port_guid), ?_⟩
  have hflags : x.bth.se_m_padcnt_tver = padFlags (padOf y.body.length) solicited := by
    rw [hs.finish]
    rfl
  have hybody : y.body = x.body := by
    rw [hs.finish]
    rfl
  show x.bth.se_m_padcnt_tver.toNat / 2 ^ 4 % 4 = _
  rw [hflags, padFlags_toNat (padOf_lt _), hybody, hbody, List.length_append, hdata]
  unfold padOf
  rw [hmod]

/-- A packet goes through the send buffer and over the network to a queue pair. -/
def handOver (cfg : Config) (ports : Nat → Port) (port_guid : Nat) (buf : Mem) (o : Outgoing)
    (now port_num : Nat) (receiver : AnyQp) : Option AnyQp := do
  let buf' ← o.compose cfg ports buf
  let message ← processSendmsg port_guid buf'
  let x ← incomingMessage message
  return receiver.receive cfg now port_num x

/-- The completion handler hears of a completion as it should: with the solicited
flag of the sender when it was armed for solicited events, in any case when it
was armed for the next completion, and not twice for one arming. -/
structure Heeds (flags : NotifyFlags) (wanted : Bool) (armed j : Journal) (qp : QpRef) (wc : Wc)
    (solicited : Bool) : Prop where
  told : flags.SOLICITED = true → (j.Called qp wc solicited ↔ wanted = true)
  next_comp : flags.SOLICITED = false → flags.NEXT_COMP = true → j.Called qp wc solicited
  once : ∀ later : List CqOp, (∀ op ∈ later, op.arms = false) →
    (Run.run Journal.step (j.step (.insert qp wc solicited)) later).cq.calls ≤ armed.cq.calls + 1

/-- What arrives with a successful receive completion is the pad count of the
message. -/
theorem deliver_flag {port_guid : Nat} {now port_num : Nat} {receiver receiver' : AnyQp} {wc : Wc}
    {solicited : Bool} (hend : EndsMessage o w) (ht : o.Typed ports)
    (hdel : handOver cfg ports port_guid buf o now port_num receiver = some receiver')
    (hnew : receiver'.qp.recv_cq = receiver.qp.recv_cq ++ [(wc, solicited)])
    (hok : wc.status = .SUCCESS) : solicited = decide (w.total_length % 4 ≠ 0) := by
  unfold handOver at hdel
  rcases hc : o.compose cfg ports buf with _ | buf'
  · simp [hc] at hdel
  obtain ⟨message, x, hmsg, hx, hpad⟩ := padcnt_of_composed hend ht hc port_guid
  simp only [hc, hmsg, hx, Option.bind_eq_bind, Option.bind_some, Option.pure_def,
    Option.some.injEq] at hdel
  obtain ⟨new, heq, hflag⟩ := AnyQp.tells_receive cfg now port_num x receiver
  rw [hdel, hnew] at heq
  have hnew' : [(wc, solicited)] = new := List.append_cancel_left heq
  have hs := hflag (wc, solicited) (by rw [← hnew']; exact List.mem_singleton_self _) hok
  have hzero : padOf w.total_length = 0 ↔ w.total_length % 4 = 0 := by
    unfold padOf
    omega
  rw [hpad] at hs
  simpa [hzero] using hs

namespace Journal

theorem Armed.flag (h : Armed flags armed j)
    (hok : j.cq.state = .OK) : j.cq.notify_flag = if flags.SOLICITED then .SOLICITED
      else if flags.NEXT_COMP then .NEXT_COMP else armed.cq.notify_flag := by
  obtain ⟨⟨hflag, -⟩, harmed, -⟩ := h.waits hok
  rw [hflag]
  simp [step, pibReqNotifyCq, harmed]

/-- The handler is told once at most before it is armed again. -/
theorem Armed.once (h : Armed flags armed j)
    (ops : List CqOp) (hops : ∀ op ∈ ops, op.arms = false) :
    (Run.run step j ops).cq.calls ≤ armed.cq.calls + 1 := by
  have huntold := h.untold
  obtain ⟨-, ⟨-, hc⟩ | ⟨-, -, hc⟩⟩ := waits_run j ops hops
  · omega
  · omega

/-- Over every run the handler is called at most once for each arming, apart from a call
that was due before. -/
theorem calls_le_armings (j : Journal) (ops : List CqOp) :
    (Run.run step j ops).cq.calls + j.cq.has_notified.toNat ≤
      j.cq.calls + ops.countP CqOp.arms + (Run.run step j ops).cq.has_notified.toNat := by
  induction ops generalizing j with
  | nil => exact Nat.le_refl _
  | cons op ops ih =>
    have hrest := ih (j.step op)
    rw [List.countP_cons, Run.run_cons]
    by_cases harms : op.arms = true
    · obtain ⟨flags, rfl⟩ : ∃ flags, op = .reqNotify flags := by
        cases op <;> first | exact ⟨_, rfl⟩ | cases harms
      have hle := j.cq.has_notified.toNat_le
      have hcalls : (j.step (.reqNotify flags)).cq.calls = j.cq.calls := by
        simp only [step, pibReqNotifyCq]
        split <;> rfl
      rw [hcalls] at hrest
      rw [if_pos harms]
      omega
    · obtain ⟨-, ⟨hn, hc⟩ | ⟨hn, ht, hc⟩⟩ := waits_step j op (Bool.eq_false_of_not_eq_true harms)
      · rw [hn, hc] at hrest
        rw [if_neg harms]
        exact hrest
      · rw [ht, hc, Bool.toNat_true] at hrest
        rw [if_neg harms, hn, Bool.toNat_false]
        omega

end Journal

/-- The handler hears of a message as it should exactly when it was not armed for
solicited events, or the length of the message is a multiple of four just when
the event is not solicited. -/
theorem solicited_event_iff {cfg : Config} {ports : Nat → Port} {port_guid : Nat} {buf : Mem}
    {o : Outgoing} {w : SendWqe} {now port_num : Nat} {receiver receiver' : AnyQp} {wc : Wc}
    {solicited : Bool} (hend : EndsMessage o w) (ht : o.Typed ports)
    (hdel : handOver cfg ports port_guid buf o now port_num receiver = some receiver')
    (hnew : receiver'.qp.recv_cq = receiver.qp.recv_cq ++ [(wc, solicited)])
    (hok : wc.status = .SUCCESS) {flags : NotifyFlags} {armed j : Journal}
    (harmed : Journal.Armed flags armed j) (hstate : j.cq.state = .OK)
    (hroom : j.cq.free_cqe_head ≠ []) (qp : QpRef) :
    Heeds flags w.send_flags.SOLICITED armed j qp wc solicited ↔
      (flags.SOLICITED = true → (w.total_length % 4 ≠ 0 ↔ w.send_flags.SOLICITED = true)) := by
  have hflag := deliver_flag hend ht hdel hnew hok
  have hnotified := (harmed.waits hstate).2.2
  have hcq := harmed.flag hstate
  have hcalled := Journal.called_iff hstate hroom qp wc solicited
  have hsol : flags.SOLICITED = true → (j.Called qp wc solicited ↔ w.total_length % 4 ≠ 0) := by
    intro hs
    rw [hcalled, hcq, hnotified, hflag]
    simp [hs]
  constructor
  · intro hheeds hs
    rw [← hsol hs]
    exact hheeds.told hs
  · intro hcond
    constructor
    case told =>
      intro hs
      rw [hsol hs]
      exact hcond hs
    case next_comp =>
      intro hs hnext
      rw [hcalled, hcq, hnotified]
      simp [hs, hnext]
    case once =>
      intro later hlater
      have honce := harmed.once (.insert qp wc solicited :: later) (by
        intro op hop
        rcases List.mem_cons.mp hop with rfl | hop
        · rfl
        · exact hlater op hop)
      exact honce

/-! ## Two messages -/

/-- Any address can be written through the key 0. -/
def anywherePd : Pd :=
  { nr_mr := 1
    mr_table := fun _ => some
      { mr_num := 1, lkey := 0, rkey := 0, state := .VALID, is_dma := true, start := 0
        length := 2 ^ 64 - 1, access_flags := IB_ACCESS_LOCAL_WRITE
        umem := { page_shift := 12, offset := 0, pages := [] } } }

/-- The sender of an inline message. -/
def inlineSender : Node :=
  { qp := { state := .RTS, attr := { path_mtu := 1, port_num := 1, dest_qp_num := 5 } }
    pd := anywherePd, mem := fun _ => 0 }

def inlineWqe (data : List UInt8) (SOLICITED : Bool) : SendWqe :=
  { trace_id := 1, opcode := .SEND, total_length := data.length, inline_data_buffer := data
    send_flags := { INLINE := true, SOLICITED }
    processing := { all_packets := 1 } }

/-- A responder with one receive element. -/
def armedReceiver : AnyQp :=
  .rc
    { qp :=
        { state := .RTS, attr := { path_mtu := 1, port_num := 1 }
          responder :=
            { recv_wqe := [{ wr_id := 9, total_length := 16, sge_array := [⟨0x8000, 16, 0⟩] }]
              nr_recv_wqe := 1 } }
      pd := anywherePd, mem := fun _ => 0 }

theorem inlineSender_typed (w : SendWqe) : (Outgoing.request inlineSender w).Typed (fun _ => {}) :=
  ⟨fun _ => by decide, fun _ _ => Nat.two_pow_pos 16, by show 5 < 2 ^ 32; decide,
    Nat.two_pow_pos 16⟩

/-- A queue of two entries that has just been armed for solicited events. -/
def freshCq : Journal :=
  let blank : Cqe := { wc := { wr_id := 0, status := .SUCCESS, opcode := .SEND }, qp := 0 }
  { cq := { cqe := 2, free_cqe_head := [blank, blank] } }

theorem freshCq_armed : Journal.Armed { SOLICITED := true } freshCq
    (freshCq.step (.reqNotify { SOLICITED := true })) :=
  ⟨⟨[], by simp, rfl⟩, rfl⟩

/-- A solicited message of one byte calls the handler. -/
theorem solicited_event_one : ∃ receiver' wc solicited,
    handOver {} (fun _ => {}) 0 (fun _ => 0) (.request inlineSender (inlineWqe [7] true)) 0 1
      armedReceiver = some receiver' ∧
    receiver'.qp.recv_cq = [(wc, solicited)] ∧ wc.status = .SUCCESS ∧
    Heeds { SOLICITED := true } true freshCq (freshCq.step (.reqNotify { SOLICITED := true }))
      { qp := 5 } wc solicited := by
  have hrun : (handOver {} (fun _ => {}) 0 (fun _ => 0)
      (.request inlineSender (inlineWqe [7] true)) 0 1 armedReceiver).map (fun r => r.qp.recv_cq) =
      some [({ wr_id := 9, status := .SUCCESS, opcode := .RECV, byte_len := 1 }, true)] := by
    decide
  obtain ⟨receiver', hdel, hnew⟩ := Option.map_eq_some_iff.mp hrun
  refine ⟨receiver', _, _, hdel, hnew, rfl, ?_⟩
  have hend : EndsMessage (.request inlineSender (inlineWqe [7] true)) (inlineWqe [7] true) :=
    .rc (Or.inl rfl) (by decide) (by decide) rfl rfl
  refine (solicited_event_iff hend (inlineSender_typed _) hdel hnew rfl freshCq_armed rfl
    (by decide) { qp := 5 }).mpr ?_
  intro _
  decide

/-- A solicited message of four bytes does not call the handler, and an
unsolicited message of one byte does. -/
theorem solicited_event_lost :
    (∃ receiver' wc solicited,
      handOver {} (fun _ => {}) 0 (fun _ => 0) (.request inlineSender (inlineWqe [1, 2, 3, 4] true))
        0 1 armedReceiver = some receiver' ∧
      receiver'.qp.recv_cq = [(wc, solicited)] ∧ wc.status = .SUCCESS ∧
      ¬ Heeds { SOLICITED := true } true freshCq
        (freshCq.step (.reqNotify { SOLICITED := true })) { qp := 5 } wc solicited) ∧
    ∃ receiver' wc solicited,
      handOver {} (fun _ => {}) 0 (fun _ => 0) (.request inlineSender (inlineWqe [7] false)) 0 1
        armedReceiver = some receiver' ∧
      receiver'.qp.recv_cq = [(wc, solicited)] ∧ wc.status = .SUCCESS ∧
      ¬ Heeds { SOLICITED := true } false freshCq
        (freshCq.step (.reqNotify { SOLICITED := true })) { qp := 5 } wc solicited := by
  constructor
  · have hrun : (handOver {} (fun _ => {}) 0 (fun _ => 0)
        (.request inlineSender (inlineWqe [1, 2, 3, 4] true)) 0 1 armedReceiver).map
        (fun r => r.qp.recv_cq) =
        some [({ wr_id := 9, status := .SUCCESS, opcode := .RECV, byte_len := 4 }, false)] := by
      decide
    obtain ⟨receiver', hdel, hnew⟩ := Option.map_eq_some_iff.mp hrun
    refine ⟨receiver', _, _, hdel, hnew, rfl, ?_⟩
    intro hheeds
    exact absurd ((hheeds.told rfl).mpr rfl) (by unfold Journal.Called; decide)
  · have hrun : (handOver {} (fun _ => {}) 0 (fun _ => 0)
        (.request inlineSender (inlineWqe [7] false)) 0 1 armedReceiver).map
        (fun r => r.qp.recv_cq) =
        some [({ wr_id := 9, status := .SUCCESS, opcode := .RECV, byte_len := 1 }, true)] := by
      decide
    obtain ⟨receiver', hdel, hnew⟩ := Option.map_eq_some_iff.mp hrun
    refine ⟨receiver', _, _, hdel, hnew, rfl, ?_⟩
    intro hheeds
    have hcalled : (freshCq.step (.reqNotify { SOLICITED := true })).Called { qp := 5 }
        { wr_id := 9, status := .SUCCESS, opcode := .RECV, byte_len := 1 } true := by
      unfold Journal.Called
      decide
    exact absurd ((hheeds.told rfl).mp hcalled) (by decide)

end pib
