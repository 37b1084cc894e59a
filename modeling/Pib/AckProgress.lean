-- Sending the acknowledges: every call of `pib_generate_rc_qp_acknowledge` that
-- reports work brings the queue closer to its end, unless the data of an RDMA READ
-- can no longer be copied. Such a call changes nothing, and the next is like it.
import Pib.AckMoves
import Pib.WakeUp

namespace pib

open Bytes

/-! ## What is owed -/

/-- The response packets that are still to be sent for the acknowledge. -/
def Ack.owed (path_mtu : Nat) (a : Ack) : Nat :=
  if a.type = .RDMA_READ then pibGetNumOfPackets .RC path_mtu (a.size - a.offset) else 0

/-- The response packets that the queue owes, and the acknowledges in it. -/
def AckQ.backlog (s : AckQ) : Nat := (s.acks.map (Ack.owed s.path_mtu)).sum + s.acks.length

/-- The data of the RDMA READ at the head of the queue cannot be copied. -/
def Stuck (n : Node) : Prop :=
  ∃ a acks, n.qp.responder.acks = a :: acks ∧ a.type = .RDMA_READ ∧ a.offset < a.size ∧
    ¬ReadCopies n a

/-- A packet less is owed when a full one has been sent. -/
theorem pibGetNumOfPackets_sub {path_mtu length : Nat} (h : pmtuOf path_mtu < length) :
    pibGetNumOfPackets .RC path_mtu (length - pmtuOf path_mtu) <
      pibGetNumOfPackets .RC path_mtu length := by
  by_contra hle
  have hpos := pibGetNumOfPackets_pos .RC path_mtu length
  have hall := le_mul_pmtuOf path_mtu length
  generalize hk : pibGetNumOfPackets .RC path_mtu length = k at hle hpos hall
  -- otherwise the packets of the whole fit into the rest
  have hrest : (k - 1) * pmtuOf path_mtu < length - pmtuOf path_mtu := by
    rcases Nat.eq_zero_or_pos (k - 1) with h0 | h1
    · rw [h0, Nat.zero_mul]
      omega
    · exact mul_pmtuOf_lt (by omega) h1
  have hmul : k * pmtuOf path_mtu = (k - 1) * pmtuOf path_mtu + pmtuOf path_mtu := by
    rw [← Nat.succ_mul, Nat.succ_eq_add_one, Nat.sub_add_cancel hpos]
  omega

theorem owed_advance {q : Qp} {a : Ack} (ht : a.type = .RDMA_READ)
    (h : a.offset + readDataSize q a < a.size) :
    Ack.owed q.attr.path_mtu { a with offset := a.offset + readDataSize q a } <
      a.owed q.attr.path_mtu := by
  have hfull : readDataSize q a = pmtuOf q.attr.path_mtu := by
    unfold readDataSize at h ⊢
    split at h
    · omega
    · rename_i hn
      rw [if_neg hn]
  have hrest : a.size - (a.offset + readDataSize q a) = a.size - a.offset - pmtuOf q.attr.path_mtu := by
    omega
  unfold Ack.owed
  rw [if_pos ht, if_pos (show ({ a with offset := a.offset + readDataSize q a } : Ack).type = _ from ht),
    show ({ a with offset := a.offset + readDataSize q a } : Ack).size -
      ({ a with offset := a.offset + readDataSize q a } : Ack).offset = _ from hrest]
  exact pibGetNumOfPackets_sub (by omega)

/-! ## One call -/

section Call

variable {n : Node} {a : Ack} {acks : List Ack}

theorem stuck_cons (hacks : n.qp.responder.acks = a :: acks) :
    Stuck n ↔ a.type = .RDMA_READ ∧ a.offset < a.size ∧ ¬ReadCopies n a := by
  constructor
  · rintro ⟨b, bs, hb, h⟩
    obtain ⟨rfl, -⟩ := List.cons.inj (hacks.symm.trans hb)
    exact h
  · exact fun h => ⟨a, acks, hacks, h⟩

instance decidableReadCopies (n : Node) (a : Ack) : Decidable (ReadCopies n a) :=
  inferInstanceAs (Decidable (_ = _))

instance decidableStuck (n : Node) : Decidable (Stuck n) :=
  match hacks : n.qp.responder.acks with
  | [] => .isFalse fun ⟨_, _, hs, _⟩ => nomatch hacks.symm.trans hs
  | _ :: _ => decidable_of_iff _ (stuck_cons hacks).symm

/-- The call on an RDMA READ that may be answered. -/
theorem generate_read (hok : pibIsRecvOk n.qp.state = true)
    (hacks : n.qp.responder.acks = a :: acks) (ht : a.type = .RDMA_READ)
    (hle : n.qp.responder.nr_contig_read_acks ≤ PIB_MAX_CONTIG_READ_ACKS) :
    ∃ b, (generateRdmaReadResponse n a acks).qp.responder.acks = b :: acks ∧
      pibGenerateRcQpAcknowledge n =
        (if b.offset < b.size then generateRdmaReadResponse n a acks
         else (generateRdmaReadResponse n a acks).setQp
          (generateRdmaReadResponse n a acks).qp.popAck.decRdAtomic, true) := by
  obtain ⟨b, hb, -⟩ := generateRdmaReadResponse_acks (G := False) n hacks ht
  refine ⟨b, hb, ?_⟩
  unfold pibGenerateRcQpAcknowledge
  rw [if_neg (by simp [hok]), hacks]
  dsimp only
  rw [ht]
  dsimp only
  rw [if_neg (by omega), hb]
  dsimp only
  split <;> rfl

/-- A call on a stuck queue reports work and does none. -/
theorem generate_stuck (hok : pibIsRecvOk n.qp.state = true)
    (hle : n.qp.responder.nr_contig_read_acks ≤ PIB_MAX_CONTIG_READ_ACKS) (h : Stuck n) :
    pibGenerateRcQpAcknowledge n = (n.headers, true) := by
  obtain ⟨a, acks, hacks, ht, hlt, hcopy⟩ := h
  obtain ⟨b, hb, hgen⟩ := generate_read hok hacks ht hle
  rw [generate_failed hcopy] at hb hgen
  obtain ⟨rfl, -⟩ := List.cons.inj (hacks.symm.trans hb)
  rw [hgen, if_pos hlt]

/-- What a call can do that reports work: the head of the queue goes, an RDMA READ at
the head has a packet less to send, or nothing at all has changed. -/
inductive AckOutcome (n n' : Node) : Prop
  | removed (a : Ack) (acks : List Ack) (hacks : n.qp.responder.acks = a :: acks)
      (hfree : ¬Stuck n) (hrest : n'.qp.responder.acks = acks)
  | advanced (a : Ack) (acks : List Ack) (p : RcPacket)
      (hacks : n.qp.responder.acks = a :: acks) (hfree : ¬Stuck n) (ht : a.type = .RDMA_READ)
      (hlt : a.offset + readDataSize n.qp a < a.size)
      (hrest : n'.qp.responder.acks =
        { a with offset := a.offset + readDataSize n.qp a } :: acks)
      (hsent : n'.send_buffer = some p)
  | stuck (h : Stuck n) (hsame : n' = n.headers)

theorem outcome_read (hok : pibIsRecvOk n.qp.state = true)
    (hacks : n.qp.responder.acks = a :: acks) (ht : a.type = .RDMA_READ)
    (hle : n.qp.responder.nr_contig_read_acks ≤ PIB_MAX_CONTIG_READ_ACKS) :
    AckOutcome n (pibGenerateRcQpAcknowledge n).1 := by
  by_cases hstuck : Stuck n
  · exact .stuck hstuck (by rw [generate_stuck hok hle hstuck])
  obtain ⟨b, hb, hgen⟩ := generate_read hok hacks ht hle
  rw [hgen]
  by_cases hcopy : ReadCopies n a
  · obtain ⟨p, hp⟩ := generate_copied hcopy acks
    rw [hp] at hb ⊢
    obtain ⟨rfl, -⟩ := List.cons.inj hb
    by_cases hlt : a.offset + readDataSize n.qp a < a.size
    · rw [if_pos hlt]
      exact .advanced a acks p hacks hstuck ht hlt rfl rfl
    · rw [if_neg hlt]
      exact .removed a acks hacks hstuck rfl
  · -- the copy fails for a READ of no bytes, or for one that is already answered
    rw [generate_failed hcopy] at hb ⊢
    obtain ⟨rfl, -⟩ := List.cons.inj (hacks.symm.trans hb)
    have hdone : ¬a.offset < a.size := fun hlt => hstuck ((stuck_cons hacks).2 ⟨ht, hlt, hcopy⟩)
    rw [if_neg hdone]
    exact .removed a acks hacks hstuck (by simp [Qp.popAck, Qp.decRdAtomic, hacks])

theorem outcome_of_true (h : (pibGenerateRcQpAcknowledge n).2 = true) :
    AckOutcome n (pibGenerateRcQpAcknowledge n).1 := by
  have hok : pibIsRecvOk n.qp.state = true := by
    by_contra hno
    rw [pibGenerateRcQpAcknowledge, if_pos (by simpa using hno)] at h
    cases h
  have hdue := mt (generate_false hok).2 (by simp [h])
  rcases hacks : n.qp.responder.acks with _ | ⟨a, acks⟩
  · exact absurd (Or.inl hacks) hdue
  by_cases ht : a.type = .RDMA_READ
  · refine outcome_read hok hacks ht (not_lt.mp fun hlt => ?_)
    exact hdue (Or.inr ⟨hlt, a, acks, hacks, ht⟩)
  have hfree : ¬Stuck n := fun hs => ht ((stuck_cons hacks).1 hs).1
  refine .removed a acks hacks hfree ?_
  unfold pibGenerateRcQpAcknowledge
  rw [if_neg (by simp [hok]), hacks]
  dsimp only
  split
  · simp [Qp.popAck, hacks]
  · simp [Qp.popAck, Qp.decRdAtomic, hacks]
  · contradiction

theorem backlog_cons (hacks : n.qp.responder.acks = a :: acks) :
    n.qp.ackQ.backlog =
      a.owed n.qp.attr.path_mtu + (acks.map (Ack.owed n.qp.attr.path_mtu)).sum + acks.length + 1 := by
  change (n.qp.responder.acks.map (Ack.owed n.qp.attr.path_mtu)).sum +
    n.qp.responder.acks.length = _
  rw [hacks, List.map_cons, List.sum_cons, List.length_cons]
  omega

theorem generate_attr (n : Node) : (pibGenerateRcQpAcknowledge n).1.qp.attr = n.qp.attr :=
  congrArg RecvSide.attr (recvSide_generateAcknowledge n)

theorem generate_state (n : Node) : (pibGenerateRcQpAcknowledge n).1.qp.state = n.qp.state :=
  congrArg RecvSide.state (recvSide_generateAcknowledge n)

/-- Progress is made except on a stuck queue. -/
theorem backlog_lt_iff (h : (pibGenerateRcQpAcknowledge n).2 = true) :
    (pibGenerateRcQpAcknowledge n).1.qp.ackQ.backlog < n.qp.ackQ.backlog ↔ ¬Stuck n := by
  have hout := outcome_of_true h
  have hattr := generate_attr n
  generalize (pibGenerateRcQpAcknowledge n).1 = n' at hout hattr ⊢
  have hlog : n'.qp.ackQ.backlog = (n'.qp.responder.acks.map (Ack.owed n.qp.attr.path_mtu)).sum +
      n'.qp.responder.acks.length := by rw [← hattr]; rfl
  cases hout with
  | removed a acks hacks hfree hrest =>
    refine iff_of_true ?_ hfree
    rw [hlog, hrest, backlog_cons hacks]
    omega
  | advanced a acks p hacks hfree ht hlt hrest hsent =>
    refine iff_of_true ?_ hfree
    have := owed_advance ht hlt
    rw [hlog, hrest, backlog_cons hacks, List.map_cons, List.sum_cons, List.length_cons]
    omega
  | stuck hs hsame =>
    refine iff_of_false ?_ (not_not_intro hs)
    rw [hsame, Node.headers_qp]
    exact lt_irrefl _

/-- A packet goes out or an acknowledge leaves the queue, except on a stuck queue. -/
theorem emits_or_removes_iff (hbuf : n.send_buffer = none)
    (h : (pibGenerateRcQpAcknowledge n).2 = true) :
    ((pibGenerateRcQpAcknowledge n).1.send_buffer ≠ none ∨
      (pibGenerateRcQpAcknowledge n).1.qp.responder.acks.length < n.qp.responder.acks.length) ↔
      ¬Stuck n := by
  have hout := outcome_of_true h
  generalize (pibGenerateRcQpAcknowledge n).1 = n' at hout ⊢
  cases hout with
  | removed a acks hacks hfree hrest =>
    refine iff_of_true (Or.inr ?_) hfree
    rw [hrest, hacks]
    exact Nat.lt_succ_self _
  | advanced a acks p hacks hfree ht hlt hrest hsent =>
    exact iff_of_true (Or.inl (by rw [hsent]; exact Option.some_ne_none p)) hfree
  | stuck hs hsame =>
    refine iff_of_false ?_ (not_not_intro hs)
    rw [hsame, Node.headers_qp, Node.headers_send_buffer, hbuf]
    simp

end Call

/-! ## Call after call -/

/-- What may change between two calls: the regions and windows, the memory, and the
count of read responses in a row. -/
structure AckGap where
  pd : Pd
  mem : Mem
  nr_contig_read_acks : Int

def Node.between (n : Node) (x : AckGap) : Node :=
  { n with
    pd := x.pd
    mem := x.mem
    qp := { n.qp with responder :=
      { n.qp.responder with nr_contig_read_acks := x.nr_contig_read_acks } } }

/-- The next call. -/
def nextCall (n : Node) (x : AckGap) : Node := (pibGenerateRcQpAcknowledge (n.between x)).1

/-- The count lets a read response go, and the queue is not stuck. -/
def CanProceed (n : Node) (x : AckGap) : Prop :=
  x.nr_contig_read_acks ≤ PIB_MAX_CONTIG_READ_ACKS ∧ ¬Stuck (n.between x)

instance decidableCanProceed (n : Node) (x : AckGap) : Decidable (CanProceed n x) :=
  inferInstanceAs (Decidable (_ ∧ _))

theorem between_backlog (n : Node) (x : AckGap) :
    (n.between x).qp.ackQ.backlog = n.qp.ackQ.backlog := rfl

theorem backlog_eq_zero {s : AckQ} (h : s.backlog = 0) : s.acks = [] :=
  List.eq_nil_of_length_eq_zero (Nat.eq_zero_of_add_eq_zero h).2

/-- A call that can proceed shortens a queue, and leaves an empty one empty. -/
theorem backlog_nextCall {n : Node} {x : AckGap} (hok : pibIsRecvOk n.qp.state = true)
    (h : CanProceed n x) : (nextCall n x).qp.ackQ.backlog ≤ n.qp.ackQ.backlog - 1 := by
  obtain ⟨hle, hfree⟩ := h
  have hok : pibIsRecvOk (n.between x).qp.state = true := hok
  by_cases htrue : (pibGenerateRcQpAcknowledge (n.between x)).2 = true
  · have hlt := (backlog_lt_iff htrue).2 hfree
    rw [between_backlog] at hlt
    exact Nat.le_sub_one_of_lt hlt
  have hfalse : (pibGenerateRcQpAcknowledge (n.between x)).2 = false := by simpa using htrue
  have hnil : n.qp.responder.acks = [] := by
    rcases (generate_false hok).1 hfalse with hnil | ⟨hlt, -⟩
    · exact hnil
    · exact absurd hle (not_le.mpr hlt)
  have hzero : n.qp.ackQ.backlog = 0 := by
    change (n.qp.responder.acks.map _).sum + n.qp.responder.acks.length = 0
    rw [hnil]
    rfl
  rw [nextCall, generateAcknowledge_false hfalse, between_backlog, hzero]

/-- As many calls as the backlog empty the queue. -/
theorem acks_empty_of_calls {n : Node} {xs : List AckGap} (hok : pibIsRecvOk n.qp.state = true)
    (hm : Run.Meets nextCall CanProceed n xs) (hlen : n.qp.ackQ.backlog ≤ xs.length) :
    (Run.run nextCall n xs).qp.responder.acks = [] := by
  induction xs generalizing n with
  | nil => exact backlog_eq_zero (Nat.le_zero.mp hlen)
  | cons x xs ih =>
    have hstate : (nextCall n x).qp.state = n.qp.state := generate_state (n.between x)
    have hback := backlog_nextCall hok hm.1
    rw [List.length_cons] at hlen
    exact ih (by rw [hstate]; exact hok) hm.2 (by omega)

/-- The node after a number of calls with nothing in between. -/
def afterCalls (n : Node) (k : Nat) : Node := (fun n => (pibGenerateRcQpAcknowledge n).1)^[k] n

/-- A stuck queue stays as it is, call after call. -/
theorem stuck_forever {n : Node} (hok : pibIsRecvOk n.qp.state = true)
    (hle : n.qp.responder.nr_contig_read_acks ≤ PIB_MAX_CONTIG_READ_ACKS) (h : Stuck n) (k : Nat) :
    (pibGenerateRcQpAcknowledge (afterCalls n k)).2 = true ∧ (afterCalls n k).qp = n.qp ∧
      (afterCalls n k).send_buffer = n.send_buffer := by
  induction k generalizing n with
  | zero => exact ⟨by rw [afterCalls, Function.iterate_zero, id, generate_stuck hok hle h], rfl, rfl⟩
  | succ k ih =>
    have hnext : afterCalls n (k + 1) = afterCalls n.headers k := by
      rw [afterCalls, Function.iterate_succ_apply, generate_stuck hok hle h]
      rfl
    -- the headers leave all that the stuck queue depends on
    have hs : Stuck n.headers := h
    rw [hnext]
    exact ih hok hle hs

/-! ## Progress -/

/-- A call that reports work brings the queue closer to its end, and sends a packet or
takes an acknowledge from the queue, exactly when the queue is not stuck. Where no call
finds it stuck, as many calls as there are acknowledges and packets owed empty the queue,
whatever happens to the regions in between; a stuck queue reports work forever. -/
theorem acknowledge_progress (n : Node) :
    ((pibGenerateRcQpAcknowledge n).2 = true →
      ((pibGenerateRcQpAcknowledge n).1.qp.ackQ.backlog < n.qp.ackQ.backlog ↔ ¬Stuck n) ∧
      (n.send_buffer = none →
        ((pibGenerateRcQpAcknowledge n).1.send_buffer ≠ none ∨
          (pibGenerateRcQpAcknowledge n).1.qp.responder.acks.length <
            n.qp.responder.acks.length ↔ ¬Stuck n))) ∧
    (pibIsRecvOk n.qp.state = true →
      (∀ xs, Run.Meets nextCall CanProceed n xs → n.qp.ackQ.backlog ≤ xs.length →
        (Run.run nextCall n xs).qp.responder.acks = []) ∧
      (n.qp.responder.nr_contig_read_acks ≤ PIB_MAX_CONTIG_READ_ACKS → Stuck n →
        ∀ k, (pibGenerateRcQpAcknowledge (afterCalls n k)).2 = true ∧
          (afterCalls n k).qp = n.qp ∧ (afterCalls n k).send_buffer = n.send_buffer)) :=
  ⟨fun h => ⟨backlog_lt_iff h, fun hbuf => emits_or_removes_iff hbuf h⟩,
    fun hok => ⟨fun _ => acks_empty_of_calls hok, stuck_forever hok⟩⟩

/-- A region of four bytes that the peer may read. -/
def readRegion : Mr :=
  { mr_num := 1, lkey := 0, rkey := 0, state := .VALID, start := 0x1000, length := 4
    access_flags := IB_ACCESS_REMOTE_READ
    umem := { page_shift := 12, offset := 0, pages := [some 0x8000] } }

def readPd : Pd := ⟨1, fun i => if i = 0 then some readRegion else none⟩

def readFour (psn : Nat) : RcPacket :=
  { opcode := .RDMA_READ_REQUEST, psn
    buffer := Reth.encode { vaddr := 0x1000, rkey := 0, dmalen := 4 } }

/-- A request to read the region comes. -/
def reading : List (Nat × Act) :=
  bringUp { rq_psn := 5, max_dest_rd_atomic := 1, path_mtu := 1, port_num := 1 } ++
    [(1, .receive 1 (readFour 5))]

def readingNode : Node :=
  Run.run (step {} ibStateTable) (created {} {} none readPd fun _ => 0) reading

/-- The regions stay, and two calls empty the queue. -/
def undisturbed : AckGap := ⟨readPd, fun _ => 0, 0⟩

theorem acknowledge_progress_readingNode :
    readingNode.qp.ackQ.backlog = 2 ∧
      (Run.run nextCall readingNode [undisturbed, undisturbed]).qp.responder.acks = [] :=
  ⟨by decide, ((acknowledge_progress readingNode).2 (by decide)).1 _ (by decide) (by decide)⟩

/-- The region is deregistered before the answer: every call reports work, nothing is
sent, and the acknowledge stays in the queue. -/
theorem deregistered_read_blocks :
    let n := step {} ibStateTable readingNode (2, .environment ⟨0, fun _ => none⟩ (fun _ => 0) none)
    n.qp.responder.acks.length = 1 ∧
      ∀ k, (pibGenerateRcQpAcknowledge (afterCalls n k)).2 = true ∧ (afterCalls n k).qp = n.qp ∧
        (afterCalls n k).send_buffer = none := by
  intro n
  exact ⟨by decide, stuck_forever (n := n) (by decide) (by decide) (by decide)⟩

end pib
