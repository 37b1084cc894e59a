-- Atomic operations from one end to the other: the word that the responder
-- changes, the answer that it gives, and what the requester does with the
-- answer.
import Pib.MrCopy
import Pib.ReceiveSide

namespace pib

open Bytes

variable (cfg : Config) (now : Nat) (q : Qp) {old : Nat} {o : WcOpcode}

/-! ## A word of a region -/

/-- The word at this place, in the byte order of the host. -/
def wordAt (mem : Mem) (x : Nat) : Nat := ofLe (read mem x 8)

theorem wordAt_lt (mem : Mem) (x : Nat) : wordAt mem x < 2 ^ 64 := by
  have h := ofLe_lt (read mem x 8)
  rw [length_read] at h
  exact h

theorem wordAt_write (mem : Mem) (x v : Nat) : wordAt (write mem x (le 8 v)) x = u64 v := by
  have h := read_write_same mem x (le 8 v)
  rw [length_le] at h
  rw [wordAt, h, ofLe_le]
  rfl

/-- What `ib_umem_get` promises of the pages of a region besides: they hold
whole words, and the region begins in its first page where its address says. -/
structure Mr.Words (mr : Mr) : Prop where
  page : mr.is_dma = false → 3 ≤ if mr.is_fast_reg_mr then mr.page_shift else mr.umem.page_shift
  offset : mr.is_dma = false → mr.umem.offset % 8 = mr.start % 8

/-- A word does not cross the end of its page. -/
theorem mrCopyPages_word {page_size : Nat} (h8 : 8 ∣ page_size) (swap compare : Nat)
    (pages : List (Option Nat)) :
    ∀ addr offset : Nat, page_size ∣ addr → addr ≤ offset → 8 ∣ offset →
    offset - addr + 8 ≤ (pageBytes page_size pages).length →
    ∃ x, ((pageBytes page_size pages).drop (offset - addr)).take 8 = List.range' x 8 ∧
      ∀ (mem : Mem) (buffer : List UInt8),
        mrCopyPages page_size swap compare .FETCHADD pages addr offset 8 mem buffer =
          ⟨(mrCopyDataSub mem buffer x 8 swap compare .FETCHADD).1,
            (mrCopyDataSub mem buffer x 8 swap compare .FETCHADD).2.1, true⟩ := by
  induction pages with
  | nil =>
    intro addr offset _ _ _ hlen
    simp only [pageBytes, List.length_nil] at hlen
    omega
  | cons page pages ih =>
    intro addr offset hdvd hle hoff hlen
    cases page with
    | none =>
      simp only [pageBytes, List.length_nil] at hlen
      omega
    | some vaddr =>
      have hrest : (pageBytes page_size (some vaddr :: pages)).length =
          page_size + (pageBytes page_size pages).length := by
        simp [pageBytes]
      by_cases hin : offset < addr + page_size
      · have hroom : offset - addr + 8 ≤ page_size := by
          obtain ⟨i, rfl⟩ := h8
          obtain ⟨j, rfl⟩ := hdvd
          obtain ⟨k, rfl⟩ := hoff
          rw [Nat.mul_assoc] at hle hin ⊢
          omega
        have hmod : offset % page_size = offset - addr := by
          obtain ⟨j, rfl⟩ := hdvd
          have he : offset = (offset - page_size * j) + page_size * j := by omega
          rw [he, Nat.add_mul_mod_self_left, Nat.mod_eq_of_lt (by omega)]
          omega
        refine ⟨vaddr + (offset - addr), ?_, fun mem buffer => ?_⟩
        · have hmin : min (page_size - (offset - addr)) 8 = 8 := by omega
          have hnone : 8 - (page_size - (offset - addr)) = 0 := by omega
          rw [stretch_pageBytes (by omega), hmin, hnone, List.take_zero, List.append_nil]
        · unfold mrCopyPages
          rw [if_pos ⟨hle, hin⟩, hmod]
          rfl
      · obtain ⟨x, hx, hcopy⟩ := ih (addr + page_size) offset
          ((Nat.dvd_add_right hdvd).mpr (dvd_refl _)) (by omega) hoff (by omega)
        refine ⟨x, ?_, fun mem buffer => ?_⟩
        · rw [drop_pageBytes (by omega), ← hx]
          congr 2
          omega
        · unfold mrCopyPages
          rw [if_neg (by omega), if_neg (by omega), hcopy]

theorem mrCopyData_word {mr : Mr} (hb : mr.Backed) (hw : mr.Words) (hvalid : mr.state = .VALID)
    {address : Nat} (halign : address % 8 = 0) (hlo : mr.start ≤ address)
    (hhi : address + 8 ≤ mr.start + mr.length) (swap compare : Nat) :
    ∃ x, mr.places (address - mr.start) 8 = List.range' x 8 ∧ ∀ (mem : Mem) (buffer : List UInt8),
      mrCopyData mr mem buffer (address - mr.start) 8 swap compare .FETCHADD =
        ⟨(mrCopyDataSub mem buffer x 8 swap compare .FETCHADD).1,
          (mrCopyDataSub mem buffer x 8 swap compare .FETCHADD).2.1, true⟩ := by
  by_cases hdma : mr.is_dma = true
  · refine ⟨address - mr.start, by rw [Mr.places, if_pos hdma], fun mem buffer => ?_⟩
    unfold mrCopyData
    rw [if_neg (by simp [hvalid]), if_pos hdma]
  have hdma' : mr.is_dma = false := Bool.eq_false_of_not_eq_true hdma
  have hoff : 8 ∣ address - mr.start + mr.umem.offset := by
    have := hw.offset hdma'
    omega
  have hlen : (mr.places (address - mr.start) 8).length = 8 := hb.places (by omega)
  have hshift := hw.page hdma'
  have hpages : ∀ (page_shift : Nat) (pages : List (Option Nat)), 3 ≤ page_shift →
      mr.places (address - mr.start) 8 = ((pageBytes (2 ^ page_shift) pages).drop
        (address - mr.start + mr.umem.offset)).take 8 →
      ∃ x, mr.places (address - mr.start) 8 = List.range' x 8 ∧
        ∀ (mem : Mem) (buffer : List UInt8),
        mrCopyPages (2 ^ page_shift) swap compare .FETCHADD pages 0
            (address - mr.start + mr.umem.offset) 8 mem buffer =
          ⟨(mrCopyDataSub mem buffer x 8 swap compare .FETCHADD).1,
            (mrCopyDataSub mem buffer x 8 swap compare .FETCHADD).2.1, true⟩ := by
    intro page_shift pages h3 he
    rw [he, List.length_take, List.length_drop] at hlen
    obtain ⟨x, hx, hcopy⟩ := mrCopyPages_word (pow_dvd_pow 2 h3) swap compare pages 0
      (address - mr.start + mr.umem.offset) (dvd_zero _) (Nat.zero_le _) hoff (by omega)
    exact ⟨x, he.trans hx, hcopy⟩
  unfold mrCopyData
  simp only [hvalid, ne_eq, not_true_eq_false, if_false, hdma', Bool.false_eq_true]
  by_cases hfast : mr.is_fast_reg_mr = true
  · simp only [hfast, if_true] at hshift ⊢
    exact hpages _ _ hshift (by rw [Mr.places, if_neg hdma, if_pos hfast])
  · simp only [hfast, if_false, Bool.false_eq_true] at hshift ⊢
    exact hpages _ _ hshift (by rw [Mr.places, if_neg hdma, if_neg hfast])

/-- The addition that `pib_util_mr_atomic` makes, and the value that it finds:
it takes the operand off the sum again. -/
theorem pibUtilMrAtomic_add {pd : Pd} {rkey : Nat} {mr : Mr} (h : RkeyNames pd rkey mr)
    (hw : mr.Words) (hacc : hasAccess mr IB_ACCESS_REMOTE_ATOMIC = true) {address : Nat}
    (halign : address % 8 = 0) (hlo : mr.start ≤ address)
    (hhi : address + 8 ≤ mr.start + mr.length) (swap compare : Nat) :
    ∃ x, mr.places (address - mr.start) 8 = List.range' x 8 ∧ ∀ mem : Mem,
      pibUtilMrAtomic pd rkey mem address swap compare .FETCHADD =
        (.SUCCESS, write mem x (le 8 (u64 (wordAt mem x + compare))), wordAt mem x) := by
  obtain ⟨x, hx, hcopy⟩ := mrCopyData_word h.backed hw h.valid halign hlo hhi swap compare
  refine ⟨x, hx, fun mem => ?_⟩
  have hout := (outsideMr_eq h.backed hlo hhi).mpr (Or.inl (by norm_num))
  have hlt := wordAt_lt mem x
  have hback : ofLe (le 8 (u64 (wordAt mem x + compare) + 2 ^ 64 - u64 compare)) = wordAt mem x := by
    rw [ofLe_le]
    simp only [u64]
    omega
  unfold pibUtilMrAtomic
  simp only [h.table]
  rw [if_neg (by simp [h.valid, ← h.key, hacc, hout]), if_pos trivial, hcopy]
  simp only [mrCopyDataSub, if_true]
  rw [← wordAt, hback]

/-! ## The request and its answer -/

/-- The element is an atomic operation. -/
def SendWqe.IsAtomic (w : SendWqe) : Prop :=
  w.opcode = .ATOMIC_CMP_AND_SWP ∨ w.opcode = .ATOMIC_FETCH_AND_ADD

/-- What the operation leaves in a word that held `old`. -/
def SendWqe.result (w : SendWqe) (old : Nat) : Nat :=
  if w.opcode = .ATOMIC_CMP_AND_SWP then if old = w.wr.compare_add then w.wr.swap else old
  else u64 (old + w.wr.compare_add)

def SendWqe.atomicEth (w : SendWqe) : AtomicEth :=
  { vaddr := w.wr.remote_addr, rkey := w.wr.rkey, swap_dt := w.wr.swap, cmp_dt := w.wr.compare_add }

def atomicPacket (w : SendWqe) : RcPacket :=
  { opcode := if w.opcode = .ATOMIC_CMP_AND_SWP then .COMPARE_SWAP else .FETCH_ADD
    psn := nextPsn w, solicited := w.send_flags.SOLICITED, buffer := w.atomicEth.encode }

variable {n m : Node} {w : SendWqe} {mr : Mr} {ls : List Nat}

theorem buildRequest_atomic (n : Node) (hw : w.IsAtomic) :
    buildRequest n w = (.SUCCESS, some (atomicPacket w)) := by
  rcases hw with h | h <;> simp [buildRequest, atomicPacket, processAtomicRequest, h, SendWqe.atomicEth]

/-- The numbers of the header are of the width of its fields. -/
structure AtomicEth.Typed (a : AtomicEth) : Prop where
  vaddr : a.vaddr < 2 ^ 64
  rkey : a.rkey < 2 ^ 32
  swap_dt : a.swap_dt < 2 ^ 64
  cmp_dt : a.cmp_dt < 2 ^ 64

@[simp] theorem AtomicEth.length_encode (a : AtomicEth) : a.encode.length = 28 := by
  simp [AtomicEth.encode]

theorem AtomicEth.decode_encode {a : AtomicEth} (h : a.Typed) : AtomicEth.decode a.encode = a := by
  have h1 : ofBe (be 8 a.vaddr) = a.vaddr := ofBe_be_of_lt (h.vaddr.trans_le (by norm_num))
  have h2 : ofBe (be 4 a.rkey) = a.rkey := ofBe_be_of_lt (h.rkey.trans_le (by norm_num))
  have h3 : ofBe (be 8 a.swap_dt) = a.swap_dt := ofBe_be_of_lt (h.swap_dt.trans_le (by norm_num))
  have h4 : ofBe (be 8 a.cmp_dt) = a.cmp_dt := ofBe_be_of_lt (h.cmp_dt.trans_le (by norm_num))
  have h5 : (be 8 a.cmp_dt).take 8 = be 8 a.cmp_dt := List.take_of_length_le (by simp)
  simp [AtomicEth.decode, AtomicEth.encode, List.drop_append, List.drop_eq_nil_of_le, h1, h2, h3, h4, h5]

/-- The wire opcodes of the atomic operations are not the number they are
compared with: both are carried out as an addition. -/
theorem atomicOp_eq (hw : w.IsAtomic) (h : w.atomicEth.Typed) :
    atomicOp (atomicPacket w) =
      .atomic w.wr.rkey w.wr.remote_addr w.wr.swap w.wr.compare_add .FETCHADD := by
  have hop : (atomicPacket w).opcode.toNat ≠ IB_WR_ATOMIC_CMP_AND_SWP := by
    rcases hw with h | h <;> simp [atomicPacket, h] <;> decide
  have hdec : AtomicEth.decode (atomicPacket w).buffer = w.atomicEth := AtomicEth.decode_encode h
  simp only [atomicOp, hdec, if_neg hop]
  rfl

/-- The two ends of an atomic operation: the element is the first one in flight
at the requester `n`, and the responder `m` waits for its request. -/
structure AtomicSetup (n m : Node) (w : SendWqe) (l : InFlight) (ws : List SendWqe) (mr : Mr)
    (ls : List Nat) : Prop where
  isAtomic : w.IsAtomic
  rkey_lt : w.wr.rkey < 2 ^ 32
  swap_lt : w.wr.swap < 2 ^ 64
  compare_lt : w.wr.compare_add < 2 ^ 64
  ready : pibIsRecvOk m.qp.state = true
  psn : m.qp.responder.psn % 2 ^ 24 = w.processing.based_psn % 2 ^ 24
  idle : (attrOpCode m.qp.responder.last_OpCode).map (·.ending) = some true
  room : m.qp.responder.nr_rd_atomic < m.qp.attr.max_dest_rd_atomic
  names : RkeyNames m.pd w.wr.rkey mr
  words : mr.Words
  grants : hasAccess mr IB_ACCESS_REMOTE_ATOMIC = true
  aligned : w.wr.remote_addr % 8 = 0
  lo : mr.start ≤ w.wr.remote_addr
  hi : w.wr.remote_addr + 8 ≤ mr.start + mr.length
  waits : pibIsRecvOk n.qp.state = true
  first : n.qp.inFlight l = w :: ws
  front : l = .sending → n.qp.requester.waiting_swqe = []
  span : w.processing.expected_psn = u32 (w.processing.based_psn + 1)
  counted : 0 < n.qp.requester.nr_rd_atomic
  sges : SgesAt n.pd IB_ACCESS_LOCAL_WRITE w.sge_array ls
  size : 8 ≤ ls.length
  distinct : (ls.take 8).Nodup

variable {l : InFlight} {ws : List SendWqe}

theorem AtomicSetup.typed (h : AtomicSetup n m w l ws mr ls) : w.atomicEth.Typed := by
  have hbound := h.names.backed.bound
  have hhi := h.hi
  exact ⟨by dsimp only [SendWqe.atomicEth]; omega, h.rkey_lt, h.swap_lt, h.compare_lt⟩

/-- Whether the slot of the next request has a place in the table. -/
def slotFits (q : Qp) : Prop := 0 ≤ Int.tmod q.responder.slot_index PIB_MAX_RD_ATOM

instance (q : Qp) : Decidable (slotFits q) := by
  unfold slotFits
  infer_instance

/-- What a stored slot leaves as it was. -/
theorem storeSlot_rest (n : Node) (slot : Slot) :
    (storeSlot n slot).mem = n.mem ∧
      (storeSlot n slot).qp.responder.acks = n.qp.responder.acks ∧
      (storeSlot n slot).crashes = if slotFits n.qp then n.crashes else n.crashes ++ [.slotIndex] := by
  unfold storeSlot
  dsimp only
  split
  · rename_i h
    refine ⟨rfl, rfl, ?_⟩
    rw [if_neg (show ¬slotFits n.qp from not_le.mpr h)]
    rfl
  · rename_i h
    refine ⟨rfl, rfl, ?_⟩
    rw [if_pos (show slotFits n.qp from not_lt.mp h)]
    rfl

/-- A request whose operation succeeds. -/
theorem receiveAtomicRequest_eq (psn : Nat) {p : RcPacket} {mem : Mem}
    (hlen : p.buffer.length = 28) (halign : (AtomicEth.decode p.buffer).vaddr % 8 = 0)
    (hroom : n.qp.responder.nr_rd_atomic < n.qp.attr.max_dest_rd_atomic)
    (hrun : (atomicOp p).run n.pd n.mem = (.SUCCESS, mem, old)) :
    ∃ n', receiveAtomicRequest now n psn p = (n', some 1) ∧ n'.mem = mem ∧
      n'.qp.responder.acks = n.qp.responder.acks ++ [atomicAck psn old] ∧
      n'.crashes = if slotFits n.qp then n.crashes else n.crashes ++ [.slotIndex] := by
  have hmem : (n.perform (atomicOp p)).mem = mem := by
    rw [Node.perform, hrun]
  unfold receiveAtomicRequest
  rw [if_neg (not_not.mpr hlen), if_neg (not_or.mpr ⟨not_not.mpr halign, not_le.mpr hroom⟩), hrun]
  dsimp only
  rw [if_neg (by simp)]
  obtain ⟨h1, h3, h4⟩ := storeSlot_rest (n.perform (atomicOp p))
    (atomicSlot (n.perform (atomicOp p)).qp p.opcode old)
  unfold atomicSlot at h1 h3 h4
  generalize storeSlot (n.perform (atomicOp p)) _ = n₁ at h1 h3 h4 ⊢
  refine ⟨_, rfl, h1.trans hmem, ?_, h4⟩
  rw [← Node.perform_qp n (atomicOp p), ← h3]
  rfl

/-- The responder carries out the request as an addition, whichever it is. -/
theorem receive_atomic (cfg : Config) (now : Nat) (h : AtomicSetup n m w l ws mr ls) :
    let m' := pibReceiveRcQpIncomingMessage cfg now m.qp.attr.port_num m (atomicPacket (w.setSent 0))
    ∃ x, mr.places (w.wr.remote_addr - mr.start) 8 = List.range' x 8 ∧
      m'.mem = write m.mem x (le 8 (u64 (wordAt m.mem x + w.wr.compare_add))) ∧
      m'.qp.responder.acks = m.qp.responder.acks ++
        [atomicAck (psnMask w.processing.based_psn) (wordAt m.mem x)] ∧
      m'.crashes = if slotFits m.qp then m.crashes else m.crashes ++ [.slotIndex] := by
  obtain ⟨x, hx, hadd⟩ := pibUtilMrAtomic_add h.names h.words h.grants h.aligned h.lo h.hi w.wr.swap
    w.wr.compare_add
  refine ⟨x, hx, ?_⟩
  have hisAtomic : (w.setSent 0).IsAtomic := h.isAtomic
  have hop := atomicOp_eq (w := w.setSent 0) hisAtomic h.typed
  have hpsn : psnMask (atomicPacket (w.setSent 0)).psn = psnMask w.processing.based_psn := by
    simp only [atomicPacket, nextPsn, psnMask, PSN_MOD, u32, SendWqe.setSent]
    omega
  have hnext : (atomicPacket (w.setSent 0)).psn % 2 ^ 24 = m.qp.responder.psn % 2 ^ 24 := by
    rw [h.psn]
    exact hpsn
  have hcode : (atomicPacket (w.setSent 0)).opcode = .COMPARE_SWAP ∨
      (atomicPacket (w.setSent 0)).opcode = .FETCH_ADD := by
    unfold atomicPacket
    dsimp only
    split
    · exact Or.inl rfl
    · exact Or.inr rfl
  have hlen : (atomicPacket (w.setSent 0)).buffer.length = 28 := AtomicEth.length_encode _
  have halign : (AtomicEth.decode (atomicPacket (w.setSent 0)).buffer).vaddr % 8 = 0 := by
    rw [show (atomicPacket (w.setSent 0)).buffer = w.atomicEth.encode from rfl,
      AtomicEth.decode_encode h.typed]
    exact h.aligned
  have hroom := h.room
  generalize atomicPacket (w.setSent 0) = p at *
  have hreq : pibOpcodeIsAcknowledge p.opcode = some false := by
    rcases hcode with hc | hc <;> rw [hc] <;> rfl
  have hseq : pibOpcodeIsInOrderSequence p.opcode m.qp.responder.last_OpCode = some true := by
    refine inOrder_of_start ?_ h.idle
    rcases hcode with hc | hc <;> rw [hc] <;> rfl
  have hexec : ∀ n' psn, executeRequest cfg now n' psn p = receiveAtomicRequest now n' psn p := by
    intro n' psn
    rcases hcode with hc | hc <;> simp only [executeRequest, hc]
  have hrun : (atomicOp p).run m.pd m.mem = (.SUCCESS,
      write m.mem x (le 8 (u64 (wordAt m.mem x + w.wr.compare_add))), wordAt m.mem x) := by
    rw [hop]
    exact hadd m.mem
  rw [receive_expected_eq cfg now h.ready rfl hreq hnext]
  obtain ⟨n', hn', hmem, hacks, hcrash⟩ := receiveAtomicRequest_eq now (psnMask p.psn) (p := p)
    (n := m.setQp (issueCommEst m.qp)) hlen halign (by simpa using hroom) hrun
  unfold receiveExpected
  simp only [Node.setQp_qp, issueCommEst_responder, hseq, hexec, hn']
  refine ⟨hmem, ?_, ?_⟩
  · rw [← hpsn]
    simpa using hacks
  · simpa [slotFits] using hcrash

/-- The completion of a successful element, when it is to be reported. -/
def successWcs (q : Qp) (w : SendWqe) (opcode : WcOpcode) : List Wc :=
  if isSignaled q w then [{ wr_id := w.wr_id, status := .SUCCESS, opcode }] else []

theorem completeSend_eq (n : Node) (ho : pibConvertWrOpcodeToWcOpcode w.opcode = some o) :
    completeSend n w = n.setQp { n.qp with send_cq := n.qp.send_cq ++ successWcs n.qp w o } := by
  unfold completeSend successWcs
  split
  · rw [ho]
  · rw [List.append_nil]
    rfl

theorem setInFlight_rest (l : InFlight) (ws : List SendWqe) (d : Int) :
    (q.setInFlight l ws d).send_cq = q.send_cq ∧ (q.setInFlight l ws d).inFlight l = ws := by
  cases l <;> exact ⟨rfl, rfl⟩

theorem postpone_rest (l : InFlight) :
    (postponeLocalAckTimeout now q).send_cq = q.send_cq ∧
      ((postponeLocalAckTimeout now q).inFlight l).map (·.trace_id) =
        (q.inFlight l).map (·.trace_id) := by
  cases l with
  | waiting => simp [postponeLocalAckTimeout, Qp.inFlight, Function.comp_def]
  | sending => exact ⟨rfl, rfl⟩

theorem freeSendWqe_rest (w : SendWqe) (l : InFlight) :
    (q.freeSendWqe w).send_cq = q.send_cq ∧ (q.freeSendWqe w).inFlight l = q.inFlight l := by
  cases l <;> exact ⟨rfl, rfl⟩

theorem finishRdAtomic_eq (now : Nat) (l : InFlight) (i : Nat)
    (ho : pibConvertWrOpcodeToWcOpcode w.opcode = some o) (hn : 0 < n.qp.requester.nr_rd_atomic) :
    let n' := finishRdAtomic now n l i w
    n'.mem = n.mem ∧ n'.crashes = n.crashes ∧
      n'.qp.send_cq = n.qp.send_cq ++ successWcs n.qp w o ∧
      (n'.qp.inFlight l).map (·.trace_id) = ((n.qp.inFlight l).eraseIdx i).map (·.trace_id) := by
  have hcq : (completeSend n w).qp.send_cq = n.qp.send_cq ++ successWcs n.qp w o := by
    rw [completeSend_eq n ho]
    rfl
  have hflight : (completeSend n w).qp.inFlight l = n.qp.inFlight l := by
    rw [completeSend_eq n ho]
    cases l <;> rfl
  have hrest : (completeSend n w).mem = n.mem ∧ (completeSend n w).crashes = n.crashes ∧
      (completeSend n w).qp.requester.nr_rd_atomic = n.qp.requester.nr_rd_atomic := by
    rw [completeSend_eq n ho]
    exact ⟨rfl, rfl, rfl⟩
  unfold finishRdAtomic
  generalize completeSend n w = n₁ at hcq hflight hrest ⊢
  obtain ⟨hmem, hcrash, hnr⟩ := hrest
  have hneg : ¬n₁.qp.decRequesterRdAtomic.requester.nr_rd_atomic < 0 := by
    change ¬n₁.qp.requester.nr_rd_atomic - 1 < 0
    omega
  dsimp only
  rw [if_neg hneg, hflight]
  generalize hq₁ : n₁.qp.decRequesterRdAtomic.setRequesterPsn w = q₁
  have hcq₁ : q₁.send_cq = n₁.qp.send_cq := by rw [← hq₁]; rfl
  refine ⟨hmem, hcrash, ?_, ?_⟩
  · rw [Node.setQp_qp, (postpone_rest now _ l).1, (freeSendWqe_rest _ w l).1, (setInFlight_rest _ l _ _).1,
      hcq₁, hcq]
  · rw [Node.setQp_qp, (postpone_rest now _ l).2, (freeSendWqe_rest _ w l).2, (setInFlight_rest _ l _ _).2]

/-- The element that the answer to the request is for. -/
theorem matchSendWqe_first (h : AtomicSetup n m w l ws mr ls) {q : Qp}
    (hq : q.requester.waiting_swqe = n.qp.requester.waiting_swqe ∧
      q.requester.sending_swqe = n.qp.requester.sending_swqe) :
    matchSendWqe q (psnMask w.processing.based_psn) = some (l, 0) := by
  have hm : matchesPsn (psnMask w.processing.based_psn) w = true := by
    have h0 : getPsnDiff (psnMask w.processing.based_psn) w.processing.based_psn = 0 :=
      getPsnDiff_zero (Nat.mod_mod _ _)
    have h1 : getPsnDiff (psnMask w.processing.based_psn) w.processing.expected_psn =
        (w.processing.based_psn : Int) - (w.processing.based_psn + 1) := by
      refine getPsnDiff_eq (P := w.processing.based_psn) (B := w.processing.based_psn + 1) ?_ ?_
        (by omega) (by omega)
      · rw [psnMask, PSN_MOD]
        omega
      · rw [h.span, u32]
        omega
    rw [matchesPsn, h0, h1]
    simp
  have hfirst := h.first
  unfold matchSendWqe
  rw [hq.1, hq.2]
  cases l with
  | waiting =>
    rw [show n.qp.requester.waiting_swqe = w :: ws from hfirst, List.findIdx?_cons, hm]
    rfl
  | sending =>
    rw [h.front rfl, show n.qp.requester.sending_swqe = w :: ws from hfirst, List.findIdx?_cons, hm]
    rfl

/-- The answer goes to the scatter list, and the element is done. -/
theorem receiveAtomicResponse_eq (h : AtomicSetup n m w l ws mr ls) {n₁ : Node}
    (hold : old < 2 ^ 64) (hpd : n₁.pd = n.pd)
    (hq : n₁.qp.requester.waiting_swqe = n.qp.requester.waiting_swqe ∧
      n₁.qp.requester.sending_swqe = n.qp.requester.sending_swqe) :
    receiveAtomicResponse now n₁ (psnMask w.processing.based_psn) (be 8 old) =
      finishRdAtomic now { n₁ with mem := scatter n₁.mem (ls.take 8) (le 8 old) } l 0 w := by
  have hflight : (n₁.qp.inFlight l)[0]? = some w := by
    have hf : n₁.qp.inFlight l = n.qp.inFlight l := by
      cases l
      · exact hq.1
      · exact hq.2
    rw [hf, h.first]
    rfl
  have hfirst : isFirst n₁.qp l 0 = true := by
    cases l with
    | waiting => rfl
    | sending => simp [isFirst, hq.1, h.front rfl]
  have hpsn : getPsnDiff w.processing.based_psn (psnMask w.processing.based_psn) = 0 :=
    getPsnDiff_zero (Nat.mod_mod _ _).symm
  have hstore : storeAtomicResponse n₁ w (be 8 old) =
      (.SUCCESS, scatter n₁.mem (ls.take 8) (le 8 old), []) := by
    have hval : ofBe (be 8 old) = old := ofBe_be_of_lt (hold.trans_le (by norm_num))
    have hsize := h.size
    rw [storeAtomicResponse, hval, hpd, pibUtilMrCopyData_transfer (Or.inr rfl) h.sges n₁.mem
      (le 8 old) (by norm_num) (by decide) (by omega)]
    rfl
  have hop : ¬(w.opcode ≠ .ATOMIC_CMP_AND_SWP ∧ w.opcode ≠ .ATOMIC_FETCH_AND_ADD) := by
    rcases h.isAtomic with ho | ho <;> simp [ho]
  unfold receiveAtomicResponse
  simp only [length_be, ne_eq, not_true_eq_false, if_false, matchSendWqe_first h hq, hflight, hstore]
  rw [if_neg hop, if_neg (by simp [hfirst, hpsn])]

theorem reportDrained_rest (l : InFlight) :
    (reportDrained q).send_cq = q.send_cq ∧ (reportDrained q).inFlight l = q.inFlight l := by
  unfold reportDrained
  cases l
  all_goals
    split
    · split <;> exact ⟨rfl, rfl⟩
    · exact ⟨rfl, rfl⟩

/-- A response whose syndrome is a plain acknowledge. -/
theorem receive_response_eq {p : RcPacket}
    (hready : pibIsRecvOk n.qp.state = true) (hack : pibOpcodeIsAcknowledge p.opcode = some true)
    {data : List UInt8} (hbuf : p.buffer = aeth PIB_SYND_ACK_CODE ++ data) :
    pibReceiveRcQpIncomingMessage cfg now n.qp.attr.port_num n p =
      acceptResponse now
        (n.setQp { n.qp with requester := { n.qp.requester with nr_contig_requests := 0 } })
        (psnMask p.psn) p := by
  have hcnp : p.opcode ≠ .CNP_SEND_NOTIFY := by
    intro he
    rw [he] at hack
    cases hack
  have hfour : (aeth PIB_SYND_ACK_CODE).length = 4 := rfl
  have hlen : ¬p.buffer.length < 4 := by
    rw [hbuf, List.length_append, hfour]
    omega
  have hsyn : syndCode (ofBe (p.buffer.take 4) / 2 ^ 24) = PIB_SYND_ACK_CODE := by
    rw [hbuf, List.take_left' hfour]
    decide
  unfold pibReceiveRcQpIncomingMessage
  rw [if_neg (by simp [hready]), if_neg hcnp, hack]
  simp only [receiveResponse, if_neg hlen, hsyn, if_true, ite_self]

/-- The requester takes the answer. -/
theorem receive_answer (cfg : Config) (now : Nat) (h : AtomicSetup n m w l ws mr ls)
    (hold : old < 2 ^ 64) (ho : pibConvertWrOpcodeToWcOpcode w.opcode = some o) :
    let n' := pibReceiveRcQpIncomingMessage cfg now n.qp.attr.port_num n
      (normalOrAtomicPacket (atomicAck (psnMask w.processing.based_psn) old))
    n'.mem = scatter n.mem (ls.take 8) (le 8 old) ∧ n'.crashes = n.crashes ∧
      n'.qp.send_cq = n.qp.send_cq ++ successWcs n.qp w o ∧
      (n'.qp.inFlight l).map (·.trace_id) = ws.map (·.trace_id) := by
  have hpacket : normalOrAtomicPacket (atomicAck (psnMask w.processing.based_psn) old) =
      { opcode := .ATOMIC_ACKNOWLEDGE, psn := psnMask w.processing.based_psn
        buffer := aeth PIB_SYND_ACK_CODE ++ be 8 old } := by
    simp [normalOrAtomicPacket, atomicAck, psnMask]
  rw [hpacket, receive_response_eq cfg now h.waits rfl rfl]
  generalize hn₁ : n.setQp { n.qp with requester := { n.qp.requester with nr_contig_requests := 0 } } = n₁
  have hpsn : psnMask (psnMask w.processing.based_psn) = psnMask w.processing.based_psn := by
    simp [psnMask]
  have hfields : n₁.pd = n.pd ∧ n₁.mem = n.mem ∧ n₁.crashes = n.crashes ∧
      n₁.qp.send_cq = n.qp.send_cq ∧ n₁.qp.init_attr = n.qp.init_attr ∧
      n₁.qp.requester.nr_rd_atomic = n.qp.requester.nr_rd_atomic ∧
      n₁.qp.requester.waiting_swqe = n.qp.requester.waiting_swqe ∧
      n₁.qp.requester.sending_swqe = n.qp.requester.sending_swqe := by
    subst hn₁
    exact ⟨rfl, rfl, rfl, rfl, rfl, rfl, rfl, rfl⟩
  obtain ⟨hpd, hmem, hcrash, hcq, hinit, hnr, hq⟩ := hfields
  have hflight : n₁.qp.inFlight l = w :: ws := by
    rw [← h.first]
    cases l
    · exact hq.1
    · exact hq.2
  have hcq' : successWcs n₁.qp w o = successWcs n.qp w o := by
    unfold successWcs isSignaled
    rw [hinit]
  obtain ⟨h1, h2, h3, h4⟩ := finishRdAtomic_eq now
    (n := { n₁ with mem := scatter n₁.mem (ls.take 8) (le 8 old) }) l 0 ho (by rw [hnr]; exact h.counted)
  have hdrop : (aeth PIB_SYND_ACK_CODE ++ be 8 old).drop 4 = be 8 old := List.drop_left' rfl
  simp only [acceptResponse, dispatchResponse, hdrop, hpsn]
  rw [receiveAtomicResponse_eq now h hold hpd hq]
  generalize finishRdAtomic now _ l 0 w = n₂ at h1 h2 h3 h4 ⊢
  obtain ⟨hd1, hd2⟩ := reportDrained_rest n₂.qp l
  refine ⟨h1.trans (by rw [hmem]), h2.trans hcrash, ?_, ?_⟩
  · rw [Node.setQp_qp, hd1, h3, hcq', ← hcq]
  · rw [Node.setQp_qp, hd2, h4, hflight]
    rfl

/-! ## The operation as a whole -/

/-- A packet that may have been sent arrives. -/
def receiveSome (cfg : Config) (now : Nat) (n : Node) (p : Option RcPacket) : Node :=
  p.elim n (pibReceiveRcQpIncomingMessage cfg now n.qp.attr.port_num n)

/-- What an atomic operation is for: the remote word holds the result and no
other byte there has changed, the scatter list holds the word as it was, and
the element is done. -/
structure AtomicDone (n m n' m' : Node) (w : SendWqe) (l : InFlight) (ws : List SendWqe)
    (ps ls : List Nat) : Prop where
  remote : ofLe (gather m'.mem ps) = w.result (ofLe (gather m.mem ps))
  others : ∀ x, x ∉ ps → m'.mem x = m.mem x
  answer : gather n'.mem (ls.take 8) = le 8 (ofLe (gather m.mem ps))
  rest : ∀ x, x ∉ ls.take 8 → n'.mem x = n.mem x
  completed : ∃ o, pibConvertWrOpcodeToWcOpcode w.opcode = some o ∧
    n'.qp.send_cq = n.qp.send_cq ++ successWcs n.qp w o
  retired : (n'.qp.inFlight l).map (·.trace_id) = ws.map (·.trace_id)
  sound : m'.crashes = m.crashes ∧ n'.crashes = n.crashes

/-- The answer goes out when it has come to the front of the queue. -/
theorem generate_atomic {r : Node} (hr : pibIsRecvOk r.qp.state = true) {psn res : Nat}
    (hhead : r.qp.responder.acks.head? = some (atomicAck psn res)) :
    (pibGenerateRcQpAcknowledge r).1.send_buffer =
      some (normalOrAtomicPacket (atomicAck psn res)) := by
  obtain ⟨acks, hacks⟩ := List.head?_eq_some_iff.mp hhead
  unfold pibGenerateRcQpAcknowledge
  rw [if_neg (by simp [hr]), hacks]
  rfl

/-- An atomic operation does what it is for if and only if an addition does,
and the responder has a place for its result. -/
theorem atomic_done_iff (cfg : Config) (now now' : Nat) (h : AtomicSetup n m w l ws mr ls)
    {r : Node} (hr : pibIsRecvOk r.qp.state = true) (hhead : r.qp.responder.acks.head? =
      (receiveSome cfg now m (buildRequest n (w.setSent 0)).2).qp.responder.acks.getLast?) :
    let ps := mr.places (w.wr.remote_addr - mr.start) 8
    AtomicDone n m (receiveSome cfg now' n (pibGenerateRcQpAcknowledge r).1.send_buffer)
        (receiveSome cfg now m (buildRequest n (w.setSent 0)).2) w l ws ps ls ↔
      (w.opcode = .ATOMIC_CMP_AND_SWP →
        u64 (ofLe (gather m.mem ps) + w.wr.compare_add) = w.result (ofLe (gather m.mem ps))) ∧
      slotFits m.qp := by
  have hbuild : (buildRequest n (w.setSent 0)).2 = some (atomicPacket (w.setSent 0)) := by
    rw [buildRequest_atomic n (w := w.setSent 0) h.isAtomic]
  obtain ⟨x, hx, hmem, hacks, hcrash⟩ := receive_atomic cfg now h
  obtain ⟨o, ho⟩ : ∃ o, pibConvertWrOpcodeToWcOpcode w.opcode = some o := by
    rcases h.isAtomic with ho | ho <;> rw [ho] <;> exact ⟨_, rfl⟩
  rw [hbuild] at hhead ⊢
  dsimp only [receiveSome, Option.elim] at hhead ⊢
  rw [hacks, List.getLast?_concat] at hhead
  obtain ⟨hmem', hcrash', hcq, hflight⟩ := receive_answer cfg now' h (wordAt_lt m.mem x) ho
  rw [generate_atomic hr hhead]
  have hword : ∀ mem : Mem, ofLe (gather mem (mr.places (w.wr.remote_addr - mr.start) 8)) = wordAt mem x := by
    intro mem
    rw [hx, ← read_eq_gather]
    rfl
  have hlen : (le 8 (u64 (wordAt m.mem x + w.wr.compare_add))).length = 8 := length_le _ _
  have hnew : wordAt (write m.mem x (le 8 (u64 (wordAt m.mem x + w.wr.compare_add)))) x =
      u64 (wordAt m.mem x + w.wr.compare_add) := by
    rw [wordAt_write]
    exact Nat.mod_mod _ _
  simp only [hword]
  constructor
  · intro hd
    have hremote := hd.remote
    rw [hword, hword, hmem, hnew] at hremote
    refine ⟨fun _ => hremote, ?_⟩
    by_contra hslot
    have hsound := hd.sound.1
    rw [hcrash, if_neg hslot] at hsound
    simp at hsound
  · rintro ⟨hcas, hslot⟩
    refine ⟨?_, ?_, ?_, ?_, ⟨o, ho, hcq⟩, hflight, by rw [hcrash, if_pos hslot], hcrash'⟩
    · rw [hword, hword, hmem, hnew]
      by_cases hop : w.opcode = .ATOMIC_CMP_AND_SWP
      · exact hcas hop
      · rw [SendWqe.result, if_neg hop]
    · intro y hy
      rw [hmem]
      refine write_outside ?_
      rw [hx, List.mem_range'_1] at hy
      omega
    · rw [hmem', hword]
      have hsize := h.size
      exact gather_scatter h.distinct _ (by rw [length_le, List.length_take]; omega)
    · intro y hy
      rw [hmem']
      exact scatter_outside hy _

/-! ## A word and two operations -/

/-- A region of one word, open for atomic operations. -/
def wordRegion : Mr :=
  { mr_num := 1, lkey := 0, rkey := 0, state := .VALID, start := 0x1000, length := 8
    access_flags := IB_ACCESS_LOCAL_WRITE ||| IB_ACCESS_REMOTE_ATOMIC
    umem := { page_shift := 12, offset := 0, pages := [some 0x8000] } }

def wordPd : Pd := ⟨1, fun i => if i = 0 then some wordRegion else none⟩

theorem wordRegion_backed : wordRegion.Backed := Mr.backed_of_page rfl rfl rfl (by decide) (by decide)

/-- A queue pair in RTS that has asked for the word, which holds 5, to be
changed, and waits for the answer. -/
def atomicNode (opcode : WrOpcode) : Node :=
  Run.run (step {} ibStateTable)
    (created {} { max_send_wr := 1 } none wordPd fun x => if x = 0x8000 then 5 else 0)
    (bringUp { path_mtu := 1, port_num := 1, max_rd_atomic := 1, max_dest_rd_atomic := 1 } ++
      [(1, .postSend (fun _ _ => none)
          [{ wr_id := 9, opcode, send_flags := { SIGNALED := true }
             sg_list := [{ addr := 0x1000, length := 8, lkey := 0 }]
             wr := { remote_addr := 0x1000, rkey := 0, swap := 7, compare_add := 5 } }]),
       (1, .schedule)])

def atomicElement (opcode : WrOpcode) : SendWqe :=
  { trace_id := 1, wr_id := 9, opcode, send_flags := { SIGNALED := true }, total_length := 8
    sge_array := [{ addr := 0x1000, length := 8, lkey := 0 }]
    processing := { list_type := .WAITING, expected_psn := 1, all_packets := 1, sent_packets := 1
                    schedule_time := 1, local_ack_time := PIB_SCHED_TIMEOUT + 1 }
    wr := { remote_addr := 0x1000, rkey := 0, swap := 7, compare_add := 5 } }

/-- The request comes to a queue pair in the same state. -/
theorem atomicElement_setup {opcode : WrOpcode}
    (hop : opcode = .ATOMIC_CMP_AND_SWP ∨ opcode = .ATOMIC_FETCH_AND_ADD) :
    AtomicSetup (atomicNode opcode) (atomicNode opcode) (atomicElement opcode) .waiting [] wordRegion
      (List.range' 0x8000 8) := by
  have hatomic : (atomicElement opcode).IsAtomic := hop
  rcases hop with rfl | rfl
  all_goals exact
    { isAtomic := hatomic
      rkey_lt := by decide
      swap_lt := by decide
      compare_lt := by decide
      ready := by decide
      psn := by decide
      idle := by decide
      room := by decide
      names := ⟨rfl, rfl, rfl, wordRegion_backed⟩
      words := ⟨fun _ => by decide, fun _ => by decide⟩
      grants := by decide
      aligned := by decide
      lo := by decide
      hi := by decide
      waits := by decide
      first := by decide
      front := nofun
      span := by decide
      counted := by decide
      sges := .cons wordRegion rfl rfl rfl (by decide) wordRegion_backed (by decide) (by decide) .nil
      size := by decide
      distinct := by decide }

/-- The queue pair after the request has come to it. -/
def atomicAnswerer (opcode : WrOpcode) : Node :=
  receiveSome {} 2 (atomicNode opcode)
    (buildRequest (atomicNode opcode) ((atomicElement opcode).setSent 0)).2

theorem fetchAndAdd_done :
    AtomicDone (atomicNode .ATOMIC_FETCH_AND_ADD) (atomicNode .ATOMIC_FETCH_AND_ADD)
      (receiveSome {} 3 (atomicNode .ATOMIC_FETCH_AND_ADD)
        (pibGenerateRcQpAcknowledge (atomicAnswerer .ATOMIC_FETCH_AND_ADD)).1.send_buffer)
      (atomicAnswerer .ATOMIC_FETCH_AND_ADD) (atomicElement .ATOMIC_FETCH_AND_ADD) .waiting []
      (wordRegion.places 0 8) (List.range' 0x8000 8) :=
  (atomic_done_iff {} 2 3 (atomicElement_setup (Or.inr rfl)) (by decide) (by decide)).mpr
    ⟨nofun, by decide⟩

/-- The word holds 5 and is to become 7 if it holds 5: it becomes 10. -/
theorem compareAndSwap_adds :
    AtomicSetup (atomicNode .ATOMIC_CMP_AND_SWP) (atomicNode .ATOMIC_CMP_AND_SWP)
        (atomicElement .ATOMIC_CMP_AND_SWP) .waiting [] wordRegion (List.range' 0x8000 8) ∧
      wordAt (atomicNode .ATOMIC_CMP_AND_SWP).mem 0x8000 = 5 ∧
      (atomicElement .ATOMIC_CMP_AND_SWP).result 5 = 7 ∧
      wordAt (atomicAnswerer .ATOMIC_CMP_AND_SWP).mem 0x8000 = 10 ∧
      ¬ AtomicDone (atomicNode .ATOMIC_CMP_AND_SWP) (atomicNode .ATOMIC_CMP_AND_SWP)
        (receiveSome {} 3 (atomicNode .ATOMIC_CMP_AND_SWP)
          (pibGenerateRcQpAcknowledge (atomicAnswerer .ATOMIC_CMP_AND_SWP)).1.send_buffer)
        (atomicAnswerer .ATOMIC_CMP_AND_SWP) (atomicElement .ATOMIC_CMP_AND_SWP) .waiting []
        (wordRegion.places 0 8) (List.range' 0x8000 8) := by
  have hplaces : wordRegion.places 0 8 = List.range' 0x8000 8 := by decide
  refine ⟨atomicElement_setup (Or.inl rfl), by decide, by decide, by decide, fun hd => ?_⟩
  have hremote := hd.remote
  rw [hplaces] at hremote
  revert hremote
  decide

end pib
