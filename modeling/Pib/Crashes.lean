-- Which of the crash sites a step can run into. Every function adds crashes
-- from a set `P` only, as soon as the sites that its input or the state of the
-- queue pair can reach are in `P`.
import Pib.SendInvariant
import Pib.SendMovesSchedule

namespace pib

open Bytes

variable (cfg : Config) (now : Nat) (n : Node) (ws : List SendWqe) (psn : Nat) (p : RcPacket)
    {n' : Node} {q : Qp} {w : SendWqe}

variable {P : Crash → Prop}

/-- From `n` to `n'` only crashes in `P` are added. -/
def Adds (P : Crash → Prop) (n n' : Node) : Prop :=
  ∃ l, n'.crashes = n.crashes ++ l ∧ ∀ x ∈ l, P x

namespace Adds

theorem same {n : Node} (h : n'.crashes = n.crashes) : Adds P n n' := ⟨[], by simp [h], by simp⟩

theorem refl : Adds P n n := same rfl

theorem trans {n n'' : Node} (h : Adds P n n') (h' : Adds P n' n'') : Adds P n n'' := by
  obtain ⟨l, hl, hP⟩ := h
  obtain ⟨l', hl', hP'⟩ := h'
  refine ⟨l ++ l', by rw [hl', hl, List.append_assoc], ?_⟩
  intro x hx
  rcases List.mem_append.mp hx with hx | hx
  · exact hP x hx
  · exact hP' x hx

/-- What happens to the queue pair adds no crash. -/
theorem qp (q : Qp) : Adds P n (n.setQp q) := same rfl

theorem setQp {n : Node} (h : Adds P (n.setQp q) n') : Adds P n n' := h

theorem setMem {n : Node} {m : Bytes.Mem} (h : Adds P { n with mem := m } n') : Adds P n n' := h

theorem crash {n : Node} {x : Crash} (h : P x) : Adds P n (n.crash x) :=
  ⟨[x], rfl, by simpa using h⟩

/-- The crashes of the headers of a packet. -/
theorem headers {n : Node} (h : ∀ x ∈ Node.headerCrashes n.qp.attr, P x) : Adds P n n.headers :=
  ⟨_, rfl, h⟩

theorem mem {n : Node} (h : Adds P n n') {x : Crash} (hx : x ∈ n'.crashes) :
    x ∈ n.crashes ∨ P x := by
  obtain ⟨l, hl, hP⟩ := h
  rw [hl] at hx
  exact (List.mem_append.mp hx).imp id (hP x)

end Adds

/-! ## Requests -/

/-- The counter of RDMA READ and atomic requests is not found below zero. -/
abbrev KeepsCount : Node → Node → Prop := Adds (· ≠ .nrRdAtomic)

theorem keepsCount_receiveRequest : KeepsCount n (receiveRequest cfg now n p) := by
  refine receiveRequest_of_steps (R := KeepsCount) (fun n => Adds.refl n) Adds.trans cfg now p
    (fun h => ?_) n
  cases h with
  | crash hc => exact Adds.crash hc
  | store slot =>
    unfold storeSlot
    dsimp only
    split
    · exact Adds.trans (Adds.qp _ _) (Adds.crash (by decide))
    · exact Adds.qp _ _
  | _ => exact Adds.same rfl

/-! ## Responses -/

theorem keepsCount_completeSend (w : SendWqe) : KeepsCount n (completeSend n w) := by
  unfold completeSend
  split
  · split
    · exact Adds.crash (by decide)
    · exact Adds.qp _ _
  · exact Adds.refl n

theorem keepsCount_ackLoop (l : InFlight) (psn : Nat) (ws : List SendWqe) :
    ∀ n : Node, KeepsCount n (ackLoop l psn ws n).1 := by
  induction ws with
  | nil => exact fun n => Adds.refl n
  | cons w ws ih =>
    intro n
    unfold ackLoop
    rcases processAcknowledge_cases n w psn with ⟨w', he, -⟩ | he | ⟨k, he, -⟩ | ⟨he, -⟩
    · rw [he]
      exact Adds.qp _ _
    · rw [he]
      exact Adds.refl n
    · rw [he]
      exact Adds.qp _ _
    · rw [he]
      exact (keepsCount_completeSend n w).trans (Adds.trans (Adds.qp _ _) (ih _))

theorem keepsCount_receiveAckResponse : KeepsCount n (receiveAckResponse now n psn) := by
  have h1 := keepsCount_ackLoop .waiting psn n.qp.requester.waiting_swqe n
  unfold receiveAckResponse
  generalize ackLoop .waiting psn n.qp.requester.waiting_swqe n = r at h1 ⊢
  obtain ⟨n₁, e₁⟩ := r
  cases e₁ with
  | error | stop => exact h1.trans (Adds.qp _ _)
  | next =>
    have h2 := h1.trans (keepsCount_ackLoop .sending psn n₁.qp.requester.sending_swqe n₁)
    dsimp only
    generalize ackLoop .sending psn n₁.qp.requester.sending_swqe n₁ = r at h2 ⊢
    obtain ⟨n₂, e₂⟩ := r
    cases e₂ <;> exact h2.trans (Adds.qp _ _)

theorem keepsCount_finishRdAtomic (l : InFlight) (i : Nat) (w : SendWqe)
    (hnr : 0 < n.qp.requester.nr_rd_atomic) : KeepsCount n (finishRdAtomic now n l i w) := by
  have hr := completeSend_requester n w
  unfold finishRdAtomic
  dsimp only
  refine (keepsCount_completeSend n w).trans ?_
  split
  · rename_i hneg
    rw [Qp.decRequesterRdAtomic] at hneg
    dsimp only at hneg
    rw [hr] at hneg
    omega
  · exact Adds.qp _ _

theorem noRdAtomic_headers (attr : QpAttr) : ∀ x ∈ Node.headerCrashes attr, x ≠ .nrRdAtomic := by
  rintro x hx rfl
  unfold Node.headerCrashes at hx
  rcases List.mem_append.mp hx with hx | hx <;> split at hx <;> simp at hx

theorem keepsCount_acceptReadResponse (l : InFlight) (i : Nat) (w : SendWqe)
    (hnr : 0 < n.qp.requester.nr_rd_atomic) : KeepsCount n (acceptReadResponse now n l i w) := by
  have hcount : KeepsCount n (countReadResponse n) := by
    unfold countReadResponse
    dsimp only
    split
    · exact Adds.setQp ((Adds.headers (noRdAtomic_headers _)).trans (Adds.same rfl))
    · exact Adds.qp _ _
  have hsame : (countReadResponse n).qp.requester.nr_rd_atomic = n.qp.requester.nr_rd_atomic :=
    congrArg SendQ.nr_rd_atomic (countReadResponse_sendQ n)
  unfold acceptReadResponse
  refine hcount.trans ?_
  split
  · exact Adds.qp _ _
  · exact keepsCount_finishRdAtomic now _ l i w (by rwa [hsame])

/-- An element of that kind in flight is counted. -/
theorem RdAtomics.pos (h : RdAtomics q.sendQ) {l : InFlight} {i : Nat}
    (hw : (q.inFlight l)[i]? = some w) (hop : pibIsWrOpcodeRdAtomic w.opcode = true) :
    0 < q.requester.nr_rd_atomic := by
  have hmem : w ∈ q.sendQ.flight := by
    have hw := List.mem_of_getElem? hw
    cases l with
    | waiting => exact List.mem_append_left _ hw
    | sending => exact List.mem_append_right _ hw
  have hpos : 0 < q.sendQ.flight.countP SendWqe.isRdAtomic := List.countP_pos_iff.mpr ⟨w, hmem, hop⟩
  have hr : q.requester.nr_rd_atomic = (q.sendQ.flight.countP SendWqe.isRdAtomic : Nat) := h
  omega

theorem keepsCount_receiveRdmaReadResponse (buffer : List UInt8) (h : RdAtomics n.qp.sendQ) :
    KeepsCount n (receiveRdmaReadResponse now n psn buffer) := by
  unfold receiveRdmaReadResponse
  split
  · exact Adds.refl n
  rename_i l i hm
  split
  · exact Adds.refl n
  rename_i w hw
  generalize storeReadResponse n w buffer = r
  obtain ⟨status, mem, data⟩ := r
  dsimp only
  split
  · exact Adds.qp _ _
  rename_i hop
  have hop : w.opcode = .RDMA_READ := by simpa using hop
  split
  · exact Adds.refl n
  split
  · exact Adds.qp _ _
  · exact Adds.setMem (keepsCount_acceptReadResponse now { n with mem } l i _
      (h.pos hw (by simp [hop, pibIsWrOpcodeRdAtomic])))

theorem keepsCount_receiveAtomicResponse (buffer : List UInt8) (h : RdAtomics n.qp.sendQ) :
    KeepsCount n (receiveAtomicResponse now n psn buffer) := by
  unfold receiveAtomicResponse
  split
  · exact Adds.refl n
  split
  · exact Adds.refl n
  rename_i l i hm
  split
  · exact Adds.refl n
  rename_i w hw
  generalize storeAtomicResponse n w buffer = r
  obtain ⟨status, mem, data⟩ := r
  dsimp only
  split
  · exact Adds.qp _ _
  rename_i hop
  have hrd : pibIsWrOpcodeRdAtomic w.opcode = true := by
    by_contra hn
    refine hop ⟨fun e => ?_, fun e => ?_⟩ <;> simp [e, pibIsWrOpcodeRdAtomic] at hn
  split
  · exact Adds.refl n
  split
  · exact Adds.qp _ _
  · exact Adds.setMem (keepsCount_finishRdAtomic now { n with mem } l i w (h.pos hw hrd))

theorem keepsCount_acceptResponse (h : RdAtomics n.qp.sendQ) :
    KeepsCount n (acceptResponse now n psn p) := by
  have hd : KeepsCount n (dispatchResponse now n psn p) := by
    unfold dispatchResponse
    split
    all_goals first
      | with_reducible exact keepsCount_receiveAckResponse now n psn
      | with_reducible exact keepsCount_receiveRdmaReadResponse now n psn _ h
      | with_reducible exact keepsCount_receiveAtomicResponse now n psn _ h
      | exact Adds.crash (by decide)
  exact hd.trans (Adds.qp _ _)

theorem keepsCount_receiveResponse (h : RdAtomics n.qp.sendQ) :
    KeepsCount n (receiveResponse cfg now n p) := by
  unfold receiveResponse
  split
  · exact Adds.refl n
  dsimp only
  refine Adds.setQp (q := { n.qp with requester := { n.qp.requester with
    nr_contig_requests := 0 } }) ?_
  have h' : RdAtomics (n.setQp { n.qp with requester := { n.qp.requester with
    nr_contig_requests := 0 } }).qp.sendQ := h
  generalize n.setQp { n.qp with requester := { n.qp.requester with
    nr_contig_requests := 0 } } = n' at h' ⊢
  split
  · exact keepsCount_acceptResponse now n' _ p h'
  split
  · exact keepsCount_acceptResponse now n' _ p h'
  split
  · exact Adds.qp _ _
  split
  · split
    · exact Adds.qp _ _
    split
    · rename_i status hnak
      have hne : status ≠ .RNR_RETRY_EXC_ERR := fun h => nakStatus_ne_rnr _ (h ▸ hnak)
      have hm : Moves (Ctx.any now) _ [] _ := moves_setSendWqeToError n'.qp (psnMask p.psn) hne
      exact Adds.setQp (keepsCount_acceptResponse now (n'.setQp _) _ p
        (hm.keep (fun hm => rdAtomics_move hm) h'))
    · exact keepsCount_acceptResponse now n' _ p h'
  · exact Adds.refl n'

theorem keepsCount_receive (port_num : Nat) (n : Node) (p : RcPacket) (h : RdAtomics n.qp.sendQ) :
    KeepsCount n (pibReceiveRcQpIncomingMessage cfg now port_num n p) := by
  unfold pibReceiveRcQpIncomingMessage
  split
  · exact Adds.refl n
  split
  · exact Adds.qp _ _
  split
  · exact Adds.crash (by decide)
  · exact keepsCount_receiveResponse cfg now n p h
  · exact keepsCount_receiveRequest cfg now n p

/-! ## The scheduler -/

/-- The element asks for one of the two local requests. -/
def SendWqe.LocalOpcode (w : SendWqe) : Prop := w.opcode = .LOCAL_INV ∨ w.opcode = .FAST_REG_MR

/-- What the scheduler can run into with this queue pair is in `P`. -/
structure SchedSafe (P : Crash → Prop) (n : Node) : Prop where
  headers : ∀ x ∈ Node.headerCrashes n.qp.attr, P x
  loc : ∀ w ∈ n.qp.sendQ.flight, w.local_only_request = true → w.LocalOpcode ∨ P .localOnlyOpcode
  list : ∀ w ∈ n.qp.sendQ.sending, w.processing.list_type = .SENDING ∨ P .swqeList
  inline : ∀ w ∈ n.qp.sendQ.sending, w.local_only_request = false →
    inlineOverrun n w = false ∨ P .inlineOverrun

/-- The same of every queue pair that moves reach from this one. -/
def ReachSafe (P : Crash → Prop) (now : Nat) (n : Node) : Prop :=
  ∀ n' : Node, Moves (Ctx.any now) n.qp.sendQ [] n'.qp.sendQ → SchedSafe P n'

theorem ReachSafe.trans {now : Nat} {n m : Node} (h : ReachSafe P now n)
    (hm : Moves (Ctx.any now) n.qp.sendQ [] m.qp.sendQ) : ReachSafe P now m :=
  fun n' hm' => h n' (hm.trans_silent hm')

theorem ReachSafe.here {now : Nat} {n : Node} (h : ReachSafe P now n) : SchedSafe P n :=
  h n (Moves.refl _)

theorem adds_generateAcknowledge {n : Node} (h : ∀ x ∈ Node.headerCrashes n.qp.attr, P x) :
    Adds P n (pibGenerateRcQpAcknowledge n).1 := by
  have hread : ∀ ack acks, Adds P n (generateRdmaReadResponse n ack acks) := by
    intro ack acks
    unfold generateRdmaReadResponse
    split
    · exact (Adds.headers h).trans (Adds.qp _ _)
    · exact Adds.headers h
  unfold pibGenerateRcQpAcknowledge
  split
  · exact Adds.refl n
  split
  · exact Adds.refl n
  split
  · exact (Adds.headers h).trans (Adds.qp _ _)
  · exact (Adds.headers h).trans (Adds.qp _ _)
  split
  · exact Adds.refl n
  dsimp only
  split
  · exact hread _ _
  split
  · exact hread _ _
  · exact (hread _ _).trans (Adds.qp _ _)

theorem adds_processLocalOnlyRequest
    (h : w.LocalOpcode ∨ P .localOnlyOpcode) : Adds P n (pibProcessLocalOnlyRequest n w).1 := by
  unfold pibProcessLocalOnlyRequest
  split
  · exact Adds.refl n
  split
  · exact Adds.same rfl
  · exact Adds.same rfl
  rename_i hinv hreg
  refine Adds.crash (h.resolve_left ?_)
  rintro (h | h)
  · exact hinv h
  · exact hreg h

theorem adds_processRcQpRequest {n : Node} (h : SchedSafe P n) (hw : w ∈ n.qp.sendQ.sending) :
    Adds P n (pibProcessRcQpRequest cfg now n w).1 := by
  have hlocal := fun hl => adds_processLocalOnlyRequest n (h.loc w (List.mem_append_right _ hw) hl)
  have hwritten (hl : w.local_only_request = false) : Adds P n (n.written w) := by
    refine (Adds.headers h.headers).trans ?_
    unfold Node.written
    split
    · rename_i ho
      refine Adds.crash ((h.inline w hw hl).resolve_left fun hf => ?_)
      exact nomatch hf.symm.trans ho
    · exact Adds.refl _
  have hr := processRcQpRequest_cases cfg now n w
  generalize pibProcessRcQpRequest cfg now n w = r at hr ⊢
  cases hr with
  | ran hl _ he | failed hl _ he =>
    rw [he] at hlocal
    exact hlocal hl
  | later | exhausted => exact Adds.refl n
  | unbuilt hl => exact (hwritten hl).trans (Adds.qp _ _)
  | sent hl => exact (hwritten hl).trans (Adds.same rfl)

theorem adds_processSendWr {n : Node}
    (h : SchedSafe P n) (hw : w ∈ n.qp.sendQ.sending) : Adds P n (processSendWr cfg now n w ws) := by
  unfold processSendWr
  split
  · rename_i hl
    exact Adds.crash ((h.list w hw).resolve_left hl)
  rename_i hl
  split
  · exact Adds.qp _ _
  rename_i hst
  have hadds := adds_processRcQpRequest cfg now h hw
  have hlist := list_processRcQpRequest cfg now n w (by simpa using hl) (by simpa using hst)
  generalize pibProcessRcQpRequest cfg now n w = r at hadds hlist ⊢
  obtain ⟨n', w'⟩ := r
  refine hadds.trans ?_
  dsimp only at hlist ⊢
  split
  · exact Adds.qp _ _
  · exact Adds.qp _ _
  · exact Adds.qp _ _
  rename_i he
  rw [he] at hlist
  exact absurd hlist (by decide)

theorem adds_processSendingHead {n : Node} (h : ReachSafe P now n) :
    Adds P n (processSendingHead cfg now n) := by
  unfold processSendingHead
  split
  · exact Adds.refl n
  rename_i w ws hw
  split
  · exact Adds.refl n
  split
  · exact Adds.refl n
  split
  · exact Adds.refl n
  rename_i htime
  have hm := moves_setSchedule (c := Ctx.any now) hw (Nat.le_of_not_lt htime)
  exact Adds.setQp (adds_processSendWr cfg now ws (h.trans (m := n.setQp _) hm).here
    List.mem_cons_self)

theorem adds_processLocalOnlyHead {n : Node} (h : w.LocalOpcode ∨ P .localOnlyOpcode) :
    Adds P n (processLocalOnlyHead cfg now n w ws) := by
  have h : Adds P n (if cfg.relaxed_invalidation_ordering then (n, w, true)
      else pibProcessLocalOnlyRequest n w).1 := by
    split
    · exact Adds.refl n
    · exact adds_processLocalOnlyRequest n h
  unfold processLocalOnlyHead
  generalize (if cfg.relaxed_invalidation_ordering then (n, w, true)
    else pibProcessLocalOnlyRequest n w) = r at h ⊢
  obtain ⟨n', w', ok⟩ := r
  cases ok <;> exact h.trans (Adds.qp _ _)

theorem adds_processRequester {n : Node} (h : ReachSafe P now n) :
    Adds P n (processRequester cfg now n) := by
  have hr := processRequester_cases cfg now n
  generalize processRequester cfg now n = n', sendingTurn now n = o at hr ⊢
  cases hr with
  | idle => exact Adds.refl n
  | localHead _ hw hl =>
    refine adds_processLocalOnlyHead cfg now _ (h.here.loc _ ?_ hl)
    simp [SendQ.flight, Qp.sendQ, hw]
  | @turn m _ _ ht =>
    have hsame : Adds P n m := Adds.same (by cases ht <;> rfl)
    exact hsame.trans (adds_processSendingHead cfg now (h.trans (moves_turn ht)))

/-- The scheduler runs into no more than the queue pair lets it run into. -/
theorem adds_processOnQpScheduler {n : Node} (h : ReachSafe P now n) :
    Adds P n (processOnQpScheduler cfg now n) := by
  have hadds := adds_generateAcknowledge h.here.headers
  obtain ⟨n', he, hr⟩ := scheduler_cases cfg now n
  rw [he]
  rcases hr with hr | ⟨-, rfl⟩
  · rw [hr] at hadds
    exact hadds.trans (Adds.qp _ _)
  · exact (adds_processRequester cfg now h).trans (Adds.qp _ _)

end pib
