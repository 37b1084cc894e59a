-- The send queue of a queue pair seen from a distance: four lists of
-- elements, their counters, two sequence numbers and the completions
-- reported. Whatever the driver does to it is a run of a few moves, and the
-- laws of the send queue are proved move by move.
import Pib.Thread

namespace pib

/-! ## The abstract send queue -/

structure SendQ where
  qp_type : QpType
  attr : QpAttr
  sig_all : Bool
  local_ack_timeout : Nat
  max_rd_atomic : Nat
  state : QpState
  psn : Nat
  expected_psn : Nat
  nr_submitted : Int
  nr_sending : Int
  nr_waiting : Int
  nr_rd_atomic : Int
  submitted : List SendWqe
  sending : List SendWqe
  waiting : List SendWqe
  free : List SendWqe
  cq : List Wc

/-- What the queue pair's send queue looks like from a distance. -/
def Qp.sendQ (q : Qp) : SendQ :=
  { qp_type := q.qp_type
    attr := q.attr
    sig_all := q.init_attr.sig_all_wr
    local_ack_timeout := q.local_ack_timeout
    max_rd_atomic := q.requester.max_rd_atomic
    state := q.state
    psn := q.requester.psn
    expected_psn := q.requester.expected_psn
    nr_submitted := q.requester.nr_submitted_swqe
    nr_sending := q.requester.nr_sending_swqe
    nr_waiting := q.requester.nr_waiting_swqe
    nr_rd_atomic := q.requester.nr_rd_atomic
    submitted := q.requester.submitted_swqe
    sending := q.requester.sending_swqe
    waiting := q.requester.waiting_swqe
    free := q.requester.free_swqe
    cq := q.send_cq }

/-- An element without its status, its timers and its retry counters. -/
def SendWqe.core (w : SendWqe) : SendWqe :=
  { w with processing := { w.processing with
    status := .SUCCESS, schedule_time := 0, local_ack_time := 0, retry_cnt := 0, rnr_retry := 0
    done := false } }

/-- What tells elements apart when their contents are overwritten. -/
def SendWqe.key (w : SendWqe) : Nat × Bool := (w.trace_id, w.local_only_request)

def SendWqe.setAck (w : SendWqe) (k : Nat) : SendWqe :=
  { w with processing := { w.processing with ack_packets := k } }

def SendWqe.setSent (w : SendWqe) (k : Nat) : SendWqe :=
  { w with processing := { w.processing with sent_packets := k } }

def SendWqe.setList (w : SendWqe) (l : SwqeList) : SendWqe :=
  { w with processing := { w.processing with list_type := l } }

/-- One more packet of an RDMA READ has come. -/
def SendWqe.progress (w : SendWqe) (ack_time : Nat) : SendWqe :=
  { w with processing := { w.processing with
    local_ack_time := ack_time
    sent_packets := u32 (w.processing.sent_packets + 1)
    ack_packets := u32 (w.processing.ack_packets + 1) } }

/-- The completion of an element that is flushed. -/
def flushWc (w : SendWqe) : Wc := { wr_id := w.wr_id, status := .WR_FLUSH_ERR, opcode := .ofWr w.opcode }

/-- The completion of an element that fails. -/
def errorWc (w : SendWqe) (status : WcStatus) : Wc :=
  { wr_id := w.wr_id, status, opcode := .ofWr w.opcode }

namespace SendQ

/-- The elements in flight, in the order of their PSNs. -/
def flight (s : SendQ) : List SendWqe := s.waiting ++ s.sending

/-- The first element in flight. -/
def head? (s : SendQ) : Option SendWqe := s.flight.head?

/-- The first element in flight is overwritten. -/
def setHead (s : SendQ) (w : SendWqe) : SendQ :=
  match s.waiting with
  | _ :: ws => { s with waiting := w :: ws }
  | [] => { s with sending := w :: s.sending.tail }

/-- The first element in flight leaves its list. -/
def dropHead (s : SendQ) : SendQ :=
  match s.waiting with
  | _ :: ws => { s with waiting := ws, nr_waiting := s.nr_waiting - 1 }
  | [] => { s with sending := s.sending.tail, nr_sending := s.nr_sending - 1 }

/-- The completion of an element that succeeds, if it is to be reported. -/
def successWc (s : SendQ) (w : SendWqe) : List Wc :=
  if s.sig_all || w.send_flags.SIGNALED then
    match pibConvertWrOpcodeToWcOpcode w.opcode with
    | some opcode => [{ wr_id := w.wr_id, status := .SUCCESS, opcode }]
    | none => []
  else []

/-- The first element in flight succeeds, and goes back to the free list as `f`. -/
def completeHead (s : SendQ) (w f : SendWqe) : SendQ :=
  { s.dropHead with
    free := s.free ++ [f]
    cq := s.cq ++ s.successWc w
    psn := psnMask w.processing.expected_psn
    nr_rd_atomic := if pibIsWrOpcodeRdAtomic w.opcode then s.nr_rd_atomic - 1 else s.nr_rd_atomic }

/-- Everything goes back to the free list, with these completions. -/
def empty (s : SendQ) (free : List SendWqe) (wcs : List Wc) : SendQ :=
  { s with
    state := .ERR, submitted := [], sending := [], waiting := [], free
    nr_submitted := 0, nr_sending := 0, nr_waiting := 0, nr_rd_atomic := 0
    cq := s.cq ++ wcs }

/-- The queue pair fails and all is flushed. -/
def failAll (s : SendQ) (free : List SendWqe) : SendQ :=
  s.empty free ((s.flight ++ s.submitted).map flushWc)

/-- The first element in flight fails, and the rest is flushed. -/
def failHead (s : SendQ) (w : SendWqe) (status : WcStatus) (free : List SendWqe) : SendQ :=
  s.empty free (errorWc w status :: (s.flight.tail ++ s.submitted).map flushWc)

/-- All that waits is sent again, in front of what is being sent. -/
def resend (s : SendQ) (waiting : List SendWqe) : SendQ :=
  { s with
    waiting := []
    nr_waiting := s.nr_waiting - s.waiting.length
    sending := waiting.map SendWqe.resend ++ s.sending.map fun w => w.setSent w.processing.ack_packets
    nr_sending := s.nr_sending + s.waiting.length }

end SendQ

/-! ## Moves -/

/-- The circumstances of a move: the time, and whether an RNR NAK is taken. -/
structure Ctx where
  now : Nat
  rnr : Prop

/-- Circumstances in which everything is allowed. -/
def Ctx.any (now : Nat) : Ctx := { now, rnr := True }

/-- The element may be given this status. `RNR_RETRY_EXC_ERR` is for those without retries. -/
def SendWqe.MayGet (w : SendWqe) (status : WcStatus) : Prop :=
  status = .RNR_RETRY_EXC_ERR →
    w.processing.status = .RNR_RETRY_EXC_ERR ∨ w.processing.rnr_retry < 0

/-- An element in flight changes in what does not matter to the queue: its
timers, its retry counters and its status. -/
structure Touched (c : Ctx) (w w' : SendWqe) : Prop where
  core : w'.core = w.core
  sched : w'.processing.schedule_time = w.processing.schedule_time ∨
    (w.processing.schedule_time ≤ c.now ∧ w'.processing.schedule_time = c.now) ∨
    (c.rnr ∧ w'.processing.schedule_time < PIB_SCHED_TIMEOUT)
  retries : w'.processing.rnr_retry = w.processing.rnr_retry ∨ c.rnr
  status : w.MayGet w'.processing.status

/-- An element that waits keeps its acknowledge time or gets the time `t`. -/
def TouchedWaiting (c : Ctx) (t : Nat) (w w' : SendWqe) : Prop :=
  Touched c w w' ∧ (w'.processing.local_ack_time = w.processing.local_ack_time ∨
    w'.processing.local_ack_time = t)

theorem Touched.refl (c : Ctx) (w : SendWqe) : Touched c w w :=
  ⟨rfl, Or.inl rfl, Or.inl rfl, Or.inl⟩

theorem TouchedWaiting.refl (c : Ctx) (t : Nat) (w : SendWqe) : TouchedWaiting c t w w :=
  ⟨Touched.refl c w, Or.inl rfl⟩

/-- Why the first element may complete: a positive acknowledge covers all of
it, or the last response of an RDMA READ or the response of an atomic came. -/
inductive Completes (w : SendWqe) : Prop
  | acked (hop : pibIsWrOpcodeRdAtomic w.opcode = false) (hst : w.processing.status = .SUCCESS)
  | read (hop : w.opcode = .RDMA_READ)
      (h : w.processing.all_packets ≤ u32 (w.processing.sent_packets + 1))
  | atomic (hop : w.opcode = .ATOMIC_CMP_AND_SWP ∨ w.opcode = .ATOMIC_FETCH_AND_ADD)

/-- With `sent` packets all of the element has been sent. -/
def SendWqe.AllSent (w : SendWqe) (sent : Nat) : Prop :=
  (w.local_only_request = true ∧ sent = w.processing.sent_packets) ∨
    (w.opcode = .RDMA_READ ∧ sent = w.processing.sent_packets) ∨
    (w.opcode ≠ .RDMA_READ ∧ sent = u32 (w.processing.sent_packets + 1) ∧
      w.processing.all_packets ≤ sent)

/-- One move. The label is the work request that it accepts, if it is a post. -/
inductive Move (c : Ctx) : SendQ → Option SendWr → SendQ → Prop
  | touch {s : SendQ} (waiting sending : List SendWqe)
      (hw : List.Forall₂ (TouchedWaiting c (c.now + s.local_ack_timeout)) s.waiting waiting)
      (hs : List.Forall₂ (Touched c) s.sending sending) :
      Move c s none { s with waiting, sending }
  | ack {s : SendQ} {w : SendWqe} (k : Nat) (h : s.head? = some w)
      (hop : pibIsWrOpcodeRdAtomic w.opcode = false)
      (hk : w.processing.ack_packets < k) (hk' : k < w.processing.all_packets) :
      Move c s none (s.setHead (w.setAck k))
  | progress {s : SendQ} {w : SendWqe} (h : s.head? = some w) (hop : w.opcode = .RDMA_READ)
      (hk : u32 (w.processing.sent_packets + 1) < w.processing.all_packets) :
      Move c s none (s.setHead (w.progress (c.now + s.local_ack_timeout)))
  | complete {s : SendQ} {w f : SendWqe} (h : s.head? = some w) (hf : f.key = w.key)
      (why : Completes w) :
      Move c s none (s.completeHead w f)
  | fail {s : SendQ} {w : SendWqe} {status : WcStatus} {free : List SendWqe}
      (h : s.head? = some w) (hne : status ≠ .SUCCESS)
      (hst : w.MayGet status)
      (hfree : (free.map SendWqe.key).Perm
        ((s.free ++ s.flight ++ s.submitted).map SendWqe.key)) :
      Move c s none (s.failHead w status free)
  | failAll {s : SendQ} {free : List SendWqe}
      (hfree : (free.map SendWqe.key).Perm
        ((s.free ++ s.flight ++ s.submitted).map SendWqe.key)) :
      Move c s none (s.failAll free)
  | resend {s : SendQ} (waiting : List SendWqe)
      (hw : List.Forall₂ (Touched c) s.waiting waiting) :
      Move c s none (s.resend waiting)
  | sendMore {s : SendQ} {w : SendWqe} {ws : List SendWqe} (h : s.sending = w :: ws)
      (hop : w.opcode ≠ .RDMA_READ)
      (hk : u32 (w.processing.sent_packets + 1) < w.processing.all_packets) :
      Move c s none
        { s with sending := w.setSent (u32 (w.processing.sent_packets + 1)) :: ws }
  | wait {s : SendQ} {w w' : SendWqe} {ws : List SendWqe} (sent : Nat) (h : s.sending = w :: ws)
      (hsent : w.AllSent sent)
      (hcore : w'.core = ((w.setSent sent).setList .WAITING).core)
      (hack : w'.processing.local_ack_time = c.now + s.local_ack_timeout)
      (hsch : w'.processing.schedule_time = w.processing.schedule_time)
      (hst : w'.processing.status = w.processing.status ∧
        w'.processing.rnr_retry = w.processing.rnr_retry) :
      Move c s none { s with
        sending := ws, nr_sending := s.nr_sending - 1
        waiting := s.waiting ++ [w'], nr_waiting := s.nr_waiting + 1 }
  | start {s : SendQ} {w w' : SendWqe} {ws : List SendWqe} (hs : s.state = .RTS)
      (hsend : s.sending = []) (h : s.submitted = w :: ws) (all : Nat)
      (hall : all = pibGetNumOfPackets s.qp_type s.attr.path_mtu w.total_length)
      (hrd : (pibIsWrOpcodeRdAtomic w.opcode = true → s.nr_rd_atomic < s.max_rd_atomic) ∧
        (w.send_flags.FENCE = true → s.nr_rd_atomic ≤ 0))
      (hw' : w' = { w with processing := { w'.processing with
        list_type := .SENDING, status := w.processing.status
        based_psn := s.expected_psn, expected_psn := u32 (s.expected_psn + all)
        all_packets := all, ack_packets := 0, sent_packets := 0, schedule_time := c.now
        rnr_retry := s.attr.rnr_retry } }) :
      Move c s none { s with
        submitted := ws, nr_submitted := s.nr_submitted - 1
        sending := [w'], nr_sending := s.nr_sending + 1
        expected_psn := u32 (s.expected_psn + all)
        nr_rd_atomic :=
          if pibIsWrOpcodeRdAtomic w.opcode then s.nr_rd_atomic + 1 else s.nr_rd_atomic }
  | post {s : SendQ} {f w : SendWqe} {fs : List SendWqe} (wr : SendWr)
      (hs : s.state = .RTR ∨ s.state = .RTS ∨ s.state = .SQD) (h : s.free = f :: fs)
      (hid : w.trace_id = f.trace_id)
      (hlocal : w.local_only_request = (f.local_only_request ||
        decide (wr.opcode = .LOCAL_INV ∨ wr.opcode = .FAST_REG_MR)))
      (hwr : w.wr_id = wr.wr_id ∧ w.opcode = wr.opcode ∧ w.send_flags = wr.send_flags)
      (hst : w.processing.status = .SUCCESS) (hlen : w.total_length ≤ PIB_MAX_PAYLOAD_LEN) :
      Move c s (some wr) { s with
        free := fs, submitted := s.submitted ++ [w], nr_submitted := s.nr_submitted + 1 }
  | touchFree {s : SendQ} {f f' : SendWqe} {fs : List SendWqe} (h : s.free = f :: fs)
      (hf : f'.key = f.key) :
      Move c s none { s with free := f' :: fs }
  | postFlushed {s : SendQ} (wr : SendWr) (hs : s.state = .ERR ∨ s.state = .SQE) :
      Move c s (some wr) { s with
        cq := s.cq ++ [{ wr_id := wr.wr_id, status := .WR_FLUSH_ERR, opcode := .ofWr wr.opcode }] }

/-- A run of moves, with the work requests accepted on the way. -/
inductive Moves (c : Ctx) : SendQ → List SendWr → SendQ → Prop
  | refl (s : SendQ) : Moves c s [] s
  | step {s s' s'' : SendQ} {a : Option SendWr} {as : List SendWr} (h : Move c s a s')
      (hs : Moves c s' as s'') : Moves c s (a.toList ++ as) s''

namespace Moves

variable {c : Ctx} {s s' s'' : SendQ}

theorem one {a : Option SendWr} (h : Move c s a s') : Moves c s a.toList s' := by
  have := Moves.step h (Moves.refl s')
  simpa using this

theorem silent (h : Move c s none s') : Moves c s [] s' := one h

theorem trans {as bs : List SendWr} (h : Moves c s as s') (h' : Moves c s' bs s'') :
    Moves c s (as ++ bs) s'' := by
  induction h with
  | refl => exact h'
  | step hm _ ih =>
    rw [List.append_assoc]
    exact Moves.step hm (ih h')

theorem trans_silent (h : Moves c s [] s') (h' : Moves c s' [] s'') : Moves c s [] s'' :=
  trans h h'

/-- A law that every move keeps is kept by the run. -/
theorem keep {I : SendQ → Prop} (hstep : ∀ {s s' : SendQ} {a}, Move c s a s' → I s → I s')
    {as : List SendWr} (h : Moves c s as s') (hi : I s) : I s' := by
  induction h with
  | refl => exact hi
  | step hm _ ih => exact ih (hstep hm hi)

/-- The same for a run without posts, of a law that the other moves keep. -/
theorem keep_silent {I : SendQ → Prop} (hstep : ∀ {s s' : SendQ}, Move c s none s' → I s → I s')
    (h : Moves c s [] s') (hi : I s) : I s' := by
  generalize has : ([] : List SendWr) = as at h
  induction h with
  | refl => exact hi
  | step hm _ ih =>
    obtain ⟨ha, hrest⟩ := List.append_eq_nil_iff.mp has.symm
    obtain rfl : _ = none := by simpa using ha
    exact ih (hstep hm hi) hrest.symm

end Moves

end pib
