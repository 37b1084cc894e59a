-- Completion queues (`pib_cq.c`): inserting and polling completions, arming
-- the completion handler, and taking out the completions of a queue pair that
-- is reset. A queue is compared with the history of what was put into it.
import Pib.Lib.Ledger
import Pib.Lib.Run
import Pib.Types

namespace pib

variable {cq : Cq} {j : Journal}

/-! ## The queue -/

/-- `enum pib_state`. -/
inductive PibState
  | OK | ERR
  deriving DecidableEq, Repr

/-- The values of `notify_flag`: not armed yet, `IB_CQ_SOLICITED` and
`IB_CQ_NEXT_COMP`. -/
inductive NotifyFlag
  | NONE | SOLICITED | NEXT_COMP
  deriving DecidableEq, Repr

/-- The bits of `enum ib_cq_notify_flags`. -/
structure NotifyFlags where
  SOLICITED : Bool := false
  NEXT_COMP : Bool := false
  REPORT_MISSED_EVENTS : Bool := false
  deriving DecidableEq, Repr

/-- What a completion queue reads of the queue pair behind `wc->qp`. -/
structure QpRef where
  qp : Nat
  qp_type : QpType := .RC
  port_num : Nat := 0
  deriving DecidableEq, Repr

/-- `struct pib_cqe`: the completion, its queue pair and, for an SMI queue
pair, the port. -/
structure Cqe where
  wc : Wc
  qp : Nat
  port_num : Nat := 0
  deriving DecidableEq, Repr

/-- `struct pib_cq`, with `ib_cq.cqe` as `cqe`. `works` counts the calls of
`pib_queue_work` for the overflow, and `calls` those of the completion handler. -/
structure Cq where
  state : PibState := .OK
  notify_flag : NotifyFlag := .NONE
  has_notified : Bool := true
  cqe : Nat
  nr_cqe : Int := 0
  cqe_head : List Cqe := []
  free_cqe_head : List Cqe
  works : Nat := 0
  calls : Nat := 0
  deriving DecidableEq, Repr

/-- The errors of the calls on a completion queue. -/
inductive CqError
  | EINVAL | EACCES | ENOMEM
  deriving DecidableEq, Repr

/-- `create_cq`, when its number and its entries can be allocated. The entries
are cleared. -/
def createCq (max_cqe entries : Int) : Except CqError Cq :=
  if entries < 1 ∨ max_cqe ≤ entries then .error .EINVAL
  else .ok
    { cqe := entries.toNat
      free_cqe_head := List.replicate entries.toNat
        { wc := { wr_id := 0, status := .SUCCESS, opcode := .SEND }, qp := 0 } }

/-- The entry that `insert_wc` fills in. -/
def entryOf (qp : QpRef) (wc : Wc) : Cqe :=
  { wc, qp := qp.qp, port_num := if qp.qp_type = .SMI then qp.port_num else 0 }

/-- The completion handler is told, at most once for each time it was armed. -/
def tellHandler (cq : Cq) (solicited : Bool) : Cq :=
  if (cq.notify_flag = .NEXT_COMP ∨ (cq.notify_flag = .SOLICITED ∧ solicited = true)) ∧
      cq.has_notified = false then
    { cq with has_notified := true, calls := cq.calls + 1 }
  else cq

/-- `insert_wc`. Nothing is the return value 0. -/
def insertWc (cq : Cq) (qp : QpRef) (wc : Wc) (solicited : Bool) : Cq × Option CqError :=
  if cq.state ≠ .OK then (cq, some .EACCES)
  else
    match cq.free_cqe_head with
    | [] => ({ cq with state := .ERR, works := cq.works + 1 }, some .ENOMEM)
    | _ :: free =>
      (tellHandler { cq with
        free_cqe_head := free
        nr_cqe := cq.nr_cqe + 1
        cqe_head := cq.cqe_head ++ [entryOf qp wc] } solicited, none)

/-- `pib_util_insert_wc_success`. -/
def pibUtilInsertWcSuccess (cq : Cq) (qp : QpRef) (wc : Wc) (solicited : Bool) :
    Cq × Option CqError := insertWc cq qp wc solicited

/-- `pib_util_insert_wc_error`. -/
def pibUtilInsertWcError (cq : Cq) (qp : QpRef) (wr_id : Nat) (status : WcStatus)
    (opcode : WcOpcode) : Cq × Option CqError :=
  insertWc cq qp { wr_id, status, opcode } true

/-- The loop of `pib_poll_cq`: an entry goes to the end of the free list. -/
def pollLoop : Nat → Cq → Cq × List Cqe
  | 0, cq => (cq, [])
  | k + 1, cq =>
    match cq.cqe_head with
    | [] => (cq, [])
    | e :: es =>
      let (cq, out) := pollLoop k { cq with
        cqe_head := es
        free_cqe_head := cq.free_cqe_head ++ [e]
        nr_cqe := cq.nr_cqe - 1 }
      (cq, e :: out)

/-- `pib_poll_cq`, with the entries that it puts in `ibwc`. -/
def pibPollCq (cq : Cq) (num_entries : Int) : Cq × Except CqError (List Cqe) :=
  if cq.state ≠ .OK then (cq, .error .EACCES)
  else
    let (cq, out) := pollLoop num_entries.toNat cq
    (cq, .ok out)

/-- `pib_req_notify_cq`, with its return value. -/
def pibReqNotifyCq (cq : Cq) (flags : NotifyFlags) : Cq × Int :=
  if cq.state ≠ .OK then (cq, -1)
  else
    ({ cq with
      notify_flag := if flags.SOLICITED then .SOLICITED
        else if flags.NEXT_COMP then .NEXT_COMP else cq.notify_flag
      has_notified := false },
      if flags.REPORT_MISSED_EVENTS = true ∧ cq.cqe_head ≠ [] then 1 else 0)

/-- The loop of `pib_util_remove_cq`, with the entries that it has passed over. -/
def removeLoop (qp : Nat) : List Cqe → List Cqe → Cq → Cq × Nat
  | kept, [], cq => ({ cq with cqe_head := kept }, 0)
  | kept, e :: es, cq =>
    if e.qp = qp then
      let (cq, count) := removeLoop qp kept es { cq with
        nr_cqe := cq.nr_cqe - 1
        free_cqe_head := cq.free_cqe_head ++ [e] }
      (cq, count + 1)
    else removeLoop qp (kept ++ [e]) es cq

/-- `pib_util_remove_cq`, with the number of entries taken out. -/
def pibUtilRemoveCq (cq : Cq) (qp : Nat) : Cq × Nat := removeLoop qp [] cq.cqe_head cq

/-- What `pib_util_insert_async_cq_error` does to the queue itself. -/
def pibUtilInsertAsyncCqError (cq : Cq) : Cq := { cq with state := .ERR }

/-! ## What each call does -/

theorem pollLoop_eq (k : Nat) (cq : Cq) :
    pollLoop k cq = ({ cq with
      cqe_head := cq.cqe_head.drop k
      free_cqe_head := cq.free_cqe_head ++ cq.cqe_head.take k
      nr_cqe := cq.nr_cqe - (cq.cqe_head.take k).length }, cq.cqe_head.take k) := by
  induction k generalizing cq with
  | zero => simp [pollLoop]
  | succ k ih =>
    unfold pollLoop
    rcases h : cq.cqe_head with _ | ⟨e, es⟩
    · cases cq
      subst h
      simp
    dsimp only
    rw [ih]
    simp only [List.take_succ_cons, List.drop_succ_cons, List.append_assoc, List.cons_append,
      List.nil_append, List.length_cons, Prod.mk.injEq, Cq.mk.injEq, and_true, true_and]
    push_cast
    omega

theorem removeLoop_eq (qp : Nat) (es : List Cqe) (kept : List Cqe) (cq : Cq) :
    removeLoop qp kept es cq = ({ cq with
      cqe_head := kept ++ es.filter fun e => !decide (e.qp = qp)
      free_cqe_head := cq.free_cqe_head ++ es.filter fun e => decide (e.qp = qp)
      nr_cqe := cq.nr_cqe - (es.filter fun e => decide (e.qp = qp)).length },
      (es.filter fun e => decide (e.qp = qp)).length) := by
  induction es generalizing kept cq with
  | nil => simp [removeLoop]
  | cons e es ih =>
    unfold removeLoop
    by_cases he : e.qp = qp
    · rw [if_pos he, ih]
      simp only [he, decide_true, List.filter_cons_of_pos, Bool.not_true, Bool.false_eq_true,
        not_false_eq_true, List.filter_cons_of_neg, List.append_assoc, List.cons_append,
        List.nil_append, List.length_cons, Prod.mk.injEq, Cq.mk.injEq, and_true, true_and]
      push_cast
      omega
    · rw [if_neg he, ih]
      simp [he]

theorem tellHandler_eq (cq : Cq) (solicited : Bool) : ∃ has_notified calls,
    tellHandler cq solicited = { cq with has_notified, calls } := by
  unfold tellHandler
  split
  · exact ⟨_, _, rfl⟩
  · exact ⟨cq.has_notified, cq.calls, rfl⟩

theorem insertWc_of_err (h : cq.state ≠ .OK) (qp : QpRef) (wc : Wc)
    (solicited : Bool) : insertWc cq qp wc solicited = (cq, some .EACCES) := if_pos h

theorem insertWc_of_full (h : cq.state = .OK) (hfree : cq.free_cqe_head = [])
    (qp : QpRef) (wc : Wc) (solicited : Bool) : insertWc cq qp wc solicited =
      ({ cq with state := .ERR, works := cq.works + 1 }, some .ENOMEM) := by
  simp [insertWc, h, hfree]

theorem insertWc_of_free {f : Cqe} {free : List Cqe} (h : cq.state = .OK)
    (hfree : cq.free_cqe_head = f :: free) (qp : QpRef) (wc : Wc) (solicited : Bool) :
    ∃ has_notified calls, insertWc cq qp wc solicited = ({ cq with
      free_cqe_head := free
      nr_cqe := cq.nr_cqe + 1
      cqe_head := cq.cqe_head ++ [entryOf qp wc]
      has_notified, calls }, none) := by
  obtain ⟨has_notified, calls, htell⟩ := tellHandler_eq { cq with
    free_cqe_head := free
    nr_cqe := cq.nr_cqe + 1
    cqe_head := cq.cqe_head ++ [entryOf qp wc] } solicited
  refine ⟨has_notified, calls, ?_⟩
  rw [← htell]
  simp [insertWc, h, hfree]

theorem pibPollCq_of_err (h : cq.state ≠ .OK) (num_entries : Int) :
    pibPollCq cq num_entries = (cq, .error .EACCES) := if_pos h

theorem pibPollCq_of_ok (h : cq.state = .OK) (num_entries : Int) :
    pibPollCq cq num_entries = ({ cq with
      cqe_head := cq.cqe_head.drop num_entries.toNat
      free_cqe_head := cq.free_cqe_head ++ cq.cqe_head.take num_entries.toNat
      nr_cqe := cq.nr_cqe - (cq.cqe_head.take num_entries.toNat).length },
      .ok (cq.cqe_head.take num_entries.toNat)) := by
  simp only [pibPollCq, h, ne_eq, not_true_eq_false, if_false, pollLoop_eq]

theorem pibReqNotifyCq_eq (cq : Cq) (flags : NotifyFlags) : ∃ notify_flag has_notified,
    (pibReqNotifyCq cq flags).1 = { cq with notify_flag, has_notified } := by
  unfold pibReqNotifyCq
  split
  · exact ⟨cq.notify_flag, cq.has_notified, rfl⟩
  · exact ⟨_, _, rfl⟩

theorem pibUtilRemoveCq_eq (cq : Cq) (qp : Nat) :
    pibUtilRemoveCq cq qp = ({ cq with
      cqe_head := cq.cqe_head.filter fun e => !decide (e.qp = qp)
      free_cqe_head := cq.free_cqe_head ++ cq.cqe_head.filter fun e => decide (e.qp = qp)
      nr_cqe := cq.nr_cqe - (cq.cqe_head.filter fun e => decide (e.qp = qp)).length },
      (cq.cqe_head.filter fun e => decide (e.qp = qp)).length) := by
  unfold pibUtilRemoveCq
  rw [removeLoop_eq, List.nil_append]

/-! ## The queue and its history -/

/-- The calls that change a completion queue. -/
inductive CqOp
  | insert (qp : QpRef) (wc : Wc) (solicited : Bool)
  | poll (num_entries : Int)
  | reqNotify (flags : NotifyFlags)
  /-- a queue pair is reset -/
  | remove (qp : Nat)
  /-- the work that the overflow has queued is carried out -/
  | overflowHandler
  deriving DecidableEq, Repr

/-- A completion queue, the entries that it has accepted, and those that
`pib_poll_cq` has returned. -/
structure Journal where
  cq : Cq
  ledger : Ledger Cqe := {}
  polled : List Cqe := []

namespace Journal

/-- One call. The ledger learns of accepted entries, of how many are polled, and
of queue pairs that are reset. -/
def step (j : Journal) : CqOp → Journal
  | .insert qp wc solicited =>
    match insertWc j.cq qp wc solicited with
    | (cq, none) => { j with cq, ledger := j.ledger.join (entryOf qp wc) }
    | (cq, some _) => { j with cq }
  | .poll num_entries =>
    match pibPollCq j.cq num_entries with
    | (cq, .ok out) => { cq, ledger := j.ledger.serve out.length, polled := j.polled ++ out }
    | (cq, .error _) => { j with cq }
  | .reqNotify flags => { j with cq := (pibReqNotifyCq j.cq flags).1 }
  | .remove qp =>
    { j with
      cq := (pibUtilRemoveCq j.cq qp).1
      ledger := j.ledger.withdraw fun e => decide (e.qp = qp) }
  | .overflowHandler =>
    if j.cq.works = 0 then j else { j with cq := pibUtilInsertAsyncCqError j.cq }

/-- The queue is a bounded first-in first-out queue: the counters are right, and
what was polled and what is queued is, in order, what was accepted, without what
was taken out for queue pairs that were reset. -/
structure Lawful (j : Journal) : Prop where
  nr_cqe : j.cq.nr_cqe = j.cq.cqe_head.length
  size : j.cq.cqe_head.length + j.cq.free_cqe_head.length = j.cq.cqe
  order : j.polled ++ j.cq.cqe_head = j.ledger.standing.map Prod.fst
  works : j.cq.works = if j.cq.state = .OK then 0 else 1

/-- `Lawful`, with the two halves of the order kept apart. -/
structure Good (j : Journal) : Prop where
  sound : j.ledger.Sound
  nr_cqe : j.cq.nr_cqe = j.cq.cqe_head.length
  size : j.cq.cqe_head.length + j.cq.free_cqe_head.length = j.cq.cqe
  queued : j.cq.cqe_head = j.ledger.queue
  polled : j.polled = j.ledger.handed
  works : j.cq.works = if j.cq.state = .OK then 0 else 1

theorem Good.lawful (h : j.Good) : j.Lawful := by
  refine ⟨h.nr_cqe, h.size, ?_, h.works⟩
  rw [h.polled, h.queued]
  exact j.ledger.handed_append_queue

theorem good_insert (h : j.Good) (qp : QpRef) (wc : Wc) (solicited : Bool) :
    (j.step (.insert qp wc solicited)).Good := by
  obtain ⟨hsound, hnr, hsize, hqueued, hpolled, hworks⟩ := h
  dsimp only [step]
  by_cases hok : j.cq.state = .OK
  · rw [if_pos hok] at hworks
    rcases hfree : j.cq.free_cqe_head with _ | ⟨f, free⟩
    · rw [insertWc_of_full hok hfree]
      exact ⟨hsound, hnr, hsize, hqueued, hpolled, by simp [hworks]⟩
    obtain ⟨has_notified, calls, heq⟩ := insertWc_of_free hok hfree qp wc solicited
    rw [heq]
    rw [hfree, List.length_cons] at hsize
    constructor
    case sound => exact Ledger.sound_join hsound _
    case nr_cqe =>
      simp only [List.length_append, List.length_singleton]
      omega
    case size =>
      simp only [List.length_append, List.length_singleton]
      omega
    case queued =>
      rw [Ledger.queue_join hsound]
      simp only [hqueued]
    case polled =>
      rw [Ledger.handed_join hsound]
      exact hpolled
    case works => simp [hok, hworks]
  · rw [insertWc_of_err hok]
    exact ⟨hsound, hnr, hsize, hqueued, hpolled, hworks⟩

theorem good_poll (h : j.Good) (num_entries : Int) : (j.step (.poll num_entries)).Good := by
  obtain ⟨hsound, hnr, hsize, hqueued, hpolled, hworks⟩ := h
  dsimp only [step]
  by_cases hok : j.cq.state = .OK
  · rw [pibPollCq_of_ok hok]
    generalize num_entries.toNat = k
    have hlen : (j.cq.cqe_head.take k).length = min k j.cq.cqe_head.length := List.length_take
    -- handing out as many entries as there are, or fewer, takes the same ones
    have htake : j.cq.cqe_head.take (min k j.cq.cqe_head.length) = j.cq.cqe_head.take k := by
      rcases Nat.le_total k j.cq.cqe_head.length with hk | hk
      · rw [Nat.min_eq_left hk]
      · rw [Nat.min_eq_right hk, List.take_length, List.take_of_length_le hk]
    have hdrop : j.cq.cqe_head.drop (min k j.cq.cqe_head.length) = j.cq.cqe_head.drop k := by
      rcases Nat.le_total k j.cq.cqe_head.length with hk | hk
      · rw [Nat.min_eq_left hk]
      · rw [Nat.min_eq_right hk, List.drop_length, List.drop_of_length_le hk]
    constructor
    case sound => exact Ledger.sound_serve hsound _
    case nr_cqe =>
      simp only [List.length_drop, hlen]
      omega
    case size =>
      simp only [List.length_drop, List.length_append, hlen]
      omega
    case queued => rw [Ledger.queue_serve, hlen, ← hqueued, hdrop]
    case polled => rw [Ledger.handed_serve, hlen, ← hqueued, htake, ← hpolled]
    case works => exact hworks
  · rw [pibPollCq_of_err hok]
    exact ⟨hsound, hnr, hsize, hqueued, hpolled, hworks⟩

theorem good_reqNotify (h : j.Good) (flags : NotifyFlags) : (j.step (.reqNotify flags)).Good := by
  obtain ⟨hsound, hnr, hsize, hqueued, hpolled, hworks⟩ := h
  obtain ⟨notify_flag, has_notified, heq⟩ := pibReqNotifyCq_eq j.cq flags
  dsimp only [step]
  rw [heq]
  exact ⟨hsound, hnr, hsize, hqueued, hpolled, hworks⟩

theorem good_remove (h : j.Good) (qp : Nat) : (j.step (.remove qp)).Good := by
  obtain ⟨hsound, hnr, hsize, hqueued, hpolled, hworks⟩ := h
  dsimp only [step]
  rw [pibUtilRemoveCq_eq]
  have hsplit := List.length_eq_length_filter_add (l := j.cq.cqe_head) fun e => decide (e.qp = qp)
  constructor
  case sound => exact Ledger.sound_withdraw hsound fun e => decide (e.qp = qp)
  case nr_cqe =>
    dsimp only
    omega
  case size =>
    simp only [List.length_append]
    omega
  case queued => rw [Ledger.queue_withdraw hsound, ← hqueued]
  case polled =>
    rw [Ledger.handed_withdraw hsound]
    exact hpolled
  case works => exact hworks

theorem good_overflowHandler (h : j.Good) : (j.step .overflowHandler).Good := by
  obtain ⟨hsound, hnr, hsize, hqueued, hpolled, hworks⟩ := h
  dsimp only [step]
  split
  · exact ⟨hsound, hnr, hsize, hqueued, hpolled, hworks⟩
  rename_i hne
  -- the work is queued only by a queue that is in error already
  have herr : j.cq.state ≠ .OK := by
    intro hok
    rw [if_pos hok] at hworks
    exact hne hworks
  rw [if_neg herr] at hworks
  exact ⟨hsound, hnr, hsize, hqueued, hpolled, by simpa [pibUtilInsertAsyncCqError] using hworks⟩

theorem good_step (j : Journal) (op : CqOp) (h : j.Good) : (j.step op).Good := by
  cases op with
  | insert qp wc solicited => exact good_insert h qp wc solicited
  | poll num_entries => exact good_poll h num_entries
  | reqNotify flags => exact good_reqNotify h flags
  | remove qp => exact good_remove h qp
  | overflowHandler => exact good_overflowHandler h

/-- The size never changes. -/
theorem cqe_step (j : Journal) (op : CqOp) : (j.step op).cq.cqe = j.cq.cqe := by
  cases op with
  | insert qp wc solicited =>
    dsimp only [step]
    by_cases hok : j.cq.state = .OK
    · rcases hfree : j.cq.free_cqe_head with _ | ⟨f, free⟩
      · rw [insertWc_of_full hok hfree]
      · obtain ⟨has_notified, calls, heq⟩ := insertWc_of_free hok hfree qp wc solicited
        rw [heq]
    · rw [insertWc_of_err hok]
  | poll num_entries =>
    dsimp only [step]
    by_cases hok : j.cq.state = .OK
    · rw [pibPollCq_of_ok hok]
    · rw [pibPollCq_of_err hok]
  | reqNotify flags =>
    obtain ⟨notify_flag, has_notified, heq⟩ := pibReqNotifyCq_eq j.cq flags
    dsimp only [step]
    rw [heq]
  | remove qp =>
    dsimp only [step]
    rw [pibUtilRemoveCq_eq]
  | overflowHandler =>
    dsimp only [step]
    split <;> rfl

/-! ## A queue in error -/

/-- `now` follows `before` with nothing inserted, polled or queued as work. -/
structure Shut (before now : Journal) : Prop where
  state : now.cq.state = .ERR
  joined : now.ledger.joined = before.ledger.joined
  polled : now.polled = before.polled
  works : now.cq.works = before.cq.works

theorem shut_step (before : Journal) (j : Journal) (op : CqOp) (h : Shut before j) :
    Shut before (j.step op) := by
  obtain ⟨hstate, hjoined, hpolled, hworks⟩ := h
  have herr : j.cq.state ≠ .OK := by simp [hstate]
  cases op with
  | insert qp wc solicited =>
    dsimp only [step]
    rw [insertWc_of_err herr]
    exact ⟨hstate, hjoined, hpolled, hworks⟩
  | poll num_entries =>
    dsimp only [step]
    rw [pibPollCq_of_err herr]
    exact ⟨hstate, hjoined, hpolled, hworks⟩
  | reqNotify flags =>
    obtain ⟨notify_flag, has_notified, heq⟩ := pibReqNotifyCq_eq j.cq flags
    dsimp only [step]
    rw [heq]
    exact ⟨hstate, hjoined, hpolled, hworks⟩
  | remove qp =>
    dsimp only [step]
    rw [pibUtilRemoveCq_eq]
    exact ⟨hstate, hjoined, hpolled, hworks⟩
  | overflowHandler =>
    dsimp only [step]
    split
    · exact ⟨hstate, hjoined, hpolled, hworks⟩
    · exact ⟨rfl, hjoined, hpolled, hworks⟩

/-! ## The bounded queue -/

theorem good_created {max_cqe entries : Int} (hc : createCq max_cqe entries = .ok cq) :
    Good { cq } ∧ cq.cqe = entries := by
  unfold createCq at hc
  split at hc
  · cases hc
  rename_i hentries
  obtain rfl := Except.ok.inj hc
  refine ⟨⟨Ledger.sound_empty, rfl, ?_, rfl, rfl, rfl⟩, ?_⟩
  · simp
  · dsimp only
    omega

/-- An entry is refused by a full queue, which is then in error, and accepted by
any other. -/
def Takes (j : Journal) (qp : QpRef) (wc : Wc) (solicited : Bool) : Prop :=
  let now := j.step (.insert qp wc solicited)
  if j.cq.nr_cqe = j.cq.cqe then
    now.cq.state = .ERR ∧ now.cq.works = j.cq.works + 1 ∧ now.cq.cqe_head = j.cq.cqe_head ∧
      now.ledger = j.ledger
  else
    now.cq.state = .OK ∧ now.cq.works = j.cq.works ∧
      now.cq.cqe_head = j.cq.cqe_head ++ [entryOf qp wc] ∧
      now.ledger = j.ledger.join (entryOf qp wc)

theorem Good.takes (h : j.Good) (hok : j.cq.state = .OK) (qp : QpRef) (wc : Wc)
    (solicited : Bool) : j.Takes qp wc solicited := by
  obtain ⟨-, hnr, hsize, -, -, -⟩ := h
  unfold Takes
  dsimp only [step]
  rcases hfree : j.cq.free_cqe_head with _ | ⟨f, free⟩
  · rw [hfree, List.length_nil] at hsize
    rw [if_pos (by omega), insertWc_of_full hok hfree]
    exact ⟨rfl, rfl, rfl, rfl⟩
  obtain ⟨has_notified, calls, heq⟩ := insertWc_of_free hok hfree qp wc solicited
  rw [hfree, List.length_cons] at hsize
  rw [if_neg (by omega), heq]
  exact ⟨hok, rfl, rfl, rfl⟩

/-- After any calls on a new queue it is lawful and has the size asked for. While
it is in order it takes entries until it is full, and the entry after that puts
it in error for good. -/
theorem cq_bounded_fifo {max_cqe entries : Int} {cq : Cq}
    (hc : createCq max_cqe entries = .ok cq) (ops : List CqOp) :
    let j := Run.run step { cq } ops
    j.Lawful ∧ j.cq.cqe = entries ∧
      (j.cq.state = .OK → ∀ qp wc solicited, j.Takes qp wc solicited) ∧
      (j.cq.state = .ERR → ∀ later, Shut j (Run.run step j later)) := by
  obtain ⟨hnew, hsize⟩ := good_created hc
  intro j
  have hgood : j.Good := Run.always good_step hnew ops
  have hcqe : j.cq.cqe = cq.cqe :=
    Run.always (fun j op h => (cqe_step j op).trans h) (I := fun j => j.cq.cqe = cq.cqe) rfl ops
  refine ⟨hgood.lawful, hcqe ▸ hsize, ?_, ?_⟩
  · intro hok qp wc solicited
    exact hgood.takes hok qp wc solicited
  · intro herr later
    exact Run.always (shut_step j) ⟨herr, rfl, rfl, rfl⟩ later

/-- A queue of two entries, with two queue pairs, one of which is reset, that
then runs full. -/
theorem cq_bounded_fifo_two :
    let wc (i : Nat) : Wc := { wr_id := i, status := .SUCCESS, opcode := .SEND }
    let j := Run.run step
      { cq := { cqe := 2, free_cqe_head := List.replicate 2 { wc := wc 0, qp := 0 } } }
      [.insert { qp := 7 } (wc 1) true, .insert { qp := 8 } (wc 2) true, .remove 7,
        .insert { qp := 8 } (wc 3) false, .poll 1, .insert { qp := 8 } (wc 4) false,
        .insert { qp := 8 } (wc 5) true]
    (j.polled.map (·.wc.wr_id) = [2] ∧ j.cq.cqe_head.map (·.wc.wr_id) = [3, 4] ∧
      j.cq.state = .ERR) ∧ j.Lawful := by
  refine ⟨by decide, ?_⟩
  exact (@cq_bounded_fifo 100 2 _ rfl _).1

end Journal

end pib
