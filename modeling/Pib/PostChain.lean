-- A chain of work requests in one call against one call for each of them
-- (pib_qp.c 912-1258, pib_srq.c 248-325).
import Pib.Lib.Chain
import Pib.Ud

namespace pib

/-! ## The pointer to the bad work request -/

/-- Where the `next_wr` loop of `pib_post_send` stands at `done`. -/
def sendRest (post : Qp → Nat → SendWr → Qp × Nat × Option Errno) :
    Qp → Nat → List SendWr → List SendWr
  | _, _, [] => []
  | q, total_length, wr :: wrs =>
    match post q total_length wr with
    | (_, _, some _) => wr :: wrs
    | (q, total_length, none) => sendRest post q total_length wrs

/-- What `pib_post_send` writes to `*bad_wr`. Nothing is that it is not
written, and the empty chain is `NULL`. -/
def sendBadWr (cfg : Config) (copyFromUser : Nat → Nat → Option (List UInt8)) (now : Nat) (q : Qp)
    (wrs : List SendWr) : Option (List SendWr) :=
  if wrs = [] ∨ (pibPostSend cfg copyFromUser now q wrs).2 = none then none
  else some (sendRest (postSendWr cfg copyFromUser) q 0 wrs)

def udSendBadWr (cfg : Config) (copyFromUser : Nat → Nat → Option (List UInt8)) (now : Nat)
    (ahs : Nat → Option Ah) (q : Qp) (wrs : List SendWr) : Option (List SendWr) :=
  if wrs = [] ∨ (pibPostUdSend cfg copyFromUser now ahs q wrs).2 = none then none
  else some (sendRest (postUdSendWr cfg copyFromUser ahs) q 0 wrs)

/-- Where the `next_wr` loop of `pib_post_recv` stands at `err`. In the error
state the whole chain is flushed. -/
def recvRest (cfg : Config) : Qp → Nat → List RecvWr → List RecvWr
  | _, _, [] => []
  | q, total_length, wr :: wrs =>
    match q.state with
    | .RESET => wr :: wrs
    | .ERR => recvRest cfg (q.insertRecvError wr.wr_id .WR_FLUSH_ERR .RECV) total_length wrs
    | .INIT | .RTR | .RTS | .SQD | .SQE =>
      if wr.sg_list.length < 1 ∨ q.init_attr.max_recv_sge < wr.sg_list.length then wr :: wrs
      else if q.responder.free_rwqe = 0 then wr :: wrs
      else if PIB_MAX_PAYLOAD_LEN < total_length + sgeTotal cfg wr.sg_list then wr :: wrs
      else
        let total_length := total_length + sgeTotal cfg wr.sg_list
        let w : RecvWqe := { wr_id := wr.wr_id, total_length, sge_array := wr.sg_list }
        recvRest cfg { q with responder := { q.responder with
            free_rwqe := q.responder.free_rwqe - 1
            recv_wqe := q.responder.recv_wqe ++ [w]
            nr_recv_wqe := q.responder.nr_recv_wqe + 1 } } total_length wrs

/-- What `pib_post_recv` writes to `*bad_wr`: nothing if the queue pair has a
shared receive queue. -/
def recvBadWr (cfg : Config) (q : Qp) (wrs : List RecvWr) : Option (List RecvWr) :=
  if wrs = [] ∨ q.srq.isSome ∨ (pibPostRecv cfg q wrs).2 = none then none
  else some (recvRest cfg q 0 wrs)

/-! ## The shared receive queue -/

/-- The `next_wr` loop of `pib_post_srq_recv`, with the chain at which it
stands at `err`. An element is off the free list before its length is looked
at, and is lost if that is too much. -/
def postSrqRecvLoop (cfg : Config) (max_sge : Nat) :
    Srq → Nat → List RecvWr → Srq × Option Errno × List RecvWr
  | srq, _, [] => (srq, none, [])
  | srq, total_length, wr :: wrs =>
    if wr.sg_list.length < 1 ∨ max_sge < wr.sg_list.length then (srq, some .EINVAL, wr :: wrs)
    else if srq.free_recv_wqe = 0 then (srq, some .ENOMEM, wr :: wrs)
    else
      let srq := { srq with free_recv_wqe := srq.free_recv_wqe - 1 }
      let total_length := total_length + sgeTotal cfg wr.sg_list
      if PIB_MAX_PAYLOAD_LEN < total_length then (srq, some .EMSGSIZE, wr :: wrs)
      else
        let w : RecvWqe := { wr_id := wr.wr_id, total_length, sge_array := wr.sg_list }
        postSrqRecvLoop cfg max_sge { srq with
          recv_wqe := srq.recv_wqe ++ [w]
          nr_recv_wqe := srq.nr_recv_wqe + 1 } total_length wrs

/-- `pib_post_srq_recv`. `max_sge` is that of the queue's attributes. -/
def pibPostSrqRecv (cfg : Config) (max_sge : Nat) (srq : Srq) (wrs : List RecvWr) :
    Srq × Option Errno :=
  if wrs = [] then (srq, some .EINVAL)
  else
    let (srq, ret, _) := postSrqRecvLoop cfg max_sge srq 0 wrs
    (srq, ret)

def srqRecvBadWr (cfg : Config) (max_sge : Nat) (srq : Srq) (wrs : List RecvWr) :
    Option (List RecvWr) :=
  if wrs = [] ∨ (pibPostSrqRecv cfg max_sge srq wrs).2 = none then none
  else some (postSrqRecvLoop cfg max_sge srq 0 wrs).2.2

/-! ## One call for each work request -/

/-- A call that posts a chain. `queue` is what counts of the state, `lengths`
the `total_length` of each queued element with the sum of its own list, and
`own` the sum of the list of a work request. -/
structure PostCall (S W O : Type) where
  post : S → List W → S × Option Errno
  bad_wr : S → List W → Option (List W)
  queue : S → O
  lengths : O → List (Nat × Nat)
  own : W → Nat

namespace PostCall

variable {S W O : Type}

/-- The work requests are posted one at a time, until one fails: the state, the
error and the work requests from that on. -/
def oneByOne (c : PostCall S W O) : S → List W → S × Option Errno × List W
  | s, [] => (s, none, [])
  | s, w :: ws =>
    match c.post s [w] with
    | (s, some e) => (s, some e, w :: ws)
    | (s, none) => c.oneByOne s ws

/-- The chain gives what its work requests give one at a time. -/
structure Agrees (c : PostCall S W O) (s : S) (ws : List W) : Prop where
  queue : c.queue (c.post s ws).1 = c.queue (c.oneByOne s ws).1
  error : (c.post s ws).2 = (c.oneByOne s ws).2.1
  bad_wr : (c.post s ws).2 ≠ none → c.bad_wr s ws = some (c.oneByOne s ws).2.2
  lengths : ∃ new, c.lengths (c.queue (c.post s ws).1) = c.lengths (c.queue s) ++ new ∧
    ∀ x ∈ new, x.1 = x.2
  long : (c.post s ws).2 = some .EMSGSIZE →
    ∃ w ws', (c.oneByOne s ws).2.2 = w :: ws' ∧ PIB_MAX_PAYLOAD_LEN < c.own w

/-- The call with what posting looks at. -/
def lens {V : Type} (c : PostCall S W O) (view : S → V) : Chain.Poster.Lens S W V O :=
  { view, obs := c.queue, lengths := c.lengths, own := c.own }

/-- The call is the loop of a poster, on the states that `ok` allows. -/
structure Implements (c : PostCall S W O) (p : Chain.Poster S W Errno) (settle : S → S)
    (ok : S → Prop) : Prop where
  max : p.max = PIB_MAX_PAYLOAD_LEN
  tooLongError : p.tooLongError = .EMSGSIZE
  post : ∀ {s} w ws, ok s →
    c.post s (w :: ws) = (settle (p.run s 0 (w :: ws)).1, (p.run s 0 (w :: ws)).2.1)
  bad_wr : ∀ {s} w ws, ok s → (p.run s 0 (w :: ws)).2.1 ≠ none →
    c.bad_wr s (w :: ws) = some (p.run s 0 (w :: ws)).2.2
  step : ∀ {s} w, ok s → ok (settle (p.step s 0 w).1)

section

variable {V : Type} {c : PostCall S W O} {p : Chain.Poster S W Errno} {settle : S → S}
  {ok : S → Prop} {view : S → V}

theorem Implements.post_single (h : c.Implements p settle ok) {s : S} (w : W) (hs : ok s) :
    c.post s [w] = (settle (p.step s 0 w).1, (p.step s 0 w).2.2) := by
  rw [h.post w [] hs]
  cases he : (p.step s 0 w).2.2 with
  | some e => rw [Chain.Poster.run_cons_some he]
  | none =>
    rw [Chain.Poster.run_cons_none he]
    rfl

theorem Implements.oneByOne_eq (h : c.Implements p settle ok) (ws : List W) :
    ∀ s, ok s → c.oneByOne s ws = p.each settle s ws := by
  induction ws with
  | nil =>
    intro s _
    rfl
  | cons w ws ih =>
    intro s hs
    rw [oneByOne, h.post_single w hs]
    cases he : (p.step s 0 w).2.2 with
    | some e => rw [Chain.Poster.each_cons_some he]
    | none =>
      rw [Chain.Poster.each_cons_none he]
      exact ih _ (h.step w hs)

/-- A chain agrees with its work requests exactly if the running total does no
harm. -/
theorem Implements.agrees_iff (h : c.Implements p settle ok)
    (hl : p.Lawful settle (c.lens view)) {s : S} (hs : ok s) (w : W) (ws : List W) :
    c.Agrees s (w :: ws) ↔ p.Clean (c.lens view) s 0 (w :: ws) := by
  rw [← hl.faithful_iff rfl]
  have hqueue : c.queue (settle (p.run s 0 (w :: ws)).1) = c.queue (p.run s 0 (w :: ws)).1 :=
    hl.obs_view (hl.settle_view _)
  have hbad := h.bad_wr w ws hs
  constructor
  · rintro ⟨h1, h2, h3, h4, h5⟩
    rw [h.post w ws hs] at h1 h2 h3 h4 h5
    rw [h.oneByOne_eq _ s hs] at h1 h2 h3 h5
    rw [hqueue] at h1 h4
    refine ⟨h1, h2, fun hne => ?_, h4, fun he => ?_⟩
    · exact Option.some.inj ((hbad hne).symm.trans (h3 hne))
    · rw [h.tooLongError] at he
      have hne : (p.run s 0 (w :: ws)).2.1 ≠ none := by simp [he]
      rw [h.max, Option.some.inj ((hbad hne).symm.trans (h3 hne))]
      exact h5 he
  · rintro ⟨h1, h2, h3, h4, h5⟩
    constructor
    · rw [h.post w ws hs, h.oneByOne_eq _ s hs]
      exact hqueue.trans h1
    · rw [h.post w ws hs, h.oneByOne_eq _ s hs]
      exact h2
    · rw [h.post w ws hs, h.oneByOne_eq _ s hs]
      exact fun hne => (hbad hne).trans (congrArg some (h3 hne))
    · rw [h.post w ws hs, hqueue]
      exact h4
    · rw [h.post w ws hs, h.oneByOne_eq _ s hs]
      intro he
      have hne : (p.run s 0 (w :: ws)).2.1 ≠ none := fun hn => nomatch hn.symm.trans he
      rw [← h3 hne, ← h.max]
      exact h5 (h.tooLongError ▸ he)

end

end PostCall

end pib
