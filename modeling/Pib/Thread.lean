-- The scheduler's work on one RC queue pair (`pib_thread.c`), and the queue
-- pair as a machine: what the verbs, the scheduler and the network can do to
-- it, one step at a time.
import Pib.Lib.Run
import Pib.Requester

namespace pib

open Bytes

/-! ## One iteration of the scheduler -/

/-- The fields that `process_new_send_wr` sets when an element starts. -/
def startSending (now : Nat) (q : Qp) (w : SendWqe) : SendWqe :=
  let num_packets := pibGetNumOfPackets q.qp_type q.attr.path_mtu w.total_length
  { w with processing := { w.processing with
    list_type := .SENDING
    based_psn := q.requester.expected_psn
    expected_psn := u32 (q.requester.expected_psn + num_packets)
    all_packets := num_packets
    ack_packets := 0
    sent_packets := 0
    schedule_time := now
    local_ack_time := now + PIB_SCHED_TIMEOUT
    retry_cnt := q.attr.retry_cnt
    rnr_retry := q.attr.rnr_retry } }

/-- The reasons for which `process_new_send_wr` leaves the first submitted
element where it is. -/
def mustWait (r : Requester) (w : SendWqe) : Bool :=
  (w.send_flags.FENCE && (decide (0 < r.nr_rd_atomic) ||
    (decide (w.opcode = .LOCAL_INV) &&
      (decide (0 < r.nr_sending_swqe) || decide (0 < r.nr_waiting_swqe))))) ||
  (pibIsWrOpcodeRdAtomic w.opcode && decide ((r.max_rd_atomic : Int) ≤ r.nr_rd_atomic))

/-- `process_new_send_wr`. Nothing is the return value 0. -/
def processNewSendWr (now : Nat) (q : Qp) : Option Qp :=
  if q.state ≠ .RTS then none
  else
    match q.requester.submitted_swqe with
    | [] => none
    | w :: ws =>
      if mustWait q.requester w then none
      else
        let r := q.requester
        let num_packets := pibGetNumOfPackets q.qp_type q.attr.path_mtu w.total_length
        some { q with requester := { r with
          nr_rd_atomic := if pibIsWrOpcodeRdAtomic w.opcode then r.nr_rd_atomic + 1
            else r.nr_rd_atomic
          submitted_swqe := ws
          nr_submitted_swqe := r.nr_submitted_swqe - 1
          sending_swqe := r.sending_swqe ++ [startSending now q w]
          nr_sending_swqe := r.nr_sending_swqe + 1
          expected_psn := u32 (r.expected_psn + num_packets) } }

/-- A local request that has been carried out leaves the waiting list. -/
def retireLocal (q : Qp) (w : SendWqe) (ws : List SendWqe) : Qp :=
  (q.setInFlight .waiting ws (-1)).freeSendWqe
    { w with processing := { w.processing with list_type := .FREE } }

/-- A local request that has failed: it is reported, and then flushed with all
the others. It is unlinked from the free list to which the flush has moved
it, and freed once more. -/
def failLocal (now : Nat) (q : Qp) (w : SendWqe) (ws : List SendWqe) : Qp :=
  let q := q.setInFlight .waiting (w :: ws) 0
  let q := failQp now (q.insertSendError w.wr_id w.processing.status w.opcode)
  Qp.freeSendWqe { q with requester := { q.requester with
      free_swqe := q.requester.free_swqe.filter fun f => decide (f.trace_id ≠ w.trace_id)
      nr_waiting_swqe := q.requester.nr_waiting_swqe - 1 } }
    { w with processing := { w.processing with list_type := .FREE } }

/-- What becomes of a local request, by the result of carrying it out. -/
def settleLocal (now : Nat) (ws : List SendWqe) : Node × SendWqe × Bool → Node
  | (n, w, true) => n.setQp (retireLocal n.qp w ws)
  | (n, w, false) => n.setQp (failLocal now n.qp w ws)

/-- The strong ordering of local requests: the first waiting element is
carried out when it comes to the head of the list. -/
def processLocalOnlyHead (cfg : Config) (now : Nat) (n : Node) (w : SendWqe)
    (ws : List SendWqe) : Node :=
  settleLocal now ws (if cfg.relaxed_invalidation_ordering then (n, w, true)
    else pibProcessLocalOnlyRequest n w)

/-- `process_send_wr` of the first sending element `w`, with the rest of the
list in `ws`, and the list change that follows it. -/
def processSendWr (cfg : Config) (now : Nat) (n : Node) (w : SendWqe) (ws : List SendWqe) : Node :=
  if w.processing.list_type ≠ .SENDING then n.crash .swqeList
  else if w.processing.status ≠ .SUCCESS then
    let q := n.qp.insertSendError w.wr_id w.processing.status w.opcode
    let q := failQp now (q.setInFlight .sending ws (-1))
    n.setQp (q.freeSendWqe { w with processing := { w.processing with list_type := .FREE } })
  else
    let (n, w) := pibProcessRcQpRequest cfg now n w
    match w.processing.list_type with
    | .SENDING => n.setQp (n.qp.setInFlight .sending (w :: ws) 0)
    | .WAITING =>
      let q := n.qp.setInFlight .sending ws (-1)
      n.setQp (q.setInFlight .waiting (q.requester.waiting_swqe ++ [w]) 1)
    | .FREE => n.setQp ((n.qp.setInFlight .sending ws 0).freeSendWqe w)
    | .SUBMITTED => n.crash .swqeList

def SendWqe.setSchedule (w : SendWqe) (now : Nat) : SendWqe :=
  { w with processing := { w.processing with schedule_time := now } }

/-- The part of `process_on_qp_scheduler` from `first_sending_wsqe` on, with
an element on the sending list. -/
def processSendingHead (cfg : Config) (now : Nat) (n : Node) : Node :=
  match n.qp.requester.sending_swqe with
  | [] => n
  | w :: ws =>
    if w.processing.status ≠ .SUCCESS ∧ n.qp.requester.waiting_swqe ≠ [] then n
    else if PIB_MAX_CONTIG_REQUESTS < n.qp.requester.nr_contig_requests then n
    else if now < w.processing.schedule_time then n
    else
      processSendWr cfg now (n.setQp (n.qp.setInFlight .sending (w.setSchedule now :: ws) 0))
        (w.setSchedule now) ws

/-- An element is taken from the submitted list when the sending list is
empty. -/
def processSending (cfg : Config) (now : Nat) (n : Node) : Node :=
  if n.qp.requester.sending_swqe = [] then
    match processNewSendWr now n.qp with
    | none => n
    | some q => processSendingHead cfg now (n.setQp q)
  else processSendingHead cfg now n

/-- The local acknowledge timer of the first waiting element has run out. -/
def expireTimer (now : Nat) (q : Qp) (w : SendWqe) (ws : List SendWqe) : Qp :=
  let w := { w with processing := { w.processing with
    retry_cnt := w.processing.retry_cnt - 1
    local_ack_time := now + PIB_SCHED_TIMEOUT } }
  resendWaiting (q.setInFlight .waiting (w :: ws) 0)

/-- The requester's part of `process_on_qp_scheduler`. -/
def processRequester (cfg : Config) (now : Nat) (n : Node) : Node :=
  if n.qp.state ≠ .RTS ∧ n.qp.state ≠ .SQD then n
  else
    match n.qp.requester.waiting_swqe with
    | [] => processSending cfg now n
    | w :: ws =>
      if w.local_only_request then processLocalOnlyHead cfg now n w ws
      else if now < w.processing.local_ack_time then processSending cfg now n
      else processSending cfg now (n.setQp (expireTimer now n.qp w ws))

/-- One iteration of `process_on_qp_scheduler` for this queue pair. -/
def processOnQpScheduler (cfg : Config) (now : Nat) (n : Node) : Node :=
  let n := match pibGenerateRcQpAcknowledge n with
    | (n, true) => n
    | (n, false) => processRequester cfg now n
  n.setQp (pibUtilRescheduleQp now n.qp)

/-! ## The queue pair as a machine -/

/-- What can happen to a queue pair. -/
inductive Act
  /-- `pib_post_send`, with the user memory at that time -/
  | postSend (copyFromUser : Nat → Nat → Option (List UInt8)) (wrs : List SendWr)
  /-- `pib_post_recv` -/
  | postRecv (wrs : List RecvWr)
  /-- an iteration of the scheduler -/
  | schedule
  /-- a packet from the network arrives at a port -/
  | receive (port_num : Nat) (p : RcPacket)
  /-- `pib_modify_qp` -/
  | modify (attr : ModifyAttr) (mask : AttrMask)
  /-- an error of a completion queue or shared receive queue takes the queue pair down -/
  | fatal
  /-- memory, memory regions and the shared receive queue change by other hands -/
  | environment (pd : Pd) (mem : Mem) (srq : Option Srq)

/-- One step at time `now`. The thread's send buffer is empty when it begins. -/
def act (cfg : Config) (ibModifyQpIsOk : QpState → QpState → AttrMask → Bool) (now : Nat)
    (n : Node) (a : Act) : Node :=
  let n := { n with send_buffer := none }
  match a with
  | .postSend copyFromUser wrs => n.setQp (pibPostSend cfg copyFromUser now n.qp wrs).1
  | .postRecv wrs => n.setQp (pibPostRecv cfg n.qp wrs).1
  | .schedule => processOnQpScheduler cfg now n
  | .receive port_num p =>
    let n := pibReceiveRcQpIncomingMessage cfg now port_num n p
    n.setQp (pibUtilRescheduleQp now n.qp)
  | .modify attr mask => n.setQp (pibModifyQp cfg ibModifyQpIsOk now n.qp attr mask).1
  | .fatal => n.setQp (failQp now n.qp)
  | .environment pd mem srq =>
    { n with pd, mem, qp := { n.qp with srq := if n.qp.srq.isSome then srq else none } }

end pib
