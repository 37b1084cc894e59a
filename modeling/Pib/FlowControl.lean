-- The flow control of SEND and RDMA WRITE: how many packets go out between two
-- responses. The counter is kept by every function but those that clear it
-- without a response: posting, the way to RTS, and the first packet of an RDMA
-- WRITE.
import Pib.RnrBackoff
import Pib.Refusal

namespace pib

open Bytes

variable (now : Nat) (q : Qp) {q' : Qp} {n n' : Node} {p : RcPacket} {sent port_num : Nat}
    {w : SendWqe}

/-! ## The counter and the state -/

/-- The counter of requests, beside the state that decides whether anything is
sent. -/
structure Pace where
  contig : Int
  state : QpState
  deriving DecidableEq, Repr

def Qp.pace (q : Qp) : Pace := { contig := q.requester.nr_contig_requests, state := q.state }

/-- The pace of a queue pair that has failed. -/
def Pace.failed : Pace := { contig := 0, state := .ERR }

def SendSide.pace (s : SendSide) : Pace :=
  { contig := s.requester.nr_contig_requests, state := s.state }

theorem pace_of_sendSide {q : Qp} (h : q'.sendSide = q.sendSide) : q'.pace = q.pace :=
  congrArg SendSide.pace h

@[simp] theorem pace_freeSendWqe (w : SendWqe) : (q.freeSendWqe w).pace = q.pace := rfl

@[simp] theorem pace_setInFlight (l : InFlight) (ws : List SendWqe) (d : Int) :
    (q.setInFlight l ws d).pace = q.pace := by
  cases l <;> rfl

@[simp] theorem pace_rescheduleQp :
    (pibUtilRescheduleQp now q).pace = q.pace := pace_of_sendSide (sendSide_rescheduleQp now q)

/-- A failed queue pair has no counter left. -/
@[simp] theorem pace_failQp : (failQp now q).pace = .failed :=
  congrArg SendSide.pace (sendSide_failQp now q)

@[simp] theorem pace_reportDrained : (reportDrained q).pace = q.pace := by
  unfold reportDrained
  split
  · split <;> rfl
  · rfl

/-- The counter and the state are as they were, or the queue pair has failed. -/
def Level (q q' : Qp) : Prop := q'.pace = q.pace ∨ q'.pace = .failed

namespace Level

theorem refl : Level q q := Or.inl rfl

theorem trans {q q'' : Qp} (h : Level q q') (h' : Level q' q'') : Level q q'' := by
  rcases h' with h' | h'
  · rcases h with h | h
    · exact Or.inl (h'.trans h)
    · exact Or.inr (h'.trans h)
  · exact Or.inr h'

end Level

/-! ## What arrives -/

theorem SparesSend.level {q : Qp} (h : SparesSend q q') : Level q q' := by
  rcases h with h | h
  · exact Or.inl (pace_of_sendSide h)
  · exact Or.inr (congrArg SendSide.pace h)

/-- A request leaves the counter alone, or fails the queue pair. -/
theorem level_receiveRequest (cfg : Config) (now : Nat) (n : Node) (p : RcPacket) :
    Level n.qp (receiveRequest cfg now n p).qp := (sparesSend_receiveRequest cfg now n p).level

theorem level_respStep {D : Prop} {now : Nat} (h : SendStep (.response D) now n n') :
    Level n.qp n'.qp := by
  cases h with
  | requester r hr => exact Or.inl (congrArg (fun contig => Pace.mk contig n.qp.state) hr.2)
  | fail => exact Or.inr (pace_failQp now n.qp)
  | drained => exact Or.inl (pace_reportDrained n.qp)
  | _ => exact Or.inl rfl

/-- A response that is long enough clears the counter first. -/
theorem level_receiveResponse (cfg : Config) (now : Nat) (n : Node) (hlen : ¬ p.buffer.length < 4) :
    Level { n.qp with requester := { n.qp.requester with nr_contig_requests := 0 } }
      (receiveResponse cfg now n p).qp :=
  Run.closure (R := fun n n' => Level n.qp n'.qp) (fun n => Level.refl n.qp) Level.trans
    level_respStep (respSteps_receiveResponse cfg now n hlen)

/-! ## What a step sends -/

/-- The packets of SEND and RDMA WRITE. -/
def isSendOrWrite : OpCode → Bool
  | .SEND_FIRST | .SEND_MIDDLE | .SEND_LAST | .SEND_LAST_WITH_IMMEDIATE | .SEND_ONLY
  | .SEND_ONLY_WITH_IMMEDIATE | .SEND_LAST_WITH_INVALIDATE | .SEND_ONLY_WITH_INVALIDATE
  | .RDMA_WRITE_FIRST | .RDMA_WRITE_MIDDLE | .RDMA_WRITE_LAST | .RDMA_WRITE_LAST_WITH_IMMEDIATE
  | .RDMA_WRITE_ONLY | .RDMA_WRITE_ONLY_WITH_IMMEDIATE => true
  | _ => false

/-- The number of SEND and RDMA WRITE packets in the send buffer. -/
def Node.dataPackets (n : Node) : Nat :=
  match n.send_buffer with
  | some p => if isSendOrWrite p.opcode then 1 else 0
  | none => 0

theorem dataPackets_of_empty (h : n.send_buffer = none) : n.dataPackets = 0 := by
  unfold Node.dataPackets
  rw [h]

theorem dataPackets_le (n : Node) : n.dataPackets ≤ 1 := by
  unfold Node.dataPackets
  split
  · split <;> decide
  · decide

theorem dataPackets_congr (h : n'.send_buffer = n.send_buffer) :
    n'.dataPackets = n.dataPackets := by
  unfold Node.dataPackets
  rw [h]

/-- The only packet that a response brings forth is a congestion notification. -/
theorem dataPackets_respStep {D : Prop} {now : Nat}
    (h : SendStep (.response D) now n n') (hd : n.dataPackets = 0) : n'.dataPackets = 0 := by
  cases h with
  | packet p hp =>
    have hp : p.opcode = .CNP_SEND_NOTIFY := hp
    simp [Node.dataPackets, hp, isSendOrWrite]
  | _ => exact hd

theorem dataPackets_receiveResponse (cfg : Config) (now : Nat) (p : RcPacket)
    (h : n.dataPackets = 0) : (receiveResponse cfg now n p).dataPackets = 0 := by
  by_cases hlen : p.buffer.length < 4
  · rw [receiveResponse, if_pos hlen]
    exact h
  refine Run.closure (R := fun n n' => n.dataPackets = 0 → n'.dataPackets = 0) (fun _ => id) ?_
    dataPackets_respStep (respSteps_receiveResponse cfg now n hlen) h
  intro _ _ _ h h' hd
  exact h' (h hd)

/-- No packet that arrives makes the queue pair send data at once. -/
theorem dataPackets_receive (cfg : Config) (now port_num : Nat) (p : RcPacket)
    (h : n.dataPackets = 0) : (pibReceiveRcQpIncomingMessage cfg now port_num n p).dataPackets = 0 := by
  unfold pibReceiveRcQpIncomingMessage
  split
  · exact h
  split
  · exact h
  split
  · exact h
  · exact dataPackets_receiveResponse cfg now p h
  · rw [dataPackets_congr (receiveRequest_send_buffer cfg now n p)]
    exact h

/-! ## The scheduler -/

/-- The counter is not behind the packets sent since the last response, as long
as the queue pair sends at all. -/
structure Within (sent : Nat) (q : Qp) : Prop where
  nonneg : 0 ≤ q.pace.contig
  counted : q.pace.state = .RTS ∨ q.pace.state = .SQD → (sent : Int) ≤ q.pace.contig

theorem Within.of_pace {q : Qp} (h : Within sent q) (hp : q'.pace = q.pace) : Within sent q' := by
  refine ⟨?_, ?_⟩
  · rw [hp]
    exact h.nonneg
  · rw [hp]
    exact h.counted

theorem Within.of_failed {q : Qp} (h : q.pace = .failed) : Within sent q := by
  refine ⟨?_, ?_⟩
  · rw [h]
    exact le_refl 0
  · rw [h]
    rintro (h | h) <;> nomatch h

theorem Within.level {q : Qp} (h : Within sent q) (hl : Level q q') : Within sent q' :=
  hl.elim h.of_pace Within.of_failed

/-- The bound on the packets between two responses. -/
def maxBurst : Nat := 65

theorem maxBurst_eq : (maxBurst : Int) = PIB_MAX_CONTIG_REQUESTS + 1 := rfl

/-- A step that ends with this node has kept the bound. -/
structure Bounded (sent : Nat) (n : Node) : Prop where
  within : Within (sent + n.dataPackets) n.qp
  bound : sent + n.dataPackets ≤ maxBurst

theorem Bounded.of_silent (hd : n.dataPackets = 0) (hw : Within sent n.qp)
    (hb : sent ≤ maxBurst) : Bounded sent n := by
  refine ⟨?_, ?_⟩
  · rw [hd, Nat.add_zero]
    exact hw
  · rw [hd, Nat.add_zero]
    exact hb

/-- What comes after the packet keeps the counter and the send buffer, or fails
the queue pair. -/
theorem Bounded.level (h : Bounded sent n)
    (hb : n'.send_buffer = n.send_buffer) (hl : Level n.qp n'.qp) : Bounded sent n' := by
  have hd := dataPackets_congr hb
  refine ⟨?_, ?_⟩
  · rw [hd]
    exact h.within.level hl
  · rw [hd]
    exact h.bound

/-- An RDMA READ request and an atomic are no data. -/
theorem opcode_next (h : IsNextPacket p w)
    (hread : w.opcode = .RDMA_READ) : isSendOrWrite p.opcode = false := by
  obtain ⟨-, hop⟩ := h
  unfold requestOpcode at hop
  rw [hread] at hop
  rw [← Option.some.inj hop]
  rfl

/-- The counter after a packet: one more, unless it was cleared first. -/
theorem contig_countRequest (w : SendWqe) (sent : Bool) :
    (countRequest q w sent).pace.contig =
      (if withReth (positionOf w.processing) w.opcode = true ∧ w.total_length ≤ PIB_MAX_PAYLOAD_LEN
        then 0 else q.pace.contig) + if sent = true ∧ w.opcode ≠ .RDMA_READ then 1 else 0 := by
  unfold countRequest Qp.pace
  dsimp only
  split <;> split <;> simp

/-- There is room for one more packet, and this element has it. The first packet
of an RDMA WRITE clears the counter, so nothing may have been counted then. -/
structure Room (sent : Nat) (n : Node) (w : SendWqe) : Prop where
  empty : n.send_buffer = none
  nonneg : 0 ≤ n.qp.pace.contig
  counted : (sent : Int) ≤ n.qp.pace.contig
  room : n.qp.pace.contig ≤ PIB_MAX_CONTIG_REQUESTS
  reth : withReth (positionOf w.processing) w.opcode = true → sent = 0

theorem Room.bounded (h : Room sent n w) : Bounded sent n := by
  refine Bounded.of_silent (dataPackets_of_empty h.empty) ⟨h.nonneg, fun _ => h.counted⟩ ?_
  have hs := h.counted
  have hroom := h.room
  have hmax : PIB_MAX_CONTIG_REQUESTS = 64 := rfl
  unfold maxBurst
  omega

/-- The counter keeps up with a packet that is counted. -/
theorem bounded_countRequest {m : Node} {counted : Bool} (h : Room sent n w)
    (hd : m.dataPackets = 0 ∨ counted = true ∧ w.opcode ≠ .RDMA_READ) :
    Bounded sent (m.setQp (countRequest n.qp w counted)) := by
  obtain ⟨-, hn, hs, hroom, hreth⟩ := h
  have hc := contig_countRequest n.qp w counted
  have hle := dataPackets_le m
  have hmax : PIB_MAX_CONTIG_REQUESTS = 64 := rfl
  have hcount : (sent + m.dataPackets : Int) ≤ (countRequest n.qp w counted).pace.contig ∧
      0 ≤ (countRequest n.qp w counted).pace.contig := by
    rw [hc]
    by_cases hclear : withReth (positionOf w.processing) w.opcode = true ∧
        w.total_length ≤ PIB_MAX_PAYLOAD_LEN
    · have hzero := hreth hclear.1
      rw [if_pos hclear]
      rcases hd with hd | hd
      · split <;> omega
      · rw [if_pos hd]
        omega
    · rw [if_neg hclear]
      rcases hd with hd | hd
      · split <;> omega
      · rw [if_pos hd]
        omega
  refine ⟨⟨hcount.2, fun _ => ?_⟩, ?_⟩
  · show ((sent + m.dataPackets : Nat) : Int) ≤ _
    push_cast
    exact hcount.1
  · show sent + m.dataPackets ≤ maxBurst
    unfold maxBurst
    omega

theorem bounded_processRcQpRequest (cfg : Config) (now : Nat)
    (h : Room sent n w) : Bounded sent (pibProcessRcQpRequest cfg now n w).1 := by
  have hlocal : Bounded sent (pibProcessLocalOnlyRequest n w).1 := by
    refine h.bounded.level (send_buffer_localOnly n w) (Or.inl ?_)
    rw [(processLocalOnly_touched n w).1]
  have hr := processRcQpRequest_cases cfg now n w
  generalize pibProcessRcQpRequest cfg now n w = r at hr ⊢
  cases hr with
  | ran _ _ he | failed _ _ he =>
    rw [he] at hlocal
    exact hlocal
  | later | exhausted => exact h.bounded
  | unbuilt =>
    rw [Node.written_qp]
    refine bounded_countRequest h (Or.inl (dataPackets_of_empty ?_))
    rw [Node.written_send_buffer, h.empty]
  | @sent p _ _ _ _ hp =>
    rw [Node.written_qp]
    refine bounded_countRequest h ?_
    by_cases hread : w.opcode = .RDMA_READ
    · refine Or.inl ?_
      simp [Node.dataPackets, opcode_next hp hread]
    · exact Or.inr ⟨rfl, hread⟩

theorem bounded_processSendWr (cfg : Config) (now : Nat)
    (ws : List SendWqe) (h : Room sent n w) : Bounded sent (processSendWr cfg now n w ws) := by
  have hreq := bounded_processRcQpRequest cfg now h
  unfold processSendWr
  split
  · exact h.bounded.level rfl (Level.refl _)
  split
  · refine h.bounded.level rfl (Or.inr ?_)
    rw [Node.setQp_qp, pace_freeSendWqe, pace_failQp]
  generalize pibProcessRcQpRequest cfg now n w = r at hreq ⊢
  obtain ⟨n', w'⟩ := r
  dsimp only at hreq ⊢
  split
  · exact hreq.level rfl (Or.inl (pace_setInFlight _ _ _ _))
  · refine hreq.level rfl (Or.inl ?_)
    rw [Node.setQp_qp, pace_setInFlight, pace_setInFlight]
  · refine hreq.level rfl (Or.inl ?_)
    rw [Node.setQp_qp, pace_freeSendWqe, pace_setInFlight]
  · exact hreq.level rfl (Level.refl _)

/-- The element that is up for `process_send_wr` in this turn. -/
def headOfTurn (now : Nat) (n : Node) : Option SendWqe :=
  (sendingTurn now n).bind fun m => m.qp.requester.sending_swqe.head?

theorem turn_pace {now : Nat} {m : Node} (h : sendingTurn now n = some m) :
    m.qp.pace = n.qp.pace ∧ (n.qp.pace.state = .RTS ∨ n.qp.pace.state = .SQD) := by
  obtain ⟨hlive, ht⟩ := turn_of_some h
  refine ⟨?_, hlive⟩
  cases ht with
  | next | expired => rfl
  | new _ hq =>
    obtain ⟨-, w, ws, -, -, rfl⟩ := processNewSendWr_some hq
    rfl

theorem level_processLocalOnlyHead (cfg : Config) (now : Nat) (n : Node) (w : SendWqe)
    (ws : List SendWqe) : Level n.qp (processLocalOnlyHead cfg now n w ws).qp ∧
      (processLocalOnlyHead cfg now n w ws).send_buffer = n.send_buffer := by
  have hsettle : ∀ r : Node × SendWqe × Bool, r.1.qp = n.qp → r.1.send_buffer = n.send_buffer →
      Level n.qp (settleLocal now ws r).qp ∧ (settleLocal now ws r).send_buffer = n.send_buffer := by
    rintro ⟨n', w', ok⟩ hq hb
    have hq : n'.qp = n.qp := hq
    refine ⟨?_, ?_⟩
    · cases ok
      · rw [settleLocal, Node.setQp_qp]
        refine Or.inr ?_
        rw [failLocal]
        dsimp only
        rw [pace_freeSendWqe]
        have hf := pace_failQp now
          ((n'.qp.setInFlight .waiting (w' :: ws) 0).insertSendError w'.wr_id w'.processing.status
            w'.opcode)
        generalize failQp now _ = q at hf ⊢
        exact hf
      · rw [settleLocal, Node.setQp_qp, hq]
        exact Or.inl ((pace_freeSendWqe _ _).trans (pace_setInFlight _ _ _ _))
    · cases ok <;> exact hb
  unfold processLocalOnlyHead
  split
  · exact hsettle _ rfl rfl
  · exact hsettle _ (processLocalOnly_touched n w).1 (send_buffer_localOnly n w)

/-- A turn that goes to no element leaves the counter alone and sends nothing. -/
theorem level_of_no_turn (cfg : Config) (now : Nat) (h : sendingTurn now n = none) :
    Level n.qp (processRequester cfg now n).qp ∧
      (processRequester cfg now n).send_buffer = n.send_buffer := by
  have hr := processRequester_cases cfg now n
  rw [h] at hr
  generalize processRequester cfg now n = n' at hr ⊢
  cases hr with
  | idle => exact ⟨Level.refl _, rfl⟩
  | localHead => exact level_processLocalOnlyHead cfg now n _ _

theorem bounded_processSendingHead (cfg : Config) (now : Nat) (hbuf : n.send_buffer = none)
    (hw : Within sent n.qp) (hst : n.qp.pace.state = .RTS ∨ n.qp.pace.state = .SQD)
    (hb : sent ≤ maxBurst) (hreth : ∀ w ∈ n.qp.requester.sending_swqe.head?,
      withReth (positionOf w.processing) w.opcode = true → sent = 0) :
    Bounded sent (processSendingHead cfg now n) := by
  have hsilent := Bounded.of_silent (dataPackets_of_empty hbuf) hw hb
  unfold processSendingHead
  split
  · exact hsilent
  rename_i w ws hlist
  split
  · exact hsilent
  split
  · exact hsilent
  rename_i hroom
  split
  · exact hsilent
  have hhead : w ∈ n.qp.requester.sending_swqe.head? := by
    rw [hlist]
    rfl
  apply bounded_processSendWr
  exact ⟨hbuf, hw.nonneg, hw.counted hst, not_lt.mp hroom, hreth w hhead⟩

theorem bounded_processRequester (cfg : Config) (now : Nat)
    (hbuf : n.send_buffer = none) (hw : Within sent n.qp) (hb : sent ≤ maxBurst)
    (hreth : ∀ w ∈ headOfTurn now n, withReth (positionOf w.processing) w.opcode = true → sent = 0) :
    Bounded sent (processRequester cfg now n) := by
  unfold headOfTurn at hreth
  cases hturn : sendingTurn now n with
  | none =>
    obtain ⟨hl, hsame⟩ := level_of_no_turn cfg now hturn
    exact (Bounded.of_silent (dataPackets_of_empty hbuf) hw hb).level hsame hl
  | some m =>
    obtain ⟨hpace, hst⟩ := turn_pace hturn
    rw [hturn] at hreth
    rw [processRequester_of_turn cfg hturn]
    refine bounded_processSendingHead cfg now ((turn_send_buffer hturn).trans hbuf) (hw.of_pace hpace)
      ?_ hb hreth
    rw [hpace]
    exact hst

/-- An acknowledge is no data. -/
theorem isSendOrWrite_acknowledge {opcode : OpCode} (h : pibOpcodeIsAcknowledge opcode = some true) :
    isSendOrWrite opcode = false := by
  cases opcode <;> first | rfl | exact absurd h (by decide)

theorem dataPackets_generateAcknowledge (hbuf : n.send_buffer = none) :
    (pibGenerateRcQpAcknowledge n).1.dataPackets = 0 := by
  cases hsent : (pibGenerateRcQpAcknowledge n).1.send_buffer with
  | none => exact dataPackets_of_empty hsent
  | some p =>
    unfold Node.dataPackets
    simp [hsent, isSendOrWrite_acknowledge (acknowledge_sent hbuf hsent)]

/-- An iteration of the scheduler keeps the bound, when the counter is not
cleared by an RDMA WRITE. -/
theorem bounded_processOnQpScheduler (cfg : Config) (now : Nat)
    (hbuf : n.send_buffer = none) (hw : Within sent n.qp) (hb : sent ≤ maxBurst)
    (hreth : ∀ w ∈ headOfTurn now n, withReth (positionOf w.processing) w.opcode = true → sent = 0) :
    Bounded sent (processOnQpScheduler cfg now n) := by
  have hpace := pace_of_sendSide (sendSide_generateAcknowledge n)
  have hdata := dataPackets_generateAcknowledge hbuf
  obtain ⟨n', he, h⟩ := scheduler_cases cfg now n
  rw [he]
  rcases h with h | ⟨-, rfl⟩
  · rw [h] at hpace hdata
    have h : Bounded sent n' := Bounded.of_silent hdata (hw.of_pace hpace) hb
    exact h.level rfl (Or.inl (pace_rescheduleQp now _))
  · have h := bounded_processRequester cfg now hbuf hw hb hreth
    exact h.level rfl (Or.inl (pace_rescheduleQp now _))

/-! ## The verbs -/

/-- Posting in RTS clears the counter. -/
theorem within_pibPostSend (cfg : Config) (copyFromUser : UserCopy) (now : Nat) {q : Qp} (wrs : List SendWr) (h : Within sent q) (hrts : q.state = .RTS → sent = 0) :
    Within sent (pibPostSend cfg copyFromUser now q wrs).1 := by
  obtain ⟨q', ⟨_, _, _, _, rfl⟩, he | ⟨hst, he⟩⟩ := pibPostSend_qp cfg copyFromUser now q wrs
  · rw [he]
    exact h.of_pace rfl
  · rw [he]
    refine ⟨le_refl 0, fun _ => ?_⟩
    rw [hrts hst]
    exact le_refl 0

/-- The counter is kept or cleared when a state is entered. -/
theorem pace_enterState (cfg : Config) (now : Nat) (q : Qp) (new : QpState) :
    (enterState cfg now q new).pace = { q.pace with state := new } ∨
      (enterState cfg now q new).pace = { contig := 0, state := new } ∧ new ≠ .SQD := by
  cases new with
  | RESET =>
    refine Or.inr ⟨?_, by decide⟩
    unfold enterState resetQp Qp.pace Qp.clearContig
    dsimp only
    rw [rescheduleQp_state, (foldl_freeRecvWqe _ _).choose_spec.choose_spec]
    rfl
  | SQE =>
    refine Or.inl ?_
    unfold enterState pibUtilFlushQp flushSendQueue
    simp only [foldl_flushSendWqe]
    rfl
  | ERR =>
    refine Or.inr ⟨?_, by decide⟩
    exact pace_failQp now q
  | INIT | RTR | RTS | SQD => exact Or.inl rfl

theorem pace_settleState (cur new : QpState) (drained : Bool) :
    (settleState now q cur new drained).pace = q.pace ∨
      (settleState now q cur new drained).pace = { q.pace with contig := 0 } ∧ new = .RTS := by
  unfold settleState
  dsimp only
  generalize hq : (if drained = true then
      ({ (if q.attr.en_sqd_async_notify = true then q.insertEvent .SQ_DRAINED else q) with
        issue_sq_drained := true } : Qp) else q) = q₁
  have h₁ : q₁.pace = q.pace := by
    rw [← hq]
    split
    · split <;> rfl
    · rfl
  generalize hq' : (if cur = .SQD ∧ new ≠ .SQD then { q₁ with issue_sq_drained := false } else q₁) = q₂
  have h₂ : q₂.pace = q.pace := by
    rw [← hq', ← h₁]
    split <;> rfl
  split
  · rename_i hrts
    refine Or.inr ⟨?_, hrts.1⟩
    have hstate := congrArg Pace.state ((pace_rescheduleQp now q₂).trans h₂)
    exact congrArg (Pace.mk 0) hstate
  · exact Or.inl h₂

/-- The call brings the queue pair to RTS, or to SQD from a state in which
nothing is sent. -/
def Revives (q : Qp) (attr : ModifyAttr) (mask : AttrMask) : Prop :=
  mask.STATE = true ∧
    (attr.qp_state = .RTS ∨ attr.qp_state = .SQD ∧ q.state ≠ .RTS ∧ q.state ≠ .SQD)

instance (q : Qp) (attr : ModifyAttr) (mask : AttrMask) : Decidable (Revives q attr mask) :=
  inferInstanceAs (Decidable (_ ∧ _))

theorem within_pibModifyQp (cfg : Config) (isOk : StateCheck)
    (now : Nat) {q : Qp} {attr : ModifyAttr} {mask : AttrMask} (h : Within sent q)
    (hrev : Revives q attr mask → sent = 0) :
    Within sent (pibModifyQp cfg isOk now q attr mask).1 := by
  have hattr : (setAttrs cfg q attr mask).pace = q.pace := rfl
  rcases pibModifyQp_settles cfg isOk now q attr mask with he | ⟨-, he⟩ | ⟨hm, -, -, he⟩
  · rw [he]
    exact h
  · rw [he]
    exact h.of_pace hattr
  rw [he]
  have hset := pace_settleState now (enterState cfg now (setAttrs cfg q attr mask) attr.qp_state)
    (curState q attr mask) attr.qp_state
      (decide (q.requester.sending_swqe = [] ∧ q.requester.waiting_swqe = []))
  have hent := pace_enterState cfg now (setAttrs cfg q attr mask) attr.qp_state
  rw [hattr] at hent
  generalize settleState now _ _ _ _ = q₂ at hset ⊢
  generalize enterState cfg now _ _ = q₁ at hset hent
  have hstate : q₂.pace.state = attr.qp_state := by
    have h₁ : q₁.pace.state = attr.qp_state := by
      rcases hent with hent | ⟨hent, -⟩ <;> rw [hent]
    rcases hset with hset | ⟨hset, -⟩ <;> rw [hset] <;> exact h₁
  have hcontig : q₂.pace.contig = q.pace.contig ∨ q₂.pace.contig = 0 ∧ attr.qp_state ≠ .SQD := by
    rcases hset with hset | ⟨hset, hnew⟩
    · rw [hset]
      rcases hent with hent | ⟨hent, hnew⟩
      · exact Or.inl (by rw [hent])
      · exact Or.inr ⟨by rw [hent], hnew⟩
    · exact Or.inr ⟨by rw [hset], by rw [hnew]; decide⟩
  have hnonneg : 0 ≤ q₂.pace.contig := by
    rcases hcontig with hc | ⟨hc, -⟩
    · rw [hc]
      exact h.nonneg
    · rw [hc]
  refine ⟨hnonneg, ?_⟩
  rw [hstate]
  intro hsends
  by_cases hr : Revives q attr mask
  · rw [hrev hr]
    exact hnonneg
  -- nothing is cleared on the way from RTS or SQD to SQD
  obtain ⟨hrts, hsqd⟩ := not_or.mp (not_and.mp hr hm)
  have hnew := hsends.resolve_left hrts
  have hold : q.pace.state = .RTS ∨ q.pace.state = .SQD := by
    by_contra hno
    exact hsqd ⟨hnew, not_or.mp hno⟩
  rw [hcontig.resolve_right fun hc => hc.2 hnew]
  exact h.counted hold

/-! ## Runs -/

/-- A queue pair, with the number of SEND and RDMA WRITE packets that it has sent
since the last response. -/
structure Flow where
  node : Node
  sent : Nat := 0

/-- The packet is taken for a response. -/
def takesResponse (n : Node) : Act → Bool
  | .receive port_num p =>
    pibIsRecvOk n.qp.state && decide (n.qp.attr.port_num = port_num) &&
      decide (pibOpcodeIsAcknowledge p.opcode = some true) && decide (4 ≤ p.buffer.length)
  | _ => false

/-- The counter is cleared without a response: by work requests posted in RTS, on
the way to RTS, or by the first packet of an RDMA WRITE. -/
def clearsUnanswered (now : Nat) (n : Node) : Act → Bool
  | .postSend _ _ => n.qp.state = .RTS
  | .modify attr mask => Revives n.qp attr mask
  | .schedule =>
    (headOfTurn now { n with send_buffer := none }).any fun w =>
      withReth (positionOf w.processing) w.opcode
  | _ => false

namespace Flow

variable (cfg : Config) (ibModifyQpIsOk : QpState → QpState → AttrMask → Bool)

/-- A step of the queue pair, with its packet counted. -/
def step (f : Flow) (x : Nat × Act) : Flow :=
  let node := pib.step cfg ibModifyQpIsOk f.node x
  let sent := if takesResponse f.node x.2 then 0 else f.sent
  { node, sent := sent + node.dataPackets }

/-- The counter is cleared without a response only when there is nothing to
forget. -/
def Patient (f : Flow) (x : Nat × Act) : Prop := clearsUnanswered x.1 f.node x.2 = true → f.sent = 0

instance (f : Flow) (x : Nat × Act) : Decidable (Patient f x) := inferInstanceAs (Decidable (_ → _))

/-- What every step keeps. -/
structure Good (f : Flow) : Prop where
  within : Within f.sent f.node.qp
  bound : f.sent ≤ maxBurst

variable {cfg ibModifyQpIsOk}

theorem takesResponse_receive (n : Node) (port_num : Nat) (p : RcPacket) :
    takesResponse n (.receive port_num p) = true ↔
      ((pibIsRecvOk n.qp.state = true ∧ n.qp.attr.port_num = port_num) ∧
        pibOpcodeIsAcknowledge p.opcode = some true) ∧ 4 ≤ p.buffer.length := by
  simp [takesResponse]

/-- A response leaves nothing counted. -/
theorem within_response (cfg : Config) (now : Nat)
    (h : takesResponse n (.receive port_num p) = true) :
    Within 0 (pibReceiveRcQpIncomingMessage cfg now port_num n p).qp := by
  obtain ⟨⟨⟨hok, hport⟩, hack⟩, hlen⟩ := (takesResponse_receive n port_num p).mp h
  have hcnp : p.opcode ≠ .CNP_SEND_NOTIFY := by
    intro he
    rw [he] at hack
    nomatch hack
  have hzero : Within 0 { n.qp with requester :=
      { n.qp.requester with nr_contig_requests := 0 } } := ⟨le_refl 0, fun _ => le_refl 0⟩
  unfold pibReceiveRcQpIncomingMessage
  rw [if_neg (by simp [hok, hport]), if_neg hcnp, hack]
  exact hzero.level (level_receiveResponse cfg now n (not_lt.mpr hlen))

/-- Any other packet leaves the counter alone. -/
theorem within_other (cfg : Config) (now : Nat)
    (h : ¬ takesResponse n (.receive port_num p) = true) (hw : Within sent n.qp) :
    Within sent (pibReceiveRcQpIncomingMessage cfg now port_num n p).qp := by
  rw [takesResponse_receive] at h
  unfold pibReceiveRcQpIncomingMessage
  split
  · exact hw
  rename_i hready
  obtain ⟨hok, hport⟩ := not_or.mp hready
  split
  · exact hw.of_pace rfl
  split
  · exact hw
  · rename_i hack
    have hshort : p.buffer.length < 4 := by
      by_contra hlen
      exact h ⟨⟨⟨by simpa using hok, not_not.mp hport⟩, hack⟩, not_lt.mp hlen⟩
    unfold receiveResponse
    rw [if_pos hshort]
    exact hw
  · exact hw.level (level_receiveRequest cfg now n p)

theorem bounded_receive {f : Flow} {now : Nat} (h : f.Good) :
    Bounded (if takesResponse f.node (.receive port_num p) then 0 else f.sent)
      (act cfg ibModifyQpIsOk now f.node (.receive port_num p)) := by
  have hdata := dataPackets_receive (n := { f.node with send_buffer := none }) cfg now port_num p rfl
  split
  · rename_i hr
    have hw := within_response (n := { f.node with send_buffer := none }) cfg now hr
    exact (Bounded.of_silent hdata hw (Nat.zero_le _)).level rfl (Or.inl (pace_rescheduleQp now _))
  · rename_i hr
    have hw := within_other (n := { f.node with send_buffer := none }) cfg now hr h.within
    exact (Bounded.of_silent hdata hw h.bound).level rfl (Or.inl (pace_rescheduleQp now _))

/-- Every step keeps the bound, unless it clears the counter with packets
outstanding. -/
theorem bounded_act {f : Flow} {now : Nat} {a : Act} (h : f.Good) (hp : f.Patient (now, a)) :
    Bounded (if takesResponse f.node a then 0 else f.sent)
      (act cfg ibModifyQpIsOk now f.node a) := by
  have hsilent : ∀ q : Qp, Within f.sent q →
      Bounded f.sent (({ f.node with send_buffer := none } : Node).setQp q) := fun q hq =>
    Bounded.of_silent rfl hq h.bound
  cases a with
  | receive port_num p => exact bounded_receive h
  | postSend copyFromUser wrs =>
    refine hsilent _ (within_pibPostSend cfg copyFromUser now wrs h.within fun hrts => hp ?_)
    simpa [clearsUnanswered] using hrts
  | postRecv wrs => exact hsilent _ (h.within.of_pace (pace_of_sendSide (sendSide_pibPostRecv cfg f.node.qp wrs)))
  | schedule =>
    refine bounded_processOnQpScheduler cfg now rfl h.within h.bound fun w hw hreth => hp ?_
    show ((headOfTurn now { f.node with send_buffer := none }).any _) = true
    rw [Option.mem_def.mp hw]
    exact hreth
  | modify attr mask =>
    refine hsilent _ (within_pibModifyQp cfg ibModifyQpIsOk now h.within fun hr => hp ?_)
    simpa [clearsUnanswered] using hr
  | fatal => exact hsilent _ (Within.of_failed (pace_failQp now f.node.qp))
  | environment pd mem srq => exact Bounded.of_silent rfl (h.within.of_pace rfl) h.bound

theorem good_step (f : Flow) (x : Nat × Act) (h : f.Good) (hp : f.Patient x) :
    (step cfg ibModifyQpIsOk f x).Good := by
  have hb : Bounded _ (act cfg ibModifyQpIsOk x.1 f.node x.2) := bounded_act h hp
  exact ⟨hb.within, hb.bound⟩

/-- In every run of a queue pair in which the counter is cleared without a
response only while no packet is unanswered, at most 65 packets of SEND and RDMA
WRITE go out between two responses. -/
theorem burst_bounded (cfg : Config) (ibModifyQpIsOk : QpState → QpState → AttrMask → Bool)
    (init_attr : QpInitAttr) (srq : Option Srq) (pd : Pd) (mem : Mem) (xs : List (Nat × Act))
    (h : Run.Meets (step cfg ibModifyQpIsOk) Patient
      { node := created cfg init_attr srq pd mem } xs) :
    ((Run.run (step cfg ibModifyQpIsOk) { node := created cfg init_attr srq pd mem } xs).sent : Int) ≤
      PIB_MAX_CONTIG_REQUESTS + 1 := by
  have hgood := Run.invariant (I := Good) good_step ⟨⟨le_refl 0, fun _ => le_refl 0⟩, Nat.zero_le _⟩ h
  rw [← maxBurst_eq]
  exact_mod_cast hgood.bound

/-- A queue pair that can hold this many work requests. -/
def sender (max_send_wr : Nat) : Flow :=
  { node := created {} { max_send_wr } none ⟨0, fun _ => none⟩ fun _ => 0 }

/-- So many empty messages are posted at once, and the scheduler gets as many
turns. -/
def emptyMessages (opcode : WrOpcode) (count : Nat) : List (Nat × Act) :=
  bringUp { timeout := 14, retry_cnt := 7, path_mtu := 1 } ++
    (1, .postSend (fun _ _ => none)
      (List.replicate count { wr_id := 9, opcode, sg_list := [{ addr := 0, length := 0, lkey := 0 }] })) ::
    List.replicate count (2, .schedule)

/-- Three SENDs go out unanswered. -/
theorem burst_of_sends :
    (Run.run (step {} ibStateTable) (sender 4) (emptyMessages .SEND 3)).sent = 3 ∧
      ((Run.run (step {} ibStateTable) (sender 4) (emptyMessages .SEND 3)).sent : Int) ≤
        PIB_MAX_CONTIG_REQUESTS + 1 :=
  ⟨by decide, burst_bounded {} ibStateTable { max_send_wr := 4 } none ⟨0, fun _ => none⟩ (fun _ => 0)
    (emptyMessages .SEND 3) (by decide)⟩

/-- Seventy RDMA WRITEs of one packet each go out in a row. -/
theorem burst_of_writes :
    ¬ ((Run.run (step {} ibStateTable) (sender 70) (emptyMessages .RDMA_WRITE 70)).sent : Int) ≤
      PIB_MAX_CONTIG_REQUESTS + 1 := by
  have hsent : (Run.run (step {} ibStateTable) (sender 70) (emptyMessages .RDMA_WRITE 70)).sent = 70 := by
    decide +kernel
  rw [hsent]
  decide

end Flow

end pib
