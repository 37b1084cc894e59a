-- The two halves of a queue pair, and what keeps them apart: the requester's work
-- leaves the receiving half as it is or takes the queue pair down, so does the
-- responder's work with the sending half, and only the expected request is executed.
import Pib.Refusal
import Pib.SlotRing

namespace pib

variable (cfg : Config) (isOk : StateCheck) (n : Node)

/-- The half that has the work: the requester for posts of send requests, turns of the
scheduler and responses, the responder for posts of receive requests and requests. -/
def ofRequester : Nat × Act → Option Bool
  | (_, .postSend _ _) | (_, .schedule) => true
  | (_, .postRecv _) => false
  | (_, .receive _ p) => decide (pibOpcodeIsAcknowledge p.opcode ≠ some false)
  | _ => none

/-- Whatever the requester does and hears, the receiving half is as it was, or the queue
pair has failed and its receives are flushed, each once. -/
theorem requester_spares_receiver (xs : List (Nat × Act)) :
    Spares n.qp (Run.run (step cfg isOk) n (xs.filter (ofRequester · = some true))).qp := by
  refine Run.always_filter (I := fun m : Node => Spares n.qp m.qp)
    (fun m x h hx => h.trans ?_) (.refl _) xs
  obtain ⟨now, a⟩ := x
  cases a with
  | postSend copyFromUser wrs =>
    exact .same (recvSide_of_respSide (respSide_pibPostSend cfg copyFromUser now m.qp wrs))
  | schedule => exact spares_processOnQpScheduler cfg now { m with send_buffer := none }
  | receive port_num p =>
    refine Spares.trans ?_ (.same (recvSide_of_respSide (respSide_rescheduleQp now _)))
    unfold pibReceiveRcQpIncomingMessage
    split
    · exact .same rfl
    split
    · exact .same rfl
    split
    · exact .same rfl
    · exact (sparesAll_receiveResponse cfg now { m with send_buffer := none } p).spares
    · simp_all [ofRequester]
  | _ => cases hx

/-- Whatever requests come in and receives are posted, the sending half is as it was, or the
queue pair has failed and its send elements are flushed, each once. -/
theorem responder_spares_sender (xs : List (Nat × Act)) :
    SparesSend n.qp (Run.run (step cfg isOk) n (xs.filter (ofRequester · = some false))).qp := by
  refine Run.always_filter (I := fun m : Node => SparesSend n.qp m.qp)
    (fun m x h hx => h.trans ?_) (.refl _) xs
  obtain ⟨now, a⟩ := x
  cases a with
  | postRecv wrs => exact Or.inl (sendSide_pibPostRecv cfg m.qp wrs)
  | receive port_num p =>
    refine SparesSend.trans ?_ (Or.inl (sendSide_rescheduleQp now _))
    unfold pibReceiveRcQpIncomingMessage
    split
    · exact Or.inl rfl
    split
    · exact Or.inl rfl
    split
    · exact Or.inl rfl
    · simp_all [ofRequester]
    · exact sparesSend_receiveRequest cfg now { m with send_buffer := none } p
  | _ => cases hx

/-- Requests in any order and any number, none of them with the expected PSN, change neither
memory nor the regions nor the place in the stream of requests. -/
theorem only_expected_executed (xs : List (Nat × RcPacket)) :
    let n' := Run.run (fun n x => receiveRequest cfg x.1 n x.2) n
      (xs.filter fun x => getPsnDiff (psnMask x.2.psn) n.qp.responder.psn ≠ 0)
    n'.mem = n.mem ∧ n'.pd = n.pd ∧ n'.qp.place = n.qp.place := by
  refine Run.always_filter (I := fun m : Node => m.mem = n.mem ∧ m.pd = n.pd ∧
    m.qp.place = n.qp.place) (fun m x h hx => ?_) ⟨rfl, rfl, rfl⟩ xs
  have hpsn : m.qp.responder.psn = n.qp.responder.psn := congrArg Place.psn h.2.2
  have hframe := Run.frame (fun m : Node => (m.mem, m.pd, m.qp.place)) (fun hs => ?_)
    (reqSteps_receiveRequest False cfg x.1 m x.2 (X := False) (by simpa [hpsn] using hx) False.elim)
  · simp only [Prod.mk.injEq] at hframe
    exact ⟨hframe.1.trans h.1, hframe.2.1.trans h.2.1, hframe.2.2.trans h.2.2⟩
  · rw [(place_reqStep hs).resolve_right fun hx => hx.1]
    cases hs <;> first | rfl | contradiction

end pib
