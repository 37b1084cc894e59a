-- What is left to do for the send queue of a queue pair, as a measure that falls
-- whenever an iteration of `process_on_qp_scheduler` does something, and the law of
-- the send queue that makes it fall.
import Pib.RnrBackoff
import Pib.Timer

namespace pib

open Bytes

variable (cfg : Config) {w : SendWqe} {q : Qp}

/-! ## The law of the send queue -/

/-- The local acknowledge timer is not over when it starts, no element has so
many packets that their count wraps, and those on the sending list are marked so. -/
structure Clocked (s : SendQ) : Prop where
  timeout : 0 < s.local_ack_timeout
  submitted : ∀ w ∈ s.submitted, w.total_length ≤ PIB_MAX_PAYLOAD_LEN
  flight : ∀ w ∈ s.flight, w.processing.all_packets < 2 ^ 24
  listed : Listed s

theorem pibGetLocalAckTime_pos (HZ timeout : Nat) : 0 < pibGetLocalAckTime HZ timeout := by
  unfold pibGetLocalAckTime
  split
  · decide
  dsimp only
  split
  · decide
  · rename_i h
    exact Nat.pos_of_ne_zero h

theorem Clocked.empty {s : SendQ} (ht : 0 < s.local_ack_timeout) (hf : s.flight = [])
    (hs : s.submitted = []) : Clocked s :=
  ⟨ht, by simp [hs], by simp [hf], Listed.empty (List.append_eq_nil_iff.mp hf).2⟩

theorem clocked_move {c : Ctx} {s s' : SendQ} {a : Option SendWr} (h : Move c s a s')
    (hb : Clocked s) : Clocked s' := by
  have hlisted := listed_move h hb.listed
  have ht : 0 < s'.local_ack_timeout := (sameAttrs_move h).local_ack_timeout ▸ hb.timeout
  cases flight_move h with
  | stay hf hr he hnr hn hlen =>
    refine ⟨ht, fun v hv => (hlen v hv).elim (hb.submitted v) id, fun v hv => ?_, hlisted⟩
    have hm : v.fixed ∈ s.flight.map SendWqe.fixed := hf ▸ List.mem_map_of_mem hv
    obtain ⟨x, hx, he⟩ := List.mem_map.mp hm
    have hall := congrArg (fun w : SendWqe => w.processing.all_packets) he
    exact lt_of_eq_of_lt hall.symm (hb.flight x hx)
  | drop hh =>
    obtain ⟨hfl, hsub, -⟩ := completeHead_frame hh _
    refine ⟨ht, hsub ▸ hb.submitted, fun v hv => hb.flight v ?_, hlisted⟩
    rw [hfl]
    exact List.mem_cons_of_mem _ hv
  | clear => exact Clocked.empty ht rfl rfl
  | start hs hsub hcq hf hw hall hpsns hr he hnr hrd =>
    rename_i w w' all
    obtain ⟨hlen, hrest⟩ := List.forall_mem_cons.mp (hsub ▸ hb.submitted)
    refine ⟨ht, hrest, ?_, hlisted⟩
    rw [hf]
    refine List.forall_mem_append.mpr ⟨hb.flight, List.forall_mem_singleton.mpr ?_⟩
    have hp : w'.processing.all_packets = all := congrArg (fun p => p.2.2) hpsns
    rw [hp, hall]
    exact pibGetNumOfPackets_lt _ _ hlen

theorem clocked_localDone {s s' : SendQ} {ws : List SendWqe} (hw : s.waiting = w :: ws)
    (h : LocalDone s ws s') (hb : Clocked s) : Clocked s' := by
  cases h with
  | retired f hf =>
    refine ⟨hb.timeout, hb.submitted, fun v hv => hb.flight v ?_, hb.listed⟩
    have hv : v ∈ ws ++ s.sending := hv
    rw [SendQ.flight, hw]
    exact List.mem_cons_of_mem w hv
  | failed free nr_waiting cq hf => exact Clocked.empty hb.timeout rfl rfl

theorem clocked_setAttrs (attr : ModifyAttr) (mask : AttrMask)
    (hb : Clocked q.sendQ) : Clocked (setAttrs cfg q attr mask).sendQ := by
  refine ⟨?_, hb.submitted, hb.flight, hb.listed⟩
  show 0 < if mask.TIMEOUT = true then _ else _
  split
  · exact pibGetLocalAckTime_pos _ _
  · exact hb.timeout

theorem clocked_modify (isOk : StateCheck)
    (now : Nat) (attr : ModifyAttr) (mask : AttrMask) (hb : Clocked q.sendQ) :
    Clocked (pibModifyQp cfg isOk now q attr mask).1.sendQ := by
  have hset := clocked_setAttrs cfg attr mask hb
  refine law_modify cfg now isOk hb hset
    (fun hs => ⟨hs.timeout, hs.submitted, hs.flight, hs.listed⟩) fun hc => ?_
  refine Clocked.empty ?_ hc.flight hc.submitted
  rcases hc.timeout with ht | ⟨t, ht⟩
  · exact ht ▸ hset.timeout
  · exact ht ▸ pibGetLocalAckTime_pos _ _

/-- The law holds in every reachable state. -/
theorem clocked_step (isOk : StateCheck) (n : Node)
    (x : Nat × Act) (hb : Clocked n.qp.sendQ) : Clocked (step cfg isOk n x).qp.sendQ :=
  law_step (fun hm => clocked_move hm) (fun hw hd => clocked_localDone hw hd) cfg isOk
    (fun attr mask _ => clocked_modify cfg isOk x.1 attr mask hb) hb

theorem clocked_created (init_attr : QpInitAttr) (srq : Option Srq) (pd : Pd)
    (mem : Mem) : Clocked (created cfg init_attr srq pd mem).qp.sendQ :=
  Clocked.empty (pibGetLocalAckTime_pos cfg.HZ 0) rfl rfl

/-! ## What is left to do -/

namespace SendQ

/-- The requester is served in this state. -/
def live (s : SendQ) : Bool := decide (s.state = .RTS ∨ s.state = .SQD)

/-- The timer of an element that waits is over. -/
def overdue (now : Nat) (s : SendQ) : Bool :=
  s.waiting.any fun w => decide (w.processing.local_ack_time ≤ now)

/-- The packets of the first sending element that come after its next one. -/
def packetsLeft (s : SendQ) : Nat :=
  match s.sending with
  | [] => 0
  | w :: _ => w.processing.all_packets - u32 (w.processing.sent_packets + 1)

/-- The first sending element has no error. -/
def unmarked (s : SendQ) : Bool :=
  match s.sending with
  | [] => false
  | w :: _ => decide (w.processing.status = .SUCCESS)

/-- An amount of work, with the numbers that count most in front. -/
abbrev Work : Type := ℕ ×ₗ ℕ ×ₗ ℕ ×ₗ ℕ ×ₗ ℕ ×ₗ ℕ ×ₗ ℕ

/-- What is left to do at this time. An element that starts has all of its packets
before it, and elements that are sent again have them once more, so the numbers
that come later may rise when an earlier one falls. -/
def workLeft (now : Nat) (s : SendQ) : Work :=
  toLex (s.live.toNat, toLex (s.submitted.length, toLex ((s.overdue now).toNat,
    toLex (s.sending.length, toLex (s.waiting.length, toLex (s.packetsLeft, s.unmarked.toNat))))))

theorem workLeft_lt {now : Nat} {s s' : SendQ} : s'.workLeft now < s.workLeft now ↔
    s'.live.toNat < s.live.toNat ∨ s'.live.toNat = s.live.toNat ∧
    (s'.submitted.length < s.submitted.length ∨ s'.submitted.length = s.submitted.length ∧
    ((s'.overdue now).toNat < (s.overdue now).toNat ∨
      (s'.overdue now).toNat = (s.overdue now).toNat ∧
    (s'.sending.length < s.sending.length ∨ s'.sending.length = s.sending.length ∧
    (s'.waiting.length < s.waiting.length ∨ s'.waiting.length = s.waiting.length ∧
    (s'.packetsLeft < s.packetsLeft ∨ s'.packetsLeft = s.packetsLeft ∧
      s'.unmarked.toNat < s.unmarked.toNat))))) := by
  simp only [workLeft, Prod.Lex.toLex_lt_toLex]

section Falls

variable {now : Nat} {s s' : SendQ}

theorem dead_of_err (h : s.state = .ERR) : s.live = false := by simp [live, h]

theorem falls_dead (h : s.live = true) (h' : s'.live = false) :
    s'.workLeft now < s.workLeft now := by
  refine workLeft_lt.mpr (Or.inl ?_)
  rw [h, h']
  decide

theorem falls_started (hst : s'.state = s.state) (h : s'.submitted.length < s.submitted.length) :
    s'.workLeft now < s.workLeft now := by
  have hl : s'.live = s.live := by rw [live, hst, live]
  exact workLeft_lt.mpr (Or.inr ⟨by rw [hl], Or.inl h⟩)

theorem falls_expired (hst : s'.state = s.state) (hsub : s'.submitted = s.submitted)
    (h : s.overdue now = true) (h' : s'.overdue now = false) :
    s'.workLeft now < s.workLeft now := by
  have hl : s'.live = s.live := by rw [live, hst, live]
  refine workLeft_lt.mpr (Or.inr ⟨by rw [hl], Or.inr ⟨by rw [hsub], Or.inl ?_⟩⟩)
  rw [h, h']
  decide

theorem falls_sent (hst : s'.state = s.state) (hsub : s'.submitted = s.submitted)
    (ho : s'.overdue now = s.overdue now) (h : s'.sending.length < s.sending.length) :
    s'.workLeft now < s.workLeft now := by
  have hl : s'.live = s.live := by rw [live, hst, live]
  exact workLeft_lt.mpr
    (Or.inr ⟨by rw [hl], Or.inr ⟨by rw [hsub], Or.inr ⟨by rw [ho], Or.inl h⟩⟩⟩)

/-- A timer may go out of sight with its element. -/
theorem falls_retired (hst : s'.state = s.state) (hsub : s'.submitted = s.submitted)
    (ho : s'.overdue now = true → s.overdue now = true) (hs : s'.sending = s.sending)
    (h : s'.waiting.length < s.waiting.length) : s'.workLeft now < s.workLeft now := by
  have hl : s'.live = s.live := by rw [live, hst, live]
  refine workLeft_lt.mpr (Or.inr ⟨by rw [hl], Or.inr ⟨by rw [hsub], ?_⟩⟩)
  cases h1 : s.overdue now with
  | false =>
    have h2 : s'.overdue now = false := by
      by_contra hne
      exact absurd (ho (by simpa using hne)) (by simp [h1])
    exact Or.inr ⟨by rw [h2], Or.inr ⟨by rw [hs], Or.inl h⟩⟩
  | true =>
    cases h2 : s'.overdue now with
    | false => exact Or.inl (by decide)
    | true => exact Or.inr ⟨rfl, Or.inr ⟨by rw [hs], Or.inl h⟩⟩

/-- The first sending element is overwritten. -/
theorem falls_head (w' : SendWqe) {ws : List SendWqe} (hs : s.sending = w :: ws)
    (hs' : s' = { s with sending := w' :: ws })
    (h : w'.processing.all_packets - u32 (w'.processing.sent_packets + 1) <
        w.processing.all_packets - u32 (w.processing.sent_packets + 1) ∨
      w'.processing.all_packets - u32 (w'.processing.sent_packets + 1) =
        w.processing.all_packets - u32 (w.processing.sent_packets + 1) ∧
        w'.processing.status ≠ .SUCCESS ∧ w.processing.status = .SUCCESS) :
    s'.workLeft now < s.workLeft now := by
  subst hs'
  refine workLeft_lt.mpr (Or.inr ⟨rfl, Or.inr ⟨rfl, Or.inr ⟨rfl, Or.inr ⟨?_, Or.inr ⟨rfl, ?_⟩⟩⟩⟩⟩)
  · rw [hs]
    rfl
  · rcases h with h | ⟨h, hst', hst⟩
    · left
      simpa only [packetsLeft, hs] using h
    refine Or.inr ⟨?_, ?_⟩
    · simpa only [packetsLeft, hs] using h
    · simp [unmarked, hs, hst, hst']

end Falls

/-- Where each element is. -/
def places (s : SendQ) : List Nat × List Nat × List Nat :=
  (s.waiting.map SendWqe.trace_id, s.sending.map SendWqe.trace_id, s.submitted.map SendWqe.trace_id)

theorem waiting_length_of_places {s s' : SendQ} (h : s'.places = s.places) :
    s'.waiting.length = s.waiting.length := by
  have h := congrArg (fun x => x.1.length) h
  simpa [places] using h

theorem sending_length_of_places {s s' : SendQ} (h : s'.places = s.places) :
    s'.sending.length = s.sending.length := by
  have h := congrArg (fun x => x.2.1.length) h
  simpa [places] using h

theorem submitted_length_of_places {s s' : SendQ} (h : s'.places = s.places) :
    s'.submitted.length = s.submitted.length := by
  have h := congrArg (fun x => x.2.2.length) h
  simpa [places] using h

end SendQ

end pib
