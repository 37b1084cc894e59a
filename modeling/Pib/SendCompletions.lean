-- Completions of send work requests. Every accepted work request is either
-- still in the queue or has been accounted for, and the completion queue holds
-- exactly what the accounts demand, in the order of the posts. Local requests
-- that reach the head of the waiting list are where the driver breaks this.
import Pib.RequesterQueue

namespace pib

open Bytes

variable (cfg : Config) {posted : List Ticket} {w : SendWqe} {free : List SendWqe}
    {as : List SendWr}

variable {c : Ctx} {s s' : SendQ} {a : Option SendWr}

/-! ## Accounts -/

/-- What a completion needs to know of a work request. -/
structure Ticket where
  wr_id : Nat
  opcode : WrOpcode
  signaled : Bool
  deriving DecidableEq, Repr

def SendWr.ticket (wr : SendWr) : Ticket :=
  { wr_id := wr.wr_id, opcode := wr.opcode, signaled := wr.send_flags.SIGNALED }

def SendWqe.ticket (w : SendWqe) : Ticket :=
  { wr_id := w.wr_id, opcode := w.opcode, signaled := w.send_flags.SIGNALED }

/-- How a work request ends. A flushed one fails with `WR_FLUSH_ERR`. -/
inductive Outcome
  | success
  | failure (status : WcStatus)
  deriving DecidableEq, Repr

/-- The completions that a work request is entitled to: one if it fails or
is signaled, none if it succeeds unsignaled. -/
def Outcome.completions (sig_all : Bool) (t : Ticket) : Outcome → List Wc
  | success =>
    if sig_all || t.signaled then
      [{ wr_id := t.wr_id, status := .SUCCESS
         opcode := (pibConvertWrOpcodeToWcOpcode t.opcode).getD (.ofWr t.opcode) }]
    else []
  | failure status => [{ wr_id := t.wr_id, status, opcode := .ofWr t.opcode }]

/-- The elements that are still to be completed, in the order of their posts. -/
def SendQ.pending (s : SendQ) : List Ticket := (s.flight ++ s.submitted).map SendWqe.ticket

/-- The posted work requests are those that have ended, and after them those
that are pending; the completion queue holds the completions of the former. -/
def Accounted (posted : List Ticket) (s : SendQ) : Prop :=
  ∃ done : List (Ticket × Outcome), (∀ d ∈ done, d.2 ≠ .failure .SUCCESS) ∧
    posted = done.map Prod.fst ++ s.pending ∧
    s.cq = done.flatMap fun d => d.2.completions s.sig_all d.1

theorem Accounted.of_pending (h : Accounted posted s) (hp : s'.pending = s.pending)
    (hc : s'.cq = s.cq) (hs : s'.sig_all = s.sig_all) : Accounted posted s' := by
  obtain ⟨done, h1, h2, h3⟩ := h
  exact ⟨done, h1, by rw [hp]; exact h2, by rw [hc, hs]; exact h3⟩

/-- The first pending requests end with these outcomes. -/
theorem Accounted.settle (h : Accounted posted s) (ended : List (Ticket × Outcome))
    (hne : ∀ d ∈ ended, d.2 ≠ .failure .SUCCESS) (hp : s.pending = ended.map Prod.fst ++ s'.pending)
    (hc : s'.cq = s.cq ++ ended.flatMap fun d => d.2.completions s.sig_all d.1)
    (hs : s'.sig_all = s.sig_all) : Accounted posted s' := by
  obtain ⟨done, h1, h2, h3⟩ := h
  refine ⟨done ++ ended, ?_, ?_, ?_⟩
  · intro d hd
    rcases List.mem_append.mp hd with hd | hd
    · exact h1 d hd
    · exact hne d hd
  · rw [h2, hp, List.map_append, List.append_assoc]
  · rw [hc, hs, h3, List.flatMap_append]

theorem ticket_fixed (w : SendWqe) : w.ticket = w.fixed.ticket := rfl

/-- Elements with a completion opcode. -/
def Known (s : SendQ) : Prop :=
  ∀ t ∈ s.pending, pibConvertWrOpcodeToWcOpcode t.opcode ≠ none

theorem completions_success (h : pibConvertWrOpcodeToWcOpcode w.opcode ≠ none) :
    s.successWc w = Outcome.completions s.sig_all w.ticket .success := by
  obtain ⟨o, ho⟩ := Option.ne_none_iff_exists'.mp h
  simp [SendQ.successWc, Outcome.completions, SendWqe.ticket, ho]

/-- The accounts of a send queue: what has been posted is accounted for, and
nothing is pending in a queue pair that has failed. -/
structure Ledger (posted : List Ticket) (s : SendQ) : Prop where
  accounted : Accounted posted s
  known : Known s
  flushed : s.state = .ERR ∨ s.state = .SQE → s.pending = []

theorem Ledger.of_pending (h : Ledger posted s) (hp : s'.pending = s.pending) (hc : s'.cq = s.cq)
    (hs : s'.sig_all = s.sig_all) (hst : s'.state = s.state) : Ledger posted s' := by
  refine ⟨h.accounted.of_pending hp hc hs, ?_, ?_⟩
  · rw [Known, hp]
    exact h.known
  · rw [hst, hp]
    exact h.flushed

theorem ledger_completeHead {f : SendWqe} (hh : s.head? = some w)
    (h : Ledger posted s) : Ledger posted (s.completeHead w f) := by
  obtain ⟨hf, hsub, hst, -, hsig⟩ := completeHead_frame hh f
  have hp : s.pending = w.ticket :: (s.completeHead w f).pending := by
    rw [SendQ.pending, SendQ.pending, hf, hsub]
    rfl
  have hk : pibConvertWrOpcodeToWcOpcode w.opcode ≠ none :=
    h.known w.ticket (hp ▸ List.mem_cons_self)
  refine ⟨h.accounted.settle [(w.ticket, .success)] (by simp) hp ?_ hsig, ?_, ?_⟩
  · have hc : (s.completeHead w f).cq = s.cq ++ s.successWc w := rfl
    rw [hc, completions_success hk]
    simp
  · intro t ht
    exact h.known t (hp ▸ List.mem_cons_of_mem _ ht)
  · intro herr
    rw [hst] at herr
    have hnil := h.flushed herr
    rw [hp] at hnil
    simp at hnil

/-- The completions of elements that are flushed. -/
theorem flush_completions (sig_all : Bool) (ws : List SendWqe) :
    ((ws.map fun w => (w.ticket, Outcome.failure .WR_FLUSH_ERR)).flatMap fun d =>
      d.2.completions sig_all d.1) = ws.map flushWc := by
  induction ws with
  | nil => rfl
  | cons w ws ih =>
    rw [List.map_cons, List.flatMap_cons, ih]
    rfl

theorem ledger_empty {wcs : List Wc} (ended : List (Ticket × Outcome)) (h : Ledger posted s)
    (hne : ∀ d ∈ ended, d.2 ≠ .failure .SUCCESS) (hp : s.pending = ended.map Prod.fst)
    (hc : wcs = ended.flatMap fun d => d.2.completions s.sig_all d.1) :
    Ledger posted (s.empty free wcs) := by
  have hnil : (s.empty free wcs).pending = [] := rfl
  refine ⟨h.accounted.settle ended hne ?_ ?_ rfl, ?_, fun _ => hnil⟩
  · rw [hnil, List.append_nil]
    exact hp
  · rw [hc]
    rfl
  · rw [Known, hnil]
    simp

theorem ledger_failAll (h : Ledger posted s) : Ledger posted (s.failAll free) := by
  refine ledger_empty ((s.flight ++ s.submitted).map fun w => (w.ticket, .failure .WR_FLUSH_ERR)) h
    ?_ ?_ (flush_completions s.sig_all _).symm
  · intro d hd
    obtain ⟨w, -, rfl⟩ := List.mem_map.mp hd
    simp
  · rw [List.map_map]
    rfl

theorem ledger_failHead {status : WcStatus} (hh : s.head? = some w) (hne : status ≠ .SUCCESS)
    (h : Ledger posted s) : Ledger posted (s.failHead w status free) := by
  obtain ⟨hf, hft⟩ := flight_dropHead hh
  refine ledger_empty ((w.ticket, .failure status) ::
    (s.flight.tail ++ s.submitted).map fun w => (w.ticket, .failure .WR_FLUSH_ERR)) h ?_ ?_ ?_
  · intro d hd
    rcases List.mem_cons.mp hd with rfl | hd
    · simpa using hne
    · obtain ⟨w, -, rfl⟩ := List.mem_map.mp hd
      simp
  · rw [SendQ.pending, hf, List.map_cons, List.map_map]
    rfl
  · rw [List.flatMap_cons, flush_completions]
    rfl

/-- A move that posts nothing keeps the accounts. -/
theorem ledger_silent (hm : Move c s none s') (h : Ledger posted s) : Ledger posted s' := by
  cases flight_move hm with
  | stay hf hr he hnr hn =>
    obtain ⟨hsub, hcq⟩ := hn rfl
    refine h.of_pending ?_ hcq hr.sig_all hr.state
    rw [SendQ.pending, SendQ.pending, List.map_append, List.map_append, hsub, map_of_part ticket_fixed hf]
  | drop hh => exact ledger_completeHead hh h
  | clear hw =>
    rcases hw with rfl | ⟨w, status, hh, hne, rfl⟩
    · exact ledger_failAll h
    · exact ledger_failHead hh hne h
  | start hs hsub hcq hf hw hall hpsns hr he hnr hrd =>
    rename_i w w' all
    have hticket : w'.ticket = w.ticket := by rw [hw]; rfl
    refine h.of_pending ?_ hcq hr.sig_all hr.state
    simp [SendQ.pending, hf, hsub, hticket]

/-- A post adds its work request to the accounts. -/
theorem ledger_post {wr : SendWr} (hm : Move c s (some wr) s')
    (hk : pibConvertWrOpcodeToWcOpcode wr.opcode ≠ none) (h : Ledger posted s) :
    Ledger (posted ++ [wr.ticket]) s' := by
  obtain ⟨done, h1, h2, h3⟩ := h.accounted
  cases hm with
  | post wr hs hf hid hlocal hwr hst hlen =>
    rename_i f w fs
    have hw : w.ticket = wr.ticket := by
      rw [SendWqe.ticket, SendWr.ticket, hwr.1, hwr.2.1, hwr.2.2]
    have hp : SendQ.pending { s with
        free := fs, submitted := s.submitted ++ [w], nr_submitted := s.nr_submitted + 1 } =
        s.pending ++ [wr.ticket] := by
      simp [SendQ.pending, SendQ.flight, hw]
    refine ⟨⟨done, h1, ?_, h3⟩, ?_, ?_⟩
    · rw [hp, h2, List.append_assoc]
    · rw [Known, hp]
      intro t ht
      rcases List.mem_append.mp ht with ht | ht
      · exact h.known t ht
      · obtain rfl := List.mem_singleton.mp ht
        exact hk
    · intro herr
      rcases hs with hs | hs | hs <;> simp [hs] at herr
  | postFlushed wr hs =>
    have hnil := h.flushed hs
    refine ⟨⟨done ++ [(wr.ticket, .failure .WR_FLUSH_ERR)], ?_, ?_, ?_⟩, h.known, h.flushed⟩
    · intro d hd
      rcases List.mem_append.mp hd with hd | hd
      · exact h1 d hd
      · obtain rfl := List.mem_singleton.mp hd
        simp
    · have hp : SendQ.pending { s with cq := s.cq ++
          [{ wr_id := wr.wr_id, status := .WR_FLUSH_ERR, opcode := .ofWr wr.opcode }] } = [] := hnil
      rw [hp, h2, hnil]
      simp
    · simp [h3, Outcome.completions, SendWr.ticket]

theorem ledger_moves (hm : Moves c s as s')
    (ha : ∀ wr ∈ as, pibConvertWrOpcodeToWcOpcode wr.opcode ≠ none)
    (h : Ledger posted s) : Ledger (posted ++ as.map SendWr.ticket) s' := by
  induction hm generalizing posted with
  | refl => simpa using h
  | step hm _ ih =>
    rename_i a as _
    cases a with
    | none => exact ih (fun wr hwr => ha wr hwr) (ledger_silent hm h)
    | some wr =>
      have h' := ih (fun x hx => ha x (List.mem_append_right _ hx))
        (ledger_post hm (ha wr (by simp)) h)
      simpa using h'

/-! ## Local requests and changes of state -/

/-- The local request at the head of the waiting list succeeds and is not to
be reported. -/
def LocalHeadSilent (cfg : Config) (n : Node) (w : SendWqe) : Prop :=
  isSignaled n.qp w = false ∧ (w.opcode = .LOCAL_INV ∨ w.opcode = .FAST_REG_MR) ∧
    (cfg.relaxed_invalidation_ordering = true ∨ (pibProcessLocalOnlyRequest n w).2.2 = true)

/-- A local request that succeeds silently leaves the queue without a completion. -/
theorem ledger_localHead (now : Nat) {n : Node}
    {ws : List SendWqe} (hw : n.qp.requester.waiting_swqe = w :: ws)
    (hs : LocalHeadSilent cfg n w) (h : Ledger posted n.qp.sendQ) :
    Ledger posted (processLocalOnlyHead cfg now n w ws).qp.sendQ ∧
      (processLocalOnlyHead cfg now n w ws).qp.sendQ.qp_type = n.qp.qp_type := by
  obtain ⟨hsig, -, hok⟩ := hs
  have hr : ∀ r : Node × SendWqe × Bool, r.1.qp = n.qp → r.2.2 = true →
      Ledger posted (settleLocal now ws r).qp.sendQ ∧
        (settleLocal now ws r).qp.sendQ.qp_type = n.qp.qp_type := by
    rintro ⟨n', w', ok⟩ hq rfl
    have hq : n'.qp = n.qp := hq
    have hp : n.qp.sendQ.pending = w.ticket :: (retireLocal n'.qp w' ws).sendQ.pending := by
      rw [retireLocal, hq]
      simp [SendQ.pending, SendQ.flight, Qp.sendQ, hw, Qp.setInFlight, Qp.freeSendWqe]
    have hsame : (retireLocal n'.qp w' ws).sendQ.sig_all = n.qp.sendQ.sig_all ∧
        (retireLocal n'.qp w' ws).sendQ.state = n.qp.sendQ.state ∧
        (retireLocal n'.qp w' ws).sendQ.cq = n.qp.sendQ.cq := by
      rw [retireLocal, hq]
      exact ⟨rfl, rfl, rfl⟩
    have hnone : Outcome.completions n.qp.sendQ.sig_all w.ticket .success = [] := if_neg (by
      have hsig : (n.qp.sendQ.sig_all || w.ticket.signaled) = false := hsig
      simp [hsig])
    have hty := congrArg Qp.qp_type hq
    rw [settleLocal, Node.setQp_qp]
    refine ⟨⟨h.accounted.settle [(w.ticket, .success)] (by simp) hp ?_ hsame.1, ?_, ?_⟩, hty⟩
    · simp [hsame.2.2, hnone]
    · exact fun t ht => h.known t (hp ▸ List.mem_cons_of_mem _ ht)
    · intro hst
      rw [hsame.2.1] at hst
      have hnil := h.flushed hst
      rw [hp] at hnil
      simp at hnil
  unfold processLocalOnlyHead
  by_cases hrel : cfg.relaxed_invalidation_ordering = true
  · rw [if_pos hrel]
    exact hr (n, w, true) rfl rfl
  · rw [if_neg hrel]
    exact hr _ (processLocalOnly_touched n w).1 (hok.resolve_left hrel)

/-- New attributes and states other than RESET keep the accounts. -/
theorem ledger_modify (isOk : StateCheck) (now : Nat) {q : Qp}
    {attr : ModifyAttr} {mask : AttrMask} (hrc : q.qp_type = .RC)
    (hreset : mask.STATE = true → attr.qp_state ≠ .RESET) (h : Ledger posted q.sendQ) :
    Ledger posted (pibModifyQp cfg isOk now q attr mask).1.sendQ := by
  have hset : Ledger posted (setAttrs cfg q attr mask).sendQ := by
    obtain ⟨a, t, m, he⟩ := sendQ_setAttrs cfg q attr mask
    rw [he]
    exact h.of_pending rfl rfl rfl rfl
  rcases pibModifyQp_settles cfg isOk now q attr mask with he | ⟨-, he⟩ |
    ⟨hst, -, hsqe, he⟩
  · rw [he]
    exact h
  · rw [he]
    exact hset
  · rw [he, sendQ_settleState]
    have hreset := hreset hst
    generalize attr.qp_state = new at hsqe hreset ⊢
    generalize setAttrs cfg q attr mask = q' at hset ⊢
    have hkeep : new ≠ .ERR → new ≠ .SQE → Ledger posted { q'.sendQ with state := new } := by
      intro h1 h2
      refine ⟨hset.accounted.of_pending rfl rfl rfl, hset.known, ?_⟩
      rintro (h | h)
      · exact absurd h h1
      · exact absurd h h2
    cases new with
    | RESET => exact absurd rfl hreset
    | SQE => exact absurd ⟨rfl, hrc⟩ hsqe
    | ERR =>
      have hf : (enterState cfg now q' .ERR).sendQ = (failQp now q').sendQ := rfl
      rw [hf, sendQ_failQp]
      exact ledger_failAll hset
    | INIT | RTR | RTS | SQD => exact hkeep (by simp) (by simp)

/-! ## Runs -/

/-- A node with the work requests that have been accepted so far. -/
structure History where
  node : Node
  posted : List Ticket

/-- A step of the node, with the work requests that it accepts. -/
def History.step (cfg : Config) (ibModifyQpIsOk : QpState → QpState → AttrMask → Bool) (h : History)
    (x : Nat × Act) : History :=
  { node := pib.step cfg ibModifyQpIsOk h.node x
    posted := h.posted ++ (x.2.accepted cfg h.node.qp).map SendWr.ticket }

/-- The queue pair is not reset by this step. -/
def NoReset : Nat × Act → Prop
  | (_, .modify attr mask) => mask.STATE = true → attr.qp_state ≠ .RESET
  | _ => True

/-- Work requests have a completion opcode, and a local request that the
scheduler finds at the head of the waiting list succeeds silently. -/
def CompletionStep (cfg : Config) (h : History) : Nat × Act → Prop
  | (_, .postSend _ wrs) => ∀ wr ∈ wrs, pibConvertWrOpcodeToWcOpcode wr.opcode ≠ none
  | (_, .schedule) => (pibGenerateRcQpAcknowledge { h.node with send_buffer := none }).2 = false →
      (h.node.qp.state = .RTS ∨ h.node.qp.state = .SQD) →
      ∀ w ws, h.node.qp.requester.waiting_swqe = w :: ws → w.local_only_request = true →
        LocalHeadSilent cfg { h.node with send_buffer := none } w
  | _ => True

/-- The accounts of a history. -/
def History.Accounted (h : History) : Prop := pib.Accounted h.posted h.node.qp.sendQ

structure History.Good (h : History) : Prop where
  ledger : Ledger h.posted h.node.qp.sendQ
  rc : h.node.qp.qp_type = .RC

theorem qp_type_moves (h : Moves c s as s') : s'.qp_type = s.qp_type := by
  induction h with
  | refl => rfl
  | step hm _ ih => exact ih.trans (sameAttrs_move hm).qp_type

theorem good_moves {h h' : History} (hg : h.Good) (hm : Moves c h.node.qp.sendQ as h'.node.qp.sendQ)
    (ha : ∀ wr ∈ as, pibConvertWrOpcodeToWcOpcode wr.opcode ≠ none)
    (hp : h'.posted = h.posted ++ as.map SendWr.ticket) : h'.Good :=
  ⟨hp ▸ ledger_moves hm ha hg.ledger, (qp_type_moves hm).trans hg.rc⟩

theorem good_step (isOk : StateCheck)
    {h : History} {x : Nat × Act} (hg : h.Good) (hx : NoReset x ∧ CompletionStep cfg h x) :
    (h.step cfg isOk x).Good := by
  obtain ⟨now, a⟩ := x
  obtain ⟨hreset, hx⟩ := hx
  have hmoves : (∀ attr mask, a ≠ .modify attr mask) → (a = .schedule → ∀ w ws,
      h.node.qp.requester.waiting_swqe = w :: ws → w.local_only_request = false) →
      (∀ wr ∈ a.accepted cfg h.node.qp, pibConvertWrOpcodeToWcOpcode wr.opcode ≠ none) →
      (h.step cfg isOk (now, a)).Good :=
    fun hm hl ha => good_moves hg (moves_step cfg isOk h.node now a hm hl) ha rfl
  cases a with
  | postSend copyFromUser wrs =>
    refine hmoves (by simp) (by simp) ?_
    exact fun wr hwr => hx wr (acceptedWrs_subset cfg copyFromUser wrs _ _ wr hwr)
  | schedule =>
    have hposted : (h.step cfg isOk (now, .schedule)).posted = h.posted :=
      List.append_nil _
    rcases schedule_localHead cfg now { h.node with send_buffer := none } with hl | he |
      ⟨w, ws, hw, hlocal, hgen, hst, he⟩
    · exact hmoves (by simp) (fun _ => hl) (by simp [Act.accepted])
    · exact good_moves (c := Ctx.any now) hg (Moves.of_eq he) (by simp) (by simp [hposted])
    · obtain ⟨hled, hty⟩ := ledger_localHead cfg now hw (hx hgen hst w ws hw hlocal) hg.ledger
      rw [← he] at hled hty
      exact ⟨hposted ▸ hled, hty.trans hg.rc⟩
  | modify attr mask =>
    have hposted : (h.step cfg isOk (now, .modify attr mask)).posted = h.posted :=
      List.append_nil _
    exact ⟨hposted ▸ ledger_modify cfg isOk now hg.rc hreset hg.ledger,
      (qp_type_modify cfg isOk now h.node.qp attr mask).trans hg.rc⟩
  | postRecv | receive | fatal | environment =>
    exact hmoves (by simp) (by simp) (by simp [Act.accepted])

/-- A queue pair that has just been created. -/
def History.start (cfg : Config) (init_attr : QpInitAttr) (srq : Option Srq) (pd : Pd) (mem : Mem) :
    History :=
  { node := created cfg init_attr srq pd mem, posted := [] }

theorem start_good (init_attr : QpInitAttr) (srq : Option Srq) (pd : Pd) (mem : Mem) :
    (History.start cfg init_attr srq pd mem).Good := by
  have hnil : (History.start cfg init_attr srq pd mem).node.qp.sendQ.pending = [] := rfl
  refine ⟨⟨⟨[], by simp, rfl, rfl⟩, ?_, fun _ => rfl⟩, rfl⟩
  rw [Known, hnil]
  simp

/-- A run with a signaled SEND that is sent, acknowledged and completed. -/
def sendRun : List (Nat × Act) :=
  bringUp { timeout := 14, retry_cnt := 7, sq_psn := 5, path_mtu := 1, port_num := 1 } ++
    [(1, .postSend (fun _ _ => some [1, 2, 3, 4])
        [{ wr_id := 9, opcode := .SEND, send_flags := { SIGNALED := true, INLINE := true }
           sg_list := [{ addr := 0, length := 4, lkey := 0 }] }]),
     (2, .schedule),
     (3, .receive 1 { opcode := .ACKNOWLEDGE, psn := 5, buffer := [0, 0, 0, 0] })]

/-! ## Where local requests break the accounts -/

/-- There are never more completions than posted work requests. -/
theorem Accounted.length_le (h : Accounted posted s) : s.cq.length ≤ posted.length := by
  obtain ⟨done, -, h2, h3⟩ := h
  have hlen : ∀ d : List (Ticket × Outcome),
      (d.flatMap fun d => d.2.completions s.sig_all d.1).length ≤ d.length := by
    intro d
    induction d with
    | nil => simp
    | cons x d ih =>
      have hx : (x.2.completions s.sig_all x.1).length ≤ 1 := by
        cases x.2 with
        | success =>
          simp only [Outcome.completions]
          split <;> simp
        | failure status => exact le_refl 1
      rw [List.flatMap_cons, List.length_append, List.length_cons]
      omega
  rw [h3, h2, List.length_append, List.length_map]
  exact (hlen done).trans (Nat.le_add_right _ _)

/-- When nothing is pending, every signaled work request has a completion. -/
theorem Accounted.ne_nil {t : Ticket} (h : Accounted [t] s) (hp : s.pending = [])
    (hs : t.signaled = true) : s.cq ≠ [] := by
  obtain ⟨done, -, h2, h3⟩ := h
  rw [hp, List.append_nil] at h2
  rcases done with _ | ⟨⟨u, o⟩, rest⟩
  · simp at h2
  obtain rfl : t = u := by
    have := (List.cons.inj h2).1
    exact this
  rw [h3, List.flatMap_cons]
  cases o <;> simp [Outcome.completions, hs]

/-- A signaled LOCAL_INV is posted and the scheduler runs twice. -/
def localInvRun : List (Nat × Act) :=
  bringUp { timeout := 14, retry_cnt := 7, sq_psn := 5, path_mtu := 1 } ++
    [(1, .postSend (fun _ _ => none)
        [{ wr_id := 9, opcode := .LOCAL_INV, send_flags := { SIGNALED := true }, ex := 0
           sg_list := [{ addr := 0, length := 0, lkey := 0 }] }]),
     (2, .schedule), (3, .schedule)]

/-- A fast-register region under the key 0. -/
def fastRegPd : Pd :=
  { nr_mr := 1
    mr_table := fun i => if i = 0 then
        some { mr_num := 1, lkey := 0, rkey := 0, state := .VALID, is_fast_reg_mr := true, start := 0
               length := 0, access_flags := 0
               umem := { page_shift := 12, offset := 0, pages := [] } }
      else none }

end pib
