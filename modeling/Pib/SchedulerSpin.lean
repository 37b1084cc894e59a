-- The loop of `process_on_qp_scheduler` over all queue pairs of a device, with the
-- time standing still and nothing arriving. It ends unless it meets a queue pair
-- that the decision puts back on the tree though nothing can be done for it.
import Pib.Lib.Loop
import Pib.RecvSide
import Pib.SchedulerTurn

namespace pib

open Bytes

/-! ## A queue pair of the device -/

/-- A queue pair of either kind with what it needs. -/
inductive Endpoint
  | rc (n : Node)
  | ud (n : UdNode)

namespace Endpoint

def qp : Endpoint → Qp
  | rc n => n.qp
  | ud n => n.qp

def pd : Endpoint → Pd
  | rc n => n.pd
  | ud n => n.pd

def mem : Endpoint → Mem
  | rc n => n.mem
  | ud n => n.mem

/-- A packet waits in the send buffer for `process_sendmsg`. -/
def transmits : Endpoint → Bool
  | rc n => n.send_buffer.isSome
  | ud n => n.send_buffer.isSome

/-- An iteration of the loop for this queue pair. The send buffer is empty when
it begins. -/
def schedule (cfg : Config) (now : Nat) : Endpoint → Endpoint
  | rc n => rc (processOnQpScheduler cfg now { n with send_buffer := none })
  | ud n => ud (processUdScheduler cfg now { n with send_buffer := none })

/-- The protection domain and the memory are as another queue pair has left them. -/
def share (pd : Pd) (mem : Mem) : Endpoint → Endpoint
  | rc n => rc { n with pd, mem }
  | ud n => ud { n with pd, mem }

@[simp] theorem share_qp (pd : Pd) (mem : Mem) (e : Endpoint) : (e.share pd mem).qp = e.qp := by
  cases e <;> rfl

/-- The next packet of the first element in flight cannot be made. A datagram that
cannot be made fails at once. -/
def Spoiled (cfg : Config) (now : Nat) : Endpoint → Prop
  | rc n => pib.Spoiled cfg now { n with send_buffer := none }
  | ud _ => False

/-- What the loop relies on. No acknowledges wait. -/
def Sound : Endpoint → Prop
  | rc n => Clocked n.qp.sendQ ∧ n.qp.responder.acks = []
  | ud n => DatagramQ (fun _ => True) n.qp.lists

theorem sound_share {pd : Pd} {mem : Mem} {e : Endpoint} (h : e.Sound) : (e.share pd mem).Sound := by
  cases e <;> exact h

end Endpoint

theorem requester_rescheduleQp (now : Nat) (q : Qp) :
    (pibUtilRescheduleQp now q).requester = q.requester := by
  unfold pibUtilRescheduleQp
  split <;> rfl

/-- Being stalled is a matter of the state and the requester. -/
theorem stalled_rescheduleQp {now : Nat} {q : Qp} :
    Stalled now (pibUtilRescheduleQp now q) ↔ Stalled now q := by
  simp only [Stalled, Startable, HeldUp, requester_rescheduleQp, rescheduleQp_state]

/-- With no acknowledges to send, an iteration is the requester's part and the decision. -/
theorem processOnQpScheduler_of_nil (cfg : Config) (now : Nat) {n : Node}
    (h : n.qp.responder.acks = []) :
    processOnQpScheduler cfg now n = (processRequester cfg now n).setQp
      (pibUtilRescheduleQp now (processRequester cfg now n).qp) := by
  have hgen : pibGenerateRcQpAcknowledge n = (n, false) := by
    unfold pibGenerateRcQpAcknowledge
    split
    · rfl
    · rw [h]
  rw [processOnQpScheduler, hgen]

theorem acks_processRequester (cfg : Config) (now : Nat) {n : Node} (h : n.qp.responder.acks = []) :
    (processRequester cfg now n).qp.responder.acks = [] := by
  rcases sparesAll_processRequester cfg now n with hs | hs
  · exact (congrArg (fun b : RecvSide => b.responder.acks) hs).trans h
  · exact congrArg (fun b : RecvSide => b.responder.acks) hs

/-- With no acknowledges to send, the decision is about the requester. -/
theorem onTree_iff_due (now : Nat) {q : Qp} (h : q.qp_type ≠ .RC ∨ q.responder.acks = []) :
    OnTree now (pibUtilRescheduleQp now q) ↔ RequesterDue now q := by
  have hacks : ¬(q.qp_type = .RC ∧ AcksDue q) := by
    rintro ⟨hrc, -, hne, -⟩
    exact h.elim (fun h => h hrc) hne
  rw [OnTree, reschedule_due, due_iff]
  simp [hacks]

/-! ## One iteration -/

namespace Endpoint

variable {cfg : Config} {now : Nat} {e : Endpoint}

theorem sound_schedule (cfg : Config) (now : Nat) (h : e.Sound) : (e.schedule cfg now).Sound := by
  cases e with
  | rc n =>
    refine ⟨clocked_step cfg (fun _ _ _ => true) n (now, .schedule) h.1, ?_⟩
    rw [processOnQpScheduler_of_nil cfg now (n := { n with send_buffer := none }) h.2, Node.setQp_qp, rescheduleQp_responder]
    exact acks_processRequester cfg now h.2
  | ud n =>
    exact datagramQ_step (fun _ _ _ h => h) cfg (fun _ _ _ => true) n (now, .schedule)
      (posts_true cfg n .schedule) h

/-- An iteration puts a stalled queue pair back as it is. -/
theorem schedule_stalled (cfg : Config) (h : e.Sound) (hs : Stalled now e.qp) :
    (e.schedule cfg now).qp = pibUtilRescheduleQp now e.qp ∧
      (e.schedule cfg now).transmits = false := by
  cases e with
  | rc n =>
    have hstays := Stalled.stays cfg (n := { n with send_buffer := none }) hs
    rw [schedule, processOnQpScheduler_of_nil cfg now (n := { n with send_buffer := none }) h.2, hstays]
    exact ⟨rfl, rfl⟩
  | ud n =>
    have hstays := Stalled.ud_stays cfg (n := { n with send_buffer := none }) hs
    rw [schedule, processUdScheduler_eq, hstays]
    exact ⟨rfl, rfl⟩

theorem onTree_schedule_stalled (cfg : Config) (h : e.Sound) (hs : Stalled now e.qp) :
    OnTree now (e.schedule cfg now).qp := by
  rw [(schedule_stalled cfg h hs).1, onTree_iff_due]
  · exact hs.due
  · cases e with
    | rc n => exact Or.inr h.2
    | ud n => exact Or.inl h.type

/-- Any other queue pair has less left to do, or is not due any more. -/
theorem schedule_turn (cfg : Config) (h : e.Sound) (hs : ¬Stalled now e.qp) :
    ((e.schedule cfg now).qp.sendQ = e.qp.sendQ ∧ ¬OnTree now (e.schedule cfg now).qp) ∨
    ((e.schedule cfg now).qp.sendQ.workLeft now < e.qp.sendQ.workLeft now ∧
      (e.Spoiled cfg now ∨ (e.schedule cfg now).transmits = true ∨
        (e.schedule cfg now).qp.sendQ.places ≠ e.qp.sendQ.places ∨
        ¬OnTree now (e.schedule cfg now).qp)) := by
  cases e with
  | rc n =>
    have hacks := acks_processRequester cfg now (n := { n with send_buffer := none }) h.2
    have hturn := requester_turn cfg (n := { n with send_buffer := none }) h.1 hs
    rw [schedule, processOnQpScheduler_of_nil cfg now (n := { n with send_buffer := none }) h.2]
    generalize processRequester cfg now { n with send_buffer := none } = n' at hacks hturn
    have htree := onTree_iff_due now (q := n'.qp) (Or.inr hacks)
    simp only [Endpoint.qp, transmits, Node.setQp_qp, sendQ_rescheduleQp, htree,
      Node.setQp_send_buffer]
    rcases hturn with ⟨rfl, hdue⟩ | ⟨hfall, hacts⟩ | ⟨hfall, hwhy⟩
    · exact Or.inl ⟨rfl, hdue⟩
    · exact Or.inr ⟨hfall, Or.inr (hacts.elim Or.inl fun hm => Or.inr (Or.inl hm))⟩
    · exact Or.inr ⟨hfall, hwhy.elim Or.inl fun hd => Or.inr (Or.inr (Or.inr hd))⟩
  | ud n =>
    have hq := datagramQ_step (fun _ _ _ h => h) cfg (fun _ _ _ => true) n (now, .schedule)
      (posts_true cfg n .schedule) h
    have hturn := ud_turn cfg (n := { n with send_buffer := none }) h hs
    have hud : (processUdScheduler cfg now { n with send_buffer := none }).qp.lists.qp_type ≠ .RC :=
      hq.type
    rw [processUdScheduler_eq, UdNode.setQp_qp, lists_rescheduleQp] at hud
    rw [schedule, processUdScheduler_eq]
    generalize udRequester cfg now { n with send_buffer := none } = n' at hturn hud
    have htree := onTree_iff_due now (q := n'.qp) (Or.inl hud)
    simp only [Endpoint.qp, UdNode.setQp_qp, sendQ_rescheduleQp, htree]
    rcases hturn with ⟨rfl, hdue⟩ | ⟨hfall, hmoved⟩
    · exact Or.inl ⟨rfl, hdue⟩
    · exact Or.inr ⟨hfall, Or.inr (Or.inr (Or.inl hmoved))⟩

theorem schedule_spoiled (h : e.Sound) (hs : e.Spoiled cfg now) :
    (e.schedule cfg now).transmits = false ∧
      (e.schedule cfg now).qp.sendQ.places = e.qp.sendQ.places ∧
      OnTree now (e.schedule cfg now).qp := by
  cases e with
  | ud n => exact hs.elim
  | rc n =>
    obtain ⟨hbuf, hplaces, hdue⟩ := Spoiled.marks (n := { n with send_buffer := none }) h.1.listed hs
    have hacks := acks_processRequester cfg now (n := { n with send_buffer := none }) h.2
    rw [schedule, processOnQpScheduler_of_nil cfg now (n := { n with send_buffer := none }) h.2]
    generalize processRequester cfg now { n with send_buffer := none } = n' at hacks hbuf hplaces hdue
    refine ⟨?_, ?_, (onTree_iff_due now (Or.inr hacks)).2 hdue⟩
    · show n'.send_buffer.isSome = false
      rw [hbuf]
      rfl
    · show (pibUtilRescheduleQp now n'.qp).sendQ.places = _
      rw [sendQ_rescheduleQp]
      exact hplaces

/-- An iteration transmits a packet, moves or completes an element, or takes the
queue pair off the current instant. -/
def Progresses (cfg : Config) (now : Nat) (e : Endpoint) : Prop :=
  (e.schedule cfg now).transmits = true ∨
    (e.schedule cfg now).qp.sendQ.places ≠ e.qp.sendQ.places ∨ ¬OnTree now (e.schedule cfg now).qp

theorem progresses_iff (h : e.Sound) :
    e.Progresses cfg now ↔ ¬Stalled now e.qp ∧ ¬e.Spoiled cfg now := by
  constructor
  · intro hp
    constructor
    · intro hs
      obtain ⟨hq, hbuf⟩ := schedule_stalled cfg h hs
      rcases hp with hp | hp | hp
      · rw [hbuf] at hp
        cases hp
      · rw [hq, sendQ_rescheduleQp] at hp
        exact hp rfl
      · exact hp (onTree_schedule_stalled cfg h hs)
    · intro hs
      obtain ⟨hbuf, hplaces, htree⟩ := schedule_spoiled h hs
      rcases hp with hp | hp | hp
      · rw [hbuf] at hp
        cases hp
      · exact hp hplaces
      · exact hp htree
  · rintro ⟨hs, hspoiled⟩
    rcases schedule_turn cfg h hs with ⟨-, htree⟩ | ⟨-, hwhy⟩
    · exact Or.inr (Or.inr htree)
    · exact hwhy.resolve_left hspoiled

end Endpoint

/-! ## The device -/

/-- The part of `struct pib_dev` that the loop works on. `tree` has the queue pairs of
the red-black tree in its order, by `sched.time` and then by `sched.tid`. -/
structure Dev (ι : Type) where
  qps : ι → Endpoint
  pd_of : ι → Nat
  tree : List ι
  wakeup_time : Nat

namespace Dev

variable {ι : Type}

def time (d : Dev ι) (i : ι) : Nat := (d.qps i).qp.sched_time

/-- The tree and the wakeup time hold what `pib_util_reschedule_qp` has put there. The
wakeup time may be late, but not when a queue pair is due. -/
structure Wf (now : Nat) (d : Dev ι) : Prop where
  nodup : d.tree.Nodup
  on : ∀ i, i ∈ d.tree ↔ (d.qps i).qp.sched_on = true
  sorted : d.tree.Pairwise fun i j => d.time i ≤ d.time j
  awake : ∀ i ∈ d.tree, d.time i ≤ now → d.wakeup_time ≤ now

/-- Insertion behind all that come no later keeps the order of the times. -/
theorem pairwise_orderedInsert {t : ι → Nat} {l : List ι} (h : l.Pairwise fun j k => t j ≤ t k)
    (i : ι) : (l.orderedInsert (fun j k => t j < t k) i).Pairwise fun j k => t j ≤ t k := by
  induction l with
  | nil => exact List.pairwise_singleton _ i
  | cons j l ih =>
    obtain ⟨hj, hl⟩ := List.pairwise_cons.mp h
    rw [List.orderedInsert_cons]
    split
    · rename_i hlt
      refine List.pairwise_cons.mpr ⟨fun k hk => ?_, h⟩
      rcases List.mem_cons.mp hk with rfl | hk
      · exact hlt.le
      · exact hlt.le.trans (hj k hk)
    · rename_i hge
      refine List.pairwise_cons.mpr ⟨fun k hk => ?_, ih hl⟩
      rcases (List.mem_orderedInsert _).mp hk with rfl | hk
      · exact Nat.le_of_not_lt hge
      · exact hj k hk

variable [DecidableEq ι]

/-- The queue pair `i` becomes `e`, and the others see the memory that it leaves, and
the regions if they are in the same protection domain. -/
def put (d : Dev ι) (i : ι) (e : Endpoint) (j : ι) : Endpoint :=
  if j = i then e
  else (d.qps j).share (if d.pd_of j = d.pd_of i then e.pd else (d.qps j).pd) e.mem

/-- The queue pair is taken off the tree. If it is put on again it has the newest
`tid`, so it comes after all others with its time. -/
def reschedule (d : Dev ι) (i : ι) (e : Endpoint) : Dev ι :=
  let qps := d.put i e
  let rest := d.tree.erase i
  if e.qp.sched_on then
    let tree := rest.orderedInsert (fun j k => (qps j).qp.sched_time < (qps k).qp.sched_time) i
    { d with
      qps, tree
      wakeup_time := (tree.head?.map fun j => (qps j).qp.sched_time).getD d.wakeup_time }
  else { d with qps, tree := rest }

/-- One iteration of the loop of `process_on_qp_scheduler`, from the label `restart`
to the jump back. Nothing is a return. No flag of the thread is set, for nothing
arrives. -/
def restart (cfg : Config) (now : Nat) (d : Dev ι) : Option (Dev ι) :=
  match d.tree with
  | [] => none
  | i :: _ =>
    let d := d.reschedule i ((d.qps i).schedule cfg now)
    if now < d.wakeup_time then none else some d

/-- `pib_util_get_first_scheduling_qp`. -/
def first (d : Dev ι) : Option ι := d.tree.head?

theorem put_same (d : Dev ι) (i : ι) (e : Endpoint) : d.put i e i = e := if_pos rfl

theorem put_qp (d : Dev ι) (e : Endpoint) {i j : ι} (h : j ≠ i) : (d.put i e j).qp = (d.qps j).qp := by
  rw [put, if_neg h, Endpoint.share_qp]

theorem reschedule_qps (d : Dev ι) (i : ι) (e : Endpoint) : (d.reschedule i e).qps = d.put i e := by
  unfold reschedule
  dsimp only
  split <;> rfl

theorem mem_reschedule {d : Dev ι} {i j : ι} {e : Endpoint} (hn : d.tree.Nodup) :
    j ∈ (d.reschedule i e).tree ↔ (j ≠ i ∧ j ∈ d.tree) ∨ (j = i ∧ e.qp.sched_on = true) := by
  unfold reschedule
  dsimp only
  split
  · rename_i hon
    rw [List.mem_orderedInsert, hn.mem_erase_iff]
    simp only [hon, and_true]
    exact or_comm
  · rename_i hon
    rw [hn.mem_erase_iff]
    simp only [hon, Bool.false_eq_true, and_false, or_false]

/-- The rest of the tree keeps its order. -/
theorem pairwise_erase {now : Nat} {d : Dev ι} (h : d.Wf now) (i : ι) (e : Endpoint) :
    (d.tree.erase i).Pairwise fun j k =>
      (d.put i e j).qp.sched_time ≤ (d.put i e k).qp.sched_time := by
  refine List.Pairwise.imp_of_mem ?_ (h.sorted.sublist List.erase_sublist)
  intro j k hj hk hle
  rw [put_qp d e (h.nodup.mem_erase_iff.mp hj).1, put_qp d e (h.nodup.mem_erase_iff.mp hk).1]
  exact hle

/-- `pib_util_reschedule_qp` keeps the tree in order. -/
theorem wf_reschedule {now : Nat} {d : Dev ι} (h : d.Wf now) (i : ι) (e : Endpoint) :
    (d.reschedule i e).Wf now := by
  have hrest := pairwise_erase h i e
  have hmem := fun j => mem_reschedule (i := i) (j := j) (e := e) h.nodup
  have hqps := reschedule_qps d i e
  have hon : ∀ j, j ∈ (d.reschedule i e).tree ↔ ((d.reschedule i e).qps j).qp.sched_on = true := by
    intro j
    rw [hmem j, hqps]
    by_cases hj : j = i
    · subst hj
      simp [put_same]
    rw [put_qp d e hj]
    simp only [hj, ne_eq, not_false_eq_true, true_and, false_and, or_false]
    exact h.on j
  by_cases hput : e.qp.sched_on = true
  · have htree : (d.reschedule i e).tree = (d.tree.erase i).orderedInsert
        (fun j k => (d.put i e j).qp.sched_time < (d.put i e k).qp.sched_time) i := by
      simp [reschedule, hput]
    have hwake : (d.reschedule i e).wakeup_time = ((d.reschedule i e).tree.head?.map
        fun j => (d.put i e j).qp.sched_time).getD d.wakeup_time := by
      simp [reschedule, hput]
    have hsorted : (d.reschedule i e).tree.Pairwise fun j k =>
        (d.reschedule i e).time j ≤ (d.reschedule i e).time k := by
      simp only [time, hqps]
      rw [htree]
      exact pairwise_orderedInsert hrest i
    refine ⟨?_, hon, hsorted, fun j hj hdue => ?_⟩
    · rw [htree]
      refine (List.perm_orderedInsert _ i _).nodup_iff.mpr (List.nodup_cons.mpr ⟨?_, ?_⟩)
      · exact fun hi => (h.nodup.mem_erase_iff.mp hi).1 rfl
      · exact h.nodup.erase i
    · -- the first one comes no later than this one
      rw [hwake]
      rcases ht : (d.reschedule i e).tree with _ | ⟨k, ks⟩
      · rw [ht] at hj
        cases hj
      rw [ht] at hj hsorted
      refine le_trans ?_ hdue
      show (d.put i e k).qp.sched_time ≤ _
      rw [← hqps]
      rcases List.mem_cons.mp hj with rfl | hj
      · exact le_refl _
      · exact (List.pairwise_cons.mp hsorted).1 j hj
  · have htree : (d.reschedule i e).tree = d.tree.erase i := by simp [reschedule, hput]
    have hwake : (d.reschedule i e).wakeup_time = d.wakeup_time := by simp [reschedule, hput]
    refine ⟨?_, hon, ?_, fun j hj hdue => ?_⟩
    · rw [htree]
      exact h.nodup.erase i
    · simp only [time, hqps]
      rw [htree]
      exact hrest
    · rw [htree, h.nodup.mem_erase_iff] at hj
      rw [time, hqps, put_qp d e hj.1] at hdue
      rw [hwake]
      exact h.awake j hj.2 hdue

/-! ## The loop -/

/-- What the loop finds when it starts, and again at each iteration. -/
structure Sound (now : Nat) (d : Dev ι) : Prop where
  wf : d.Wf now
  qps : ∀ i, (d.qps i).Sound

/-- How near the queue pair is to its next iteration: off the tree, on it for later,
or due. -/
def rank (now : Nat) (q : Qp) : Nat :=
  if q.sched_on then if q.sched_time ≤ now then 2 else 1 else 0

/-- What is left to do for each of the queue pairs. -/
def potential (now : Nat) (d : Dev ι) (i : ι) : SendQ.Work ×ₗ ℕ :=
  toLex ((d.qps i).qp.sendQ.workLeft now, rank now (d.qps i).qp)

variable {cfg : Config} {now : Nat} {d d' : Dev ι}

/-- The parts of an iteration that is not the last. -/
theorem restart_eq_some (h : restart cfg now d = some d') :
    ∃ i is, d.tree = i :: is ∧ d' = d.reschedule i ((d.qps i).schedule cfg now) ∧
      d'.wakeup_time ≤ now := by
  unfold restart at h
  split at h
  · cases h
  rename_i i is ht
  dsimp only at h
  split at h
  · cases h
  rename_i hw
  obtain rfl := Option.some.inj h
  exact ⟨i, is, ht, rfl, Nat.le_of_not_lt hw⟩

theorem sound_reschedule (cfg : Config) (h : d.Sound now) (i : ι) :
    (d.reschedule i ((d.qps i).schedule cfg now)).Sound now := by
  refine ⟨wf_reschedule h.wf i _, fun j => ?_⟩
  rw [reschedule_qps]
  by_cases hj : j = i
  · subst hj
    rw [put_same]
    exact Endpoint.sound_schedule cfg now (h.qps j)
  · rw [put, if_neg hj]
    exact Endpoint.sound_share (h.qps j)

theorem sound_restart (h : d.Sound now) (hr : restart cfg now d = some d') : d'.Sound now := by
  obtain ⟨i, is, -, rfl, -⟩ := restart_eq_some hr
  exact sound_reschedule cfg h i

/-- A queue pair that goes on the tree for later was due, or the loop returns: when
the first one is not due, none is. -/
theorem due_of_restart {i : ι} {is : List ι} (h : d.Sound now) (ht : d.tree = i :: is)
    (hon : ((d.qps i).schedule cfg now).qp.sched_on = true)
    (hlate : now < ((d.qps i).schedule cfg now).qp.sched_time)
    (hwake : (d.reschedule i ((d.qps i).schedule cfg now)).wakeup_time ≤ now) : d.time i ≤ now := by
  by_contra hnot
  have hsorted := h.wf.sorted
  rw [ht, List.pairwise_cons] at hsorted
  generalize (d.qps i).schedule cfg now = e at hon hlate hwake
  have hall : ∀ j ∈ (d.reschedule i e).tree, now < (d.put i e j).qp.sched_time := by
    intro j hj
    rcases (mem_reschedule h.wf.nodup).mp hj with ⟨hne, hj⟩ | ⟨rfl, -⟩
    · rw [put_qp d e hne]
      rw [ht] at hj
      have hle := hsorted.1 j ((List.mem_cons.mp hj).resolve_left hne)
      exact lt_of_lt_of_le (Nat.lt_of_not_le hnot) hle
    · rw [put_same]
      exact hlate
  have hi : i ∈ (d.reschedule i e).tree := (mem_reschedule h.wf.nodup).mpr (Or.inr ⟨rfl, hon⟩)
  have hw : (d.reschedule i e).wakeup_time = ((d.reschedule i e).tree.head?.map
      fun j => (d.put i e j).qp.sched_time).getD d.wakeup_time := by
    simp [reschedule, hon]
  rw [hw] at hwake
  rcases hr : (d.reschedule i e).tree with _ | ⟨k, ks⟩
  · rw [hr] at hi
    cases hi
  rw [hr] at hwake
  have hk := hall k (by rw [hr]; exact List.mem_cons_self)
  exact absurd hwake (Nat.not_le.mpr hk)

/-- An iteration that meets no stalled queue pair leaves less to do for the one that it
serves, and for the others what it was. -/
theorem potential_falls (h : d.Sound now) (hr : restart cfg now d = some d')
    (hs : ∀ i ∈ d.first, ¬Stalled now (d.qps i).qp) : potential now d' < potential now d := by
  obtain ⟨i, is, ht, rfl, hwake⟩ := restart_eq_some hr
  have hs : ¬Stalled now (d.qps i).qp := hs i (by rw [first, ht]; rfl)
  have hon : (d.qps i).qp.sched_on = true := (h.wf.on i).mp (by rw [ht]; exact List.mem_cons_self)
  have hother : ∀ j, j ≠ i →
      potential now (d.reschedule i ((d.qps i).schedule cfg now)) j = potential now d j := by
    intro j hj
    rw [potential, potential, reschedule_qps, put_qp d _ hj]
  have hthis : potential now (d.reschedule i ((d.qps i).schedule cfg now)) i < potential now d i := by
    rw [potential, potential, reschedule_qps, put_same, Prod.Lex.toLex_lt_toLex]
    rcases Endpoint.schedule_turn cfg (h.qps i) hs with ⟨hsame, hoff⟩ | ⟨hfall, -⟩
    · refine Or.inr ⟨by rw [hsame], ?_⟩
      show rank now ((d.qps i).schedule cfg now).qp < rank now (d.qps i).qp
      by_cases hput : ((d.qps i).schedule cfg now).qp.sched_on = true
      · have hlate : ¬((d.qps i).schedule cfg now).qp.sched_time ≤ now := fun hle => hoff ⟨hput, hle⟩
        have hdue := due_of_restart h ht hput (Nat.lt_of_not_le hlate) hwake
        have hdue : (d.qps i).qp.sched_time ≤ now := hdue
        simp [rank, hput, hlate, hon, hdue]
      · simp only [rank, hput, hon, if_true, Bool.false_eq_true, if_false]
        split <;> decide
    · exact Or.inl hfall
  rw [Pi.lt_def]
  refine ⟨fun j => ?_, i, hthis⟩
  by_cases hj : j = i
  · subst hj
    exact hthis.le
  · exact (hother j hj).le

/-- A stalled queue pair is due. -/
structure Spinning (now : Nat) (d : Dev ι) : Prop where
  sound : d.Sound now
  stalled : ∃ i ∈ d.tree, d.time i ≤ now ∧ Stalled now (d.qps i).qp

/-- The loop does not return while a queue pair is due. -/
theorem restart_of_due {i : ι} {is : List ι} (ht : d.tree = i :: is)
    (h : (d.reschedule i ((d.qps i).schedule cfg now)).Spinning now) :
    restart cfg now d = some (d.reschedule i ((d.qps i).schedule cfg now)) := by
  obtain ⟨j, hj, hdue, -⟩ := h.stalled
  have hwake := h.sound.wf.awake j hj hdue
  unfold restart
  rw [ht]
  exact if_neg (Nat.not_lt.mpr hwake)

/-- The stalled queue pair goes back on the tree, and runs at once. -/
theorem spinning_of_stalled (cfg : Config) {i : ι} (h : d.Sound now) (hs : Stalled now (d.qps i).qp) :
    (d.reschedule i ((d.qps i).schedule cfg now)).Spinning now := by
  have hsame := Endpoint.schedule_stalled cfg (h.qps i) hs
  obtain ⟨hon, hdue⟩ := Endpoint.onTree_schedule_stalled cfg (h.qps i) hs
  have hqp : ((d.reschedule i ((d.qps i).schedule cfg now)).qps i) = (d.qps i).schedule cfg now := by
    rw [reschedule_qps, put_same]
  refine ⟨sound_reschedule cfg h i, i, (mem_reschedule h.wf.nodup).mpr (Or.inr ⟨rfl, hon⟩), ?_, ?_⟩
  · rw [time, hqp]
    exact hdue
  · rw [hqp, hsame.1]
    exact stalled_rescheduleQp.mpr hs

/-- A stalled queue pair that is due stays so while others are served. -/
theorem spinning_restart (h : d.Spinning now) :
    ∃ d', restart cfg now d = some d' ∧ d'.Spinning now := by
  obtain ⟨hsound, i, hi, hdue, hs⟩ := h
  rcases ht : d.tree with _ | ⟨k, ks⟩
  · rw [ht] at hi
    cases hi
  have hnext : (d.reschedule k ((d.qps k).schedule cfg now)).Spinning now := by
    by_cases hik : i = k
    · subst hik
      exact spinning_of_stalled cfg hsound hs
    refine ⟨sound_reschedule cfg hsound k, i,
      (mem_reschedule hsound.wf.nodup).mpr (Or.inl ⟨hik, hi⟩), ?_, ?_⟩
    · rw [time, reschedule_qps, put_qp d _ hik]
      exact hdue
    · rw [reschedule_qps, put_qp d _ hik]
      exact hs
  exact ⟨_, restart_of_due ht hnext, hnext⟩

/-- An iteration for a stalled queue pair is not the last, and there is no last. -/
theorem not_ends_of_stalled {i : ι} (h : d.Sound now) (hi : i ∈ d.first)
    (hs : Stalled now (d.qps i).qp) : ¬Loop.Ends (restart cfg now) d := by
  obtain ⟨is, ht⟩ := List.head?_eq_some_iff.mp hi
  have hnext := spinning_of_stalled cfg h hs
  have hvisit := (Loop.Visits.refl (restart cfg now) d).next (restart_of_due ht hnext)
  exact fun hends => Loop.not_ends_of_keeps (fun _ h => spinning_restart h) hnext (hvisit.ends hends)

end Dev

/-! ## The queue pairs of a running device -/

/-- What becomes of a queue pair while others change the memory and the regions
between its own calls and events. -/
inductive Endpoint.Reachable (cfg : Config) (ibModifyQpIsOk : QpState → QpState → AttrMask → Bool) :
    Endpoint → Prop
  | rc (init_attr : QpInitAttr) (srq : Option Srq) (pd : Pd) (mem : Mem) :
      Reachable cfg ibModifyQpIsOk (.rc (created cfg init_attr srq pd mem))
  | ud (qp_type : QpType) (h : qp_type ≠ .RC) (init_attr : QpInitAttr) (srq : Option Srq) (pd : Pd)
      (mem : Mem) : Reachable cfg ibModifyQpIsOk (.ud (createdUd cfg qp_type init_attr srq pd mem))
  | rcStep {n : Node} (h : Reachable cfg ibModifyQpIsOk (.rc n)) (x : Nat × Act) :
      Reachable cfg ibModifyQpIsOk (.rc (step cfg ibModifyQpIsOk n x))
  | udStep {n : UdNode} (h : Reachable cfg ibModifyQpIsOk (.ud n)) (x : Nat × UdAct) :
      Reachable cfg ibModifyQpIsOk (.ud (udStep cfg ibModifyQpIsOk n x))
  | share {e : Endpoint} (h : Reachable cfg ibModifyQpIsOk e) (pd : Pd) (mem : Mem) :
      Reachable cfg ibModifyQpIsOk (e.share pd mem)

section Reachable

variable {cfg : Config} {isOk : StateCheck}

theorem Endpoint.reachable_run {n : Node} (h : (Endpoint.rc n).Reachable cfg isOk)
    (xs : List (Nat × Act)) :
    (Endpoint.rc (Run.run (step cfg isOk) n xs)).Reachable cfg isOk := by
  induction xs generalizing n with
  | nil => exact h
  | cons x xs ih => exact ih (h.rcStep x)

theorem Endpoint.Reachable.sound {e : Endpoint} (h : e.Reachable cfg isOk)
    (hacks : e.qp.responder.acks = []) : e.Sound := by
  -- what the loop relies on apart from the acknowledges
  let I : Endpoint → Prop
    | .rc n => Clocked n.qp.sendQ
    | .ud n => DatagramQ (fun _ => True) n.qp.lists
  have hI : I e := by
    clear hacks
    induction h with
    | rc init_attr srq pd mem => exact clocked_created cfg init_attr srq pd mem
    | ud qp_type h init_attr srq pd mem => exact datagramQ_created cfg h init_attr srq pd mem
    | rcStep _ x ih => exact clocked_step cfg isOk _ x ih
    | udStep _ x ih =>
      exact datagramQ_step (fun _ _ _ h => h) cfg isOk _ x (posts_true cfg _ x.2) ih
    | @share e _ pd mem ih => cases e <;> exact ih
  cases e with
  | rc n => exact ⟨hI, hacks⟩
  | ud n => exact hI

/-- The loop ends exactly if no iteration begins with a stalled queue pair at the front
of the tree. An iteration transmits a packet, moves or completes an element or takes
the queue pair off the current instant exactly if the queue pair is not stalled and
the next packet can be made. -/
theorem scheduler_loop_ends_iff {ι : Type} [Finite ι] [DecidableEq ι] (cfg : Config)
    (ibModifyQpIsOk : QpState → QpState → AttrMask → Bool) (now : Nat) (d : Dev ι) (hwf : d.Wf now)
    (hreach : ∀ i, (d.qps i).Reachable cfg ibModifyQpIsOk) (hacks : ∀ i, (d.qps i).qp.responder.acks = []) :
    (Loop.Ends (Dev.restart cfg now) d ↔ ∀ t, Loop.Visits (Dev.restart cfg now) d t →
      ∀ i ∈ t.first, ¬Stalled now (t.qps i).qp) ∧
    ∀ t, Loop.Visits (Dev.restart cfg now) d t → ∀ i ∈ t.first,
      ((t.qps i).Progresses cfg now ↔ ¬Stalled now (t.qps i).qp ∧ ¬(t.qps i).Spoiled cfg now) := by
  have hd : d.Sound now := ⟨hwf, fun i => (hreach i).sound (hacks i)⟩
  have hsound : ∀ t, Loop.Visits (Dev.restart cfg now) d t → t.Sound now := fun t ht =>
    ht.keep (fun _ _ h hr => Dev.sound_restart h hr) hd
  refine ⟨⟨fun hends t ht i hi hs => ?_, fun hs => ?_⟩, fun t ht i _ => ?_⟩
  · exact Dev.not_ends_of_stalled (hsound t ht) hi hs (ht.ends hends)
  · exact Loop.ends_of_falls (Dev.potential now) fun t t' ht hr =>
      Dev.potential_falls (hsound t ht) hr (hs t ht)
  · exact Endpoint.progresses_iff ((hsound t ht).qps i)

end Reachable

/-- A device with one queue pair. -/
def readerDev (n : Node) : Dev Unit :=
  { qps := fun _ => .rc n, pd_of := fun _ => 0, tree := [()], wakeup_time := n.qp.sched_time }

theorem wf_readerDev {n : Node} (now : Nat) (h : n.qp.sched_on = true) : (readerDev n).Wf now :=
  ⟨List.nodup_singleton _, fun _ => ⟨fun _ => h, fun _ => List.mem_singleton.mpr rfl⟩,
    List.pairwise_singleton _ _, fun _ _ hdue => hdue⟩

theorem reachable_run (xs : List (Nat × Act)) :
    (Endpoint.rc (Run.run (step {} ibStateTable) (created {} {} none ⟨0, fun _ => none⟩ fun _ => 0) xs)).Reachable
      {} ibStateTable :=
  Endpoint.reachable_run (.rc {} none _ _) xs

/-- An RDMA READ is posted: the first iteration sends it and the loop returns. -/
theorem scheduler_loop_ends_read :
    let n := Run.run (step {} ibStateTable) (created {} {} none ⟨0, fun _ => none⟩ fun _ => 0)
      (readRun.take 4)
    Loop.Ends (Dev.restart {} 2) (readerDev n) ∧ (Endpoint.rc n).Progresses {} 2 := by
  intro n
  have hreturn : (Dev.restart {} 2 (readerDev n)).isNone = true := by decide
  have hfree : ¬Stalled 2 n.qp := by
    have hnone : n.qp.requester.sending_swqe.isEmpty = true := by decide
    have hhead : n.qp.requester.submitted_swqe.head?.map (fencedOff n.qp.requester) = some false := by
      decide
    rintro ⟨-, -, hfenced⟩
    rw [List.isEmpty_iff.mp hnone] at hfenced
    obtain ⟨w, hw, hf⟩ := Option.map_eq_some_iff.mp hhead
    rw [hfenced w hw] at hf
    cases hf
  have hmake : ¬(Endpoint.rc n).Spoiled {} 2 := by
    rintro ⟨-, -, -, w, ws, hw, -⟩
    have hnone : n.qp.requester.sending_swqe.isEmpty = true := by decide
    rw [List.isEmpty_iff.mp hnone] at hw
    cases hw
  have hacks : n.qp.responder.acks = [] := by decide
  have hloop := scheduler_loop_ends_iff {} ibStateTable 2 (readerDev n) (wf_readerDev 2 (by decide))
    (fun _ => reachable_run _) (fun _ => hacks)
  refine ⟨hloop.1.mpr ?_, (hloop.2 _ (Loop.Visits.refl _ _) () rfl).mpr ⟨hfree, hmake⟩⟩
  rintro t ⟨k, hk⟩ i -
  cases k with
  | zero =>
    obtain rfl := Option.some.inj hk
    exact hfree
  | succ k =>
    rw [Loop.visit_succ, Option.isNone_iff_eq_none.mp hreturn] at hk
    cases hk

/-- An RDMA READ and a SEND behind a fence. The READ is sent. -/
def fencedRun : List (Nat × Act) :=
  bringUp { timeout := 14, retry_cnt := 7, sq_psn := 5, max_rd_atomic := 1, path_mtu := 1 } ++
    [(1, .postSend (fun _ _ => none)
        [{ wr_id := 9, opcode := .RDMA_READ, sg_list := [{ addr := 0, length := 600, lkey := 0 }] },
         { wr_id := 10, opcode := .SEND, send_flags := { FENCE := true },
           sg_list := [{ addr := 0, length := 600, lkey := 0 }] }]),
     (2, .schedule)]

/-- Until the response comes nothing can be done, but the loop does not return. -/
theorem scheduler_loop_spins :
    let n := Run.run (step {} ibStateTable) (created {} {} none ⟨0, fun _ => none⟩ fun _ => 0)
      fencedRun
    (Endpoint.rc n).Reachable {} ibStateTable ∧ n.qp.responder.acks = [] ∧ (readerDev n).Wf 2 ∧
      ¬Loop.Ends (Dev.restart {} 2) (readerDev n) ∧ ¬(Endpoint.rc n).Progresses {} 2 := by
  intro n
  have hreach : (Endpoint.rc n).Reachable {} ibStateTable := reachable_run _
  have hacks : n.qp.responder.acks = [] := by decide
  have hwf : (readerDev n).Wf 2 := wf_readerDev 2 (by decide)
  have hsound := hreach.sound hacks
  have hs : Stalled 2 n.qp := by
    have hhead : n.qp.requester.submitted_swqe.head?.map (fun w =>
        (pibIsWrOpcodeRdAtomic w.opcode, fencedOff n.qp.requester w)) = some (false, true) := by
      decide
    have hwait : n.qp.requester.waiting_swqe.all (fun w =>
        !w.local_only_request && decide (2 < w.processing.local_ack_time)) = true := by
      decide
    have hnone : n.qp.requester.sending_swqe.isEmpty = true := by decide
    obtain ⟨w, hw, hf⟩ := Option.map_eq_some_iff.mp hhead
    obtain ⟨hop, hfenced⟩ := Prod.mk.inj hf
    obtain ⟨ws, hws⟩ := List.head?_eq_some_iff.mp hw
    refine ⟨⟨by decide, w, ws, hws, fun h => ?_⟩, fun v hv => ?_, ?_⟩
    · rw [hop] at h
      cases h.1
    · have hv := List.all_eq_true.mp hwait v (List.mem_of_mem_head? hv)
      simpa using hv
    · rw [List.isEmpty_iff.mp hnone]
      intro v hv
      rw [Option.mem_unique hv hw]
      exact hfenced
  exact ⟨hreach, hacks, hwf, Dev.not_ends_of_stalled (i := ()) ⟨hwf, fun _ => hsound⟩ rfl hs,
    fun hp => ((Endpoint.progresses_iff hsound).mp hp).1 hs⟩

end pib
