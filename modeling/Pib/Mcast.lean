-- Multicast groups (`pib_multicast.c`): a link stands in the list of its queue pair
-- and in the list of its LID. `pib_attach_mcast` counts the first list, and
-- `process_incoming_message` copies the second one into an array of fixed size.
import Pib.SendThread

namespace pib

def PIB_MCAST_QP_ATTACH : Nat := 128

/-! ## Links -/

/-- The links of a device: `mcast_head` has the LIDs of a queue pair, and `mcast_table`
the queue pairs of a LID. -/
structure McastDev where
  mcast_head : Nat → List Nat := fun _ => []
  mcast_table : Nat → List Nat := fun _ => []

/-- A call on a queue pair. The flag of an attachment tells that a link can be allocated. -/
inductive McastCall
  | attach (qp_num lid : Nat) (mcast_link_cachep : Bool)
  | detach (qp_num lid : Nat)
  | destroy (qp_num : Nat)

namespace McastDev

/-- `list_add_tail` on both lists. -/
def link (s : McastDev) (qp_num lid : Nat) : McastDev :=
  { mcast_head := Function.update s.mcast_head qp_num (s.mcast_head qp_num ++ [lid])
    mcast_table := Function.update s.mcast_table lid (s.mcast_table lid ++ [qp_num]) }

/-- `list_del` on both lists. -/
def unlink (s : McastDev) (qp_num lid : Nat) : McastDev :=
  { mcast_head := Function.update s.mcast_head qp_num ((s.mcast_head qp_num).erase lid)
    mcast_table := Function.update s.mcast_table lid ((s.mcast_table lid).erase qp_num) }

/-- `pib_attach_mcast`. -/
def pibAttachMcast (s : McastDev) (qp_num lid : Nat) (mcast_link_cachep : Bool) :
    McastDev × Option Errno :=
  if lid < PIB_MCAST_LID_BASE then (s, some .EINVAL)
  else if lid ∈ s.mcast_head qp_num then (s, none)
  else if PIB_MCAST_QP_ATTACH < (s.mcast_head qp_num).length then (s, some .ENOMEM)
  else if mcast_link_cachep = false then (s, some .ENOMEM)
  else (s.link qp_num lid, none)

/-- `pib_detach_mcast`. -/
def pibDetachMcast (s : McastDev) (qp_num lid : Nat) : McastDev :=
  if lid < PIB_MCAST_LID_BASE then s
  else if lid ∈ s.mcast_head qp_num then s.unlink qp_num lid
  else s

/-- `pib_detach_all_mcast`. -/
def pibDetachAllMcast (s : McastDev) (qp_num : Nat) : McastDev :=
  (s.mcast_head qp_num).foldl (fun s lid => s.unlink qp_num lid) s

/-! ## Delivery -/

/-- The loop that fills `qp_nums`. Nothing is a write behind its end. -/
def collectQpNums (links : List Nat) : Option (List Nat) :=
  links.foldlM (fun qp_nums qp_num =>
    if qp_nums.length < PIB_MCAST_QP_ATTACH then some (qp_nums ++ [qp_num]) else none) []

/-- The multicast part of `process_incoming_message`, for an ACTIVE port: the queue pairs
to which `process_incoming_message_per_qp` passes the packet. -/
def processMulticast (s : McastDev) (port_lid slid dlid src_qp_num size : Nat) (ud_send_only : Bool) :
    Option (List Nat) :=
  if ud_send_only = false then some []
  else if size < 8 then some []
  else (collectQpNums (s.mcast_table dlid)).map fun qp_nums =>
    qp_nums.filter fun q => ¬(port_lid = slid ∧ src_qp_num = q)

end McastDev

/-! ## What is attached -/

/-- The device, with what the calls have reported as attached: LIDs and queue pairs. -/
structure Mcast where
  dev : McastDev := {}
  attached : Nat → Nat → Bool := fun _ _ => false

namespace Mcast

def report (r : Nat → Nat → Bool) (lid qp_num : Nat) (b : Bool) (l q : Nat) : Bool :=
  if l = lid ∧ q = qp_num then b else r l q

def step (s : Mcast) : McastCall → Mcast
  | .attach qp_num lid ok =>
    match s.dev.pibAttachMcast qp_num lid ok with
    | (dev, none) => ⟨dev, report s.attached lid qp_num true⟩
    | (dev, some _) => ⟨dev, s.attached⟩
  | .detach qp_num lid =>
    if lid < PIB_MCAST_LID_BASE then s
    else ⟨s.dev.pibDetachMcast qp_num lid, report s.attached lid qp_num false⟩
  | .destroy qp_num =>
    ⟨s.dev.pibDetachAllMcast qp_num, fun l q => if q = qp_num then false else s.attached l q⟩

/-- The lists have what is related, each once. -/
def Tracks (lists : Nat → List Nat) (r : Nat → Nat → Bool) : Prop :=
  ∀ a, (lists a).Nodup ∧ ∀ b, b ∈ lists a ↔ r a b = true

/-- Both lists have what is attached, no LID has more links than the array holds, and a
packet goes once to every queue pair attached but the sender. -/
structure Exact (s : Mcast) : Prop where
  table : Tracks s.dev.mcast_table s.attached
  head : Tracks s.dev.mcast_head fun q lid => s.attached lid q
  bound : ∀ lid, (s.dev.mcast_table lid).length ≤ PIB_MCAST_QP_ATTACH
  delivers : ∀ port_lid slid dlid src_qp_num size, 8 ≤ size → ∃ qps,
    s.dev.processMulticast port_lid slid dlid src_qp_num size true = some qps ∧ qps.Nodup ∧
    ∀ q, q ∈ qps ↔ s.attached dlid q = true ∧ ¬(port_lid = slid ∧ src_qp_num = q)

theorem foldlM_collect (links : List Nat) : ∀ qp_nums : List Nat,
    qp_nums.length + links.length ≤ PIB_MCAST_QP_ATTACH →
    links.foldlM (fun qp_nums qp_num =>
      if qp_nums.length < PIB_MCAST_QP_ATTACH then some (qp_nums ++ [qp_num]) else none) qp_nums =
      some (qp_nums ++ links) := by
  induction links with
  | nil => simp
  | cons q links ih =>
    intro qp_nums h
    rw [List.length_cons] at h
    rw [List.foldlM_cons, if_pos (by omega), Option.bind_eq_bind, Option.bind_some,
      ih _ (by simp; omega), List.append_assoc, List.singleton_append]

theorem exact_of_lists {s : Mcast} (htable : Tracks s.dev.mcast_table s.attached)
    (hhead : Tracks s.dev.mcast_head fun q lid => s.attached lid q)
    (hbound : ∀ lid, (s.dev.mcast_table lid).length ≤ PIB_MCAST_QP_ATTACH) : s.Exact := by
  refine ⟨htable, hhead, hbound, fun port_lid slid dlid src_qp_num size hsize => ?_⟩
  obtain ⟨hnodup, hmem⟩ := htable dlid
  have hcollect := foldlM_collect (s.dev.mcast_table dlid) [] (by simpa using hbound dlid)
  refine ⟨(s.dev.mcast_table dlid).filter fun q => ¬(port_lid = slid ∧ src_qp_num = q), ?_,
    hnodup.filter _, fun q => by simp only [List.mem_filter, hmem, decide_eq_true_eq]⟩
  rw [McastDev.processMulticast, if_neg (by simp), if_neg (by omega), McastDev.collectQpNums, hcollect]
  rfl

/-! ## Links come and go -/

section Tracks

variable {lists : Nat → List Nat} {r r' : Nat → Nat → Bool} {a b : Nat}

theorem Tracks.add (h : Tracks lists r) (hno : b ∉ lists a)
    (hr : ∀ x y, r' x y = if x = a ∧ y = b then true else r x y) :
    Tracks (Function.update lists a (lists a ++ [b])) r' := by
  intro x
  obtain ⟨hnodup, hmem⟩ := h x
  by_cases hx : x = a
  · subst hx
    rw [Function.update_self, ← List.concat_eq_append]
    refine ⟨hnodup.concat hno, fun y => ?_⟩
    rw [hr, List.concat_eq_append, List.mem_append, hmem]
    by_cases hy : y = b <;> simp [hy]
  · rw [Function.update_of_ne hx]
    exact ⟨hnodup, fun y => by simp [hr, hx, hmem]⟩

theorem Tracks.erase (h : Tracks lists r)
    (hr : ∀ x y, r' x y = if x = a ∧ y = b then false else r x y) :
    Tracks (Function.update lists a ((lists a).erase b)) r' := by
  intro x
  obtain ⟨hnodup, hmem⟩ := h x
  by_cases hx : x = a
  · subst hx
    rw [Function.update_self]
    refine ⟨hnodup.erase b, fun y => ?_⟩
    rw [hr, hnodup.mem_erase_iff, hmem]
    by_cases hy : y = b <;> simp [hy]
  · rw [Function.update_of_ne hx]
    exact ⟨hnodup, fun y => by simp [hr, hx, hmem]⟩

end Tracks

variable {s : Mcast} {qp_num lid : Nat}

/-- A report of what is so already changes nothing. -/
theorem report_self {r : Nat → Nat → Bool} {b : Bool} (h : r lid qp_num = b) :
    report r lid qp_num b = r := by
  funext l q
  unfold report
  split
  · rename_i he
    rw [he.1, he.2, h]
  · rfl

/-- When a link is put in, only the bound is in question. -/
theorem exact_link (h : s.Exact) (hnew : lid ∉ s.dev.mcast_head qp_num) :
    Exact ⟨s.dev.link qp_num lid, report s.attached lid qp_num true⟩ ↔
      (s.dev.mcast_table lid).length < PIB_MCAST_QP_ATTACH := by
  have hlen : ∀ l, ((s.dev.link qp_num lid).mcast_table l).length =
      (s.dev.mcast_table l).length + if l = lid then 1 else 0 := by
    intro l
    by_cases hl : l = lid <;> simp [McastDev.link, hl]
  constructor
  · intro h'
    have hbound := h'.bound lid
    rw [hlen, if_pos rfl] at hbound
    omega
  · intro hroom
    refine exact_of_lists (h.table.add ?_ fun _ _ => rfl) (h.head.add hnew fun q l => ?_) fun l => ?_
    · rwa [(h.table lid).2, ← (h.head qp_num).2]
    · simp only [report, and_comm]
    · have hbound := h.bound l
      rw [hlen]
      split
      · rename_i hl
        rw [hl]
        omega
      · omega

/-- A link is taken out. -/
def drop (qp_num : Nat) (s : Mcast) (lid : Nat) : Mcast :=
  ⟨s.dev.unlink qp_num lid, report s.attached lid qp_num false⟩

theorem exact_drop (h : s.Exact) (qp_num lid : Nat) : (drop qp_num s lid).Exact := by
  refine exact_of_lists (h.table.erase fun _ _ => rfl) (h.head.erase fun q l => ?_) fun l => ?_
  · simp only [drop, report, and_comm]
  · refine le_trans ?_ (h.bound l)
    by_cases hl : l = lid
    · simpa [drop, McastDev.unlink, hl] using List.length_erase_le
    · simp [drop, McastDev.unlink, hl]

theorem foldl_drop (qp_num : Nat) (lids : List Nat) : ∀ s : Mcast,
    lids.foldl (drop qp_num) s = ⟨lids.foldl (fun dev lid => dev.unlink qp_num lid) s.dev,
      fun l q => if q = qp_num ∧ l ∈ lids then false else s.attached l q⟩ := by
  induction lids with
  | nil => simp
  | cons lid lids ih =>
    intro s
    rw [List.foldl_cons, ih, List.foldl_cons, drop]
    refine congrArg (Mcast.mk _) ?_
    funext l q
    by_cases hq : q = qp_num <;> by_cases hl : l = lid <;> simp [report, hq, hl]

theorem step_destroy (h : s.Exact) (qp_num : Nat) :
    s.step (.destroy qp_num) = (s.dev.mcast_head qp_num).foldl (drop qp_num) s := by
  rw [foldl_drop, step, McastDev.pibDetachAllMcast]
  refine congrArg (Mcast.mk _) ?_
  funext l q
  by_cases hq : q = qp_num
  · subst hq
    by_cases hl : l ∈ s.dev.mcast_head q
    · simp [hl]
    · have hno := mt ((h.head q).2 l).mpr hl
      simp [hl, hno]
  · simp [hq]

/-- The call does not put a link where the array is full. -/
def Room (s : Mcast) : McastCall → Prop
  | .attach qp_num lid ok =>
    PIB_MCAST_LID_BASE ≤ lid → lid ∉ s.dev.mcast_head qp_num →
      (s.dev.mcast_head qp_num).length ≤ PIB_MCAST_QP_ATTACH → ok = true →
      (s.dev.mcast_table lid).length < PIB_MCAST_QP_ATTACH
  | _ => True

theorem exact_step (s : Mcast) (c : McastCall) (h : s.Exact) : (s.step c).Exact ↔ s.Room c := by
  cases c with
  | attach qp_num lid ok =>
    simp only [step, Room, McastDev.pibAttachMcast]
    split_ifs with h1 h2 h3 h4
    · exact ⟨fun _ hle => absurd hle (by omega), fun _ => h⟩
    · rw [report_self (((h.head qp_num).2 lid).mp h2)]
      exact ⟨fun _ _ hno => absurd h2 hno, fun _ => h⟩
    · exact ⟨fun _ _ _ hle => absurd hle (by omega), fun _ => h⟩
    · exact ⟨fun _ _ _ _ hok => absurd hok (by simp [h4]), fun _ => h⟩
    · rw [exact_link h h2]
      exact ⟨fun hr _ _ _ _ => hr, fun hr => hr (by omega) h2 (by omega) (by simpa using h4)⟩
  | detach qp_num lid =>
    refine ⟨fun _ => trivial, fun _ => ?_⟩
    simp only [step, McastDev.pibDetachMcast]
    split_ifs with h1 h2
    · exact h
    · exact exact_drop h qp_num lid
    · rw [report_self (Bool.eq_false_iff.mpr fun hr => h2 (((h.head qp_num).2 lid).mpr hr))]
      exact h
  | destroy qp_num =>
    refine ⟨fun _ => trivial, fun _ => ?_⟩
    rw [step_destroy h]
    generalize s.dev.mcast_head qp_num = lids
    induction lids generalizing s with
    | nil => exact h
    | cons l lids ih => exact ih (drop qp_num s l) (exact_drop h qp_num l) trivial

theorem exact_init : Exact {} :=
  exact_of_lists (fun _ => ⟨List.nodup_nil, by simp⟩) (fun _ => ⟨List.nodup_nil, by simp⟩) (by simp)

/-- Membership and delivery are exact after each call of a run exactly if no call adds a
link to a LID that has as many as the array holds. -/
theorem mcast_exact_iff (cs : List McastCall) :
    Run.Meets step (fun s c => (s.step c).Exact) {} cs ↔ Run.Meets step Room {} cs :=
  Run.meets_next_iff exact_step exact_init

/-- As many queue pairs as the array holds and one more are attached to one LID. -/
theorem mcast_overrun :
    let s := Run.run step {} ((List.range 129).map fun q => .attach (q + 2) 0xC000 true)
    s.attached 0xC000 130 = true ∧ (s.dev.mcast_table 0xC000).length = 129 ∧
      s.dev.processMulticast 1 2 0xC000 2 8 true = none := by
  decide +kernel

end Mcast

end pib
