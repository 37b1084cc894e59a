-- Directed-route packets along a chain of switches, out to a target and back. Each switch
-- is `pibnetd` or the easy switch; the packet carries the ports to leave through, and
-- collects those it came in through.
import Pib.Netd.McastTable

namespace pib

open Netd Stopping

variable {sw : Switch} {port_num : Nat}

/-! ## One switch -/

namespace EasySw

/-- The `send_packet` part of `process_incoming_message`. -/
def sendPacket (sw : Switch) (out_sw_port_num : Nat) (smp : Smp) : Except Halt (Option (Nat × Smp)) :=
  if out_sw_port_num = 0 ∨ sw.port_cnt ≤ out_sw_port_num then .error .bugOn
  else .ok (some (out_sw_port_num, smp))

/-- A directed-route packet in `process_incoming_message`. What ends the daemon is only
logged here. -/
def directedRoute (sw : Switch) (in_sw_port_num : Nat) (smp : Smp) :
    Except Halt (Switch × Option (Nat × Smp)) :=
  let hop_ptr := smp.hop_ptr
  let mark : Smp := { smp with
    return_path := smp.return_path.set hop_ptr (UInt8.ofNat in_sw_port_num) }
  if smp.dr_slid ≠ PIB_LID_PERMISSIVE ∨ smp.dr_dlid ≠ PIB_LID_PERMISSIVE then .ok (sw, none)
  else if smp.status / PIB_SMP_DIRECTION = 0 then
    if smp.hop_cnt = 0 ∨ hop_ptr = 0 then .ok (sw, none)
    else if hop_ptr < smp.hop_cnt then do
      shared (Netd.index .return_path hop_ptr)
      shared (Netd.index .initial_path ((hop_ptr + 1 : Nat) : Int))
      let sent ← sendPacket sw (byteAt smp.initial_path (hop_ptr + 1)) { mark with hop_ptr := hop_ptr + 1 }
      return (sw, sent)
    else if hop_ptr = smp.hop_cnt then do
      shared (Netd.index .return_path hop_ptr)
      let ((ret, smp), sw) ← processSmp mark sw in_sw_port_num
      if ret &&& PIB_MAD_RESULT_FAILURE ≠ 0 then return (sw, none)
      else return (sw, ← sendPacket sw in_sw_port_num { smp with hop_ptr := hop_ptr - 1 })
    else .ok (sw, none)
  else if hop_ptr = 0 then .ok (sw, none)
  else do
    shared (Netd.index .return_path ((hop_ptr - 1 : Nat) : Int))
    let sent ← sendPacket sw (byteAt smp.return_path (hop_ptr - 1)) { smp with hop_ptr := hop_ptr - 1 }
    return (sw, sent)

end EasySw

/-- A directed-route packet in `process_mad_packet`. -/
def Netd.directedRoute (sw : Switch) (in_port_num : Nat) (lrh : Lrh) (smp : Smp) : Outcome :=
  if smp.dr_slid ≠ PIB_LID_PERMISSIVE ∨ smp.dr_dlid ≠ PIB_LID_PERMISSIVE then .error (.exit .drLid)
  else if smp.status / PIB_SMP_DIRECTION = 0 then outgoingSmp sw in_port_num lrh smp
  else returningSmp sw lrh smp

theorem processMadPacket_directed (sw : Switch) (in_port_num : Nat) (lrh : Lrh) {buffer : List UInt8}
    (hd : DETH_SIZE + SMP_SIZE ≤ buffer.length)
    (hc : (Smp.decode (buffer.drop DETH_SIZE)).mgmt_class = PIB_MGMT_CLASS_SUBN_DIRECTED_ROUTE) :
    processMadPacket sw in_port_num lrh buffer =
      some <$> Netd.directedRoute sw in_port_num lrh (Smp.decode (buffer.drop DETH_SIZE)) := by
  unfold processMadPacket Netd.directedRoute
  rw [if_neg (by omega), if_neg (by omega)]
  dsimp only
  rw [if_pos hc]
  split_ifs <;> rfl

/-- What leaves a switch, with the port. Nothing leaves where the packet is dropped or the
switch stops. -/
def handle (sw : Switch) (in_port_num : Nat) (smp : Smp) : Code → Option (Switch × Nat × Smp)
  | .pibnetd => (Netd.directedRoute sw in_port_num {} smp).toOption.bind fun r =>
      r.2.head?.bind fun s => s.mad.map fun mad => (r.1, s.port_num, mad)
  | .easySw => (EasySw.directedRoute sw in_port_num smp).toOption.bind fun r =>
      r.2.map fun s => (r.1, s)

/-! ## A chain of switches -/

def Code.maxPorts : Code → Nat
  | .pibnetd => PIB_MAX_PORTS
  | .easySw => 256

/-- The port is the end of a link. -/
structure Linked (code : Code) (sw : Switch) (port_num : Nat) : Prop where
  pos : 0 < port_num
  lt : port_num < sw.port_cnt
  cnt : sw.port_cnt ≤ code.maxPorts
  addressed : (sw.ports port_num).sockaddr ≠ none

/-- A switch of the chain, with the ports towards the origin and towards the target. -/
structure Hop where
  code : Code
  sw : Switch
  in_port : Nat
  out_port : Nat
  linked_in : Linked code sw in_port
  linked_out : Linked code sw out_port
  distinct : in_port ≠ out_port

/-- A node behind the last switch that answers a directed-route packet: the way back
starts with the hop pointer at the hop count. -/
structure EndNode where
  answer : Smp → Smp
  returning : ∀ smp, (answer smp).status / PIB_SMP_DIRECTION ≠ 0
  hop_ptr : ∀ smp, (answer smp).hop_ptr = smp.hop_cnt
  return_path : ∀ smp, (answer smp).return_path = smp.return_path
  dr_lids : ∀ smp, (answer smp).dr_slid = smp.dr_slid ∧ (answer smp).dr_dlid = smp.dr_dlid

/-- A chain of `n` switches, and a packet at its start that names its links. The target is
a node behind the last switch, or else the last switch. -/
structure Trip where
  n : Nat
  hop : Nat → Hop
  target : Option EndNode
  smp : Smp
  pos : 0 < n
  permissive : smp.dr_slid = PIB_LID_PERMISSIVE ∧ smp.dr_dlid = PIB_LID_PERMISSIVE
  outgoing : smp.status / PIB_SMP_DIRECTION = 0
  hop_ptr : smp.hop_ptr = 1
  hop_cnt : smp.hop_cnt = if target.isSome then n + 1 else n
  fits : smp.hop_cnt < PIB_SMP_MAX_PATH_HOPS
  paths : smp.return_path.length = PIB_SMP_MAX_PATH_HOPS
  links : ∀ i, i + 1 < smp.hop_cnt → byteAt smp.initial_path (i + 2) = (hop i).out_port

/-- What happens on the way, at the switches from 0 on: a packet leaves with this hop
pointer, or is processed. The node behind the chain has the next number. -/
inductive Event
  | sent (i port_num hop_ptr : Nat)
  | processed (i : Nat)
  deriving DecidableEq, Repr

namespace Trip

/-- The number of switches that the packet only passes, or of the target. -/
def last (t : Trip) : Nat := t.smp.hop_cnt - 1

/-- The way of a packet from a port of switch `i` on, for a number of links. -/
def travel (t : Trip) : Nat → (Nat → Switch) → Nat → Nat → Smp → List Event
  | 0, _, _, _, _ => []
  | fuel + 1, sws, i, in_port, smp =>
    (if smp.status / PIB_SMP_DIRECTION = 0 ∧ smp.hop_ptr = smp.hop_cnt then [.processed i] else []) ++
    match handle (sws i) in_port smp (t.hop i).code with
    | none => []
    | some (sw, port_num, smp) =>
      let sws := Function.update sws i sw
      .sent i port_num smp.hop_ptr ::
        if port_num = (t.hop i).out_port then
          if i + 1 < t.n then t.travel fuel sws (i + 1) (t.hop (i + 1)).in_port smp
          else match t.target with
            | some node => .processed (i + 1) :: t.travel fuel sws i port_num (node.answer smp)
            | none => []
        else if port_num = (t.hop i).in_port ∧ 0 < i then
          t.travel fuel sws (i - 1) (t.hop (i - 1)).out_port smp
        else []

def journey (t : Trip) (fuel : Nat) : List Event :=
  t.travel fuel (fun i => (t.hop i).sw) 0 (t.hop 0).in_port t.smp

def forward (t : Trip) (i : Nat) : Event := .sent i (t.hop i).out_port (i + 2)
def back (t : Trip) (i : Nat) : Event := .sent i (t.hop i).in_port (i + 1)

/-- Out along the links, processed once at the target, and back through the ports that the
packet came in through, with the hop pointer one further at each switch. -/
def Retraces (t : Trip) : Prop :=
  ∃ enough, ∀ fuel ≥ enough, t.journey fuel =
    (List.range t.last).map t.forward ++ .processed t.last :: ((List.range t.n).map t.back).reverse

/-! ## One hop -/

/-- A packet on its way out, before switch `i`. -/
structure Out (t : Trip) (i : Nat) (smp : Smp) : Prop where
  permissive : smp.dr_slid = PIB_LID_PERMISSIVE ∧ smp.dr_dlid = PIB_LID_PERMISSIVE
  outgoing : smp.status / PIB_SMP_DIRECTION = 0
  hop_ptr : smp.hop_ptr = i + 1
  hop_cnt : smp.hop_cnt = t.smp.hop_cnt
  initial_path : smp.initial_path = t.smp.initial_path
  paths : smp.return_path.length = PIB_SMP_MAX_PATH_HOPS
  marks : ∀ j < i, byteAt smp.return_path (j + 1) = (t.hop j).in_port

/-- A packet on its way back, before switch `i`. -/
structure Back (t : Trip) (i : Nat) (smp : Smp) : Prop where
  permissive : smp.dr_slid = PIB_LID_PERMISSIVE ∧ smp.dr_dlid = PIB_LID_PERMISSIVE
  returning : smp.status / PIB_SMP_DIRECTION ≠ 0
  hop_ptr : smp.hop_ptr = i + 2
  marks : ∀ j ≤ i, byteAt smp.return_path (j + 1) = (t.hop j).in_port

theorem byteAt_set {l : List UInt8} {i : Nat} (h : i < l.length) (b : UInt8) (j : Nat) :
    byteAt (l.set i b) j = if i = j then b.toNat else byteAt l j := by
  unfold byteAt
  rw [List.getD_eq_getElem?_getD, List.getElem?_set, List.getD_eq_getElem?_getD]
  split_ifs
  · rfl
  · rfl

theorem index_path {a : Arr} (ha : a = .return_path ∨ a = .initial_path) {i : Nat}
    (h : i < PIB_SMP_MAX_PATH_HOPS) : Netd.index a (i : Int) = .ok () := by
  apply index_ok
  rw [Arr.has_natCast]
  rcases ha with rfl | rfl <;> exact h

variable {t : Trip} {i : Nat} {smp : Smp}

theorem maxPorts_le (code : Code) : code.maxPorts ≤ 256 := by cases code <;> decide

/-- Through the end of a link a packet is sent. -/
theorem sendPacket_linked (h : Linked .pibnetd sw port_num) (lrh : Lrh)
    (smp : Smp) : ∃ dest, Netd.sendPacket sw port_num lrh smp = .ok [{ port_num, dest, lrh, mad := some smp }] := by
  have hi : Netd.index .ports port_num = .ok () :=
    index_ok (Arr.has_natCast.2 (h.lt.trans_le h.cnt))
  obtain ⟨dest, hdest⟩ := Option.ne_none_iff_exists'.1 h.addressed
  refine ⟨dest, ?_⟩
  unfold Netd.sendPacket
  rw [hi, hdest]
  rfl

theorem easySw_sendPacket_linked (h : Linked .easySw sw port_num)
    (smp : Smp) : EasySw.sendPacket sw port_num smp = .ok (some (port_num, smp)) := by
  have := h.pos
  have := h.lt
  exact if_neg (by omega)

/-- The packet as it is passed on. -/
def mark (t : Trip) (i : Nat) (smp : Smp) : Smp :=
  { smp with
    return_path := smp.return_path.set (i + 1) (UInt8.ofNat (t.hop i).in_port)
    hop_ptr := i + 2 }

theorem Out.mark (h : t.Out i smp) (hi : i + 1 < t.smp.hop_cnt) : t.Out (i + 1) (t.mark i smp) where
  permissive := h.permissive
  outgoing := h.outgoing
  hop_ptr := rfl
  hop_cnt := h.hop_cnt
  initial_path := h.initial_path
  paths := by rw [Trip.mark, List.length_set]; exact h.paths
  marks := by
    have hl := t.fits
    intro j hj
    rw [Trip.mark, byteAt_set (by rw [h.paths]; omega)]
    split_ifs with hij
    · obtain rfl : i = j := by omega
      have := (t.hop i).linked_in
      exact UInt8.toNat_ofNat_of_lt' (this.lt.trans_le (this.cnt.trans (maxPorts_le _)))
    · exact h.marks j (by omega)

theorem Out.permitted (h : t.Out i smp) :
    ¬(smp.dr_slid ≠ PIB_LID_PERMISSIVE ∨ smp.dr_dlid ≠ PIB_LID_PERMISSIVE) := by
  simp [h.permissive]

theorem handle_forward (h : t.Out i smp) (hi : i + 1 < t.smp.hop_cnt) :
    handle (t.hop i).sw (t.hop i).in_port smp (t.hop i).code =
      some ((t.hop i).sw, (t.hop i).out_port, t.mark i smp) := by
  have hl := t.fits
  have hp := h.hop_ptr
  have hcnt := h.hop_cnt
  have hlink : byteAt smp.initial_path (smp.hop_ptr + 1) = (t.hop i).out_port := by
    rw [h.initial_path, hp]
    exact t.links i hi
  have h1 := index_path (a := .return_path) (Or.inl rfl) (i := smp.hop_ptr) (by omega)
  have h2 := index_path (a := .initial_path) (Or.inr rfl) (i := smp.hop_ptr + 1) (by omega)
  have hm : t.mark i smp = { smp with
      return_path := smp.return_path.set smp.hop_ptr (UInt8.ofNat (t.hop i).in_port)
      hop_ptr := smp.hop_ptr + 1 } := by rw [hp]; rfl
  have hout := (t.hop i).linked_out
  cases hc : (t.hop i).code with
  | pibnetd =>
    obtain ⟨dest, hs⟩ := sendPacket_linked (hc ▸ hout) {} (t.mark i smp)
    rw [hm] at hs ⊢
    unfold handle Netd.directedRoute outgoingSmp
    dsimp only
    rw [if_neg h.permitted, if_pos h.outgoing, if_neg (by omega), if_neg (by omega),
      if_pos (by omega), h1, h2, hlink]
    dsimp only [bind, Except.bind]
    rw [hs]
    rfl
  | easySw =>
    have hs := easySw_sendPacket_linked (hc ▸ hout) (t.mark i smp)
    rw [hm] at hs ⊢
    unfold handle EasySw.directedRoute
    dsimp only
    rw [if_neg h.permitted, if_pos h.outgoing, if_neg (by omega), if_pos (by omega), h1, h2, hlink]
    dsimp only [bind, Except.bind, EasySw.shared, Except.mapError]
    rw [hs]
    rfl

theorem handle_back (h : t.Back i smp) (hi : i < PIB_SMP_MAX_PATH_HOPS - 1) (in_port : Nat) :
    handle (t.hop i).sw in_port smp (t.hop i).code =
      some ((t.hop i).sw, (t.hop i).in_port, { smp with hop_ptr := i + 1 }) := by
  have hp := h.hop_ptr
  have hpred : smp.hop_ptr - 1 = i + 1 := by omega
  have h1 := index_path (a := .return_path) (Or.inl rfl) (i := smp.hop_ptr - 1) (by omega)
  have hlink : byteAt smp.return_path (smp.hop_ptr - 1) = (t.hop i).in_port := by
    rw [hpred]
    exact h.marks i le_rfl
  have hin := (t.hop i).linked_in
  have hd : ¬(smp.dr_slid ≠ PIB_LID_PERMISSIVE ∨ smp.dr_dlid ≠ PIB_LID_PERMISSIVE) := by
    simp [h.permissive]
  rw [← hpred]
  cases hc : (t.hop i).code with
  | pibnetd =>
    obtain ⟨dest, hs⟩ := sendPacket_linked (hc ▸ hin) {} { smp with hop_ptr := smp.hop_ptr - 1 }
    unfold handle Netd.directedRoute returningSmp
    dsimp only
    rw [if_neg hd, if_neg h.returning, if_neg (by omega), h1, hlink]
    dsimp only [bind, Except.bind]
    rw [hs]
    rfl
  | easySw =>
    have hs := easySw_sendPacket_linked (hc ▸ hin) { smp with hop_ptr := smp.hop_ptr - 1 }
    unfold handle EasySw.directedRoute
    dsimp only
    rw [if_neg hd, if_neg h.returning, if_neg (by omega), h1, hlink]
    dsimp only [bind, Except.bind, EasySw.shared, Except.mapError]
    rw [hs]
    rfl

theorem toOption_eq_some {ε α : Type} {x : Except ε α} {a : α} (h : x.toOption = some a) :
    x = .ok a := by
  cases x with
  | error e => cases h
  | ok b => exact congrArg _ (Option.some.inj h)

theorem sendPacket_mad {lrh : Lrh} {mad : Smp} {sent : List Sent}
    {s : Sent} (h : Netd.sendPacket sw port_num lrh smp = .ok sent) (hs : sent.head? = some s)
    (hm : s.mad = some mad) : mad = smp := by
  obtain ⟨_, _, h⟩ := bind_eq_ok h
  split at h
  · obtain rfl := Except.ok.inj h
    cases hs
  obtain rfl := Except.ok.inj h
  obtain rfl := Option.some.inj hs
  exact (Option.some.inj hm).symm

/-- A switch that answers turns the hop pointer back by one. -/
theorem handle_target (h : t.Out i smp) (hi : smp.hop_ptr = smp.hop_cnt) {in_port : Nat}
    {code : Code} {r : Switch × Nat × Smp} (hr : handle sw in_port smp code = some r) :
    r.2.2.hop_ptr = i := by
  have hp := h.hop_ptr
  cases code with
  | pibnetd =>
    obtain ⟨o, ho, hr⟩ := Option.bind_eq_some_iff.1 hr
    obtain ⟨s, hs, hr⟩ := Option.bind_eq_some_iff.1 hr
    obtain ⟨mad, hmad, rfl⟩ := Option.map_eq_some_iff.1 hr
    have ho := toOption_eq_some ho
    unfold Netd.directedRoute outgoingSmp at ho
    dsimp only at ho
    rw [if_neg h.permitted, if_pos h.outgoing, if_neg (by omega), if_neg (by omega),
      if_neg (by omega), if_pos hi] at ho
    obtain ⟨_, _, ho⟩ := bind_eq_ok ho
    obtain ⟨_, _, ho⟩ := bind_eq_ok ho
    split_ifs at ho
    · obtain rfl := Except.ok.inj ho
      cases hs
    obtain ⟨sent, hsent, ho⟩ := bind_eq_ok ho
    obtain rfl := Except.ok.inj ho
    rw [sendPacket_mad hsent hs hmad]
    exact by dsimp only; omega
  | easySw =>
    obtain ⟨o, ho, hr⟩ := Option.bind_eq_some_iff.1 hr
    obtain ⟨s, hs, rfl⟩ := Option.map_eq_some_iff.1 hr
    have ho := toOption_eq_some ho
    unfold EasySw.directedRoute at ho
    dsimp only at ho
    rw [if_neg h.permitted, if_pos h.outgoing, if_neg (by omega), if_neg (by omega), if_pos hi] at ho
    obtain ⟨_, _, ho⟩ := bind_eq_ok ho
    obtain ⟨_, _, ho⟩ := bind_eq_ok ho
    split_ifs at ho
    · obtain rfl := Except.ok.inj ho
      cases hs
    obtain ⟨sent, hsent, ho⟩ := bind_eq_ok ho
    obtain rfl := Except.ok.inj ho
    unfold EasySw.sendPacket at hsent
    split_ifs at hsent
    obtain rfl := Except.ok.inj hsent
    obtain rfl := Option.some.inj hs
    exact by dsimp only; omega

/-! ## The way out and back -/

theorem travel_back (h : t.Back i smp) (hi : i < PIB_SMP_MAX_PATH_HOPS - 1)
    {sws : Nat → Switch} (hsws : ∀ j, sws j = (t.hop j).sw) (fuel in_port : Nat) :
    t.travel (fuel + i + 1) sws i in_port smp = ((List.range (i + 1)).map t.back).reverse := by
  induction i generalizing smp in_port with
  | zero =>
    rw [travel, if_neg fun hc => h.returning hc.1, hsws, handle_back h hi]
    simp [back, (t.hop 0).distinct]
  | succ i ih =>
    have hb : t.Back i { smp with hop_ptr := i + 1 + 1 } :=
      ⟨h.permissive, h.returning, rfl, fun j hj => h.marks j (by omega)⟩
    rw [travel, if_neg fun hc => h.returning hc.1, hsws, handle_back h hi, List.range_succ,
      List.map_append, List.reverse_append]
    dsimp only
    rw [if_neg (t.hop (i + 1)).distinct, if_pos ⟨rfl, Nat.succ_pos i⟩, ← hsws (i + 1),
      Function.update_eq_self, Nat.add_sub_cancel]
    exact congrArg (_ :: ·) (ih hb (by omega) _)

/-- The way out, up to the last switch. -/
theorem travel_out {k : Nat} (h : t.Out i smp) (hk : i + k < t.smp.hop_cnt)
    (hn : i + k < t.n) {sws : Nat → Switch} (hsws : ∀ j, sws j = (t.hop j).sw) (fuel : Nat) :
    ∃ smp', t.Out (i + k) smp' ∧
      t.travel (fuel + k) sws i (t.hop i).in_port smp =
        (List.range' i k).map t.forward ++
          t.travel fuel sws (i + k) (t.hop (i + k)).in_port smp' := by
  induction k generalizing i smp with
  | zero => exact ⟨smp, h, rfl⟩
  | succ k ih =>
    have hi : i + 1 < t.smp.hop_cnt := by omega
    have hadd : i + 1 + k = i + (k + 1) := by omega
    obtain ⟨smp', hout, htr⟩ := ih (h.mark hi) (by omega) (by omega)
    rw [hadd] at hout htr
    refine ⟨smp', hout, ?_⟩
    have hcnt := h.hop_cnt
    have hp := h.hop_ptr
    rw [← Nat.add_assoc fuel, travel, if_neg (by omega), hsws, handle_forward h hi, List.nil_append]
    dsimp only
    rw [if_pos rfl, if_pos (by omega), ← hsws i, Function.update_eq_self, htr]
    rfl

theorem out_start (t : Trip) : t.Out 0 t.smp :=
  ⟨t.permissive, t.outgoing, t.hop_ptr, rfl, rfl, t.paths, nofun⟩

/-- A switch does not answer as a link further would need it. -/
theorem not_retraces_switch (t : Trip) (h : t.target = none) : ¬t.Retraces := by
  rintro ⟨enough, hj⟩
  have hpos := t.pos
  have hcnt : t.smp.hop_cnt = t.n := by rw [t.hop_cnt, h]; rfl
  have hlast : t.last = t.n - 1 := by rw [last, hcnt]
  obtain ⟨smp, hout, htr⟩ := travel_out (out_start t) (k := t.n - 1) (by omega) (by omega)
    (fun _ => rfl) (enough + 1)
  rw [Nat.zero_add] at hout htr
  have hp := hout.hop_ptr
  have hc := hout.hop_cnt
  have hat : smp.hop_ptr = smp.hop_cnt := by omega
  have hj := (hj (enough + 1 + (t.n - 1)) (by omega)).symm.trans htr
  rw [hlast, List.range_eq_range', List.append_cancel_left_eq, travel, if_pos ⟨hout.outgoing, hat⟩,
    List.singleton_append, List.cons.injEq] at hj
  have hback : ((List.range t.n).map t.back).reverse =
      t.back (t.n - 1) :: ((List.range (t.n - 1)).map t.back).reverse := by
    obtain ⟨m, hm⟩ : ∃ m, t.n = m + 1 := ⟨t.n - 1, by omega⟩
    rw [hm, List.range_succ, List.map_append, List.reverse_append]
    rfl
  rw [hback] at hj
  cases hh : handle (t.hop (t.n - 1)).sw (t.hop (t.n - 1)).in_port smp (t.hop (t.n - 1)).code with
  | none => simp [hh] at hj
  | some r =>
    rw [hh] at hj
    have hr := handle_target hout hat hh
    have hptr := (Event.sent.inj (List.cons.inj hj.2).1).2.2
    exact Nat.succ_ne_self _ (hptr.trans hr)

theorem retraces_endNode (t : Trip) {node : EndNode} (h : t.target = some node) : t.Retraces := by
  have hpos := t.pos
  have hfits := t.fits
  have hcnt : t.smp.hop_cnt = t.n + 1 := by rw [t.hop_cnt, h]; rfl
  have hlast : t.last = t.n - 1 + 1 := by rw [last, hcnt]; omega
  refine ⟨2 * t.n, fun fuel hfuel => ?_⟩
  obtain ⟨f, rfl⟩ : ∃ f, fuel = f + (t.n - 1) + 1 + 1 + (t.n - 1) := ⟨fuel - 2 * t.n, by omega⟩
  obtain ⟨smp, hout, htr⟩ := travel_out (out_start t) (k := t.n - 1) (by omega) (by omega)
    (fun _ => rfl) (f + (t.n - 1) + 1 + 1)
  rw [Nat.zero_add] at hout htr
  have hp := hout.hop_ptr
  have hc := hout.hop_cnt
  have hm := hout.mark (by omega)
  have hb : t.Back (t.n - 1) (node.answer (t.mark (t.n - 1) smp)) := by
    obtain ⟨hs, hd⟩ := node.dr_lids (t.mark (t.n - 1) smp)
    refine ⟨⟨hs.trans hm.permissive.1, hd.trans hm.permissive.2⟩, node.returning _, ?_, fun j hj => ?_⟩
    · rw [node.hop_ptr, hm.hop_cnt]
      omega
    · rw [node.return_path]
      exact hm.marks j (by omega)
  refine htr.trans ?_
  rw [hlast, List.range_succ, List.map_append, List.append_assoc, ← List.range_eq_range',
    List.append_cancel_left_eq, travel, if_neg (by omega), handle_forward hout (by omega)]
  dsimp only
  rw [if_pos rfl, if_neg (by omega), h, Function.update_eq_self]
  refine congrArg (_ :: ·) (congrArg₂ List.cons ?_ ?_)
  · rfl
  · refine (travel_back hb (by omega) (fun _ => rfl) f _).trans ?_
    rw [show t.n - 1 + 1 = t.n by omega]

theorem directed_route_retraces_iff (t : Trip) : t.Retraces ↔ t.target ≠ none := by
  constructor
  · intro h hn
    exact not_retraces_switch t hn h
  · intro h
    obtain ⟨node, hnode⟩ := Option.ne_none_iff_exists'.1 h
    exact retraces_endNode t hnode

/-- A switch with two links, through its ports 1 and 2. -/
def relay : Hop where
  code := .pibnetd
  sw := { ports := fun i => if i = 0 then {} else { sockaddr := some ⟨1, i⟩ } }
  in_port := 1
  out_port := 2
  linked_in := ⟨by decide, by decide, by decide, by decide⟩
  linked_out := ⟨by decide, by decide, by decide, by decide⟩
  distinct := by decide

/-- A Get(NodeInfo) to the second of two switches. -/
def twoSwitches : Trip where
  n := 2
  hop := fun _ => relay
  target := none
  smp := {
    base_version := 1, mgmt_class := PIB_MGMT_CLASS_SUBN_DIRECTED_ROUTE, class_version := 1
    method := PIB_MGMT_METHOD_GET, status := 0, hop_ptr := 1, hop_cnt := 2, attr_id := 0x0011
    attr_mod := 0, dr_slid := PIB_LID_PERMISSIVE, dr_dlid := PIB_LID_PERMISSIVE
    data := List.replicate 64 0, initial_path := [0, 1, 2] ++ List.replicate 61 0
    return_path := List.replicate 64 0 }
  pos := by decide
  permissive := by decide
  outgoing := by decide
  hop_ptr := rfl
  hop_cnt := rfl
  fits := by decide
  paths := by simp; rfl
  links := by
    intro i hi
    obtain rfl : i = 0 := by simpa using hi
    rfl

/-- The reply leaves the second switch with a hop pointer of 1, and the first one looks for
its port where there is none. -/
theorem directed_route_reply_lost :
    ¬ twoSwitches.Retraces ∧
      twoSwitches.journey 10 = [.sent 0 2 2, .processed 1, .sent 1 1 1] :=
  ⟨not_retraces_switch twoSwitches rfl, by decide +kernel⟩

end Trip

end pib
