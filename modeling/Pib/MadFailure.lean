-- Whether a management request that failed is answered as a success, in `pibnetd` and in
-- the easy switch. The result of a handler and the status of the packet are two things,
-- and the bit that the senders test the result for is no bit.
import Pib.Netd.McastTable
import Pib.Pma

namespace pib

open Bytes Netd Stopping

variable {served : Prop} {ret : Nat}

/-! ## Answers -/

/-- The status without the bit of the direction. -/
def lowStatus (status : Nat) : Nat := status % PIB_SMP_DIRECTION

/-- The tests before a reply is sent, in `process_mad_packet` and in
`process_incoming_message`. -/
def SendsReply (code : Code) (mgmt_class ret : Nat) : Prop :=
  ret &&& PIB_MAD_RESULT_FAILURE = 0 ∧
    (code = .pibnetd → mgmt_class = PIB_MGMT_CLASS_SUBN_LID_ROUTED →
      ret &&& PIB_MAD_RESULT_CONSUMED = 0)

/-- A failure is not answered with status 0, and status 0 means that the request was
carried out. -/
def Honest (sent : Prop) (ret status : Nat) (carriedOut : Prop) : Prop :=
  sent → (ret &&& PIB_MAD_RESULT_SUCCESS = 0 → lowStatus status ≠ 0) ∧
    (lowStatus status = 0 → carriedOut)

/-- The Get and the Set of an attribute as a switch has them, where the modifier is one
for the attribute. -/
def GetServed (smp : Smp) (sw : Switch) : Prop :=
  match Attr.ofId smp.attr_id with
  | some .NODE_DESC => smp.attr_mod = 0
  | some .NODE_INFO | some .SWITCH_INFO | some .PORT_INFO | some .MCAST_FORWARD_TABLE => True
  | some .PKEY_TABLE => smp.attr_mod % 2 ^ 16 = 0 ∧ smp.attr_mod / 2 ^ 16 % 2 ^ 16 < sw.port_cnt
  | some .LINEAR_FORWARD_TABLE => smp.attr_mod ≤ 767
  | _ => False

def SetServed (smp : Smp) (sw : Switch) : Prop :=
  match Attr.ofId smp.attr_id with
  | some .SWITCH_INFO | some .PORT_INFO | some .MCAST_FORWARD_TABLE => True
  | some .PKEY_TABLE => smp.attr_mod % 2 ^ 16 = 0 ∧ smp.attr_mod / 2 ^ 16 % 2 ^ 16 < sw.port_cnt
  | some .LINEAR_FORWARD_TABLE => smp.attr_mod ≤ 767
  | some .RANDOM_FORWARD_TABLE => smp.attr_mod ≤ 3071
  | _ => False

/-- The request was carried out by a switch. -/
def SmpServed (smp : Smp) (sw : Switch) : Prop :=
  smp.method = PIB_MGMT_METHOD_GET ∧ GetServed smp sw ∨
    smp.method = PIB_MGMT_METHOD_SET ∧ SetServed smp sw

/-- The attributes that are answered with `reply_failure`. -/
def Unserved : List Attr := [.GUID_INFO, .SL_TO_VL_TABLE, .VL_ARB_TABLE]

/-- The requests that fail with the status they came with: a Get of an attribute that is
not served, and a Set whose answer is such a Get. -/
def FailsSilently (smp : Smp) (sw : Switch) : Prop :=
  ∃ attr, Attr.ofId smp.attr_id = some attr ∧ lowStatus smp.status = 0 ∧
    (smp.method = PIB_MGMT_METHOD_GET ∧ attr ∈ .RANDOM_FORWARD_TABLE :: Unserved ∨
      smp.method = PIB_MGMT_METHOD_SET ∧ (attr ∈ Unserved ∨ attr = .RANDOM_FORWARD_TABLE ∧
        smp.attr_mod ≤ 3071 ∧ ∀ e ∈ randomEntries smp sw, e.1 < PIB_MCAST_LID_BASE))

/-! ## Both switches -/

def getMethod (smp : Smp) (sw : Switch) (in_port_num : Nat) : Code → Except EasySw.Halt (Nat × Smp)
  | .pibnetd => EasySw.shared (processSmpGetMethod smp sw in_port_num)
  | .easySw => EasySw.processSmpGetMethod smp sw in_port_num

def setMethod (smp : Smp) (sw : Switch) : Code → Except EasySw.Halt ((Nat × Smp) × Switch)
  | .pibnetd => EasySw.shared (processSmpSetMethod smp sw)
  | .easySw => EasySw.processSmpSetMethod smp sw

/-- A packet that the switch answers itself. -/
def processSmp (smp : Smp) (sw : Switch) (in_port_num : Nat) :
    Code → Except EasySw.Halt ((Nat × Smp) × Switch)
  | .pibnetd => EasySw.shared (pibProcessSmp smp sw in_port_num)
  | .easySw => EasySw.processSmp smp sw in_port_num

theorem shared_bind {α β : Type} (x : Except Stop α) (f : α → Except Stop β) :
    EasySw.shared (x >>= f) = EasySw.shared x >>= fun a => EasySw.shared (f a) := by
  cases x <;> rfl

theorem shared_eq_ok {α : Type} {x : Except Stop α} {a : α} :
    EasySw.shared x = .ok a ↔ x = .ok a := by
  cases x <;> simp [EasySw.shared, Except.mapError]

theorem processSmp_get {smp : Smp} (sw : Switch) (in_port_num : Nat) (code : Code)
    (h : smp.method = PIB_MGMT_METHOD_GET) :
    processSmp smp sw in_port_num code = do return (← getMethod smp sw in_port_num code, sw) := by
  cases code with
  | pibnetd => rw [processSmp, pibProcessSmp, if_pos h, shared_bind]; rfl
  | easySw => exact if_pos h

theorem processSmp_set {smp : Smp} (sw : Switch) (in_port_num : Nat) (code : Code)
    (h : smp.method = PIB_MGMT_METHOD_SET) :
    processSmp smp sw in_port_num code = (do
      let ((ret, smp), sw) ← setMethod smp sw code
      if smp.status % PIB_SMP_DIRECTION ≠ 0 then return ((ret, smp), sw)
      else return (← getMethod smp sw in_port_num code, sw)) := by
  have hg : ¬smp.method = PIB_MGMT_METHOD_GET := by rw [h]; decide
  cases code with
  | pibnetd =>
    rw [processSmp, pibProcessSmp, if_neg hg, if_pos h, shared_bind]
    refine bind_congr fun r => ?_
    by_cases hr : r.1.2.status % PIB_SMP_DIRECTION ≠ 0
    · dsimp only
      rw [if_pos hr, if_pos hr]
      rfl
    · dsimp only
      rw [if_neg hr, if_neg hr, shared_bind]
      rfl
  | easySw => rw [processSmp, EasySw.processSmp, if_neg hg, if_pos h]; rfl

/-! ## The status of a reply -/

theorem lowStatus_or (a b : Nat) : lowStatus (a ||| b) = lowStatus a ||| lowStatus b :=
  Nat.or_mod_two_pow (n := 15)

theorem lowStatus_respond (smp : Smp) : lowStatus smp.respond.status = lowStatus smp.status := by
  simp only [Smp.respond]
  split_ifs
  · rw [Smp.addStatus, lowStatus_or]
    exact Nat.or_zero _
  · rfl

theorem lowStatus_addStatus (smp : Smp) {flag : Nat} (h : lowStatus flag ≠ 0) :
    lowStatus (smp.addStatus flag).respond.status ≠ 0 := by
  rw [lowStatus_respond, Smp.addStatus, lowStatus_or]
  exact fun h0 => h (Nat.or_eq_zero_iff.1 h0).2

/-- A result without failure: with status 0 the packet came with status 0 and was
served. -/
def Answers (smp : Smp) (served : Prop) (r : Nat × Smp) : Prop :=
  r.1 = pmaReply ∧ (lowStatus r.2.status = 0 → lowStatus smp.status = 0 ∧ served)

theorem answers_reply {smp smp' : Smp} (hs : smp'.status = smp.status) (h : served) :
    Answers smp served smp'.reply :=
  ⟨rfl, fun h0 => ⟨by rwa [Smp.reply, lowStatus_respond, hs] at h0, h⟩⟩

theorem answers_flag {smp : Smp} (smp' : Smp) {flag : Nat} (h : lowStatus flag ≠ 0) :
    Answers smp served (smp'.addStatus flag).reply :=
  ⟨rfl, fun h0 => absurd h0 (lowStatus_addStatus smp' h)⟩

/-- `subn_get_nodedescription`, with any text. -/
theorem answers_nodeDesc (smp : Smp) (text : List UInt8) :
    Answers smp (smp.attr_mod = 0) (((if (smp.setData []).attr_mod ≠ 0 then
      (smp.setData []).addStatus PIB_SMP_INVALID_FIELD else smp.setData []).setData text).reply) := by
  split_ifs with hm
  · exact answers_flag ((smp.setData []).setData text) (by decide)
  · exact answers_reply rfl (not_not.1 hm)

/-! ## The handlers -/

section Handlers

variable {smp : Smp} {sw : Switch} {in_port_num : Nat} {code : Code}

theorem netd_getMethod {r : Nat × Smp} (h : processSmpGetMethod smp sw in_port_num = .ok r) :
    (∃ attr ∈ Attr.RANDOM_FORWARD_TABLE :: Unserved, Attr.ofId smp.attr_id = some attr) ∨
      Answers smp (GetServed smp sw) r := by
  unfold processSmpGetMethod at h
  dsimp only at h
  rw [Smp.setData_attr_id] at h
  unfold GetServed
  cases hattr : Attr.ofId smp.attr_id with
  | none =>
    rw [hattr] at h
    obtain rfl := Except.ok.inj h
    exact Or.inr (answers_flag _ (by decide))
  | some attr =>
    rw [hattr] at h
    cases attr with
    | NODE_DESC =>
      obtain rfl := Except.ok.inj h
      exact Or.inr (answers_nodeDesc smp _)
    | NODE_INFO | SWITCH_INFO => exact Or.inr (Except.ok.inj h ▸ answers_reply rfl trivial)
    | PORT_INFO =>
      obtain ⟨_, _, h⟩ := bind_eq_ok h
      exact Or.inr (Except.ok.inj h ▸ answers_reply rfl trivial)
    | PKEY_TABLE =>
      obtain rfl := Except.ok.inj h
      simp only [subnGetPkeyTable]
      split_ifs with h1 h2
      · exact Or.inr (answers_flag _ (by decide))
      · exact Or.inr (answers_flag _ (by decide))
      · exact Or.inr (answers_reply rfl ⟨not_not.1 h1, not_le.1 h2⟩)
    | LINEAR_FORWARD_TABLE =>
      simp only [subnGetLinearForwardTable] at h
      split_ifs at h with hm
      · exact Or.inr (Except.ok.inj h ▸ answers_flag _ (by decide))
      · obtain ⟨_, _, h⟩ := bind_eq_ok h
        exact Or.inr (Except.ok.inj h ▸ answers_reply rfl (not_lt.1 hm))
    | MCAST_FORWARD_TABLE =>
      obtain ⟨_, _, h⟩ := bind_eq_ok h
      obtain ⟨_, _, h⟩ := bind_eq_ok h
      exact Or.inr (Except.ok.inj h ▸ answers_reply rfl trivial)
    | GUID_INFO | SL_TO_VL_TABLE | VL_ARB_TABLE | RANDOM_FORWARD_TABLE =>
      exact Or.inl ⟨_, by decide, rfl⟩

theorem netd_setMethod {r : (Nat × Smp) × Switch} (h : processSmpSetMethod smp sw = .ok r) :
    (∃ attr ∈ Unserved, Attr.ofId smp.attr_id = some attr) ∨
      Answers smp (SetServed smp sw) r.1 := by
  unfold processSmpSetMethod at h
  unfold SetServed
  cases hattr : Attr.ofId smp.attr_id with
  | none =>
    rw [hattr] at h
    obtain rfl := Except.ok.inj h
    exact Or.inr (answers_flag _ (by decide))
  | some attr =>
    rw [hattr] at h
    cases attr with
    | NODE_DESC | NODE_INFO => exact Or.inr (Except.ok.inj h ▸ answers_flag _ (by decide))
    | SWITCH_INFO => exact Or.inr (Except.ok.inj h ▸ answers_reply rfl trivial)
    | PORT_INFO =>
      obtain ⟨_, _, h⟩ := bind_eq_ok h
      exact Or.inr (Except.ok.inj h ▸ answers_reply rfl trivial)
    | PKEY_TABLE =>
      obtain rfl := Except.ok.inj h
      simp only [subnSetPkeyTable]
      split_ifs with h1 h2
      · exact Or.inr (answers_flag _ (by decide))
      · exact Or.inr (answers_flag _ (by decide))
      · exact Or.inr (answers_reply rfl ⟨not_not.1 h1, not_le.1 h2⟩)
    | LINEAR_FORWARD_TABLE =>
      simp only [subnSetLinearForwardTable] at h
      split_ifs at h with hm
      · exact Or.inr (Except.ok.inj h ▸ answers_flag _ (by decide))
      · obtain ⟨_, _, h⟩ := bind_eq_ok h
        exact Or.inr (Except.ok.inj h ▸ answers_reply rfl (not_lt.1 hm))
    | RANDOM_FORWARD_TABLE =>
      simp only [subnSetRandomForwardTable] at h
      split_ifs at h with hm
      · exact Or.inr (Except.ok.inj h ▸ answers_flag _ (by decide))
      · obtain ⟨_, _, h⟩ := bind_eq_ok h
        exact Or.inr (Except.ok.inj h ▸ answers_reply rfl (not_lt.1 hm))
    | MCAST_FORWARD_TABLE =>
      obtain ⟨_, _, h⟩ := bind_eq_ok h
      obtain ⟨_, _, h⟩ := bind_eq_ok h
      exact Or.inr (Except.ok.inj h ▸ answers_reply rfl trivial)
    | GUID_INFO | SL_TO_VL_TABLE | VL_ARB_TABLE => exact Or.inl ⟨_, by decide, rfl⟩

theorem getMethod_spec {r : Nat × Smp} (h : getMethod smp sw in_port_num code = .ok r) :
    (∃ attr ∈ Attr.RANDOM_FORWARD_TABLE :: Unserved, Attr.ofId smp.attr_id = some attr) ∨
      Answers smp (GetServed smp sw) r := by
  cases code with
  | pibnetd => exact netd_getMethod (shared_eq_ok.1 h)
  | easySw =>
    simp only [getMethod, EasySw.processSmpGetMethod] at h
    split at h
    · rename_i hattr
      obtain rfl := Except.ok.inj h
      rw [GetServed, hattr]
      exact Or.inr (answers_nodeDesc smp _)
    · rename_i hattr
      simp only [EasySw.subnGetPortinfo] at h
      split_ifs at h
      rw [GetServed, hattr]
      exact Or.inr (Except.ok.inj h ▸ answers_reply rfl trivial)
    · exact netd_getMethod (shared_eq_ok.1 h)

theorem setMethod_spec {r : (Nat × Smp) × Switch} (h : setMethod smp sw code = .ok r) :
    ((∃ attr ∈ Unserved, Attr.ofId smp.attr_id = some attr) ∨ Answers smp (SetServed smp sw) r.1) ∧
      r.1.2.attr_id = smp.attr_id := by
  cases code with
  | pibnetd =>
    have h := shared_eq_ok.1 h
    exact ⟨netd_setMethod h, (processSmpSetMethod_keeps h).1⟩
  | easySw =>
    simp only [setMethod, EasySw.processSmpSetMethod] at h
    split at h
    · rename_i hattr
      simp only [EasySw.subnSetPortinfo] at h
      split_ifs at h
      all_goals
        obtain rfl := Except.ok.inj h
        rw [SetServed, hattr]
        exact ⟨Or.inr (answers_reply rfl trivial), smp.respond_attr.1⟩
    · have h := shared_eq_ok.1 h
      exact ⟨netd_setMethod h, (processSmpSetMethod_keeps h).1⟩

theorem getMethod_fails {attr : Attr} (ha : attr ∈ Attr.RANDOM_FORWARD_TABLE :: Unserved)
    (h : Attr.ofId smp.attr_id = some attr) :
    getMethod smp sw in_port_num code = .ok (smp.setData []).replyFailure := by
  simp only [Unserved, List.mem_cons, List.not_mem_nil, or_false] at ha
  rcases ha with rfl | rfl | rfl | rfl <;> cases code <;>
    simp only [getMethod, EasySw.processSmpGetMethod, processSmpGetMethod, Smp.setData_attr_id, h] <;> rfl

theorem setMethod_fails {attr : Attr} (ha : attr ∈ Unserved) (h : Attr.ofId smp.attr_id = some attr) :
    setMethod smp sw code = .ok (smp.replyFailure, sw) := by
  simp only [Unserved, List.mem_cons, List.not_mem_nil, or_false] at ha
  rcases ha with rfl | rfl | rfl <;> cases code <;>
    simp only [setMethod, EasySw.processSmpSetMethod, processSmpSetMethod, h] <;> rfl

theorem setMethod_random (h : Attr.ofId smp.attr_id = some .RANDOM_FORWARD_TABLE)
    (hm : smp.attr_mod ≤ 3071) :
    setMethod smp sw code = EasySw.shared (do
      indexAll .ucast_fwd_table ((randomEntries smp sw).map fun e => Int.ofNat e.1)
      return (smp.reply, { sw with ucast_fwd_table :=
        (randomEntries smp sw).foldl (fun t e => Function.update t e.1 e.2) sw.ucast_fwd_table })) := by
  have hs : subnSetRandomForwardTable smp sw = _ := if_neg (not_lt.2 hm)
  cases code <;> simp only [setMethod, EasySw.processSmpSetMethod, processSmpSetMethod, h, hs]

theorem random_places : (∀ e ∈ randomEntries smp sw, e.1 < PIB_MCAST_LID_BASE) ↔
    ∀ i ∈ (randomEntries smp sw).map fun e => Int.ofNat e.1, Arr.ucast_fwd_table.Has i := by
  rw [List.forall_mem_map]
  exact forall₂_congr fun e _ => (Arr.has_natCast (a := .ucast_fwd_table)).symm

end Handlers

/-! ## Subnet management packets -/

/-- The answer of the switch to a subnet management packet, if there is one, is honest. -/
def SmpHonest (smp : Smp) (sw : Switch) (in_port_num : Nat) (code : Code) : Prop :=
  ∀ r, processSmp smp sw in_port_num code = .ok r →
    Honest (SendsReply code smp.mgmt_class r.1.1) r.1.1 r.1.2.status (SmpServed smp sw)

theorem honest_of_flag {sent carriedOut : Prop} {status : Nat} (h : lowStatus status ≠ 0) :
    Honest sent ret status carriedOut := fun _ => ⟨fun _ => h, fun h0 => absurd h0 h⟩

theorem Answers.honest {smp : Smp} {sent carriedOut : Prop} {r : Nat × Smp}
    (h : Answers smp served r) (hs : served → carriedOut) :
    Honest sent r.1 r.2.status carriedOut := by
  refine fun _ => ⟨fun h0 => ?_, fun h0 => hs (h.2 h0).2⟩
  rw [h.1] at h0
  exact absurd h0 (by decide)

theorem not_honest_failure {smp : Smp} {sw : Switch} (smp' : Smp) (sw' : Switch) {in_port_num : Nat} {code : Code}
    (h : processSmp smp sw in_port_num code = .ok (smp'.replyFailure, sw'))
    (h0 : lowStatus smp'.status = 0) : ¬ SmpHonest smp sw in_port_num code := by
  intro hh
  have hf : PIB_MAD_RESULT_FAILURE ||| PIB_MAD_RESULT_REPLY = 2 := by decide
  have hr : lowStatus smp'.replyFailure.2.status = 0 := (lowStatus_respond smp').trans h0
  have hh := hh _ h
  rw [Smp.replyFailure, hf] at hh
  dsimp only at hh
  exact (hh ⟨by decide, fun _ _ => by decide⟩).1 (by decide) hr

theorem not_honest_of_failsSilently {smp : Smp} {sw : Switch} (in_port_num : Nat) (code : Code)
    (h : FailsSilently smp sw) : ¬ SmpHonest smp sw in_port_num code := by
  obtain ⟨attr, hattr, h0, ⟨hm, ha⟩ | ⟨hm, ha⟩⟩ := h
  · refine not_honest_failure (smp.setData []) sw ?_ h0
    rw [processSmp_get sw in_port_num code hm, getMethod_fails ha hattr]
    rfl
  · have hset : ∃ ret sw', setMethod smp sw code = .ok ((ret, smp.respond), sw') := by
      rcases ha with ha | ⟨rfl, hmod, he⟩
      · exact ⟨_, _, setMethod_fails ha hattr⟩
      · rw [setMethod_random hattr hmod, indexAll_ok (random_places.1 he)]
        exact ⟨_, _, rfl⟩
    have ha' : attr ∈ Attr.RANDOM_FORWARD_TABLE :: Unserved := by
      rcases ha with ha | ⟨rfl, -⟩
      · exact List.mem_cons_of_mem _ ha
      · exact List.mem_cons_self
    obtain ⟨ret, sw', hs⟩ := hset
    have hr : lowStatus smp.respond.status = 0 := (lowStatus_respond smp).trans h0
    refine not_honest_failure (smp.respond.setData []) sw' ?_ hr
    rw [processSmp_set sw in_port_num code hm, hs]
    change (if lowStatus smp.respond.status ≠ 0 then _ else _) = _
    rw [if_neg (not_not.2 hr), getMethod_fails ha' (by rw [smp.respond_attr.1, hattr])]
    rfl

theorem honest_of_get {smp : Smp} {sw : Switch} {in_port_num : Nat} {code : Code}
    (hm : smp.method = PIB_MGMT_METHOD_GET) (h : ¬FailsSilently smp sw) :
    SmpHonest smp sw in_port_num code := by
  intro r hr
  rw [processSmp_get sw in_port_num code hm] at hr
  obtain ⟨g, hg, hr⟩ := bind_eq_ok hr
  obtain rfl := Except.ok.inj hr
  rcases getMethod_spec hg with ⟨attr, ha, hattr⟩ | hs
  · rw [getMethod_fails ha hattr] at hg
    obtain rfl := Except.ok.inj hg
    apply honest_of_flag
    rw [Smp.replyFailure, lowStatus_respond]
    exact fun h0 => h ⟨attr, hattr, h0, Or.inl ⟨hm, ha⟩⟩
  · exact hs.honest fun hs => Or.inl ⟨hm, hs⟩

theorem honest_of_set {smp : Smp} {sw : Switch} {in_port_num : Nat} {code : Code}
    (hm : smp.method = PIB_MGMT_METHOD_SET) (h : ¬FailsSilently smp sw) :
    SmpHonest smp sw in_port_num code := by
  intro r hr
  rw [processSmp_set sw in_port_num code hm] at hr
  obtain ⟨⟨⟨ret, smp'⟩, sw'⟩, hg, hr⟩ := bind_eq_ok hr
  dsimp only at hr
  split_ifs at hr with hl
  · obtain rfl := Except.ok.inj hr
    exact honest_of_flag hl
  obtain ⟨g, hget, hr⟩ := bind_eq_ok hr
  obtain rfl := Except.ok.inj hr
  obtain ⟨hs, hid⟩ := setMethod_spec hg
  have hl : lowStatus smp'.status = 0 := not_not.1 hl
  rcases hs with ⟨attr, ha, hattr⟩ | hs
  · -- both the setter and the getter fail, with the status the packet came with
    rw [setMethod_fails ha hattr] at hg
    obtain rfl : smp.respond = smp' := congrArg (fun r => r.1.2) (Except.ok.inj hg)
    rw [lowStatus_respond] at hl
    exact absurd ⟨attr, hattr, hl, Or.inr ⟨hm, Or.inl ha⟩⟩ h
  obtain ⟨h0, hserved⟩ := hs.2 hl
  rcases getMethod_spec hget with ⟨attr, ha, hattr⟩ | hans
  · rw [hid] at hattr
    refine absurd ⟨attr, hattr, h0, Or.inr ⟨hm, ?_⟩⟩ h
    rcases List.mem_cons.1 ha with rfl | ha
    · rw [SetServed, hattr] at hserved
      rw [setMethod_random hattr hserved] at hg
      obtain ⟨_, hi, _⟩ := bind_eq_ok (shared_eq_ok.1 hg)
      refine Or.inr ⟨rfl, hserved, random_places.2 ?_⟩
      rw [← safe_indexAll (F := Stop.Fatal), hi]
      exact avoids_ok _
    · exact Or.inl ha
  · exact hans.honest fun _ => Or.inr ⟨hm, hserved⟩

theorem smpHonest_iff (smp : Smp) (sw : Switch) (in_port_num : Nat) (code : Code) :
    SmpHonest smp sw in_port_num code ↔ ¬FailsSilently smp sw := by
  refine ⟨fun h hf => not_honest_of_failsSilently in_port_num code hf h, fun h => ?_⟩
  by_cases hget : smp.method = PIB_MGMT_METHOD_GET
  · exact honest_of_get hget h
  by_cases hset : smp.method = PIB_MGMT_METHOD_SET
  · exact honest_of_set hset h
  intro r hr
  have hflag : ∀ {x}, Except.ok ((smp.addStatus PIB_SMP_UNSUP_METHOD).reply, sw) = Except.ok (ε := x) r →
      Honest (SendsReply code smp.mgmt_class r.1.1) r.1.1 r.1.2.status (SmpServed smp sw) := by
    intro x hr
    obtain rfl := Except.ok.inj hr
    exact honest_of_flag (lowStatus_addStatus smp (by decide))
  cases code with
  | pibnetd =>
    have hr := shared_eq_ok.1 hr
    rw [pibProcessSmp, if_neg hget, if_neg hset] at hr
    split_ifs at hr with hc
    · -- the packet is consumed, which `pibnetd` looks at for this class
      obtain rfl := Except.ok.inj hr
      have hret : (PIB_MAD_RESULT_SUCCESS ||| PIB_MAD_RESULT_CONSUMED) &&& PIB_MAD_RESULT_CONSUMED ≠ 0 := by
        decide
      exact fun hs => absurd (hs.2 rfl hc.2) hret
    · exact hflag hr
  | easySw =>
    rw [processSmp, EasySw.processSmp, if_neg hget, if_neg hset] at hr
    exact hflag hr

/-! ## Performance management packets -/

/-- The request was carried out by the agent. -/
def PmaServed (node : PmaNode) (mad reply : PmaMad) (node' : PmaNode) : Prop :=
  mad.method = PIB_MGMT_METHOD_GET ∧ (match PmaAttr.ofId mad.attr_id with
    | some .CLASS_PORT_INFO | some .PORT_SAMPLES_RESULT | some .PORT_SAMPLES_RESULT_EXT =>
      mad.attr_mod = 0
    | some .PORT_SAMPLES_CONTROL | some .PORT_COUNTERS | some .PORT_COUNTERS_EXT => node.Selects mad
    | none => False) ∨
  mad.method = PIB_MGMT_METHOD_SET ∧
    ∃ a, PmaSet.ofId mad.attr_id = some a ∧ a.Done node mad reply node'

/-- The answer of the agent, if there is one, is honest. -/
def PmaHonest (node : PmaNode) (mad : PmaMad) (port_num : Nat) (code : Code) : Prop :=
  ∀ depth r, pibProcessPmaMad code depth node port_num mad = some r →
    Honest (SendsReply code PIB_MGMT_CLASS_PERF_MGMT r.1.1) r.1.1 r.1.2.status
      (PmaServed node mad r.1.2 r.2)

/-- The requests with status 0 that are carried out, get a status or are never answered. -/
def PmaAnswered (node : PmaNode) (mad : PmaMad) (code : Code) : Prop :=
  mad.base_version ≠ 1 ∨ mad.class_version ≠ 1 ∨ mad.method = PIB_MGMT_METHOD_GET ∨
    mad.method = PIB_MGMT_METHOD_SET ∧ (∀ a, PmaSet.ofId mad.attr_id = some a →
      a ≠ .PORT_COUNTERS → a.Works node mad) ∨
    code = .easySw ∧ mad.method ∉ [PIB_MGMT_METHOD_SET, PIB_MGMT_METHOD_TRAP, PIB_MGMT_METHOD_GET_RESP]

section Pma

variable {node : PmaNode} {mad : PmaMad} {port_num : Nat} {code : Code} {sent carriedOut : Prop}

theorem honest_checked [Decidable served] {status : Nat}
    (h : status = if served then mad.status else PIB_PMA_STATUS_INVALID_ATTRIB_VALUE)
    (hs : served → carriedOut) : Honest sent pmaReply status carriedOut := by
  subst h
  split_ifs with hc
  · exact fun _ => ⟨fun h0 => absurd h0 (by decide), fun _ => hs hc⟩
  · exact honest_of_flag (by decide)

theorem pmaGetSelected_status (report : Perf → Nat → List UInt8) (node : PmaNode) (mad : PmaMad) :
    (pmaGetSelected report node mad).status =
      if node.Selects mad then mad.status else PIB_PMA_STATUS_INVALID_ATTRIB_VALUE := by
  unfold pmaGetSelected
  split_ifs <;> rfl

theorem pmaGetOwn_status (report : List UInt8) (mad : PmaMad) :
    (pmaGetOwn report mad).status =
      if mad.attr_mod = 0 then mad.status else PIB_PMA_STATUS_INVALID_ATTRIB_VALUE := by
  unfold pmaGetOwn
  by_cases h : mad.attr_mod = 0
  · rw [if_neg (not_not.2 h), if_pos h]
    rfl
  · rw [if_pos h, if_neg h]
    rfl

theorem pmaUnsupported_honest : Honest sent (pmaUnsupported code mad).1
    (pmaUnsupported code mad).2.status carriedOut := by
  have h : lowStatus PIB_PMA_STATUS_UNSUPPORTED_METHOD_ATTRIB ≠ 0 := by decide
  exact honest_of_flag h

theorem pma_get_honest (hm : mad.method = PIB_MGMT_METHOD_GET) (node' : PmaNode) :
    Honest sent (pmaGetMethod code node port_num mad).1 (pmaGetMethod code node port_num mad).2.status
      (PmaServed node mad (pmaGetMethod code node port_num mad).2 node') := by
  unfold PmaServed pmaGetMethod
  cases hattr : PmaAttr.ofId mad.attr_id with
  | none => exact pmaUnsupported_honest
  | some attr =>
    cases attr with
    | CLASS_PORT_INFO | PORT_SAMPLES_RESULT | PORT_SAMPLES_RESULT_EXT =>
      exact honest_checked (pmaGetOwn_status ..) fun h => Or.inl ⟨hm, h⟩
    | PORT_SAMPLES_CONTROL | PORT_COUNTERS | PORT_COUNTERS_EXT =>
      exact honest_checked (pmaGetSelected_status ..) fun h => Or.inl ⟨hm, h⟩

theorem honest_kept_iff (hs : sent) (hc : ¬carriedOut) :
    Honest sent ret mad.status carriedOut ↔ lowStatus mad.status ≠ 0 := by
  constructor
  · intro h h0
    exact hc ((h hs).2 h0)
  · exact honest_of_flag

/-- No result of the agent keeps a reply back. -/
theorem sends_pma : SendsReply code PIB_MGMT_CLASS_PERF_MGMT ret :=
  ⟨Nat.and_zero ret, fun _ h => absurd h (by decide)⟩

theorem pma_set_honest_iff (hm : mad.method = PIB_MGMT_METHOD_SET) :
    (∀ depth r, pmaSetMethod code depth node mad = some r →
      Honest (SendsReply code PIB_MGMT_CLASS_PERF_MGMT r.1.1) r.1.1 r.1.2.status
        (PmaServed node mad r.1.2 r.2)) ↔
      lowStatus mad.status ≠ 0 ∨ ∀ a, PmaSet.ofId mad.attr_id = some a →
        a ≠ .PORT_COUNTERS → a.Works node mad := by
  unfold pmaSetMethod
  cases hattr : PmaSet.ofId mad.attr_id with
  | none =>
    refine iff_of_true (fun depth r hr => ?_) (Or.inr nofun)
    obtain rfl := Option.some.inj hr
    exact pmaUnsupported_honest
  | some a =>
    simp only [Option.some.injEq, forall_eq']
    by_cases ha : a = .PORT_COUNTERS
    · subst ha
      simp [PmaSet.set, PmaSet.set_counters]
    obtain ⟨node', hset, hsel, hd⟩ := PmaSet.set_returns a ha node mad
    have hserved : PmaServed node mad (a.get node' mad) node' ↔ a.Works node mad := by
      rw [← hd]
      constructor
      · rintro (⟨h, -⟩ | ⟨-, a', ha', h⟩)
        · exact absurd (hm.symm.trans h) (by decide)
        · obtain rfl := Option.some.inj (hattr.symm.trans ha')
          exact h
      · exact fun h => Or.inr ⟨hm, a, hattr, h⟩
    have hstatus : (a.get node' mad).status =
        if node.Selects mad then mad.status else PIB_PMA_STATUS_INVALID_ATTRIB_VALUE := by
      simp only [← hsel]
      cases a <;> exact pmaGetSelected_status _ node' mad
    simp only [hset, Option.map_some, Option.some.injEq, forall_eq', forall_const]
    constructor
    · intro h
      by_contra hn
      obtain ⟨h0, hn⟩ := not_or.1 hn
      have hw : ¬a.Works node mad := fun hw => hn fun _ => hw
      have hs : node.Selects mad := by_contra fun hs => hw (PmaSet.works_of_refused ha hs)
      rw [hstatus, if_pos hs] at h
      exact hw (hserved.1 ((h sends_pma).2 (not_not.1 h0)))
    · rintro (h0 | hw)
      · rw [hstatus]
        split_ifs
        · exact honest_of_flag h0
        · exact honest_of_flag (by decide)
      · exact honest_checked hstatus fun _ => hserved.2 (hw ha)

theorem pmaHonest_iff (node : PmaNode) (mad : PmaMad) (port_num : Nat) (code : Code) :
    PmaHonest node mad port_num code ↔ lowStatus mad.status ≠ 0 ∨ PmaAnswered node mad code := by
  unfold PmaHonest pibProcessPmaMad PmaAnswered
  by_cases hv : mad.base_version ≠ 1 ∨ mad.class_version ≠ 1
  · refine iff_of_true (fun depth r hr => ?_) (by tauto)
    rw [if_pos hv] at hr
    obtain rfl := Option.some.inj hr
    have h : lowStatus PIB_PMA_STATUS_BAD_VERSION ≠ 0 := by decide
    exact honest_of_flag h
  simp only [if_neg hv]
  by_cases hget : mad.method = PIB_MGMT_METHOD_GET
  · refine iff_of_true (fun depth r hr => ?_) (by tauto)
    rw [if_pos hget] at hr
    obtain rfl := Option.some.inj hr
    exact pma_get_honest hget node
  simp only [if_neg hget]
  by_cases hset : mad.method = PIB_MGMT_METHOD_SET
  · simp only [if_pos hset]
    rw [pma_set_honest_iff hset]
    refine or_congr Iff.rfl ⟨fun h => Or.inr (Or.inr (Or.inr (Or.inl ⟨hset, h⟩))), ?_⟩
    rintro (h | h | h | ⟨-, h⟩ | ⟨-, h⟩)
    · exact absurd (Or.inl h) hv
    · exact absurd (Or.inr h) hv
    · exact absurd h hget
    · exact h
    · simp [hset] at h
  simp only [if_neg hset]
  have hc (reply : PmaMad) (node' : PmaNode) : ¬PmaServed node mad reply node' := by
    rintro (⟨h, -⟩ | ⟨h, -⟩)
    · exact hget h
    · exact hset h
  have hr : (mad.base_version ≠ 1 ∨ mad.class_version ≠ 1 ∨ mad.method = PIB_MGMT_METHOD_GET ∨
      mad.method = PIB_MGMT_METHOD_SET ∧ (∀ a, PmaSet.ofId mad.attr_id = some a →
        a ≠ .PORT_COUNTERS → a.Works node mad) ∨ code = .easySw ∧ mad.method ∉
          [PIB_MGMT_METHOD_SET, PIB_MGMT_METHOD_TRAP, PIB_MGMT_METHOD_GET_RESP]) ↔
      code = .easySw ∧ ¬(mad.method = PIB_MGMT_METHOD_TRAP ∨ mad.method = PIB_MGMT_METHOD_GET_RESP) := by
    simp only [List.mem_cons, List.not_mem_nil, or_false]
    tauto
  rw [hr]
  by_cases ht : mad.method = PIB_MGMT_METHOD_TRAP ∨ mad.method = PIB_MGMT_METHOD_GET_RESP
  · simp only [if_pos ht]
    simp only [ht, not_true_eq_false, and_false, or_false]
    cases code <;> simp only [Option.some.injEq, forall_eq', forall_const] <;>
      exact honest_kept_iff sends_pma (hc _ _)
  simp only [if_neg ht]
  simp only [ht, not_false_eq_true, and_true]
  cases code with
  | pibnetd =>
    simp only [Option.some.injEq, forall_eq', forall_const, reduceCtorEq, or_false]
    exact honest_kept_iff sends_pma (hc _ _)
  | easySw =>
    simp only [Option.some.injEq, forall_eq', forall_const, or_true, iff_true]
    have h : lowStatus PIB_PMA_STATUS_UNSUPPORTED_METHOD ≠ 0 := by decide
    exact honest_of_flag h

end Pma

/-! ## Both -/

/-- A Get(GUIDInfo) of a subnet manager. -/
def guidInfoGet : Smp where
  base_version := 1
  mgmt_class := PIB_MGMT_CLASS_SUBN_LID_ROUTED
  class_version := 1
  method := PIB_MGMT_METHOD_GET
  status := 0
  hop_ptr := 0
  hop_cnt := 0
  attr_id := 0x0014
  attr_mod := 0
  dr_slid := 0
  dr_dlid := 0
  data := List.replicate 64 1
  initial_path := []
  return_path := []

end pib
