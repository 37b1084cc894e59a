-- The performance management agent: `pib_mad_pma.c` for an HCA and the easy switch,
-- `perf.c` for `pibnetd`. Request and reply share one buffer, which the functions clear,
-- read and fill in an order of their own.
import Pib.EasySw

namespace pib

open Bytes Netd

/-! ## The counters -/

/-- The counters of `struct pib_port_perf`. -/
inductive Counter
  | symbol_error_counter | link_error_recovery_counter | link_downed_counter | rcv_errors
  | rcv_remphys_errors | rcv_switch_relay_errors | xmit_discards | xmit_constraint_errors
  | rcv_constraint_errors | local_link_integrity_errors | excessive_buffer_overrun_errors
  | vl15_dropped | xmit_data | rcv_data | xmit_packets | rcv_packets | xmit_wait
  | unicast_xmit_packets | unicast_rcv_packets | multicast_xmit_packets | multicast_rcv_packets
  deriving DecidableEq, Repr

/-- `struct pib_port_perf`. -/
structure Perf where
  OpCode : Nat := 0
  tag : Nat := 0
  counter_select : Nat → Nat := fun _ => 0
  counter : Nat → Nat := fun _ => 0
  count : Counter → Nat := fun _ => 0

/-- `struct pib_node`: an HCA counts its ports from 1, a switch from 0. -/
structure PmaNode where
  port_count : Nat
  port_start : Nat
  ports : Nat → Perf := fun _ => {}

/-- `struct pib_pma_mad`, as far as the agent looks at it. -/
structure PmaMad where
  base_version : Nat := 1
  class_version : Nat := 1
  method : Nat
  status : Nat := 0
  attr_id : Nat
  attr_mod : Nat := 0
  data : List UInt8
  deriving DecidableEq, Repr

/-- `PIB_PMA_STATUS_*`. They are stored without a change of their byte order. -/
def PIB_PMA_STATUS_BAD_VERSION : Nat := swap16 (0x1 * 2 ^ 2)
def PIB_PMA_STATUS_UNSUPPORTED_METHOD : Nat := swap16 (0x2 * 2 ^ 2)
def PIB_PMA_STATUS_UNSUPPORTED_METHOD_ATTRIB : Nat := swap16 (0x3 * 2 ^ 2)
def PIB_PMA_STATUS_INVALID_ATTRIB_VALUE : Nat := swap16 (0x7 * 2 ^ 2)

namespace PmaMad

def port_select (mad : PmaMad) : Nat := byteAt mad.data 1

/-- `data` with its 192 bytes. -/
def fill (mad : PmaMad) (l : List UInt8) : PmaMad :=
  { mad with data := (l ++ List.replicate 192 0).take 192 }

/-- The `memset` that all but the selected port is lost in. -/
def clear (mad : PmaMad) : PmaMad := mad.fill [0, UInt8.ofNat mad.port_select]

/-- `reply`, up to the result. -/
def respond (mad : PmaMad) : PmaMad := { mad with method := PIB_MGMT_METHOD_GET_RESP }

def refuse (mad : PmaMad) : PmaMad := { mad with status := PIB_PMA_STATUS_INVALID_ATTRIB_VALUE }

end PmaMad

/-- The two checks of a request that selects a port. -/
def PmaNode.Selects (node : PmaNode) (mad : PmaMad) : Prop :=
  mad.attr_mod = 0 ∧ node.port_start ≤ mad.port_select ∧ mad.port_select < node.port_count

instance (node : PmaNode) (mad : PmaMad) : Decidable (node.Selects mad) :=
  inferInstanceAs (Decidable (_ ∧ _ ∧ _))

namespace PmaNode

/-- The place of the selected port. -/
def place (node : PmaNode) (mad : PmaMad) : Nat := mad.port_select - node.port_start

def selected (node : PmaNode) (mad : PmaMad) : Perf := node.ports (node.place mad)

def setSelected (node : PmaNode) (mad : PmaMad) (perf : Perf) : PmaNode :=
  { node with ports := Function.update node.ports (node.place mad) perf }

end PmaNode

/-! ## Getting an attribute -/

/-- `get_saturation*`. -/
def saturation (bits value : Nat) : Nat := min value (2 ^ bits - 1)

/-- `PIB_PMA_PORT_SAMPLES_CONTROL` as it is reported. -/
def samplesControl (perf : Perf) (port_select : Nat) : List UInt8 :=
  [UInt8.ofNat perf.OpCode, UInt8.ofNat port_select, 1, 4] ++ be 4 0x09249249 ++ be 2 0x1249 ++
    [0, 0] ++ List.replicate 24 0 ++ be 2 perf.tag ++
    (List.range 15).flatMap fun i => be 2 (perf.counter_select i)

/-- `PIB_PMA_PORT_COUNTERS` as it is reported. -/
def portCounters (perf : Perf) (port_select : Nat) : List UInt8 :=
  let sat (bytes : Nat) (c : Counter) := be bytes (saturation (8 * bytes) (perf.count c))
  [0, UInt8.ofNat port_select, 0, 0] ++ sat 2 .symbol_error_counter ++
    sat 1 .link_error_recovery_counter ++ sat 1 .link_downed_counter ++ sat 2 .rcv_errors ++
    sat 2 .rcv_remphys_errors ++ sat 2 .rcv_switch_relay_errors ++ sat 2 .xmit_discards ++
    sat 1 .xmit_constraint_errors ++ sat 1 .rcv_constraint_errors ++
    [0, UInt8.ofNat (saturation 4 (perf.count .local_link_integrity_errors) * 2 ^ 4 |||
      saturation 4 (perf.count .excessive_buffer_overrun_errors)), 0, 0] ++
    sat 2 .vl15_dropped ++ sat 4 .xmit_data ++ sat 4 .rcv_data ++ sat 4 .xmit_packets ++
    sat 4 .rcv_packets ++ sat 4 .xmit_wait

/-- `PIB_PMA_PORT_COUNTERS_EXT` as it is reported. -/
def portCountersExt (perf : Perf) (port_select : Nat) : List UInt8 :=
  [0, UInt8.ofNat port_select, 0, 0, 0, 0, 0, 0] ++
    [Counter.xmit_data, .rcv_data, .xmit_packets, .rcv_packets, .unicast_xmit_packets,
      .unicast_rcv_packets, .multicast_xmit_packets, .multicast_rcv_packets].flatMap fun c =>
        be 8 (perf.count c)

/-- The getters of a selected port, which differ in what they report. -/
def pmaGetSelected (report : Perf → Nat → List UInt8) (node : PmaNode) (mad : PmaMad) : PmaMad :=
  if node.Selects mad then
    (mad.fill (report (node.selected mad) mad.port_select)).respond
  else mad.clear.refuse.respond

def pmaGetPortSamplesControl := pmaGetSelected samplesControl
def pmaGetPortCounters := pmaGetSelected portCounters
def pmaGetPortCountersExt := pmaGetSelected portCountersExt

/-- The getters that do not select a port. -/
def pmaGetOwn (report : List UInt8) (mad : PmaMad) : PmaMad :=
  if mad.attr_mod ≠ 0 then (mad.fill []).refuse.respond else (mad.fill report).respond

def pmaGetClassPortInfo := pmaGetOwn ([1, 1] ++ be 2 (2 ^ 9) ++ [0, 0, 0, 18])

def pmaGetPortSamplesResult (perf : Perf) :=
  pmaGetOwn (be 2 perf.tag ++ be 2 0 ++ (List.range 15).flatMap fun i => be 4 (perf.counter i))

def pmaGetPortSamplesResultExt (perf : Perf) :=
  pmaGetOwn (be 2 perf.tag ++ be 2 0 ++ be 4 0x80000000 ++
    (List.range 15).flatMap fun i => be 8 (perf.counter i))

/-! ## Setting an attribute -/

/-- A counter in a request: its bit in `counter_select`, and its bytes or the part of a
byte that it has. -/
structure PerfSlot where
  counter : Counter
  select : Nat
  offset : Nat
  bytes : Nat
  shift : Nat
  bits : Nat
  deriving DecidableEq, Repr

namespace PerfSlot

def Selected (s : PerfSlot) (data : List UInt8) : Prop := (halfAt data 2).testBit s.select = true

instance (s : PerfSlot) (data : List UInt8) : Decidable (s.Selected data) :=
  inferInstanceAs (Decidable (_ = true))

/-- The value in the request, in host order. -/
def value (s : PerfSlot) (data : List UInt8) : Nat :=
  ofBe ((data.drop s.offset).take s.bytes) / 2 ^ s.shift % 2 ^ s.bits

end PerfSlot

/-- The counters of Set(PortCounters), `PIB_PMA_SEL_*`. -/
def portCounterSlots : List PerfSlot :=
  [⟨.symbol_error_counter, 0, 4, 2, 0, 16⟩, ⟨.link_error_recovery_counter, 1, 6, 1, 0, 8⟩,
    ⟨.link_downed_counter, 2, 7, 1, 0, 8⟩, ⟨.rcv_errors, 3, 8, 2, 0, 16⟩,
    ⟨.rcv_remphys_errors, 4, 10, 2, 0, 16⟩, ⟨.rcv_switch_relay_errors, 5, 12, 2, 0, 16⟩,
    ⟨.xmit_discards, 6, 14, 2, 0, 16⟩, ⟨.xmit_constraint_errors, 7, 16, 1, 0, 8⟩,
    ⟨.rcv_constraint_errors, 8, 17, 1, 0, 8⟩, ⟨.local_link_integrity_errors, 9, 19, 1, 4, 4⟩,
    ⟨.excessive_buffer_overrun_errors, 10, 19, 1, 0, 4⟩, ⟨.vl15_dropped, 11, 22, 2, 0, 16⟩,
    ⟨.xmit_data, 12, 24, 4, 0, 32⟩, ⟨.rcv_data, 13, 28, 4, 0, 32⟩,
    ⟨.xmit_packets, 14, 32, 4, 0, 32⟩, ⟨.rcv_packets, 15, 36, 4, 0, 32⟩]

/-- The counters of Set(PortCountersExtended), `PIB_PMA_SELX_*`: those of all packets, and
those of unicast and multicast packets. -/
def dataSlots : List PerfSlot :=
  [⟨.xmit_data, 0, 8, 8, 0, 64⟩, ⟨.rcv_data, 1, 16, 8, 0, 64⟩, ⟨.xmit_packets, 2, 24, 8, 0, 64⟩,
    ⟨.rcv_packets, 3, 32, 8, 0, 64⟩]

def castSlots : List PerfSlot :=
  [⟨.unicast_xmit_packets, 4, 40, 8, 0, 64⟩, ⟨.unicast_rcv_packets, 5, 48, 8, 0, 64⟩,
    ⟨.multicast_xmit_packets, 6, 56, 8, 0, 64⟩, ⟨.multicast_rcv_packets, 7, 64, 8, 0, 64⟩]

/-- The assignments to the counters of a port, one `if` after the other. -/
def Perf.store (perf : Perf) (data : List UInt8) (slots : List PerfSlot) : Perf :=
  slots.foldl (fun perf s => if s.Selected data then
    { perf with count := Function.update perf.count s.counter (s.value data) } else perf) perf

/-- The assignments to the buffer in place of the counters. -/
def zeroSlots (data : List UInt8) (slots : List PerfSlot) : List UInt8 :=
  slots.foldl (fun d s => if s.Selected data then
    d.take s.offset ++ List.replicate s.bytes 0 ++ d.drop (s.offset + s.bytes) else d) data

/-- `pma_set_port_samples_control`. The buffer is cleared before it is read. -/
def pmaSetPortSamplesControl (node : PmaNode) (mad : PmaMad) : PmaMad × PmaNode :=
  let mad := mad.clear
  if node.Selects mad then
    let perf := node.selected mad
    let node := node.setSelected mad { perf with
      OpCode := byteAt mad.data 0
      tag := halfAt mad.data 36
      counter_select := fun i => if i < 15 then halfAt mad.data (38 + 2 * i) else perf.counter_select i }
    (pmaGetPortSamplesControl node mad, node)
  else (pmaGetPortSamplesControl node mad.refuse, node)

/-- `pma_set_port_counters`, down to a depth of calls: it ends in a call of itself where
the others call their getter. -/
def pmaSetPortCounters : Nat → PmaNode → PmaMad → Option (PmaMad × PmaNode)
  | 0, _, _ => none
  | depth + 1, node, mad =>
    let mad := mad.clear
    if node.Selects mad then
      let node := node.setSelected mad ((node.selected mad).store mad.data portCounterSlots)
      pmaSetPortCounters depth node mad
    else pmaSetPortCounters depth node mad.refuse

/-- `pma_set_port_counters_ext`. The counters of unicast and multicast packets are set in
the buffer and not in the port. -/
def pmaSetPortCountersExt (node : PmaNode) (mad : PmaMad) : PmaMad × PmaNode :=
  if node.Selects mad then
    let node := node.setSelected mad ((node.selected mad).store mad.data dataSlots)
    (pmaGetPortCountersExt node { mad with data := zeroSlots mad.data castSlots }, node)
  else (pmaGetPortCountersExt node mad.refuse, node)

/-- The attributes that can be set. -/
inductive PmaSet
  | PORT_SAMPLES_CONTROL | PORT_COUNTERS | PORT_COUNTERS_EXT
  deriving DecidableEq, Repr

namespace PmaSet

/-- The setters, down to a depth of calls. -/
def set (depth : Nat) (node : PmaNode) (mad : PmaMad) : PmaSet → Option (PmaMad × PmaNode)
  | PORT_SAMPLES_CONTROL => some (pmaSetPortSamplesControl node mad)
  | PORT_COUNTERS => pmaSetPortCounters depth node mad
  | PORT_COUNTERS_EXT => some (pmaSetPortCountersExt node mad)

def get : PmaSet → PmaNode → PmaMad → PmaMad
  | PORT_SAMPLES_CONTROL => pmaGetPortSamplesControl
  | PORT_COUNTERS => pmaGetPortCounters
  | PORT_COUNTERS_EXT => pmaGetPortCountersExt

def ofId : Nat → Option PmaSet
  | 0x0010 => some PORT_SAMPLES_CONTROL
  | 0x0012 => some PORT_COUNTERS
  | 0x001D => some PORT_COUNTERS_EXT
  | _ => none

end PmaSet

/-! ## The agent -/

/-- An attribute that is not known: `pibnetd` calls it a failure. -/
def pmaUnsupported (code : Code) (mad : PmaMad) : Nat × PmaMad :=
  let mad := { mad with status := PIB_PMA_STATUS_UNSUPPORTED_METHOD_ATTRIB }
  (match code with
    | .pibnetd => pmaFailure
    | .easySw => pmaReply, mad.respond)

/-- `pma_get_method`. -/
def pmaGetMethod (code : Code) (node : PmaNode) (port_num : Nat) (mad : PmaMad) : Nat × PmaMad :=
  let own := node.ports (port_num - node.port_start)
  match PmaAttr.ofId mad.attr_id with
  | some .CLASS_PORT_INFO => (pmaReply, pmaGetClassPortInfo mad)
  | some .PORT_SAMPLES_CONTROL => (pmaReply, pmaGetPortSamplesControl node mad)
  | some .PORT_SAMPLES_RESULT => (pmaReply, pmaGetPortSamplesResult own mad)
  | some .PORT_SAMPLES_RESULT_EXT => (pmaReply, pmaGetPortSamplesResultExt own mad)
  | some .PORT_COUNTERS => (pmaReply, pmaGetPortCounters node mad)
  | some .PORT_COUNTERS_EXT => (pmaReply, pmaGetPortCountersExt node mad)
  | none => pmaUnsupported code mad

/-- `pma_set_method`, down to a depth of calls. -/
def pmaSetMethod (code : Code) (depth : Nat) (node : PmaNode) (mad : PmaMad) :
    Option ((Nat × PmaMad) × PmaNode) :=
  match PmaSet.ofId mad.attr_id with
  | some a => (a.set depth node mad).map fun r => ((pmaReply, r.1), r.2)
  | none => some (pmaUnsupported code mad, node)

/-- `pib_process_pma_mad`. -/
def pibProcessPmaMad (code : Code) (depth : Nat) (node : PmaNode) (port_num : Nat) (mad : PmaMad) :
    Option ((Nat × PmaMad) × PmaNode) :=
  if mad.base_version ≠ 1 ∨ mad.class_version ≠ 1 then
    some ((pmaReply, { mad with status := PIB_PMA_STATUS_BAD_VERSION }.respond), node)
  else if mad.method = PIB_MGMT_METHOD_GET then some (pmaGetMethod code node port_num mad, node)
  else if mad.method = PIB_MGMT_METHOD_SET then pmaSetMethod code depth node mad
  else if mad.method = PIB_MGMT_METHOD_TRAP ∨ mad.method = PIB_MGMT_METHOD_GET_RESP then
    match code with
    | .pibnetd => some ((pmaReply, mad.respond), node)
    | .easySw => some ((PIB_MAD_RESULT_SUCCESS, mad), node)
  else
    match code with
    | .pibnetd => some ((pmaFailure, mad.respond), node)
    | .easySw =>
      some ((pmaReply, { mad with status := PIB_PMA_STATUS_UNSUPPORTED_METHOD }.respond), node)

namespace PmaSet

/-! ## What a Set must do -/

/-- The counters that a Set can select. -/
def slots : PmaSet → List PerfSlot
  | PORT_SAMPLES_CONTROL => []
  | PORT_COUNTERS => portCounterSlots
  | PORT_COUNTERS_EXT => dataSlots ++ castSlots

/-- The fields of the sample control as they are supplied. -/
def Controls (perf : Perf) (data : List UInt8) : Prop :=
  perf.OpCode = byteAt data 0 ∧ perf.tag = halfAt data 36 ∧
    ∀ i < 15, perf.counter_select i = halfAt data (38 + 2 * i)

/-- A Set is carried out: what is selected has the supplied value, everything else stays,
a request that is refused changes nothing, and the reply is the one of a Get. -/
structure Done (a : PmaSet) (node : PmaNode) (mad reply : PmaMad) (node' : PmaNode) : Prop where
  stored : node.Selects mad → ∀ s ∈ a.slots, s.Selected mad.data →
    (node'.selected mad).count s.counter = s.value mad.data
  kept : ∀ c, (∀ s ∈ a.slots, s.Selected mad.data → s.counter ≠ c) →
    (node'.selected mad).count c = (node.selected mad).count c
  control : node.Selects mad → a = PORT_SAMPLES_CONTROL → Controls (node'.selected mad) mad.data
  others : ∀ i, i ≠ node.place mad → node'.ports i = node.ports i
  refused : ¬node.Selects mad → node' = node ∧ reply.status = PIB_PMA_STATUS_INVALID_ATTRIB_VALUE
  answered : reply = a.get node' mad

/-- A request that the code carries out. -/
def Works (node : PmaNode) (mad : PmaMad) : PmaSet → Prop
  | PORT_SAMPLES_CONTROL => node.Selects mad → Controls {} mad.data
  | PORT_COUNTERS => False
  | PORT_COUNTERS_EXT => node.Selects mad → ∀ s ∈ castSlots, s.Selected mad.data →
      s.value mad.data = (node.selected mad).count s.counter

end PmaSet

/-! ## Storing -/

theorem store_cons (perf : Perf) (data : List UInt8) (t : PerfSlot) (slots : List PerfSlot) :
    perf.store data (t :: slots) = Perf.store (if t.Selected data then
      { perf with count := Function.update perf.count t.counter (t.value data) } else perf)
      data slots := rfl

theorem store_kept (perf : Perf) (data : List UInt8) {slots : List PerfSlot} {c : Counter}
    (h : ∀ s ∈ slots, s.Selected data → s.counter ≠ c) :
    (perf.store data slots).count c = perf.count c := by
  induction slots generalizing perf with
  | nil => rfl
  | cons t slots ih =>
    rw [store_cons, ih _ fun s hs => h s (by simp [hs])]
    split_ifs with ht
    · exact Function.update_of_ne (h t (by simp) ht).symm ..
    · rfl

theorem store_selected (perf : Perf) (data : List UInt8) {slots : List PerfSlot}
    (h : (slots.map PerfSlot.counter).Nodup) {s : PerfSlot} (hs : s ∈ slots) (hd : s.Selected data) :
    (perf.store data slots).count s.counter = s.value data := by
  induction slots generalizing perf with
  | nil => cases hs
  | cons t slots ih =>
    rw [List.map_cons, List.nodup_cons] at h
    rw [store_cons]
    rcases List.mem_cons.1 hs with rfl | hs
    · rw [if_pos hd, store_kept _ data fun x hx _ hc => h.1 (List.mem_map.2 ⟨x, hx, hc⟩)]
      exact Function.update_self ..
    · exact ih _ h.2 hs

/-! ## The buffer -/

theorem ofBe_zeros (n : Nat) : ofBe (List.replicate n 0) = 0 := by
  rw [ofBe, List.reverse_replicate]
  induction n with
  | zero => rfl
  | succ n ih => simpa [List.replicate_succ, ofLe] using ih

theorem clear_data (mad : PmaMad) :
    mad.clear.data = 0 :: UInt8.ofNat mad.port_select :: List.replicate 190 0 := by
  rw [PmaMad.clear, PmaMad.fill, List.cons_append, List.cons_append, List.nil_append,
    List.take_succ_cons, List.take_succ_cons, List.take_replicate]
  rfl

theorem port_select_clear (mad : PmaMad) : mad.clear.port_select = mad.port_select := by
  rw [PmaMad.port_select, clear_data, byteAt]
  exact UInt8.toNat_ofNat_of_lt (byteAt_lt mad.data 1)

theorem halfAt_clear (mad : PmaMad) (i : Nat) : halfAt mad.clear.data (i + 2) = 0 := by
  rw [halfAt, clear_data, List.drop_succ_cons, List.drop_succ_cons, List.drop_replicate,
    List.take_replicate, ofBe_zeros]

theorem selects_congr {node : PmaNode} {mad mad' : PmaMad} (hm : mad'.attr_mod = mad.attr_mod)
    (hp : mad'.port_select = mad.port_select) : node.Selects mad' ↔ node.Selects mad := by
  rw [PmaNode.Selects, hm, hp]
  rfl

theorem selected_setSelected (node : PmaNode) (mad : PmaMad) (perf : Perf) :
    (node.setSelected mad perf).selected mad = perf := Function.update_self ..

/-- A getter only looks at the header and the selected port. -/
theorem pmaGetSelected_congr (report : Perf → Nat → List UInt8) (node : PmaNode) {mad : PmaMad}
    {data : List UInt8} (hp : byteAt data 1 = byteAt mad.data 1) :
    pmaGetSelected report node { mad with data } = pmaGetSelected report node mad := by
  have hps : PmaMad.port_select { mad with data } = mad.port_select := hp
  have hs : node.Selects { mad with data } ↔ node.Selects mad := selects_congr rfl hps
  have hsel : node.selected { mad with data } = node.selected mad := by
    rw [PmaNode.selected, PmaNode.place, hps]
    rfl
  simp only [pmaGetSelected, hs, hsel, PmaMad.fill, PmaMad.clear, hps]

theorem pmaGetSelected_refuse (report : Perf → Nat → List UInt8) {node : PmaNode} {mad : PmaMad}
    (h : ¬node.Selects mad) :
    pmaGetSelected report node mad.refuse = pmaGetSelected report node mad := by
  have h' : ¬node.Selects mad.refuse := h
  rw [pmaGetSelected, if_neg h', pmaGetSelected, if_neg h]
  rfl

theorem byteAt_zero {d : List UInt8} {off n i : Nat} (h : i < off) :
    byteAt (d.take off ++ List.replicate n 0 ++ d.drop (off + n)) i = byteAt d i := by
  unfold byteAt
  rw [List.append_assoc]
  rcases lt_or_ge i d.length with hi | hi
  · rw [List.getD_append _ _ _ _ (by rw [List.length_take]; omega), List.getD_eq_getElem?_getD,
      List.getElem?_take_of_lt h, ← List.getD_eq_getElem?_getD]
  rw [List.take_of_length_le (by omega), List.drop_of_length_le (by omega), List.append_nil,
    List.getD_append_right _ _ _ _ hi, List.getD_eq_default d _ hi]
  rcases lt_or_ge (i - d.length) n with hn | hn
  · rw [List.getD_replicate _ hn]
  · rw [List.getD_eq_default _ _ (by simpa using hn)]

theorem port_select_zeroSlots (data : List UInt8) :
    byteAt (zeroSlots data castSlots) 1 = byteAt data 1 := by
  have h (slots : List PerfSlot) (d : List UInt8) (hs : ∀ s ∈ slots, 1 < s.offset) :
      byteAt (slots.foldl (fun d s => if s.Selected data then
        d.take s.offset ++ List.replicate s.bytes 0 ++ d.drop (s.offset + s.bytes) else d) d) 1 =
        byteAt d 1 := by
    induction slots generalizing d with
    | nil => rfl
    | cons t slots ih =>
      rw [List.foldl_cons, ih _ fun s hx => hs s (by simp [hx])]
      split_ifs
      · exact byteAt_zero (hs t (by simp))
      · rfl
  exact h castSlots data (by decide)

/-! ## The three setters -/

namespace PmaSet

variable {node : PmaNode} {mad : PmaMad}

theorem set_counters (depth : Nat) (node : PmaNode) (mad : PmaMad) :
    pmaSetPortCounters depth node mad = none := by
  induction depth generalizing node mad with
  | zero => rfl
  | succ depth ih =>
    rw [pmaSetPortCounters]
    dsimp only
    split_ifs
    · exact ih _ _
    · exact ih _ _

theorem done_refused (a : PmaSet) (h : ¬node.Selects mad) :
    a.Done node mad (a.get node mad) node where
  stored hs := absurd hs h
  kept _ _ := rfl
  control hs := absurd hs h
  others _ _ := rfl
  refused _ := by
    refine ⟨rfl, ?_⟩
    cases a <;> exact congrArg PmaMad.status (if_neg h)
  answered := rfl

theorem done_iff (a : PmaSet) (h : node.Selects mad) (perf : Perf) :
    a.Done node mad (a.get (node.setSelected mad perf) mad) (node.setSelected mad perf) ↔
      (∀ s ∈ a.slots, s.Selected mad.data → perf.count s.counter = s.value mad.data) ∧
      (∀ c, (∀ s ∈ a.slots, s.Selected mad.data → s.counter ≠ c) →
        perf.count c = (node.selected mad).count c) ∧
      (a = PORT_SAMPLES_CONTROL → Controls perf mad.data) := by
  have hp := selected_setSelected node mad perf
  constructor
  · rintro ⟨h1, h2, h3, -, -, -⟩
    rw [hp] at h1 h2 h3
    exact ⟨h1 h, h2, h3 h⟩
  · rintro ⟨h1, h2, h3⟩
    exact
      { stored := fun _ => by rw [hp]; exact h1
        kept := by rw [hp]; exact h2
        control := fun _ => by rw [hp]; exact h3
        others := fun i hi => Function.update_of_ne hi ..
        refused := fun hn => absurd h hn
        answered := rfl }

/-- The sample control is read from the cleared buffer. -/
theorem set_samples (node : PmaNode) (mad : PmaMad) :
    pmaSetPortSamplesControl node mad =
      if node.Selects mad then
        let node' := node.setSelected mad { node.selected mad with
          OpCode := 0
          tag := 0
          counter_select := fun i => if i < 15 then 0 else (node.selected mad).counter_select i }
        (pmaGetPortSamplesControl node' mad, node')
      else (pmaGetPortSamplesControl node mad, node) := by
  have hps := port_select_clear mad
  have hg (node : PmaNode) : pmaGetPortSamplesControl node mad.clear = pmaGetPortSamplesControl node mad :=
    pmaGetSelected_congr _ node hps
  have hs : node.Selects mad.clear ↔ node.Selects mad := selects_congr rfl hps
  have hpl : node.place mad.clear = node.place mad := by rw [PmaNode.place, hps]; rfl
  have h0 : byteAt mad.clear.data 0 = 0 := by rw [clear_data]; rfl
  have h2 (i : Nat) : halfAt mad.clear.data (38 + 2 * i) = 0 := by
    rw [show 38 + 2 * i = 36 + 2 * i + 2 by omega]
    exact halfAt_clear mad _
  unfold pmaSetPortSamplesControl
  dsimp only
  by_cases h : node.Selects mad
  · rw [if_pos h, if_pos (hs.2 h), hg, h0, show halfAt mad.clear.data 36 = 0 from halfAt_clear mad 34]
    simp only [h2, PmaNode.setSelected, PmaNode.selected, hpl]
  · rw [if_neg h, if_neg (mt hs.1 h)]
    exact congrArg (·, node) ((pmaGetSelected_refuse _ (mt hs.1 h)).trans (hg node))

theorem set_ext (node : PmaNode) (mad : PmaMad) :
    pmaSetPortCountersExt node mad =
      if node.Selects mad then
        let node' := node.setSelected mad ((node.selected mad).store mad.data dataSlots)
        (pmaGetPortCountersExt node' mad, node')
      else (pmaGetPortCountersExt node mad, node) := by
  unfold pmaSetPortCountersExt
  split_ifs with h
  · exact congrArg (·, _) (pmaGetSelected_congr _ _ (port_select_zeroSlots mad.data))
  · exact congrArg (·, node) (pmaGetSelected_refuse _ h)

theorem ext_done_iff (h : node.Selects mad) :
    (∀ s ∈ PORT_COUNTERS_EXT.slots, s.Selected mad.data →
        ((node.selected mad).store mad.data dataSlots).count s.counter = s.value mad.data) ↔
      Works node mad PORT_COUNTERS_EXT := by
  have hc : ∀ s ∈ castSlots, ((node.selected mad).store mad.data dataSlots).count s.counter =
      (node.selected mad).count s.counter := by
    have hn : ∀ s ∈ castSlots, ∀ t ∈ dataSlots, t.counter ≠ s.counter := by decide
    intro s hs
    exact store_kept _ _ fun t ht _ => hn s hs t ht
  have hd : ∀ s ∈ dataSlots, s.Selected mad.data →
      ((node.selected mad).store mad.data dataSlots).count s.counter = s.value mad.data :=
    fun s hs hsel => store_selected _ _ (by decide) hs hsel
  rw [slots, List.forall_mem_append, and_iff_right hd, Works, forall_prop_of_true h]
  refine forall₂_congr fun s hs => ?_
  rw [hc s hs, eq_comm]

theorem works_of_refused {a : PmaSet} (ha : a ≠ PORT_COUNTERS) (h : ¬node.Selects mad) :
    a.Works node mad := by
  cases a with
  | PORT_COUNTERS => exact absurd rfl ha
  | PORT_SAMPLES_CONTROL | PORT_COUNTERS_EXT => exact fun hs => absurd hs h

/-- A setter that returns answers as its getter does. -/
theorem set_returns (a : PmaSet) (ha : a ≠ PORT_COUNTERS) (node : PmaNode) (mad : PmaMad) :
    ∃ node', (∀ depth, a.set depth node mad = some (a.get node' mad, node')) ∧
      (node'.Selects mad ↔ node.Selects mad) ∧
      (a.Done node mad (a.get node' mad) node' ↔ a.Works node mad) := by
  by_cases h : node.Selects mad
  · cases a with
    | PORT_COUNTERS => exact absurd rfl ha
    | PORT_SAMPLES_CONTROL =>
      refine ⟨_, fun _ => congrArg some ((set_samples node mad).trans (if_pos h)), Iff.rfl, ?_⟩
      refine (done_iff _ h _).trans ?_
      simp only [slots, List.not_mem_nil, false_imp_iff, implies_true, true_and, true_imp_iff, Works, h]
      refine and_congr Iff.rfl (and_congr Iff.rfl (forall₂_congr fun i hi => ?_))
      dsimp only
      rw [if_pos hi]
    | PORT_COUNTERS_EXT =>
      refine ⟨_, fun _ => congrArg some ((set_ext node mad).trans (if_pos h)), Iff.rfl, ?_⟩
      refine (done_iff _ h _).trans ?_
      rw [ext_done_iff h]
      refine and_iff_left ⟨fun c hc => store_kept _ _ fun s hs => hc s ?_, nofun⟩
      exact List.mem_append_left _ hs
  · refine ⟨node, fun _ => ?_, Iff.rfl, iff_of_true (done_refused a h) (works_of_refused ha h)⟩
    cases a with
    | PORT_COUNTERS => exact absurd rfl ha
    | PORT_SAMPLES_CONTROL => exact congrArg some ((set_samples node mad).trans (if_neg h))
    | PORT_COUNTERS_EXT => exact congrArg some ((set_ext node mad).trans (if_neg h))

/-- A Set terminates and is carried out. -/
def Succeeds (a : PmaSet) (node : PmaNode) (mad : PmaMad) : Prop :=
  ∃ depth reply node', a.set depth node mad = some (reply, node') ∧ a.Done node mad reply node'

theorem pma_set_iff (a : PmaSet) (node : PmaNode) (mad : PmaMad) :
    a.Succeeds node mad ↔ a.Works node mad := by
  by_cases ha : a = PORT_COUNTERS
  · subst ha
    simp [Succeeds, set, set_counters, Works]
  obtain ⟨node', hset, -, hd⟩ := set_returns a ha node mad
  constructor
  · rintro ⟨depth, reply, node'', hr, hdone⟩
    rw [hset depth, Option.some.injEq, Prod.mk.injEq] at hr
    obtain ⟨rfl, rfl⟩ := hr
    exact hd.1 hdone
  · intro hw
    exact ⟨0, _, node', hset 0, hd.2 hw⟩

/-- A Set at port 1 of a switch, with all bits of `counter_select` and every other byte
of the data a one. -/
def allOnes (attr_id : Nat) : PmaMad :=
  { method := PIB_MGMT_METHOD_SET, attr_id, data := [1, 1, 255, 255] ++ List.replicate 188 1 }

/-- A Set(PortCounters) does not come back at any depth. Of a Set(PortSamplesControl)
nothing is stored, and of a Set(PortCountersExtended) no counter of unicast packets. -/
theorem pma_set_lost :
    (∀ depth, PORT_COUNTERS.set depth { port_count := 3, port_start := 0 } (allOnes 0x12) = none) ∧
    ¬ PORT_SAMPLES_CONTROL.Succeeds { port_count := 3, port_start := 0 } (allOnes 0x10) ∧
    ¬ PORT_COUNTERS_EXT.Succeeds { port_count := 3, port_start := 0 } (allOnes 0x1D) := by
  refine ⟨fun depth => set_counters depth _ _, ?_, ?_⟩
  · rintro ⟨depth, reply, node', h, hd⟩
    cases h
    exact absurd (hd.control (by decide) rfl).1 (by decide)
  · rintro ⟨depth, reply, node', h, hd⟩
    cases h
    exact absurd (hd.stored (by decide) ⟨.unicast_xmit_packets, 4, 40, 8, 0, 64⟩ (by decide) (by decide))
      (by decide)

end PmaSet

end pib
