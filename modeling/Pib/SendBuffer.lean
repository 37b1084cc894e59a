-- One send buffer serves all queue pairs of a device. Which packets depend on
-- what it held before: none but the datagrams to queue pair 0, whose LIDs are
-- corrected by a management packet that is not there yet.
import Pib.WireFormat

namespace pib

open Bytes

/-! ## The bytes of a packet -/

namespace Outgoing

/-- What the verbs layer promises of the memory behind a request. -/
def Pinned : Outgoing → Prop
  | request n _ => n.pd.Pinned
  | acknowledge n => n.pd.Pinned
  | cnp _ => True
  | datagram n _ _ => n.pd.Pinned

/-- The headers and the payload in the send buffer, when it is ready to be
sent. Padding and ICRC are left out. -/
def bytes (cfg : Config) (ports : Nat → Port) (o : Outgoing) (buf : Mem) : Option (List UInt8) :=
  (o.compose cfg ports buf).map fun buf =>
    read buf 0 (o.headerLength cfg + o.extension.length + o.payloadLength)

/-- The packet does not depend on what the send buffer held before. -/
def Independent (cfg : Config) (ports : Nat → Port) (o : Outgoing) : Prop :=
  ∀ buf₁ buf₂, o.bytes cfg ports buf₁ = o.bytes cfg ports buf₂

variable {cfg : Config} {ports : Nat → Port} {o : Outgoing}

/-- Nothing of the old payload is left. -/
theorem packet_pinned (h : o.Pinned) (buf : Mem) (b₁ b₂ : List UInt8) :
    o.packet cfg ports buf b₁ = o.packet cfg ports buf b₂ := by
  cases o with
  | request n w =>
    have hoff : mrOffset n.qp w < 2 ^ 32 := Nat.mod_lt _ (by decide)
    have hdata : dataBody n w b₁ = dataBody n w b₂ := by
      unfold dataBody
      rw [payloadBytes_pinned h hoff b₁ b₂]
    have hbody : requestBody n w b₁ = requestBody n w b₂ := by
      unfold requestBody
      rw [hdata]
    show requestPacket ports n w b₁ = requestPacket ports n w b₂
    unfold requestPacket
    rw [hbody]
  | acknowledge n =>
    have hread : ∀ ack, readBytes n ack b₁ = readBytes n ack b₂ :=
      fun ack => readBytes_pinned h ack b₁ b₂
    show acknowledgePacket ports n b₁ = acknowledgePacket ports n b₂
    unfold acknowledgePacket
    simp only [hread]
  | cnp q => rfl
  | datagram n qp_num w =>
    have hdata := @payloadBytes_pinned n.pd n.mem w 0 w.total_length h (by decide) b₁ b₂
    show datagramPacket cfg ports n qp_num w buf b₁ = datagramPacket cfg ports n qp_num w buf b₂
    unfold datagramPacket
    rw [hdata]

theorem sends_pinned (h : o.Pinned) (buf : Mem) (buffer : List UInt8) :
    SendsPacket (o.compose cfg ports buf) (o.packet cfg ports buf buffer) := by
  obtain ⟨b, hsends⟩ := compose_sends cfg ports buf o
  rwa [packet_pinned h buf b buffer] at hsends

/-- The bytes in the send buffer are those of the packet. -/
theorem bytes_eq (ht : o.Typed ports) (hp : o.Pinned) (buf : Mem) (buffer : List UInt8) :
    o.bytes cfg ports buf = (o.packet cfg ports buf buffer).map WirePacket.encode := by
  have hsends := @sends_pinned cfg ports o hp buf buffer
  unfold bytes
  generalize hpacket : o.packet cfg ports buf buffer = p at hsends ⊢
  generalize o.compose cfg ports buf = c at hsends ⊢
  cases hsends with
  | nothing => rfl
  | @packet buf' x hframed =>
    obtain ⟨y, solicited, hs⟩ := packet_sends ht hpacket
    obtain ⟨data, hbody, hdata⟩ := hs.body
    have hlen : o.headerLength cfg + o.extension.length + o.payloadLength = x.encode.length := by
      rw [x.length_encode, hs.finish, ← hs.header, ← hdata, Nat.add_assoc, ← List.length_append,
        ← hbody]
      rfl
    rw [Option.map_some, Option.map_some, hlen]
    exact congrArg some hframed.holds

end Outgoing

/-! ## Datagrams to queue pair 0 -/

/-- The payload is a management packet on a directed route with the permissive
LID at this offset. -/
def smpDemands (data : List UInt8) (offset : Nat) : Prop :=
  data[1]? = some 0x81 ∧ (data.drop offset).take 2 = be 2 IB_LID_PERMISSIVE

instance (data : List UInt8) (offset : Nat) : Decidable (smpDemands data offset) := by
  unfold smpDemands
  infer_instance

namespace Outgoing

/-- The LIDs of a datagram to queue pair 0 are those that the management packet
in it demands, whatever was in the send buffer. -/
def FollowsSmp (cfg : Config) (ports : Nat → Port) : Outgoing → Prop
  | datagram n qp_num w => ∀ buf buf' ah, sentDatagram cfg ports n qp_num w buf = some buf' →
      udRoute cfg n w = some ah → w.wr.ud.remote_qpn = PIB_QP0 →
      let smp := read buf' (udPayloadOffset w ah.attr) w.total_length
      read buf' 4 2 = be 2 (if smpDemands smp 32 then IB_LID_PERMISSIVE
        else (ports ah.attr.port_num).lid) ∧
      read buf' 0 2 = be 2 (if smpDemands smp 34 then IB_LID_PERMISSIVE else ah.attr.dlid)
  | _ => True

/-- Where the correction cannot do harm: a datagram to queue pair 0 that has a
GRH, or whose management packet demands the permissive LID, has that LID
already. -/
def Undisturbed (cfg : Config) (ports : Nat → Port) : Outgoing → Prop
  | datagram n _ w => ∀ ah data, udRoute cfg n w = some ah → w.processing.all_packets = 1 →
      gathered (payloadBytes n.pd n.mem w 0 w.total_length []) = some data →
      w.wr.ud.remote_qpn = PIB_QP0 →
      (ah.attr.grh = true ∨ smpDemands data 32 → (ports ah.attr.port_num).lid = IB_LID_PERMISSIVE) ∧
      (ah.attr.grh = true ∨ smpDemands data 34 → ah.attr.dlid = IB_LID_PERMISSIVE)
  | _ => True

section Datagram

variable {cfg : Config} {ports : Nat → Port} {n : UdNode} {qp_num : Nat} {w : SendWqe} {ah : Ah}
  {data : List UInt8}

/-- The packet of a datagram that can be sent. -/
theorem datagramPacket_eq (hroute : udRoute cfg n w = some ah) (hall : w.processing.all_packets = 1)
    (hdata : gathered (payloadBytes n.pd n.mem w 0 w.total_length []) = some data) (buf : Mem) :
    (datagram n qp_num w).packet cfg ports buf [] =
      some ((udHead ports n.qp w ah.attr buf (deth n.qp qp_num w ++ udWord w ++ data)).finish
        w.send_flags.SOLICITED) := by
  show datagramPacket cfg ports n qp_num w buf [] = _
  unfold datagramPacket
  simp only [hroute]
  rw [if_neg (not_not.mpr hall), hdata, Option.map_some]

/-- What is in the send buffer of a datagram that has been composed. -/
theorem sentDatagram_framed (hp : n.pd.Pinned) {buf buf' : Mem}
    (h : sentDatagram cfg ports n qp_num w buf = some buf') (hroute : udRoute cfg n w = some ah) :
    ∃ data, w.processing.all_packets = 1 ∧
      gathered (payloadBytes n.pd n.mem w 0 w.total_length []) = some data ∧
      Framed buf' ((udHead ports n.qp w ah.attr buf (deth n.qp qp_num w ++ udWord w ++ data)).finish
        w.send_flags.SOLICITED) := by
  have hsends : SendsPacket (sentDatagram cfg ports n qp_num w buf) (datagramPacket ..) :=
    @sends_pinned cfg ports (datagram n qp_num w) hp buf []
  rw [h] at hsends
  unfold datagramPacket at hsends
  simp only [hroute] at hsends
  by_cases hall : w.processing.all_packets = 1
  · rw [if_neg (not_not.mpr hall)] at hsends
    cases hg : gathered (payloadBytes n.pd n.mem w 0 w.total_length []) with
    | none =>
      rw [hg] at hsends
      nomatch hsends
    | some data =>
      rw [hg] at hsends
      cases hsends with
      | packet hframed => exact ⟨data, hall, rfl, hframed⟩
  · rw [if_pos hall] at hsends
    nomatch hsends

/-- With the permissive LIDs in place already, the old buffer does not matter. -/
theorem udHead_eq (hs : w.wr.ud.remote_qpn = PIB_QP0 → ah.attr.grh = true →
      (ports ah.attr.port_num).lid = IB_LID_PERMISSIVE ∧ ah.attr.dlid = IB_LID_PERMISSIVE)
    (buf : Mem) (body : List UInt8) :
    udHead ports n.qp w ah.attr buf body = udRouteHead ports n.qp w ah.attr body := by
  have hslid : (if smpCorrected w ah.attr buf 32 then IB_LID_PERMISSIVE
      else (ports ah.attr.port_num).lid) = (ports ah.attr.port_num).lid := by
    split
    · rename_i hc
      exact (hs hc.1 hc.2.1).1.symm
    · rfl
  have hdlid : (if smpCorrected w ah.attr buf 34 then IB_LID_PERMISSIVE else ah.attr.dlid) =
      ah.attr.dlid := by
    split
    · rename_i hc
      exact (hs hc.1 hc.2.1).2.symm
    · rfl
  unfold udHead
  rw [hslid, hdlid]
  rfl

/-- A buffer that looks like a management packet on a directed route with both
LIDs permissive. -/
def directedBuffer (smp : Nat) : Mem := fun y => if y = smp + 1 then 0x81 else 0xFF

theorem directedBuffer_permissive (smp : Nat) {offset : Nat} (h : 2 ≤ offset) :
    directedPermissive (directedBuffer smp) smp offset := by
  have hbyte : ∀ i, directedBuffer smp (smp + offset + i) = 0xFF :=
    fun i => if_neg (by omega)
  refine ⟨if_pos rfl, ?_⟩
  simp only [Bytes.read, hbyte]
  decide

/-- The packet depends on the old buffer only through the corrected LIDs. -/
theorem lids_of_independent (ht : (datagram n qp_num w).Typed ports) (hp : n.pd.Pinned)
    (hroute : udRoute cfg n w = some ah) (hall : w.processing.all_packets = 1)
    (hdata : gathered (payloadBytes n.pd n.mem w 0 w.total_length []) = some data)
    (hqp : w.wr.ud.remote_qpn = PIB_QP0) (hgrh : ah.attr.grh = true)
    (hi : (datagram n qp_num w).Independent cfg ports) :
    (ports ah.attr.port_num).lid = IB_LID_PERMISSIVE ∧ ah.attr.dlid = IB_LID_PERMISSIVE := by
  have hlrh : ∀ buf x, (datagram n qp_num w).packet cfg ports buf [] = some x → x.lrh.Typed := by
    intro buf x hx
    obtain ⟨y, solicited, hs⟩ := packet_sends ht hx
    rw [hs.finish]
    exact ⟨hs.headed.dlid, hs.headed.slid, (Nat.mod_lt _ (by decide)).trans (by decide)⟩
  have heq := hi (fun _ => 0) (directedBuffer (udPayloadOffset w ah.attr))
  have h1 := @datagramPacket_eq cfg ports n qp_num w ah data hroute hall hdata (fun _ => 0)
  have h2 := @datagramPacket_eq cfg ports n qp_num w ah data hroute hall hdata
    (directedBuffer (udPayloadOffset w ah.attr))
  rw [bytes_eq ht hp _ [], bytes_eq ht hp _ [], h1, h2] at heq
  have hdec := congrArg Lrh.decode (Option.some.inj heq)
  rw [← List.append_nil (WirePacket.encode _), WirePacket.decode_lrh (hlrh _ _ h1),
    ← List.append_nil (WirePacket.encode _), WirePacket.decode_lrh (hlrh _ _ h2)] at hdec
  have hclean : ∀ offset, ¬smpCorrected w ah.attr (fun _ => 0) offset :=
    fun offset hc => absurd (show (0 : UInt8) = 0x81 from hc.2.2.1) (by decide)
  have hdirty : ∀ offset, 2 ≤ offset →
      smpCorrected w ah.attr (directedBuffer (udPayloadOffset w ah.attr)) offset :=
    fun offset ho => ⟨hqp, hgrh, directedBuffer_permissive _ ho⟩
  have hslid : (if smpCorrected w ah.attr (fun _ => 0) 32 then IB_LID_PERMISSIVE
        else (ports ah.attr.port_num).lid) =
      if smpCorrected w ah.attr (directedBuffer (udPayloadOffset w ah.attr)) 32 then IB_LID_PERMISSIVE
        else (ports ah.attr.port_num).lid := congrArg Lrh.slid hdec
  have hdlid : (if smpCorrected w ah.attr (fun _ => 0) 34 then IB_LID_PERMISSIVE else ah.attr.dlid) =
      if smpCorrected w ah.attr (directedBuffer (udPayloadOffset w ah.attr)) 34 then IB_LID_PERMISSIVE
        else ah.attr.dlid := congrArg Lrh.dlid hdec
  rw [if_neg (hclean 32), if_pos (hdirty 32 (by decide))] at hslid
  rw [if_neg (hclean 34), if_pos (hdirty 34 (by decide))] at hdlid
  exact ⟨hslid, hdlid⟩

/-- The management packet that is sent, as it lies in the send buffer. -/
theorem read_payload {buf' : Mem} {a : AhAttr} {solicited : Bool} {q : Qp} {buf : Mem}
    (hlen : data.length = w.total_length)
    (h : Framed buf' ((udHead ports q w a buf (deth q qp_num w ++ udWord w ++ data)).finish solicited)) :
    read buf' (udPayloadOffset w a) w.total_length = data := by
  have hrest := (holds_append.mp h.rest).2
  unfold Holds at hrest
  rw [hlen] at hrest
  have hpos : (udHead ports q w a buf (deth q qp_num w ++ udWord w ++ data)).headerSize +
      (deth q qp_num w ++ udWord w).length = udPayloadOffset w a := by
    show LRH_SIZE + (grhOf (ports a.port_num) a).length + BTH_SIZE + _ = _
    rw [← bthOffset_eq, List.length_append, length_deth, ← Nat.add_assoc]
    rfl
  rw [← hpos]
  exact hrest

theorem be_two_inj {a b : Nat} (ha : a < 2 ^ 16) (hb : b < 2 ^ 16) (h : be 2 a = be 2 b) : a = b := by
  rw [← ofBe_be_of_lt (show a < 256 ^ 2 from ha), ← ofBe_be_of_lt (show b < 256 ^ 2 from hb), h]

/-- A datagram that can be sent is sent, whatever was in the buffer. -/
theorem sentDatagram_some (hp : n.pd.Pinned) (hroute : udRoute cfg n w = some ah)
    (hall : w.processing.all_packets = 1)
    (hdata : gathered (payloadBytes n.pd n.mem w 0 w.total_length []) = some data) (buf : Mem) :
    ∃ buf', sentDatagram cfg ports n qp_num w buf = some buf' ∧
      Framed buf' ((udHead ports n.qp w ah.attr buf (deth n.qp qp_num w ++ udWord w ++ data)).finish
        w.send_flags.SOLICITED) := by
  have hsends : SendsPacket (sentDatagram cfg ports n qp_num w buf) (datagramPacket ..) :=
    @sends_pinned cfg ports (datagram n qp_num w) hp buf []
  have hpacket : datagramPacket cfg ports n qp_num w buf [] = _ :=
    @datagramPacket_eq cfg ports n qp_num w ah data hroute hall hdata buf
  rw [hpacket] at hsends
  cases hsent : sentDatagram cfg ports n qp_num w buf with
  | none =>
    rw [hsent] at hsends
    nomatch hsends
  | some buf' =>
    rw [hsent] at hsends
    cases hsends with
    | packet hframed => exact ⟨buf', rfl, hframed⟩

/-- When the LIDs of such a datagram are as they should be, the permissive LID
that its management packet demands was there before. -/
theorem lids_of_follows (ht : (datagram n qp_num w).Typed ports) (hp : n.pd.Pinned)
    (hroute : udRoute cfg n w = some ah) (hall : w.processing.all_packets = 1)
    (hdata : gathered (payloadBytes n.pd n.mem w 0 w.total_length []) = some data)
    (hqp : w.wr.ud.remote_qpn = PIB_QP0) (hf : (datagram n qp_num w).FollowsSmp cfg ports) :
    (smpDemands data 32 → (ports ah.attr.port_num).lid = IB_LID_PERMISSIVE) ∧
      (smpDemands data 34 → ah.attr.dlid = IB_LID_PERMISSIVE) := by
  obtain ⟨buf', hsent, hframed⟩ := @sentDatagram_some cfg ports n qp_num w ah data hp hroute hall hdata
    (fun _ => 0)
  have hlen : data.length = w.total_length := by
    obtain ⟨hs, rfl⟩ := gathered_some hdata
    exact payloadBytes_length _ hs
  -- an empty buffer corrects nothing
  have hclean : ∀ offset, ¬smpCorrected w ah.attr (fun _ => 0) offset :=
    fun offset hc => absurd (show (0 : UInt8) = 0x81 from hc.2.2.1) (by decide)
  have hslid : read buf' 4 2 = be 2 (ports ah.attr.port_num).lid :=
    hframed.read_slid.trans (congrArg (be 2) (if_neg (hclean 32)))
  have hdlid : read buf' 0 2 = be 2 ah.attr.dlid :=
    hframed.read_dlid.trans (congrArg (be 2) (if_neg (hclean 34)))
  have hbytes := hf _ _ _ hsent hroute hqp
  dsimp only at hbytes
  rw [read_payload hlen hframed, hslid, hdlid] at hbytes
  constructor
  · intro hd
    rw [if_pos hd] at hbytes
    exact be_two_inj (ht.lid _) (by decide) hbytes.1
  · intro hd
    rw [if_pos hd] at hbytes
    exact be_two_inj (ht.dlid_lt hroute) (by decide) hbytes.2

end Datagram

variable {cfg : Config} {ports : Nat → Port} {o : Outgoing}

theorem undisturbed_of_independent (ht : o.Typed ports) (hp : o.Pinned)
    (hi : o.Independent cfg ports) (hf : o.FollowsSmp cfg ports) : o.Undisturbed cfg ports := by
  cases o with
  | datagram n qp_num w =>
    intro ah data hroute hall hdata hqp
    have hsmp := lids_of_follows ht hp hroute hall hdata hqp hf
    constructor
    · rintro (hgrh | hd)
      · exact (lids_of_independent ht hp hroute hall hdata hqp hgrh hi).1
      · exact hsmp.1 hd
    · rintro (hgrh | hd)
      · exact (lids_of_independent ht hp hroute hall hdata hqp hgrh hi).2
      · exact hsmp.2 hd
  | _ => trivial

theorem independent_of_undisturbed (ht : o.Typed ports) (hp : o.Pinned)
    (hu : o.Undisturbed cfg ports) : o.Independent cfg ports := by
  intro buf₁ buf₂
  rw [bytes_eq ht hp buf₁ [], bytes_eq ht hp buf₂ []]
  cases o with
  | datagram n qp_num w =>
    show (datagramPacket cfg ports n qp_num w buf₁ []).map _ =
      (datagramPacket cfg ports n qp_num w buf₂ []).map _
    unfold datagramPacket
    cases hroute : udRoute cfg n w with
    | none => rfl
    | some ah =>
      dsimp only
      by_cases hall : w.processing.all_packets = 1
      · rw [if_neg (not_not.mpr hall), if_neg (not_not.mpr hall)]
        cases hdata : gathered (payloadBytes n.pd n.mem w 0 w.total_length []) with
        | none => rfl
        | some data =>
          have hs : w.wr.ud.remote_qpn = PIB_QP0 → ah.attr.grh = true →
              (ports ah.attr.port_num).lid = IB_LID_PERMISSIVE ∧ ah.attr.dlid = IB_LID_PERMISSIVE := by
            intro hqp hgrh
            have h := hu ah data hroute hall hdata hqp
            exact ⟨h.1 (Or.inl hgrh), h.2 (Or.inl hgrh)⟩
          simp only [Option.map_some, udHead_eq hs]
      · rw [if_pos hall, if_pos hall]
  | _ => rfl

theorem follows_of_undisturbed (hp : o.Pinned) (hu : o.Undisturbed cfg ports) :
    o.FollowsSmp cfg ports := by
  cases o with
  | datagram n qp_num w =>
    intro buf buf' ah hsent hroute hqp
    obtain ⟨data, hall, hdata, hframed⟩ := sentDatagram_framed hp hsent hroute
    have hlen : data.length = w.total_length := by
      obtain ⟨hs, rfl⟩ := gathered_some hdata
      exact payloadBytes_length _ hs
    have h := hu ah data hroute hall hdata hqp
    have hs : w.wr.ud.remote_qpn = PIB_QP0 → ah.attr.grh = true →
        (ports ah.attr.port_num).lid = IB_LID_PERMISSIVE ∧ ah.attr.dlid = IB_LID_PERMISSIVE :=
      fun _ hgrh => ⟨h.1 (Or.inl hgrh), h.2 (Or.inl hgrh)⟩
    have hpay := read_payload hlen hframed
    rw [udHead_eq hs] at hframed
    have hslid : read buf' 4 2 = be 2 (ports ah.attr.port_num).lid := hframed.read_slid
    have hdlid : read buf' 0 2 = be 2 ah.attr.dlid := hframed.read_dlid
    dsimp only
    rw [hpay, hslid, hdlid]
    constructor
    · split
      · rename_i hd
        rw [h.1 (Or.inr hd)]
      · rfl
    · split
      · rename_i hd
        rw [h.2 (Or.inr hd)]
      · rfl
  | _ => trivial

/-- What goes out does not depend on what went out before, and the LIDs of a
datagram to queue pair 0 follow the management packet in it, unless the
correction for management packets could change anything. -/
theorem independent_iff (cfg : Config) (ports : Nat → Port) (o : Outgoing) (ht : o.Typed ports)
    (hp : o.Pinned) :
    (o.Independent cfg ports ∧ o.FollowsSmp cfg ports) ↔ o.Undisturbed cfg ports :=
  ⟨fun h => undisturbed_of_independent ht hp h.1 h.2,
    fun h => ⟨independent_of_undisturbed ht hp h, follows_of_undisturbed hp h⟩⟩

/-- A queue pair for management packets, with an address handle. -/
def managing (attr : AhAttr) : UdNode :=
  { qp := { qp_type := .SMI, state := .RTS }
    pd := { nr_mr := 0, mr_table := fun _ => none }
    mem := fun _ => 0
    ahs := fun _ => some { attr } }

/-- A datagram of 40 bytes to queue pair 0, as inline data. -/
def smpElement : SendWqe :=
  { trace_id := 0, opcode := .SEND, send_flags := { INLINE := true }, total_length := 40
    processing := { all_packets := 1 }, inline_data_buffer := List.replicate 40 0
    wr := { ud := { ah := some 0 } } }

theorem managing_typed {attr : AhAttr} (h : attr.dlid < 2 ^ 16) (w : SendWqe)
    (hw : w.wr.ud.remote_qpn < 2 ^ 32) : (datagram (managing attr) 0 w).Typed (fun _ => {}) :=
  ⟨fun _ => by decide, fun _ _ => Nat.two_pow_pos 16, hw, fun _ _ hah => by cases hah; exact h⟩

theorem managing_pinned (attr : AhAttr) (w : SendWqe) : (datagram (managing attr) 0 w).Pinned :=
  fun _ _ h => nomatch h

/-- Without a GRH, and with no directed route in it, the datagram is the same
after every other packet. -/
theorem smp_independent :
    (datagram (managing { port_num := 1, dlid := 3 }) 0 smpElement).Independent {} (fun _ => {}) ∧
      (datagram (managing { port_num := 1, dlid := 3 }) 0 smpElement).FollowsSmp {} (fun _ => {}) := by
  refine (independent_iff {} _ _ (managing_typed (by decide) _ (by decide)) (managing_pinned _ _)).mpr ?_
  intro ah data hroute _ hdata _
  cases hroute
  have hbytes : data = List.replicate 40 0 := by
    rw [← Option.some.inj hdata]
    decide
  have hclass : ∀ offset, ¬smpDemands data offset := by
    rintro offset ⟨hd, -⟩
    rw [hbytes] at hd
    exact absurd hd (by decide)
  exact ⟨fun h => h.elim nofun fun hd => absurd hd (hclass 32),
    fun h => h.elim nofun fun hd => absurd hd (hclass 34)⟩

/-- With a GRH, a packet that was sent before can change its LIDs. -/
theorem smp_disturbed :
    ¬((datagram (managing { port_num := 1, dlid := 3, grh := true }) 0 smpElement).Independent {}
        (fun _ => {}) ∧
      (datagram (managing { port_num := 1, dlid := 3, grh := true }) 0 smpElement).FollowsSmp {}
        (fun _ => {})) := by
  rintro ⟨hi, -⟩
  have hroute : udRoute {} (managing { port_num := 1, dlid := 3, grh := true }) smpElement =
      some { attr := { port_num := 1, dlid := 3, grh := true } } := rfl
  have h := lids_of_independent (managing_typed (by decide) _ (by decide)) (managing_pinned _ smpElement)
    hroute rfl rfl rfl rfl hi
  exact absurd h.2 (by decide)

end Outgoing

end pib
