-- A packet as a record of its headers and its body: that the parser reads back
-- what is written, and what each write to the send buffer does to the record.
import Pib.Compose

namespace pib

open Bytes

/-! ## Packets -/

/-- A packet without padding and ICRC. `body` are the extension headers and the
payload. -/
structure WirePacket where
  lrh : Lrh
  grh : List UInt8
  bth : Bth
  body : List UInt8
  deriving DecidableEq, Repr

namespace WirePacket

def encode (x : WirePacket) : List UInt8 := x.lrh.encode ++ x.grh ++ x.bth.encode ++ x.body

/-- Where the body begins. -/
def headerSize (x : WirePacket) : Nat := LRH_SIZE + x.grh.length + BTH_SIZE

/-- The headers as the parser should find them. -/
def headers (x : WirePacket) : Headers :=
  { size := x.headerSize
    grh := if x.grh = [] then none else some LRH_SIZE
    bth := some (LRH_SIZE + x.grh.length) }

/-- The packet as a queue pair should get it. -/
def received (x : WirePacket) (dest_qp_num : Nat) : Incoming :=
  { lrh := x.lrh, bth := x.bth
    grh := if x.grh = [] then none else some x.grh
    slid := x.lrh.slid, dlid := x.lrh.dlid, dest_qp_num, buffer := x.body }

/-- The headers fit together: the next header tells whether there is a GRH, and
the length counts the words of the packet with padding and ICRC. -/
structure WellFormed (x : WirePacket) : Prop where
  lrh : x.lrh.Typed
  bth : x.bth.Typed
  version : x.lrh.vl_lver = 0
  route : (x.grh = [] ∧ x.lrh.lnh = 2) ∨ (x.grh.length = GRH_SIZE ∧ x.lrh.lnh = 3)
  words : x.lrh.pktlen * 4 =
    x.headerSize + x.body.length + pibPacketBthGetPadcnt x.bth + ICRC_SIZE
  short : x.lrh.pktlen < 2 ^ 11

theorem length_encode (x : WirePacket) : x.encode.length = x.headerSize + x.body.length := by
  simp only [encode, headerSize, List.length_append, Lrh.length_encode, Bth.length_encode]

theorem decode_lrh {x : WirePacket} (h : x.lrh.Typed) (rest : List UInt8) :
    Lrh.decode (x.encode ++ rest) = x.lrh := by
  unfold encode
  rw [List.append_assoc, List.append_assoc, List.append_assoc]
  exact Lrh.decode_encode h _

theorem decode_bth {x : WirePacket} (h : x.bth.Typed) (rest : List UInt8) :
    Bth.decode ((x.encode ++ rest).drop (LRH_SIZE + x.grh.length)) = x.bth := by
  have hlen : (x.lrh.encode ++ x.grh).length = LRH_SIZE + x.grh.length := by simp
  unfold encode
  rw [List.append_assoc, List.append_assoc, List.drop_left' hlen]
  exact Bth.decode_encode h _

theorem drop_body (x : WirePacket) (rest : List UInt8) :
    ((x.encode ++ rest).drop x.headerSize).take x.body.length = x.body := by
  have hlen : (x.lrh.encode ++ x.grh ++ x.bth.encode).length = x.headerSize := by
    simp only [headerSize, List.length_append, Lrh.length_encode, Bth.length_encode]
  unfold encode
  rw [List.append_assoc, List.drop_left' hlen, List.take_left]

theorem take_grh (x : WirePacket) (rest : List UInt8) :
    ((x.encode ++ rest).drop LRH_SIZE).take x.grh.length = x.grh := by
  have hlen : x.lrh.encode.length = LRH_SIZE := by simp
  unfold encode
  rw [List.append_assoc, List.append_assoc, List.append_assoc, List.drop_left' hlen, List.take_left]

/-- The parser finds the headers of a packet that is well formed. -/
theorem parse {x : WirePacket} (h : x.WellFormed) {pad : List UInt8}
    (hpad : pad.length = pibPacketBthGetPadcnt x.bth + ICRC_SIZE) :
    pibParsePacketHeader (x.encode ++ pad) = .ok x.headers := by
  have hwords := h.words
  have hsize : (x.encode ++ pad).length = x.lrh.pktlen * 4 := by
    rw [List.length_append, length_encode, hpad, hwords]
    omega
  have hlen : pibPacketLrhGetPktlen x.lrh * 4 = x.lrh.pktlen * 4 := by
    rw [pibPacketLrhGetPktlen, Nat.mod_eq_of_lt h.short]
  have hver : x.lrh.vl_lver.toNat % 16 = 0 := by simp [h.version]
  unfold pibParsePacketHeader headers
  rw [decode_lrh h.lrh]
  dsimp only
  unfold headerSize at hwords ⊢
  rcases h.route with ⟨hg, hl⟩ | ⟨hg, hl⟩
  · rw [hg, List.length_nil] at hwords
    rw [hsize, if_neg (by omega), if_neg (by omega), if_neg (by omega), if_pos hl, if_neg (by omega),
      hg]
    rfl
  have hne : x.grh ≠ [] := by
    intro he
    rw [he] at hg
    exact absurd hg (by decide)
  rw [hg] at hwords ⊢
  rw [hsize, if_neg (by omega), if_neg (by omega), if_neg (by omega), if_neg (by omega),
    if_neg (by omega), if_neg (by omega), if_neg (by omega), if_neg (by omega), if_neg hne]

/-- A message that carries the packet reaches the queue pair whose number is
left of the destination when the high bits are cut off. -/
theorem incoming {x : WirePacket} (h : x.WellFormed) {pad footer : List UInt8}
    (hpad : pad.length = pibPacketBthGetPadcnt x.bth + ICRC_SIZE)
    (hfooter : footer.length = FOOTER_SIZE) :
    incomingMessage (x.encode ++ pad ++ footer) = some (x.received (x.bth.destQP % QPN_MOD)) := by
  have hpacket : (x.encode ++ pad ++ footer).take
      ((x.encode ++ pad ++ footer).length - FOOTER_SIZE) = x.encode ++ pad := by
    rw [List.length_append, hfooter, Nat.add_sub_cancel, List.take_left]
  have hsize : (x.encode ++ pad).length - x.headerSize =
      x.body.length + pibPacketBthGetPadcnt x.bth + ICRC_SIZE := by
    rw [List.length_append, length_encode, hpad]
    omega
  unfold incomingMessage
  rw [if_neg (by rw [List.length_append, hfooter]; omega)]
  dsimp only
  rw [hpacket, parse h hpad]
  unfold headers received
  dsimp only
  rw [decode_lrh h.lrh, decode_bth h.bth, hsize, if_neg (by omega), if_neg (by omega)]
  have hbody : x.body.length + pibPacketBthGetPadcnt x.bth + ICRC_SIZE - pibPacketBthGetPadcnt x.bth -
      ICRC_SIZE = x.body.length := by omega
  rw [hbody, drop_body]
  have hgrh : (if x.grh = [] then none else some LRH_SIZE).map
      (fun i => ((x.encode ++ pad).drop i).take GRH_SIZE) =
        if x.grh = [] then none else some x.grh := by
    rcases h.route with ⟨hg, -⟩ | ⟨hg, -⟩
    · rw [if_pos hg, if_pos hg]
      rfl
    have htake := take_grh x pad
    rw [hg] at htake
    split
    · rfl
    · rw [Option.map_some, htake]
  rw [hgrh]

end WirePacket

/-! ## Packets in the send buffer -/

/-- The send buffer holds the packet. -/
structure Framed (buf : Mem) (x : WirePacket) : Prop where
  route : Holds buf 0 (x.lrh.encode ++ x.grh)
  base : Holds buf (LRH_SIZE + x.grh.length) x.bth.encode
  rest : Holds buf x.headerSize x.body

theorem Framed.holds {buf : Mem} {x : WirePacket} (h : Framed buf x) : Holds buf 0 x.encode := by
  have hlen : (x.lrh.encode ++ x.grh).length = LRH_SIZE + x.grh.length := by
    rw [List.length_append, Lrh.length_encode]
  refine holds_append.mpr ⟨holds_append.mpr ⟨h.route, ?_⟩, ?_⟩
  · rw [hlen, Nat.zero_add]
    exact h.base
  · rw [List.length_append, hlen, Bth.length_encode, Nat.zero_add]
    exact h.rest

/-- What the LRH and the BTH are before a function has filled them in. -/
def route (port : Port) (a : AhAttr) : WirePacket :=
  { lrh := { dlid := a.dlid, sl_rsv_lnh := slRsvLnh a, slid := port.lid }
    grh := grhOf port a, bth := {}, body := [] }

@[simp] theorem length_pibFillGrh (port : Port) (a : AhAttr) :
    (pibFillGrh port a).length = GRH_SIZE := by
  simp [pibFillGrh, GRH_SIZE]

theorem bthOffset_eq (port : Port) (a : AhAttr) :
    bthOffset a = LRH_SIZE + (grhOf port a).length := by
  unfold bthOffset grhOf
  split
  · rw [length_pibFillGrh]
  · rfl

theorem length_grhOf_le (port : Port) (a : AhAttr) : (grhOf port a).length ≤ GRH_SIZE := by
  unfold grhOf
  split
  · rw [length_pibFillGrh]
  · exact Nat.zero_le _

/-- The cleared bytes hold an empty LRH and, behind the GRH, an empty BTH. -/
theorem framed_writeRoute (port : Port) (a : AhAttr) {clear : Nat} (hclear : 60 ≤ clear) (buf : Mem) :
    Framed (writeRoute port a clear buf) (route port a) := by
  have hle := length_grhOf_le port a
  obtain ⟨k, rfl⟩ : ∃ k, clear = 8 + ((grhOf port a).length + (12 + k)) :=
    ⟨clear - 20 - (grhOf port a).length, by unfold GRH_SIZE at hle; omega⟩
  have h0 := holds_write buf 0 (List.replicate (8 + ((grhOf port a).length + (12 + k))) 0)
  unfold writeRoute
  dsimp only
  generalize write buf 0 _ = buf at h0 ⊢
  rw [List.replicate_add, List.replicate_add, List.replicate_add] at h0
  obtain ⟨hlrh, h0⟩ := holds_append.mp h0
  obtain ⟨-, h0⟩ := holds_append.mp h0
  obtain ⟨hbth, -⟩ := holds_append.mp h0
  simp only [List.length_replicate, Nat.zero_add] at hbth
  -- the GRH lies between the two
  have hgrh := holds_write buf LRH_SIZE (grhOf port a)
  replace hlrh := hlrh.frame LRH_SIZE (grhOf port a) (Or.inl (by simp [LRH_SIZE]))
  replace hbth := hbth.frame LRH_SIZE (grhOf port a) (Or.inr (by simp [LRH_SIZE]))
  generalize write buf LRH_SIZE _ = buf at hlrh hbth hgrh ⊢
  replace hlrh := Holds.put [0, 0, 0] [0] [0, 0, 0, 0] hlrh [slRsvLnh a] rfl
  replace hlrh := Holds.put [] [0, 0] [0, slRsvLnh a, 0, 0, 0, 0] hlrh (be 2 a.dlid) rfl
  replace hlrh := Holds.put (be 2 a.dlid ++ [0, slRsvLnh a]) [0, 0] [0, 0] hlrh (be 2 port.lid) rfl
  have hrest : ∀ {b : Nat} {bs : List UInt8}, LRH_SIZE ≤ b → Holds buf b bs →
      Holds (write (write (write buf 3 [slRsvLnh a]) 0 (be 2 a.dlid)) 4 (be 2 port.lid)) b bs := by
    intro b bs hb h
    unfold LRH_SIZE at hb
    exact ((h.frame _ _ (Or.inr (by simp; omega))).frame _ _ (Or.inr (by simp; omega))).frame _ _
      (Or.inr (by simp; omega))
  have hword : be 2 0 = [0, 0] := rfl
  refine ⟨holds_append.mpr ⟨?_, hrest (le_refl _) hgrh⟩, ?_, holds_nil _ _⟩
  · unfold route Lrh.encode
    rw [hword]
    exact hlrh
  · have hempty : Bth.encode {} = List.replicate 12 0 := by decide
    unfold route
    rw [hempty]
    exact hrest (Nat.le_add_right _ _) hbth

namespace Framed

variable {buf : Mem} {x : WirePacket}

/-- A write behind the body makes it longer. -/
theorem append (h : Framed buf x) (cs : List UInt8) :
    Framed (write buf (x.headerSize + x.body.length) cs) { x with body := x.body ++ cs } where
  route := h.route.frame _ _ (Or.inl (by simp [WirePacket.headerSize]; omega))
  base := h.base.frame _ _ (Or.inl (by simp [WirePacket.headerSize]))
  rest := h.rest.append cs

theorem writeBth (h : Framed buf x) (OpCode pkey destQP psn : Nat) :
    Framed (writeBth (LRH_SIZE + x.grh.length) OpCode pkey destQP psn buf)
      { x with bth := { x.bth with OpCode := UInt8.ofNat OpCode, pkey, destQP, psn } } := by
  have hframe : ∀ {b : Nat} {bs : List UInt8}, b + bs.length ≤ LRH_SIZE + x.grh.length ∨
      LRH_SIZE + x.grh.length + BTH_SIZE ≤ b → Holds buf b bs →
      Holds (pib.writeBth (LRH_SIZE + x.grh.length) OpCode pkey destQP psn buf) b bs := by
    intro b bs hb h
    unfold BTH_SIZE at hb
    refine Holds.frame (Holds.frame (Holds.frame (Holds.frame h _ _ ?_) _ _ ?_) _ _ ?_) _ _ ?_ <;>
      simp only [List.length_cons, List.length_nil, length_be] <;> omega
  refine ⟨hframe (Or.inl (by simp)) h.route, ?_, hframe (Or.inr (le_refl _)) h.rest⟩
  have hb := h.base
  replace hb := Holds.put [] [x.bth.OpCode] ([x.bth.se_m_padcnt_tver] ++ be 2 x.bth.pkey ++
    be 4 x.bth.destQP ++ be 4 x.bth.psn) hb [UInt8.ofNat OpCode] rfl
  replace hb := Holds.put [UInt8.ofNat OpCode, x.bth.se_m_padcnt_tver] (be 2 x.bth.pkey)
    (be 4 x.bth.destQP ++ be 4 x.bth.psn) hb (be 2 pkey) rfl
  replace hb := Holds.put ([UInt8.ofNat OpCode, x.bth.se_m_padcnt_tver] ++ be 2 pkey)
    (be 4 x.bth.destQP) (be 4 x.bth.psn) hb (be 4 destQP) rfl
  exact Holds.put ([UInt8.ofNat OpCode, x.bth.se_m_padcnt_tver] ++ be 2 pkey ++ be 4 destQP)
    (be 4 x.bth.psn) [] hb (be 4 psn) rfl

theorem setPktlen (h : Framed buf x) (value : Nat) :
    Framed (pibPacketLrhSetPktlen value buf)
      { x with lrh := { x.lrh with pktlen := value % 2 ^ 11 } } where
  route := Holds.put (be 2 x.lrh.dlid ++ [x.lrh.vl_lver, x.lrh.sl_rsv_lnh] ++ be 2 x.lrh.slid)
    (be 2 x.lrh.pktlen) x.grh h.route (be 2 (value % 2 ^ 11)) rfl
  base := h.base.frame _ _ (Or.inr (by simp [LRH_SIZE]))
  rest := h.rest.frame _ _ (Or.inr (by simp [WirePacket.headerSize, LRH_SIZE]; omega))

theorem setDlid (h : Framed buf x) (lid : Nat) :
    Framed (write buf 0 (be 2 lid)) { x with lrh := { x.lrh with dlid := lid } } where
  route := Holds.put [] (be 2 x.lrh.dlid)
    ([x.lrh.vl_lver, x.lrh.sl_rsv_lnh] ++ be 2 x.lrh.slid ++ be 2 x.lrh.pktlen ++ x.grh) h.route
    (be 2 lid) rfl
  base := h.base.frame _ _ (Or.inr (by simp [LRH_SIZE]; omega))
  rest := h.rest.frame _ _ (Or.inr (by simp [WirePacket.headerSize, LRH_SIZE]; omega))

theorem setSlid (h : Framed buf x) (lid : Nat) :
    Framed (write buf 4 (be 2 lid)) { x with lrh := { x.lrh with slid := lid } } where
  route := Holds.put (be 2 x.lrh.dlid ++ [x.lrh.vl_lver, x.lrh.sl_rsv_lnh]) (be 2 x.lrh.slid)
    (be 2 x.lrh.pktlen ++ x.grh) h.route (be 2 lid) rfl
  base := h.base.frame _ _ (Or.inr (by simp [LRH_SIZE]; omega))
  rest := h.rest.frame _ _ (Or.inr (by simp [WirePacket.headerSize, LRH_SIZE]; omega))

theorem flags (h : Framed buf x) : buf (LRH_SIZE + x.grh.length + 1) = x.bth.se_m_padcnt_tver :=
  h.base.byte (i := 1) (by simp [BTH_SIZE])

theorem setFlags (h : Framed buf x) (f : UInt8) :
    Framed (write buf (LRH_SIZE + x.grh.length + 1) [f])
      { x with bth := { x.bth with se_m_padcnt_tver := f } } where
  route := h.route.frame _ _ (Or.inl (by simp))
  base := Holds.put [x.bth.OpCode] [x.bth.se_m_padcnt_tver] (be 2 x.bth.pkey ++
    be 4 x.bth.destQP ++ be 4 x.bth.psn) h.base [f] rfl
  rest := h.rest.frame _ _ (Or.inr (by simp [WirePacket.headerSize, BTH_SIZE]))

/-- A pad count for a byte that has none yet. -/
theorem setPadcnt (h : Framed buf x) (hx : x.bth.se_m_padcnt_tver = 0) {bth : Nat}
    (hbth : bth = LRH_SIZE + x.grh.length) (padcnt : Nat) :
    Framed (pibPacketBthSetPadcnt bth padcnt buf)
      { x with bth := { x.bth with se_m_padcnt_tver := UInt8.ofNat (padcnt % 4 * 2 ^ 4) } } := by
  unfold pibPacketBthSetPadcnt
  rw [hbth, h.flags, hx]
  have he : UInt8.toNat 0 - UInt8.toNat 0 / 2 ^ 4 % 4 * 2 ^ 4 + padcnt % 4 * 2 ^ 4 =
      padcnt % 4 * 2 ^ 4 := by simp
  dsimp only
  rw [he]
  exact h.setFlags _

end Framed

/-! ## The end of a packet -/

/-- The byte with the pad count and the solicited bit. -/
def padFlags (padcnt : Nat) (solicited : Bool) : UInt8 :=
  UInt8.ofNat (padcnt * 2 ^ 4 + if solicited then 2 ^ 7 else 0)

/-- The length of a packet in words, with the ICRC. -/
def WirePacket.pktlen (x : WirePacket) : Nat := (x.headerSize + x.body.length + 3) / 4 + 1

/-- The packet when its length, pad count and solicited bit are written. -/
def WirePacket.finish (x : WirePacket) (solicited : Bool) : WirePacket :=
  { x with
    lrh := { x.lrh with pktlen := x.pktlen % 2 ^ 11 }
    bth := { x.bth with se_m_padcnt_tver := padFlags (padOf x.body.length) solicited } }

theorem headerSize_mod (port : Port) (a : AhAttr) :
    (LRH_SIZE + (grhOf port a).length + BTH_SIZE) % 4 = 0 := by
  rw [← bthOffset_eq]
  unfold bthOffset
  split <;> rfl

/-- The number of bytes that bring a packet to whole words. -/
theorem padOf_eq {header_size : Nat} (h : header_size % 4 = 0) (len : Nat) :
    (header_size + len + 3) / 4 * 4 - (header_size + len) = padOf len := by
  unfold padOf
  omega

theorem padOf_lt (len : Nat) : padOf len < 4 := Nat.mod_lt _ (by decide)

theorem WirePacket.pktlen_eq (x : WirePacket) :
    ((x.headerSize + x.body.length + 3) / 4 * 4 + 4) / 4 = x.pktlen := by
  unfold WirePacket.pktlen
  omega

theorem framed_finishRequest {buf : Mem} {x : WirePacket} (h : Framed buf x)
    (hx : x.bth.se_m_padcnt_tver = 0) (halign : x.headerSize % 4 = 0) (solicited : Bool) :
    Framed (finishRequest (LRH_SIZE + x.grh.length) (x.headerSize + x.body.length) solicited buf)
      (x.finish solicited) := by
  have hlt := padOf_lt x.body.length
  unfold finishRequest
  dsimp only
  rw [padOf_eq halign, x.pktlen_eq]
  have hpad := (h.setPktlen x.pktlen).setPadcnt hx rfl (padOf x.body.length)
  have hflags := hpad.flags
  have hbyte : (UInt8.ofNat (padOf x.body.length % 4 * 2 ^ 4)).toNat % 2 ^ 7 =
      padOf x.body.length * 2 ^ 4 := by
    rw [UInt8.toNat_ofNat']
    omega
  unfold pibPacketBthSetSolicited
  dsimp only at hflags ⊢
  rw [hflags, hbyte]
  exact hpad.setFlags _

/-- A packet whose pad count is left out needs none. -/
theorem WirePacket.finish_aligned {x : WirePacket} (hx : x.bth.se_m_padcnt_tver = 0)
    (hlen : x.body.length % 4 = 0) :
    x.finish false = { x with lrh := { x.lrh with pktlen := x.pktlen % 2 ^ 11 } } := by
  have hpad : padOf x.body.length = 0 := by
    unfold padOf
    omega
  have hflags : padFlags 0 false = x.bth.se_m_padcnt_tver := hx.symm
  rw [WirePacket.finish, hpad, hflags]

end pib
