-- Packets on the wire (`pib_packet.h`): the route and transport headers, and
-- how a message from the network is taken apart (`pib_parse_packet_header` and
-- the front of `process_incoming_message` in `pib_thread.c`).
import Pib.Lib.Layout
import Pib.Types

namespace pib

open Bytes

/-! ## Headers -/

/-- `struct pib_packet_lrh`. -/
structure Lrh where
  dlid : Nat := 0
  vl_lver : UInt8 := 0
  sl_rsv_lnh : UInt8 := 0
  slid : Nat := 0
  pktlen : Nat := 0
  deriving DecidableEq, Repr

/-- `struct pib_packet_bth`. -/
structure Bth where
  OpCode : UInt8 := 0
  se_m_padcnt_tver : UInt8 := 0
  pkey : Nat := 0
  destQP : Nat := 0
  psn : Nat := 0
  deriving DecidableEq, Repr

/-- The sizes of `struct pib_packet_lrh`, `struct ib_grh`, `struct pib_packet_bth`,
the ICRC and `union pib_packet_footer`. -/
def LRH_SIZE : Nat := 8
def GRH_SIZE : Nat := 40
def BTH_SIZE : Nat := 12
def ICRC_SIZE : Nat := 4
def FOOTER_SIZE : Nat := 8

def Lrh.encode (h : Lrh) : List UInt8 :=
  be 2 h.dlid ++ [h.vl_lver, h.sl_rsv_lnh] ++ be 2 h.slid ++ be 2 h.pktlen

def Lrh.decode (buffer : List UInt8) : Lrh where
  dlid := ofBe (buffer.take 2)
  vl_lver := buffer.getD 2 0
  sl_rsv_lnh := buffer.getD 3 0
  slid := ofBe ((buffer.drop 4).take 2)
  pktlen := ofBe ((buffer.drop 6).take 2)

def Bth.encode (h : Bth) : List UInt8 :=
  [h.OpCode, h.se_m_padcnt_tver] ++ be 2 h.pkey ++ be 4 h.destQP ++ be 4 h.psn

def Bth.decode (buffer : List UInt8) : Bth where
  OpCode := buffer.getD 0 0
  se_m_padcnt_tver := buffer.getD 1 0
  pkey := ofBe ((buffer.drop 2).take 2)
  destQP := ofBe ((buffer.drop 4).take 4)
  psn := ofBe ((buffer.drop 8).take 4)

/-- The fields hold what their types can hold. -/
structure Lrh.Typed (h : Lrh) : Prop where
  dlid : h.dlid < 2 ^ 16
  slid : h.slid < 2 ^ 16
  pktlen : h.pktlen < 2 ^ 16

structure Bth.Typed (h : Bth) : Prop where
  pkey : h.pkey < 2 ^ 16
  destQP : h.destQP < 2 ^ 32
  psn : h.psn < 2 ^ 32

@[simp] theorem Lrh.length_encode (h : Lrh) : h.encode.length = LRH_SIZE := by
  simp [encode, LRH_SIZE]

@[simp] theorem Bth.length_encode (h : Bth) : h.encode.length = BTH_SIZE := by
  simp [encode, BTH_SIZE]

theorem Lrh.decode_encode {h : Lrh} (ht : h.Typed) (rest : List UInt8) :
    Lrh.decode (h.encode ++ rest) = h := by
  have hd : ofBe (be 2 h.dlid) = h.dlid := ofBe_be_of_lt ht.dlid
  have hs : ofBe (be 2 h.slid) = h.slid := ofBe_be_of_lt ht.slid
  have hp : ofBe (be 2 h.pktlen) = h.pktlen := ofBe_be_of_lt ht.pktlen
  calc Lrh.decode (h.encode ++ rest)
      = ⟨ofBe (be 2 h.dlid), h.vl_lver, h.sl_rsv_lnh, ofBe (be 2 h.slid), ofBe (be 2 h.pktlen)⟩ := rfl
    _ = h := by rw [hd, hs, hp]

theorem Bth.decode_encode {h : Bth} (ht : h.Typed) (rest : List UInt8) :
    Bth.decode (h.encode ++ rest) = h := by
  have hk : ofBe (be 2 h.pkey) = h.pkey := ofBe_be_of_lt ht.pkey
  have hq : ofBe (be 4 h.destQP) = h.destQP := ofBe_be_of_lt ht.destQP
  have hp : ofBe (be 4 h.psn) = h.psn := ofBe_be_of_lt ht.psn
  calc Bth.decode (h.encode ++ rest)
      = ⟨h.OpCode, h.se_m_padcnt_tver, ofBe (be 2 h.pkey), ofBe (be 4 h.destQP),
          ofBe (be 4 h.psn)⟩ := rfl
    _ = h := by rw [hk, hq, hp]

/-- `pib_packet_lrh_get_pktlen`. -/
def pibPacketLrhGetPktlen (lrh : Lrh) : Nat := lrh.pktlen % 2 ^ 11

/-- `pib_packet_bth_get_padcnt`. -/
def pibPacketBthGetPadcnt (bth : Bth) : Nat := bth.se_m_padcnt_tver.toNat / 2 ^ 4 % 4

/-- `pib_packet_bth_get_solicited`. -/
def pibPacketBthGetSolicited (bth : Bth) : Bool := decide (bth.se_m_padcnt_tver.toNat / 2 ^ 7 % 2 = 1)

/-- The link next header: 2 for a local and 3 for a global packet. -/
def Lrh.lnh (lrh : Lrh) : Nat := lrh.sl_rsv_lnh.toNat % 4

/-! ## Taking a message apart -/

/-- What `pib_parse_packet_header` returns: the size of the headers, and where
the GRH and the BTH begin. The LRH is at the front. -/
structure Headers where
  size : Nat
  grh : Option Nat := none
  bth : Option Nat := none
  deriving DecidableEq, Repr

/-- `pib_parse_packet_header`. -/
def pibParsePacketHeader (buffer : List UInt8) : Except Int Headers :=
  let lrh := Lrh.decode buffer
  let size := buffer.length
  if size < LRH_SIZE then .error (-1)
  else if pibPacketLrhGetPktlen lrh * 4 ≠ size then .error (-1)
  else if lrh.vl_lver.toNat % 16 ≠ 0 then .error (-2)
  else if lrh.lnh = 2 then
    if size - LRH_SIZE < BTH_SIZE then .error (-1)
    else .ok { size := LRH_SIZE + BTH_SIZE, bth := some LRH_SIZE }
  else if lrh.lnh = 0 then .ok { size := LRH_SIZE }
  else if lrh.lnh ≠ 3 then .error (-3)
  else if size - LRH_SIZE < GRH_SIZE then .error (-1)
  else if size - LRH_SIZE - GRH_SIZE < BTH_SIZE then .error (-1)
  else .ok
    { size := LRH_SIZE + GRH_SIZE + BTH_SIZE, grh := some LRH_SIZE
      bth := some (LRH_SIZE + GRH_SIZE) }

/-- What `process_incoming_message` knows of a message when it looks for the
queue pair. `buffer` is what follows the BTH, without padding and ICRC. -/
structure Incoming where
  lrh : Lrh
  grh : Option (List UInt8)
  bth : Bth
  slid : Nat
  dlid : Nat
  dest_qp_num : Nat
  buffer : List UInt8
  deriving DecidableEq, Repr

/-- `PIB_QPN_MASK` is `QPN_MOD - 1`. -/
def QPN_MOD : Nat := 2 ^ 24

/-- The front of `process_incoming_message`. Nothing is a message that is dropped,
or a raw packet, which goes to `process_raw_packet`. -/
def incomingMessage (message : List UInt8) : Option Incoming :=
  if message.length < FOOTER_SIZE then none
  else
    let packet := message.take (message.length - FOOTER_SIZE)
    match pibParsePacketHeader packet with
    | .ok { size := header_size, grh, bth := some bth } =>
      let lrh := Lrh.decode packet
      let bth := Bth.decode (packet.drop bth)
      let size := packet.length - header_size
      if size < pibPacketBthGetPadcnt bth then none
      else if size - pibPacketBthGetPadcnt bth < ICRC_SIZE then none
      else some
        { lrh, bth
          grh := grh.map fun i => (packet.drop i).take GRH_SIZE
          slid := lrh.slid
          dlid := lrh.dlid
          dest_qp_num := bth.destQP % QPN_MOD
          buffer := (packet.drop header_size).take
            (size - pibPacketBthGetPadcnt bth - ICRC_SIZE) }
    | _ => none

end pib
