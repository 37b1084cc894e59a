-- The receipt of a datagram: the 40 bytes of the GRH and the payload behind them
-- in the receive element, and the completion of the element that was taken for it.
import Pib.Solicited
import Pib.ScatterRoom

namespace pib

open Bytes

variable (now : Nat) (q : Qp) {offset : Nat}

/-! ## The copies -/

variable {pd : Pd} {access_flags : Nat}

/-- An empty range behind the first byte passes, if the list reaches it. -/
theorem passes_empty_behind (hpd : pd.Backed) (sges : List Sge) (hoff : 0 < offset)
    (hall : AllUsable pd access_flags sges) (hroom : offset ≤ sgeSum sges) :
    Passes pd access_flags sges offset 0 := by
  induction sges with
  | nil =>
    change offset ≤ 0 at hroom
    omega
  | cons sge sges ih =>
    obtain ⟨mr, hk, hin⟩ := hall sge List.mem_cons_self
    obtain ⟨hb, -⟩ := backed_of_key hpd hk
    rw [passes_cons hk]
    split
    · -- only an element without bytes is outside of its region
      rename_i hout
      have hz : sge.length = 0 := by
        by_contra hne
        have hin' : outsideMr mr sge.addr (min sge.length (offset + 0)) = false :=
          outsideMr_inMr hb hin (by omega) (by omega)
        rw [hin'] at hout
        exact Bool.false_ne_true hout
      rw [sgeSum_cons, hz, Nat.zero_add] at hroom
      rw [hz, Nat.sub_zero]
      exact ih hall.tail hroom
    · exact Or.inl (Nat.zero_le _)

theorem covers_of_usable {sges : List Sge} (hall : AllUsable pd access_flags sges) {size : Nat}
    (hroom : offset + size ≤ sgeSum sges) : Covers pd access_flags sges offset size := by
  refine ⟨hroom, ?_⟩
  rintro pre sge post rfl _
  exact hall sge (List.mem_append_right pre List.mem_cons_self)

/-- A range for which there is room is copied to its places. -/
theorem copyData_room (hpd : pd.Backed) {sges : List Sge} (hall : AllUsable pd access_flags sges)
    {mem : Mem} {buffer : List UInt8} {size : Nat} (hmax : size ≤ PIB_MAX_PAYLOAD_LEN)
    (hsome : 0 < size ∨ 0 < offset) (hroom : offset + size ≤ sgeSum sges) :
    (pibUtilMrCopyData pd sges mem buffer offset size access_flags .COPY_TO).1 = .SUCCESS ∧
      (pibUtilMrCopyData pd sges mem buffer offset size access_flags .COPY_TO).2.1 =
        scatter mem (placesIn pd sges offset size) buffer := by
  have hpasses : Passes pd access_flags sges offset size := by
    rcases Nat.eq_zero_or_pos size with rfl | hpos
    · exact passes_empty_behind hpd sges (by omega) hall (by omega)
    · exact passes_of_room hpd sges hall hpos hroom
  refine ⟨(copyData_status hmax).1.mpr hpasses, ?_⟩
  unfold pibUtilMrCopyData
  rw [if_neg (by omega), copySges_bytes hpd (Or.inr rfl) sges offset size mem buffer
    (covers_of_usable hall hroom) hpasses]
  rfl

/-! ## The datagram in memory -/

/-- The memory with the GRH, if there is one, in the first 40 bytes of the list and
the payload behind them. -/
def placeDatagram (pd : Pd) (sges : List Sge) (mem : Mem) (grh : Option (List UInt8))
    (payload : List UInt8) : Mem :=
  let mem := match grh with
    | none => mem
    | some grh => scatter mem (placesIn pd sges 0 40) grh
  scatter mem (placesIn pd sges 40 payload.length) payload

variable {w : RecvWqe} {mem : Mem} {grh : Option (List UInt8)} {payload : List UInt8}

/-- The copy of some bytes into the receive element. -/
def copyIn (pd : Pd) (w : RecvWqe) (mem : Mem) (bytes : List UInt8) (offset : Nat) :
    WcStatus × Mem × List UInt8 :=
  pibUtilMrCopyData pd w.sge_array mem bytes offset bytes.length IB_ACCESS_LOCAL_WRITE .COPY_TO

theorem storeDatagram_none :
    storeDatagram pd mem w none payload =
      ((copyIn pd w mem payload 40).1, (copyIn pd w mem payload 40).2.1) := rfl

theorem storeDatagram_some (g : List UInt8) :
    storeDatagram pd mem w (some g) payload =
      if (copyIn pd w mem g 0).1 = .SUCCESS then
        ((copyIn pd w (copyIn pd w mem g 0).2.1 payload 40).1,
          (copyIn pd w (copyIn pd w mem g 0).2.1 payload 40).2.1)
      else ((copyIn pd w mem g 0).1, (copyIn pd w mem g 0).2.1) := by
  unfold storeDatagram copyIn
  dsimp only
  generalize pibUtilMrCopyData pd w.sge_array mem g 0 g.length _ _ = copied
  obtain ⟨status, mem', out⟩ := copied
  cases status <;> rfl

/-- With room for the GRH and the payload, both are stored. -/
theorem storeDatagram_room (hpd : pd.Backed) (hall : AllUsable pd IB_ACCESS_LOCAL_WRITE w.sge_array)
    (hgrh : ∀ g ∈ grh, g.length = 40) (hmax : payload.length ≤ PIB_MAX_PAYLOAD_LEN)
    (hroom : payload.length + 40 ≤ sgeSum w.sge_array) :
    storeDatagram pd mem w grh payload =
      (.SUCCESS, placeDatagram pd w.sge_array mem grh payload) := by
  have hpay : ∀ mem : Mem, (copyIn pd w mem payload 40).1 = .SUCCESS ∧
      (copyIn pd w mem payload 40).2.1 =
        scatter mem (placesIn pd w.sge_array 40 payload.length) payload := fun mem =>
    copyData_room hpd hall hmax (Or.inr (by norm_num)) (by omega)
  cases grh with
  | none =>
    rw [storeDatagram_none, (hpay mem).1, (hpay mem).2]
    rfl
  | some g =>
    have hg : g.length = 40 := hgrh g rfl
    have hcopy : (copyIn pd w mem g 0).1 = .SUCCESS ∧
        (copyIn pd w mem g 0).2.1 = scatter mem (placesIn pd w.sge_array 0 g.length) g :=
      copyData_room hpd hall (by rw [hg]; decide) (Or.inl (by omega)) (by omega)
    rw [storeDatagram_some, if_pos hcopy.1, hcopy.2, (hpay _).1, (hpay _).2, hg]
    rfl

/-- The memory outside of the element is never written. -/
theorem storeDatagram_outside (hpd : pd.Backed)
    (hall : AllUsable pd IB_ACCESS_LOCAL_WRITE w.sge_array) {x : Nat}
    (hx : x ∉ listPlaces pd w.sge_array) : (storeDatagram pd mem w grh payload).2 x = mem x := by
  have hcopy : ∀ (mem : Mem) bytes offset, (copyIn pd w mem bytes offset).2.1 x = mem x :=
    fun mem bytes offset => copyData_outside hpd hall mem bytes offset bytes.length hx
  cases grh with
  | none => exact hcopy mem payload 40
  | some g =>
    rw [storeDatagram_some]
    split
    · exact (hcopy _ payload 40).trans (hcopy mem g 0)
    · exact hcopy mem g 0

/-- A payload that is stored is not longer than the largest one. -/
theorem le_max_of_stored (h : (storeDatagram pd mem w grh payload).1 = .SUCCESS) :
    payload.length ≤ PIB_MAX_PAYLOAD_LEN := by
  by_contra hlong
  have hlen : ∀ mem : Mem, (copyIn pd w mem payload 40).1 = .LOC_LEN_ERR := by
    intro mem
    unfold copyIn pibUtilMrCopyData
    rw [if_pos (by omega)]
  cases grh with
  | none =>
    rw [storeDatagram_none, hlen] at h
    cases h
  | some g =>
    rw [storeDatagram_some] at h
    split at h
    · rw [hlen] at h
      cases h
    · rename_i hne
      exact hne h

/-! ## The completion of the element -/

theorem send_cq_freeRecvWqe : q.freeRecvWqe.send_cq = q.send_cq := by
  unfold Qp.freeRecvWqe
  split <;> rfl

theorem send_cq_takeRecvWqe {q q' : Qp} (h : takeRecvWqe q = some (w, q')) :
    q'.send_cq = q.send_cq := by
  obtain ⟨_, _, rfl⟩ := takeRecvWqe_qp h
  rfl

theorem finishUdReceive_success (w : RecvWqe) (wc : Wc) (solicited : Bool) :
    (finishUdReceive now q w wc solicited .SUCCESS).recv_cq = q.recv_cq ++ [(wc, solicited)] ∧
      (finishUdReceive now q w wc solicited .SUCCESS).send_cq = q.send_cq :=
  ⟨recv_cq_freeRecvWqe _, send_cq_freeRecvWqe _⟩

/-- A failure adds to the send completion queue. -/
theorem send_cq_failQp : ∃ cs, (failQp now q).send_cq = q.send_cq ++ cs := by
  have h := sendQ_failQp now q
  generalize failQp now q = q' at h ⊢
  exact ⟨(q.sendQ.flight ++ q.sendQ.submitted).map flushWc, congrArg SendQ.cq h⟩

/-- An error leaves no completion of the element, or one on the send completion
queue. -/
theorem finishUdReceive_error (w : RecvWqe) (wc : Wc) (solicited : Bool)
    {status : WcStatus} (h : status ≠ .SUCCESS) :
    (finishUdReceive now q w wc solicited status).recv_cq = q.recv_cq ∨
      ∃ c cs, (finishUdReceive now q w wc solicited status).send_cq = q.send_cq ++ c :: cs := by
  unfold finishUdReceive
  rw [if_neg h]
  split
  · split
    · exact Or.inr ⟨_, [], send_cq_freeRecvWqe _⟩
    · exact Or.inl (recv_cq_freeRecvWqe q)
  have hflush : ∀ X : List Wc, ∃ cs,
      (pibUtilFlushQp now false { q with state := .ERR, send_cq := X }).send_cq = X ++ cs :=
    fun X => send_cq_failQp now { q with send_cq := X }
  obtain ⟨cs, hcs⟩ := hflush (q.send_cq ++ [{ wr_id := w.wr_id, status, opcode := .RECV }])
  dsimp only
  generalize pibUtilFlushQp now false _ = q' at hcs ⊢
  refine Or.inr ⟨{ wr_id := w.wr_id, status, opcode := .RECV }, cs, ?_⟩
  rw [send_cq_freeRecvWqe, hcs, List.append_assoc]
  rfl

/-! ## What becomes of a datagram -/

/-- What the receipt of a datagram should do with the element `w` that is taken for
it: with room for 40 bytes and the payload both are stored and the element
completes with success, and otherwise the datagram is dropped. The element
completes once, on the receive completion queue. -/
structure UdTreats (n n' : UdNode) (w : RecvWqe) (grh : Option (List UInt8)) (payload : List UInt8) :
    Prop where
  delivered : payload.length + 40 ≤ sgeSum w.sge_array →
    n'.mem = placeDatagram n.pd w.sge_array n.mem grh payload
  dropped : sgeSum w.sge_array < payload.length + 40 → n'.qp.state = n.qp.state ∧
    ∀ x, x ∉ listPlaces n.pd w.sge_array → n'.mem x = n.mem x
  completion : ∃ wc solicited, n'.qp.recv_cq = n.qp.recv_cq ++ [(wc, solicited)] ∧
    wc.wr_id = w.wr_id ∧
    (payload.length + 40 ≤ sgeSum w.sge_array →
      wc.status = .SUCCESS ∧ wc.byte_len = payload.length + 40) ∧
    (sgeSum w.sge_array < payload.length + 40 → wc.status ≠ .SUCCESS)
  send_cq : n'.qp.send_cq = n.qp.send_cq

/-- A datagram that passes the checks is treated so exactly if the element has room
for it, and its length counts for what the datagram has. In no case is memory
outside of the element written. -/
theorem ud_treated_iff (now port_num : Nat) {n : UdNode} {p : UdPacket} {src_qp imm_data : Nat}
    {payload : List UInt8} {w : RecvWqe} {q : Qp}
    (hacc : udAccepts port_num n.qp p = some (src_qp, imm_data, payload))
    (htake : takeRecvWqe n.qp = some (w, q)) (hpd : n.pd.Backed)
    (hall : AllUsable n.pd IB_ACCESS_LOCAL_WRITE w.sge_array) (hgrh : ∀ g ∈ p.grh, g.length = 40) :
    let n' := pibReceiveUdQpIncomingMessage now port_num n p
    (UdTreats n n' w p.grh payload ↔ payload.length + 40 ≤ sgeSum w.sge_array ∧
        payload.length ≤ w.total_length ∧ payload.length ≤ PIB_MAX_PAYLOAD_LEN) ∧
      ∀ x, x ∉ listPlaces n.pd w.sge_array → n'.mem x = n.mem x := by
  have hrecv := recv_cq_takeRecvWqe htake
  have hsend := send_cq_takeRecvWqe htake
  unfold pibReceiveUdQpIncomingMessage
  rw [hacc, htake]
  dsimp only
  by_cases hlong : w.total_length < payload.length
  · -- the element is freed, and nobody hears of it
    rw [if_pos hlong]
    refine ⟨⟨fun h => ?_, fun h => absurd hlong (by omega)⟩, fun x _ => rfl⟩
    obtain ⟨wc, solicited, hcq, -⟩ := h.completion
    have hsame : (n.setQp q.freeRecvWqe).qp.recv_cq = n.qp.recv_cq :=
      (recv_cq_freeRecvWqe q).trans hrecv
    rw [hsame] at hcq
    exact absurd hcq.symm (by simp)
  · rw [if_neg hlong]
    have hmem : ∀ x, x ∉ listPlaces n.pd w.sge_array →
        (storeDatagram n.pd n.mem w p.grh payload).2 x = n.mem x :=
      fun x hx => storeDatagram_outside hpd hall hx
    have hmax : (storeDatagram n.pd n.mem w p.grh payload).1 = .SUCCESS →
        payload.length ≤ PIB_MAX_PAYLOAD_LEN := le_max_of_stored
    have hroom : payload.length ≤ PIB_MAX_PAYLOAD_LEN →
        payload.length + 40 ≤ sgeSum w.sge_array → storeDatagram n.pd n.mem w p.grh payload =
          (.SUCCESS, placeDatagram n.pd w.sge_array n.mem p.grh payload) :=
      storeDatagram_room hpd hall hgrh
    generalize storeDatagram n.pd n.mem w p.grh payload = r at hmem hmax hroom ⊢
    obtain ⟨status, mem⟩ := r
    dsimp only at hmem hmax hroom ⊢
    generalize hwc : ({ wr_id := w.wr_id, status := .SUCCESS, opcode := .RECV
                        byte_len := payload.length + 40, ex := imm_data, slid := p.slid, src_qp
                        with_grh := p.grh.isSome
                        with_imm := decide (p.opcode = IB_OPCODE_UD_SEND_ONLY_WITH_IMMEDIATE) } : Wc) = wc
    generalize decide (p.padcnt ≠ 0) = solicited
    refine ⟨⟨fun h => ?_, ?_⟩, hmem⟩
    · obtain ⟨wc', solicited', hcq, -, -, hfail⟩ := h.completion
      have hsq := h.send_cq
      dsimp only at hcq hsq
      by_cases hst : status = .SUCCESS
      · subst hst
        rw [(finishUdReceive_success now q w wc solicited).1, hrecv] at hcq
        have he := List.append_cancel_left hcq
        rw [List.cons.injEq, Prod.mk.injEq] at he
        rw [← he.1.1, ← hwc] at hfail
        refine ⟨?_, by omega, hmax rfl⟩
        by_contra hover
        exact hfail (by omega) rfl
      · exfalso
        rcases finishUdReceive_error now q w wc solicited hst with hsame | ⟨c, cs, hgrow⟩
        · rw [hsame, hrecv] at hcq
          exact absurd hcq.symm (by simp)
        · rw [hgrow, hsend] at hsq
          exact absurd hsq (by simp)
    · rintro ⟨hfits, -, hle⟩
      cases hroom hle hfits
      obtain ⟨hcq, hsq⟩ := finishUdReceive_success now q w wc solicited
      refine ⟨fun _ => rfl, fun hover => absurd hfits (by omega), ?_, hsq.trans hsend⟩
      refine ⟨wc, solicited, hcq.trans (by rw [hrecv]), ?_, ?_, fun hover => absurd hfits (by omega)⟩
      · rw [← hwc]
      · intro _
        rw [← hwc]
        exact ⟨rfl, rfl⟩

/-! ## Two datagrams -/

/-- A datagram queue pair with a receive element of 48 bytes. -/
def udElement : UdNode :=
  { qp :=
      { qp_type := .UD, state := .RTS, attr := { path_mtu := 1, port_num := 1 }
        responder :=
          { recv_wqe := [{ wr_id := 9, total_length := 48, sge_array := [⟨4097, 48, 0⟩] }]
            nr_recv_wqe := 1 } }
    pd := recvPagePd, mem := fun _ => 0 }

/-- A datagram with a Q_Key and a source of zero. -/
def udMessage (payload : List UInt8) : UdPacket :=
  { opcode := IB_OPCODE_UD_SEND_ONLY, psn := 0, buffer := List.replicate 8 0 ++ payload }

/-- Eight bytes behind the place of the GRH fill the element. -/
theorem ud_treated_eight :
    let n' := pibReceiveUdQpIncomingMessage 0 1 udElement (udMessage [1, 2, 3, 4, 5, 6, 7, 8])
    UdTreats udElement n' { wr_id := 9, total_length := 48, sge_array := [⟨4097, 48, 0⟩] } none
      [1, 2, 3, 4, 5, 6, 7, 8] := by
  have hacc : udAccepts 1 udElement.qp (udMessage [1, 2, 3, 4, 5, 6, 7, 8]) =
      some (0, 0, [1, 2, 3, 4, 5, 6, 7, 8]) := by decide
  have hgrh : ∀ g ∈ (udMessage [1, 2, 3, 4, 5, 6, 7, 8]).grh, g.length = 40 := fun g hg => nomatch hg
  have hall : AllUsable udElement.pd IB_ACCESS_LOCAL_WRITE [⟨4097, 48, 0⟩] :=
    recvPage_usable rfl (by decide)
  have hiff := ud_treated_iff 0 1 hacc
    (w := { wr_id := 9, total_length := 48, sge_array := [⟨4097, 48, 0⟩] }) rfl recvPagePd_backed hall
    hgrh
  exact hiff.1.mpr (by decide)

/-- Nine bytes do not fit, but pass the test of the length: the element completes on
the send completion queue, and the queue pair fails. -/
theorem ud_treated_nine :
    let n' := pibReceiveUdQpIncomingMessage 0 1 udElement (udMessage [1, 2, 3, 4, 5, 6, 7, 8, 9])
    n'.qp.state = .ERR ∧ n'.qp.recv_cq = [] ∧
      n'.qp.send_cq.map (fun c => (c.wr_id, c.status)) = [(9, .LOC_PROT_ERR)] ∧
      ¬ UdTreats udElement n' { wr_id := 9, total_length := 48, sge_array := [⟨4097, 48, 0⟩] } none
        [1, 2, 3, 4, 5, 6, 7, 8, 9] := by
  intro n'
  have hcq : n'.qp.recv_cq = [] := by decide
  refine ⟨by decide, hcq, by decide, fun h => ?_⟩
  obtain ⟨wc, solicited, he, -⟩ := h.completion
  rw [hcq] at he
  exact absurd he.symm (by simp [udElement])

end pib
