-- The structure of messages on the wire: the opcodes that the requester
-- chooses for the packets of its work requests, and the sequences of opcodes
-- that the responder's table lets through.
import Pib.RequesterQueue

namespace pib

open Bytes

variable {o last : OpCode} {os : List OpCode} {k : MessageKind} {w w' : SendWqe} {p : RcPacket}
    {whole : Bool}

/-! ## Well-formed messages -/

/-- The messages that can take more than one packet. -/
inductive MessageKind
  | send | write
  deriving DecidableEq, Repr

namespace MessageKind

def first : MessageKind → OpCode
  | send => .SEND_FIRST
  | write => .RDMA_WRITE_FIRST

def middle : MessageKind → OpCode
  | send => .SEND_MIDDLE
  | write => .RDMA_WRITE_MIDDLE

/-- The opcodes of a last packet. -/
def lasts : MessageKind → List OpCode
  | send => [.SEND_LAST, .SEND_LAST_WITH_IMMEDIATE, .SEND_LAST_WITH_INVALIDATE]
  | write => [.RDMA_WRITE_LAST, .RDMA_WRITE_LAST_WITH_IMMEDIATE]

end MessageKind

/-- The opcodes of messages that are one packet. -/
def singles : List OpCode :=
  [.SEND_ONLY, .SEND_ONLY_WITH_IMMEDIATE, .SEND_ONLY_WITH_INVALIDATE, .RDMA_WRITE_ONLY,
   .RDMA_WRITE_ONLY_WITH_IMMEDIATE, .RDMA_READ_REQUEST, .COMPARE_SWAP, .FETCH_ADD]

/-- The opcodes of a well-formed message. -/
inductive Message : List OpCode → Prop
  | single {o : OpCode} : o ∈ singles → Message [o]
  | split (k : MessageKind) (n : Nat) {o : OpCode} : o ∈ k.lasts →
      Message (k.first :: (List.replicate n k.middle ++ [o]))

/-- The two opcodes that lie outside `attr_OpCode`. -/
def invalidates : List OpCode := [.SEND_LAST_WITH_INVALIDATE, .SEND_ONLY_WITH_INVALIDATE]

/-! ## What the responder lets through -/

/-- `pib_opcode_is_in_order_sequence` accepts the opcodes one after the other,
with `last_OpCode` taken over from each packet. -/
def Accepts : OpCode → List OpCode → Prop
  | _, [] => True
  | last_OpCode, o :: os => pibOpcodeIsInOrderSequence o last_OpCode = some true ∧ Accepts o os

/-- A message of this kind has begun and not ended. -/
def MessageKind.IsOpen (k : MessageKind) (last_OpCode : OpCode) : Prop :=
  last_OpCode = k.first ∨ last_OpCode = k.middle

/-- The table marks the opcode as the end of a message. -/
def Ends (o : OpCode) : Prop := ∃ a, attrOpCode o = some a ∧ a.ending = true

theorem accepts_append {os' : List OpCode} :
    Accepts last (os ++ os') ↔ Accepts last os ∧ Accepts ((last :: os).getLast (by simp)) os' := by
  induction os generalizing last with
  | nil => simp [Accepts]
  | cons o os ih =>
    simp only [List.cons_append, Accepts, ih, and_assoc]
    rw [List.getLast_cons (List.cons_ne_nil o os)]

/-- What an opcode that is accepted does: it is a message of its own or starts
one after the end of another, or it goes on with the open message or ends it. -/
inductive InOrder (last : OpCode) : OpCode → Prop
  | single {o : OpCode} : Ends last → o ∈ singles → Ends o → InOrder last o
  | first (k : MessageKind) : Ends last → InOrder last k.first
  | middle (k : MessageKind) : k.IsOpen last → InOrder last k.middle
  | last (k : MessageKind) {o : OpCode} : k.IsOpen last → o ∈ k.lasts → Ends o → InOrder last o

theorem inOrder_of_accepted
    (h : pibOpcodeIsInOrderSequence o last = some true) : InOrder last o := by
  have hstart : ∀ a, attrOpCode o = some a → a.starting = true → Ends last := by
    intro a ha hs
    simp only [pibOpcodeIsInOrderSequence, ha, Option.bind_eq_bind, Option.bind_some, hs,
      Bool.true_or, Bool.not_true, Bool.false_eq_true, if_false, if_true] at h
    rcases hl : attrOpCode last with _ | b
    · simp [hl] at h
    · exact ⟨b, hl, by simpa [hl] using h⟩
  cases o
  case SEND_FIRST => exact .first .send (hstart _ rfl rfl)
  case RDMA_WRITE_FIRST => exact .first .write (hstart _ rfl rfl)
  case SEND_MIDDLE =>
    refine .middle .send ?_
    simpa [pibOpcodeIsInOrderSequence, attrOpCode, MessageKind.IsOpen, MessageKind.first,
      MessageKind.middle] using h
  case RDMA_WRITE_MIDDLE =>
    refine .middle .write ?_
    simpa [pibOpcodeIsInOrderSequence, attrOpCode, MessageKind.IsOpen, MessageKind.first,
      MessageKind.middle] using h
  case SEND_LAST | SEND_LAST_WITH_IMMEDIATE =>
    refine .last .send ?_ (by simp [MessageKind.lasts]) ⟨_, rfl, rfl⟩
    simpa [pibOpcodeIsInOrderSequence, attrOpCode, MessageKind.IsOpen, MessageKind.first,
      MessageKind.middle] using h
  case RDMA_WRITE_LAST | RDMA_WRITE_LAST_WITH_IMMEDIATE =>
    refine .last .write ?_ (by simp [MessageKind.lasts]) ⟨_, rfl, rfl⟩
    simpa [pibOpcodeIsInOrderSequence, attrOpCode, MessageKind.IsOpen, MessageKind.first,
      MessageKind.middle] using h
  case SEND_ONLY | SEND_ONLY_WITH_IMMEDIATE | RDMA_WRITE_ONLY | RDMA_WRITE_ONLY_WITH_IMMEDIATE
      | RDMA_READ_REQUEST | COMPARE_SWAP | FETCH_ADD =>
    exact .single (hstart _ rfl rfl) (by simp [singles]) ⟨_, rfl, rfl⟩
  all_goals simp [pibOpcodeIsInOrderSequence, attrOpCode] at h

theorem not_ends_of_open (h : k.IsOpen o) : ¬Ends o := by
  rintro ⟨a, ha, he⟩
  rcases h with rfl | rfl <;> cases k <;> cases ha <;> exact absurd he (by decide)

theorem isOpen_unique {k' : MessageKind} (h : k.IsOpen o) (h' : k'.IsOpen o) : k = k' := by
  cases k <;> cases k' <;> first
    | rfl
    | (rcases h with rfl | rfl <;> rcases h' with h' | h' <;> cases h')

/-- What is accepted is well formed so far: after the end of a message it is a
prefix of whole messages, and inside one it is a prefix of the rest of the
message and of whole messages. -/
theorem accepts_front :
    ∀ {last : OpCode}, Accepts last os →
      (Ends last → ∃ ms : List (List OpCode), (∀ m ∈ ms, Message m) ∧ os <+: ms.flatten) ∧
      ∀ k : MessageKind, k.IsOpen last → ∃ (n : Nat) (e : OpCode) (ms : List (List OpCode)),
        e ∈ k.lasts ∧ (∀ m ∈ ms, Message m) ∧
          os <+: List.replicate n k.middle ++ [e] ++ ms.flatten := by
  induction os with
  | nil =>
    intro last _
    refine ⟨fun _ => ⟨[], by simp, List.nil_prefix⟩, fun k _ => ?_⟩
    cases k with
    | send => exact ⟨0, .SEND_LAST, [], by simp [MessageKind.lasts], by simp, List.nil_prefix⟩
    | write => exact ⟨0, .RDMA_WRITE_LAST, [], by simp [MessageKind.lasts], by simp, List.nil_prefix⟩
  | cons o os ih =>
    rintro last ⟨ho, hos⟩
    obtain ⟨ihe, iho⟩ := ih hos
    cases inOrder_of_accepted ho with
    | single hlast hs hend =>
      refine ⟨fun _ => ?_, fun k hk => absurd hlast (not_ends_of_open hk)⟩
      obtain ⟨ms, hms, hp⟩ := ihe hend
      exact ⟨[o] :: ms, List.forall_mem_cons.mpr ⟨.single hs, hms⟩, by simpa using hp⟩
    | first k hlast =>
      refine ⟨fun _ => ?_, fun k hk => absurd hlast (not_ends_of_open hk)⟩
      obtain ⟨n, e, ms, he, hms, hp⟩ := iho k (Or.inl rfl)
      refine ⟨(k.first :: (List.replicate n k.middle ++ [e])) :: ms, ?_, by simpa using hp⟩
      exact List.forall_mem_cons.mpr ⟨.split k n he, hms⟩
    | middle k hopen =>
      refine ⟨fun h => absurd h (not_ends_of_open hopen), fun k' hk' => ?_⟩
      obtain rfl := isOpen_unique hopen hk'
      obtain ⟨n, e, ms, he, hms, hp⟩ := iho k (Or.inr rfl)
      exact ⟨n + 1, e, ms, he, hms, by simpa [List.replicate_succ] using hp⟩
    | last k hopen he hend =>
      refine ⟨fun h => absurd h (not_ends_of_open hopen), fun k' hk' => ?_⟩
      obtain rfl := isOpen_unique hopen hk'
      obtain ⟨ms, hms, hp⟩ := ihe hend
      exact ⟨0, o, ms, he, hms, by simpa using hp⟩

/-! ## What the requester sends -/

/-- The work requests that put packets on the wire. -/
def wireOpcodes : List WrOpcode :=
  [.SEND, .SEND_WITH_IMM, .SEND_WITH_INV, .RDMA_WRITE, .RDMA_WRITE_WITH_IMM, .RDMA_READ,
   .ATOMIC_CMP_AND_SWP, .ATOMIC_FETCH_AND_ADD]

/-- An element that `pib_post_send` has filled in for such a work request and
`process_new_send_wr` has started. -/
def Started (w : SendWqe) : Prop :=
  ∃ cfg copyFromUser q total_length wr sges imm_data free w₀ now q',
    fillSwqe cfg copyFromUser q total_length wr sges imm_data free = (w₀, none) ∧
      wr.opcode ∈ wireOpcodes ∧ q'.qp_type = .RC ∧ w = startSending now q' w₀

/-- A call of `pib_process_rc_qp_request` sends the packet `p` and leaves the
element as `w'`, whatever the rest of the node is like at that time. -/
def Sends (w : SendWqe) (p : RcPacket) (w' : SendWqe) : Prop :=
  ∃ cfg now n, n.send_buffer = none ∧ (pibProcessRcQpRequest cfg now n w).1.send_buffer = some p ∧
    (pibProcessRcQpRequest cfg now n w).2 = w'

/-- The opcodes that an element sends in the order of its PSNs. The flag tells
that the element has been sent as a whole. -/
inductive Emits : SendWqe → List OpCode → Bool → Prop
  | stop (w : SendWqe) : Emits w [] false
  /-- The element was used for a local request before, and sends nothing. -/
  | skip {w : SendWqe} : w.local_only_request = true → Emits w [] true
  | last {w w' : SendWqe} {p : RcPacket} : Sends w p w' → w'.processing.list_type = .WAITING →
      Emits w [p.opcode] true
  | more {w w' : SendWqe} {p : RcPacket} {os : List OpCode} {whole : Bool} : Sends w p w' →
      w'.processing.list_type = .SENDING → Emits w' os whole → Emits w (p.opcode :: os) whole

/-- The opcodes that the elements send, one element after the other. -/
inductive EmitsAll : List SendWqe → List OpCode → Bool → Prop
  | nil : EmitsAll [] [] true
  | part {w : SendWqe} {ws : List SendWqe} {os : List OpCode} : Emits w os false →
      EmitsAll (w :: ws) os false
  | cons {w : SendWqe} {ws : List SendWqe} {os os' : List OpCode} {whole : Bool} :
      Emits w os true → EmitsAll ws os' whole → EmitsAll (w :: ws) (os ++ os') whole

/-- What a call that sends a packet does to the element. -/
theorem sends_cases (h : Sends w p w') :
    w.local_only_request = false ∧ requestOpcode w = some p.opcode ∧
      ((w.opcode ≠ .RDMA_READ ∧ u32 (w.processing.sent_packets + 1) < w.processing.all_packets ∧
          w' = { w with processing := { w.processing with
            sent_packets := u32 (w.processing.sent_packets + 1) } }) ∨
        ((w.opcode = .RDMA_READ ∨
            w.processing.all_packets ≤ u32 (w.processing.sent_packets + 1)) ∧
          w'.processing.list_type = .WAITING)) := by
  obtain ⟨cfg, now, n, hn, hp, rfl⟩ := h
  have hlocal : (pibProcessLocalOnlyRequest n w).1.send_buffer = none := by
    unfold pibProcessLocalOnlyRequest
    split
    · exact hn
    · split <;> exact hn
  have hr := processRcQpRequest_cases cfg now n w
  generalize pibProcessRcQpRequest cfg now n w = r at hp hr ⊢
  cases hr with
  | ran _ _ he | failed _ _ he =>
    rw [he] at hlocal
    exact nomatch hlocal.symm.trans hp
  | later | exhausted => exact nomatch hn.symm.trans hp
  | unbuilt => exact nomatch (hn.symm.trans (n.written_send_buffer w).symm).trans hp
  | sent hl _ _ hnext hw =>
    obtain rfl := Option.some.inj hp
    refine ⟨hl, hnext.2, ?_⟩
    rcases hw with ⟨hop, rfl⟩ | ⟨hop, v, rfl, ⟨hlt, rfl⟩ | ⟨hge, rfl⟩⟩
    · exact Or.inr ⟨Or.inl hop, rfl⟩
    · exact Or.inl ⟨hop, hlt, rfl⟩
    · exact Or.inr ⟨Or.inr hge, rfl⟩

/-- What the opcode of a packet is, by the kind and the place of the packet. -/
def MessageKind.At (k : MessageKind) (o : OpCode) : Position → Prop
  | .only => o ∈ singles
  | .first => o = k.first
  | .middle => o = k.middle
  | .last => o ∈ k.lasts

/-- The kind of message that a work request with data makes. -/
def kindOf : WrOpcode → Option MessageKind
  | .SEND | .SEND_WITH_IMM | .SEND_WITH_INV => some .send
  | .RDMA_WRITE | .RDMA_WRITE_WITH_IMM => some .write
  | _ => none

theorem dataOpcode_at {pos : Position} {wo : WrOpcode}
    (hk : kindOf wo = some k) (h : dataOpcode pos wo = some o) : k.At o pos := by
  cases wo <;> cases hk <;> cases pos <;> cases h <;>
    simp [MessageKind.At, singles, MessageKind.lasts, sendOpcode, writeOpcode, MessageKind.first,
      MessageKind.middle]

/-- Of the data opcodes only those of SEND with invalidate lie outside the table. -/
theorem dataOpcode_invalidates {pos : Position} {wo : WrOpcode} (h : dataOpcode pos wo = some o) :
    o ∈ invalidates ↔ wo = .SEND_WITH_INV ∧ pos.isEnd = true := by
  cases wo <;> cases pos <;> cases h <;>
    simp [invalidates, sendOpcode, writeOpcode, Position.isEnd]

/-! ## Both together -/

theorem accepts_starting {a : OpCodeAttr} (ho : attrOpCode o = some a)
    (hs : a.starting = true) (hlast : Ends last) : pibOpcodeIsInOrderSequence o last = some true := by
  obtain ⟨b, hb, he⟩ := hlast
  simp [pibOpcodeIsInOrderSequence, ho, hs, hb, he]

theorem accepts_single (hlast : Ends last) (ho : o ∈ singles)
    (hi : o ∉ invalidates) : pibOpcodeIsInOrderSequence o last = some true ∧ Ends o := by
  simp only [singles, invalidates, List.mem_cons, List.not_mem_nil, or_false] at ho hi
  rcases ho with rfl | rfl | rfl | rfl | rfl | rfl | rfl | rfl
  case inr.inr.inl => exact absurd (Or.inr rfl) hi
  all_goals exact ⟨accepts_starting rfl rfl hlast, ⟨_, rfl, rfl⟩⟩

theorem accepts_first (hlast : Ends last) :
    pibOpcodeIsInOrderSequence k.first last = some true := by
  cases k <;> exact accepts_starting rfl rfl hlast

theorem accepts_middle (hlast : k.IsOpen last) :
    pibOpcodeIsInOrderSequence k.middle last = some true := by
  rcases hlast with rfl | rfl <;> cases k <;> rfl

theorem accepts_last (hlast : k.IsOpen last) (ho : o ∈ k.lasts)
    (hi : o ∉ invalidates) : pibOpcodeIsInOrderSequence o last = some true ∧ Ends o := by
  cases k <;> simp only [MessageKind.lasts, invalidates, List.mem_cons, List.not_mem_nil, or_false]
    at ho hi
  · rcases ho with rfl | rfl | rfl
    case inr.inr => exact absurd (Or.inl rfl) hi
    all_goals rcases hlast with rfl | rfl <;> exact ⟨rfl, ⟨_, rfl, rfl⟩⟩
  · rcases ho with rfl | rfl <;> rcases hlast with rfl | rfl <;> exact ⟨rfl, ⟨_, rfl, rfl⟩⟩

theorem not_invalidates_of_accepts :
    ∀ {last : OpCode}, Accepts last os → ∀ o ∈ os, o ∉ invalidates := by
  induction os with
  | nil => simp
  | cons o os ih =>
    rintro last ⟨ho, hos⟩
    refine List.forall_mem_cons.mpr ⟨fun hi => ?_, ih hos⟩
    simp only [invalidates, List.mem_cons, List.not_mem_nil, or_false] at hi
    rcases hi with rfl | rfl <;> cases ho

/-- An element on its way: what is left of it to send. -/
structure Underway (w : SendWqe) : Prop where
  opcode : w.opcode ∈ wireOpcodes
  left : w.processing.sent_packets < w.processing.all_packets
  small : w.processing.all_packets < 2 ^ 24
  single : kindOf w.opcode = none → w.processing.sent_packets = 0
  atomic : kindOf w.opcode = none → w.opcode ≠ .RDMA_READ → w.processing.all_packets = 1
  remote : 0 < w.processing.sent_packets → w.local_only_request = false
  sending : w.processing.list_type = .SENDING

/-- Where the responder has to be for the next packet of the element. -/
def Fits (w : SendWqe) (last : OpCode) : Prop :=
  if w.processing.sent_packets = 0 then Ends last
  else ∃ k, kindOf w.opcode = some k ∧ k.IsOpen last

theorem requestOpcode_single (hw : w.opcode ∈ wireOpcodes) (hk : kindOf w.opcode = none)
    (h : requestOpcode w = some o) : o ∈ singles ∧ o ∉ invalidates := by
  unfold requestOpcode at h
  cases ho : w.opcode <;> simp only [ho] at h hk hw <;> first
    | (cases hk; done)
    | (cases h; decide)
    | (exact absurd hw (by simp [wireOpcodes]))

theorem requestOpcode_data (hk : kindOf w.opcode = some k) :
    requestOpcode w = dataOpcode (positionOf w.processing) w.opcode := by
  unfold requestOpcode
  cases ho : w.opcode <;> simp only [ho] at hk ⊢ <;> cases hk

/-- The next packet of an element is accepted. Behind it the responder waits
for the packet after it, or for a new message. -/
theorem next_accepted (hw : Underway w) (hf : Fits w last)
    (h : requestOpcode w = some o) (hi : o ∉ invalidates) :
    pibOpcodeIsInOrderSequence o last = some true ∧
      (w.opcode ≠ .RDMA_READ → w.processing.sent_packets + 1 < w.processing.all_packets →
        ∃ k, kindOf w.opcode = some k ∧ k.IsOpen o) ∧
      (w.opcode = .RDMA_READ ∨ w.processing.all_packets ≤ w.processing.sent_packets + 1 →
        Ends o) := by
  have hsmall := hw.small
  have hleft := hw.left
  have hu : u32 (w.processing.sent_packets + 1) = w.processing.sent_packets + 1 := by
    unfold u32
    omega
  unfold Fits at hf
  rcases hk : kindOf w.opcode with _ | k
  · rw [if_pos (hw.single hk)] at hf
    obtain ⟨h1, h2⟩ := accepts_single hf (requestOpcode_single hw.opcode hk h).1 hi
    refine ⟨h1, fun hr hlt => ?_, fun _ => h2⟩
    have := hw.atomic hk hr
    omega
  have hread : w.opcode ≠ .RDMA_READ := by
    intro he
    rw [he] at hk
    cases hk
  rw [requestOpcode_data hk] at h
  have hat := dataOpcode_at hk h
  unfold positionOf at hat
  rw [hu] at hat
  by_cases h1 : w.processing.all_packets = 1
  · rw [if_pos h1] at hat
    rw [if_pos (by omega)] at hf
    obtain ⟨ha, he⟩ := accepts_single hf hat hi
    exact ⟨ha, fun _ hlt => by omega, fun _ => he⟩
  rw [if_neg h1] at hat
  by_cases h2 : w.processing.sent_packets = 0
  · rw [if_pos h2] at hat hf
    obtain rfl : o = k.first := hat
    refine ⟨accepts_first hf, fun _ _ => ⟨k, rfl, Or.inl rfl⟩, ?_⟩
    rintro (h | h)
    · exact absurd h hread
    · omega
  · rw [if_neg h2] at hat hf
    obtain ⟨k', hk', hopen⟩ := hf
    obtain rfl : k' = k := by simpa [hk] using hk'.symm
    by_cases h3 : w.processing.all_packets = w.processing.sent_packets + 1
    · rw [if_pos h3] at hat
      obtain ⟨ha, he⟩ := accepts_last hopen hat hi
      exact ⟨ha, fun _ hlt => by omega, fun _ => he⟩
    rw [if_neg h3] at hat
    obtain rfl : o = k'.middle := hat
    refine ⟨accepts_middle hopen, fun _ _ => ⟨k', rfl, Or.inr rfl⟩, ?_⟩
    rintro (h | h)
    · exact absurd h hread
    · omega

theorem Underway.u32_sent (hw : Underway w) :
    u32 (w.processing.sent_packets + 1) = w.processing.sent_packets + 1 := by
  have hsmall := hw.small
  have hleft := hw.left
  unfold u32
  omega

/-- An element that is still sending after a packet has one packet less to send. -/
theorem sends_more (hw : Underway w) (hs : Sends w p w')
    (hsend : w'.processing.list_type = .SENDING) :
    w.opcode ≠ .RDMA_READ ∧ w.processing.sent_packets + 1 < w.processing.all_packets ∧
      w'.opcode = w.opcode ∧ w'.processing.sent_packets = w.processing.sent_packets + 1 ∧
      Underway w' := by
  obtain ⟨hl, ho, ⟨hr, hlt, rfl⟩ | ⟨-, hwait⟩⟩ := sends_cases hs
  · rw [hw.u32_sent] at hlt ⊢
    refine ⟨hr, hlt, rfl, rfl, ⟨hw.opcode, hlt, hw.small, fun hk => ?_, fun hk h => ?_, fun _ => hl,
      hw.sending⟩⟩
    · have := hw.atomic hk hr
      omega
    · exact hw.atomic hk h
  · rw [hwait] at hsend
    cases hsend

/-- An element that waits after a packet has been sent as a whole. -/
theorem sends_last (hw : Underway w) (hs : Sends w p w')
    (hwait : w'.processing.list_type = .WAITING) :
    w.opcode = .RDMA_READ ∨ w.processing.all_packets ≤ w.processing.sent_packets + 1 := by
  obtain ⟨-, -, ⟨-, -, rfl⟩ | ⟨h, -⟩⟩ := sends_cases hs
  · have h : w.processing.list_type = .WAITING := hwait
    rw [hw.sending] at h
    cases h
  · rwa [hw.u32_sent] at h

/-- The opcodes of one element are accepted, and a whole message ends. -/
theorem emits_accepted (h : Emits w os whole) :
    ∀ {last : OpCode}, Underway w → Fits w last → (∀ o ∈ os, o ∉ invalidates) →
      Accepts last os ∧ (whole = true → Ends ((last :: os).getLast (by simp))) := by
  induction h with
  | stop w => exact fun _ _ _ => ⟨trivial, by simp⟩
  | @skip w hl =>
    intro last hw hf _
    have hzero : w.processing.sent_packets = 0 := by
      by_contra hne
      have h := hw.remote (Nat.pos_of_ne_zero hne)
      rw [hl] at h
      cases h
    rw [Fits, if_pos hzero] at hf
    exact ⟨trivial, fun _ => hf⟩
  | @last w w' p hs hwait =>
    intro last hw hf hi
    obtain ⟨h1, -, h3⟩ := next_accepted hw hf (sends_cases hs).2.1 (hi _ (by simp))
    exact ⟨⟨h1, trivial⟩, fun _ => h3 (sends_last hw hs hwait)⟩
  | @more w w' p os whole hs hsend _ ih =>
    intro last hw hf hi
    obtain ⟨hr, hlt, ho', hsent, hw'⟩ := sends_more hw hs hsend
    obtain ⟨h1, h2, -⟩ := next_accepted hw hf (sends_cases hs).2.1 (hi _ (by simp))
    have hfits : Fits w' p.opcode := by
      rw [Fits, if_neg (by omega), ho']
      exact h2 hr hlt
    obtain ⟨ha, he⟩ := ih hw' hfits fun o ho => hi o (by simp [ho])
    refine ⟨⟨h1, ha⟩, fun hw => ?_⟩
    rw [List.getLast_cons (List.cons_ne_nil _ _)]
    exact he hw

/-- An element sends an opcode outside the table exactly if it is a SEND with
invalidate that gets as far as its last packet. -/
theorem emits_invalidates (h : Emits w os whole) :
    Underway w → ((∃ o ∈ os, o ∈ invalidates) ↔
      w.opcode = .SEND_WITH_INV ∧ w.local_only_request = false ∧ whole = true) := by
  have hone : ∀ {w w' : SendWqe} {p : RcPacket}, Underway w → Sends w p w' →
      (p.opcode ∈ invalidates ↔ w.opcode = .SEND_WITH_INV ∧
        w.processing.all_packets ≤ w.processing.sent_packets + 1) := by
    intro w w' p hw hs
    have ho := (sends_cases hs).2.1
    rcases hk : kindOf w.opcode with _ | k
    · refine ⟨fun h => absurd h (requestOpcode_single hw.opcode hk ho).2, fun h => ?_⟩
      rw [h.1] at hk
      cases hk
    rw [requestOpcode_data hk] at ho
    rw [dataOpcode_invalidates ho]
    refine and_congr_right fun _ => ?_
    have hleft := hw.left
    unfold positionOf
    rw [hw.u32_sent]
    split
    · simp only [Position.isEnd, true_iff]
      omega
    split
    · simp only [Position.isEnd, Bool.false_eq_true, false_iff]
      omega
    split
    · simp only [Position.isEnd, true_iff]
      omega
    · simp only [Position.isEnd, Bool.false_eq_true, false_iff]
      omega
  induction h with
  | stop w => simp
  | skip hl => simp [hl]
  | @last w w' p hs hwait =>
    intro hw
    have hl := (sends_cases hs).1
    simp only [List.mem_singleton, exists_eq_left, hone hw hs, hl, and_true]
    refine and_iff_left_of_imp fun h => (sends_last hw hs hwait).resolve_left ?_
    rw [h]
    exact nofun
  | @more w w' p os whole hs hsend _ ih =>
    intro hw
    obtain ⟨hr, hlt, ho', hsent, hw'⟩ := sends_more hw hs hsend
    have hl := (sends_cases hs).1
    have hl' : w'.local_only_request = false := hw'.remote (by omega)
    have hnot : p.opcode ∉ invalidates := by
      rw [hone hw hs]
      omega
    simp only [List.mem_cons, or_and_right, exists_or, exists_eq_left, hnot, false_or, ih hw', ho',
      hl, hl']

/-- An element that has just been started is on its way. -/
theorem Started.underway (h : Started w) : Underway w ∧ w.processing.sent_packets = 0 := by
  obtain ⟨cfg, copyFromUser, q, total_length, wr, sges, imm_data, free, w₀, now, q', hfill, hwire,
    hrc, rfl⟩ := h
  obtain ⟨-, -, ⟨-, ho, -⟩, -, hlen, htotal⟩ := fillSwqe_ok hfill
  have hpos := pibGetNumOfPackets_pos q'.qp_type q'.attr.path_mtu w₀.total_length
  refine ⟨⟨?_, hpos, pibGetNumOfPackets_lt _ _ hlen, fun _ => rfl, fun hk hr => ?_,
    fun h => absurd h (lt_irrefl 0), rfl⟩, rfl⟩
  · show w₀.opcode ∈ wireOpcodes
    rwa [ho]
  · -- an atomic takes eight bytes, so one packet
    have hk : kindOf w₀.opcode = none := hk
    have hr : w₀.opcode ≠ .RDMA_READ := hr
    rw [ho] at hk hr
    have hatomic : wr.opcode = .ATOMIC_CMP_AND_SWP ∨ wr.opcode = .ATOMIC_FETCH_AND_ADD := by
      simp only [wireOpcodes, List.mem_cons, List.not_mem_nil, or_false] at hwire
      rcases hwire with h | h | h | h | h | h | h | h <;> simp_all [kindOf]
    have height : w₀.total_length = 8 := by rw [htotal, addLength, if_pos hatomic]
    show pibGetNumOfPackets q'.qp_type q'.attr.path_mtu w₀.total_length = 1
    rw [height, pibGetNumOfPackets]
    simp

theorem emitsAll_accepted {ws : List SendWqe}
    (h : EmitsAll ws os whole) : ∀ {last : OpCode}, (∀ w ∈ ws, Started w) → Ends last →
      (∀ o ∈ os, o ∉ invalidates) → Accepts last os := by
  have hfits : ∀ {w : SendWqe} {last : OpCode}, Started w → Ends last → Fits w last := by
    intro w last hw hl
    rw [Fits, if_pos hw.underway.2]
    exact hl
  induction h with
  | nil => exact fun _ _ _ => trivial
  | part h =>
    intro last hws hl hi
    have hw := hws _ List.mem_cons_self
    exact (emits_accepted h hw.underway.1 (hfits hw hl) hi).1
  | cons h _ ih =>
    intro last hws hl hi
    have hw := hws _ List.mem_cons_self
    obtain ⟨ha, he⟩ := emits_accepted h hw.underway.1 (hfits hw hl)
      fun o ho => hi o (List.mem_append_left _ ho)
    rw [accepts_append]
    exact ⟨ha, ih (fun w hw => hws w (List.mem_cons_of_mem _ hw)) (he rfl)
      fun o ho => hi o (List.mem_append_right _ ho)⟩

theorem emitsAll_invalidates {ws : List SendWqe} (h : EmitsAll ws os true)
    (hws : ∀ w ∈ ws, Started w) : (∃ o ∈ os, o ∈ invalidates) ↔
      ∃ w ∈ ws, w.opcode = .SEND_WITH_INV ∧ w.local_only_request = false := by
  generalize hb : true = whole at h
  induction h with
  | nil => simp
  | part h => cases hb
  | @cons w ws os os' whole h _ ih =>
    have hone := emits_invalidates h (hws w List.mem_cons_self).underway.1
    have hrest := ih (fun w hw => hws w (List.mem_cons_of_mem _ hw)) hb
    simp only [and_true] at hone
    simp only [List.mem_append, or_and_right, exists_or, List.mem_cons, exists_eq_left, hone, hrest]

/-- The opcodes that the requester sends for any list of work requests are
accepted from the reset state on exactly if none of them is that of a SEND with
invalidate. Conversely, whatever is accepted from the reset state on is a prefix
of well-formed messages. -/
theorem message_structure (cfg : Config) (q : Qp) {ws : List SendWqe} {os : List OpCode}
    {whole : Bool} (hws : ∀ w ∈ ws, Started w) (h : EmitsAll ws os whole) :
    (Accepts (resetQpAttr cfg q).responder.last_OpCode os ↔ ∀ o ∈ os, o ∉ invalidates) ∧
      (whole = true → (Accepts (resetQpAttr cfg q).responder.last_OpCode os ↔
        ∀ w ∈ ws, w.opcode = .SEND_WITH_INV → w.local_only_request = true)) ∧
      ∀ os' : List OpCode, Accepts (resetQpAttr cfg q).responder.last_OpCode os' →
        ∃ ms : List (List OpCode), (∀ m ∈ ms, Message m) ∧ os' <+: ms.flatten := by
  have hreset : Ends (resetQpAttr cfg q).responder.last_OpCode := ⟨_, rfl, rfl⟩
  have hiff : Accepts (resetQpAttr cfg q).responder.last_OpCode os ↔ ∀ o ∈ os, o ∉ invalidates :=
    ⟨not_invalidates_of_accepts, emitsAll_accepted h hws hreset⟩
  refine ⟨hiff, ?_, fun os' h' => (accepts_front h').1 hreset⟩
  rintro rfl
  have hinv := emitsAll_invalidates h hws
  rw [hiff]
  constructor
  · intro hn w hw ho
    by_contra hl
    obtain ⟨o, hmem, hi⟩ := hinv.mpr ⟨w, hw, ho, by simpa using hl⟩
    exact hn o hmem hi
  · intro hn o hmem hi
    obtain ⟨w, hw, ho, hl⟩ := hinv.mp ⟨o, hmem, hi⟩
    rw [hn w hw ho] at hl
    cases hl

/-- An empty SEND followed by an RDMA READ of 600 bytes. -/
def sendThenRead : List SendWr :=
  [{ wr_id := 1, opcode := .SEND, sg_list := [{ addr := 0, length := 0, lkey := 0 }] },
   { wr_id := 2, opcode := .RDMA_READ, sg_list := [{ addr := 0, length := 600, lkey := 0 }] }]

def idleNode : Node := { qp := {}, pd := ⟨0, fun _ => none⟩, mem := fun _ => 0 }

/-- The work request as a free element of a new queue pair takes it up. -/
def startedFor (wr : SendWr) : SendWqe :=
  startSending 0 {} (fillSwqe {} (fun _ _ => none) {} 0 wr wr.sg_list wr.ex { trace_id := 1 }).1

theorem message_structure_sendThenRead :
    EmitsAll (sendThenRead.map startedFor) [.SEND_ONLY, .RDMA_READ_REQUEST] true ∧
      Accepts (resetQpAttr {} {}).responder.last_OpCode [.SEND_ONLY, .RDMA_READ_REQUEST] := by
  have hsend : Emits (startedFor sendThenRead[0]) [.SEND_ONLY] true :=
    .last (p := { opcode := .SEND_ONLY, psn := 0 }) ⟨{}, 0, idleNode, rfl, rfl, rfl⟩ rfl
  have hread : Emits (startedFor sendThenRead[1]) [.RDMA_READ_REQUEST] true :=
    .last (p := { opcode := .RDMA_READ_REQUEST, psn := 0, buffer := be 8 0 ++ be 4 0 ++ be 4 600 })
      ⟨{}, 0, idleNode, rfl, rfl, rfl⟩ rfl
  have hall : EmitsAll (sendThenRead.map startedFor) [.SEND_ONLY, .RDMA_READ_REQUEST] true :=
    .cons hsend (.cons hread .nil)
  have htaken : ∀ wr ∈ sendThenRead, wr.opcode ∈ wireOpcodes ∧
      (fillSwqe {} (fun _ _ => none) {} 0 wr wr.sg_list wr.ex { trace_id := 1 }).2 = none := by
    decide
  have hstarted : ∀ w ∈ sendThenRead.map startedFor, Started w := by
    intro w hw
    obtain ⟨wr, hwr, rfl⟩ := List.mem_map.mp hw
    exact ⟨{}, fun _ _ => none, {}, 0, wr, wr.sg_list, wr.ex, { trace_id := 1 }, _, 0, {},
      Prod.ext rfl (htaken wr hwr).2, (htaken wr hwr).1, rfl, rfl⟩
  exact ⟨hall, (message_structure {} {} hstarted hall).1.mpr (by decide)⟩

/-- A SEND with invalidate is posted to a queue pair in RTS and sent. -/
def invalidateRun : List (Nat × Act) :=
  bringUp { timeout := 14, retry_cnt := 7, path_mtu := 1 } ++
    [(1, .postSend (fun _ _ => none)
        [{ wr_id := 9, opcode := .SEND_WITH_INV, sg_list := [{ addr := 0, length := 0, lkey := 0 }] }]),
     (2, .schedule)]

theorem invalidate_not_accepted :
    let n := Run.run (step {} ibStateTable) (created {} {} none ⟨0, fun _ => none⟩ fun _ => 0)
      invalidateRun
    n.send_buffer.map (·.opcode) = some .SEND_ONLY_WITH_INVALIDATE ∧
      ¬Accepts (resetQpAttr {} {}).responder.last_OpCode [.SEND_ONLY_WITH_INVALIDATE] ∧
      pibOpcodeIsInOrderSequence .SEND_ONLY_WITH_INVALIDATE .SEND_ONLY = none :=
  ⟨by decide, fun h => absurd h.1 (by decide), rfl⟩

end pib
