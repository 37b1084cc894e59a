-- The send buffer between the functions that put a packet together and
-- `process_sendmsg`: a packet belongs to the turn of the thread that composed
-- it. A port that is not up keeps `ready_to_send` set, and the buffer then goes
-- out in a later turn, with whatever has been written over it.
import Pib.SendBuffer
import Pib.ReceivePath
import Pib.Lib.Run

namespace pib

open Bytes

/-! ## What the thread finds when it sends -/

/-- `enum ib_port_state`. -/
inductive PortState
  | NOP | DOWN | INIT | ARMED | ACTIVE | ACTIVE_DEFER
  deriving DecidableEq, Repr

def PIB_MCAST_LID_BASE : Nat := 0xC000

/-- The ports of the device and the tables of addresses at one moment. Socket
addresses are numbers. -/
structure Net where
  ports : Nat → Port := fun _ => {}
  state : Nat → PortState := fun _ => .DOWN
  sockaddr : Nat → Nat := fun _ => 0
  lid_table : Nat → Option Nat := fun _ => none
  easy_sw : Option Nat := none
  multi_host_mode : Bool := false
  netd_sockaddr : Option Nat := none

/-- `get_sockaddr_from_dlid`. -/
def getSockaddrFromDlid (net : Net) (port_num src_qp_num dlid : Nat) : Option Nat :=
  if net.multi_host_mode then net.netd_sockaddr
  else
    let sockaddr :=
      if src_qp_num = PIB_QP0 then none
      else if dlid = 0 then some (net.sockaddr port_num)
      else if dlid = (net.ports port_num).lid then some (net.sockaddr port_num)
      else if dlid < PIB_MCAST_LID_BASE then net.lid_table dlid
      else none
    -- multicast packets or packets to switch
    sockaddr.or net.easy_sw

/-- The sending side of `dev->thread`. -/
structure SendThread where
  send_buffer : Mem
  port_num : Nat := 0
  src_qp_num : Nat := 0
  slid : Nat := 0
  dlid : Nat := 0
  trace_id : Nat := 0
  ready_to_send : Bool := false

/-! ## Composing -/

/-- The send buffer after `pib_process_rc_qp_request`, also when it failed
half-way. -/
def touchedByRequest (ports : Nat → Port) (n : Node) (w : SendWqe) (buf : Mem) : Mem :=
  if w.local_only_request = true ∨ w.processing.retry_cnt < 0 ∨ w.processing.rnr_retry < 0 then buf
  else (composeRequest ports n w buf).2

/-- The send buffer after `pib_generate_rc_qp_acknowledge`, also when the data
of an RDMA READ could not be copied. -/
def touchedByAcknowledge (ports : Nat → Port) (n : Node) (buf : Mem) : Mem :=
  if pibIsRecvOk n.qp.state = false then buf
  else
    match n.qp.responder.acks with
    | [] => buf
    | ack :: _ =>
      if ack.type = .RDMA_READ then
        if PIB_MAX_CONTIG_READ_ACKS < n.qp.responder.nr_contig_read_acks then buf
        else (composeReadResponse ports n ack buf).2
      else composeNormalOrAtomic ports n.qp ack buf

/-- The send buffer after an attempt to put a packet together. -/
def Outgoing.touched (cfg : Config) (ports : Nat → Port) (buf : Mem) : Outgoing → Mem
  | request n w => touchedByRequest ports n w buf
  | acknowledge n => touchedByAcknowledge ports n buf
  | cnp q => composeCnp ports q buf
  | datagram n qp_num w => (composeUd cfg ports n qp_num w buf).2

/-- The port and the DLID that a packet is sent with. -/
def Outgoing.route (cfg : Config) : Outgoing → Nat × Nat
  | request n _ => (n.qp.attr.port_num, n.qp.attr.ah_attr.dlid)
  | acknowledge n => (n.qp.attr.port_num, n.qp.attr.ah_attr.dlid)
  | cnp q => (q.attr.port_num, q.attr.ah_attr.dlid)
  | datagram n _ w => ((udRoute cfg n w).map fun ah => (ah.attr.port_num, ah.attr.dlid)).getD (0, 0)

/-- One attempt of the thread to put a packet together: for a queue pair, or a
link packet for `pibnetd`. -/
inductive Attempt
  | packet (o : Outgoing) (qp_num trace_id : Nat)
  | link (port_num : Nat) (disconnect : Bool)

/-- `PIB_LINK_CMD_CONNECT` and `PIB_LINK_CMD_DISCONNECT`. -/
def linkCmd (disconnect : Bool) : Nat := if disconnect then 3 else 1

/-- The packet of `send_raw_packet_to_pibnetd`: an LRH and the command. -/
def composeLink (disconnect : Bool) (buf : Mem) : Mem :=
  let buf := write buf 0 (List.replicate LRH_SIZE 0)
  let buf := write buf 0 (be 2 IB_LID_PERMISSIVE)
  let buf := write buf 4 (be 2 IB_LID_PERMISSIVE)
  let buf := write buf LRH_SIZE (be 4 (linkCmd disconnect))
  pibPacketLrhSetPktlen ((LRH_SIZE + 4) / 4) buf

namespace Attempt

/-- The attempt gets as far as setting `ready_to_send`. -/
def completes (cfg : Config) (net : Net) (t : SendThread) : Attempt → Bool
  | packet o _ _ => (o.compose cfg net.ports t.send_buffer).isSome
  | link _ _ => true

/-- The thread after an attempt. Only one that completes sets the addresses. -/
def compose (cfg : Config) (net : Net) (t : SendThread) : Attempt → SendThread
  | packet o qp_num trace_id =>
    let send_buffer := o.touched cfg net.ports t.send_buffer
    if (o.compose cfg net.ports t.send_buffer).isSome then
      let (port_num, dlid) := o.route cfg
      { send_buffer, port_num, src_qp_num := qp_num, slid := (net.ports port_num).lid, dlid, trace_id
        ready_to_send := true }
    else { t with send_buffer }
  | link port_num disconnect =>
    { t with
      send_buffer := composeLink disconnect t.send_buffer
      port_num
      src_qp_num := PIB_LINK_QP
      slid := IB_LID_PERMISSIVE
      dlid := IB_LID_PERMISSIVE
      ready_to_send := true }

theorem compose_ready (cfg : Config) (net : Net) (t : SendThread) (a : Attempt) :
    (a.compose cfg net t).ready_to_send = (a.completes cfg net t || t.ready_to_send) := by
  cases a with
  | packet o qp_num trace_id =>
    unfold compose completes
    by_cases h : (o.compose cfg net.ports t.send_buffer).isSome = true
    · simp [h]
    · simp [h]
  | link port_num disconnect => simp [compose, completes]

end Attempt

/-! ## `process_sendmsg` -/

/-- The size that the LRH in the send buffer gives. -/
def msgSize (buf : Mem) : Nat := pibPacketLrhGetPktlen (Lrh.decode (read buf 0 LRH_SIZE)) * 4

/-- What a port in this state lets through: nothing but link packets when it is
down, and management packets too before it is active. -/
def transmits : PortState → Nat → Bool
  | .DOWN, src_qp_num => src_qp_num = PIB_LINK_QP
  | .INIT, src_qp_num | .ARMED, src_qp_num => src_qp_num = PIB_QP0 ∨ src_qp_num = PIB_LINK_QP
  | .ACTIVE, _ => true
  | _, _ => false

/-- A message that was handed to the socket, with the address it goes to. -/
structure Handed where
  sockaddr : Nat
  message : List UInt8
  deriving DecidableEq, Repr

namespace SendThread

/-- The label `done`. -/
def done (t : SendThread) : SendThread := { t with trace_id := 0, ready_to_send := false }

/-- A packet without LIDs that is neither for management nor for the link. -/
def Unaddressed (t : SendThread) : Prop :=
  t.src_qp_num ≠ PIB_QP0 ∧ t.src_qp_num ≠ PIB_LINK_QP ∧ (t.slid = 0 ∨ t.dlid = 0)

instance (t : SendThread) : Decidable t.Unaddressed :=
  inferInstanceAs (Decidable (_ ∧ _ ∧ (_ ∨ _)))

/-- `process_sendmsg`: the thread, and what it handed to the socket. `sent` says
whether `kernel_sendmsg` took the first message. -/
def processSendmsg (net : Net) (sent : Bool) (t : SendThread) : SendThread × List Handed :=
  if t.Unaddressed then (t.done, [])
  -- these two leave without the label `done`
  else if transmits (net.state t.port_num) t.src_qp_num = false then (t, [])
  else
    match pib.processSendmsg ((net.ports t.port_num).gid 0) t.send_buffer with
    | none => (t, [])
    | some message =>
      let footer := be 8 ((net.ports t.port_num).gid 0)
      let t := { t with send_buffer := write t.send_buffer (msgSize t.send_buffer) footer }
      match getSockaddrFromDlid net t.port_num t.src_qp_num t.dlid with
      | none => (t.done, [])
      | some sockaddr =>
        if sent = false ∨ pibIsUnicastLid t.dlid then (t.done, [{ sockaddr, message }])
        -- another queue pair of this device may be in the multicast group
        else (t.done, [{ sockaddr, message }, { sockaddr := net.sockaddr t.port_num, message }])

end SendThread

/-- A packet in the send buffer, with the port and the LIDs it was composed
for. -/
structure SentPacket where
  bytes : List UInt8
  port_num : Nat
  src_qp_num : Nat
  slid : Nat
  dlid : Nat

/-- The packet that the thread is ready to send. -/
def SendThread.packet (t : SendThread) : SentPacket :=
  { bytes := read t.send_buffer 0 (msgSize t.send_buffer), port_num := t.port_num
    src_qp_num := t.src_qp_num, slid := t.slid, dlid := t.dlid }

/-- The message of a packet: its bytes, and the GUID of its port. -/
def SentPacket.message (net : Net) (p : SentPacket) : List UInt8 :=
  p.bytes ++ be 8 ((net.ports p.port_num).gid 0)

/-- What may be handed to the socket for a packet: nothing, or its message, to
the address of its DLID, and for a multicast group once more to the own port. -/
inductive SentPacket.Hands (net : Net) (p : SentPacket) : List Handed → Prop
  | nothing : Hands net p []
  | once {sockaddr : Nat} (h : getSockaddrFromDlid net p.port_num p.src_qp_num p.dlid = some sockaddr) :
      Hands net p [{ sockaddr, message := p.message net }]
  | multicast {sockaddr : Nat} (hm : pibIsUnicastLid p.dlid = false)
      (h : getSockaddrFromDlid net p.port_num p.src_qp_num p.dlid = some sockaddr) :
      Hands net p [{ sockaddr, message := p.message net },
        { sockaddr := net.sockaddr p.port_num, message := p.message net }]

/-- What `process_sendmsg` keeps for later: a packet with addresses that the port
does not let through, or that has no length. -/
def Net.Refuses (net : Net) (t : SendThread) : Prop :=
  ¬ t.Unaddressed ∧
    (transmits (net.state t.port_num) t.src_qp_num = false ∨ msgSize t.send_buffer = 0 ∨
      PIB_PACKET_BUFFER < msgSize t.send_buffer)

instance (net : Net) (t : SendThread) : Decidable (net.Refuses t) :=
  inferInstanceAs (Decidable (_ ∧ _))

theorem processSendmsg_none {port_guid : Nat} {buf : Mem} (h : processSendmsg port_guid buf = none) :
    msgSize buf = 0 ∨ PIB_PACKET_BUFFER < msgSize buf := by
  unfold processSendmsg at h
  dsimp only at h
  split at h
  · assumption
  · nomatch h

/-- The message is what the send buffer held up to its size, and the footer. -/
theorem processSendmsg_some {port_guid : Nat} {buf : Mem} {message : List UInt8}
    (h : processSendmsg port_guid buf = some message) :
    ¬ (msgSize buf = 0 ∨ PIB_PACKET_BUFFER < msgSize buf) ∧
      message = read buf 0 (msgSize buf) ++ be 8 port_guid := by
  unfold processSendmsg at h
  dsimp only at h
  split at h
  · nomatch h
  rename_i hsize
  refine ⟨hsize, ?_⟩
  have hfooter : (be 8 port_guid).length = FOOTER_SIZE := length_be 8 port_guid
  rw [← Option.some.inj h]
  show read (write buf (msgSize buf) (be 8 port_guid)) 0 (msgSize buf + FOOTER_SIZE) = _
  rw [read_add, Nat.zero_add, ← hfooter, read_write_same]
  refine congrArg (· ++ be 8 port_guid) ?_
  apply List.map_congr_left
  intro i hi
  have hlt : i < msgSize buf := List.mem_range.mp hi
  exact write_outside (Or.inl (by omega))

/-- What a call of `process_sendmsg` does: it keeps the thread as it is when it
refuses, and otherwise gives the send buffer free and hands over nothing but the
packet in it. -/
theorem SendThread.processSendmsg_cases (net : Net) (sent : Bool) (t : SendThread) :
    (net.Refuses t ∧ t.processSendmsg net sent = (t, [])) ∨
      ¬ net.Refuses t ∧ (t.processSendmsg net sent).1.ready_to_send = false ∧
        t.packet.Hands net (t.processSendmsg net sent).2 := by
  unfold SendThread.processSendmsg
  by_cases haddr : t.Unaddressed
  · rw [if_pos haddr]
    exact Or.inr ⟨fun h => h.1 haddr, rfl, .nothing⟩
  rw [if_neg haddr]
  by_cases hport : transmits (net.state t.port_num) t.src_qp_num = false
  · rw [if_pos hport]
    exact Or.inl ⟨⟨haddr, Or.inl hport⟩, rfl⟩
  rw [if_neg hport]
  cases hmsg : pib.processSendmsg ((net.ports t.port_num).gid 0) t.send_buffer with
  | none => exact Or.inl ⟨⟨haddr, Or.inr (processSendmsg_none hmsg)⟩, rfl⟩
  | some message =>
    obtain ⟨hsize, hbytes⟩ := processSendmsg_some hmsg
    have hmessage : message = t.packet.message net := hbytes
    have hfree : ¬ net.Refuses t := fun h => h.2.elim hport hsize
    refine Or.inr ⟨hfree, ?_⟩
    dsimp only
    cases hsock : getSockaddrFromDlid net t.port_num t.src_qp_num t.dlid with
    | none => exact ⟨rfl, .nothing⟩
    | some sockaddr =>
      dsimp only
      rw [hmessage]
      by_cases huni : sent = false ∨ pibIsUnicastLid t.dlid = true
      · rw [if_pos huni]
        exact ⟨rfl, .once hsock⟩
      rw [if_neg huni]
      have hmulti : pibIsUnicastLid t.dlid = false := by
        cases h : pibIsUnicastLid t.dlid with
        | false => rfl
        | true => exact absurd (Or.inr h) huni
      exact ⟨rfl, .multicast hmulti hsock⟩

/-! ## Runs of the thread -/

/-- A call of `process_sendmsg`: what was composed since the call before it,
what it handed to the socket, and `ready_to_send` when it returned. -/
structure SendCall where
  net : Net
  since : List SentPacket
  handed : List Handed
  ready_to_send : Bool

/-- The call gave the send buffer free, and what it handed over is the one
packet that had been composed. -/
structure SendCall.Owned (c : SendCall) : Prop where
  free : c.ready_to_send = false
  packet : c.handed = [] ∨ ∃ p, c.since = [p] ∧ p.Hands c.net c.handed

/-- The thread with the packets composed since the last call, and all calls. -/
structure Sending where
  thread : SendThread
  since : List SentPacket := []
  calls : List SendCall := []

/-- One turn of the thread: an iteration of `process_on_qp_scheduler`, a message
received for a queue pair, or a packet for `pibnetd`. At most one packet is put
together in a turn. The ports and tables are those of the moment. -/
structure Turn where
  net : Net
  attempt : Option Attempt
  sent : Bool := true

namespace Sending

/-- The first part of a turn. -/
def compose (cfg : Config) (s : Sending) (l : Turn) : Sending :=
  match l.attempt with
  | none => s
  | some a =>
    let thread := a.compose cfg l.net s.thread
    { s with thread, since := if a.completes cfg l.net s.thread then s.since ++ [thread.packet] else s.since }

/-- The second part of a turn: `if (dev->thread.ready_to_send)`. -/
def send (l : Turn) (s : Sending) : Sending :=
  if s.thread.ready_to_send then
    let (thread, handed) := s.thread.processSendmsg l.net l.sent
    { thread
      calls := s.calls ++
        [{ net := l.net, since := s.since, handed, ready_to_send := thread.ready_to_send }] }
  else s

/-- A turn of the thread. -/
def step (cfg : Config) (s : Sending) (l : Turn) : Sending := (s.compose cfg l).send l

/-- The thread after `pib_create_kthread`: the buffer is not cleared. -/
def start (send_buffer : Mem) : Sending := { thread := { send_buffer } }

/-- Nothing is left of the turns before, and all calls owned what they sent. -/
structure Idle (s : Sending) : Prop where
  free : s.thread.ready_to_send = false
  since : s.since = []
  owned : ∀ c ∈ s.calls, c.Owned

/-- The packet that this turn composes is not refused. -/
def Clear (cfg : Config) (s : Sending) (l : Turn) : Prop :=
  ∀ a ∈ l.attempt, a.completes cfg l.net s.thread = true →
    ¬ l.net.Refuses (a.compose cfg l.net s.thread)

variable {cfg : Config} {s : Sending} {l : Turn}

@[simp] theorem calls_compose : (s.compose cfg l).calls = s.calls := by
  unfold compose
  split <;> rfl

theorem send_of_free (h : s.thread.ready_to_send = false) : s.send l = s := by
  unfold send
  rw [h]
  rfl

/-- A call that is refused is no call that owned its packet. -/
theorem send_of_refuses (hr : s.thread.ready_to_send = true) (h : l.net.Refuses s.thread) :
    ∃ c ∈ (s.send l).calls, ¬ c.Owned := by
  rcases s.thread.processSendmsg_cases l.net l.sent with ⟨-, heq⟩ | ⟨hn, -⟩
  · refine ⟨{ net := l.net, since := s.since, handed := [], ready_to_send := s.thread.ready_to_send },
      ?_, ?_⟩
    · unfold send
      rw [if_pos hr, heq]
      exact List.mem_append_right _ (List.mem_singleton.mpr rfl)
    · intro howned
      have hfree : s.thread.ready_to_send = false := howned.free
      rw [hr] at hfree
      nomatch hfree
  · exact absurd h hn

/-- One that is not refused owned the packet that was just composed. -/
theorem send_of_not_refuses (hr : s.thread.ready_to_send = true) (h : ¬ l.net.Refuses s.thread)
    (hsince : s.since = [s.thread.packet]) (howned : ∀ c ∈ s.calls, c.Owned) : (s.send l).Idle := by
  rcases s.thread.processSendmsg_cases l.net l.sent with ⟨hn, -⟩ | ⟨-, hfree, hhands⟩
  · exact absurd hn h
  unfold send
  rw [if_pos hr]
  refine ⟨hfree, rfl, ?_⟩
  intro c hc
  rcases List.mem_append.mp hc with hold | hnew
  · exact howned c hold
  · rw [List.mem_singleton.mp hnew]
    exact ⟨hfree, Or.inr ⟨s.thread.packet, hsince, hhands⟩⟩

/-- A turn that does not complete a packet sends nothing when it finds the buffer
free; one that does calls `process_sendmsg` for it. -/
theorem compose_cases (hs : s.Idle) (l : Turn) :
    ((s.compose cfg l).Idle ∧ Clear cfg s l) ∨
      ∃ a, l.attempt = some a ∧ a.completes cfg l.net s.thread = true ∧
        (s.compose cfg l).thread = a.compose cfg l.net s.thread ∧
        (s.compose cfg l).thread.ready_to_send = true ∧
        (s.compose cfg l).since = [(s.compose cfg l).thread.packet] := by
  cases ha : l.attempt with
  | none =>
    refine Or.inl ⟨?_, fun a h => by rw [ha] at h; nomatch h⟩
    unfold compose
    rw [ha]
    exact hs
  | some a =>
    have hready := a.compose_ready cfg l.net s.thread
    unfold compose
    simp only [ha]
    by_cases hc : a.completes cfg l.net s.thread = true
    · refine Or.inr ⟨a, rfl, hc, rfl, ?_, ?_⟩
      · rw [hready, hc, Bool.true_or]
      · rw [if_pos hc, hs.since]
        rfl
    refine Or.inl ⟨⟨?_, ?_, hs.owned⟩, ?_⟩
    · rw [Bool.not_eq_true] at hc
      show (a.compose cfg l.net s.thread).ready_to_send = false
      rw [hready, hc, hs.free, Bool.or_false]
    · show (if a.completes cfg l.net s.thread = true then _ else s.since) = []
      rw [if_neg hc]
      exact hs.since
    · intro b hb hcb
      rw [ha, Option.mem_some] at hb
      rw [← hb] at hcb
      exact absurd hcb hc

/-- From an idle thread, a turn leaves the thread idle if its packet is not
refused, and otherwise makes a call that does not own what it holds. -/
theorem step_cases (hs : s.Idle) (l : Turn) :
    (Clear cfg s l ∧ (step cfg s l).Idle) ∨
      ¬ Clear cfg s l ∧ ∃ c ∈ (step cfg s l).calls, ¬ c.Owned := by
  unfold step
  rcases compose_cases hs l with ⟨hidle, hclear⟩ | ⟨a, ha, hc, hthread, hready, hsince⟩
  · rw [send_of_free hidle.free]
    exact Or.inl ⟨hclear, hidle⟩
  by_cases href : l.net.Refuses (s.compose cfg l).thread
  · refine Or.inr ⟨fun hclear => ?_, send_of_refuses hready href⟩
    rw [hthread] at href
    exact hclear a ha hc href
  refine Or.inl ⟨?_, send_of_not_refuses hready href hsince (by simpa using hs.owned)⟩
  intro b hb _
  rw [ha, Option.mem_some] at hb
  rw [← hb, ← hthread]
  exact href

/-- Calls are only added. -/
theorem calls_step (cfg : Config) (s : Sending) (l : Turn) : s.calls ⊆ (step cfg s l).calls := by
  intro c hc
  unfold step send
  split
  · exact List.mem_append_left _ (by rwa [calls_compose])
  · rwa [calls_compose]

theorem calls_run (cfg : Config) (s : Sending) (ls : List Turn) :
    s.calls ⊆ (Run.run (step cfg) s ls).calls := by
  apply @Run.always _ _ (step cfg) (fun s' => s.calls ⊆ s'.calls) ?_ s (List.Subset.refl _) ls
  intro s' l hsub
  exact fun c hc => calls_step cfg s' l (hsub hc)

/-- The calls of a run own what they send as long as no packet is refused. -/
theorem run_owned_iff (hs : s.Idle) (ls : List Turn) :
    (∀ c ∈ (Run.run (step cfg) s ls).calls, c.Owned) ↔ Run.Meets (step cfg) (Clear cfg) s ls := by
  induction ls generalizing s with
  | nil => exact ⟨fun _ => trivial, fun _ => hs.owned⟩
  | cons l ls ih =>
    rw [Run.run_cons, Run.Meets]
    rcases step_cases hs l with ⟨hclear, hidle⟩ | ⟨hblocked, c, hc, hlost⟩
    · rw [ih hidle]
      exact ⟨fun h => ⟨hclear, h⟩, fun h => h.2⟩
    constructor
    · intro h
      exact absurd (h c (calls_run cfg _ ls hc)) hlost
    · intro h
      exact absurd h.1 hblocked

/-- In a run of the thread every call of `process_sendmsg` gives the send buffer
free and hands over nothing but the one packet composed since the call before
it, exactly if no packet is refused by its port. -/
theorem send_buffer_owned_iff (cfg : Config) (send_buffer : Mem) (ls : List Turn) :
    (∀ c ∈ (Run.run (step cfg) (start send_buffer) ls).calls, c.Owned) ↔
      Run.Meets (step cfg) (Clear cfg) (start send_buffer) ls := by
  apply run_owned_iff
  refine ⟨rfl, rfl, ?_⟩
  simp [start]

/-- Port 1 in this state, port 2 active. LID 7 and LID 8 have addresses. -/
def twoPorts (state : PortState) : Net :=
  { ports := fun _ => { lid := 3 }
    state := fun i => if i = 1 then state else .ACTIVE
    lid_table := fun lid => some (100 + lid) }

/-- A queue pair on this port that has one acknowledge to send. -/
def answers (port_num dlid : Nat) (ack : Ack) : Node :=
  { qp :=
      { state := .RTS
        attr := { port_num, dest_qp_num := 9, ah_attr := { dlid } }
        responder := { acks := [ack] } }
    pd := { nr_mr := 0, mr_table := fun _ => none }
    mem := fun _ => 0 }

/-- An acknowledge to LID 7 while port 1 is down. Then port 1 comes up, and a
queue pair on port 2 cannot read the memory for a response to LID 8. -/
def downThenUp : List Turn :=
  [{ net := twoPorts .DOWN
     attempt := some (.packet
       (.acknowledge (answers 1 7 { type := .NORMAL, psn := 5, expected_psn := 6 })) 4 0) },
   { net := twoPorts .ACTIVE
     attempt := some (.packet
       (.acknowledge (answers 2 8 { type := .RDMA_READ, psn := 5, expected_psn := 6, size := 4 })) 6 0) }]

/-- The first call returns with the buffer still ready. The second one sends to
the address of LID 7, although nothing was composed in between, and the LRH of
what it sends names LID 8. -/
theorem half_written_packet_sent :
    ((Run.run (step {}) (start fun _ => 0) downThenUp).calls.map fun c =>
        (c.since.length, c.ready_to_send, c.handed.map fun h => (h.sockaddr, h.message.take 2))) =
      [(1, true, []), (0, false, [(107, [0, 8])])] ∧
    ¬ ∀ c ∈ (Run.run (step {}) (start fun _ => 0) downThenUp).calls, c.Owned := by
  constructor
  · decide
  · intro h
    have hcall := h _ (List.mem_cons_self ..)
    exact absurd hcall.free (by decide)

end Sending

end pib
