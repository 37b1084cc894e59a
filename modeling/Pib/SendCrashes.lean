-- The send path does not crash: what the calls must not ask for, and why no
-- turn of the scheduler then runs into `BUG()` or reads outside `gid[]`,
-- `pkey_table[]` or the inline data of an element.
import Pib.PsnWindow
import Pib.UdQueue

namespace pib

open Bytes

variable (cfg : Config) (copyFromUser : Nat → Nat → Option (List UInt8)) (now : Nat) {w : SendWqe}
    {n : Node} {q : Qp} {attr : ModifyAttr} {mask : AttrMask}

variable {c : Ctx} {s s' : SendQ}

/-! ## Elements that fit -/

/-- The element goes over the wire with data of its own. -/
def SendWqe.IsData (w : SendWqe) : Prop :=
  w.local_only_request = false ∧ (dataOpcode .only w.opcode).isSome = true

/-- Inline data of the whole length is there. -/
def SendWqe.InlineFits (w : SendWqe) : Prop :=
  w.send_flags.INLINE = true → w.total_length ≤ w.inline_data_buffer.length

/-- Only local requests are marked as such, and inline data is there. -/
def SendWqe.Fit (w : SendWqe) : Prop :=
  (w.local_only_request = true → w.LocalOpcode) ∧ (w.IsData → w.InlineFits)

/-- An element that has started: it has the packets that its length takes,
`f`, and not all of them are acknowledged. -/
def Sized (f : Nat → Nat) (w : SendWqe) : Prop :=
  w.Fit ∧ w.total_length ≤ PIB_MAX_PAYLOAD_LEN ∧ w.processing.all_packets = f w.total_length ∧
    (w.IsData → w.processing.ack_packets < w.processing.all_packets)

/-- An element on the sending list has packets to send. -/
def Sendable (f : Nat → Nat) (w : SendWqe) : Prop :=
  Sized f w ∧ w.processing.list_type = .SENDING ∧
    (w.IsData → w.processing.sent_packets < w.processing.all_packets)

theorem dataOpcode_isSome (pos : Position) (o : WrOpcode) :
    (dataOpcode pos o).isSome = (dataOpcode .only o).isSome := by
  cases o <;> rfl

theorem SendWqe.IsData.not_read (h : w.IsData) : w.opcode ≠ .RDMA_READ := by
  intro he
  have h := h.2
  rw [he] at h
  cases h

/-- A packet of such an element lies within its inline data. -/
theorem Sendable.inline (h : Sendable (pibGetNumOfPackets .RC n.qp.attr.path_mtu) w)
    (hlocal : w.local_only_request = false) : inlineOverrun n w = false := by
  obtain ⟨⟨hfit, hlen, hall, -⟩, -, hsent⟩ := h
  unfold inlineOverrun
  rw [dataOpcode_isSome]
  by_cases hdata : (dataOpcode .only w.opcode).isSome = true
  · by_cases hinl : w.send_flags.INLINE = true
    · have hw : w.IsData := ⟨hlocal, hdata⟩
      have hle := (payload_le hlen hall (hsent hw)).trans (hfit.2 hw hinl)
      simp [Nat.not_lt.mpr hle]
    · simp [hinl]
  · simp [hdata]

/-! ## The law of the send queue -/

/-- The packets of a message of this length. -/
def SendQ.numPackets (s : SendQ) (length : Nat) : Nat :=
  pibGetNumOfPackets s.qp_type s.attr.path_mtu length

/-- The packets of every element in flight are those of its length, and those on the
sending list have some to send. -/
abbrev Loaded (f : Nat → Nat) : SendQ → Prop :=
  ListLaw (fun w => w.Fit ∧ w.total_length ≤ PIB_MAX_PAYLOAD_LEN) (Sized f) (Sendable f)

variable {P : SendWqe → Prop} {f : Nat → Nat}

theorem fit_body : OnBody SendWqe.Fit := by
  intro w w' h hw
  have h' : w'.body.Fit := h ▸ hw
  exact h'

theorem sized_core : OnCore (Sized f) := by
  intro w w' h hw
  have h' : Sized f w'.core := h ▸ ⟨fit_body w w.core rfl hw.1, hw.2⟩
  exact ⟨fit_body w'.core w' rfl h'.1, h'.2⟩

theorem sendable_core : OnCore (Sendable f) := by
  intro w w' h hw
  have h' : Sendable f w'.core := h ▸ ⟨sized_core w w.core rfl hw.1, hw.2⟩
  exact ⟨sized_core w'.core w' rfl h'.1, h'.2⟩

/-- The contents stay, and an acknowledge may come. -/
theorem Sized.next {w' : SendWqe} (h : Sized f w) (hb : w'.body = w.body)
    (hall : w'.processing.all_packets = w.processing.all_packets)
    (hack : w.IsData → w'.processing.ack_packets < w.processing.all_packets) : Sized f w' := by
  have hlen : w'.body.total_length = w.body.total_length := by rw [hb]
  have hlen : w'.total_length = w.total_length := hlen
  have hdata : w'.IsData → w.IsData := by
    intro hd
    have hd : w'.body.IsData := hd
    rw [hb] at hd
    exact hd
  refine ⟨fit_body w w' hb h.1, hlen ▸ h.2.1, ?_, fun hd => ?_⟩
  · rw [hall, hlen]
    exact h.2.2.1
  · rw [hall]
    exact hack (hdata hd)

/-- A move that is not a post keeps the law. -/
theorem loaded_move (h : Move c s none s') (hl : Loaded s.numPackets s) : Loaded s.numPackets s' := by
  refine ListLaw.move h
    { touchWaiting := fun ht => sized_core _ _ ht.1.core
      touch := fun ht => sendable_core _ _ ht.core
      ack := fun _ hk => ?_
      progress := fun hop _ => ?_
      resend := fun ht hw => ?_
      back := fun hw => ⟨hw.1.next rfl rfl hw.1.2.2.2, hw.2.1, hw.1.2.2.2⟩
      more := fun _ hk hw => ⟨hw.1.next rfl rfl hw.1.2.2.2, hw.2.1, fun _ => hk⟩
      wait := fun _ _ hcore _ _ hw => sized_core _ _ hcore (hw.1.next rfl rfl hw.1.2.2.2)
      start := fun hlist hall hack hsent _ hw => ?_
      post := fun hne => absurd rfl hne } hl
  · exact ⟨fun hw => hw.next rfl rfl fun _ => hk, fun hw => ⟨hw.1.next rfl rfl fun _ => hk, hw.2⟩⟩
  · -- an RDMA READ, about whose packets the law says nothing
    exact ⟨fun hw => hw.next rfl rfl fun hd => absurd hop hd.not_read,
      fun hw => ⟨hw.1.next rfl rfl fun hd => absurd hop hd.not_read, hw.2.1,
        fun hd => absurd hop hd.not_read⟩⟩
  · have hw' := sized_core _ _ ht.core hw
    exact ⟨hw'.next rfl rfl hw'.2.2.2, rfl, hw'.2.2.2⟩
  · rename_i w p _
    have hpos := pibGetNumOfPackets_pos s.qp_type s.attr.path_mtu w.total_length
    rw [← hall] at hpos
    exact ⟨⟨fit_body w _ rfl hw.1, hw.2, hall, fun _ => hack.trans_lt hpos⟩, hlist,
      fun _ => hsent.trans_lt hpos⟩

theorem loaded_localDone {ws : List SendWqe} (hw : s.waiting = w :: ws)
    (h : LocalDone s ws s') (hl : Loaded f s) : Loaded f s' := by
  cases h with
  | retired g hg =>
    exact ⟨hl.submitted, fun x hx => hl.waiting x (hw ▸ List.mem_cons_of_mem _ hx), hl.sending⟩
  | failed free nr_waiting cq hf => exact ListLaw.empty rfl rfl

/-! ## Posting -/

/-- What a chain of work requests puts on the submitted list satisfies `P`. -/
def Posts (cfg : Config) (copyFromUser : Nat → Nat → Option (List UInt8)) (P : SendWqe → Prop) :
    Qp → Nat → List SendWr → Prop
  | _, _, [] => True
  | q, total_length, wr :: wrs =>
    match postSendWr cfg copyFromUser q total_length wr with
    | (q', total_length, none) =>
      (∀ w, q'.requester.submitted_swqe = q.requester.submitted_swqe ++ [w] → P w) ∧
        Posts cfg copyFromUser P q' total_length wrs
    | (_, _, some _) => True

theorem submitted_postSendWr (q : Qp) (total_length : Nat) (wr : SendWr) :
    (postSendWr cfg copyFromUser q total_length wr).1.requester.submitted_swqe =
      q.requester.submitted_swqe ∨
    ∃ w, (postSendWr cfg copyFromUser q total_length wr).2.2 = none ∧
      w.total_length ≤ PIB_MAX_PAYLOAD_LEN ∧
      (postSendWr cfg copyFromUser q total_length wr).1.requester.submitted_swqe =
        q.requester.submitted_swqe ++ [w] := by
  unfold postSendWr
  split
  · exact Or.inl rfl
  split
  · exact Or.inl rfl
  dsimp only
  split
  · exact Or.inl rfl
  split
  · exact Or.inl rfl
  split
  · exact Or.inl rfl
  · rename_i w hw
    exact Or.inr ⟨w, rfl, (fillSwqe_ok hw).2.2.2.2.1, rfl⟩

theorem submitted_postSendLoop (wrs : List SendWr) : ∀ (q : Qp) (total_length : Nat),
    Posts cfg copyFromUser P q total_length wrs →
    (∀ w ∈ q.requester.submitted_swqe, P w ∧ w.total_length ≤ PIB_MAX_PAYLOAD_LEN) →
    ∀ w ∈ (postSendLoop cfg copyFromUser q total_length wrs).1.requester.submitted_swqe,
      P w ∧ w.total_length ≤ PIB_MAX_PAYLOAD_LEN := by
  induction wrs with
  | nil => exact fun _ _ _ h => h
  | cons wr wrs ih =>
    intro q total_length hp h
    have hone := submitted_postSendWr cfg copyFromUser q total_length wr
    unfold Posts at hp
    unfold postSendLoop
    generalize postSendWr cfg copyFromUser q total_length wr = r at hone hp ⊢
    obtain ⟨q', total_length', _ | e⟩ := r
    · refine ih q' total_length' hp.2 fun w hw => ?_
      rcases hone with he | ⟨x, -, hlen, he⟩
      · exact h w (he ▸ hw)
      rw [he] at hw
      rcases List.mem_append.mp hw with hw | hw
      · exact h w hw
      · rw [List.mem_singleton.mp hw]
        exact ⟨hp.1 x he, hlen⟩
    · rcases hone with he | ⟨x, hx, -⟩
      · exact fun w hw => h w (he ▸ hw)
      · cases hx

theorem loaded_pibPostSend {wrs : List SendWr} (hp : Posts cfg copyFromUser SendWqe.Fit q 0 wrs)
    (hl : Loaded f q.sendQ) : Loaded f (pibPostSend cfg copyFromUser now q wrs).1.sendQ := by
  obtain ⟨free, sub, nr, cq, hframe⟩ := frame_pibPostSend cfg copyFromUser now q wrs
  have hsub : ∀ w ∈ (pibPostSend cfg copyFromUser now q wrs).1.sendQ.submitted,
      w.Fit ∧ w.total_length ≤ PIB_MAX_PAYLOAD_LEN := by
    have hloop := submitted_postSendLoop cfg copyFromUser wrs q 0 hp hl.submitted
    unfold pibPostSend
    split
    · exact hl.submitted
    dsimp only
    split
    · rw [sendQ_getReadyToSend]
      exact hloop
    · exact hloop
  rw [hframe] at hsub ⊢
  exact ⟨hsub, hl.waiting, hl.sending⟩

/-! ## Routes -/

/-- The headers of a packet are read within `gid[]` and `pkey_table[]`. -/
def AhAttr.InTable (a : AhAttr) : Prop := a.grh = true → a.sgid_index < 16

structure Routable (a : QpAttr) : Prop where
  ah : a.ah_attr.InTable
  alt : a.alt_ah_attr.InTable
  pkey : a.pkey_index < 32

/-- What a call of `pib_modify_qp` must not ask for: a source GID outside of
the table, on either path, and a migration to a P_Key outside of the table. -/
structure RoutesWell (attr : ModifyAttr) (mask : AttrMask) : Prop where
  ah : mask.AV = true → attr.ah_attr.InTable
  alt : mask.ALT_PATH = true → attr.alt_ah_attr.InTable
  pkey : mask.PATH_MIG_STATE = true → attr.alt_pkey_index < 32

theorem Routable.headers {a : QpAttr} (h : Routable a) : Node.headerCrashes a = [] := by
  have hgid : ¬(a.ah_attr.grh = true ∧ 16 ≤ a.ah_attr.sgid_index) :=
    fun hg => absurd (h.ah hg.1) (by omega)
  have hpkey : ¬32 ≤ a.pkey_index := by
    have := h.pkey
    omega
  simp [Node.headerCrashes, hgid, hpkey]

theorem routable_setAttrs {cur : QpState} (hok : modifyQpIsOk cfg q cur attr mask = true) (hr : RoutesWell attr mask)
    (h : Routable q.attr) : Routable (setAttrs cfg q attr mask).attr := by
  have hpkey : mask.PKEY_INDEX = true → attr.pkey_index < 32 := by
    intro hm
    simp only [modifyQpIsOk, Bool.and_eq_true] at hok
    simpa [hm] using hok.2
  obtain ⟨h1, h2, h3⟩ := h
  obtain ⟨r1, r2, r3⟩ := hr
  have halt : AhAttr.InTable (if mask.ALT_PATH then attr.alt_ah_attr else q.attr.alt_ah_attr) := by
    split
    · exact r2 ‹_›
    · exact h2
  refine ⟨?_, halt, ?_⟩
  · simp only [setAttrs]
    split
    · exact halt
    split
    · exact r1 ‹_›
    · exact h1
  · simp only [setAttrs]
    split
    · exact r3 ‹_›
    split
    · exact hpkey ‹_›
    · exact h3

/-- The attributes after `pib_modify_qp` have passed its own checks. -/
theorem attr_modify (isOk : StateCheck)
    (now : Nat) (q : Qp) (attr : ModifyAttr) (mask : AttrMask) :
    (pibModifyQp cfg isOk now q attr mask).1.attr = q.attr ∨
      ((∃ cur, modifyQpIsOk cfg q cur attr mask = true) ∧
        (pibModifyQp cfg isOk now q attr mask).1.attr = (setAttrs cfg q attr mask).attr) := by
  by_cases hok : modifyQpIsOk cfg q (curState q attr mask) attr mask = true
  · rcases pibModifyQp_settles cfg isOk now q attr mask with h | ⟨-, h⟩ | ⟨-, -, -, h⟩
    · exact Or.inl (by rw [h])
    · exact Or.inr ⟨⟨_, hok⟩, by rw [h]⟩
    refine Or.inr ⟨⟨_, hok⟩, ?_⟩
    rw [h]
    refine (congrArg SendQ.attr (sendQ_settleState now _ _ _ _)).trans ?_
    exact (enterState_frame cfg now (setAttrs cfg q attr mask) attr.qp_state).2.2
  · refine Or.inl ?_
    unfold pibModifyQp
    dsimp only
    rw [show (if mask.CUR_STATE then attr.cur_qp_state else q.state) = curState q attr mask from rfl,
      Bool.eq_false_of_not_eq_true hok]
    split_ifs <;> first | rfl | contradiction

/-! ## The law of an RC queue pair -/

/-- The verbs layer lets the path MTU be set from INIT to RTR only. -/
def MtuAtRtr (ibModifyQpIsOk : QpState → QpState → AttrMask → Bool) : Prop :=
  ∀ {cur new mask}, ibModifyQpIsOk cur new mask = true → mask.PATH_MTU = true →
    cur = .INIT ∧ new = .RTR

structure Sound (s : SendQ) : Prop where
  rc : s.qp_type = .RC
  routes : Routable s.attr
  psns : PsnChain s
  loaded : Loaded s.numPackets s

theorem sound_move (h : Move c s none s') (hs : Sound s) : Sound s' := by
  have hk := sameAttrs_move h
  have hn : s'.numPackets = s.numPackets := by
    funext k
    rw [SendQ.numPackets, SendQ.numPackets, hk.qp_type, hk.attr]
  exact ⟨hk.qp_type.trans hs.rc, hk.attr ▸ hs.routes, psnChain_move h hs.psns,
    hn ▸ loaded_move h hs.loaded⟩

/-- With such a queue pair the scheduler runs into nothing. -/
theorem Sound.schedSafe (h : Sound n.qp.sendQ) : SchedSafe (fun _ => False) n := by
  have hf : n.qp.sendQ.numPackets = pibGetNumOfPackets .RC n.qp.attr.path_mtu := by
    funext k
    rw [SendQ.numPackets, h.rc]
    rfl
  refine ⟨?_, fun w hw hlocal => Or.inl ?_, fun w hw => Or.inl (h.loaded.sending w hw).2.1,
    fun w hw hlocal => Or.inl ?_⟩
  · rw [Routable.headers (a := n.qp.attr) h.routes]
    simp
  · rcases List.mem_append.mp hw with hw | hw
    · exact (h.loaded.waiting w hw).1.1 hlocal
    · exact (h.loaded.sending w hw).1.1.1 hlocal
  · have hw := h.loaded.sending w hw
    rw [hf] at hw
    exact hw.inline hlocal

theorem crashes_schedule (isOk : StateCheck) (now : Nat) (h : Sound n.qp.sendQ) :
    (step cfg isOk n (now, .schedule)).crashes = n.crashes := by
  have hreach : ReachSafe (fun _ => False) now { n with send_buffer := none } := fun n' hm =>
    Sound.schedSafe (hm.keep_silent sound_move h)
  obtain ⟨l, hl, hP⟩ := adds_processOnQpScheduler cfg now hreach
  obtain rfl : l = [] := List.eq_nil_iff_forall_not_mem.mpr hP
  rw [List.append_nil] at hl
  exact hl

/-- The calls ask for nothing that the send path would trip over later. -/
structure Careful (cfg : Config) (n : Node) (x : Nat × Act) : Prop where
  posts : ∀ copyFromUser wrs, x.2 = .postSend copyFromUser wrs →
    Posts cfg copyFromUser SendWqe.Fit n.qp 0 wrs
  names : Truthful n x
  routes : ∀ attr mask, x.2 = .modify attr mask → RoutesWell attr mask

variable {ibModifyQpIsOk : QpState → QpState → AttrMask → Bool}

theorem loaded_setAttrs (attr : ModifyAttr) (mask : AttrMask)
    (hmtu : mask.PATH_MTU = true → q.sendQ.flight = []) (h : Loaded q.sendQ.numPackets q.sendQ) :
    Loaded (setAttrs cfg q attr mask).sendQ.numPackets (setAttrs cfg q attr mask).sendQ := by
  cases hm : mask.PATH_MTU with
  | true =>
    obtain ⟨hw, hs⟩ := List.append_eq_nil_iff.mp (hmtu hm)
    refine ⟨h.submitted, ?_, ?_⟩
    · change ∀ w ∈ q.sendQ.waiting, _
      simp [hw]
    · change ∀ w ∈ q.sendQ.sending, _
      simp [hs]
  | false =>
    have hn : (setAttrs cfg q attr mask).sendQ.numPackets = q.sendQ.numPackets := by
      funext k
      simp [SendQ.numPackets, Qp.sendQ, setAttrs, hm]
    rw [hn]
    exact ⟨h.submitted, h.waiting, h.sending⟩

theorem loaded_modify (hok : MtuAtRtr ibModifyQpIsOk) (cfg : Config) (now : Nat) (hname : NamesState q.state attr mask)
    (hpsns : PsnChain q.sendQ) (h : Loaded q.sendQ.numPackets q.sendQ) :
    Loaded (pibModifyQp cfg ibModifyQpIsOk now q attr mask).1.sendQ.numPackets
      (pibModifyQp cfg ibModifyQpIsOk now q attr mask).1.sendQ := by
  have hset : ∀ {new}, ibModifyQpIsOk q.state new mask = true →
      Loaded (setAttrs cfg q attr mask).sendQ.numPackets (setAttrs cfg q attr mask).sendQ := by
    refine fun hnew => loaded_setAttrs cfg attr mask (fun hm => ?_) h
    have hst : q.sendQ.state = .INIT := (hok hnew hm).1
    exact hpsns.idle (by simp [hst]) (by simp [hst])
  rcases sendQ_modify cfg now hname ibModifyQpIsOk with he | ⟨new, hnew, he | ⟨-, he⟩⟩ | he
  · rw [he]
    exact h
  · rw [he]
    exact hset hnew
  · have hl := hset hnew
    rw [he]
    exact ⟨hl.submitted, hl.waiting, hl.sending⟩
  · exact ListLaw.empty he.1 he.2

theorem sound_step (hok : IbTable ibModifyQpIsOk) (hmtu : MtuAtRtr ibModifyQpIsOk) (cfg : Config) {x : Nat × Act} (hx : Careful cfg n x) (h : Sound n.qp.sendQ) :
    Sound (step cfg ibModifyQpIsOk n x).qp.sendQ := by
  obtain ⟨now, a⟩ := x
  have hpsns := psnChain_step hok cfg hx.names h.psns
  rcases step_cases cfg ibModifyQpIsOk n now a with ⟨copyFromUser, wrs, rfl⟩ | ⟨attr, mask, rfl⟩ |
    hm | ⟨w, ws, hw, hd⟩
  · have hl := loaded_pibPostSend cfg copyFromUser now (hx.posts copyFromUser wrs rfl) h.loaded
    obtain ⟨free, sub, nr, cq, hf⟩ := frame_pibPostSend cfg copyFromUser now n.qp wrs
    simp only [step, act, Node.setQp_qp] at hpsns ⊢
    rw [hf] at hl hpsns ⊢
    exact ⟨h.rc, h.routes, hpsns, hl⟩
  · refine ⟨(qp_type_modify cfg ibModifyQpIsOk now n.qp attr mask).trans h.rc, ?_, hpsns,
      loaded_modify hmtu cfg now (hx.names attr mask rfl) h.psns h.loaded⟩
    have hroutes : Routable n.qp.attr := h.routes
    change Routable (pibModifyQp cfg ibModifyQpIsOk now n.qp attr mask).1.attr
    rcases attr_modify cfg ibModifyQpIsOk now n.qp attr mask with he | ⟨⟨cur, hcur⟩, he⟩
    · rw [he]
      exact hroutes
    · rw [he]
      exact routable_setAttrs cfg hcur (hx.routes attr mask rfl) hroutes
  · exact hm.keep_silent sound_move h
  · have hl := loaded_localDone hw hd h.loaded
    obtain ⟨hrc, hroutes, -, -⟩ := h
    generalize (step cfg ibModifyQpIsOk n (now, a)).qp.sendQ = s' at hd hpsns hl ⊢
    cases hd with
    | retired | failed => exact ⟨hrc, hroutes, hpsns, hl⟩

/-! ## The law of a datagram queue pair -/

/-- A datagram with inline data has all of it. -/
def UdFit (w : SendWqe) : Prop := isUdSend w.opcode = true → w.InlineFits

theorem udFit_body : OnBody UdFit := by
  intro w w' h hw
  have h' : UdFit w'.body := h ▸ hw
  exact h'

structure UdSound (n : UdNode) : Prop where
  ahs : ∀ i ah, n.ahs i = some ah → ah.attr.InTable
  lists : DatagramQ UdFit n.qp.lists

/-- The calls ask for no source GID outside of the table, and post no inline
data that is not there. -/
structure UdCareful (cfg : Config) (n : UdNode) (x : Nat × UdAct) : Prop where
  posts : x.2.Posts cfg UdFit n
  ahs : ∀ i ah, x.2 = .setAh i ah → ah.attr.InTable

theorem udCrashes_nil {n : UdNode}
    (hahs : ∀ i ah, n.ahs i = some ah → ah.attr.InTable) (hw : UdFit w) : udCrashes cfg n w = [] := by
  unfold udCrashes
  rcases hr : udRoute cfg n w with _ | ah
  · rfl
  unfold udRoute at hr
  split at hr
  · cases hr
  rename_i hop
  rcases hah : w.wr.ud.ah.bind n.ahs with _ | ah' <;> rw [hah] at hr
  · cases hr
  dsimp only at hr
  split at hr
  · cases hr
  obtain rfl := Option.some.inj hr
  obtain ⟨i, -, hi⟩ := Option.bind_eq_some_iff.mp hah
  have hgid : ¬(ah'.attr.grh = true ∧ 16 ≤ ah'.attr.sgid_index) :=
    fun hg => absurd (hahs i ah' hi hg.1) (by omega)
  have hinl : ¬(w.processing.all_packets = 1 ∧ w.send_flags.INLINE = true ∧
      w.inline_data_buffer.length < w.total_length) :=
    fun hi => absurd (hw (by simpa using hop) hi.2.1) (by omega)
  simp only [if_neg hgid, if_neg hinl, List.append_nil]

theorem crashes_udSendingHead {n : UdNode} (h : UdSound n) :
    (processUdSendingHead cfg now n).crashes = n.crashes := by
  unfold processUdSendingHead
  rcases hs : n.qp.requester.sending_swqe with _ | ⟨w, ws⟩
  · rfl
  have hmem : w ∈ n.qp.lists.sending := by simp [Qp.lists, hs]
  obtain ⟨hlist, hfit⟩ := h.lists.sending w hmem
  have hlist : (w.setSchedule now).processing.list_type = .SENDING := hlist
  have hnil := udCrashes_nil cfg h.ahs (udFit_body w (w.setSchedule now) rfl hfit)
  dsimp only
  split
  · rfl
  split
  · rfl
  unfold processUdSendWr
  rw [if_neg (by simp [hlist])]
  split
  · rfl
  unfold pibProcessUdQpRequest
  dsimp only
  rw [hnil, List.append_nil]
  split <;> rfl

theorem crashes_udSchedule {n : UdNode} (h : UdSound n) :
    (udStep cfg ibModifyQpIsOk n (now, .schedule)).crashes = n.crashes := by
  have h : UdSound { n with send_buffer := none } := ⟨h.ahs, h.lists⟩
  simp only [udStep, udAct, processUdScheduler, UdNode.setQp_crashes]
  split
  · rfl
  split
  · split
    · rfl
    rename_i q hq
    have hl := (udMoves_newSendWr (P := UdFit) hq).keep (datagramQ_move udFit_body) h.lists
    exact crashes_udSendingHead cfg now ⟨h.ahs, hl⟩
  · exact crashes_udSendingHead cfg now h

theorem ahs_udSendingHead (n : UdNode) : (processUdSendingHead cfg now n).ahs = n.ahs := by
  unfold processUdSendingHead
  split
  · rfl
  split
  · rfl
  split
  · rfl
  unfold processUdSendWr
  split
  · rfl
  split
  · rfl
  unfold pibProcessUdQpRequest
  dsimp only
  split <;> rfl

/-- Address handles come from `pib_create_ah` and `pib_modify_ah` only. -/
theorem ahs_step (n : UdNode) (now : Nat) {a : UdAct} (ha : ∀ i ah, a ≠ .setAh i ah) :
    (udStep cfg ibModifyQpIsOk n (now, a)).ahs = n.ahs := by
  cases a with
  | setAh i ah => exact absurd rfl (ha i ah)
  | schedule =>
    simp only [udStep, udAct, processUdScheduler, UdNode.setQp]
    split
    · rfl
    split
    · split
      · rfl
      · exact ahs_udSendingHead cfg now _
    · exact ahs_udSendingHead cfg now _
  | receive port_num p =>
    simp only [udStep, udAct, pibReceiveUdQpIncomingMessage, UdNode.setQp]
    split
    · rfl
    split
    · rfl
    · split <;> rfl
  | _ => rfl

theorem udSound_step {n : UdNode} {x : Nat × UdAct} (hx : UdCareful cfg n x)
    (h : UdSound n) : UdSound (udStep cfg ibModifyQpIsOk n x) := by
  refine ⟨?_, datagramQ_step udFit_body cfg ibModifyQpIsOk n x hx.posts h.lists⟩
  obtain ⟨now, a⟩ := x
  by_cases ha : ∃ i ah, a = .setAh i ah
  · obtain ⟨i, ah, rfl⟩ := ha
    intro j ah' hj
    simp only [udStep, udAct, UdNode.setAh] at hj
    split at hj
    · obtain rfl := Option.some.inj hj
      exact hx.ahs i ah rfl
    · exact h.ahs j ah' hj
  · rw [ahs_step cfg n now fun i ah he => ha ⟨i, ah, he⟩]
    exact h.ahs

/-! ## Runs -/

/-- A check that follows the state table, and knows when the PSN and the MTU
may be set. -/
def ibParamTable (cur new : QpState) (mask : AttrMask) : Bool :=
  ibStateTable cur new mask && (!mask.PATH_MTU || (decide (cur = .INIT) && decide (new = .RTR)))

theorem ibTable_ibParamTable : IbTable ibParamTable ∧ MtuAtRtr ibParamTable := by
  have hstate : ∀ {cur new mask}, ibParamTable cur new mask = true →
      ibStateTable cur new mask = true := by
    intro cur new mask h
    simp only [ibParamTable, Bool.and_eq_true] at h
    exact h.1
  refine ⟨⟨fun h => ibTable_ibStateTable.transition (hstate h),
    fun h => ibTable_ibStateTable.sq_psn (hstate h)⟩, fun h hm => ?_⟩
  simp only [ibParamTable, Bool.and_eq_true] at h
  simpa [hm] using h.2

/-- An inline SEND of two bytes with a GRH. -/
def inlineRun (sgid_index : Nat) : List (Nat × Act) :=
  bringUp { path_mtu := 1, ah_attr := { grh := true, sgid_index } } ++
    [(1, .postSend (fun _ n => some (List.replicate n 7))
        [{ wr_id := 9, opcode := .SEND, send_flags := { INLINE := true },
           sg_list := [{ addr := 0, length := 2, lkey := 0 }] }]),
     (2, .schedule)]

/-- A datagram is posted and sent. -/
def datagramRun (sgid_index : Nat) : List (Nat × UdAct) :=
  [(0, .setAh 0 { attr := { port_num := 1, grh := true, sgid_index } }),
   (0, .modify { qp_state := .INIT } { STATE := true, PORT := true }),
   (0, .modify { qp_state := .RTR } { STATE := true }),
   (0, .modify { qp_state := .RTS } { STATE := true }),
   (1, .postSend (fun _ _ => none)
      [{ wr_id := 9, opcode := .SEND, sg_list := [{ addr := 0, length := 0, lkey := 0 }],
         wr := { ud := { ah := some 0 } } }]),
   (2, .schedule)]

theorem careful_modify {cfg : Config} {now : Nat} (hm : mask.CUR_STATE = false)
    (hr : RoutesWell attr mask) : Careful cfg n (now, .modify attr mask) := by
  refine ⟨(fun _ _ h => nomatch h), truthful_unnamed n now attr hm, ?_⟩
  rintro _ _ h
  cases h
  exact hr

/-- Nothing is asked of a step that is no call. -/
theorem careful_schedule {cfg : Config} {now : Nat} : Careful cfg n (now, .schedule) :=
  ⟨(fun _ _ h => nomatch h), (fun _ _ h => nomatch h), (fun _ _ h => nomatch h)⟩

/-- A SEND without data, which must have one element in its list all the same. -/
def emptySend : SendWr := { wr_id := 9, opcode := .SEND, sg_list := [{ addr := 0, length := 0, lkey := 0 }] }

/-- The path is migrated to a P_Key index outside of the table. -/
def migrateRun : List (Nat × Act) :=
  bringUp { path_mtu := 1 } ++
    [(1, .modify { alt_pkey_index := 32, qp_state := .RTS } { STATE := true, PATH_MIG_STATE := true }),
     (1, .postSend (fun _ _ => none) [emptySend]), (2, .schedule)]

/-- The only send element of a queue pair is used for a local request, and
after a reset for a SEND. -/
def reuseRun : List (Nat × Act) :=
  bringUp { path_mtu := 1 } ++
    [(1, .postSend (fun _ _ => none) [{ emptySend with opcode := .LOCAL_INV }]), (2, .schedule),
     (3, .schedule), (4, .modify { qp_state := .RESET } { STATE := true })] ++
    bringUp { path_mtu := 1 } ++
    [(5, .postSend (fun _ _ => none) [emptySend]), (6, .schedule), (7, .schedule)]

end pib
