-- The table from LIDs to socket addresses that all devices of a host share. Each
-- Set of PortInfo looks at the LID of its own port only, so that a port that gives
-- up a LID takes the entry of its successor along.
import Pib.SendThread

namespace pib

/-! ## The ports of a host -/

/-- A port by its device and its number. -/
abbrev PortId := Nat × Nat

/-- What `subn_set_portinfo` reads and writes of the devices of a host, and
`pib_lid_table`. -/
structure LidNet where
  phys_port_cnt : Nat → Nat
  sockaddr : PortId → Nat
  lid : PortId → Nat := fun _ => 0
  pib_lid_table : Nat → Option Nat := fun _ => none

/-- A Set of PortInfo as a device receives it, with a unicast LID. -/
structure LidSet where
  dev : Nat
  in_port_num : Nat
  attr_mod : Nat
  lid : Nat
  low : lid < PIB_MCAST_LID_BASE := by decide

/-- The port that a Set is for. -/
def LidSet.port (a : LidSet) : PortId :=
  (a.dev, if a.attr_mod = 0 then a.in_port_num else a.attr_mod)

namespace LidNet

def valid (s : LidNet) (port : PortId) : Prop := 1 ≤ port.2 ∧ port.2 ≤ s.phys_port_cnt port.1

instance (s : LidNet) (port : PortId) : Decidable (s.valid port) := by
  unfold valid
  infer_instance

/-- `subn_set_portinfo` in single-host mode, as far as the LID goes. -/
def subnSetPortinfo (s : LidNet) (a : LidSet) : LidNet :=
  if s.valid a.port then
    let old_lid := s.lid a.port
    let pib_lid_table :=
      if old_lid ≠ a.lid then
        let table := if old_lid ≠ 0 then Function.update s.pib_lid_table old_lid none
          else s.pib_lid_table
        if a.lid ≠ 0 then Function.update table a.lid (some (s.sockaddr a.port)) else table
      else s.pib_lid_table
    { s with pib_lid_table, lid := Function.update s.lid a.port a.lid }
  else s

/-- What a device sees of it when it sends. -/
def net (s : LidNet) (easy_sw : Option Nat) (dev : Nat) : Net :=
  { ports := fun p => { lid := s.lid (dev, p) }, sockaddr := fun p => s.sockaddr (dev, p)
    lid_table := s.pib_lid_table, easy_sw }

/-! ## The table and the LIDs -/

def Owns (s : LidNet) (port : PortId) (l : Nat) : Prop := s.valid port ∧ s.lid port = l

/-- The port is the only one with the LID. -/
def Sole (s : LidNet) (port : PortId) (l : Nat) : Prop :=
  s.Owns port l ∧ ∀ p, s.Owns p l → p = port

/-- The table is the inverse of the LIDs, and packets go where their LID says. -/
structure Inverse (s : LidNet) : Prop where
  sole : ∀ l, l ≠ 0 → ∀ port, s.Sole port l → s.pib_lid_table l = some (s.sockaddr port)
  unowned : ∀ l, l ≠ 0 → (∀ port, ¬s.Owns port l) → s.pib_lid_table l = none
  delivers : ∀ l, l ≠ 0 → l < PIB_MCAST_LID_BASE → ∀ port, s.Sole port l → ∀ src : PortId,
    s.valid src → ∀ src_qp_num, src_qp_num ≠ PIB_QP0 → ∀ easy_sw,
      getSockaddrFromDlid (s.net easy_sw src.1) src.2 src_qp_num l = some (s.sockaddr port)

/-- The LID that a port gives up is not left with a single other port. -/
def Abandons (s : LidNet) (a : LidSet) : Prop :=
  s.valid a.port → s.lid a.port ≠ 0 → s.lid a.port ≠ a.lid →
    ∀ port, port ≠ a.port → s.Owns port (s.lid a.port) →
      ∃ p, p ≠ a.port ∧ p ≠ port ∧ s.Owns p (s.lid a.port)

theorem inverse_of_table {s : LidNet}
    (hsole : ∀ l, l ≠ 0 → ∀ port, s.Sole port l → s.pib_lid_table l = some (s.sockaddr port))
    (hnone : ∀ l, l ≠ 0 → (∀ port, ¬s.Owns port l) → s.pib_lid_table l = none) : s.Inverse := by
  refine ⟨hsole, hnone, fun l hl hlt port hport src hsrc src_qp_num hqp easy_sw => ?_⟩
  by_cases hown : l = s.lid src
  · have hself : src = port := hport.2 src ⟨hsrc, hown.symm⟩
    simp [getSockaddrFromDlid, net, hqp, hl, ← hown, ← hself]
  · simp [getSockaddrFromDlid, net, hqp, hl, hlt, hown, hsole l hl port hport]

variable {s : LidNet} {a : LidSet}

theorem owns_set (hv : s.valid a.port) {port : PortId} {l : Nat} :
    (s.subnSetPortinfo a).Owns port l ↔ if port = a.port then a.lid = l else s.Owns port l := by
  rw [subnSetPortinfo, if_pos hv]
  simp only [Owns, valid]
  split
  · rename_i h
    rw [h, Function.update_self]
    exact ⟨And.right, fun hl => ⟨hv, hl⟩⟩
  · rename_i h
    rw [Function.update_of_ne h]

theorem table_set (hv : s.valid a.port) (l : Nat) :
    (s.subnSetPortinfo a).pib_lid_table l =
      if s.lid a.port = a.lid then s.pib_lid_table l
      else if l = a.lid ∧ l ≠ 0 then some (s.sockaddr a.port)
      else if l = s.lid a.port ∧ l ≠ 0 then none
      else s.pib_lid_table l := by
  rw [subnSetPortinfo, if_pos hv]
  dsimp only
  split_ifs <;> grind [Function.update]

/-- A Set keeps the table the inverse of the LIDs exactly if no port is left alone with
the LID that is given up. -/
theorem inverse_step (s : LidNet) (a : LidSet) (h : s.Inverse) :
    (s.subnSetPortinfo a).Inverse ↔ s.Abandons a := by
  by_cases hv : s.valid a.port
  swap
  · rw [subnSetPortinfo, if_neg hv]
    exact ⟨fun _ hv' => absurd hv' hv, fun _ => h⟩
  have haddr : (s.subnSetPortinfo a).sockaddr = s.sockaddr := by rw [subnSetPortinfo, if_pos hv]
  constructor
  · intro h' _ hold hne port hport hown
    by_contra halone
    have hsole : (s.subnSetPortinfo a).Sole port (s.lid a.port) := by
      refine ⟨(owns_set hv).mpr (by rwa [if_neg hport]), fun p hp => ?_⟩
      have hp := (owns_set hv).mp hp
      split at hp
      · exact absurd hp.symm hne
      rename_i hpa
      by_contra hpp
      exact halone ⟨p, hpa, hpp, hp⟩
    have htable := h'.sole _ hold port hsole
    rw [table_set hv, if_neg hne, if_neg fun h => hne h.1, if_pos ⟨rfl, hold⟩] at htable
    cases htable
  · intro hcond
    have hcond := hcond hv
    refine inverse_of_table (fun l hl port hport => ?_) fun l hl hno => ?_
    · obtain ⟨hown, honly⟩ := hport
      have hown := (owns_set hv).mp hown
      have honly : ∀ p, (if p = a.port then a.lid = l else s.Owns p l) → p = port :=
        fun p hp => honly p ((owns_set hv).mpr hp)
      rw [haddr, table_set hv]
      split_ifs with h1 h2 h3
      · refine h.sole l hl port ⟨?_, fun p hp => honly p ?_⟩
        · split at hown
          · rename_i he
            exact ⟨he ▸ hv, by rw [he, h1, hown]⟩
          · exact hown
        · split
          · rename_i he
            rw [← h1, ← he, hp.2]
          · exact hp
      · rw [honly a.port (by simp [h2.1])]
      · have hport : port ≠ a.port := by
          rintro rfl
          rw [if_pos rfl] at hown
          exact h2 ⟨hown.symm, hl⟩
        rw [if_neg hport] at hown
        obtain ⟨p, hpa, hpp, hp⟩ := hcond (h3.1 ▸ hl) h1 port hport (h3.1 ▸ hown)
        exact absurd (honly p (by rwa [if_neg hpa, h3.1])) hpp
      · have hport : port ≠ a.port := by
          rintro rfl
          rw [if_pos rfl] at hown
          exact h2 ⟨hown.symm, hl⟩
        rw [if_neg hport] at hown
        refine h.sole l hl port ⟨hown, fun p hp => honly p ?_⟩
        split
        · rename_i he
          exact absurd ⟨by rw [← hp.2, he], hl⟩ h3
        · exact hp
    · have hno : ∀ p, ¬if p = a.port then a.lid = l else s.Owns p l :=
        fun p hp => hno p ((owns_set hv).mpr hp)
      have ha : a.lid ≠ l := by simpa using hno a.port
      rw [table_set hv]
      split_ifs with h1 h2 h3
      · refine h.unowned l hl fun p hp => hno p ?_
        split
        · rename_i he
          rw [← h1, ← he, hp.2]
        · exact hp
      · exact absurd h2.1.symm ha
      · rfl
      · refine h.unowned l hl fun p hp => hno p ?_
        split
        · rename_i he
          exact absurd ⟨by rw [← hp.2, he], hl⟩ h3
        · exact hp

/-- Before the first Set no port has a LID. -/
def init (phys_port_cnt : Nat → Nat) (sockaddr : PortId → Nat) : LidNet := { phys_port_cnt, sockaddr }

theorem inverse_init (phys_port_cnt : Nat → Nat) (sockaddr : PortId → Nat) :
    (init phys_port_cnt sockaddr).Inverse :=
  inverse_of_table (fun _ hl _ h => absurd h.1.2.symm hl) fun _ _ _ => rfl

/-- The table is the inverse of the LIDs after each Set of a run exactly if each Set
gives up a LID that is not left with a single other port. -/
theorem lid_table_inverse_iff (phys_port_cnt : Nat → Nat) (sockaddr : PortId → Nat)
    (as : List LidSet) :
    Run.Meets subnSetPortinfo (fun s a => (s.subnSetPortinfo a).Inverse)
      (init phys_port_cnt sockaddr) as ↔
    Run.Meets subnSetPortinfo Abandons (init phys_port_cnt sockaddr) as :=
  Run.meets_next_iff inverse_step (inverse_init phys_port_cnt sockaddr)

/-- Two devices with a port each exchange their LIDs. -/
theorem lid_table_exchanged :
    let s := Run.run subnSetPortinfo (init (fun _ => 1) fun port => port.1)
      [{ dev := 0, in_port_num := 1, attr_mod := 0, lid := 1 },
        { dev := 1, in_port_num := 1, attr_mod := 0, lid := 2 },
        { dev := 0, in_port_num := 1, attr_mod := 0, lid := 2 },
        { dev := 1, in_port_num := 1, attr_mod := 0, lid := 1 }]
    s.lid (0, 1) = 2 ∧ s.lid (1, 1) = 1 ∧ s.pib_lid_table 1 = some 1 ∧ s.pib_lid_table 2 = none ∧
      getSockaddrFromDlid (s.net (some 9) 1) 1 2 2 = some 9 := by
  decide

end LidNet

end pib
