-- The order of the send queue: elements start in the order in which they were
-- posted and leave from the front.
import Pib.SendCrashes
import Pib.DrainSignals

namespace pib

open Bytes

variable {c : Ctx} {s s' s'' : SendQ} {a : Option SendWr}

/-! ## The order of the queue -/

/-- What an element keeps from its work request to its completion. -/
structure Label where
  wr_id : Nat
  opcode : WrOpcode
  fence : Bool
  deriving DecidableEq, Repr

def SendWr.label (wr : SendWr) : Label :=
  { wr_id := wr.wr_id, opcode := wr.opcode, fence := wr.send_flags.FENCE }

def SendWqe.label (w : SendWqe) : Label :=
  { wr_id := w.wr_id, opcode := w.opcode, fence := w.send_flags.FENCE }

theorem label_fixed (w : SendWqe) : w.label = w.fixed.label := rfl

def labels (ws : List SendWqe) : List Label := ws.map SendWqe.label

@[simp] theorem labels_append (ws vs : List SendWqe) : labels (ws ++ vs) = labels ws ++ labels vs :=
  List.map_append

@[simp] theorem labels_cons (w : SendWqe) (ws : List SendWqe) :
    labels (w :: ws) = w.label :: labels ws := rfl

@[simp] theorem labels_nil : labels [] = [] := rfl

/-- Without a post the elements leave the queue at its front, and start in
their order; or the queue pair has failed and the queue is empty. -/
def Advances (s s' : SendQ) : Prop :=
  (s'.state = .ERR ∧ s'.flight = [] ∧ s'.submitted = []) ∨
    (s'.state = s.state ∧ ∃ started, s.submitted = started ++ s'.submitted ∧
      (s.state ≠ .RTS → started = []) ∧ labels s'.flight <:+ labels (s.flight ++ started))

theorem Advances.same (hst : s'.state = s.state) (hsub : s'.submitted = s.submitted)
    (h : labels s'.flight <:+ labels s.flight) : Advances s s' :=
  Or.inr ⟨hst, [], hsub.symm, fun _ => rfl, by rwa [List.append_nil]⟩

theorem Advances.of_labels (hst : s'.state = s.state) (hsub : s'.submitted = s.submitted)
    (h : labels s'.flight = labels s.flight) : Advances s s' :=
  Advances.same hst hsub (h ▸ List.suffix_refl _)

theorem advances_move (h : Move c s none s') : Advances s s' := by
  cases flight_move h with
  | stay hf hr he hnr hn => exact Advances.of_labels hr.state (hn rfl).1 (map_of_part label_fixed hf)
  | drop hh =>
    obtain ⟨hfl, hsub, hst, -⟩ := completeHead_frame hh _
    refine Advances.same hst hsub ?_
    rw [hfl]
    exact List.suffix_cons _ _
  | clear => exact Or.inl ⟨rfl, rfl, rfl⟩
  | start hs hsub hcq hf hw hall hpsns hr he hnr hrd =>
    rename_i w w' all
    have hlabel : w'.label = w.label := by rw [hw]; rfl
    refine Or.inr ⟨hr.state, [w], hsub, fun hne => absurd hs hne, ?_⟩
    simp [hf, hlabel]

theorem Advances.trans (h : Advances s s') (h' : Advances s' s'') : Advances s s'' := by
  rcases h' with h' | ⟨hst', started', hsub', hrts', hsuf'⟩
  · exact Or.inl h'
  rcases h with ⟨herr, hfl, hsub⟩ | ⟨hst, started, hsub, hrts, hsuf⟩
  · -- nothing starts in a queue pair that has failed
    obtain rfl := hrts' (by rw [herr]; decide)
    rw [hfl] at hsuf'
    refine Or.inl ⟨hst'.trans herr, List.map_eq_nil_iff.mp (List.suffix_nil.mp hsuf'), ?_⟩
    rw [hsub] at hsub'
    exact (List.nil_append _ ▸ hsub').symm
  · refine Or.inr ⟨hst'.trans hst, started ++ started', by rw [hsub, hsub', List.append_assoc],
      fun hne => ?_, ?_⟩
    · rw [hrts hne, hrts' (hst ▸ hne)]
      rfl
    · refine hsuf'.trans ?_
      rw [labels_append, ← List.append_assoc, labels_append]
      obtain ⟨pre, hpre⟩ := hsuf
      exact ⟨pre, by rw [← List.append_assoc, hpre]⟩

theorem advances_moves {as : List SendWr} (h : Moves c s as s') (has : as = []) : Advances s s' := by
  induction h with
  | refl => exact Advances.of_labels rfl rfl rfl
  | step hm _ ih =>
    obtain ⟨ha, has⟩ := List.append_eq_nil_iff.mp has
    obtain rfl : _ = none := by simpa using ha
    exact (advances_move hm).trans (ih has)

theorem advances_localDone {w : SendWqe} {ws : List SendWqe} (hw : s.waiting = w :: ws)
    (h : LocalDone s ws s') : Advances s s' := by
  cases h with
  | retired f hf =>
    refine Advances.same rfl rfl ?_
    simp only [SendQ.flight, hw, List.cons_append, labels_cons]
    exact List.suffix_cons _ _
  | failed free nr_waiting cq hf => exact Or.inl ⟨rfl, rfl, rfl⟩

end pib
