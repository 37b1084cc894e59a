-- Runs of a deterministic step function under a list of labels, and the
-- rule that carries an invariant from one step to a whole run.
import Mathlib.Tactic

namespace Run

variable {σ ℓ : Type*}

/-- The state after the labels of a run, in order. -/
def run (step : σ → ℓ → σ) (s : σ) (ls : List ℓ) : σ := ls.foldl step s

@[simp] theorem run_nil (step : σ → ℓ → σ) (s : σ) : run step s [] = s := rfl

@[simp] theorem run_cons (step : σ → ℓ → σ) (s : σ) (l : ℓ) (ls : List ℓ) :
    run step s (l :: ls) = run step (step s l) ls := rfl

theorem run_append (step : σ → ℓ → σ) (s : σ) (ls ms : List ℓ) :
    run step s (ls ++ ms) = run step (run step s ls) ms := List.foldl_append ..

/-- Every step of the run is taken in a state that meets the condition. -/
def Meets (step : σ → ℓ → σ) (C : σ → ℓ → Prop) : σ → List ℓ → Prop
  | _, [] => True
  | s, l :: ls => C s l ∧ Meets step C (step s l) ls

instance decidableMeets {step : σ → ℓ → σ} {C : σ → ℓ → Prop} [∀ s l, Decidable (C s l)] :
    ∀ (s : σ) (ls : List ℓ), Decidable (Meets step C s ls)
  | _, [] => inferInstanceAs (Decidable True)
  | s, l :: ls =>
    have : Decidable (Meets step C (step s l) ls) := decidableMeets (step s l) ls
    inferInstanceAs (Decidable (C s l ∧ Meets step C (step s l) ls))

theorem meets_append {step : σ → ℓ → σ} {C : σ → ℓ → Prop} {s : σ} {ls ms : List ℓ} :
    Meets step C s (ls ++ ms) ↔ Meets step C s ls ∧ Meets step C (run step s ls) ms := by
  induction ls generalizing s with
  | nil => simp [Meets]
  | cons l ls ih => simp only [List.cons_append, Meets, ih, run_cons, and_assoc]

theorem Meets.mono {step : σ → ℓ → σ} {C D : σ → ℓ → Prop} (h : ∀ s l, C s l → D s l)
    {s : σ} {ls : List ℓ} (hm : Meets step C s ls) : Meets step D s ls := by
  induction ls generalizing s with
  | nil => trivial
  | cons l ls ih => exact ⟨h s l hm.1, ih hm.2⟩

/-- What one step keeps, a whole run keeps. -/
theorem invariant {step : σ → ℓ → σ} {C : σ → ℓ → Prop} {I : σ → Prop}
    (hstep : ∀ s l, I s → C s l → I (step s l)) {s : σ} {ls : List ℓ} (hs : I s)
    (hm : Meets step C s ls) : I (run step s ls) := by
  induction ls generalizing s with
  | nil => exact hs
  | cons l ls ih => exact ih (hstep s l hs hm.1) hm.2

/-- An invariant gives a second property of every step of a run. -/
theorem Meets.of_invariant {step : σ → ℓ → σ} {C D : σ → ℓ → Prop} {I : σ → Prop}
    (hstep : ∀ s l, I s → C s l → I (step s l)) (hD : ∀ s l, I s → C s l → D s l) {s : σ}
    {ls : List ℓ} (hs : I s) (hm : Meets step C s ls) : Meets step D s ls := by
  induction ls generalizing s with
  | nil => trivial
  | cons l ls ih => exact ⟨hD s l hs hm.1, ih (hstep s l hs hm.1) hm.2⟩

/-- Where a step keeps the invariant under a condition only, it holds all along a run
exactly if every step meets the condition. -/
theorem meets_next_iff {step : σ → ℓ → σ} {C : σ → ℓ → Prop} {I : σ → Prop}
    (hstep : ∀ s l, I s → (I (step s l) ↔ C s l)) {s : σ} {ls : List ℓ} (hs : I s) :
    Meets step (fun s l => I (step s l)) s ls ↔ Meets step C s ls := by
  induction ls generalizing s with
  | nil => exact Iff.rfl
  | cons l ls ih =>
    constructor
    · exact fun h => ⟨(hstep s l hs).mp h.1, (ih h.1).mp h.2⟩
    · intro h
      have hnext := (hstep s l hs).mpr h.1
      exact ⟨hnext, (ih hnext).mpr h.2⟩

/-- What every step keeps, every run keeps. -/
theorem always {step : σ → ℓ → σ} {I : σ → Prop} (hstep : ∀ s l, I s → I (step s l)) {s : σ}
    (hs : I s) (ls : List ℓ) : I (run step s ls) := by
  induction ls generalizing s with
  | nil => exact hs
  | cons l ls ih => exact ih (hstep s l hs)

/-- What the steps with some labels keep, a run of them keeps. -/
theorem always_filter {step : σ → ℓ → σ} {P : ℓ → Bool} {I : σ → Prop}
    (hstep : ∀ s l, I s → P l = true → I (step s l)) {s : σ} (hs : I s) (ls : List ℓ) :
    I (run step s (ls.filter P)) := by
  induction ls generalizing s with
  | nil => exact hs
  | cons l ls ih =>
    rw [List.filter_cons]
    split
    · rename_i hl
      exact ih (hstep s l hs hl)
    · exact ih hs

/-- A reflexive and transitive relation that has every step has every run of
steps. -/
theorem closure {r R : σ → σ → Prop} (hrefl : ∀ s, R s s)
    (htrans : ∀ {s t u}, R s t → R t u → R s u) (hstep : ∀ {s t}, r s t → R s t) {s t : σ}
    (h : Relation.ReflTransGen r s t) : R s t := by
  induction h with
  | refl => exact hrefl s
  | tail _ ht ih => exact htrans ih (hstep ht)

/-- What no step changes, no run of steps changes. -/
theorem frame {β : Type*} {r : σ → σ → Prop} (f : σ → β) (hstep : ∀ {s t}, r s t → f t = f s)
    {s t : σ} (h : Relation.ReflTransGen r s t) : f t = f s := by
  induction h with
  | refl => rfl
  | tail _ ht ih => exact (hstep ht).trans ih

end Run
