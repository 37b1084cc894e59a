-- Loops whose body either starts over or returns: the states in which their
-- iterations begin, what holds in all of these, and when there are finitely
-- many of them.
import Mathlib.Tactic

namespace Loop

variable {σ : Type*} {body : σ → Option σ} {s t t' : σ}

/-- The state in which the iteration with this number begins. Nothing when the
loop has returned before. -/
def visit (body : σ → Option σ) (s : σ) : Nat → Option σ
  | 0 => some s
  | k + 1 => (visit body s k).bind body

/-- Some iteration begins in this state. -/
def Visits (body : σ → Option σ) (s t : σ) : Prop := ∃ k, visit body s k = some t

/-- The loop runs finitely many iterations. -/
def Ends (body : σ → Option σ) (s : σ) : Prop := ∃ k, visit body s k = none

theorem Visits.refl (body : σ → Option σ) (s : σ) : Visits body s s := ⟨0, rfl⟩

theorem Visits.next (h : Visits body s t) (hb : body t = some t') : Visits body s t' := by
  obtain ⟨k, hk⟩ := h
  exact ⟨k + 1, by rw [visit, hk, Option.bind_some, hb]⟩

/-- What one iteration hands on to the next holds at the start of all of them. -/
theorem Visits.keep {I : σ → Prop} (hstep : ∀ s t, I s → body s = some t → I t)
    (h : Visits body s t) (hs : I s) : I t := by
  obtain ⟨k, hk⟩ := h
  induction k generalizing t with
  | zero => exact Option.some.inj hk ▸ hs
  | succ k ih =>
    obtain ⟨r, hr, hb⟩ := Option.bind_eq_some_iff.mp hk
    exact hstep r t (ih hr) hb

/-- The first iteration, and then those of the loop that starts after it. -/
theorem visit_succ (body : σ → Option σ) (s : σ) (k : Nat) :
    visit body s (k + 1) = (body s).bind fun t => visit body t k := by
  induction k with
  | zero =>
    rw [visit, visit, Option.bind_some]
    cases body s <;> rfl
  | succ k ih =>
    rw [visit, ih]
    cases body s <;> rfl

theorem ends_of_return (h : body s = none) : Ends body s := ⟨1, h⟩

theorem ends_of_next (h : body s = some t) (ht : Ends body t) : Ends body s := by
  obtain ⟨k, hk⟩ := ht
  exact ⟨k + 1, by rw [visit_succ, h, Option.bind_some, hk]⟩

/-- A loop ends if some measure falls from the start of each iteration to the
start of the next. -/
theorem ends_of_falls {α : Type*} [LT α] [WellFoundedLT α] (μ : σ → α)
    (h : ∀ t t', Visits body s t → body t = some t' → μ t' < μ t) : Ends body s := by
  have hall : ∀ a t, μ t = a → Visits body s t → Ends body t := by
    intro a
    induction a using WellFoundedLT.induction with
    | ind a ih =>
      rintro t rfl hv
      rcases hb : body t with _ | t'
      · exact ends_of_return hb
      · exact ends_of_next hb (ih _ (h t t' hv hb) t' rfl (hv.next hb))
  exact hall _ s rfl (Visits.refl body s)

/-- A loop does not end if from some states the body leads to such a state
again. -/
theorem not_ends_of_keeps {I : σ → Prop} (h : ∀ s, I s → ∃ t, body s = some t ∧ I t) (hs : I s) :
    ¬Ends body s := by
  have hall : ∀ k s, I s → visit body s k ≠ none := by
    intro k
    induction k with
    | zero => exact fun s _ => Option.some_ne_none s
    | succ k ih =>
      intro s hs
      obtain ⟨t, hb, ht⟩ := h s hs
      rw [visit_succ, hb]
      exact ih t ht
  rintro ⟨k, hk⟩
  exact hall k s hs hk

/-- Nor does it if an iteration begins in a state from which it does not. -/
theorem Visits.ends (h : Visits body s t) (hs : Ends body s) : Ends body t := by
  have hstep : ∀ s t, Ends body s → body s = some t → Ends body t := by
    rintro s t ⟨k, hk⟩ hb
    cases k with
    | zero => cases hk
    | succ k =>
      rw [visit_succ, hb] at hk
      exact ⟨k, hk⟩
  exact h.keep hstep hs

end Loop
