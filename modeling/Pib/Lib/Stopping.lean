-- Computations that may stop with an error: when they succeed, and which errors
-- they stay clear of.
import Mathlib.Tactic

namespace Stopping

universe u

variable {ε : Type*} {α β : Type u}

/-- The parts of a computation that succeeds. -/
theorem bind_eq_ok {x : Except ε α} {f : α → Except ε β} {b : β} (h : x >>= f = .ok b) :
    ∃ a, x = .ok a ∧ f a = .ok b := by
  cases x with
  | error e => cases h
  | ok a => exact ⟨a, rfl, h⟩

theorem map_eq_ok {x : Except ε α} {f : α → β} {b : β} (h : f <$> x = .ok b) :
    ∃ a, x = .ok a ∧ f a = b := by
  cases x with
  | error e => cases h
  | ok a => exact ⟨a, rfl, Except.ok.inj h⟩

/-- The computation does not stop with an error of this kind. -/
def Avoids (P : ε → Prop) (x : Except ε α) : Prop := ∀ e, x = .error e → ¬P e

variable {P : ε → Prop}

@[simp] theorem avoids_ok (a : α) : Avoids P (.ok a : Except ε α) := nofun

@[simp] theorem avoids_pure (a : α) : Avoids P (pure a : Except ε α) := nofun

@[simp] theorem avoids_error {e : ε} : Avoids P (.error e : Except ε α) ↔ ¬P e :=
  ⟨fun h => h e rfl, fun h e' he => by rwa [← Except.error.inj he]⟩

/-- Neither the first part nor, where that succeeds, the second stops so. -/
theorem avoids_bind {x : Except ε α} {f : α → Except ε β} :
    Avoids P (x >>= f) ↔ Avoids P x ∧ ∀ a, x = .ok a → Avoids P (f a) := by
  cases x with
  | error e =>
    refine ⟨fun h => ⟨fun e' he => h e' (congrArg _ (Except.error.inj he)), nofun⟩, ?_⟩
    rintro ⟨h, -⟩ e' he
    exact h e' (congrArg _ (Except.error.inj he))
  | ok a =>
    refine ⟨fun h => ⟨nofun, fun b hb => ?_⟩, fun h => h.2 a rfl⟩
    obtain rfl := Except.ok.inj hb
    exact h

theorem avoids_map {x : Except ε α} {f : α → β} : Avoids P (f <$> x) ↔ Avoids P x := by
  cases x with
  | error e =>
    refine ⟨fun h e' he => h e' (congrArg _ (Except.error.inj he)), fun h e' he => ?_⟩
    exact h e' (congrArg _ (Except.error.inj he))
  | ok a => exact ⟨fun _ => nofun, fun _ => nofun⟩

/-- A first part that never stops so. -/
theorem Avoids.bind {x : Except ε α} {f : α → Except ε β} (hx : Avoids P x)
    (hf : ∀ a, Avoids P (f a)) : Avoids P (x >>= f) :=
  avoids_bind.mpr ⟨hx, fun a _ => hf a⟩

/-- To succeed is to stay clear of all errors. -/
theorem ok_iff_avoids {x : Except ε α} : (∃ a, x = .ok a) ↔ Avoids (fun _ => True) x := by
  cases x with
  | error e => exact ⟨nofun, fun h => absurd trivial (h e rfl)⟩
  | ok a => exact ⟨fun _ => nofun, fun _ => ⟨a, rfl⟩⟩

end Stopping
