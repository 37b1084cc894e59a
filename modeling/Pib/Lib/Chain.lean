-- A queue that takes a chain of requests in one call. Each request adds its
-- length to a total; the call is compared with one call for each request.
import Mathlib.Tactic

namespace Chain

variable {S W E V O : Type}

/-- How requests are posted: what is decided before the length of a request is
looked at, what becomes of the running total, what a request that is too long
leaves behind, and what happens to one with this total. No error is a request
that is passed over or queued. -/
structure Poster (S W E : Type) where
  max : Nat
  tooLongError : E
  before : S → W → Option (S × Option E)
  add : Nat → W → Nat
  tooLong : S → W → S
  after : S → W → Nat → S × Option E

namespace Poster

/-- One request: the state, the total and the error. -/
def step (p : Poster S W E) (s : S) (total : Nat) (w : W) : S × Nat × Option E :=
  match p.before s w with
  | some (s', e) => (s', total, e)
  | none =>
    if p.max < p.add total w then (p.tooLong s w, p.add total w, some p.tooLongError)
    else ((p.after s w (p.add total w)).1, p.add total w, (p.after s w (p.add total w)).2)

/-- The loop over a chain, until an error: the state, the error, and the
requests that are left. -/
def run (p : Poster S W E) : S → Nat → List W → S × Option E × List W
  | s, _, [] => (s, none, [])
  | s, total, w :: ws =>
    match p.step s total w with
    | (s', _, some e) => (s', some e, w :: ws)
    | (s', total', none) => p.run s' total' ws

/-- One call for each request, until an error. `settle` is what a call does at
its end. -/
def each (p : Poster S W E) (settle : S → S) : S → List W → S × Option E × List W
  | s, [] => (s, none, [])
  | s, w :: ws =>
    match p.step s 0 w with
    | (s', _, some e) => (settle s', some e, w :: ws)
    | (s', _, none) => p.each settle (settle s') ws

/-- What is seen of a queue: `view` is all that posting looks at, `obs` what
counts as the result, with the lengths of the queued requests in it, each as
it was recorded and as it should be. -/
structure Lens (S W V O : Type) where
  view : S → V
  obs : S → O
  lengths : O → List (Nat × Nat)
  own : W → Nat

/-- The laws of posting. -/
structure Lawful (p : Poster S W E) (settle : S → S) (l : Lens S W V O) : Prop where
  settle_view : ∀ s, l.view (settle s) = l.view s
  obs_view : ∀ {s s'}, l.view s = l.view s' → l.obs s = l.obs s'
  before_view : ∀ {s s'} w, l.view s = l.view s' →
    (p.before s w).map (fun r => (l.view r.1, r.2)) = (p.before s' w).map (fun r => (l.view r.1, r.2))
  tooLong_view : ∀ {s s'} w, l.view s = l.view s' → l.view (p.tooLong s w) = l.view (p.tooLong s' w)
  after_view : ∀ {s s'} w t, l.view s = l.view s' →
    (l.view (p.after s w t).1, (p.after s w t).2) = (l.view (p.after s' w t).1, (p.after s' w t).2)
  before_lengths : ∀ {s w s' e}, p.before s w = some (s', e) →
    l.lengths (l.obs s') = l.lengths (l.obs s)
  tooLong_lengths : ∀ s w, l.lengths (l.obs (p.tooLong s w)) = l.lengths (l.obs s)
  after_queued : ∀ {s w t}, p.before s w = none → (p.after s w t).2 = none →
    l.lengths (l.obs (p.after s w t).1) = l.lengths (l.obs s) ++ [(t, l.own w)]
  after_refused : ∀ {s w t}, p.before s w = none → (p.after s w t).2 ≠ none →
    l.obs (p.after s w t).1 = l.obs s
  before_error : ∀ {s w s' e}, p.before s w = some (s', e) → e ≠ some p.tooLongError
  after_error : ∀ s w t, (p.after s w t).2 ≠ some p.tooLongError
  add_mono : ∀ total w, p.add 0 w ≤ p.add total w
  add_own : ∀ {total w}, p.add total w = l.own w → p.add 0 w = l.own w
  add_long : ∀ {total w}, p.max < p.add total w → p.max < l.own w → p.max < p.add 0 w

/-- The chain gives the same result as its requests one by one: the same queue,
error and rest, each queued length its own, and no request refused as too long
that is not too long itself. `s` and `s'` are where the two begin. -/
structure Faithful (p : Poster S W E) (settle : S → S) (l : Lens S W V O) (s s' : S) (total : Nat)
    (ws : List W) : Prop where
  queue : l.obs (p.run s total ws).1 = l.obs (p.each settle s' ws).1
  error : (p.run s total ws).2.1 = (p.each settle s' ws).2.1
  rest : (p.run s total ws).2.1 ≠ none → (p.run s total ws).2.2 = (p.each settle s' ws).2.2
  lengths : ∃ new, l.lengths (l.obs (p.run s total ws).1) = l.lengths (l.obs s) ++ new ∧
    ∀ x ∈ new, x.1 = x.2
  long : (p.run s total ws).2.1 = some p.tooLongError →
    ∃ w ws', (p.run s total ws).2.2 = w :: ws' ∧ p.max < l.own w

/-- The total that the chain has run up does no harm to this request: it is
settled before its length counts, its length comes out right, it is too long
by itself, or it is refused with the same error in any case. -/
def Harmless (p : Poster S W E) (l : Lens S W V O) (s : S) (total : Nat) (w : W) : Prop :=
  p.before s w = none →
    p.add total w = l.own w ∨ (p.max < p.add total w ∧ p.max < l.own w) ∨
      (p.add total w ≤ p.max ∧ (p.after s w (p.add total w)).2 ≠ none ∧
        (p.after s w (p.add total w)).2 = (p.after s w (p.add 0 w)).2)

/-- No request of the chain that is reached comes to harm. -/
def Clean (p : Poster S W E) (l : Lens S W V O) : S → Nat → List W → Prop
  | _, _, [] => True
  | s, total, w :: ws => p.Harmless l s total w ∧
      ((p.step s total w).2.2 = none → p.Clean l (p.step s total w).1 (p.step s total w).2.1 ws)

section Run

variable {p : Poster S W E} {settle : S → S} {s : S} {total : Nat} {w : W} {ws : List W}

theorem step_before {r : S × Option E} (h : p.before s w = some r) :
    p.step s total w = (r.1, total, r.2) := by
  rw [step, h]

theorem step_long (h : p.before s w = none) (hlong : p.max < p.add total w) :
    p.step s total w = (p.tooLong s w, p.add total w, some p.tooLongError) := by
  rw [step, h]
  exact if_pos hlong

theorem step_after (h : p.before s w = none) (hfits : ¬p.max < p.add total w) :
    p.step s total w = ((p.after s w (p.add total w)).1, p.add total w,
      (p.after s w (p.add total w)).2) := by
  rw [step, h]
  exact if_neg hfits

theorem run_cons_some {e : E} (h : (p.step s total w).2.2 = some e) :
    p.run s total (w :: ws) = ((p.step s total w).1, some e, w :: ws) := by
  rcases hs : p.step s total w with ⟨s', t, r⟩
  rw [hs] at h
  cases h
  simp only [run, hs]

theorem run_cons_none (h : (p.step s total w).2.2 = none) :
    p.run s total (w :: ws) = p.run (p.step s total w).1 (p.step s total w).2.1 ws := by
  rcases hs : p.step s total w with ⟨s', t, r⟩
  rw [hs] at h
  cases h
  simp only [run, hs]

theorem each_cons_some {e : E} (h : (p.step s 0 w).2.2 = some e) :
    p.each settle s (w :: ws) = (settle (p.step s 0 w).1, some e, w :: ws) := by
  rcases hs : p.step s 0 w with ⟨s', t, r⟩
  rw [hs] at h
  cases h
  simp only [each, hs]

theorem each_cons_none (h : (p.step s 0 w).2.2 = none) :
    p.each settle s (w :: ws) = p.each settle (settle (p.step s 0 w).1) ws := by
  rcases hs : p.step s 0 w with ⟨s', t, r⟩
  rw [hs] at h
  cases h
  simp only [each, hs]

/-- What is left of a chain is not longer than the chain. -/
theorem length_each_le (ws : List W) : ∀ s, (p.each settle s ws).2.2.length ≤ ws.length := by
  induction ws with
  | nil =>
    intro s
    exact le_refl _
  | cons w ws ih =>
    intro s
    cases he : (p.step s 0 w).2.2 with
    | some e =>
      rw [each_cons_some he]
    | none =>
      rw [each_cons_none he]
      exact (ih _).trans (Nat.le_succ _)

/-- A property of the state that every taken request keeps holds behind a
chain. -/
theorem run_keeps {ok : S → Prop} (hok : ∀ s total w, ok s → ok (p.step s total w).1)
    (ws : List W) : ∀ s total, ok s → ok (p.run s total ws).1 := by
  induction ws with
  | nil =>
    intro s total hs
    exact hs
  | cons w ws ih =>
    intro s total hs
    cases he : (p.step s total w).2.2 with
    | some e =>
      rw [run_cons_some he]
      exact hok s total w hs
    | none =>
      rw [run_cons_none he]
      exact ih _ _ (hok s total w hs)

/-- A function with the equations of `run` is `run`. -/
theorem eq_run {R : Type} (ok : S → Prop) (hok : ∀ s total w, ok s → ok (p.step s total w).1)
    (f : S × Option E × List W → R) (loop : S → Nat → List W → R)
    (hnil : ∀ s total, ok s → loop s total [] = f (s, none, []))
    (hsome : ∀ {s total w ws e}, ok s → (p.step s total w).2.2 = some e →
      loop s total (w :: ws) = f ((p.step s total w).1, some e, w :: ws))
    (hnone : ∀ {s total w ws}, ok s → (p.step s total w).2.2 = none →
      loop s total (w :: ws) = loop (p.step s total w).1 (p.step s total w).2.1 ws)
    (ws : List W) : ∀ s total, ok s → loop s total ws = f (p.run s total ws) := by
  induction ws with
  | nil => exact hnil
  | cons w ws ih =>
    intro s total hs
    cases he : (p.step s total w).2.2 with
    | some e => rw [run_cons_some he, hsome hs he]
    | none =>
      rw [run_cons_none he, hnone hs he]
      exact ih _ _ (hok s total w hs)

end Run

namespace Lawful

variable {p : Poster S W E} {settle : S → S} {l : Lens S W V O} (h : p.Lawful settle l)
  {s s' : S} {total : Nat} {w : W}
include h

theorem step_view (hv : l.view s = l.view s') (total : Nat) (w : W) :
    l.view (p.step s total w).1 = l.view (p.step s' total w).1 ∧
      (p.step s total w).2 = (p.step s' total w).2 := by
  have hb := h.before_view w hv
  have ha := h.after_view w (p.add total w) hv
  unfold step
  cases h1 : p.before s w with
  | some r =>
    obtain ⟨r', h2, hr⟩ : ∃ r', p.before s' w = some r' ∧ (l.view r.1, r.2) = (l.view r'.1, r'.2) := by
      cases h2 : p.before s' w with
      | none => simp [h1, h2] at hb
      | some r' =>
        rw [h1, h2] at hb
        exact ⟨r', rfl, Option.some.inj hb⟩
    rw [h2]
    injection hr with hr1 hr2
    exact ⟨hr1, congrArg (Prod.mk total) hr2⟩
  | none =>
    have h2 : p.before s' w = none := by
      cases h2 : p.before s' w with
      | none => rfl
      | some r => simp [h1, h2] at hb
    rw [h2]
    dsimp only
    split
    · exact ⟨h.tooLong_view w hv, rfl⟩
    · injection ha with ha1 ha2
      exact ⟨ha1, by rw [ha2]⟩

/-- A request leaves the queue as it is, or joins it with the total. -/
theorem step_lengths (s : S) (total : Nat) (w : W) :
    l.lengths (l.obs (p.step s total w).1) = l.lengths (l.obs s) ∨
      (p.before s w = none ∧ l.lengths (l.obs (p.step s total w).1) =
        l.lengths (l.obs s) ++ [(p.add total w, l.own w)]) := by
  unfold step
  cases hb : p.before s w with
  | some r => exact Or.inl (h.before_lengths hb)
  | none =>
    dsimp only
    split
    · exact Or.inl (h.tooLong_lengths s w)
    cases ha : (p.after s w (p.add total w)).2 with
    | none => exact Or.inr ⟨rfl, h.after_queued hb ha⟩
    | some e =>
      refine Or.inl (congrArg l.lengths (h.after_refused hb ?_))
      rw [ha]
      exact Option.some_ne_none e

/-- A chain only adds to the queue. -/
theorem run_lengths (ws : List W) : ∀ (s : S) (total : Nat),
    ∃ new, l.lengths (l.obs (p.run s total ws).1) = l.lengths (l.obs s) ++ new := by
  induction ws with
  | nil =>
    intro s total
    exact ⟨[], (List.append_nil _).symm⟩
  | cons w ws ih =>
    intro s total
    obtain ⟨new, hnew⟩ : ∃ new, l.lengths (l.obs (p.step s total w).1) =
        l.lengths (l.obs s) ++ new := by
      rcases h.step_lengths s total w with hs | ⟨-, hs⟩
      · exact ⟨[], by rw [hs, List.append_nil]⟩
      · exact ⟨_, hs⟩
    cases he : (p.step s total w).2.2 with
    | some e =>
      rw [run_cons_some he]
      exact ⟨new, hnew⟩
    | none =>
      obtain ⟨new', hnew'⟩ := ih (p.step s total w).1 (p.step s total w).2.1
      rw [run_cons_none he]
      exact ⟨new ++ new', by rw [hnew', hnew, List.append_assoc]⟩

/-- A request that comes to no harm fares as it does alone. -/
theorem harmless_step (hh : p.Harmless l s total w) :
    (p.step s total w).2.2 = (p.step s 0 w).2.2 ∧
      l.obs (p.step s total w).1 = l.obs (p.step s 0 w).1 ∧
      ((p.step s total w).2.2 = none → (p.step s total w).1 = (p.step s 0 w).1) := by
  unfold step
  cases hb : p.before s w with
  | some r => exact ⟨rfl, rfl, fun _ => rfl⟩
  | none =>
    dsimp only
    rcases hh hb with hown | ⟨hlong, hself⟩ | ⟨hle, hne, hsame⟩
    · rw [hown, h.add_own hown]
      exact ⟨rfl, rfl, fun _ => rfl⟩
    · rw [if_pos hlong, if_pos (h.add_long hlong hself)]
      exact ⟨rfl, rfl, fun _ => rfl⟩
    have hle0 : p.add 0 w ≤ p.max := (h.add_mono total w).trans hle
    rw [if_neg (by omega), if_neg (by omega)]
    refine ⟨hsame, ?_, fun hn => absurd hn hne⟩
    rw [h.after_refused hb hne, h.after_refused hb (hsame ▸ hne)]

theorem harmless_lengths (hh : p.Harmless l s total w) :
    ∃ new, l.lengths (l.obs (p.step s total w).1) = l.lengths (l.obs s) ++ new ∧
      ∀ x ∈ new, x.1 = x.2 := by
  rcases h.step_lengths s total w with hs | ⟨hb, hs⟩
  · exact ⟨[], by rw [hs, List.append_nil], by simp⟩
  refine ⟨_, hs, ?_⟩
  rcases hh hb with hown | ⟨hlong, -⟩ | ⟨hle, hne, -⟩
  · simpa using hown
  · -- refused, so nothing was added
    have hstep : p.step s total w = (p.tooLong s w, p.add total w, some p.tooLongError) := by
      simp only [step, hb, if_pos hlong]
    rw [hstep, h.tooLong_lengths] at hs
    simp at hs
  · have hstep : (p.step s total w).1 = (p.after s w (p.add total w)).1 := by
      simp only [step, hb]
      rw [if_neg (by omega)]
    rw [hstep, h.after_refused hb hne] at hs
    simp at hs

theorem harmless_long (hh : p.Harmless l s total w)
    (he : (p.step s total w).2.2 = some p.tooLongError) : p.max < l.own w := by
  unfold step at he
  cases hb : p.before s w with
  | some r =>
    rw [hb] at he
    exact absurd he (h.before_error hb)
  | none =>
    rw [hb] at he
    dsimp only at he
    split at he
    · rename_i hlong
      rcases hh hb with hown | ⟨-, hself⟩ | ⟨hle, -, -⟩
      · omega
      · exact hself
      · omega
    · exact absurd he (h.after_error _ _ _)

theorem faithful_of_clean (ws : List W) : ∀ (s s' : S) (total : Nat), l.view s = l.view s' →
    p.Clean l s total ws → p.Faithful settle l s s' total ws := by
  induction ws with
  | nil =>
    intro s s' total hv _
    exact ⟨h.obs_view hv, rfl, fun hn => absurd rfl hn, ⟨[], by simp [run], nofun⟩, nofun⟩
  | cons w ws ih =>
    intro s s' total hv ⟨hh, hrest⟩
    obtain ⟨herr, hobs, hsame⟩ := h.harmless_step hh
    obtain ⟨hview, hpair⟩ := h.step_view hv 0 w
    have herr' : (p.step s' 0 w).2.2 = (p.step s total w).2.2 := by rw [← hpair, herr]
    obtain ⟨new, hnew, hall⟩ := h.harmless_lengths hh
    cases he : (p.step s total w).2.2 with
    | some e =>
      rw [he] at herr'
      have hlong : some e = some p.tooLongError → p.max < l.own w :=
        fun hl => h.harmless_long hh (he.trans hl)
      constructor
      · rw [run_cons_some he, each_cons_some herr', hobs]
        exact h.obs_view (hview.trans (h.settle_view _).symm)
      · rw [run_cons_some he, each_cons_some herr']
      · intro _
        rw [run_cons_some he, each_cons_some herr']
      · rw [run_cons_some he]
        exact ⟨new, hnew, hall⟩
      · rw [run_cons_some he]
        exact fun hl => ⟨w, ws, rfl, hlong hl⟩
    | none =>
      rw [he] at herr'
      have hv' : l.view (p.step s total w).1 = l.view (settle (p.step s' 0 w).1) := by
        rw [hsame he, h.settle_view]
        exact hview
      obtain ⟨hq, herror, hr, ⟨new', hnew', hall'⟩, hlong⟩ := ih _ _ _ hv' (hrest he)
      constructor
      · rw [run_cons_none he, each_cons_none herr']
        exact hq
      · rw [run_cons_none he, each_cons_none herr']
        exact herror
      · rw [run_cons_none he, each_cons_none herr']
        exact hr
      · rw [run_cons_none he]
        refine ⟨new ++ new', by rw [hnew', hnew, List.append_assoc], fun x hx => ?_⟩
        rcases List.mem_append.mp hx with hx | hx
        · exact hall x hx
        · exact hall' x hx
      · rw [run_cons_none he]
        exact hlong

/-- A request that comes to harm shows: by its length in the queue, as refused
for a length it does not have, or by an error that it would not meet alone. -/
theorem harmless_of_faithful {ws : List W} (hv : l.view s = l.view s')
    (hf : p.Faithful settle l s s' total (w :: ws)) : p.Harmless l s total w := by
  intro hb
  by_cases hlong : p.max < p.add total w
  · have hstep : (p.step s total w).2.2 = some p.tooLongError := by
      simp only [step, hb, if_pos hlong]
    have hself := hf.long
    rw [run_cons_some hstep] at hself
    obtain ⟨w', ws', hcons, hself⟩ := hself rfl
    injection hcons with hw
    exact Or.inr (Or.inl ⟨hlong, hw ▸ hself⟩)
  have hstep : p.step s total w =
      ((p.after s w (p.add total w)).1, p.add total w, (p.after s w (p.add total w)).2) := by
    simp only [step, hb, if_neg hlong]
  cases he : (p.after s w (p.add total w)).2 with
  | none =>
    refine Or.inl ?_
    have hnone : (p.step s total w).2.2 = none := by rw [hstep, he]
    obtain ⟨new, hnew, hall⟩ := hf.lengths
    obtain ⟨new', hnew'⟩ := h.run_lengths ws (p.step s total w).1 (p.step s total w).2.1
    have hqueued : l.lengths (l.obs (p.step s total w).1) =
        l.lengths (l.obs s) ++ [(p.add total w, l.own w)] := by
      rw [hstep]
      exact h.after_queued hb he
    rw [run_cons_none hnone, hnew', hqueued, List.append_assoc] at hnew
    have hcons := List.append_cancel_left hnew
    exact hall (p.add total w, l.own w) (by rw [← hcons]; simp)
  | some e =>
    refine Or.inr (Or.inr ⟨by omega, Option.some_ne_none e, ?_⟩)
    have hsome : (p.step s total w).2.2 = some e := by rw [hstep, he]
    have hle0 := h.add_mono total w
    have halone : (p.step s' 0 w).2.2 = (p.after s w (p.add 0 w)).2 := by
      rw [← (h.step_view hv 0 w).2]
      simp only [step, hb]
      rw [if_neg (by omega)]
    have herror := hf.error
    have hrest := hf.rest
    rw [run_cons_some hsome] at herror hrest
    cases h0 : (p.step s' 0 w).2.2 with
    | some e' =>
      rw [each_cons_some h0] at herror
      rw [← halone, h0]
      exact herror
    | none =>
      -- alone it is taken, and the calls go on behind it
      rw [each_cons_none h0] at hrest
      have hlen := congrArg List.length (hrest (Option.some_ne_none e))
      have hle := @length_each_le _ _ _ p settle ws (settle (p.step s' 0 w).1)
      simp only [List.length_cons] at hlen
      omega

theorem clean_of_faithful (ws : List W) : ∀ (s s' : S) (total : Nat), l.view s = l.view s' →
    p.Faithful settle l s s' total ws → p.Clean l s total ws := by
  induction ws with
  | nil =>
    intro _ _ _ _ _
    trivial
  | cons w ws ih =>
    intro s s' total hv hf
    have hh := h.harmless_of_faithful hv hf
    refine ⟨hh, fun he => ?_⟩
    obtain ⟨herr, -, hsame⟩ := h.harmless_step hh
    obtain ⟨hview, hpair⟩ := h.step_view hv 0 w
    have herr' : (p.step s' 0 w).2.2 = none := by rw [← hpair, ← herr, he]
    have hv' : l.view (p.step s total w).1 = l.view (settle (p.step s' 0 w).1) := by
      rw [hsame he, h.settle_view]
      exact hview
    refine ih _ _ _ hv' ?_
    obtain ⟨hq, herror, hr, ⟨new, hnew, hall⟩, hlong⟩ := hf
    rw [run_cons_none he, each_cons_none herr'] at hq herror hr
    rw [run_cons_none he] at hnew hlong
    refine ⟨hq, herror, hr, ?_, hlong⟩
    obtain ⟨new₁, hnew₁, -⟩ := h.harmless_lengths hh
    obtain ⟨new₂, hnew₂⟩ := h.run_lengths ws (p.step s total w).1 (p.step s total w).2.1
    refine ⟨new₂, hnew₂, fun x hx => hall x ?_⟩
    rw [hnew₂, hnew₁, List.append_assoc] at hnew
    rw [← List.append_cancel_left hnew]
    exact List.mem_append_right _ hx

/-- A chain is faithful exactly if its running total does no harm. -/
theorem faithful_iff (hv : l.view s = l.view s') (total : Nat) (ws : List W) :
    p.Faithful settle l s s' total ws ↔ p.Clean l s total ws :=
  ⟨h.clean_of_faithful ws s s' total hv, h.faithful_of_clean ws s s' total hv⟩

end Lawful

end Poster

end Chain
