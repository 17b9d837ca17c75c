import Mathlib

/-!
# Successful runs of state-and-error programs

A program of `StateT σ (Except ε)` that succeeds ran each part of a sequence to success, one
after another (`run_bind_eq_ok`). Symbolic execution of a model written in this monad is a
chain of these steps, each part then described by its own lemma; no proof unfolds a program
whose parts have lemmas. `except_bind_eq_ok` does the same for a plain `Except` computation.

`Keeps R x` says that every successful run of `x` ends in a state `R` relates to the one it
started in; for a preorder `R` it is proved part by part (`keeps_bind`), so that a frame
property of a whole program follows from one lemma per operation.

The module names nothing of the repository it serves.
-/

set_option autoImplicit false

namespace StateExcept

variable {σ ε α β : Type}

/-- A successful sequence ran its first part to success and the rest from there. -/
theorem run_bind_eq_ok {x : StateT σ (Except ε) α} {f : α → StateT σ (Except ε) β} {s s'' : σ}
    {b : β} (h : (x >>= f).run s = .ok (b, s'')) :
    ∃ a s', x.run s = .ok (a, s') ∧ (f a).run s' = .ok (b, s'') := by
  rw [StateT.run_bind] at h
  cases hx : x.run s with
  | error e =>
    rw [hx] at h
    cases h
  | ok p =>
    obtain ⟨a, s'⟩ := p
    rw [hx] at h
    exact ⟨a, s', rfl, h⟩

/-- A successful sequence whose first part cannot change the state ran the rest from the state
it started in. -/
theorem run_bind_eq_ok_of_eq {x : StateT σ (Except ε) α} {f : α → StateT σ (Except ε) β}
    {s s'' : σ} {b : β} (hx : ∀ a s', x.run s = .ok (a, s') → s' = s)
    (h : (x >>= f).run s = .ok (b, s'')) :
    ∃ a, x.run s = .ok (a, s) ∧ (f a).run s = .ok (b, s'') := by
  obtain ⟨a, s', h₁, h₂⟩ := run_bind_eq_ok h
  obtain rfl := hx a s' h₁
  exact ⟨a, h₁, h₂⟩

/-- A sequence whose first part succeeds continues from that part's result. -/
theorem run_bind_of_eq_ok {x : StateT σ (Except ε) α} {s s' : σ} {a : α}
    (h : x.run s = .ok (a, s')) (f : α → StateT σ (Except ε) β) :
    (x >>= f).run s = (f a).run s' := by
  rw [StateT.run_bind, h]
  rfl

/-- A sequence succeeds exactly when its first part does and the rest succeeds from there. -/
theorem run_bind_eq_ok_iff {x : StateT σ (Except ε) α} {f : α → StateT σ (Except ε) β}
    {s s'' : σ} {b : β} :
    (x >>= f).run s = .ok (b, s'') ↔ ∃ a s', x.run s = .ok (a, s') ∧ (f a).run s' = .ok (b, s'') :=
  ⟨run_bind_eq_ok, fun ⟨_, _, h₁, h₂⟩ => (run_bind_of_eq_ok h₁ f).trans h₂⟩

/-- `get` hands the state to the rest. -/
@[simp] theorem run_get_bind (f : σ → StateT σ (Except ε) β) (s : σ) :
    (get >>= f).run s = (f s).run s := rfl

/-- `set` makes its argument the state of the rest. -/
@[simp] theorem run_set_bind (f : PUnit → StateT σ (Except ε) β) (s s' : σ) :
    (set s' >>= f).run s = (f ⟨⟩).run s' := rfl

/-- A run that keeps only the value succeeds when the run does. -/
theorem run'_eq_ok {x : StateT σ (Except ε) α} {s : σ} {a : α} :
    x.run' s = .ok a ↔ ∃ s', x.run s = .ok (a, s') := by
  rw [StateT.run'_eq]
  cases x.run s with
  | error e =>
    simp only [reduceCtorEq, exists_false, iff_false]
    intro h
    cases h
  | ok p =>
    obtain ⟨b, s'⟩ := p
    constructor
    · intro h
      cases h
      exact ⟨s', rfl⟩
    · rintro ⟨s'', h⟩
      cases h
      rfl

/-- A sequence whose first part fails fails with its error. -/
theorem run_bind_of_eq_error {x : StateT σ (Except ε) α} {s : σ} {e : ε}
    (h : x.run s = .error e) (f : α → StateT σ (Except ε) β) :
    (x >>= f).run s = .error e := by
  rw [StateT.run_bind, h]
  rfl

@[simp] theorem run_pure (a : α) (s : σ) :
    (pure a : StateT σ (Except ε) α).run s = .ok (a, s) := rfl

@[simp] theorem run_throw (e : ε) (s : σ) :
    (throw e : StateT σ (Except ε) α).run s = .error e := rfl

/-- `pure` succeeds with its value and leaves the state alone. -/
theorem run_pure_eq_ok {a b : α} {s s' : σ}
    (h : (pure a : StateT σ (Except ε) α).run s = .ok (b, s')) : b = a ∧ s' = s := by
  rw [run_pure] at h
  cases h
  exact ⟨rfl, rfl⟩

/-- `throw` never succeeds. -/
theorem run_throw_ne_ok {e : ε} {s s' : σ} {a : α} :
    (throw e : StateT σ (Except ε) α).run s ≠ .ok (a, s') := by
  rw [run_throw]
  intro h
  cases h

/-- A guard `if c then throw e else pure ()` that passes was false and changed nothing. -/
theorem run_guard_eq_ok {c : Bool} {e : ε} {s s' : σ} {u : Unit}
    (h : (if c then throw e else pure () : StateT σ (Except ε) Unit).run s = .ok (u, s')) :
    c = false ∧ s' = s := by
  cases c with
  | true => exact absurd h run_throw_ne_ok
  | false => exact ⟨rfl, (run_pure_eq_ok h).2⟩

/-- A guard on a proposition passes exactly when the proposition is false, and changes
nothing. -/
theorem run_guard_eq_ok_iff {c : Prop} [Decidable c] {e : ε} {s s' : σ} {u : PUnit} :
    (if c then throw e else pure () : StateT σ (Except ε) PUnit).run s = .ok (u, s') ↔
      ¬c ∧ s' = s := by
  by_cases hc : c
  · rw [if_pos hc]
    exact iff_of_false run_throw_ne_ok (fun h => h.1 hc)
  · rw [if_neg hc, run_pure]
    constructor
    · intro h
      cases h
      exact ⟨hc, rfl⟩
    · rintro ⟨-, rfl⟩
      rfl

/-- A lifted `Except` computation succeeds when it does, and leaves the state alone. -/
theorem run_lift_eq_ok {x : Except ε α} {s s' : σ} {a : α} :
    (StateT.lift x : StateT σ (Except ε) α).run s = .ok (a, s') ↔ x = .ok a ∧ s' = s := by
  cases x with
  | error e =>
    simp only [reduceCtorEq, false_and, iff_false]
    intro h
    cases h
  | ok b =>
    simp only [Except.ok.injEq]
    constructor
    · intro h
      cases h
      exact ⟨rfl, rfl⟩
    · rintro ⟨rfl, rfl⟩
      rfl

/-- `modify` succeeds with the function applied to the state. -/
theorem run_modify_eq_ok {f : σ → σ} {s s' : σ} {u : PUnit}
    (h : (modify f : StateT σ (Except ε) PUnit).run s = .ok (u, s')) : s' = f s := by
  cases h
  rfl

/-- `get` succeeds with the state and leaves it alone. -/
theorem run_get_eq_ok {s s' a : σ}
    (h : (get : StateT σ (Except ε) σ).run s = .ok (a, s')) : a = s ∧ s' = s := by
  cases h
  exact ⟨rfl, rfl⟩

/-- A successful `Except` sequence: the first part succeeded and the rest ran from its value. -/
theorem except_bind_eq_ok {x : Except ε α} {f : α → Except ε β} {b : β} (h : (x >>= f) = .ok b) :
    ∃ a, x = .ok a ∧ f a = .ok b := by
  cases hx : x with
  | error e =>
    rw [hx] at h
    cases h
  | ok a =>
    rw [hx] at h
    exact ⟨a, rfl, h⟩

theorem except_pure_eq_ok {a b : α} (h : (pure a : Except ε α) = .ok b) : b = a := by
  cases h
  rfl

theorem except_bind_eq_ok_iff {x : Except ε α} {f : α → Except ε β} {b : β} :
    (x >>= f) = .ok b ↔ ∃ a, x = .ok a ∧ f a = .ok b :=
  ⟨except_bind_eq_ok, fun ⟨_, hx, hf⟩ => by rw [hx]; exact hf⟩

/-- A sequence after a step with no result succeeds when the step and the rest do. -/
theorem except_bind_unit_eq_ok {x : Except ε PUnit} {f : PUnit → Except ε β} {b : β} :
    (x >>= f) = .ok b ↔ x = .ok () ∧ f () = .ok b := by
  rw [except_bind_eq_ok_iff]
  exact ⟨fun ⟨⟨⟩, hx, hf⟩ => ⟨hx, hf⟩, fun ⟨hx, hf⟩ => ⟨(), hx, hf⟩⟩

/-- A check that ends the computation when `c` holds, with the rest on the other branch, as a
`do` block lays out a check followed by more steps. -/
theorem except_ite_throw_bind_eq_ok {c : Prop} [Decidable c] {e : ε} {f : PUnit → Except ε β}
    {k : Except ε β} {b : β} :
    (if c then throw e >>= f else k) = .ok b ↔ ¬c ∧ k = .ok b := by
  by_cases hc : c
  · rw [if_pos hc]
    exact iff_of_false (fun h => nomatch h) (fun h => h.1 hc)
  · rw [if_neg hc]
    exact ⟨fun h => ⟨hc, h⟩, fun h => h.2⟩

/-- A check succeeds exactly when its condition fails. -/
theorem except_guard_eq_ok {c : Prop} [Decidable c] {e : ε} {u : PUnit} :
    (if c then throw e else pure () : Except ε PUnit) = .ok u ↔ ¬c := by
  by_cases hc : c
  · rw [if_pos hc]
    exact iff_of_false (fun h => nomatch h) (fun h => h hc)
  · rw [if_neg hc]
    exact iff_of_true rfl hc

/-- A loop of checks over a list succeeds exactly when the check of each element does. The
induction is on the list. -/
theorem except_forM_eq_ok {l : List α} {f : α → Except ε PUnit} :
    l.forM f = .ok () ↔ ∀ a ∈ l, f a = .ok () := by
  induction l with
  | nil => exact iff_of_true rfl (fun _ h => absurd h List.not_mem_nil)
  | cons a l ih =>
    show (f a >>= fun _ => l.forM f) = .ok () ↔ _
    rw [List.forall_mem_cons, ← ih]
    cases f a with
    | error e => exact iff_of_false (fun h => nomatch h) (fun h => nomatch h.1)
    | ok u => exact ⟨fun h => ⟨rfl, h⟩, fun h => h.2⟩

/-! ## Relations every successful run keeps -/

/-- Every successful run of `x` ends in a state that `R` relates to the one it started in. -/
def Keeps (R : σ → σ → Prop) (x : StateT σ (Except ε) α) : Prop :=
  ∀ s a s', x.run s = .ok (a, s') → R s s'

section Keeps

variable {R : σ → σ → Prop}

/-- A program that succeeds only without changing the state keeps any reflexive relation. -/
theorem keeps_of_eq [Std.Refl R] {x : StateT σ (Except ε) α}
    (h : ∀ s a s', x.run s = .ok (a, s') → s' = s) : Keeps R x := by
  intro s a s' hrun
  rw [h s a s' hrun]
  exact Std.Refl.refl s

theorem keeps_pure [Std.Refl R] (a : α) : Keeps R (pure a : StateT σ (Except ε) α) :=
  keeps_of_eq fun _ _ _ h => (run_pure_eq_ok h).2

theorem keeps_throw (e : ε) : Keeps R (throw e : StateT σ (Except ε) α) := by
  intro s a s' h
  exact absurd h run_throw_ne_ok

theorem keeps_get [Std.Refl R] : Keeps R (get : StateT σ (Except ε) σ) :=
  keeps_of_eq fun _ _ _ h => (run_get_eq_ok h).2

theorem keeps_modify {f : σ → σ} (hf : ∀ s, R s (f s)) :
    Keeps R (modify f : StateT σ (Except ε) PUnit) := by
  intro s u s' h
  rw [run_modify_eq_ok h]
  exact hf s

/-- A sequence keeps a transitive relation that each of its parts keeps. -/
theorem keeps_bind [IsTrans σ R] {x : StateT σ (Except ε) α} {f : α → StateT σ (Except ε) β}
    (hx : Keeps R x) (hf : ∀ a, Keeps R (f a)) : Keeps R (x >>= f) := by
  intro s b s'' h
  obtain ⟨a, s', h₁, h₂⟩ := run_bind_eq_ok h
  exact IsTrans.trans s s' s'' (hx s a s' h₁) (hf a s' b s'' h₂)

/-- A program that fails after its first part never succeeds, and keeps every relation. -/
theorem keeps_bind_throw {x : StateT σ (Except ε) α} (e : ε) :
    Keeps R (x >>= fun _ => (throw e : StateT σ (Except ε) β)) := by
  intro s b s'' h
  obtain ⟨a, s', -, h₂⟩ := run_bind_eq_ok h
  exact absurd h₂ run_throw_ne_ok

theorem keeps_ite {c : Prop} [Decidable c] {x y : StateT σ (Except ε) α} (hx : Keeps R x)
    (hy : Keeps R y) : Keeps R (if c then x else y) := by
  by_cases hc : c
  · rw [if_pos hc]
    exact hx
  · rw [if_neg hc]
    exact hy

/-- The relation of an invariant: whatever `P` held of the first state holds of the second. A
program keeps `Preserving P` when each of its successful runs from a state satisfying `P` ends
in one. -/
def Preserving (P : σ → Prop) (s s' : σ) : Prop := P s → P s'

instance (P : σ → Prop) : IsPreorder σ (Preserving P) where
  refl _ := id
  trans _ _ _ hab hbc := hbc ∘ hab

end Keeps

end StateExcept
