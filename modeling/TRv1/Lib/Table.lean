import Mathlib

/-!
# Tables of flags written by loops

Two loops over a table, as a program writes them over a fixed-size array.

- `for (index, x) in xs.iter().enumerate() { table[index] = value(index, x) }` is a fold of
  `List.set` over `xs.zipIdx`. Each slot the list reaches holds what was written there
  (`getElem?_foldl_set_zipIdx`) and the others keep their entries
  (`getElem?_foldl_set_zipIdx_of_not`); from a table of defaults, a slot past the list reads the
  default (`getD_foldl_set_zipIdx_replicate`).
- A fold whose step can only clear the slot its item names, and only when a condition on the
  item fails, leaves a slot set exactly when it started set and every item naming it passed the
  condition (`getD_foldl_clear`). The step may carry a state with an invariant: a value computed
  the first time it is needed and kept in an `Option` (`Option::get_or_insert_with`,
  `getOrInsertWith`) reads as the value itself as long as the option holds nothing or the value
  (`Memo`, `getOrInsertWith_of_memo`).

The module names nothing of the repository it serves.
-/

set_option autoImplicit false

namespace Table

variable {α β γ σ : Type}

/-! ## A value computed when first needed -/

/-- `Option::get_or_insert_with`: the value the option holds, or `f ()`, which it then holds. -/
def getOrInsertWith (o : Option α) (f : Unit → α) : α × Option α :=
  match o with
  | some a => (a, some a)
  | none =>
    let a := f ()
    (a, some a)

/-- `o` caches `a`: it holds nothing yet, or `a`. -/
def Memo (o : Option α) (a : α) : Prop := ∀ b, o = some b → b = a

theorem memo_none (a : α) : Memo none a := fun _ h => by cases h

/-- Reading a cache of `f ()` gives `f ()` and leaves a cache of it. -/
theorem getOrInsertWith_of_memo {o : Option α} {f : Unit → α} (h : Memo o (f ())) :
    (getOrInsertWith o f).1 = f () ∧ Memo (getOrInsertWith o f).2 (f ()) := by
  cases o with
  | none => exact ⟨rfl, fun b hb => (Option.some.inj hb).symm⟩
  | some a =>
    have ha : a = f () := h a rfl
    exact ⟨ha, fun b hb => (Option.some.inj hb).symm.trans ha⟩

/-! ## Writing the slots a list reaches -/

section Fill

variable (value : Nat → α → β)

theorem length_foldl_set_zipIdx (xs : List α) (k : Nat) (t : List β) :
    ((xs.zipIdx k).foldl (fun t p => t.set p.2 (value p.2 p.1)) t).length = t.length := by
  induction xs generalizing k t with
  | nil => rfl
  | cons x xs ih => rw [List.zipIdx_cons, List.foldl_cons, ih, List.length_set]

/-- The slots the list does not reach keep their entries. -/
theorem getElem?_foldl_set_zipIdx_of_not (xs : List α) (k : Nat) (t : List β) {i : Nat}
    (hi : i < k ∨ k + xs.length ≤ i) :
    ((xs.zipIdx k).foldl (fun t p => t.set p.2 (value p.2 p.1)) t)[i]? = t[i]? := by
  induction xs generalizing k t with
  | nil => rfl
  | cons x xs ih =>
    rw [List.zipIdx_cons, List.foldl_cons, ih]
    · exact List.getElem?_set_ne (by rw [List.length_cons] at hi; omega)
    · rw [List.length_cons] at hi
      omega

/-- The slot of the `j`-th element holds what the loop wrote for it, where the table has
that slot. The induction is on the list; the slot written first is never written again. -/
theorem getElem?_foldl_set_zipIdx (xs : List α) (k : Nat) (t : List β) {j : Nat}
    (hj : j < xs.length) (ht : k + j < t.length) :
    ((xs.zipIdx k).foldl (fun t p => t.set p.2 (value p.2 p.1)) t)[k + j]? =
      some (value (k + j) xs[j]) := by
  induction xs generalizing k t j with
  | nil => exact absurd hj (Nat.not_lt_zero _)
  | cons x xs ih =>
    rw [List.zipIdx_cons, List.foldl_cons]
    cases j with
    | zero =>
      rw [getElem?_foldl_set_zipIdx_of_not value xs (k + 1) _ (Or.inl (by omega))]
      show (t.set k (value k x))[k]? = some (value k x)
      exact List.getElem?_set_self (by omega)
    | succ j =>
      have hj' : j < xs.length := by
        rw [List.length_cons] at hj
        omega
      rw [show k + (j + 1) = k + 1 + j by omega,
        ih (k + 1) _ hj' (by rw [List.length_set]; omega)]
      rfl

/-- Filling a table of `n` entries `d` from a list of at most `n` elements: each slot holds what
was written for the element at its index, and `d` past the list. -/
theorem getD_foldl_set_zipIdx_replicate (xs : List α) {n : Nat} (hn : xs.length ≤ n) (d : β)
    (i : Nat) :
    (xs.zipIdx.foldl (fun t p => t.set p.2 (value p.2 p.1)) (List.replicate n d)).getD i d =
      (xs[i]?.map (value i)).getD d := by
  rw [List.getD_eq_getElem?_getD]
  by_cases hi : i < xs.length
  · have hslot := getElem?_foldl_set_zipIdx value xs 0 (List.replicate n d) hi
      (by rw [List.length_replicate]; omega)
    rw [Nat.zero_add] at hslot
    rw [hslot, List.getElem?_eq_getElem hi]
    rfl
  · rw [getElem?_foldl_set_zipIdx_of_not value xs 0 _ (Or.inr (by omega)),
      List.getElem?_eq_none (by omega : xs.length ≤ i), List.getElem?_replicate]
    split <;> rfl

end Fill

/-! ## Clearing slots -/

/-- A fold whose step at `x` keeps an invariant `Inv` of its state and changes at most the slot
`slot x`, which stays set only if it was and `keep x` holds: a slot ends set exactly when it
started set and every item naming it was kept. The induction is on the list. -/
theorem getD_foldl_clear (step : List Bool × σ → γ → List Bool × σ) (slot : γ → Nat)
    (keep : γ → Bool) (Inv : σ → Prop)
    (hstep : ∀ s x, Inv s.2 → Inv (step s x).2 ∧
      ∀ i, (step s x).1.getD i false = (s.1.getD i false && (i != slot x || keep x))) :
    ∀ (xs : List γ) (s : List Bool × σ), Inv s.2 → ∀ i,
      (xs.foldl step s).1.getD i false =
        (s.1.getD i false && xs.all fun x => i != slot x || keep x) := by
  intro xs
  induction xs with
  | nil =>
    intro s _ i
    rw [List.foldl_nil, List.all_nil, Bool.and_true]
  | cons x xs ih =>
    intro s hinv i
    obtain ⟨hinv', hslots⟩ := hstep s x hinv
    rw [List.foldl_cons, ih (step s x) hinv' i, hslots i, List.all_cons, Bool.and_assoc]

end Table
