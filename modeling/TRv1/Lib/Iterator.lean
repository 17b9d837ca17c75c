/-!
# Iterators that read a list back

An iterator is a state with a step `next` that yields an element and the next state, or ends.
`collect next fuel it` is what a `for` loop over it sees: the elements in order, at most `fuel`
of them, stopping at the first `none`. With the iterator's own length as `fuel` it is everything
the iterator yields.

`collect_eq_of_steps` is the rule by which an iterator is shown to read back a list: a relation
between states and the lists still to be read under which each step yields the head of the list
and leaves a state related to its tail.

The module names nothing of the repository it serves.
-/

set_option autoImplicit false

namespace Iterator

variable {ι β : Type} (next : ι → Option (β × ι))

/-- The elements the iterator yields from `it`, at most `fuel` of them. -/
def collect : Nat → ι → List β
  | 0, _ => []
  | fuel + 1, it =>
    match next it with
    | some (b, it') => b :: collect fuel it'
    | none => []

variable {next}

theorem collect_succ_of_eq_some {it it' : ι} {b : β} (h : next it = some (b, it'))
    (fuel : Nat) : collect next (fuel + 1) it = b :: collect next fuel it' := by
  rw [collect, h]

/-- An iterator reads back a list when, related to what is left to read, every step yields the
head of it and leaves a state related to the tail. The induction is on the list. -/
theorem collect_eq_of_steps (R : ι → List β → Prop)
    (hstep : ∀ it b bs, R it (b :: bs) → ∃ it', next it = some (b, it') ∧ R it' bs) :
    ∀ (bs : List β) (it : ι), R it bs → collect next bs.length it = bs := by
  intro bs
  induction bs with
  | nil =>
    intro it _
    rfl
  | cons b bs ih =>
    intro it hR
    obtain ⟨it', hnext, hR'⟩ := hstep it b bs hR
    rw [List.length_cons, collect_succ_of_eq_some hnext, ih it' hR']

end Iterator
