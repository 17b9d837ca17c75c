import Mathlib

/-!
# Lists standing at a position of a list

A reader that walks a buffer keeps a position and reads what stands there: `xs <+: l.drop o`
says that `xs` stands in `l` from position `o` on. A layout made of parts stands at a position
when its first part stands there and each next part stands where the one before it ends
(`prefix_drop_append`, `prefix_drop_cons`). `prefix_drop_iff_take` relates this to the bounded
read `(l.drop o).take n`, and the `getElem?` lemmas to reading one element.

The module names nothing of the repository it serves.
-/

set_option autoImplicit false

namespace ListAt

variable {α : Type} {l xs ys : List α} {o : Nat}

/-- Two parts stand at a position when the first does and the second stands where it ends. -/
theorem prefix_drop_append :
    xs ++ ys <+: l.drop o ↔ xs <+: l.drop o ∧ ys <+: l.drop (o + xs.length) := by
  rw [← List.drop_drop]
  constructor
  · rintro ⟨t, ht⟩
    refine ⟨⟨ys ++ t, by rw [← ht, List.append_assoc]⟩, t, ?_⟩
    rw [← ht, List.append_assoc, List.drop_left]
  · rintro ⟨⟨t, ht⟩, hys⟩
    rw [← ht, List.drop_left] at hys
    rw [← ht]
    exact (List.prefix_append_right_inj xs).mpr hys

/-- An element and a list stand at a position when the element is there and the list stands
right after it. -/
theorem prefix_drop_cons {a : α} :
    a :: ys <+: l.drop o ↔ l[o]? = some a ∧ ys <+: l.drop (o + 1) := by
  rw [← List.singleton_append, prefix_drop_append, List.length_singleton,
    List.singleton_prefix_iff_head?_eq_some, List.head?_drop]

/-- What stands at a position and has length `n` is the bounded read of `n` elements there. -/
theorem prefix_drop_iff_take {n : Nat} :
    (xs <+: l.drop o ∧ xs.length = n) ↔ (n ≤ l.length - o ∧ xs = (l.drop o).take n) := by
  constructor
  · rintro ⟨h, rfl⟩
    have hle := h.length_le
    rw [List.length_drop] at hle
    exact ⟨hle, List.prefix_iff_eq_take.mp h⟩
  · rintro ⟨hn, rfl⟩
    refine ⟨List.take_prefix n _, ?_⟩
    rw [List.length_take, List.length_drop]
    omega

/-- `n` blocks of `k` elements stand at a position where `k * n` elements are left. The
induction is on the number of blocks. -/
theorem exists_blocks_prefix_drop {k n : Nat} (h : k * n ≤ l.length - o) :
    ∃ blocks : List (List α), blocks.length = n ∧ (∀ b ∈ blocks, b.length = k) ∧
      blocks.flatten <+: l.drop o := by
  induction n generalizing o with
  | zero => exact ⟨[], rfl, fun _ hb => absurd hb List.not_mem_nil, List.nil_prefix⟩
  | succ n ih =>
    rw [Nat.mul_succ] at h
    obtain ⟨blocks, hlen, hk, hpre⟩ := ih (o := o + k) (by omega)
    have hblock : (l.drop o).take k <+: l.drop o ∧ ((l.drop o).take k).length = k :=
      prefix_drop_iff_take.mpr ⟨by omega, rfl⟩
    refine ⟨(l.drop o).take k :: blocks, by rw [List.length_cons, hlen], ?_, ?_⟩
    · intro b hb
      rcases List.mem_cons.mp hb with rfl | hb
      · exact hblock.2
      · exact hk b hb
    · rw [List.flatten_cons, prefix_drop_append, hblock.2]
      exact ⟨hblock.1, hpre⟩

/-- Items whose layouts all have length `k` take `k` elements each. -/
theorem length_flatMap_const {β : Type} {f : β → List α} {k : Nat} (h : ∀ b, (f b).length = k)
    (bs : List β) : (bs.flatMap f).length = k * bs.length := by
  induction bs with
  | nil => rfl
  | cons b bs ih =>
    rw [List.flatMap_cons, List.length_append, h, ih, List.length_cons, Nat.mul_succ]
    omega

/-- Blocks read as items by a decoder that the layout inverts on them are laid out as
themselves. -/
theorem flatMap_map_of_forall {β : Type} {dec : List α → β} {enc : β → List α}
    {blocks : List (List α)} (h : ∀ b ∈ blocks, enc (dec b) = b) :
    (blocks.map dec).flatMap enc = blocks.flatten := by
  induction blocks with
  | nil => rfl
  | cons b bs ih =>
    rw [List.forall_mem_cons] at h
    rw [List.map_cons, List.flatMap_cons, List.flatten_cons, h.1, ih h.2]

/-- Where `k * n` elements are left, `n` items of a layout of length `k` stand, when every block
of `k` elements is the layout of the item it decodes to. -/
theorem exists_prefix_drop_of_decode {β : Type} {dec : List α → β} {enc : β → List α}
    {k n : Nat} (henc : ∀ b : List α, b.length = k → enc (dec b) = b)
    (h : k * n ≤ l.length - o) :
    ∃ items : List β, items.length = n ∧ items.flatMap enc <+: l.drop o := by
  obtain ⟨blocks, hlen, hk, hpre⟩ := exists_blocks_prefix_drop h
  refine ⟨blocks.map dec, by rw [List.length_map, hlen], ?_⟩
  rw [flatMap_map_of_forall (fun b hb => henc b (hk b hb))]
  exact hpre

/-- What follows a part that the list has at a position. -/
theorem drop_add_length_of_drop_eq_append (h : l.drop o = xs ++ ys) :
    l.drop (o + xs.length) = ys := by
  rw [← List.drop_drop, h, List.drop_left]

theorem getElem?_of_drop_eq_cons {a : α} (h : l.drop o = a :: ys) :
    l[o]? = some a ∧ l.drop (o + 1) = ys := by
  have hpre : a :: ys <+: l.drop o := h ▸ List.prefix_rfl
  refine ⟨(prefix_drop_cons.mp hpre).1, ?_⟩
  rw [← List.drop_drop, h, List.drop_one, List.tail_cons]

theorem getElem?_of_drop_eq_nil (h : l.drop o = []) : l[o]? = none := by
  rw [List.drop_eq_nil_iff] at h
  exact List.getElem?_eq_none h

/-! ## Arrays of fixed-size elements in place -/

/-- The `n` blocks of `size` elements from position `o` on, one after another: what a reader
that takes an array of `n` elements of `size` each where it stands sees. -/
def chunksAt (size : Nat) (l : List α) (o n : Nat) : List (List α) :=
  (List.range n).map fun i => (l.drop (o + size * i)).take size

@[simp] theorem length_chunksAt {size n : Nat} : (chunksAt size l o n).length = n := by
  rw [chunksAt, List.length_map, List.length_range]

theorem chunksAt_succ {size n : Nat} :
    chunksAt size l o (n + 1) = (l.drop o).take size :: chunksAt size l (o + size) n := by
  rw [chunksAt, chunksAt, List.range_succ_eq_map, List.map_cons, List.map_map, Nat.mul_zero,
    Nat.add_zero]
  congr 1
  refine List.map_congr_left fun i _ => ?_
  rw [Function.comp_apply, Nat.mul_succ, Nat.add_comm (size * i) size, Nat.add_assoc]

/-- Items laid out in `size` elements each and standing at a position read back, block by
block, as their layouts. The induction is on the items. -/
theorem chunksAt_of_prefix {β : Type} {enc : β → List α} {size : Nat}
    (hsize : ∀ b, (enc b).length = size) :
    ∀ {xs : List β} {o : Nat}, xs.flatMap enc <+: l.drop o →
      chunksAt size l o xs.length = xs.map enc := by
  intro xs
  induction xs with
  | nil => intro o _; rfl
  | cons x xs ih =>
    intro o h
    rw [List.flatMap_cons, prefix_drop_append, hsize] at h
    have hx : enc x = (l.drop o).take size :=
      (prefix_drop_iff_take.mp ⟨h.1, hsize x⟩).2
    rw [List.length_cons, chunksAt_succ, ih h.2, List.map_cons, hx]

end ListAt
