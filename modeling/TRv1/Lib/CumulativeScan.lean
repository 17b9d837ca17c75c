import Mathlib

/-!
# Selection by cumulative weights

A list of items with natural weights lays the items out on consecutive intervals of `ℕ`, the
item `aᵢ` on `[w₀ + ⋯ + wᵢ₋₁, w₀ + ⋯ + wᵢ)`; `select t 0 l` is the item whose interval holds
`t`, found by walking the list with a running total. Over all `t` below the total weight each
item is selected as often as its weight (`sum_select_eq`), and over any `T` consecutive numbers
read modulo `T` the same counts hold (`sum_Ico_mod`); so consecutive numbers read modulo the
total select an item at most its weight many times in a row (`run_le_weightOf`).
-/

set_option autoImplicit false

namespace CumulativeScan

variable {α : Type*}

/-- The first item whose running total of weights, started at `acc`, exceeds `t`. -/
def select (t : ℕ) : ℕ → List (α × ℕ) → Option α
  | _, [] => none
  | acc, (a, w) :: rest => if t < acc + w then some a else select t (acc + w) rest

/-- The total weight. -/
def total (l : List (α × ℕ)) : ℕ := (l.map Prod.snd).sum

/-- The weight of the entries of `a` together. -/
def weightOf [DecidableEq α] (l : List (α × ℕ)) (a : α) : ℕ :=
  ((l.filter fun e => e.1 = a).map Prod.snd).sum

@[simp] theorem total_nil : total ([] : List (α × ℕ)) = 0 := rfl

@[simp] theorem total_cons (a : α) (w : ℕ) (l : List (α × ℕ)) :
    total ((a, w) :: l) = w + total l := by
  simp [total]

@[simp] theorem total_append (l₁ l₂ : List (α × ℕ)) : total (l₁ ++ l₂) = total l₁ + total l₂ := by
  simp [total]

theorem select_cons_of_lt {t acc w : ℕ} {a : α} {l : List (α × ℕ)} (h : t < acc + w) :
    select t acc ((a, w) :: l) = some a := by
  rw [select, if_pos h]

theorem select_cons_of_le {t acc w : ℕ} {a : α} {l : List (α × ℕ)} (h : acc + w ≤ t) :
    select t acc ((a, w) :: l) = select t (acc + w) l := by
  rw [select, if_neg (Nat.not_lt.mpr h)]

/-- The selected item is one of the list's. -/
theorem mem_of_select {t acc : ℕ} {l : List (α × ℕ)} {a : α} (h : select t acc l = some a) :
    a ∈ l.map Prod.fst := by
  induction l generalizing acc with
  | nil => cases h
  | cons e rest ih =>
    obtain ⟨b, w⟩ := e
    by_cases ht : t < acc + w
    · rw [select_cons_of_lt ht] at h
      cases h
      exact List.mem_cons_self
    · rw [select_cons_of_le (Nat.le_of_not_lt ht)] at h
      exact List.mem_cons_of_mem _ (ih h)

/-- A point of the interval of an item that follows `l₁` selects that item. -/
theorem select_append_cons {t acc w : ℕ} {a : α} (l₁ l₂ : List (α × ℕ))
    (hlo : acc + total l₁ ≤ t) (hhi : t < acc + total l₁ + w) :
    select t acc (l₁ ++ (a, w) :: l₂) = some a := by
  induction l₁ generalizing acc with
  | nil => exact select_cons_of_lt (by simpa using hhi)
  | cons e rest ih =>
    obtain ⟨b, v⟩ := e
    rw [total_cons] at hlo hhi
    rw [List.cons_append, select_cons_of_le (by omega)]
    exact ih (by omega) (by omega)

/-- Below the running total plus the total weight, some item is selected. -/
theorem select_isSome {t acc : ℕ} {l : List (α × ℕ)} (hacc : acc ≤ t)
    (h : t < acc + total l) : (select t acc l).isSome := by
  induction l generalizing acc with
  | nil => simp at h; omega
  | cons e rest ih =>
    obtain ⟨b, w⟩ := e
    by_cases ht : t < acc + w
    · rw [select_cons_of_lt ht]
      rfl
    · rw [select_cons_of_le (Nat.le_of_not_lt ht)]
      exact ih (by omega) (by rw [total_cons] at h; omega)

theorem weightOf_of_not_mem [DecidableEq α] {l : List (α × ℕ)} {a : α}
    (h : a ∉ l.map Prod.fst) : weightOf l a = 0 := by
  rw [weightOf, List.filter_eq_nil_iff.mpr]
  · rfl
  · intro e he hea
    exact h (List.mem_map.mpr ⟨e, he, of_decide_eq_true hea⟩)

/-- With distinct items, the weight of an item is the weight of its one entry. -/
theorem weightOf_of_mem [DecidableEq α] {l : List (α × ℕ)} (hnd : (l.map Prod.fst).Nodup)
    {a : α} {w : ℕ} (h : (a, w) ∈ l) : weightOf l a = w := by
  induction l with
  | nil => cases h
  | cons e rest ih =>
    obtain ⟨b, v⟩ := e
    rw [List.map_cons, List.nodup_cons] at hnd
    rcases List.mem_cons.mp h with he | he
    · -- the entry of `a` comes first, and no later entry has its item
      obtain ⟨rfl, rfl⟩ := Prod.mk.inj he
      rw [weightOf, List.filter_cons_of_pos (by simp), List.map_cons, List.sum_cons,
        ← weightOf, weightOf_of_not_mem hnd.1, Nat.add_zero]
    · have hba : b ≠ a := fun hb => hnd.1 (hb ▸ List.mem_map.mpr ⟨_, he, rfl⟩)
      rw [weightOf, List.filter_cons_of_neg (by simpa using hba), ← weightOf]
      exact ih hnd.2 he

/-- Over the interval of the list, started at `acc`, each item is selected as often as its
weight. -/
theorem sum_select_eq [DecidableEq α] (a : α) (acc : ℕ) (l : List (α × ℕ)) :
    ∑ t ∈ Finset.Ico acc (acc + total l), (if select t acc l = some a then 1 else 0) =
      weightOf l a := by
  induction l generalizing acc with
  | nil => simp [weightOf]
  | cons e rest ih =>
    obtain ⟨b, w⟩ := e
    -- the interval splits into the first item's part and the rest's
    have hsplit := Finset.sum_Ico_consecutive
      (fun t => if select t acc ((b, w) :: rest) = some a then 1 else 0)
      (Nat.le_add_right acc w) (by rw [total_cons]; omega : acc + w ≤ acc + total ((b, w) :: rest))
    rw [← hsplit]
    have hfirst : ∑ t ∈ Finset.Ico acc (acc + w),
        (if select t acc ((b, w) :: rest) = some a then 1 else 0) = if b = a then w else 0 := by
      calc ∑ t ∈ Finset.Ico acc (acc + w),
            (if select t acc ((b, w) :: rest) = some a then 1 else 0)
          = ∑ _t ∈ Finset.Ico acc (acc + w), (if b = a then 1 else 0) :=
            Finset.sum_congr rfl fun t ht => by
              simp only [select_cons_of_lt (Finset.mem_Ico.mp ht).2, Option.some.injEq]
        _ = if b = a then w else 0 := by
          split_ifs
          · rw [← Finset.card_eq_sum_ones, Nat.card_Ico]
            omega
          · simp
    have hrest : ∑ t ∈ Finset.Ico (acc + w) (acc + total ((b, w) :: rest)),
        (if select t acc ((b, w) :: rest) = some a then 1 else 0) = weightOf rest a := by
      rw [total_cons, ← Nat.add_assoc, ← ih (acc + w)]
      exact Finset.sum_congr rfl fun t ht => by
        rw [select_cons_of_le (Finset.mem_Ico.mp ht).1]
    rw [hfirst, hrest]
    by_cases hb : b = a
    · simp [weightOf, hb]
    · simp [weightOf, hb]

/-- Summing a function of `i % T` over `T` consecutive numbers sums it over `0, …, T - 1`. -/
theorem sum_Ico_mod {M : Type*} [AddCommMonoid M] (g : ℕ → M) {T : ℕ} (hT : 0 < T) (s : ℕ) :
    ∑ i ∈ Finset.Ico s (s + T), g (i % T) = ∑ t ∈ Finset.range T, g t := by
  induction s with
  | zero =>
    rw [Finset.range_eq_Ico, Nat.zero_add]
    exact Finset.sum_congr rfl fun i hi => by rw [Nat.mod_eq_of_lt (Finset.mem_Ico.mp hi).2]
  | succ s ih =>
    -- moving the window by one drops `s` and adds `s + T`, which agree modulo `T`
    rw [← ih, Finset.sum_eq_sum_Ico_succ_bot (by omega : s < s + T),
      show s + 1 + T = (s + T) + 1 by omega, Finset.sum_Ico_succ_top (by omega : s + 1 ≤ s + T),
      Nat.add_mod_right, add_comm]

/-- Reading consecutive numbers modulo the total weight, an item that does not hold the whole
weight is selected at most its weight many times in a row: `weightOf l a + 1` consecutive
numbers have distinct residues, and only `weightOf l a` residues select it. -/
theorem run_le_weightOf [DecidableEq α] {l : List (α × ℕ)} {a : α}
    (hlt : weightOf l a < total l) (n k : ℕ)
    (h : ∀ i < k, select ((n + i) % total l) 0 l = some a) : k ≤ weightOf l a := by
  by_contra hk
  set T := total l
  -- the residues that select `a` are as many as its weight
  have hcard : ((Finset.range T).filter fun t => select t 0 l = some a).card = weightOf l a := by
    rw [Finset.card_filter, Finset.range_eq_Ico, ← sum_select_eq a 0 l, Nat.zero_add]
  have hmaps : Set.MapsTo (fun i => (n + i) % T) (Finset.range (weightOf l a + 1))
      ((Finset.range T).filter fun t => select t 0 l = some a) := by
    intro i hi
    rw [Finset.mem_coe, Finset.mem_range] at hi
    rw [Finset.mem_coe, Finset.mem_filter, Finset.mem_range]
    exact ⟨Nat.mod_lt _ (by omega), h i (by omega)⟩
  -- fewer than `T` consecutive numbers have distinct residues
  have hinj : Set.InjOn (fun i => (n + i) % T) (Finset.range (weightOf l a + 1)) := by
    intro i hi j hj hij
    rw [Finset.mem_coe, Finset.mem_range] at hi hj
    have hmod := Nat.ModEq.add_left_cancel' n hij
    rwa [Nat.ModEq, Nat.mod_eq_of_lt (by omega), Nat.mod_eq_of_lt (by omega)] at hmod
  have hle := Finset.card_le_card_of_injOn _ hmaps hinj
  rw [Finset.card_range, hcard] at hle
  omega

end CumulativeScan
