import Mathlib.Data.List.Nodup

namespace FrameServer

/-- Parts that are not empty make a list of at least as many items. -/
theorem length_le_flatMap {α β : Type} {g : α → List β} (filled : ∀ x, g x ≠ []) (xs : List α) :
    xs.length ≤ (xs.flatMap g).length := by
  induction xs with
  | nil => exact Nat.le_refl 0
  | cons x xs ih =>
    have some := List.length_pos_iff.mpr (filled x)
    rw [List.flatMap_cons, List.length_append, List.length_cons]
    omega

variable {α β γ : Type} [DecidableEq α] {entries : List (α × β)} {key other : α} {b : β}

theorem mem_of_lookup (h : entries.lookup key = some b) : (key, b) ∈ entries := by
  obtain ⟨before, after, he, -⟩ := List.lookup_eq_some_iff.mp h
  simp [he]

/-- A key that is alone leads to the one thing that belongs to it. -/
theorem lookup_of_mem (once : (entries.map Prod.fst).Nodup) (h : (key, b) ∈ entries) :
    entries.lookup key = some b := by
  induction entries with
  | nil => cases h
  | cons p ps ih =>
    obtain ⟨k, c⟩ := p
    obtain ⟨apart, once⟩ := List.nodup_cons.mp once
    rcases List.mem_cons.mp h with he | there
    · rw [← he]
      exact List.lookup_cons_self
    · have ne : (key == k) = false := by
        rw [beq_eq_false_iff_ne]
        rintro rfl
        exact apart (List.mem_map.mpr ⟨_, there, rfl⟩)
      rw [List.lookup_cons, ne]
      exact ih once there

theorem lookup_filter (entries : List (α × β)) (key other : α) :
    (entries.filter (·.1 ≠ other)).lookup key = if other = key then none else entries.lookup key := by
  induction entries with
  | nil => simp
  | cons p ps ih =>
    obtain ⟨k, c⟩ := p
    by_cases hk : k = other
    · subst hk
      rw [List.filter_cons_of_neg (by simp), ih, List.lookup_cons]
      split
      · rfl
      next ne => rw [beq_eq_false_iff_ne.mpr (Ne.symm ne)]
    · rw [List.filter_cons_of_pos (by simpa using hk), List.lookup_cons, ih, List.lookup_cons]
      cases same : key == k with
      | true =>
        obtain rfl := beq_iff_eq.mp same
        simp [Ne.symm hk]
      | false => rfl

theorem lookup_map (f : α → β → γ) (entries : List (α × β)) (key : α) :
    (entries.map fun p => (p.1, f p.1 p.2)).lookup key = (entries.lookup key).map (f key) := by
  induction entries with
  | nil => rfl
  | cons p ps ih =>
    obtain ⟨k, c⟩ := p
    rw [List.map_cons, List.lookup_cons, List.lookup_cons, ih]
    cases same : key == k with
    | true =>
      obtain rfl := beq_iff_eq.mp same
      rfl
    | false => rfl

end FrameServer
