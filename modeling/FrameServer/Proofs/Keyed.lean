import Mathlib.Data.List.Induction
import Mathlib.Data.List.Nodup
import Mathlib.Data.List.Forall2
import FrameServer.Keyed

namespace FrameServer

variable {α β κ : Type} [DecidableEq κ]

/-- Puts all items under their keys. -/
def placeAll (key : α → κ) (value : α → β) (items : List α) : List (κ × β) :=
  items.foldl (fun entries a => place (key a) (value a) entries) []

/-- The item that has a key and comes after all others that have it. -/
def LastWith (key : α → κ) (items : List α) (k : κ) (a : α) : Prop :=
  key a = k ∧ ∃ earlier later, items = earlier ++ a :: later ∧ ∀ b ∈ later, key b ≠ k

variable {key : α → κ} {value : α → β} {items : List α} {entries : List (κ × β)} {k : κ} {v : β} {a : α}

theorem nodup_keys_place (once : (entries.map Prod.fst).Nodup) : ((place k v entries).map Prod.fst).Nodup := by
  rw [keys_place]
  split
  · exact once
  next absent =>
    refine List.nodup_append.mpr ⟨once, List.nodup_singleton _, fun i hi j hj same => absent ?_⟩
    rwa [← List.mem_singleton.mp hj, ← same]

theorem placeAll_concat : placeAll key value (items ++ [a]) = place (key a) (value a) (placeAll key value items) := by
  simp [placeAll]

theorem mem_keys_placeAll : k ∈ (placeAll key value items).map Prod.fst ↔ ∃ a ∈ items, key a = k := by
  induction items using List.reverseRecOn with
  | nil => simp [placeAll]
  | append_singleton items a ih =>
    rw [placeAll_concat, keys_place]
    split
    next there =>
      rw [ih]
      constructor
      · rintro ⟨b, hb, rfl⟩
        exact ⟨b, List.mem_append_left _ hb, rfl⟩
      · rintro ⟨b, hb, rfl⟩
        rcases List.mem_append.mp hb with hb | hb
        · exact ⟨b, hb, rfl⟩
        · obtain rfl := List.mem_singleton.mp hb
          exact ih.mp there
    next => simp [ih, or_and_right, exists_or, eq_comm]

theorem nodup_keys_placeAll : ((placeAll key value items).map Prod.fst).Nodup := by
  induction items using List.reverseRecOn with
  | nil => exact List.nodup_nil
  | append_singleton items a ih =>
    rw [placeAll_concat]
    exact nodup_keys_place ih

theorem find_reverse_eq_some : items.reverse.find? (key · = k) = some a ↔ LastWith key items k a := by
  rw [List.find?_eq_some_iff_append, LastWith, decide_eq_true_eq]
  refine and_congr_right fun _ => ⟨?_, ?_⟩
  · rintro ⟨later, earlier, split, others⟩
    refine ⟨earlier.reverse, later.reverse, ?_, fun b hb => by simpa using others b (List.mem_reverse.mp hb)⟩
    rw [← List.reverse_reverse items, split]
    simp
  · rintro ⟨earlier, later, rfl, others⟩
    exact ⟨later.reverse, earlier.reverse, by simp, fun b hb => by simpa using others b (List.mem_reverse.mp hb)⟩

section Lookup

variable [BEq κ] [LawfulBEq κ]

theorem lookup_placeAll : (placeAll key value items).lookup k = (items.reverse.find? (key · = k)).map value := by
  induction items using List.reverseRecOn with
  | nil => rfl
  | append_singleton items a ih =>
    rw [placeAll_concat, lookup_place, ih, List.reverse_concat, List.find?_cons]
    by_cases same : key a = k
    · simp [same]
    · simp [same, Ne.symm same]

theorem lookup_placeAll_none : (placeAll key value items).lookup k = none ↔ ∀ a ∈ items, key a ≠ k := by
  simp [lookup_placeAll]

theorem lookup_placeAll_some :
    (placeAll key value items).lookup k = some v ↔ ∃ a, LastWith key items k a ∧ value a = v := by
  simp only [lookup_placeAll, Option.map_eq_some_iff, find_reverse_eq_some]

end Lookup

/-- Items with the same keys and values come to the same. -/
theorem placeAll_congr {α' : Type} {key' : α' → κ} {value' : α' → β} {items' : List α'}
    (same : List.Forall₂ (fun a b => key a = key' b ∧ value a = value' b) items items') :
    placeAll key value items = placeAll key' value' items' := by
  unfold placeAll
  generalize ([] : List (κ × β)) = entries
  induction same generalizing entries with
  | nil => rfl
  | cons both _ ih =>
    rw [List.foldl_cons, List.foldl_cons, both.1, both.2]
    exact ih _

end FrameServer
