import Mathlib.Data.String.Basic
import Mathlib.Data.Finset.Card
import Mathlib.Data.Finset.Dedup
import FrameServer.Command
import FrameServer.Proofs.Keyed
import FrameServer.Proofs.Text.Case
import FrameServer.Structured

namespace FrameServer.Command.Table

variable {α : Type} {entries : List (String × α)} {name k : String} {v : α}

/-- The key of a command that is registered under a name. -/
def keyOf (e : String × α) : String := upperText e.1

theorem entries_ofList (entries : List (String × α)) : (ofList entries).entries = placeAll keyOf Prod.snd entries :=
  (List.foldl_hom Table.entries fun _ _ => rfl).symm

theorem find_ofList_none : (ofList entries).find? name = none ↔ ∀ e ∈ entries, keyOf e ≠ upperText name := by
  rw [find?, entries_ofList, lookup_placeAll_none]

theorem find_ofList_some :
    (ofList entries).find? name = some v ↔ ∃ e, LastWith keyOf entries (upperText name) e ∧ e.2 = v := by
  rw [find?, entries_ofList, lookup_placeAll_some]

theorem mem_names : k ∈ (ofList entries).names ↔ ∃ e ∈ entries, keyOf e = k := by
  rw [names, entries_ofList, List.mem_mergeSort, mem_keys_placeAll]

theorem names_ascending (entries : List (String × α)) : (ofList entries).names.Pairwise (· < ·) := by
  have sorted : (ofList entries).names.Pairwise (· ≤ ·) := by
    have trans : ∀ a b c : String, decide (a ≤ b) = true → decide (b ≤ c) = true → decide (a ≤ c) = true := by
      intro a b c ab bc
      exact decide_eq_true (le_trans (of_decide_eq_true ab) (of_decide_eq_true bc))
    have total : ∀ a b : String, (decide (a ≤ b) || decide (b ≤ a)) = true := by
      intro a b
      simpa using le_total a b
    have ordered := List.pairwise_mergeSort trans total ((ofList entries).entries.map Prod.fst)
    exact ordered.imp fun le => of_decide_eq_true le
  have once : (ofList entries).names.Nodup := by
    rw [names, entries_ofList, (List.mergeSort_perm _ _).nodup_iff]
    exact nodup_keys_placeAll
  exact sorted.imp₂ (fun a b le ne => lt_of_le_of_ne le ne) once

/-- A name that is listed is in upper case, and is found. -/
theorem find_listed (listed : k ∈ (ofList entries).names) :
    ∃ e, LastWith keyOf entries k e ∧ (ofList entries).find? k = some e.2 := by
  obtain ⟨e, he, rfl⟩ := mem_names.mp listed
  have large : upperText (keyOf e) = keyOf e := upperText_upperText e.1
  cases found : (ofList entries).find? (keyOf e) with
  | none => exact absurd large.symm (find_ofList_none.mp found e he)
  | some v =>
    obtain ⟨e', last, rfl⟩ := find_ofList_some.mp found
    rw [large] at last
    exact ⟨e', last, rfl⟩

end FrameServer.Command.Table

namespace FrameServer.Structured

def Descriptor.key (h : Descriptor) : Key := Structured.key h.type h.command

namespace Table

theorem entries_ofList (hs : List Descriptor) : (ofList hs).entries = placeAll Descriptor.key id hs :=
  (List.foldl_hom Table.entries fun _ _ => rfl).symm

/-- A table is searched as the list of what was registered would be, from its end. -/
theorem find_ofList (hs : List Descriptor) (type command : String) :
    (ofList hs).find? type command = hs.reverse.find? fun h => h.key = key type command := by
  rw [find?, entries_ofList, lookup_placeAll, Option.map_id_fun, id]

variable {hs : List Descriptor} {type command : String} {h : Descriptor}

theorem find_ofList_none : (ofList hs).find? type command = none ↔ ∀ h ∈ hs, h.key ≠ key type command := by
  simp [find_ofList]

theorem find_ofList_some :
    (ofList hs).find? type command = some h ↔ LastWith Descriptor.key hs (key type command) h := by
  rw [find_ofList, find_reverse_eq_some]

end Table
end FrameServer.Structured

namespace FrameServer

/-- There are as many entries as there are different keys. -/
theorem length_placeAll {α β κ : Type} [DecidableEq κ] {key : α → κ} {value : α → β} {items : List α} :
    (placeAll key value items).length = (items.map key).toFinset.card := by
  have same : ((placeAll key value items).map Prod.fst).toFinset = (items.map key).toFinset := by
    ext k
    rw [List.mem_toFinset, List.mem_toFinset, mem_keys_placeAll, List.mem_map]
  rw [← List.length_map Prod.fst, ← List.toFinset_card_of_nodup nodup_keys_placeAll, same]

namespace Command

/-- What a table holds after these registrations, in this order. -/
structure Table.Folded {α : Type} (entries : List (String × α)) : Prop where
  found : ∀ name v, (ofList entries).find? name = some v ↔
    ∃ e, LastWith (fun e => upperText e.1) entries (upperText name) e ∧ e.2 = v
  missing : ∀ name, (ofList entries).find? name = none ↔ ∀ e ∈ entries, upperText e.1 ≠ upperText name
  size : (ofList entries).size = (entries.map fun e => upperText e.1).toFinset.card
  names : ∀ k, k ∈ (ofList entries).names ↔ ∃ e ∈ entries, upperText e.1 = k
  ascending : (ofList entries).names.Pairwise (· < ·)
  /-- A listed name finds the handler that was registered last of those that are listed under it. -/
  listed : ∀ k ∈ (ofList entries).names,
    ∃ e, LastWith (fun e => upperText e.1) entries k e ∧ (ofList entries).find? k = some e.2
  /-- The case of ASCII letters does not count, neither in what is registered nor in what is looked for. -/
  recased : ∀ entries' name name', List.Forall₂ (fun e e' => Recased e.1 e'.1 ∧ e.2 = e'.2) entries entries' →
    Recased name name' → (ofList entries).find? name = (ofList entries').find? name'

theorem Table.folded {α : Type} (entries : List (String × α)) : Folded entries where
  found _ _ := find_ofList_some
  missing _ := find_ofList_none
  size := by
    rw [Table.size, entries_ofList, length_placeAll]
    rfl
  names _ := mem_names
  ascending := names_ascending entries
  listed _ := find_listed
  recased entries' name name' same named := by
    have together : List.Forall₂ (fun e e' => keyOf e = keyOf e' ∧ e.2 = e'.2) entries entries' :=
      same.imp fun _ _ both => ⟨both.1.upperText, both.2⟩
    rw [find?, find?, entries_ofList, entries_ofList, named.upperText, placeAll_congr together]

end Command

namespace Structured

/-- The same handler under names that differ at most in the case of ASCII letters. -/
structure Descriptor.Recased (h h' : Descriptor) : Prop where
  type : FrameServer.Recased h.type h'.type
  command : FrameServer.Recased h.command h'.command
  params : h.params = h'.params
  run : h.run = h'.run

/-- What a table holds after these registrations, in this order. -/
structure Table.Folded (hs : List Descriptor) : Prop where
  found : ∀ type command h, (ofList hs).find? type command = some h ↔
    LastWith (fun h => (lowerText h.type, lowerText h.command)) hs (lowerText type, lowerText command) h
  missing : ∀ type command, (ofList hs).find? type command = none ↔
    ∀ h ∈ hs, (lowerText h.type, lowerText h.command) ≠ (lowerText type, lowerText command)
  size : (ofList hs).size = (hs.map fun h => (lowerText h.type, lowerText h.command)).toFinset.card
  /-- The case of ASCII letters does not count, neither in what is registered nor in what is looked for. -/
  recased : ∀ hs' type type' command command', List.Forall₂ Descriptor.Recased hs hs' →
    FrameServer.Recased type type' → FrameServer.Recased command command' →
      Option.Rel Descriptor.Recased ((ofList hs).find? type command) ((ofList hs').find? type' command')

variable {hs hs' : List Descriptor} {k : Key}

theorem Descriptor.Recased.key {h h' : Descriptor} (same : h.Recased h') : h.key = h'.key := by
  rw [Descriptor.key, Descriptor.key, Structured.key, Structured.key, same.type.lowerText, same.command.lowerText]

/-- Of handlers that come in the same order, the same one is found. -/
theorem find_recased (same : List.Forall₂ Descriptor.Recased hs hs') :
    Option.Rel Descriptor.Recased (hs.find? (·.key = k)) (hs'.find? (·.key = k)) := by
  induction same with
  | nil => exact .none
  | @cons h h' _ _ first _ ih =>
    rw [List.find?_cons, List.find?_cons, ← first.key]
    by_cases here : h.key = k
    · simpa [here] using Option.Rel.some first
    · simpa [here] using ih

theorem Table.folded (hs : List Descriptor) : Folded hs where
  found _ _ _ := find_ofList_some
  missing _ _ := find_ofList_none
  size := by
    rw [Table.size, entries_ofList, length_placeAll]
    rfl
  recased hs' type type' command command' same typed named := by
    rw [find_ofList, find_ofList, key, key, typed.lowerText, named.lowerText]
    exact find_recased (List.forall₂_reverse_iff.mpr same)

end Structured

/-- Tables of handlers are maps from names up to case, in which the last registration counts. -/
theorem tables_folded {α : Type} (entries : List (String × α)) (hs : List Structured.Descriptor) :
    Command.Table.Folded entries ∧ Structured.Table.Folded hs :=
  ⟨Command.Table.folded entries, Structured.Table.folded hs⟩

/-- One letter becomes two; a capital sigma looks at the letters beside it, of whatever case they are. -/
example : upperText "Straße" = upperText "STRASSE" ∧ lowerText "ΑΣa" = lowerText "ΑΣA" ∧
    lowerText "ΑΣa" ≠ lowerText "ΑΣ" ++ "a" := by decide +kernel

end FrameServer
