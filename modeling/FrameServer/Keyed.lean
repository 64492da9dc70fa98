namespace FrameServer

variable {β κ : Type} [DecidableEq κ]

/-- Puts a value under a key: in the place of the one that was there, or else at the end. -/
def place (key : κ) (value : β) : List (κ × β) → List (κ × β)
  | [] => [(key, value)]
  | (k, v) :: rest => if k = key then (key, value) :: rest else (k, v) :: place key value rest

variable {entries : List (κ × β)} {k : κ} {v : β}

theorem keys_place : (place k v entries).map Prod.fst =
    if k ∈ entries.map Prod.fst then entries.map Prod.fst else entries.map Prod.fst ++ [k] := by
  induction entries with
  | nil => simp [place]
  | cons e rest ih =>
    obtain ⟨i, w⟩ := e
    rw [place]
    by_cases here : i = k
    · simp [here]
    · rw [if_neg here, List.map_cons, ih]
      by_cases there : k ∈ rest.map Prod.fst
      · simp [there]
      · simp [there, Ne.symm here]

theorem mem_place {e : κ × β} (there : e ∈ place k v entries) : e = (k, v) ∨ e ∈ entries := by
  induction entries with
  | nil => exact .inl (List.mem_singleton.mp there)
  | cons p rest ih =>
    obtain ⟨i, w⟩ := p
    rw [place] at there
    split at there
    · rcases List.mem_cons.mp there with new | old
      · exact .inl new
      · exact .inr (List.mem_cons_of_mem _ old)
    · rcases List.mem_cons.mp there with first | later
      · exact .inr (first ▸ List.mem_cons_self)
      · exact (ih later).imp_right (List.mem_cons_of_mem _)

/-- What has a new key comes to the end. -/
theorem place_new (new : ∀ e ∈ entries, e.1 ≠ k) : place k v entries = entries ++ [(k, v)] := by
  induction entries with
  | nil => rfl
  | cons p rest ih =>
    obtain ⟨first, others⟩ := List.forall_mem_cons.mp new
    rw [place, if_neg first, ih others, List.cons_append]

theorem length_place_le : (place k v entries).length ≤ entries.length + 1 := by
  induction entries with
  | nil => exact Nat.le_refl _
  | cons p rest ih =>
    rw [place]
    split
    · exact Nat.le_succ _
    · exact Nat.succ_le_succ ih

theorem lookup_place [BEq κ] [LawfulBEq κ] (k' : κ) :
    (place k v entries).lookup k' = if k' = k then some v else entries.lookup k' := by
  induction entries with
  | nil =>
    rw [place, List.lookup_cons]
    by_cases same : k' = k
    · simp [same]
    · simp [beq_false_of_ne same, same]
  | cons e rest ih =>
    obtain ⟨i, w⟩ := e
    rw [place]
    by_cases here : i = k
    · subst here
      rw [if_pos rfl, List.lookup_cons, List.lookup_cons]
      by_cases same : k' = i
      · simp [same]
      · simp [beq_false_of_ne same, same]
    · rw [if_neg here, List.lookup_cons, List.lookup_cons, ih]
      by_cases same : k' = k
      · subst same
        simp [beq_false_of_ne (Ne.symm here)]
      · simp [same]

end FrameServer
