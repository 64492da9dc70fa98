import FrameServer.Proofs.Text.Utf8
import FrameServer.Text.Character

namespace FrameServer

namespace Text

/-- Characters without white space, at least one. -/
def IsWord (w : List Char) : Prop := w ≠ [] ∧ ∀ c ∈ w, isBlank c = false

variable {word w cs : List Char} {ws : List (List Char)}

theorem wordsFrom_word (clean : ∀ c ∈ w, isBlank c = false) :
    wordsFrom word (w ++ cs) = wordsFrom (w.reverse ++ word) cs := by
  induction w generalizing word with
  | nil => rfl
  | cons c w ih =>
    rw [List.cons_append, wordsFrom, clean c List.mem_cons_self, if_neg Bool.false_ne_true,
      ih fun d hd => clean d (List.mem_cons_of_mem c hd), List.reverse_cons, List.append_assoc, List.singleton_append]

theorem isWord_of_mem_wordsFrom (clean : ∀ c ∈ word, isBlank c = false) (h : w ∈ wordsFrom word cs) : IsWord w := by
  have own (some : ¬ word.isEmpty = true) : IsWord word.reverse :=
    ⟨by simpa using some, fun c hc => clean c (List.mem_reverse.mp hc)⟩
  induction cs generalizing word with
  | nil =>
    rw [wordsFrom] at h
    split at h
    · cases h
    next some =>
      rw [List.mem_singleton.mp h]
      exact own some
  | cons c cs ih =>
    rw [wordsFrom] at h
    split at h
    · split at h
      · exact ih (fun _ hd => by cases hd) h (fun some => absurd rfl some)
      next some =>
        rcases List.mem_cons.mp h with rfl | h
        · exact own some
        · exact ih (fun _ hd => by cases hd) h (fun some => absurd rfl some)
    next shown =>
      have clean' : ∀ d ∈ c :: word, isBlank d = false := by
        intro d hd
        rcases List.mem_cons.mp hd with rfl | hd
        · simpa using shown
        · exact clean d hd
      exact ih clean' h fun some => ⟨by simp, fun d hd => clean' d (List.mem_reverse.mp hd)⟩

theorem isWord_of_mem_words (h : w ∈ words cs) : IsWord w := isWord_of_mem_wordsFrom (fun _ hc => by cases hc) h

/-- Words that are joined by single spaces fall into the same words again. -/
theorem words_intercalate (clean : ∀ w ∈ ws, IsWord w) : words ([' '].intercalate ws) = ws := by
  induction ws with
  | nil => rfl
  | cons w ws ih =>
    obtain ⟨some, shown⟩ := clean w List.mem_cons_self
    have rest := ih fun v hv => clean v (List.mem_cons_of_mem w hv)
    have full : w.reverse.isEmpty = false := by simpa using some
    cases ws with
    | nil =>
      have alone : wordsFrom [] w = wordsFrom w.reverse [] := by
        have whole := @wordsFrom_word [] w [] shown
        rwa [List.append_nil, List.append_nil] at whole
      rw [List.intercalate_singleton, words, alone, wordsFrom, full, List.reverse_reverse]
      rfl
    | cons v vs =>
      rw [List.intercalate_cons_cons, words, List.append_assoc, wordsFrom_word shown, List.append_nil,
        List.singleton_append, wordsFrom, if_pos (by decide), full, if_neg Bool.false_ne_true, List.reverse_reverse]
      exact congrArg (w :: ·) rest

theorem mem_intercalate {c : Char} (h : c ∈ [' '].intercalate ws) : c = ' ' ∨ ∃ w ∈ ws, c ∈ w := by
  induction ws with
  | nil => cases h
  | cons w ws ih =>
    cases ws with
    | nil =>
      rw [List.intercalate_singleton] at h
      exact .inr ⟨w, List.mem_cons_self, h⟩
    | cons v vs =>
      rw [List.intercalate_cons_cons, List.mem_append, List.mem_append] at h
      rcases h with (h | h) | h
      · exact .inr ⟨w, List.mem_cons_self, h⟩
      · exact .inl (List.mem_singleton.mp h)
      · rcases ih h with space | ⟨u, hu, hc⟩
        · exact .inl space
        · exact .inr ⟨u, List.mem_cons_of_mem w hu, hc⟩

end Text

/-- Of the bytes below `0x80` that are white space, joined words have no other one than the space. -/
theorem not_mem_joined {b : UInt8} {args : List String} (clean : ∀ w ∈ args, Text.IsWord w.toList)
    (low : b.toNat < 128) (blank : Text.isBlank (Char.ofNat b.toNat) = true) (apart : Char.ofNat b.toNat ≠ ' ') :
    b ∉ textBytes (" ".intercalate args) := by
  intro there
  have shown := Utf8.mem_of_mem_encode low there
  rw [String.toList_intercalate] at shown
  rcases Text.mem_intercalate shown with space | ⟨w, hw, hc⟩
  · exact apart space
  · obtain ⟨arg, ha, rfl⟩ := List.mem_map.mp hw
    rw [(clean arg ha).2 _ hc] at blank
    cases blank

end FrameServer
