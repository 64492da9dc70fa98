import Mathlib.Data.List.Basic
import FrameServer.Proofs.Text.Words

namespace FrameServer.Text

def AllBlank (cs : List Char) : Prop := ∀ c ∈ cs, isBlank c = true

/-- `w` stands at place `i`, and can be made longer on neither side. -/
def RunAt (cs : List Char) (i : Nat) (w : List Char) : Prop :=
  ∃ before after, cs = before ++ w ++ after ∧ before.length = i ∧ IsWord w ∧
    (∀ c ∈ before.getLast?, isBlank c = true) ∧ ∀ c ∈ after.head?, isBlank c = true

/-- All longest runs of a text with their places, in the order in which they stand. -/
structure Runs (cs : List Char) (runs : List (Nat × List Char)) : Prop where
  ascending : (runs.map Prod.fst).Pairwise (· < ·)
  exact : ∀ i w, (i, w) ∈ runs ↔ RunAt cs i w

/-- Each word comes with the white space before it. -/
abbrev Parts := List (List Char × List Char)

def laid (parts : Parts) (tail : List Char) : List Char := parts.flatMap (fun p => p.1 ++ p.2) ++ tail

/-- Only the first word may have no white space before it. -/
structure Spaced (parts : Parts) : Prop where
  blank : ∀ p ∈ parts, AllBlank p.1
  word : ∀ p ∈ parts, IsWord p.2
  apart : ∀ p ∈ parts.tail, p.1 ≠ []

def places : Parts → List (Nat × List Char)
  | [] => []
  | (gap, w) :: more => (gap.length, w) :: (places more).map fun r => (gap.length + w.length + r.1, r.2)

variable {cs gap w v r tail : List Char} {more parts : Parts} {p : List Char × List Char} {c : Char} {i : Nat}

theorem IsWord.not_blank (h : IsWord w) (hc : c ∈ w) : isBlank c ≠ true := by
  rw [h.2 c hc]
  exact Bool.false_ne_true

theorem laid_nil : laid [] tail = tail := rfl

theorem laid_cons : laid (p :: more) tail = p.1 ++ p.2 ++ laid more tail := by
  rw [laid, List.flatMap_cons, List.append_assoc]
  rfl

theorem Spaced.nil : Spaced [] := ⟨fun _ h => (nomatch h), fun _ h => (nomatch h), fun _ h => (nomatch h)⟩

theorem Spaced.cons (blank : AllBlank p.1) (word : IsWord p.2) (h : Spaced more) (apart : ∀ q ∈ more, q.1 ≠ []) :
    Spaced (p :: more) where
  blank := List.forall_mem_cons.mpr ⟨blank, h.blank⟩
  word := List.forall_mem_cons.mpr ⟨word, h.word⟩
  apart := apart

theorem Spaced.of_cons (h : Spaced (p :: more)) : Spaced more where
  blank := fun q hq => h.blank q (List.mem_cons_of_mem p hq)
  word := fun q hq => h.word q (List.mem_cons_of_mem p hq)
  apart := fun q hq => h.apart q (List.mem_of_mem_tail hq)

/-- What follows a word is at its end or begins with white space. -/
theorem Spaced.head_blank (h : Spaced (p :: more)) (blank : AllBlank tail) :
    ∀ c ∈ (laid more tail).head?, isBlank c = true := by
  intro c hc
  cases more with
  | nil => exact blank c (List.mem_of_mem_head? hc)
  | cons q more =>
    obtain ⟨d, gap, first⟩ := List.exists_cons_of_ne_nil (h.apart q List.mem_cons_self)
    rw [laid_cons, first] at hc
    obtain rfl : d = c := Option.some.inj hc
    exact h.blank q (List.mem_cons_of_mem p List.mem_cons_self) d (by rw [first]; exact List.mem_cons_self)

section Words

theorem wordsFrom_nil_gap (blank : AllBlank gap) : wordsFrom [] (gap ++ cs) = wordsFrom [] cs := by
  induction gap with
  | nil => rfl
  | cons d gap ih =>
    rw [List.cons_append, wordsFrom, if_pos (blank d List.mem_cons_self), List.isEmpty_nil, if_pos rfl]
    exact ih fun c hc => blank c (List.mem_cons_of_mem d hc)

/-- A word ends where white space follows it. -/
theorem wordsFrom_head_blank (some : w ≠ []) (head : ∀ c ∈ cs.head?, isBlank c = true) :
    wordsFrom w cs = w.reverse :: wordsFrom [] cs := by
  have full : w.isEmpty = false := by simpa using some
  cases cs with
  | nil => rw [wordsFrom, full, if_neg Bool.false_ne_true]; rfl
  | cons d cs =>
    have blank := head d rfl
    rw [wordsFrom, if_pos blank, full, if_neg Bool.false_ne_true, wordsFrom, if_pos blank, List.isEmpty_nil, if_pos rfl]

/-- Words that are laid out with white space between them are read back. -/
theorem words_laid (h : Spaced parts) (blank : AllBlank tail) : words (laid parts tail) = parts.map Prod.snd := by
  induction parts with
  | nil =>
    have all : words (tail ++ []) = words [] := wordsFrom_nil_gap blank
    rwa [List.append_nil] at all
  | cons p more ih =>
    have word := h.word p List.mem_cons_self
    rw [laid_cons, List.append_assoc, words, wordsFrom_nil_gap (h.blank p List.mem_cons_self), wordsFrom_word word.2,
      List.append_nil, wordsFrom_head_blank (by simpa using word.1) (h.head_blank blank), List.reverse_reverse,
      List.map_cons]
    exact congrArg (p.2 :: ·) (ih h.of_cons)

/-- Every text is laid out as words with white space between them. -/
theorem exists_laid (cs : List Char) : ∃ parts tail, cs = laid parts tail ∧ Spaced parts ∧ AllBlank tail := by
  induction cs with
  | nil => exact ⟨[], [], rfl, .nil, fun c hc => nomatch hc⟩
  | cons c cs ih =>
    obtain ⟨parts, tail, rfl, spaced, blank⟩ := ih
    by_cases hc : isBlank c = true
    · cases parts with
      | nil => exact ⟨[], c :: tail, rfl, .nil, List.forall_mem_cons.mpr ⟨hc, blank⟩⟩
      | cons p more =>
        refine ⟨(c :: p.1, p.2) :: more, tail, rfl, ?_, blank⟩
        exact .cons (List.forall_mem_cons.mpr ⟨hc, spaced.blank p List.mem_cons_self⟩)
          (spaced.word p List.mem_cons_self) spaced.of_cons spaced.apart
    · have own : ∀ d ∈ [c], isBlank d = false := by simpa using hc
      have single : IsWord [c] := ⟨List.cons_ne_nil c [], own⟩
      have none : AllBlank [] := fun d hd => nomatch hd
      cases parts with
      | nil => exact ⟨[([], [c])], tail, rfl, .cons none single .nil fun q hq => (nomatch hq), blank⟩
      | cons p more =>
        obtain ⟨gap, w⟩ := p
        have word := spaced.word (gap, w) List.mem_cons_self
        cases gap with
        | nil =>
          have longer : IsWord (c :: w) := ⟨List.cons_ne_nil c w, List.forall_mem_cons.mpr ⟨own c (by simp), word.2⟩⟩
          exact ⟨([], c :: w) :: more, tail, rfl, .cons none longer spaced.of_cons spaced.apart, blank⟩
        | cons d gap =>
          refine ⟨([], [c]) :: (d :: gap, w) :: more, tail, rfl, .cons none single spaced ?_, blank⟩
          exact List.forall_mem_cons.mpr ⟨List.cons_ne_nil d gap, spaced.apart⟩

theorem words_eq_nil : words cs = [] ↔ AllBlank cs := by
  constructor
  · intro none
    obtain ⟨parts, tail, rfl, spaced, blank⟩ := exists_laid cs
    rw [words_laid spaced blank, List.map_eq_nil_iff] at none
    rwa [none]
  · intro blank
    have none := words_laid Spaced.nil blank
    rwa [laid_nil, List.map_nil] at none

end Words

section Places

/-- A character that is shown stands behind the white space that comes first. -/
theorem behind_gap {before rest : List Char} (blank : AllBlank gap) (shown : isBlank c ≠ true)
    (same : gap ++ cs = before ++ c :: rest) : ∃ lead, before = gap ++ lead ∧ cs = lead ++ c :: rest := by
  rcases List.append_eq_append_iff.mp same with ⟨lead, ahead, same⟩ | ⟨extra, inside, same⟩
  · exact ⟨lead, ahead, same⟩
  · cases extra with
    | nil => exact ⟨[], by simpa using inside.symm, by simpa using same.symm⟩
    | cons d extra =>
      obtain ⟨rfl, -⟩ := List.cons.inj same
      exact absurd (blank c (by rw [inside]; simp)) shown

/-- Of two words that begin at one place, and that white space or the end follows, none is longer. -/
theorem same_word {after : List Char} (word : IsWord v) (own : IsWord w) (head : ∀ c ∈ r.head?, isBlank c = true)
    (right : ∀ c ∈ after.head?, isBlank c = true) (same : v ++ r = w ++ after) : w = v := by
  rcases List.append_eq_append_iff.mp same with ⟨extra, longer, rest⟩ | ⟨extra, longer, rest⟩
  · cases extra with
    | nil => simpa using longer
    | cons d extra => exact absurd (head d (by rw [rest]; rfl)) (own.not_blank (by rw [longer]; simp))
  · cases extra with
    | nil => simpa using longer.symm
    | cons d extra => exact absurd (right d (by rw [rest]; rfl)) (word.not_blank (by rw [longer]; simp))

/-- A run begins no later than a word that it begins in, or else behind it. -/
theorem behind_word {lead rest : List Char} (word : IsWord v) (left : ∀ c ∈ lead.getLast?, isBlank c = true)
    (same : v ++ r = lead ++ rest) : lead = [] ∨ ∃ before, lead = v ++ before ∧ r = before ++ rest := by
  rcases List.append_eq_append_iff.mp same with ⟨before, behind, rest⟩ | ⟨extra, inside, -⟩
  · exact .inr ⟨before, behind, rest⟩
  · cases hlead : lead.getLast? with
    | none => exact .inl (List.getLast?_eq_none_iff.mp hlead)
    | some d =>
      have there : d ∈ v := by
        rw [inside]
        exact List.mem_append_left extra (List.mem_of_getLast? hlead)
      exact absurd (left d hlead) (word.not_blank there)

/-- The first run of a text is its first word, and the other runs are those of what follows it. -/
theorem runAt_cons (blank : AllBlank gap) (word : IsWord v) (head : ∀ c ∈ r.head?, isBlank c = true) :
    RunAt (gap ++ v ++ r) i w ↔
      (i = gap.length ∧ w = v) ∨ ∃ j, i = gap.length + v.length + j ∧ RunAt r j w := by
  constructor
  · rintro ⟨before, after, same, rfl, own, left, right⟩
    obtain ⟨c, w', rfl⟩ := List.exists_cons_of_ne_nil own.1
    rw [List.append_assoc, List.append_assoc] at same
    obtain ⟨lead, rfl, rest⟩ := behind_gap blank (own.not_blank List.mem_cons_self) same
    have left' : ∀ d ∈ lead.getLast?, isBlank d = true := by
      intro d hd
      exact left d (List.mem_getLast?_append_of_mem_getLast? hd)
    rcases behind_word word left' rest with rfl | ⟨before, rfl, rfl⟩
    · exact .inl ⟨by simp, same_word word own head right rest⟩
    · refine .inr ⟨before.length, by simp [Nat.add_assoc], before, after, by simp, rfl, own, ?_, right⟩
      intro d hd
      exact left' d (List.mem_getLast?_append_of_mem_getLast? hd)
  · rintro (⟨rfl, rfl⟩ | ⟨j, rfl, before, after, rfl, rfl, own, left, right⟩)
    · exact ⟨gap, r, rfl, rfl, word, fun c hc => blank c (List.mem_of_getLast? hc), head⟩
    · refine ⟨gap ++ v ++ before, after, by simp, by simp [Nat.add_assoc], own, ?_, right⟩
      cases before with
      | nil =>
        obtain ⟨c, w', rfl⟩ := List.exists_cons_of_ne_nil own.1
        exact absurd (head c rfl) (own.not_blank List.mem_cons_self)
      | cons d before =>
        rw [List.getLast?_append_of_ne_nil _ (List.cons_ne_nil d before)]
        exact left

theorem not_runAt_blank (blank : AllBlank cs) : ¬ RunAt cs i w := by
  rintro ⟨before, after, rfl, -, own, -, -⟩
  obtain ⟨c, w', rfl⟩ := List.exists_cons_of_ne_nil own.1
  exact own.not_blank List.mem_cons_self (blank c (by simp))

theorem places_words : (places parts).map Prod.snd = parts.map Prod.snd := by
  induction parts with
  | nil => rfl
  | cons p more ih =>
    rw [places, List.map_cons, List.map_cons, List.map_map, ← ih]
    rfl

theorem runs_laid (h : Spaced parts) (blank : AllBlank tail) : Runs (laid parts tail) (places parts) := by
  induction parts with
  | nil => exact ⟨.nil, fun i w => iff_of_false (List.not_mem_nil) (not_runAt_blank blank)⟩
  | cons p more ih =>
    obtain ⟨gap, v⟩ := p
    obtain ⟨ascending, exact⟩ := ih h.of_cons
    have word := h.word (gap, v) List.mem_cons_self
    have long : 0 < v.length := List.length_pos_iff.mpr word.1
    constructor
    · rw [places, List.map_cons, List.map_map, List.pairwise_cons]
      constructor
      · intro i hi
        obtain ⟨q, -, rfl⟩ := List.mem_map.mp hi
        simp only [Function.comp_apply]
        omega
      · have moved := ascending.map (fun n => gap.length + v.length + n) fun a b lt => Nat.add_lt_add_left lt _
        rwa [List.map_map] at moved
    · intro i w
      rw [places, laid_cons, runAt_cons (h.blank _ List.mem_cons_self) word (h.head_blank blank), List.mem_cons,
        List.mem_map, Prod.mk.injEq]
      refine or_congr_right ⟨?_, ?_⟩
      · rintro ⟨⟨j, u⟩, there, same⟩
        obtain ⟨rfl, rfl⟩ := Prod.mk.inj same
        exact ⟨j, rfl, (exact j u).mp there⟩
      · rintro ⟨j, rfl, there⟩
        exact ⟨(j, w), (exact j w).mpr there, rfl⟩

theorem Runs.unique {runs runs' : List (Nat × List Char)} (h : Runs cs runs) (h' : Runs cs runs') : runs = runs' := by
  have strict : ∀ {rs : List (Nat × List Char)}, (rs.map Prod.fst).Pairwise (· < ·) →
      rs.Pairwise fun a b => a.1 < b.1 := fun hs => List.pairwise_map.mp hs
  have asymm : ∀ a b : Nat × List Char, a ∈ runs → b ∈ runs' → a.1 < b.1 → b.1 < a.1 → a = b := by
    intro a b _ _ lt gt
    exact absurd gt (Nat.lt_asymm lt)
  refine List.Perm.eq_of_pairwise asymm (strict h.ascending) (strict h'.ascending) ?_
  have once : ∀ {rs : List (Nat × List Char)}, (rs.map Prod.fst).Pairwise (· < ·) → rs.Nodup := fun hs =>
    (strict hs).imp fun lt => ne_of_apply_ne Prod.fst (Nat.ne_of_lt lt)
  refine (List.perm_ext_iff_of_nodup (once h.ascending) (once h'.ascending)).mpr fun ⟨i, w⟩ => ?_
  rw [h.exact, h'.exact]

/-- The words of a text are its longest runs. -/
theorem words_eq_iff {ws : List (List Char)} : words cs = ws ↔ ∃ runs, Runs cs runs ∧ runs.map Prod.snd = ws := by
  obtain ⟨parts, tail, rfl, spaced, blank⟩ := exists_laid cs
  have runs := runs_laid spaced blank
  rw [words_laid spaced blank, ← places_words]
  constructor
  · intro same
    exact ⟨places parts, runs, same⟩
  · rintro ⟨runs', h, rfl⟩
    rw [runs.unique h]

end Places
end FrameServer.Text
