import Mathlib.Algebra.Group.Nat.Defs
import FrameServer.Proofs.Ron.Gap
import FrameServer.Proofs.Ron.Quoted
import FrameServer.Ron.Reader

namespace FrameServer.Ron

variable {c : Char} {cs rest n : List Char}

theorem solid_of_isNameStart (start : isNameStart c) : isSolid c := by
  have spaces : ∀ k ∈ [0x20, 0x9, 0xA, 0xD, 0xB, 0xC, 0x85, 0x200E, 0x200F, 0x2028, 0x2029],
      k ≠ '_'.toNat ∧ ¬Text.inRanges k Text.nameStartRanges := by decide +kernel
  have noSpace : ¬isSpace c := by
    intro space
    obtain ⟨noBar, noStart⟩ := spaces c.toNat (of_decide_eq_true space)
    have bar : c ≠ '_' := fun h => noBar (congrArg Char.toNat h)
    simp [isNameStart, bar, noStart] at start
  have noSlash : c ≠ '/' := by
    rintro rfl
    exact absurd start (by decide)
  simp [isSolid, noSpace, noSlash]

theorem startsWith_iff {p : List Char} : startsWith p cs ↔ p <+: cs := by
  induction p generalizing cs with
  | nil => simp [startsWith, expectAll]
  | cons a p ih =>
    cases cs with
    | nil => simp [startsWith, expectAll, expect]
    | cons c cs =>
      by_cases same : c = a
      · have further : startsWith (a :: p) (c :: cs) = startsWith p cs := by simp [startsWith, expectAll, expect, same]
        rw [further, ih, same, List.prefix_cons_inj]
      · have no : startsWith (a :: p) (c :: cs) = false := by simp [startsWith, expectAll, expect, same]
        simp [no, List.cons_prefix_cons, Ne.symm same]

/-- A name of more than two characters, so that it does not look like the beginning of a string. -/
def isPlainName (n : List Char) : Bool := n.head?.any isNameStart && n.all isNameChar && 2 < n.length

/-- A plain name is read up to the first character that is none of a name. -/
theorem name?_plain (plain : isPlainName n) (ends : ¬isNameChar c) :
    name? (n ++ c :: rest) = some (⟨false, String.ofList n⟩, c :: rest) := by
  have parts : (n.head?.any isNameStart ∧ ∀ x ∈ n, isNameChar x) ∧ 2 < n.length := by
    simpa [isPlainName] using plain
  obtain ⟨⟨start, all⟩, long⟩ := parts
  have unquoted : ¬quotedStarts.any (startsWith ·.toList (n ++ c :: rest)) := by
    intro quoted
    obtain ⟨q, mem, begins⟩ := List.any_eq_true.mp quoted
    have short : q.toList.length ≤ 3 ∧ ¬∀ x ∈ q.toList, isNameChar x := by
      have each : (quotedStarts.all fun q => q.toList.length ≤ 3 && !q.toList.all isNameChar) = true := by decide
      simpa using List.all_eq_true.mp each q mem
    have within : q.toList <+: n :=
      List.prefix_of_prefix_length_le (startsWith_iff.mp begins) (List.prefix_append n _) (by omega)
    exact short.2 fun x h => all x (within.subset h)
  obtain ⟨a, b, n, rfl⟩ : ∃ a b m, n = a :: b :: m := by
    match n, long with
    | a :: b :: m, _ => exact ⟨a, b, m, rfl⟩
  have marked : b ≠ '#' := by
    rintro rfl
    exact absurd (all '#' (by simp)) (by decide)
  have start : isNameStart a := by simpa using start
  have more : ∀ x ∈ b :: n, isNameChar x := fun x mem => all x (List.mem_cons_of_mem _ mem)
  have taken : (b :: n ++ c :: rest).takeWhile isNameChar = b :: n := by
    rw [List.takeWhile_append_of_pos more, List.takeWhile_cons_of_neg ends, List.append_nil]
  have dropped : (b :: n ++ c :: rest).dropWhile isNameChar = c :: rest := by
    rw [List.dropWhile_append_of_pos more, List.dropWhile_cons_of_neg ends]
  rw [List.cons_append] at unquoted ⊢
  unfold name?
  rw [if_neg unquoted]
  split
  next hash =>
    have same : b = '#' := (List.cons.inj (List.cons.inj hash).2).1
    exact absurd same marked
  next head =>
    obtain ⟨rfl, rfl⟩ := List.cons.inj head
    rw [if_pos start, taken, dropped]
  next empty => exact absurd empty (List.cons_ne_nil _ _)

/-- No name begins with a character that is none. -/
theorem name?_none (start : ¬isNameStart c) : name? (c :: cs) = none := by
  have differs : c ≠ 'r' ∧ c ≠ 'b' := by
    refine ⟨?_, ?_⟩ <;> (rintro rfl; exact start (by decide))
  unfold name?
  split
  · rfl
  split
  next head => exact absurd (List.cons.inj head).1 differs.1
  next head =>
    obtain ⟨rfl, rfl⟩ := List.cons.inj head
    rw [if_neg start]
  next => rfl

/-- Digits of base ten, of which there is at least one. -/
def AreDigits (ds : List Char) : Prop := ds ≠ [] ∧ ∀ c ∈ ds, ∃ d < 10, c = Nat.digitChar d

theorem digitChar_kinds {d : Nat} (small : d < 10) :
    (Nat.digitChar d).isDigit ∧ isWholeChar (Nat.digitChar d) ∧ isFractionChar (Nat.digitChar d) ∧
      ¬isNameStart (Nat.digitChar d) ∧ isSolid (Nat.digitChar d) ∧
      Nat.digitChar d ∉ ['+', '-', '.', 'b', 'o', 'x', '_', '(', '[', '\x7b'] := by
  have all : ∀ d : Fin 10, (Nat.digitChar d).isDigit ∧ isWholeChar (Nat.digitChar d) ∧
      isFractionChar (Nat.digitChar d) ∧ ¬isNameStart (Nat.digitChar d) ∧ isSolid (Nat.digitChar d) ∧
      Nat.digitChar d ∉ ['+', '-', '.', 'b', 'o', 'x', '_', '(', '[', '\x7b'] := by decide
  exact all ⟨d, small⟩

theorem end_kinds (ends : isEnd c) : ¬isNameChar c ∧ ¬isWholeChar c ∧ ¬isFractionChar c ∧
    c ∉ ['b', 'o', 'x', 'i', 'u', '.'] := by
  have all : ∀ k ∈ [0x2C, 0x29, 0x2F, 0x20, 0x9, 0xA, 0xD, 0xB, 0xC, 0x85, 0x200E, 0x200F, 0x2028, 0x2029],
      ¬isNameChar (Char.ofNat k) ∧ ¬isWholeChar (Char.ofNat k) ∧ ¬isFractionChar (Char.ofNat k) ∧
        Char.ofNat k ∉ ['b', 'o', 'x', 'i', 'u', '.'] := by decide +kernel
  have code : c.toNat ∈ [0x2C, 0x29, 0x2F, 0x20, 0x9, 0xA, 0xD, 0xB, 0xC, 0x85, 0x200E, 0x200F, 0x2028, 0x2029] := by
    have cases : (c = ',' ∨ c = ')') ∨ isSpace c ∨ c = '/' := by
      simpa [isEnd, isSolid, Classical.or_iff_not_imp_left] using ends
    rcases cases with (rfl | rfl) | space | rfl
    · decide
    · decide
    · exact List.mem_append_right [0x2C, 0x29, 0x2F] (of_decide_eq_true space)
    · decide
  have kinds := all c.toNat code
  rwa [Char.ofNat_toNat] at kinds

theorem fractionSpan_digits (ends : isEnd c) (ds : List Char) (digits : ∀ c ∈ ds, ∃ d < 10, c = Nat.digitChar d) :
    fractionSpan (ds ++ c :: rest) = (ds, c :: rest) := by
  obtain ⟨-, -, noFraction, noMark⟩ := end_kinds ends
  induction ds with
  | nil =>
    rw [List.nil_append, fractionSpan]
    · simp only [noFraction, Bool.false_eq_true, if_false]
    · intro cs h
      simp [h] at noMark
  | cons d ds ih =>
    obtain ⟨n, small, rfl⟩ := digits d List.mem_cons_self
    have further := ih fun c mem => digits c (List.mem_cons_of_mem _ mem)
    have kinds := digitChar_kinds small
    rw [List.cons_append, fractionSpan]
    · simp only [kinds.2.2.1, if_true, further]
    · intro cs h
      simp [h] at kinds

section Digits

variable {ds : List Char} (digits : AreDigits ds) (ends : isEnd c)

include digits in
theorem AreDigits.head : ∃ n < 10, ∃ cs, ds = Nat.digitChar n :: cs := by
  obtain ⟨d, cs, rfl⟩ := List.exists_cons_of_ne_nil digits.1
  obtain ⟨n, small, rfl⟩ := digits.2 d List.mem_cons_self
  exact ⟨n, small, cs, rfl⟩

include digits in
theorem sign_digits : sign (ds ++ c :: rest) = (false, ds ++ c :: rest) := by
  obtain ⟨n, small, cs, rfl⟩ := digits.head
  have kinds := digitChar_kinds small
  rw [List.cons_append]
  unfold sign
  split
  next h => simp [(List.cons.inj h).1] at kinds
  next h => simp [(List.cons.inj h).1] at kinds
  next => rfl

include digits ends

theorem span_whole : (ds ++ c :: rest).takeWhile isWholeChar = ds ∧
    (ds ++ c :: rest).dropWhile isWholeChar = c :: rest := by
  have all : ∀ c ∈ ds, isWholeChar c := by
    intro c mem
    obtain ⟨d, small, rfl⟩ := digits.2 c mem
    exact (digitChar_kinds small).2.1
  have stops : ¬isWholeChar c := (end_kinds ends).2.1
  constructor
  · rw [List.takeWhile_append_of_pos all, List.takeWhile_cons_of_neg stops, List.append_nil]
  · rw [List.dropWhile_append_of_pos all, List.dropWhile_cons_of_neg stops]

theorem base_digits : base (ds ++ c :: rest) = (10, ds ++ c :: rest) := by
  obtain ⟨d, ds, rfl⟩ := List.exists_cons_of_ne_nil digits.1
  have second : ∀ x cs, ds ++ c :: rest = x :: cs → x ∉ ['b', 'o', 'x'] := by
    intro x cs h
    cases ds with
    | nil =>
      obtain rfl := (List.cons.inj h).1
      have kinds := (end_kinds ends).2.2.2
      simp only [List.mem_cons, not_or] at kinds ⊢
      simp [kinds]
    | cons e ds =>
      obtain ⟨n, small, rfl⟩ := digits.2 e (by simp)
      obtain rfl := (List.cons.inj h).1
      have kinds := digitChar_kinds small
      simp only [List.mem_cons, not_or] at kinds ⊢
      simp [kinds]
  rw [List.cons_append]
  unfold base
  split
  next h => exact absurd (second _ _ (List.cons.inj h).2) (by decide)
  next h => exact absurd (second _ _ (List.cons.inj h).2) (by decide)
  next h => exact absurd (second _ _ (List.cons.inj h).2) (by decide)
  next => rfl

theorem magnitude_digits : magnitude (ds ++ c :: rest) = (digitsValue? 10 0 ds).map fun n => (n, c :: rest) := by
  obtain ⟨taken, dropped⟩ : _ = ds ∧ _ = c :: rest := span_whole digits ends
  simp only [magnitude, base_digits digits ends, taken, dropped]
  split
  next => exact absurd rfl digits.1
  next =>
    obtain ⟨d, small, same⟩ := digits.2 '_' (by simp)
    have kinds := digitChar_kinds small
    simp [← same] at kinds
  next => cases digitsValue? 10 0 ds <;> rfl

theorem wholeNumeral_digits (n : Nat) (value : digitsValue? 10 0 ds = some n) (fits : n < 2 ^ 64) :
    wholeNumeral (ds ++ c :: rest) = some (.whole false n none, c :: rest) := by
  have untyped : wholeType? (ds ++ c :: rest) = none := by
    have noType : c ≠ 'i' ∧ c ≠ 'u' := by
      have kinds := (end_kinds ends).2.2.2
      simp only [List.mem_cons, not_or] at kinds
      simp [kinds]
    rw [wholeType?, (span_whole digits ends).2]
    simp [wholeTypes, expectWord, expectAll, expect, noType]
  have small : fitsType false 64 false n := by simpa [fitsType] using fits
  simp [wholeNumeral, sign_digits digits, untyped, magnitude_digits digits ends, value, small]

/-- Digits up to such a character are read as a whole number. -/
theorem readNumber_digits (n : Nat) (value : digitsValue? 10 0 ds = some n) (fits : n < 2 ^ 64) :
    readNumber (ds ++ c :: rest) = some (.number (.whole false n none), c :: rest) := by
  have whole : numeral (ds ++ c :: rest) = some (.whole false n none, c :: rest) := by
    have noByte : ¬startsWith ['b'] (ds ++ c :: rest) := by
      obtain ⟨d, small, cs, rfl⟩ := digits.head
      have kinds := digitChar_kinds small
      intro b
      have same : 'b' = d.digitChar := (List.cons_prefix_cons.mp (startsWith_iff.mp b)).1
      simp [← same] at kinds
    simp [numeral, sign_digits digits, fractionSpan_digits ends ds digits.2, (span_whole digits ends).1, noByte,
      wholeNumeral_digits digits ends n value fits]
  obtain ⟨d, small, cs, rfl⟩ := digits.head
  have kinds := digitChar_kinds small
  unfold readNumber
  split
  next h => simp [(List.cons.inj h).1] at kinds
  next =>
    have noMark : c ≠ '.' := by
      rintro rfl
      exact absurd ends (by decide)
    rw [whole, Option.bind_some]
    simp [numberOrRange, noMark]

end Digits

/-- What is read as a value wherever one may end. -/
structure Reads (item : Reader Value) (cs : List Char) (v : Value) : Prop where
  solid : cs.head?.any isSolid
  reads : ∀ rest, Ends rest → ∃ rest', item (cs ++ rest) = some (v, rest') ∧ skipGap rest' = skipGap rest

variable {ext : Extensions} {inner item nested : Option (Reader Value)}

/-- What begins with a character that no name begins with, nor a bracket, is read as a value without parts. -/
theorem form_leaf (start : ¬isNameStart c) (bracket : c ∉ ['(', '[', '\x7b']) :
    form ext inner item nested (c :: cs) = leaf (c :: cs) := by
  simp only [List.mem_cons, not_or] at bracket
  simp [form, name?_none start, bracket]

theorem leaf_digit (digit : c.isDigit) : leaf (c :: cs) = readNumber (c :: cs) := by
  unfold leaf
  split
  next h => exact absurd digit (by rw [(List.cons.inj h).1]; decide)
  next h => exact absurd digit (by rw [(List.cons.inj h).1]; decide)
  next h => exact absurd digit (by rw [(List.cons.inj h).1]; decide)
  next h => rw [h]
  next h => exact absurd digit (by rw [(List.cons.inj h).1]; decide)
  next h =>
    obtain ⟨rfl, rfl⟩ := List.cons.inj h
    simp [digit]
  next h => exact absurd h (List.cons_ne_nil _ _)

theorem Reads.text (s : String) : Reads (form ext inner item nested) (writeText s) (.text s) where
  solid := by simp [writeText]; decide
  reads rest _ := by
    have read := readText_writeText s rest
    refine ⟨rest, ?_, rfl⟩
    simp only [writeText, List.cons_append] at read ⊢
    rw [form_leaf (by decide) (by decide)]
    exact read

theorem Reads.char (c : Char) : Reads (form ext inner item nested) (writeChar c) (.char c) where
  solid := by simp [writeChar]; decide
  reads rest _ := by
    have read := readChar_writeChar c rest
    refine ⟨rest, ?_, rfl⟩
    simp only [writeChar, List.cons_append] at read ⊢
    rw [form_leaf (by decide) (by decide)]
    exact read

theorem Reads.number (n : Nat) (fits : n < 2 ^ 64) :
    Reads (form ext inner item nested) (Nat.toDigits 10 n) (.number (.whole false n none)) := by
  have digits : AreDigits (Nat.toDigits 10 n) := ⟨Nat.toDigits_ne_nil, fun c => mem_toDigits (by decide) n⟩
  have value : digitsValue? 10 0 (Nat.toDigits 10 n) = some n := digitsValue?_toDigits (by decide) (by decide) n
  obtain ⟨d, small, cs, same⟩ := digits.head
  have kinds := digitChar_kinds small
  constructor
  · rw [same]
    simpa using kinds.2.2.2.2.1
  · intro rest ends
    obtain ⟨c, rest, rfl, stops⟩ := ends.head
    have read : readNumber (_ ++ c :: rest) = some (.number (.whole false n none), c :: rest) :=
      readNumber_digits digits stops n value fits
    refine ⟨c :: rest, ?_, rfl⟩
    rw [same, List.cons_append] at read ⊢
    rw [form_leaf kinds.2.2.2.1 (by simp_all), leaf_digit kinds.1, read]

section Plain

variable (plain : isPlainName n)
include plain

theorem head_plain : ∃ a cs, n = a :: cs ∧ isNameStart a ∧ isSolid a := by
  cases n with
  | nil => simp [isPlainName] at plain
  | cons a cs =>
    have start : isNameStart a := by
      simp only [isPlainName, List.head?_cons, Option.any_some, Bool.and_eq_true] at plain
      exact plain.1.1
    exact ⟨a, cs, rfl, start, solid_of_isNameStart start⟩

/-- A plain name is read as what it stands for if it is a keyword. -/
theorem Reads.keyword {b : Bool} (keyword : keyword? ⟨false, String.ofList n⟩ = some (.flag b)) :
    Reads (form ext inner item nested) n (.flag b) := by
  obtain ⟨a, cs, rfl, start, solid⟩ := head_plain plain
  refine ⟨by simpa using solid, ?_⟩
  intro rest ends
  obtain ⟨c, rest, rfl, stops⟩ := ends.head
  have named : name? (a :: cs ++ c :: rest) = some (⟨false, String.ofList (a :: cs)⟩, c :: rest) :=
    name?_plain plain (end_kinds stops).1
  have bracket : a ≠ '(' := by
    rintro rfl
    exact absurd start (by decide)
  generalize String.ofList (a :: cs) = text at named keyword
  refine ⟨c :: rest, ?_, rfl⟩
  rw [List.cons_append] at named ⊢
  simp [form, named, keyword, bracket]

theorem Reads.word (other : keyword? ⟨false, String.ofList n⟩ = none) (noOption : String.ofList n ≠ "Some") :
    Reads (form ext inner item nested) n (.word (String.ofList n)) := by
  obtain ⟨a, cs, rfl, start, solid⟩ := head_plain plain
  refine ⟨by simpa using solid, ?_⟩
  intro rest ends
  obtain ⟨c, rest, rfl, stops⟩ := ends.head
  have named : name? (a :: cs ++ c :: rest) = some (⟨false, String.ofList (a :: cs)⟩, c :: rest) :=
    name?_plain plain (end_kinds stops).1
  obtain ⟨d, further, gap, mark⟩ : ∃ d further, skipGap (c :: rest) = some (d :: further) ∧ d ≠ '(' := by
    generalize c :: rest = behind at ends
    obtain ⟨blank, marks⟩ := ends
    refine ⟨_, _, skipGap_mark blank marks, ?_⟩
    rintro rfl
    exact absurd marks (by decide)
  have bracket : a ≠ '(' := by
    rintro rfl
    exact absurd start (by decide)
  generalize String.ofList (a :: cs) = text at named other noOption ⊢
  refine ⟨d :: further, ?_, by rw [skipGap_idem gap, gap]⟩
  rw [List.cons_append] at named ⊢
  simp [form, named, other, noOption, gap, expect, bracket, mark]

end Plain

end FrameServer.Ron
