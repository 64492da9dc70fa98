import Mathlib.Tactic.SplitIfs
import FrameServer.Proofs.Lists
import FrameServer.Ron.Number

namespace FrameServer.Ron

/-- A character that may be a digit in base sixteen is read as its value and is no bar. -/
theorem hex_digitChar (d : Nat) (small : d < 16) : Hex.value? d.digitChar = some d ∧ d.digitChar ≠ '_' := by
  have all : ∀ d : Fin 16, Hex.value? d.val.digitChar = some d.val ∧ d.val.digitChar ≠ '_' := by decide
  exact all ⟨d, small⟩

variable {b : Nat}

theorem digitsValue?_append (n : Nat) (ds es : List Char) :
    digitsValue? b n (ds ++ es) = (digitsValue? b n ds).bind fun m => digitsValue? b m es := by
  induction ds generalizing n with
  | nil => rfl
  | cons d ds ih =>
    simp only [List.cons_append, digitsValue?]
    split
    · exact ih n
    · split
      · split
        · exact ih _
        · rfl
      · rfl

theorem digitsValue?_digit (n d : Nat) (fits : d < b) (small : d < 16) :
    digitsValue? b n [d.digitChar] = some (n * b + d) := by
  obtain ⟨value, noBar⟩ := hex_digitChar d small
  simp [digitsValue?, value, noBar, fits]

/-- The digits of a number have its value, in any base up to sixteen. -/
theorem digitsValue?_toDigits (two : 1 < b) (sixteen : b ≤ 16) (n : Nat) :
    digitsValue? b 0 (Nat.toDigits b n) = some n := by
  induction n using Nat.strongRecOn with
  | _ n ih =>
    by_cases one : n < b
    · rw [Nat.toDigits_of_lt_base one, digitsValue?_digit 0 n one (by omega)]
      simp
    · have last : n % b < b := Nat.mod_lt n (by omega)
      have front : digitsValue? b 0 (Nat.toDigits b (n / b)) = some (n / b) :=
        ih (n / b) (Nat.div_lt_self (by omega) two)
      rw [Nat.toDigits_of_base_le two (by omega), digitsValue?_append, front, Option.bind_some,
        digitsValue?_digit _ _ last (by omega), Nat.div_add_mod']

theorem mem_toDigits (two : 1 < b) (n : Nat) {c : Char} (h : c ∈ Nat.toDigits b n) : ∃ d < b, c = d.digitChar := by
  induction n using Nat.strongRecOn with
  | _ n ih =>
    by_cases one : n < b
    · rw [Nat.toDigits_of_lt_base one, List.mem_singleton] at h
      exact ⟨n, one, h⟩
    · rw [Nat.toDigits_of_base_le two (by omega), List.mem_append, List.mem_singleton] at h
      rcases h with h | h
      · exact ih (n / b) (Nat.div_lt_self (by omega) two) h
      · exact ⟨n % b, Nat.mod_lt n (by omega), h⟩

/-- Digits of base sixteen up to a closing brace are a code point if there are not too many. -/
theorem codePoint_digits (ds rest : List Char) (digits : ∀ c ∈ ds, ∃ d < 16, c = Nat.digitChar d) (limit n : Nat)
    (fits : ds.length ≤ limit) :
    codePoint limit n (ds ++ '\x7d' :: rest) = (digitsValue? 16 n ds).map fun m => (m, rest) := by
  induction ds generalizing limit n with
  | nil => simp [codePoint, digitsValue?]
  | cons c ds ih =>
    obtain ⟨d, small, rfl⟩ := digits c List.mem_cons_self
    obtain ⟨value, noBar⟩ := hex_digitChar d small
    obtain ⟨limit, rfl⟩ : ∃ l, limit = l + 1 := ⟨limit - 1, by simp at fits; omega⟩
    have noBrace : d.digitChar ≠ '\x7d' := by
      intro brace
      have no : Hex.value? '\x7d' = none := by decide
      simp [brace, no] at value
    have further := ih (fun c mem => digits c (List.mem_cons_of_mem _ mem)) limit (n * 16 + d) (by simpa using fits)
    simp only [List.cons_append, digitsValue?, noBar, if_false, value, small, if_true]
    rw [codePoint.eq_def]
    split
    next brace => exact absurd (List.cons.inj brace).1 noBrace
    next => simp_all
    next => simp_all

theorem charOf?_toNat (c : Char) : charOf? c.toNat = some c := by
  have valid : c.toNat < 0xD800 ∨ (0xDFFF < c.toNat ∧ c.toNat < 0x110000) := c.valid
  rw [charOf?, if_pos valid, Char.ofNat_toNat]

/-- How the escape of a character that cannot be seen by itself is read. -/
theorem escaped_code (spread : Bool) (c : Char) (rest : List Char) :
    escaped spread ('u' :: '\x7b' :: (Text.hexDigits c.toNat ++ '\x7d' :: rest)) = some (c, rest) := by
  have digits : ∀ x ∈ Text.hexDigits c.toNat, ∃ d < 16, x = Nat.digitChar d := fun x => mem_toDigits (by decide) _
  have value : digitsValue? 16 0 (Text.hexDigits c.toNat) = some c.toNat :=
    digitsValue?_toDigits (by decide) (by decide) c.toNat
  have length : (Text.hexDigits c.toNat).length ≤ 6 := by
    have bound : c.toNat < 16 ^ 6 := by
      have := c.valid
      simp only [UInt32.isValidChar, Nat.isValidChar] at this
      show c.val.toNat < 16 ^ 6
      omega
    exact (Nat.length_toDigits_le_iff (by decide) (by decide)).mpr bound
  obtain ⟨d, ds, shown⟩ : ∃ d ds, Text.hexDigits c.toNat = d :: ds := List.exists_cons_of_ne_nil Nat.toDigits_ne_nil
  rw [shown] at digits value length ⊢
  obtain ⟨n, small, rfl⟩ := digits _ List.mem_cons_self
  obtain ⟨first, noBar⟩ := hex_digitChar n small
  have further : codePoint 5 n (ds ++ '\x7d' :: rest) = (digitsValue? 16 n ds).map fun m => (m, rest) :=
    codePoint_digits ds rest (fun x mem => digits x (List.mem_cons_of_mem _ mem)) 5 n (Nat.le_of_succ_le_succ length)
  have whole : digitsValue? 16 n ds = some c.toNat := by
    simpa [digitsValue?, noBar, first, small] using value
  simp [escaped, first, further, whole, charOf?_toNat]

/-- A string goes on with the character that an escape stands for. -/
theorem body_escape {fuel : Nat} {e : Char} {cs rest : List Char} {c : Char} (line : e ≠ '\n')
    (carriage : e ≠ '\r') (reads : escaped true (e :: cs) = some (c, rest)) :
    body (escaped true) id (fuel + 1) ('\\' :: e :: cs) =
      (body (escaped true) id fuel rest).map fun r => (c :: r.1, r.2) := by
  rw [body]
  · simp only [reads, Option.bind_eq_bind, Option.bind_some]
    cases body (escaped true) id fuel rest <;> rfl
  · intro cs' h
    exact line (List.cons.inj h).1
  · intro cs' h
    exact carriage (List.cons.inj h).1

theorem body_plain {fuel : Nat} {c : Char} {cs : List Char} (quote : c ≠ '"') (slash : c ≠ '\\') :
    body (escaped true) id (fuel + 1) (c :: cs) =
      (body (escaped true) id fuel cs).map fun r => (c :: r.1, r.2) := by
  rw [body]
  · cases body (escaped true) id fuel cs <;> rfl
  · exact quote
  · intro cs' h; exact absurd h slash
  · intro cs' h; exact absurd h slash
  · exact slash

/-- A character as it stands in a string that is written. -/
def written (c : Char) : List Char := if c = '\'' then ['\\', '\''] else Text.escapeChar '"' c

theorem body_written (fuel : Nat) (c : Char) (cs : List Char) :
    body (escaped true) id (fuel + 1) (written c ++ cs) =
      (body (escaped true) id fuel cs).map fun r => (c :: r.1, r.2) := by
  by_cases apostrophe : c = '\''
  · subst apostrophe
    exact body_escape (by decide) (by decide) rfl
  rw [written, if_neg apostrophe]
  unfold Text.escapeChar
  split_ifs with mark zero tab carriage line graphic
  · rcases Bool.or_eq_true_iff.mp mark with quote | slash
    · obtain rfl := of_decide_eq_true quote
      exact body_escape (by decide) (by decide) rfl
    · obtain rfl := of_decide_eq_true slash
      exact body_escape (by decide) (by decide) rfl
  · subst zero
    exact body_escape (by decide) (by decide) rfl
  · subst tab
    exact body_escape (by decide) (by decide) rfl
  · subst carriage
    exact body_escape (by decide) (by decide) rfl
  · subst line
    exact body_escape (by decide) (by decide) rfl
  · have plain : ¬(c = '"' ∨ c = '\\') := by simpa using mark
    exact body_plain (fun h => plain (.inl h)) (fun h => plain (.inr h))
  · rw [List.append_assoc, List.append_assoc]
    exact body_escape (by decide) (by decide) (escaped_code true c cs)

/-- Every character takes one turn, however many it is written with, and the quote takes one more. -/
theorem body_flatMap_written (cs rest : List Char) (fuel : Nat) (enough : cs.length < fuel) :
    body (escaped true) id fuel (cs.flatMap written ++ '"' :: rest) = some (cs, rest) := by
  induction cs generalizing fuel with
  | nil =>
    obtain ⟨fuel, rfl⟩ : ∃ f, fuel = f + 1 := ⟨fuel - 1, by simp at enough; omega⟩
    simp [body]
  | cons c cs ih =>
    obtain ⟨fuel, rfl⟩ : ∃ f, fuel = f + 1 := ⟨fuel - 1, by simp at enough; omega⟩
    rw [List.flatMap_cons, List.append_assoc, body_written, ih fuel (by simpa using enough)]
    rfl

theorem written_ne_nil (c : Char) : written c ≠ [] := by
  unfold written Text.escapeChar
  split_ifs <;> simp

/-- A string that is written is read as itself. -/
theorem readText_writeText (s : String) (rest : List Char) :
    readText (writeText s ++ rest) = some (.text s, rest) := by
  have spelled : writeText s ++ rest = '"' :: (s.toList.flatMap written ++ '"' :: rest) := by
    simp only [writeText, List.cons_append, List.append_assoc, List.nil_append]
    rfl
  have enough : s.toList.length < (s.toList.flatMap written ++ '"' :: rest).length + 1 := by
    have := length_le_flatMap written_ne_nil s.toList
    simp only [List.length_append, List.length_cons]
    omega
  rw [spelled, readText, body_flatMap_written _ _ _ enough]
  simp

/-- A character that is written is read as itself. -/
theorem readChar_writeChar (c : Char) (rest : List Char) :
    readChar (writeChar c ++ rest) = some (.char c, rest) := by
  unfold writeChar
  split_ifs with mark
  · have both : c = '\'' ∨ c = '\\' := by simpa using mark
    rcases both with rfl | rfl <;> rfl
  · have plain : ¬(c = '\'' ∨ c = '\\') := by simpa using mark
    have slash : c ≠ '\\' := fun h => plain (.inr h)
    simp [readChar, expect]

end FrameServer.Ron
