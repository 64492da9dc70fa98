import Mathlib.Tactic.SplitIfs
import FrameServer.Json.Basic
import FrameServer.Json.Parser
import FrameServer.Proofs.Text.Utf8

namespace FrameServer.Json

variable {c d : Char} {acc : List Char} {fuel depth : Nat} {rest more : Bytes}

theorem readHex_control (n : Nat) (small : n < 32) (rest : Bytes) :
    readHex (48 :: 48 :: (Utf8.encode [Hex.digit (n / 16), Hex.digit n] ++ rest)) = .ok (n, rest) := by
  have all : ∀ n : Fin 32, (Utf8.encode [Hex.digit (n.val / 16), Hex.digit n.val]).map hexValue? =
      [some (n.val / 16), some (n.val % 16)] := by decide
  obtain ⟨a, digits, same, high, more⟩ := List.map_eq_cons_iff.mp (all ⟨n, small⟩)
  obtain ⟨b, digits, rfl, low, none⟩ := List.map_eq_cons_iff.mp more
  obtain rfl := List.map_eq_nil_iff.mp none
  have zero : hexValue? 48 = some 0 := by decide
  dsimp only at same high low
  rw [same]
  simp only [readHex, List.cons_append, List.nil_append, zero, high, low]
  rw [show ((0 * 16 + 0) * 16 + n / 16) * 16 + n % 16 = n by omega]

/-- What follows a backslash is read as the character that it stands for. -/
theorem readEscape_control (n : Nat) (small : n < 32) (rest : Bytes) :
    readEscape (117 :: 48 :: 48 :: (Utf8.encode [Hex.digit (n / 16), Hex.digit n] ++ rest)) =
      .ok (Char.ofNat n, rest) := by
  have low : isLowSurrogate n = false := by
    simp only [isLowSurrogate, Bool.and_eq_false_iff, decide_eq_false_iff_not]
    omega
  have high : isHighSurrogate n = false := by
    simp only [isHighSurrogate, Bool.and_eq_false_iff, decide_eq_false_iff_not]
    omega
  have digits := readHex_control n small rest
  show readCodePoint _ = _
  simp only [readCodePoint, digits, bind, Except.bind, low, high]
  rfl

theorem readString_escape (read : readEscape rest = .ok (c, more)) :
    readString acc none (fuel + 1) (92 :: rest) = readString (c :: acc) none fuel more := by
  rw [readString, if_neg (by decide), if_pos rfl, read]
  rfl

/-- A character that is not escaped is read as it is. -/
theorem readString_plain (quote : c ≠ '"') (backslash : c ≠ '\\') (shown : 32 ≤ c.toNat) :
    readString acc none (fuel + 1) (String.utf8EncodeChar c ++ rest) = readString (c :: acc) none fuel rest := by
  obtain ⟨a, bs, bytes, read⟩ := Utf8.next_char c rest
  have own : a.toNat < 128 → c.toNat = a.toNat := fun low =>
    Utf8.toNat_of_mem_char low (by rw [bytes]; exact List.mem_cons_self)
  have noQuote : a ≠ 34 := by
    rintro rfl
    exact quote (Char.toNat_inj.mp (own (by decide)))
  have noEscape : a ≠ 92 := by
    rintro rfl
    exact backslash (Char.toNat_inj.mp (own (by decide)))
  have noControl : ¬ a < 32 := by
    intro low
    have below : a.toNat < 32 := UInt8.lt_iff_toNat_lt.mp low
    have := own (by omega)
    omega
  rw [bytes, List.cons_append, readString, if_neg noQuote, if_neg noEscape, if_neg noControl, read]
  rfl

theorem readString_escaped (c : Char) (rest : Bytes) :
    readString acc none (fuel + 1) (Utf8.encode (escapeChar c) ++ rest) = readString (c :: acc) none fuel rest := by
  unfold escapeChar
  split_ifs with quote backslash _ _ _ _ _ control
  any_goals
    subst c
    exact readString_escape rfl
  · have read := readEscape_control c.toNat control rest
    rw [Char.ofNat_toNat] at read
    exact readString_escape read
  · rw [Utf8.encode_cons, Utf8.encode_nil, List.append_nil]
    exact readString_plain quote backslash (Nat.le_of_not_lt control)

theorem readString_quoted (cs : List Char) (enough : cs.length < fuel) (rest : Bytes) :
    readString acc none fuel (Utf8.encode (cs.flatMap escapeChar) ++ 34 :: rest) =
      .ok (String.ofList (acc.reverse ++ cs), rest) := by
  induction cs generalizing acc fuel with
  | nil =>
    obtain ⟨fuel, rfl⟩ := Nat.exists_eq_succ_of_ne_zero (Nat.ne_of_gt enough)
    rw [List.append_nil]
    rfl
  | cons c cs ih =>
    obtain ⟨fuel, rfl⟩ := Nat.exists_eq_succ_of_ne_zero (Nat.ne_of_gt (Nat.zero_lt_of_lt enough))
    rw [List.flatMap_cons, Utf8.encode_append, List.append_assoc, readString_escaped,
      ih (Nat.lt_of_succ_lt_succ enough), List.reverse_cons, List.append_assoc, List.singleton_append]

theorem escapeChar_ne_nil (c : Char) : escapeChar c ≠ [] := by
  unfold escapeChar
  split_ifs
  all_goals exact List.cons_ne_nil _ _

/-- The text of a string is not shorter than the string. -/
theorem length_le_quoted (cs : List Char) : cs.length ≤ (Utf8.encode (cs.flatMap escapeChar)).length :=
  Nat.le_trans (length_le_flatMap escapeChar_ne_nil cs) (Utf8.length_le_encode _)

theorem digit_shown (n : Nat) : 32 ≤ (Hex.digit n).toNat := by
  have all : ∀ n : Fin 16, 32 ≤ (Hex.digit n.val).toNat := by decide
  have same : Hex.digit n = Hex.digit (n % 16) := by
    unfold Hex.digit
    rw [Nat.mod_mod]
  rw [same]
  exact all ⟨n % 16, Nat.mod_lt n (by decide)⟩

/-- Nothing in the text of a string is a control. -/
theorem escapeChar_shown (h : d ∈ escapeChar c) : 32 ≤ d.toNat := by
  unfold escapeChar at h
  split_ifs at h with _ _ _ _ _ _ _ control
  all_goals simp only [List.mem_cons, List.not_mem_nil, or_false] at h
  any_goals
    rcases h with rfl | rfl
    all_goals decide
  · rcases h with rfl | rfl | rfl | rfl | rfl | rfl
    all_goals first | exact digit_shown _ | decide
  · rw [h]
    exact Nat.le_of_not_lt control

theorem quote_shown {s : String} (h : d ∈ quote s) : 32 ≤ d.toNat := by
  unfold quote at h
  rcases List.mem_append.mp h with h | h
  · rcases List.mem_cons.mp h with rfl | h
    · decide
    · obtain ⟨c, -, hd⟩ := List.mem_flatMap.mp h
      exact escapeChar_shown hd
  · rw [List.mem_singleton.mp h]
    decide

theorem encode_quote (s : String) (rest : Bytes) :
    Utf8.encode (quote s) ++ rest = 34 :: (Utf8.encode (s.toList.flatMap escapeChar) ++ 34 :: rest) := by
  have ends : Utf8.encode ['"'] = [34] := rfl
  have begins (cs : List Char) : Utf8.encode ('"' :: cs) = 34 :: Utf8.encode cs := rfl
  rw [quote, List.cons_append, begins, Utf8.encode_append, ends, List.cons_append, List.append_assoc,
    List.singleton_append]

/-- A string is read between its quotes. -/
theorem readString_quote (s : String) (rest : Bytes) :
    readString [] none ((Utf8.encode (s.toList.flatMap escapeChar) ++ 34 :: rest).length + 1)
      (Utf8.encode (s.toList.flatMap escapeChar) ++ 34 :: rest) = .ok (s, rest) := by
  have size := length_le_quoted s.toList
  have enough : s.toList.length < (Utf8.encode (s.toList.flatMap escapeChar) ++ 34 :: rest).length + 1 := by
    rw [List.length_append]
    omega
  rw [readString_quoted s.toList enough, List.reverse_nil, List.nil_append, String.ofList_toList]

theorem readValue_string (text : Bytes) : readValue (fuel + 1) depth (34 :: text) =
    match readString [] none (text.length + 1) text with
    | .ok (s, rest) => .ok (.string s, rest)
    | .error e => .error e := by
  rw [readValue]
  rfl

theorem readValue_quote (s : String) (rest : Bytes) :
    readValue (fuel + 1) depth (Utf8.encode (quote s) ++ rest) = .ok (.string s, rest) := by
  have read := readString_quote s rest
  rw [encode_quote]
  generalize Utf8.encode (s.toList.flatMap escapeChar) ++ 34 :: rest = text at read
  rw [readValue_string, read]

end FrameServer.Json
