import FrameServer.Proofs.Json.Quoted

namespace FrameServer.Json

/-- The text of a value is read as that value, whatever follows it. No byte of it takes more than two steps. -/
structure Legible (depth : Nat) (v : Json) : Prop where
  starts : ∃ b bs, Utf8.encode (chars v) = b :: bs ∧ isSpace b = false ∧ b ≠ 93
  reads : ∀ fuel rest, 2 * (Utf8.encode (chars v)).length < fuel →
    readValue fuel depth (Utf8.encode (chars v) ++ rest) = .ok (v, rest)

/-- The text of a value holds no control. -/
def Shown (v : Json) : Prop := ∀ d ∈ chars v, 32 ≤ d.toNat

variable {depth fuel : Nat} {v : Json} {vs acc : List Json} {ms members : List (String × Json)} {rest : Bytes}
  {xs : List (List Char)} {d : Char}

theorem commaSeparated_cons (x : List Char) (xs : List (List Char)) :
    commaSeparated (x :: xs) = x ++ xs.flatMap (',' :: ·) := by
  induction xs generalizing x with
  | nil => rw [commaSeparated, List.flatMap_nil, List.append_nil]
  | cons y ys ih =>
    show x ++ ',' :: commaSeparated (y :: ys) = _
    rw [ih, List.flatMap_cons, List.cons_append]

theorem commaSeparated_shown (shown : ∀ x ∈ xs, ∀ d ∈ x, 32 ≤ d.toNat) (h : d ∈ commaSeparated xs) :
    32 ≤ d.toNat := by
  cases xs with
  | nil => cases h
  | cons x xs =>
    rw [commaSeparated_cons] at h
    rcases List.mem_append.mp h with h | h
    · exact shown x List.mem_cons_self d h
    · obtain ⟨y, hy, hd⟩ := List.mem_flatMap.mp h
      rcases List.mem_cons.mp hd with rfl | hd
      · decide
      · exact shown y (List.mem_cons_of_mem x hy) d hd

theorem encode_comma (cs : List Char) : Utf8.encode (',' :: cs) = 44 :: Utf8.encode cs := rfl

theorem itemChars_eq (vs : List Json) : itemChars vs = vs.map chars := by
  induction vs with
  | nil => rfl
  | cons v vs ih => rw [itemChars, ih, List.map_cons]

theorem chars_array (vs : List Json) :
    Utf8.encode (chars (.array vs)) = 91 :: (Utf8.encode (commaSeparated (vs.map chars)) ++ [93]) := by
  have opens (cs : List Char) : Utf8.encode ('[' :: cs) = 91 :: Utf8.encode cs := rfl
  rw [chars, itemChars_eq, List.cons_append, opens, Utf8.encode_append]
  rfl

/-- The text of a member. -/
def memberText (m : String × Json) : List Char := quote m.1 ++ ':' :: chars m.2

theorem memberChars_eq (ms : List (String × Json)) : memberChars ms = ms.map memberText := by
  induction ms with
  | nil => rfl
  | cons m ms ih => rw [memberChars, ih, List.map_cons, memberText]

theorem chars_object (ms : List (String × Json)) :
    Utf8.encode (chars (.object ms)) = 123 :: (Utf8.encode (commaSeparated (ms.map memberText)) ++ [125]) := by
  have opens (cs : List Char) : Utf8.encode ('\x7b' :: cs) = 123 :: Utf8.encode cs := rfl
  rw [chars, memberChars_eq, List.cons_append, opens, Utf8.encode_append]
  rfl

theorem legible_string (s : String) : Legible depth (.string s) := by
  constructor
  · have text := encode_quote s []
    rw [List.append_nil] at text
    exact ⟨34, _, text, by decide, by decide⟩
  · intro fuel rest enough
    obtain ⟨fuel, rfl⟩ := Nat.exists_eq_succ_of_ne_zero (Nat.ne_of_gt (Nat.zero_lt_of_lt enough))
    exact readValue_quote s rest

theorem shown_string (s : String) : Shown (.string s) := fun _ h => quote_shown h

theorem skipSpace_solid {b : UInt8} (solid : isSpace b = false) (bs : Bytes) : skipSpace (b :: bs) = b :: bs := by
  rw [skipSpace, List.dropWhile_cons, solid]
  rfl

theorem readItems_open (h : Legible depth v) : readItems (fuel + 1) depth true acc (Utf8.encode (chars v) ++ rest) =
    readItem fuel depth acc (Utf8.encode (chars v) ++ rest) := by
  obtain ⟨b, bs, text, solid, inside⟩ := h.starts
  rw [text, List.cons_append, readItems, skipSpace_solid solid]
  dsimp only
  rw [if_neg inside, if_pos rfl]

theorem readItems_comma (h : Legible depth v) :
    readItems (fuel + 1) depth false acc (44 :: (Utf8.encode (chars v) ++ rest)) =
      readItem fuel depth acc (Utf8.encode (chars v) ++ rest) := by
  obtain ⟨b, bs, text, solid, inside⟩ := h.starts
  rw [text, List.cons_append, readItems, skipSpace_solid (by decide)]
  dsimp only
  rw [if_neg (by decide), if_neg (by decide), if_pos rfl, skipSpace_solid solid]
  dsimp only
  rw [if_neg inside]

theorem readItem_legible (h : Legible depth v) (enough : 2 * (Utf8.encode (chars v)).length < fuel) :
    readItem (fuel + 1) depth acc (Utf8.encode (chars v) ++ rest) = readItems fuel depth false (v :: acc) rest := by
  rw [readItem, h.reads fuel rest enough]

/-- Items after a comma are read one after the other, up to the closing bracket. -/
theorem readItems_legible (each : ∀ v ∈ vs, Legible depth v)
    (enough : 2 * (Utf8.encode ((vs.map chars).flatMap (',' :: ·))).length < fuel) (rest : Bytes) :
    readItems fuel depth false acc (Utf8.encode ((vs.map chars).flatMap (',' :: ·)) ++ 93 :: rest) =
      .ok (.array (acc.reverse ++ vs), rest) := by
  induction vs generalizing acc fuel with
  | nil =>
    obtain ⟨fuel, rfl⟩ := Nat.exists_eq_succ_of_ne_zero (Nat.ne_of_gt enough)
    rw [readItems, List.append_nil]
    rfl
  | cons v vs ih =>
    have first := each v List.mem_cons_self
    rw [List.map_cons, List.flatMap_cons, List.cons_append, encode_comma, Utf8.encode_append] at enough ⊢
    rw [List.length_cons, List.length_append] at enough
    obtain ⟨fuel, rfl⟩ : ∃ n, fuel = n + 2 := ⟨fuel - 2, by omega⟩
    rw [List.cons_append, List.append_assoc, readItems_comma first, readItem_legible first (by omega),
      ih (fun w hw => each w (List.mem_cons_of_mem _ hw)) (by omega), List.reverse_cons, List.append_assoc,
      List.singleton_append]

theorem readItems_first (each : ∀ v ∈ vs, Legible depth v)
    (enough : 2 * (Utf8.encode (commaSeparated (vs.map chars))).length + 2 < fuel) (rest : Bytes) :
    readItems fuel depth true [] (Utf8.encode (commaSeparated (vs.map chars)) ++ 93 :: rest) =
      .ok (.array vs, rest) := by
  cases vs with
  | nil =>
    obtain ⟨fuel, rfl⟩ := Nat.exists_eq_succ_of_ne_zero (Nat.ne_of_gt (Nat.zero_lt_of_lt enough))
    rw [readItems]
    rfl
  | cons v vs =>
    have first := each v List.mem_cons_self
    rw [List.map_cons, commaSeparated_cons, Utf8.encode_append] at enough ⊢
    rw [List.length_append] at enough
    obtain ⟨fuel, rfl⟩ : ∃ n, fuel = n + 2 := ⟨fuel - 2, by omega⟩
    rw [List.append_assoc, readItems_open first, readItem_legible first (by omega),
      readItems_legible (fun w hw => each w (List.mem_cons_of_mem _ hw)) (by omega)]
    rfl

theorem legible_array (each : ∀ v ∈ vs, Legible depth v) : Legible (depth + 1) (.array vs) := by
  constructor
  · exact ⟨91, _, chars_array vs, by decide, by decide⟩
  · intro fuel rest enough
    rw [chars_array] at enough ⊢
    rw [List.length_cons, List.length_append, List.length_singleton] at enough
    obtain ⟨fuel, rfl⟩ := Nat.exists_eq_succ_of_ne_zero (Nat.ne_of_gt (Nat.zero_lt_of_lt enough))
    have opens (text : Bytes) : readValue (fuel + 1) (depth + 1) (91 :: text) = readItems fuel depth true [] text := by
      rw [readValue]
      rfl
    rw [List.cons_append, List.append_assoc, opens]
    exact readItems_first each (by omega) rest

theorem shown_array (each : ∀ v ∈ vs, Shown v) : Shown (.array vs) := by
  intro d hd
  rw [chars, itemChars_eq] at hd
  rcases List.mem_append.mp hd with hd | hd
  · rcases List.mem_cons.mp hd with rfl | hd
    · decide
    · refine commaSeparated_shown (fun x hx => ?_) hd
      obtain ⟨v, hv, rfl⟩ := List.mem_map.mp hx
      exact each v hv
  · rw [List.mem_singleton.mp hd]
    decide

theorem encode_memberText (m : String × Json) (rest : Bytes) : Utf8.encode (memberText m) ++ rest =
    34 :: (Utf8.encode (m.1.toList.flatMap escapeChar) ++ 34 :: (58 :: (Utf8.encode (chars m.2) ++ rest))) := by
  have colon (cs : List Char) : Utf8.encode (':' :: cs) = 58 :: Utf8.encode cs := rfl
  rw [memberText, Utf8.encode_append, colon, List.append_assoc, encode_quote, List.cons_append]

theorem length_memberText (m : String × Json) :
    (Utf8.encode (chars m.2)).length + 1 ≤ (Utf8.encode (memberText m)).length := by
  have text := congrArg List.length (encode_memberText m [])
  rw [List.append_nil, List.append_nil, List.length_cons, List.length_append, List.length_cons,
    List.length_cons] at text
  omega

/-- After its name and a colon stands the value of a member. -/
theorem readMember_named {text : Bytes} {name : String}
    (read : readString [] none (text.length + 1) text = .ok (name, 58 :: rest)) :
    readMember (fuel + 1) depth members (34 :: text) =
      match readValue fuel depth rest with
      | .error e => .error e
      | .ok (v, rest) => readMembers fuel depth false (insert name v members) rest := by
  rw [readMember, if_neg (by decide), if_neg (by decide), read]
  rfl

theorem readMember_legible (m : String × Json) (h : Legible depth m.2)
    (enough : 2 * (Utf8.encode (chars m.2)).length < fuel) :
    readMember (fuel + 1) depth members (Utf8.encode (memberText m) ++ rest) =
      readMembers fuel depth false (insert m.1 m.2 members) rest := by
  have key := readString_quote m.1 (58 :: (Utf8.encode (chars m.2) ++ rest))
  rw [encode_memberText]
  generalize Utf8.encode (m.1.toList.flatMap escapeChar) ++ 34 :: (58 :: (Utf8.encode (chars m.2) ++ rest)) = text
    at key
  rw [readMember_named key, h.reads fuel rest enough]

/-- Members after a comma are read one after the other, up to the closing bracket. -/
theorem readMembers_legible (each : ∀ m ∈ ms, Legible depth m.2)
    (enough : 2 * (Utf8.encode ((ms.map memberText).flatMap (',' :: ·))).length < fuel) (rest : Bytes) :
    readMembers fuel depth false members (Utf8.encode ((ms.map memberText).flatMap (',' :: ·)) ++ 125 :: rest) =
      .ok (.object (ms.foldl (fun acc (k, v) => insert k v acc) members), rest) := by
  induction ms generalizing members fuel with
  | nil =>
    obtain ⟨fuel, rfl⟩ := Nat.exists_eq_succ_of_ne_zero (Nat.ne_of_gt enough)
    rw [readMembers]
    rfl
  | cons m ms ih =>
    have size := length_memberText m
    rw [List.map_cons, List.flatMap_cons, List.cons_append, encode_comma, Utf8.encode_append] at enough ⊢
    rw [List.length_cons, List.length_append] at enough
    obtain ⟨fuel, rfl⟩ : ∃ n, fuel = n + 2 := ⟨fuel - 2, by omega⟩
    have next (more : Bytes) : readMembers (fuel + 2) depth false members (44 :: (Utf8.encode (memberText m) ++ more)) =
        readMember (fuel + 1) depth members (Utf8.encode (memberText m) ++ more) := by
      rw [encode_memberText, readMembers]
      rfl
    rw [List.cons_append, List.append_assoc, next, readMember_legible m (each m List.mem_cons_self) (by omega),
      ih (fun w hw => each w (List.mem_cons_of_mem _ hw)) (by omega), List.foldl_cons]

theorem readMembers_first (each : ∀ m ∈ ms, Legible depth m.2)
    (enough : 2 * (Utf8.encode (commaSeparated (ms.map memberText))).length + 2 < fuel) (rest : Bytes) :
    readMembers fuel depth true [] (Utf8.encode (commaSeparated (ms.map memberText)) ++ 125 :: rest) =
      .ok (ofMembers ms, rest) := by
  cases ms with
  | nil =>
    obtain ⟨fuel, rfl⟩ := Nat.exists_eq_succ_of_ne_zero (Nat.ne_of_gt (Nat.zero_lt_of_lt enough))
    rw [readMembers]
    rfl
  | cons m ms =>
    have size := length_memberText m
    rw [List.map_cons, commaSeparated_cons, Utf8.encode_append] at enough ⊢
    rw [List.length_append] at enough
    obtain ⟨fuel, rfl⟩ : ∃ n, fuel = n + 2 := ⟨fuel - 2, by omega⟩
    have next (more : Bytes) : readMembers (fuel + 2) depth true [] (Utf8.encode (memberText m) ++ more) =
        readMember (fuel + 1) depth [] (Utf8.encode (memberText m) ++ more) := by
      rw [encode_memberText, readMembers]
      rfl
    rw [List.append_assoc, next, readMember_legible m (each m List.mem_cons_self) (by omega),
      readMembers_legible (fun w hw => each w (List.mem_cons_of_mem _ hw)) (by omega)]
    rfl

/-- The text of an object is read as an object with its members; of equal names the last one counts. -/
theorem parse_object (each : ∀ m ∈ ms, Legible 126 m.2) :
    parse (Utf8.encode (chars (.object ms))) = .ok (ofMembers ms) := by
  have opens (n : Nat) (text : Bytes) :
      readValue (n + 1) depthLimit (123 :: text) = readMembers n 126 true [] text := by
    rw [readValue]
    rfl
  have read : readValue (3 * (Utf8.encode (chars (.object ms))).length + 3) depthLimit
      (Utf8.encode (chars (.object ms))) = .ok (ofMembers ms, []) := by
    rw [chars_object, opens]
    refine readMembers_first each ?_ []
    rw [List.length_cons, List.length_append, List.length_singleton]
    omega
  unfold parse
  rw [read]
  rfl

theorem shown_object (each : ∀ m ∈ ms, Shown m.2) : Shown (.object ms) := by
  intro d hd
  rw [chars, memberChars_eq] at hd
  rcases List.mem_append.mp hd with hd | hd
  · rcases List.mem_cons.mp hd with rfl | hd
    · decide
    · refine commaSeparated_shown (fun x hx d hd => ?_) hd
      obtain ⟨m, hm, rfl⟩ := List.mem_map.mp hx
      rcases List.mem_append.mp hd with hd | hd
      · exact quote_shown hd
      · rcases List.mem_cons.mp hd with rfl | hd
        · decide
        · exact each m hm d hd
  · rw [List.mem_singleton.mp hd]
    decide

/-- A text that holds no control has no byte of one. -/
theorem not_mem_of_shown {b : UInt8} (control : b.toNat < 32) (shown : Shown v) : b ∉ Utf8.encode (chars v) := by
  intro there
  have low := shown _ (Utf8.mem_of_mem_encode (by omega) there)
  have all : ∀ n : Fin 32, (Char.ofNat n.val).toNat = n.val := by decide
  have value : (Char.ofNat b.toNat).toNat = b.toNat := all ⟨b.toNat, control⟩
  omega

/-- An object of strings. -/
def ofPairs (ps : List (String × String)) : List (String × Json) := ps.map fun p => (p.1, .string p.2)

theorem parse_ofPairs (ps : List (String × String)) :
    parse (Utf8.encode (chars (.object (ofPairs ps)))) = .ok (ofMembers (ofPairs ps)) := by
  refine parse_object fun m hm => ?_
  obtain ⟨p, -, rfl⟩ := List.mem_map.mp hm
  exact legible_string p.2

theorem not_mem_ofPairs {b : UInt8} (control : b.toNat < 32) (ps : List (String × String)) :
    b ∉ Utf8.encode (chars (.object (ofPairs ps))) := by
  refine not_mem_of_shown control (shown_object fun m hm => ?_)
  obtain ⟨p, -, rfl⟩ := List.mem_map.mp hm
  exact shown_string p.2

end FrameServer.Json
