import FrameServer.Proofs.Ron.Field

namespace FrameServer.Ron

/-- What is read as the name of a field wherever one may end. -/
structure Names (cs : List Char) (name : String) : Prop where
  starts : cs.head?.any isNameStart
  reads : ∀ c rest, c = ':' ∨ ¬isSolid c → fieldName (cs ++ c :: rest) = some (name, c :: rest)

section Layout

variable (value : List Char → Value → Prop)

/-- The name of a field, a colon and its value. -/
inductive Entry : List Char → String × Value → Prop
  | intro {key gap gap' cs : List Char} {name : String} {v : Value} (names : Names key name) (blank : Blank gap)
      (blank' : Blank gap') (stands : value cs v) : Entry (key ++ (gap ++ ':' :: (gap' ++ cs))) (name, v)

/-- Fields with commas between them, up to the end of the parentheses. -/
inductive Listed : List Char → List (String × Value) → Prop
  | close {gap : List Char} (blank : Blank gap) : Listed (gap ++ [')']) []
  | last {gap cs gap' : List Char} {f : String × Value} (blank : Blank gap) (entry : Entry value cs f)
      (blank' : Blank gap') : Listed (gap ++ (cs ++ (gap' ++ [')']))) [f]
  | more {gap cs gap' further : List Char} {f : String × Value} {fs : List (String × Value)} (blank : Blank gap)
      (entry : Entry value cs f) (blank' : Blank gap') (listed : Listed further fs) :
      Listed (gap ++ (cs ++ (gap' ++ ',' :: further))) (f :: fs)

/-- What fields in parentheses are as a value. -/
def Value.ofFields (name : Option String) : List (String × Value) → Value
  | [] => .tuple name []
  | f :: fs => .record name (f :: fs)

/-- Fields in parentheses, perhaps behind a name. -/
inductive Grouped : List Char → Value → Prop
  | unit : Grouped ['(', ')'] .unit
  | unnamed {cs : List Char} {fs : List (String × Value)} (listed : Listed value cs fs) (inside : cs ≠ [')']) :
      Grouped ('(' :: cs) (.ofFields none fs)
  | named {name : String} {gap cs : List Char} {fs : List (String × Value)} (plain : isPlainName name.toList)
      (other : keyword? ⟨false, name⟩ = none) (noOption : name ≠ "Some") (blank : Blank gap)
      (listed : Listed value cs fs) : Grouped (name.toList ++ (gap ++ '(' :: cs)) (.ofFields (some name) fs)

end Layout

/-- A value in a file: fields in parentheses, which may hold others, or whatever else is read as it. -/
def Written (ext : Extensions) : (limit : Nat) → List Char → Value → Prop
  | limit + 2 => fun cs v => Grouped (Written ext limit) cs v ∨ Reads (readValue ext (limit + 2)) cs v
  | limit => Reads (readValue ext limit)

/-- A file that holds fields in parentheses. -/
inductive Laid : List Char → Value → Prop
  | intro {gap cs tail : List Char} {v : Value} (blank : Blank gap) (grouped : Grouped (Written {} 126) cs v)
      (trailing : Trailing tail) : Laid (gap ++ (cs ++ tail)) v

variable {cs ds key behind rest : List Char} {name : String} {f : String × Value} {fs : List (String × Value)}
  {fuel : Nat} {more : Bool} {item : Reader Value} {value : List Char → Value → Prop}

theorem not_isNameChar_of_hollow {c : Char} (hollow : ¬isSolid c) : ¬isNameChar c :=
  (end_kinds (by simp [isEnd, hollow])).1

theorem Names.plain (plain : isPlainName name.toList) : Names name.toList name where
  starts := by
    obtain ⟨a, t, same, start, -⟩ := head_plain plain
    simpa [same] using start
  reads c rest ends := by
    have noName : ¬isNameChar c := by
      rcases ends with rfl | hollow
      · decide
      · exact not_isNameChar_of_hollow hollow
    simp [fieldName, name?_plain plain noName]

theorem Names.head (names : Names key name) : ∃ a t, key = a :: t ∧ isNameStart a := by
  cases key with
  | nil => exact absurd names.starts (by simp)
  | cons a t => exact ⟨a, t, rfl, by simpa using names.starts⟩

theorem Entry.head (entry : Entry value cs f) : ∃ a t, cs = a :: t ∧ isNameStart a := by
  obtain ⟨names⟩ := entry
  obtain ⟨a, t, rfl, start⟩ := names.head
  exact ⟨a, _, rfl, start⟩

theorem Entry.skipGap (entry : Entry value cs f) : Ron.skipGap (cs ++ rest) = some (cs ++ rest) := by
  obtain ⟨a, t, rfl, start⟩ := entry.head
  exact skipGap_solid (solid_of_isNameStart start)

theorem Entry.startsWithField (entry : Entry value cs f) : Ron.startsWithField (cs ++ rest) := by
  obtain @⟨key, gap, gap', cs, name, v, names, blank, blank', -⟩ := entry
  obtain ⟨a, t, front, ends⟩ := blank.front ':' (gap' ++ (cs ++ rest))
  have keyed := names.reads a t ends
  rw [fieldName, Option.map_eq_some_iff] at keyed
  obtain ⟨⟨n, behind⟩, named, same⟩ := keyed
  obtain rfl : behind = a :: t := congrArg Prod.snd same
  have colon : Ron.skipGap (a :: t) = some (':' :: (gap' ++ (cs ++ rest))) := by
    rw [← front, skipGap_blank blank, skipGap_solid (by decide)]
  have whole : key ++ (gap ++ ':' :: (gap' ++ cs)) ++ rest = key ++ a :: t := by
    simp [← front]
  simp [Ron.startsWithField, whole, named, colon, startsWith_iff]

theorem Entry.spaced {v : Value} (plain : isPlainName name.toList) (stands : value cs v) :
    Entry value (name.toList ++ ([] ++ ':' :: ([' '] ++ cs))) (name, v) :=
  .intro (.plain plain) .nil (.space (by decide) .nil) stands

theorem comma_congr (same : skipGap cs = skipGap ds) : comma cs = comma ds := by
  simp only [comma, same]

/-- Behind a gap a listing begins with its first field, or with its end. -/
theorem Listed.begins (listed : Listed value cs fs) : ∃ gap, Blank gap ∧ (fs = [] ∧ cs = gap ++ [')'] ∨
    ∃ e behind f fs', fs = f :: fs' ∧ Entry value e f ∧ cs = gap ++ (e ++ behind)) := by
  cases listed with
  | close blank => exact ⟨_, blank, .inl ⟨rfl, rfl⟩⟩
  | last blank entry => exact ⟨_, blank, .inr ⟨_, _, _, _, rfl, entry, rfl⟩⟩
  | more blank entry => exact ⟨_, blank, .inr ⟨_, _, _, _, rfl, entry, rfl⟩⟩

theorem Listed.skips (listed : Listed value cs fs) : ∃ ds, skipGap (cs ++ rest) = some ds := by
  obtain ⟨gap, blank, ⟨-, rfl⟩ | ⟨e, behind, f, fs', -, entry, rfl⟩⟩ := listed.begins
  · exact ⟨_, by rw [List.append_assoc]; exact skipGap_mark blank (by decide)⟩
  · exact ⟨_, by rw [List.append_assoc, skipGap_blank blank, List.append_assoc, entry.skipGap]⟩

theorem Listed.head (listed : Listed value cs fs) (inside : cs ≠ [')']) : ∃ a t, cs = a :: t ∧ a ≠ ')' := by
  obtain ⟨gap, blank, ⟨-, rfl⟩ | ⟨e, behind, f, fs', -, entry, rfl⟩⟩ := listed.begins
  · cases blank with
    | nil => exact absurd rfl inside
    | space space =>
      refine ⟨_, _, rfl, ?_⟩
      rintro rfl
      exact absurd space (by decide)
    | line => exact ⟨_, _, rfl, by decide⟩
    | block => exact ⟨_, _, rfl, by decide⟩
  · obtain ⟨b, u, rfl, start⟩ := entry.head
    obtain ⟨a, t, front, ends⟩ := blank.front b (u ++ behind)
    refine ⟨a, t, front, ?_⟩
    rintro rfl
    rcases ends with rfl | hollow
    · exact absurd start (by decide)
    · exact hollow (by decide)

theorem Listed.length_le (listed : Listed value cs fs) : fs.length ≤ cs.length := by
  induction listed with
  | close => simp
  | last | more =>
    simp only [List.length_append, List.length_cons, List.length_nil]
    omega

section Sound

variable (sound : ∀ cs v, value cs v → Reads item cs v)
include sound

theorem Entry.reads (stands : Entry value cs f) (ends : Ends rest) :
    ∃ rest', entry fieldName item (cs ++ rest) = some (f, rest') ∧ Ron.skipGap rest' = Ron.skipGap rest := by
  obtain @⟨key, gap, gap', cs, name, v, names, blank, blank', value⟩ := stands
  obtain ⟨solid, reads⟩ := sound _ _ value
  obtain ⟨rest', read, same⟩ := reads rest ends
  refine ⟨rest', ?_, same⟩
  have keyed : fieldName (key ++ (gap ++ ':' :: (gap' ++ (cs ++ rest)))) =
      some (name, gap ++ ':' :: (gap' ++ (cs ++ rest))) := by
    obtain ⟨a, t, front, ends⟩ := blank.front ':' (gap' ++ (cs ++ rest))
    rw [front]
    exact names.reads a t ends
  have colon : Ron.skipGap (gap ++ ':' :: (gap' ++ (cs ++ rest))) = some (':' :: (gap' ++ (cs ++ rest))) := by
    rw [skipGap_blank blank, skipGap_solid (by decide)]
  have start : Ron.skipGap (gap' ++ (cs ++ rest)) = some (cs ++ rest) := by
    rw [skipGap_blank blank']
    cases cs with
    | nil => exact absurd solid (by simp)
    | cons a t => exact skipGap_solid (by simpa using solid)
  simp [entry, keyed, colon, expect, start, read]

/-- One field is read, and then the others. -/
theorem items_entry (stands : Entry value cs f) (ends : Ends behind) (gap : skipGap ds = some (cs ++ behind))
    {ds' : List Char} (goesOn : comma behind = some (more, ds'))
    (others : items ')' (entry fieldName item) fuel more ds' = some (fs, rest)) :
    items ')' (entry fieldName item) (fuel + 1) true ds = some (f :: fs, rest) := by
  obtain ⟨behind', read, same⟩ := stands.reads sound ends
  have closed : expect ')' (cs ++ behind) = none := by
    obtain ⟨a, t, rfl, start⟩ := stands.head
    have bracket : a ≠ ')' := by
      rintro rfl
      exact absurd start (by decide)
    rw [List.cons_append, expect, if_neg bracket]
  simp [items, gap, closed, read, comma_congr same, goesOn, others]

theorem Listed.items (listed : Listed value cs fs) (enough : fs.length < fuel)
    (same : skipGap ds = skipGap (cs ++ rest)) : items ')' (entry fieldName item) fuel true ds = some (fs, rest) := by
  induction listed generalizing fuel ds with
  | close blank =>
    obtain ⟨fuel, rfl⟩ : ∃ k, fuel = k + 1 := ⟨fuel - 1, by simp at enough; omega⟩
    have gap : skipGap ds = some (')' :: rest) := by
      rw [same, List.append_assoc]
      exact skipGap_mark blank (by decide)
    simp [Ron.items, gap, expect]
  | @last gap cs gap' f blank entry blank' =>
    obtain ⟨fuel, rfl⟩ : ∃ k, fuel = k + 2 := ⟨fuel - 2, by simp at enough; omega⟩
    have front : skipGap ds = some (cs ++ (gap' ++ ')' :: rest)) := by
      simp only [same, List.append_assoc, skipGap_blank blank, entry.skipGap]
      rfl
    have goesOn : comma (gap' ++ ')' :: rest) = some (false, ')' :: rest) := by
      simp [comma, skipGap_mark blank' (show ')' ∈ [',', ')'] by decide), expect]
    refine items_entry sound entry (.intro blank' (by decide)) front goesOn ?_
    simp [Ron.items, skipGap_solid (show isSolid ')' by decide), expect]
  | @more gap cs gap' further f fs blank entry blank' listed ih =>
    obtain ⟨fuel, rfl⟩ : ∃ k, fuel = k + 1 := ⟨fuel - 1, by simp at enough; omega⟩
    have front : skipGap ds = some (cs ++ (gap' ++ ',' :: (further ++ rest))) := by
      simp only [same, List.append_assoc, skipGap_blank blank, entry.skipGap]
      rfl
    obtain ⟨ds', skipped⟩ : ∃ ds', skipGap (further ++ rest) = some ds' := listed.skips
    have goesOn : comma (gap' ++ ',' :: (further ++ rest)) = some (true, ds') := by
      simp [comma, skipGap_mark blank' (show ',' ∈ [',', ')'] by decide), expect, skipped]
    exact items_entry sound entry (.intro blank' (by decide)) front goesOn
      (ih (by simpa using enough) (by rw [skipGap_idem skipped, skipped]))

/-- A listing is read as fields if there are any, and else as a tuple without items. -/
theorem Listed.group (listed : Listed value cs fs) (name : Option String) :
    group name item (cs ++ rest) = some (.ofFields name fs, rest) := by
  have enough : fs.length < (cs ++ rest).length + 1 := by
    have := listed.length_le
    simp only [List.length_append]
    omega
  have read : itemsUpTo ')' (entry fieldName item) (cs ++ rest) = some (fs, rest) := listed.items sound enough rfl
  obtain ⟨gap, blank, ⟨rfl, rfl⟩ | ⟨e, behind, f, fs', rfl, first, rfl⟩⟩ := listed.begins
  · have front : Ron.skipGap (gap ++ ')' :: rest) = some (')' :: rest) := skipGap_mark blank (by decide)
    have noField : startsWithField (')' :: rest) = false := by
      simp [startsWithField, name?_none (show ¬isNameStart ')' by decide)]
    simp [Ron.group, front, noField, itemsUpTo, Ron.items, expect, Value.ofFields]
  · have front : Ron.skipGap (gap ++ (e ++ behind) ++ rest) = some (e ++ (behind ++ rest)) := by
      rw [List.append_assoc, skipGap_blank blank, List.append_assoc, first.skipGap]
    rw [Ron.group, front, Option.bind_eq_bind, Option.bind_some, if_pos first.startsWithField, read]
    rfl

variable {ext : Extensions} {inner nested : Option (Reader Value)} {v : Value} (deeper : inner.isSome)
include deeper

theorem Grouped.form (grouped : Grouped value cs v) :
    form ext inner (some item) nested (cs ++ rest) = some (v, rest) := by
  cases grouped with
  | unit => rfl
  | @unnamed cs fs listed inside =>
    have read : Ron.group none item (cs ++ rest) = some (.ofFields none fs, rest) := listed.group sound none
    obtain ⟨a, t, rfl, bracket⟩ := listed.head inside
    rw [List.cons_append] at read
    simp [Ron.form, name?_none (show ¬isNameStart '(' by decide), deeper, read, bracket]
  | @named name gap cs fs plain other noOption blank listed =>
    have read : Ron.group (some name) item (cs ++ rest) = some (.ofFields (some name) fs, rest) :=
      listed.group sound (some name)
    have named : name? (name.toList ++ (gap ++ '(' :: (cs ++ rest))) =
        some (⟨false, name⟩, gap ++ '(' :: (cs ++ rest)) := by
      obtain ⟨a, t, front, ends⟩ := blank.front '(' (cs ++ rest)
      have noName : ¬isNameChar a := by
        rcases ends with rfl | hollow
        · decide
        · exact not_isNameChar_of_hollow hollow
      rw [front, name?_plain plain noName, String.ofList_toList]
    have paren : Ron.skipGap (gap ++ '(' :: (cs ++ rest)) = some ('(' :: (cs ++ rest)) := by
      rw [skipGap_blank blank, skipGap_solid (by decide)]
    obtain ⟨a, t, same, start, -⟩ := head_plain plain
    have bracket : a ≠ '(' := by
      rintro rfl
      exact absurd start (by decide)
    rw [same, List.cons_append] at named
    simp [Ron.form, same, named, other, noOption, paren, expect, deeper, read, bracket]

theorem Grouped.reads (grouped : Grouped value cs v) : Reads (Ron.form ext inner (some item) nested) cs v where
  solid := by
    cases grouped with
    | unit => decide
    | unnamed => exact (by decide : isSolid '(')
    | @named name gap cs fs plain =>
      obtain ⟨a, t, same, -, solid⟩ := head_plain plain
      simpa [same] using solid
  reads rest _ := ⟨rest, grouped.form sound deeper, rfl⟩

end Sound

/-- Inside of a container the reader has two levels less. -/
theorem readValue_inner (ext : Extensions) (limit : Nat) :
    ∃ nested, readValue ext (limit + 2) =
      form ext (some (readValue ext (limit + 1))) (some (readValue ext limit)) nested := by
  cases limit with
  | zero => exact ⟨none, rfl⟩
  | succ limit => exact ⟨some (readValue ext limit), rfl⟩

theorem Written.reads {ext : Extensions} {limit : Nat} {cs : List Char} {v : Value} (written : Written ext limit cs v) :
    Reads (readValue ext limit) cs v := by
  induction limit using Nat.strongRecOn generalizing cs v with
  | _ limit ih =>
    match limit, written with
    | 0, reads => exact reads
    | 1, reads => exact reads
    | limit + 2, .inr reads => exact reads
    | limit + 2, .inl grouped =>
      obtain ⟨nested, same⟩ := readValue_inner ext limit
      rw [same]
      exact grouped.reads (fun cs v inside => ih limit (by omega) inside) rfl

/-- What is read as a value at any depth. -/
theorem Written.leaf {cs : List Char} {v : Value} (ext : Extensions) (limit : Nat)
    (reads : ∀ {ext inner item nested}, Reads (form ext inner item nested) cs v) : Written ext limit cs v :=
  match limit with
  | 0 => reads
  | 1 => reads
  | limit + 2 => by
    obtain ⟨nested, same⟩ := readValue_inner ext limit
    exact .inr (same ▸ reads)

namespace Written

variable {ext : Extensions} {limit : Nat} {w : String}

theorem number (n : Nat) (fits : n < 2 ^ 64) : Written ext limit (Nat.toDigits 10 n) (.number (.whole false n none)) :=
  .leaf ext limit (.number n fits)

theorem text (s : String) : Written ext limit (writeText s) (.text s) := .leaf ext limit (.text s)

theorem char (c : Char) : Written ext limit (writeChar c) (.char c) := .leaf ext limit (.char c)

theorem word (named : isPlainName w.toList) (other : keyword? ⟨false, w⟩ = none) (noOption : w ≠ "Some") :
    Written ext limit w.toList (.word w) := by
  have same : String.ofList w.toList = w := String.ofList_toList
  refine .leaf ext limit ?_
  intro ext inner item nested
  have reads : Reads (form ext inner item nested) w.toList (.word (String.ofList w.toList)) :=
    .word named (by rw [same]; exact other) (by rw [same]; exact noOption)
  rwa [same] at reads

theorem flag (b : Bool) : Written ext limit (if b then "true" else "false").toList (.flag b) := by
  cases b with
  | false => exact .leaf ext limit (.keyword (by decide) rfl)
  | true => exact .leaf ext limit (.keyword (by decide) rfl)

end Written

/-- A file that holds fields in parentheses is a document. -/
theorem Laid.document {cs : List Char} {v : Value} (laid : Laid cs v) : Document.ofChars? cs = some ⟨{}, v⟩ := by
  obtain @⟨gap, cs, tail, v, blank, grouped, trailing⟩ := laid
  obtain ⟨nested, same⟩ := readValue_inner {} 126
  have read : readValue {} depthLimit (cs ++ tail) = some (v, tail) := by
    rw [depthLimit, same]
    exact grouped.form (fun cs v => Written.reads) rfl
  obtain ⟨a, t, start, solid, unmarked⟩ : ∃ a t, cs ++ tail = a :: t ∧ isSolid a ∧ a ≠ '#' := by
    cases grouped with
    | unit => exact ⟨_, _, rfl, by decide, by decide⟩
    | unnamed => exact ⟨_, _, rfl, by decide, by decide⟩
    | @named name gap cs fs plain =>
      obtain ⟨a, t, same, start, solid⟩ := head_plain plain
      refine ⟨a, _, by rw [same]; rfl, solid, ?_⟩
      rintro rfl
      exact absurd start (by decide)
  rw [start] at read ⊢
  have front : skipGap (gap ++ a :: t) = some (a :: t) := by rw [skipGap_blank blank, skipGap_solid solid]
  have noted : notes ((a :: t).length + 1) (a :: t) = some ([], a :: t) := by
    simp [notes, startsWith, expectAll, expect, unmarked]
  have plain : Extensions.ofWords [] = {} := rfl
  rw [Document.ofChars?, front, Option.bind_eq_bind, Option.bind_some, noted]
  simp [plain, read, skipGap_trailing trailing]

end FrameServer.Ron
