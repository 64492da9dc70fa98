import Mathlib
import FrameServer.Builtin
import FrameServer.Proofs.Json.Legible
import FrameServer.Proofs.Lists

namespace FrameServer

theorem Json.text?_eq_some {j : Json} {s : String} : j.text? = some s ↔ j = .string s := by
  cases j <;> simp [text?]

namespace Shape

variable {fields : List Field} {members : List (String × Json)} {found : List (String × Atom)}

theorem decode_text (j : Json) : Scalar.text.decode j =
    match j.text? with
    | some s => .ok (.text s)
    | none => .error (.wrongType j "a string") := by
  cases j <;> rfl

/-- The names of parts that a record knows. -/
def Knows (fields : List Field) (k : String) : Prop := ∃ f ∈ fields, f.name = k

theorem find_of_knows {k : String} (known : Knows fields k) :
    ∃ f ∈ fields, fields.find? (·.name = k) = some f ∧ f.name = k := by
  cases h : fields.find? (·.name = k) with
  | none =>
    obtain ⟨f, hf, same⟩ := known
    have other := List.find?_eq_none.mp h f hf
    simp [same] at other
  | some f => exact ⟨f, List.mem_of_find?_eq_some h, rfl, by simpa using List.find?_some h⟩

/-- Members that a record knows as texts are read if all of them are texts, and only then. -/
theorem decodeMembers_texts (plain : ∀ f ∈ fields, f.scalar = .text)
    (texts : ∀ k v, (k, v) ∈ members → Knows fields k → ∃ s, v = .string s) :
    ∃ found, decodeMembers fields members = .ok found ∧
      ∀ k, Knows fields k → found.lookup k = (members.lookup k).bind fun v => v.text?.map Atom.text := by
  induction members with
  | nil => exact ⟨[], rfl, fun _ _ => rfl⟩
  | cons member members ih =>
    obtain ⟨k, v⟩ := member
    obtain ⟨found, read, lookup⟩ := ih fun k' v' there => texts k' v' (List.mem_cons_of_mem _ there)
    by_cases known : Knows fields k
    · obtain ⟨f, hf, first, -⟩ := find_of_knows known
      obtain ⟨s, rfl⟩ := texts k v List.mem_cons_self known
      refine ⟨(k, .text s) :: found, ?_, fun k' known' => ?_⟩
      · simp only [decodeMembers, first, plain f hf, decode_text, Json.text?, read]
        rfl
      · rw [List.lookup_cons, List.lookup_cons]
        cases k' == k with
        | true => rfl
        | false => exact lookup k' known'
    · have unknown : fields.find? (·.name = k) = none := by
        refine List.find?_eq_none.mpr fun f hf same => known ⟨f, hf, ?_⟩
        simpa using same
      refine ⟨found, by simp only [decodeMembers, unknown, read], fun k' known' => ?_⟩
      have apart : (k' == k) = false := by
        rw [beq_eq_false_iff_ne]
        rintro rfl
        exact known known'
      rw [List.lookup_cons, apart]
      exact lookup k' known'

theorem texts_of_decodeMembers (plain : ∀ f ∈ fields, f.scalar = .text)
    (read : decodeMembers fields members = .ok found) :
    ∀ k v, (k, v) ∈ members → Knows fields k → ∃ s, v = .string s := by
  induction members generalizing found with
  | nil =>
    intro k v there
    cases there
  | cons member members ih =>
    obtain ⟨k, v⟩ := member
    rw [decodeMembers] at read
    have rest : (∃ found, decodeMembers fields members = .ok found) ∧ (Knows fields k → ∃ s, v = .string s) := by
      split at read
      next unknown =>
        refine ⟨⟨found, read⟩, fun known => ?_⟩
        obtain ⟨f, -, first, -⟩ := find_of_knows known
        rw [unknown] at first
        cases first
      next f first =>
        rw [plain f (List.mem_of_find?_eq_some first), decode_text] at read
        cases text : v.text? with
        | none => simp [text, bind, Except.bind] at read
        | some s =>
          cases more : decodeMembers fields members with
          | error e => simp [text, more, bind, Except.bind] at read
          | ok found => exact ⟨⟨found, rfl⟩, fun _ => ⟨s, Json.text?_eq_some.mp text⟩⟩
    intro k' v' there known
    rcases List.mem_cons.mp there with same | there
    · obtain ⟨rfl, rfl⟩ := Prod.mk.inj same
      exact rest.2 known
    · obtain ⟨found, read⟩ := rest.1
      exact ih read k' v' there known

end Shape

namespace Chat

/-- Members of which all that are parts of a message are texts. -/
def Plain (members : List (String × Json)) : Prop :=
  ∀ k v, (k, v) ∈ members → k ∈ ["type", "sender", "content"] → ∃ s, v = .string s

/-- A value that is a message: an object whose parts are texts, all of which but the content may be missing, or a list
of the three texts. -/
inductive Reads : Json → Message → Prop
  | object (members : List (String × Json)) (m : Message) (plain : Plain members)
      (kind : (members.lookup "type").getD (.string "message") = .string m.kind)
      (sender : (members.lookup "sender").getD (.string "") = .string m.sender)
      (content : members.lookup "content" = some (.string m.content)) : Reads (.object members) m
  | list (m : Message) : Reads (.array [.string m.kind, .string m.sender, .string m.content]) m

def fields : List Shape.Field :=
  [{ name := "type", scalar := .text, default? := some "message" },
   { name := "sender", scalar := .text, default? := some "" },
   { name := "content", scalar := .text }]

theorem knows_fields {k : String} : Shape.Knows fields k ↔ k ∈ ["type", "sender", "content"] := by
  simp [Shape.Knows, fields, eq_comm]

variable {v : Json} {m : Message} {t : Typed}

theorem fields_plain : ∀ f ∈ fields, f.scalar = .text := by decide

theorem complete_fields (found : List (String × Atom)) : Shape.complete found fields =
    match found.lookup "content" with
    | none => .error (.missing "content")
    | some content => .ok [("type", (found.lookup "type").getD (.text "message")),
        ("sender", (found.lookup "sender").getD (.text "")), ("content", content)] := by
  have step (d : String) (f : Shape.Field) (rest : List Shape.Field) (default : f.default? = some d) :
      Shape.complete found (f :: rest) =
        (Shape.complete found rest).map fun more => (f.name, (found.lookup f.name).getD (.text d)) :: more := by
    rw [Shape.complete, default]
    cases found.lookup f.name <;> cases Shape.complete found rest <;> rfl
  rw [fields, step "message" _ _ rfl, step "" _ _ rfl, Shape.complete]
  cases found.lookup "content" <;> rfl

theorem decode_members (members : List (String × Json)) : shape.decode (.object members) =
    ((Shape.decodeMembers fields members).bind fun found =>
      (Shape.complete found fields).map Datum.record).map (⟨shape, ·⟩) := rfl

/-- An object is converted part by part. -/
theorem decode_object {members : List (String × Json)} {found : List (String × Atom)}
    (read : Shape.decodeMembers fields members = .ok found) : shape.decode (.object members) =
      match found.lookup "content" with
      | none => .error (.missing "content")
      | some content => .ok ⟨shape, .record [("type", (found.lookup "type").getD (.text "message")),
          ("sender", (found.lookup "sender").getD (.text "")), ("content", content)]⟩ := by
  rw [decode_members, read]
  show ((Shape.complete found fields).map Datum.record).map _ = _
  rw [complete_fields]
  cases found.lookup "content" <;> rfl

/-- A message as the conversion gives it. -/
def Message.typed (m : Message) : Typed :=
  ⟨shape, .record [("type", .text m.kind), ("sender", .text m.sender), ("content", .text m.content)]⟩

section Object

variable {members : List (String × Json)} {found : List (String × Atom)}

theorem Plain.collects (plain : Plain members) :
    ∃ found, Shape.decodeMembers fields members = .ok found ∧
      ∀ k ∈ ["type", "sender", "content"], found.lookup k = (members.lookup k).bind fun v => v.text?.map Atom.text := by
  obtain ⟨found, read, lookup⟩ := Shape.decodeMembers_texts fields_plain fun k v there known =>
    plain k v there (knows_fields.mp known)
  exact ⟨found, read, fun k known => lookup k (knows_fields.mpr known)⟩

theorem plain_of_members (read : Shape.decodeMembers fields members = .ok found) : Plain members :=
  fun k v there known => Shape.texts_of_decodeMembers fields_plain read k v there (knows_fields.mpr known)

/-- A part with a default is what is found of it, or the default. -/
theorem Plain.part_of (plain : Plain members) {k : String} (known : k ∈ ["type", "sender", "content"])
    (lookup : found.lookup k = (members.lookup k).bind fun v => v.text?.map Atom.text) {d s : String}
    (part : (members.lookup k).getD (.string d) = .string s) : (found.lookup k).getD (.text d) = .text s := by
  rw [lookup]
  cases there : members.lookup k with
  | none =>
    rw [there] at part
    exact congrArg Atom.text (Json.string.inj part)
  | some v =>
    obtain ⟨t, rfl⟩ := plain k v (mem_of_lookup there) known
    rw [there] at part
    exact congrArg Atom.text (Json.string.inj part)

theorem Plain.part (plain : Plain members) {k : String} (known : k ∈ ["type", "sender", "content"]) (d : String) :
    ∃ s, (members.lookup k).getD (.string d) = .string s := by
  cases there : members.lookup k with
  | none => exact ⟨d, rfl⟩
  | some v => exact plain k v (mem_of_lookup there) known

theorem decode_of_object (plain : Plain members)
    (kind : (members.lookup "type").getD (.string "message") = .string m.kind)
    (sender : (members.lookup "sender").getD (.string "") = .string m.sender)
    (content : members.lookup "content" = some (.string m.content)) : shape.decode (.object members) = .ok m.typed := by
  obtain ⟨found, read, lookup⟩ := plain.collects
  have last : found.lookup "content" = some (.text m.content) := by
    rw [lookup _ (by decide), content]
    rfl
  rw [decode_object read, last, plain.part_of (by decide) (lookup _ (by decide)) kind,
    plain.part_of (by decide) (lookup _ (by decide)) sender]
  rfl

theorem reads_of_object (decodes : shape.decode (.object members) = .ok t) :
    ∃ m, Reads (.object members) m ∧ t = m.typed := by
  cases read : Shape.decodeMembers fields members with
  | error e =>
    rw [decode_members, read] at decodes
    cases decodes
  | ok found =>
    have plain := plain_of_members read
    obtain ⟨kind, hk⟩ := plain.part (k := "type") (by decide) "message"
    obtain ⟨sender, hs⟩ := plain.part (k := "sender") (by decide) ""
    cases content : members.lookup "content" with
    | none =>
      obtain ⟨found', read', lookup⟩ := plain.collects
      obtain rfl := Except.ok.inj (read.symm.trans read')
      rw [decode_object read, lookup _ (by decide), content] at decodes
      cases decodes
    | some v =>
      obtain ⟨s, rfl⟩ := plain _ v (mem_of_lookup content) (by decide)
      have same := decode_of_object (m := ⟨kind, sender, s⟩) plain hk hs content
      exact ⟨⟨kind, sender, s⟩, .object members _ plain hk hs content, Except.ok.inj (decodes.symm.trans same)⟩

end Object

theorem decodeItems_text {record : String} {count n : Nat} {f : Shape.Field} {fs : List Shape.Field} {j : Json}
    {js : List Json} {parts : List (String × Atom)} (plain : f.scalar = .text)
    (read : Shape.decodeItems record count n (f :: fs) (j :: js) = .ok parts) :
    ∃ s more, j = .string s ∧ Shape.decodeItems record count (n + 1) fs js = .ok more ∧
      parts = (f.name, .text s) :: more := by
  rw [Shape.decodeItems, plain, Shape.decode_text] at read
  cases text : j.text? with
  | none => simp [text, bind, Except.bind] at read
  | some s =>
    cases rest : Shape.decodeItems record count (n + 1) fs js with
    | error e => simp [text, rest, bind, Except.bind] at read
    | ok more =>
      rw [text, rest] at read
      exact ⟨s, more, Json.text?_eq_some.mp text, rfl, (Except.ok.inj read).symm⟩

theorem decode_list_iff {items : List Json} :
    shape.decode (.array items) = .ok t ↔ ∃ m, Reads (.array items) m ∧ t = m.typed := by
  constructor
  · intro decodes
    have decoded : shape.decode (.array items) =
        ((Shape.decodeItems "BroadcastMessage" 3 0 fields items).map Datum.record).map (⟨shape, ·⟩) := rfl
    rw [decoded] at decodes
    cases read : Shape.decodeItems "BroadcastMessage" 3 0 fields items with
    | error e =>
      rw [read] at decodes
      cases decodes
    | ok parts =>
      rw [read] at decodes
      obtain rfl := Except.ok.inj decodes
      rcases items with _ | ⟨a, _ | ⟨b, _ | ⟨c, rest⟩⟩⟩
      · cases read
      · obtain ⟨_, _, -, second, -⟩ := decodeItems_text rfl read
        cases second
      · obtain ⟨_, _, -, second, -⟩ := decodeItems_text rfl read
        obtain ⟨_, _, -, third, -⟩ := decodeItems_text rfl second
        cases third
      · obtain ⟨kind, _, rfl, second, rfl⟩ := decodeItems_text rfl read
        obtain ⟨sender, _, rfl, third, rfl⟩ := decodeItems_text rfl second
        obtain ⟨content, _, rfl, last, rfl⟩ := decodeItems_text rfl third
        cases rest with
        | nil =>
          obtain rfl := Except.ok.inj last
          exact ⟨⟨kind, sender, content⟩, .list ⟨kind, sender, content⟩, rfl⟩
        | cons d rest => cases last
  · rintro ⟨m, ⟨⟩, rfl⟩
    rfl

/-- The conversion takes the values that are messages, and no others. -/
theorem decode_iff : shape.decode v = .ok t ↔ ∃ m, Reads v m ∧ t = m.typed := by
  cases v with
  | object members =>
    refine ⟨reads_of_object, ?_⟩
    rintro ⟨m, ⟨_, _, plain, kind, sender, content⟩, rfl⟩
    exact decode_of_object plain kind sender content
  | array items => exact decode_list_iff
  | _ =>
    constructor
    · intro decodes
      cases decodes
    · rintro ⟨m, ⟨⟩, -⟩

theorem decode_unread (none : ∀ m, ¬ Reads v m) : ∃ mismatch, shape.decode v = .error mismatch := by
  cases decoded : shape.decode v with
  | error mismatch => exact ⟨mismatch, rfl⟩
  | ok t =>
    obtain ⟨m, reads, -⟩ := decode_iff.mp decoded
    exact absurd reads (none m)

/-- What is wrong with a message: a content of nothing but white space, and a sender of more than 64 bytes. -/
def faults (m : Message) : List String :=
  (if ∀ c ∈ m.content.toList, Text.isBlank c = true then ["content must not be blank"] else []) ++
    if 64 < m.sender.utf8ByteSize then ["sender must be at most 64 characters"] else []

/-- A message with nothing wrong with it. -/
structure Sound (m : Message) : Prop where
  content : ∃ c ∈ m.content.toList, Text.isBlank c = false
  sender : m.sender.utf8ByteSize ≤ 64

theorem faults_eq_nil : faults m = [] ↔ Sound m := by
  have sound : Sound m ↔ (∃ c ∈ m.content.toList, Text.isBlank c = false) ∧ m.sender.utf8ByteSize ≤ 64 :=
    ⟨fun s => ⟨s.content, s.sender⟩, fun s => ⟨s.1, s.2⟩⟩
  rw [sound, faults, List.append_eq_nil_iff]
  refine and_congr ?_ ?_
  · by_cases blank : ∀ c ∈ m.content.toList, Text.isBlank c = true
    · rw [if_pos blank]
      simpa using blank
    · rw [if_neg blank]
      simpa using blank
  · by_cases long : 64 < m.sender.utf8ByteSize
    · simp [long, Nat.not_le.mpr long]
    · simp [long, Nat.not_lt.mp long]

theorem trim_eq_nil (cs : List Char) : Text.trim cs = [] ↔ ∀ c ∈ cs, Text.isBlank c = true := by
  have start : Text.trimStart cs = [] ↔ ∀ c ∈ cs, Text.isBlank c = true := List.dropWhile_eq_nil_iff
  rw [← start, Text.trim, Text.trimEnd, List.reverse_eq_nil_iff, List.dropWhile_eq_nil_iff]
  constructor
  · intro blank
    by_contra some
    have first : Text.isBlank ((Text.trimStart cs).head some) = false := List.head_dropWhile_not Text.isBlank some
    rw [blank _ (List.mem_reverse.mpr (List.head_mem some))] at first
    cases first
  · intro none c hc
    rw [none] at hc
    cases hc

/-- The check of the parameter finds the faults. -/
theorem check_violations (m : Message) : check.violations m.typed.datum = faults m := by
  have violation (c : Constraint) (s : String) (p : Prop) [Decidable p] (text : m.typed.datum.text? c.part = some s)
      (broken : p ↔ c.holds s ≠ true) : (c.violation? m.typed.datum).toList = if p then [c.message] else [] := by
    rw [Constraint.violation?, text]
    by_cases h : p
    · rw [if_pos h]
      simp [broken.mp h]
    · rw [if_neg h]
      simp [not_not.mp (mt broken.mpr h)]
  have blank : (∀ c ∈ m.content.toList, Text.isBlank c = true) ↔ Constraint.notBlank m.content ≠ true := by
    rw [Constraint.notBlank, ne_eq, Bool.not_eq_true', Bool.not_eq_false, List.isEmpty_iff, trim_eq_nil]
  have long : 64 < m.sender.utf8ByteSize ↔ Constraint.maxBytes 64 m.sender ≠ true := by
    simp [Constraint.maxBytes]
  have both (g : Constraint → Option String) (a b : Constraint) :
      [a, b].filterMap g = (g a).toList ++ (g b).toList := by
    rw [List.filterMap_cons, List.filterMap_cons, List.filterMap_nil]
    cases g a <;> cases g b <;> rfl
  show List.filterMap (fun c : Constraint => c.violation? m.typed.datum)
    [⟨some "content", Constraint.notBlank, "content must not be blank"⟩,
    ⟨some "sender", Constraint.maxBytes 64, "sender must be at most 64 characters"⟩] = faults m
  rw [both, violation _ m.content _ rfl blank, violation _ m.sender _ rfl long, faults]

/-- Bytes that are a text on one line, and give the message. -/
structure Carries (bytes : Bytes) (m : Message) : Prop where
  text : ∃ s, text? bytes = some s
  back : ∃ v, Json.parse bytes = .ok v ∧ Reads v m ∧ shape.decode v = .ok m.typed
  unsplit : Framing.lf ∉ bytes
  kept : bytes.getLast? ≠ some Framing.cr

theorem carries_chatBytes (m : Message) : Carries (Builtin.chatBytes m) m := by
  let pairs : List (String × String) := [("type", m.kind), ("sender", m.sender), ("content", m.content)]
  have sorted : Json.ofMembers (Json.ofPairs pairs) =
      .object [("content", .string m.content), ("sender", .string m.sender), ("type", .string m.kind)] := by
    have two : Json.insert "sender" (.string m.sender) [("type", .string m.kind)] =
        [("sender", .string m.sender), ("type", .string m.kind)] := if_pos (by decide +kernel)
    have three : Json.insert "content" (.string m.content) [("sender", .string m.sender), ("type", .string m.kind)] =
        [("content", .string m.content), ("sender", .string m.sender), ("type", .string m.kind)] :=
      if_pos (by decide +kernel)
    simp only [pairs, Json.ofPairs, Json.ofMembers, List.map_cons, List.map_nil, List.foldl_cons, List.foldl_nil]
    rw [Json.insert, two, three]
  have parsed := Json.parse_ofPairs pairs
  rw [sorted] at parsed
  have line : ∀ b : UInt8, b.toNat < 32 → b ∉ Builtin.chatBytes m := fun b control =>
    Json.not_mem_ofPairs control pairs
  have reads : Reads (.object [("content", .string m.content), ("sender", .string m.sender), ("type", .string m.kind)])
      m := by
    refine .object _ m (fun k v there _ => ?_) rfl rfl rfl
    simp only [List.mem_cons, Prod.mk.injEq, List.not_mem_nil, or_false] at there
    rcases there with ⟨-, rfl⟩ | ⟨-, rfl⟩ | ⟨-, rfl⟩
    all_goals exact ⟨_, rfl⟩
  refine ⟨⟨_, congrArg (Option.map String.ofList) (Utf8.decode?_encode _)⟩,
    ⟨_, parsed, reads, decode_iff.mpr ⟨m, reads, rfl⟩⟩, line _ (by decide), fun last => ?_⟩
  exact line _ (by decide) (List.mem_of_getLast? last)

end Chat
end FrameServer
