import FrameServer.Proofs.Framing.RoundTrip
import FrameServer.Proofs.Json.Legible
import FrameServer.Structured

namespace FrameServer

/-- The texts of a list of texts. -/
def Json.texts? : Json → Option (List String)
  | .array items => items.mapM Json.text?
  | _ => none

namespace Structured.Reply

/-- The kind and the reply that a JSON object stands for. Without a list of errors there are none. -/
def read? (v : Json) : Option (String × Reply) := do
  let kind ← (v.get? "type").bind Json.text?
  let message ← (v.get? "message").bind Json.text?
  let errors ← match v.get? "errors" with
    | none => some []
    | some e => e.texts?
  return (kind, ⟨message, errors⟩)

variable {r : Reply}

theorem texts?_ofTexts (ss : List String) : (Json.ofTexts ss).texts? = some ss := by
  rw [Json.ofTexts, Json.texts?, List.mapM_map]
  exact (List.mapM_pure (m := Option) (f := id)).trans (congrArg some (List.map_id ss))

theorem legible_ofTexts (ss : List String) : Json.Legible 126 (Json.ofTexts ss) := by
  refine Json.legible_array fun v hv => ?_
  obtain ⟨s, -, rfl⟩ := List.mem_map.mp hv
  exact Json.legible_string s

theorem shown_ofTexts (ss : List String) : Json.Shown (Json.ofTexts ss) := by
  refine Json.shown_array fun v hv => ?_
  obtain ⟨s, -, rfl⟩ := List.mem_map.mp hv
  exact Json.shown_string s

/-- A member of a reply is a text or a list of texts. -/
theorem of_mem_members {P : Json → Prop} (text : ∀ s, P (.string s)) (texts : ∀ ss, P (Json.ofTexts ss)) (r : Reply) :
    ∀ m ∈ r.members, P m.2 := by
  intro m hm
  rcases List.mem_append.mp hm with hm | hm
  · rcases List.mem_cons.mp hm with rfl | hm
    · exact text _
    · obtain rfl := List.mem_singleton.mp hm
      exact text _
  · split at hm
    · cases hm
    · obtain rfl := List.mem_singleton.mp hm
      exact texts _

/-- The members as a parser keeps them. -/
def sorted (r : Reply) : List (String × Json) :=
  (if r.errors.isEmpty then [] else [("errors", Json.ofTexts r.errors)]) ++
    [("message", .string r.message), ("type", .string kind)]

theorem ofMembers_members (r : Reply) : Json.ofMembers r.members = .object r.sorted := by
  have one : Json.insert "type" (.string kind) [] = [("type", .string kind)] := rfl
  have two : Json.insert "message" (.string r.message) [("type", .string kind)] =
      [("message", .string r.message), ("type", .string kind)] := if_pos (by decide +kernel)
  have three : Json.insert "errors" (Json.ofTexts r.errors) [("message", .string r.message), ("type", .string kind)] =
      [("errors", Json.ofTexts r.errors), ("message", .string r.message), ("type", .string kind)] :=
    if_pos (by decide +kernel)
  unfold members sorted Json.ofMembers
  split
  · simp only [List.append_nil, List.foldl_cons, List.foldl_nil, one, two, List.nil_append]
  · simp only [List.cons_append, List.nil_append, List.foldl_cons, List.foldl_nil, one, two, three]

theorem parse_render (r : Reply) : Json.parse r.render = .ok (.object r.sorted) := by
  rw [render, Json.parse_object (of_mem_members Json.legible_string legible_ofTexts r), ofMembers_members]

theorem not_mem_render {b : UInt8} (control : b.toNat < 32) (r : Reply) : b ∉ r.render :=
  Json.not_mem_of_shown control (Json.shown_object (of_mem_members Json.shown_string shown_ofTexts r))

theorem read_sorted (r : Reply) : read? (.object r.sorted) = some (kind, r) := by
  obtain ⟨message, errors⟩ := r
  cases errors with
  | nil => rfl
  | cons e es =>
    let v : Json := .object (sorted ⟨message, e :: es⟩)
    have kinds : (v.get? "type").bind Json.text? = some kind := rfl
    have messages : (v.get? "message").bind Json.text? = some message := rfl
    have errors : v.get? "errors" = some (Json.ofTexts (e :: es)) := rfl
    have texts := texts?_ofTexts (e :: es)
    simp only [read?, v] at kinds messages errors ⊢
    simp only [kinds, messages, errors, texts]
    rfl

theorem lookup_errors (r : Reply) : (r.sorted.lookup "errors").isSome ↔ r.errors ≠ [] := by
  obtain ⟨message, errors⟩ := r
  cases errors with
  | nil =>
    have absent : (sorted ⟨message, []⟩).lookup "errors" = none := rfl
    simp [absent]
  | cons e es => simp [sorted]

end Structured.Reply

namespace Framing

/-- A message ends with a control. -/
def Kind.EndsInControl : Kind → Prop
  | .line => True
  | .delimiter d => d.toNat < 0x20
  | .lengthPrefixed => False

theorem Kind.EndsInControl.preserves {k : Kind} {m : Bytes} (h : k.EndsInControl) (shown : ∀ b ∈ m, 0x20 ≤ b.toNat) :
    k.Preserves [m] := by
  have absent : ∀ b : UInt8, b.toNat < 0x20 → b ∉ m := fun b control there => Nat.not_lt.mpr (shown b there) control
  cases k with
  | line =>
    intro x hx
    obtain rfl := List.mem_singleton.mp hx
    exact ⟨absent lf (by decide), fun last => absent cr (by decide) (List.mem_of_getLast? last)⟩
  | delimiter d =>
    intro x hx
    obtain rfl := List.mem_singleton.mp hx
    exact absent d h
  | lengthPrefixed => exact h.elim

theorem readFrom_encoded {f : Framing} {ms chunks : List Bytes} {w : Bytes} (encoded : f.encodeAll ms = .ok w)
    (cut : chunks.flatten = w) :
    (f.readFrom {} chunks .eof).1 = ⟨ms.flatMap f.kind.readBack, none⟩ ∧ (f.readFrom {} chunks .eof).2.bytes = [] := by
  have divided := divide_encodeAll f ms w encoded
  obtain ⟨messages, clean⟩ := f.readFrom_messages chunks
  rw [cut, divided] at messages clean
  obtain ⟨-, empty⟩ := f.readFrom_accounts chunks {} (f.searched_fresh [])
  have none := clean rfl
  refine ⟨?_, empty none⟩
  dsimp only at messages
  rw [← messages, ← none]

end Framing

namespace Structured.Reply

/-- A reply on its way to the peer. -/
structure Survives (r : Reply) : Prop where
  shown : ∀ b ∈ r.render, 0x20 ≤ b.toNat
  /-- The bytes are an object that gives the reply again, and has a member for errors if there are any. -/
  back : ∃ members, Json.parse r.render = .ok (.object members) ∧ read? (.object members) = some (kind, r) ∧
    ((members.lookup "errors").isSome ↔ r.errors ≠ [])
  /-- If it is short enough, it is framed, and comes as one message however the wire is cut into reads. -/
  alone : ∀ f : Framing, f.kind.EndsInControl → r.render.length ≤ f.max → ∃ w, f.encode r.render = .ok w ∧
    ∀ chunks : List Bytes, chunks.flatten = w →
      (f.readFrom {} chunks .eof).1 = ⟨[r.render], none⟩ ∧ (f.readFrom {} chunks .eof).2.bytes = []
  /-- So it does between other messages, whatever becomes of these. -/
  among : ∀ f : Framing, f.kind.EndsInControl → ∀ (before after : List Bytes) w,
    f.encodeAll (before ++ r.render :: after) = .ok w → ∀ chunks : List Bytes, chunks.flatten = w →
      (f.readFrom {} chunks .eof).1 =
        ⟨before.flatMap f.kind.readBack ++ r.render :: after.flatMap f.kind.readBack, none⟩

/-- Whatever the texts of a reply hold, it is a single line, and the peer reads it as it was sent. -/
theorem survives (r : Reply) : r.Survives := by
  have shown : ∀ b ∈ r.render, 0x20 ≤ b.toNat := fun b there =>
    Nat.le_of_not_lt fun control => r.not_mem_render control there
  have kept : ∀ f : Framing, f.kind.EndsInControl → f.kind.readBack r.render = [r.render] := fun f control =>
    (f.kind.readBack_eq_self_iff r.render).mpr (control.preserves shown)
  refine ⟨shown, ⟨r.sorted, r.parse_render, r.read_sorted, r.lookup_errors⟩, fun f control fits => ?_,
    fun f control before after w encoded chunks cut => ?_⟩
  · have free : f.kind = .lengthPrefixed → r.render.length ≤ Framing.prefixMax := fun h => (h ▸ control).elim
    obtain ⟨w, encoded⟩ := (f.encode_eq_ok_iff r.render).mpr ⟨fits, free⟩
    refine ⟨w, encoded, fun chunks cut => ?_⟩
    have all : f.encodeAll [r.render] = .ok w := by
      simp only [Framing.encodeAll, encoded, List.append_nil]
    have read := Framing.readFrom_encoded all cut
    rw [List.flatMap_singleton, kept f control] at read
    exact read
  · rw [(Framing.readFrom_encoded encoded cut).1, List.flatMap_append, List.flatMap_cons, kept f control,
      List.singleton_append]

end Structured.Reply
end FrameServer
