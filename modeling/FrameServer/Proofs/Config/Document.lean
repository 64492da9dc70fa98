import Mathlib.Data.List.Nodup
import FrameServer.Proofs.Config.Stated
import FrameServer.Proofs.Ron.Group

namespace FrameServer.Config

open Ron

/-- A field on a line of its own. -/
def line (depth : Nat) (f : String × List Char) : List Char :=
  indent depth ++ f.1.toList ++ [':', ' '] ++ f.2 ++ [',', '\n']

/-- Fields in parentheses, further in than those. -/
def block (depth : Nat) (fs : List (String × List Char)) : List Char :=
  '(' :: '\n' :: (fs.flatMap (line (depth + 1)) ++ (indent depth ++ [')']))

theorem blank_newline : Blank ['\n'] := .space (by decide) .nil

section Lines

variable {α : Type} {name : α → String} {text : α → List Char} {content : α → Ron.Value}
  {value : List Char → Ron.Value → Prop} (plain : ∀ x, isPlainName (name x).toList)
  (stands : ∀ x, value (text x) (content x))
include plain stands

/-- Fields on lines of their own are a listing. The end of a line belongs to the gap before the next one. -/
theorem listed_lines (items : List α) {gap : List Char} (blank : Blank gap) (depth outer : Nat) :
    Listed value (gap ++ ((items.map fun x => (name x, text x)).flatMap (line depth) ++ (indent outer ++ [')'])))
      (items.map fun x => (name x, content x)) := by
  induction items generalizing gap with
  | nil =>
    rw [List.map_nil, List.flatMap_nil, List.nil_append, ← List.append_assoc]
    exact .close (blank.append (.replicate _))
  | cons x items ih =>
    have indented : Blank (gap ++ indent depth) := blank.append (.replicate _)
    have listed := Listed.more indented (.spaced (plain x) (stands x)) .nil (ih blank_newline)
    simpa [line] using listed

theorem grouped_block (items : List α) (depth : Nat) :
    Grouped value (block depth (items.map fun x => (name x, text x)))
      (.ofFields none (items.map fun x => (name x, content x))) :=
  .unnamed (listed_lines plain stands items blank_newline (depth + 1) depth) (by simp)

end Lines

/-- A field as it is written. -/
def Key.chars (c : Config) : Key → List Char
  | host => writeText c.server.host
  | port => Nat.toDigits 10 c.server.port.toNat
  | maxConnections => Nat.toDigits 10 c.server.maxConnections.toNat
  | writeTimeoutSecs => Nat.toDigits 10 c.server.writeTimeoutSecs.toNat
  | shutdownGraceSecs => Nat.toDigits 10 c.server.shutdownGraceSecs.toNat
  | dispatchDelayMs => Nat.toDigits 10 c.server.dispatchDelayMs.toNat
  | backpressureCapacity => Nat.toDigits 10 c.server.backpressureCapacity.toNat
  | strategy => c.framing.strategy.name.toList
  | delimiter => writeChar c.framing.delimiter
  | maxFrameSize => Nat.toDigits 10 c.framing.maxFrameSize.toNat
  | idleTimeoutSecs => Nat.toDigits 10 c.keepAlive.idleTimeoutSecs.toNat
  | sweepIntervalSecs => Nat.toDigits 10 c.keepAlive.sweepIntervalSecs.toNat
  | mode => c.dispatch.mode.name.toList
  | buffer => Nat.toDigits 10 c.events.buffer.toNat
  | level => writeText c.log.level
  | file => (if c.log.file then "true" else "false").toList

def wholeValue (n : Nat) : Ron.Value := .number (.whole false n none)

/-- A field as it is read. -/
def Key.value (c : Config) : Key → Ron.Value
  | host => .text c.server.host
  | port => wholeValue c.server.port.toNat
  | maxConnections => wholeValue c.server.maxConnections.toNat
  | writeTimeoutSecs => wholeValue c.server.writeTimeoutSecs.toNat
  | shutdownGraceSecs => wholeValue c.server.shutdownGraceSecs.toNat
  | dispatchDelayMs => wholeValue c.server.dispatchDelayMs.toNat
  | backpressureCapacity => wholeValue c.server.backpressureCapacity.toNat
  | strategy => .word c.framing.strategy.name
  | delimiter => .char c.framing.delimiter
  | maxFrameSize => wholeValue c.framing.maxFrameSize.toNat
  | idleTimeoutSecs => wholeValue c.keepAlive.idleTimeoutSecs.toNat
  | sweepIntervalSecs => wholeValue c.keepAlive.sweepIntervalSecs.toNat
  | mode => .word c.dispatch.mode.name
  | buffer => wholeValue c.events.buffer.toNat
  | level => .text c.log.level
  | file => .flag c.log.file

theorem Key.written (c : Config) (k : Key) (ext : Extensions) (limit : Nat) :
    Written ext limit (k.chars c) (k.value c) := by
  have number (n : UInt64) : Written ext limit (Nat.toDigits 10 n.toNat) (wholeValue n.toNat) := .number _ n.toNat_lt
  cases k with
  | host => exact .text c.server.host
  | port => exact .number _ (Nat.lt_trans c.server.port.toNat_lt (by decide))
  | strategy =>
    change Written ext limit c.framing.strategy.name.toList (.word c.framing.strategy.name)
    cases c.framing.strategy <;> exact .word (by decide) rfl (by decide)
  | delimiter => exact .char c.framing.delimiter
  | mode =>
    change Written ext limit c.dispatch.mode.name.toList (.word c.dispatch.mode.name)
    cases c.dispatch.mode <;> exact .word (by decide) rfl (by decide)
  | level => exact .text c.log.level
  | file => exact .flag c.log.file
  | maxConnections | writeTimeoutSecs | shutdownGraceSecs | dispatchDelayMs | backpressureCapacity | maxFrameSize
  | idleTimeoutSecs | sweepIntervalSecs | buffer => exact number _

theorem isWhole_wholeValue (bits n : Nat) : IsWhole bits n (wholeValue n) := ⟨false, none, rfl, nofun, .inl rfl⟩

theorem Key.means_value (c : Config) (k : Key) : k.Means c (k.value c) := by
  cases k with
  | host | strategy | delimiter | mode | level | file => exact rfl
  | _ => exact isWhole_wholeValue _ _

theorem Key.isPlainName_name (k : Key) : isPlainName k.name.toList := by cases k <;> decide

theorem Part.isPlainName_name (p : Part) : isPlainName p.name.toList := by cases p <;> decide

theorem Key.name_injective : Function.Injective Key.name := by
  intro k k'
  cases k <;> cases k' <;> simp [Key.name]

theorem Part.name_injective : Function.Injective Part.name := by
  intro p p'
  cases p <;> cases p' <;> simp [Part.name]

theorem holds_ofFields (name : Option String) (fs : Fields) : (Value.ofFields name fs).Holds name fs := by
  cases fs with
  | nil => exact .tuple name
  | cons f fs => exact .record name (f :: fs)

/-- Some sections with some fields of each, in the order in which they are written. -/
structure Arrangement where
  parts : List (Part × List Key)
  once : (parts.map (·.1)).Nodup
  within : ∀ s ∈ parts, s.2.Nodup ∧ ∀ k ∈ s.2, k.part = s.1

namespace Arrangement

def mentions (a : Arrangement) (k : Key) : Bool := a.parts.any (k ∈ ·.2)

/-- The chosen fields of a configuration as they are written. -/
def chars (a : Arrangement) (c : Config) : List Char :=
  block 0 (a.parts.map fun s => (s.1.name, block 1 (s.2.map fun k => (k.name, k.chars c))))

def render (a : Arrangement) (c : Config) : String := String.ofList (a.chars c)

/-- The record of the fields of a section. -/
def record (c : Config) (ks : List Key) : Ron.Value := .ofFields none (ks.map fun k => (k.name, k.value c))

def document (a : Arrangement) (c : Config) : Ron.Value :=
  .ofFields none (a.parts.map fun s => (s.1.name, record c s.2))

variable {a : Arrangement} {c : Config}

theorem mentions_iff {k : Key} : a.mentions k ↔ ∃ s ∈ a.parts, k ∈ s.2 := by simp [mentions]

theorem laid_chars (a : Arrangement) (c : Config) : Laid (a.chars c) (a.document c) := by
  have fields (ks : List Key) :
      Grouped (Written {} 124) (block 1 (ks.map fun k => (k.name, k.chars c))) (record c ks) :=
    grouped_block Key.isPlainName_name (fun k => k.written c {} 124) ks 1
  have sections : Grouped (Written {} 126) (a.chars c) (a.document c) :=
    grouped_block (fun s => s.1.isPlainName_name) (fun s => .inl (fields s.2)) a.parts 0
  have laid : Laid ([] ++ (a.chars c ++ [])) (a.document c) := .intro .nil sections (.blank .nil)
  rwa [List.nil_append, List.append_nil] at laid

/-- A section stands at just one place. -/
theorem mentions_eq {s : Part × List Key} (mem : s ∈ a.parts) {k : Key} (here : k.part = s.1) :
    a.mentions k = decide (k ∈ s.2) := by
  rw [Bool.eq_iff_iff, mentions_iff, decide_eq_true_iff]
  constructor
  · rintro ⟨s', mem', stated⟩
    have same : s'.1 = s.1 := ((a.within s' mem').2 k stated).symm.trans here
    rwa [← List.inj_on_of_nodup_map a.once mem' mem same]
  · intro stated
    exact ⟨s, mem, stated⟩

/-- The document of some fields states just these. -/
theorem stated_document (a : Arrangement) (c : Config) : Stated c a.mentions false (a.document c) := by
  have part (s : Part × List Key) (mem : s ∈ a.parts) : s.1.Stated c a.mentions false (record c s.2) := by
    refine .intro (holds_ofFields none _) (.inr ⟨rfl, rfl⟩) fun k here => ?_
    rw [mentions_eq mem here]
    have once : (s.2.map id).Nodup := by simpa using (a.within s mem).1
    have states := Fields.states_map Key.name_injective (Key.value c) once k (k.Means c)
      fun k' _ same => same ▸ k'.means_value c
    simpa using states
  refine .intro (holds_ofFields none _) (.inr ⟨rfl, rfl⟩) (fun p => p ∈ a.parts.map (·.1)) ?_ ?_
  · intro p
    exact Fields.states_map Part.name_injective (fun s => record c s.2) a.once p _ fun s mem same => same ▸ part s mem
  · intro k mentioned
    obtain ⟨s, mem, stated⟩ := mentions_iff.mp mentioned
    simp only [(a.within s mem).2 k stated, decide_eq_true_iff]
    exact List.mem_map_of_mem mem

/-- A file of some fields of a configuration is read as these, with the defaults of the others. -/
theorem parse?_render (a : Arrangement) (c : Config) : parse? (a.render c) = some (c.pick a.mentions {}) := by
  rw [parse?, Ron.Document.parse?, render, String.toList_ofList, (a.laid_chars c).document, Option.bind_some,
    ofDocument?]
  exact (a.stated_document c).over? {}

/-- All fields of all sections. -/
def whole : Arrangement where
  parts := [
    (.server, [.host, .port, .maxConnections, .writeTimeoutSecs, .shutdownGraceSecs, .dispatchDelayMs,
      .backpressureCapacity]),
    (.framing, [.strategy, .delimiter, .maxFrameSize]),
    (.keepAlive, [.idleTimeoutSecs, .sweepIntervalSecs]),
    (.dispatch, [.mode]),
    (.events, [.buffer]),
    (.log, [.level, .file])]
  once := by decide
  within := by decide

theorem mentions_whole (k : Key) : whole.mentions k := by cases k <;> decide

/-- The chosen fields. -/
def chosen (chosen : Key → Bool) : Arrangement where
  parts := whole.parts.map fun s => (s.1, s.2.filter chosen)
  once := by
    rw [List.map_map]
    exact whole.once
  within := by
    intro _ there
    obtain ⟨s, mem, rfl⟩ := List.mem_map.mp there
    have within := whole.within s mem
    exact ⟨within.1.filter _, fun k stated => within.2 k (List.mem_of_mem_filter stated)⟩

theorem mentions_chosen (f : Key → Bool) : (chosen f).mentions = f := by
  funext k
  rw [Bool.eq_iff_iff, mentions_iff]
  constructor
  · rintro ⟨s, mem, stated⟩
    obtain ⟨s, -, rfl⟩ := List.mem_map.mp mem
    exact List.of_mem_filter stated
  · intro picked
    obtain ⟨s, mem, stated⟩ := mentions_iff.mp (mentions_whole k)
    exact ⟨_, List.mem_map_of_mem mem, List.mem_filter.mpr ⟨stated, picked⟩⟩

end Arrangement

theorem chars_eq (c : Config) : c.chars = Arrangement.whole.chars c := by
  have each (s : String × List (String × List Char)) : sectionLines s = line 1 (s.1, block 1 s.2) := by
    have lines : fieldLine = line 2 := rfl
    simp [sectionLines, line, block, lines]
  have all : c.sheet.flatMap sectionLines = (c.sheet.map fun s => (s.1, block 1 s.2)).flatMap (line 1) := by
    rw [List.flatMap_map]
    exact congrArg c.sheet.flatMap (funext each)
  have same : c.sheet.map (fun s => (s.1, block 1 s.2)) =
      Arrangement.whole.parts.map fun s => (s.1.name, block 1 (s.2.map fun k => (k.name, k.chars c))) := rfl
  rw [chars, all, same, Arrangement.chars, block]
  simp [indent]

/-- A configuration that is written is read as itself. -/
theorem parse?_render (c : Config) : parse? c.render = some c := by
  have every : Arrangement.whole.mentions = fun _ => true := funext Arrangement.mentions_whole
  calc parse? c.render
      = parse? (Arrangement.whole.render c) := by rw [render, chars_eq, Arrangement.render]
    _ = some (c.pick Arrangement.whole.mentions {}) := Arrangement.parse?_render _ c
    _ = some c := by rw [every]; rfl

end FrameServer.Config
