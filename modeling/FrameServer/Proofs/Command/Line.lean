import FrameServer.Command
import FrameServer.Proofs.Text.Runs

namespace FrameServer.Command

/-- The tokens of a text: its longest runs without white space, in the order in which they stand. -/
def Tokens (text : String) (ts : List String) : Prop :=
  ∃ runs, Text.Runs text.toList runs ∧ runs.map (fun r => String.ofList r.2) = ts

variable {text text' : String} {ts : List String} {line : Line}

theorem tokens_iff : Tokens text ts ↔ (Text.words text.toList).map String.ofList = ts := by
  constructor
  · rintro ⟨runs, h, rfl⟩
    rw [Text.words_eq_iff.mpr ⟨runs, h, rfl⟩, List.map_map]
    rfl
  · rintro rfl
    obtain ⟨runs, h, same⟩ := Text.words_eq_iff.mp (rfl : Text.words text.toList = _)
    refine ⟨runs, h, ?_⟩
    rw [← same, List.map_map]
    rfl

namespace Line

theorem parse_eq_none : parse? text = none ↔ ∀ c ∈ text.toList, Text.isBlank c = true := by
  rw [show (∀ c ∈ text.toList, Text.isBlank c = true) ↔ Text.words text.toList = [] from Text.words_eq_nil.symm]
  unfold parse?
  cases Text.words text.toList <;> simp

theorem parse_eq_some : parse? text = some line ↔ Tokens text (line.name :: line.args) := by
  rw [tokens_iff]
  unfold parse?
  obtain ⟨name, args⟩ := line
  cases Text.words text.toList <;> simp

/-- Two lines with the same tokens are read as the same. -/
theorem parse_congr (h : Tokens text ts) (h' : Tokens text' ts) : parse? text = parse? text' := by
  have same : (Text.words text.toList).map String.ofList = (Text.words text'.toList).map String.ofList :=
    (tokens_iff.mp h).trans (tokens_iff.mp h').symm
  have inj : Function.Injective String.ofList := fun a b hab => by simpa using congrArg String.toList hab
  unfold parse?
  rw [List.map_injective_iff.mpr inj same]

end Line

/-- What becomes of a command line, as far as its tokens tell. -/
structure Tokenized : Prop where
  /-- Only white space is no command line. -/
  blank : ∀ text, Line.parse? text = none ↔ ∀ c ∈ text.toList, Text.isBlank c = true
  exact : ∀ text line, Line.parse? text = some line ↔ Tokens text (line.name :: line.args)
  /-- Tokens are read back, however much white space there is before, between and after them. -/
  joined : ∀ (first : List Char × List Char) (more : Text.Parts) (tail : List Char),
    Text.Spaced (first :: more) → Text.AllBlank tail →
      Line.parse? (String.ofList (Text.laid (first :: more) tail)) =
        some ⟨String.ofList first.2, more.map fun part => String.ofList part.2⟩
  /-- Lines with the same tokens do the same: by the same handler, with the same arguments and the same payload. -/
  alike : ∀ text text' ts, Tokens text ts → Tokens text' ts → ∀ (d : Dispatcher) (session : SessionId),
    d.dispatch session text = d.dispatch session text'

/-- A command line is its tokens: how much white space there is, and of which kind, makes no difference to what a
dispatcher does. -/
theorem tokenized : Tokenized where
  blank _ := Line.parse_eq_none
  exact _ _ := Line.parse_eq_some
  joined first more tail spaced blank := by
    rw [Line.parse?, String.toList_ofList, Text.words_laid spaced blank, List.map_cons]
    dsimp only
    rw [List.map_map]
    rfl
  alike text text' ts h h' d session := by
    unfold Dispatcher.dispatch
    rw [Line.parse_congr h h']

end FrameServer.Command
