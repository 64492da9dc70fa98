import FrameServer.Proofs.Config.Persistence

namespace FrameServer.Config

open Ron

/-- A file with this text is loaded as the configuration, and stays as it is. -/
def LoadsAs (s : String) (c : Config) : Prop :=
  loadOrCreate (.plain (some (textBytes s))) = .ok (c, .plain (some (textBytes s)))

theorem loadsAs_of_parse {s : String} {c : Config} (parsed : parse? s = some c) : LoadsAs s c := by
  have there : (Folder.plain (some (textBytes s))).hasFile := rfl
  rw [LoadsAs, loadOrCreate, if_pos there, ofFolder, Folder.read_textBytes]
  simp only [bind, Except.bind, parsed, Except.map]

/-- What becomes of files that state just the chosen fields of a configuration. -/
structure LoadsPartially (c : Config) (chosen : Key → Bool) : Prop where
  /-- Any text that is read as such a document, whatever notes stand in front of it. -/
  read : ∀ s d, Document.parse? s = some d → Stated c chosen d.extensions.namesRecords d.value →
    LoadsAs s (c.pick chosen {})
  /-- Any text with gaps and comments, names of records and further commas wherever they may stand. -/
  laid : ∀ (s : String) v, Laid s.toList v → Stated c chosen false v → LoadsAs s (c.pick chosen {})
  /-- The fields as they are written to a file, in any order of the sections and of the fields of each. -/
  written : ∀ a : Arrangement, a.mentions = chosen → LoadsAs (a.render c) (c.pick chosen {})
  /-- Such a file is there for any choice. -/
  possible : ∃ a : Arrangement, a.mentions = chosen

/-- Whichever fields of a configuration a file states, it is loaded as these fields and the defaults of all others. -/
theorem loads_partially (c : Config) (chosen : Key → Bool) : c.LoadsPartially chosen := by
  have read (s : String) (d : Document) (parsed : Document.parse? s = some d)
      (stated : Stated c chosen d.extensions.namesRecords d.value) : LoadsAs s (c.pick chosen {}) := by
    apply loadsAs_of_parse
    rw [parse?, parsed]
    exact stated.over? {}
  refine ⟨read, ?laid, ?written, Arrangement.chosen chosen, Arrangement.mentions_chosen chosen⟩
  case laid =>
    intro s v laid stated
    exact read s ⟨{}, v⟩ laid.document stated
  case written =>
    rintro a rfl
    exact loadsAs_of_parse (a.parse?_render c)

/-- Two sections in another order, one of them with its name, among comments and fields that mean nothing. -/
def fragment : String :=
  "// a part\n(later: \"x\", framing: FramingConfig (delimiter: ';', strategy: delimiter), /* /**/ */ server:\n" ++
    "  (retries: 3, port: 9000,), later: true)\n// end"

def fragmentDocument : Ron.Value :=
  .record none [
    ("later", .text "x"),
    ("framing", .record (some "FramingConfig") [("delimiter", .char ';'), ("strategy", .word "delimiter")]),
    ("server", .record none [("retries", wholeValue 3), ("port", wholeValue 9000)]),
    ("later", .flag true)]

theorem laid_fragment : Laid fragment.toList fragmentDocument := by
  have front : Blank ('/' :: '/' :: (" a part".toList ++ ['\n'])) := .line (by decide) .nil
  have space : Blank [' '] := .space (by decide) .nil
  have newline : Blank ['\n', ' ', ' '] := .space (by decide) (.space (by decide) space)
  have comment : Enclosed [' ', '/', '*', '*', '/', ' ', '*', '/'] :=
    .other (.nest .close (.other .close (by decide) (by decide))) (by decide) (by decide)
  have remark : Blank (' ' :: '/' :: '*' :: (_ ++ [' '])) := .space (by decide) (.block comment space)
  have back : Trailing (['\n'] ++ '/' :: '/' :: " end".toList) := .line (.space (by decide) .nil) (by decide)
  have delimiter : Entry (Written {} 124) _ ("delimiter", .char ';') := .spaced (by decide) (.char ';')
  have strategy : Entry (Written {} 124) _ ("strategy", .word "delimiter") :=
    .spaced (by decide) (.word (by decide) rfl (by decide))
  have retries : Entry (Written {} 124) _ ("retries", wholeValue 3) := .spaced (by decide) (.number 3 (by decide))
  have port : Entry (Written {} 124) _ ("port", wholeValue 9000) := .spaced (by decide) (.number 9000 (by decide))
  have later : Entry (Written {} 126) _ ("later", .text "x") := .spaced (by decide) (.text "x")
  have framing : Entry (Written {} 126) _ ("framing", .record (some "FramingConfig") _) :=
    .spaced (by decide) (.inl (.named (by decide) rfl (by decide) space
      (.more .nil delimiter .nil (.last space strategy .nil))))
  have server : Entry (Written {} 126) _ ("server", .record none _) :=
    .intro (.plain (by decide)) .nil newline (.inl (.unnamed (.more .nil retries .nil
      (.more space port .nil (.close .nil))) (by simp)))
  have again : Entry (Written {} 126) _ ("later", .flag true) := .spaced (by decide) (.flag true)
  have sections : Grouped (Written {} 126) _ fragmentDocument :=
    .unnamed (.more .nil later .nil (.more space framing .nil (.more remark server .nil (.last space again .nil))))
      (by simp)
  convert Laid.intro front sections back using 1
  decide +kernel

theorem loads_partially_fragment :
    LoadsAs fragment { server := { port := 9000 }, framing := { strategy := .delimiter, delimiter := ';' } } := by
  let c : Config :=
    { server := { host := "elsewhere", port := 9000 }, framing := { strategy := .delimiter, delimiter := ';' } }
  let chosen : Key → Bool := (· ∈ [.port, .strategy, .delimiter])
  have server : Part.server.Stated c chosen false
      (.record none [("retries", wholeValue 3), ("port", wholeValue 9000)]) := by
    refine .intro (.record none _) (.inr ⟨rfl, rfl⟩) fun k here => ?_
    cases k <;> cases here
    case port.refl => exact ⟨_, rfl, isWhole_wholeValue _ _⟩
    all_goals rfl
  have framing : Part.framing.Stated c chosen false
      (.record (some "FramingConfig") [("delimiter", .char ';'), ("strategy", .word "delimiter")]) := by
    refine .intro (.record _ _) (.inl rfl) fun k here => ?_
    cases k <;> cases here
    case maxFrameSize.refl => rfl
    all_goals exact ⟨_, rfl, rfl⟩
  have stated : Stated c chosen false fragmentDocument := by
    refine .intro (.record none _) (.inr ⟨rfl, rfl⟩) (· ∈ [.server, .framing]) ?_ ?_
    · intro p
      cases p with
      | server => exact ⟨_, rfl, server⟩
      | framing => exact ⟨_, rfl, framing⟩
      | keepAlive | dispatch | events | log => rfl
    · intro k picked
      cases k <;> simp [chosen] at picked <;> rfl
  exact (loads_partially c chosen).laid fragment fragmentDocument laid_fragment stated

end FrameServer.Config
