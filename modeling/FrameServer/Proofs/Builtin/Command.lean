import FrameServer.Builtin
import FrameServer.Proofs.Command.Dispatched
import FrameServer.Proofs.Server.Wire
import FrameServer.Proofs.Text.Words

namespace FrameServer

namespace Command.Line

theorem isWord_of_parse {text : String} {line : Line} (parsed : parse? text = some line) :
    ∀ arg ∈ line.args, Text.IsWord arg.toList := by
  unfold parse? at parsed
  split at parsed
  · cases parsed
  next name args split =>
    obtain rfl := Option.some.inj parsed
    intro arg ha
    obtain ⟨w, hw, rfl⟩ := List.mem_map.mp ha
    rw [String.toList_ofList]
    exact Text.isWord_of_mem_words (by rw [split]; exact List.mem_cons_of_mem name hw)

end Command.Line

namespace Builtin

open Command (Line)
open Script (Answered noted course_done)

/-- Words joined to one line: nothing in it ends a line, and it is read as the same text and the same words. -/
structure Joined (m : Bytes) (words : List String) : Prop where
  text : text? m = some (" ".intercalate words)
  lossy : lossyText m = " ".intercalate words
  unsplit : Framing.lf ∉ m
  kept : m.getLast? ≠ some Framing.cr
  words : (Text.words (lossyText m).toList).map String.ofList = words

variable {words : List String} {chain : Chain} {request : Request} {line : Command.Line}

theorem joined_of_words (clean : ∀ w ∈ words, Text.IsWord w.toList) :
    Joined (textBytes (" ".intercalate words)) words := by
  have lossy := lossyText_textBytes (" ".intercalate words)
  refine ⟨text?_textBytes _, lossy, ?_, fun last => ?_, ?_⟩
  · exact not_mem_joined clean (by decide) (by decide) (by decide)
  · exact not_mem_joined clean (by decide) (by decide) (by decide) (List.mem_of_getLast? last)
  · have parts : ∀ w ∈ words.map String.toList, Text.IsWord w := by
      intro w hw
      obtain ⟨v, hv, rfl⟩ := List.mem_map.mp hw
      exact clean v hv
    have same := Text.words_intercalate parts
    rw [lossy, String.toList_intercalate]
    refine (congrArg (List.map String.ofList) same).trans ?_
    simp

theorem find_broadcast {name : String} (named : upperText name = "BROADCAST") :
    commands.find? name = some broadcastCommand := by
  show List.lookup (upperText name) _ = _
  rw [named]
  rfl

/-- The line that goes to everyone. -/
def joined (line : Line) : Bytes := textBytes (" ".intercalate line.args)

/-- A broadcast is all that is done for it, and never fails. -/
theorem course_broadcasting {m : Bytes} {own : List Answered} {o : Outcome Unit} :
    (broadcasting m).Course own o ↔ o = .ok () ∧ ∃ n, own = [⟨.broadcast m, n⟩] := by
  constructor
  · intro h
    cases h with
    | act _ _ n last =>
      obtain ⟨rfl, rfl⟩ := course_done.mp last
      exact ⟨rfl, n, rfl⟩
  · rintro ⟨rfl, n, rfl⟩
    exact .act (.broadcast _) _ n (.done _)

theorem broadcastCommand_some {session : SessionId} {args : List String} (some : args ≠ []) :
    broadcastCommand session args = broadcasting (textBytes (" ".intercalate args)) := by
  obtain ⟨arg, rest, rfl⟩ := List.exists_cons_of_ne_nil some
  rfl

/-- The command `BROADCAST` sends its arguments to every registered session, as one line that gives the same words
again; without arguments it sends nothing, and the chain is told of the failure. There is no response. -/
theorem command_broadcasts (parsed : Line.parse? (lossyText request.message) = some line)
    (named : upperText line.name = "BROADCAST") :
    (line.args = [] → ∀ steps o, ((commandDispatcher chain).handler request).Course steps o ↔ o = .ok none ∧
      steps = noted request.session (chain.run (.beforeDispatch line.payload)) ++
        noted request.session (chain.report ⟨"BROADCAST needs a message", []⟩ (some line.payload))) ∧
    (line.args ≠ [] → (∀ steps o, ((commandDispatcher chain).handler request).Course steps o ↔ o = .ok none ∧ ∃ n,
      steps = noted request.session (chain.run (.beforeDispatch line.payload)) ++ [⟨.broadcast (joined line), n⟩] ++
        noted request.session (chain.run (.afterDispatch line.payload))) ∧
      Joined (joined line) line.args ∧
      ∀ (f : Framing) (h : Hub), f.kind = .line → h.Orderly f → h.SpreadsLine f (joined line)) := by
  have course : ∀ steps o, ((commandDispatcher chain).handler request).Course steps o ↔ o = .ok none ∧
      ∃ own p, (broadcastCommand request.session line.args).Course own p ∧
        steps = noted request.session (chain.run (.beforeDispatch line.payload)) ++ own ++
          noted request.session ((commandDispatcher chain).closing line p) := fun steps o =>
    Command.Dispatcher.course_handler.trans
      (and_congr_right' (Command.Dispatcher.course_dispatch parsed (find_broadcast named)))
  refine ⟨fun none steps o => ?_, fun some => ⟨fun steps o => ?_, ?_, fun f h lines orderly => ?_⟩⟩
  · rw [course, none]
    refine and_congr_right' ⟨?_, ?_⟩
    · rintro ⟨own, p, ran, rfl⟩
      obtain ⟨rfl, rfl⟩ := course_done.mp ran
      rw [List.append_nil]
      rfl
    · rintro rfl
      exact ⟨[], _, .done _, by rw [List.append_nil]; rfl⟩
  · rw [course, broadcastCommand_some some]
    refine and_congr_right' ⟨?_, ?_⟩
    · rintro ⟨own, p, ran, rfl⟩
      obtain ⟨rfl, n, rfl⟩ := course_broadcasting.mp ran
      exact ⟨n, rfl⟩
    · rintro ⟨n, rfl⟩
      exact ⟨_, _, course_broadcasting.mpr ⟨rfl, n, rfl⟩, rfl⟩
  · exact joined_of_words (Line.isWord_of_parse parsed)
  · have whole := joined_of_words (Line.isWord_of_parse parsed)
    exact orderly.spreads_line lines whole.unsplit whole.kept

def commandServer : Application where
  framing := ⟨.line, 64⟩
  handler := (commandDispatcher (.ofList [])).handler
  chain := .ofList []

/-- Two sessions come. -/
def joining : List Server.Label :=
  [.serve "127.0.0.1:7000" 7000, .connect 0 "a" "127.0.0.1:50000", .enroll 0, .connect 0 "b" "127.0.0.1:50001",
    .enroll 0]

/-- The last byte is no text. -/
def shout : Request := { session := "a", message := textBytes "broadcast\t hello " ++ [0xFF] }

theorem command_broadcasts_shout : ∃ t line, Server.play commandServer {} joining = some t ∧
    t.hub.registry.keys = [0, 1] ∧ Line.parse? (lossyText shout.message) = some line ∧
    upperText line.name = "BROADCAST" ∧ line.args = ["hello", "\uFFFD"] ∧ Joined (joined line) line.args ∧
    t.hub.SpreadsLine ⟨.line, 64⟩ (joined line) := by
  have keys : (Server.play commandServer {} joining).map (·.hub.registry.keys) = some [0, 1] := by decide +kernel
  obtain ⟨t, run, keys⟩ := Option.map_eq_some_iff.mp keys
  have parsed : Line.parse? (lossyText shout.message) = some ⟨"broadcast", ["hello", "\uFFFD"]⟩ := by decide +kernel
  have named : upperText "broadcast" = "BROADCAST" := by decide +kernel
  obtain ⟨-, sent⟩ := @command_broadcasts (.ofList []) shout _ parsed named
  obtain ⟨-, whole, spreads⟩ := sent (List.cons_ne_nil _ _)
  exact ⟨t, _, run, keys, parsed, named, rfl, whole, spreads _ _ rfl (Server.orderly_of_play run)⟩

end Builtin
end FrameServer
