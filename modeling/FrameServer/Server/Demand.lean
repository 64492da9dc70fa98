import FrameServer.Server.Step

namespace FrameServer.Server

/-- What a server asks of the runtime below it. The runtime refuses some of it, and then ends the task that asked. -/
inductive Demand
  /-- A channel that keeps up to `room` messages that are not read. -/
  | channel (room : Nat)
  /-- Ticks, the first of them at the instant `first` and the others `period` apart. -/
  | ticker (first period : Nat)
  deriving DecidableEq, Repr

namespace Demand

/-- The most room that a channel can have: half of the greatest word. -/
def maxRoom : Nat := (Nat.pow 2 64 - 1) / 2

/-- What the runtime grants if its clock can tell the instants before `horizon`. -/
def Granted (horizon : Nat) : Demand → Prop
  | channel room => 1 ≤ room ∧ room ≤ maxRoom
  | ticker first period => 0 < period ∧ first < horizon

instance (horizon : Nat) : DecidablePred (Granted horizon)
  | channel _ => inferInstanceAs (Decidable (_ ∧ _))
  | ticker _ _ => inferInstanceAs (Decidable (_ ∧ _))

end Demand

def Record.kind? : Record → Option Event.Kind
  | .event e => some e.kind
  | _ => none

/-- The channel of a kind of events is made when the kind comes for the first time. -/
def eventChannels (a : Application) : (known kinds : List Event.Kind) → List Demand
  | _, [] => []
  | known, kind :: kinds =>
    if kind ∈ known then eventChannels a known kinds
    else .channel (max a.eventBuffer 1) :: eventChannels a (kind :: known) kinds

/-- What a step asks for, besides the channels of its events: a monitor asks for its ticks when it is started, and a
connection for the channel of its frames when it has been greeted. -/
def State.asks (a : Application) (s : State) : Label → List Demand
  | .serve _ _ => [.ticker (s.hub.clock + a.settings.sweepInterval) a.settings.sweepInterval]
  | .task k =>
    match s.connection? k with
    | some { phase := .greeting, .. } => [.channel (max a.settings.backpressureCapacity 1)]
    | _ => []
  | _ => []

/-- What is asked for along a run, step by step, if there are channels for the kinds `known`. -/
def asked (a : Application) : (known : List Event.Kind) → State → List Label → List Demand
  | _, _, [] => []
  | known, s, l :: ls =>
    match step a s l with
    | none => []
    | some t =>
      let kinds := (t.journal.drop s.journal.length).filterMap Record.kind?
      eventChannels a known kinds ++ s.asks a l ++ asked a (known ++ kinds) t ls

/-- What is asked for by those who listen to events from the beginning, and then along the run of a new server. -/
def launched (a : Application) (listening : List Event.Kind) (ls : List Label) : List Demand :=
  eventChannels a [] listening ++ asked a listening {} ls

end FrameServer.Server
