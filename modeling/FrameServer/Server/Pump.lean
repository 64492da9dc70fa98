import FrameServer.Framing.Decode

namespace FrameServer

namespace Pump

inductive Status
  /-- Needs more bytes. -/
  | reading
  /-- May find a frame among the bytes it has. -/
  | decoding
  | ended (result : Except FrameError Unit)
  deriving Repr

inductive Move
  | read (n : Nat)
  | finish
  | decode
  deriving DecidableEq, Repr

end Pump

/-- The inbound half of a connection: bytes are cut into frames one at a time, and nothing is read while the buffer may
still hold a frame. -/
structure Pump where
  status : Pump.Status := .reading
  backlog : Backlog := {}
  arrived : Bytes := []
  /-- How the stream ends after them, if it does. -/
  ending : Option Framing.StreamEnd := none
  atEnd : Bool := false
  deriving Repr

namespace Pump

def isLive (p : Pump) : Bool :=
  match p.status with
  | .ended _ => false
  | _ => true

/-- Ends the pump from outside, without a fault. -/
def abort (p : Pump) : Pump := if p.isLive then { p with status := .ended (.ok ()) } else p

/-- Bytes from the peer; none come after the end of the stream. -/
def arrive (p : Pump) (bytes : Bytes) : Pump :=
  if p.ending.isSome then p else { p with arrived := p.arrived ++ bytes }

def finishStream (p : Pump) (fin : Framing.StreamEnd) : Pump :=
  if p.ending.isSome then p else { p with ending := some fin }

/-- One move, and the frame that it finds; `none` if it cannot be made now. -/
def step (f : Framing) (p : Pump) : Move → Option (Option Bytes × Pump)
  | .read n =>
    match p.status with
    | .reading =>
      if 0 < n ∧ n ≤ p.arrived.length then
        some (none, { p with
          backlog := p.backlog.feed (p.arrived.take n), arrived := p.arrived.drop n, status := .decoding })
      else none
    | _ => none
  | .finish =>
    match p.status, p.arrived, p.ending with
    | .reading, [], some .eof => some (none, { p with atEnd := true, status := .decoding })
    | .reading, [], some (.failed reason) => some (none, { p with status := .ended (.error (.io reason)) })
    | _, _, _ => none
  | .decode =>
    match p.status with
    | .decoding =>
      match if p.atEnd then f.decodeEof p.backlog else f.decode p.backlog with
      | (.ok (some m), b) => some (some m, { p with backlog := b })
      | (.ok none, b) =>
        some (none, { p with backlog := b, status := if p.atEnd then .ended (.ok ()) else .reading })
      | (.error e, b) => some (none, { p with backlog := b, status := .ended (.error e) })
    | _ => none

/-- The move that a pump left alone makes next. -/
def next? (p : Pump) : Option Move :=
  match p.status with
  | .decoding => some .decode
  | .reading =>
    if p.arrived.isEmpty then if p.ending.isSome then some .finish else none
    else some (.read p.arrived.length)
  | .ended _ => none

end Pump
end FrameServer
