import FrameServer.Framing.Basic

namespace FrameServer.Framing

/-- A connection that takes a limited number of bytes, some at a time. -/
structure Sink where
  /-- Bytes it still takes; `none` is without end. -/
  room : Option Nat := none
  /-- Bytes it takes at once; `none` is all that are offered. -/
  perWrite : Option Nat := none
  /-- Whether a full connection takes nothing instead of failing. -/
  stalls : Bool := false
  wire : Bytes := []
  writes : Nat := 0
  flushes : Nat := 0
  deriving DecidableEq, Repr

namespace Sink

def takes (s : Sink) (n : Nat) : Nat :=
  let n := match s.perWrite with | none => n | some p => min n p
  match s.room with | none => n | some r => min n r

def fullReason (s : Sink) : String :=
  if s.stalls then "write zero" else "pipe broke"

/-- Offers the bytes again and again until all are taken; every write takes at least one. -/
def writeAll (s : Sink) : Nat → Bytes → Except FrameError Unit × Sink
  | _, [] => (.ok (), s)
  | 0, _ => (.error (.io s.fullReason), s)
  | fuel + 1, bytes =>
    let n := s.takes bytes.length
    let s := { s with writes := s.writes + 1 }
    if n = 0 then (.error (.io s.fullReason), s)
    else
      let s := { s with wire := s.wire ++ bytes.take n, room := s.room.map (· - n) }
      s.writeAll fuel (bytes.drop n)

/-- Writes one message in its wire form and flushes. A refused message writes nothing. -/
def writeMessage (s : Sink) (f : Framing) (m : Bytes) : Except FrameError Unit × Sink :=
  match f.encode m with
  | .error e => (.error e, s)
  | .ok bytes =>
    match s.writeAll bytes.length bytes with
    | (.ok (), s) => (.ok (), { s with flushes := s.flushes + 1 })
    | (.error e, s) => (.error e, s)

/-- Writes the messages in order; a failure does not stop the ones after it. -/
def writeMessages (s : Sink) (f : Framing) : List Bytes → List (Except FrameError Unit) × Sink
  | [] => ([], s)
  | m :: ms =>
    let (r, s) := s.writeMessage f m
    let (rs, s) := s.writeMessages f ms
    (r :: rs, s)

end Sink
end FrameServer.Framing
