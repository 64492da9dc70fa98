import FrameServer.Framing.Basic

namespace FrameServer

/-- Bytes not yet cut into messages; the first `scanned` of them are known to hold no terminator. -/
structure Backlog where
  bytes : Bytes := []
  scanned : Nat := 0
  deriving DecidableEq, Repr

def Backlog.feed (b : Backlog) (chunk : Bytes) : Backlog := { b with bytes := b.bytes ++ chunk }

namespace Framing

/-- What one attempt to take a message gives: a message, `none` while bytes are missing, or an error. -/
abbrev Taken := Except FrameError (Option Bytes)

/-- The place of `stop` among the first `limit` bytes, counted from `i`. -/
def locate (stop : UInt8) : Nat → Nat → Bytes → Option Nat
  | _, 0, _ => none
  | _, _ + 1, [] => none
  | i, limit + 1, b :: bs => if b = stop then some i else locate stop (i + 1) limit bs

/-- Takes the bytes before the next `stop`, which must come within the first `max + 1` bytes. -/
def takeUntil (stop : UInt8) (max : Nat) (b : Backlog) : Taken × Backlog :=
  let start := min b.scanned (max + 1)
  match locate stop start (max + 1 - start) (b.bytes.drop start) with
  | some pos => (.ok (some (b.bytes.take pos)), ⟨b.bytes.drop (pos + 1), 0⟩)
  | none =>
    let size := b.bytes.length
    if size > max then (.error (.tooLarge size max), ⟨b.bytes, 0⟩)
    else (.ok none, ⟨b.bytes, size⟩)

def takePrefixed (max : Nat) (b : Backlog) : Taken × Backlog :=
  match b.bytes with
  | p :: q :: r :: s :: rest =>
    let size := prefixLength p q r s
    if size > max then (.error (.tooLarge size max), b)
    else
      let body := rest.take size
      if body.length < size then (.ok none, b)
      else (.ok (some body), { b with bytes := rest.drop size })
  | _ => (.ok none, b)

def decode (f : Framing) (b : Backlog) : Taken × Backlog :=
  match f.kind with
  | .line =>
    match takeUntil lf f.max b with
    | (.ok (some m), b') => (.ok (some (stripCr m)), b')
    | r => r
  | .delimiter d => takeUntil d f.max b
  | .lengthPrefixed => takePrefixed f.max b

def leftover (f : Framing) (b : Backlog) : Taken × Backlog :=
  match f.kind with
  | .line => if b.bytes.isEmpty then (.ok none, ⟨[], 0⟩) else (.ok (some (stripCr b.bytes)), ⟨[], 0⟩)
  | .delimiter _ => (.ok none, ⟨[], 0⟩)
  | .lengthPrefixed =>
    match b.bytes with
    | p :: q :: r :: s :: rest => (.error (.truncated (prefixLength p q r s) rest.length), b)
    | _ => (.ok none, { b with bytes := [] })

/-- Takes the next message after the stream has ended: complete ones first, then what is left. -/
def decodeEof (f : Framing) (b : Backlog) : Taken × Backlog :=
  match f.decode b with
  | (.ok none, b') => f.leftover b'
  | r => r

/-- Repeats `take` until it gives no message; the answers in order, the last one included. -/
def drainWith (take : Backlog → Taken × Backlog) : Nat → Backlog → List (Taken × Backlog)
  | 0, _ => []
  | fuel + 1, b =>
    match take b with
    | (.ok (some m), b') => (.ok (some m), b') :: drainWith take fuel b'
    | r => [r]

/-- Every message taken shortens the buffer, so one attempt more than it has bytes is enough. -/
def drain (f : Framing) (b : Backlog) : List (Taken × Backlog) :=
  drainWith f.decode (b.bytes.length + 1) b

def drainEof (f : Framing) (b : Backlog) : List (Taken × Backlog) :=
  drainWith f.decodeEof (b.bytes.length + 1) b

end Framing
end FrameServer

namespace FrameServer.Framing

inductive StreamEnd
  | eof
  | failed (reason : String)
  deriving DecidableEq, Repr

structure Reading where
  messages : List Bytes := []
  error : Option FrameError := none
  deriving DecidableEq, Repr

/-- The messages among a series of attempts, the error that ended it, and the buffer after it. -/
def collect : List (Taken × Backlog) → Backlog → Reading × Backlog
  | [], b => ({}, b)
  | (.ok (some m), b) :: rest, _ =>
    let (r, b') := collect rest b
    ({ r with messages := m :: r.messages }, b')
  | (.ok none, b) :: _, _ => ({}, b)
  | (.error e, b) :: _, _ => ({ error := some e }, b)

/-- Reads on from buffer `b`; nothing is read after an error. What was read, and the buffer after it. -/
def readFrom (f : Framing) (b : Backlog) : List Bytes → StreamEnd → Reading × Backlog
  | [], .eof => collect (f.drainEof b) b
  | [], .failed reason => ({ error := some (.io reason) }, b)
  | chunk :: chunks, fin =>
    let b := b.feed chunk
    match collect (f.drain b) b with
    | ({ messages, error := some e }, b') => ({ messages, error := some e }, b')
    | ({ messages, error := none }, b') =>
      let (r, b'') := readFrom f b' chunks fin
      ({ r with messages := messages ++ r.messages }, b'')

def readAll (f : Framing) (chunks : List Bytes) (fin : StreamEnd) : Reading :=
  (readFrom f {} chunks fin).1

end FrameServer.Framing
