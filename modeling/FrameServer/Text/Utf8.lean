import FrameServer.Framing.Basic

namespace FrameServer.Utf8

def encode (cs : List Char) : Bytes := cs.flatMap String.utf8EncodeChar

/-- What the first byte of a character announces: its own bits, the number of bytes to come, and the
range in which the next one must lie. -/
def lead (a : UInt8) : Option (Nat × Nat × UInt8 × UInt8) :=
  let n := a.toNat
  if n < 0x80 then some (n, 0, 0x80, 0xBF)
  else if n < 0xC2 then none
  else if n < 0xE0 then some (n - 0xC0, 1, 0x80, 0xBF)
  else if n = 0xE0 then some (0, 2, 0xA0, 0xBF)
  else if n = 0xED then some (0xD, 2, 0x80, 0x9F)
  else if n < 0xF0 then some (n - 0xE0, 2, 0x80, 0xBF)
  else if n = 0xF0 then some (0, 3, 0x90, 0xBF)
  else if n < 0xF4 then some (n - 0xF0, 3, 0x80, 0xBF)
  else if n = 0xF4 then some (4, 3, 0x80, 0x8F)
  else none

/-- Reads `count` more bytes of a character, as far as they fit; the code point if all do. -/
def follow (bits : Nat) : Nat → UInt8 → UInt8 → Bytes → Option Nat × Bytes
  | 0, _, _, bs => (some bits, bs)
  | _ + 1, _, _, [] => (none, [])
  | count + 1, low, high, b :: bs =>
    if low ≤ b ∧ b ≤ high then follow (bits * 64 + b.toNat % 64) count 0x80 0xBF bs
    else (none, b :: bs)

/-- The character that begins with `a`, or `none` for bytes that are not one, and the rest. -/
def next (a : UInt8) (bs : Bytes) : Option Char × Bytes :=
  match lead a with
  | none => (none, bs)
  | some (bits, count, low, high) =>
    let (code, rest) := follow bits count low high bs
    (code.map Char.ofNat, rest)

theorem follow_length_le (bits count : Nat) (low high : UInt8) (bs : Bytes) :
    (follow bits count low high bs).2.length ≤ bs.length := by
  induction count generalizing bits low high bs with
  | zero => simp [follow]
  | succ count ih =>
    cases bs with
    | nil => simp [follow]
    | cons b bs =>
      rw [follow]
      split
      · exact Nat.le_succ_of_le (ih ..)
      · simp

theorem next_length_le (a : UInt8) (bs : Bytes) : (next a bs).2.length ≤ bs.length := by
  rw [next]
  split
  · simp
  · exact follow_length_le ..

def replacement : Char := '\uFFFD'

/-- Characters in order; `none` for each run of bytes that are none. -/
def chars : Bytes → List (Option Char)
  | [] => []
  | a :: bs =>
    have := next_length_le a bs
    (next a bs).1 :: chars (next a bs).2
  termination_by bs => bs.length
  decreasing_by simp only [List.length_cons]; omega

def decodeLossy (bs : Bytes) : List Char := (chars bs).map (·.getD replacement)

def decode? (bs : Bytes) : Option (List Char) := (chars bs).mapM id

end FrameServer.Utf8

namespace FrameServer

def textBytes (s : String) : Bytes := Utf8.encode s.toList
def lossyText (bs : Bytes) : String := String.ofList (Utf8.decodeLossy bs)
def text? (bs : Bytes) : Option String := (Utf8.decode? bs).map String.ofList

end FrameServer

namespace FrameServer.Hex

def digit (n : Nat) : Char := (Nat.toDigits 16 (n % 16)).headD '0'

def value? (c : Char) : Option Nat :=
  if '0' ≤ c ∧ c ≤ '9' then some (c.toNat - 48)
  else if 'a' ≤ c ∧ c ≤ 'f' then some (c.toNat - 87)
  else if 'A' ≤ c ∧ c ≤ 'F' then some (c.toNat - 55)
  else none

def encode (bs : Bytes) : List Char := bs.flatMap fun b => [digit (b.toNat / 16), digit b.toNat]

def decode : List Char → Bytes
  | a :: b :: rest => ((value? a).getD 0 * 16 + (value? b).getD 0).toUInt8 :: decode rest
  | _ => []

end FrameServer.Hex
