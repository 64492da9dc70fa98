import Mathlib.Algebra.Group.Nat.Defs
import FrameServer.Proofs.Framing.Front

namespace FrameServer.Framing

/-- A buffer whose searched bytes are counted with a word. -/
structure WordBacklog where
  bytes : Bytes := []
  scanned : UInt64 := 0

namespace WordBacklog

def length (b : WordBacklog) : UInt64 := UInt64.ofNat b.bytes.length

def backlog (b : WordBacklog) : Backlog := ⟨b.bytes, b.scanned.toNat⟩

end WordBacklog

/-- The sum of two words, or the greatest word if the sum is none. -/
def saturatingAdd (a b : UInt64) : UInt64 := if a + b < a then ~~~0 else a + b

def takeUntilWord (stop : UInt8) (max : UInt64) (b : WordBacklog) : Taken × WordBacklog :=
  let readTo := min b.length (saturatingAdd max 1)
  let start := min b.scanned readTo
  match ((b.bytes.take readTo.toNat).drop start.toNat).idxOf? stop with
  | some offset =>
    let pos := start + UInt64.ofNat offset
    (.ok (some (b.bytes.take pos.toNat)), ⟨b.bytes.drop (pos + 1).toNat, 0⟩)
  | none =>
    if max < b.length then (.error (.tooLarge b.length.toNat max.toNat), ⟨b.bytes, 0⟩)
    else (.ok none, ⟨b.bytes, readTo⟩)

def takePrefixedWord (max : UInt64) (b : WordBacklog) : Taken × WordBacklog :=
  match b.bytes with
  | p :: q :: r :: s :: rest =>
    let size := ((p.toUInt64 * 256 + q.toUInt64) * 256 + r.toUInt64) * 256 + s.toUInt64
    if max < size then (.error (.tooLarge size.toNat max.toNat), b)
    else if b.length < 4 + size then (.ok none, b)
    else (.ok (some (rest.take size.toNat)), { b with bytes := rest.drop size.toNat })
  | _ => (.ok none, b)

def decodeWord (kind : Kind) (max : UInt64) (b : WordBacklog) : Taken × WordBacklog :=
  match kind with
  | .line =>
    match takeUntilWord lf max b with
    | (.ok (some m), b') => (.ok (some (stripCr m)), b')
    | r => r
  | .delimiter d => takeUntilWord d max b
  | .lengthPrefixed => takePrefixedWord max b

theorem toNat_add_of_lt {a b : UInt64} (h : a.toNat + b.toNat < 2 ^ 64) : (a + b).toNat = a.toNat + b.toNat := by
  rw [UInt64.toNat_add, Nat.mod_eq_of_lt h]

theorem toNat_saturatingAdd (a b : UInt64) : (saturatingAdd a b).toNat = min (a.toNat + b.toNat) (2 ^ 64 - 1) := by
  have ha := a.toNat_lt
  have hb := b.toNat_lt
  have greatest : (~~~0 : UInt64).toNat = 2 ^ 64 - 1 := rfl
  simp only [saturatingAdd, UInt64.lt_iff_toNat_lt, apply_ite UInt64.toNat, greatest, UInt64.toNat_add]
  split <;> omega

theorem toNat_prefixLength (p q r s : UInt8) :
    (((p.toUInt64 * 256 + q.toUInt64) * 256 + r.toUInt64) * 256 + s.toUInt64).toNat = prefixLength p q r s := by
  have hp := p.toNat_lt
  have hq := q.toNat_lt
  have hr := r.toNat_lt
  have hs := s.toNat_lt
  have base : (256 : UInt64).toNat = 256 := rfl
  simp only [UInt64.toNat_add, UInt64.toNat_mul, UInt8.toNat_toUInt64, base, prefixLength]
  omega

theorem locate_eq_idxOf? (stop : UInt8) (i limit : Nat) (w : Bytes) :
    locate stop i limit w = ((w.take limit).idxOf? stop).map (i + ·) := by
  induction w generalizing i limit with
  | nil => cases limit <;> rfl
  | cons b w ih =>
    cases limit with
    | zero => rfl
    | succ limit =>
      rw [locate, List.take_succ_cons, List.idxOf?_cons, ih]
      by_cases h : b = stop
      · simp [h]
      · cases (w.take limit).idxOf? stop with
        | none => simp [h]
        | some k =>
          simp [h]
          omega

section

variable (b : WordBacklog) (short : b.bytes.length < 2 ^ 64)
include short

theorem WordBacklog.toNat_length : b.length.toNat = b.bytes.length :=
  UInt64.toNat_ofNat_of_lt' short

theorem takeUntilWord_eq (stop : UInt8) (max : UInt64) (within : b.scanned.toNat ≤ b.bytes.length)
    (limited : b.scanned.toNat ≤ max.toNat) :
    takeUntil stop max.toNat b.backlog = (takeUntilWord stop max b).map id WordBacklog.backlog := by
  have length : b.length.toNat = b.bytes.length := b.toNat_length short
  have one : (1 : UInt64).toNat = 1 := rfl
  have readTo : (min b.length (saturatingAdd max 1)).toNat = min b.bytes.length (max.toNat + 1) := by
    rw [UInt64.toNat_min, toNat_saturatingAdd, length, one]
    omega
  have start : (min b.scanned (min b.length (saturatingAdd max 1))).toNat = b.scanned.toNat := by
    rw [UInt64.toNat_min, readTo]
    omega
  have window : (b.bytes.take (min b.bytes.length (max.toNat + 1))).drop b.scanned.toNat =
      (b.bytes.drop b.scanned.toNat).take (max.toNat + 1 - b.scanned.toNat) := by
    rw [← List.drop_take, List.take_eq_take_min (i := max.toNat + 1), Nat.min_comm]
  have resumed : min b.scanned.toNat (max.toNat + 1) = b.scanned.toNat := by omega
  simp only [takeUntil, takeUntilWord, WordBacklog.backlog, locate_eq_idxOf?, resumed, readTo, start, ← window]
  cases found : ((b.bytes.take (min b.bytes.length (max.toNat + 1))).drop b.scanned.toNat).idxOf? stop with
  | none =>
    simp only [Option.map_none, UInt64.lt_iff_toNat_lt, length, gt_iff_lt]
    split
    next => rfl
    next fits =>
      have all : b.bytes.length = min b.bytes.length (max.toNat + 1) := by omega
      simp only [Prod.map_apply, id_eq, WordBacklog.backlog, readTo, ← all]
  | some offset =>
    obtain ⟨inside, -⟩ := List.idxOf?_eq_some_iff.mp found
    rw [List.length_drop, List.length_take] at inside
    have offset_toNat : (UInt64.ofNat offset).toNat = offset := UInt64.toNat_ofNat_of_lt' (by
      show offset < 2 ^ 64
      omega)
    have pos : (min b.scanned (min b.length (saturatingAdd max 1)) + UInt64.ofNat offset).toNat =
        b.scanned.toNat + offset := by
      rw [toNat_add_of_lt (by omega), start, offset_toNat]
    have next : (min b.scanned (min b.length (saturatingAdd max 1)) + UInt64.ofNat offset + 1).toNat =
        b.scanned.toNat + offset + 1 := by
      rw [toNat_add_of_lt (by omega), pos, one]
    simp only [Option.map_some, pos, next]
    rfl

theorem takePrefixedWord_eq (max : UInt64) :
    takePrefixed max.toNat b.backlog = (takePrefixedWord max b).map id WordBacklog.backlog := by
  have length : b.length.toNat = b.bytes.length := b.toNat_length short
  obtain ⟨bytes, scanned⟩ := b
  rcases bytes with _ | ⟨p, _ | ⟨q, _ | ⟨r, _ | ⟨s, rest⟩⟩⟩⟩
  case cons.cons.cons.cons =>
    have size := toNat_prefixLength p q r s
    have small : prefixLength p q r s ≤ 0xFFFFFFFF := (lengthPrefix_prefixLength p q r s).2
    have four : (4 : UInt64).toNat = 4 := rfl
    have total := toNat_add_of_lt (a := 4)
      (b := ((p.toUInt64 * 256 + q.toUInt64) * 256 + r.toUInt64) * 256 + s.toUInt64) (by omega)
    simp only [takePrefixed, takePrefixedWord, WordBacklog.backlog, UInt64.lt_iff_toNat_lt, total, length, size, four,
      gt_iff_lt, List.length_take, List.length_cons]
    split
    · rfl
    · by_cases part : rest.length < prefixLength p q r s
      · rw [if_pos (by omega), if_pos (by omega)]
        rfl
      · rw [if_neg (by omega), if_neg (by omega)]
        rfl
  all_goals rfl

/-- With words an attempt gives the same message or error, and leaves the same buffer, as with numbers. -/
theorem decodeWord_eq (kind : Kind) (max : UInt64) (searched : Searched ⟨kind, max.toNat⟩ b.backlog) :
    Framing.decode ⟨kind, max.toNat⟩ b.backlog = (decodeWord kind max b).map id WordBacklog.backlog := by
  cases kind with
  | line =>
    obtain ⟨within, limited, -⟩ := searched
    simp only [decode, decodeWord, takeUntilWord_eq b short lf max within limited]
    rcases takeUntilWord lf max b with ⟨_ | _ | _, _⟩ <;> rfl
  | delimiter d =>
    obtain ⟨within, limited, -⟩ := searched
    exact takeUntilWord_eq b short d max within limited
  | lengthPrefixed => exact takePrefixedWord_eq b short max

end

/-- With the greatest limit there is no place behind it, and all that is held is searched. -/
example : (decodeWord .line (~~~0) ⟨[97, 98, lf, 99], 2⟩).1 = .ok (some [97, 98]) := by decide

end FrameServer.Framing
