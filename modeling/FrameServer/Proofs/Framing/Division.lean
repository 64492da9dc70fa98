import FrameServer.Proofs.Framing.Search

namespace FrameServer.Framing

/-- How a stream that is divided as a whole comes to its end. -/
inductive Ending
  | clean
  /-- At bytes without a terminator that are more than the limit. -/
  | overlong
  /-- At a length prefix that announces more than the limit. -/
  | announced (size : Nat)
  | truncated (expected received : Nat)
  deriving DecidableEq, Repr

/-- The error that tells of an ending. The size of overlong bytes depends on how many were read. -/
def Ending.Shows (max : Nat) : Ending → Option FrameError → Prop
  | clean, e => e = none
  | overlong, e => ∃ size, max < size ∧ e = some (.tooLarge size max)
  | announced size, e => e = some (.tooLarge size max)
  | truncated expected received, e => e = some (.truncated expected received)

/-- A stream divided as a whole. -/
structure Division where
  messages : List Bytes
  ending : Ending
  deriving DecidableEq, Repr

/-- The division of a stream that has further messages in front. -/
def Division.after (ms : List Bytes) (d : Division) : Division := { d with messages := ms ++ d.messages }

/-- Delivers the pieces between terminators up to the first one that is too long. The last piece is what
follows the last terminator. -/
def deliver (max : Nat) (piece : Bytes → Bytes) (tail : Bytes → List Bytes) : List Bytes → Division
  | [] => ⟨[], .clean⟩
  | [t] => if max < t.length then ⟨[], .overlong⟩ else ⟨tail t, .clean⟩
  | p :: q :: ps =>
    if max < p.length then ⟨[], .overlong⟩ else (deliver max piece tail (q :: ps)).after [piece p]

def divideCounted (max : Nat) : Bytes → Division
  | p :: q :: r :: s :: rest =>
    let size := prefixLength p q r s
    if max < size then ⟨[], .announced size⟩
    else if rest.length < size then ⟨[], .truncated size rest.length⟩
    else (divideCounted max (rest.drop size)).after [rest.take size]
  | _ => ⟨[], .clean⟩
termination_by w => w.length
decreasing_by
  simp only [List.length_drop, List.length_cons]
  omega

/-- Lines end at line feeds and lose one carriage return; a last line without an end is a message unless it
is empty. Other terminators stay as they are, and what follows the last one is dropped. -/
def divide (f : Framing) (w : Bytes) : Division :=
  match f.kind with
  | .line => deliver f.max stripCr (fun t => if t = [] then [] else [stripCr t]) (w.splitOn lf)
  | .delimiter d => deliver f.max id (fun _ => []) (w.splitOn d)
  | .lengthPrefixed => divideCounted f.max w

@[simp] theorem Division.after_nil (d : Division) : d.after [] = d := rfl

@[simp] theorem Division.after_after (ms ns : List Bytes) (d : Division) :
    (d.after ns).after ms = d.after (ms ++ ns) := by
  simp [Division.after]

@[simp] theorem Division.after_messages (ms : List Bytes) (d : Division) :
    (d.after ms).messages = ms ++ d.messages := rfl

@[simp] theorem Division.after_ending (ms : List Bytes) (d : Division) :
    (d.after ms).ending = d.ending := rfl

section Deliver

variable (max : Nat) (piece : Bytes → Bytes) (tail : Bytes → List Bytes)

theorem deliver_cons (p : Bytes) (ps : List Bytes) (hne : ps ≠ []) (hp : p.length ≤ max) :
    deliver max piece tail (p :: ps) = (deliver max piece tail ps).after [piece p] := by
  cases ps with
  | nil => exact absurd rfl hne
  | cons q ps => rw [deliver, if_neg (by omega)]

theorem deliver_overlong (p : Bytes) (ps : List Bytes) (hp : max < p.length) :
    deliver max piece tail (p :: ps) = ⟨[], .overlong⟩ := by
  cases ps <;> simp [deliver, hp]

theorem deliver_split (stop : UInt8) (p rest : Bytes) (hs : stop ∉ p) (hp : p.length ≤ max) :
    deliver max piece tail ((p ++ stop :: rest).splitOn stop) =
      (deliver max piece tail (rest.splitOn stop)).after [piece p] := by
  rw [List.splitOn_append_cons_self_of_not_mem hs]
  exact deliver_cons max piece tail p _ (List.splitOn_ne_nil _ _) hp

/-- Bytes that run on past the limit without a terminator are the end, whatever follows. -/
theorem deliver_split_overlong (stop : UInt8) (w : Bytes) (hs : stop ∉ w.take (max + 1))
    (hl : max < w.length) : deliver max piece tail (w.splitOn stop) = ⟨[], .overlong⟩ := by
  by_cases hm : stop ∈ w
  · obtain ⟨p, rest, rfl, hp⟩ := List.eq_append_cons_of_mem hm
    rw [List.splitOn_append_cons_self_of_not_mem hp]
    apply deliver_overlong
    refine Nat.lt_of_not_le fun hle => hs ?_
    rw [List.mem_take_iff_getElem]
    exact ⟨p.length, by simp; omega, by simp⟩
  · rw [List.splitOn_eq_singleton hm]
    exact deliver_overlong max piece tail w [] hl

theorem deliver_tail (stop : UInt8) (w : Bytes) (hs : stop ∉ w) (hl : w.length ≤ max) :
    deliver max piece tail (w.splitOn stop) = ⟨tail w, .clean⟩ := by
  rw [List.splitOn_eq_singleton hs, deliver, if_neg (by omega)]

end Deliver

theorem divideCounted_announced (max : Nat) (p q r s : UInt8) (rest : Bytes)
    (h : max < prefixLength p q r s) :
    divideCounted max (p :: q :: r :: s :: rest) = ⟨[], .announced (prefixLength p q r s)⟩ := by
  rw [divideCounted]
  simp [h]

theorem divideCounted_message (max : Nat) (p q r s : UInt8) (rest : Bytes)
    (hm : prefixLength p q r s ≤ max) (hr : prefixLength p q r s ≤ rest.length) :
    divideCounted max (p :: q :: r :: s :: rest) =
      (divideCounted max (rest.drop (prefixLength p q r s))).after [rest.take (prefixLength p q r s)] := by
  rw [divideCounted]
  simp [Nat.not_lt.mpr hm, Nat.not_lt.mpr hr]

theorem divideCounted_truncated (max : Nat) (p q r s : UInt8) (rest : Bytes)
    (hm : prefixLength p q r s ≤ max) (hr : rest.length < prefixLength p q r s) :
    divideCounted max (p :: q :: r :: s :: rest) =
      ⟨[], .truncated (prefixLength p q r s) rest.length⟩ := by
  rw [divideCounted]
  simp [Nat.not_lt.mpr hm, hr]

end FrameServer.Framing
