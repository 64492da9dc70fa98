import FrameServer.Framing.Writer
import FrameServer.Proofs.Framing.RoundTrip

namespace FrameServer.Framing

/-- The frames of the messages that are not refused, one behind the other. -/
def stream (f : Framing) (ms : List Bytes) : Bytes := (ms.filterMap fun m => (f.encode m).toOption).flatten

/-- What comes of each message while there is room for `room` bytes. -/
def verdicts (f : Framing) (reason : String) : Nat → List Bytes → List (Except FrameError Unit)
  | _, [] => []
  | room, m :: ms =>
    match f.encode m with
    | .error e => .error e :: verdicts f reason room ms
    | .ok w => (if w.length ≤ room then .ok () else .error (.io reason)) :: verdicts f reason (room - w.length) ms

variable {f : Framing} {m w : Bytes} {ms ms' : List Bytes} {e : FrameError} {reason : String} {room i : Nat}

theorem stream_nil : f.stream [] = [] := rfl

theorem stream_append : f.stream (ms ++ ms') = f.stream ms ++ f.stream ms' := by
  simp only [stream, List.filterMap_append, List.flatten_append]

theorem stream_cons_ok (h : f.encode m = .ok w) : f.stream (m :: ms) = w ++ f.stream ms := by
  simp [stream, h, Except.toOption]

theorem stream_cons_error (h : f.encode m = .error e) : f.stream (m :: ms) = f.stream ms := by
  simp [stream, h, Except.toOption]

theorem stream_take_pos (h : ms[i]? = some m) (accepted : f.encode m = .ok w) :
    0 < (f.stream (ms.take (i + 1))).length := by
  have pos : 0 < w.length := encode_length_pos accepted
  rw [List.take_add_one, h, Option.toList_some, stream_append, stream_cons_ok accepted]
  simp only [List.length_append]
  omega

theorem length_verdicts : (f.verdicts reason room ms).length = ms.length := by
  induction ms generalizing room with
  | nil => rfl
  | cons m ms ih =>
    rw [verdicts]
    split <;> simp [ih]

/-- A message is written if it and all before it have room. -/
theorem verdicts_get (f : Framing) (reason : String) (room : Nat) (h : ms[i]? = some m) :
    (f.verdicts reason room ms)[i]? = some (match f.encode m with
    | .error e => .error e
    | .ok _ => if (f.stream (ms.take (i + 1))).length ≤ room then .ok () else .error (.io reason)) := by
  induction ms generalizing room i with
  | nil => cases h
  | cons first ms ih =>
    cases i with
    | zero =>
      obtain rfl := Option.some.inj h
      rw [verdicts]
      cases encoded : f.encode first with
      | error e => rfl
      | ok w => simp [stream_cons_ok encoded, stream_nil]
    | succ i =>
      rw [List.getElem?_cons_succ] at h
      rw [verdicts, List.take_succ_cons]
      cases first_encoded : f.encode first with
      | error e =>
        rw [List.getElem?_cons_succ, ih _ h, stream_cons_error first_encoded]
      | ok v =>
        rw [List.getElem?_cons_succ, ih _ h, stream_cons_ok first_encoded, List.length_append]
        cases encoded : f.encode m with
        | error e => rfl
        | ok w =>
          have pos := stream_take_pos h encoded
          have same : (f.stream (ms.take (i + 1))).length ≤ room - v.length ↔
              v.length + (f.stream (ms.take (i + 1))).length ≤ room := by omega
          simp only [same]

theorem verdicts_take : f.verdicts reason room (ms.take i) = (f.verdicts reason room ms).take i := by
  induction ms generalizing room i with
  | nil => simp [verdicts]
  | cons m ms ih =>
    cases i with
    | zero => rfl
    | succ i =>
      rw [List.take_succ_cons, verdicts, verdicts]
      split <;> rw [List.take_succ_cons, ih]

namespace Sink

variable {s : Sink}

/-- One write takes no more than is offered and fits, and something as long as there is room. -/
theorem takes_room (moves : s.perWrite ≠ some 0) (ends : s.room = some room) {n : Nat} (some : 0 < n) :
    s.takes n ≤ n ∧ s.takes n ≤ room ∧ (s.takes n = 0 ↔ room = 0) := by
  simp only [takes, ends]
  split
  next => omega
  next p limited =>
    have : p ≠ 0 := fun none => moves (by rw [limited, none])
    omega

/-- The bytes are offered until all are taken or no more fit. The fuel is enough, as every write takes something. -/
theorem writeAll_room (moves : s.perWrite ≠ some 0) (ends : s.room = some room) {fuel : Nat}
    (enough : w.length ≤ fuel) : ∃ writes, s.writeAll fuel w =
      (if w.length ≤ room then .ok () else .error (.io s.fullReason),
        { s with wire := s.wire ++ w.take room, room := some (room - w.length), writes }) := by
  induction fuel generalizing s w room with
  | zero =>
    obtain rfl : w = [] := List.length_eq_zero_iff.mp (Nat.le_zero.mp enough)
    refine ⟨s.writes, ?_⟩
    simp [writeAll, ← ends]
  | succ fuel ih =>
    cases w with
    | nil =>
      refine ⟨s.writes, ?_⟩
      simp [writeAll, ← ends]
    | cons b bs =>
      have size : (b :: bs).length = bs.length + 1 := rfl
      obtain ⟨offered, fits, stuck⟩ := takes_room (n := (b :: bs).length) moves ends (Nat.succ_pos _)
      simp only [writeAll]
      generalize s.takes (b :: bs).length = n at offered fits stuck ⊢
      generalize b :: bs = w at size offered enough ⊢
      by_cases none : n = 0
      · obtain rfl := stuck.mp none
        refine ⟨s.writes + 1, ?_⟩
        rw [if_pos none, if_neg (by omega)]
        simp [← ends, fullReason]
      · have left : (w.drop n).length = w.length - n := List.length_drop
        have ends' : s.room.map (· - n) = some (room - n) := by rw [ends, Option.map_some]
        obtain ⟨writes, rest⟩ := ih (s := { s with
            writes := s.writes + 1, wire := s.wire ++ w.take n, room := s.room.map (· - n) })
          (w := w.drop n) moves ends' (by omega)
        refine ⟨writes, ?_⟩
        have joined : w.take n ++ (w.drop n).take (room - n) = w.take room := by
          rw [← List.take_add, Nat.add_sub_cancel' fits]
        have same : w.length - n ≤ room - n ↔ w.length ≤ room := by omega
        have after : room - n - (w.length - n) = room - w.length := by omega
        rw [if_neg none, rest]
        simp only [left, same, after, List.append_assoc, joined]
        rfl

theorem writeMessage_refused (refused : f.encode m = .error e) : s.writeMessage f m = (.error e, s) := by
  simp only [writeMessage, refused]

theorem writeMessage_accepted (moves : s.perWrite ≠ some 0) (ends : s.room = some room)
    (accepted : f.encode m = .ok w) : ∃ writes, s.writeMessage f m =
      (if w.length ≤ room then .ok () else .error (.io s.fullReason),
        { s with
          wire := s.wire ++ w.take room
          room := some (room - w.length)
          flushes := s.flushes + if w.length ≤ room then 1 else 0
          writes }) := by
  obtain ⟨writes, written⟩ := writeAll_room (w := w) moves ends (Nat.le_refl _)
  refine ⟨writes, ?_⟩
  simp only [writeMessage, accepted, written]
  by_cases fits : w.length ≤ room
  · simp only [if_pos fits]
  · simp only [if_neg fits]
    rfl

/-- Whatever is written at once, the messages fare as the room says. -/
theorem writeMessages_room (f : Framing) (ms : List Bytes) (moves : s.perWrite ≠ some 0) (ends : s.room = some room) :
    (s.writeMessages f ms).1 = f.verdicts s.fullReason room ms ∧ ∃ writes, (s.writeMessages f ms).2 = { s with
      wire := s.wire ++ (f.stream ms).take room
      room := some (room - (f.stream ms).length)
      flushes := s.flushes + (f.verdicts s.fullReason room ms).countP Except.isOk
      writes } := by
  induction ms generalizing s room with
  | nil => exact ⟨rfl, s.writes, by simp [writeMessages, verdicts, stream_nil, ← ends]⟩
  | cons m ms ih =>
    simp only [writeMessages, verdicts]
    cases encoded : f.encode m with
    | error e =>
      obtain ⟨results, writes, sink⟩ := ih moves ends
      rw [writeMessage_refused encoded, stream_cons_error encoded]
      refine ⟨by rw [results], writes, ?_⟩
      rw [sink, List.countP_cons_of_neg (by simp [Except.isOk, Except.toBool])]
    | ok w =>
      obtain ⟨n, written⟩ := writeMessage_accepted moves ends encoded
      rw [written]
      obtain ⟨results, writes, sink⟩ := ih (s := { s with
        wire := s.wire ++ w.take room
        room := some (room - w.length)
        flushes := s.flushes + if w.length ≤ room then 1 else 0
        writes := n }) moves rfl
      have counted (rest : List (Except FrameError Unit)) :
          ((if w.length ≤ room then .ok () else .error (.io s.fullReason)) :: rest).countP Except.isOk =
            (if w.length ≤ room then 1 else 0) + rest.countP Except.isOk := by
        rw [List.countP_cons, Nat.add_comm]
        split <;> rfl
      refine ⟨by rw [results]; rfl, writes, ?_⟩
      rw [sink, stream_cons_ok encoded]
      simp only [List.take_append, List.length_append, Nat.sub_sub, List.append_assoc, counted, Nat.add_assoc]
      rfl

/-- A message that is refused leaves the connection and the others as if it had not been there. -/
theorem writeMessages_refused (ms ms' : List Bytes) (refused : f.encode m = .error e) :
    s.writeMessages f (ms ++ m :: ms') =
      ((s.writeMessages f (ms ++ ms')).1.insertIdx ms.length (.error e), (s.writeMessages f (ms ++ ms')).2) := by
  induction ms generalizing s with
  | nil =>
    simp only [List.nil_append, writeMessages, writeMessage_refused refused, List.length_nil, List.insertIdx_zero]
  | cons first ms ih => simp only [List.cons_append, writeMessages, ih, List.length_cons, List.insertIdx_succ_cons]

/-- How messages fare that are written one after the other to a connection that takes `room` bytes. -/
structure Cut (s : Sink) (f : Framing) (room : Nat) (ms : List Bytes) : Prop where
  wire : (s.writeMessages f ms).2.wire = s.wire ++ (f.stream ms).take room
  each : (s.writeMessages f ms).1.length = ms.length
  ok : ∀ (i : Nat) m, ms[i]? = some m → ((s.writeMessages f ms).1[i]? = some (.ok ()) ↔
    (∃ w, f.encode m = .ok w) ∧ (f.stream (ms.take (i + 1))).length ≤ room)
  tooLarge : ∀ (i : Nat) m, ms[i]? = some m →
    ((∃ size max, (s.writeMessages f ms).1[i]? = some (.error (.tooLarge size max))) ↔ ∃ e, f.encode m = .error e)
  io : ∀ (i : Nat) m w, ms[i]? = some m → f.encode m = .ok w → room < (f.stream (ms.take (i + 1))).length →
    (s.writeMessages f ms).1[i]? = some (.error (.io s.fullReason))
  /-- Without the message, all else is the same. -/
  refused : ∀ (i : Nat) m e, ms[i]? = some m → f.encode m = .error e →
    (s.writeMessages f (ms.take (i + 1))).2 = (s.writeMessages f (ms.take i)).2 ∧
      (s.writeMessages f ms).1 = (s.writeMessages f (ms.eraseIdx i)).1.insertIdx i (.error e) ∧
      (s.writeMessages f ms).2 = (s.writeMessages f (ms.eraseIdx i)).2
  flushes : ∀ i, (s.writeMessages f (ms.take i)).2.flushes =
    s.flushes + ((s.writeMessages f ms).1.take i).countP Except.isOk
  pace : ∀ p, p ≠ some 0 → (Sink.writeMessages { s with perWrite := p } f ms).1 = (s.writeMessages f ms).1 ∧
    (Sink.writeMessages { s with perWrite := p } f ms).2.wire = (s.writeMessages f ms).2.wire

/-- However little is taken at once, the wire is cut at the end of the room, and each message fares as its frame and
those before it have room. -/
theorem writeMessages_cut (s : Sink) (f : Framing) (room : Nat) (ms : List Bytes) (moves : s.perWrite ≠ some 0)
    (ends : s.room = some room) : s.Cut f room ms := by
  obtain ⟨results, writes, sink⟩ := writeMessages_room f ms moves ends
  have fare {i : Nat} {m : Bytes} (h : ms[i]? = some m) := verdicts_get f s.fullReason room h
  constructor
  case wire => rw [sink]
  case each => rw [results, length_verdicts]
  case ok =>
    intro i m h
    rw [results, fare h]
    cases f.encode m <;> simp
  case tooLarge =>
    intro i m h
    rw [results, fare h]
    cases encoded : f.encode m with
    | error e =>
      obtain ⟨size, max, rfl⟩ := encode_fault encoded
      simp
    | ok w =>
      dsimp only
      split <;> simp
  case io =>
    intro i m w h accepted full
    rw [results, fare h, accepted]
    simp [Nat.not_le.mpr full]
  case refused =>
    intro i m e h refused
    obtain ⟨inside, at_⟩ := List.getElem?_eq_some_iff.mp h
    have length : (ms.take i).length = i := by
      rw [List.length_take]
      omega
    have split : ms = ms.take i ++ m :: ms.drop (i + 1) := by
      rw [← at_, ← List.drop_eq_getElem_cons inside, List.take_append_drop]
    have last : ms.take (i + 1) = ms.take i ++ [m] := by rw [List.take_add_one, h, Option.toList_some]
    have without : ms.eraseIdx i = ms.take i ++ ms.drop (i + 1) := List.eraseIdx_eq_take_drop_succ ..
    have whole := writeMessages_refused (s := s) (ms.take i) (ms.drop (i + 1)) refused
    rw [length, ← split, ← without] at whole
    refine ⟨?_, by rw [whole], by rw [whole]⟩
    rw [last, writeMessages_refused _ _ refused, List.append_nil]
  case flushes =>
    intro i
    obtain ⟨-, _, before⟩ := writeMessages_room f (ms.take i) moves ends
    rw [before, results, verdicts_take]
  case pace =>
    intro p moves'
    obtain ⟨results', _, sink'⟩ := writeMessages_room (s := { s with perWrite := p }) f ms moves' ends
    exact ⟨results'.trans results.symm, by rw [sink', sink]⟩

/-- A connection that breaks two bytes into the third of four messages, the second of which is refused. -/
def narrow : Sink := { room := some 5, perWrite := some 2 }

theorem writeMessages_cut_narrow : narrow.perWrite ≠ some 0 ∧ narrow.room = some 5 ∧
    narrow.Cut ⟨.delimiter 0, 3⟩ 5 [[1, 2], [9, 9, 9, 9], [3, 4, 5], [6]] ∧
    (narrow.writeMessages ⟨.delimiter 0, 3⟩ [[1, 2], [9, 9, 9, 9], [3, 4, 5], [6]]).1 =
      [.ok (), .error (.tooLarge 4 3), .error (.io "pipe broke"), .error (.io "pipe broke")] ∧
    (narrow.writeMessages ⟨.delimiter 0, 3⟩ [[1, 2], [9, 9, 9, 9], [3, 4, 5], [6]]).2.wire = [1, 2, 0, 3, 4] := by
  have cut := writeMessages_cut narrow ⟨.delimiter 0, 3⟩ 5 [[1, 2], [9, 9, 9, 9], [3, 4, 5], [6]] (by decide) rfl
  exact ⟨by decide, rfl, cut, rfl, cut.wire⟩

end Sink

end FrameServer.Framing
