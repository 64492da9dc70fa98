import Mathlib.Data.List.Induction
import FrameServer.Proofs.Framing.RoundTrip
import FrameServer.Proofs.Session.Ledger

namespace FrameServer.Session

open Lane (Kept Mixed Clean)

def enter (s : Session) (book : List Writing) : Move → List Writing
  | .lane m => s.lane.enter book m
  | _ => book

def play (s : Session) : List Move → Option Session
  | [] => some s
  | m :: ms => (s.step m).bind (·.play ms)

/-- The ledger after a list of moves. -/
def ledger (s : Session) (book : List Writing) : List Move → List Writing
  | [] => book
  | m :: ms =>
    match s.step m with
    | none => book
    | some s' => s'.ledger (s.enter book m) ms

def Tears (s : Session) (book : List Writing) (m : Move) : Prop := ∃ lm, m = .lane lm ∧ s.lane.Tears book lm

/-- Whether a send is given up in the middle of its frame, and bytes are taken after that. -/
def Disturbed (s : Session) (ms : List Move) : Prop :=
  ∃ before m after s' n, ms = before ++ m :: after ∧ s.play before = some s' ∧ s'.Tears (s.ledger [] before) m ∧
    .lane (.accept n) ∈ after

variable {s s' s'' : Session} {m : Move} {ms ms' : List Move} {f : Framing} {book : List Writing} {n n' : Nat}

theorem play_append : s.play (ms ++ ms') = some s'' ↔ ∃ s', s.play ms = some s' ∧ s'.play ms' = some s'' := by
  induction ms generalizing s with
  | nil => simp [play]
  | cons l ms ih =>
    simp only [List.cons_append, play, Option.bind_eq_some_iff, ih]
    constructor
    · rintro ⟨x, first, y, rest, later⟩
      exact ⟨y, ⟨x, first, rest⟩, later⟩
    · rintro ⟨y, ⟨x, first, rest⟩, later⟩
      exact ⟨x, first, y, rest, later⟩

theorem play_snoc : s.play (ms ++ [m]) = some s'' ↔ ∃ s', s.play ms = some s' ∧ s'.step m = some s'' := by
  simp only [play_append, play, Option.bind_eq_some_iff, Option.some.injEq, exists_eq_right]

/-- What is true at the start, and of every move after those for which it is, is true of all moves. -/
theorem play_induction {P : List Move → Session → Prop} (start : P [] s)
    (step : ∀ ms m x y, s.play ms = some x → x.step m = some y → P ms x → P (ms ++ [m]) y)
    (run : s.play ms = some s') : P ms s' := by
  induction ms using List.reverseRecOn generalizing s' with
  | nil =>
    obtain rfl := Option.some.inj run
    exact start
  | append_singleton ms m ih =>
    obtain ⟨x, before, made⟩ := play_snoc.mp run
    exact step ms m x s' before made (ih before)

theorem play_split {before after : List Move} (run : s.play (before ++ m :: after) = some s') :
    ∃ x y, s.play before = some x ∧ x.step m = some y ∧ y.play after = some s' := by
  obtain ⟨x, first, rest⟩ := play_append.mp run
  obtain ⟨y, made, rest⟩ := Option.bind_eq_some_iff.mp rest
  exact ⟨x, y, first, made, rest⟩

theorem ledger_append {book : List Writing} (h : s.play ms = some s') :
    s.ledger book (ms ++ ms') = s'.ledger (s.ledger book ms) ms' := by
  induction ms generalizing s book with
  | nil =>
    obtain rfl := Option.some.inj h
    rfl
  | cons l ms ih =>
    obtain ⟨t, ht, h⟩ := Option.bind_eq_some_iff.mp h
    simp only [List.cons_append, ledger, ht, ih h]

theorem ledger_concat (h : s.play ms = some s') (hm : s'.step m = some s'') :
    s.ledger book (ms ++ [m]) = s'.enter (s.ledger book ms) m := by
  rw [ledger_append h]
  simp only [ledger, hm]

theorem Path.play (h : s.Path n ms n' s') : s.play ms = some s' := by
  induction h with
  | nil => rfl
  | snoc _ m hs _ _ ih => exact play_snoc.mpr ⟨_, ih, hs⟩

/-- A move of a session is a move of its lane, or leaves its turn and its wire as they are. -/
inductive OnLane (s s' : Session) (book : List Writing) (m : Move) : Prop
  | move (lm : Lane.Move) (lane : s.lane.step lm = some s'.lane) (entered : s.enter book m = s.lane.enter book lm)
      (tears : s.Tears book m ↔ s.lane.Tears book lm) (accepts : ∀ n, m = .lane (.accept n) ↔ lm = .accept n)
      (sends : ∀ t msg, lm = .request t (.message msg) → m = .send t msg ∨ m = .lane (.request t (.message msg)))
  | still (framing : s'.lane.framing = s.lane.framing) (turn : s'.lane.turn = s.lane.turn)
      (wire : s'.lane.wire = s.lane.wire) (queue : s'.lane.queue = s.lane.queue)
      (entered : s.enter book m = book) (calm : ¬ s.Tears book m) (silent : ∀ n, m ≠ .lane (.accept n))

theorem onLane (book : List Writing) (h : s.step m = some s') : OnLane s s' book m := by
  have asks : ∀ t job, ¬ s.lane.Tears book (.request t job) := by
    rintro t job ⟨_, _, _, _, -, -, -, -, he | ⟨_, he⟩⟩ <;> cases he
  cases (step_change h).lane with
  | ask t msg _ lane => exact .move _ lane rfl (by simp [Tears, asks]) (by simp) (by simp)
  | refuse t msg _ lane =>
    exact .still (by rw [lane]; rfl) (by rw [lane]; rfl) (by rw [lane]; rfl) (by rw [lane]; rfl) rfl
      (by simp [Tears]) (by simp)
  | release t _ lane => exact .move _ lane rfl (by simp [Tears, asks]) (by simp) (by simp)
  | move lm lane => exact .move lm lane rfl (by simp [Tears]) (by simp) (by simp)
  | none other lane =>
    have entered : s.enter book m = book := by
      cases m with
      | lane lm => exact absurd rfl (other lm)
      | _ => rfl
    refine .still (by rw [lane]) (by rw [lane]) (by rw [lane]) (by rw [lane]) entered ?_ fun n => other _
    rintro ⟨lm, he, -⟩
    exact other lm he

theorem kept_step (kept : Kept f s.lane book) (h : s.step m = some s') : Kept f s'.lane (s.enter book m) := by
  cases onLane book h with
  | move lm lane entered => exact entered ▸ kept.step lane
  | still framing turn wire _ entered =>
    rw [entered]
    exact ⟨framing.trans kept.framing, kept.sound, wire.trans kept.wire, turn ▸ kept.turn⟩

theorem hasTorn_step (kept : Kept f s.lane book) (h : s.step m = some s') :
    s'.lane.HasTorn (s.enter book m) ↔ s.lane.HasTorn book ∨ s.Tears book m := by
  cases onLane book h with
  | move lm lane entered tears => rw [entered, tears, Lane.hasTorn_step kept lane]
  | still _ turn _ _ entered calm => simp only [entered, Lane.HasTorn, Lane.behind, turn, calm, or_false]

theorem mixed_step (kept : Kept f s.lane book) (h : s.step m = some s') :
    Mixed (s.enter book m) ↔ Mixed book ∨ s.lane.HasTorn book ∧ ∃ n, m = .lane (.accept n) := by
  cases onLane book h with
  | move lm lane entered tears accepts => simp only [entered, accepts, Lane.mixed_step kept lane]
  | still _ _ _ _ entered calm silent => simp only [entered, silent, exists_false, and_false, or_false]

theorem kept_of_play (run : s.play ms = some s') (fresh : s.lane = { framing := f }) :
    Kept f s'.lane (s.ledger [] ms) := by
  refine play_induction (P := fun ms x => Kept f x.lane (s.ledger [] ms)) ?_ ?_ run
  · rw [fresh]
    exact Lane.kept_empty f
  · intro ms m x y before made ih
    rw [ledger_concat before made]
    exact kept_step ih made

theorem Path.kept (fresh : s.lane = { framing := f }) (path : s.Path n ms n' s') : Kept f s'.lane (s.ledger [] ms) :=
  kept_of_play path.play fresh

def Tore (s : Session) (ms : List Move) : Prop :=
  ∃ before m after s', ms = before ++ m :: after ∧ s.play before = some s' ∧ s'.Tears (s.ledger [] before) m

theorem split_concat {before after : List Move} {x : Move} (h : ms ++ [m] = before ++ x :: after) :
    (before = ms ∧ x = m ∧ after = []) ∨ ∃ after', after = after' ++ [m] ∧ ms = before ++ x :: after' := by
  rcases List.eq_nil_or_concat after with rfl | ⟨after', y, rfl⟩
  · obtain ⟨rfl, he⟩ := List.append_inj' h rfl
    exact .inl ⟨rfl, (List.cons.inj he).1.symm, rfl⟩
  · have moved : ms ++ [m] = (before ++ x :: after') ++ [y] := by simpa using h
    obtain ⟨rfl, he⟩ := List.append_inj' moved rfl
    obtain rfl := (List.cons.inj he).1
    exact .inr ⟨after', by simp, rfl⟩

theorem tore_concat (h : s.play ms = some s') : s.Tore (ms ++ [m]) ↔ s.Tore ms ∨ s'.Tears (s.ledger [] ms) m := by
  constructor
  · rintro ⟨before, x, after, t, split, ht, tears⟩
    rcases split_concat split with ⟨rfl, rfl, -⟩ | ⟨after', rfl, rfl⟩
    · obtain rfl := Option.some.inj (h.symm.trans ht)
      exact .inr tears
    · exact .inl ⟨before, x, after', t, rfl, ht, tears⟩
  · rintro (⟨before, x, after, t, rfl, ht, tears⟩ | tears)
    · exact ⟨before, x, after ++ [m], t, by simp, ht, tears⟩
    · exact ⟨ms, m, [], s', rfl, h, tears⟩

theorem Tore.disturbed (h : s.Tore ms) (more : List Move) (i : Nat) (taken : .lane (.accept i) ∈ more) :
    s.Disturbed (ms ++ more) := by
  obtain ⟨before, x, after, t, rfl, ht, tears⟩ := h
  exact ⟨before, x, after ++ more, t, i, by simp, ht, tears, List.mem_append_right _ taken⟩

theorem disturbed_concat (h : s.play ms = some s') :
    s.Disturbed (ms ++ [m]) ↔ s.Disturbed ms ∨ s.Tore ms ∧ ∃ n, m = .lane (.accept n) := by
  constructor
  · rintro ⟨before, x, after, t, n, split, ht, tears, later⟩
    rcases split_concat split with ⟨-, -, rfl⟩ | ⟨after', rfl, rfl⟩
    · cases later
    · rcases List.mem_append.mp later with later | later
      · exact .inl ⟨before, x, after', t, n, rfl, ht, tears, later⟩
      · exact .inr ⟨⟨before, x, after', t, rfl, ht, tears⟩, n, (List.mem_singleton.mp later).symm⟩
  · rintro (⟨before, x, after, t, n, rfl, ht, tears, later⟩ | ⟨tore, n, rfl⟩)
    · exact ⟨before, x, after ++ [m], t, n, by simp, ht, tears, List.mem_append_left _ later⟩
    · exact tore.disturbed _ n (List.mem_singleton.mpr rfl)

theorem Path.hasTorn_iff (fresh : s.lane = { framing := f }) (path : s.Path n ms n' s') :
    s'.lane.HasTorn (s.ledger [] ms) ↔ s.Tore ms := by
  induction path with
  | nil =>
    constructor
    · rintro ⟨w, hw, -⟩
      simp [Lane.behind, ledger] at hw
    · rintro ⟨before, x, after, t, split, -⟩
      cases before <;> cases split
  | snoc path m hs _ _ ih =>
    rw [ledger_concat path.play hs, hasTorn_step (path.kept fresh) hs, tore_concat path.play, ih]

theorem Path.mixed_iff (fresh : s.lane = { framing := f }) (path : s.Path n ms n' s') :
    Mixed (s.ledger [] ms) ↔ s.Disturbed ms := by
  induction path with
  | nil =>
    constructor
    · exact fun h => h.elim
    · rintro ⟨before, x, after, t, n, split, -⟩
      cases before <;> cases split
  | snoc path m hs _ _ ih =>
    rw [ledger_concat path.play hs, mixed_step (path.kept fresh) hs, disturbed_concat path.play, ih,
      path.hasTorn_iff fresh]

/-- What is written, and what waits to be, was sent. -/
structure Asked (ms : List Move) (l : Lane) (book : List Writing) : Prop where
  queue : ∀ t msg, (t, .message msg) ∈ l.queue → .send t msg ∈ ms
  book : ∀ w ∈ book, .send w.ticket w.message ∈ ms

theorem Path.asked (fresh : s.lane = { framing := f }) (path : s.Path n ms n' s') :
    Asked ms s'.lane (s.ledger [] ms) := by
  induction path with
  | nil => exact ⟨fun t msg h => by simp [fresh] at h, fun w hw => by cases hw⟩
  | snoc path m hs _ fits ih =>
    rw [ledger_concat path.play hs]
    cases onLane (s.ledger [] _) hs with
    | move lm lane entered _ _ sends =>
      rw [entered]
      constructor
      · intro t msg hq
        rcases Lane.queued_of_step lane hq with hq | he
        · exact List.mem_append_left _ (ih.queue t msg hq)
        · rcases sends t msg he with rfl | rfl
          · exact List.mem_append_right _ (List.mem_singleton.mpr rfl)
          · exact fits.elim
      · intro w hw
        rcases Lane.entered_of_step lane hw with ⟨v, hv, ticket, message⟩ | hq
        · exact List.mem_append_left _ (ticket ▸ message ▸ ih.book v hv)
        · exact List.mem_append_left _ (ih.queue _ _ hq)
    | still _ _ _ queue entered =>
      rw [entered]
      constructor
      · intro t msg hq
        exact List.mem_append_left _ (ih.queue t msg (queue ▸ hq))
      · intro w hw
        exact List.mem_append_left _ (ih.book w hw)

/-- Whether bytes are whole frames of messages that were sent, and then a frame that is cut short at most. -/
def WholeThenCut (f : Framing) (sent : Bytes → Prop) (wire : Bytes) (messages : List Bytes) (cut : Bytes) : Prop :=
  (∀ m ∈ messages, sent m) ∧ (∃ frames, f.encodeAll messages = .ok frames ∧ wire = frames ++ cut) ∧
    (cut = [] ∨ ∃ m w, sent m ∧ f.encode m = .ok w ∧ cut <+: w ∧ cut ≠ w)

theorem flatMap_begun (ws : List Writing) : (ws.filter (0 < ·.taken)).flatMap (·.part) = ws.flatMap (·.part) := by
  induction ws with
  | nil => rfl
  | cons w ws ih =>
    by_cases hw : 0 < w.taken
    · have begun : (w :: ws).filter (0 < ·.taken) = w :: ws.filter (0 < ·.taken) :=
        List.filter_cons_of_pos (decide_eq_true hw)
      rw [begun, List.flatMap_cons, List.flatMap_cons, ih]
    · have begun : (w :: ws).filter (0 < ·.taken) = ws.filter (0 < ·.taken) :=
        List.filter_cons_of_neg (by simpa using hw)
      have empty : w.part = [] := by
        simp [Writing.part, Nat.eq_zero_of_not_pos hw]
      rw [begun, List.flatMap_cons, empty, List.nil_append, ih]

theorem encodeAll_whole (ws : List Writing) (sound : ∀ w ∈ ws, w.Sound f)
    (whole : ∀ w ∈ ws, w.taken = w.frame.length) :
    f.encodeAll (ws.map (·.message)) = .ok (ws.flatMap (·.part)) := by
  induction ws with
  | nil => rfl
  | cons w ws ih =>
    have rest := ih (fun v hv => sound v (List.mem_cons_of_mem _ hv)) fun v hv => whole v (List.mem_cons_of_mem _ hv)
    have part : w.part = w.frame := by
      rw [Writing.part, whole w List.mem_cons_self, List.take_length]
    rw [List.map_cons, Framing.encodeAll, (sound w List.mem_cons_self).1, rest, List.flatMap_cons, part]

theorem wholeThenCut_of_clean (sent : Bytes → Prop) (sound : ∀ w ∈ book, w.Sound f)
    (asked : ∀ w ∈ book, sent w.message) (clean : Clean book) :
    ∃ messages cut, WholeThenCut f sent (book.reverse.flatMap (·.part)) messages cut := by
  obtain ⟨whole, cut, split, done, short, part⟩ := clean
  have entered : ∀ w, w ∈ whole ∨ w ∈ cut → w ∈ book := by
    intro w hw
    have among : w ∈ (book.filter (0 < ·.taken)).reverse := by
      rw [split]
      exact List.mem_append.mpr hw
    exact (List.mem_filter.mp (List.mem_reverse.mp among)).1
  refine ⟨whole.map (·.message), cut.flatMap (·.part), ?_, ⟨whole.flatMap (·.part), ?_, ?_⟩, ?_⟩
  · intro m hm
    obtain ⟨w, hw, rfl⟩ := List.mem_map.mp hm
    exact asked w (entered w (.inl hw))
  · exact encodeAll_whole whole (fun w hw => sound w (entered w (.inl hw))) done
  · rw [← List.flatMap_append, ← split, ← List.filter_reverse, flatMap_begun]
  · cases cut with
    | nil => exact .inl rfl
    | cons v none =>
      obtain rfl := List.eq_nil_of_length_eq_zero (Nat.le_zero.mp (Nat.le_of_succ_le_succ short))
      have mine := entered v (.inr List.mem_cons_self)
      have less := part v List.mem_cons_self
      refine .inr ⟨v.message, v.frame, asked v mine, (sound v mine).1, ?_, ?_⟩
      · simpa [Writing.part] using List.take_prefix v.taken v.frame
      · intro he
        have same : (v.frame.take v.taken).length = v.frame.length := by
          simpa [Writing.part] using congrArg List.length he
        rw [List.length_take] at same
        omega

/-- The send that is first in line, with nothing in its way. -/
structure Next (s : Session) (t : Ticket) (msg : Bytes) : Prop where
  idle : s.lane.turn = none
  unreleased : s.lane.released = false
  first : ∃ rest, s.lane.queue = (t, .message msg) :: rest

/-- The send that is first in line can write all of its frame. -/
theorem Path.write {t : Ticket} {msg w : Bytes} (path : s.Path n ms n' s') (next : s'.Next t msg)
    (frame : s'.lane.framing.encode msg = .ok w) :
    ∃ s'', s.Path n (ms ++ [.lane .grant, .lane (.accept w.length)]) n' s'' ∧ s''.lane.wire = s'.lane.wire ++ w := by
  obtain ⟨rest, first⟩ := next.first
  obtain ⟨u, granted, lane⟩ : ∃ u, s'.step (.lane .grant) = some u ∧
      u.lane = { s'.lane with queue := rest, turn := some (t, w) } := by
    refine ⟨_, by simp only [step, Lane.step, next.idle, first, Option.map_some]; rfl, ?_⟩
    simp [Lane.start, next.unreleased, frame]
  obtain ⟨v, taken, wire⟩ : ∃ v, u.step (.lane (.accept w.length)) = some v ∧ v.lane.wire = s'.lane.wire ++ w := by
    have all : 0 < w.length ∧ w.length ≤ w.length := ⟨Framing.encode_length_pos frame, Nat.le_refl _⟩
    refine ⟨_, by simp only [step, Lane.step, lane]; rw [if_pos all, Option.map_some], ?_⟩
    exact congrArg (s'.lane.wire ++ ·) (List.take_length)
  have further := (path.snoc _ granted (Nat.le_refl _) trivial).snoc _ taken (Nat.le_refl _) trivial
  rw [List.append_assoc] at further
  exact ⟨v, further, wire⟩

/-- The wire holds what was taken of each frame, in the order of the turns. These are whole frames and one that
is cut short at most, which the peer reads back as the messages that were sent, just as long as no bytes are
taken after a send was given up in the middle of its frame. After that nothing keeps the send that is next
from writing its frame. -/
theorem wire_whole_iff {f : Framing} {s s' : Session} {ms : List Move} {n n' : Nat}
    (fresh : s.lane = { framing := f }) (path : s.Path n ms n' s') :
    s'.lane.wire = (s.ledger [] ms).reverse.flatMap (·.part) ∧
    (∀ w ∈ s.ledger [] ms, .send w.ticket w.message ∈ ms ∧ w.Sound f) ∧
    (Clean (s.ledger [] ms) ↔ ¬ s.Disturbed ms) ∧
    (¬ s.Disturbed ms → ∃ messages cut,
      WholeThenCut f (fun m => ∃ t, .send t m ∈ ms) s'.lane.wire messages cut ∧
      f.divide s'.lane.wire = (f.divide cut).after (messages.flatMap f.kind.readBack)) ∧
    (∀ t msg w, s.Tore ms → s'.Next t msg → f.encode msg = .ok w → ∃ s'',
      s.Path n (ms ++ [.lane .grant, .lane (.accept w.length)]) n' s'' ∧ s''.lane.wire = s'.lane.wire ++ w ∧
      s.Disturbed (ms ++ [.lane .grant, .lane (.accept w.length)])) := by
  have kept := path.kept fresh
  have asked := path.asked fresh
  have clean : Clean (s.ledger [] ms) ↔ ¬ s.Disturbed ms := by
    rw [Lane.clean_iff kept.sound, path.mixed_iff fresh]
  refine ⟨kept.wire, fun w hw => ⟨asked.book w hw, kept.sound w hw⟩, clean, ?_, ?_⟩
  · intro undisturbed
    have bytes := wholeThenCut_of_clean (fun m => ∃ t, .send t m ∈ ms) kept.sound
      (fun w hw => ⟨w.ticket, asked.book w hw⟩) (clean.mpr undisturbed)
    rw [← kept.wire] at bytes
    obtain ⟨messages, cut, bytes⟩ := bytes
    refine ⟨messages, cut, bytes, ?_⟩
    obtain ⟨-, ⟨frames, encoded, wire⟩, -⟩ := bytes
    rw [wire]
    exact f.divide_encodeAll_append messages frames cut encoded
  · intro t msg w tore next frame
    obtain ⟨s'', further, wire⟩ := path.write next (kept.framing.symm ▸ frame)
    exact ⟨s'', further, wire, tore.disturbed _ w.length (by simp)⟩

def unused : Session := { id := "s", lane := { framing := {} } }

/-- A line that is given up before its end, while another one waits. -/
def givenUp : List Move :=
  [.send 0 (textBytes "hi"), .send 1 (textBytes "ho"), .lane .grant, .lane (.accept 2), .lane (.abandon 0)]

theorem wire_whole_of_cut : ∃ s s' : Session, unused.Path 0 givenUp 2 s ∧
    s.lane.wire = textBytes "hi" ∧ ¬ unused.Disturbed givenUp ∧
    unused.Path 0 (givenUp ++ [.lane .grant, .lane (.accept 3)]) 2 s' ∧ s'.lane.wire = textBytes "hiho\n" ∧
    unused.Disturbed (givenUp ++ [.lane .grant, .lane (.accept 3)]) := by
  have first : unused.Path 0 [.send 0 (textBytes "hi")] 1 _ :=
    .single _ rfl (Nat.zero_le 1) ⟨Nat.le_refl 0, Nat.one_pos⟩
  have both := first.snoc (.send 1 (textBytes "ho")) rfl (Nat.le_succ 1) ⟨Nat.le_refl 1, Nat.lt_succ_self 1⟩
  have granted := both.snoc (.lane .grant) rfl (Nat.le_refl 2) trivial
  have begun := granted.snoc (.lane (.accept 2)) rfl (Nat.le_refl 2) trivial
  have path : unused.Path 0 givenUp 2 _ := begun.snoc (.lane (.abandon 0)) rfl (Nat.le_refl 2) trivial
  have tore : unused.Tore givenUp :=
    ⟨_, _, [], _, rfl, begun.play, .abandon 0, rfl, 0, _, _, [], rfl, by decide, rfl, by decide, .inl rfl⟩
  obtain ⟨-, -, clean, -, next⟩ := wire_whole_iff (f := {}) rfl path
  obtain ⟨s', further, wire, disturbed⟩ := next 1 (textBytes "ho") (textBytes "ho\n") tore ⟨rfl, rfl, [], rfl⟩ rfl
  exact ⟨_, s', path, rfl, clean.mp ⟨[], _, rfl, by simp, by decide, by decide⟩, further, wire, disturbed⟩

end FrameServer.Session
