import FrameServer.Proofs.Session.Standing

namespace FrameServer

/-- The turn of a send. -/
structure Writing where
  ticket : Ticket
  message : Bytes
  frame : Bytes
  taken : Nat := 0
  deriving DecidableEq, Repr

namespace Writing

def part (w : Writing) : Bytes := w.frame.take w.taken

/-- Whether a part of the frame was taken, and not all of it. -/
def Torn (w : Writing) : Prop := 0 < w.taken ∧ w.taken < w.frame.length

def Sound (f : Framing) (w : Writing) : Prop := f.encode w.message = .ok w.frame ∧ w.taken ≤ w.frame.length

end Writing

namespace Lane

/-- The ledger after a move. -/
def enter (l : Lane) (book : List Writing) : Move → List Writing
  | .grant =>
    match l.turn, l.queue with
    | none, (t, .message m) :: _ =>
      if l.released then book
      else match l.framing.encode m with
        | .ok w => { ticket := t, message := m, frame := w } :: book
        | .error _ => book
    | _, _ => book
  | .accept n =>
    match book with
    | w :: older => { w with taken := w.taken + n } :: older
    | [] => []
  | _ => book

/-- What the ledger says of a lane. -/
structure Kept (f : Framing) (l : Lane) (book : List Writing) : Prop where
  framing : l.framing = f
  sound : ∀ w ∈ book, w.Sound f
  wire : l.wire = book.reverse.flatMap (·.part)
  turn : ∀ t rest, l.turn = some (t, rest) → ∃ w older, book = w :: older ∧ w.ticket = t ∧ w.frame.drop w.taken = rest

/-- The turns that are over. -/
def behind (l : Lane) (book : List Writing) : List Writing := if l.turn.isSome then book.tail else book

/-- Whether a move ends a turn of which a part is written. -/
def Tears (l : Lane) (book : List Writing) (m : Move) : Prop :=
  ∃ t rest w older, l.turn = some (t, rest) ∧ rest ≠ [] ∧ book = w :: older ∧ 0 < w.taken ∧
    (m = .abandon t ∨ ∃ reason, m = .fail reason)

variable {l l' : Lane} {m : Move} {f : Framing} {book : List Writing}

section Entries

variable {t : Ticket} {rest : List (Ticket × Job)}

theorem enter_shutdown (first : l.queue = (t, .shutdown) :: rest) : l.enter book .grant = book := by
  simp only [enter, first]
  split
  next he =>
    obtain ⟨he, -⟩ := List.cons.inj he
    cases (Prod.mk.inj he).2
  · rfl

theorem enter_refuse {msg : Bytes} {e : SendError} (first : l.queue = (t, .message msg) :: rest)
    (why : e = .closed ∧ l.released = true ∨ ∃ fault, e = .frame fault ∧ l.framing.encode msg = .error fault) :
    l.enter book .grant = book := by
  simp only [enter, first]
  split
  next he =>
    obtain ⟨he, -⟩ := List.cons.inj he
    obtain ⟨-, he⟩ := Prod.mk.inj he
    obtain rfl := Job.message.inj he
    rcases why with ⟨-, hr⟩ | ⟨fault, -, hf⟩
    · rw [if_pos hr]
    · rw [hf]
      split <;> rfl
  · rfl

theorem enter_begin {msg w : Bytes} (idle : l.turn = none) (first : l.queue = (t, .message msg) :: rest)
    (unreleased : l.released = false) (frame : l.framing.encode msg = .ok w) :
    l.enter book .grant = { ticket := t, message := msg, frame := w } :: book := by
  simp only [enter, idle, first, unreleased, frame, Bool.false_eq_true, if_false]

end Entries

/-- What a move does to the turn, the wire and the ledger. -/
inductive Stroke (l l' : Lane) (book : List Writing) : Move → List Writing → Prop
  | start (t : Ticket) (msg w : Bytes) (idle : l.turn = none) (asked : (t, .message msg) ∈ l.queue)
      (frame : l.framing.encode msg = .ok w) (turn : l'.turn = some (t, w)) (wire : l'.wire = l.wire) :
      Stroke l l' book .grant ({ ticket := t, message := msg, frame := w } :: book)
  | take (t : Ticket) (rest : Bytes) (n : Nat) (mine : l.turn = some (t, rest)) (pos : 0 < n) (le : n ≤ rest.length)
      (turn : l'.turn = some (t, rest.drop n)) (wire : l'.wire = l.wire ++ rest.take n) :
      Stroke l l' book (.accept n) (l.enter book (.accept n))
  | leave (m : Move) (t : Ticket) (rest : Bytes) (mine : l.turn = some (t, rest)) (turn : l'.turn = none)
      (wire : l'.wire = l.wire) (idle : ∀ n, m ≠ .accept n)
      (why : rest = [] ∨ m = .abandon t ∨ ∃ reason, m = .fail reason) : Stroke l l' book m book
  | other (m : Move) (turn : l'.turn = l.turn) (wire : l'.wire = l.wire) (idle : ∀ n, m ≠ .accept n)
      (calm : ¬ l.Tears book m) : Stroke l l' book m book

theorem stroke (book : List Writing) (h : l.step m = some l') : l.Stroke l' book m (l.enter book m) := by
  cases step_effect h with
  | request t job =>
    refine .other _ rfl rfl (by simp) ?_
    rintro ⟨_, _, _, _, -, -, -, -, he | ⟨_, he⟩⟩ <;> cases he
  | shutdown t rest idle first =>
    rw [enter_shutdown first]
    refine .other _ rfl rfl (by simp) ?_
    rintro ⟨_, _, _, _, -, -, -, -, he | ⟨_, he⟩⟩ <;> cases he
  | refuse t msg rest e idle first why =>
    rw [enter_refuse first why]
    refine .other _ rfl rfl (by simp) ?_
    rintro ⟨_, _, _, _, -, -, -, -, he | ⟨_, he⟩⟩ <;> cases he
  | «begin» t msg w rest idle first unreleased frame =>
    rw [enter_begin idle first unreleased frame]
    exact .start t msg w idle (by simp [first]) frame rfl rfl
  | accept t rest n turn pos le => exact .take t rest n turn pos le rfl rfl
  | finish t turn => exact .leave _ t [] turn rfl rfl (by simp) (.inl rfl)
  | fail t rest reason turn _ => exact .leave _ t rest turn rfl rfl (by simp) (.inr (.inr ⟨reason, rfl⟩))
  | abandonTurn t rest turn => exact .leave _ t rest turn rfl rfl (by simp) (.inr (.inl rfl))
  | abandonPlace t none =>
    refine .other _ rfl rfl (by simp) ?_
    rintro ⟨u, rest, _, _, turn, -, -, -, he | ⟨_, he⟩⟩
    · obtain rfl := Move.abandon.inj he
      exact none rest turn
    · cases he

theorem kept_empty (f : Framing) : Kept f { framing := f } [] :=
  ⟨rfl, by simp, rfl, fun t rest h => by cases h⟩

theorem Kept.step (kept : Kept f l book) (h : l.step m = some l') : Kept f l' (l.enter book m) := by
  have framing : l'.framing = f := (step_framing h).trans kept.framing
  have stroke := stroke book h
  generalize l.enter book m = book' at stroke
  cases stroke with
  | start t msg w idle asked frame turn wire =>
    refine ⟨framing, ?_, ?_, ?_⟩
    · intro v hv
      rcases List.mem_cons.mp hv with rfl | hv
      · exact ⟨kept.framing ▸ frame, Nat.zero_le _⟩
      · exact kept.sound v hv
    · rw [wire, kept.wire]
      simp [Writing.part]
    · intro u rest hu
      obtain ⟨rfl, rfl⟩ := Prod.mk.inj (Option.some.inj (turn.symm.trans hu))
      exact ⟨_, _, rfl, rfl, rfl⟩
  | take t rest n mine pos le turn wire =>
    obtain ⟨w, older, rfl, rfl, rfl⟩ := kept.turn t rest mine
    have sound := kept.sound w List.mem_cons_self
    rw [List.length_drop] at le
    refine ⟨framing, ?_, ?_, ?_⟩
    · intro v hv
      rcases List.mem_cons.mp hv with rfl | hv
      · exact ⟨sound.1, by have := sound.2; dsimp only; omega⟩
      · exact kept.sound v (List.mem_cons_of_mem _ hv)
    · rw [wire, kept.wire]
      simp [enter, Writing.part, List.take_add]
    · intro u rest hu
      obtain ⟨rfl, rfl⟩ := Prod.mk.inj (Option.some.inj (turn.symm.trans hu))
      exact ⟨_, _, rfl, rfl, by simp [List.drop_drop]⟩
  | leave _ t rest mine turn wire =>
    refine ⟨framing, kept.sound, wire.trans kept.wire, fun u rest hu => ?_⟩
    rw [turn] at hu
    cases hu
  | other _ turn wire => exact ⟨framing, kept.sound, wire.trans kept.wire, turn ▸ kept.turn⟩

/-- What is entered was in the ledger before, or waited for its turn. -/
theorem entered_of_step (h : l.step m = some l') {w : Writing} (hw : w ∈ l.enter book m) :
    (∃ v ∈ book, v.ticket = w.ticket ∧ v.message = w.message) ∨ (w.ticket, .message w.message) ∈ l.queue := by
  have stroke := stroke book h
  generalize l.enter book m = book' at stroke hw
  cases stroke with
  | start t msg _ _ asked =>
    rcases List.mem_cons.mp hw with rfl | hw
    · exact .inr asked
    · exact .inl ⟨w, hw, rfl, rfl⟩
  | take t rest n =>
    cases book with
    | nil => cases hw
    | cons v older =>
      rcases List.mem_cons.mp hw with rfl | hw
      · exact .inl ⟨v, List.mem_cons_self, rfl, rfl⟩
      · exact .inl ⟨w, List.mem_cons_of_mem _ hw, rfl, rfl⟩
  | leave | other => exact .inl ⟨w, hw, rfl, rfl⟩

def HasTorn (l : Lane) (book : List Writing) : Prop := ∃ w ∈ l.behind book, w.Torn

/-- Whether bytes were taken behind a part of a frame. -/
def Mixed : List Writing → Prop
  | [] => False
  | v :: older => (0 < v.taken ∧ ∃ w ∈ older, w.Torn) ∨ Mixed older

theorem torn_of_mixed (h : Mixed book) : ∃ w ∈ book.tail, w.Torn := by
  induction book with
  | nil => cases h
  | cons v older ih =>
    rcases h with ⟨-, h⟩ | h
    · exact h
    · obtain ⟨w, hw, torn⟩ := ih h
      exact ⟨w, List.mem_of_mem_tail hw, torn⟩

theorem behind_idle (idle : l.turn = none) : l.behind book = book := by simp [behind, idle]

theorem behind_busy {t : Ticket} {rest : Bytes} (mine : l.turn = some (t, rest)) : l.behind book = book.tail := by
  simp [behind, mine]

theorem hasTorn_step (kept : Kept f l book) (h : l.step m = some l') :
    l'.HasTorn (l.enter book m) ↔ l.HasTorn book ∨ l.Tears book m := by
  have stroke := stroke book h
  generalize l.enter book m = book' at stroke
  cases stroke with
  | start t msg w idle asked frame turn wire =>
    have calm : ¬ l.Tears book .grant := by
      rintro ⟨_, _, _, _, mine, -⟩
      rw [idle] at mine
      cases mine
    simp only [HasTorn, behind_idle idle, behind_busy turn, List.tail_cons, calm, or_false]
  | take t rest n mine pos le turn wire =>
    obtain ⟨w, older, rfl, rfl, rfl⟩ := kept.turn t rest mine
    have calm : ¬ l.Tears (w :: older) (.accept n) := by
      rintro ⟨_, _, _, _, -, -, -, -, he | ⟨_, he⟩⟩ <;> cases he
    simp only [HasTorn, behind_busy mine, behind_busy turn, enter, List.tail_cons, calm, or_false]
  | leave _ t rest mine turn wire idle why =>
    obtain ⟨w, older, rfl, rfl, rfl⟩ := kept.turn t rest mine
    have tears : l.Tears (w :: older) m ↔ w.Torn := by
      constructor
      · rintro ⟨u, r, v, vs, hu, left, hb, pos, -⟩
        obtain ⟨rfl, rfl⟩ := List.cons.inj hb
        obtain ⟨-, rfl⟩ := Prod.mk.inj (Option.some.inj (mine.symm.trans hu))
        refine ⟨pos, Nat.lt_of_not_le fun hle => left (List.drop_eq_nil_of_le hle)⟩
      · rintro ⟨pos, part⟩
        have left : w.frame.drop w.taken ≠ [] := by
          rw [ne_eq, List.drop_eq_nil_iff]
          exact Nat.not_le.mpr part
        rcases why with none | why
        · exact absurd none left
        · exact ⟨_, _, w, older, mine, left, rfl, pos, why⟩
    rw [tears]
    simp only [HasTorn, behind_busy mine, behind_idle turn, List.tail_cons, List.mem_cons, or_and_right, exists_or,
      exists_eq_left]
    exact or_comm
  | other _ turn wire idle calm =>
    simp only [HasTorn, behind, turn, calm, or_false]

theorem mixed_step (kept : Kept f l book) (h : l.step m = some l') :
    Mixed (l.enter book m) ↔ Mixed book ∨ l.HasTorn book ∧ ∃ n, m = .accept n := by
  have stroke := stroke book h
  generalize l.enter book m = book' at stroke
  cases stroke with
  | start => simp [Mixed]
  | take t rest n mine pos le turn wire =>
    obtain ⟨w, older, rfl, rfl, rfl⟩ := kept.turn t rest mine
    have some : 0 < w.taken + n := Nat.lt_of_lt_of_le pos (Nat.le_add_left n w.taken)
    have deeper : Mixed older → ∃ v ∈ older, v.Torn := fun hm => by
      obtain ⟨v, hv, torn⟩ := torn_of_mixed hm
      exact ⟨v, List.mem_of_mem_tail hv, torn⟩
    simp only [enter, Mixed, some, true_and, HasTorn, behind_busy mine, List.tail_cons]
    constructor
    · rintro (torn | mixed)
      · exact .inr ⟨torn, n, rfl⟩
      · exact .inl (.inr mixed)
    · rintro ((⟨-, torn⟩ | mixed) | ⟨torn, -⟩)
      · exact .inl torn
      · exact .inr mixed
      · exact .inl torn
  | leave _ _ _ _ _ _ idle | other _ _ _ idle =>
    have none : ¬ ∃ n, m = .accept n := fun ⟨n, he⟩ => idle n he
    simp only [none, and_false, or_false]

/-- The frames of which bytes were taken, the first one first: all of them whole but for the last. -/
def Clean (book : List Writing) : Prop :=
  ∃ whole cut, (book.filter (0 < ·.taken)).reverse = whole ++ cut ∧ (∀ w ∈ whole, w.taken = w.frame.length) ∧
    cut.length ≤ 1 ∧ ∀ w ∈ cut, w.taken < w.frame.length

theorem mem_begun_of_torn {w : Writing} (hw : w ∈ book) (torn : w.Torn) : w ∈ book.filter (0 < ·.taken) :=
  List.mem_filter.mpr ⟨hw, decide_eq_true torn.1⟩

theorem not_mixed_iff : ¬ Mixed book ↔ ∀ w ∈ (book.filter (0 < ·.taken)).tail, ¬ w.Torn := by
  induction book with
  | nil => simp [Mixed]
  | cons v older ih =>
    by_cases hv : 0 < v.taken
    · have begun : (v :: older).filter (0 < ·.taken) = v :: older.filter (0 < ·.taken) :=
        List.filter_cons_of_pos (decide_eq_true hv)
      rw [begun, List.tail_cons]
      constructor
      · intro clean w hw torn
        exact clean (.inl ⟨hv, w, (List.mem_filter.mp hw).1, torn⟩)
      · rintro whole (⟨-, w, hw, torn⟩ | mixed)
        · exact whole w (mem_begun_of_torn hw torn) torn
        · obtain ⟨w, hw, torn⟩ := torn_of_mixed mixed
          exact whole w (mem_begun_of_torn (List.mem_of_mem_tail hw) torn) torn
    · have begun : (v :: older).filter (0 < ·.taken) = older.filter (0 < ·.taken) :=
        List.filter_cons_of_neg (by simpa using hv)
      rw [begun, ← ih]
      simp only [Mixed, hv, false_and, false_or]

theorem whole_of_not_torn {w : Writing} (sound : w.Sound f) (begun : 0 < w.taken) (h : ¬ w.Torn) :
    w.taken = w.frame.length :=
  Nat.le_antisymm sound.2 (Nat.le_of_not_lt fun part => h ⟨begun, part⟩)

/-- No bytes behind a part of a frame means whole frames, and one that is cut short in the end: the newest turn. -/
theorem clean_iff (sound : ∀ w ∈ book, w.Sound f) : Clean book ↔ ¬ Mixed book := by
  rw [not_mixed_iff]
  have whole : ∀ w ∈ book.filter (0 < ·.taken), ¬ w.Torn → w.taken = w.frame.length := by
    intro w hw torn
    obtain ⟨hw, begun⟩ := List.mem_filter.mp hw
    exact whole_of_not_torn (sound w hw) (of_decide_eq_true begun) torn
  constructor
  · rintro ⟨done, cut, split, all, short, -⟩ w hw torn
    have newest : book.filter (0 < ·.taken) = cut.reverse ++ done.reverse := by
      rw [← List.reverse_append, ← split, List.reverse_reverse]
    rw [newest] at hw
    have old : w ∈ done := by
      cases cut with
      | nil => exact List.mem_reverse.mp (List.mem_of_mem_tail hw)
      | cons v none =>
        obtain rfl := List.eq_nil_of_length_eq_zero (Nat.le_zero.mp (Nat.le_of_succ_le_succ short))
        exact List.mem_reverse.mp hw
    exact absurd (all w old) (Nat.ne_of_lt torn.2)
  · intro calm
    cases hb : book.filter (0 < ·.taken) with
    | nil => exact ⟨[], [], by rw [hb]; rfl, by simp, by simp, by simp⟩
    | cons v rest =>
      rw [hb] at calm whole
      have done : ∀ w ∈ rest, w.taken = w.frame.length := fun w hw =>
        whole w (List.mem_cons_of_mem _ hw) (calm w hw)
      by_cases torn : v.Torn
      · exact ⟨rest.reverse, [v], by simp [hb], by simpa using done, Nat.le_refl _, by simpa using torn.2⟩
      · refine ⟨rest.reverse ++ [v], [], by simp [hb], fun w hw => ?_, by simp, by simp⟩
        rcases List.mem_append.mp hw with hw | hw
        · exact done w (List.mem_reverse.mp hw)
        · obtain rfl := List.mem_singleton.mp hw
          exact whole w List.mem_cons_self torn

end Lane
end FrameServer
