import FrameServer.Proofs.Session.Refusal
import FrameServer.Proofs.Session.Tickets
import FrameServer.Proofs.Session.Wire

namespace FrameServer

namespace Lane

/-- A lane of which the outbound half was taken: it is nobody's turn, and never again. -/
structure Over (l : Lane) : Prop where
  released : l.released = true
  idle : l.turn = none

variable {l l' : Lane} {m : Move} {t : Ticket}

theorem over_of_step (h : l.step m = some l') (spent : l.Over) : l'.Over ∧ l'.wire = l.wire := by
  have busy : ∀ {p}, l.turn ≠ some p := by
    intro p he
    rw [spent.idle] at he
    cases he
  cases step_effect h with
  | request => exact ⟨⟨spent.released, spent.idle⟩, rfl⟩
  | shutdown => exact ⟨⟨rfl, spent.idle⟩, rfl⟩
  | refuse | abandonPlace => exact ⟨⟨spent.released, spent.idle⟩, rfl⟩
  | «begin» _ _ _ _ _ _ unreleased =>
    rw [spent.released] at unreleased
    cases unreleased
  | accept _ _ _ turn | finish _ turn | fail _ _ _ turn | abandonTurn _ _ turn => exact absurd turn busy

/-- The outbound half is taken only while it is nobody's turn. -/
theorem taken_of_step (h : l.step m = some l') (before : l.released = false) (after : l'.released = true) :
    m = .grant ∧ l.turn = none ∧ l'.turn = none := by
  cases step_effect h with
  | shutdown _ _ idle => exact ⟨rfl, idle, idle⟩
  | _ =>
    rw [before] at after
    cases after

theorem grant_of_over {job : Job} {rest : List (Ticket × Job)} (spent : l.Over) (first : l.queue = (t, job) :: rest) :
    ∃ r, l.step .grant = some ({ l with queue := rest }.settleTicket t r) ∧ (job ≠ .shutdown → r = .error .closed) := by
  cases job with
  | shutdown =>
    refine ⟨.ok (), ?_, fun other => absurd rfl other⟩
    simp only [step, spent.idle, first, start, spent.released]
  | message msg =>
    refine ⟨.error .closed, ?_, fun _ => rfl⟩
    simp only [step, spent.idle, first, start, spent.released, if_true]

/-- A send that waits on such a lane can only be refused or given up. -/
theorem waits_of_step {msg : Bytes} (h : l.step m = some l') (spent : l.Over) (kept : m ≠ .abandon t)
    (waits : (t, .message msg) ∈ l.queue) :
    (t, .message msg) ∈ l'.queue ∨ (t, .error .closed) ∈ l'.results := by
  cases m with
  | request u job =>
    obtain rfl := Option.some.inj h
    exact .inl (List.mem_append_left _ waits)
  | grant =>
    cases first : l.queue with
    | nil =>
      rw [first] at waits
      cases waits
    | cons p rest =>
      obtain ⟨u, job⟩ := p
      obtain ⟨r, granted, refused⟩ := grant_of_over spent first
      obtain rfl := Option.some.inj (granted.symm.trans h)
      rw [first] at waits
      rcases List.mem_cons.mp waits with he | waits
      · obtain ⟨rfl, rfl⟩ := Prod.mk.inj he
        rw [refused (by simp)]
        exact .inr List.mem_cons_self
      · exact .inl waits
  | accept | finish | fail => simp [step, spent.idle] at h
  | abandon u =>
    simp only [step, spent.idle, Option.some.injEq] at h
    subst h
    refine .inl (List.mem_filter.mpr ⟨waits, ?_⟩)
    simpa using fun he => kept (congrArg Move.abandon he.symm)

end Lane

namespace Session

/-- What a call that closes the session returns; one that shuts the connection down does so when it is done. -/
def answer? (s : Session) : Move → Option Bool
  | .close | .closeAsync _ => some s.close.1
  | .closeIdle => some s.closeIdle.1
  | _ => none

/-- What is told of the moves of a list. -/
def along {α : Type} (tell : Session → Move → Session → List α) (s : Session) : List Move → List α
  | [] => []
  | m :: ms =>
    match s.step m with
    | none => []
    | some s' => tell s m s' ++ s'.along tell ms

/-- What the calls that close the session return, in the order in which they act. -/
def answers (s : Session) (ms : List Move) : List Bool := s.along (fun s m _ => (s.answer? m).toList) ms

/-- Whether the token of the session is cancelled, which the call that closes the session does. -/
def Cancelled (s : Session) (ms : List Move) : Prop := true ∈ s.answers ms

/-- Whether a move takes the outbound half. -/
def takes (s : Session) (_ : Move) (s' : Session) : List Bool := [!s.lane.released && s'.lane.released]

/-- How often the outbound half is taken. -/
def takings (s : Session) (ms : List Move) : Nat := (s.along takes ms).count true

variable {s s' s'' u : Session} {m : Move} {ms ms' : List Move} {f : Framing} {t : Ticket}

theorem along_concat {α : Type} {tell : Session → Move → Session → List α} (h : s.play ms = some s')
    (hm : s'.step m = some s'') : s.along tell (ms ++ [m]) = s.along tell ms ++ tell s' m s'' := by
  induction ms generalizing s with
  | nil =>
    obtain rfl := Option.some.inj h
    simp [along, hm]
  | cons l ms ih =>
    obtain ⟨t, ht, h⟩ := Option.bind_eq_some_iff.mp h
    simp only [List.cons_append, along, ht, ih h, List.append_assoc]

/-- What a move does to the flags of a session, and what a call that closes it returns. -/
structure Flagged (s : Session) (m : Move) (s' : Session) : Prop where
  answer : s.answer? m = none ∧ s'.closed = s.closed ∨ s.answer? m = some (!s.closed) ∧ s'.closed = true
  cause : s'.closedIdle = true ↔ s.closedIdle = true ∨ m = .closeIdle ∧ s.answer? .closeIdle = some true

theorem flagged_of_step (h : s.step m = some s') : s.Flagged m s' := by
  cases m with
  | send t msg =>
    simp only [step] at h
    split at h
    · obtain rfl := Option.some.inj h
      exact ⟨.inl ⟨rfl, rfl⟩, by simp⟩
    · obtain ⟨l, -, rfl⟩ := Option.map_eq_some_iff.mp h
      exact ⟨.inl ⟨rfl, rfl⟩, by simp⟩
  | closeIdle =>
    obtain rfl := Option.some.inj h
    cases closed : s.closed with
    | false => exact ⟨.inr (by simp [answer?, closeIdle, close, alive, closed]),
        by simp [answer?, closeIdle, close, alive, closed]⟩
    | true => exact ⟨.inr (by simp [answer?, closeIdle, closed]), by simp [answer?, closeIdle, closed]⟩
  | closeAsync t =>
    simp only [step] at h
    obtain ⟨l, -, rfl⟩ := Option.map_eq_some_iff.mp h
    exact ⟨.inr ⟨rfl, rfl⟩, by simp [close]⟩
  | close =>
    obtain rfl := Option.some.inj h
    exact ⟨.inr ⟨rfl, rfl⟩, by simp [close]⟩
  | lane lm =>
    obtain ⟨l, -, rfl⟩ := Option.map_eq_some_iff.mp h
    exact ⟨.inl ⟨rfl, rfl⟩, by simp⟩
  | touch | setAttribute | removeAttribute =>
    obtain rfl := Option.some.inj h
    exact ⟨.inl ⟨rfl, rfl⟩, by simp⟩

/-- What a move writes into the ledger belongs to a send that waited. -/
theorem entered_of_step {book : List Writing} {w : Writing} (hw : w ∈ s.enter book m) (h : s.step m = some s') :
    (∃ v ∈ book, v.ticket = w.ticket) ∨ (w.ticket, .message w.message) ∈ s.lane.queue := by
  cases m with
  | lane lm =>
    obtain ⟨l, lane, rfl⟩ := Option.map_eq_some_iff.mp h
    rcases Lane.entered_of_step lane hw with ⟨v, hv, ticket, -⟩ | waits
    · exact .inl ⟨v, hv, ticket⟩
    · exact .inr waits
  | _ => exact .inl ⟨w, hw, rfl⟩

theorem taken_of_step (h : s.step m = some s') (before : s.lane.released = false) (after : s'.lane.released = true) :
    m = .lane .grant ∧ s.lane.turn = none ∧ s'.lane.turn = none := by
  have changed : s'.lane.released ≠ s.lane.released := by
    rw [before, after]
    decide
  cases (step_change h).lane with
  | ask _ _ _ lane | release _ _ lane => cases (Lane.taken_of_step lane before after).1
  | move lm lane =>
    obtain ⟨rfl, idle, still⟩ := Lane.taken_of_step lane before after
    exact ⟨rfl, idle, still⟩
  | refuse _ _ _ lane => exact absurd (by rw [lane]; rfl) changed
  | none _ lane => exact absurd (by rw [lane]) changed

theorem over_of_step (h : s.step m = some s') (spent : s.lane.Over) : s'.lane.Over ∧ s'.lane.wire = s.lane.wire := by
  cases (step_change h).lane with
  | ask _ _ _ lane | release _ _ lane | move _ lane => exact Lane.over_of_step lane spent
  | refuse _ _ _ lane =>
    rw [lane]
    exact ⟨⟨spent.released, spent.idle⟩, rfl⟩
  | none _ lane =>
    rw [lane]
    exact ⟨spent, rfl⟩

theorem waits_of_step {msg : Bytes} (h : s.step m = some s') (spent : s.lane.Over)
    (kept : m ≠ .lane (.abandon t)) (waits : (t, .message msg) ∈ s.lane.queue) :
    (t, .message msg) ∈ s'.lane.queue ∨ (t, .error .closed) ∈ s'.lane.results := by
  cases (step_change h).lane with
  | ask _ _ _ lane | release _ _ lane => exact Lane.waits_of_step lane spent (by simp) waits
  | refuse _ _ _ lane | none _ lane =>
    rw [lane]
    exact .inl waits
  | move lm lane => exact Lane.waits_of_step lane spent (fun he => kept (by rw [he])) waits

theorem results_of_step (h : s.step m = some s') : s.lane.results ⊆ s'.lane.results := by
  cases (step_change h).lane with
  | ask _ _ _ lane | release _ _ lane | move _ lane => exact Lane.results_of_step lane
  | refuse _ _ _ lane =>
    rw [lane]
    exact List.subset_cons_self _ _
  | none _ lane =>
    rw [lane]
    exact List.Subset.refl _

section Run

variable (run : s.play ms = some s')
include run

theorem closed_of_play (closed : s.closed = true) : s'.closed = true :=
  play_induction (P := fun _ x => x.closed = true) closed (fun _ _ _ _ _ made ih => (step_change made).closed ih) run

theorem answers_of_play (unclosed : s.closed = false) :
    s.answers ms = [] ∧ s'.closed = false ∨ ∃ k, s.answers ms = true :: List.replicate k false ∧ s'.closed = true := by
  refine play_induction (P := fun ms x => s.answers ms = [] ∧ x.closed = false ∨
    ∃ k, s.answers ms = true :: List.replicate k false ∧ x.closed = true) (.inl ⟨rfl, unclosed⟩) ?_ run
  intro ms m x y before made ih
  have told : s.answers (ms ++ [m]) = s.answers ms ++ (x.answer? m).toList := along_concat before made
  rcases (flagged_of_step made).answer with ⟨silent, same⟩ | ⟨answer, closed⟩
  · rw [told, silent, same, Option.toList_none, List.append_nil]
    exact ih
  · rw [told, answer]
    rcases ih with ⟨none, unclosed⟩ | ⟨k, first, already⟩
    · exact .inr ⟨0, by simp [none, unclosed], closed⟩
    · exact .inr ⟨k + 1, by simp [first, already, List.replicate_succ'], closed⟩

theorem cause_of_play (plain : s.closedIdle = false) :
    s'.closedIdle = true ↔ ∃ earlier later u, ms = earlier ++ .closeIdle :: later ∧ s.play earlier = some u ∧
      u.answer? .closeIdle = some true := by
  refine play_induction (P := fun ms x => x.closedIdle = true ↔ ∃ earlier later u, ms = earlier ++ .closeIdle :: later ∧
    s.play earlier = some u ∧ u.answer? .closeIdle = some true) (by simp [plain]) ?_ run
  intro ms m x y before made ih
  rw [(flagged_of_step made).cause, ih]
  constructor
  · rintro (⟨earlier, later, u, rfl, hu, first⟩ | ⟨rfl, first⟩)
    · exact ⟨earlier, later ++ [m], u, by simp, hu, first⟩
    · exact ⟨ms, [], x, rfl, before, first⟩
  · rintro ⟨earlier, later, u, split, hu, first⟩
    rcases split_concat split with ⟨rfl, rfl, -⟩ | ⟨later', rfl, rfl⟩
    · obtain rfl := Option.some.inj (before.symm.trans hu)
      exact .inr ⟨rfl, first⟩
    · exact .inl ⟨earlier, later', u, rfl, hu, first⟩

theorem silent_of_play (spent : s.lane.Over) : s'.lane.Over ∧ s'.lane.wire = s.lane.wire := by
  refine play_induction (P := fun _ x => x.lane.Over ∧ x.lane.wire = s.lane.wire) ⟨spent, rfl⟩ ?_ run
  intro _ _ x y _ made ⟨still, wire⟩
  obtain ⟨after, same⟩ := over_of_step made still
  exact ⟨after, same.trans wire⟩

theorem waits_of_play {msg : Bytes} (spent : s.lane.Over) (waits : (t, .message msg) ∈ s.lane.queue)
    (kept : .lane (.abandon t) ∉ ms) :
    (t, .message msg) ∈ s'.lane.queue ∨ (t, .error .closed) ∈ s'.lane.results := by
  refine play_induction (P := fun ms x => .lane (.abandon t) ∉ ms →
    (t, .message msg) ∈ x.lane.queue ∨ (t, .error .closed) ∈ x.lane.results) (fun _ => .inl waits) ?_ run kept
  intro ms m x y before made ih kept
  rcases ih (fun there => kept (List.mem_append_left _ there)) with still | told
  · refine waits_of_step made (silent_of_play before spent).1 ?_ still
    rintro rfl
    exact kept (by simp)
  · exact .inr (results_of_step made told)

variable (fresh : s.lane = { framing := f })
include fresh

/-- Who is in the ledger asked for a turn. -/
theorem asked_of_ledger : ∀ w ∈ s.ledger [] ms, w.ticket ∈ (requests ms).map Prod.fst := by
  refine play_induction (P := fun ms _ => ∀ w ∈ s.ledger [] ms, w.ticket ∈ (requests ms).map Prod.fst) ?_ ?_ run
  · intro w hw
    cases hw
  · intro ms m x y before made ih w hw
    rw [ledger_concat before made] at hw
    rw [requests_append, List.map_append]
    apply List.mem_append_left
    rcases entered_of_step hw made with ⟨v, hv, same⟩ | waits
    · exact same ▸ ih v hv
    · exact asked_of_names fresh before (.inl ⟨_, waits⟩)

theorem takings_of_play : s.takings ms = s'.lane.released.toNat := by
  refine play_induction (P := fun ms x => s.takings ms = x.lane.released.toNat) ?_ ?_ run
  · simp [takings, along, fresh]
  · intro ms m x y before made ih
    have told : s.along takes (ms ++ [m]) = s.along takes ms ++ x.takes m y := along_concat before made
    have stays := released_of_step made
    rw [takings] at ih ⊢
    rw [told, List.count_append, ih]
    cases old : x.lane.released with
    | true => simp [takes, stays old, old]
    | false => cases new : y.lane.released <;> simp [takes, old, new]

theorem over_of_play (released : s'.lane.released = true) : s'.lane.Over := by
  refine play_induction (P := fun _ x => x.lane.released = true → x.lane.Over) ?_ ?_ run released
  · intro released
    simp [fresh] at released
  · intro ms m x y _ made ih released
    cases old : x.lane.released with
    | true => exact (over_of_step made (ih old)).1
    | false => exact ⟨released, (taken_of_step made old released).2.2⟩

/-- A shutdown is done only when the outbound half is taken. -/
theorem reserved_of_play (own : ((requests ms).map Prod.fst).Nodup) (asked : (t, .shutdown) ∈ requests ms) :
    s'.lane.Reserved t := by
  obtain ⟨m, hm, asks⟩ := List.mem_filterMap.mp asked
  obtain ⟨before, after, rfl⟩ := List.append_of_mem hm
  obtain ⟨x, y, first, made, rest⟩ := play_split run
  obtain ⟨new, alone⟩ := own_split asks own
  have unheard : ¬ x.lane.Names t := fun there => new (asked_of_names fresh first there)
  have reserved : y.lane.Reserved t := by
    cases m with
    | closeAsync u =>
      obtain ⟨rfl, -⟩ := Prod.mk.inj (Option.some.inj asks)
      simp only [step] at made
      obtain ⟨l, lane, rfl⟩ := Option.map_eq_some_iff.mp made
      exact Lane.reserved_of_new unheard lane
    | lane lm =>
      obtain ⟨l, lane, rfl⟩ := Option.map_eq_some_iff.mp made
      cases lm with
      | request u job =>
        obtain ⟨rfl, rfl⟩ := Prod.mk.inj (Option.some.inj asks)
        exact Lane.reserved_of_new unheard lane
      | _ => cases asks
    | send => cases (Prod.mk.inj (Option.some.inj asks)).2
    | _ => cases asks
  exact keeps_of_play (P := (·.Reserved t)) rest alone (fun lane held apart => Lane.reserved_of_step lane apart held)
    (fun apart held => held.settle apart) reserved

end Run

theorem refused_of_play (run : s.play ms = some s') (other : t ∉ (requests ms).map Prod.fst)
    (refused : s.lane.Refused t) : s'.lane.Refused t :=
  keeps_of_play (P := (·.Refused t)) run other Lane.refused_of_step (fun apart held => held.settle apart) refused

/-- Who was refused has no turn any more. -/
theorem absent_of_play {book : List Writing} (run : s.play ms = some s') (other : t ∉ (requests ms).map Prod.fst)
    (refused : s.lane.Refused t) (absent : ∀ w ∈ book, w.ticket ≠ t) : ∀ w ∈ s.ledger book ms, w.ticket ≠ t := by
  refine play_induction (P := fun ms _ => t ∉ (requests ms).map Prod.fst → ∀ w ∈ s.ledger book ms, w.ticket ≠ t)
    (fun _ => absent) ?_ run other
  intro ms m x y before made ih other w hw same
  have other : t ∉ (requests ms).map Prod.fst := by
    rw [requests_append, List.map_append] at other
    exact fun there => other (List.mem_append_left _ there)
  rw [ledger_concat before made] at hw
  rcases entered_of_step hw made with ⟨v, hv, ticket⟩ | waits
  · exact ih other v hv (ticket.trans same)
  · exact (refused_of_play before other refused).queue _ (same ▸ waits)

/-- A send that starts when the session is closed is refused, and is not in the ledger. -/
theorem late_of_play {msg : Bytes} (fresh : s.lane = { framing := f }) (run : s.play ms = some u)
    (later : u.play ms' = some s') (own : ((requests (ms ++ ms')).map Prod.fst).Nodup) (closed : u.closed = true)
    (sent : .send t msg ∈ ms') : s'.lane.Refused t ∧ ∀ w ∈ s.ledger [] (ms ++ ms'), w.ticket ≠ t := by
  obtain ⟨before, after, rfl⟩ := List.append_of_mem sent
  obtain ⟨x, y, first, made, rest⟩ := play_split later
  have start : s.play (ms ++ before) = some x := play_append.mpr ⟨u, run, first⟩
  rw [← List.append_assoc] at own ⊢
  have asks : (Move.send t msg).request? = some (t, .message msg) := rfl
  obtain ⟨new, alone⟩ := own_split asks own
  have unheard : ¬ x.lane.Names t := fun there => new (asked_of_names fresh start there)
  have entered : s.ledger [] (ms ++ before ++ .send t msg :: after) = y.ledger (s.ledger [] (ms ++ before)) after := by
    rw [ledger_append start]
    simp only [ledger, made, enter]
  simp only [step, closed_of_play first closed, if_true] at made
  obtain rfl := Option.some.inj made
  have refused := Lane.refused_of_new unheard
  have absent : ∀ w ∈ s.ledger [] (ms ++ before), w.ticket ≠ t := by
    rintro w hw rfl
    exact new (asked_of_ledger start fresh w hw)
  rw [entered]
  exact ⟨refused_of_play rest alone refused, absent_of_play rest alone refused absent⟩

/-- All that wait get their answer, one after the other. -/
theorem play_grants (spent : s.lane.Over) :
    ∃ s', s.play (List.replicate s.lane.queue.length (.lane .grant)) = some s' ∧ s'.lane.queue = [] := by
  generalize waiting : s.lane.queue = queue
  induction queue generalizing s with
  | nil => exact ⟨s, rfl, waiting⟩
  | cons p rest ih =>
    obtain ⟨t, job⟩ := p
    obtain ⟨r, granted, -⟩ := Lane.grant_of_over spent waiting
    have first : s.step (.lane .grant) = some { s with lane := { s.lane with queue := rest }.settleTicket t r } := by
      simp only [step, granted, Option.map_some]
    obtain ⟨s', run, empty⟩ := ih (over_of_step first spent).1 rfl
    exact ⟨s', by simp only [List.length_cons, List.replicate_succ, play, first, Option.bind_some, run], empty⟩

/-- What the calls that close a session have done to it at one moment, and what is true of it ever after. -/
structure ClosedOnce (s : Session) (before : List Move) (u : Session) (after : List Move) (s' : Session) : Prop where
  /-- The first call closes the session and returns true, and all others return false. -/
  answers : s.answers before = [] ∧ u.closed = false ∨
    ∃ k, s.answers before = true :: List.replicate k false ∧ u.closed = true
  cancelled : s.Cancelled before ↔ u.closed = true
  forever : u.closed = true → s'.closed = true ∧ s.Cancelled (before ++ after)
  cause : u.closedIdle = true ↔ ∃ earlier later v, before = earlier ++ .closeIdle :: later ∧
    s.play earlier = some v ∧ v.answer? .closeIdle = some true
  /-- The wire holds what was taken of each frame in the ledger. -/
  wire : s'.lane.wire = (s.ledger [] (before ++ after)).reverse.flatMap (·.part)
  /-- A send that starts when the session is closed is refused, and no part of its frame is written. -/
  late : u.closed = true → ∀ t m, .send t m ∈ after →
    s'.lane.result? t = some (.error .closed) ∧ ∀ w ∈ s.ledger [] (before ++ after), w.ticket ≠ t
  /-- The outbound half is taken at most once, and only while it is nobody's turn. -/
  takings : s.takings before = u.lane.released.toNat
  taken : ∀ m v, u.step m = some v → u.lane.released = false → v.lane.released = true →
    m = .lane .grant ∧ u.lane.turn = none ∧ v.lane.turn = none
  /-- When a shutdown is done, the outbound half was taken, by this one or by another. -/
  completed : ∀ t, (t, .shutdown) ∈ requests before → (u.lane.result? t).isSome = true → s.takings before = 1
  silent : u.lane.released = true → s'.lane.wire = u.lane.wire ∧ s'.lane.turn = none
  /-- A send that waits when the outbound half is taken is refused, or waits on until it is given up. -/
  waiting : u.lane.released = true → ∀ t m, (t, .message m) ∈ u.lane.queue → .lane (.abandon t) ∉ after →
    (t, .message m) ∈ s'.lane.queue ∨ s'.lane.result? t = some (.error .closed)
  /-- None of them waits any more when each of those in the queue was granted its turn. -/
  drained : u.lane.released = true → ∃ v, u.play (List.replicate u.lane.queue.length (.lane .grant)) = some v ∧
    v.lane.queue = [] ∧ ∀ t m, (t, .message m) ∈ u.lane.queue → v.lane.result? t = some (.error .closed)

/-- One of the calls that close a session does, and that is never undone. Sends that come after it are refused, and from
the moment when the outbound half is taken nothing more is written. -/
theorem closes_once (fresh : s.lane = { framing := f }) (unclosed : s.closed = false) (plain : s.closedIdle = false)
    (run : s.play ms = some u) (later : u.play ms' = some s') (own : ((requests (ms ++ ms')).map Prod.fst).Nodup) :
    ClosedOnce s ms u ms' s' := by
  have whole : s.play (ms ++ ms') = some s' := play_append.mpr ⟨u, run, later⟩
  have first : ((requests ms).map Prod.fst).Nodup := by
    rw [requests_append, List.map_append] at own
    exact (List.nodup_append.mp own).1
  have cancelled : ∀ {xs x}, s.play xs = some x → (s.Cancelled xs ↔ x.closed = true) := by
    intro xs x run
    rcases answers_of_play run unclosed with ⟨none, unclosed⟩ | ⟨k, first, closed⟩
    · simp [Cancelled, none, unclosed]
    · simp [Cancelled, first, closed]
  have takings := takings_of_play run fresh
  constructor
  · exact answers_of_play run unclosed
  · exact cancelled run
  · intro closed
    have still := closed_of_play later closed
    exact ⟨still, (cancelled whole).mpr still⟩
  · exact cause_of_play run plain
  · exact (kept_of_play whole fresh).wire
  · intro closed t m sent
    obtain ⟨refused, absent⟩ := late_of_play fresh run later own closed sent
    exact ⟨refused.result?, absent⟩
  · exact takings
  · intro m v made unreleased released
    exact taken_of_step made unreleased released
  · intro t asked done
    obtain ⟨r, result⟩ := Option.isSome_iff_exists.mp done
    have released := (reserved_of_play run fresh first asked).result r (Lane.mem_of_result result)
    rw [takings, released]
    rfl
  · intro released
    obtain ⟨spent, wire⟩ := silent_of_play later (over_of_play run fresh released)
    exact ⟨wire, spent.idle⟩
  · intro released t m waits kept
    have spent := over_of_play run fresh released
    exact (waits_of_play later spent waits kept).imp_right (Lane.result?_of_mem (tickets_nodup fresh whole own))
  · intro released
    have spent := over_of_play run fresh released
    obtain ⟨v, grants, empty⟩ := play_grants spent
    refine ⟨v, grants, empty, fun t m waits => ?_⟩
    have drained : s.play (ms ++ List.replicate u.lane.queue.length (.lane .grant)) = some v :=
      play_append.mpr ⟨u, run, grants⟩
    have asks : requests (List.replicate u.lane.queue.length (.lane .grant)) = [] := by
      simp [requests, Move.request?, Lane.Move.request?]
    rcases waits_of_play grants spent waits (by simp [List.mem_replicate]) with still | told
    · rw [empty] at still
      cases still
    · refine Lane.result?_of_mem (tickets_nodup fresh drained ?_) told
      rwa [requests_append, asks, List.append_nil]

/-- A session that goes idle while it writes, and is then closed and shut down by others. One send saw it open and
waits behind the shutdown. -/
def idled : List Move :=
  [.send 0 (textBytes "hi"), .lane .grant, .lane (.accept 1), .closeIdle, .close, .closeAsync 1,
    .lane (.request 2 (.message (textBytes "ho"))), .lane (.accept 2), .lane .finish, .lane .grant]

def tooLate : List Move := [.send 3 (textBytes "no"), .lane .grant]

theorem closes_once_idled : ∃ u s, unused.play idled = some u ∧ u.play tooLate = some s ∧
    ClosedOnce unused idled u tooLate s ∧ unused.answers idled = [true, false, false] ∧ u.closedIdle = true ∧
    unused.takings idled = 1 ∧ s.lane.wire = textBytes "hi\n" ∧ s.lane.result? 2 = some (.error .closed) ∧
    s.lane.result? 3 = some (.error .closed) := by
  have once (u s : Session) (run : unused.play idled = some u) (later : u.play tooLate = some s) :
      ClosedOnce unused idled u tooLate s := closes_once (f := {}) rfl rfl rfl run later (by decide)
  exact ⟨_, _, rfl, rfl, once _ _ rfl rfl, rfl, rfl, rfl, rfl, rfl, rfl⟩

end Session
end FrameServer
