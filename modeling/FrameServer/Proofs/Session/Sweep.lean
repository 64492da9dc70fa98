import FrameServer.Proofs.Session.Round

namespace FrameServer.Sweep

variable {h₀ h h' : Hub} {n : Notice} {r r' : Round} {k : SessionKey} {x : Session} {limit patience : Nat}
  {cs : List SessionKey}

/-- What holds of a sweep at any time, and of what it does next. -/
structure Swept (h₀ : Hub) (limit patience : Nat) (r : Round) (h : Hub) (cs : List SessionKey) : Prop where
  /-- It writes to nobody who was not idle for too long when it began, and closes nobody else. -/
  spares : ∀ r' h', r.Acts patience h r' h' → ∃ k, h₀.Lapsed limit k ∧ h.Steady h' ∧
    ∀ j, j ≠ k → h'.session? j = h.session? j
  /-- When it returns, all who were are closed. -/
  returns : r.chosen = [] → r.pending = [] → ∀ k, h₀.Lapsed limit k → ∃ s, h.session? k = some s ∧ s.closed = true
  count : r.closed = cs.length
  once : cs.Nodup
  closes : ∀ k ∈ cs, h₀.Lapsed limit k ∧ ∃ s, h.session? k = some s ∧ s.closed = true ∧ s.closedIdle = true
  /-- Nobody is sent more than one notice. -/
  single : (r.sent.map (·.key)).Nodup
  tells : ∀ n ∈ r.sent, h₀.Lapsed limit n.key ∧ ∃ x, h.session? n.key = some x ∧ n.Fares x
  /-- Whom it closes it had told before, or tried to until it was too late. -/
  parts : ∀ r' h' k x, r.Acts patience h r' h' → k ∈ h.closings h' → h.session? k = some x → ∃ n ∈ r.sent, n.key = k ∧
    n.Fares x ∧ x.lane.result? n.ticket ≠ some (.error .closed) ∧
    (x.lane.result? n.ticket = none → n.deadline ≤ h.clock)
  /-- A connection that takes all there is to write takes the notice. -/
  serves : ∀ n ∈ r.pending, ∀ x, h.session? n.key = some x → x.closed = false →
    (∃ frame, x.lane.framing.encode idleNotice = .ok frame) → x.lane.Going n.ticket → (h.pipe n.key).fault = none →
    (x.settle (h.pipe n.key)).lane.turn = none →
    (x.settle (h.pipe n.key)).lane.result? n.ticket = some (.ok ())

/-- A session is closed by looking at its notice, when that is due. -/
theorem InCourse.parts (on : InCourse h₀ limit r h cs) (acts : r.Acts patience h r' h') (closing : k ∈ h.closings h')
    (hx : h.session? k = some x) : ∃ n ∈ r.sent, n.key = k ∧ n.Fares x ∧
      x.lane.result? n.ticket ≠ some (.error .closed) ∧
      (x.lane.result? n.ticket = none → n.deadline ≤ h.clock) := by
  obtain ⟨x', -, hx', unclosed, -⟩ := Hub.mem_closings.mp closing
  obtain rfl := Option.some.inj (hx.symm.trans hx')
  cases acts with
  | notice before j after chosen n this =>
    obtain ⟨-, y, -, hy⟩ := on.lapsed_session (on.lapsed_chosen (k := j) (by simp [chosen]))
    rw [Hub.closings_send hy] at closing
    cases closing
  | look before n after pending due =>
    have there : n ∈ r.sent := on.pending (by simp [pending])
    obtain ⟨-, y, -, hy⟩ := on.lapsed_session (on.lapsed_sent there)
    obtain rfl : k = n.key := by
      rw [closings_part hy] at closing
      split at closing
      · exact List.mem_singleton.mp closing
      · cases closing
    refine ⟨n, there, rfl, (on.sent n there).fares hx, (on.sent n there).unrefused hx unclosed, fun unknown => ?_⟩
    refine due.resolve_left fun done => ?_
    rw [Hub.result?, hx, Option.bind_some, unknown] at done
    cases done

/-- Whatever happens while a sweep is under way, it closes those who were idle for too long when it began. -/
theorem Course.swept (coherent : h₀.Coherent) (course : Course h₀ limit patience r h cs) :
    Swept h₀ limit patience r h cs := by
  have on := course.inCourse coherent
  constructor
  case spares =>
    intro r' h' acts
    obtain ⟨k, known, -, steady, others⟩ := acts.one
    refine ⟨k, ?_, steady, others⟩
    rcases known with chosen | ⟨n, pending, rfl⟩
    · exact on.lapsed_chosen chosen
    · exact on.lapsed_sent (on.pending pending)
  case returns =>
    intro chosen pending k lapsed
    have told : k ∈ r.sent.map (·.key) := by
      have member := on.members.mem_iff.mpr (Hub.mem_idleKeys.mpr lapsed)
      rwa [chosen, List.nil_append] at member
    obtain ⟨n, there, rfl⟩ := List.mem_map.mp told
    refine (on.parted n there).resolve_left ?_
    rw [pending]
    exact List.not_mem_nil
  case count => exact on.count
  case once => exact on.once
  case closes =>
    intro k closing
    obtain ⟨told, closed⟩ := on.closed k closing
    obtain ⟨n, there, same⟩ := List.mem_map.mp told
    exact ⟨same ▸ on.lapsed_sent there, closed⟩
  case single =>
    have once : (r.chosen ++ r.sent.map (·.key)).Nodup := on.members.nodup_iff.mpr (coherent.once.filter _)
    exact (List.nodup_append.mp once).2.1
  case tells =>
    intro n there
    obtain ⟨-, x, -, hx⟩ := on.lapsed_session (on.lapsed_sent there)
    exact ⟨on.lapsed_sent there, x, hx, (on.sent n there).fares hx⟩
  case parts => exact fun r' h' k x acts closing hx => on.parts acts closing hx
  case serves =>
    intro n pending x hx unclosed fits going faultless idle
    have there := on.pending pending
    obtain ⟨-, s, hs, -⟩ := on.lapsed_sent there
    have read := on.meanwhile.read _ s x hs hx (coherent.read _ s hs)
    exact (on.sent n there).served hx unclosed fits going faultless read idle

/-- The sweep with all its notices, of which it looks at those that are pending. -/
def round (w : Sweep) (sent : List Notice) : Round :=
  { chosen := [], pending := w.pending.map fun p => ⟨p.1, p.2, w.deadline⟩, sent, closed := w.closed }

theorem visit_cons (deadline : Nat) (t : Ticket) (rest : List (SessionKey × Ticket)) :
    visit deadline ((k, t) :: rest) h = if (h.result? k t).isSome || h.clock ≥ deadline then
      let parted := (⟨k, t, deadline⟩ : Notice).part h
      let later := visit deadline rest parted.2
      (later.1, later.2.1 + parted.1.toNat, later.2.2)
    else
      let later := visit deadline rest h
      ((k, t) :: later.1, later.2.1, later.2.2) := rfl

/-- To go through the notices is to look at one after the other. -/
theorem Course.visit (kept : List Notice) (ts : List (SessionKey × Ticket)) (deadline : Nat)
    (course : Course h₀ limit patience r h cs) (pending : r.pending = kept ++ ts.map fun p => ⟨p.1, p.2, deadline⟩) :
    ∃ cs', Course h₀ limit patience { r with
        pending := kept ++ (visit deadline ts h).1.map fun p => ⟨p.1, p.2, deadline⟩
        closed := r.closed + (visit deadline ts h).2.1 } (visit deadline ts h).2.2 cs' := by
  induction ts generalizing kept r h cs with
  | nil =>
    refine ⟨cs, ?_⟩
    have same : { r with pending := kept ++ [], closed := r.closed + 0 } = r := by
      rw [← List.map_nil, ← pending]
      rfl
    rwa [← same] at course
  | cons p ts ih =>
    obtain ⟨k, t⟩ := p
    rw [visit_cons]
    split
    next due =>
      have looked := course.acts (.look kept ⟨k, t, deadline⟩ _ pending (by simpa [Notice.Due] using due))
      obtain ⟨cs', later⟩ := ih kept looked rfl
      refine ⟨cs', ?_⟩
      dsimp only at later ⊢
      rwa [Nat.add_assoc, Nat.add_comm _ (Sweep.visit deadline ts _).2.1] at later
    next waits =>
      obtain ⟨cs', later⟩ := ih (kept ++ [⟨k, t, deadline⟩]) course (by rw [pending, List.append_assoc]; rfl)
      refine ⟨cs', ?_⟩
      rwa [List.append_assoc] at later

/-- To send all the notices at once is to send one after the other. -/
theorem Course.sendEach (ks : List SessionKey) (course : Course h₀ limit patience r h cs) (chosen : r.chosen = ks) :
    ∃ sent cs', Course h₀ limit patience { r with
        chosen := []
        pending := r.pending ++ (h.sendEach idleNotice ks).1.map fun p => ⟨p.1, p.2, h.clock + patience⟩
        sent } (h.sendEach idleNotice ks).2 cs' := by
  induction ks generalizing r h cs with
  | nil =>
    refine ⟨r.sent, cs, ?_⟩
    have same : { r with chosen := [], pending := r.pending ++ [] } = r := by rw [List.append_nil, ← chosen]
    rwa [← same] at course
  | cons k ks ih =>
    have noticed := course.acts (.notice [] k ks chosen _ rfl)
    obtain ⟨sent, cs', later⟩ := ih noticed rfl
    refine ⟨sent, cs', ?_⟩
    have clock : (h.send k idleNotice).2.clock = h.clock := (h.steady_request k (.send · idleNotice)).clock
    rw [clock] at later
    dsimp only at later
    rwa [List.append_assoc] at later

theorem course_progress {w : Sweep} {sent : List Notice} (course : Course h₀ limit patience (w.round sent) h cs) :
    ∃ cs', Course h₀ limit patience ((w.progress h).1.round sent) (w.progress h).2 cs' :=
  course.visit [] w.pending w.deadline rfl

theorem course_start (h₀ : Hub) (limit patience : Nat) :
    ∃ sent cs, Course h₀ limit patience ((start h₀ limit patience).1.round sent) (start h₀ limit patience).2 cs := by
  have began : Course h₀ limit patience { chosen := h₀.idleKeys limit } h₀ [] := .snapshot
  obtain ⟨sent, cs, course⟩ := began.sendEach _ rfl
  have clock : (h₀.sendEach idleNotice (h₀.idleKeys limit)).2.clock = h₀.clock :=
    (h₀.steady_sendEach idleNotice _).clock
  let w : Sweep := {
    deadline := (h₀.sendEach idleNotice (h₀.idleKeys limit)).2.clock + patience
    pending := (h₀.sendEach idleNotice (h₀.idleKeys limit)).1 }
  have begun : Course h₀ limit patience (w.round sent) (h₀.sendEach idleNotice (h₀.idleKeys limit)).2 cs := by
    simp only [w, round, clock]
    exact course
  exact ⟨sent, course_progress begun⟩

/-- When the time for the notices has passed, a sweep returns as soon as it goes on. -/
theorem progress_over {w : Sweep} (late : w.deadline ≤ h.clock) : (w.progress h).1.isOver = true := by
  have all (ts : List (SessionKey × Ticket)) (h : Hub) (late : w.deadline ≤ h.clock) :
      (visit w.deadline ts h).1 = [] := by
    induction ts generalizing h with
    | nil => rfl
    | cons p ts ih =>
      obtain ⟨k, t⟩ := p
      rw [visit_cons, if_pos (by simp [late])]
      exact ih _ ((steady_part _ h).clock ▸ late)
  simp only [progress, isOver, all w.pending h late, List.isEmpty_nil]

end FrameServer.Sweep
