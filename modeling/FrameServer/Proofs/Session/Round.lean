import FrameServer.Proofs.Session.Meanwhile

namespace FrameServer

namespace Hub

variable {h : Hub} {k : SessionKey} {t : Ticket} {x : Session}

theorem abandon_here (hx : h.session? k = some x) :
    ∃ y, (h.abandon k t).session? k = some y ∧ y.closed = x.closed := by
  obtain ⟨l, lane⟩ : ∃ l, x.lane.step (.abandon t) = some l := by
    unfold Lane.step
    dsimp only
    split
    · split <;> exact ⟨_, rfl⟩
    · exact ⟨_, rfl⟩
  exact ⟨{ x with lane := l }, session_move h k hx (by simp only [Session.step, lane, Option.map_some]), rfl⟩

theorem closeIdle_here (hx : h.session? k = some x) :
    (h.closeIdle k).1 = !x.closed ∧ ∃ y, (h.closeIdle k).2.session? k = some y ∧ y.closed = true ∧
      (x.closed = false → y.closedIdle = true) := by
  simp only [closeIdle, hx]
  refine ⟨rfl, x.closeIdle.2, session_move h k hx rfl, ?_⟩
  unfold Session.closeIdle
  cases closed : x.closed with
  | false => exact ⟨rfl, fun _ => rfl⟩
  | true => exact ⟨closed, nofun⟩

theorem closeIdle_elsewhere {j : SessionKey} (e : j ≠ k) : (h.closeIdle j).2.session? k = h.session? k := by
  unfold closeIdle
  split
  · exact move_elsewhere e _
  · rfl

/-- A send closes no session. -/
theorem send_closed {m : Bytes} (hx : h.session? k = some x) :
    ∃ y, (h.send k m).2.session? k = some y ∧ y.closed = x.closed := by
  obtain ⟨z, sent, after⟩ := x.sent_cases (h.pipe k) h.tickets m
  have same : z.closed = x.closed := Session.closed_send sent
  refine ⟨_, send_sent hx, ?_⟩
  rcases after with after | after
  · rw [after, same]
  · rw [after, Session.closed_settle, same]

theorem closings_send {m : Bytes} (hx : h.session? k = some x) : h.closings (h.send k m).2 = [] := by
  obtain ⟨y, hy, same⟩ := send_closed (m := m) hx
  rw [closings_one hx hy fun j e => send_elsewhere e.symm m, same, Bool.not_and_self]
  rfl

end Hub

namespace Sweep

/-- A notice: to whom it was sent, under which ticket, and when it is given up. -/
structure Notice where
  key : SessionKey
  ticket : Ticket
  deadline : Nat

/-- Whether a notice is done, or has taken too long. -/
def Notice.Due (n : Notice) (h : Hub) : Prop := (h.result? n.key n.ticket).isSome = true ∨ n.deadline ≤ h.clock

/-- Closes the session of a notice that is due; whether this did it. -/
def Notice.part (n : Notice) (h : Hub) : Bool × Hub :=
  (if (h.result? n.key n.ticket).isSome then h else h.abandon n.key n.ticket).closeIdle n.key

/-- A sweep that is under way. -/
structure Round where
  /-- To whom a notice has yet to be sent. -/
  chosen : List SessionKey
  pending : List Notice := []
  /-- All notices that were sent. -/
  sent : List Notice := []
  closed : Nat := 0

/-- What the sweep itself does in one go. -/
inductive Round.Acts (patience : Nat) (r : Round) (h : Hub) : Round → Hub → Prop
  | notice (before : List SessionKey) (k : SessionKey) (after : List SessionKey)
      (chosen : r.chosen = before ++ k :: after) (n : Notice)
      (this : n = ⟨k, (h.send k idleNotice).1, h.clock + patience⟩) :
      Acts patience r h { r with chosen := before ++ after, pending := r.pending ++ [n], sent := r.sent ++ [n] }
        (h.send k idleNotice).2
  | look (before : List Notice) (n : Notice) (after : List Notice) (pending : r.pending = before ++ n :: after)
      (due : n.Due h) :
      Acts patience r h { r with pending := before ++ after, closed := r.closed + (n.part h).1.toNat } (n.part h).2

/-- The course of a sweep that began in `h₀`, and the sessions that it has closed itself. -/
inductive Course (h₀ : Hub) (limit patience : Nat) : Round → Hub → List SessionKey → Prop
  | snapshot : Course h₀ limit patience { chosen := h₀.idleKeys limit } h₀ []
  | others {r : Round} {h h' : Hub} {cs : List SessionKey} (course : Course h₀ limit patience r h cs)
      (meanwhile : h.Meanwhile h') : Course h₀ limit patience r h' cs
  | acts {r r' : Round} {h h' : Hub} {cs : List SessionKey} (course : Course h₀ limit patience r h cs)
      (acts : r.Acts patience h r' h') : Course h₀ limit patience r' h' (cs ++ h.closings h')

variable {h₀ h h' : Hub} {n : Notice} {r r' : Round} {k : SessionKey} {x : Session} {limit patience : Nat}
  {cs : List SessionKey}

theorem part_here (hx : h.session? n.key = some x) : (n.part h).1 = !x.closed ∧
    ∃ y, (n.part h).2.session? n.key = some y ∧ y.closed = true ∧ (x.closed = false → y.closedIdle = true) := by
  unfold Notice.part
  split
  · exact Hub.closeIdle_here hx
  · obtain ⟨y, hy, same⟩ := Hub.abandon_here (t := n.ticket) hx
    rw [← same]
    exact Hub.closeIdle_here hy

theorem part_elsewhere (e : n.key ≠ k) : (n.part h).2.session? k = h.session? k := by
  unfold Notice.part
  rw [Hub.closeIdle_elsewhere e]
  split
  · rfl
  · exact Hub.move_elsewhere e _

theorem leads_part (n : Notice) (h : Hub) : h.Leads (n.part h).2 := by
  unfold Notice.part
  split
  · exact h.leads_closeIdle n.key
  · exact (h.leads_abandon n.key n.ticket).trans (Hub.leads_closeIdle _ n.key)

theorem steady_part (n : Notice) (h : Hub) : h.Steady (n.part h).2 := by
  unfold Notice.part
  split
  · exact h.steady_closeIdle n.key
  · exact (h.steady_move n.key _).trans (Hub.steady_closeIdle _ n.key)

theorem closings_part (hx : h.session? n.key = some x) :
    h.closings (n.part h).2 = if !x.closed then [n.key] else [] := by
  obtain ⟨-, y, hy, closed, -⟩ := part_here hx
  rw [Hub.closings_one hx hy fun j e => part_elsewhere e.symm, closed, Bool.and_true]

namespace Round

/-- An act concerns one session. -/
theorem Acts.one (acts : r.Acts patience h r' h') : ∃ k, (k ∈ r.chosen ∨ ∃ n ∈ r.pending, n.key = k) ∧ h.Leads h' ∧
    h.Steady h' ∧ ∀ j, j ≠ k → h'.session? j = h.session? j := by
  cases acts with
  | notice before k after chosen n this =>
    exact ⟨k, .inl (by simp [chosen]), h.leads_send k _, h.steady_request k _, fun j e => Hub.send_elsewhere e.symm _⟩
  | look before n after pending due =>
    exact ⟨n.key, .inr ⟨n, by simp [pending], rfl⟩, leads_part n h, steady_part n h, fun j e => part_elsewhere e.symm⟩

end Round

/-- What a notice has come to, by its turns on the lane and its result. -/
inductive Fare (f : Framing) (mine : List Writing) : Option (Except SendError Unit) → Prop
  | whole (w : Writing) (only : mine = [w]) (message : w.message = idleNotice)
      (frame : f.encode idleNotice = .ok w.frame) (all : w.taken = w.frame.length) : Fare f mine (some (.ok ()))
  | overlong (e : FrameError) (refused : f.encode idleNotice = .error e) (nothing : mine = []) :
      Fare f mine (some (.error (.frame e)))
  | broken (reason : String) (once : mine.length ≤ 1) : Fare f mine (some (.error (.frame (.io reason))))
  | unasked (nothing : mine = []) : Fare f mine (some (.error .closed))
  | waiting (once : mine.length ≤ 1) : Fare f mine none

theorem fare_of_written {f : Framing} {t : Ticket} {l : Lane} {book : List Writing}
    (written : Lane.Written f t idleNotice l book) : Fare f (share book t) (l.result? t) := by
  cases known : l.result? t with
  | none => exact .waiting written.once
  | some r =>
    cases written.ended r (Lane.mem_of_result known) with
    | whole w only all =>
      obtain ⟨message, frame, -⟩ := written.own w (by rw [only]; exact List.mem_cons_self)
      exact .whole w only message (message ▸ frame) all
    | refused e nothing why =>
      rcases why with rfl | ⟨fault, rfl, refused⟩
      · exact .unasked nothing
      · exact .overlong fault refused nothing
    | broken reason => exact .broken reason written.once

/-- What the notice has come to for its session `x`, by a ledger of all that was written to the connection. -/
def Notice.Fares (n : Notice) (x : Session) : Prop :=
  ∃ (s₀ : Session) (i j : Nat) (ms : List Session.Move), s₀.lane = { framing := x.lane.framing } ∧ s₀.Path i ms j x ∧
    x.lane.wire = (s₀.ledger [] ms).reverse.flatMap (·.part) ∧
    Fare x.lane.framing (share (s₀.ledger [] ms) n.ticket) (x.lane.result? n.ticket)

/-- The notice was sent, and its session has gone its way. -/
inductive Notice.Sent (n : Notice) (h : Hub) : Prop
  | sent (f : Framing) (s₀ x y z : Session) (n₀ i j : Nat) (before more : List Session.Move) (p : Pipe)
      (fresh : s₀.lane = { framing := f }) (past : s₀.Path n₀ before i x)
      (gets : x.Gets f idleNotice n.ticket p i j y) (path : y.Path j more h.tickets z) (hz : h.session? n.key = some z)

namespace Notice.Sent

theorem meanwhile (sent : n.Sent h) (meanwhile : h.Meanwhile h') : n.Sent h' := by
  obtain ⟨f, s₀, x, y, z, n₀, i, j, before, more, p, fresh, past, gets, path, hz⟩ := sent
  obtain ⟨z', ms, hz', path'⟩ := meanwhile.session _ z hz
  exact .sent f s₀ x y z' n₀ i j before _ p fresh past gets (path.trans path') hz'

theorem fares (sent : n.Sent h) (hx : h.session? n.key = some x) : n.Fares x := by
  obtain ⟨f, s₀, w, y, z, n₀, i, j, before, more, p, fresh, past, gets, path, hz⟩ := sent
  obtain rfl := Option.some.inj (hz.symm.trans hx)
  obtain ⟨ms, sending, written⟩ := gets.written
  have whole := (past.trans sending).trans path
  have framing : z.lane.framing = f := (whole.kept fresh).framing
  have written := written s₀ n₀ before more _ z fresh past path
  refine ⟨s₀, n₀, _, _, by rw [fresh, framing], whole, written.wire, ?_⟩
  rw [framing]
  exact fare_of_written written

/-- A session that is still open was open when the notice was sent. -/
theorem unrefused (sent : n.Sent h) (hx : h.session? n.key = some x) (unclosed : x.closed = false) :
    x.lane.result? n.ticket ≠ some (.error .closed) := by
  obtain ⟨f, s₀, w, y, z, n₀, i, j, before, more, p, fresh, past, gets, path, hz⟩ := sent
  obtain rfl := Option.some.inj (hz.symm.trans hx)
  obtain ⟨ms, sending, -⟩ := gets.written
  exact gets.unclosed ((sending.trans path).unclosed unclosed) more _ z path

/-- A faultless connection that takes all there is to write takes the notice. -/
theorem served (sent : n.Sent h) (hx : h.session? n.key = some x) (unclosed : x.closed = false)
    (fits : ∃ frame, x.lane.framing.encode idleNotice = .ok frame) (going : x.lane.Going n.ticket)
    (faultless : (h.pipe n.key).fault = none) (read : (h.pipe n.key).read ≤ x.lane.wire.length)
    (idle : (x.settle (h.pipe n.key)).lane.turn = none) :
    (x.settle (h.pipe n.key)).lane.result? n.ticket = some (.ok ()) := by
  obtain ⟨f, s₀, w, y, z, n₀, i, j, before, more, p, fresh, past, gets, path, hz⟩ := sent
  obtain rfl := Option.some.inj (hz.symm.trans hx)
  obtain ⟨ms, sending, -⟩ := gets.written
  have framing : z.lane.framing = f := (((past.trans sending).trans path).kept fresh).framing
  rw [framing] at fits
  exact gets.taken ((sending.trans path).unclosed unclosed) fits more _ z _ path going faultless read idle

end Notice.Sent

/-- The notice to a session that was there when the sweep began. -/
theorem sent_of_send {s : Session} (coherent : h₀.Coherent) (meanwhile : h₀.Meanwhile h) (hs : h₀.session? k = some s)
    (deadline : Nat) : Notice.Sent ⟨k, (h.send k idleNotice).1, deadline⟩ (h.send k idleNotice).2 := by
  obtain ⟨x, hx, read, f, s₀, n₀, before, fresh, past⟩ := coherent.session meanwhile hs
  have newer : h.tickets < (h.send k idleNotice).2.tickets :=
    Nat.lt_of_lt_of_eq (Nat.lt_succ_self _) (Hub.request_tickets h k (.send · idleNotice)).symm
  obtain ⟨y, hy, gets⟩ := Hub.gets_of_send (m := idleNotice) hx fresh past (Nat.le_refl _) newer read
  exact .sent f s₀ x y y n₀ _ _ before [] _ fresh past gets (.nil (Nat.le_refl _)) hy

/-- What is true all along a sweep. -/
structure InCourse (h₀ : Hub) (limit : Nat) (r : Round) (h : Hub) (cs : List SessionKey) : Prop where
  meanwhile : h₀.Meanwhile h
  members : (r.chosen ++ r.sent.map (·.key)).Perm (h₀.idleKeys limit)
  pending : r.pending ⊆ r.sent
  parted : ∀ n ∈ r.sent, n ∈ r.pending ∨ ∃ s, h.session? n.key = some s ∧ s.closed = true
  sent : ∀ n ∈ r.sent, n.Sent h
  count : r.closed = cs.length
  once : cs.Nodup
  closed : ∀ k ∈ cs, k ∈ r.sent.map (·.key) ∧
    ∃ s, h.session? k = some s ∧ s.closed = true ∧ s.closedIdle = true

namespace InCourse

theorem snapshot (h₀ : Hub) (limit : Nat) : InCourse h₀ limit { chosen := h₀.idleKeys limit } h₀ [] := by
  refine ⟨.refl h₀, ?_, fun _ there => there, nofun, nofun, rfl, List.nodup_nil, nofun⟩
  rw [List.map_nil, List.append_nil]

theorem others (on : InCourse h₀ limit r h cs) (meanwhile : h.Meanwhile h') : InCourse h₀ limit r h' cs where
  meanwhile := on.meanwhile.trans meanwhile
  members := on.members
  pending := on.pending
  parted n there := (on.parted n there).imp id meanwhile.closed
  sent n there := (on.sent n there).meanwhile meanwhile
  count := on.count
  once := on.once
  closed k there := ⟨(on.closed k there).1, meanwhile.closedIdle (on.closed k there).2⟩

theorem lapsed_chosen (on : InCourse h₀ limit r h cs) (there : k ∈ r.chosen) : h₀.Lapsed limit k :=
  Hub.mem_idleKeys.mp (on.members.mem_iff.mp (List.mem_append_left _ there))

theorem lapsed_sent (on : InCourse h₀ limit r h cs) (there : n ∈ r.sent) : h₀.Lapsed limit n.key :=
  Hub.mem_idleKeys.mp (on.members.mem_iff.mp (List.mem_append_right _ (List.mem_map_of_mem there)))

/-- Whoever was idle for too long when the sweep began is still there. -/
theorem lapsed_session (on : InCourse h₀ limit r h cs) (lapsed : h₀.Lapsed limit k) :
    ∃ s x, h₀.session? k = some s ∧ h.session? k = some x := by
  obtain ⟨-, s, hs, -⟩ := lapsed
  obtain ⟨x, -, hx, -⟩ := on.meanwhile.session k s hs
  exact ⟨s, x, hs, hx⟩

/-- Sending a notice closes no session. -/
theorem notice {before after : List SessionKey} (coherent : h₀.Coherent) (on : InCourse h₀ limit r h cs)
    (chosen : r.chosen = before ++ k :: after) (this : n = ⟨k, (h.send k idleNotice).1, h.clock + patience⟩) :
    InCourse h₀ limit { r with chosen := before ++ after, pending := r.pending ++ [n], sent := r.sent ++ [n] }
      (h.send k idleNotice).2 (cs ++ h.closings (h.send k idleNotice).2) := by
  have there : k ∈ r.chosen := by simp [chosen]
  obtain ⟨s, x, hs, hx⟩ := on.lapsed_session (on.lapsed_chosen there)
  have leads : h.Meanwhile (h.send k idleNotice).2 := .of_leads (h.leads_send k _) (h.steady_request k _)
  have spared : h.closings (h.send k idleNotice).2 = [] := Hub.closings_send hx
  have later := on.others leads
  have sent : n.Sent (h.send k idleNotice).2 := this ▸ sent_of_send coherent on.meanwhile hs _
  rw [spared, List.append_nil]
  refine { later with members := ?_, pending := ?_, parted := ?_, sent := ?_, closed := ?_ }
  · have key : n.key = k := by rw [this]
    have kept : ((before ++ after) ++ (r.sent ++ [n]).map (·.key)).Perm
        ((before ++ k :: after) ++ r.sent.map (·.key)) := by
      rw [List.map_append, List.map_cons, List.map_nil, key, ← List.append_assoc]
      exact (List.perm_append_singleton _ _).trans (List.perm_middle.symm.append_right _)
    rw [← chosen] at kept
    exact kept.trans on.members
  · intro m there
    rcases List.mem_append.mp there with there | there
    · exact List.mem_append_left _ (on.pending there)
    · exact List.mem_append_right _ there
  · intro m there
    rcases List.mem_append.mp there with there | there
    · exact (later.parted m there).imp (List.mem_append_left _) id
    · exact .inl (List.mem_append_right _ there)
  · intro m there
    rcases List.mem_append.mp there with there | there
    · exact later.sent m there
    · rw [List.mem_singleton.mp there]
      exact sent
  · intro j there
    obtain ⟨known, closed⟩ := later.closed j there
    rw [List.map_append]
    exact ⟨List.mem_append_left _ known, closed⟩

/-- Looking at a notice that is due closes its session, and counts if that was open. -/
theorem look {before after : List Notice} (on : InCourse h₀ limit r h cs) (pending : r.pending = before ++ n :: after) :
    InCourse h₀ limit { r with pending := before ++ after, closed := r.closed + (n.part h).1.toNat } (n.part h).2
      (cs ++ h.closings (n.part h).2) := by
  have there : n ∈ r.sent := on.pending (by simp [pending])
  obtain ⟨-, x, -, hx⟩ := on.lapsed_session (on.lapsed_sent there)
  obtain ⟨first, y, hy, closed, idle⟩ := part_here hx
  have leads : h.Meanwhile (n.part h).2 := .of_leads (leads_part n h) (steady_part n h)
  have later := on.others leads
  have closings : h.closings (n.part h).2 = if !x.closed then [n.key] else [] := closings_part hx
  refine { later with pending := ?_, parted := ?_, count := ?_, once := ?_, closed := ?_ }
  · intro m left
    refine on.pending ?_
    rw [pending]
    rcases List.mem_append.mp left with left | left
    · exact List.mem_append_left _ left
    · exact List.mem_append_right _ (List.mem_cons_of_mem _ left)
  · intro m known
    rcases later.parted m known with left | parted
    · rw [pending] at left
      rcases List.mem_append.mp left with left | left
      · exact .inl (List.mem_append_left _ left)
      · rcases List.mem_cons.mp left with rfl | left
        · exact .inr ⟨y, hy, closed⟩
        · exact .inl (List.mem_append_right _ left)
    · exact .inr parted
  · rw [List.length_append, closings, first, on.count]
    cases x.closed <;> rfl
  · rw [closings]
    cases unclosed : x.closed with
    | true => simpa using on.once
    | false =>
      refine List.nodup_append.mpr ⟨on.once, List.nodup_singleton _, ?_⟩
      rintro j before _ now rfl
      obtain ⟨-, s, hs, closed, -⟩ := on.closed j before
      rw [List.mem_singleton.mp now] at hs
      obtain rfl := Option.some.inj (hx.symm.trans hs)
      rw [closed] at unclosed
      cases unclosed
  · intro j closing
    rcases List.mem_append.mp closing with before | now
    · exact later.closed j before
    · cases unclosed : x.closed with
      | true => simp [closings, unclosed] at now
      | false =>
        obtain rfl : j = n.key := by simpa [closings, unclosed] using now
        exact ⟨List.mem_map_of_mem there, y, hy, closed, idle unclosed⟩

end InCourse

theorem Course.inCourse (coherent : h₀.Coherent) (course : Course h₀ limit patience r h cs) :
    InCourse h₀ limit r h cs := by
  induction course with
  | snapshot => exact .snapshot h₀ limit
  | others _ meanwhile ih => exact ih.others meanwhile
  | acts _ acts ih =>
    cases acts with
    | notice before k after chosen n this => exact ih.notice coherent chosen this
    | look before n after pending _ => exact ih.look pending

end Sweep
end FrameServer
