import FrameServer.Proofs.Session.Sending
import FrameServer.Proofs.Session.Share
import FrameServer.Server.Work

namespace FrameServer

namespace Lane

/-- What the turns of ticket `t`, with which the lane was asked to send `m`, have brought. -/
structure Written (f : Framing) (t : Ticket) (m : Bytes) (l : Lane) (book : List Writing) : Prop where
  wire : l.wire = book.reverse.flatMap (·.part)
  own : ∀ w ∈ share book t, w.message = m ∧ w.Sound f
  once : (share book t).length ≤ 1
  overlong : f.max < m.length → share book t = []
  ended : ∀ r, (t, r) ∈ l.results → Ended f m (share book t) r
  /-- As long as all frames are whole, they are what the peer reads. -/
  read : (∀ w ∈ book, w.taken = w.frame.length) →
    f.divide l.wire = ⟨(book.reverse.map (·.message)).flatMap f.kind.readBack, .clean⟩

/-- A send that was not given up, and that its connection has not failed. -/
structure Going (l : Lane) (t : Ticket) : Prop where
  named : l.Names t
  unbroken : ∀ reason, (t, .error (.frame (.io reason))) ∉ l.results

variable {f : Framing} {t : Ticket} {m : Bytes} {l l' : Lane} {mv : Move} {book : List Writing}

theorem Fate.written (kept : Kept f l book) (fate : Fate f t m l book) : Written f t m l book := by
  have mine : ∀ w ∈ share book t, w.message = m ∧ w.Sound f := fun w hw =>
    ⟨fate.own w hw, kept.sound w (List.mem_filter.mp hw).1⟩
  refine ⟨kept.wire, mine, fate.single, fun overlong => ?_, fate.ended, fun whole => ?_⟩
  · refine List.eq_nil_iff_forall_not_mem.mpr fun w hw => ?_
    obtain ⟨rfl, encoded, -⟩ := mine w hw
    exact absurd ((f.encode_eq_ok_iff _).mp ⟨_, encoded⟩).1 (Nat.not_le.mpr overlong)
  · rw [kept.wire]
    exact f.divide_encodeAll _ _ (Session.encodeAll_whole _ (fun w hw => kept.sound w (List.mem_reverse.mp hw))
      fun w hw => whole w (List.mem_reverse.mp hw))

theorem Going.step (going : l.Going t) (h : l.step mv = some l') (persists : mv.persists = true) : l'.Going t := by
  have there : 0 < l.tickets.count t := count_pos_of_names going.named
  refine ⟨mem_tickets.mp (List.count_pos_iff.mp ?_), fun reason failed => ?_⟩
  · rw [(count_tickets h t).2 persists, List.count_append]
    exact Nat.lt_of_lt_of_le there (Nat.le_add_right _ _)
  · cases step_effect h with
    | fail => cases persists
    | refuse u msg rest e _ _ why =>
      rcases List.mem_cons.mp failed with same | before
      · obtain rfl := Except.error.inj (Prod.mk.inj same).2
        rcases why with ⟨closed, -⟩ | ⟨fault, he, encoded⟩
        · cases closed
        · obtain ⟨size, max, rfl⟩ := Framing.encode_fault encoded
          cases he
      · exact going.unbroken reason before
    | shutdown u | finish u =>
      rcases List.mem_cons.mp failed with same | before
      · cases (Prod.mk.inj same).2
      · exact going.unbroken reason before
    | _ => exact going.unbroken reason failed

/-- A lane with nothing to do has done with every send that was not given up. -/
theorem Going.result? (going : l.Going t) (idle : l.turn = none) (queue : l.queue = []) :
    ∃ r, l.result? t = some r := by
  rcases going.named with ⟨job, there⟩ | ⟨rest, turn⟩ | ⟨r, there⟩
  · rw [queue] at there
    cases there
  · rw [idle] at turn
    cases turn
  · cases known : l.result? t with
    | some r => exact ⟨r, rfl⟩
    | none =>
      have absent := List.lookup_eq_none_iff.mp known _ there
      simp at absent

end Lane

namespace Session

open Lane (Fate Kept Written Going)

variable {f : Framing} {t : Ticket} {m : Bytes} {s s₀ x y z : Session} {p : Pipe} {mv : Lane.Move} {n n' n₀ : Nat}
  {ms : List Move}

/-- A connection that has not failed fails no send. -/
theorem Ready.going (h : s.Ready p mv x) (faultless : p.fault = none) (going : s.lane.Going t) : x.lane.Going t := by
  obtain ⟨l, lane, rfl⟩ := Option.map_eq_some_iff.mp h.step
  refine going.step lane ?_
  cases h with
  | fail _ _ _ _ _ fault =>
    rw [faultless] at fault
    cases fault
  | _ => rfl

/-- What a broadcast of `m` comes to for a session that was `s` when it was made, `n` tickets being given out. After it
the session is `y`; the connection was as `p` tells. -/
structure Gets (f : Framing) (m : Bytes) (t : Ticket) (p : Pipe) (n n' : Nat) (s y : Session) : Prop where
  /-- Whatever happens later, at most one frame is written for it, and just one if the send succeeds. -/
  written : ∃ ms, s.Path n ms n' y ∧ ∀ (s₀ : Session) n₀ before more n'' z, s₀.lane = { framing := f } →
    s₀.Path n₀ before n s → y.Path n' more n'' z → Written f t m z.lane (s₀.ledger [] (before ++ ms ++ more))
  closed : s.closed = true → ∀ more n'' z, y.Path n' more n'' z → z.lane.result? t = some (.error .closed)
  unclosed : s.closed = false → ∀ more n'' z, y.Path n' more n'' z → z.lane.result? t ≠ some (.error .closed)
  going : s.closed = false → p.fault = none → y.lane.Going t
  /-- It succeeds if it is not given up and a faultless connection takes all there is to write. -/
  taken : s.closed = false → (∃ frame, f.encode m = .ok frame) → ∀ more n'' z q, y.Path n' more n'' z →
    z.lane.Going t → q.fault = none → q.read ≤ z.lane.wire.length → (z.settle q).lane.turn = none →
    (z.settle q).lane.result? t = some (.ok ())
  /-- It succeeds at once if nothing is in its way. -/
  prompt : ∀ frame, s.closed = false → s.Idle → p.fault = none → f.encode m = .ok frame → frame.length ≤ s.room p →
    y.lane.wire = s.lane.wire ++ frame ∧ y.lane.result? t = some (.ok ())

/-- Tickets that are not given out yet have no turns. -/
theorem Path.share_nil (fresh : s₀.lane = { framing := f }) (path : s₀.Path n₀ ms n s) (new : n ≤ t) :
    share (s₀.ledger [] ms) t = [] := by
  refine List.filter_eq_nil_iff.mpr fun w hw => ?_
  have older := path.send_lt ((path.asked fresh).book w hw)
  rw [decide_eq_true_eq]
  rintro rfl
  exact Nat.lt_irrefl _ (Nat.lt_of_lt_of_le older new)

/-- A send on an open session asks for its turn. -/
theorem going_send (new : ¬ s.lane.Names t) (unclosed : s.closed = false) (sent : s.step (.send t m) = some z) :
    z.lane.Going t := by
  simp only [step, unclosed, Bool.false_eq_true, if_false] at sent
  obtain ⟨l, lane, rfl⟩ := Option.map_eq_some_iff.mp sent
  obtain rfl := Option.some.inj lane
  refine ⟨.inl ⟨.message m, List.mem_append_right _ List.mem_cons_self⟩, fun reason there => ?_⟩
  exact new (.inr (.inr ⟨_, there⟩))

theorem refused_send (new : ¬ s.lane.Names t) (closed : s.closed = true) (sent : s.step (.send t m) = some z) :
    z.lane.Refused t := by
  simp only [step, closed, if_true] at sent
  obtain rfl := Option.some.inj sent
  exact Lane.refused_of_new new

theorem closed_send (sent : s.step (.send t m) = some z) : z.closed = s.closed := by
  simp only [step] at sent
  split at sent
  · obtain rfl := Option.some.inj sent
    rfl
  · obtain ⟨l, -, rfl⟩ := Option.map_eq_some_iff.mp sent
    rfl

/-- What any history of a session comes to that goes on with a send. -/
theorem Path.fate_sent {before more : List Move} {n'' : Nat} {z' : Session} (older : n ≤ t) (newer : t < n')
    (new : ¬ x.lane.Names t) (sent : x.step (.send t m) = some z) (fresh : s₀.lane = { framing := f })
    (past : s₀.Path n₀ before n x) (later : z.Path n' more n'' z') :
    Kept f z'.lane (s₀.ledger [] (before ++ .send t m :: more)) ∧
      Fate f t m z'.lane (s₀.ledger [] (before ++ .send t m :: more)) := by
  rw [ledger_append past.play]
  simp only [ledger, sent]
  exact later.fate newer (kept_step (past.kept fresh) sent) (fate_send new (past.share_nil fresh older) sent)

/-- A send that is not given up succeeds when a faultless connection has taken all there is to write. -/
theorem result_of_settle {bytes : Bytes} (fate : Fate f t m (z.settle p).lane book)
    (spared : (z.settle p).lane.Spared t) (encoded : f.encode m = .ok bytes) (going : z.lane.Going t)
    (faultless : p.fault = none) (read : p.read ≤ z.lane.wire.length) (idle : (z.settle p).lane.turn = none) :
    (z.settle p).lane.result? t = some (.ok ()) := by
  have queue : (z.settle p).lane.queue = [] := by simpa [ready?, idle] using settle_ready read
  have going : (z.settle p).lane.Going t :=
    settle_invariant (P := fun s => s.lane.Going t) (fun ready => ready.going faultless) going
  obtain ⟨r, known⟩ := going.result? idle queue
  have there := Lane.mem_of_result known
  cases fate.ended r there with
  | whole => exact known
  | refused e _ why =>
    rcases why with rfl | ⟨fault, -, refused⟩
    · exact absurd there spared.result
    · rw [encoded] at refused
      cases refused
  | broken reason => exact absurd there (going.unbroken reason)

/-- A send alone on its lane is written at once if its frame has room. -/
theorem Alone.prompt {before bytes : Bytes} (alone : y.Alone p t m before) (faultless : p.fault = none)
    (encoded : y.lane.framing.encode m = .ok bytes) (read : p.read ≤ before.length)
    (room : bytes.length ≤ p.capacity - (before.length - p.read)) :
    y.lane.wire = before ++ bytes ∧ y.lane.result? t = some (.ok ()) := by
  rcases alone.cases with ⟨frame, rest, same, -, -, wire, left, -, -, full⟩ | ⟨-, -, ended⟩
  · obtain rfl := Except.ok.inj (encoded.symm.trans same)
    have some := List.length_pos_iff.mpr left
    have pos := Framing.encode_length_pos encoded
    have size := congrArg List.length wire
    simp only [List.length_append] at size
    unfold Session.room at full
    omega
  · rcases ended with ⟨frame, same, wire, result⟩ | ⟨e, refused, -⟩ | ⟨fault, -⟩
    · obtain rfl := Except.ok.inj (encoded.symm.trans same)
      exact ⟨wire, result⟩
    · rw [encoded] at refused
      cases refused
    · exact absurd faultless fault

/-- What a send comes to, under a ticket that was not given out before. -/
theorem gets_sent (fresh : s₀.lane = { framing := f }) (past : s₀.Path n₀ before n x) (older : n ≤ t) (newer : t < n')
    (read : p.read ≤ x.lane.wire.length) : x.Gets f m t p n n' (x.sent p t m) := by
  have standing : x.Standing t := (past.weaken older).standing (standing_fresh fresh n₀)
  have new : ¬ x.lane.Names t := fun named => Nat.lt_irrefl _ (standing.below _ named)
  obtain ⟨z, made, after⟩ := x.sent_cases p t m
  have le : n ≤ n' := Nat.le_of_lt (Nat.lt_of_le_of_lt older newer)
  have asked : x.Path n [.send t m] n' z := .single _ made le ⟨older, newer⟩
  obtain ⟨ms, settled, going⟩ : ∃ ms, z.Path n' ms n' (x.sent p t m) ∧
      (p.fault = none → z.lane.Going t → (x.sent p t m).lane.Going t) := by
    rcases after with same | after
    · exact ⟨[], same ▸ .nil (Nat.le_refl _), fun _ going => same ▸ going⟩
    · obtain ⟨ms, path⟩ := z.path_settle n' p
      refine ⟨ms, after ▸ path, fun faultless going => after ▸ ?_⟩
      exact settle_invariant (P := fun s => s.lane.Going t) (fun ready => ready.going faultless) going
  have spared (unclosed : x.closed = false) : z.lane.Spared t :=
    (asked.standing (past.standing (standing_fresh fresh n₀))).spared ((closed_send made).trans unclosed) t
  have path : x.Path n ([.send t m] ++ ms) n' _ := asked.trans settled
  refine ⟨⟨_, path, ?_⟩, ?_, ?_, ?_, ?_, ?_⟩
  · intro s₁ n₁ earlier more n'' z' fresh' past' later
    obtain ⟨kept, mine⟩ := Path.fate_sent older newer new made fresh' past' (settled.trans later)
    have same : earlier ++ ([.send t m] ++ ms) ++ more = earlier ++ .send t m :: (ms ++ more) := by simp
    rw [same]
    exact mine.written kept
  · intro closed more n'' z' later
    exact ((settled.trans later).refused newer (refused_send new closed made)).result?
  · intro unclosed more n'' z' later result
    exact ((settled.trans later).spared newer (spared unclosed)).result (Lane.mem_of_result result)
  · intro unclosed faultless
    exact going faultless (going_send new unclosed made)
  · rintro unclosed ⟨bytes, encoded⟩ more n'' z' q later live faultless read' idle
    obtain ⟨ms', settle⟩ := z'.path_settle n'' q
    have all := (settled.trans later).trans settle
    exact result_of_settle (Path.fate_sent older newer new made fresh past all).2 (all.spared newer (spared unclosed))
      encoded live faultless read' idle
  · intro bytes unclosed idle faultless encoded room
    have framing := (Path.fate_sent older newer new made fresh past settled).1.framing
    exact (idle.alone unclosed standing read).prompt faultless (framing ▸ encoded) read room

end Session

namespace Hub

open Session (Gets)

variable {f : Framing} {h : Hub} {k : SessionKey} {x s s₀ : Session} {m : Bytes} {t : Ticket} {n₀ n n' : Nat}
  {before : List Session.Move}

theorem gets_of_send (hx : h.session? k = some x) (fresh : s₀.lane = { framing := f })
    (past : s₀.Path n₀ before n x) (older : n ≤ h.tickets) (newer : h.tickets < n')
    (read : (h.pipe k).read ≤ x.lane.wire.length) :
    ∃ y, (h.send k m).2.session? k = some y ∧ x.Gets f m h.tickets (h.pipe k) n n' y :=
  ⟨_, send_sent hx, Session.gets_sent fresh past older newer read⟩

/-- Sends to others leave a session, its connection and its ticket alone. -/
theorem sendEach_split {ks : List SessionKey} {t : Ticket} (once : ks.Nodup) (there : (k, t) ∈ (h.sendEach m ks).1) :
    ∃ g : Hub, h.tickets ≤ g.tickets ∧ g.session? k = h.session? k ∧ g.pipe k = h.pipe k ∧ t = g.tickets ∧
      (h.sendEach m ks).2.session? k = (g.send k m).2.session? k ∧ g.tickets < (h.sendEach m ks).2.tickets := by
  induction ks generalizing h with
  | nil => cases there
  | cons j ks ih =>
    obtain ⟨others, once⟩ := List.nodup_cons.mp once
    have later : (h.send j m).2.tickets ≤ ((h.send j m).2.sendEach m ks).2.tickets :=
      ((h.send j m).2.leads_sendEach m ks).tickets
    have next : h.tickets + 1 ≤ (h.send j m).2.tickets := Nat.le_of_eq (request_tickets h j _).symm
    rcases List.mem_cons.mp there with same | there
    · obtain ⟨rfl, rfl⟩ := Prod.mk.inj same
      exact ⟨h, Nat.le_refl _, rfl, rfl, rfl, sendEach_elsewhere others, Nat.le_trans next later⟩
    · have apart : j ≠ k := by
        rintro rfl
        refine others ?_
        rw [← sendEach_keys (h.send j m).2 m ks]
        exact List.mem_map_of_mem there
      obtain ⟨g, tickets, session, pipe, rest⟩ := ih once there
      have older : h.tickets ≤ g.tickets := Nat.le_trans (Nat.le_of_succ_le next) tickets
      refine ⟨g, older, session.trans (send_elsewhere apart m), pipe.trans ?_, rest⟩
      exact (h.steady_request j (.send · m)).pipe k

theorem mem_keys_of_broadcast (there : (k, t) ∈ (h.broadcast m).1) : k ∈ h.registry.keys := by
  rw [← sendEach_keys h m h.registry.keys]
  exact List.mem_map_of_mem there

/-- What a recipient of a broadcast is after it depends on nothing but itself, its connection and its ticket. -/
theorem broadcast_sent (once : h.registry.keys.Nodup) (there : (k, t) ∈ (h.broadcast m).1)
    (hs : h.session? k = some s) :
    (h.broadcast m).2.session? k = some (s.sent (h.pipe k) t m) ∧ h.tickets ≤ t ∧ t < (h.broadcast m).2.tickets := by
  obtain ⟨g, tickets, session, pipe, rfl, after, newer⟩ := sendEach_split once there
  have sent := send_sent (m := m) (session.trans hs)
  rw [pipe] at sent
  exact ⟨after.trans sent, tickets, newer⟩

/-- Sessions that began with nothing on their lanes, each registered once at most. -/
structure Orderly (f : Framing) (h : Hub) : Prop where
  past : ∀ k s, h.session? k = some s →
    ∃ (s₀ : Session) (n : Nat) (ms : List Session.Move), s₀.lane = { framing := f } ∧ s₀.Path n ms h.tickets s
  once : h.registry.keys.Nodup
  there : ∀ k ∈ h.registry.keys, ∃ s, h.session? k = some s
  read : ∀ k s, h.session? k = some s → (h.pipe k).read ≤ s.lane.wire.length

/-- What a handler's broadcast of `m` begins: one send to every registered session, and nothing for the others. -/
structure Spreads (f : Framing) (h : Hub) (m : Bytes) : Prop where
  begins : ∀ k, Work.begin h k (.broadcast m) = .inr ((h.broadcast m).2, .broadcast (h.broadcast m).1)
  keys : (h.broadcast m).1.map Prod.fst = h.registry.keys
  once : h.registry.keys.Nodup
  each : ∀ k t, (k, t) ∈ (h.broadcast m).1 → ∃ s y, h.session? k = some s ∧
    (h.broadcast m).2.session? k = some y ∧ s.Gets f m t (h.pipe k) h.tickets (h.broadcast m).2.tickets y
  others : ∀ k, k ∉ h.registry.keys → (h.broadcast m).2.session? k = h.session? k

theorem Orderly.spreads (orderly : h.Orderly f) (m : Bytes) : h.Spreads f m := by
  refine ⟨fun _ => rfl, sendEach_keys h m _, orderly.once, fun k t there => ?_, fun k other => sendEach_elsewhere other⟩
  obtain ⟨s, hs⟩ := orderly.there k (mem_keys_of_broadcast there)
  obtain ⟨s₀, n₀, before, fresh, past⟩ := orderly.past k s hs
  obtain ⟨after, older, newer⟩ := broadcast_sent orderly.once there hs
  exact ⟨s, _, hs, after, Session.gets_sent fresh past older newer (orderly.read k s hs)⟩

/-- A broadcast of `m` as a line of its own: one that fits is written with a line feed behind it, and read as it is. -/
structure SpreadsLine (f : Framing) (h : Hub) (m : Bytes) : Prop extends Spreads f h m where
  fits : ∀ bytes, f.encode m = .ok bytes ↔ m.length ≤ f.max ∧ bytes = m ++ [Framing.lf]
  back : f.kind.readBack m = [m]

theorem Orderly.spreads_line (orderly : h.Orderly f) (lines : f.kind = .line) (unsplit : Framing.lf ∉ m)
    (kept : m.getLast? ≠ some Framing.cr) : h.SpreadsLine f m := by
  refine ⟨orderly.spreads m, fun bytes => ?_, ?_⟩
  · unfold Framing.encode
    rw [lines]
    dsimp only
    split
    next long => simp [Nat.not_le.mpr long]
    next short => simp [Nat.not_lt.mp short, eq_comm]
  · rw [lines, Framing.Kind.readBack_eq_self_iff]
    intro line there
    rw [List.mem_singleton.mp there]
    exact ⟨unsplit, kept⟩

end Hub
end FrameServer
