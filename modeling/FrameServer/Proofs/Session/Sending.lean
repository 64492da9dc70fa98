import FrameServer.Proofs.Session.Steady

namespace FrameServer

namespace Session

/-- The move that is ready, and what it leads to. -/
inductive Ready (s : Session) (p : Pipe) : Lane.Move → Session → Prop
  | finish (t : Ticket) (turn : s.lane.turn = some (t, [])) :
      Ready s p .finish { s with lane := ({ s.lane with turn := none } : Lane).settleTicket t (.ok ()) }
  | fail (t : Ticket) (rest : Bytes) (reason : String) (turn : s.lane.turn = some (t, rest)) (left : rest ≠ [])
      (fault : p.fault = some reason) :
      Ready s p (.fail reason)
        { s with lane := ({ s.lane with turn := none } : Lane).settleTicket t (.error (.frame (.io reason))) }
  | accept (t : Ticket) (rest : Bytes) (turn : s.lane.turn = some (t, rest)) (left : rest ≠ []) (fault : p.fault = none)
      (room : 0 < s.room p) :
      Ready s p (.accept (min (s.room p) rest.length))
        { s with lane := { s.lane with
          wire := s.lane.wire ++ rest.take (min (s.room p) rest.length)
          turn := some (t, rest.drop (min (s.room p) rest.length)) } }
  | grant (t : Ticket) (job : Lane.Job) (rest : List (Ticket × Lane.Job)) (idle : s.lane.turn = none)
      (first : s.lane.queue = (t, job) :: rest) :
      Ready s p .grant { s with lane := ({ s.lane with queue := rest } : Lane).start t job }

/-- How many moves may still be ready: three for a place in the queue, and two for the turn. -/
def workload (s : Session) (p : Pipe) : Nat :=
  3 * s.lane.queue.length + match s.lane.turn with
    | none => 0
    | some (_, []) => 1
    | some (_, _ :: _) => if p.fault = none ∧ s.room p = 0 then 0 else 2

variable {s s' : Session} {p : Pipe} {m : Lane.Move}

theorem Ready.step (h : s.Ready p m s') : s.step (.lane m) = some s' := by
  cases h with
  | finish t turn => simp [Session.step, Lane.step, turn]
  | fail t rest reason turn left =>
    obtain ⟨b, bs, rfl⟩ := List.exists_cons_of_ne_nil left
    simp [Session.step, Lane.step, turn]
  | accept t rest turn left _ room =>
    have length : 0 < rest.length := List.length_pos_iff.mpr left
    have fits : 0 < min (s.room p) rest.length ∧ min (s.room p) rest.length ≤ rest.length := by omega
    simp only [Session.step, Lane.step, turn, if_pos fits, Option.map_some]
  | grant t job rest idle first => simp [Session.step, Lane.step, idle, first]

theorem ready_step (h : s.ready? p = some m) : ∃ s', s.step (.lane m) = some s' ∧ s.Ready p m s' := by
  suffices ready : ∃ s', s.Ready p m s' by
    obtain ⟨s', ready⟩ := ready
    exact ⟨s', ready.step, ready⟩
  unfold ready? at h
  split at h
  next t turn =>
    obtain rfl := Option.some.inj h
    exact ⟨_, .finish t turn⟩
  next t rest other turn =>
    have left : rest ≠ [] := fun empty => other empty
    split at h
    next reason fault =>
      obtain rfl := Option.some.inj h
      exact ⟨_, .fail t rest reason turn left fault⟩
    next fault =>
      dsimp only at h
      split at h
      · cases h
      next some =>
        obtain rfl := Option.some.inj h
        have room : 0 < s.room p := by omega
        exact ⟨_, .accept t rest turn left fault room⟩
  next idle =>
    split at h
    · cases h
    next waiting =>
      obtain rfl := Option.some.inj h
      obtain ⟨⟨t, job⟩, rest, first⟩ := List.exists_cons_of_ne_nil (by simpa using waiting)
      exact ⟨_, .grant t job rest idle first⟩

theorem Ready.wire (h : s.Ready p m s') : s.lane.wire.length ≤ s'.lane.wire.length := by
  cases h with
  | accept => simp
  | grant t job =>
    dsimp only [Lane.start]
    cases job with
    | shutdown => exact Nat.le_refl _
    | message m =>
      dsimp only
      split
      · exact Nat.le_refl _
      · split <;> exact Nat.le_refl _
  | _ => exact Nat.le_refl _

theorem Ready.workload (h : s.Ready p m s') (read : p.read ≤ s.lane.wire.length) : s'.workload p < s.workload p := by
  cases h with
  | finish t turn => simp [Session.workload, turn, Lane.settleTicket]
  | fail t rest reason turn left fault =>
    obtain ⟨b, bs, rfl⟩ := List.exists_cons_of_ne_nil left
    simp [Session.workload, turn, fault, Lane.settleTicket]
  | accept t rest turn left fault room =>
    obtain ⟨b, bs, rfl⟩ := List.exists_cons_of_ne_nil left
    have before : s.workload p = 3 * s.lane.queue.length + 2 := by
      simp [Session.workload, turn, fault, Nat.ne_of_gt room]
    rw [before]
    unfold Session.workload
    dsimp only
    by_cases whole : (b :: bs).length ≤ s.room p
    · rw [Nat.min_eq_right whole, List.drop_length]
      simp
    · have full : p.capacity - ((s.lane.wire ++ (b :: bs).take (s.room p)).length - p.read) = 0 := by
        rw [List.length_append, List.length_take, Nat.min_eq_left (by omega)]
        unfold Session.room at room whole ⊢
        omega
      rw [Nat.min_eq_left (by omega)]
      have remains : (b :: bs).drop (s.room p) ≠ [] := by
        intro empty
        exact whole (List.drop_eq_nil_iff.mp empty)
      obtain ⟨d, ds, rest⟩ := List.exists_cons_of_ne_nil remains
      rw [rest]
      show 3 * s.lane.queue.length + (if p.fault = none ∧ _ = 0 then 0 else 2) < _
      rw [if_pos ⟨fault, full⟩]
      omega
  | grant t job rest idle first =>
    have after : ∀ l : Lane, ({ s with lane := l } : Session).workload p ≤ 3 * l.queue.length + 2 := by
      intro l
      unfold Session.workload
      dsimp only
      split
      · omega
      · omega
      · split <;> omega
    have queue : (({ s.lane with queue := rest } : Lane).start t job).queue = rest := by
      unfold Lane.start
      cases job with
      | shutdown => rfl
      | message m =>
        dsimp only
        split
        · rfl
        · split <;> rfl
    have before : s.workload p = 3 * (rest.length + 1) := by simp [Session.workload, idle, first]
    have bound := after (({ s.lane with queue := rest } : Lane).start t job)
    rw [queue] at bound
    omega

theorem settleWith_ready (fuel : Nat) (enough : s.workload p ≤ fuel) (read : p.read ≤ s.lane.wire.length) :
    (s.settleWith p fuel).ready? p = none := by
  induction fuel generalizing s with
  | zero =>
    cases h : s.ready? p with
    | none => exact h
    | some m =>
      obtain ⟨s', -, ready⟩ := ready_step h
      have fewer := ready.workload read
      omega
  | succ fuel ih =>
    unfold settleWith
    cases h : s.ready? p with
    | none => exact h
    | some m =>
      obtain ⟨s', hs, ready⟩ := ready_step h
      have fewer := ready.workload read
      simp only [hs]
      exact ih (by omega) (Nat.le_trans read ready.wire)

/-- When a lane has settled, no move is ready. -/
theorem settle_ready (read : p.read ≤ s.lane.wire.length) : (s.settle p).ready? p = none := by
  refine settleWith_ready _ ?_ read
  unfold workload
  split
  · omega
  · omega
  · split <;> omega

theorem settleWith_of_ready (fuel : Nat) (h : s.ready? p = none) : s.settleWith p fuel = s := by
  cases fuel with
  | zero => rfl
  | succ fuel => simp only [settleWith, h]

theorem settle_of_ready (h : s.ready? p = none) : s.settle p = s := settleWith_of_ready _ h

/-- What every ready move keeps is kept by settling. -/
theorem settle_invariant {P : Session → Prop}
    (keep : ∀ {x y : Session} {m : Lane.Move}, x.Ready p m y → P x → P y) (hs : P s) : P (s.settle p) := by
  have all (fuel : Nat) : P (s.settleWith p fuel) := by
    induction fuel generalizing s with
    | zero => exact hs
    | succ fuel ih =>
      unfold settleWith
      cases h : s.ready? p with
      | none => exact hs
      | some m =>
        obtain ⟨s', hm, ready⟩ := ready_step h
        simp only [hm]
        exact ih (keep ready hs)
  exact all _

/-- To settle closes no session. -/
theorem closed_settle (p : Pipe) (s : Session) : (s.settle p).closed = s.closed := by
  refine settle_invariant (P := fun x => x.closed = s.closed) (fun ready closed => ?_) rfl
  cases ready <;> exact closed

end Session

namespace Lane

/-- What has become of the send of `m` under ticket `t`, if it is all there is on its lane. Before it, `before` was
written. -/
inductive Sends (p : Pipe) (t : Ticket) (m before : Bytes) (l : Lane) : Prop
  | asked (idle : l.turn = none) (queue : l.queue = [(t, .message m)]) (unreleased : l.released = false)
      (wire : l.wire = before) (unknown : l.result? t = none)
  | writing (frame rest : Bytes) (encoded : l.framing.encode m = .ok frame) (turn : l.turn = some (t, rest))
      (queue : l.queue = []) (wire : l.wire ++ rest = before ++ frame) (unknown : l.result? t = none)
  | written (frame : Bytes) (encoded : l.framing.encode m = .ok frame) (idle : l.turn = none) (queue : l.queue = [])
      (wire : l.wire = before ++ frame) (result : l.result? t = some (.ok ()))
  | dropped (e : FrameError) (encoded : l.framing.encode m = .error e) (idle : l.turn = none) (queue : l.queue = [])
      (wire : l.wire = before) (result : l.result? t = some (.error (.frame e)))
  | broken (reason : String) (idle : l.turn = none) (queue : l.queue = [])
      (result : l.result? t = some (.error (.frame (.io reason)))) (fault : p.fault ≠ none)

theorem result_settleTicket (l : Lane) (t : Ticket) (r : Except SendError Unit) :
    (l.settleTicket t r).result? t = some r := List.lookup_cons_self

end Lane

namespace Session

variable {s s' : Session} {p : Pipe} {mv : Lane.Move} {t : Ticket} {m before : Bytes}

/-- A ready move takes the send further. -/
theorem Ready.sends (h : s.Ready p mv s') (sends : s.lane.Sends p t m before) : s'.lane.Sends p t m before := by
  cases sends with
  | asked idle queue unreleased wire unknown =>
    cases h with
    | grant t' job rest _ first =>
      rw [queue] at first
      obtain ⟨same, rfl⟩ := List.cons.inj first
      obtain ⟨rfl, rfl⟩ := Prod.mk.inj same
      simp only [Lane.start, unreleased, Bool.false_eq_true, if_false]
      cases encoded : s.lane.framing.encode m with
      | error e => exact .dropped e encoded idle rfl wire (Lane.result_settleTicket _ t _)
      | ok frame => exact .writing frame frame encoded rfl rfl (by rw [wire]) unknown
    | finish _ turn | fail _ _ _ turn | accept _ _ turn =>
      rw [idle] at turn
      cases turn
  | writing frame rest encoded turn queue wire unknown =>
    cases h with
    | finish t' turn' =>
      obtain ⟨rfl, rfl⟩ := Prod.mk.inj (Option.some.inj (turn.symm.trans turn'))
      rw [List.append_nil] at wire
      exact .written frame encoded rfl queue wire (Lane.result_settleTicket _ t _)
    | fail t' rest' reason turn' _ fault =>
      obtain ⟨rfl, rfl⟩ := Prod.mk.inj (Option.some.inj (turn.symm.trans turn'))
      exact .broken reason rfl queue (Lane.result_settleTicket _ t _) (by rw [fault]; exact Option.some_ne_none _)
    | accept t' rest' turn' =>
      obtain ⟨rfl, rfl⟩ := Prod.mk.inj (Option.some.inj (turn.symm.trans turn'))
      refine .writing frame _ encoded rfl queue ?_ unknown
      rw [← wire, List.append_assoc, List.take_append_drop]
    | grant _ _ _ idle =>
      rw [turn] at idle
      cases idle
  | written _ _ idle queue | dropped _ _ idle queue | broken _ idle queue =>
    cases h with
    | grant _ _ _ _ first =>
      rw [queue] at first
      cases first
    | finish _ turn | fail _ _ _ turn | accept _ _ turn =>
      rw [idle] at turn
      cases turn

/-- A send alone on its lane has been written as far as the connection takes it. -/
structure Alone (s : Session) (p : Pipe) (t : Ticket) (m before : Bytes) : Prop where
  unclosed : s.closed = false
  sends : s.lane.Sends p t m before
  ready : s.ready? p = none

/-- It goes on when the connection takes more, or fails. -/
theorem Alone.settle {p' : Pipe} (h : s.Alone p t m before) (read : p'.read ≤ s.lane.wire.length)
    (fault : p.fault ≠ none → p'.fault ≠ none) : (s.settle p').Alone p' t m before := by
  have sends : s.lane.Sends p' t m before := by
    cases h.sends with
    | asked idle queue unreleased wire unknown => exact .asked idle queue unreleased wire unknown
    | writing frame rest encoded turn queue wire unknown => exact .writing frame rest encoded turn queue wire unknown
    | written frame encoded idle queue wire result => exact .written frame encoded idle queue wire result
    | dropped e encoded idle queue wire result => exact .dropped e encoded idle queue wire result
    | broken reason idle queue result was => exact .broken reason idle queue result (fault was)
  constructor
  · exact (closed_settle p' s).trans h.unclosed
  · exact settle_invariant (P := fun x => x.lane.Sends p' t m before) (fun ready => ready.sends) sends
  · exact settle_ready read

theorem Alone.cases (h : s.Alone p t m before) :
    (∃ frame rest, s.lane.framing.encode m = .ok frame ∧ s.lane.turn = some (t, rest) ∧ s.lane.queue = [] ∧
      s.lane.wire ++ rest = before ++ frame ∧ rest ≠ [] ∧ s.lane.result? t = none ∧ p.fault = none ∧ s.room p = 0) ∨
    s.lane.turn = none ∧ s.lane.queue = [] ∧
      ((∃ frame, s.lane.framing.encode m = .ok frame ∧ s.lane.wire = before ++ frame ∧
        s.lane.result? t = some (.ok ())) ∨
      (∃ e, s.lane.framing.encode m = .error e ∧ s.lane.wire = before ∧ s.lane.result? t = some (.error (.frame e))) ∨
      p.fault ≠ none ∧ ∃ reason, s.lane.result? t = some (.error (.frame (.io reason)))) := by
  have ready := h.ready
  unfold ready? at ready
  cases h.sends with
  | asked idle queue =>
    rw [idle, queue] at ready
    cases ready
  | writing frame rest encoded turn queue wire unknown =>
    rw [turn] at ready
    cases rest with
    | nil => cases ready
    | cons b bs =>
      refine .inl ⟨frame, b :: bs, encoded, turn, queue, wire, List.cons_ne_nil b bs, unknown, ?_⟩
      cases fault : p.fault with
      | some reason => simp [fault] at ready
      | none => simpa [fault] using ready
  | written frame encoded idle queue wire result => exact .inr ⟨idle, queue, .inl ⟨frame, encoded, wire, result⟩⟩
  | dropped e encoded idle queue wire result => exact .inr ⟨idle, queue, .inr (.inl ⟨e, encoded, wire, result⟩)⟩
  | broken reason idle queue result fault => exact .inr ⟨idle, queue, .inr (.inr ⟨fault, reason, result⟩)⟩

theorem Alone.congr (h : s.Alone p t m before) (lane : s'.lane = s.lane) (closed : s'.closed = s.closed) :
    s'.Alone p t m before := by
  refine ⟨closed.trans h.unclosed, lane ▸ h.sends, ?_⟩
  have ready := h.ready
  unfold ready? room at ready ⊢
  rwa [lane]

/-- The lane has nothing to do. -/
def Idle (s : Session) : Prop := s.lane.turn = none ∧ s.lane.queue = []

theorem Idle.settle (h : s.Idle) : s.settle p = s := by
  refine settle_of_ready ?_
  simp [ready?, h.1, h.2]

theorem step_send (s : Session) (t : Ticket) (m : Bytes) : ∃ z, s.step (.send t m) = some z := by
  unfold step
  dsimp only
  split
  · exact ⟨_, rfl⟩
  · exact ⟨_, rfl⟩

/-- A session after a send, which goes as far as it can if it has its turn at once. -/
def sent (s : Session) (p : Pipe) (t : Ticket) (m : Bytes) : Session :=
  match s.step (.send t m) with
  | none => s
  | some z => if s.lane.turn.isNone && s.lane.queue.isEmpty then z.settle p else z

theorem sent_cases (s : Session) (p : Pipe) (t : Ticket) (m : Bytes) :
    ∃ z, s.step (.send t m) = some z ∧ (s.sent p t m = z ∨ s.sent p t m = z.settle p) := by
  obtain ⟨z, made⟩ := s.step_send t m
  refine ⟨z, made, ?_⟩
  unfold sent
  simp only [made]
  split
  · exact .inr rfl
  · exact .inl rfl

theorem Idle.sent (idle : s.Idle) (made : s.step (.send t m) = some z) : s.sent p t m = z.settle p := by
  unfold Session.sent
  simp [made, idle.1, idle.2]

/-- A send on a lane that has nothing to do is alone there. -/
theorem Idle.alone (idle : s.Idle) (unclosed : s.closed = false) (standing : s.Standing t)
    (read : p.read ≤ s.lane.wire.length) : (s.sent p t m).Alone p t m s.lane.wire := by
  have made : s.step (.send t m) = some { s with lane := { s.lane with queue := [(t, .message m)] } } := by
    simp [step, unclosed, Lane.step, idle.2]
  have new : s.lane.result? t = none := by
    refine List.lookup_eq_none_iff.mpr fun p hp => ?_
    have below := standing.below p.1 (.inr (.inr ⟨p.2, hp⟩))
    rw [bne_iff_ne]
    intro same
    exact Nat.lt_irrefl _ (same ▸ below)
  have unreleased : s.lane.released = false := by
    cases released : s.lane.released with
    | false => rfl
    | true =>
      rw [standing.quit (.inr (.inl released))] at unclosed
      cases unclosed
  rw [idle.sent made]
  refine ⟨(closed_settle _ _).trans unclosed, ?_, settle_ready read⟩
  refine settle_invariant (P := fun y => y.lane.Sends p t m s.lane.wire) (fun ready => ready.sends) ?_
  exact .asked idle.1 rfl unreleased rfl new

/-- A shutdown that is alone on its lane is done at once. -/
theorem settle_shutdown (idle : s.lane.turn = none) (queue : s.lane.queue = [(t, .shutdown)])
    (read : p.read ≤ s.lane.wire.length) :
    (s.settle p).Idle ∧ (s.settle p).lane.wire = s.lane.wire ∧ (s.settle p).closed = s.closed := by
  let P (x : Session) : Prop := x.lane.turn = none ∧ (x.lane.queue = [(t, .shutdown)] ∨ x.lane.queue = []) ∧
    x.lane.wire = s.lane.wire ∧ x.closed = s.closed
  have after : P (s.settle p) := by
    refine settle_invariant (P := P) (fun {x y mv} ready hx => ?_) ⟨idle, .inl queue, rfl, rfl⟩
    obtain ⟨idle, queue, wire, closed⟩ := hx
    cases ready with
    | grant t' job rest _ first =>
      rcases queue with queue | queue
      · rw [queue] at first
        obtain ⟨same, rfl⟩ := List.cons.inj first
        obtain ⟨rfl, rfl⟩ := Prod.mk.inj same
        exact ⟨idle, .inr rfl, wire, closed⟩
      · rw [queue] at first
        cases first
    | finish _ turn | fail _ _ _ turn | accept _ _ turn =>
      rw [idle] at turn
      cases turn
  obtain ⟨idle', queue', wire, closed⟩ := after
  refine ⟨⟨idle', ?_⟩, wire, closed⟩
  have ready := settle_ready read
  simpa [ready?, idle'] using ready

end Session

namespace Hub

variable {h : Hub} {k j : SessionKey} {x y : Session}

theorem isFree_iff : h.isFree k = true ↔ ∃ x, h.session? k = some x ∧ x.Idle := by
  unfold isFree
  cases h.session? k with
  | none => simp
  | some x => simp [Session.Idle]

theorem move_elsewhere (e : j ≠ k) (m : Session.Move) : (h.move j m).session? k = h.session? k := by
  unfold move
  split
  · rfl
  · split
    · rfl
    · exact List.getElem?_set_ne e

theorem settle_elsewhere (e : j ≠ k) : (h.settle j).session? k = h.session? k := by
  unfold settle
  split
  · rfl
  · exact List.getElem?_set_ne e

theorem settle_here (hx : h.session? k = some x) : (h.settle k).session? k = some (x.settle (h.pipe k)) := by
  simp only [settle, hx]
  exact List.getElem?_set_self (List.getElem?_eq_some_iff.mp hx).1

theorem request_elsewhere (e : j ≠ k) (m : Ticket → Session.Move) : (h.request j m).2.session? k = h.session? k := by
  unfold request
  dsimp only
  split
  · rw [settle_elsewhere e, move_elsewhere e]
    rfl
  · rw [move_elsewhere e]
    rfl

/-- A request on a lane that has nothing to do goes as far as it can. -/
theorem request_idle {m : Ticket → Session.Move} (hx : h.session? k = some x) (idle : x.Idle)
    (made : x.step (m h.tickets) = some y) : (h.request k m).2.session? k = some (y.settle (h.pipe k)) := by
  have asked : ({ h with tickets := h.tickets + 1 }.move k (m h.tickets)).session? k = some y :=
    session_move _ k hx made
  have free : h.isFree k = true := isFree_iff.mpr ⟨x, hx, idle⟩
  unfold request
  dsimp only
  rw [if_pos free, settle_here asked, (steady_move _ k _).pipe k]
  rfl

theorem send_sent {m : Bytes} (hx : h.session? k = some x) :
    (h.send k m).2.session? k = some (x.sent (h.pipe k) h.tickets m) := by
  obtain ⟨z, made⟩ := x.step_send h.tickets m
  have asked : ({ h with tickets := h.tickets + 1 }.move k (.send h.tickets m)).session? k = some z :=
    session_move _ k hx made
  have free : h.isFree k = (x.lane.turn.isNone && x.lane.queue.isEmpty) := by
    unfold isFree
    rw [hx]
  unfold send request Session.sent
  simp only [made, free]
  split
  · rw [settle_here asked, (steady_move _ k _).pipe k]
    rfl
  · exact asked

theorem send_alone {m : Bytes} (hx : h.session? k = some x) (idle : x.Idle) (unclosed : x.closed = false)
    (standing : x.Standing h.tickets) (read : (h.pipe k).read ≤ x.lane.wire.length) :
    ∃ y, (h.send k m).2.session? k = some y ∧ y.Alone (h.pipe k) h.tickets m x.lane.wire :=
  ⟨_, send_sent hx, idle.alone unclosed standing read⟩

/-- A shutdown that is asked for on a lane that has nothing to do writes nothing. -/
theorem closeAsync_idle (hx : h.session? k = some x) (idle : x.Idle) (read : (h.pipe k).read ≤ x.lane.wire.length) :
    ∃ y, (h.request k .closeAsync).2.session? k = some y ∧ y.Idle ∧ y.lane.wire = x.lane.wire ∧ y.closed = true := by
  have made : x.step (.closeAsync h.tickets) =
      some { x with closed := true, lane := { x.lane with queue := [(h.tickets, .shutdown)] } } := by
    simp [Session.step, Session.close, Lane.step, idle.2]
  obtain ⟨after, wire, closed⟩ := Session.settle_shutdown (p := h.pipe k)
    (s := { x with closed := true, lane := { x.lane with queue := [(h.tickets, .shutdown)] } }) idle.1 rfl read
  exact ⟨_, request_idle hx idle made, after, wire, closed⟩

theorem send_elsewhere (e : j ≠ k) (m : Bytes) : (h.send j m).2.session? k = h.session? k := request_elsewhere e _

theorem sendEach_keys (h : Hub) (m : Bytes) (ks : List SessionKey) : (h.sendEach m ks).1.map Prod.fst = ks := by
  induction ks generalizing h with
  | nil => rfl
  | cons j ks ih => exact congrArg (j :: ·) (ih _)

theorem sendEach_elsewhere {m : Bytes} {ks : List SessionKey} (other : k ∉ ks) :
    (h.sendEach m ks).2.session? k = h.session? k := by
  induction ks generalizing h with
  | nil => rfl
  | cons j ks ih =>
    obtain ⟨first, rest⟩ := List.ne_and_not_mem_of_not_mem_cons other
    have after : ((h.send j m).2.sendEach m ks).2.session? k = (h.send j m).2.session? k := ih rest
    exact after.trans (send_elsewhere (Ne.symm first) m)

/-- Of the sends to many sessions, the one to a session whose lane has nothing to do is alone there. -/
theorem sendEach_alone {m : Bytes} {ks : List SessionKey} (once : ks.Nodup) (hk : k ∈ ks) (hx : h.session? k = some x)
    (idle : x.Idle) (unclosed : x.closed = false) (standing : x.Standing h.tickets)
    (read : (h.pipe k).read ≤ x.lane.wire.length) :
    ∃ t y, (k, t) ∈ (h.sendEach m ks).1 ∧ (h.sendEach m ks).2.session? k = some y ∧
      y.Alone (h.pipe k) t m x.lane.wire := by
  induction ks generalizing h with
  | nil => cases hk
  | cons j ks ih =>
    obtain ⟨others, once⟩ := List.nodup_cons.mp once
    by_cases e : j = k
    · subst e
      obtain ⟨y, hy, alone⟩ := send_alone (m := m) hx idle unclosed standing read
      exact ⟨h.tickets, y, List.mem_cons_self, (sendEach_elsewhere others).trans hy, alone⟩
    · have hk : k ∈ ks := (List.mem_cons.mp hk).resolve_left (Ne.symm e)
      have same : (h.send j m).2.pipe k = h.pipe k := (h.steady_request j (.send · m)).pipe k
      have later : x.Standing (h.send j m).2.tickets := by
        have tickets : (h.send j m).2.tickets = h.tickets + 1 := request_tickets h j (.send · m)
        rw [tickets]
        exact ⟨fun t named => Nat.lt_succ_of_lt (standing.below t named), standing.quit⟩
      have kept : (h.send j m).2.session? k = some x := (send_elsewhere e m).trans hx
      obtain ⟨t, y, there, hy, alone⟩ := ih once hk kept later (by rwa [same])
      rw [same] at alone
      exact ⟨t, y, List.mem_cons_of_mem _ there, hy, alone⟩

end Hub
end FrameServer
