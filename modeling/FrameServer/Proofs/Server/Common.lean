import FrameServer.Proofs.Server.Turn
import FrameServer.Proofs.Session.Steady

namespace FrameServer

namespace Work

variable {h h' : Hub} {k : SessionKey}

theorem steady_begin (h : Hub) (k : SessionKey) (act : Action) : h.Steady ((begin h k act).elim (·.2.1) (·.1)) := by
  cases act with
  | send m => exact h.steady_request k (.send · m)
  | broadcast m => exact h.steady_sendEach m _
  | close => exact h.steady_move k .close
  | closeIdle => exact h.steady_move k .closeIdle
  | closeAsync => exact h.steady_request k .closeAsync
  | setAttribute key v => exact h.steady_move k (.setAttribute key v)
  | getAttribute | sleep | note => exact .refl h

theorem steady_step {w w' : Work} {notes : List Note} (hw : w.step h k = .goesOn h' w' notes) : h.Steady h' := by
  rcases step_hub hw with rfl | ⟨act, next, -, rfl⟩
  · exact .refl _
  · exact steady_begin h k act

theorem steady_giveUpAll (h : Hub) (ts : List (SessionKey × Ticket)) :
    h.Steady (ts.foldl (fun h (k, t) => (h.move k (.lane (.abandon t))).settle k) h) := by
  induction ts generalizing h with
  | nil => exact .refl h
  | cons p ts ih => exact (h.steady_giveUp p.1 p.2).trans (ih _)

theorem steady_abandon (h : Hub) (k : SessionKey) (w : Work) : h.Steady (w.abandon h k) := by
  unfold abandon
  split
  · exact h.steady_giveUp k _
  · exact h.steady_giveUp k _
  · exact steady_giveUpAll h _
  · exact .refl h

end Work

namespace Server

namespace Connection

variable {a : Application} {k : SessionKey} {x : Session} {h h' : Hub} {c c' : Connection} {records : List Record}

theorem steady_abort (c : Connection) (k : SessionKey) (h : Hub) : h.Steady (c.abort k h).1 := by
  unfold abort
  split
  · exact .refl h
  · dsimp only
    split
    · exact Work.steady_abandon h k _
    · exact h.steady_giveUp k _
    · exact h.steady_giveUp k _
    · exact .refl h

theorem Effect.steady (e : c.Effect a k x h h' c' records) :
    h.Steady h' ∨ ∃ reason, c.phase = .leaving reason ∧ h' = { h with registry := h.registry.remove x.id } := by
  cases e with
  | receive => exact .inl (h.steady_move k (.touch h.clock))
  | work w w' _ notes _ goesOn => exact .inl (Work.steady_step goesOn)
  | answer _ r => exact .inl (h.steady_request k (.send · r))
  | broken t _ _ _ _ why =>
    cases why with
    | io => exact .inl (.refl h)
    | late => exact .inl (h.steady_giveUp k t)
  | leave reason phase => exact .inr ⟨reason, phase, rfl⟩
  | close => exact .inl (h.steady_request k .closeAsync)
  | _ => exact .inl (.refl h)

end Connection

/-- How much time passes in a step. -/
def Label.passes : Label → Nat
  | .pass ms => ms
  | _ => 0

namespace State

variable {a : Application} {s t : State} {l : Label} {i : Nat}

theorem steady_stopMonitor (s : State) : s.hub.Steady s.stopMonitor.hub := by
  unfold stopMonitor
  split
  · exact .refl _
  next i m _ => exact (m.steady_stop s.hub).trans (Hub.steady_settleAll _)

/-- The notices that a stop sends, and what comes of sending them. -/
def notices (a : Application) (s : State) : List (SessionKey × Ticket) × Hub :=
  s.stopMonitor.hub.sendEach (textBytes a.settings.shutdownNotice) s.stopMonitor.hub.registry.keys

theorem stopMonitor_hub_signal (s : State) :
    ({ s.signal true with running := false } : State).stopMonitor.hub = s.stopMonitor.hub := by
  cases h : s.current.bind fun i => (s.monitors[i]?).map fun m => (i, m) <;> simp [stopMonitor, signal, h]

theorem steady_notices (a : Application) (s : State) : s.hub.Steady (s.notices a).2 :=
  s.steady_stopMonitor.trans (Hub.steady_sendEach _ _ _)

theorem stop_hub (a : Application) (s : State) : (s.stop a).hub = (s.notices a).2 := by
  simp only [stop, notices, stopMonitor_hub_signal]

theorem stop_stops (a : Application) (s : State) : (s.stop a).stops =
    s.stops ++ [⟨.notifying (s.notices a).1 (s.hub.clock + a.settings.writeTimeout), s.running⟩] := by
  rw [← (s.steady_notices a).clock]
  simp only [stop, notices, stopMonitor_hub_signal, stopMonitor_stops]
  rfl

theorem steady_stop (a : Application) (s : State) : s.hub.Steady (s.stop a).hub := by
  rw [stop_hub]
  exact s.steady_notices a

theorem steady_closeNotified (deadline : Nat) (ts : List (SessionKey × Ticket)) (h : Hub) :
    h.Steady (closeNotified deadline ts h).2 := by
  induction ts generalizing h with
  | nil => exact .refl h
  | cons p ts ih =>
    unfold closeNotified
    dsimp only
    split
    · split
      · exact (h.steady_move p.1 .close).trans (ih _)
      · exact (h.steady_giveUp p.1 p.2).trans ((Hub.steady_move _ p.1 .close).trans (ih _))
    · exact ih h

theorem steady_abortFrom (k : SessionKey) (h : Hub) (cs : List Connection) : h.Steady (abortFrom k h cs).1 := by
  induction cs generalizing k h with
  | nil => exact .refl h
  | cons c cs ih => exact (c.steady_abort k h).trans (ih (k + 1) _)

theorem steady_abortAll (s : State) : s.hub.Steady s.abortAll.hub := steady_abortFrom 0 _ _

/-- What a step does to what the connections have in common. -/
inductive Shared (a : Application) (s : State) : Label → Hub → Prop
  | steady (l : Label) {h' : Hub} (still : l.passes = 0) (steady : s.hub.Steady h') : Shared a s l h'
  | widen (k : SessionKey) (n : Nat) {h' : Hub}
      (steady : (s.hub.setPipe k { s.hub.pipe k with capacity := (s.hub.pipe k).capacity + n }).Steady h') :
      Shared a s (.widen k n) h'
  | fail (k : SessionKey) (reason : String) {h' : Hub}
      (steady : (s.hub.setPipe k ((s.hub.pipe k).broken reason)).Steady h') : Shared a s (.fail k reason) h'
  | pass (ms : Nat) : Shared a s (.pass ms) { s.hub with clock := s.hub.clock + ms }
  | enroll (i : Nat) (id : SessionId) (peer : String) (running : s.running = true)
      (room : s.hub.registry.size < a.settings.maxConnections) :
      Shared a s (.enroll i) (s.addSession a id peer).hub
  | leave (k : SessionKey) (c : Connection) (x : Session) (reason : CloseReason) (hc : s.connection? k = some c)
      (hx : s.hub.session? k = some x) (phase : c.phase = .leaving reason) :
      Shared a s (.task k) { s.hub with registry := s.hub.registry.remove x.id }
  | clear (i : Nat) (c : Stopping) (hc : s.stops[i]? = some c) (phase : c.phase = .clearing [] none) :
      Shared a s (.proceed i) { s.hub with registry := {} }

theorem Proceeds.shared {c : Stopping} (hc : s.stops[i]? = some c) (h : s.Proceeds a i c t) :
    s.Shared a (.proceed i) t.hub := by
  cases h with
  | notify pending left deadline h' _ visited =>
    have steady := steady_closeNotified deadline pending s.hub
    rw [visited] at steady
    exact .steady _ rfl steady
  | lock | closed => exact .steady _ rfl (.refl _)
  | drain => exact .steady _ rfl s.steady_abortAll
  | close => exact .steady _ rfl (s.hub.steady_request _ _)
  | clear phase => exact .clear i c hc phase

end State

variable {a : Application} {s t : State} {l : Label} {ls : List Label} {i : Nat} {k : SessionKey}

theorem step_shared (h : step a s l = some t) : s.Shared a l t.hub := by
  cases step_turn h with
  | widen k n => exact .widen k n (Hub.steady_settle _ k)
  | fail k reason => exact .fail k reason (Hub.steady_settle _ k)
  | pass ms => exact .pass ms
  | lose i reason l =>
    have steady := State.steady_stopMonitor (({ s with running := false } : State).setLoop i { l with ended := true })
    exact .steady _ rfl steady
  | stop => exact .steady _ rfl (s.steady_stop a)
  | act k c => exact .steady _ rfl (s.hub.steady_request k _)
  | enroll i _ _ id peer _ _ running room => exact .enroll i id peer running room
  | task k c c' x h' records hc hx made =>
    rcases (Connection.step_effect made).steady with steady | ⟨reason, phase, rfl⟩
    · exact .steady _ rfl steady
    · exact .leave k c x reason hc hx phase
  | watch i m => exact .steady _ rfl ((m.steady_act s.hub).trans (Hub.steady_settleAll _))
  | proceed i c hc does => exact does.shared hc
  | _ => exact .steady _ rfl (.refl _)

theorem step_clock (h : step a s l = some t) : t.hub.clock = s.hub.clock + l.passes := by
  have shared := step_shared h
  generalize t.hub = h' at shared ⊢
  cases shared with
  | steady _ still steady => rw [steady.clock, still, Nat.add_zero]
  | widen _ _ steady | fail _ _ steady => exact steady.clock
  | enroll =>
    rw [State.addSession_hub]
    rfl
  | _ => rfl

theorem play_clock_le (h : play a s ls = some t) : s.hub.clock ≤ t.hub.clock := by
  refine play_invariant (P := fun u => s.hub.clock ≤ u.hub.clock) (fun hl le => ?_) h (Nat.le_refl _)
  rw [step_clock hl]
  exact Nat.le_add_right_of_le le

/-- Every connection has a pipe to its peer. -/
theorem play_pipes (h : play a {} ls = some t) : t.hub.pipes.length = t.connections.length := by
  refine play_invariant (P := fun u => u.hub.pipes.length = u.connections.length) (fun {s u l} hl same => ?_) h rfl
  cases step_turn hl with
  | arrive | finish | pump => simpa using same
  | widen k | fail k =>
    rw [(Hub.steady_settle _ k).pipes]
    simpa [Hub.setPipe] using same
  | lose i reason l =>
    have steady := State.steady_stopMonitor (({ s with running := false } : State).setLoop i { l with ended := true })
    simp only [State.record, State.stopMonitor_connections, steady.pipes]
    exact same
  | stop =>
    rw [(s.steady_stop a).pipes, State.stop_connections]
    exact same
  | act k c =>
    have steady := s.hub.steady_request k c.move
    exact (congrArg List.length steady.pipes).trans same
  | enroll i l _ id peer =>
    rw [State.addSession_hub, State.addSession_connections]
    simpa [State.setLoop, Hub.add] using same
  | task k c c' x h' records _ _ made =>
    have pipes : h'.pipes = s.hub.pipes := by
      rcases (Connection.step_effect made).steady with steady | ⟨_, _, rfl⟩
      · exact steady.pipes
      · rfl
    simpa [State.afterTask, pipes] using same
  | watch i m =>
    have steady := (m.steady_act s.hub).trans (Hub.steady_settleAll _)
    exact (congrArg List.length steady.pipes).trans same
  | proceed i c _ does =>
    cases does with
    | notify pending left deadline h' _ visited =>
      have steady := State.steady_closeNotified deadline pending s.hub
      rw [visited] at steady
      exact (congrArg List.length steady.pipes).trans same
    | drain =>
      refine (congrArg List.length s.steady_abortAll.pipes).trans (same.trans ?_)
      exact (State.abortFrom_length 0 s.hub s.connections).symm
    | close left k =>
      have steady := s.hub.steady_request k .closeAsync
      exact (congrArg List.length steady.pipes).trans same
    | _ => exact same
  | _ => exact same

/-- The pipe to a peer changes by what the peer or its connection does. -/
theorem step_pipe (h : step a s l = some t) (there : k < s.hub.pipes.length) :
    t.hub.pipe k = s.hub.pipe k ∨ (∃ n, l = .widen k n) ∨ ∃ reason, l = .fail k reason := by
  have shared := step_shared h
  generalize t.hub = h' at shared ⊢
  have elsewhere {j : SessionKey} (p : Pipe) (e : j ≠ k) : (s.hub.setPipe j p).pipe k = s.hub.pipe k := by
    simp only [Hub.pipe, Hub.setPipe, List.getElem?_set_ne e]
  cases shared with
  | steady _ _ steady => exact .inl (steady.pipe k)
  | widen j n steady =>
    by_cases e : j = k
    · exact .inr (.inl ⟨n, by rw [e]⟩)
    · exact .inl ((steady.pipe k).trans (elsewhere _ e))
  | fail j reason steady =>
    by_cases e : j = k
    · exact .inr (.inr ⟨reason, by rw [e]⟩)
    · exact .inl ((steady.pipe k).trans (elsewhere _ e))
  | enroll i id peer =>
    left
    rw [State.addSession_hub]
    simp only [Hub.pipe, Hub.add, List.getElem?_append_left there]
  | _ => exact .inl rfl

/-- What a step does to the registry. -/
inductive Registered (a : Application) (s : State) : Label → Registry → Prop
  | same (l : Label) : Registered a s l s.hub.registry
  | enroll (i : Nat) (id : SessionId) (running : s.running = true)
      (room : s.hub.registry.size < a.settings.maxConnections) :
      Registered a s (.enroll i) (s.hub.registry.insert id s.hub.sessions.length)
  | leave (k : SessionKey) (c : Connection) (x : Session) (reason : CloseReason) (hc : s.connection? k = some c)
      (hx : s.hub.session? k = some x) (phase : c.phase = .leaving reason) :
      Registered a s (.task k) (s.hub.registry.remove x.id)
  | clear (i : Nat) (c : Stopping) (hc : s.stops[i]? = some c) (phase : c.phase = .clearing [] none) :
      Registered a s (.proceed i) {}

theorem step_registered (h : step a s l = some t) : Registered a s l t.hub.registry := by
  have shared := step_shared h
  generalize t.hub = h' at shared ⊢
  cases shared with
  | steady l _ steady =>
    rw [steady.registry]
    exact .same l
  | widen k n steady | fail k n steady =>
    rw [steady.registry]
    exact .same _
  | pass => exact .same _
  | enroll i id peer running room =>
    rw [State.addSession_registry]
    exact .enroll i id running room
  | leave k c x reason hc hx phase => exact .leave k c x reason hc hx phase
  | clear i c hc phase => exact .clear i c hc phase

section Stops

variable {c c' : Stopping}

/-- What a step does to the stops under way: a call adds one, and each of them goes on in its own steps. -/
theorem step_stops (h : step a s l = some t) : t.stops = s.stops ∨
    (l = .stop ∧ ∃ pending deadline, t.stops = s.stops ++ [⟨.notifying pending deadline, s.running⟩]) ∨
    ∃ i c p, l = .proceed i ∧ s.stops[i]? = some c ∧ s.Proceeds a i c t ∧
      t.stops = s.stops.set i { c with phase := p } := by
  cases step_turn h with
  | lose => exact .inl (State.stopMonitor_stops _)
  | stop => exact .inr (.inl ⟨rfl, _, _, s.stop_stops a⟩)
  | proceed i c hc does =>
    refine .inr (.inr ⟨i, c, ?_⟩)
    cases does with
    | notify pending left deadline h' phase visited =>
      exact ⟨_, rfl, hc, .notify pending left deadline h' phase visited, rfl⟩
    | lock phase unlocked => exact ⟨_, rfl, hc, .lock phase unlocked, rfl⟩
    | drain deadline phase due => exact ⟨_, rfl, hc, .drain deadline phase due, rfl⟩
    | closed left k ticket phase done => exact ⟨_, rfl, hc, .closed left k ticket phase done, rfl⟩
    | close left k phase => exact ⟨_, rfl, hc, .close left k phase, rfl⟩
    | clear phase => exact ⟨_, rfl, hc, .clear phase, rfl⟩
  | _ => exact .inl rfl

theorem step_stopping (h : step a s l = some t) (hc : s.stops[i]? = some c) :
    ∃ c', t.stops[i]? = some c' ∧ c'.wasRunning = c.wasRunning ∧ (c' = c ∨ l = .proceed i ∧ s.Proceeds a i c t) := by
  have bound : i < s.stops.length := (List.getElem?_eq_some_iff.mp hc).1
  rcases step_stops h with same | ⟨-, pending, deadline, same⟩ | ⟨j, d, p, rfl, hd, does, same⟩ <;> rw [same]
  · exact ⟨c, hc, rfl, .inl rfl⟩
  · exact ⟨c, by rwa [List.getElem?_append_left bound], rfl, .inl rfl⟩
  · by_cases e : j = i
    · subst e
      obtain rfl : c = d := Option.some.inj (hc.symm.trans hd)
      exact ⟨_, List.getElem?_set_self bound, rfl, .inr ⟨rfl, does⟩⟩
    · exact ⟨c, (List.getElem?_set_ne e).trans hc, rfl, .inl rfl⟩

theorem stopping_back (h : step a s l = some t) (hc' : t.stops[i]? = some c') :
    (∃ c, s.stops[i]? = some c ∧ (c' = c ∨ l = .proceed i ∧ s.Proceeds a i c t)) ∨
      l = .stop ∧ ∃ pending deadline, c'.phase = .notifying pending deadline := by
  rcases Nat.lt_or_ge i s.stops.length with old | new
  · obtain ⟨d, hd, -, how⟩ := step_stopping h (List.getElem?_eq_getElem old)
    obtain rfl : d = c' := Option.some.inj (hd.symm.trans hc')
    exact .inl ⟨_, List.getElem?_eq_getElem old, how⟩
  · have bound : i < t.stops.length := (List.getElem?_eq_some_iff.mp hc').1
    rcases step_stops h with same | ⟨rfl, pending, deadline, same⟩ | ⟨j, d, p, rfl, hd, does, same⟩
    · rw [same] at bound
      exact absurd bound (Nat.not_lt.mpr new)
    · rw [same, List.length_append] at bound
      obtain rfl : i = s.stops.length := Nat.le_antisymm (Nat.lt_succ_iff.mp bound) new
      rw [same, List.getElem?_concat_length] at hc'
      obtain rfl := Option.some.inj hc'
      exact .inr ⟨rfl, pending, deadline, rfl⟩
    · rw [same, List.length_set] at bound
      exact absurd bound (Nat.not_lt.mpr new)

end Stops

section Over

/-- A task that has ended makes no step. -/
theorem over_step {c : Connection} {x : Session} {h : Hub} (finished : c.phase.isOver = true) :
    c.step a k x h = none := by
  unfold Connection.step
  split <;> first | rfl | (rename_i phase; rw [phase] at finished; cases finished)

theorem quiet_iff : s.quiet = true ↔ ∀ k c, s.connection? k = some c → c.phase.isOver = true := by
  unfold State.quiet State.connection?
  rw [List.all_eq_true]
  constructor
  · intro all k c hc
    exact all c (List.mem_of_getElem? hc)
  · intro all c hc
    obtain ⟨k, hk⟩ := List.mem_iff_getElem?.mp hc
    exact all k c hk

/-- When all tasks have ended and none is added, no task makes a step. -/
theorem quiet_step (h : step a s l = some t) (quiet : s.quiet = true) (idle : s.running = false) :
    t.quiet = true ∧ ∀ k, l ≠ .task k := by
  rw [quiet_iff] at quiet ⊢
  cases step_change h with
  | apart _ other apart =>
    refine ⟨fun k c' hc' => ?_, other⟩
    have bound : k < s.connections.length := by
      rw [← apart.length]
      exact (List.getElem?_eq_some_iff.mp hc').1
    have hc : s.connection? k = some s.connections[k] := List.getElem?_eq_getElem bound
    obtain ⟨d, hd, kept⟩ := apart.connection k _ hc
    obtain rfl : d = c' := Option.some.inj (hd.symm.trans hc')
    rcases kept.phase with same | ⟨live, -⟩
    · rw [same]
      exact quiet k _ hc
    · rw [quiet k _ hc] at live
      cases live
  | enroll i loop id peer hl holding unlocked running =>
    rw [idle] at running
    cases running
  | task k c c' x h' records hc hx =>
    obtain ⟨d, d', y, h'', rs, hd, hy, made, -⟩ := step_task.mp h
    rw [over_step (quiet k d hd)] at made
    cases made

theorem abort_over (c : Connection) (k : SessionKey) (h : Hub) : (c.abort k h).2.phase.isOver = true := by
  unfold Connection.abort
  split
  next finished => exact finished
  · rfl

theorem abortFrom_over (k : SessionKey) (h : Hub) (cs : List Connection) :
    ∀ c ∈ (State.abortFrom k h cs).2, c.phase.isOver = true := by
  induction cs generalizing k h with
  | nil => exact fun c hc => by cases hc
  | cons d cs ih =>
    intro c hc
    rcases List.mem_cons.mp hc with rfl | hc
    · exact abort_over d k h
    · exact ih (k + 1) _ c hc

theorem abortAll_quiet (s : State) : s.abortAll.quiet = true := by
  unfold State.quiet
  rw [List.all_eq_true]
  exact abortFrom_over 0 s.hub s.connections

/-- What becomes of a stop in a step of its own: one that has ended makes none, and it begins to clear the registry
when all tasks have ended. -/
theorem State.Proceeds.clearing {c c' : Stopping} (does : s.Proceeds a i c t) (hc : s.stops[i]? = some c)
    (hc' : t.stops[i]? = some c') : c.phase ≠ .ended ∧ ∀ left k?, c'.phase = .clearing left k? →
      t.quiet = true ∨ t.connections = s.connections ∧ ∃ left k?, c.phase = .clearing left k? := by
  have bound : i < s.stops.length := (List.getElem?_eq_some_iff.mp hc).1
  have here {p : Stopping.Phase} (same : t.stops = s.stops.set i { c with phase := p }) : c'.phase = p := by
    rw [same, List.getElem?_set_self bound] at hc'
    obtain rfl := Option.some.inj hc'
    rfl
  cases does with
  | notify pending left deadline h' phase =>
    refine ⟨by rw [phase]; simp, fun _ _ clearing => ?_⟩
    rw [here rfl] at clearing
    split at clearing <;> cases clearing
  | lock phase =>
    refine ⟨by rw [phase]; simp, fun _ _ clearing => ?_⟩
    rw [here rfl] at clearing
    cases clearing
  | drain deadline phase => exact ⟨by rw [phase]; simp, fun _ _ _ => .inl (abortAll_quiet s)⟩
  | closed left k ticket phase => exact ⟨by rw [phase]; simp, fun _ _ _ => .inr ⟨rfl, _, _, phase⟩⟩
  | close left k phase => exact ⟨by rw [phase]; simp, fun _ _ _ => .inr ⟨rfl, _, _, phase⟩⟩
  | clear phase => exact ⟨by rw [phase]; simp, fun _ _ _ => .inr ⟨rfl, _, _, phase⟩⟩

end Over

end Server
end FrameServer
