import FrameServer.Proofs.Server.Task
import FrameServer.Server.Step

namespace FrameServer.Server

/-- What others do to a connection: its task stays where it is, or is ended, and a pump that has ended has. -/
structure Connection.Apart (c c' : Connection) : Prop where
  phase : c'.phase = c.phase ∨ c.phase.isOver = false ∧ c'.phase = .aborted
  ended : ∀ r, c.pump.status = .ended r → c'.pump.status = .ended r

namespace Connection

variable {c c' c'' : Connection}

theorem Apart.refl (c : Connection) : c.Apart c := ⟨.inl rfl, fun _ h => h⟩

theorem arrive_apart (c : Connection) (bytes : Bytes) : c.Apart { c with pump := c.pump.arrive bytes } := by
  refine ⟨.inl rfl, fun r hr => ?_⟩
  simp only [Pump.arrive]
  split <;> exact hr

theorem finishStream_apart (c : Connection) (fin : Framing.StreamEnd) :
    c.Apart { c with pump := c.pump.finishStream fin } := by
  refine ⟨.inl rfl, fun r hr => ?_⟩
  simp only [Pump.finishStream]
  split <;> exact hr

theorem pump_ended {f : Framing} {p : Pump} {r : Except FrameError Unit} (hr : p.status = .ended r) (m : Pump.Move) :
    p.step f m = none := by
  cases m <;> simp [Pump.step, hr]

theorem pumpStep_apart {f : Framing} {closed : Bool} {m : Pump.Move} (h : c.pumpStep f closed m = some c') :
    c.Apart c' := by
  have moved : ∃ found : Option Bytes × Pump, c.pump.step f m = some found ∧ c'.phase = c.phase := by
    unfold pumpStep at h
    split at h
    · cases h
    · cases h
    · split at h
      · cases h
      · obtain ⟨found, hf, rfl⟩ := Option.map_eq_some_iff.mp h
        exact ⟨found, hf, rfl⟩
  obtain ⟨found, hf, phase⟩ := moved
  refine ⟨.inl phase, fun r hr => ?_⟩
  rw [pump_ended hr] at hf
  cases hf

theorem abort_pump {p : Pump} {r : Except FrameError Unit} (hr : p.status = .ended r) : p.abort = p := by
  simp [Pump.abort, Pump.isLive, hr]

variable (c) (k : SessionKey) (h : Hub)

theorem abort_apart : c.Apart (c.abort k h).2 := by
  unfold abort
  split
  · exact .refl c
  next live => exact ⟨.inr ⟨by simpa using live, rfl⟩, fun r hr => by rw [abort_pump hr]; exact hr⟩

theorem leads_abort : h.Leads (c.abort k h).1 := by
  unfold abort
  split
  · exact .refl h
  · dsimp only
    split
    · exact Work.leads_abandon h k _
    · exact h.leads_giveUp k _
    · exact h.leads_giveUp k _
    · exact .refl h

end Connection

namespace State

/-- What happens apart from the tasks of the connections. -/
structure Apart (s t : State) : Prop where
  hub : s.hub.Leads t.hub
  length : t.connections.length = s.connections.length
  connection : ∀ k c, s.connection? k = some c → ∃ c', t.connection? k = some c' ∧ c.Apart c'
  journal : ∃ rs, t.journal = s.journal ++ rs ∧ ∀ r ∈ rs, ∃ e : Event, r = .event e ∧ e.source = .server

variable {a : Application} {s t u : State}

namespace Apart

theorem of_hub (hub : s.hub.Leads t.hub) (hc : t.connections = s.connections) (hj : t.journal = s.journal) :
    s.Apart t := by
  refine ⟨hub, by rw [hc], fun k c hk => ⟨c, ?_, .refl c⟩, [], by simp [hj], by simp⟩
  rw [connection?, hc]
  exact hk

theorem refl (s : State) : s.Apart s := of_hub (.refl _) rfl rfl

theorem trans (x : s.Apart t) (y : t.Apart u) : s.Apart u := by
  obtain ⟨rs, hr, server⟩ := x.journal
  obtain ⟨rs', hr', server'⟩ := y.journal
  refine ⟨x.hub.trans y.hub, y.length.trans x.length, fun k c hk => ?_, rs ++ rs', ?_, fun r hm => ?_⟩
  · obtain ⟨c', hk', p⟩ := x.connection k c hk
    obtain ⟨c'', hk'', q⟩ := y.connection k c' hk'
    refine ⟨c'', hk'', ?_, fun r he => q.ended r (p.ended r he)⟩
    rcases p.phase with hp | ⟨live, hp⟩
    · rw [← hp]
      exact q.phase
    · rcases q.phase with hq | ⟨live', -⟩
      · exact .inr ⟨live, hq.trans hp⟩
      · simp [hp, Phase.isOver] at live'
  · rw [hr', hr, List.append_assoc]
  · rcases List.mem_append.mp hm with hm | hm
    · exact server r hm
    · exact server' r hm

theorem of_event {kind : Event.Kind} {properties : List (String × Json)} (hub : s.hub.Leads t.hub)
    (hc : t.connections = s.connections) (hj : t.journal = s.journal ++ [serverEvent kind properties]) :
    s.Apart t := by
  refine ⟨hub, by rw [hc], fun k c hk => ⟨c, ?_, .refl c⟩, _, hj, fun r hr => ?_⟩
  · rw [connection?, hc]
    exact hk
  · obtain rfl := List.mem_singleton.mp hr
    exact ⟨_, rfl, (Event.foldl_set properties _).2⟩

end Apart

theorem onConnection_apart {k : SessionKey} {f : Connection → Option Connection}
    (hf : ∀ c c', f c = some c' → c.Apart c') (h : s.onConnection k f = some t) : s.Apart t := by
  unfold onConnection at h
  simp only [Option.bind_eq_bind, Option.bind_eq_some_iff, Option.pure_def, Option.some.injEq] at h
  obtain ⟨c, hk, c', hc, rfl⟩ := h
  refine ⟨.refl _, by simp, fun j d hj => ?_, [], by simp, by simp⟩
  have bound : k < s.connections.length := (List.getElem?_eq_some_iff.mp hk).1
  by_cases e : k = j
  · subst e
    obtain rfl : c = d := Option.some.inj (hk.symm.trans hj)
    exact ⟨c', List.getElem?_set_self bound, hf c c' hc⟩
  · exact ⟨d, (List.getElem?_set_ne e).trans hj, .refl d⟩

theorem onPipe_apart (k : SessionKey) (f : Pipe → Pipe) (h : s.onPipe k f = some t) : s.Apart t := by
  unfold onPipe at h
  split at h
  · obtain rfl := Option.some.inj h
    exact .of_hub ((s.hub.leads_setPipe k _).trans (Hub.leads_settle _ k)) rfl rfl
  · cases h

theorem serve_apart {address : String} {port : Nat} (h : s.serve a address port = some t) : s.Apart t := by
  unfold serve at h
  split at h
  · cases h
  · obtain rfl := Option.some.inj h
    exact .of_event (.refl _) rfl rfl

theorem serveUnnamed_apart (h : s.serveUnnamed = some t) : s.Apart t := by
  unfold serveUnnamed at h
  split at h
  · cases h
  · obtain rfl := Option.some.inj h
    exact .of_hub (.refl _) rfl rfl

theorem stopMonitor_apart (s : State) : s.Apart s.stopMonitor := by
  unfold stopMonitor
  split
  · exact .refl s
  next i m _ => exact .of_hub ((m.leads_stop s.hub).trans (Hub.leads_settleAll _)) rfl rfl

theorem lose_apart {i : Nat} {reason : String} (h : s.lose i reason = some t) : s.Apart t := by
  unfold lose at h
  simp only [Option.bind_eq_bind, Option.bind_eq_some_iff, Option.pure_def] at h
  obtain ⟨l, -, h⟩ := h
  split at h
  · cases h
  · obtain rfl := Option.some.inj h
    have lost : s.Apart { s with running := false, loops := s.loops.set i { l with ended := true } } :=
      .of_hub (.refl _) rfl rfl
    exact (lost.trans (stopMonitor_apart _)).trans (.of_event (.refl _) rfl rfl)

theorem stop_apart (a : Application) (s : State) : s.Apart (s.stop a) := by
  have told : s.Apart { s.signal true with running := false } := .of_hub (.refl _) rfl rfl
  refine (told.trans (stopMonitor_apart _)).trans (.of_hub ?_ rfl rfl)
  exact Hub.leads_sendEach _ _ _

theorem accept_apart {i : Nat} {id : SessionId} {peer : String} (h : s.accept i id peer = some t) : s.Apart t := by
  unfold accept at h
  simp only [Option.bind_eq_bind, Option.bind_eq_some_iff, Option.pure_def] at h
  obtain ⟨l, -, h⟩ := h
  split at h
  · cases h
  · obtain rfl := Option.some.inj h
    exact .of_hub (.refl _) rfl rfl

theorem poll_apart {i : Nat} (h : s.poll i = some t) : s.Apart t := by
  unfold poll at h
  simp only [Option.bind_eq_bind, Option.bind_eq_some_iff, Option.pure_def] at h
  obtain ⟨l, -, h⟩ := h
  split at h
  · cases h
  · obtain rfl := Option.some.inj h
    exact .of_hub (.refl _) rfl rfl

theorem watch_apart {i : Nat} (h : s.watch i = some t) : s.Apart t := by
  unfold watch at h
  simp only [Option.bind_eq_bind, Option.bind_eq_some_iff, Option.pure_def] at h
  obtain ⟨m, -, h⟩ := h
  split at h
  · cases h
  · obtain rfl := Option.some.inj h
    exact .of_hub ((m.leads_act s.hub).trans (Hub.leads_settleAll _)) rfl rfl

theorem leads_closeNotified (deadline : Nat) (ts : List (SessionKey × Ticket)) (h : Hub) :
    h.Leads (closeNotified deadline ts h).2 := by
  induction ts generalizing h with
  | nil => exact .refl h
  | cons p ts ih =>
    unfold closeNotified
    dsimp only
    split
    · split
      · exact (h.leads_move p.1 .close trivial).trans (ih _)
      · exact (h.leads_giveUp p.1 p.2).trans ((Hub.leads_move _ p.1 .close trivial).trans (ih _))
    · exact ih h

theorem leads_abortFrom (k : SessionKey) (h : Hub) (cs : List Connection) : h.Leads (abortFrom k h cs).1 := by
  induction cs generalizing k h with
  | nil => exact .refl h
  | cons c cs ih => exact (c.leads_abort k h).trans (ih (k + 1) _)

theorem abortFrom_length (k : SessionKey) (h : Hub) (cs : List Connection) :
    (abortFrom k h cs).2.length = cs.length := by
  induction cs generalizing k h with
  | nil => rfl
  | cons c cs ih => exact congrArg (· + 1) (ih (k + 1) _)

theorem abortFrom_connection (k : SessionKey) (h : Hub) (cs : List Connection) (j : Nat) (c : Connection)
    (hj : cs[j]? = some c) : ∃ c', (abortFrom k h cs).2[j]? = some c' ∧ c.Apart c' := by
  induction cs generalizing k h j with
  | nil => cases hj
  | cons d cs ih =>
    cases j with
    | zero =>
      obtain rfl := Option.some.inj hj
      exact ⟨_, rfl, d.abort_apart k h⟩
    | succ j => exact ih (k + 1) _ j hj

theorem abortAll_apart (s : State) : s.Apart s.abortAll :=
  ⟨leads_abortFrom 0 _ _, abortFrom_length 0 _ _, abortFrom_connection 0 _ _, [], by simp [abortAll], by simp⟩

theorem proceed_apart {i : Nat} (h : s.proceed a i = some t) : s.Apart t := by
  unfold proceed at h
  simp only [Option.bind_eq_bind, Option.bind_eq_some_iff, Option.pure_def] at h
  obtain ⟨c, -, h⟩ := h
  split at h
  next pending deadline _ =>
    have closed : s.hub.Leads (closeNotified deadline pending s.hub).2 := leads_closeNotified _ _ _
    split at h
    · obtain rfl := Option.some.inj h
      exact .of_hub closed rfl rfl
    · split at h
      · cases h
      · obtain rfl := Option.some.inj h
        exact .of_hub closed rfl rfl
  · split at h
    · cases h
    · obtain rfl := Option.some.inj h
      exact .of_hub (.refl _) rfl rfl
  · split at h
    · cases h
    · obtain rfl := Option.some.inj h
      exact (abortAll_apart s).trans (.of_hub (.refl _) rfl rfl)
  · split at h
    · cases h
    · obtain rfl := Option.some.inj h
      exact .of_hub (.refl _) rfl rfl
  next k left _ =>
    obtain rfl := Option.some.inj h
    exact .of_hub (s.hub.leads_closeAsync k) rfl rfl
  · obtain rfl := Option.some.inj h
    split
    · exact .of_event (.of_same (Nat.le_refl _) (List.nil_sublist _) rfl) rfl rfl
    · exact .of_hub (.of_same (Nat.le_refl _) (List.nil_sublist _) rfl) rfl rfl
  · cases h

/-- What one step of a server does. -/
inductive Change (a : Application) (s : State) : Label → State → Prop
  | apart {t : State} (l : Label) (other : ∀ k, l ≠ .task k) (apart : s.Apart t) : Change a s l t
  | enroll (i : Nat) (loop : AcceptLoop) (id : SessionId) (peer : String) (hl : s.loops[i]? = some loop)
      (holding : loop.holding = some (id, peer)) (unlocked : s.lock = none) (running : s.running = true)
      (room : s.hub.registry.size < a.settings.maxConnections) :
      Change a s (.enroll i) ({ s with loops := s.loops.set i { loop with holding := none } }.addSession a id peer)
  | task (k : SessionKey) (c c' : Connection) (session : Session) (h' : Hub) (records : List Record)
      (hc : s.connection? k = some c) (hs : s.hub.session? k = some session)
      (effect : c.Effect a k session s.hub h' c' records) :
      Change a s (.task k)
        { s with hub := h', connections := s.connections.set k c', journal := s.journal ++ records }

theorem enroll_change {i : Nat} (h : s.enroll a i = some t) : s.Change a (.enroll i) t := by
  unfold enroll at h
  split at h
  · cases h
  next unlocked =>
    simp only [Option.bind_eq_bind, Option.bind_eq_some_iff, Option.pure_def] at h
    obtain ⟨loop, hl, ⟨id, peer⟩, holding, h⟩ := h
    dsimp only at h
    split at h
    · obtain rfl := Option.some.inj h
      exact .apart _ (by simp) (.of_hub (.refl _) rfl rfl)
    next free =>
      obtain rfl := Option.some.inj h
      simp only [Bool.or_eq_true, Bool.not_eq_true', decide_eq_true_eq, not_or, Bool.not_eq_false, Nat.not_le] at free
      exact .enroll i loop id peer hl holding (by simpa using unlocked) free.1 free.2

end State

theorem step_change {a : Application} {s t : State} {l : Label} (h : step a s l = some t) : s.Change a l t := by
  cases l with
  | connect loop id peer => exact .apart _ (by simp) (State.accept_apart h)
  | arrive k bytes =>
    refine .apart _ (by simp) (State.onConnection_apart (fun c c' hc => ?_) h)
    obtain rfl := Option.some.inj hc
    exact c.arrive_apart bytes
  | finish k fin =>
    refine .apart _ (by simp) (State.onConnection_apart (fun c c' hc => ?_) h)
    obtain rfl := Option.some.inj hc
    exact c.finishStream_apart fin
  | widen k n =>
    simp only [step] at h
    exact .apart _ (by simp) (State.onPipe_apart k _ h)
  | fail k reason =>
    simp only [step] at h
    exact .apart _ (by simp) (State.onPipe_apart k _ h)
  | pass ms =>
    obtain rfl := Option.some.inj h
    exact .apart _ (by simp) (.of_hub (.of_same (Nat.le_refl _) (List.Sublist.refl _) rfl) rfl rfl)
  | serve address port => exact .apart _ (by simp) (State.serve_apart h)
  | serveUnnamed => exact .apart _ (by simp) (State.serveUnnamed_apart h)
  | lose loop reason => exact .apart _ (by simp) (State.lose_apart h)
  | stop =>
    obtain rfl := Option.some.inj h
    exact .apart _ (by simp) (State.stop_apart a s)
  | act k c =>
    simp only [step] at h
    split at h
    · obtain rfl := Option.some.inj h
      exact .apart _ (by simp) (.of_hub (s.hub.leads_call k c) rfl rfl)
    · cases h
  | poll loop => exact .apart _ (by simp) (State.poll_apart h)
  | enroll loop => exact State.enroll_change h
  | pump k m => exact .apart _ (by simp) (State.onConnection_apart (fun _ _ hc => Connection.pumpStep_apart hc) h)
  | task k =>
    simp only [step, State.task, Option.bind_eq_bind, Option.bind_eq_some_iff, Option.pure_def] at h
    obtain ⟨c, hc, session, hs, ⟨h', c', records⟩, he, ht⟩ := h
    obtain rfl := Option.some.inj ht
    exact .task k c c' session h' records hc hs (Connection.step_effect he)
  | watch monitor => exact .apart _ (by simp) (State.watch_apart h)
  | proceed stop => exact .apart _ (by simp) (State.proceed_apart h)

end FrameServer.Server
