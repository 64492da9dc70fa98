import FrameServer.Proofs.Server.Buffer

namespace FrameServer.Server

namespace State

section StopMonitor

variable (s : State)

@[simp] theorem stopMonitor_running : s.stopMonitor.running = s.running := by unfold stopMonitor; split <;> rfl
@[simp] theorem stopMonitor_shutdown : s.stopMonitor.shutdown = s.shutdown := by unfold stopMonitor; split <;> rfl
@[simp] theorem stopMonitor_signals : s.stopMonitor.signals = s.signals := by unfold stopMonitor; split <;> rfl
@[simp] theorem stopMonitor_loops : s.stopMonitor.loops = s.loops := by unfold stopMonitor; split <;> rfl
@[simp] theorem stopMonitor_stops : s.stopMonitor.stops = s.stops := by unfold stopMonitor; split <;> rfl
@[simp] theorem stopMonitor_address : s.stopMonitor.address = s.address := by unfold stopMonitor; split <;> rfl
@[simp] theorem stopMonitor_journal : s.stopMonitor.journal = s.journal := by unfold stopMonitor; split <;> rfl

attribute [simp] stopMonitor_connections

end StopMonitor

section Stop

variable (a : Application) (s : State)

@[simp] theorem stop_running : (s.stop a).running = false := by simp [stop]
@[simp] theorem stop_shutdown : (s.stop a).shutdown = true := by simp [stop, signal]
@[simp] theorem stop_signals : (s.stop a).signals = s.signals + 1 := by simp [stop, signal]
@[simp] theorem stop_loops : (s.stop a).loops = s.loops := by simp [stop, signal]
@[simp] theorem stop_address : (s.stop a).address = s.address := by simp [stop, signal]
@[simp] theorem stop_journal : (s.stop a).journal = s.journal := by simp [stop, signal]
@[simp] theorem stop_connections : (s.stop a).connections = s.connections := by simp [stop, signal]

end Stop

def putStop (s : State) (i : Nat) (c : Stopping) (p : Stopping.Phase) : State :=
  { s with stops := s.stops.set i { c with phase := p } }

/-- Empties the registry, as a stop does in the end. -/
def cleared (s : State) : State := { s with hub := { s.hub with registry := {} }, address := none }

/-- What a stop says when it has ended. -/
def Stopping.farewell (c : Stopping) : List Record := if c.wasRunning then [serverEvent .serverStop []] else []

/-- What stop `i` does in one step, by its phase. -/
inductive Proceeds (a : Application) (s : State) (i : Nat) (c : Stopping) : State → Prop
  | notify (pending left : List (SessionKey × Ticket)) (deadline : Nat) (h' : Hub)
      (phase : c.phase = .notifying pending deadline) (visited : closeNotified deadline pending s.hub = (left, h')) :
      Proceeds a s i c
        (({ s with hub := h' } : State).putStop i c (if left = [] then .locking else .notifying left deadline))
  | lock (phase : c.phase = .locking) (unlocked : s.lock = none) :
      Proceeds a s i c
        (({ s with lock := some i } : State).putStop i c (.draining (s.hub.clock + a.settings.shutdownGrace)))
  | drain (deadline : Nat) (phase : c.phase = .draining deadline) (due : s.quiet = true ∨ deadline ≤ s.hub.clock) :
      Proceeds a s i c
        (({ s.abortAll with lock := none } : State).putStop i c (.clearing s.abortAll.hub.registry.keys none))
  | closed (left : List SessionKey) (k : SessionKey) (t : Ticket) (phase : c.phase = .clearing left (some (k, t)))
      (done : (s.hub.result? k t).isSome = true) : Proceeds a s i c (s.putStop i c (.clearing left none))
  | close (left : List SessionKey) (k : SessionKey) (phase : c.phase = .clearing (k :: left) none) :
      Proceeds a s i c (({ s with hub := (s.hub.request k .closeAsync).2 } : State).putStop i c
        (.clearing left (some (k, (s.hub.request k .closeAsync).1))))
  | clear (phase : c.phase = .clearing [] none) :
      Proceeds a s i c ((s.cleared.putStop i c .ended).record (Stopping.farewell c))

variable {a : Application} {s t : State}

theorem proceed_cases {i : Nat} (h : s.proceed a i = some t) : ∃ c, s.stops[i]? = some c ∧ s.Proceeds a i c t := by
  unfold proceed at h
  simp only [Option.bind_eq_bind, Option.bind_eq_some_iff, Option.pure_def] at h
  obtain ⟨c, hc, h⟩ := h
  refine ⟨c, hc, ?_⟩
  split at h
  next pending deadline phase =>
    cases visited : closeNotified deadline pending s.hub with
    | mk left h' =>
    have made := Proceeds.notify (a := a) (i := i) pending left deadline h' phase visited
    simp only [visited, List.isEmpty_iff] at h
    split at h
    next none =>
      obtain rfl := Option.some.inj h
      rwa [if_pos none] at made
    next some =>
      split at h
      · cases h
      · obtain rfl := Option.some.inj h
        rwa [if_neg some] at made
  next phase =>
    split at h
    · cases h
    next unlocked =>
      obtain rfl := Option.some.inj h
      exact .lock phase (by simpa using unlocked)
  next deadline phase =>
    split at h
    · cases h
    next due =>
      obtain rfl := Option.some.inj h
      refine .drain deadline phase ?_
      cases quiet : s.quiet with
      | true => exact .inl rfl
      | false => exact .inr (by simpa [quiet] using due)
  next left k ticket phase =>
    split at h
    · cases h
    next done =>
      obtain rfl := Option.some.inj h
      exact .closed left k ticket phase (by simpa [Option.isSome_iff_ne_none] using done)
  next k left phase =>
    obtain rfl := Option.some.inj h
    exact .close left k phase
  next phase =>
    obtain rfl := Option.some.inj h
    have made := Proceeds.clear (a := a) (s := s) (i := i) phase
    unfold Stopping.farewell at made
    split
    next running => rwa [if_pos running] at made
    next running =>
      rw [if_neg running, record, List.append_nil] at made
      exact made
  · cases h

/-- What a call to serve leads to. -/
def begun (a : Application) (s : State) (address : String) (port : Nat) : State :=
  let monitor : Monitor :=
    { idleLimit := a.settings.idleTimeout, interval := a.settings.sweepInterval, patience := a.settings.writeTimeout }
  { s with
    running := true
    shutdown := false
    signals := s.signals + 1
    loops := s.loops ++ [({ address, port, seen := s.signals + 1 } : AcceptLoop)]
    monitors := s.monitors ++ [monitor.start s.hub.clock]
    current := some s.monitors.length
    address := some address
    journal := s.journal ++ [serverEvent .serverStart [("address", .string address), ("port", .int port)]] }

def lostEvent (l : AcceptLoop) (reason : String) : Record :=
  serverEvent .serverError [("address", .string l.address), ("port", .int l.port), ("error", .string reason)]

def setLoop (s : State) (i : Nat) (l : AcceptLoop) : State := { s with loops := s.loops.set i l }

@[simp] theorem addSession_loops (a : Application) (s : State) (id : SessionId) (peer : String) :
    (s.addSession a id peer).loops = s.loops := rfl

/-- The state that a step of a server leads to. -/
inductive Turn (a : Application) (s : State) : Label → State → Prop
  | connect (i : Nat) (id : SessionId) (peer : String) (l : AcceptLoop) (hl : s.loops[i]? = some l)
      (live : l.ended = false) (free : l.holding = none) :
      Turn a s (.connect i id peer) (s.setLoop i { l with holding := some (id, peer) })
  | arrive (k : SessionKey) (bytes : Bytes) (c : Connection) (hc : s.connection? k = some c) :
      Turn a s (.arrive k bytes)
        { s with connections := s.connections.set k { c with pump := c.pump.arrive bytes } }
  | finish (k : SessionKey) (fin : Framing.StreamEnd) (c : Connection) (hc : s.connection? k = some c) :
      Turn a s (.finish k fin)
        { s with connections := s.connections.set k { c with pump := c.pump.finishStream fin } }
  | widen (k : SessionKey) (n : Nat) :
      Turn a s (.widen k n)
        { s with hub := (s.hub.setPipe k { s.hub.pipe k with capacity := (s.hub.pipe k).capacity + n }).settle k }
  | fail (k : SessionKey) (reason : String) :
      Turn a s (.fail k reason) { s with hub := (s.hub.setPipe k ((s.hub.pipe k).broken reason)).settle k }
  | pass (ms : Nat) : Turn a s (.pass ms) { s with hub := { s.hub with clock := s.hub.clock + ms } }
  | serve (address : String) (port : Nat) (idle : s.running = false) :
      Turn a s (.serve address port) (s.begun a address port)
  | serveUnnamed (idle : s.running = false) : Turn a s .serveUnnamed (s.signal false)
  | lose (i : Nat) (reason : String) (l : AcceptLoop) (hl : s.loops[i]? = some l) (live : l.ended = false)
      (free : l.holding = none) :
      Turn a s (.lose i reason)
        ((({ s with running := false } : State).setLoop i { l with ended := true }).stopMonitor.record
          [lostEvent l reason])
  | stop : Turn a s .stop (s.stop a)
  | act (k : SessionKey) (c : Session.Call) (there : k < s.connections.length) :
      Turn a s (.act k c) { s with hub := (s.hub.call k c).2 }
  | poll (i : Nat) (l : AcceptLoop) (hl : s.loops[i]? = some l) (live : l.ended = false) (free : l.holding = none)
      (changed : l.seen ≠ s.signals) :
      Turn a s (.poll i) (s.setLoop i { l with seen := s.signals, ended := s.shutdown })
  | refuse (i : Nat) (l : AcceptLoop) (hl : s.loops[i]? = some l) (held : SessionId × String)
      (holding : l.holding = some held) (unlocked : s.lock = none)
      (why : s.running = false ∨ a.settings.maxConnections ≤ s.hub.registry.size) :
      Turn a s (.enroll i) (s.setLoop i { l with holding := none })
  | enroll (i : Nat) (l : AcceptLoop) (hl : s.loops[i]? = some l) (id : SessionId) (peer : String)
      (holding : l.holding = some (id, peer)) (unlocked : s.lock = none) (running : s.running = true)
      (room : s.hub.registry.size < a.settings.maxConnections) :
      Turn a s (.enroll i) ((s.setLoop i { l with holding := none }).addSession a id peer)
  | pump (k : SessionKey) (m : Pump.Move) (c c' : Connection) (closed : Bool) (hc : s.connection? k = some c)
      (moved : c.pumpStep a.framing closed m = some c') :
      Turn a s (.pump k m) { s with connections := s.connections.set k c' }
  | task (k : SessionKey) (c c' : Connection) (x : Session) (h' : Hub) (records : List Record)
      (hc : s.connection? k = some c) (hx : s.hub.session? k = some x)
      (made : c.step a k x s.hub = some (h', c', records)) : Turn a s (.task k) (s.afterTask k h' c' records)
  | watch (i : Nat) (m : Monitor) (hm : s.monitors[i]? = some m) (due : State.due s.hub m = true) :
      Turn a s (.watch i)
        { s with hub := (m.act s.hub).2.settleAll, monitors := s.monitors.set i (m.act s.hub).1 }
  | proceed (i : Nat) (c : Stopping) {t : State} (hc : s.stops[i]? = some c) (does : s.Proceeds a i c t) :
      Turn a s (.proceed i) t

theorem onConnection_eq_some {k : SessionKey} {f : Connection → Option Connection} :
    s.onConnection k f = some t ↔ ∃ c c', s.connection? k = some c ∧ f c = some c' ∧
      t = { s with connections := s.connections.set k c' } := by
  unfold onConnection
  simp only [Option.bind_eq_bind, Option.bind_eq_some_iff, Option.pure_def, Option.some.injEq]
  constructor
  · rintro ⟨c, hc, c', hf, rfl⟩
    exact ⟨c, c', hc, hf, rfl⟩
  · rintro ⟨c, c', hc, hf, rfl⟩
    exact ⟨c, hc, c', hf, rfl⟩

theorem enroll_turn {i : Nat} (h : s.enroll a i = some t) : s.Turn a (.enroll i) t := by
  unfold enroll at h
  split at h
  · cases h
  next unlocked =>
    have unlocked : s.lock = none := by simpa using unlocked
    simp only [Option.bind_eq_bind, Option.bind_eq_some_iff, Option.pure_def] at h
    obtain ⟨l, hl, ⟨id, peer⟩, holding, h⟩ := h
    dsimp only at h
    split at h
    next full =>
      obtain rfl := Option.some.inj h
      exact .refuse i l hl (id, peer) holding unlocked (by simpa using full)
    next free =>
      obtain rfl := Option.some.inj h
      simp only [Bool.or_eq_true, Bool.not_eq_true', decide_eq_true_eq, not_or, Bool.not_eq_false, Nat.not_le] at free
      exact .enroll i l hl id peer holding unlocked free.1 free.2

end State

variable {a : Application} {s t u : State} {l : Label} {ls ms : List Label}

theorem step_turn (h : step a s l = some t) : s.Turn a l t := by
  cases l with
  | connect i id peer =>
    simp only [step, State.accept, Option.bind_eq_bind, Option.bind_eq_some_iff, Option.pure_def] at h
    obtain ⟨l, hl, h⟩ := h
    split at h
    · cases h
    next open? =>
      obtain rfl := Option.some.inj h
      simp only [Bool.or_eq_true, not_or, Bool.not_eq_true, Option.isSome_eq_false_iff,
        Option.isNone_iff_eq_none] at open?
      exact .connect i id peer l hl open?.1 open?.2
  | arrive k bytes =>
    obtain ⟨c, c', hc, hf, rfl⟩ := State.onConnection_eq_some.mp h
    obtain rfl := Option.some.inj hf
    exact .arrive k bytes c hc
  | finish k fin =>
    obtain ⟨c, c', hc, hf, rfl⟩ := State.onConnection_eq_some.mp h
    obtain rfl := Option.some.inj hf
    exact .finish k fin c hc
  | widen k n =>
    simp only [step, State.onPipe] at h
    split at h
    · obtain rfl := Option.some.inj h
      exact .widen k n
    · cases h
  | fail k reason =>
    simp only [step, State.onPipe] at h
    split at h
    · obtain rfl := Option.some.inj h
      exact .fail k reason
    · cases h
  | pass ms =>
    obtain rfl := Option.some.inj h
    exact .pass ms
  | serve address port =>
    simp only [step, State.serve] at h
    split at h
    · cases h
    next idle =>
      obtain rfl := Option.some.inj h
      exact .serve address port (by simpa using idle)
  | serveUnnamed =>
    simp only [step, State.serveUnnamed] at h
    split at h
    · cases h
    next idle =>
      obtain rfl := Option.some.inj h
      exact .serveUnnamed (by simpa using idle)
  | lose i reason =>
    simp only [step, State.lose, Option.bind_eq_bind, Option.bind_eq_some_iff, Option.pure_def] at h
    obtain ⟨l, hl, h⟩ := h
    split at h
    · cases h
    next open? =>
      obtain rfl := Option.some.inj h
      simp only [Bool.or_eq_true, not_or, Bool.not_eq_true, Option.isSome_eq_false_iff,
        Option.isNone_iff_eq_none] at open?
      exact .lose i reason l hl open?.1 open?.2
  | stop =>
    obtain rfl := Option.some.inj h
    exact .stop
  | act k c =>
    simp only [step] at h
    split at h
    next there =>
      obtain rfl := Option.some.inj h
      exact .act k c there
    · cases h
  | poll i =>
    simp only [step, State.poll, Option.bind_eq_bind, Option.bind_eq_some_iff, Option.pure_def] at h
    obtain ⟨l, hl, h⟩ := h
    split at h
    · cases h
    next open? =>
      obtain rfl := Option.some.inj h
      simp only [Bool.or_eq_true, not_or, Bool.not_eq_true, Option.isSome_eq_false_iff, Option.isNone_iff_eq_none,
        decide_eq_true_eq] at open?
      exact .poll i l hl open?.1.1 open?.1.2 open?.2
  | enroll i => exact State.enroll_turn h
  | pump k m =>
    obtain ⟨c, c', hc, hf, rfl⟩ := State.onConnection_eq_some.mp h
    exact .pump k m c c' _ hc hf
  | task k =>
    obtain ⟨c, c', x, h', records, hc, hx, made, rfl⟩ := step_task.mp h
    exact .task k c c' x h' records hc hx made
  | watch i =>
    simp only [step, State.watch, Option.bind_eq_bind, Option.bind_eq_some_iff, Option.pure_def] at h
    obtain ⟨m, hm, h⟩ := h
    split at h
    · cases h
    next due =>
      obtain rfl := Option.some.inj h
      exact .watch i m hm (by simpa using due)
  | proceed i =>
    obtain ⟨c, hc, does⟩ := State.proceed_cases h
    exact .proceed i c hc does

/-- The value to which a step sets the shutdown signal. -/
def Label.signal? : Label → Option Bool
  | .serve _ _ | .serveUnnamed => some false
  | .stop => some true
  | _ => none

/-- Whether the server is running after a step that decides it. -/
def Label.running? : Label → Option Bool
  | .serve _ _ => some true
  | .lose _ _ | .stop => some false
  | _ => none

def Label.serves : Label → Bool
  | .serve _ _ => true
  | _ => false

theorem step_signals (h : step a s l = some t) :
    t.shutdown = l.signal?.getD s.shutdown ∧ t.signals = s.signals + l.signal?.toList.length ∧
      t.running = l.running?.getD s.running := by
  cases step_turn h with
  | proceed _ c _ does => cases does <;> exact ⟨rfl, rfl, rfl⟩
  | lose => simp [State.record, State.setLoop, Label.signal?, Label.running?]
  | stop => simp [Label.signal?, Label.running?]
  | _ => exact ⟨rfl, rfl, rfl⟩

/-- A server that is not running does not run until it is served. -/
theorem step_idle (h : step a s l = some t) (unserved : l.serves = false) (idle : s.running = false) :
    t.running = false := by
  rw [(step_signals h).2.2]
  cases l with
  | serve => cases unserved
  | lose | stop => rfl
  | _ => exact idle

theorem play_idle (h : play a s ls = some t) (unserved : ∀ l ∈ ls, l.serves = false) (idle : s.running = false) :
    t.running = false := by
  induction ls generalizing s with
  | nil =>
    obtain rfl := Option.some.inj h
    exact idle
  | cons l ls ih =>
    obtain ⟨u, hu, h⟩ := Option.bind_eq_some_iff.mp h
    have rest : ∀ m ∈ ls, m.serves = false := fun m hm => unserved m (List.mem_cons_of_mem _ hm)
    exact ih h rest (step_idle hu (unserved l List.mem_cons_self) idle)

end FrameServer.Server
