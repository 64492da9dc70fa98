import FrameServer.Proofs.Event.Ring
import FrameServer.Proofs.Server.Side

namespace FrameServer.Server

open Connection

/-- The frame that the pump of session `k` finds in a step. -/
def found (a : Application) (k : SessionKey) (s : State) : Label → Option Bytes
  | .pump j m => if j = k then (s.connection? k).bind fun c => (c.pump.step a.framing m).bind (·.1) else none
  | _ => none

/-- The inbound stream was seen to its end, or to its fault. -/
def Phase.Exhausted : Phase → Prop
  | .joining | .failing _ | .leaving .complete | .parting .complete | .closing .complete => True
  | _ => False

namespace Connection

/-- The message that is handled next, if nothing has to be done before. -/
def next? (c : Connection) (closed : Bool) : Option Bytes :=
  match c.phase with
  | .waiting => if closed then none else c.waiting.pop?.1
  | _ => none

/-- What becomes of the frames that wait, when this frame is found and this message is handed over. -/
inductive Flow (c c' : Connection) : Option Bytes → Option Bytes → Prop
  | push (f : Bytes) (live : c.pump.isLive = true) (pushed : c'.waiting = c.waiting.push f) : Flow c c' (some f) none
  | pop (m : Bytes) (popped : c.waiting.pop? = (some m, c'.waiting)) : Flow c c' none (some m)
  | keep (kept : c'.waiting = c.waiting) : Flow c c' none none

end Connection

/-- The message with which the handler of session `k` is called in a step. -/
def taken (k : SessionKey) (s : State) : Label → Option Bytes
  | .task j =>
    if j = k then (s.connection? k).bind fun c => c.next? (((s.hub.session? k).map (·.closed)).getD true) else none
  | _ => none

variable {a : Application} {s t : State} {l : Label} {k : SessionKey} {c c' : Connection} {x : Session}

theorem taken_elsewhere (other : l.isTask k = false) : taken k s l = none := by
  cases l with
  | task j =>
    have e : j ≠ k := by simpa [Label.isTask] using other
    simp [taken, e]
  | _ => rfl

theorem taken_here (hc : s.connection? k = some c) (hx : s.hub.session? k = some x) :
    taken k s (.task k) = c.next? x.closed := by
  simp [taken, hc, hx]

namespace State

/-- What a step does to the connections. -/
inductive Rewired (a : Application) (s : State) : Label → List Connection → Prop
  | same (l : Label) (quiet : ∀ k, found a k s l = none ∧ taken k s l = none) : Rewired a s l s.connections
  | added (l : Label) (quiet : ∀ k, found a k s l = none ∧ taken k s l = none) :
      Rewired a s l (s.connections ++ [Connection.admitted a.settings])
  | fed (l : Label) (quiet : ∀ k, found a k s l = none ∧ taken k s l = none) (j : SessionKey) (c c' : Connection)
      (hc : s.connection? j = some c) (kept : c'.waiting = c.waiting) : Rewired a s l (s.connections.set j c')
  | aborted (l : Label) (quiet : ∀ k, found a k s l = none ∧ taken k s l = none) :
      Rewired a s l s.abortAll.connections
  | pumped (j : SessionKey) (m : Pump.Move) (c : Connection) (frame? : Option Bytes) (pump : Pump)
      (hc : s.connection? j = some c) (moved : c.pump.step a.framing m = some (frame?, pump)) :
      Rewired a s (.pump j m)
        (s.connections.set j { c with pump, waiting := frame?.elim c.waiting c.waiting.push })
  | task (j : SessionKey) (c c' : Connection) (x : Session) (h' : Hub) (records : List Record)
      (hc : s.connection? j = some c) (hx : s.hub.session? j = some x)
      (made : c.step a j x s.hub = some (h', c', records)) : Rewired a s (.task j) (s.connections.set j c')

theorem proceed_rewired {i : Nat} (h : s.proceed a i = some t) :
    t.connections = s.connections ∨ t.connections = s.abortAll.connections := by
  unfold proceed at h
  simp only [Option.bind_eq_bind, Option.bind_eq_some_iff, Option.pure_def] at h
  obtain ⟨c, -, h⟩ := h
  split at h
  · split at h
    · obtain rfl := Option.some.inj h
      exact .inl rfl
    · split at h
      · cases h
      · obtain rfl := Option.some.inj h
        exact .inl rfl
  · split at h
    · cases h
    · obtain rfl := Option.some.inj h
      exact .inl rfl
  · split at h
    · cases h
    · obtain rfl := Option.some.inj h
      exact .inr rfl
  · split at h
    · cases h
    · obtain rfl := Option.some.inj h
      exact .inl rfl
  · obtain rfl := Option.some.inj h
    exact .inl rfl
  · obtain rfl := Option.some.inj h
    refine .inl ?_
    split <;> rfl
  · cases h

theorem stopMonitor_connections (s : State) : s.stopMonitor.connections = s.connections := by
  unfold stopMonitor
  split <;> rfl

theorem pumped_rewired {j : SessionKey} {m : Pump.Move} {closed : Bool}
    (h : s.onConnection j (fun c => c.pumpStep a.framing closed m) = some t) :
    s.Rewired a (.pump j m) t.connections := by
  unfold onConnection at h
  simp only [Option.bind_eq_bind, Option.bind_eq_some_iff, Option.pure_def, Option.some.injEq] at h
  obtain ⟨c, hc, c', moved, rfl⟩ := h
  unfold pumpStep at moved
  split at moved
  · cases moved
  · cases moved
  · split at moved
    · cases moved
    · obtain ⟨⟨frame?, pump⟩, hp, rfl⟩ := Option.map_eq_some_iff.mp moved
      exact .pumped j m c frame? pump hc hp

theorem fed_rewired {j : SessionKey} {f : Connection → Option Connection}
    (quiet : ∀ k, found a k s l = none ∧ taken k s l = none)
    (keeps : ∀ c c', f c = some c' → c'.waiting = c.waiting) (h : s.onConnection j f = some t) :
    s.Rewired a l t.connections := by
  unfold onConnection at h
  simp only [Option.bind_eq_bind, Option.bind_eq_some_iff, Option.pure_def, Option.some.injEq] at h
  obtain ⟨c, hc, c', hf, rfl⟩ := h
  exact .fed l quiet j c c' hc (keeps c c' hf)

end State

theorem step_rewired (h : step a s l = some t) : s.Rewired a l t.connections := by
  have same (quiet : ∀ k, found a k s l = none ∧ taken k s l = none) (kept : t.connections = s.connections) :
      s.Rewired a l t.connections := by
    rw [kept]
    exact .same l quiet
  have quiet (other : ∀ j, l ≠ .task j) (idle : ∀ j m, l ≠ .pump j m) (k : SessionKey) :
      found a k s l = none ∧ taken k s l = none := by
    cases l with
    | task j => exact absurd rfl (other j)
    | pump j m => exact absurd rfl (idle j m)
    | _ => exact ⟨rfl, rfl⟩
  cases l with
  | connect loop id peer =>
    simp only [step, State.accept, Option.bind_eq_bind, Option.bind_eq_some_iff, Option.pure_def] at h
    obtain ⟨loop, -, h⟩ := h
    split at h
    · cases h
    · obtain rfl := Option.some.inj h
      exact same (quiet (by simp) (by simp)) rfl
  | arrive k bytes =>
    refine State.fed_rewired (quiet (by simp) (by simp)) (fun c c' hc => ?_) h
    obtain rfl := Option.some.inj hc
    rfl
  | finish k fin =>
    refine State.fed_rewired (quiet (by simp) (by simp)) (fun c c' hc => ?_) h
    obtain rfl := Option.some.inj hc
    rfl
  | widen | fail =>
    simp only [step, State.onPipe] at h
    split at h
    · obtain rfl := Option.some.inj h
      exact same (quiet (by simp) (by simp)) rfl
    · cases h
  | pass ms =>
    obtain rfl := Option.some.inj h
    exact same (quiet (by simp) (by simp)) rfl
  | serve address port =>
    simp only [step, State.serve] at h
    split at h
    · cases h
    · obtain rfl := Option.some.inj h
      exact same (quiet (by simp) (by simp)) rfl
  | serveUnnamed =>
    simp only [step, State.serveUnnamed] at h
    split at h
    · cases h
    · obtain rfl := Option.some.inj h
      exact same (quiet (by simp) (by simp)) rfl
  | lose loop reason =>
    simp only [step, State.lose, Option.bind_eq_bind, Option.bind_eq_some_iff, Option.pure_def] at h
    obtain ⟨loop, -, h⟩ := h
    split at h
    · cases h
    · obtain rfl := Option.some.inj h
      exact same (quiet (by simp) (by simp)) (State.stopMonitor_connections _)
  | stop =>
    obtain rfl := Option.some.inj h
    exact same (quiet (by simp) (by simp)) (State.stopMonitor_connections _)
  | act k c =>
    simp only [step] at h
    split at h
    · obtain rfl := Option.some.inj h
      exact same (quiet (by simp) (by simp)) rfl
    · cases h
  | poll loop =>
    simp only [step, State.poll, Option.bind_eq_bind, Option.bind_eq_some_iff, Option.pure_def] at h
    obtain ⟨loop, -, h⟩ := h
    split at h
    · cases h
    · obtain rfl := Option.some.inj h
      exact same (quiet (by simp) (by simp)) rfl
  | enroll loop =>
    simp only [step, State.enroll] at h
    split at h
    · cases h
    · simp only [Option.bind_eq_bind, Option.bind_eq_some_iff, Option.pure_def] at h
      obtain ⟨loop, -, held, -, h⟩ := h
      split at h
      · obtain rfl := Option.some.inj h
        exact same (quiet (by simp) (by simp)) rfl
      · obtain rfl := Option.some.inj h
        exact .added _ (quiet (by simp) (by simp))
  | pump k m => exact State.pumped_rewired h
  | task k =>
    simp only [step, State.task, Option.bind_eq_bind, Option.bind_eq_some_iff, Option.pure_def] at h
    obtain ⟨c, hc, x, hx, ⟨h', c', records⟩, made, ht⟩ := h
    obtain rfl := Option.some.inj ht
    exact .task k c c' x h' records hc hx made
  | watch monitor =>
    simp only [step, State.watch, Option.bind_eq_bind, Option.bind_eq_some_iff, Option.pure_def] at h
    obtain ⟨m, -, h⟩ := h
    split at h
    · cases h
    · obtain rfl := Option.some.inj h
      exact same (quiet (by simp) (by simp)) rfl
  | proceed stop =>
    rcases State.proceed_rewired h with kept | aborted
    · exact same (quiet (by simp) (by simp)) kept
    · rw [aborted]
      exact .aborted _ (quiet (by simp) (by simp))

theorem abortFrom_waiting (k : SessionKey) (h : Hub) (cs : List Connection) (j : Nat) (hj : cs[j]? = some c)
    (hj' : (State.abortFrom k h cs).2[j]? = some c') : c'.waiting = c.waiting := by
  induction cs generalizing k h j with
  | nil => cases hj
  | cons d cs ih =>
    cases j with
    | zero =>
      obtain rfl := Option.some.inj hj
      obtain rfl : (d.abort k h).2 = c' := Option.some.inj hj'
      unfold abort
      split <;> rfl
    | succ j => exact ih (k + 1) _ j hj hj'

section Task

variable {h h' : Hub} {records : List Record} {m : Bytes}

theorem next_eq_some {closed : Bool} : c.next? closed = some m ↔
    c.phase = .waiting ∧ closed = false ∧ ∃ rest, c.waiting.pop? = (some m, rest) := by
  constructor
  · intro next
    unfold next? at next
    split at next
    next phase =>
      cases closed with
      | true => simp at next
      | false => exact ⟨phase, rfl, c.waiting.pop?.2, Prod.ext next rfl⟩
    · cases next
  · rintro ⟨phase, rfl, rest, popped⟩
    simp [next?, phase, popped]

/-- If there is a message to be handled, the task can go on. -/
theorem step_of_next (a : Application) (k : SessionKey) (h : Hub) (next : c.next? x.closed = some m) :
    ∃ h' c' records, c.step a k x h = some (h', c', records) := by
  obtain ⟨phase, unclosed, rest, popped⟩ := next_eq_some.mp next
  exact ⟨_, _, _, by simp only [Connection.step, phase, unclosed, popped, receive]; rfl⟩

/-- It calls the handler with this message. -/
theorem called_of_next (next : c.next? x.closed = some m) (made : c.step a k x h = some (h', c', records)) :
    c.waiting.pop? = (some m, c'.waiting) ∧ records = [messageEvent x.id m] ∧
      c'.phase = .handling ⟨a.handler { session := x.id, message := m, attribute? := x.attribute? }, none⟩ := by
  obtain ⟨phase, unclosed, rest, popped⟩ := next_eq_some.mp next
  simp only [Connection.step, phase, unclosed, popped, receive, Bool.false_eq_true, if_false, Option.some.injEq,
    Prod.mk.injEq] at made
  obtain ⟨-, rfl, rfl⟩ := made
  exact ⟨popped, rfl, rfl⟩

/-- If there is none, the frames that wait stay, and no handler is called. -/
theorem kept_of_next (next : c.next? x.closed = none) (e : c.Effect a k x h h' c' records) :
    c'.waiting = c.waiting ∧ ((∃ w, c'.phase = .handling w) → ∃ w, c.phase = .handling w) := by
  cases e with
  | receive m rest phase unclosed popped =>
    rw [next_eq_some.mpr ⟨phase, unclosed, rest, popped⟩] at next
    cases next
  | work w _ _ _ phase => exact ⟨rfl, fun _ => ⟨w, phase⟩⟩
  | silent | answered =>
    refine ⟨rfl, fun ⟨w, hw⟩ => ?_⟩
    rcases pause_cases a h with paused | paused <;> cases paused.symm.trans hw
  | cancel =>
    refine ⟨rfl, fun ⟨w, hw⟩ => ?_⟩
    dsimp only at hw
    split at hw <;> cases hw
  | _ => exact ⟨rfl, fun ⟨w, hw⟩ => by cases hw⟩

theorem task_flow (made : c.step a k x h = some (h', c', records)) : c.Flow c' none (c.next? x.closed) := by
  cases next : c.next? x.closed with
  | some m => exact .pop m (called_of_next next made).1
  | none => exact .keep (kept_of_next next (step_effect made)).1

/-- The task joins the pump when it has ended and no frame waits. -/
theorem joining_of_step (made : c.step a k x h = some (h', c', records)) (joins : c'.phase = .joining) :
    c.waiting.items = [] ∧ c'.waiting = c.waiting ∧ c'.pump = c.pump ∧ ∃ r, c.pump.status = .ended r := by
  have next : c.next? x.closed = none := by
    cases next : c.next? x.closed with
    | none => rfl
    | some m =>
      have phase := (called_of_next next made).2.2
      rw [joins] at phase
      cases phase
  have e := step_effect made
  cases e with
  | drained phase unclosed idle =>
    refine ⟨?_, rfl, rfl, ?_⟩
    · rw [next?, phase, unclosed] at next
      exact Ring.pop_none next
    · unfold Pump.isLive at idle
      split at idle
      next r status => exact ⟨r, status⟩
      · cases idle
  | silent | answered => rcases pause_cases a h with paused | paused <;> cases paused.symm.trans joins
  | cancel =>
    dsimp only at joins
    split at joins <;> cases joins
  | _ => cases joins

end Task

/-- What a step does with the frames that wait at a connection. -/
theorem step_flow (h : step a s l = some t) (hc : s.connection? k = some c) :
    ∃ c', t.connection? k = some c' ∧ c.Flow c' (found a k s l) (taken k s l) := by
  have bound : k < s.connections.length := (List.getElem?_eq_some_iff.mp hc).1
  have elsewhere {j : SessionKey} {d : Connection} (e : j ≠ k) : (s.connections.set j d)[k]? = some c :=
    (List.getElem?_set_ne e).trans hc
  have here {d : Connection} : (s.connections.set k d)[k]? = some d := List.getElem?_set_self bound
  have wired := step_rewired h
  unfold State.connection? at hc ⊢
  generalize t.connections = connections at wired ⊢
  cases wired with
  | same _ quiet =>
    rw [(quiet k).1, (quiet k).2]
    exact ⟨c, hc, .keep rfl⟩
  | added _ quiet =>
    rw [(quiet k).1, (quiet k).2, List.getElem?_append_left bound]
    exact ⟨c, hc, .keep rfl⟩
  | fed _ quiet j d d' hd kept =>
    rw [(quiet k).1, (quiet k).2]
    by_cases e : j = k
    · subst e
      obtain rfl : c = d := Option.some.inj (hc.symm.trans hd)
      exact ⟨d', here, .keep kept⟩
    · exact ⟨c, elsewhere e, .keep rfl⟩
  | aborted _ quiet =>
    rw [(quiet k).1, (quiet k).2]
    obtain ⟨c', hc', -⟩ := State.abortFrom_connection 0 s.hub s.connections k c hc
    exact ⟨c', hc', .keep (abortFrom_waiting 0 s.hub s.connections k hc hc')⟩
  | pumped j m d frame? pump hd moved =>
    have nothing : taken k s (.pump j m) = none := rfl
    rw [nothing]
    by_cases e : j = k
    · subst e
      obtain rfl : c = d := Option.some.inj (hc.symm.trans hd)
      have live : c.pump.isLive = true := by
        unfold Pump.isLive
        split
        next r status =>
          rw [pump_ended status] at moved
          cases moved
        · rfl
      have one : found a j s (.pump j m) = frame? := by simp [found, State.connection?, hc, moved]
      rw [one]
      refine ⟨_, here, ?_⟩
      cases frame? with
      | none => exact .keep rfl
      | some f => exact .push f live rfl
    · have none : found a k s (.pump j m) = none := by simp [found, e]
      rw [none]
      exact ⟨c, elsewhere e, .keep rfl⟩
  | task j d d' x h' records hd hx made =>
    have nothing : found a k s (.task j) = none := rfl
    rw [nothing]
    by_cases e : j = k
    · subst e
      obtain rfl : c = d := Option.some.inj (hc.symm.trans hd)
      rw [taken_here hc hx]
      exact ⟨d', here, task_flow made⟩
    · rw [taken_elsewhere (isTask_false (by simpa using e))]
      exact ⟨c, elsewhere e, .keep rfl⟩

/-- Before there is a connection no frames are found and handled, and a new one has none. -/
theorem step_unconnected (h : step a s l = some t) (hc : s.connection? k = none) :
    found a k s l = none ∧ taken k s l = none ∧
      (t.connection? k = none ∨ t.connection? k = some (admitted a.settings)) := by
  have bound : s.connections.length ≤ k := List.getElem?_eq_none_iff.mp hc
  have elsewhere {j : SessionKey} {d : Connection} : (s.connections.set j d)[k]? = none := by
    rw [List.getElem?_eq_none_iff, List.length_set]
    exact bound
  have wired := step_rewired h
  have unfound : found a k s l = none := by
    cases l with
    | pump j m => simp [found, hc]
    | _ => rfl
  have untaken : taken k s l = none := by
    cases l with
    | task j => simp [taken, hc]
    | _ => rfl
  refine ⟨unfound, untaken, ?_⟩
  unfold State.connection? at hc ⊢
  generalize t.connections = connections at wired ⊢
  cases wired with
  | same => exact .inl hc
  | added =>
    rw [List.getElem?_append_right bound]
    cases hd : k - s.connections.length with
    | zero => exact .inr rfl
    | succ n => exact .inl rfl
  | fed | pumped | task => exact .inl elsewhere
  | aborted =>
    refine .inl (List.getElem?_eq_none_iff.mpr ?_)
    show (State.abortFrom 0 s.hub s.connections).2.length ≤ k
    rw [State.abortFrom_length]
    exact bound

end FrameServer.Server
