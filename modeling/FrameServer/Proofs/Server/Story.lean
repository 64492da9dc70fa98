import FrameServer.Proofs.Server.Trace

namespace FrameServer.Server

open Connection

/-- How a session comes to its end. -/
inductive Ending
  | complete
  /-- It was closed on this side. -/
  | cancelled
  | timedOut
  /-- A response was not written. -/
  | broken (reason : String)
  /-- The stream is at fault. -/
  | corrupt (e : FrameError)

namespace Ending

def reason : Ending → CloseReason
  | complete => .complete
  | cancelled => .cancel
  | timedOut => .timeout
  | broken _ | corrupt _ => .error

def records (a : Application) (id : SessionId) : Ending → List Record
  | complete | cancelled => []
  | timedOut => hooks a id .timeout
  | broken reason => [errorEvent id reason]
  | corrupt e => hooks a id (.protocolError e) ++ [errorEvent id e.message]

/-- What is true of a session and its connection when it ends so. -/
def Warrant (x : Session) (c : Connection) : Ending → Prop
  | complete => c.pump.status = .ended (.ok ())
  | cancelled => x.closed = true
  | timedOut => x.closed = true ∧ x.closedIdle = true
  | broken _ => True
  | corrupt e => c.pump.status = .ended (.error e)

theorem Warrant.mono {n n' : Nat} {x x' : Session} {c c' : Connection} {ms : List Session.Move} {e : Ending}
    (h : e.Warrant x c) (path : x.Path n ms n' x') (apart : c.Apart c') : e.Warrant x' c' := by
  cases e with
  | complete => exact apart.ended _ h
  | cancelled => exact path.closed h
  | timedOut => exact ⟨path.closed h.1, path.closedIdle h.2⟩
  | broken => trivial
  | corrupt => exact apart.ended _ h

end Ending

/-- A message and what was written down while it was handled. -/
structure Round where
  message : Bytes
  notes : List Note

namespace Round

def records (id : SessionId) (r : Round) : List Record := messageEvent id r.message :: r.notes.map .note

/-- The handler was called with the message, and ran to its end. -/
def Ran (a : Application) (id : SessionId) (r : Round) : Prop :=
  ∃ attribute? o, (a.handler { session := id, message := r.message, attribute? }).Runs r.notes (.done o)

end Round

def served (id : SessionId) (rounds : List Round) : List Record := rounds.flatMap (·.records id)

def greeting (a : Application) (x : Session) : List Record := hooks a x.id .connect ++ [openEvent x]

def farewell (a : Application) (id : SessionId) (reason : CloseReason) : List Record :=
  hooks a id .disconnect ++ [closeEvent id reason]

/-- What was told of a session while messages are handled. -/
def Serving (a : Application) (x : Session) (trace : List Record) : Prop :=
  ∃ rounds, (∀ r ∈ rounds, Round.Ran a x.id r) ∧ trace = greeting a x ++ served x.id rounds

/-- The task of session `k` took it out of the registry, and has told `tail` since. -/
structure Removal (a : Application) (k : SessionKey) (ls : List Label) (x : Session) (reason : CloseReason)
    (tail : List Record) (before after : List Label) (u : State) (y : Session) (c : Connection) (e : Ending) :
    Prop where
  split : ls = before ++ .task k :: after
  run : play a {} before = some u
  connection : u.connection? k = some c
  session : u.hub.session? k = some y
  phase : c.phase = .leaving reason
  reason : e.reason = reason
  warrant : e.Warrant y c
  story : ∃ trace, Serving a x trace ∧ told a k {} before = trace ++ e.records a x.id
  tail : told a k u (.task k :: after) = tail

def Removed (a : Application) (k : SessionKey) (ls : List Label) (x : Session) (reason : CloseReason)
    (tail : List Record) : Prop :=
  ∃ before after u y c e, Removal a k ls x reason tail before after u y c e

/-- What the task of session `k` has told when it is in a phase, and `n` tickets are given out. -/
def Story (a : Application) (k : SessionKey) (ls : List Label) (n : Nat) (x : Session) (c : Connection) : Phase → Prop
  | .opening => told a k {} ls = []
  | .greeting => told a k {} ls = hooks a x.id .connect
  | .waiting | .responding _ _ | .pausing _ | .joining => Serving a x (told a k {} ls)
  | .handling w => ∃ trace m notes attribute?, Serving a x trace ∧
      told a k {} ls = trace ++ messageEvent x.id m :: notes.map .note ∧
      (a.handler { session := x.id, message := m, attribute? }).Runs notes w.script
  | .timingOut => Serving a x (told a k {} ls) ∧ Ending.timedOut.Warrant x c
  | .failing e => (Ending.corrupt e).Warrant x c ∧
      ∃ trace, Serving a x trace ∧ told a k {} ls = trace ++ hooks a x.id (.protocolError e)
  | .leaving reason => ∃ e : Ending, e.reason = reason ∧ e.Warrant x c ∧
      ∃ trace, Serving a x trace ∧ told a k {} ls = trace ++ e.records a x.id
  | .parting reason => Removed a k ls x reason []
  | .closing reason => Removed a k ls x reason (hooks a x.id .disconnect)
  | .shuttingDown t => x.lane.Reserved t ∧ t < n ∧ ∃ reason, Removed a k ls x reason (farewell a x.id reason)
  | .ended => x.lane.released = true ∧ ∃ reason, Removed a k ls x reason (farewell a x.id reason)
  | .aborted => True

variable {a : Application} {k : SessionKey} {ls : List Label} {l : Label} {s t : State} {x x' : Session}
  {c c' : Connection} {n n' : Nat} {moves : List Session.Move}

theorem greeting_eq (path : x.Path n moves n' x') : greeting a x' = greeting a x := by
  simp only [greeting, openEvent, path.id_eq, path.address_eq]

theorem Serving.on {trace : List Record} (h : Serving a x trace) (path : x.Path n moves n' x') :
    Serving a x' trace := by
  obtain ⟨rounds, ran, rfl⟩ := h
  exact ⟨rounds, by rwa [path.id_eq], by rw [greeting_eq path, path.id_eq]⟩

theorem Removed.on {reason : CloseReason} {tail : List Record} (h : Removed a k ls x reason tail)
    (run : play a {} ls = some s) (hl : step a s l = some t) (path : x.Path n moves n' x') :
    Removed a k (ls ++ [l]) x' reason (tail ++ noted k l s t) := by
  obtain ⟨before, after, u, y, c, e, h⟩ := h
  refine ⟨before, after ++ [l], u, y, c, e, ?_⟩
  obtain ⟨trace, serving, told⟩ := h.story
  have later : play a u (.task k :: after) = some s := by
    rw [h.split, play_append, h.run] at run
    exact run
  constructor
  · rw [h.split, List.append_assoc, List.cons_append]
  · exact h.run
  · exact h.connection
  · exact h.session
  · exact h.phase
  · exact h.reason
  · exact h.warrant
  · exact ⟨trace, serving.on path, by rw [told, path.id_eq]⟩
  · rw [← List.cons_append, told_concat later hl, h.tail]

/-- A step that is none of the task itself leaves its story as it is. -/
theorem Story.other {p : Phase} (story : Story a k ls n x c p) (run : play a {} ls = some s)
    (hl : step a s l = some t) (other : l.isTask k = false) (path : x.Path n moves n' x') (apart : c.Apart c') :
    Story a k (ls ++ [l]) n' x' c' p := by
  have same : told a k {} (ls ++ [l]) = told a k {} ls := by
    rw [told_concat run hl, noted_other other, List.append_nil]
  have gone : ∀ {reason tail}, Removed a k ls x reason tail → Removed a k (ls ++ [l]) x' reason tail := by
    intro reason tail h
    have on := h.on run hl path
    rwa [noted_other other, List.append_nil] at on
  cases p with
  | opening => exact same.trans story
  | greeting =>
    simp only [Story, same, path.id_eq]
    exact story
  | waiting | responding | pausing | joining =>
    simp only [Story, same]
    exact Serving.on story path
  | handling w =>
    obtain ⟨trace, m, notes, attribute?, serving, he, ran⟩ := story
    simp only [Story, same, path.id_eq]
    exact ⟨trace, m, notes, attribute?, serving.on path, he, ran⟩
  | timingOut =>
    obtain ⟨serving, warrant⟩ := story
    simp only [Story, same]
    exact ⟨serving.on path, warrant.mono path apart⟩
  | failing e =>
    obtain ⟨warrant, trace, serving, he⟩ := story
    simp only [Story, same, path.id_eq]
    exact ⟨warrant.mono path apart, trace, serving.on path, he⟩
  | leaving reason =>
    obtain ⟨e, hr, warrant, trace, serving, he⟩ := story
    simp only [Story, same, path.id_eq]
    exact ⟨e, hr, warrant.mono path apart, trace, serving.on path, he⟩
  | parting reason => exact gone story
  | closing reason =>
    simp only [Story, path.id_eq]
    exact gone story
  | shuttingDown u =>
    obtain ⟨reserved, hu, reason, removed⟩ := story
    simp only [Story, path.id_eq]
    exact ⟨path.reserved hu reserved, Nat.lt_of_lt_of_le hu path.tickets_le, reason, gone removed⟩
  | ended =>
    obtain ⟨released, reason, removed⟩ := story
    simp only [Story, path.id_eq]
    exact ⟨path.released released, reason, gone removed⟩
  | aborted => trivial

theorem Serving.round {trace : List Record} {m : Bytes} {notes : List Note} {attribute? : String → Option Typed}
    {o : Outcome (Option Bytes)} (h : Serving a x trace)
    (ran : (a.handler { session := x.id, message := m, attribute? }).Runs notes (.done o)) :
    Serving a x (trace ++ messageEvent x.id m :: notes.map .note) := by
  obtain ⟨rounds, all, rfl⟩ := h
  refine ⟨rounds ++ [⟨m, notes⟩], fun r hr => ?_, ?_⟩
  · rcases List.mem_append.mp hr with hr | hr
    · exact all r hr
    · obtain rfl := List.mem_singleton.mp hr
      exact ⟨attribute?, o, ran⟩
  · simp [served, Round.records, List.flatMap_append]

theorem mem_of_result {h : Hub} {i : Ticket} {r : Except SendError Unit} (hx : h.session? k = some x)
    (hr : h.result? k i = some r) : (i, r) ∈ x.lane.results := by
  simp only [Hub.result?, hx, Option.bind_some] at hr
  exact Lane.mem_of_result hr

theorem Story.pause (a : Application) (h : Hub) (serving : Serving a x (told a k {} ls)) :
    Story a k ls n x c (Connection.pause a h) := by
  unfold Connection.pause
  split <;> exact serving

/-- A step of the task leads from one part of its story to the next. -/
theorem Story.task {h' : Hub} {records : List Record} (story : Story a k ls s.hub.tickets x c c.phase)
    (run : play a {} ls = some s) (hl : step a s (.task k) = some t) (hc : s.connection? k = some c)
    (hx : s.hub.session? k = some x) (standing : x.Standing s.hub.tickets)
    (effect : c.Effect a k x s.hub h' c' records) (same : noted k (.task k) s t = records)
    (hx' : h'.session? k = some x') : Story a k (ls ++ [.task k]) h'.tickets x' c' c'.phase := by
  obtain ⟨y, moves, hy, path⟩ := effect.leads.session k x hx
  obtain rfl : y = x' := Option.some.inj (hy.symm.trans hx')
  have more : told a k {} (ls ++ [.task k]) = told a k {} ls ++ records := by
    rw [told_concat run hl, same]
  have gone : ∀ {reason tail}, Removed a k ls x reason tail →
      Removed a k (ls ++ [.task k]) y reason (tail ++ records) := by
    intro reason tail h
    exact same ▸ h.on run hl path
  cases effect with
  | connect phase =>
    rw [phase] at story
    simp only [Story, more, path.id_eq]
    rw [story, List.nil_append]
  | greet phase =>
    rw [phase] at story
    simp only [Story, more]
    refine ⟨[], by simp, ?_⟩
    rw [greeting_eq path, story]
    simp [greeting, served]
  | receive m rest phase =>
    rw [phase] at story
    simp only [Story, more, path.id_eq]
    exact ⟨_, m, [], x.attribute?, Serving.on story path, rfl, .start⟩
  | drained phase =>
    rw [phase] at story
    simp only [Story, more, List.append_nil]
    exact Serving.on story path
  | cancel phase closed =>
    have serving : Serving a y (told a k {} ls) := by
      rcases phase with phase | phase <;> rw [phase] at story <;> exact Serving.on story path
    dsimp only
    split
    next idle =>
      simp only [Story, more, List.append_nil]
      exact ⟨serving, path.closed closed, path.closedIdle idle⟩
    · simp only [Story, more, List.append_nil]
      exact ⟨.cancelled, rfl, path.closed closed, _, serving, by simp [Ending.records]⟩
  | work w w' _ notes phase goesOn =>
    rw [phase] at story
    obtain ⟨trace, m, earlier, attribute?, serving, he, ran⟩ := story
    simp only [Story, more, path.id_eq]
    refine ⟨trace, m, earlier ++ notes, attribute?, serving.on path, ?_, Work.step_runs ran goesOn⟩
    rw [he]
    simp
  | silent w o phase finished =>
    rw [phase] at story
    obtain ⟨trace, m, notes, attribute?, serving, he, ran⟩ := story
    rw [Work.step_finished finished] at ran
    refine Story.pause a _ ?_
    rw [more, List.append_nil, he]
    exact (serving.round ran).on path
  | answer w r phase finished =>
    rw [phase] at story
    obtain ⟨trace, m, notes, attribute?, serving, he, ran⟩ := story
    rw [Work.step_finished finished] at ran
    simp only [Story, more, List.append_nil, he]
    exact (serving.round ran).on path
  | answered i deadline phase =>
    rw [phase] at story
    refine Story.pause a _ ?_
    rw [more, List.append_nil]
    exact Serving.on story path
  | refused i deadline phase result =>
    rw [phase] at story
    have closed : x.closed = true := standing.quit (.inr (.inr ⟨i, mem_of_result hx result⟩))
    simp only [Story, more, List.append_nil]
    exact ⟨.cancelled, rfl, path.closed closed, _, Serving.on story path, by simp [Ending.records]⟩
  | broken i deadline reason _ phase why =>
    rw [phase] at story
    simp only [Story, more, ← path.id_eq]
    exact ⟨.broken reason, rfl, trivial, _, Serving.on story path, rfl⟩
  | wake time phase =>
    rw [phase] at story
    simp only [Story, more, List.append_nil]
    exact Serving.on story path
  | complete phase status =>
    rw [phase] at story
    have kept : c.pump.abort.status = .ended (.ok ()) := by rw [abort_pump status, status]
    simp only [Story, more, List.append_nil]
    exact ⟨.complete, rfl, kept, _, Serving.on story path, by simp [Ending.records]⟩
  | corrupt e phase status =>
    rw [phase] at story
    simp only [Story, more, ← path.id_eq]
    exact ⟨status, _, Serving.on story path, rfl⟩
  | timeout phase =>
    rw [phase] at story
    obtain ⟨serving, closed, idle⟩ := story
    simp only [Story, more, ← path.id_eq]
    exact ⟨.timedOut, rfl, ⟨path.closed closed, path.closedIdle idle⟩, _, serving.on path, rfl⟩
  | fail e phase =>
    rw [phase] at story
    obtain ⟨status, trace, serving, he⟩ := story
    have kept : c.pump.abort.status = .ended (.error e) := by rw [abort_pump status, status]
    simp only [Story, more, he, ← path.id_eq]
    refine ⟨.corrupt e, rfl, kept, trace, serving.on path, ?_⟩
    simp [Ending.records]
  | leave reason phase =>
    rw [phase] at story
    obtain ⟨e, hr, warrant, trace, serving, he⟩ := story
    refine ⟨ls, [], s, x, c, e, rfl, run, hc, hx, phase, hr, warrant, ?_, ?_⟩
    · exact ⟨trace, serving.on path, by rw [he, path.id_eq]⟩
    · simp only [told, hl, same, List.append_nil]
  | part reason phase =>
    rw [phase] at story
    simp only [Story, path.id_eq]
    exact gone story
  | close reason phase =>
    rw [phase] at story
    have new : ¬ x.lane.Names s.hub.tickets := fun named => Nat.lt_irrefl _ (standing.below _ named)
    refine ⟨Hub.closeAsync_reserved s.hub k hx new hx', ?_, reason, ?_⟩
    · rw [Hub.request_tickets]
      exact Nat.lt_succ_self _
    · rw [farewell, path.id_eq]
      exact gone story
  | finish i phase done =>
    rw [phase] at story
    obtain ⟨reserved, -, reason, removed⟩ := story
    obtain ⟨r, hr⟩ := Option.isSome_iff_exists.mp done
    have released : x.lane.released = true := reserved.result r (mem_of_result hx hr)
    refine ⟨path.released released, reason, ?_⟩
    rw [path.id_eq]
    simpa using gone removed

/-- What the task of session `k` has told, before there is such a session and then. -/
structure Told (a : Application) (k : SessionKey) (ls : List Label) (t : State) : Prop where
  before : t.connections.length ≤ k → told a k {} ls = []
  story : ∀ c x, t.connection? k = some c → t.hub.session? k = some x → Story a k ls t.hub.tickets x c c.phase

theorem Told.apart (h : Told a k ls s) (run : play a {} ls = some s) (hl : step a s l = some t)
    (other : l.isTask k = false) (apart : s.Apart t) : Told a k (ls ++ [l]) t := by
  constructor
  · intro absent
    rw [apart.length] at absent
    rw [told_concat run hl, noted_other other, List.append_nil]
    exact h.before absent
  · intro c' x' hc' hx'
    have bound : k < s.connections.length := by
      rw [← apart.length]
      exact (List.getElem?_eq_some_iff.mp hc').1
    have hc : s.connection? k = some s.connections[k] := List.getElem?_eq_getElem bound
    obtain ⟨d, hd, kept⟩ := apart.connection k _ hc
    obtain rfl : d = c' := Option.some.inj (hd.symm.trans hc')
    obtain ⟨x, moves, hx, path⟩ := apart.hub.session_back hx'
    have story := (h.story _ x hc hx).other run hl other path kept
    rcases kept.phase with same | ⟨-, aborted⟩
    · rwa [same]
    · rw [aborted]
      trivial

theorem Told.enroll (h : Told a k ls s) (run : play a {} ls = some s) (hl : step a s l = some t)
    (other : l.isTask k = false) (change : s.Change a l t) (paired : s.connections.length = s.hub.sessions.length)
    (added : t.connections = s.connections ++ [admitted a.settings]) : Told a k (ls ++ [l]) t := by
  have same : told a k {} (ls ++ [l]) = told a k {} ls := by
    rw [told_concat run hl, noted_other other, List.append_nil]
  constructor
  · intro absent
    rw [added, List.length_append] at absent
    rw [same]
    exact h.before (Nat.le_trans (Nat.le_add_right _ _) absent)
  · intro c x' hc hx'
    rw [State.connection?, added] at hc
    rcases change.session_back hx' with ⟨x, moves, hx, path⟩ | ⟨last, -⟩
    · have bound : k < s.connections.length := by
        rw [paired]
        exact (List.getElem?_eq_some_iff.mp hx).1
      rw [List.getElem?_append_left bound] at hc
      exact (h.story c x hc hx).other run hl other path (.refl c)
    · rw [← paired] at last
      subst last
      rw [List.getElem?_concat_length] at hc
      obtain rfl := Option.some.inj hc
      exact same.trans (h.before (Nat.le_refl _))

section Task

variable {j : SessionKey} {h' : Hub} {records : List Record}

/-- The state after a step of the task of connection `j`. -/
def State.afterTask (s : State) (j : SessionKey) (h' : Hub) (c' : Connection) (records : List Record) : State :=
  { s with hub := h', connections := s.connections.set j c', journal := s.journal ++ records }

theorem Told.task (h : Told a k ls s) (run : play a {} ls = some s) (standing : s.Standing)
    (hl : step a s (.task k) = some (s.afterTask k h' c' records)) (hc : s.connection? k = some c)
    (hx : s.hub.session? k = some x) (effect : c.Effect a k x s.hub h' c' records) :
    Told a k (ls ++ [.task k]) (s.afterTask k h' c' records) := by
  have present : k < s.connections.length := (List.getElem?_eq_some_iff.mp hc).1
  constructor
  · intro absent
    rw [State.afterTask, List.length_set] at absent
    exact absurd present (Nat.not_lt.mpr absent)
  · intro d y hd hy
    obtain rfl : c' = d := Option.some.inj ((List.getElem?_set_self present).symm.trans hd)
    have same : noted k (.task k) s (s.afterTask k h' c' records) = records := by
      simp [noted, Label.isTask, State.afterTask]
    exact (h.story c x hc hx).task run hl hc hx (standing.session k x hx) effect same hy

theorem Told.elsewhere (h : Told a k ls s) (run : play a {} ls = some s)
    (hl : step a s (.task j) = some (s.afterTask j h' c' records)) (other : j ≠ k)
    (effect : c.Effect a j x s.hub h' c' records) : Told a k (ls ++ [.task j]) (s.afterTask j h' c' records) := by
  have silent : (Label.task j).isTask k = false := isTask_false (by simpa using other)
  constructor
  · intro absent
    rw [State.afterTask, List.length_set] at absent
    rw [told_concat run hl, noted_other silent, List.append_nil]
    exact h.before absent
  · intro d y hd hy
    rw [State.connection?, State.afterTask, List.getElem?_set_ne other] at hd
    obtain ⟨y', moves, hy', path⟩ := effect.leads.session_back hy
    exact (h.story d y' hd hy').other run hl silent path (.refl d)

end Task

theorem play_told (run : play a {} ls = some t) : Told a k ls t := by
  induction ls using List.reverseRecOn generalizing t with
  | nil =>
    obtain rfl := Option.some.inj run
    exact ⟨fun _ => rfl, fun c x hc _ => by cases hc⟩
  | append_singleton ls l ih =>
    obtain ⟨s, hs, hl⟩ := play_concat.mp run
    have before := ih hs
    have standing := play_standing hs
    have change := step_change hl
    cases change with
    | apart _ other apart => exact before.apart hs hl (isTask_false (other k)) apart
    | enroll => exact before.enroll hs hl rfl (step_change hl) standing.paired rfl
    | task j c c' x h' records hc hx effect =>
      by_cases e : j = k
      · subst e
        exact before.task hs standing hl hc hx effect
      · exact before.elsewhere hs hl e effect

end FrameServer.Server
