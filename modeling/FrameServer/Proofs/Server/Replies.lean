import FrameServer.Proofs.Server.Abort
import FrameServer.Proofs.Server.Backpressure
import FrameServer.Proofs.Server.Exchange
import FrameServer.Proofs.Server.Outbound

namespace FrameServer

/-- What its lane has still to write. -/
def Session.unsent (x : Session) : Bytes := (x.lane.turn.map (·.2)).getD []

theorem Session.Idle.unsent {x : Session} (idle : x.Idle) : x.unsent = [] := by
  unfold Session.unsent
  rw [idle.1]
  rfl

namespace Server

open Connection

deriving instance DecidableEq for Lane

/-- The frame of a response, if there is one and it is not too large. -/
def reply (f : Framing) : Outcome (Option Bytes) → Bytes
  | .ok (some r) =>
    match f.encode r with
    | .ok frame => frame
    | .error _ => []
  | _ => []

def replies (f : Framing) (os : List (Outcome (Option Bytes))) : Bytes := os.flatMap (reply f)

namespace Connection

/-- The handler is at work and does not return in the next step. -/
def isAtWork (c : Connection) (k : SessionKey) (h : Hub) : Bool :=
  match c.phase with
  | .handling w => (w.step h k matches .goesOn _ _ _)
  | _ => false

/-- The response under way was cut off, as its connection failed. -/
def isCutOff (c : Connection) (k : SessionKey) (h : Hub) : Bool :=
  match c.phase with
  | .responding i _ => (h.result? k i matches some (.error (.frame (.io _))))
  | _ => false

end Connection

/-- A run in which nobody but the task of session `k` sends on it or closes it, not even its handler, and no response
fails or takes too long. -/
structure Undisturbed (a : Application) (k : SessionKey) (ls : List Label) : Prop where
  alone : ∀ before l after u v, ls = before ++ l :: after → play a {} before = some u → step a u l = some v →
    u.hub.session? k ≠ none → l.isNetwork k = false →
    (l = .task k → (u.connection? k).any (·.isAtWork k u.hub) = true) → v.outbound k = u.outbound k
  written : ∀ before after u c, ls = before ++ after → play a {} before = some u → u.connection? k = some c →
    c.isCutOff k u.hub = false
  timely : failures a k {} ls = []

variable {a : Application} {s t u v : State} {l : Label} {ls ms : List Label} {k : SessionKey} {c c' : Connection}
  {x x' : Session} {h h' : Hub} {records : List Record} {p : Pipe} {f : Framing} {os : List (Outcome (Option Bytes))}

theorem Undisturbed.part (h : Undisturbed a k ls) (part : ms <+: ls) : Undisturbed a k ms := by
  obtain ⟨rest, rfl⟩ := part
  constructor
  · intro before l after u v split
    refine h.alone before l (after ++ rest) u v ?_
    rw [split, List.append_assoc, List.cons_append]
  · intro before after u c split
    refine h.written before (after ++ rest) u c ?_
    rw [split, List.append_assoc]
  · have none := h.timely
    exact List.prefix_nil.mp (none ▸ gathered_grows (failed k) {} ms rest)

theorem replies_append (os : List (Outcome (Option Bytes))) (o : Outcome (Option Bytes)) :
    replies f (os ++ [o]) = replies f os ++ reply f o := by
  simp [replies]

/-- What the lane of a session has written, by where its task is. -/
def Lined (f : Framing) (p : Pipe) (os : List (Outcome (Option Bytes))) (x : Session) : Phase → Prop
  | .responding i _ => ∃ before r, os = before ++ [.ok (some r)] ∧ x.Alone p i r (replies f before)
  | .shuttingDown _ | .ended | .aborted => x.Idle ∧ x.lane.wire = replies f os
  | _ => x.closed = false ∧ x.Idle ∧ x.lane.wire = replies f os

section Lined

theorem Lined.congr {q : Phase} (lined : Lined f p os x q) (lane : x'.lane = x.lane) (closed : x'.closed = x.closed) :
    Lined f p os x' q := by
  have idle : x.Idle → x'.Idle := by
    unfold Session.Idle
    rw [lane]
    exact id
  cases q with
  | responding i deadline =>
    obtain ⟨before, r, split, alone⟩ := lined
    exact ⟨before, r, split, alone.congr lane closed⟩
  | shuttingDown | ended | aborted =>
    obtain ⟨rests, wire⟩ := lined
    exact ⟨idle rests, by rw [lane, wire]⟩
  | _ =>
    obtain ⟨unclosed, rests, wire⟩ := lined
    exact ⟨closed.trans unclosed, idle rests, by rw [lane, wire]⟩

/-- When a response is done, it was written whole, or is not written as it is too large. -/
theorem written_of_done {i : Ticket} {r before : Bytes} (alone : x.Alone p i r before) (framing : x.lane.framing = f)
    (done : x.lane.result? i ≠ none) (whole : ∀ reason, x.lane.result? i ≠ some (.error (.frame (.io reason)))) :
    x.closed = false ∧ x.Idle ∧ x.lane.wire = before ++ reply f (.ok (some r)) := by
  rcases alone.cases with ⟨_, _, -, -, -, -, -, unknown, -⟩ |
    ⟨turn, queue, ⟨frame, encoded, wire, -⟩ | ⟨e, encoded, wire, -⟩ | ⟨-, reason, result⟩⟩
  · exact absurd unknown done
  · rw [framing] at encoded
    exact ⟨alone.unclosed, ⟨turn, queue⟩, by rw [wire, reply, encoded]⟩
  · rw [framing] at encoded
    refine ⟨alone.unclosed, ⟨turn, queue⟩, ?_⟩
    rw [wire, reply, encoded]
    exact (List.append_nil before).symm
  · exact absurd result (whole reason)

theorem uncut {i : Ticket} {deadline : Nat} (phase : c.phase = .responding i deadline) (whole : c.isCutOff k h = false)
    (hx : h.session? k = some x) (reason : String) : x.lane.result? i ≠ some (.error (.frame (.io reason))) := by
  intro result
  have found : h.result? k i = some (.error (.frame (.io reason))) := by rw [Hub.result?, hx, Option.bind_some, result]
  simp [isCutOff, phase, found] at whole

theorem Lined.pause {h : Hub} (unclosed : x.closed = false) (rests : x.Idle) (wire : x.lane.wire = replies f os) :
    Lined f p os x (Connection.pause a h) := by
  rcases pause_cases a h with paused | paused <;> rw [paused] <;> exact ⟨unclosed, rests, wire⟩

/-- A step of the task writes the response of the handler, and nothing else. -/
theorem Lined.task (lined : Lined a.framing (h.pipe k) os x c.phase) (hx : h.session? k = some x)
    (standing : x.Standing h.tickets) (unread : (h.pipe k).read = 0) (framing : x.lane.framing = a.framing)
    (whole : c.isCutOff k h = false) (timely : c.failure? k h = none)
    (made : c.step a k x h = some (h', c', records)) (hx' : h'.session? k = some x')
    (only : c.isAtWork k h = true → x'.lane = x.lane ∧ x'.closed = x.closed) :
    Lined a.framing (h.pipe k) (os ++ (c.outcome? k h).toList) x' c'.phase := by
  have read : (h.pipe k).read ≤ x.lane.wire.length := by
    rw [unread]
    exact Nat.zero_le _
  have stays {q : Phase} (silent : ∀ w, c.phase ≠ .handling w) (on : Lined a.framing (h.pipe k) os x' q) :
      Lined a.framing (h.pipe k) (os ++ (c.outcome? k h).toList) x' q := by
    rw [outcome_other silent, Option.toList_none, List.append_nil]
    exact on
  have same {y : Session} (hy : h.session? k = some y) : y = x := Option.some.inj (hy.symm.trans hx)
  have e := step_effect made
  cases e with
  | receive m rest phase =>
    rw [phase] at lined
    obtain rfl := Option.some.inj ((Hub.session_move h k hx rfl).symm.trans hx')
    exact stays (by simp [phase]) lined
  | work w w' _ notes phase goesOn =>
    rw [phase] at lined
    have busy : c.isAtWork k h = true := by simp [isAtWork, phase, goesOn]
    obtain ⟨lane, closed⟩ := only busy
    have on : c.outcome? k h = none := by rw [outcome_handling phase, goesOn]
    rw [on, Option.toList_none, List.append_nil]
    have kept : Lined a.framing (h.pipe k) os x' (.handling w) := lined.congr lane closed
    exact kept
  | silent w o phase finished none =>
    rw [phase] at lined
    obtain rfl := same hx'
    obtain ⟨unclosed, rests, wire⟩ := lined
    have out : c.outcome? k h = some o := by rw [outcome_handling phase, finished]
    have nothing : reply a.framing o = [] := by
      unfold reply
      split
      next r => exact absurd rfl (none r)
      · rfl
    rw [out]
    refine Lined.pause unclosed rests ?_
    rw [wire, Option.toList_some, replies_append, nothing, List.append_nil]
  | answer w r phase finished =>
    rw [phase] at lined
    obtain ⟨unclosed, rests, wire⟩ := lined
    have out : c.outcome? k h = some (.ok (some r)) := by rw [outcome_handling phase, finished]
    obtain ⟨y, hy, alone⟩ := Hub.send_alone (m := r) hx rests unclosed standing read
    obtain rfl := Option.some.inj (hy.symm.trans hx')
    rw [wire] at alone
    rw [out]
    exact ⟨os, r, rfl, alone⟩
  | answered i deadline phase =>
    rw [phase] at lined
    obtain rfl := same hx'
    obtain ⟨before, r, rfl, alone⟩ := lined
    have done : x'.lane.result? i ≠ none := by
      intro unknown
      have result := result_of_pause phase made rfl
      rw [Hub.result?, hx, Option.bind_some, unknown] at result
      rcases result with known | ⟨e, known, -⟩ <;> cases known
    obtain ⟨unclosed, rests, wire⟩ := written_of_done alone framing done (uncut phase whole hx)
    refine stays (by simp [phase]) (Lined.pause unclosed rests ?_)
    rw [wire, replies_append]
  | refused i deadline phase result =>
    rw [phase] at lined
    obtain ⟨before, r, -, alone⟩ := lined
    have closed : x.closed = true := standing.quit (.inr (.inr ⟨i, mem_of_result hx result⟩))
    rw [alone.unclosed] at closed
    cases closed
  | broken i deadline reason _ phase why =>
    rw [failure_of_broken phase why] at timely
    cases timely
  | cancel phase closed =>
    rcases phase with phase | phase <;>
    · rw [phase] at lined
      rw [lined.1] at closed
      cases closed
  | close reason phase =>
    rw [phase] at lined
    obtain ⟨-, rests, wire⟩ := lined
    obtain ⟨y, hy, rests', wire', -⟩ := Hub.closeAsync_idle hx rests read
    obtain rfl := Option.some.inj (hy.symm.trans hx')
    exact stays (by simp [phase]) ⟨rests', wire'.trans wire⟩
  | leave reason phase =>
    rw [phase] at lined
    obtain rfl := same hx'
    exact stays (by simp [phase]) lined
  | connect phase | greet phase | drained phase | wake _ phase | complete phase | corrupt _ phase | timeout phase
  | fail _ phase | part _ phase | finish _ phase =>
    rw [phase] at lined
    obtain rfl := same hx'
    exact stays (by simp [phase]) lined

/-- The connection of a peer takes more or fails, and others do not come to this session. -/
theorem Lined.elsewhere (run : play a {} ls = some s) (hl : step a s l = some t) (other : l.isTask k = false)
    (hc : s.connection? k = some c) (hc' : t.connection? k = some c') (hx : s.hub.session? k = some x)
    (hx' : t.hub.session? k = some x') (lined : Lined a.framing (s.hub.pipe k) os x c.phase)
    (framing : x.lane.framing = a.framing) (whole : c.isCutOff k s.hub = false)
    (only : l.isNetwork k = false → t.outbound k = s.outbound k) :
    Lined a.framing (t.hub.pipe k) os x' c'.phase := by
  have rests (idle : x.Idle) : x'.lane = x.lane ∧ x'.closed = x.closed := by
    obtain ⟨y, hy, lane, closed⟩ := idle_step run hl hx idle only
    obtain rfl := Option.some.inj (hy.symm.trans hx')
    exact ⟨lane, closed⟩
  have resting (idle : x.Idle) : x'.Idle := by
    unfold Session.Idle
    rw [(rests idle).1]
    exact idle
  rcases phase_elsewhere hl other hc hc' with same | aborted
  · rw [same]
    cases hp : c.phase with
    | responding i deadline =>
      rw [hp] at lined
      obtain ⟨before, r, split, alone⟩ := lined
      obtain ⟨y, hy, alone'⟩ := alone_step run hl hx alone only
      obtain rfl := Option.some.inj (hy.symm.trans hx')
      exact ⟨before, r, split, alone'⟩
    | shuttingDown | ended | aborted =>
      rw [hp] at lined
      exact ⟨resting lined.1, by rw [(rests lined.1).1, lined.2]⟩
    | _ =>
      rw [hp] at lined
      obtain ⟨unclosed, idle, wire⟩ := lined
      exact ⟨(rests idle).2.trans unclosed, resting idle, by rw [(rests idle).1, wire]⟩
  · rw [aborted]
    cases hp : c.phase with
    | responding i deadline =>
      rw [hp] at lined
      obtain ⟨before, r, rfl, alone⟩ := lined
      have queue : x.lane.queue = [] := by
        rcases alone.cases with ⟨_, _, -, -, queue, -⟩ | ⟨-, queue, -⟩ <;> exact queue
      have out : ∀ job, (i, job) ∉ x.lane.queue := by
        intro job hj
        rw [queue] at hj
        cases hj
      have spent := spent_of_aborted hl other hc hp hc' aborted hx (play_asked run k c i deadline hc hp) out hx'
      have network : l.isNetwork k = false := by
        cases step_turn hl with
        | widen | fail =>
          obtain rfl := Option.some.inj (hc.symm.trans hc')
          rw [hp] at aborted
          cases aborted
        | _ => rfl
      obtain ⟨y, hy, lane, -⟩ := of_outbound (only network) hx
      obtain rfl := Option.some.inj (hy.symm.trans hx')
      have done : x.lane.result? i ≠ none := by
        rcases alone.cases with ⟨_, rest, -, turn, -⟩ |
          ⟨-, -, ⟨_, -, -, result⟩ | ⟨_, -, -, result⟩ | ⟨-, _, result⟩⟩
        · exact absurd (by rw [lane, turn]) (spent.turn rest)
        all_goals
          rw [result]
          exact Option.some_ne_none _
      obtain ⟨-, idle, wire⟩ := written_of_done alone framing done (uncut hp whole hx)
      exact ⟨resting idle, by rw [lane, wire, replies_append]⟩
    | shuttingDown | ended | aborted =>
      rw [hp] at lined
      exact ⟨resting lined.1, by rw [(rests lined.1).1, lined.2]⟩
    | _ =>
      rw [hp] at lined
      obtain ⟨-, idle, wire⟩ := lined
      exact ⟨resting idle, by rw [(rests idle).1, wire]⟩

theorem play_lined (run : play a {} ls = some t) (calm : Undisturbed a k ls) (hc : t.connection? k = some c)
    (hx : t.hub.session? k = some x) : Lined a.framing (t.hub.pipe k) (outcomes a k {} ls) x c.phase := by
  induction ls using List.reverseRecOn generalizing t c x with
  | nil =>
    obtain rfl := Option.some.inj run
    cases hc
  | append_singleton ls l ih =>
    obtain ⟨s, hs, hl⟩ := play_concat.mp run
    have standing := play_standing hs
    rw [outcomes, gathered_concat hs hl]
    cases hd : s.connection? k with
    | none =>
      obtain ⟨-, -, absent | added⟩ := step_unconnected hl hd
      · rw [absent] at hc
        cases hc
      obtain rfl := Option.some.inj (added.symm.trans hc)
      rw [gathered_unconnected hs hd, ofTask_unconnected hd]
      rcases (step_change hl).session_back hx with ⟨y, _, hy, -⟩ | ⟨-, id, peer, rfl⟩
      · rw [(session_none_iff standing).mpr hd] at hy
        cases hy
      · exact ⟨rfl, ⟨rfl, rfl⟩, rfl⟩
    | some d =>
      obtain ⟨y, hy⟩ := session_of_connection standing hd
      have before := ih hs (calm.part (List.prefix_append ls [l])) hd hy
      have framing := play_framing hs hy
      have whole := calm.written ls [l] s d rfl hs hd
      have there : s.hub.session? k ≠ none := by
        rw [hy]
        exact Option.some_ne_none y
      have only := calm.alone ls l [] s t rfl hs hl there
      cases task : l.isTask k with
      | false =>
        rw [ofTask_elsewhere task, Option.toList_none, List.append_nil]
        refine before.elsewhere hs hl task hd hc hy hx framing whole fun network => only network ?_
        rintro rfl
        simp [Label.isTask] at task
      | true =>
        obtain rfl := isTask_iff.mp task
        have none := calm.timely
        rw [failures_concat hs hl, failed_here hd, List.append_eq_nil_iff, Option.toList_eq_nil_iff] at none
        rw [pipe_step hs hl rfl hy, ofTask_here hd]
        obtain ⟨y', h', records, hy', made, rfl⟩ := own_step hl hd hc
        obtain rfl := Option.some.inj (hy.symm.trans hy')
        refine before.task hy (standing.session k y hy) (play_unread hs k) framing whole none.2 made hx fun busy => ?_
        obtain ⟨z, hz, lane, closed⟩ := of_outbound (only rfl fun _ => by rw [hd, Option.any_some, busy]) hy
        obtain rfl := Option.some.inj (hz.symm.trans hx)
        exact ⟨lane, closed⟩

/-- While messages are handled the session is open. -/
theorem Lined.unclosed {q : Phase} (lined : Lined f p os x q) (loop : q.inLoop = true) : x.closed = false := by
  cases q with
  | responding i deadline =>
    obtain ⟨_, _, -, alone⟩ := lined
    exact alone.unclosed
  | waiting | handling | pausing => exact lined.1
  | _ => cases loop

/-- What was written and what is still to be written are the responses, the last of which may be under way. -/
theorem Lined.wire {q : Phase} (lined : Lined f p os x q) (framing : x.lane.framing = f)
    (whole : ∀ i deadline reason, q = .responding i deadline →
      x.lane.result? i ≠ some (.error (.frame (.io reason)))) :
    x.lane.wire ++ x.unsent = replies f os ∧ (x.unsent ≠ [] → ∃ i deadline, q = .responding i deadline) := by
  have rests (idle : x.Idle) (wire : x.lane.wire = replies f os) :
      x.lane.wire ++ x.unsent = replies f os ∧ (x.unsent ≠ [] → ∃ i deadline, q = .responding i deadline) := by
    rw [idle.unsent, List.append_nil]
    exact ⟨wire, fun some => absurd rfl some⟩
  cases q with
  | responding i deadline =>
    refine ⟨?_, fun _ => ⟨i, deadline, rfl⟩⟩
    obtain ⟨before, r, rfl, alone⟩ := lined
    cases known : x.lane.result? i with
    | some result =>
      have done : x.lane.result? i ≠ none := by
        rw [known]
        exact Option.some_ne_none result
      obtain ⟨-, idle, wire⟩ := written_of_done alone framing done fun reason => whole i deadline reason rfl
      rw [idle.unsent, List.append_nil, wire, replies_append]
    | none =>
      rcases alone.cases with ⟨frame, rest, encoded, turn, -, wire, -⟩ |
        ⟨-, -, ⟨_, -, -, result⟩ | ⟨_, -, -, result⟩ | ⟨-, _, result⟩⟩
      · rw [framing] at encoded
        have unsent : x.unsent = rest := by rw [Session.unsent, turn]; rfl
        rw [unsent, wire, replies_append, reply, encoded]
      all_goals
        rw [known] at result
        cases result
  | shuttingDown | ended | aborted => exact rests lined.1 lined.2
  | _ => exact rests lined.2.1 lined.2.2

end Lined

/-- A task that leaves its loop for an error has not written a response. -/
theorem failure_of_error {i : Ticket} {deadline : Nat} (phase : c.phase = .responding i deadline)
    (made : c.step a k x h = some (h', c', records)) (left : c'.phase = .leaving .error) : c.failure? k h ≠ none := by
  have paused {d : Connection} (same : d.phase = Connection.pause a h) (left : d.phase = .leaving .error) : False := by
    rw [same] at left
    rcases pause_cases a h with waits | waits <;> rw [waits] at left <;> cases left
  simp only [Connection.step, phase, responded] at made
  split at made
  · obtain ⟨-, rfl, -⟩ := of_enter made
    exact (paused rfl left).elim
  · obtain ⟨-, rfl, -⟩ := of_conclude made
    cases left
  next reason result => simp [failure?, phase, result]
  · obtain ⟨-, rfl, -⟩ := of_enter made
    exact (paused rfl left).elim
  next result =>
    split at made
    next passed => simp [failure?, phase, result, passed]
    · cases made

/-- How the session stands when a message is handed over, in a step from `u` to `v` after the steps `before`. -/
structure Handover (a : Application) (k : SessionKey) (id : SessionId) (before : List Label) (l : Label) (u v : State)
    (m : Bytes) (y : Session) (d : Connection) : Prop where
  session : u.hub.session? k = some y
  connection : v.connection? k = some d
  /-- All others have been handled, -/
  handled : (handed a k {} before).Forall₂ (Produced a id) (outcomes a k {} before)
  /-- their responses are written or dropped, -/
  concluded : (conclusions a k {} before).length = (handed a k {} before).length
  wire : y.lane.wire = replies a.framing (outcomes a k {} before) ∧ y.unsent = []
  /-- and the task has paused since. -/
  paused : ∀ e ∈ conclusions a k {} before, e + a.settings.dispatchDelay ≤ u.hub.clock
  event : noted k l u v = [messageEvent id m]
  called : d.phase = .handling ⟨a.handler { session := id, message := m, attribute? := y.attribute? }, none⟩

/-- The exchanges of session `k` in a run that ends at `t`. -/
structure Exchanges (a : Application) (k : SessionKey) (ls : List Label) (t : State) (c : Connection) (x : Session) :
    Prop where
  /-- The handler ran on each message that was handed over, but for the last one maybe, on which it may be at work. -/
  handled : ∃ done pending, handed a k {} ls = done ++ pending ∧ done.Forall₂ (Produced a x.id) (outcomes a k {} ls) ∧
    pending.length ≤ 1 ∧ (pending ≠ [] → (∃ w, c.phase = .handling w) ∨ c.phase = .aborted)
  /-- The peer got the frames of the responses in their order, but for what is still to be written of the last. -/
  wire : x.lane.wire ++ x.unsent = replies a.framing (outcomes a k {} ls) ∧
    (x.unsent ≠ [] → ∃ i deadline, c.phase = .responding i deadline)
  /-- One message is handled at a time. -/
  turn : ∀ before l after u v m, ls = before ++ l :: after → play a {} before = some u → step a u l = some v →
    taken k u l = some m → ∃ y d, Handover a k x.id before l u v m y d
  /-- There is one event for each message that was handed over, which says how long it is, and no other. -/
  events : (told a k {} ls).filter (Record.isEvent .messageReceived) = (handed a k {} ls).map (messageEvent x.id)
  journal : (∀ j y, t.hub.session? j = some y → y.id = x.id → j = k) →
    (t.journal.filter (Record.concerns x.id)).filter (Record.isEvent .messageReceived) =
      (handed a k {} ls).map (messageEvent x.id)
  length : ∀ m, ∃ e : Event, messageEvent x.id m = .event e ∧ e.property? "length" = some (.int m.length)
  /-- Unless a response fails in the next step, whatever the handler returns does not end the session. -/
  lasts : ∀ v d, step a t (.task k) = some v → v.connection? k = some d → failed k t (.task k) = none →
    c.phase.inLoop = true → d.phase.inLoop = true ∨
      d.phase = .joining ∧ c.waiting.items = [] ∧ ∃ r, c.pump.status = .ended r

section Exchanges

theorem handover_of_taken {before after : List Label} {m : Bytes} (run : play a {} ls = some t)
    (calm : Undisturbed a k ls) (hx : t.hub.session? k = some x) (split : ls = before ++ l :: after)
    (hu : play a {} before = some u) (hv : step a u l = some v) (next : taken k u l = some m) :
    ∃ y d, Handover a k x.id before l u v m y d := by
  have own : l.isTask k = true := by
    cases own : l.isTask k with
    | true => rfl
    | false =>
      rw [taken_elsewhere own] at next
      cases next
  obtain rfl := isTask_iff.mp own
  obtain ⟨c, d, y, h', records, hc, hy, made, rfl⟩ := step_task.mp hv
  rw [taken_here hc hy] at next
  have later := play_rest (split ▸ run) hu
  obtain ⟨z, _, hz, path⟩ := play_session later hy
  obtain rfl := Option.some.inj (hz.symm.trans hx)
  have exchanged := play_exchanged hu hc hy
  have lined := play_lined hu (calm.part ⟨.task k :: after, split.symm⟩) hc hy
  rw [(next_eq_some.mp next).1] at exchanged lined
  obtain ⟨ran, past, passed⟩ := exchanged
  obtain ⟨-, idle, wire⟩ := lined
  obtain ⟨-, rfl, phase⟩ := called_of_next next made
  rw [path.id_eq]
  have written := And.intro wire idle.unsent
  refine ⟨y, d, hy, afterTask_connection hc, ran, past.trans ran.length_eq.symm, written, passed, ?_, phase⟩
  exact noted_afterTask

theorem concerns_messageEvent (id : SessionId) (m : Bytes) : (messageEvent id m).concerns id = true := by
  simp only [messageEvent, eventOf, Record.concerns, (Event.foldl_set _ _).2, beq_self_eq_true]

/-- What comes to the peer of a connection on which nobody but its task sends: the responses of its handler, each in a
frame of its own, in the order in which the messages were handled. -/
theorem exchanges (run : play a {} ls = some t) (hc : t.connection? k = some c) (hx : t.hub.session? k = some x)
    (calm : Undisturbed a k ls) : Exchanges a k ls t c x := by
  have standing := (play_standing run).session k x hx
  have exchanged := play_exchanged run hc hx
  have lined := play_lined run calm hc hx
  have told := told_messages run hx
  constructor
  · exact exchanged.pending
  · refine lined.wire (play_framing run hx) fun i deadline reason phase => ?_
    exact uncut phase (calm.written ls [] t c (List.append_nil ls).symm run hc) hx reason
  · intro before l after u v m split hu hv next
    exact handover_of_taken run calm hx split hu hv next
  · exact told
  · intro alone
    rw [journal_eq run x.id alone, List.filter_comm, told, List.filter_eq_self]
    intro r hr
    obtain ⟨m, -, rfl⟩ := List.mem_map.mp hr
    exact concerns_messageEvent x.id m
  · exact fun m => ⟨_, rfl, Json.lookup_insert _ _ _⟩
  · intro v d hv hd timely loop
    obtain ⟨y, h', records, hy, made, rfl⟩ := own_step hv hc hd
    obtain rfl := Option.some.inj (hx.symm.trans hy)
    rw [failed_here hc] at timely
    rcases loop_of_effect (step_effect made) standing hx (lined.unclosed loop) loop with on | joins | failed
    · exact .inl on
    · obtain ⟨empty, -, -, ended⟩ := joining_of_step made joins
      exact .inr ⟨joins, empty, ended⟩
    · obtain ⟨i, deadline, reason, phase, left, -⟩ := failed
      exact absurd timely (failure_of_error phase made left)

/-- Whether a run is undisturbed, as far as it can be seen step by step. -/
def isCalm (a : Application) (k : SessionKey) (s : State) : List Label → Bool
  | [] => (s.connection? k).all fun c => !c.isCutOff k s.hub
  | l :: ls => (s.connection? k).all (fun c => !c.isCutOff k s.hub) && (step a s l).all fun t =>
      ((s.hub.session? k).isNone || l.isNetwork k ||
        (l.isTask k && !(s.connection? k).any (·.isAtWork k s.hub)) || decide (t.outbound k = s.outbound k)) &&
      isCalm a k t ls

theorem isCalm_append (calm : isCalm a k s (ls ++ ms) = true) (run : play a s ls = some t) :
    isCalm a k t ms = true := by
  induction ls generalizing s with
  | nil =>
    obtain rfl := Option.some.inj run
    exact calm
  | cons l ls ih =>
    obtain ⟨u, hu, rest⟩ := Option.bind_eq_some_iff.mp run
    simp only [List.cons_append, isCalm, hu, Option.all_some, Bool.and_eq_true] at calm
    exact ih calm.2.2 rest

theorem undisturbed_of_isCalm (calm : isCalm a k {} ls = true) (timely : failures a k {} ls = []) :
    Undisturbed a k ls := by
  constructor
  · intro before l after u v split hu hv there network busy
    rw [split] at calm
    have here := isCalm_append calm hu
    simp only [isCalm, hv, Option.all_some, Bool.and_eq_true, Bool.or_eq_true, decide_eq_true_eq,
      Option.isNone_iff_eq_none, Bool.not_eq_true'] at here
    rcases here.2.1 with ((none | net) | ⟨own, idle⟩) | same
    · exact absurd none there
    · rw [network] at net
      cases net
    · rw [busy (isTask_iff.mp own)] at idle
      cases idle
    · exact same
  · intro before after u c split hu hc
    rw [split] at calm
    have here := isCalm_append calm hu
    cases after with
    | nil => simpa [isCalm, hc] using here
    | cons =>
      simp only [isCalm, hc, Option.all_some, Bool.and_eq_true, Bool.not_eq_true'] at here
      exact here.1
  · exact timely

/-- A handler that answers, does not answer, panics, or answers with more than fits. -/
def moody : Application where
  settings := { backpressureCapacity := 8, dispatchDelay := 10 }
  framing := { max := 4 }
  handler := fun r =>
    if r.message = textBytes "hi" then .done (.ok (some (textBytes "yes")))
    else if r.message = textBytes "hm" then .done (.ok none)
    else if r.message = textBytes "no" then .done (.panicked .other)
    else .done (.ok (some (textBytes "too long")))
  chain := .ofList []

def conversation : List Label :=
  [.serve "127.0.0.1:7000" 7000, .connect 0 "s" "127.0.0.1:50000", .enroll 0, .task 0, .task 0, .widen 0 6,
    .arrive 0 (textBytes "hi\nhm\nno\nall\nhi\n"), .pump 0 (.read 16)] ++ List.replicate 5 (.pump 0 .decode) ++
    [.task 0, .task 0, .task 0, .pass 10, .task 0, .task 0, .task 0, .pass 10, .task 0, .task 0, .task 0, .pass 10,
      .task 0, .task 0, .task 0, .task 0, .pass 10, .task 0, .task 0, .task 0]

/-- The second answer is under way, and there is no room for the whole of it yet. -/
theorem exchanges_conversation : ∃ t c x, play moody {} conversation = some t ∧ Exchanges moody 0 conversation t c x ∧
    x.lane.wire = textBytes "yes\nye" ∧ x.unsent = textBytes "s\n" := by
  have calm : Undisturbed moody 0 conversation := undisturbed_of_isCalm (by decide +kernel) (by decide +kernel)
  have there : ((play moody {} conversation).bind fun t => (t.connection? 0).bind fun _ => t.hub.session? 0).any
      (fun x => x.lane.wire = textBytes "yes\nye" ∧ x.unsent = textBytes "s\n") = true := by decide +kernel
  simp only [Option.any_eq_true, decide_eq_true_eq] at there
  obtain ⟨x, hx, written⟩ := there
  obtain ⟨t, run, hx⟩ := Option.bind_eq_some_iff.mp hx
  obtain ⟨c, hc, hx⟩ := Option.bind_eq_some_iff.mp hx
  exact ⟨t, c, x, run, exchanges run hc hx calm, written⟩

end Exchanges
end Server
end FrameServer
