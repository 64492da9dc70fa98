import FrameServer.Proofs.Server.Common
import FrameServer.Proofs.Server.Loops
import FrameServer.Server.Demand

namespace FrameServer.Server

variable {a : Application} {s t u : State} {l : Label} {ls : List Label} {d : Demand} {known kinds : List Event.Kind}
  {time horizon : Nat}

/-- Not asked for with a zero. -/
def Demand.Positive : Demand → Prop
  | channel room => 0 < room
  | ticker _ period => 0 < period

/-- What a server may want until a time: channels for its events, channels for the frames of its connections, and the
ticks of its monitors. -/
inductive Wants (a : Application) (time : Nat) : Demand → Prop
  | events : Wants a time (.channel (max a.eventBuffer 1))
  | frames : Wants a time (.channel (max a.settings.backpressureCapacity 1))
  | sweeps (now : Nat) (early : now ≤ time) :
      Wants a time (.ticker (now + a.settings.sweepInterval) a.settings.sweepInterval)

theorem Wants.later {later : Nat} (wants : Wants a time d) (le : time ≤ later) : Wants a later d := by
  cases wants with
  | events => exact .events
  | frames => exact .frames
  | sweeps now early => exact .sweeps now (early.trans le)

theorem wants_eventChannels (hd : d ∈ eventChannels a known kinds) : Wants a time d := by
  induction kinds generalizing known with
  | nil => cases hd
  | cons kind kinds ih =>
    unfold eventChannels at hd
    split at hd
    · exact ih hd
    · rcases List.mem_cons.mp hd with rfl | hd
      · exact .events
      · exact ih hd

theorem wants_asks (hd : d ∈ s.asks a l) : Wants a s.hub.clock d := by
  cases l with
  | serve address port =>
    obtain rfl := List.mem_singleton.mp hd
    exact .sweeps s.hub.clock (Nat.le_refl _)
  | task k =>
    simp only [State.asks] at hd
    split at hd
    · obtain rfl := List.mem_singleton.mp hd
      exact .frames
    · cases hd
  | _ => cases hd

/-- Nothing else is asked for along a run. -/
theorem wants_asked (run : play a s ls = some t) (hd : d ∈ asked a known s ls) : Wants a t.hub.clock d := by
  induction ls generalizing s known with
  | nil => cases hd
  | cons l ls ih =>
    obtain ⟨u, first, rest⟩ := Option.bind_eq_some_iff.mp run
    have before : s.hub.clock ≤ u.hub.clock := by
      rw [step_clock first]
      exact Nat.le_add_right _ _
    have after : u.hub.clock ≤ t.hub.clock := play_clock_le rest
    simp only [asked, first, List.mem_append] at hd
    rcases hd with (hd | hd) | hd
    · exact wants_eventChannels hd
    · exact (wants_asks hd).later (before.trans after)
    · exact ih rest hd

theorem wants_launched (run : play a {} ls = some t) (hd : d ∈ launched a known ls) : Wants a t.hub.clock d := by
  rcases List.mem_append.mp hd with hd | hd
  · exact wants_eventChannels hd
  · exact wants_asked run hd

theorem mem_asked_last (known : List Event.Kind) (run : play a s ls = some t) (last : step a t l = some u)
    (hd : d ∈ t.asks a l) : d ∈ asked a known s (ls ++ [l]) := by
  induction ls generalizing s known with
  | nil =>
    obtain rfl := Option.some.inj run
    simp [asked, last, hd]
  | cons m ls ih =>
    obtain ⟨v, first, rest⟩ := Option.bind_eq_some_iff.mp run
    have there := ih (known ++ (v.journal.drop s.journal.length).filterMap Record.kind?) rest
    simp only [List.cons_append, asked, first]
    exact List.mem_append_right _ there

/-- A kind that comes has a channel in the end. -/
theorem mem_eventChannels {kind : Event.Kind} (fresh : kind ∉ known) (comes : kind ∈ kinds) :
    .channel (max a.eventBuffer 1) ∈ eventChannels a known kinds := by
  induction kinds with
  | nil => cases comes
  | cons other kinds ih =>
    unfold eventChannels
    split
    next there =>
      have ne : kind ≠ other := fun same => fresh (same ▸ there)
      exact ih (List.mem_of_ne_of_mem ne comes)
    · exact List.mem_cons_self

theorem play_still (run : play a s ls = some t) (still : ∀ l ∈ ls, l.passes = 0) : t.hub.clock = s.hub.clock := by
  induction ls generalizing s with
  | nil =>
    obtain rfl := Option.some.inj run
    rfl
  | cons l ls ih =>
    obtain ⟨u, first, rest⟩ := Option.bind_eq_some_iff.mp run
    obtain ⟨now, later⟩ := List.forall_mem_cons.mp still
    rw [ih rest later, step_clock first, now, Nat.add_zero]

/-- A server that begins to serve at some time. -/
theorem serves (a : Application) (now : Nat) : ∃ s t, play a {} [.pass now] = some s ∧ s.hub.clock = now ∧
    step a s (.serve "127.0.0.1" 7070) = some t ∧ t.hub.clock = now ∧ t.running = true ∧ t.lock = none ∧
    t.loops = [{ address := "127.0.0.1", port := 7070, seen := 1 }] ∧ t.connections = [] ∧ t.hub.registry.size = 0 :=
  ⟨_, _, rfl, Nat.zero_add now, rfl, Nat.zero_add now, rfl, rfl, rfl, rfl, rfl⟩

/-- The channel of the first event and the ticks of the first monitor are asked for, whenever the server begins to
serve. -/
theorem serving_asks (a : Application) (listening : List Event.Kind) (now : Nat) :
    ∃ ls t, play a {} ls = some t ∧ t.hub.clock = now ∧
      .channel (max a.eventBuffer 1) ∈ launched a listening ls ∧
      .ticker (now + a.settings.sweepInterval) a.settings.sweepInterval ∈ launched a listening ls := by
  obtain ⟨s, t, passed, clock, served, still, -⟩ := serves a now
  refine ⟨[.pass now] ++ [.serve "127.0.0.1" 7070], t, play_concat.mpr ⟨s, passed, served⟩, still, ?_, ?_⟩
  · by_cases heard : .serverStart ∈ listening
    · exact List.mem_append_left _ (mem_eventChannels List.not_mem_nil heard)
    · have made : asked a listening {} ([.pass now] ++ [.serve "127.0.0.1" 7070]) =
          eventChannels a (listening ++ []) [.serverStart] ++
            [.ticker (0 + now + a.settings.sweepInterval) a.settings.sweepInterval] ++ [] := rfl
      rw [List.append_nil, List.append_nil] at made
      refine List.mem_append_right _ ?_
      rw [made]
      exact List.mem_append_left _ (mem_eventChannels heard (List.mem_singleton_self _))
  · have asks : .ticker (now + a.settings.sweepInterval) a.settings.sweepInterval ∈
        s.asks a (.serve "127.0.0.1" 7070) := by
      rw [← clock]
      exact List.mem_singleton_self _
    exact List.mem_append_right _ (mem_asked_last listening passed served asks)

/-- A connection that was admitted is announced, and then greeted. -/
theorem greets (standing : s.Standing) {k : SessionKey} {c : Connection} (hc : s.connection? k = some c)
    (phase : c.phase = .opening) : ∃ t u, step a s (.task k) = some t ∧
      t.connection? k = some { c with phase := .greeting } ∧ step a t (.task k) = some u := by
  obtain ⟨x, hx⟩ := session_of_connection standing hc
  let hooks := Connection.hooks a x.id .connect
  have announced : c.step a k x s.hub = some (s.hub, { c with phase := .greeting }, hooks) := by
    simp [Connection.step, phase, Connection.enter, hooks]
  let t := s.afterTask k s.hub { c with phase := .greeting } hooks
  have greeting : t.connection? k = some { c with phase := .greeting } := afterTask_connection hc
  have first : step a s (.task k) = some t := step_task.mpr ⟨c, _, x, _, _, hc, hx, announced, rfl⟩
  have second := step_task (a := a).mpr ⟨_, _, x, _, _, greeting, hx, rfl, rfl⟩
  exact ⟨t, _, first, greeting, second⟩

/-- The channel of a connection's frames is asked for if there is room for a connection. -/
theorem greeting_asks (room : 0 < a.settings.maxConnections) (listening : List Event.Kind) :
    ∃ ls t, play a {} ls = some t ∧ t.hub.clock = 0 ∧
      .channel (max a.settings.backpressureCapacity 1) ∈ launched a listening ls := by
  obtain ⟨s, t, passed, -, served, -, running, unlocked, loops, unconnected, empty⟩ := serves a 0
  have begun := play_concat.mpr ⟨s, passed, served⟩
  have loop : t.loops[0]? = some { address := "127.0.0.1", port := 7070, seen := 1 } := by rw [loops]; rfl
  obtain ⟨u, admitted, connections, -⟩ :=
    admits_of_live (a := a) "a" "127.0.0.1:50000" loop rfl rfl running unlocked (by omega)
  have run := play_trans begun admitted
  have opening : u.connection? 0 = some (Connection.admitted a.settings) := by
    rw [State.connection?, connections, unconnected]
    rfl
  obtain ⟨v, w, announced, greeting, greeted⟩ := greets (a := a) (play_standing run) opening rfl
  have whole := play_concat.mpr ⟨u, run, announced⟩
  have last := play_concat.mpr ⟨v, whole, greeted⟩
  refine ⟨_, w, last, play_still last (by decide), List.mem_append_right _ (mem_asked_last listening whole greeted ?_)⟩
  simp [State.asks, greeting]

/-- What is asked for in the runs that take no longer than a time is just what the server wants until then. -/
theorem asked_iff (room : 0 < a.settings.maxConnections) (listening : List Event.Kind) :
    (∃ ls t, play a {} ls = some t ∧ t.hub.clock ≤ time ∧ d ∈ launched a listening ls) ↔ Wants a time d := by
  constructor
  · rintro ⟨ls, t, run, early, hd⟩
    exact (wants_launched run hd).later early
  · intro wants
    cases wants with
    | events =>
      obtain ⟨ls, t, run, clock, made, -⟩ := serving_asks a listening 0
      exact ⟨ls, t, run, by omega, made⟩
    | frames =>
      obtain ⟨ls, t, run, clock, made⟩ := greeting_asks room listening
      exact ⟨ls, t, run, by omega, made⟩
    | sweeps now early =>
      obtain ⟨ls, t, run, clock, -, made⟩ := serving_asks a listening now
      exact ⟨ls, t, run, by omega, made⟩

end FrameServer.Server
