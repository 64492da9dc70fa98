import FrameServer.Proofs.Server.Loops
import FrameServer.Proofs.Server.Membership
import FrameServer.Proofs.Session.Sending

namespace FrameServer

/-- The next action of the handler is a broadcast. -/
def Work.isBroadcast (w : Work) : Bool :=
  match w.script, w.wait with
  | .act (.broadcast _) _, none => true
  | _, _ => false

/-- What the sessions other than `k` have of the hub is the same. -/
structure Hub.KeepsOthers (k : SessionKey) (h h' : Hub) : Prop where
  clock : h'.clock = h.clock
  session : ∀ j, j ≠ k → h'.session? j = h.session? j
  pipe : ∀ j, j ≠ k → h'.pipe j = h.pipe j
  registry : h'.registry.entries.filter (·.2 ≠ k) = h.registry.entries.filter (·.2 ≠ k)

namespace Hub

variable {h h' h'' : Hub} {j k : SessionKey}

theorem KeepsOthers.refl (h : Hub) : h.KeepsOthers k h := ⟨rfl, fun _ _ => rfl, fun _ _ => rfl, rfl⟩

theorem KeepsOthers.trans (a : h.KeepsOthers k h') (b : h'.KeepsOthers k h'') : h.KeepsOthers k h'' :=
  ⟨b.clock.trans a.clock, fun j e => (b.session j e).trans (a.session j e),
    fun j e => (b.pipe j e).trans (a.pipe j e), b.registry.trans a.registry⟩

theorem Steady.keepsOthers (steady : h.Steady h') (session : ∀ j, j ≠ k → h'.session? j = h.session? j) :
    h.KeepsOthers k h' :=
  ⟨steady.clock, session, fun j _ => steady.pipe j, by rw [steady.registry]⟩

variable (h) (k)

theorem keepsOthers_move (m : Session.Move) : h.KeepsOthers k (h.move k m) :=
  (h.steady_move k m).keepsOthers fun _ e => move_elsewhere (Ne.symm e) m

theorem keepsOthers_settle : h.KeepsOthers k (h.settle k) :=
  (h.steady_settle k).keepsOthers fun _ e => settle_elsewhere (Ne.symm e)

theorem keepsOthers_request (m : Ticket → Session.Move) : h.KeepsOthers k (h.request k m).2 :=
  (h.steady_request k m).keepsOthers fun _ e => request_elsewhere (Ne.symm e) m

theorem keepsOthers_giveUp (t : Ticket) : h.KeepsOthers k ((h.move k (.lane (.abandon t))).settle k) :=
  (h.keepsOthers_move k _).trans (keepsOthers_settle _ k)

theorem keepsOthers_setPipe (p : Pipe) : h.KeepsOthers k ((h.setPipe k p).settle k) := by
  have set : h.KeepsOthers k (h.setPipe k p) := by
    refine ⟨rfl, fun _ _ => rfl, fun j e => ?_, rfl⟩
    simp only [pipe, setPipe, List.getElem?_set_ne (Ne.symm e)]
  exact set.trans (keepsOthers_settle _ k)

end Hub

namespace Work

variable {h h' : Hub} {k : SessionKey}

theorem keepsOthers_begin {act : Action} (other : ∀ m, act ≠ .broadcast m) :
    h.KeepsOthers k ((begin h k act).elim (·.2.1) (·.1)) := by
  cases act with
  | send m => exact h.keepsOthers_request k (.send · m)
  | broadcast m => exact absurd rfl (other m)
  | close => exact h.keepsOthers_move k .close
  | closeIdle => exact h.keepsOthers_move k .closeIdle
  | closeAsync => exact h.keepsOthers_request k .closeAsync
  | setAttribute key v => exact h.keepsOthers_move k (.setAttribute key v)
  | getAttribute | sleep | note => exact .refl h

theorem keepsOthers_step {w w' : Work} {notes : List Note} (hw : w.step h k = .goesOn h' w' notes)
    (quiet : w.isBroadcast = false) : h.KeepsOthers k h' := by
  rcases step_hub hw with rfl | ⟨act, next, rfl, rfl⟩
  · exact .refl _
  · apply keepsOthers_begin
    rintro m rfl
    cases quiet

end Work

namespace Server

open Connection

/-- The session that a step belongs to: one that its peer makes, its connection, a call on it, or one of its tasks. -/
def Label.session? : Label → Option SessionKey
  | .arrive k _ | .finish k _ | .widen k _ | .fail k _ | .act k _ | .pump k _ | .task k => some k
  | _ => none

/-- The next step of the task of session `k` begins a broadcast. -/
def State.isBroadcast (s : State) (k : SessionKey) : Bool :=
  (s.connection? k).any fun c => match c.phase with
    | .handling w => w.isBroadcast
    | _ => false

/-- Only session `k` acts in these steps, and its handler does not begin a broadcast in any of them. -/
def actsAlone (a : Application) (k : SessionKey) : State → List Label → Bool
  | _, [] => true
  | s, l :: ls =>
    l.session? = some k && !(l.isTask k && s.isBroadcast k) && (step a s l).all fun t => actsAlone a k t ls

namespace State

/-- What the others have is the same before and after steps of session `k`. -/
structure KeepsOthers (k : SessionKey) (s t : State) : Prop where
  /-- Their sessions with their attributes, their flags and the bytes on their wires; their place in the registry. -/
  hub : s.hub.KeepsOthers k t.hub
  /-- Their tasks, the frames that wait for them, and what their decoders hold. -/
  connection : ∀ j, j ≠ k → t.connection? j = s.connection? j
  /-- The loops, the signal, the monitors and the stops. -/
  server : t = { s with hub := t.hub, connections := t.connections, journal := t.journal }
  journal : s.journal <+: t.journal

/-- Session `k` acted, and the others and the accept loops go on as if it had not. -/
structure Isolated (a : Application) (k : SessionKey) (s t : State) : Prop where
  others : s.KeepsOthers k t
  registered : ∀ j, j ≠ k → (j ∈ t.hub.registry.keys ↔ j ∈ s.hub.registry.keys)
  loops : t.loops = s.loops ∧ t.running = s.running
  /-- A loop that could admit a connection still can. -/
  admits : ∀ i id peer, s.Admits a i id peer → t.Admits a i id peer

variable {a : Application} {k : SessionKey} {s t u : State} {l : Label}

theorem KeepsOthers.refl (s : State) : s.KeepsOthers k s := ⟨.refl _, fun _ _ => rfl, rfl, List.prefix_rfl⟩

theorem KeepsOthers.trans (h : s.KeepsOthers k t) (i : t.KeepsOthers k u) : s.KeepsOthers k u := by
  refine ⟨h.hub.trans i.hub, fun j e => (i.connection j e).trans (h.connection j e), ?_, h.journal.trans i.journal⟩
  rw [i.server, h.server]

/-- A change of the hub, of connection `k` and of the journal. -/
theorem KeepsOthers.of_hub {h' : Hub} (c' : Connection) (records : List Record) (hub : s.hub.KeepsOthers k h') :
    s.KeepsOthers k (s.afterTask k h' c' records) :=
  ⟨hub, fun _ e => List.getElem?_set_ne (Ne.symm e), rfl, List.prefix_append _ _⟩

end State

variable {a : Application} {k : SessionKey} {s t u : State} {l : Label} {ls past : List Label} {x : Session}

section Step

/-- A session takes leave in its own name only. -/
theorem keepsOthers_remove (standing : s.Standing) (distinct : s.Distinct) (hx : s.hub.session? k = some x) :
    s.hub.KeepsOthers k { s.hub with registry := s.hub.registry.remove x.id } := by
  refine ⟨rfl, fun _ _ => rfl, fun _ _ => rfl, ?_⟩
  have own : ∀ p ∈ s.hub.registry.entries, p.2 ≠ k → p.1 ≠ x.id := by
    intro p hp other same
    obtain ⟨y, hy, hid⟩ := standing.registry p.1 p.2 hp
    exact other (distinct p.2 k y x hy hx (hid.trans same))
  rw [Registry.remove, List.filter_filter]
  apply List.filter_congr
  intro p hp
  by_cases other : p.2 = k
  · simp [other]
  · simp [other, own p hp other]

theorem Connection.Effect.keepsOthers {h h' : Hub} {c c' : Connection} {records : List Record}
    (e : c.Effect a k x h h' c' records) (quiet : ∀ w, c.phase = .handling w → w.isBroadcast = false)
    (remove : h.KeepsOthers k { h with registry := h.registry.remove x.id }) : h.KeepsOthers k h' := by
  cases e with
  | receive => exact h.keepsOthers_move k (.touch h.clock)
  | work w w' _ notes phase goesOn => exact Work.keepsOthers_step goesOn (quiet w phase)
  | answer _ r => exact h.keepsOthers_request k (.send · r)
  | broken t _ _ _ _ why =>
    cases why with
    | io => exact .refl h
    | late => exact h.keepsOthers_giveUp k t
  | leave => exact remove
  | close => exact h.keepsOthers_request k .closeAsync
  | _ => exact .refl h

theorem quiet_of_not_broadcast {c : Connection} (hc : s.connection? k = some c) (quiet : s.isBroadcast k = false)
    (w : Work) (phase : c.phase = .handling w) : w.isBroadcast = false := by
  simpa [State.isBroadcast, hc, phase] using quiet

theorem keepsOthers_step (h : step a s l = some t) (standing : s.Standing) (distinct : s.Distinct)
    (own : l.session? = some k) (quiet : l = .task k → s.isBroadcast k = false) : s.KeepsOthers k t := by
  have link (c' : Connection) : s.KeepsOthers k { s with connections := s.connections.set k c' } :=
    ⟨.refl _, fun _ e => List.getElem?_set_ne (Ne.symm e), rfl, List.prefix_rfl⟩
  have lane {h' : Hub} (hub : s.hub.KeepsOthers k h') : s.KeepsOthers k { s with hub := h' } :=
    ⟨hub, fun _ _ => rfl, rfl, List.prefix_rfl⟩
  cases step_turn h with
  | arrive | finish | pump =>
    obtain rfl := Option.some.inj own
    exact link _
  | widen | fail =>
    obtain rfl := Option.some.inj own
    exact lane (s.hub.keepsOthers_setPipe _ _)
  | act _ c =>
    obtain rfl := Option.some.inj own
    exact lane (s.hub.keepsOthers_request _ c.move)
  | task j c c' x h' records hc hx made =>
    obtain rfl := Option.some.inj own
    have remove := keepsOthers_remove standing distinct hx
    have hub := (step_effect made).keepsOthers (quiet_of_not_broadcast hc (quiet rfl)) remove
    exact .of_hub c' records hub
  | _ => cases own

/-- No session is admitted in a step of another one. -/
theorem distinct_step (h : step a s l = some t) (own : l.session? = some k) (distinct : s.Distinct) : t.Distinct := by
  have back {j : SessionKey} {x' : Session} (hj : t.hub.session? j = some x') :
      ∃ x, s.hub.session? j = some x ∧ x'.id = x.id := by
    cases step_change h with
    | apart _ _ apart =>
      obtain ⟨x, _, hx, path⟩ := apart.hub.session_back hj
      exact ⟨x, hx, path.id_eq⟩
    | enroll => cases own
    | task _ _ _ _ _ _ _ _ effect =>
      obtain ⟨x, _, hx, path⟩ := effect.leads.session_back hj
      exact ⟨x, hx, path.id_eq⟩
  intro i j x' y' hx' hy' same
  obtain ⟨x, hx, idx⟩ := back hx'
  obtain ⟨y, hy, idy⟩ := back hy'
  exact distinct i j x y hx hy (by rw [← idx, ← idy, same])

theorem size_step (h : step a s l = some t) (own : l.session? = some k) :
    t.hub.registry.size ≤ s.hub.registry.size := by
  have registered := step_registered h
  generalize t.hub.registry = r at registered ⊢
  cases registered with
  | same => exact Nat.le_refl _
  | leave => exact List.length_filter_le _ _
  | _ => cases own

end Step

/-- What steps of session `k` alone lead to. -/
theorem play_keepsOthers (standing : s.Standing) (distinct : s.Distinct) (own : actsAlone a k s ls = true)
    (run : play a s ls = some t) : s.KeepsOthers k t ∧ t.hub.registry.size ≤ s.hub.registry.size := by
  induction ls generalizing s with
  | nil =>
    obtain rfl := Option.some.inj run
    exact ⟨.refl s, Nat.le_refl _⟩
  | cons l ls ih =>
    obtain ⟨u, hu, run⟩ := Option.bind_eq_some_iff.mp run
    simp only [actsAlone, hu, Option.all_some, Bool.and_eq_true, decide_eq_true_eq] at own
    obtain ⟨⟨mine, silent⟩, rest⟩ := own
    have quiet : l = .task k → s.isBroadcast k = false := by
      rintro rfl
      simpa [Label.isTask] using silent
    obtain ⟨kept, size⟩ := ih (standing.step hu) (distinct_step hu mine distinct) rest run
    exact ⟨(keepsOthers_step hu standing distinct mine quiet).trans kept, size.trans (size_step hu mine)⟩

section Admitting

variable {i : Nat} {id : SessionId} {peer : String}

/-- A connection can be admitted through a loop that waits for one, by a server that is running and not full. -/
theorem of_admits (h : s.Admits a i id peer) : ∃ x, s.loops[i]? = some x ∧ x.ended = false ∧ x.holding = none ∧
    s.running = true ∧ s.lock = none ∧ s.hub.registry.size < a.settings.maxConnections := by
  obtain ⟨t, run, connections, -⟩ := h
  obtain ⟨u, hu, ht⟩ := Option.bind_eq_some_iff.mp run
  have ht : step a u (.enroll i) = some t := by simpa [play] using ht
  cases step_turn hu with
  | connect _ _ _ x hx live free =>
    refine ⟨x, hx, live, free, ?_⟩
    cases step_turn ht with
    | refuse => simp [State.setLoop] at connections
    | enroll _ _ _ _ _ _ unlocked running room => exact ⟨running, unlocked, room⟩

theorem State.KeepsOthers.admits (h : s.KeepsOthers k t) (size : t.hub.registry.size ≤ s.hub.registry.size)
    (admits : s.Admits a i id peer) : t.Admits a i id peer := by
  obtain ⟨x, hx, live, free, running, unlocked, room⟩ := of_admits admits
  have room : t.hub.registry.size < a.settings.maxConnections := Nat.lt_of_le_of_lt size room
  rw [h.server]
  exact admits_of_live id peer hx live free running unlocked room

end Admitting

theorem State.KeepsOthers.registered (h : s.KeepsOthers k t) {j : SessionKey} (other : j ≠ k) :
    j ∈ t.hub.registry.keys ↔ j ∈ s.hub.registry.keys := by
  have kept (r : Registry) : j ∈ r.keys ↔ j ∈ (r.entries.filter (·.2 ≠ k)).map Prod.snd := by
    simp only [Registry.keys, List.mem_map, List.mem_filter, decide_eq_true_eq]
    constructor
    · rintro ⟨p, hp, rfl⟩
      exact ⟨p, ⟨hp, other⟩, rfl⟩
    · rintro ⟨p, ⟨hp, -⟩, rfl⟩
      exact ⟨p, hp, rfl⟩
  rw [kept, kept, h.hub.registry]

/-- Whatever session `k` does and whatever becomes of it, short of a broadcast, the others do not notice. -/
theorem isolation (reached : play a {} past = some s) (distinct : s.Distinct) (own : actsAlone a k s ls = true)
    (run : play a s ls = some t) : s.Isolated a k t := by
  obtain ⟨others, size⟩ := play_keepsOthers (play_standing reached) distinct own run
  constructor
  · exact others
  · intro j other
    exact others.registered other
  · rw [others.server]
    exact ⟨rfl, rfl⟩
  · intro i id peer admits
    exact others.admits size admits

theorem distinct_of_nodup (once : (s.hub.sessions.map (·.id)).Nodup) : s.Distinct := by
  intro i j x y hx hy same
  have there {n : SessionKey} {z : Session} (hz : s.hub.session? n = some z) :
      (s.hub.sessions.map (·.id))[n]? = some z.id := by
    rw [List.getElem?_map, ← Hub.session?, hz, Option.map_some]
  have bound : i < (s.hub.sessions.map (·.id)).length := (List.getElem?_eq_some_iff.mp (there hx)).1
  exact (List.getElem?_inj bound once).mp (by rw [there hx, there hy, same])

/-- Two sessions, the second of which has a frame and a half. -/
def neighbours : List Label :=
  [.serve "127.0.0.1:7000" 7000, .connect 0 "r" "127.0.0.1:50000", .enroll 0, .connect 0 "s" "127.0.0.1:50001",
    .enroll 0, .task 0, .task 0, .task 1, .task 1, .arrive 1 (textBytes "hi\nhel"), .pump 1 (.read 6), .pump 1 .decode,
    .pump 1 .decode]

/-- The first of them fails, and is taken leave of. -/
def mishap : List Label :=
  [.arrive 0 (textBytes "ho\n"), .finish 0 (.failed "connection reset"), .pump 0 (.read 3), .pump 0 .decode,
    .pump 0 .decode, .pump 0 .finish] ++ List.replicate 9 (.task 0)

theorem isolation_mishap : ∃ s t c d, play quietServer {} neighbours = some s ∧ play quietServer s mishap = some t ∧
    s.Isolated quietServer 0 t ∧ t.connection? 0 = some c ∧ c.phase.isOver = true ∧ t.connection? 1 = some d ∧
    d.waiting.items = [textBytes "hi"] := by
  have before : (play quietServer {} neighbours).any (fun s =>
      decide (s.hub.sessions.map (·.id)).Nodup && actsAlone quietServer 0 s mishap) = true := by decide +kernel
  have after : ((play quietServer {} neighbours).bind (play quietServer · mishap)).any (fun t =>
      (t.connection? 0).any (·.phase.isOver) && (t.connection? 1).any (·.waiting.items = [textBytes "hi"])) = true := by
    decide +kernel
  obtain ⟨s, reached, fine⟩ := (Option.any_eq_true _ _).mp before
  obtain ⟨t, run, last⟩ := (Option.any_eq_true _ _).mp after
  rw [reached, Option.bind_some] at run
  simp only [Bool.and_eq_true, decide_eq_true_eq] at fine last
  obtain ⟨c, hc, finished⟩ := (Option.any_eq_true _ _).mp last.1
  obtain ⟨d, hd, unread⟩ := (Option.any_eq_true _ _).mp last.2
  have isolated := isolation reached (distinct_of_nodup fine.1) fine.2 run
  exact ⟨s, t, c, d, reached, run, isolated, hc, finished, hd, of_decide_eq_true unread⟩

end Server
end FrameServer
