import FrameServer.Proofs.Server.Lifecycle
import FrameServer.Proofs.Server.Turn

namespace FrameServer.Server

/-- The loop whose own step it is. -/
def Label.loop? : Label → Option Nat
  | .connect i _ _ | .lose i _ | .poll i | .enroll i => some i
  | _ => none

/-- The newest value of the signal after these steps, if it was `before`. -/
def newest (before : Bool) (ls : List Label) : Bool := (ls.filterMap Label.signal?).getLast?.getD before

/-- The sessions and their connections are as they were. -/
def State.NoneAdmitted (s t : State) : Prop := t.connections = s.connections ∧ t.hub = s.hub

/-- Loop `i` takes a connection from its listener and gets it admitted. -/
def State.Admits (a : Application) (s : State) (i : Nat) (id : SessionId) (peer : String) : Prop :=
  ∃ t, play a s [.connect i id peer, .enroll i] = some t ∧
    t.connections = s.connections ++ [Connection.admitted a.settings] ∧
    t.hub.registry = s.hub.registry.insert id s.hub.sessions.length ∧ t.loops = s.loops

variable {a : Application} {s t u : State} {l : Label} {ls ms : List Label} {i : Nat} {x : AcceptLoop}

theorem newest_cons (before : Bool) : newest before (l :: ls) = newest (l.signal?.getD before) ls := by
  unfold newest
  cases hl : l.signal? with
  | none => rw [List.filterMap_cons_none hl, Option.getD_none]
  | some value => rw [List.filterMap_cons_some hl, List.getLast?_cons, Option.getD_some, Option.getD_some]

theorem play_shutdown (h : play a s ls = some t) : t.shutdown = newest s.shutdown ls := by
  induction ls generalizing s with
  | nil =>
    obtain rfl := Option.some.inj h
    rfl
  | cons l ls ih =>
    obtain ⟨u, hu, h⟩ := Option.bind_eq_some_iff.mp h
    rw [ih h, newest_cons, (step_signals hu).1]

theorem play_signals_le (h : play a s ls = some t) : s.signals ≤ t.signals := by
  refine play_invariant (P := fun u => s.signals ≤ u.signals) (fun hl le => ?_) h (Nat.le_refl _)
  rw [(step_signals hl).2.1]
  exact Nat.le_add_right_of_le le

/-- What a step does to an accept loop. -/
inductive AcceptLoop.Change (s : State) (i : Nat) (x : AcceptLoop) : Label → AcceptLoop → Prop
  | other (l : Label) (other : l.loop? ≠ some i) : Change s i x l x
  | connect (id : SessionId) (peer : String) (live : x.ended = false) (free : x.holding = none) :
      Change s i x (.connect i id peer) { x with holding := some (id, peer) }
  | lose (reason : String) (live : x.ended = false) (free : x.holding = none) :
      Change s i x (.lose i reason) { x with ended := true }
  | poll (live : x.ended = false) (free : x.holding = none) (changed : x.seen ≠ s.signals) :
      Change s i x (.poll i) { x with seen := s.signals, ended := s.shutdown }
  | enroll (holding : x.holding ≠ none) : Change s i x (.enroll i) { x with holding := none }

/-- A step changes the loop whose own it is, and no other. -/
theorem change_of_set {j : Nat} {y : AcceptLoop} {y' : AcceptLoop} (hx : s.loops[i]? = some x)
    (hy : s.loops[j]? = some y) (own : l.loop? = some j) (change : AcceptLoop.Change s j y l y') :
    ∃ x', (s.loops.set j y')[i]? = some x' ∧ AcceptLoop.Change s i x l x' := by
  have bound : j < s.loops.length := (List.getElem?_eq_some_iff.mp hy).1
  by_cases e : j = i
  · subst e
    obtain rfl : x = y := Option.some.inj (hx.symm.trans hy)
    exact ⟨y', List.getElem?_set_self bound, change⟩
  · refine ⟨x, (List.getElem?_set_ne e).trans hx, .other l ?_⟩
    rw [own]
    simpa using e

theorem step_loop (h : step a s l = some t) (hx : s.loops[i]? = some x) :
    ∃ x', t.loops[i]? = some x' ∧ AcceptLoop.Change s i x l x' := by
  have bound : i < s.loops.length := (List.getElem?_eq_some_iff.mp hx).1
  cases step_turn h with
  | connect j id peer y hy live free => exact change_of_set hx hy rfl (.connect id peer live free)
  | lose j reason y hy live free =>
    simp only [State.record, State.stopMonitor_loops, State.setLoop]
    exact change_of_set hx hy rfl (.lose reason live free)
  | poll j y hy live free changed => exact change_of_set hx hy rfl (.poll live free changed)
  | refuse j y hy held holding => exact change_of_set hx hy rfl (.enroll (by simp [holding]))
  | enroll j y hy id peer holding => exact change_of_set hx hy rfl (.enroll (by simp [holding]))
  | serve => exact ⟨x, (List.getElem?_append_left bound).trans hx, .other _ (by simp [Label.loop?])⟩
  | stop => exact ⟨x, by rwa [State.stop_loops], .other _ (by simp [Label.loop?])⟩
  | proceed j c _ does => cases does <;> exact ⟨x, hx, .other _ (by simp [Label.loop?])⟩
  | _ => exact ⟨x, hx, .other _ (by simp [Label.loop?])⟩

theorem step_loops_length (h : step a s l = some t) : t.loops.length = s.loops.length + l.serves.toNat := by
  cases step_turn h with
  | serve => simp [State.begun, Label.serves]
  | proceed _ c _ does => cases does <;> rfl
  | connect | lose | poll | refuse | enroll =>
    simp [State.setLoop, State.record, Label.serves]
  | stop => simp [Label.serves]
  | _ => rfl

/-- What is true of an accept loop at any time. -/
structure AcceptLoop.Standing (signals : Nat) (x : AcceptLoop) : Prop where
  seen : x.seen ≤ signals
  gone : x.ended = true → x.holding = none

theorem AcceptLoop.Standing.change {x' : AcceptLoop} (hx : x.Standing s.signals) (change : Change s i x l x') :
    x'.Standing s.signals := by
  cases change with
  | other => exact hx
  | connect id peer live => exact ⟨hx.seen, fun gone => by simp [live] at gone⟩
  | lose reason live free => exact ⟨hx.seen, fun _ => free⟩
  | poll live free => exact ⟨Nat.le_refl _, fun _ => free⟩
  | enroll => exact ⟨hx.seen, fun _ => rfl⟩

theorem play_loop_standing (h : play a {} ls = some t) (hx : t.loops[i]? = some x) : x.Standing t.signals := by
  induction ls using List.reverseRecOn generalizing t x with
  | nil =>
    obtain rfl := Option.some.inj h
    cases hx
  | append_singleton ls l ih =>
    obtain ⟨s, hs, hl⟩ := play_concat.mp h
    have grows : s.signals ≤ t.signals := by
      rw [(step_signals hl).2.1]
      exact Nat.le_add_right _ _
    rcases Nat.lt_or_ge i s.loops.length with old | new
    · obtain ⟨x', hx', change⟩ := step_loop hl (List.getElem?_eq_getElem old)
      obtain rfl : x' = x := Option.some.inj (hx'.symm.trans hx)
      have kept := (ih hs (List.getElem?_eq_getElem old)).change change
      exact ⟨Nat.le_trans kept.seen grows, kept.gone⟩
    · have bound : i < t.loops.length := (List.getElem?_eq_some_iff.mp hx).1
      rw [step_loops_length hl] at bound
      cases l with
      | serve address port =>
        cases step_turn hl with
        | serve _ _ idle =>
          obtain rfl : i = s.loops.length := Nat.le_antisymm (Nat.lt_succ_iff.mp bound) new
          obtain rfl := Option.some.inj ((List.getElem?_concat_length).symm.trans hx)
          exact ⟨Nat.le_refl _, fun _ => rfl⟩
      | _ => exact absurd bound (Nat.not_lt.mpr new)

namespace State

def IsLive (s : State) (i : Nat) : Prop := ∃ x, s.loops[i]? = some x ∧ x.ended = false

end State

/-- A loop that has ended makes no more steps. -/
theorem ended_loop (h : play a {} ls = some s) (hx : s.loops[i]? = some x) (ended : x.ended = true)
    (hl : step a s l = some t) : l.loop? ≠ some i ∧ t.loops[i]? = some x := by
  obtain ⟨x', hx', change⟩ := step_loop hl hx
  have gone := (play_loop_standing h hx).gone ended
  cases change with
  | other _ other => exact ⟨other, hx'⟩
  | connect _ _ live | lose _ live | poll live => simp [live] at ended
  | enroll holding => exact absurd gone holding

theorem ended_play (h : play a {} ls = some s) (hx : s.loops[i]? = some x) (ended : x.ended = true)
    (run : play a s ms = some t) : t.loops[i]? = some x ∧ ∀ l ∈ ms, l.loop? ≠ some i := by
  induction ms using List.reverseRecOn generalizing t with
  | nil =>
    obtain rfl := Option.some.inj run
    exact ⟨hx, fun l hl => by cases hl⟩
  | append_singleton ms l ih =>
    obtain ⟨u, hu, hl⟩ := play_concat.mp run
    obtain ⟨hx, others⟩ := ih hu
    obtain ⟨other, hx⟩ := ended_loop (play_trans h hu) hx ended hl
    refine ⟨hx, fun m hm => ?_⟩
    rcases List.mem_append.mp hm with hm | hm
    · exact others m hm
    · rwa [List.mem_singleton.mp hm]

/-- A loop that neither looks at the signal nor loses its listener goes on, with what it has seen. -/
theorem unpolled_play (h : play a s ls = some t) (hx : s.loops[i]? = some x) (live : x.ended = false)
    (unpolled : .poll i ∉ ls) (kept : ∀ reason, .lose i reason ∉ ls) :
    ∃ y, t.loops[i]? = some y ∧ y.ended = false ∧ y.seen = x.seen := by
  induction ls generalizing s x with
  | nil =>
    obtain rfl := Option.some.inj h
    exact ⟨x, hx, live, rfl⟩
  | cons l ls ih =>
    obtain ⟨u, hu, rest⟩ := Option.bind_eq_some_iff.mp h
    have unpolled' : .poll i ∉ ls := fun hm => unpolled (List.mem_cons_of_mem _ hm)
    have kept' : ∀ reason, .lose i reason ∉ ls := fun reason hm => kept reason (List.mem_cons_of_mem _ hm)
    obtain ⟨x', hx', change⟩ := step_loop hu hx
    cases change with
    | other => exact ih rest hx' live unpolled' kept'
    | connect | enroll =>
      have on := ih rest hx' live unpolled' kept'
      exact on
    | lose reason => exact absurd List.mem_cons_self (kept reason)
    | poll => exact absurd List.mem_cons_self unpolled

/-- A loop that looks at the signal ends if its newest value says so. -/
theorem poll_live (hx : s.loops[i]? = some x) (live : x.ended = false) (free : x.holding = none)
    (changed : x.seen ≠ s.signals) :
    ∃ t, step a s (.poll i) = some t ∧ t.loops[i]? = some { x with seen := s.signals, ended := s.shutdown } := by
  have bound : i < s.loops.length := (List.getElem?_eq_some_iff.mp hx).1
  refine ⟨{ s with loops := s.loops.set i { x with seen := s.signals, ended := s.shutdown } }, ?_,
    List.getElem?_set_self bound⟩
  simp [step, State.poll, hx, live, free, changed]

/-- A live loop of a server that is running and not full admits the next connection. -/
theorem admits_of_live (id : SessionId) (peer : String) (hx : s.loops[i]? = some x) (live : x.ended = false)
    (free : x.holding = none) (running : s.running = true) (unlocked : s.lock = none)
    (room : s.hub.registry.size < a.settings.maxConnections) : s.Admits a i id peer := by
  have bound : i < s.loops.length := (List.getElem?_eq_some_iff.mp hx).1
  have back : x = { x with holding := none } := by
    cases x
    cases free
    rfl
  have accepted : step a s (.connect i id peer) = some (s.setLoop i { x with holding := some (id, peer) }) := by
    simp [step, State.accept, hx, live, free, State.setLoop]
  have enrolled : step a (s.setLoop i { x with holding := some (id, peer) }) (.enroll i) =
      some (((s.setLoop i { x with holding := some (id, peer) }).setLoop i x).addSession a id peer) := by
    have full : ¬ a.settings.maxConnections ≤ s.hub.registry.size := Nat.not_le.mpr room
    simp [step, State.enroll, State.setLoop, unlocked, bound, running, full, ← back]
  have run : play a s [.connect i id peer, .enroll i] =
      some (((s.setLoop i { x with holding := some (id, peer) }).setLoop i x).addSession a id peer) := by
    simp only [play, accepted, Option.bind_some, enrolled]
  refine ⟨_, run, rfl, State.addSession_registry .., ?_⟩
  show (s.loops.set i _).set i x = s.loops
  obtain ⟨there, rfl⟩ := List.getElem?_eq_some_iff.mp hx
  rw [List.set_set]
  exact List.set_getElem_self there

/-- A server that is not running admits nothing. -/
theorem enroll_idle (h : step a s (.enroll i) = some t) (idle : s.running = false) : s.NoneAdmitted t := by
  cases step_turn h with
  | refuse => exact ⟨rfl, rfl⟩
  | enroll _ _ _ _ _ _ _ running => simp [idle] at running

theorem live_back (h : step a s l = some t) (live : t.IsLive i) :
    s.IsLive i ∨ l.serves = true ∧ i = s.loops.length := by
  obtain ⟨x, hx, live⟩ := live
  have bound : i < t.loops.length := (List.getElem?_eq_some_iff.mp hx).1
  rcases Nat.lt_or_ge i s.loops.length with old | new
  · refine .inl ⟨_, List.getElem?_eq_getElem old, ?_⟩
    obtain ⟨x', hx', change⟩ := step_loop h (List.getElem?_eq_getElem old)
    obtain rfl : x' = x := Option.some.inj (hx'.symm.trans hx)
    cases change with
    | other => exact live
    | connect _ _ live => exact live
    | poll was => exact was
    | lose => cases live
    | enroll => exact live
  · rw [step_loops_length h] at bound
    cases serves : l.serves with
    | false => simp [serves] at bound; omega
    | true =>
      rw [serves] at bound
      exact .inr ⟨rfl, Nat.le_antisymm (Nat.lt_succ_iff.mp bound) new⟩

/-- A call to serve adds a loop beside those that are live. -/
theorem serve_live {address : String} {port : Nat} (h : step a s (.serve address port) = some t) :
    t.IsLive s.loops.length ∧ ∀ i, s.IsLive i → t.IsLive i := by
  cases step_turn h with
  | serve _ _ idle =>
    refine ⟨⟨_, List.getElem?_concat_length, rfl⟩, fun i ⟨x, hx, live⟩ => ⟨x, ?_, live⟩⟩
    exact (List.getElem?_append_left (List.getElem?_eq_some_iff.mp hx).1).trans hx

/-- The accept loops in a run that led to `t`. -/
structure AcceptLoops (a : Application) (ls : List Label) (t : State) : Prop where
  /-- From a stop to the next call to serve no loop admits anything. -/
  shut : ∀ before after i v, ls = before ++ .stop :: after → (∀ l ∈ after, l.serves = false) →
    step a t (.enroll i) = some v → t.NoneAdmitted v
  /-- A loop that was live at a stop and has not looked at the signal since ends when it looks, unless the signal was
  set back. -/
  exits : ∀ before after u i, ls = before ++ .stop :: after → play a {} before = some u → u.IsLive i →
    .poll i ∉ after → (∀ reason, .lose i reason ∉ after) → ∃ y, t.loops[i]? = some y ∧ y.ended = false ∧
      (y.holding = none → ∃ v, step a t (.poll i) = some v ∧
        v.loops[i]? = some { y with seen := t.signals, ended := newest true after })
  /-- Once it has looked without a call to serve in between, it makes no more steps. -/
  never : ∀ before between after i, ls = before ++ .stop :: between ++ .poll i :: after →
    (∀ l ∈ between, l.signal? ≠ some false) → ¬ t.IsLive i ∧ ∀ l ∈ after, l.loop? ≠ some i
  /-- Whatever loop is live admits connections while the server is running. -/
  admits : ∀ i x id peer, t.loops[i]? = some x → x.ended = false → x.holding = none → t.running = true →
    t.lock = none → t.hub.registry.size < a.settings.maxConnections → t.Admits a i id peer
  /-- There is one live loop at most if and only if every call to serve began when none was live. -/
  alone : (∀ before u i j, before <+: ls → play a {} before = some u → u.IsLive i → u.IsLive j → i = j) ↔
    ∀ before u i address port, before ++ [.serve address port] <+: ls → play a {} before = some u → ¬ u.IsLive i

theorem alone_of_serves (serves : ∀ before u i address port, before ++ [.serve address port] <+: ls →
    play a {} before = some u → ¬ u.IsLive i) {before : List Label} (part : before <+: ls)
    (run : play a {} before = some u) {i j : Nat} (hi : u.IsLive i) (hj : u.IsLive j) : i = j := by
  induction before using List.reverseRecOn generalizing u i j with
  | nil =>
    obtain rfl := Option.some.inj run
    obtain ⟨x, hx, -⟩ := hi
    cases hx
  | append_singleton ms l ih =>
    obtain ⟨s, hs, hl⟩ := play_concat.mp run
    have earlier : ms <+: ls := (List.prefix_append ms [l]).trans part
    have unserved {n : Nat} (live : s.IsLive n) (serving : l.serves = true) : False := by
      cases l with
      | serve address port => exact serves ms s n address port part hs live
      | _ => cases serving
    rcases live_back hl hi with hi | ⟨serving, hi⟩
    · rcases live_back hl hj with hj | ⟨serving, -⟩
      · exact ih earlier hs hi hj
      · exact (unserved hi serving).elim
    · rcases live_back hl hj with hj | ⟨-, hj⟩
      · exact (unserved hj serving).elim
      · exact hi.trans hj.symm

/-- A call to serve that begins while a loop is live leaves two of them. -/
theorem serves_of_alone (run : play a {} ls = some t)
    (alone : ∀ before u i j, before <+: ls → play a {} before = some u → u.IsLive i → u.IsLive j → i = j)
    {before : List Label} {address : String} {port : Nat} (part : before ++ [.serve address port] <+: ls)
    (hu : play a {} before = some u) : ¬ u.IsLive i := by
  intro live
  obtain ⟨after, rfl⟩ := part
  rw [List.append_assoc] at run
  obtain ⟨s, v, hs, hv, -⟩ := play_split run
  obtain rfl : s = u := Option.some.inj (hs.symm.trans hu)
  obtain ⟨new, old⟩ := serve_live hv
  have same := alone _ v _ _ (List.prefix_append _ after) (play_concat.mpr ⟨s, hs, hv⟩) new (old i live)
  obtain ⟨x, hx, -⟩ := live
  have bound : i < s.loops.length := (List.getElem?_eq_some_iff.mp hx).1
  omega

theorem exits_of_stop (run : play a {} ls = some t) {before after : List Label} (split : ls = before ++ .stop :: after)
    (hu : play a {} before = some u) (live : u.IsLive i) (unpolled : .poll i ∉ after)
    (kept : ∀ reason, .lose i reason ∉ after) : ∃ y, t.loops[i]? = some y ∧ y.ended = false ∧
      (y.holding = none → ∃ v, step a t (.poll i) = some v ∧
        v.loops[i]? = some { y with seen := t.signals, ended := newest true after }) := by
  rw [split] at run
  obtain ⟨s, v, hs, hv, rest⟩ := play_split run
  obtain rfl : s = u := Option.some.inj (hs.symm.trans hu)
  obtain rfl := Option.some.inj hv
  obtain ⟨x, hx, live⟩ := live
  have seen : x.seen ≤ s.signals := (play_loop_standing hs hx).seen
  obtain ⟨y, hy, on, same⟩ := unpolled_play rest (by rwa [State.stop_loops]) live unpolled kept
  have told : (s.stop a).signals ≤ t.signals := play_signals_le rest
  rw [State.stop_signals] at told
  have signal : t.shutdown = newest true after := by
    rw [play_shutdown rest, State.stop_shutdown]
  refine ⟨y, hy, on, fun free => ?_⟩
  rw [← signal]
  exact poll_live hy on free (by omega)

theorem newest_true (unserved : ∀ l ∈ ls, l.signal? ≠ some false) : newest true ls = true := by
  induction ls with
  | nil => rfl
  | cons l ls ih =>
    have rest := ih fun m hm => unserved m (List.mem_cons_of_mem _ hm)
    have first := unserved l List.mem_cons_self
    rw [newest_cons]
    cases hl : l.signal? with
    | none => exact rest
    | some value =>
      cases value with
      | true => exact rest
      | false => exact absurd hl first

theorem never_of_poll (run : play a {} ls = some t) {before between after : List Label}
    (split : ls = before ++ .stop :: between ++ .poll i :: after) (unserved : ∀ l ∈ between, l.signal? ≠ some false) :
    ¬ t.IsLive i ∧ ∀ l ∈ after, l.loop? ≠ some i := by
  rw [split] at run
  obtain ⟨u, v, hu, hv, rest⟩ := play_split run
  obtain ⟨s, w, hs, hw, middle⟩ := play_split hu
  obtain rfl := Option.some.inj hw
  have signal : u.shutdown = true := by
    rw [play_shutdown middle, State.stop_shutdown, newest_true unserved]
  have polled : play a {} (before ++ .stop :: between ++ [.poll i]) = some v := play_concat.mpr ⟨u, hu, hv⟩
  cases step_turn hv with
  | poll _ x hx =>
    have bound : i < u.loops.length := (List.getElem?_eq_some_iff.mp hx).1
    obtain ⟨gone, others⟩ := ended_play polled (List.getElem?_set_self bound) signal rest
    refine ⟨fun ⟨y, hy, live⟩ => ?_, others⟩
    obtain rfl := Option.some.inj (gone.symm.trans hy)
    exact Bool.false_ne_true (live.symm.trans signal)

/-- A loop that looks at the signal between a stop and the next call to serve ends, and one that does not goes on. -/
theorem accept_loops (run : play a {} ls = some t) : AcceptLoops a ls t := by
  constructor
  · intro before after i v split unserved enrolled
    rw [split] at run
    obtain ⟨s, u, hs, hu, rest⟩ := play_split run
    obtain rfl := Option.some.inj hu
    exact enroll_idle enrolled (play_idle rest unserved (State.stop_running a s))
  · intro before after u i split hu live unpolled kept
    exact exits_of_stop run split hu live unpolled kept
  · intro before between after i split unserved
    exact never_of_poll run split unserved
  · intro i x id peer hx live free running unlocked room
    exact admits_of_live id peer hx live free running unlocked room
  · constructor
    · intro alone before u i address port part hu
      exact serves_of_alone run alone part hu
    · intro serves before u i j part hu hi hj
      exact alone_of_serves serves part hu hi hj

def restarted : List Label :=
  [.serve "127.0.0.1:7000" 7000, .stop, .proceed 0, .proceed 0, .proceed 0, .proceed 0,
    .serve "127.0.0.1:7001" 7001, .poll 0]

theorem accept_loops_restarted : ∃ t, play quietServer {} restarted = some t ∧ AcceptLoops quietServer restarted t := by
  have possible : (play quietServer {} restarted).isSome = true := by decide +kernel
  obtain ⟨t, run⟩ := Option.isSome_iff_exists.mp possible
  exact ⟨t, run, accept_loops run⟩

def admissions : List Label :=
  [.connect 0 "a" "127.0.0.1:50000", .enroll 0, .connect 1 "b" "127.0.0.1:50001", .enroll 1]

/-- A loop that was live when stop was called, and looks at the signal after stop has returned and serve was called
again, goes on; then each of the two loops admits a connection. -/
theorem accept_loops_overlap : ∃ t u, play quietServer {} restarted = some t ∧ (∀ c ∈ t.stops, c.phase = .ended) ∧
    play quietServer t admissions = some u ∧ u.hub.registry.entries = [("a", 0), ("b", 1)] ∧
    u.IsLive 0 ∧ u.IsLive 1 := by
  have possible : ((play quietServer {} restarted).bind fun t => play quietServer t admissions).isSome = true := by
    decide +kernel
  have stopped : (play quietServer {} restarted).all (·.stops.all (·.phase = .ended)) = true := by decide +kernel
  have both : ((play quietServer {} restarted).bind fun t => play quietServer t admissions).all
      (fun u => u.hub.registry.entries = [("a", 0), ("b", 1)] ∧ u.loops.map (·.ended) = [false, false]) = true := by
    decide +kernel
  obtain ⟨u, hu⟩ := Option.isSome_iff_exists.mp possible
  rw [hu, Option.all_some, decide_eq_true_eq] at both
  obtain ⟨t, ht, hu⟩ := Option.bind_eq_some_iff.mp hu
  rw [ht, Option.all_some] at stopped
  have live {i : Nat} (bound : i < 2) : u.IsLive i := by
    have ended : (u.loops.map (·.ended))[i]? = some false := by
      rw [both.2]
      exact List.getElem?_replicate_of_lt (n := 2) bound
    rw [List.getElem?_map] at ended
    exact Option.map_eq_some_iff.mp ended
  refine ⟨t, u, ht, fun c hc => ?_, hu, both.1, live (by decide), live (by decide)⟩
  exact of_decide_eq_true (List.all_eq_true.mp stopped c hc)

end FrameServer.Server
