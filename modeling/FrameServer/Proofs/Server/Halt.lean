import FrameServer.Proofs.Server.Lifecycle
import FrameServer.Proofs.Server.Notice

namespace FrameServer

/-- It was told to stop, and has nothing to look at any more. -/
structure Monitor.Over (m : Monitor) : Prop where
  stopped : m.stopped = true
  started : m.started = false
  due : m.due = none
  sweep : m.sweep = none

theorem Monitor.over_stop (m : Monitor) (h : Hub) : (m.stop h).1.Over := ⟨rfl, rfl, rfl, rfl⟩

namespace Server

open Connection

variable {a : Application} {s t u v : State} {l : Label} {ls after : List Label} {i : Nat} {k : SessionKey}

section Monitors

theorem not_due {m : Monitor} (finished : m.Over) (h : Hub) : State.due h m = false := by
  simp [State.due, finished.sweep, finished.due]

/-- A monitor that the next stop does not end has been stopped before. -/
structure State.Attended (s : State) : Prop where
  current : ∀ j, s.current = some j → j < s.monitors.length
  idle : s.running = false → s.current = none
  others : ∀ (j : Nat) (m : Monitor), s.monitors[j]? = some m → s.current ≠ some j → m.Over

theorem stopMonitor_over (there : ∀ j, s.current = some j → j < s.monitors.length)
    (others : ∀ (j : Nat) (m : Monitor), s.monitors[j]? = some m → s.current ≠ some j → m.Over) :
    s.stopMonitor.current = none ∧ ∀ (j : Nat) (m : Monitor), s.stopMonitor.monitors[j]? = some m → m.Over := by
  cases current : s.current with
  | none =>
    have same : s.stopMonitor = s := by simp [State.stopMonitor, current]
    rw [same]
    exact ⟨current, fun j m hm => others j m hm (by rw [current]; simp)⟩
  | some j =>
    have bound := there j current
    have found : (s.current.bind fun i => (s.monitors[i]?).map fun m => (i, m)) = some (j, s.monitors[j]) := by
      simp [current, bound]
    unfold State.stopMonitor
    rw [found]
    refine ⟨rfl, fun n m hm => ?_⟩
    by_cases e : j = n
    · subst e
      obtain rfl := Option.some.inj ((List.getElem?_set_self bound).symm.trans hm)
      exact Monitor.over_stop _ _
    · exact others n m ((List.getElem?_set_ne e).symm.trans hm) (by rw [current]; simpa using e)

theorem State.Attended.of_over (current : t.current = none)
    (finished : ∀ (j : Nat) (m : Monitor), t.monitors[j]? = some m → m.Over) : t.Attended := by
  refine ⟨fun j hj => ?_, fun _ => current, fun j m hm _ => finished j m hm⟩
  rw [current] at hj
  cases hj

theorem State.Attended.of_same (h : s.Attended) (running : t.running = s.running) (current : t.current = s.current)
    (monitors : t.monitors = s.monitors) : t.Attended := by
  constructor
  · rw [current, monitors]
    exact h.current
  · rw [current, running]
    exact h.idle
  · rw [current, monitors]
    exact h.others

theorem State.Attended.step (h : step a s l = some t) (attended : s.Attended) : t.Attended := by
  cases step_turn h with
  | serve address port idle =>
    refine ⟨fun j hj => ?_, fun running => (by cases running), fun j m hm other => ?_⟩
    · obtain rfl := Option.some.inj hj
      simp [State.begun]
    · have old : j < s.monitors.length := by
        have bound : j < (s.begun a address port).monitors.length := (List.getElem?_eq_some_iff.mp hm).1
        have last : s.monitors.length ≠ j := fun e => other (congrArg some e)
        simp only [State.begun, List.length_append, List.length_singleton] at bound
        omega
      refine attended.others j m ((List.getElem?_append_left old).symm.trans hm) ?_
      rw [attended.idle idle]
      simp
  | lose i reason l =>
    obtain ⟨none, finished⟩ := stopMonitor_over
      (s := ({ s with running := false } : State).setLoop i { l with ended := true }) attended.current attended.others
    exact .of_over none finished
  | stop =>
    obtain ⟨none, finished⟩ := stopMonitor_over (s := { s.signal true with running := false })
      attended.current attended.others
    exact .of_over none finished
  | watch i m hm due =>
    have other : s.current = some i := by
      by_contra other
      rw [not_due (attended.others i m hm other)] at due
      cases due
    refine ⟨fun j hj => ?_, attended.idle, fun j m' hm' e => ?_⟩
    · rw [List.length_set]
      exact attended.current j hj
    · have ne : i ≠ j := fun same => e (same ▸ other)
      exact attended.others j m' ((List.getElem?_set_ne ne).symm.trans hm') e
  | proceed i c _ does => cases does <;> exact attended.of_same rfl rfl rfl
  | _ => exact attended.of_same rfl rfl rfl

theorem play_attended (run : play a {} ls = some t) : t.Attended :=
  play_invariant (fun hl attended => State.Attended.step hl attended) run (.of_over rfl fun j m hm => by cases hm)

end Monitors

/-- Nobody is served, and nobody is left. -/
structure State.Stopped (s : State) : Prop where
  running : s.running = false
  quiet : s.quiet = true
  registry : s.hub.registry = {}
  address : s.address = none

theorem step_address (h : step a s l = some t) (unserved : l.serves = false) (gone : s.address = none) :
    t.address = none := by
  cases step_turn h with
  | serve => cases unserved
  | lose => simpa [State.record, State.setLoop] using gone
  | stop => rwa [State.stop_address]
  | proceed i c _ does =>
    cases does with
    | clear => rfl
    | _ => exact gone
  | _ => exact gone

theorem State.Stopped.step (h : step a s l = some t) (unserved : l.serves = false) (stopped : s.Stopped) :
    t.Stopped := by
  obtain ⟨quiet, idle⟩ := quiet_step h stopped.quiet stopped.running
  refine ⟨step_idle h unserved stopped.running, quiet, ?_, step_address h unserved stopped.address⟩
  have registered := step_registered h
  generalize t.hub.registry = r at registered ⊢
  cases registered with
  | same => exact stopped.registry
  | enroll i id running =>
    rw [stopped.running] at running
    cases running
  | leave k => exact absurd rfl (idle k)
  | clear => rfl

/-- No task tells anything any more. -/
theorem told_stopped (run : play a s ls = some t) (unserved : ∀ l ∈ ls, l.serves = false) (stopped : s.Stopped)
    (k : SessionKey) : told a k s ls = [] := by
  induction ls generalizing s with
  | nil => rfl
  | cons l ls ih =>
    obtain ⟨u, hu, rest⟩ := Option.bind_eq_some_iff.mp run
    have other := isTask_false ((quiet_step hu stopped.quiet stopped.running).2 k)
    have on := ih rest (fun m hm => unserved m (List.mem_cons_of_mem _ hm))
      (stopped.step hu (unserved l List.mem_cons_self))
    simp only [told, hu, noted_other other, on, List.append_nil]

/-- Stop `i` has ended. -/
def State.Returned (s : State) (i : Nat) : Prop := ∃ c, s.stops[i]? = some c ∧ c.phase = .ended

section Course

/-- How far stop `i` has come. -/
structure State.Halts (s : State) (i : Nat) : Prop where
  running : s.running = false
  clearing : ∀ c left k?, s.stops[i]? = some c → c.phase = .clearing left k? → s.quiet = true
  returned : s.Returned i → s.Stopped

theorem State.Proceeds.stopped {c c' : Stopping} (does : s.Proceeds a i c t) (hc : s.stops[i]? = some c)
    (hc' : t.stops[i]? = some c') (ended : c'.phase = .ended) (halts : s.Halts i) : t.Stopped := by
  have bound : i < s.stops.length := (List.getElem?_eq_some_iff.mp hc).1
  have here {p : Stopping.Phase} (same : t.stops = s.stops.set i { c with phase := p }) (other : p ≠ .ended) :
      False := by
    rw [same, List.getElem?_set_self bound] at hc'
    obtain rfl := Option.some.inj hc'
    exact other ended
  cases does with
  | clear phase => exact ⟨halts.running, halts.clearing c _ _ hc phase, rfl, rfl⟩
  | notify => exact (here rfl (by split <;> simp)).elim
  | lock | drain | closed | close => exact (here rfl (by simp)).elim

theorem State.Halts.step (h : step a s l = some t) (unserved : l.serves = false) (halts : s.Halts i) : t.Halts i := by
  refine ⟨step_idle h unserved halts.running, fun c' left k? hc' phase => ?_, fun ⟨c', hc', ended⟩ => ?_⟩
  · rcases stopping_back h hc' with ⟨c, hc, rfl | ⟨rfl, does⟩⟩ | ⟨-, pending, deadline, notifying⟩
    · exact (quiet_step h (halts.clearing c' left k? hc phase) halts.running).1
    · rcases (does.clearing hc hc').2 left k? phase with quiet | ⟨same, left', k?', before⟩
      · exact quiet
      · unfold State.quiet
        rw [same]
        exact halts.clearing c left' k?' hc before
    · rw [notifying] at phase
      cases phase
  · rcases stopping_back h hc' with ⟨c, hc, rfl | ⟨rfl, does⟩⟩ | ⟨-, pending, deadline, notifying⟩
    · exact (halts.returned ⟨c', hc, ended⟩).step h unserved
    · exact does.stopped hc hc' ended halts
    · rw [notifying] at ended
      cases ended

theorem last_stop (a : Application) (s : State) : (s.stop a).stops[s.stops.length]? =
    some ⟨.notifying (s.notices a).1 (s.hub.clock + a.settings.writeTimeout), s.running⟩ := by
  rw [State.stop_stops]
  exact List.getElem?_concat_length

theorem halts_stop (a : Application) (s : State) : (s.stop a).Halts s.stops.length := by
  refine ⟨State.stop_running a s, fun c left k? hc phase => ?_, fun ⟨c, hc, ended⟩ => ?_⟩
  · obtain rfl := Option.some.inj ((last_stop a s).symm.trans hc)
    cases phase
  · obtain rfl := Option.some.inj ((last_stop a s).symm.trans hc)
    cases ended

theorem halts_play (run : play a s ls = some t) (unserved : ∀ l ∈ ls, l.serves = false) (halts : s.Halts i) :
    t.Halts i := by
  induction ls generalizing s with
  | nil =>
    obtain rfl := Option.some.inj run
    exact halts
  | cons l ls ih =>
    obtain ⟨u, hu, rest⟩ := Option.bind_eq_some_iff.mp run
    exact ih rest (fun m hm => unserved m (List.mem_cons_of_mem _ hm)) (halts.step hu (unserved l List.mem_cons_self))

/-- A stop keeps what it was told when it was called. -/
theorem stopping_play (run : play a s ls = some t) {c : Stopping} (hc : s.stops[i]? = some c) :
    ∃ c', t.stops[i]? = some c' ∧ c'.wasRunning = c.wasRunning := by
  induction ls using List.reverseRecOn generalizing t with
  | nil =>
    obtain rfl := Option.some.inj run
    exact ⟨c, hc, rfl⟩
  | append_singleton ls l ih =>
    obtain ⟨u, hu, hl⟩ := play_concat.mp run
    obtain ⟨d, hd, same⟩ := ih hu
    obtain ⟨c', hc', same', -⟩ := step_stopping hl hd
    exact ⟨c', hc', same'.trans same⟩

/-- A stop that has ended makes no more steps. -/
theorem State.Returned.still (returned : s.Returned i) : step a s (.proceed i) = none := by
  obtain ⟨c, hc, ended⟩ := returned
  simp [step, State.proceed, hc, ended]

theorem returned_play (run : play a s ls = some t) (returned : s.Returned i) :
    t.Returned i ∧ Label.proceed i ∉ ls := by
  induction ls generalizing s with
  | nil =>
    obtain rfl := Option.some.inj run
    exact ⟨returned, by simp⟩
  | cons l ls ih =>
    obtain ⟨u, hu, rest⟩ := Option.bind_eq_some_iff.mp run
    have other : l ≠ .proceed i := by
      rintro rfl
      rw [returned.still] at hu
      cases hu
    obtain ⟨c, hc, ended⟩ := returned
    obtain ⟨c', hc', -, rfl | ⟨own, -⟩⟩ := step_stopping hu hc
    · obtain ⟨last, rest⟩ := ih rest ⟨c', hc', ended⟩
      refine ⟨last, ?_⟩
      rw [List.mem_cons, not_or]
      exact ⟨Ne.symm other, rest⟩
    · exact absurd own other

end Course

section Further

/-- Nothing that anyone sees is different, and nothing is told. -/
structure State.Unmoved (s t : State) : Prop where
  hub : t.hub = s.hub
  connections : t.connections = s.connections
  journal : t.journal = s.journal
  running : t.running = s.running
  address : t.address = s.address
  monitors : t.monitors = s.monitors
  current : t.current = s.current
  loops : t.loops = s.loops

/-- A stop that found nothing to do. -/
structure Stopping.Vain (c : Stopping) : Prop where
  phase : (∃ deadline, c.phase = .notifying [] deadline) ∨ c.phase = .locking ∨
    (∃ deadline, c.phase = .draining deadline) ∨ c.phase = .clearing [] none ∨ c.phase = .ended
  wasRunning : c.wasRunning = false

theorem abortFrom_eq (k : SessionKey) (h : Hub) {cs : List Connection} (finished : ∀ c ∈ cs, c.phase.isOver = true) :
    State.abortFrom k h cs = (h, cs) := by
  induction cs generalizing k with
  | nil => rfl
  | cons c cs ih =>
    have first : c.abort k h = (h, c) := if_pos (finished c List.mem_cons_self)
    have rest := ih (k + 1) fun d hd => finished d (List.mem_cons_of_mem _ hd)
    simp only [State.abortFrom, first, rest]

theorem abortAll_eq (quiet : s.quiet = true) : s.abortAll = s := by
  unfold State.abortAll
  rw [abortFrom_eq 0 s.hub (List.all_eq_true.mp quiet)]

theorem State.Stopped.cleared (stopped : s.Stopped) : s.cleared = s := by
  unfold State.cleared
  rw [← stopped.registry, ← stopped.address]

theorem State.Stopped.keys (stopped : s.Stopped) : s.hub.registry.keys = [] := by
  rw [stopped.registry]
  rfl

/-- A call to stop a server that is stopped. -/
theorem unmoved_stop (stopped : s.Stopped) (current : s.current = none) : s.Unmoved (s.stop a) ∧
    ∃ c, (s.stop a).stops[s.stops.length]? = some c ∧ c.Vain := by
  have same : s.stopMonitor = s := by simp [State.stopMonitor, current]
  have none : s.notices a = ([], s.hub) := by
    unfold State.notices
    rw [same, stopped.keys]
    rfl
  refine ⟨⟨?_, State.stop_connections a s, State.stop_journal a s, ?_, State.stop_address a s, ?_, ?_,
    State.stop_loops a s⟩, _, last_stop a s, ?_, stopped.running⟩
  · rw [State.stop_hub, none]
  · rw [State.stop_running, stopped.running]
  · simp [State.stop, State.stopMonitor, State.signal, current]
  · simp [State.stop, State.stopMonitor, State.signal, current]
  · rw [none]
    exact .inl ⟨_, rfl⟩

theorem State.Proceeds.vain {c : Stopping} (does : s.Proceeds a i c t) (hc : s.stops[i]? = some c) (vain : c.Vain)
    (stopped : s.Stopped) : s.Unmoved t ∧ ∃ c', t.stops[i]? = some c' ∧ c'.Vain := by
  have bound : i < s.stops.length := (List.getElem?_eq_some_iff.mp hc).1
  have here {t : State} {p : Stopping.Phase} (same : t.stops = s.stops.set i { c with phase := p })
      (vain' : Stopping.Vain { c with phase := p }) : ∃ c', t.stops[i]? = some c' ∧ c'.Vain := by
    refine ⟨_, ?_, vain'⟩
    rw [same, List.getElem?_set_self bound]
  obtain ⟨phase, idle⟩ := vain
  cases does with
  | notify pending left deadline h' phase' visited =>
    have nothing : pending = [] := by
      rcases phase with ⟨d, phase⟩ | phase | ⟨d, phase⟩ | phase | phase <;> rw [phase'] at phase <;> cases phase
      rfl
    subst nothing
    obtain ⟨rfl, rfl⟩ := Prod.mk.inj visited
    exact ⟨⟨rfl, rfl, rfl, rfl, rfl, rfl, rfl, rfl⟩, here rfl ⟨.inr (.inl rfl), idle⟩⟩
  | lock => exact ⟨⟨rfl, rfl, rfl, rfl, rfl, rfl, rfl, rfl⟩, here rfl ⟨.inr (.inr (.inl ⟨_, rfl⟩)), idle⟩⟩
  | drain =>
    rw [abortAll_eq stopped.quiet, stopped.keys]
    exact ⟨⟨rfl, rfl, rfl, rfl, rfl, rfl, rfl, rfl⟩, here rfl ⟨.inr (.inr (.inr (.inl rfl))), idle⟩⟩
  | clear =>
    have silent : State.Stopping.farewell c = [] := if_neg (by rw [idle]; simp)
    rw [silent, State.record, List.append_nil, stopped.cleared]
    exact ⟨⟨rfl, rfl, rfl, rfl, rfl, rfl, rfl, rfl⟩, here rfl ⟨.inr (.inr (.inr (.inr rfl))), idle⟩⟩
  | closed left k ticket phase' | close left k phase' =>
    rcases phase with ⟨d, phase⟩ | phase | ⟨d, phase⟩ | phase | phase <;> rw [phase'] at phase <;> cases phase

/-- A further call to stop goes its way in vain. -/
theorem vain_play (run : play a s ls = some t) (unserved : ∀ l ∈ ls, l.serves = false) (stopped : s.Stopped)
    (vain : ∃ c, s.stops[i]? = some c ∧ c.Vain) : t.Stopped ∧ ∃ c, t.stops[i]? = some c ∧ c.Vain := by
  induction ls generalizing s with
  | nil =>
    obtain rfl := Option.some.inj run
    exact ⟨stopped, vain⟩
  | cons l ls ih =>
    obtain ⟨u, hu, rest⟩ := Option.bind_eq_some_iff.mp run
    obtain ⟨c, hc, vain⟩ := vain
    have on := stopped.step hu (unserved l List.mem_cons_self)
    refine ih rest (fun m hm => unserved m (List.mem_cons_of_mem _ hm)) on ?_
    obtain ⟨c', hc', -, rfl | ⟨-, does⟩⟩ := step_stopping hu hc
    · exact ⟨c', hc', vain⟩
    · exact (does.vain hc vain stopped).2

end Further

/-- The step from `u` to `v` in which the stop of a server in state `s` ends, among the steps `after` that follow the
call. -/
structure Farewell (a : Application) (s : State) (after before late : List Label) (u v : State) : Prop where
  split : after = before ++ .proceed s.stops.length :: late
  reached : play a (s.stop a) before = some u
  made : step a u (.proceed s.stops.length) = some v
  ends : ¬ u.Returned s.stops.length ∧ v.Returned s.stops.length
  /-- The stop tells of its end if the server was running, -/
  journal : v.journal = u.journal ++ (if s.running then [State.serverEvent .serverStop []] else [])
  /-- when the tasks have told all they will, -/
  last : ∀ k, told a k u (.proceed s.stops.length :: late) = []
  /-- and makes no more steps. -/
  once : .proceed s.stops.length ∉ late

/-- What a stop of a server in state `s` has left behind when it has ended, along the steps `after` to state `t`. -/
structure Halted (a : Application) (s : State) (after : List Label) (t : State) : Prop where
  registry : t.hub.registry = {}
  quiet : t.quiet = true
  running : t.running = false
  address : t.address = none
  monitors : t.current = none ∧ ∀ (j : Nat) (m : Monitor), t.monitors[j]? = some m → m.Over
  closed : ∀ k ∈ s.hub.registry.keys, ∃ x, t.hub.session? k = some x ∧ x.closed = true
  /-- A session that was open, and on whose lane nobody was writing, got the notice if it was left alone. -/
  notice : ∀ k ∈ s.hub.registry.keys, ∀ x frame, s.stopMonitor.hub.session? k = some x → x.closed = false → x.Idle →
    a.framing.encode (textBytes a.settings.shutdownNotice) = .ok frame →
    Untouched a k s.stops.length (s.stop a) after → ∃ before u v y, Delivery a s k x frame after before u v y
  farewell : ∃ before late u v, Farewell a s after before late u v
  /-- Until it ends it tells nothing. -/
  silent : (s.stop a).journal = s.journal ∧ ∀ before late u v, after = before ++ .proceed s.stops.length :: late →
    play a (s.stop a) before = some u → step a u (.proceed s.stops.length) = some v → ¬ v.Returned s.stops.length →
    v.journal = u.journal
  /-- No task makes a step until the next call to serve, and no session is told of. -/
  still : ∀ l v, step a t l = some v → l.serves = false → (∀ k, l ≠ .task k) ∧
    ∃ rs, v.journal = t.journal ++ rs ∧ ∀ r ∈ rs, ∃ e : Event, r = .event e ∧ e.source = .server
  again : t.Unmoved (t.stop a) ∧ ∀ more u v, (∀ l ∈ more, l.serves = false) → play a (t.stop a) more = some u →
    step a u (.proceed t.stops.length) = some v → u.Unmoved v

section Halted

theorem State.Proceeds.journal {c : Stopping} (does : s.Proceeds a i c t) (hc : s.stops[i]? = some c) :
    (¬ t.Returned i → t.journal = s.journal) ∧ (t.Returned i → t.journal = s.journal ++ State.Stopping.farewell c) := by
  have bound : i < s.stops.length := (List.getElem?_eq_some_iff.mp hc).1
  have going {t : State} {p : Stopping.Phase} (same : t.stops = s.stops.set i { c with phase := p })
      (other : p ≠ .ended) (returned : t.Returned i) : False := by
    obtain ⟨c', hc', ended⟩ := returned
    rw [same, List.getElem?_set_self bound] at hc'
    obtain rfl := Option.some.inj hc'
    exact other ended
  cases does with
  | clear => exact ⟨fun not => absurd ⟨_, List.getElem?_set_self bound, rfl⟩ not, fun _ => rfl⟩
  | notify => exact ⟨fun _ => rfl, fun returned => (going rfl (by split <;> simp) returned).elim⟩
  | lock | drain | closed | close => exact ⟨fun _ => rfl, fun returned => (going rfl (by simp) returned).elim⟩

theorem proceed_journal (h : step a s (.proceed i) = some t) {c : Stopping} (hc : s.stops[i]? = some c) :
    (¬ t.Returned i → t.journal = s.journal) ∧ (t.Returned i → t.journal = s.journal ++ State.Stopping.farewell c) := by
  cases step_turn h with
  | proceed _ d hd does =>
    obtain rfl : c = d := Option.some.inj (hc.symm.trans hd)
    exact does.journal hc

theorem returned_step (h : step a s l = some t) {c : Stopping} (hc : s.stops[i]? = some c) (before : ¬ s.Returned i)
    (returned : t.Returned i) : l = .proceed i := by
  obtain ⟨c', hc', ended⟩ := returned
  obtain ⟨d, hd, -, rfl | ⟨own, -⟩⟩ := step_stopping h hc
  · obtain rfl := Option.some.inj (hc'.symm.trans hd)
    exact absurd ⟨c', hc, ended⟩ before
  · exact own

theorem farewell_of_returned (rest : play a (s.stop a) after = some t) (unserved : ∀ l ∈ after, l.serves = false)
    (returned : t.Returned s.stops.length) : ∃ before late u v, Farewell a s after before late u v := by
  have begun : ¬ (s.stop a).Returned s.stops.length := by
    rintro ⟨c, hc, ended⟩
    obtain rfl := Option.some.inj ((last_stop a s).symm.trans hc)
    cases ended
  obtain ⟨before, l, late, u, v, split, hu, hv, on, notYet, now⟩ :=
    play_first (P := fun u => u.Returned s.stops.length) rest begun returned
  obtain ⟨c, hc, was⟩ := stopping_play hu (last_stop a s)
  obtain rfl := returned_step hv hc notYet now
  have first {m : Label} (hm : m ∈ before) : m.serves = false := unserved m (by simp [split, hm])
  have later {m : Label} (hm : m ∈ late) : m.serves = false := unserved m (by simp [split, hm])
  have stopped : v.Stopped :=
    ((halts_play hu (fun m hm => first hm) (halts_stop a s)).step hv rfl).returned now
  refine ⟨before, late, u, v, split, hu, hv, ⟨notYet, now⟩, ?_, fun k => ?_, (returned_play on now).2⟩
  · rw [(proceed_journal hv hc).2 now]
    unfold State.Stopping.farewell
    rw [was]
  · have silent : noted k (.proceed s.stops.length) u v = [] := noted_other rfl
    simp only [told, hv, silent, told_stopped on (fun m hm => later hm) stopped, List.append_nil]

/-- When a stop has ended, nobody is registered, no task is left, and nothing happens to a session until the next call
to serve. -/
theorem halted (run : play a {} ls = some s) (rest : play a (s.stop a) after = some t)
    (unserved : ∀ l ∈ after, l.serves = false) (returned : t.Returned s.stops.length) : Halted a s after t := by
  have called : play a {} (ls ++ [.stop]) = some (s.stop a) := play_concat.mpr ⟨s, run, rfl⟩
  have whole := play_trans called rest
  have stopped : t.Stopped := (halts_play rest unserved (halts_stop a s)).returned returned
  have attended := play_attended whole
  have current : t.current = none := attended.idle stopped.running
  have closed : ∀ k ∈ s.hub.registry.keys, ∃ x, t.hub.session? k = some x ∧ x.closed = true := by
    intro k hk
    obtain ⟨x, hx, closed | ⟨ticket, deadline, c, pending, hc, notifying, -⟩⟩ := closed_or_awaits run rest hk
    · exact ⟨x, hx, closed⟩
    · obtain ⟨d, hd, ended⟩ := returned
      obtain rfl := Option.some.inj (hc.symm.trans hd)
      rw [notifying] at ended
      cases ended
  constructor
  · exact stopped.registry
  · exact stopped.quiet
  · exact stopped.running
  · exact stopped.address
  · refine ⟨current, fun j m hm => attended.others j m hm ?_⟩
    rw [current]
    simp
  · exact closed
  · intro k hk x frame hx unclosed idle encoded untouched
    exact delivery run rest hk hx unclosed idle encoded untouched (closed k hk)
  · exact farewell_of_returned rest unserved returned
  · refine ⟨State.stop_journal a s, fun before late u v split hu hv going => ?_⟩
    obtain ⟨c, hc, -⟩ := stopping_play hu (last_stop a s)
    exact (proceed_journal hv hc).1 going
  · intro l v hv unserved
    have other := (quiet_step hv stopped.quiet stopped.running).2
    refine ⟨other, ?_⟩
    cases step_change hv with
    | apart _ _ apart => exact apart.journal
    | enroll i loop id peer hl holding unlocked running =>
      rw [stopped.running] at running
      cases running
    | task k => exact absurd rfl (other k)
  · obtain ⟨unmoved, vain⟩ := unmoved_stop (a := a) stopped current
    refine ⟨unmoved, fun more u v unserved hu hv => ?_⟩
    obtain ⟨stopped', c, hc, vain⟩ := vain_play hu unserved (stopped.step (l := .stop) rfl rfl) vain
    cases step_turn hv with
    | proceed _ d hd does =>
      obtain rfl : c = d := Option.some.inj (hc.symm.trans hd)
      exact (does.vain hc vain stopped').1

/-- A session that the stop closes first is left alone by everyone. -/
theorem untouched_of_closing (h : step a s (.proceed i) = some v)
    (closing : ∃ z, v.hub.session? k = some z ∧ z.closed = true) : Untouched a k i s (.proceed i :: after) := by
  intro before l late u w x split hu hw hx unclosed other network
  cases before with
  | nil => exact absurd (List.cons.inj split).1.symm other
  | cons first before =>
    obtain rfl := (List.cons.inj split).1
    rw [play, h] at hu
    obtain ⟨z, hz, closed⟩ := closing
    obtain ⟨x', _, hx', path⟩ := play_session hu hz
    obtain rfl : x' = x := Option.some.inj (hx'.symm.trans hx)
    rw [path.closed closed] at unclosed
    cases unclosed

def awaiting : List Label :=
  [.serve "127.0.0.1:7000" 7000, .connect 0 "s" "127.0.0.1:50000", .enroll 0, .task 0, .task 0, .widen 0 100]

def leave : List Label := .proceed 0 :: (List.replicate 5 (.task 0) ++ List.replicate 3 (.proceed 0))

/-- A session that waits for messages gets the notice, and its task takes leave of it before the stop ends. -/
theorem halted_awaiting : ∃ s t x, play quietServer {} awaiting = some s ∧ s.hub.registry.keys = [0] ∧
    play quietServer (s.stop quietServer) leave = some t ∧ Halted quietServer s leave t ∧
    Untouched quietServer 0 0 (s.stop quietServer) leave ∧
    t.hub.session? 0 = some x ∧ x.lane.wire = textBytes "Server is shutting down. Goodbye!\n" := by
  have possible : (play quietServer {} awaiting).any (fun s => s.hub.registry.keys = [0] ∧ s.stops = [] ∧
      (step quietServer (s.stop quietServer) (.proceed 0)).any (fun v => (v.hub.session? 0).any (·.closed)) ∧
      (play quietServer (s.stop quietServer) leave).any (fun t => t.stops[0]?.any (·.phase = .ended) ∧
        (t.hub.session? 0).any (·.lane.wire = textBytes "Server is shutting down. Goodbye!\n"))) = true := by
    decide +kernel
  simp only [Option.any_eq_true, decide_eq_true_eq] at possible
  obtain ⟨s, hs, keys, none, ⟨v, hv, closing⟩, t, rest, ⟨c, hc, ended⟩, x, hx, wire⟩ := possible
  have first : s.stops.length = 0 := by rw [none, List.length_nil]
  have returned : t.Returned s.stops.length := ⟨c, by rwa [first], ended⟩
  exact ⟨s, t, x, hs, keys, rest, halted hs rest (by decide) returned, untouched_of_closing hv closing, hx, wire⟩

end Halted
end Server
end FrameServer
