import FrameServer.Proofs.Server.Common
import FrameServer.Proofs.Server.Lifecycle

namespace FrameServer.Server

open Connection

/-- Every call to serve began when no stop was under way. -/
def Orderly (a : Application) (ls : List Label) : Prop :=
  ∀ before l u, before ++ [l] <+: ls → l.serves = true → play a {} before = some u → ∀ c ∈ u.stops, c.phase = .ended

/-- No two sessions have the same id. -/
def State.Distinct (s : State) : Prop :=
  ∀ j k x y, s.hub.session? j = some x → s.hub.session? k = some y → x.id = y.id → j = k

/-- The task has not begun to take leave of its session. -/
def Phase.isEnlisted : Phase → Bool
  | .parting _ | .closing _ | .shuttingDown _ | .ended | .aborted => false
  | _ => true

variable {a : Application} {s t u v : State} {l : Label} {ls ms : List Label} {i : Nat} {k : SessionKey}
  {c c' : Connection} {x : Session}

section Histories

theorem Orderly.part (h : Orderly a ls) (part : ms <+: ls) : Orderly a ms :=
  fun before l u serving => h before l u (serving.trans part)

theorem orderly_of_first (rest : ∀ m ∈ ls, m.serves = false) : Orderly a (l :: ls) := by
  intro before m u part serving hu c hc
  obtain ⟨after, split⟩ := part
  cases before with
  | nil =>
    obtain rfl := Option.some.inj hu
    cases hc
  | cons first before =>
    simp only [List.cons_append, List.append_assoc, List.cons.injEq] at split
    have later : m ∈ ls := by
      rw [← split.2]
      simp
    rw [rest m later] at serving
    cases serving

theorem State.Distinct.back (h : step a s l = some t) (distinct : t.Distinct) : s.Distinct := by
  intro j k x y hx hy same
  have change := step_change h
  obtain ⟨x', _, hx', px⟩ := change.session.2 j x hx
  obtain ⟨y', _, hy', py⟩ := change.session.2 k y hy
  exact distinct j k x' y' hx' hy' (by rw [px.id_eq, py.id_eq, same])

theorem State.Distinct.play_back (h : play a s ls = some t) (distinct : t.Distinct) : s.Distinct := by
  induction ls generalizing s with
  | nil =>
    obtain rfl := Option.some.inj h
    exact distinct
  | cons l ls ih =>
    obtain ⟨u, hu, h⟩ := Option.bind_eq_some_iff.mp h
    exact (ih h).back hu

/-- While a stop is under way the server is not running, and when it clears the registry all tasks have ended. -/
theorem play_stopping (orderly : Orderly a ls) (run : play a {} ls = some t) {st : Stopping} (hst : st ∈ t.stops) :
    (st.phase ≠ .ended → t.running = false) ∧ (∀ left k?, st.phase = .clearing left k? → t.quiet = true) := by
  induction ls using List.reverseRecOn generalizing t st with
  | nil =>
    obtain rfl := Option.some.inj run
    cases hst
  | append_singleton ls l ih =>
    obtain ⟨s, hs, hl⟩ := play_concat.mp run
    have before {st : Stopping} (hst : st ∈ s.stops) := ih (orderly.part (List.prefix_append _ _)) hs hst
    have idle {st : Stopping} (hst : st ∈ s.stops) (going : st.phase ≠ .ended) :
        s.running = false ∧ l.serves = false := by
      refine ⟨(before hst).1 going, ?_⟩
      cases serving : l.serves with
      | false => rfl
      | true => exact absurd (orderly ls l s List.prefix_rfl serving hs st hst) going
    obtain ⟨i, hi⟩ := List.mem_iff_getElem?.mp hst
    rcases stopping_back hl hi with ⟨was, hwas, rfl | ⟨rfl, does⟩⟩ | ⟨rfl, pending, deadline, phase⟩
    · have there : st ∈ s.stops := List.mem_of_getElem? hwas
      refine ⟨fun going => step_idle hl (idle there going).2 (idle there going).1, fun left k? phase => ?_⟩
      have going : st.phase ≠ .ended := by rw [phase]; simp
      exact (quiet_step hl ((before there).2 left k? phase) (idle there going).1).1
    · have there : was ∈ s.stops := List.mem_of_getElem? hwas
      obtain ⟨going, clears⟩ := does.clearing hwas hi
      refine ⟨fun _ => step_idle hl rfl (idle there going).1, fun left k? phase => ?_⟩
      rcases clears left k? phase with quiet | ⟨same, left', k?', phase⟩
      · exact quiet
      · unfold State.quiet
        rw [same]
        exact (before there).2 left' k?' phase
    · refine ⟨fun _ => (step_signals hl).2.2, fun left k? clearing => ?_⟩
      rw [phase] at clearing
      cases clearing

end Histories

section Enrolling

/-- The step that admits session `k`. -/
structure Admission (a : Application) (k : SessionKey) (s t : State) (i : Nat) (id : SessionId) (peer : String) :
    Prop where
  running : s.running = true
  room : s.hub.registry.size < a.settings.maxConnections
  new : s.connection? k = none ∧ s.hub.session? k = none ∧ k ∉ s.hub.registry.keys
  connections : t.connections = s.connections ++ [admitted a.settings]
  connection : t.connection? k = some (admitted a.settings)
  session : t.hub.session? k = some (State.newcomer a s.hub.clock id peer)
  /-- It is registered beside the others, in place of none. -/
  registry : t.hub.registry.entries = s.hub.registry.entries ++ [(id, k)]
  journal : t.journal = s.journal

theorem unregistered (standing : s.Standing) (none : s.connection? k = none) : k ∉ s.hub.registry.keys := by
  intro hk
  obtain ⟨⟨i, j⟩, hp, rfl⟩ := List.mem_map.mp hk
  obtain ⟨x, hx, -⟩ := standing.registry i j hp
  have bound : j < s.hub.sessions.length := (List.getElem?_eq_some_iff.mp hx).1
  rw [← standing.paired] at bound
  exact absurd bound (Nat.not_lt.mpr (List.getElem?_eq_none_iff.mp none))

/-- A connection that was not there before was admitted in this step. -/
theorem admission_of_new (h : step a s l = some t) (standing : s.Standing) (distinct : t.Distinct)
    (none : s.connection? k = none) (hc' : t.connection? k = some c') :
    ∃ i id peer, l = .enroll i ∧ Admission a k s t i id peer := by
  have past : s.connections.length ≤ k := List.getElem?_eq_none_iff.mp none
  have bound : k < t.connections.length := (List.getElem?_eq_some_iff.mp hc').1
  have keep := (step_change h).session.2
  cases step_change h with
  | apart _ _ apart =>
    rw [apart.length] at bound
    exact absurd bound (Nat.not_lt.mpr past)
  | task =>
    rw [List.length_set] at bound
    exact absurd bound (Nat.not_lt.mpr past)
  | enroll i loop id peer hl holding unlocked running room =>
    rw [State.addSession_connections, List.length_append] at bound
    obtain rfl : k = s.connections.length := Nat.le_antisymm (Nat.lt_succ_iff.mp bound) past
    have last : s.connections.length = s.hub.sessions.length := standing.paired
    have there : ((s.setLoop i { loop with holding := Option.none }).addSession a id peer).hub.session?
        s.connections.length = some (State.newcomer a s.hub.clock id peer) := by
      rw [Hub.session?, State.addSession_sessions, last]
      exact List.getElem?_concat_length
    refine ⟨i, id, peer, rfl, running, room, ⟨none, ?_, unregistered standing none⟩, rfl, ?_, there, ?_, rfl⟩
    · exact List.getElem?_eq_none_iff.mpr (Nat.le_of_eq last.symm)
    · exact List.getElem?_concat_length
    · rw [State.addSession_registry, last, Registry.entries_insert]
      refine place_new fun p hp same => ?_
      obtain ⟨x, hx, hid⟩ := standing.registry p.1 p.2 hp
      obtain ⟨x', _, hx', path⟩ := keep p.2 x hx
      have twice := distinct p.2 _ x' _ hx' there (by rw [path.id_eq, hid, same]; rfl)
      have older : p.2 < s.hub.sessions.length := (List.getElem?_eq_some_iff.mp hx).1
      rw [twice, last] at older
      exact Nat.lt_irrefl _ older

end Enrolling

/-- Who is registered at any time. -/
structure State.Enlists (s : State) : Prop where
  stays : ∀ k c, s.connection? k = some c → c.phase.isEnlisted = true → k ∈ s.hub.registry.keys
  leaves : ∀ k c, s.connection? k = some c → k ∈ s.hub.registry.keys → c.phase.isEnlisted = true ∨ c.phase = .aborted

/-- The task of a connection takes leave of its session once. -/
theorem enlisted_of_effect {h h' : Hub} {records : List Record} (e : c.Effect a k x h h' c' records) :
    c.phase.isEnlisted = true ∧ (c'.phase.isEnlisted = true ∨ ∃ reason, c.phase = .leaving reason) ∨
      c.phase.isEnlisted = false ∧ c.phase ≠ .aborted ∧ c'.phase.isEnlisted = false := by
  cases e with
  | leave reason phase => exact .inl ⟨by rw [phase]; rfl, .inr ⟨reason, phase⟩⟩
  | part _ phase | close _ phase | finish _ phase =>
    refine .inr ⟨by rw [phase]; rfl, ?_, rfl⟩
    rw [phase]
    simp
  | silent w o phase | answered w o phase =>
    refine .inl ⟨by rw [phase]; rfl, .inl ?_⟩
    rcases pause_cases a h with paused | paused
    all_goals
      show (pause a h).isEnlisted = true
      rw [paused]
      rfl
  | cancel phase =>
    refine .inl ⟨by rcases phase with phase | phase <;> rw [phase] <;> rfl, .inl ?_⟩
    dsimp only
    split <;> rfl
  | connect phase | greet phase | receive _ _ phase | drained phase | work _ _ _ _ phase | answer _ _ phase
  | refused _ _ phase | broken _ _ _ _ phase | wake _ phase | complete phase | corrupt _ phase | timeout phase
  | fail _ phase => exact .inl ⟨by rw [phase]; rfl, .inl rfl⟩

/-- A step from the side of one connection: who is registered stays so, but for a leave, or for a stop that clears
the registry when all tasks have ended. -/
theorem registered_step (h : step a s l = some t) (standing : s.Standing) (distinct : t.Distinct)
    (hk : k ∈ s.hub.registry.keys) : k ∈ t.hub.registry.keys ∨
    (l = .task k ∧ ∃ c reason, s.connection? k = some c ∧ c.phase = .leaving reason) ∨
    ∃ i st, l = .proceed i ∧ s.stops[i]? = some st ∧ st.phase = .clearing [] none := by
  have registered := step_registered h
  generalize registry : t.hub.registry = r at registered ⊢
  cases registered with
  | same => exact .inl hk
  | enroll i id running room =>
    left
    rw [← registry]
    cases step_turn h with
    | refuse => exact hk
    | enroll i l hl id peer holding unlocked running room =>
      have last : ((s.setLoop i { l with holding := none }).addSession a id peer).connection? s.connections.length =
          some (admitted a.settings) := List.getElem?_concat_length
      obtain ⟨j, id', peer', -, admission⟩ :=
        admission_of_new h standing distinct (List.getElem?_eq_none_iff.mpr (Nat.le_refl _)) last
      unfold Registry.keys
      rw [admission.registry, List.map_append]
      exact List.mem_append_left _ hk
  | leave j c x reason hc hx phase =>
    by_cases e : j = k
    · subst e
      exact .inr (.inl ⟨rfl, c, reason, hc, phase⟩)
    · left
      obtain ⟨⟨id, k⟩, hp, rfl⟩ := List.mem_map.mp hk
      obtain ⟨y, hy, rfl⟩ := standing.registry id k hp
      refine List.mem_map.mpr ⟨(y.id, k), List.mem_filter.mpr ⟨hp, ?_⟩, rfl⟩
      have other : y.id ≠ x.id := fun same => e (distinct.back h j k x y hx hy same.symm)
      simpa using other
  | clear i st hst phase => exact .inr (.inr ⟨i, st, rfl, hst, phase⟩)

/-- No step registers a session that was there before. -/
theorem registered_back (h : step a s l = some t) (standing : s.Standing) (hc : s.connection? k = some c)
    (hk : k ∈ t.hub.registry.keys) : k ∈ s.hub.registry.keys := by
  by_contra absent
  have bound : k < s.connections.length := (List.getElem?_eq_some_iff.mp hc).1
  exact (absent_step h standing ⟨bound, absent⟩).2 hk

/-- The step in which the task begins to take leave of its session takes it out of the registry. -/
theorem leave_step {reason : CloseReason} (h : step a s (.task k) = some t) (standing : s.Standing)
    (hc : s.connection? k = some c) (phase : c.phase = .leaving reason) (hc' : t.connection? k = some c') :
    c'.phase = .parting reason ∧ k ∉ t.hub.registry.keys := by
  obtain ⟨x, h', records, hx, made, rfl⟩ := own_step h hc hc'
  simp only [Connection.step, phase] at made
  obtain ⟨rfl, rfl, -⟩ := of_enter made
  exact ⟨rfl, absent_remove standing hx⟩

theorem enlisted_back (h : step a s l = some t) (hc : s.connection? k = some c) (hc' : t.connection? k = some c')
    (enlisted : c'.phase.isEnlisted = true) : c.phase.isEnlisted = true := by
  cases task : l.isTask k with
  | false =>
    rcases phase_elsewhere h task hc hc' with same | aborted
    · rwa [← same]
    · rw [aborted] at enlisted
      cases enlisted
  | true =>
    obtain rfl := isTask_iff.mp task
    obtain ⟨x, h', records, hx, made, rfl⟩ := own_step h hc hc'
    rcases enlisted_of_effect (step_effect made) with ⟨was, -⟩ | ⟨-, -, gone⟩
    · exact was
    · rw [gone] at enlisted
      cases enlisted

theorem over_of_enlisted {p : Phase} (enlisted : p.isEnlisted = true) : p.isOver = false := by
  cases p <;> first | rfl | cases enlisted

theorem Enlists.stays_step (h : step a s l = some t) (standing : s.Standing) (distinct : t.Distinct)
    (clears : ∀ st ∈ s.stops, ∀ left k?, st.phase = .clearing left k? → s.quiet = true) (enlists : s.Enlists)
    (hc' : t.connection? k = some c') (enlisted : c'.phase.isEnlisted = true) : k ∈ t.hub.registry.keys := by
  cases hc : s.connection? k with
  | none =>
    obtain ⟨i, id, peer, -, admission⟩ := admission_of_new h standing distinct hc hc'
    unfold Registry.keys
    rw [admission.registry, List.map_append]
    exact List.mem_append_right _ (List.mem_singleton.mpr rfl)
  | some c =>
    have was : c.phase.isEnlisted = true := enlisted_back h hc hc' enlisted
    rcases registered_step h standing distinct (enlists.stays k c hc was) with there | left | ⟨i, st, rfl, hst, phase⟩
    · exact there
    · obtain ⟨rfl, d, reason, hd, phase⟩ := left
      rw [(leave_step h standing hd phase hc').1] at enlisted
      cases enlisted
    · have quiet := clears st (List.mem_of_getElem? hst) _ _ phase
      have finished : c.phase.isOver = true := quiet_iff.mp quiet k c hc
      rw [over_of_enlisted was] at finished
      cases finished

theorem Enlists.leaves_step (h : step a s l = some t) (standing : s.Standing) (distinct : t.Distinct)
    (enlists : s.Enlists) (hc' : t.connection? k = some c') (hk : k ∈ t.hub.registry.keys) :
    c'.phase.isEnlisted = true ∨ c'.phase = .aborted := by
  cases hc : s.connection? k with
  | none =>
    obtain ⟨i, id, peer, -, admission⟩ := admission_of_new h standing distinct hc hc'
    obtain rfl := Option.some.inj (admission.connection.symm.trans hc')
    exact .inl rfl
  | some c =>
    have before := enlists.leaves k c hc (registered_back h standing hc hk)
    cases task : l.isTask k with
    | false =>
      rcases phase_elsewhere h task hc hc' with same | aborted
      · rwa [same]
      · exact .inr aborted
    | true =>
      obtain rfl := isTask_iff.mp task
      obtain ⟨x, h', records, hx, made, rfl⟩ := own_step h hc hc'
      rcases enlisted_of_effect (step_effect made) with ⟨-, enlisted | ⟨reason, phase⟩⟩ | ⟨gone, alive, -⟩
      · exact .inl enlisted
      · exact absurd hk (leave_step h standing hc phase hc').2
      · rcases before with enlisted | aborted
        · rw [gone] at enlisted
          cases enlisted
        · exact absurd aborted alive

theorem play_enlists (orderly : Orderly a ls) (run : play a {} ls = some t) (distinct : t.Distinct) : t.Enlists := by
  induction ls using List.reverseRecOn generalizing t with
  | nil =>
    obtain rfl := Option.some.inj run
    exact ⟨fun k c hc => (by cases hc), fun k c hc => (by cases hc)⟩
  | append_singleton ls l ih =>
    obtain ⟨s, hs, hl⟩ := play_concat.mp run
    have part := orderly.part (List.prefix_append ls [l])
    have standing := play_standing hs
    have enlists := ih part hs (distinct.back hl)
    have clears : ∀ st ∈ s.stops, ∀ left k?, st.phase = .clearing left k? → s.quiet = true :=
      fun st hst => (play_stopping part hs hst).2
    constructor
    · intro k c' hc' enlisted
      exact Enlists.stays_step hl standing distinct clears enlists hc' enlisted
    · intro k c' hc' hk
      exact Enlists.leaves_step hl standing distinct enlists hc' hk

/-- There is room for every session that is admitted. -/
theorem play_size (run : play a {} ls = some t) : t.hub.registry.size ≤ a.settings.maxConnections := by
  refine play_invariant (P := fun s => s.hub.registry.size ≤ a.settings.maxConnections) (fun {s t l} hl le => ?_) run
    (Nat.zero_le _)
  have registered := step_registered hl
  generalize t.hub.registry = r at registered ⊢
  cases registered with
  | same => exact le
  | enroll i id running room =>
    rw [Registry.size, Registry.entries_insert]
    exact length_place_le.trans room
  | leave => exact Nat.le_trans (List.length_filter_le _ _) le
  | clear => exact Nat.zero_le _

/-- The registry along a run that led to `t`. -/
structure Membership (a : Application) (ls : List Label) (t : State) : Prop where
  limit : t.hub.registry.size ≤ a.settings.maxConnections
  /-- Every session has one connection, and was registered when it was admitted, before its task did anything; no other
  step of the run registers it. -/
  entered : ∀ k c, t.connection? k = some c → ∃ before i after u v id peer, ls = before ++ .enroll i :: after ∧
    play a {} before = some u ∧ step a u (.enroll i) = some v ∧ Admission a k u v i id peer ∧
    told a k {} (before ++ [.enroll i]) = [] ∧ v.journal.filter (Record.concerns id) = [] ∧
    ∀ before' l after' u' v', ls = before' ++ l :: after' → play a {} before' = some u' → step a u' l = some v' →
      k ∉ u'.hub.registry.keys → k ∈ v'.hub.registry.keys → before' = before
  /-- It is registered until its task begins to take leave of it. -/
  stays : ∀ k c, t.connection? k = some c → c.phase.isEnlisted = true → k ∈ t.hub.registry.keys
  leaves : ∀ k c, t.connection? k = some c → k ∈ t.hub.registry.keys → c.phase.isEnlisted = true ∨ c.phase = .aborted
  /-- It leaves the registry in that step, or when a stop that has ended its task clears it, and never comes back. -/
  left : ∀ before l after u v k, ls = before ++ l :: after → play a {} before = some u → step a u l = some v →
    k ∈ u.hub.registry.keys → k ∉ v.hub.registry.keys →
    (∃ c, u.connection? k = some c ∧ ((l = .task k ∧ ∃ reason, c.phase = .leaving reason) ∨
      c.phase = .aborted ∧ ∃ i st, l = .proceed i ∧ u.stops[i]? = some st ∧ st.phase = .clearing [] none)) ∧
    ∀ early late w, after = early ++ late → play a v early = some w → k ∉ w.hub.registry.keys
  /-- A connection that is refused is let go by its loop, and nothing else comes of it. -/
  refused : ∀ i v, step a t (.enroll i) = some v → t.running = false ∨ a.settings.maxConnections ≤ t.hub.registry.size →
    ∃ l held, t.loops[i]? = some l ∧ l.holding = some held ∧ v = t.setLoop i { l with holding := none }

section Once

variable {before before' after after' : List Label} {l' : Label} {u' v' : State}

theorem not_longer (split : ls = before ++ l :: after) (split' : ls = before' ++ l' :: after')
    (hu : play a {} before = some u) (hv : step a u l = some v) (hu' : play a {} before' = some u')
    (there : v.hub.session? k ≠ none) (new : u'.hub.session? k = none) : ¬ before.length < before'.length := by
  intro longer
  have part : before ++ [l] <+: before' := by
    have one : before ++ [l] <+: ls := ⟨after, by rw [split, List.append_assoc]; rfl⟩
    have other : before' <+: ls := ⟨l' :: after', split'.symm⟩
    refine List.prefix_of_prefix_length_le one other ?_
    rw [List.length_append]
    exact longer
  obtain ⟨between, rfl⟩ := part
  rw [List.append_assoc] at hu'
  obtain ⟨s, w, hs, hw, rest⟩ := play_split hu'
  obtain rfl : s = u := Option.some.inj (hs.symm.trans hu)
  obtain rfl : w = v := Option.some.inj (hw.symm.trans hv)
  obtain ⟨x, hx⟩ := Option.ne_none_iff_exists'.mp there
  obtain ⟨x', _, hx', -⟩ := play_session rest hx
  rw [new] at hx'
  cases hx'

/-- A session begins in one step only. -/
theorem begins_once (split : ls = before ++ l :: after) (split' : ls = before' ++ l' :: after')
    (hu : play a {} before = some u) (hv : step a u l = some v) (hu' : play a {} before' = some u')
    (hv' : step a u' l' = some v') (new : u.hub.session? k = none) (there : v.hub.session? k ≠ none)
    (new' : u'.hub.session? k = none) (there' : v'.hub.session? k ≠ none) : before' = before := by
  have one := not_longer split split' hu hv hu' there new'
  have other := not_longer split' split hu' hv' hu there' new
  have same : before'.length = before.length := by omega
  exact (List.append_inj (split'.symm.trans split) same).1

end Once

/-- Whoever is registered has a session. -/
theorem session_of_registered (standing : s.Standing) (hk : k ∈ s.hub.registry.keys) : s.hub.session? k ≠ none := by
  obtain ⟨⟨i, j⟩, hp, rfl⟩ := List.mem_map.mp hk
  obtain ⟨x, hx, -⟩ := standing.registry i j hp
  rw [hx]
  exact Option.some_ne_none x

/-- Every connection was admitted in a step of the run. -/
theorem admission_of_play (run : play a {} ls = some t) (distinct : t.Distinct) (hc : t.connection? k = some c) :
    ∃ before i after u v id peer, ls = before ++ .enroll i :: after ∧ play a {} before = some u ∧
      step a u (.enroll i) = some v ∧ Admission a k u v i id peer := by
  induction ls using List.reverseRecOn generalizing t c with
  | nil =>
    obtain rfl := Option.some.inj run
    cases hc
  | append_singleton ls l ih =>
    obtain ⟨s, hs, hl⟩ := play_concat.mp run
    cases hd : s.connection? k with
    | none =>
      obtain ⟨i, id, peer, rfl, admission⟩ := admission_of_new hl (play_standing hs) distinct hd hc
      exact ⟨ls, i, [], s, t, id, peer, rfl, hs, hl, admission⟩
    | some d =>
      obtain ⟨before, i, after, u, v, id, peer, rfl, hu, hv, admission⟩ := ih hs (distinct.back hl) hd
      exact ⟨before, i, after ++ [l], u, v, id, peer, by simp, hu, hv, admission⟩

/-- Nothing was told of a session when it is admitted. -/
theorem silent_of_admission {id : SessionId} {peer : String} (hu : play a {} ls = some u)
    (hv : step a u (.enroll i) = some v) (distinct : v.Distinct) (admission : Admission a k u v i id peer) :
    told a k {} (ls ++ [.enroll i]) = [] ∧ v.journal.filter (Record.concerns id) = [] := by
  have run : play a {} (ls ++ [.enroll i]) = some v := play_concat.mpr ⟨u, hu, hv⟩
  have unsaid : told a k {} ls = [] := (play_told hu).before (List.getElem?_eq_none_iff.mp admission.new.1)
  have silent : told a k {} (ls ++ [.enroll i]) = [] := by
    rw [told_concat hu hv, unsaid]
    rfl
  refine ⟨silent, ?_⟩
  rw [journal_eq (k := k) run id fun j x hx same => distinct j k x _ hx admission.session same, silent]
  rfl

theorem left_of_step (orderly : Orderly a ls) (run : play a {} ls = some u) (h : step a u l = some v)
    (distinct : v.Distinct) (hk : k ∈ u.hub.registry.keys) (gone : k ∉ v.hub.registry.keys) :
    ∃ c, u.connection? k = some c ∧ ((l = .task k ∧ ∃ reason, c.phase = .leaving reason) ∨
      c.phase = .aborted ∧ ∃ i st, l = .proceed i ∧ u.stops[i]? = some st ∧ st.phase = .clearing [] none) := by
  have standing := play_standing run
  have enlists := play_enlists orderly run (distinct.back h)
  rcases registered_step h standing distinct hk with there | ⟨rfl, c, reason, hc, phase⟩ | ⟨i, st, rfl, hst, phase⟩
  · exact absurd there gone
  · exact ⟨c, hc, .inl ⟨rfl, reason, phase⟩⟩
  · obtain ⟨⟨id, j⟩, hp, rfl⟩ := List.mem_map.mp hk
    obtain ⟨x, hx, -⟩ := standing.registry id j hp
    have bound : j < u.connections.length := by
      rw [standing.paired]
      exact (List.getElem?_eq_some_iff.mp hx).1
    have hc : u.connection? j = some u.connections[j] := List.getElem?_eq_getElem bound
    refine ⟨_, hc, .inr ⟨?_, i, st, rfl, hst, phase⟩⟩
    have quiet := (play_stopping orderly run (List.mem_of_getElem? hst)).2 _ _ phase
    have finished := quiet_iff.mp quiet j _ hc
    rcases enlists.leaves j _ hc hk with enlisted | aborted
    · rw [over_of_enlisted enlisted] at finished
      cases finished
    · exact aborted

/-- A session is registered from the step that admits it to the one in which its own task begins to take leave of it, or
a stop clears the registry. There are never more of them than allowed. -/
theorem membership (run : play a {} ls = some t) (orderly : Orderly a ls) (distinct : t.Distinct) :
    Membership a ls t := by
  have enlists := play_enlists orderly run distinct
  constructor
  · exact play_size run
  · intro k c hc
    obtain ⟨before, i, after, u, v, id, peer, split, hu, hv, admission⟩ := admission_of_play run distinct hc
    have rest : play a v after = some t := by
      rw [split, List.append_cons] at run
      exact play_rest run (play_concat.mpr ⟨u, hu, hv⟩)
    obtain ⟨silent, unseen⟩ := silent_of_admission hu hv (distinct.play_back rest) admission
    refine ⟨before, i, after, u, v, id, peer, split, hu, hv, admission, silent, unseen, ?_⟩
    intro before' l after' u' v' split' hu' hv' absent there
    have there' : v.hub.session? k ≠ none := by
      rw [admission.session]
      exact Option.some_ne_none _
    have began : v'.hub.session? k ≠ none := session_of_registered ((play_standing hu').step hv') there
    have unborn : u'.hub.session? k = none := by
      rw [session_none_iff (play_standing hu')]
      cases hd : u'.connection? k with
      | none => rfl
      | some d => exact absurd (registered_back hv' (play_standing hu') hd there) absent
    exact begins_once split split' hu hv hu' hv' admission.new.2.1 there' unborn began
  · exact enlists.stays
  · exact enlists.leaves
  · intro before l after u v k split hu hv hk gone
    have rest : play a v after = some t := by
      rw [split, List.append_cons] at run
      exact play_rest run (play_concat.mpr ⟨u, hu, hv⟩)
    have part : before <+: ls := ⟨l :: after, split.symm⟩
    have standing := play_standing hu
    refine ⟨left_of_step (orderly.part part) hu hv (distinct.play_back rest) hk gone, ?_⟩
    intro early late w _ hw
    refine absent_play hw (standing.step hv) ⟨?_, gone⟩
    rw [(standing.step hv).paired]
    obtain ⟨x, hx⟩ := Option.ne_none_iff_exists'.mp (session_of_registered standing hk)
    obtain ⟨x', _, hx', -⟩ := (step_change hv).session.2 k x hx
    exact (List.getElem?_eq_some_iff.mp hx').1
  · intro i v hv why
    cases step_turn hv with
    | refuse _ l hl held holding => exact ⟨l, held, hl, holding, rfl⟩
    | enroll _ _ _ _ _ _ _ running room =>
      rcases why with stopped | full
      · rw [stopped] at running
        cases running
      · exact absurd room (Nat.not_lt.mpr full)

theorem distinct_of_one (one : s.hub.sessions.length ≤ 1) : s.Distinct := by
  intro j k x y hx hy _
  have first {n : SessionKey} {z : Session} (hz : s.hub.session? n = some z) : n = 0 :=
    Nat.lt_one_iff.mp (Nat.lt_of_lt_of_le (List.getElem?_eq_some_iff.mp hz).1 one)
  exact (first hx).trans (first hy).symm

/-- A session whose peer takes nothing is given up by a stop, step by step. -/
def cutShort : List Label :=
  [.serve "127.0.0.1:7000" 7000, .connect 0 "s" "127.0.0.1:50000", .enroll 0, .task 0, .task 0, .stop, .pass 5000,
    .proceed 0, .proceed 0, .pass 5000] ++ List.replicate 4 (.proceed 0)

theorem membership_cutShort : ∃ t c, play quietServer {} cutShort = some t ∧ Membership quietServer cutShort t ∧
    t.connection? 0 = some c ∧ c.phase.isOver = true ∧ t.hub.registry = {} := by
  have there : ((play quietServer {} cutShort).bind fun t => t.connection? 0).isSome = true := by decide +kernel
  have finished : ((play quietServer {} cutShort).bind fun t => t.connection? 0).all (·.phase.isOver) = true := by
    decide +kernel
  have size : (play quietServer {} cutShort).all
      (fun t => t.hub.sessions.length ≤ 1 ∧ t.hub.registry = {}) = true := by decide +kernel
  have first : Orderly quietServer cutShort := orderly_of_first (by decide)
  obtain ⟨c, hc⟩ := Option.isSome_iff_exists.mp there
  rw [hc, Option.all_some] at finished
  obtain ⟨t, run, hc⟩ := Option.bind_eq_some_iff.mp hc
  rw [run, Option.all_some, decide_eq_true_eq] at size
  exact ⟨t, c, run, membership run first (distinct_of_one size.1), hc, finished, size.2⟩

end FrameServer.Server
