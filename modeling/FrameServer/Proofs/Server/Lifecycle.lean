import FrameServer.Proofs.Server.Seen

namespace FrameServer.Server

open Connection

variable {a : Application} {k : SessionKey} {s t : State} {l : Label} {ls : List Label}

/-- A session that has left the registry does not come back. -/
theorem absent_step (h : step a s l = some t) (hs : s.Standing)
    (absent : k < s.connections.length ∧ k ∉ s.hub.registry.keys) :
    k < t.connections.length ∧ k ∉ t.hub.registry.keys := by
  obtain ⟨bound, absent⟩ := absent
  cases step_change h with
  | apart _ _ apart =>
    rw [apart.length]
    exact ⟨bound, fun hk => absent ((apart.hub.registry.map Prod.snd).subset hk)⟩
  | enroll i loop id peer =>
    constructor
    · rw [State.addSession_connections, List.length_append]
      exact Nat.lt_add_right _ bound
    · rw [State.addSession_registry]
      intro hk
      obtain ⟨⟨j, n⟩, hp, rfl⟩ := List.mem_map.mp hk
      rw [Registry.entries_insert] at hp
      rcases mem_place hp with he | hp
      · obtain ⟨-, rfl⟩ := Prod.mk.inj he
        rw [hs.paired] at bound
        exact Nat.lt_irrefl _ bound
      · exact absent (List.mem_map.mpr ⟨_, hp, rfl⟩)
  | task _ _ _ _ _ _ _ _ effect =>
    rw [List.length_set]
    exact ⟨bound, fun hk => absent ((effect.leads.registry.map Prod.snd).subset hk)⟩

theorem absent_play (h : play a s ls = some t) (hs : s.Standing)
    (absent : k < s.connections.length ∧ k ∉ s.hub.registry.keys) : k ∉ t.hub.registry.keys := by
  have kept : t.Standing ∧ k < t.connections.length ∧ k ∉ t.hub.registry.keys :=
    play_invariant (P := fun s => s.Standing ∧ k < s.connections.length ∧ k ∉ s.hub.registry.keys)
      (fun hl hp => ⟨hp.1.step hl, absent_step hl hp.1 hp.2⟩) h ⟨hs, absent⟩
  exact kept.2.2

theorem absent_remove {x : Session} (hs : s.Standing) (hx : s.hub.session? k = some x) :
    k ∉ (s.hub.registry.remove x.id).keys := by
  intro hk
  obtain ⟨⟨i, j⟩, hp, rfl⟩ := List.mem_map.mp hk
  obtain ⟨hp, other⟩ := List.mem_filter.mp hp
  obtain ⟨y, hy, rfl⟩ := hs.registry i j hp
  obtain rfl : x = y := Option.some.inj (hx.symm.trans hy)
  simp at other

theorem step_leaving {x : Session} {c : Connection} {reason : CloseReason} (hc : s.connection? k = some c)
    (hx : s.hub.session? k = some x) (phase : c.phase = .leaving reason) :
    ∃ t, step a s (.task k) = some t ∧ t.hub.registry = s.hub.registry.remove x.id ∧
      t.connections.length = s.connections.length ∧ t.journal = s.journal := by
  have taken : c.step a k x s.hub =
      some ({ s.hub with registry := s.hub.registry.remove x.id }, { c with phase := .parting reason }, []) := by
    simp only [Connection.step, phase, enter]
  refine ⟨{ s with
    hub := { s.hub with registry := s.hub.registry.remove x.id }
    connections := s.connections.set k { c with phase := .parting reason }
    journal := s.journal ++ [] }, ?_, rfl, List.length_set, List.append_nil _⟩
  simp only [step, State.task, hc, hx, taken, Option.bind_eq_bind, Option.bind_some]
  rfl

/-- The hooks and events of a session are all told by its own task. -/
theorem journal_eq (h : play a {} ls = some t) (id : SessionId)
    (alone : ∀ j x, t.hub.session? j = some x → x.id = id → j = k) :
    t.journal.filter (Record.concerns id) = (told a k {} ls).filter (Record.concerns id) := by
  induction ls using List.reverseRecOn generalizing t with
  | nil =>
    obtain rfl := Option.some.inj h
    rfl
  | append_singleton ls l ih =>
    obtain ⟨s, hs, hl⟩ := play_concat.mp h
    have change := step_change hl
    have before := ih hs fun j x hx hi => by
      obtain ⟨x', ms, hx', path⟩ := change.session.2 j x hx
      exact alone j x' hx' (path.id_eq.trans hi)
    rw [told_concat hs hl, List.filter_append, ← before]
    cases change with
    | apart _ other apart =>
      obtain ⟨rs, hr, server⟩ := apart.journal
      have silent : rs.filter (Record.concerns id) = [] := by
        rw [List.filter_eq_nil_iff]
        intro r hm hc
        obtain ⟨e, rfl, he⟩ := server r hm
        simp [Record.concerns, he] at hc
      rw [noted_other (isTask_false (other k)), hr, List.filter_append, silent]
      rfl
    | enroll =>
      rw [noted_other rfl]
      simp
    | task j c c' x h' records hc hx effect =>
      rw [List.filter_append]
      congr 1
      by_cases e : j = k
      · subst e
        simp [noted, Label.isTask]
      · rw [noted_other (isTask_false (by simpa using e)), List.filter_nil, List.filter_eq_nil_iff]
        intro r hm hc
        obtain ⟨x', ms, hx', path⟩ := effect.leads.session j x hx
        exact e (alone j x' hx' (path.id_eq.trans (effect.concerns hm hc)))

section Whole

variable {x : Session} {rounds : List Round} {e : Ending}

def wholeStory (a : Application) (x : Session) (rounds : List Round) (e : Ending) : List Record :=
  greeting a x ++ served x.id rounds ++ e.records a x.id ++ farewell a x.id e.reason

theorem called_whole {h : Hook} (connect : h ≠ .connect) (disconnect : h ≠ .disconnect) :
    Called x.id h (wholeStory a x rounds e) ↔ Called x.id h (e.records a x.id) := by
  simp only [wholeStory, greeting, farewell, called_append, called_hooks, connect, disconnect, openEvent, closeEvent,
    not_called_event, not_called_served, or_false, false_or]

theorem called_timeout : Called x.id .timeout (wholeStory a x rounds e) ↔ e.reason = .timeout := by
  rw [called_whole (by simp) (by simp)]
  cases e with
  | complete | cancelled => simp [Ending.records, Ending.reason, Called]
  | timedOut => simp [Ending.records, Ending.reason, called_hooks]
  | broken => simp [Ending.records, Ending.reason, errorEvent, not_called_event]
  | corrupt => simp [Ending.records, Ending.reason, called_append, called_hooks, errorEvent, not_called_event]

theorem called_protocolError (err : FrameError) :
    Called x.id (.protocolError err) (wholeStory a x rounds e) ↔ e = .corrupt err := by
  rw [called_whole (by simp) (by simp)]
  cases e with
  | complete | cancelled => simp [Ending.records, Called]
  | timedOut => simp [Ending.records, called_hooks]
  | broken => simp [Ending.records, errorEvent, not_called_event]
  | corrupt => simp [Ending.records, called_append, called_hooks, errorEvent, not_called_event, eq_comm]

theorem count_records (kind : Event.Kind) :
    (e.records a x.id).countP (Record.isEvent kind) = if e.reason = .error ∧ .sessionError = kind then 1 else 0 := by
  cases e with
  | complete | cancelled => simp [Ending.records, Ending.reason]
  | timedOut => simp only [Ending.records, Ending.reason, count_hooks, reduceCtorEq, false_and, if_false]
  | broken => simp only [Ending.records, Ending.reason, errorEvent, count_event, true_and]
  | corrupt =>
    simp only [Ending.records, Ending.reason, List.countP_append, count_hooks, errorEvent, count_event, true_and,
      Nat.zero_add]

theorem count_whole {kind : Event.Kind} (other : kind ≠ .messageReceived) :
    (wholeStory a x rounds e).countP (Record.isEvent kind) =
      (if .sessionOpen = kind then 1 else 0) + (if e.reason = .error ∧ .sessionError = kind then 1 else 0) +
        (if .sessionClose = kind then 1 else 0) := by
  simp only [wholeStory, greeting, farewell, List.countP_append, count_hooks, openEvent, closeEvent, count_event,
    count_records, count_served rounds other, Nat.zero_add, Nat.add_zero]

end Whole

/-- The life of session `k`, which ended as `e`: up to the step that removed it from the registry, and after. -/
structure Lifecycle (a : Application) (k : SessionKey) (ls : List Label) (t : State) (x : Session)
    (before after : List Label) (rounds : List Round) (e : Ending) : Prop where
  split : ls = before ++ .task k :: after
  whole : told a k {} ls = wholeStory a x rounds e
  ran : ∀ r ∈ rounds, r.Ran a x.id
  earlier : told a k {} before = greeting a x ++ served x.id rounds ++ e.records a x.id
  removal : ∃ u v y c, play a {} before = some u ∧ u.hub.session? k = some y ∧ u.connection? k = some c ∧
    e.Warrant y c ∧ step a u (.task k) = some v ∧ v.hub.registry = u.hub.registry.remove x.id ∧
    told a k v after = farewell a x.id e.reason
  absent : ∀ early late v, after = early ++ late → play a {} (before ++ .task k :: early) = some v →
    k ∉ v.hub.registry.keys
  shutdowns : x.lane.released = true ∧ shutdowns a k {} ls = 1
  timeout : Called x.id .timeout (told a k {} ls) ↔ e.reason = .timeout
  protocolError : ∀ err, Called x.id (.protocolError err) (told a k {} ls) ↔ e = .corrupt err
  errors : (told a k {} ls).countP (Record.isEvent .sessionError) = if e.reason = .error then 1 else 0
  closes : (told a k {} ls).countP (Record.isEvent .sessionClose) = 1
  /-- Nothing else is seen of the session, if no other has its id. -/
  alone : (∀ j y, t.hub.session? j = some y → y.id = x.id → j = k) →
    t.journal.filter (Record.concerns x.id) = (wholeStory a x rounds e).filter (Record.concerns x.id)

/-- The life of a connection whose task runs to its end, whatever else happens meanwhile. -/
theorem lifecycle {c : Connection} {x : Session} (run : play a {} ls = some t) (hc : t.connection? k = some c)
    (hx : t.hub.session? k = some x) (ended : c.phase = .ended) :
    ∃ before after rounds e, Lifecycle a k ls t x before after rounds e := by
  have story := (play_told run).story c x hc hx
  rw [ended] at story
  obtain ⟨released, reason, before, after, u, y, d, e, h⟩ := story
  obtain ⟨trace, ⟨rounds, ran, rfl⟩, earlier⟩ := h.story
  have standing := play_standing h.run
  obtain ⟨v, hv, registry, length, journal⟩ := step_leaving h.connection h.session h.phase
  have on : play a u (.task k :: after) = some t := by
    rw [h.split, play_append, h.run] at run
    exact run
  have same : y.id = x.id := by
    obtain ⟨x', ms, hx', path⟩ := play_session on h.session
    obtain rfl : x' = x := Option.some.inj (hx'.symm.trans hx)
    exact path.id_eq.symm
  have gone : k < v.connections.length ∧ k ∉ v.hub.registry.keys := by
    constructor
    · rw [length]
      exact (List.getElem?_eq_some_iff.mp h.connection).1
    · rw [registry]
      exact absent_remove standing h.session
  have tail : told a k u (.task k :: after) = farewell a x.id e.reason := by rw [h.tail, h.reason]
  have whole : told a k {} ls = wholeStory a x rounds e := by
    rw [h.split, told_append h.run, earlier, tail]
    rfl
  refine ⟨before, after, rounds, e, h.split, whole, ran, earlier, ?_, ?_, ⟨released, ?_⟩, ?_, ?_, ?_, ?_, ?_⟩
  · refine ⟨u, v, y, d, h.run, h.session, h.connection, h.warrant, hv, same ▸ registry, ?_⟩
    have silent : noted k (.task k) u v = [] := by simp [noted, Label.isTask, journal]
    simp only [told, hv, silent, List.nil_append] at tail
    exact tail
  · intro early late w he hw
    simp only [play_append, h.run, Option.bind_some, play, hv] at hw
    exact absent_play hw (standing.step hv) gone
  · have count := shutdowns_eq (k := k) run
    rw [released_eq hx, released] at count
    simpa [State.released, Hub.session?] using count
  · rw [whole]
    exact called_timeout
  · intro err
    rw [whole]
    exact called_protocolError err
  · rw [whole, count_whole (by simp)]
    simp
  · rw [whole, count_whole (by simp)]
    simp
  · intro alone
    rw [← whole]
    exact journal_eq run x.id alone

def quietServer : Application := { handler := fun _ => .done (.ok none), chain := .ofList [] }

def oneMessage : List Label :=
  [.serve "127.0.0.1:7000" 7000, .connect 0 "s" "127.0.0.1:50000", .enroll 0, .task 0, .task 0,
    .arrive 0 (textBytes "hi\n"), .finish 0 .eof, .pump 0 (.read 3), .pump 0 .decode, .pump 0 .decode,
    .pump 0 .finish, .pump 0 .decode] ++ List.replicate 8 (.task 0)

theorem lifecycle_oneMessage : ∃ t x before after rounds e, play quietServer {} oneMessage = some t ∧
    t.hub.session? 0 = some x ∧ Lifecycle quietServer 0 oneMessage t x before after rounds e := by
  have last : ((play quietServer {} oneMessage).bind fun t => t.connection? 0).any (·.phase matches .ended) = true := by
    decide +kernel
  have there : ((play quietServer {} oneMessage).bind fun t => t.hub.session? 0).isSome = true := by decide +kernel
  obtain ⟨x, hx⟩ := Option.isSome_iff_exists.mp there
  obtain ⟨t, run, hx⟩ := Option.bind_eq_some_iff.mp hx
  rw [run, Option.bind_some] at last
  cases hc : t.connection? 0 with
  | none => simp [hc] at last
  | some c =>
    have ended : c.phase = .ended := by
      rw [hc, Option.any_some] at last
      cases hp : c.phase with
      | ended => rfl
      | _ => simp [hp] at last
    obtain ⟨before, after, rounds, e, life⟩ := lifecycle run hc hx ended
    exact ⟨t, x, before, after, rounds, e, run, hx, life⟩

end FrameServer.Server
