import Mathlib.Data.List.Nodup
import FrameServer.Proofs.Server.Outbound

namespace FrameServer.Server

section Keys

variable {a : Application} {s t : State} {l : Label} {ls : List Label}

/-- An id is registered once at most. -/
theorem play_ids (run : play a {} ls = some t) : t.hub.registry.ids.Nodup := by
  refine play_invariant (P := fun s => s.hub.registry.ids.Nodup) (fun {s t l} hl once => ?_) run List.nodup_nil
  have registered := step_registered hl
  generalize t.hub.registry = r at registered ⊢
  cases registered with
  | same => exact once
  | enroll i id =>
    rw [Registry.ids, Registry.entries_insert]
    exact nodup_keys_place once
  | leave k c x => exact once.sublist (List.filter_sublist.map Prod.fst)
  | clear => exact List.nodup_nil

/-- So is a session. -/
theorem play_keys (run : play a {} ls = some t) : t.hub.registry.keys.Nodup := by
  have standing := play_standing run
  refine List.Nodup.map_on ?_ (List.Nodup.of_map _ (play_ids run))
  rintro ⟨i, k⟩ hp ⟨j, n⟩ hq same
  obtain rfl : k = n := same
  obtain ⟨x, hx, rfl⟩ := standing.registry i k hp
  obtain ⟨y, hy, rfl⟩ := standing.registry j k hq
  obtain rfl : x = y := Option.some.inj (hx.symm.trans hy)
  rfl

end Keys

section CloseNotified

variable {deadline : Nat} {ts : List (SessionKey × Ticket)} {h : Hub} {k : SessionKey} {t : Ticket} {x : Session}

theorem closeNotified_sublist (deadline : Nat) (ts : List (SessionKey × Ticket)) (h : Hub) :
    (State.closeNotified deadline ts h).1.Sublist ts := by
  induction ts generalizing h with
  | nil => exact .slnil
  | cons p ts ih =>
    unfold State.closeNotified
    dsimp only
    split
    · exact (ih _).cons p
    · exact (ih h).cons_cons p

theorem giveUp_elsewhere {j : SessionKey} (e : j ≠ k) (u : Ticket) :
    ((h.abandon j u).settle j).session? k = h.session? k :=
  (Hub.settle_elsewhere e).trans (Hub.move_elsewhere e _)

theorem closeNotified_elsewhere (other : k ∉ ts.map Prod.fst) :
    (State.closeNotified deadline ts h).2.session? k = h.session? k := by
  induction ts generalizing h with
  | nil => rfl
  | cons p ts ih =>
    obtain ⟨first, rest⟩ := List.ne_and_not_mem_of_not_mem_cons other
    have e : p.1 ≠ k := Ne.symm first
    unfold State.closeNotified
    dsimp only
    split
    · rw [ih rest, Hub.move_elsewhere e]
      split
      · rfl
      · exact giveUp_elsewhere e p.2
    · exact ih rest

theorem session_close (hx : h.session? k = some x) :
    ∃ y, (h.move k .close).session? k = some y ∧ y.closed = true :=
  ⟨x.close.2, Hub.session_move h k hx rfl, rfl⟩

/-- What a stop does with a session whose notice is done, or late. -/
theorem closed_elsewhere {j : SessionKey} (e : j ≠ k) (done : Bool) (u : Ticket) :
    ((if done then h else (h.abandon j u).settle j).move j .close).session? k = h.session? k := by
  rw [Hub.move_elsewhere e]
  split
  · rfl
  · exact giveUp_elsewhere e u

theorem closed_clock (j : SessionKey) (done : Bool) (u : Ticket) :
    ((if done then h else (h.abandon j u).settle j).move j .close).clock = h.clock := by
  rw [(Hub.steady_move _ j .close).clock]
  split
  · rfl
  · exact (h.steady_giveUp j u).clock

theorem closed_here (done : Bool) (hx : h.session? k = some x) :
    ∃ y, ((if done then h else (h.abandon k t).settle k).move k .close).session? k = some y ∧ y.closed = true := by
  split
  · exact session_close hx
  · obtain ⟨z, _, hz, -⟩ := (h.leads_giveUp k t).session k x hx
    exact session_close hz

/-- A session is closed if its notice is written or refused, or is late; else it is left as it is. -/
theorem closeNotified_here (deadline : Nat) (once : (ts.map Prod.fst).Nodup) (hk : (k, t) ∈ ts)
    (hx : h.session? k = some x) :
    (k, t) ∈ (State.closeNotified deadline ts h).1 ∧
        (State.closeNotified deadline ts h).2.session? k = some x ∨
      ((h.result? k t).isSome = true ∨ deadline ≤ h.clock) ∧
        ∃ y, (State.closeNotified deadline ts h).2.session? k = some y ∧ y.closed = true := by
  induction ts generalizing h with
  | nil => cases hk
  | cons p ts ih =>
    obtain ⟨others, once⟩ := List.nodup_cons.mp once
    unfold State.closeNotified
    dsimp only
    rcases List.mem_cons.mp hk with rfl | hk
    · split
      next done =>
        right
        refine ⟨by simpa using done, ?_⟩
        rw [closeNotified_elsewhere others]
        exact closed_here _ hx
      · left
        exact ⟨List.mem_cons_self, (closeNotified_elsewhere others).trans hx⟩
    · have e : p.1 ≠ k := by
        rintro rfl
        exact others (List.mem_map.mpr ⟨_, hk, rfl⟩)
      split
      · have kept := (closed_elsewhere (h := h) e (h.result? p.1 p.2).isSome p.2).trans hx
        have result {h' : Hub} (same : h'.session? k = some x) : h'.result? k t = h.result? k t := by
          unfold Hub.result?
          rw [same, hx]
        rw [← result kept, ← closed_clock (h := h) p.1 (h.result? p.1 p.2).isSome p.2]
        exact ih once hk kept
      · rcases ih once hk hx with ⟨kept, same⟩ | closed
        · exact .inl ⟨List.mem_cons_of_mem _ kept, same⟩
        · exact .inr closed

end CloseNotified

/-- Stop `i` still waits for the notice to session `k`, until the deadline. -/
def State.Awaits (s : State) (i : Nat) (k : SessionKey) (t : Ticket) (deadline : Nat) : Prop :=
  ∃ c pending, s.stops[i]? = some c ∧ c.phase = .notifying pending deadline ∧ (k, t) ∈ pending ∧
    (pending.map Prod.fst).Nodup

section Awaits

variable {a : Application} {s u v : State} {l : Label} {ls : List Label} {i : Nat} {k : SessionKey} {t : Ticket}
  {deadline : Nat} {x : Session}

/-- A session whose notice a stop waits for is left alone by the stop, or is closed. -/
theorem awaits_step (h : step a u l = some v) (awaits : u.Awaits i k t deadline) (hx : u.hub.session? k = some x) :
    v.Awaits i k t deadline ∧ (l = .proceed i → v.hub.session? k = some x) ∨
      l = .proceed i ∧ ((u.hub.result? k t).isSome = true ∨ deadline ≤ u.hub.clock) ∧
        ∃ y, v.hub.session? k = some y ∧ y.closed = true := by
  obtain ⟨c, pending, hc, phase, there, once⟩ := awaits
  by_cases own : l = .proceed i
  · subst own
    cases step_turn h with
    | proceed _ d hd does =>
      obtain rfl : c = d := Option.some.inj (hc.symm.trans hd)
      cases does with
      | notify pending' left deadline' h' phase' visited =>
        obtain ⟨rfl, rfl⟩ := Stopping.Phase.notifying.inj (phase.symm.trans phase')
        have bound : i < u.stops.length := (List.getElem?_eq_some_iff.mp hc).1
        have here := closeNotified_here deadline once there hx
        have fewer := closeNotified_sublist deadline pending u.hub
        rw [visited] at here fewer
        rcases here with ⟨kept, same⟩ | ⟨why, closed⟩
        · have some : left ≠ [] := List.ne_nil_of_mem kept
          have distinct := once.sublist (fewer.map Prod.fst)
          refine .inl ⟨⟨_, left, List.getElem?_set_self bound, ?_, kept, distinct⟩, fun _ => same⟩
          exact if_neg some
        · exact .inr ⟨rfl, why, closed⟩
      | lock phase' | drain _ phase' | closed _ _ _ phase' | close _ _ phase' | clear phase' =>
        rw [phase] at phase'
        cases phase'
  · obtain ⟨c', hc', -, same | ⟨rfl, -⟩⟩ := step_stopping h hc
    · exact .inl ⟨⟨c', pending, hc', by rw [same, phase], there, once⟩, fun he => absurd he own⟩
    · exact absurd rfl own

/-- A stop begins with waiting for a notice to every registered session. -/
theorem awaits_stop (once : s.hub.registry.keys.Nodup) (hk : (k, t) ∈ (s.notices a).1) :
    (s.stop a).Awaits s.stops.length k t (s.hub.clock + a.settings.writeTimeout) := by
  have last : (s.stop a).stops[s.stops.length]? =
      some ⟨.notifying (s.notices a).1 (s.hub.clock + a.settings.writeTimeout), s.running⟩ := by
    rw [State.stop_stops]
    exact List.getElem?_concat_length
  refine ⟨_, (s.notices a).1, last, rfl, hk, ?_⟩
  have keys : (s.notices a).1.map Prod.fst = s.stopMonitor.hub.registry.keys := Hub.sendEach_keys _ _ _
  rw [keys, s.steady_stopMonitor.registry]
  exact once

theorem exists_notice (hk : k ∈ s.hub.registry.keys) : ∃ t, (k, t) ∈ (s.notices a).1 := by
  have keys : (s.notices a).1.map Prod.fst = s.stopMonitor.hub.registry.keys := Hub.sendEach_keys _ _ _
  rw [← s.steady_stopMonitor.registry, ← keys] at hk
  obtain ⟨⟨j, t⟩, hp, rfl⟩ := List.mem_map.mp hk
  exact ⟨t, hp⟩

/-- Every session that was registered when stop was called is closed, or its notice is waited for. -/
theorem closed_or_awaits (run : play a {} ls = some s) {after : List Label} (rest : play a (s.stop a) after = some v)
    (hk : k ∈ s.hub.registry.keys) : ∃ x, v.hub.session? k = some x ∧
      (x.closed = true ∨ ∃ t deadline, v.Awaits s.stops.length k t deadline) := by
  induction after using List.reverseRecOn generalizing v with
  | nil =>
    obtain rfl := Option.some.inj rest
    obtain ⟨⟨id, k⟩, hp, rfl⟩ := List.mem_map.mp hk
    obtain ⟨x, hx, -⟩ := (play_standing run).registry id k hp
    have stopped : step a s .stop = some (s.stop a) := rfl
    obtain ⟨y, _, hy, -⟩ := (step_change stopped).session.2 k x hx
    obtain ⟨t, ht⟩ := exists_notice (a := a) hk
    exact ⟨y, hy, .inr ⟨t, _, awaits_stop (play_keys run) ht⟩⟩
  | append_singleton after l ih =>
    obtain ⟨u, hu, hl⟩ := play_concat.mp rest
    obtain ⟨x, hx, was⟩ := ih hu
    obtain ⟨y, _, hy, path⟩ := (step_change hl).session.2 k x hx
    refine ⟨y, hy, ?_⟩
    rcases was with closed | ⟨t, deadline, awaits⟩
    · exact .inl (path.closed closed)
    · rcases awaits_step hl awaits hx with ⟨still, -⟩ | ⟨-, -, z, hz, closed⟩
      · exact .inr ⟨t, deadline, still⟩
      · obtain rfl : y = z := Option.some.inj (hy.symm.trans hz)
        exact .inl closed

end Awaits

/-- As long as session `k` is open, nobody but stop `i` closes it or writes to it along these steps. -/
def Untouched (a : Application) (k : SessionKey) (i : Nat) (s : State) (ls : List Label) : Prop :=
  ∀ before l late u v x, ls = before ++ l :: late → play a s before = some u → step a u l = some v →
    u.hub.session? k = some x → x.closed = false → l ≠ .proceed i → l.isNetwork k = false →
    v.outbound k = u.outbound k

/-- The notice of stop `i` to session `k` is alone on its lane, and the stop waits for it. -/
structure Noticing (a : Application) (u : State) (i : Nat) (k : SessionKey) (t : Ticket) (deadline : Nat)
    (before : Bytes) (y : Session) : Prop where
  session : u.hub.session? k = some y
  alone : y.Alone (u.hub.pipe k) t (textBytes a.settings.shutdownNotice) before
  awaits : u.Awaits i k t deadline

section Noticing

variable {a : Application} {s u v w : State} {l : Label} {ls ms ns : List Label} {i : Nat} {k : SessionKey} {t : Ticket}
  {deadline : Nat} {x y : Session} {wire : Bytes}

theorem Untouched.part (h : Untouched a k i s (ms ++ ns)) : Untouched a k i s ms := by
  intro before l late u v x split hu hv hx unclosed other own
  refine h before l (late ++ ns) u v x ?_ hu hv hx unclosed other own
  rw [split, List.append_assoc]
  rfl

theorem Untouched.rest (h : Untouched a k i s (ms ++ ns)) (hu : play a s ms = some u) : Untouched a k i u ns := by
  intro before l late v w x split hv hw hx unclosed other own
  refine h (ms ++ before) l late v w x ?_ ?_ hw hx unclosed other own
  · rw [split, List.append_assoc]
  · exact play_trans hu hv

theorem noticing_step (run : play a {} ls = some u) (h : step a u l = some v)
    (noticing : Noticing a u i k t deadline wire y)
    (only : l ≠ .proceed i → l.isNetwork k = false → v.outbound k = u.outbound k) :
    (∃ z, Noticing a v i k t deadline wire z ∧ (y.Idle → z.lane = y.lane)) ∨
      l = .proceed i ∧ ((u.hub.result? k t).isSome = true ∨ deadline ≤ u.hub.clock) ∧
        ∃ z, v.hub.session? k = some z ∧ z.closed = true := by
  obtain ⟨hy, alone, awaits⟩ := noticing
  rcases awaits_step h awaits hy with ⟨still, kept⟩ | closed
  · left
    by_cases own : l = .proceed i
    · have network : l.isNetwork k = false := by rw [own]; rfl
      have pipe := pipe_step run h network hy
      exact ⟨y, ⟨kept own, pipe.symm ▸ alone, still⟩, fun _ => rfl⟩
    · obtain ⟨z, hz, alone'⟩ := alone_step run h hy alone (only own)
      refine ⟨z, ⟨hz, alone', still⟩, fun idle => ?_⟩
      obtain ⟨z', hz', same, -⟩ := idle_step run h hy idle (only own)
      obtain rfl : z = z' := Option.some.inj (hz.symm.trans hz')
      exact same
  · exact .inr closed

/-- The notice goes its way while the session is open; when it is written it stays so. -/
theorem noticing_play (run : play a {} ls = some u) (rest : play a u ms = some v)
    (noticing : Noticing a u i k t deadline wire y) (untouched : Untouched a k i u ms)
    (hx : v.hub.session? k = some x) (unclosed : x.closed = false) :
    Noticing a v i k t deadline wire x ∧ (y.Idle → x.lane = y.lane) := by
  induction ms using List.reverseRecOn generalizing v x with
  | nil =>
    obtain rfl := Option.some.inj rest
    obtain rfl : x = y := Option.some.inj (hx.symm.trans noticing.session)
    exact ⟨noticing, fun _ => rfl⟩
  | append_singleton ms l ih =>
    obtain ⟨w, hw, hl⟩ := play_concat.mp rest
    obtain ⟨z, _, hz, -⟩ := play_session hw noticing.session
    obtain ⟨x', _, hx', path⟩ := (step_change hl).session.2 k z hz
    obtain rfl : x' = x := Option.some.inj (hx'.symm.trans hx)
    have before := path.unclosed unclosed
    obtain ⟨there, same⟩ := ih hw untouched.part hz before
    have whole := play_trans run hw
    have only := untouched ms l [] w v z rfl hw hl hz before
    rcases noticing_step whole hl there only with ⟨z', on, kept⟩ | ⟨-, -, z', hz', closed⟩
    · obtain rfl : z' = x' := Option.some.inj (on.session.symm.trans hx)
      refine ⟨on, fun idle => ?_⟩
      have rests : z.Idle := by
        unfold Session.Idle
        rw [same idle]
        exact idle
      exact (kept rests).trans (same idle)
    · obtain rfl : z' = x' := Option.some.inj (hz'.symm.trans hx)
      rw [closed] at unclosed
      cases unclosed

/-- A connection that has room for the whole notice has taken it. -/
theorem Noticing.whole {frame : Bytes} (h : Noticing a u i k t deadline wire y) (run : play a {} ls = some u)
    (encoded : a.framing.encode (textBytes a.settings.shutdownNotice) = .ok frame)
    (works : (u.hub.pipe k).fault = none) (room : wire.length + frame.length ≤ (u.hub.pipe k).capacity) :
    y.Idle ∧ y.lane.wire = wire ++ frame := by
  have same := play_framing run h.session
  rcases h.alone.cases with ⟨frame', rest, encoded', turn, queue, written, some, -, -, full⟩ |
    ⟨idle, queue, ⟨frame', encoded', written, -⟩ | ⟨e, encoded', -⟩ | ⟨fault, -⟩⟩
  · rw [same, encoded] at encoded'
    obtain rfl := Except.ok.inj encoded'
    have lengths := congrArg List.length written
    rw [List.length_append, List.length_append] at lengths
    have left : 0 < rest.length := List.length_pos_iff.mpr some
    unfold Session.room at full
    rw [play_unread run k] at full
    omega
  · rw [same, encoded] at encoded'
    obtain rfl := Except.ok.inj encoded'
    exact ⟨⟨idle, queue⟩, written⟩
  · rw [same, encoded] at encoded'
    cases encoded'
  · exact absurd works fault

/-- A connection that has failed does not recover. -/
theorem play_fault (run : play a {} ls = some u) (rest : play a u ms = some v) (hx : u.hub.session? k = some x)
    (fault : (u.hub.pipe k).fault ≠ none) : (v.hub.pipe k).fault ≠ none := by
  induction ms using List.reverseRecOn generalizing v with
  | nil =>
    obtain rfl := Option.some.inj rest
    exact fault
  | append_singleton ms l ih =>
    obtain ⟨w, hw, hl⟩ := play_concat.mp rest
    obtain ⟨z, _, hz, -⟩ := play_session hw hx
    have whole := play_trans run hw
    cases network : l.isNetwork k with
    | true => exact (network_step whole hl network hz).2.2 (ih hw)
    | false =>
      rw [pipe_step whole hl network hz]
      exact ih hw

/-- When the stop closes the session in time, the notice is written, or the connection has failed. -/
theorem Noticing.written {frame : Bytes} (h : Noticing a u i k t deadline wire y) (run : play a {} ls = some u)
    (encoded : a.framing.encode (textBytes a.settings.shutdownNotice) = .ok frame)
    (done : (u.hub.result? k t).isSome = true) :
    y.lane.wire = wire ++ frame ∨ (u.hub.pipe k).fault ≠ none := by
  have same := play_framing run h.session
  rcases h.alone.cases with ⟨_, _, -, -, -, -, -, unknown, -⟩ |
    ⟨-, -, ⟨frame', encoded', written, -⟩ | ⟨e, encoded', -⟩ | ⟨fault, -⟩⟩
  · rw [Hub.result?, h.session, Option.bind_some, unknown] at done
    cases done
  · rw [same, encoded] at encoded'
    obtain rfl := Except.ok.inj encoded'
    exact .inl written
  · rw [same, encoded] at encoded'
    cases encoded'
  · exact .inr fault

theorem received_before {frame : Bytes} (run : play a {} ls = some s) (first : Noticing a s i k t deadline wire y)
    (hw : play a s ms = some w) (onward : play a w ns = some u) (untouched : Untouched a k i s (ms ++ ns))
    (hx : u.hub.session? k = some x) (unclosed : x.closed = false)
    (encoded : a.framing.encode (textBytes a.settings.shutdownNotice) = .ok frame)
    (works : (w.hub.pipe k).fault = none) (room : wire.length + frame.length ≤ (w.hub.pipe k).capacity) :
    x.lane.wire = wire ++ frame := by
  have there := play_trans run hw
  obtain ⟨z, _, hz, -⟩ := play_session hw first.session
  obtain ⟨x', _, hx', path⟩ := play_session onward hz
  obtain rfl : x' = x := Option.some.inj (hx'.symm.trans hx)
  obtain ⟨noticing, -⟩ := noticing_play run hw first untouched.part hz (path.unclosed unclosed)
  obtain ⟨idle, whole⟩ := noticing.whole there encoded works room
  obtain ⟨-, same⟩ := noticing_play there onward noticing (untouched.rest hw) hx unclosed
  rw [same idle, whole]

theorem received_after {frame : Bytes} (run : play a {} ls = some u) (noticing : Noticing a u i k t deadline wire y)
    (why : (u.hub.result? k t).isSome = true ∨ deadline ≤ u.hub.clock) (onward : play a u ms = some w)
    (encoded : a.framing.encode (textBytes a.settings.shutdownNotice) = .ok frame) (soon : w.hub.clock < deadline)
    (works : (w.hub.pipe k).fault = none) : y.lane.wire = wire ++ frame := by
  have le : u.hub.clock ≤ w.hub.clock := play_clock_le onward
  rcases why with done | late
  · rcases noticing.written run encoded done with written | fault
    · exact written
    · exact absurd works (play_fault run onward noticing.session fault)
  · omega

end Noticing

/-- A step of a run in which something becomes true that stays so. -/
theorem play_first {a : Application} {s t : State} {ls : List Label} {P : State → Prop} (run : play a s ls = some t)
    (not : ¬ P s) (then? : P t) : ∃ before l late u v, ls = before ++ l :: late ∧ play a s before = some u ∧
      step a u l = some v ∧ play a v late = some t ∧ ¬ P u ∧ P v := by
  induction ls generalizing s with
  | nil =>
    obtain rfl := Option.some.inj run
    exact absurd then? not
  | cons l ls ih =>
    obtain ⟨u, hu, rest⟩ := Option.bind_eq_some_iff.mp run
    by_cases now : P u
    · exact ⟨[], l, ls, s, u, rfl, rfl, hu, rest, not, now⟩
    · obtain ⟨before, l', late, v, w, rfl, hv, hw, on, notYet, already⟩ := ih rest now
      refine ⟨l :: before, l', late, v, w, rfl, ?_, hw, on, notYet, already⟩
      simp only [play, hu, Option.bind_some, hv]

section Delivery

variable {a : Application} {s t : State} {ls after : List Label} {k : SessionKey} {x : Session} {frame : Bytes}

/-- The call to stop sends its notice to a session whose lane has nothing to do. -/
theorem noticing_stop (run : play a {} ls = some s) (hk : k ∈ s.hub.registry.keys)
    (hx : s.stopMonitor.hub.session? k = some x) (unclosed : x.closed = false) (idle : x.Idle) :
    ∃ t y, Noticing a (s.stop a) s.stops.length k t (s.hub.clock + a.settings.writeTimeout) x.lane.wire y := by
  have once := play_keys run
  have same := s.steady_stopMonitor
  obtain ⟨x₀, ms, hx₀, path⟩ := (State.stopMonitor_apart s).hub.session_back hx
  have standing := path.standing ((play_standing run).session k x₀ hx₀)
  have read : (s.stopMonitor.hub.pipe k).read ≤ x.lane.wire.length := by
    rw [same.pipe k, play_unread run k]
    exact Nat.zero_le _
  rw [← same.registry] at hk
  obtain ⟨t, y, there, hy, alone⟩ := Hub.sendEach_alone (m := textBytes a.settings.shutdownNotice)
    (by rwa [same.registry]) hk hx idle unclosed standing read
  refine ⟨t, y, ?_, ?_, awaits_stop once there⟩
  · rw [State.stop_hub]
    exact hy
  · rw [(s.steady_stop a).pipe k, ← same.pipe k]
    exact alone

/-- Stop closes session `k`, in a step of its own from `u` to `v`, and what came to the peer until then. -/
structure Delivery (a : Application) (s : State) (k : SessionKey) (x : Session) (frame : Bytes)
    (after before : List Label) (u v : State) (y : Session) : Prop where
  split : ∃ late, after = before ++ .proceed s.stops.length :: late
  reached : play a (s.stop a) before = some u
  made : step a u (.proceed s.stops.length) = some v
  unclosed : u.hub.session? k = some y ∧ y.closed = false
  closed : ∃ z, v.hub.session? k = some z ∧ z.closed = true
  /-- If the connection had room for the frame by then, or in time, its peer got the frame whole, and nothing else. -/
  received : ∀ early w, early <+: after → play a (s.stop a) early = some w →
    (early <+: before ∨ w.hub.clock < s.hub.clock + a.settings.writeTimeout) → (w.hub.pipe k).fault = none →
    x.lane.wire.length + frame.length ≤ (w.hub.pipe k).capacity → y.lane.wire = x.lane.wire ++ frame

theorem delivery (run : play a {} ls = some s) (rest : play a (s.stop a) after = some t) (hk : k ∈ s.hub.registry.keys)
    (hx : s.stopMonitor.hub.session? k = some x) (unclosed : x.closed = false) (idle : x.Idle)
    (encoded : a.framing.encode (textBytes a.settings.shutdownNotice) = .ok frame)
    (untouched : Untouched a k s.stops.length (s.stop a) after)
    (closed : ∃ z, t.hub.session? k = some z ∧ z.closed = true) :
    ∃ before u v y, Delivery a s k x frame after before u v y := by
  obtain ⟨ticket, y₀, first⟩ := noticing_stop run hk hx unclosed idle
  have called : play a {} (ls ++ [.stop]) = some (s.stop a) := play_concat.mpr ⟨s, run, rfl⟩
  have notClosed : ¬ ∃ z, (s.stop a).hub.session? k = some z ∧ z.closed = true := by
    rintro ⟨z, hz, closed⟩
    obtain rfl : y₀ = z := Option.some.inj (first.session.symm.trans hz)
    rw [first.alone.unclosed] at closed
    cases closed
  obtain ⟨before, l, late, u, v, split, hu, hv, on, notYet, now⟩ :=
    play_first (P := fun u => ∃ z, u.hub.session? k = some z ∧ z.closed = true) rest notClosed closed
  obtain ⟨y, _, hy, -⟩ := play_session hu first.session
  have still : y.closed = false := by
    cases closed : y.closed with
    | false => rfl
    | true => exact absurd ⟨y, hy, closed⟩ notYet
  have part : Untouched a k s.stops.length (s.stop a) before := by
    rw [split] at untouched
    exact untouched.part
  obtain ⟨noticing, -⟩ := noticing_play called hu first part hy still
  have whole := play_trans called hu
  have only := untouched before l late u v y split hu hv hy still
  obtain ⟨z, hz, closed⟩ := now
  rcases noticing_step whole hv noticing only with ⟨z', there, -⟩ | ⟨rfl, why, -⟩
  · obtain rfl : z = z' := Option.some.inj (hz.symm.trans there.session)
    rw [there.alone.unclosed] at closed
    cases closed
  refine ⟨before, u, v, y, ⟨late, split⟩, hu, hv, ⟨hy, still⟩, ⟨z, hz, closed⟩, ?_⟩
  intro early w prior hw soon works room
  have earlier (first? : early <+: before) : y.lane.wire = x.lane.wire ++ frame := by
    obtain ⟨between, rfl⟩ := first?
    exact received_before called first hw (play_rest hu hw) part hy still encoded works room
  rcases soon with first? | soon
  · exact earlier first?
  · rcases List.prefix_or_prefix_of_prefix prior ⟨_, split.symm⟩ with first? | ⟨between, rfl⟩
    · exact earlier first?
    · exact received_after whole noticing why (play_rest hw hu) encoded soon works

end Delivery

end FrameServer.Server
