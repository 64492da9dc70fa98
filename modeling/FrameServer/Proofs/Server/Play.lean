import Mathlib.Data.List.Induction
import FrameServer.Proofs.Keyed
import FrameServer.Proofs.Server.Change

namespace FrameServer

theorem Registry.entries_insert (r : Registry) (id : SessionId) (k : SessionKey) :
    (r.insert id k).entries = place id k r.entries := rfl

namespace Server

/-- The state after a list of steps, if all of them are possible. -/
def play (a : Application) (s : State) : List Label → Option State
  | [] => some s
  | l :: ls => (step a s l).bind fun t => play a t ls

section

variable {a : Application} {s t u : State} {l : Label} {ls : List Label}

theorem play_append (ms : List Label) : play a s (ls ++ ms) = (play a s ls).bind fun t => play a t ms := by
  induction ls generalizing s with
  | nil => rfl
  | cons l ls ih =>
    simp only [List.cons_append, play]
    cases step a s l with
    | none => rfl
    | some t => exact ih

theorem play_concat : play a s (ls ++ [l]) = some u ↔ ∃ t, play a s ls = some t ∧ step a t l = some u := by
  have last (t : State) : play a t [l] = step a t l := Option.bind_fun_some _
  rw [play_append, Option.bind_eq_some_iff]
  simp only [last]

theorem play_split {ms ns : List Label} (h : play a s (ms ++ l :: ns) = some t) :
    ∃ u v, play a s ms = some u ∧ step a u l = some v ∧ play a v ns = some t := by
  rw [play_append, Option.bind_eq_some_iff] at h
  obtain ⟨u, hu, h⟩ := h
  obtain ⟨v, hv, h⟩ := Option.bind_eq_some_iff.mp h
  exact ⟨u, v, hu, hv, h⟩

theorem play_trans {ms : List Label} (h : play a s ls = some t) (rest : play a t ms = some u) :
    play a s (ls ++ ms) = some u := by
  rw [play_append, h]
  exact rest

/-- What comes after a part of a run that is known. -/
theorem play_rest {ms : List Label} (h : play a s (ls ++ ms) = some u) (part : play a s ls = some t) :
    play a t ms = some u := by
  rw [play_append, part] at h
  exact h

theorem steps_iff_play : Steps a s t ↔ ∃ ls, play a s ls = some t := by
  constructor
  · intro h
    induction h with
    | refl => exact ⟨[], rfl⟩
    | tail l _ hl ih =>
      obtain ⟨ls, hls⟩ := ih
      exact ⟨ls ++ [l], play_concat.mpr ⟨_, hls, hl⟩⟩
  · rintro ⟨ls, h⟩
    induction ls using List.reverseRecOn generalizing t with
    | nil =>
      obtain rfl := Option.some.inj h
      exact .refl s
    | append_singleton ls l ih =>
      obtain ⟨u, hu, hl⟩ := play_concat.mp h
      exact .tail l (ih hu) hl

theorem play_invariant {P : State → Prop} (keep : ∀ {s t : State} {l : Label}, step a s l = some t → P s → P t)
    (h : play a s ls = some t) (hp : P s) : P t := by
  induction ls generalizing s with
  | nil =>
    obtain rfl := Option.some.inj h
    exact hp
  | cons l ls ih =>
    obtain ⟨u, hu, h⟩ := Option.bind_eq_some_iff.mp h
    exact ih h (keep hu hp)

end

namespace State

def newcomer (a : Application) (clock : Nat) (id : SessionId) (peer : String) : Session :=
  { id, address := some peer, lane := { framing := a.framing }, lastActivity := clock }

section Admission

variable (a : Application) (s : State) (id : SessionId) (peer : String)

@[simp] theorem addSession_connections :
    (s.addSession a id peer).connections = s.connections ++ [Connection.admitted a.settings] := rfl
@[simp] theorem addSession_journal : (s.addSession a id peer).journal = s.journal := rfl

theorem addSession_hub : (s.addSession a id peer).hub =
    { s.hub.add (newcomer a s.hub.clock id peer) { capacity := 0 } with
      registry := s.hub.registry.insert id s.hub.sessions.length } := by
  simp [addSession, newcomer, Hub.register, Hub.session?, Hub.add]

@[simp] theorem addSession_sessions :
    (s.addSession a id peer).hub.sessions = s.hub.sessions ++ [newcomer a s.hub.clock id peer] := by
  rw [addSession_hub]
  rfl

@[simp] theorem addSession_registry :
    (s.addSession a id peer).hub.registry = s.hub.registry.insert id s.hub.sessions.length := by
  rw [addSession_hub]

@[simp] theorem addSession_tickets : (s.addSession a id peer).hub.tickets = s.hub.tickets := by
  rw [addSession_hub]
  rfl

end Admission

end State

/-- What is true of a server at any time. -/
structure State.Standing (s : State) : Prop where
  paired : s.connections.length = s.hub.sessions.length
  session : ∀ k x, s.hub.session? k = some x → x.Standing s.hub.tickets
  registry : ∀ i k, (i, k) ∈ s.hub.registry.entries → ∃ x, s.hub.session? k = some x ∧ x.id = i

variable {a : Application} {s t : State} {l : Label} {ls : List Label}

/-- A session goes its own way in every step of the server. -/
theorem State.Change.session (h : s.Change a l t) :
    s.hub.tickets ≤ t.hub.tickets ∧ ∀ k x, s.hub.session? k = some x →
      ∃ x' ms, t.hub.session? k = some x' ∧ x.Path s.hub.tickets ms t.hub.tickets x' := by
  cases h with
  | apart _ _ apart => exact ⟨apart.hub.tickets, apart.hub.session⟩
  | enroll =>
    refine ⟨by simp, fun k x hk => ⟨x, [], ?_, .nil (by simp)⟩⟩
    have bound : k < s.hub.sessions.length := (List.getElem?_eq_some_iff.mp hk).1
    simp only [Hub.session?, addSession_sessions]
    exact (List.getElem?_append_left bound).trans hk
  | task _ _ _ _ _ _ _ _ effect => exact ⟨effect.leads.tickets, effect.leads.session⟩

theorem play_session (h : play a s ls = some t) {k : SessionKey} {x : Session} (hx : s.hub.session? k = some x) :
    ∃ x' ms, t.hub.session? k = some x' ∧ x.Path s.hub.tickets ms t.hub.tickets x' := by
  induction ls using List.reverseRecOn generalizing t with
  | nil =>
    obtain rfl := Option.some.inj h
    exact ⟨x, [], hx, .nil (Nat.le_refl _)⟩
  | append_singleton ls l ih =>
    obtain ⟨u, hu, hl⟩ := play_concat.mp h
    obtain ⟨y, ms, hy, path⟩ := ih hu
    obtain ⟨z, ms', hz, path'⟩ := (step_change hl).session.2 k y hy
    exact ⟨z, ms ++ ms', hz, path.trans path'⟩

theorem State.Change.session_back (h : s.Change a l t) {k : SessionKey} {x' : Session}
    (hk : t.hub.session? k = some x') :
    (∃ x ms, s.hub.session? k = some x ∧ x.Path s.hub.tickets ms t.hub.tickets x') ∨
      k = s.hub.sessions.length ∧ ∃ id peer, x' = newcomer a s.hub.clock id peer := by
  cases h with
  | apart _ _ apart => exact .inl (apart.hub.session_back hk)
  | enroll i loop id peer =>
    simp only [Hub.session?, addSession_sessions] at hk
    rcases Nat.lt_or_ge k s.hub.sessions.length with bound | bound
    · rw [List.getElem?_append_left bound] at hk
      exact .inl ⟨x', [], hk, .nil (by simp)⟩
    · rw [List.getElem?_append_right bound] at hk
      obtain ⟨zero, he⟩ := List.getElem?_eq_some_iff.mp hk
      obtain rfl : k = s.hub.sessions.length :=
        Nat.le_antisymm (Nat.sub_eq_zero_iff_le.mp (Nat.lt_one_iff.mp zero)) bound
      exact .inr ⟨rfl, id, peer, by simpa using he.symm⟩
  | task _ _ _ _ _ _ _ _ effect => exact .inl (effect.leads.session_back hk)

/-- A session of a server began with nothing on its lane, and has made moves since. -/
theorem session_of_play (h : play a {} ls = some t) {k : SessionKey} {x : Session} (hx : t.hub.session? k = some x) :
    ∃ clock id peer n ms, (State.newcomer a clock id peer).Path n ms t.hub.tickets x := by
  induction ls using List.reverseRecOn generalizing t x with
  | nil =>
    obtain rfl := Option.some.inj h
    cases hx
  | append_singleton ls l ih =>
    obtain ⟨u, hu, hl⟩ := play_concat.mp h
    rcases (step_change hl).session_back hx with ⟨y, ms, hy, path⟩ | ⟨-, id, peer, rfl⟩
    · obtain ⟨clock, id, peer, n, ms', path'⟩ := ih hu hy
      exact ⟨clock, id, peer, n, ms' ++ ms, path'.trans path⟩
    · exact ⟨u.hub.clock, id, peer, _, [], .nil (Nat.le_refl _)⟩

theorem State.Standing.step (h : step a s l = some t) (hs : s.Standing) : t.Standing := by
  have change := step_change h
  constructor
  · cases change with
    | apart _ _ apart => rw [apart.length, apart.hub.length, hs.paired]
    | enroll => simp [hs.paired]
    | task _ _ _ _ _ _ _ _ effect => simp [effect.leads.length, hs.paired]
  · intro k x' hk
    rcases change.session_back hk with ⟨x, ms, hx, path⟩ | ⟨-, id, peer, rfl⟩
    · exact path.standing (hs.session k x hx)
    · exact Session.standing_fresh rfl _
  · intro i k hik
    have kept : (i, k) ∈ s.hub.registry.entries → ∃ x, t.hub.session? k = some x ∧ x.id = i := by
      intro hik
      obtain ⟨x, hx, hi⟩ := hs.registry i k hik
      obtain ⟨x', ms, hx', path⟩ := change.session.2 k x hx
      exact ⟨x', hx', path.id_eq.trans hi⟩
    cases change with
    | apart _ _ apart => exact kept (apart.hub.registry.subset hik)
    | enroll j loop id peer =>
      rw [addSession_registry, Registry.entries_insert] at hik
      rcases mem_place hik with he | hik
      · obtain ⟨rfl, rfl⟩ := Prod.mk.inj he
        exact ⟨newcomer a s.hub.clock i peer, by simp [Hub.session?, addSession_sessions], rfl⟩
      · exact kept hik
    | task _ _ _ _ _ _ _ _ effect => exact kept (effect.leads.registry.subset hik)

/-- Every session has a connection. -/
theorem session_none_iff {k : SessionKey} (standing : s.Standing) :
    s.hub.session? k = none ↔ s.connection? k = none := by
  unfold Hub.session? State.connection?
  rw [List.getElem?_eq_none_iff, List.getElem?_eq_none_iff, standing.paired]

theorem session_of_connection {k : SessionKey} {c : Connection} (standing : s.Standing)
    (hc : s.connection? k = some c) : ∃ x, s.hub.session? k = some x := by
  rw [← Option.ne_none_iff_exists', ne_eq, session_none_iff standing, hc]
  exact Option.some_ne_none c

theorem standing_empty : ({} : State).Standing :=
  ⟨rfl, (fun _ _ h => by cases h), (fun _ _ h => by cases h)⟩

theorem play_standing (h : play a {} ls = some t) : t.Standing :=
  play_invariant (fun hl hs => State.Standing.step hl hs) h standing_empty

end Server
end FrameServer
