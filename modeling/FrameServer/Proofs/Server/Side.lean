import FrameServer.Proofs.Server.Story

namespace FrameServer.Server

open Connection

variable {a : Application} {k : SessionKey} {s t : State} {l : Label} {c c' : Connection} {x : Session}

/-- The task is in its loop over the messages. -/
def Phase.inLoop : Phase → Bool
  | .waiting | .handling _ | .responding _ _ | .pausing _ => true
  | _ => false

theorem pause_cases (a : Application) (h : Hub) : Connection.pause a h = .waiting ∨
    Connection.pause a h = .pausing (h.clock + a.settings.dispatchDelay) := by
  unfold Connection.pause
  split
  · exact .inl rfl
  · exact .inr rfl

theorem step_task : step a s (.task k) = some t ↔ ∃ c c' x h' records, s.connection? k = some c ∧
    s.hub.session? k = some x ∧ c.step a k x s.hub = some (h', c', records) ∧ t = s.afterTask k h' c' records := by
  simp only [step, State.task, Option.bind_eq_bind, Option.bind_eq_some_iff, Option.pure_def, Option.some.injEq]
  constructor
  · rintro ⟨c, hc, x, hx, ⟨h', c', records⟩, made, rfl⟩
    exact ⟨c, c', x, h', records, hc, hx, made, rfl⟩
  · rintro ⟨c, c', x, h', records, hc, hx, made, rfl⟩
    exact ⟨c, hc, x, hx, (h', c', records), made, rfl⟩

theorem afterTask_connection {h' : Hub} {records : List Record} (hc : s.connection? k = some c) :
    (s.afterTask k h' c' records).connection? k = some c' :=
  List.getElem?_set_self (List.getElem?_eq_some_iff.mp hc).1

/-- A step of the task of a connection, between two of its states. -/
theorem own_step (h : step a s (.task k) = some t) (hc : s.connection? k = some c) (hc' : t.connection? k = some c') :
    ∃ x h' records, s.hub.session? k = some x ∧ c.step a k x s.hub = some (h', c', records) ∧
      t = s.afterTask k h' c' records := by
  obtain ⟨d, d', x, h', records, hd, hx, made, rfl⟩ := step_task.mp h
  obtain rfl : c = d := Option.some.inj (hc.symm.trans hd)
  obtain rfl : d' = c' := Option.some.inj ((afterTask_connection hd).symm.trans hc')
  exact ⟨x, h', records, hx, made, rfl⟩

theorem noted_afterTask {h' : Hub} {records : List Record} :
    noted k (.task k) s (s.afterTask k h' c' records) = records := by
  simp [noted, Label.isTask, State.afterTask]

/-- Others do not move the task of a connection, but may end it. -/
theorem phase_elsewhere (h : step a s l = some t) (other : l.isTask k = false) (hc : s.connection? k = some c)
    (hc' : t.connection? k = some c') : c'.phase = c.phase ∨ c'.phase = .aborted := by
  have bound : k < s.connections.length := (List.getElem?_eq_some_iff.mp hc).1
  cases step_change h with
  | apart _ _ apart =>
    obtain ⟨d, hd, kept⟩ := apart.connection k c hc
    obtain rfl : c' = d := Option.some.inj (hc'.symm.trans hd)
    exact kept.phase.imp_right And.right
  | enroll i loop id peer =>
    rw [State.connection?, State.addSession_connections, List.getElem?_append_left bound] at hc'
    obtain rfl : c = c' := Option.some.inj (hc.symm.trans hc')
    exact .inl rfl
  | task j d d' x h' records hd hx effect =>
    have e : j ≠ k := by
      rintro rfl
      simp [Label.isTask] at other
    rw [State.connection?, List.getElem?_set_ne e] at hc'
    obtain rfl : c = c' := Option.some.inj (hc.symm.trans hc')
    exact .inl rfl

end FrameServer.Server
