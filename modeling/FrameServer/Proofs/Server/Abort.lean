import FrameServer.Proofs.Server.Idled
import FrameServer.Proofs.Server.Turn

namespace FrameServer

namespace Lane

/-- A ticket that does not wait for its turn, and does not have it. -/
structure Spent (l : Lane) (t : Ticket) : Prop where
  queue : ∀ job, (t, job) ∉ l.queue
  turn : ∀ rest, l.turn ≠ some (t, rest)

variable {l l' : Lane} {m : Move} {t : Ticket}

theorem unqueued_of_step (h : l.step m = some l') (out : ∀ job, (t, job) ∉ l.queue) (hm : ∀ job, m ≠ .request t job) :
    ∀ job, (t, job) ∉ l'.queue := by
  intro job hq
  rcases queued_of_step h hq with old | asked
  · exact out job old
  · exact hm job asked

theorem spent_of_step (h : l.step m = some l') (spent : l.Spent t) (hm : ∀ job, m ≠ .request t job) : l'.Spent t := by
  refine ⟨unqueued_of_step h spent.queue hm, fun rest turn => ?_⟩
  rcases turn_of_step h turn with ⟨rest', had⟩ | ⟨msg, waited⟩
  · exact spent.turn rest' had
  · exact spent.queue _ waited

/-- A send that is given up is spent, unless it waits for its turn besides. -/
theorem spent_of_abandon (h : l.step (.abandon t) = some l') (out : ∀ job, (t, job) ∉ l.queue) : l'.Spent t := by
  refine ⟨unqueued_of_step h out (by simp), fun rest turn => ?_⟩
  simp only [step] at h
  split at h
  next u rest' had =>
    split at h
    · obtain rfl := Option.some.inj h
      cases turn
    next other =>
      obtain rfl := Option.some.inj h
      exact other (Prod.mk.inj (Option.some.inj (had.symm.trans turn))).1
  next none =>
    obtain rfl := Option.some.inj h
    rw [none] at turn
    cases turn

end Lane

namespace Session.Path

variable {n n' : Nat} {s s' : Session} {ms : List Move} {t : Ticket}

theorem unqueued (h : Path n s ms n' s') (old : t < n) (out : ∀ job, (t, job) ∉ s.lane.queue) :
    ∀ job, (t, job) ∉ s'.lane.queue :=
  h.keeps old (P := fun l => ∀ job, (t, job) ∉ l.queue) Lane.unqueued_of_step (fun _ out => out) out

theorem spent (h : Path n s ms n' s') (old : t < n) (spent : s.lane.Spent t) : s'.lane.Spent t :=
  h.keeps old (P := (·.Spent t)) Lane.spent_of_step (fun _ hl => ⟨hl.queue, hl.turn⟩) spent

end Session.Path

/-- Giving up a send spends its ticket. -/
theorem Hub.spent_giveUp {h : Hub} {k : SessionKey} {x : Session} {t : Ticket} (hx : h.session? k = some x)
    (old : t < h.tickets) (out : ∀ job, (t, job) ∉ x.lane.queue) :
    ∃ y, ((h.move k (.lane (.abandon t))).settle k).session? k = some y ∧ y.lane.Spent t := by
  obtain ⟨l, abandoned⟩ : ∃ l, x.lane.step (.abandon t) = some l := by
    simp only [Lane.step]
    split
    · split <;> exact ⟨_, rfl⟩
    · exact ⟨_, rfl⟩
  have made : (h.move k (.lane (.abandon t))).session? k = some { x with lane := l } :=
    session_move h k hx (by simp only [Session.step, abandoned, Option.map_some])
  have given : t < (h.move k (.lane (.abandon t))).tickets := Nat.lt_of_lt_of_le old (h.leads_abandon k t).tickets
  obtain ⟨y, _, hy, path⟩ := (leads_settle (h.move k (.lane (.abandon t))) k).session k _ made
  exact ⟨y, hy, path.spent given (Lane.spent_of_abandon abandoned out)⟩

namespace Server

open Connection

variable {a : Application} {s t : State} {l : Label} {k : SessionKey} {c c' : Connection} {x x' : Session} {i : Ticket}
  {deadline : Nat}

theorem abort_spent {h : Hub} (phase : c.phase = .responding i deadline) (hx : h.session? k = some x)
    (old : i < h.tickets) (out : ∀ job, (i, job) ∉ x.lane.queue) :
    ∃ y, (c.abort k h).1.session? k = some y ∧ y.lane.Spent i := by
  have live : ¬ c.phase.isOver = true := by
    rw [phase]
    exact Bool.false_ne_true
  unfold abort
  rw [if_neg live]
  simp only [phase]
  exact Hub.spent_giveUp hx old out

/-- The connections are ended one after the other; what is given up stays so. -/
theorem abortFrom_spent (n : SessionKey) (h : Hub) (cs : List Connection) (j : Nat) (hc : cs[j]? = some c)
    (phase : c.phase = .responding i deadline) (hx : h.session? (n + j) = some x) (old : i < h.tickets)
    (out : ∀ job, (i, job) ∉ x.lane.queue) :
    ∃ y, (State.abortFrom n h cs).1.session? (n + j) = some y ∧ y.lane.Spent i := by
  induction cs generalizing n h j x with
  | nil => cases hc
  | cons d cs ih =>
    have leads : h.Leads (d.abort n h).1 := d.leads_abort n h
    cases j with
    | zero =>
      obtain rfl := Option.some.inj hc
      obtain ⟨y, hy, spent⟩ := abort_spent phase hx old out
      obtain ⟨z, _, hz, path⟩ := (State.leads_abortFrom (n + 1) (d.abort n h).1 cs).session n y hy
      exact ⟨z, hz, path.spent (Nat.lt_of_lt_of_le old leads.tickets) spent⟩
    | succ j =>
      have place : n + (j + 1) = n + 1 + j := by rw [Nat.add_comm j 1, ← Nat.add_assoc]
      rw [place] at hx ⊢
      obtain ⟨y, _, hy, path⟩ := leads.session _ x hx
      exact ih (n + 1) (d.abort n h).1 j hc hy (Nat.lt_of_lt_of_le old leads.tickets) (path.unqueued old out)

theorem pumpStep_phase {f : Framing} {closed : Bool} {m : Pump.Move} (h : c.pumpStep f closed m = some c') :
    c'.phase = c.phase := by
  unfold pumpStep at h
  split at h
  · cases h
  · cases h
  · split at h
    · cases h
    · obtain ⟨found, -, rfl⟩ := Option.map_eq_some_iff.mp h
      rfl

/-- A response whose connection is ended in a step has been given up. -/
theorem spent_of_aborted (h : step a s l = some t) (other : l.isTask k = false) (hc : s.connection? k = some c)
    (phase : c.phase = .responding i deadline) (hc' : t.connection? k = some c') (aborted : c'.phase = .aborted)
    (hx : s.hub.session? k = some x) (old : i < s.hub.tickets) (out : ∀ job, (i, job) ∉ x.lane.queue)
    (hx' : t.hub.session? k = some x') : x'.lane.Spent i := by
  have bound : k < s.connections.length := (List.getElem?_eq_some_iff.mp hc).1
  have kept (same : c'.phase = c.phase) : x'.lane.Spent i := by
    rw [aborted, phase] at same
    cases same
  have unchanged (same : t.connections = s.connections) : x'.lane.Spent i := by
    rw [State.connection?, same] at hc'
    obtain rfl := Option.some.inj (hc.symm.trans hc')
    exact kept rfl
  have set {j : SessionKey} {d : Connection} (d' : Connection) (hd : s.connection? j = some d)
      (on : d'.phase = d.phase) (there : t.connections = s.connections.set j d') : x'.lane.Spent i := by
    rw [State.connection?, there] at hc'
    by_cases e : j = k
    · subst e
      obtain rfl : c = d := Option.some.inj (hc.symm.trans hd)
      obtain rfl := Option.some.inj ((List.getElem?_set_self bound).symm.trans hc')
      exact kept on
    · obtain rfl := Option.some.inj (hc.symm.trans ((List.getElem?_set_ne e).symm.trans hc'))
      exact kept rfl
  cases step_turn h with
  | arrive j bytes d hd => exact set { d with pump := d.pump.arrive bytes } hd rfl rfl
  | finish j fin d hd => exact set { d with pump := d.pump.finishStream fin } hd rfl rfl
  | pump j m d d' closed hd moved => exact set d' hd (pumpStep_phase moved) rfl
  | lose => exact unchanged (State.stopMonitor_connections _)
  | stop => exact unchanged (State.stop_connections a s)
  | enroll =>
    obtain rfl := Option.some.inj (hc.symm.trans ((List.getElem?_append_left bound).symm.trans hc'))
    exact kept rfl
  | task j d d' y h' records hd hy =>
    have e : j ≠ k := by
      rintro rfl
      simp [Label.isTask] at other
    obtain rfl := Option.some.inj (hc.symm.trans ((List.getElem?_set_ne e).symm.trans hc'))
    exact kept rfl
  | proceed j st _ does =>
    cases does with
    | drain =>
      have here : s.hub.session? (0 + k) = some x := by rwa [Nat.zero_add]
      obtain ⟨y, hy, spent⟩ := abortFrom_spent 0 s.hub s.connections k hc phase here old out
      rw [Nat.zero_add] at hy
      obtain rfl : y = x' := Option.some.inj (hy.symm.trans hx')
      exact spent
    | _ => exact unchanged rfl
  | _ => exact unchanged rfl

end Server
end FrameServer
