import FrameServer.Proofs.Session.Sweep

namespace FrameServer

namespace Sweep

variable {h : Hub} {k : SessionKey} {limit patience : Nat}

theorem visit_elsewhere (deadline : Nat) (ts : List (SessionKey × Ticket)) (other : k ∉ ts.map Prod.fst) :
    (visit deadline ts h).2.2.session? k = h.session? k ∧ k ∉ (visit deadline ts h).1.map Prod.fst := by
  induction ts generalizing h with
  | nil => exact ⟨rfl, other⟩
  | cons p ts ih =>
    obtain ⟨j, t⟩ := p
    obtain ⟨first, rest⟩ := List.ne_and_not_mem_of_not_mem_cons other
    rw [visit_cons]
    split
    · obtain ⟨same, kept⟩ := ih (h := ((⟨j, t, deadline⟩ : Notice).part h).2) rest
      exact ⟨same.trans (part_elsewhere (n := ⟨j, t, deadline⟩) (Ne.symm first)), kept⟩
    · obtain ⟨same, kept⟩ := ih (h := h) rest
      exact ⟨same, List.not_mem_cons_of_ne_of_not_mem first kept⟩

theorem progress_elsewhere {w : Sweep} (other : k ∉ w.pending.map Prod.fst) :
    (w.progress h).2.session? k = h.session? k ∧ k ∉ (w.progress h).1.pending.map Prod.fst :=
  visit_elsewhere w.deadline w.pending other

/-- A sweep leaves a session alone that is not idle for too long when it begins. -/
theorem start_elsewhere (limit patience : Nat) (fresh : ∀ s, h.session? k = some s → s.idleFor h.clock ≤ limit) :
    (start h limit patience).2.session? k = h.session? k ∧ k ∉ (start h limit patience).1.pending.map Prod.fst := by
  have other : k ∉ h.idleKeys limit := by
    intro idle
    obtain ⟨-, s, hs, -, long⟩ := Hub.mem_idleKeys.mp idle
    exact absurd (fresh s hs) (Nat.not_le.mpr long)
  have keys := Hub.sendEach_keys h idleNotice (h.idleKeys limit)
  obtain ⟨same, kept⟩ := visit_elsewhere (h := (h.sendEach idleNotice (h.idleKeys limit)).2)
    ((h.sendEach idleNotice (h.idleKeys limit)).2.clock + patience) (h.sendEach idleNotice (h.idleKeys limit)).1
    (by rwa [keys])
  exact ⟨same.trans (Hub.sendEach_elsewhere other), kept⟩

end Sweep

namespace Hub

theorem abandonAll_elsewhere {h : Hub} {k : SessionKey} {ts : List (SessionKey × Ticket)}
    (other : k ∉ ts.map Prod.fst) : (h.abandonAll ts).session? k = h.session? k := by
  induction ts generalizing h with
  | nil => rfl
  | cons p ts ih =>
    obtain ⟨first, rest⟩ := List.ne_and_not_mem_of_not_mem_cons other
    exact (ih (h := h.abandon p.1 p.2) rest).trans (move_elsewhere (Ne.symm first) _)

end Hub

namespace Monitor

/-- Goes on with the sweep that is under way. -/
def goOn (m : Monitor) (h : Hub) : Monitor × Hub :=
  match m.sweep with
  | some w => ({ m with sweep := if (w.progress h).1.isOver then none else some (w.progress h).1 }, (w.progress h).2)
  | none => (m, h)

/-- Whether a sweep begins now. -/
def begins (m : Monitor) (h : Hub) : Bool := (m.goOn h).1.sweep.isNone && m.due.any (· ≤ h.clock)

/-- Whether session `k` is not idle for too long if a sweep begins now. -/
def Fresh (m : Monitor) (k : SessionKey) (h : Hub) : Prop :=
  m.begins h = true → ∀ s, h.session? k = some s → s.idleFor h.clock ≤ m.idleLimit

/-- A monitor at work, with session `k` not idle for too long whenever a sweep began. Whatever else happens to the
hub. -/
inductive Watching (k : SessionKey) : Monitor → Hub → Prop
  | rests (m : Monitor) (h : Hub) (none : m.sweep = none) : Watching k m h
  | others {m : Monitor} {h : Hub} (h' : Hub) (watching : Watching k m h) : Watching k m h'
  | start {m : Monitor} {h : Hub} (watching : Watching k m h) : Watching k (m.start h.clock) h
  | act {m : Monitor} {h : Hub} (watching : Watching k m h) (fresh : m.Fresh k h) : Watching k (m.act h).1 (m.act h).2
  | stop {m : Monitor} {h : Hub} (watching : Watching k m h) : Watching k (m.stop h).1 (m.stop h).2

/-- No notice to session `k` is under way. -/
def Apart (m : Monitor) (k : SessionKey) : Prop := ∀ w, m.sweep = some w → k ∉ w.pending.map Prod.fst

variable {m : Monitor} {h : Hub} {k : SessionKey}

theorem goOn_apart (apart : m.Apart k) : (m.goOn h).2.session? k = h.session? k ∧ (m.goOn h).1.Apart k := by
  unfold goOn
  cases under : m.sweep with
  | none => exact ⟨rfl, apart⟩
  | some w =>
    obtain ⟨same, kept⟩ := Sweep.progress_elsewhere (h := h) (apart w under)
    refine ⟨same, ?_⟩
    intro w' there
    dsimp only at there
    split at there
    · cases there
    · obtain rfl := Option.some.inj there
      exact kept

theorem leads_goOn (m : Monitor) (h : Hub) : h.Leads (m.goOn h).2 := by
  unfold goOn
  cases m.sweep with
  | none => exact .refl h
  | some w => exact Sweep.leads_progress h w

theorem steady_goOn (m : Monitor) (h : Hub) : h.Steady (m.goOn h).2 := by
  unfold goOn
  cases m.sweep with
  | none => exact .refl h
  | some w => exact Sweep.steady_progress h w

/-- To go on does not change how the monitor is set. -/
theorem goOn_kept (m : Monitor) (h : Hub) : (m.goOn h).1.due = m.due ∧ (m.goOn h).1.idleLimit = m.idleLimit ∧
    (m.goOn h).1.patience = m.patience := by
  unfold goOn
  cases m.sweep <;> exact ⟨rfl, rfl, rfl⟩

theorem act_eq (m : Monitor) (h : Hub) : m.act h = match (m.goOn h).1.sweep, (m.goOn h).1.due with
    | none, some due =>
      if due ≤ (m.goOn h).2.clock then
        let w := Sweep.start (m.goOn h).2 (m.goOn h).1.idleLimit (m.goOn h).1.patience
        ({ (m.goOn h).1 with
          due := some (dueAfter (m.goOn h).1.interval due w.2.clock)
          sweep := if w.1.isOver then none else some w.1 }, w.2)
      else m.goOn h
    | _, _ => m.goOn h := by
  unfold act goOn
  cases m.sweep <;> rfl

/-- A monitor goes on with its sweep, and begins one if that is over and the time has come. -/
theorem act_cases (m : Monitor) (h : Hub) : m.begins h = false ∧ m.act h = m.goOn h ∨ m.begins h = true ∧
    ∃ due, m.act h = ({ (m.goOn h).1 with
      due
      sweep := if (Sweep.start (m.goOn h).2 (m.goOn h).1.idleLimit (m.goOn h).1.patience).1.isOver then none
        else some (Sweep.start (m.goOn h).2 (m.goOn h).1.idleLimit (m.goOn h).1.patience).1 },
      (Sweep.start (m.goOn h).2 (m.goOn h).1.idleLimit (m.goOn h).1.patience).2) := by
  obtain ⟨same, -, -⟩ := goOn_kept m h
  rw [act_eq, begins, ← same, ← (steady_goOn m h).clock]
  cases (m.goOn h).1.sweep with
  | some w => exact .inl ⟨rfl, rfl⟩
  | none =>
    cases (m.goOn h).1.due with
    | none => exact .inl ⟨rfl, rfl⟩
    | some due =>
      by_cases come : due ≤ (m.goOn h).2.clock
      · refine .inr ⟨by simpa using come, _, if_pos come⟩
      · refine .inl ⟨by simpa using come, if_neg come⟩

/-- A sweep that is under way after a monitor has acted went on, or it has just begun. -/
theorem act_sweep {w : Sweep} (under : (m.act h).1.sweep = some w) :
    (∃ w₀, m.sweep = some w₀ ∧ w = (w₀.progress h).1 ∧ (m.act h).2 = (w₀.progress h).2) ∨
      m.begins h = true ∧ w = (Sweep.start (m.goOn h).2 m.idleLimit m.patience).1 ∧
        (m.act h).2 = (Sweep.start (m.goOn h).2 m.idleLimit m.patience).2 := by
  obtain ⟨-, limit, patience⟩ := goOn_kept m h
  rcases act_cases m h with ⟨-, act⟩ | ⟨begins, due, act⟩
  · rw [act] at under ⊢
    cases before : m.sweep with
    | none => simp [goOn, before] at under
    | some w₀ =>
      simp only [goOn, before] at under ⊢
      split at under
      · cases under
      · exact .inl ⟨w₀, rfl, (Option.some.inj under).symm, rfl⟩
  · rw [limit, patience] at act
    rw [act] at under ⊢
    dsimp only at under
    split at under
    · cases under
    · exact .inr ⟨begins, (Option.some.inj under).symm, rfl⟩

theorem act_kept (m : Monitor) (h : Hub) : (m.act h).1.idleLimit = m.idleLimit ∧ (m.act h).1.patience = m.patience := by
  obtain ⟨-, kept⟩ := goOn_kept m h
  rcases act_cases m h with ⟨-, act⟩ | ⟨-, due, act⟩ <;> rw [act] <;> exact kept

theorem act_apart (apart : m.Apart k) (fresh : m.Fresh k h) : (m.act h).2.session? k = h.session? k ∧
    (m.act h).1.Apart k := by
  obtain ⟨same, kept⟩ := goOn_apart (h := h) apart
  obtain ⟨-, limit, -⟩ := goOn_kept m h
  rcases act_cases m h with ⟨-, act⟩ | ⟨begins, due, act⟩
  · rw [act]
    exact ⟨same, kept⟩
  · obtain ⟨same', kept'⟩ := Sweep.start_elsewhere (k := k) (m.goOn h).1.idleLimit (m.goOn h).1.patience
      (by rw [same, limit, (steady_goOn m h).clock]; exact fresh begins)
    rw [act]
    refine ⟨same'.trans same, ?_⟩
    intro w there
    dsimp only at there
    split at there
    · cases there
    · obtain rfl := Option.some.inj there
      exact kept'

theorem stop_apart (apart : m.Apart k) : (m.stop h).2.session? k = h.session? k ∧ (m.stop h).1.Apart k := by
  refine ⟨Hub.abandonAll_elsewhere ?_, nofun⟩
  cases under : m.sweep with
  | none => exact List.not_mem_nil
  | some w => exact apart w under

theorem Watching.apart (watching : Watching k m h) : m.Apart k := by
  induction watching with
  | rests m h none =>
    intro w there
    rw [none] at there
    cases there
  | others _ _ ih => exact ih
  | start _ ih =>
    intro w there
    refine ih w ?_
    unfold Monitor.start at there
    split at there <;> exact there
  | act _ fresh ih => exact (act_apart ih fresh).2
  | stop _ ih => exact (stop_apart ih).2

end Monitor
end FrameServer
