import Mathlib.Data.List.Forall2
import FrameServer.Proofs.Server.Common
import FrameServer.Proofs.Server.Lifecycle
import FrameServer.Proofs.Server.Sieve

namespace FrameServer.Server

open Connection

namespace Connection

/-- What the handler returns in the next step, if it returns. -/
def outcome? (c : Connection) (k : SessionKey) (h : Hub) : Option (Outcome (Option Bytes)) :=
  match c.phase with
  | .handling w =>
    match w.step h k with
    | .finished o => some o
    | _ => none
  | _ => none

/-- The time, if the exchange is over with the next step: no response is returned, or it is written or dropped. -/
def concluded? (c : Connection) (k : SessionKey) (h : Hub) : Option Nat :=
  match c.phase with
  | .handling _ =>
    match c.outcome? k h with
    | none | some (.ok (some _)) => none
    | some _ => some h.clock
  | .responding i _ =>
    match h.result? k i with
    | none | some (.error .closed) | some (.error (.frame (.io _))) => none
    | some _ => some h.clock
  | _ => none

end Connection

/-- What there is to say of session `k` when its own task makes a step. -/
def ofTask {α : Type} (f : Connection → Hub → Option α) (k : SessionKey) (s : State) : Label → Option α
  | .task j => if j = k then (s.connection? k).bind (f · s.hub) else none
  | _ => none

/-- What the handler of session `k` returns along a list of steps. -/
def outcomes (a : Application) (k : SessionKey) : State → List Label → List (Outcome (Option Bytes)) :=
  gathered (ofTask (·.outcome? k ·) k) a

/-- The times at which the exchanges of session `k` are over. -/
def conclusions (a : Application) (k : SessionKey) : State → List Label → List Nat :=
  gathered (ofTask (·.concluded? k ·) k) a

variable {a : Application} {s t u : State} {l : Label} {ls ms : List Label} {k : SessionKey} {c c' : Connection}
  {x x' : Session} {h h' : Hub} {records : List Record}

section Gathered

variable {α : Type} {f : Connection → Hub → Option α}

theorem ofTask_elsewhere (other : l.isTask k = false) : ofTask f k s l = none := by
  cases l with
  | task j =>
    have e : j ≠ k := by simpa [Label.isTask] using other
    simp [ofTask, e]
  | _ => rfl

theorem ofTask_here (hc : s.connection? k = some c) : ofTask f k s (.task k) = f c s.hub := by
  simp [ofTask, hc]

theorem ofTask_unconnected (hc : s.connection? k = none) : ofTask f k s l = none := by
  cases l <;> simp [ofTask, hc]

/-- Nothing is gathered of a connection before it is there. -/
theorem gathered_unconnected (run : play a {} ls = some t) (hc : t.connection? k = none) :
    gathered (ofTask f k) a {} ls = [] := by
  induction ls using List.reverseRecOn generalizing t with
  | nil => rfl
  | append_singleton ls l ih =>
    obtain ⟨s, hs, hl⟩ := play_concat.mp run
    cases hd : s.connection? k with
    | none =>
      rw [gathered_concat hs hl, ih hs hd, ofTask_unconnected hd]
      rfl
    | some d =>
      obtain ⟨d', hd', -⟩ := step_flow hl hd
      rw [hd'] at hc
      cases hc

end Gathered

section Conclusions

theorem outcome_handling {w : Work} (phase : c.phase = .handling w) (k : SessionKey) (h : Hub) :
    c.outcome? k h = match w.step h k with | .finished o => some o | _ => none := by
  simp only [outcome?, phase]

theorem outcome_other (other : ∀ w, c.phase ≠ .handling w) : c.outcome? k h = none := by
  unfold outcome?
  split
  next w phase => exact absurd phase (other w)
  · rfl

theorem concluded_other (silent : ∀ w, c.phase ≠ .handling w) (quiet : ∀ i d, c.phase ≠ .responding i d) :
    c.concluded? k h = none := by
  unfold concluded?
  split
  next w phase => exact absurd phase (silent w)
  next i d phase => exact absurd phase (quiet i d)
  · rfl

theorem concluded_clock {e : Nat} (concluded : c.concluded? k h = some e) : e = h.clock := by
  unfold concluded? at concluded
  split at concluded
  · split at concluded <;> cases concluded
    rfl
  · split at concluded <;> cases concluded
    rfl
  · cases concluded

/-- After a response the task pauses if it was written, or dropped. -/
theorem result_of_pause {i : Ticket} {deadline : Nat} (phase : c.phase = .responding i deadline)
    (made : c.step a k x h = some (h', c', records)) (paused : c'.phase = Connection.pause a h) :
    h.result? k i = some (.ok ()) ∨ ∃ e, h.result? k i = some (.error (.frame e)) ∧ ∀ reason, e ≠ .io reason := by
  have ended {reason : CloseReason} (leaving : c'.phase = .leaving reason) : False := by
    rw [paused] at leaving
    rcases pause_cases a h with waits | waits <;> rw [waits] at leaving <;> cases leaving
  simp only [Connection.step, phase, responded] at made
  split at made
  next result => exact .inl result
  · obtain ⟨-, rfl, -⟩ := of_conclude made
    exact (ended rfl).elim
  · obtain ⟨-, rfl, -⟩ := of_conclude made
    exact (ended rfl).elim
  next e other result => exact .inr ⟨e, result, fun reason same => other reason (by rw [same])⟩
  · split at made
    · obtain ⟨-, rfl, -⟩ := of_conclude made
      exact (ended rfl).elim
    · cases made

theorem concluded_of_result {i : Ticket} {deadline : Nat} (phase : c.phase = .responding i deadline)
    (result : h.result? k i = some (.ok ()) ∨
      ∃ e, h.result? k i = some (.error (.frame e)) ∧ ∀ reason, e ≠ .io reason) :
    c.concluded? k h = some h.clock := by
  rcases result with result | ⟨e, result, other⟩
  · simp only [concluded?, phase, result]
  · cases e with
    | io reason => exact absurd rfl (other reason)
    | tooLarge | truncated => simp only [concluded?, phase, result]

theorem conclusions_le (run : play a {} ls = some t) {e : Nat} (he : e ∈ conclusions a k {} ls) : e ≤ t.hub.clock := by
  induction ls using List.reverseRecOn generalizing t with
  | nil => cases he
  | append_singleton ls l ih =>
    obtain ⟨s, hs, hl⟩ := play_concat.mp run
    have later : s.hub.clock ≤ t.hub.clock := by
      rw [step_clock hl]
      exact Nat.le_add_right _ _
    rw [conclusions, gathered_concat hs hl, List.mem_append] at he
    rcases he with he | he
    · exact Nat.le_trans (ih hs he) later
    · cases task : l.isTask k with
      | false =>
        rw [ofTask_elsewhere task] at he
        cases he
      | true =>
        obtain rfl := isTask_iff.mp task
        obtain ⟨d, d', y, h', records, hd, -⟩ := step_task.mp hl
        rw [ofTask_here hd, Option.mem_toList] at he
        rw [concluded_clock he]
        exact later

end Conclusions

/-- The handler was called with this message, ran to its end, and returned this. -/
def Produced (a : Application) (id : SessionId) (m : Bytes) (o : Outcome (Option Bytes)) : Prop :=
  ∃ attribute? notes, (a.handler { session := id, message := m, attribute? }).Runs notes (.done o)

/-- Where the exchanges stand, by the messages handed over, what was returned, and the times at which they were over. -/
def Exchanged (a : Application) (id : SessionId) (clock : Nat) (ms : List Bytes) (os : List (Outcome (Option Bytes)))
    (ts : List Nat) : Phase → Prop
  | .opening | .greeting => ms = [] ∧ os = [] ∧ ts = []
  | .waiting => ms.Forall₂ (Produced a id) os ∧ ts.length = os.length ∧ ∀ e ∈ ts, e + a.settings.dispatchDelay ≤ clock
  | .pausing time =>
    ms.Forall₂ (Produced a id) os ∧ ts.length = os.length ∧ ∀ e ∈ ts, e + a.settings.dispatchDelay ≤ time
  | .handling w => ts.length = os.length ∧ ∃ earlier m attribute? notes, ms = earlier ++ [m] ∧
      earlier.Forall₂ (Produced a id) os ∧ (a.handler { session := id, message := m, attribute? }).Runs notes w.script
  | .responding _ _ => ms.Forall₂ (Produced a id) os ∧ ts.length + 1 = os.length
  | .aborted => ∃ done pending, ms = done ++ pending ∧ done.Forall₂ (Produced a id) os ∧ pending.length ≤ 1
  | _ => ms.Forall₂ (Produced a id) os

section Exchanged

variable {id : SessionId} {clock clock' : Nat} {ms : List Bytes} {os : List (Outcome (Option Bytes))} {ts : List Nat}

/-- Wherever the task is, one exchange may be unfinished. -/
theorem Exchanged.pending {p : Phase} (h : Exchanged a id clock ms os ts p) :
    ∃ done pending, ms = done ++ pending ∧ done.Forall₂ (Produced a id) os ∧ pending.length ≤ 1 ∧
      (pending ≠ [] → (∃ w, p = .handling w) ∨ p = .aborted) := by
  have all (whole : ms.Forall₂ (Produced a id) os) :
      ∃ done pending, ms = done ++ pending ∧ done.Forall₂ (Produced a id) os ∧ pending.length ≤ 1 ∧
        (pending ≠ [] → (∃ w, p = .handling w) ∨ p = .aborted) :=
    ⟨ms, [], (List.append_nil ms).symm, whole, Nat.zero_le 1, fun none => absurd rfl none⟩
  cases p with
  | opening | greeting =>
    obtain ⟨rfl, rfl, -⟩ := h
    exact all .nil
  | waiting | pausing | responding => exact all h.1
  | handling w =>
    obtain ⟨-, earlier, m, -, -, split, ran, -⟩ := h
    exact ⟨earlier, [m], split, ran, Nat.le_refl 1, fun _ => .inl ⟨w, rfl⟩⟩
  | aborted =>
    obtain ⟨done, pending, split, ran, few⟩ := h
    exact ⟨done, pending, split, ran, few, fun _ => .inr rfl⟩
  | _ => exact all h

theorem Exchanged.elsewhere {p p' : Phase} (h : Exchanged a id clock ms os ts p) (later : clock ≤ clock')
    (same : p' = p ∨ p' = .aborted) : Exchanged a id clock' ms os ts p' := by
  rcases same with rfl | rfl
  · cases p' with
    | waiting =>
      obtain ⟨ran, past, passed⟩ := h
      exact ⟨ran, past, fun e he => Nat.le_trans (passed e he) later⟩
    | _ => exact h
  · obtain ⟨done, pending, split, ran, few, -⟩ := h.pending
    exact ⟨done, pending, split, ran, few⟩

/-- When an exchange is over, the task pauses. -/
theorem Exchanged.pause (ran : ms.Forall₂ (Produced a id) os) (past : ts.length = os.length)
    (passed : ∀ e ∈ ts, e ≤ h.clock) : Exchanged a id h.clock ms os ts (Connection.pause a h) := by
  unfold Connection.pause
  split
  next none =>
    refine ⟨ran, past, fun e he => ?_⟩
    rw [none]
    exact passed e he
  · exact ⟨ran, past, fun e he => Nat.add_le_add_right (passed e he) _⟩

/-- A step of the task leads from one part of an exchange to the next. -/
theorem Exchanged.task (ex : Exchanged a x.id h.clock ms os ts c.phase) (passed : ∀ e ∈ ts, e ≤ h.clock)
    (made : c.step a k x h = some (h', c', records)) :
    Exchanged a x.id h.clock (ms ++ (c.next? x.closed).toList) (os ++ (c.outcome? k h).toList)
      (ts ++ (c.concluded? k h).toList) c'.phase := by
  have idle (quiet : c.next? x.closed = none) (silent : ∀ w, c.phase ≠ .handling w)
      (still : ∀ i d, c.phase ≠ .responding i d) (on : Exchanged a x.id h.clock ms os ts c'.phase) :
      Exchanged a x.id h.clock (ms ++ (c.next? x.closed).toList) (os ++ (c.outcome? k h).toList)
        (ts ++ (c.concluded? k h).toList) c'.phase := by
    rw [quiet, outcome_other silent, concluded_other silent still]
    simpa using on
  have unasked (other : c.phase ≠ .waiting) : c.next? x.closed = none := by
    unfold Connection.next?
    split
    next phase => exact absurd phase other
    · rfl
  have e := step_effect made
  cases e with
  | receive m rest phase unclosed next =>
    rw [phase] at ex
    obtain ⟨ran, past, -⟩ := ex
    have taken : c.next? x.closed = some m := next_eq_some.mpr ⟨phase, unclosed, rest, next⟩
    rw [taken, outcome_other (by simp [phase]), concluded_other (by simp [phase]) (by simp [phase])]
    refine ⟨by simpa using past, ms, m, x.attribute?, [], rfl, ?_, .start⟩
    simpa using ran
  | work w w' _ notes phase goesOn =>
    rw [phase] at ex
    obtain ⟨past, earlier, m, attribute?, notes', split, ran, runs⟩ := ex
    have on : c.outcome? k h = none := by rw [outcome_handling phase, goesOn]
    have unfinished : c.concluded? k h = none := by simp only [concluded?, phase, on]
    rw [unasked (by simp [phase]), on, unfinished]
    refine ⟨by simpa using past, earlier, m, attribute?, notes' ++ notes, by simpa using split, ?_,
      Work.step_runs runs goesOn⟩
    simpa using ran
  | silent w o phase finished none =>
    rw [phase] at ex
    obtain ⟨past, earlier, m, attribute?, notes, rfl, ran, runs⟩ := ex
    rw [Work.step_finished finished] at runs
    have out : c.outcome? k h = some o := by rw [outcome_handling phase, finished]
    have done : c.concluded? k h = some h.clock := by
      simp only [concluded?, phase, out]
    rw [unasked (by simp [phase]), out, done, Option.toList_none, List.append_nil]
    refine Exchanged.pause (List.rel_append ran (.cons ⟨attribute?, notes, runs⟩ .nil)) (by simpa using past) ?_
    intro e he
    rcases List.mem_append.mp he with he | he
    · exact passed e he
    · rw [List.mem_singleton.mp he]
  | answer w r phase finished =>
    rw [phase] at ex
    obtain ⟨past, earlier, m, attribute?, notes, rfl, ran, runs⟩ := ex
    rw [Work.step_finished finished] at runs
    have out : c.outcome? k h = some (.ok (some r)) := by rw [outcome_handling phase, finished]
    have unfinished : c.concluded? k h = none := by simp only [concluded?, phase, out]
    rw [unasked (by simp [phase]), out, unfinished, Option.toList_none, List.append_nil]
    exact ⟨List.rel_append ran (.cons ⟨attribute?, notes, runs⟩ .nil), by simpa using past⟩
  | answered i deadline phase =>
    rw [phase] at ex
    obtain ⟨ran, past⟩ := ex
    have done := concluded_of_result phase (result_of_pause phase made rfl)
    rw [unasked (by simp [phase]), outcome_other (by simp [phase]), done]
    refine Exchanged.pause (by simpa using ran) (by simpa using past) ?_
    intro e he
    rcases List.mem_append.mp he with he | he
    · exact passed e he
    · rw [List.mem_singleton.mp he]
  | refused i deadline phase result =>
    rw [phase] at ex
    rw [unasked (by simp [phase]), outcome_other (by simp [phase]), Option.toList_none, Option.toList_none,
      List.append_nil, List.append_nil]
    exact ex.1
  | broken i deadline reason _ phase =>
    rw [phase] at ex
    rw [unasked (by simp [phase]), outcome_other (by simp [phase]), Option.toList_none, Option.toList_none,
      List.append_nil, List.append_nil]
    exact ex.1
  | wake time phase awake =>
    refine idle (unasked (by simp [phase])) (by simp [phase]) (by simp [phase]) ?_
    rw [phase] at ex
    obtain ⟨ran, past, passed⟩ := ex
    exact ⟨ran, past, fun e he => Nat.le_trans (passed e he) awake⟩
  | connect phase =>
    rw [phase] at ex
    exact idle (unasked (by simp [phase])) (by simp [phase]) (by simp [phase]) ex
  | greet phase =>
    rw [phase] at ex
    obtain ⟨rfl, rfl, rfl⟩ := ex
    exact idle (unasked (by simp [phase])) (by simp [phase]) (by simp [phase])
      ⟨.nil, rfl, fun e he => by cases he⟩
  | drained phase unclosed live =>
    rw [phase] at ex
    have none : c.next? x.closed = none := by
      cases next : c.next? x.closed with
      | none => rfl
      | some m => cases (called_of_next next made).2.2
    exact idle none (by simp [phase]) (by simp [phase]) ex.1
  | cancel phase closed =>
    have none : c.next? x.closed = none := by
      cases next : c.next? x.closed with
      | none => rfl
      | some m =>
        rw [(next_eq_some.mp next).2.1] at closed
        cases closed
    have ran : ms.Forall₂ (Produced a x.id) os := by
      rcases phase with phase | phase <;> rw [phase] at ex
      · exact ex.1
      · exact ex
    have elsewhere : (∀ w, c.phase ≠ .handling w) ∧ ∀ i d, c.phase ≠ .responding i d := by
      rcases phase with phase | phase <;> simp [phase]
    refine idle none elsewhere.1 elsewhere.2 ?_
    dsimp only
    split <;> exact ran
  | complete phase | corrupt _ phase | timeout phase | fail _ phase | leave _ phase | part _ phase | close _ phase
  | finish _ phase =>
    rw [phase] at ex
    exact idle (unasked (by simp [phase])) (by simp [phase]) (by simp [phase]) ex

end Exchanged

/-- The exchanges of a connection along a run. -/
theorem play_exchanged (run : play a {} ls = some t) (hc : t.connection? k = some c) (hx : t.hub.session? k = some x) :
    Exchanged a x.id t.hub.clock (handed a k {} ls) (outcomes a k {} ls) (conclusions a k {} ls) c.phase := by
  induction ls using List.reverseRecOn generalizing t c x with
  | nil =>
    obtain rfl := Option.some.inj run
    cases hc
  | append_singleton ls l ih =>
    obtain ⟨s, hs, hl⟩ := play_concat.mp run
    have later : s.hub.clock ≤ t.hub.clock := by
      rw [step_clock hl]
      exact Nat.le_add_right _ _
    rw [handed, gathered_concat hs hl, outcomes, gathered_concat hs hl, conclusions, gathered_concat hs hl]
    cases hd : s.connection? k with
    | none =>
      obtain ⟨-, untaken, absent | added⟩ := step_unconnected hl hd
      · rw [absent] at hc
        cases hc
      obtain rfl := Option.some.inj (added.symm.trans hc)
      have unheard : gathered (taken k) a {} ls = [] := ((play_sifted k hs).before hd).2
      rw [unheard, untaken, ofTask_unconnected hd, ofTask_unconnected hd, gathered_unconnected hs hd,
        gathered_unconnected hs hd]
      exact ⟨rfl, rfl, rfl⟩
    | some d =>
      obtain ⟨y, hy⟩ := session_of_connection (play_standing hs) hd
      obtain ⟨x', _, hx', path⟩ := (step_change hl).session.2 k y hy
      obtain rfl : x' = x := Option.some.inj (hx'.symm.trans hx)
      have before := ih hs hd hy
      rw [path.id_eq]
      cases task : l.isTask k with
      | false =>
        rw [taken_elsewhere task, ofTask_elsewhere task, ofTask_elsewhere task]
        simp only [Option.toList_none, List.append_nil]
        exact before.elsewhere later (phase_elsewhere hl task hd hc)
      | true =>
        obtain rfl := isTask_iff.mp task
        obtain ⟨y', h', records, hy', made, rfl⟩ := own_step hl hd hc
        obtain rfl : y = y' := Option.some.inj (hy.symm.trans hy')
        rw [taken_here hd hy, ofTask_here hd, ofTask_here hd]
        exact (before.task (fun e he => conclusions_le hs he) made).elsewhere later (.inl rfl)

section Events

/-- The event of a message is told when its handler is called, and no other is. -/
theorem messages_of_step (made : c.step a k x h = some (h', c', records)) :
    records.filter (Record.isEvent .messageReceived) = (c.next? x.closed).toList.map (messageEvent x.id) := by
  have other {kind : Event.Kind} {properties : List (String × Json)} (different : kind ≠ .messageReceived) :
      [eventOf kind x.id properties].filter (Record.isEvent .messageReceived) = [] := by
    rw [List.filter_eq_nil_iff]
    intro r hr
    rw [List.mem_singleton.mp hr, isEvent_eventOf, decide_eq_true_eq]
    exact different
  have calls (hook : Hook) : (hooks a x.id hook).filter (Record.isEvent .messageReceived) = [] := by
    rw [← List.length_eq_zero_iff, ← List.countP_eq_length_filter]
    exact count_hooks
  cases next : c.next? x.closed with
  | some m =>
    rw [(called_of_next next made).2.1]
    have told : (messageEvent x.id m).isEvent .messageReceived = true := by
      rw [messageEvent, isEvent_eventOf, decide_eq_true_eq]
    exact List.filter_cons_of_pos told
  | none =>
    have e := step_effect made
    cases e with
    | receive m rest phase unclosed popped =>
      rw [next_eq_some.mpr ⟨phase, unclosed, rest, popped⟩] at next
      cases next
    | connect | corrupt | timeout | part => exact calls _
    | greet | broken | fail | close => exact other (by simp)
    | work w w' _ notes =>
      rw [List.filter_eq_nil_iff.mpr]
      · rfl
      · intro r hr
        obtain ⟨n, -, rfl⟩ := List.mem_map.mp hr
        exact Bool.false_ne_true
    | _ => rfl

/-- Every message that is handed over is told of once. -/
theorem told_messages (run : play a {} ls = some t) (hx : t.hub.session? k = some x) :
    (told a k {} ls).filter (Record.isEvent .messageReceived) = (handed a k {} ls).map (messageEvent x.id) := by
  induction ls using List.reverseRecOn generalizing t x with
  | nil => rfl
  | append_singleton ls l ih =>
    obtain ⟨s, hs, hl⟩ := play_concat.mp run
    rw [told_concat hs hl, handed, gathered_concat hs hl, List.filter_append, List.map_append]
    rcases (step_change hl).session_back hx with ⟨y, _, hy, path⟩ | ⟨last, -⟩
    · rw [path.id_eq, ih hs hy]
      refine congrArg _ ?_
      cases task : l.isTask k with
      | false =>
        rw [noted_other task, taken_elsewhere task]
        rfl
      | true =>
        obtain rfl := isTask_iff.mp task
        obtain ⟨d, d', y', h', records, hd, hy', made, rfl⟩ := step_task.mp hl
        obtain rfl : y = y' := Option.some.inj (hy.symm.trans hy')
        rw [noted_afterTask, taken_here hd hy]
        exact messages_of_step made
    · have hd : s.connection? k = none :=
        (session_none_iff (play_standing hs)).mp (List.getElem?_eq_none_iff.mpr (Nat.le_of_eq last.symm))
      obtain ⟨-, untaken, -⟩ := step_unconnected hl hd
      have other : l.isTask k = false := by
        refine isTask_false ?_
        rintro rfl
        obtain ⟨d, -, -, -, -, hd', -⟩ := step_task.mp hl
        rw [hd] at hd'
        cases hd'
      have unsaid : told a k {} ls = [] := (play_told hs).before (List.getElem?_eq_none_iff.mp hd)
      have none : gathered (taken k) a {} ls = [] := ((play_sifted k hs).before hd).2
      rw [unsaid, none, noted_other other, untaken]
      rfl

end Events

end FrameServer.Server
