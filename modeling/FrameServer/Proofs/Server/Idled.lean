import FrameServer.Proofs.Server.Buffer
import FrameServer.Proofs.Session.Refusal

namespace FrameServer.Server

open Connection

/-- The response with which the handler ends in the next step, if it does. -/
def Connection.response? (c : Connection) (k : SessionKey) (h : Hub) : Option Bytes :=
  match c.phase with
  | .handling w =>
    match w.step h k with
    | .finished (.ok r) => r
    | _ => none
  | _ => none

/-- The response that the handler of session `k` returns in a step. -/
def answered (k : SessionKey) (s : State) : Label → Option Bytes
  | .task j => if j = k then (s.connection? k).bind (·.response? k s.hub) else none
  | _ => none

/-- The responses that the handler of session `k` returns along a list of steps. -/
def responses (a : Application) (k : SessionKey) : State → List Label → List Bytes := gathered (answered k) a

/-- Why a response is given up in the next step, if it is: its connection failed, or it took too long. -/
def Connection.failure? (c : Connection) (k : SessionKey) (h : Hub) : Option String :=
  match c.phase with
  | .responding i deadline =>
    match h.result? k i with
    | some (.error (.frame (.io reason))) => some reason
    | some _ => none
    | none => if deadline ≤ h.clock then some "write timed out" else none
  | _ => none

/-- The failure with which the response of session `k` is given up in a step. -/
def failed (k : SessionKey) (s : State) : Label → Option String
  | .task j => if j = k then (s.connection? k).bind (·.failure? k s.hub) else none
  | _ => none

/-- The failures with which responses of session `k` are given up along a list of steps. -/
def failures (a : Application) (k : SessionKey) : State → List Label → List String := gathered (failed k) a

/-- The reason with which a session ends that was closed for being idle, by the responses returned since. -/
def reasonAfter (responses : List Bytes) : CloseReason := if responses.isEmpty then .timeout else .cancel

/-- Where the task of such a session is, and what is true there. -/
def Idled (x : Session) (told : List Record) (responses : List Bytes) : Phase → Prop
  | .waiting | .handling _ | .pausing _ | .timingOut => responses = []
  | .responding i _ => responses = [] ∧ x.lane.Spared i ∨ responses ≠ [] ∧ x.lane.Refused i
  | .leaving reason | .parting reason | .closing reason => reason = reasonAfter responses
  | .shuttingDown _ | .ended => closeEvent x.id (reasonAfter responses) ∈ told
  | .aborted => True
  | _ => False

variable {a : Application} {k : SessionKey} {s t u v : State} {l : Label} {ls : List Label} {c c' : Connection}
  {x x' : Session}

section Asked

/-- Tickets for responses are given out before. -/
def State.Asked (s : State) : Prop :=
  ∀ k c i deadline, s.connection? k = some c → c.phase = .responding i deadline → i < s.hub.tickets

theorem asked_of_effect {h h' : Hub} {records : List Record} {i : Ticket} {deadline : Nat}
    (e : c.Effect a k x h h' c' records) (phase : c'.phase = .responding i deadline) : i < h'.tickets := by
  cases e with
  | answer w r =>
    obtain ⟨rfl, -⟩ : (h.send k r).1 = i ∧ _ = deadline := by simpa using phase
    show h.tickets < (h.request k (.send · r)).2.tickets
    rw [Hub.request_tickets]
    exact Nat.lt_succ_self _
  | silent | answered => rcases pause_cases a h with paused | paused <;> cases paused.symm.trans phase
  | cancel =>
    dsimp only at phase
    split at phase <;> cases phase
  | _ => cases phase

theorem State.Asked.step (h : step a s l = some t) (asked : s.Asked) : t.Asked := by
  intro k c' i deadline hc' phase
  cases hc : s.connection? k with
  | none =>
    obtain ⟨-, -, absent | added⟩ := step_unconnected h hc
    · rw [absent] at hc'
      cases hc'
    · obtain rfl := Option.some.inj (added.symm.trans hc')
      cases phase
  | some c =>
    cases task : l.isTask k with
    | false =>
      rcases phase_elsewhere h task hc hc' with same | aborted
      · exact Nat.lt_of_lt_of_le (asked k c i deadline hc (same ▸ phase)) (step_change h).session.1
      · rw [aborted] at phase
        cases phase
    | true =>
      obtain rfl := isTask_iff.mp task
      obtain ⟨d, d', x, h', records, hd, hx, made, rfl⟩ := step_task.mp h
      obtain rfl : d' = c' := Option.some.inj ((afterTask_connection hd).symm.trans hc')
      exact asked_of_effect (step_effect made) phase

theorem play_asked (run : play a {} ls = some t) : t.Asked :=
  play_invariant (fun hl hs => State.Asked.step hl hs) run fun k c i deadline hc => by cases hc

end Asked

section Answered

theorem answered_elsewhere (other : l.isTask k = false) : answered k s l = none := by
  cases l with
  | task j =>
    have e : j ≠ k := by simpa [Label.isTask] using other
    simp [answered, e]
  | _ => rfl

theorem answered_here (hc : s.connection? k = some c) : answered k s (.task k) = c.response? k s.hub := by
  simp [answered, hc]

theorem responses_concat (run : play a s ls = some t) (hl : step a t l = some u) :
    responses a k s (ls ++ [l]) = responses a k s ls ++ (answered k t l).toList :=
  gathered_concat run hl

theorem failures_concat (run : play a s ls = some t) (hl : step a t l = some u) :
    failures a k s (ls ++ [l]) = failures a k s ls ++ (failed k t l).toList :=
  gathered_concat run hl

theorem failed_here (hc : s.connection? k = some c) : failed k s (.task k) = c.failure? k s.hub := by
  simp [failed, hc]

theorem failure_of_broken {h h' : Hub} {i : Ticket} {deadline : Nat} {reason : String}
    (phase : c.phase = .responding i deadline) (why : Broken k h i deadline reason h') :
    c.failure? k h = some reason := by
  cases why with
  | io reason result => simp [failure?, phase, result]
  | late result passed => simp [failure?, phase, result, passed]

end Answered

/-- A response that was refused cancels the session. -/
theorem refused_step {h h' : Hub} {records : List Record} {i : Ticket} {deadline : Nat} (hx : h.session? k = some x)
    (phase : c.phase = .responding i deadline) (refused : x.lane.Refused i)
    (made : c.step a k x h = some (h', c', records)) : c'.phase = .leaving .cancel := by
  have result : h.result? k i = some (.error .closed) := by
    rw [Hub.result?, hx]
    exact refused.result?
  simp only [Connection.step, phase, responded, result, conclude, Option.some.injEq, Prod.mk.injEq] at made
  obtain ⟨-, rfl, -⟩ := made
  rfl

/-- Others leave the task of the session where it is. -/
theorem Idled.other {told : List Record} {rs : List Bytes} {p : Phase} {n n' : Nat} {moves : List Session.Move}
    (h : Idled x told rs p) (path : x.Path n moves n' x') (asked : ∀ i deadline, p = .responding i deadline → i < n) :
    Idled x' told rs p := by
  cases p with
  | responding i deadline =>
    have old := asked i deadline rfl
    exact h.imp (fun h => ⟨h.1, path.spared old h.2⟩) (fun h => ⟨h.1, path.refused old h.2⟩)
  | shuttingDown | ended =>
    simp only [Idled, path.id_eq]
    exact h
  | _ => exact h

theorem Idled.pause {told : List Record} (a : Application) (h : Hub) : Idled x told [] (Connection.pause a h) := by
  rcases pause_cases a h with paused | paused <;> rw [paused] <;> rfl

/-- A step of the task of a session that was closed for being idle. -/
theorem Idled.task {h h' : Hub} {told records : List Record} {rs : List Bytes} (idled : Idled x told rs c.phase)
    (hx : h.session? k = some x) (standing : x.Standing h.tickets) (closed : x.closed = true)
    (idle : x.closedIdle = true) (written : c.failure? k h = none) (made : c.step a k x h = some (h', c', records))
    (hx' : h'.session? k = some x') :
    Idled x' (told ++ records) (rs ++ (c.response? k h).toList) c'.phase := by
  have e := step_effect made
  obtain ⟨y, moves, hy, path⟩ := e.leads.session k x hx
  obtain rfl : y = x' := Option.some.inj (hy.symm.trans hx')
  cases e with
  | connect phase | greet phase | complete phase | corrupt _ phase | fail _ phase =>
    rw [phase] at idled
    cases idled
  | receive _ _ _ unclosed | drained _ unclosed =>
    rw [closed] at unclosed
    cases unclosed
  | cancel phase =>
    rcases phase with phase | phase
    · rw [phase] at idled
      simpa [idle, Idled, response?, phase] using idled
    · rw [phase] at idled
      cases idled
  | work w w' _ notes phase goesOn =>
    rw [phase] at idled
    simpa [Idled, response?, phase, goesOn] using idled
  | silent w o phase finished silent =>
    rw [phase] at idled
    obtain rfl : rs = [] := idled
    have unanswered : c.response? k h = none := by
      cases o with
      | ok r =>
        cases r with
        | none => simp [response?, phase, finished]
        | some r => exact absurd rfl (silent r)
      | _ => simp [response?, phase, finished]
    rw [unanswered]
    exact Idled.pause a h
  | answer w r phase finished =>
    have told : c.response? k h = some r := by simp [response?, phase, finished]
    rw [told]
    have new : ¬ x.lane.Names h.tickets := fun named => Nat.lt_irrefl _ (standing.below _ named)
    exact .inr ⟨by simp, Hub.send_refused hx new closed hx'⟩
  | answered i deadline phase =>
    have unanswered : c.response? k h = none := by simp [response?, phase]
    rw [phase] at idled
    rcases idled with ⟨rfl, -⟩ | ⟨-, refused⟩
    · rw [unanswered]
      exact Idled.pause a h
    · have left := refused_step hx phase refused made
      rcases pause_cases a h with paused | paused <;> cases paused.symm.trans left
  | refused i deadline phase result =>
    have unanswered : c.response? k h = none := by simp [response?, phase]
    rw [phase] at idled
    rcases idled with ⟨-, spared⟩ | ⟨some, -⟩
    · exact absurd (mem_of_result hx result) spared.result
    · simp [Idled, reasonAfter, unanswered, some]
  | broken i deadline reason _ phase why =>
    rw [failure_of_broken phase why] at written
    cases written
  | wake time phase =>
    rw [phase] at idled
    simpa [Idled, response?, phase] using idled
  | timeout phase =>
    rw [phase] at idled
    obtain rfl : rs = [] := idled
    simp [Idled, reasonAfter, response?, phase]
  | leave reason phase | part reason phase =>
    rw [phase] at idled
    simpa [Idled, response?, phase] using idled
  | close reason phase =>
    rw [phase] at idled
    obtain rfl : reason = reasonAfter rs := idled
    simp [Idled, response?, phase, path.id_eq]
  | finish i phase =>
    rw [phase] at idled
    simp only [Idled, response?, phase, path.id_eq, List.append_nil, Option.toList_none]
    exact idled

/-- In this step the monitor closes session `k` for being idle, while its task is in its loop. -/
structure ClosesIdle (k : SessionKey) (u v : State) : Prop where
  inside : ∃ c, u.connection? k = some c ∧ c.phase.inLoop = true
  unclosed : ∃ y, u.hub.session? k = some y ∧ y.closed = false
  closed : ∃ z, v.hub.session? k = some z ∧ z.closed = true ∧ z.closedIdle = true

section Run

variable {before after : List Label} {i : Nat}

theorem idled_start (run : play a {} before = some u) (watch : step a u (.watch i) = some v) (closes : ClosesIdle k u v)
    (hc : v.connection? k = some c) (hx : v.hub.session? k = some x) : Idled x [] [] c.phase := by
  obtain ⟨d, hd, loop⟩ := closes.inside
  obtain ⟨y, hy, unclosed⟩ := closes.unclosed
  obtain ⟨z, moves, hz, path⟩ := (step_change watch).session.2 k y hy
  obtain rfl : z = x := Option.some.inj (hz.symm.trans hx)
  rcases phase_elsewhere watch rfl hd hc with same | aborted
  · rw [same]
    cases phase : d.phase with
    | responding j deadline =>
      have old := play_asked run k d j deadline hd phase
      have spared := ((play_standing run).session k y hy).spared unclosed j
      exact .inl ⟨rfl, path.spared old spared⟩
    | waiting | handling | pausing => rfl
    | _ =>
      rw [phase] at loop
      cases loop
  · rw [aborted]
    trivial

theorem play_idled (run : play a {} before = some u) (watch : step a u (.watch i) = some v) (closes : ClosesIdle k u v)
    (later : play a v after = some t) (written : failures a k v after = []) (hc : t.connection? k = some c)
    (hx : t.hub.session? k = some x) : Idled x (told a k v after) (responses a k v after) c.phase := by
  have start : play a {} (before ++ [.watch i]) = some v := play_concat.mpr ⟨u, run, watch⟩
  induction after using List.reverseRecOn generalizing t c x with
  | nil =>
    obtain rfl := Option.some.inj later
    exact idled_start run watch closes hc hx
  | append_singleton after l ih =>
    obtain ⟨s, hs, hl⟩ := play_concat.mp later
    have there : play a {} (before ++ [.watch i] ++ after) = some s := by
      rw [play_append, start]
      exact hs
    obtain ⟨z, hz, closed, idle⟩ := closes.closed
    obtain ⟨y, moves, hy, path⟩ := play_session hs hz
    obtain ⟨y', moves', hy', path'⟩ := (step_change hl).session.2 k y hy
    obtain rfl : y' = x := Option.some.inj (hy'.symm.trans hx)
    have paired := (play_standing there).paired
    obtain ⟨d, hd⟩ : ∃ d, s.connection? k = some d := by
      have bound := (List.getElem?_eq_some_iff.mp hy).1
      rw [← paired] at bound
      exact ⟨_, List.getElem?_eq_getElem bound⟩
    rw [failures_concat hs hl, List.append_eq_nil_iff] at written
    have idled := ih hs written.1 hd hy
    rw [told_concat hs hl, responses_concat hs hl]
    cases task : l.isTask k with
    | false =>
      rw [noted_other task, answered_elsewhere task, List.append_nil, Option.toList_none, List.append_nil]
      rcases phase_elsewhere hl task hd hc with same | aborted
      · rw [same]
        exact idled.other path' fun j deadline phase => play_asked there k d j deadline hd phase
      · rw [aborted]
        trivial
    | true =>
      obtain rfl := isTask_iff.mp task
      obtain ⟨d', c', w, h', records, hd', hw, made, rfl⟩ := step_task.mp hl
      obtain rfl : d = d' := Option.some.inj (hd.symm.trans hd')
      obtain rfl : y = w := Option.some.inj (hy.symm.trans hw)
      obtain rfl : c' = c := Option.some.inj ((afterTask_connection hd).symm.trans hc)
      rw [noted_afterTask, answered_here hd]
      have unfailed : d.failure? k s.hub = none := by simpa [failed_here hd] using written.2
      have standing := (play_standing there).session k y hy
      exact idled.task hy standing (path.closed closed) (path.closedIdle idle) unfailed made hx

end Run

end FrameServer.Server
