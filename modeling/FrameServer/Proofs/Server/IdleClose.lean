import FrameServer.Proofs.Server.Idled
import FrameServer.Proofs.Server.Lifecycle

namespace FrameServer.Server

open Connection

variable {a : Application} {k : SessionKey} {s t u v : State} {ls : List Label} {c : Connection} {x : Session}

/-- The whole story of a task that has ended. -/
theorem play_whole (run : play a {} ls = some t) (hc : t.connection? k = some c) (hx : t.hub.session? k = some x)
    (ended : c.phase = .ended) : ∃ rounds e, told a k {} ls = wholeStory a x rounds e := by
  have story := (play_told run).story c x hc hx
  rw [ended] at story
  obtain ⟨-, reason, before, after, u, y, d, e, removal⟩ := story
  obtain ⟨trace, ⟨rounds, -, rfl⟩, earlier⟩ := removal.story
  refine ⟨rounds, e, ?_⟩
  rw [removal.split, told_append removal.run, earlier, removal.tail, ← removal.reason]
  rfl

theorem closeEvent_mem_whole {rounds : List Round} {e : Ending} {reason : CloseReason}
    (told : closeEvent x.id reason ∈ wholeStory a x rounds e) : reason = e.reason := by
  have unserved : closeEvent x.id reason ∉ served x.id rounds := by
    intro mem
    obtain ⟨round, -, mem⟩ := List.mem_flatMap.mp mem
    rcases List.mem_cons.mp mem with same | mem
    · exact closeEvent_ne (by simp) same
    · obtain ⟨n, -, same⟩ := List.mem_map.mp mem
      cases same
  have unrecorded : closeEvent x.id reason ∉ e.records a x.id := by
    cases e with
    | complete | cancelled => exact List.not_mem_nil
    | timedOut => exact closeEvent_notMem_hooks
    | broken text => exact fun mem => closeEvent_ne (by simp) (List.mem_singleton.mp mem)
    | corrupt err =>
      intro mem
      rcases List.mem_append.mp mem with mem | mem
      · exact closeEvent_notMem_hooks mem
      · exact closeEvent_ne (by simp) (List.mem_singleton.mp mem)
  simp only [wholeStory, greeting, farewell, List.mem_append, closeEvent_notMem_hooks, unserved, unrecorded, or_false,
    false_or, List.mem_singleton] at told
  rcases told with opened | closed
  · exact absurd opened (closeEvent_ne (by simp))
  · exact closeEvent_inj closed

/-- A session ends as a timeout: the middleware is told of it once, and then its end, with this reason, and no error. -/
structure EndsAsTimeout (a : Application) (x : Session) (trace : List Record) : Prop where
  told : ∃ earlier, trace = earlier ++ (hooks a x.id .timeout ++ farewell a x.id .timeout) ∧
    ¬ Called x.id .timeout earlier
  errors : trace.countP (Record.isEvent .sessionError) = 0

theorem endsAsTimeout_whole {rounds : List Round} {e : Ending} :
    EndsAsTimeout a x (wholeStory a x rounds e) ↔ e.reason = .timeout := by
  constructor
  · rintro ⟨⟨earlier, same, -⟩, -⟩
    have called : Called x.id .timeout (wholeStory a x rounds e) := by
      rw [same, called_append, called_append, called_hooks]
      exact .inr (.inl rfl)
    exact called_timeout.mp called
  · intro reason
    cases e with
    | timedOut =>
      refine ⟨⟨greeting a x ++ served x.id rounds, ?_, ?_⟩, ?_⟩
      · simp [wholeStory, Ending.records, Ending.reason]
      · simp only [greeting, called_append, called_hooks, openEvent, not_called_event, not_called_served, or_false,
          reduceCtorEq, not_false_eq_true]
      · rw [count_whole (by simp)]
        simp [Ending.reason]
    | _ => cases reason

/-- The reason with which the session ends is told by the responses returned since. -/
theorem idle_reason {before after : List Label} {i : Nat} (run : play a {} before = some u)
    (watch : step a u (.watch i) = some v) (closes : ClosesIdle k u v) (later : play a v after = some t)
    (written : failures a k v after = []) (hc : t.connection? k = some c) (hx : t.hub.session? k = some x)
    (ended : c.phase = .ended) : ∃ rounds e, told a k {} (before ++ .watch i :: after) = wholeStory a x rounds e ∧
      e.reason = reasonAfter (responses a k v after) := by
  have start : play a {} (before ++ [.watch i]) = some v := play_concat.mpr ⟨u, run, watch⟩
  have whole : play a {} (before ++ .watch i :: after) = some t := by
    rw [List.append_cons, play_append, start]
    exact later
  obtain ⟨rounds, e, story⟩ := play_whole whole hc hx ended
  have idled := play_idled run watch closes later written hc hx
  rw [ended] at idled
  have told : closeEvent x.id (reasonAfter (responses a k v after)) ∈ wholeStory a x rounds e := by
    rw [← story, List.append_cons, told_append start]
    exact List.mem_append_right _ idled
  exact ⟨rounds, e, story, (closeEvent_mem_whole told).symm⟩

/-- A task that waits for a message when its session is closed for being idle tells the middleware and leaves. -/
theorem waiting_times_out (hc : s.connection? k = some c) (hx : s.hub.session? k = some x) (closed : x.closed = true)
    (idle : x.closedIdle = true) (phase : c.phase = .waiting) :
    ∃ t d, play a s [.task k, .task k] = some t ∧ t.connection? k = some d ∧ d.phase = .leaving .timeout ∧
      told a k s [.task k, .task k] = hooks a x.id .timeout := by
  let c₁ : Connection := { c with phase := .timingOut, pump := c.pump.abort }
  let c₂ : Connection := { c₁ with phase := .leaving .timeout, pump := c₁.pump.abort }
  have first : step a s (.task k) = some (s.afterTask k s.hub c₁ []) := by
    refine step_task.mpr ⟨c, c₁, x, s.hub, [], hc, hx, ?_, rfl⟩
    simp [Connection.step, phase, closed, cancelled, idle, c₁]
  have hc₁ : (s.afterTask k s.hub c₁ []).connection? k = some c₁ := afterTask_connection hc
  have second : step a (s.afterTask k s.hub c₁ []) (.task k) =
      some ((s.afterTask k s.hub c₁ []).afterTask k s.hub c₂ (hooks a x.id .timeout)) :=
    step_task.mpr ⟨c₁, c₂, x, s.hub, _, hc₁, hx, rfl, rfl⟩
  refine ⟨(s.afterTask k s.hub c₁ []).afterTask k s.hub c₂ (hooks a x.id .timeout), c₂, ?_, ?_, rfl, ?_⟩
  · simp only [play, first, second, Option.bind_some]
  · exact afterTask_connection hc₁
  · simp only [told, first, second, noted_afterTask, List.nil_append, List.append_nil]

/-- How session `k` ends that was closed for being idle before the steps `after`, which lead from `v` to `t`. -/
structure EndsIdle (a : Application) (k : SessionKey) (trace : List Record) (v : State) (after : List Label) (t : State)
    (c : Connection) (x : Session) : Prop where
  /-- It ends as a timeout if and only if its handler returned no response after that. -/
  timeout : c.phase = .ended → (EndsAsTimeout a x trace ↔ responses a k v after = [])
  /-- With a response it ends as if it had been closed on this side: no middleware is told of a timeout. -/
  cancelled : c.phase = .ended → responses a k v after ≠ [] → ∃ rounds, trace = wholeStory a x rounds .cancelled
  /-- The task does not stay waiting. -/
  next : c.phase = .waiting → ∃ u d, play a t [.task k, .task k] = some u ∧ u.connection? k = some d ∧
    d.phase = .leaving .timeout ∧ told a k t [.task k, .task k] = hooks a x.id .timeout

/-- A session that was closed for being idle ends as a timeout, unless its handler returns a response after that. -/
theorem idle_close {before after : List Label} {i : Nat} (run : play a {} before = some u)
    (watch : step a u (.watch i) = some v) (closes : ClosesIdle k u v) (later : play a v after = some t)
    (written : failures a k v after = []) (hc : t.connection? k = some c) (hx : t.hub.session? k = some x) :
    EndsIdle a k (told a k {} (before ++ .watch i :: after)) v after t c x := by
  constructor
  · intro ended
    obtain ⟨rounds, e, story, reason⟩ := idle_reason run watch closes later written hc hx ended
    rw [story, endsAsTimeout_whole, reason, reasonAfter]
    cases responses a k v after <;> simp
  · intro ended some
    obtain ⟨rounds, e, story, reason⟩ := idle_reason run watch closes later written hc hx ended
    have cancel : e.reason = .cancel := by simp [reason, reasonAfter, some]
    cases e with
    | cancelled => exact ⟨rounds, story⟩
    | _ => cases cancel
  · intro waiting
    obtain ⟨z, hz, closed, idle⟩ := closes.closed
    obtain ⟨y, moves, hy, path⟩ := play_session later hz
    obtain rfl : y = x := Option.some.inj (hy.symm.trans hx)
    exact waiting_times_out hc hx (path.closed closed) (path.closedIdle idle) waiting

/-- A handler that takes longer than its session may be idle, and then returns this. -/
def sleeper (response : Option Bytes) : Application where
  handler := fun _ => .act (.sleep 40000) fun _ => .done (.ok response)
  chain := .ofList []

/-- The monitor looks after the session while the handler sleeps. -/
def asleep : List Label :=
  [.serve "127.0.0.1:7000" 7000, .connect 0 "s" "127.0.0.1:50000", .enroll 0, .widen 0 64, .task 0, .task 0,
    .arrive 0 (textBytes "hi\n"), .pump 0 (.read 3), .pump 0 .decode, .task 0, .task 0, .pass 35000]

/-- The handler wakes up, and its task makes `n` steps. -/
def awake (n : Nat) : List Label := .pass 5000 :: List.replicate n (.task 0)

/-- The monitor closes the session while its handler is at work, no response fails, and the task runs to its end. -/
def closesAsleep (a : Application) (after : List Label) (returned : List Bytes) : Bool :=
  (play a {} asleep).any fun u => (u.connection? 0).any (fun c => c.phase.inLoop && c.pump.isLive) &&
    (u.hub.session? 0).any (!·.closed) && (step a u (.watch 0)).any fun v =>
      (v.hub.session? 0).any (fun x => x.closed && x.closedIdle) && (failures a 0 v after).isEmpty &&
        responses a 0 v after == returned && (play a v after).any fun t =>
          (t.connection? 0).any (·.phase matches .ended) && (t.hub.session? 0).isSome

/-- A run of which this was checked. -/
structure AsleepRun (a : Application) (after : List Label) (returned : List Bytes) (u v t : State) (c : Connection)
    (x : Session) : Prop where
  run : play a {} asleep = some u
  watch : step a u (.watch 0) = some v
  closes : ClosesIdle 0 u v
  live : ∃ c, u.connection? 0 = some c ∧ c.pump.isLive = true
  later : play a v after = some t
  written : failures a 0 v after = []
  returned : responses a 0 v after = returned
  connection : t.connection? 0 = some c
  session : t.hub.session? 0 = some x
  ended : c.phase = .ended

theorem closesAsleep_run (a : Application) (after : List Label) (returned : List Bytes)
    (h : closesAsleep a after returned = true) :
    ∃ u v t c x, AsleepRun a after returned u v t c x := by
  simp only [closesAsleep, Option.any_eq_true, Bool.and_eq_true, Bool.not_eq_true', List.isEmpty_iff, beq_iff_eq,
    Option.isSome_iff_exists] at h
  obtain ⟨u, run, ⟨⟨c, hc, loop, live⟩, y, hy, unclosed⟩, v, watch, ⟨⟨⟨z, hz, closed, idle⟩, written⟩, same⟩, t, later,
    ⟨d, hd, last⟩, x, hx⟩ := h
  have ended : d.phase = .ended := by
    cases hp : d.phase with
    | ended => rfl
    | _ => simp [hp] at last
  exact ⟨u, v, t, d, x, run, watch, ⟨⟨c, hc, loop⟩, ⟨y, hy, unclosed⟩, ⟨z, hz, closed, idle⟩⟩, ⟨c, hc, live⟩, later,
    written, same, hd, hx, ended⟩

theorem idle_close_silent : ∃ u v t c x, AsleepRun (sleeper none) (awake 8) [] u v t c x ∧
    EndsAsTimeout (sleeper none) x (told (sleeper none) 0 {} (asleep ++ .watch 0 :: awake 8)) := by
  obtain ⟨u, v, t, c, x, h⟩ := closesAsleep_run (sleeper none) (awake 8) [] (by decide +kernel)
  have ends := idle_close h.run h.watch h.closes h.later h.written h.connection h.session
  exact ⟨u, v, t, c, x, h, (ends.timeout h.ended).mpr h.returned⟩

/-- With a response of the handler, the close of the monitor is not told as a timeout. -/
theorem idle_close_answered : ∃ u v t c x,
    AsleepRun (sleeper (some (textBytes "ok"))) (awake 7) [textBytes "ok"] u v t c x ∧
      ¬ EndsAsTimeout (sleeper (some (textBytes "ok"))) x
        (told (sleeper (some (textBytes "ok"))) 0 {} (asleep ++ .watch 0 :: awake 7)) := by
  obtain ⟨u, v, t, c, x, h⟩ := closesAsleep_run (sleeper (some (textBytes "ok"))) (awake 7) [textBytes "ok"]
    (by decide +kernel)
  obtain ⟨rounds, e, story, reason⟩ :=
    idle_reason h.run h.watch h.closes h.later h.written h.connection h.session h.ended
  have cancel : e.reason = .cancel := by rw [reason, h.returned]; rfl
  refine ⟨u, v, t, c, x, h, ?_⟩
  rw [story, endsAsTimeout_whole, cancel]
  simp

end FrameServer.Server
