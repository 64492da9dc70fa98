import Mathlib.Data.List.Perm.Subperm
import Mathlib.Data.List.Sort
import FrameServer.Proofs.Server.Lifecycle
import FrameServer.Proofs.Server.Sieve

namespace FrameServer.Server

open Connection

variable {a : Application} {k : SessionKey} {s t u : State} {l : Label} {ls ms : List Label} {c c' : Connection}
  {x : Session} {places : List Nat} {first : Nat}

theorem length_le_of_increasing {xs : List Nat} {n : Nat} (increasing : xs.Pairwise (· < ·)) (below : ∀ x ∈ xs, x < n) :
    xs.length ≤ n := by
  have within : xs ⊆ List.range n := fun x hx => List.mem_range.mpr (below x hx)
  have distinct : xs.Nodup := increasing.imp Nat.ne_of_lt
  have le := (distinct.subperm within).length_le
  rwa [List.length_range] at le

namespace Sieve

/-- Nothing is lost if there was room at all times for what was found and not handled. -/
theorem lossless (h : Sieve a k ls c places first)
    (near : ∀ before after, ls = before ++ after →
      (decoded a k {} before).length ≤ (handed a k {} before).length + c.waiting.capacity) :
    decoded a k {} ls = handed a k {} ls ++ c.waiting.items := by
  have every : ∀ j < first, j ∈ places := by
    intro j hj
    by_contra absent
    obtain ⟨before, after, split, older, newer⟩ := h.skipped j hj absent
    have few : (places.take (handed a k {} before).length).length ≤ j :=
      length_le_of_increasing (h.increasing.sublist (List.take_sublist _ _)) older
    have part : (handed a k {} before).length ≤ places.length := by
      rw [← h.length_eq, split]
      exact (gathered_grows (taken k) {} before after).length_le
    have close := near before after split
    rw [List.length_take] at few
    omega
  have all : places = List.range first := by
    apply List.Pairwise.eq_of_mem_iff h.increasing List.pairwise_lt_range
    intro p
    rw [List.mem_range]
    exact ⟨h.behind p, every p⟩
  have start : (handed a k {} ls).map some = ((decoded a k {} ls).take first).map some := by
    rw [h.handled, all]
    apply List.ext_getElem?
    intro i
    by_cases hi : i < first
    · have there : i < (decoded a k {} ls).length := Nat.lt_of_lt_of_le hi h.bound
      simp [hi, there]
    · have beyond : first ≤ i := Nat.le_of_not_lt hi
      simp [beyond]
  rw [List.map_injective_iff.mpr (Option.some_injective Bytes) start, h.retained, List.take_append_drop]

/-- If no frame waits, the frame found last is the message handled last. -/
theorem getLast_eq (h : Sieve a k ls c places first) (empty : c.waiting.items = []) (room : 0 < c.waiting.capacity) :
    (handed a k {} ls).getLast? = (decoded a k {} ls).getLast? := by
  have bound := h.bound
  have passed : (decoded a k {} ls).length ≤ first := by
    rw [h.retained] at empty
    exact List.drop_eq_nil_iff.mp empty
  by_cases any : (decoded a k {} ls).length = 0
  · have unfound : decoded a k {} ls = [] := List.length_eq_zero_iff.mp any
    have none : places = [] := List.eq_nil_iff_forall_not_mem.mpr fun p hp => by
      have old := h.behind p hp
      omega
    have untaken : handed a k {} ls = [] := by
      rw [← List.length_eq_zero_iff, h.length_eq, none]
      rfl
    rw [unfound, untaken]
  · have last : (decoded a k {} ls).length - 1 ∈ places := by
      by_contra absent
      obtain ⟨before, after, split, -, newer⟩ := h.skipped _ (by omega) absent
      have fewer : (decoded a k {} before).length ≤ (decoded a k {} ls).length := by
        rw [split]
        exact (gathered_grows (found a k) {} before after).length_le
      omega
    obtain ⟨earlier, later, split⟩ := List.append_of_mem last
    have increasing := h.increasing
    have behind := h.behind
    rw [split] at increasing behind
    have none : later = [] := List.eq_nil_iff_forall_not_mem.mpr fun p hp => by
      have old := behind p (by simp [hp])
      have larger := (List.pairwise_cons.mp (List.pairwise_append.mp increasing).2.1).1 p hp
      omega
    have same := congrArg List.getLast? h.handled
    rw [split, none, List.map_append, List.map_singleton, List.getLast?_concat, List.getLast?_map,
      ← List.getLast?_eq_getElem?] at same
    obtain ⟨m, taken, found⟩ := Option.map_eq_some_iff.mp same
    rw [taken, ← found]

end Sieve

/-- A pump that has ended finds nothing more, and stays as it is. -/
theorem ended_step {r : Except FrameError Unit} (h : step a s l = some t) (hc : s.connection? k = some c)
    (ended : c.pump.status = .ended r) :
    ∃ c', t.connection? k = some c' ∧ c'.pump.status = .ended r ∧ found a k s l = none ∧
      c.Flow c' none (taken k s l) := by
  obtain ⟨c', hc', flow⟩ := step_flow h hc
  have unfound : found a k s l = none := by
    cases l with
    | pump j m => simp [found, hc, pump_ended ended]
    | _ => rfl
  rw [unfound] at flow
  refine ⟨c', hc', ?_, unfound, flow⟩
  cases step_change h with
  | apart _ _ apart =>
    obtain ⟨d, hd, kept⟩ := apart.connection k c hc
    obtain rfl : c' = d := Option.some.inj (hc'.symm.trans hd)
    exact kept.ended r ended
  | enroll i loop id peer =>
    rw [State.connection?, State.addSession_connections, List.getElem?_append_left] at hc'
    · obtain rfl : c = c' := Option.some.inj (hc.symm.trans hc')
      exact ended
    · exact (List.getElem?_eq_some_iff.mp hc).1
  | task j d d' x h' records hd hx effect =>
    by_cases e : j = k
    · subst e
      obtain rfl : c = d := Option.some.inj (hc.symm.trans hd)
      rw [State.connection?, List.getElem?_set_self (List.getElem?_eq_some_iff.mp hc).1] at hc'
      obtain rfl := Option.some.inj hc'
      have stopped : c.pump.abort.status = .ended r := by rw [abort_pump ended, ended]
      cases effect <;> first | exact ended | exact stopped
    · rw [State.connection?, List.getElem?_set_ne e] at hc'
      obtain rfl : c = c' := Option.some.inj (hc.symm.trans hc')
      exact ended

/-- When the pump has ended, the frames that wait are handled, or wait still. -/
theorem handed_of_ended {r : Except FrameError Unit} (run : play a s ls = some t) (hc : s.connection? k = some c)
    (ended : c.pump.status = .ended r) (hc' : t.connection? k = some c') :
    c.waiting.items = handed a k s ls ++ c'.waiting.items := by
  induction ls generalizing s c with
  | nil =>
    obtain rfl := Option.some.inj run
    obtain rfl : c = c' := Option.some.inj (hc.symm.trans hc')
    rfl
  | cons l ls ih =>
    obtain ⟨u, hu, run⟩ := Option.bind_eq_some_iff.mp run
    obtain ⟨d, hd, ended', -, flow⟩ := ended_step hu hc ended
    have after := ih run hd ended'
    simp only [handed, gathered, hu] at after ⊢
    generalize taken k s l = m? at flow
    cases flow with
    | pop m popped => rw [(Ring.pop_some popped).1, after, List.append_assoc]; rfl
    | keep kept => rw [← kept, after]; rfl

/-- The end of the stream is seen when the pump is joined, and is known from then on. -/
theorem exhausted_of_effect {h h' : Hub} {records : List Record} (e : c.Effect a k x h h' c' records)
    (exhausted : c'.phase.Exhausted) : c'.phase = .joining ∨ c.phase.Exhausted ∧ c.next? x.closed = none := by
  cases e with
  | drained => exact .inl rfl
  | complete phase | corrupt e phase => exact .inr (by simp [Phase.Exhausted, next?, phase])
  | leave reason phase | part reason phase =>
    cases reason with
    | complete => exact .inr (by simp [Phase.Exhausted, next?, phase])
    | _ => cases exhausted
  | silent | answered =>
    dsimp only at exhausted
    rcases pause_cases a h with paused | paused <;> rw [paused] at exhausted <;> cases exhausted
  | cancel =>
    dsimp only at exhausted
    split at exhausted <;> cases exhausted
  | _ => cases exhausted

/-- When the end of the stream was seen, the pump has ended and no frame waits. -/
theorem play_drained (run : play a {} ls = some t) (hc : t.connection? k = some c) (exhausted : c.phase.Exhausted) :
    c.waiting.items = [] ∧ ∃ r, c.pump.status = .ended r := by
  induction ls using List.reverseRecOn generalizing t c with
  | nil =>
    obtain rfl := Option.some.inj run
    cases hc
  | append_singleton ls l ih =>
    obtain ⟨s, hs, hl⟩ := play_concat.mp run
    cases hd : s.connection? k with
    | none =>
      obtain ⟨-, -, absent | added⟩ := step_unconnected hl hd
      · rw [absent] at hc
        cases hc
      · obtain rfl : admitted a.settings = c := Option.some.inj (added.symm.trans hc)
        cases exhausted
    | some d =>
      have kept (earlier : d.phase.Exhausted) (untaken : taken k s l = none) :
          c.waiting.items = [] ∧ ∃ r, c.pump.status = .ended r := by
        obtain ⟨empty, r, ended⟩ := ih hs hd earlier
        obtain ⟨c', hc', ended', -, flow⟩ := ended_step hl hd ended
        obtain rfl : c' = c := Option.some.inj (hc'.symm.trans hc)
        rw [untaken] at flow
        cases flow with
        | keep same => exact ⟨by rw [same, empty], r, ended'⟩
      cases task : l.isTask k with
      | false =>
        rcases phase_elsewhere hl task hd hc with same | aborted
        · exact kept (same ▸ exhausted) (taken_elsewhere task)
        · rw [aborted] at exhausted
          cases exhausted
      | true =>
        obtain rfl := isTask_iff.mp task
        obtain ⟨d', c', x, h', records, hd', hx, made, rfl⟩ := step_task.mp hl
        obtain rfl : d = d' := Option.some.inj (hd.symm.trans hd')
        obtain rfl : c' = c := Option.some.inj ((afterTask_connection hd).symm.trans hc)
        rcases exhausted_of_effect (step_effect made) exhausted with joins | ⟨earlier, none⟩
        · obtain ⟨empty, same, pump, r, ended⟩ := joining_of_step made joins
          exact ⟨by rw [same, empty], r, by rw [pump, ended]⟩
        · exact kept earlier (by rw [taken_here hd hx, none])

/-- While its session is open, the loop is left to join the pump, or because a response was not written. -/
theorem loop_of_effect {h h' : Hub} {records : List Record} (e : c.Effect a k x h h' c' records)
    (standing : x.Standing h.tickets) (hx : h.session? k = some x) (unclosed : x.closed = false)
    (loop : c.phase.inLoop = true) :
    c'.phase.inLoop = true ∨ c'.phase = .joining ∨ ∃ t deadline reason, c.phase = .responding t deadline ∧
      c'.phase = .leaving .error ∧ records = [errorEvent x.id reason] := by
  have paused : (Connection.pause a h).inLoop = true := by
    rcases pause_cases a h with paused | paused <;> rw [paused] <;> rfl
  cases e with
  | receive | work | answer | wake => exact .inl rfl
  | silent | answered => exact .inl paused
  | drained => exact .inr (.inl rfl)
  | cancel _ closed =>
    rw [unclosed] at closed
    cases closed
  | refused i deadline _ result =>
    have closed : x.closed = true := standing.quit (.inr (.inr ⟨i, mem_of_result hx result⟩))
    rw [unclosed] at closed
    cases closed
  | broken i deadline reason _ phase => exact .inr (.inr ⟨i, deadline, reason, phase, rfl, rfl⟩)
  | connect phase | greet phase | complete phase | corrupt e phase | timeout phase | fail e phase | leave reason phase
  | part reason phase | close reason phase | finish i phase =>
    rw [phase] at loop
    cases loop

section Reports

variable {h h' : Hub} {records : List Record}

/-- The middleware is told of a fault of the stream when the pump is joined. -/
theorem joining_of_called {err : FrameError} (e : c.Effect a k x h h' c' records)
    (called : Called x.id (.protocolError err) records) : c.phase = .joining := by
  cases e with
  | corrupt _ phase => exact phase
  | connect | timeout | part => cases called_hooks.mp called
  | greet | receive | broken | fail | close => exact absurd called (not_called_event _)
  | work =>
    obtain ⟨call, mem, -⟩ := called
    obtain ⟨n, -, same⟩ := List.mem_map.mp mem
    cases same
  | _ =>
    obtain ⟨call, mem, -⟩ := called
    cases mem

/-- The end of a session is told when everything else is. -/
theorem closing_of_closeEvent {reason : CloseReason} (e : c.Effect a k x h h' c' records)
    (told : closeEvent x.id reason ∈ records) : c.phase = .closing reason := by
  cases e with
  | close r phase =>
    rw [closeEvent_inj (List.mem_singleton.mp told)]
    exact phase
  | connect | timeout | part | corrupt => exact absurd told closeEvent_notMem_hooks
  | greet | receive | broken | fail => exact absurd (List.mem_singleton.mp told) (closeEvent_ne (by simp))
  | work =>
    obtain ⟨n, -, same⟩ := List.mem_map.mp told
    cases same
  | _ => cases told

end Reports

/-- What becomes of the frames of session `k` in a run that ends at `t`. -/
structure Shed (a : Application) (k : SessionKey) (ls : List Label) (t : State) (c : Connection) (x : Session) :
    Prop where
  room : IsLeast {n | n.isPowerOfTwo ∧ max a.settings.backpressureCapacity 1 ≤ n} c.waiting.capacity
  /-- The messages handled are frames in the order in which they were found; only the oldest ones were skipped. -/
  sieve : ∃ places first, Sieve a k ls c places first
  lossless : (∀ before after, ls = before ++ after →
      (decoded a k {} before).length ≤ (handed a k {} before).length + c.waiting.capacity) →
    decoded a k {} ls = handed a k {} ls ++ c.waiting.items
  /-- While the session is open, the oldest frame that waits can be handled. -/
  next : ∀ m rest, c.phase = .waiting → x.closed = false → c.waiting.items = m :: rest →
    taken k t (.task k) = some m ∧ ∃ v, step a t (.task k) = some v
  /-- The handler is called with the messages that are handed over, and with no others. -/
  calls : ∀ v c', step a t (.task k) = some v → v.connection? k = some c' → match taken k t (.task k) with
    | some m =>
      c'.phase = .handling ⟨a.handler { session := x.id, message := m, attribute? := x.attribute? }, none⟩ ∧
        noted k (.task k) t v = [messageEvent x.id m]
    | none => (∃ w, c'.phase = .handling w) → ∃ w, c.phase = .handling w
  /-- While the session is open, messages are handled until the pump is joined, or a response is not written. -/
  loop : ∀ v c', step a t (.task k) = some v → v.connection? k = some c' → x.closed = false →
    c.phase.inLoop = true → c'.phase.inLoop = true ∨ c'.phase = .joining ∨
      ∃ i deadline reason, c.phase = .responding i deadline ∧
      c'.phase = .leaving .error ∧ noted k (.task k) t v = [errorEvent x.id reason]
  /-- When the end of the stream was seen, all frames that waited when the pump ended were handled. -/
  drained : c.phase.Exhausted → c.waiting.items = [] ∧
    (handed a k {} ls).getLast? = (decoded a k {} ls).getLast? ∧
    ∀ before after u d r, ls = before ++ after → play a {} before = some u → u.connection? k = some d →
      d.pump.status = .ended r → handed a k {} ls = handed a k {} before ++ d.waiting.items
  /-- Neither a fault of the stream nor its end is told before. -/
  reported : ∀ v, step a t (.task k) = some v →
    (∃ e, Called x.id (.protocolError e) (noted k (.task k) t v)) ∨ closeEvent x.id .complete ∈ noted k (.task k) t v →
    c.phase.Exhausted

/-- A handler that is slower than its peer loses the oldest frames, and no others: none are lost while there is room,
and the last ones before the end of the stream never are. -/
theorem backpressure (run : play a {} ls = some t) (hc : t.connection? k = some c) (hx : t.hub.session? k = some x) :
    Shed a k ls t c x := by
  have sifted := play_sifted k run
  have standing := (play_standing run).session k x hx
  have room : IsLeast {n | n.isPowerOfTwo ∧ max a.settings.backpressureCapacity 1 ≤ n} c.waiting.capacity := by
    have least := Ring.roomFor_isLeast (max a.settings.backpressureCapacity 1)
    rwa [Nat.max_eq_left (Nat.le_max_right _ 1), ← sifted.room c hc] at least
  have positive : 0 < c.waiting.capacity := by
    have enough := room.1.2
    omega
  obtain ⟨places, first, sieve⟩ := sifted.sieve c hc
  have made {v : State} (hv : step a t (.task k) = some v) : ∃ c' h' records,
      c.step a k x t.hub = some (h', c', records) ∧ v = t.afterTask k h' c' records := by
    obtain ⟨d, c', y, h', records, hd, hy, made, rfl⟩ := step_task.mp hv
    obtain rfl : c = d := Option.some.inj (hc.symm.trans hd)
    obtain rfl : x = y := Option.some.inj (hx.symm.trans hy)
    exact ⟨c', h', records, made, rfl⟩
  constructor
  · exact room
  · exact ⟨places, first, sieve⟩
  · exact sieve.lossless
  · intro m rest phase unclosed items
    have next : c.next? x.closed = some m := by
      rw [next_eq_some]
      exact ⟨phase, unclosed, { c.waiting with items := rest }, by simp [Ring.pop?, items]⟩
    obtain ⟨h', c', records, made⟩ := step_of_next a k t.hub next
    refine ⟨by rw [taken_here hc hx, next], t.afterTask k h' c' records, ?_⟩
    exact step_task.mpr ⟨c, c', x, h', records, hc, hx, made, rfl⟩
  · intro v d hv hd
    obtain ⟨c', h', records, made, rfl⟩ := made hv
    obtain rfl : c' = d := Option.some.inj ((afterTask_connection hc).symm.trans hd)
    rw [taken_here hc hx, noted_afterTask]
    cases next : c.next? x.closed with
    | some m =>
      obtain ⟨-, told, phase⟩ := called_of_next next made
      exact ⟨phase, told⟩
    | none => exact (kept_of_next next (step_effect made)).2
  · intro v d hv hd unclosed loop
    obtain ⟨c', h', records, made, rfl⟩ := made hv
    obtain rfl : c' = d := Option.some.inj ((afterTask_connection hc).symm.trans hd)
    rw [noted_afterTask]
    exact loop_of_effect (step_effect made) standing hx unclosed loop
  · intro exhausted
    obtain ⟨empty, -⟩ := play_drained run hc exhausted
    refine ⟨empty, sieve.getLast_eq empty positive, ?_⟩
    intro before after u d r split hu hd ended
    have later : play a u after = some t := by
      rw [split, play_append, hu] at run
      exact run
    have handled := handed_of_ended later hd ended hc
    rw [empty, List.append_nil] at handled
    rw [split, handled]
    exact gathered_append hu
  · intro v hv report
    obtain ⟨c', h', records, made, rfl⟩ := made hv
    rw [noted_afterTask] at report
    rcases report with ⟨e, called⟩ | told
    · rw [joining_of_called (step_effect made) called]
      trivial
    · rw [closing_of_closeEvent (step_effect made) told]
      trivial

/-- Three messages are there before the first can be handled, and then the stream ends. -/
def burst : List Label :=
  [.serve "127.0.0.1:7000" 7000, .connect 0 "s" "127.0.0.1:50000", .enroll 0, .task 0, .task 0,
    .arrive 0 (textBytes "a\nb\nc\n"), .finish 0 .eof, .pump 0 (.read 6)] ++ List.replicate 4 (.pump 0 .decode) ++
    [.pump 0 .finish, .pump 0 .decode] ++ List.replicate 4 (.task 0)

theorem backpressure_burst : ∃ t c x, play quietServer {} burst = some t ∧ Shed quietServer 0 burst t c x ∧
    decoded quietServer 0 {} burst = ["a", "b", "c"].map textBytes ∧
      handed quietServer 0 {} burst = [textBytes "c"] := by
  have there : ((play quietServer {} burst).bind fun t => (t.connection? 0).bind fun _ =>
      t.hub.session? 0).isSome = true := by
    decide +kernel
  obtain ⟨x, hx⟩ := Option.isSome_iff_exists.mp there
  obtain ⟨t, run, hx⟩ := Option.bind_eq_some_iff.mp hx
  obtain ⟨c, hc, hx⟩ := Option.bind_eq_some_iff.mp hx
  exact ⟨t, c, x, run, backpressure run hc hx, by decide +kernel, by decide +kernel⟩

end FrameServer.Server
