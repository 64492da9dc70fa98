import FrameServer.Proofs.Session.Leads
import FrameServer.Server.Connection

namespace FrameServer

theorem Event.foldl_set (properties : List (String × Json)) (e : Event) :
    (properties.foldl (fun e (k, v) => e.set k v) e).kind = e.kind ∧
      (properties.foldl (fun e (k, v) => e.set k v) e).source = e.source := by
  induction properties generalizing e with
  | nil => exact ⟨rfl, rfl⟩
  | cons p ps ih => exact ih (e.set p.1 p.2)

namespace Work

variable {h h' : Hub} {k : SessionKey}

theorem leads_begin (h : Hub) (k : SessionKey) (act : Action) : h.Leads ((begin h k act).elim (·.2.1) (·.1)) := by
  cases act with
  | send m => exact h.leads_send k m
  | broadcast m => exact h.leads_broadcast m
  | close => exact h.leads_move k .close trivial
  | closeIdle => exact h.leads_move k .closeIdle trivial
  | closeAsync => exact h.leads_closeAsync k
  | setAttribute key v => exact h.leads_move k (.setAttribute key v) trivial
  | getAttribute | sleep | note => exact .refl h

/-- A handler that goes on has begun an action, or has left everything as it is. -/
theorem step_hub {w w' : Work} {notes : List Note} (hw : w.step h k = .goesOn h' w' notes) :
    h' = h ∨ ∃ act next, w = ⟨.act act next, none⟩ ∧ h' = (begin h k act).elim (·.2.1) (·.1) := by
  obtain ⟨script, wait⟩ := w
  cases script with
  | done o => cases hw
  | act act next =>
    cases wait with
    | none =>
      simp only [step] at hw
      refine .inr ⟨act, next, rfl, ?_⟩
      split at hw
      next r i notes hb =>
        simp only [Progress.goesOn.injEq] at hw
        rw [hb]
        exact hw.1.symm
      next i wait hb =>
        simp only [Progress.goesOn.injEq] at hw
        rw [hb]
        exact hw.1.symm
    | some wait =>
      simp only [step] at hw
      split at hw
      · simp only [Progress.goesOn.injEq] at hw
        exact .inl hw.1.symm
      · cases hw

theorem leads_step {w w' : Work} {notes : List Note} (hw : w.step h k = .goesOn h' w' notes) : h.Leads h' := by
  rcases step_hub hw with rfl | ⟨act, next, -, rfl⟩
  · exact .refl _
  · exact leads_begin h k act

theorem leads_giveUpAll (h : Hub) (ts : List (SessionKey × Ticket)) :
    h.Leads (ts.foldl (fun h (k, t) => (h.move k (.lane (.abandon t))).settle k) h) := by
  induction ts generalizing h with
  | nil => exact .refl h
  | cons p ts ih => exact (h.leads_giveUp p.1 p.2).trans (ih _)

theorem leads_abandon (h : Hub) (k : SessionKey) (w : Work) : h.Leads (w.abandon h k) := by
  unfold abandon
  split
  · exact h.leads_giveUp k _
  · exact h.leads_giveUp k _
  · exact leads_giveUpAll h _
  · exact .refl h

end Work

namespace Server.Connection

def openEvent (s : Session) : Record :=
  eventOf .sessionOpen s.id [("remote_address", .string (s.address.getD ""))]

def closeEvent (id : SessionId) (reason : CloseReason) : Record :=
  eventOf .sessionClose id [("reason", .string reason.name)]

/-- Why a response was not written: its connection failed, or it was given up after waiting for too long. -/
inductive Broken (k : SessionKey) (h : Hub) (t : Ticket) (deadline : Nat) : String → Hub → Prop
  | io (reason : String) (result : h.result? k t = some (.error (.frame (.io reason)))) : Broken k h t deadline reason h
  | late (result : h.result? k t = none) (passed : deadline ≤ h.clock) :
      Broken k h t deadline "write timed out" ((h.move k (.lane (.abandon t))).settle k)

/-- What a step of the task of session `k` can do. -/
inductive Effect (a : Application) (k : SessionKey) (s : Session) (h : Hub) (c : Connection) :
    Hub → Connection → List Record → Prop
  | connect (phase : c.phase = .opening) : Effect a k s h c h { c with phase := .greeting } (hooks a s.id .connect)
  | greet (phase : c.phase = .greeting) : Effect a k s h c h { c with phase := .waiting } [openEvent s]
  | receive (m : Bytes) (rest : Ring Bytes) (phase : c.phase = .waiting) (unclosed : s.closed = false)
      (next : c.waiting.pop? = (some m, rest)) :
      Effect a k s h c (h.move k (.touch h.clock))
        { c with
          phase := .handling ⟨a.handler { session := s.id, message := m, attribute? := s.attribute? }, none⟩
          waiting := rest }
        [messageEvent s.id m]
  | drained (phase : c.phase = .waiting) (unclosed : s.closed = false) (idle : c.pump.isLive = false) :
      Effect a k s h c h { c with phase := .joining } []
  | cancel (phase : c.phase = .waiting ∨ c.phase = .joining) (closed : s.closed = true) :
      Effect a k s h c h
        { c with phase := if s.closedIdle then .timingOut else .leaving .cancel, pump := c.pump.abort } []
  | work (w w' : Work) (h' : Hub) (notes : List Note) (phase : c.phase = .handling w)
      (goesOn : w.step h k = .goesOn h' w' notes) :
      Effect a k s h c h' { c with phase := .handling w' } (notes.map .note)
  | silent (w : Work) (o : Outcome (Option Bytes)) (phase : c.phase = .handling w)
      (finished : w.step h k = .finished o) (none : ∀ r, o ≠ .ok (some r)) :
      Effect a k s h c h { c with phase := pause a h } []
  | answer (w : Work) (r : Bytes) (phase : c.phase = .handling w) (finished : w.step h k = .finished (.ok (some r))) :
      Effect a k s h c (h.send k r).2
        { c with phase := .responding (h.send k r).1 ((h.send k r).2.clock + a.settings.writeTimeout) } []
  | answered (t : Ticket) (deadline : Nat) (phase : c.phase = .responding t deadline) :
      Effect a k s h c h { c with phase := pause a h } []
  | refused (t : Ticket) (deadline : Nat) (phase : c.phase = .responding t deadline)
      (result : h.result? k t = some (.error .closed)) :
      Effect a k s h c h { c with phase := .leaving .cancel, pump := c.pump.abort } []
  | broken (t : Ticket) (deadline : Nat) (reason : String) (h' : Hub) (phase : c.phase = .responding t deadline)
      (why : Broken k h t deadline reason h') :
      Effect a k s h c h' { c with phase := .leaving .error, pump := c.pump.abort } [errorEvent s.id reason]
  | wake (time : Nat) (phase : c.phase = .pausing time) (passed : time ≤ h.clock) :
      Effect a k s h c h { c with phase := .waiting } []
  | complete (phase : c.phase = .joining) (status : c.pump.status = .ended (.ok ())) (unclosed : s.closed = false) :
      Effect a k s h c h { c with phase := .leaving .complete, pump := c.pump.abort } []
  | corrupt (e : FrameError) (phase : c.phase = .joining) (status : c.pump.status = .ended (.error e)) :
      Effect a k s h c h { c with phase := .failing e } (hooks a s.id (.protocolError e))
  | timeout (phase : c.phase = .timingOut) :
      Effect a k s h c h { c with phase := .leaving .timeout, pump := c.pump.abort } (hooks a s.id .timeout)
  | fail (e : FrameError) (phase : c.phase = .failing e) :
      Effect a k s h c h { c with phase := .leaving .error, pump := c.pump.abort } [errorEvent s.id e.message]
  | leave (reason : CloseReason) (phase : c.phase = .leaving reason) :
      Effect a k s h c { h with registry := h.registry.remove s.id } { c with phase := .parting reason } []
  | part (reason : CloseReason) (phase : c.phase = .parting reason) :
      Effect a k s h c h { c with phase := .closing reason } (hooks a s.id .disconnect)
  | close (reason : CloseReason) (phase : c.phase = .closing reason) :
      Effect a k s h c (h.request k .closeAsync).2 { c with phase := .shuttingDown (h.request k .closeAsync).1 }
        [closeEvent s.id reason]
  | finish (t : Ticket) (phase : c.phase = .shuttingDown t) (done : (h.result? k t).isSome = true) :
      Effect a k s h c h { c with phase := .ended } []

variable {a : Application} {k : SessionKey} {s : Session} {h h' : Hub} {c c' : Connection} {records : List Record}

theorem of_enter {i : Hub} {p : Phase} {rs : List Record} (hs : enter i c p rs = some (h', c', records)) :
    h' = i ∧ c' = { c with phase := p } ∧ records = rs := by
  simp only [enter, Option.some.injEq, Prod.mk.injEq] at hs
  exact ⟨hs.1.symm, hs.2.1.symm, hs.2.2.symm⟩

theorem of_conclude {i : Hub} {reason : CloseReason} {rs : List Record}
    (hs : conclude i c reason rs = some (h', c', records)) :
    h' = i ∧ c' = { c with phase := .leaving reason, pump := c.pump.abort } ∧ records = rs := by
  simp only [conclude, Option.some.injEq, Prod.mk.injEq] at hs
  exact ⟨hs.1.symm, hs.2.1.symm, hs.2.2.symm⟩

theorem cancel_effect (phase : c.phase = .waiting ∨ c.phase = .joining) (closed : s.closed = true)
    (hs : cancelled h s c = some (h', c', records)) : c.Effect a k s h h' c' records := by
  simp only [cancelled, Option.some.injEq, Prod.mk.injEq] at hs
  obtain ⟨rfl, rfl, rfl⟩ := hs
  exact .cancel phase closed

theorem respond_effect {w : Work} {o : Outcome (Option Bytes)} (phase : c.phase = .handling w)
    (finished : w.step h k = .finished o) (hs : c.respond a k h o = some (h', c', records)) :
    c.Effect a k s h h' c' records := by
  unfold respond at hs
  split at hs
  next r =>
    obtain ⟨rfl, rfl, rfl⟩ := of_enter hs
    exact .answer w r phase finished
  next none =>
    obtain ⟨rfl, rfl, rfl⟩ := of_enter hs
    exact .silent w o phase finished none

theorem responded_effect {t : Ticket} {deadline : Nat} (phase : c.phase = .responding t deadline)
    (hs : c.responded a k s h t deadline = some (h', c', records)) : c.Effect a k s h h' c' records := by
  unfold responded at hs
  split at hs
  · obtain ⟨rfl, rfl, rfl⟩ := of_enter hs
    exact .answered t deadline phase
  next result =>
    obtain ⟨rfl, rfl, rfl⟩ := of_conclude hs
    exact .refused t deadline phase result
  next reason result =>
    obtain ⟨rfl, rfl, rfl⟩ := of_conclude hs
    exact .broken t deadline reason _ phase (.io reason result)
  · obtain ⟨rfl, rfl, rfl⟩ := of_enter hs
    exact .answered t deadline phase
  next result =>
    split at hs
    next passed =>
      obtain ⟨rfl, rfl, rfl⟩ := of_conclude hs
      exact .broken t deadline _ _ phase (.late result passed)
    · cases hs

theorem step_effect (hs : c.step a k s h = some (h', c', records)) : c.Effect a k s h h' c' records := by
  unfold step at hs
  split at hs
  next phase =>
    obtain ⟨rfl, rfl, rfl⟩ := of_enter hs
    exact .connect phase
  next phase =>
    obtain ⟨rfl, rfl, rfl⟩ := of_enter hs
    exact .greet phase
  next phase =>
    split at hs
    next closed => exact cancel_effect (.inl phase) closed hs
    next closed =>
      have unclosed : s.closed = false := by simpa using closed
      split at hs
      next m rest next =>
        simp only [receive, Option.some.injEq, Prod.mk.injEq] at hs
        obtain ⟨rfl, rfl, rfl⟩ := hs
        exact .receive m rest phase unclosed next
      next =>
        split at hs
        · cases hs
        next idle =>
          obtain ⟨rfl, rfl, rfl⟩ := of_enter hs
          exact .drained phase unclosed (by simpa using idle)
  next w phase =>
    split at hs
    next o finished => exact respond_effect phase finished hs
    next i w' notes goesOn =>
      obtain ⟨rfl, rfl, rfl⟩ := of_enter hs
      exact .work w w' _ notes phase goesOn
    · cases hs
  next t deadline phase => exact responded_effect phase hs
  next time phase =>
    split at hs
    next passed =>
      obtain ⟨rfl, rfl, rfl⟩ := of_enter hs
      exact .wake time phase passed
    · cases hs
  next phase =>
    split at hs
    next status =>
      split at hs
      next closed => exact cancel_effect (.inr phase) closed hs
      next closed =>
        obtain ⟨rfl, rfl, rfl⟩ := of_conclude hs
        exact .complete phase status (by simpa using closed)
    next e status =>
      obtain ⟨rfl, rfl, rfl⟩ := of_enter hs
      exact .corrupt e phase status
    · cases hs
  next phase =>
    obtain ⟨rfl, rfl, rfl⟩ := of_conclude hs
    exact .timeout phase
  next e phase =>
    obtain ⟨rfl, rfl, rfl⟩ := of_conclude hs
    exact .fail e phase
  next reason phase =>
    obtain ⟨rfl, rfl, rfl⟩ := of_enter hs
    exact .leave reason phase
  next reason phase =>
    obtain ⟨rfl, rfl, rfl⟩ := of_enter hs
    exact .part reason phase
  next reason phase =>
    obtain ⟨rfl, rfl, rfl⟩ := of_enter hs
    exact .close reason phase
  next t phase =>
    split at hs
    next done =>
      obtain ⟨rfl, rfl, rfl⟩ := of_enter hs
      exact .finish t phase done
    · cases hs
  · cases hs
  · cases hs

namespace Effect

theorem leads (e : c.Effect a k s h h' c' records) : h.Leads h' := by
  cases e with
  | receive => exact h.leads_move k (.touch h.clock) trivial
  | work w w' _ notes _ goesOn => exact Work.leads_step goesOn
  | answer => exact h.leads_send k _
  | broken t _ _ _ _ why =>
    cases why with
    | io => exact .refl h
    | late => exact h.leads_giveUp k t
  | leave => exact .of_same (Nat.le_refl _) List.filter_sublist rfl
  | close => exact h.leads_closeAsync k
  | _ => exact .refl h

end Effect

end Server.Connection
end FrameServer
