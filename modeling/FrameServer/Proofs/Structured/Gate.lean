import FrameServer.Proofs.Param.Verdict
import FrameServer.Proofs.Structured.Pipeline

namespace FrameServer.Structured

open Param (Admits Reports)

variable {d : Dispatcher} {hs : List Descriptor} {session : SessionId} {attribute? : String → Option Typed}
  {message : Bytes} {payload : Json} {type command : String} {h : Descriptor}

theorem route_ok : route message = .ok (payload, type, command) ↔ Routed message payload type command := by
  constructor
  · intro found
    unfold route at found
    cases text : Json.parse message with
    | error e => simp [text] at found
    | ok v =>
      rw [text] at found
      cases v with
      | object members =>
        dsimp only at found
        cases ht : routingKey? (.object members) "type" with
        | none => simp [ht] at found
        | some t =>
          cases hc : routingKey? (.object members) "command" with
          | none => simp [ht, hc] at found
          | some c =>
            rw [ht, hc] at found
            obtain ⟨rfl, rfl, rfl⟩ : .object members = payload ∧ t = type ∧ c = command := by simpa using found
            exact ⟨text, ⟨members, rfl⟩, names_iff.mpr ht, names_iff.mpr hc⟩
      | _ => simp at found
  · rintro ⟨text, ⟨members, rfl⟩, htype, hcommand⟩
    simp only [route, text, names_iff.mp htype, names_iff.mp hcommand]

theorem Table.find_ofList_map {g : Descriptor → Descriptor} (same : ∀ h, (g h).key = h.key) :
    (ofList (hs.map g)).find? type command = ((ofList hs).find? type command).map g := by
  rw [find_ofList, find_ofList, ← List.map_reverse, List.find?_map]
  congr 1
  simp only [Function.comp_def, same]

namespace Dispatcher

/-- Handlers may be replaced under their keys by others with which a request that is found is carried out alike. -/
theorem dispatch_replaced {g : Descriptor → Descriptor} (same : ∀ h, (g h).key = h.key)
    (alike : ∀ payload type command h, Routed message payload type command →
      d.carryOut session attribute? payload (g h) = d.carryOut session attribute? payload h) :
    (d.serving (hs.map g)).dispatch session attribute? message =
      (d.serving hs).dispatch session attribute? message := by
  unfold dispatch
  cases hr : route message with
  | error reply => rfl
  | ok way =>
    obtain ⟨payload, type, command⟩ := way
    simp only [serving, Table.find_ofList_map same]
    cases (Table.ofList hs).find? type command with
    | none => rfl
    | some h =>
      dsimp only [Option.map_some]
      rw [invoke_eq, invoke_eq]
      exact congrArg _ (funext fun _ => alike payload type command h (route_ok.mp hr))

end Dispatcher

/-- The dispatcher with the default validation. -/
def Dispatcher.checking (rs : Resolvers) (chain : Chain) (hs : List Descriptor) : Dispatcher where
  handlers := .ofList hs
  resolvers := rs
  chain := chain

/-- The arguments with which a handler may be called: each parameter has its own, in its place, and takes it. -/
structure Proper (rs : Resolvers) (session : SessionId) (attribute? : String → Option Typed) (message : Bytes)
    (h : Descriptor) (args : Args) : Prop where
  resolves : ∃ payload type command, Routed message payload type command ∧
    rs.Resolves ⟨payload, session, attribute?⟩ h.params args.values
  admits : List.Forall₂ Admits h.params args.values

open Classical in
/-- A handler that does something else if it is called with other arguments than the good ones. -/
noncomputable def Descriptor.orElse (h : Descriptor) (good : Args → Prop) (other : Args → Script (Outcome Unit)) :
    Descriptor :=
  { h with run := fun args => if good args then h.run args else other args }

/-- What the default validation stands for, if the handlers `hs` are registered in this order. -/
structure Gated (rs : Resolvers) (chain : Chain) (hs : List Descriptor) (session : SessionId)
    (attribute? : String → Option Typed) (message : Bytes) : Prop where
  /-- It makes no difference what handlers do with arguments that are not proper: they are never called with them. -/
  sound : ∀ other : Descriptor → Args → Script (Outcome Unit),
    (Dispatcher.checking rs chain
        (hs.map fun h => h.orElse (Proper rs session attribute? message h) (other h))).dispatch
        session attribute? message =
      (Dispatcher.checking rs chain hs).dispatch session attribute? message
  /-- If all parameters resolve, what is wrong with the arguments decides on what is done after the opening. -/
  complete : ∀ payload type command h args, Routed message payload type command →
    LastWith Descriptor.key hs (key type command) h → rs.Resolves ⟨payload, session, attribute?⟩ h.params args →
    ∃ errors, (∀ es, Reports h.params args es ↔ es = errors) ∧ (errors = [] ↔ List.Forall₂ Admits h.params args) ∧
      (Dispatcher.checking rs chain hs).dispatch session attribute? message =
        (Script.noteCalls session (chain.run (.beforeDispatch payload))).bind fun _ =>
          if errors = [] then
            (h.run ⟨args⟩).bind ((Dispatcher.checking rs chain hs).conclude session payload)
          else .done (some ⟨"Validation failed", errors⟩)

section Checking

variable {rs : Resolvers} {chain : Chain} {args : List Argument} {errors : List String}

theorem Dispatcher.carryOut_checking (resolves : rs.Resolves ⟨payload, session, attribute?⟩ h.params args)
    (reports : Reports h.params args errors) :
    (checking rs chain hs).carryOut session attribute? payload h =
      if errors = [] then (h.run ⟨args⟩).bind ((checking rs chain hs).conclude session payload)
      else .done (some ⟨"Validation failed", errors⟩) := by
  have resolved : ((checking rs chain hs).resolvers.resolveAll ⟨payload, session, attribute?⟩ h.params).contain
      "resolver" = .ok args := Resolvers.contain_resolveAll_ok.mpr resolves
  have validated : (checking rs chain hs).validate h.params args = errors := reports.allViolations
  unfold carryOut
  rw [resolved]
  dsimp only
  rw [validated]
  cases errors with
  | nil => rfl
  | cons e es => rfl

/-- With proper arguments a handler does what it did. -/
theorem Descriptor.carryOut_orElse {other : Args → Script (Outcome Unit)}
    (routed : Routed message payload type command) :
    (Dispatcher.checking rs chain hs).carryOut session attribute? payload
        (h.orElse (Proper rs session attribute? message h) other) =
      (Dispatcher.checking rs chain hs).carryOut session attribute? payload h := by
  cases hr : (rs.resolveAll ⟨payload, session, attribute?⟩ h.params).contain "resolver" with
  | error f => simp only [Dispatcher.carryOut, Dispatcher.checking, orElse, hr]
  | ok args =>
    have resolves : rs.Resolves ⟨payload, session, attribute?⟩ h.params args := Resolvers.contain_resolveAll_ok.mp hr
    obtain ⟨errors, reports⟩ := Param.reports_total (List.Forall₂.length_eq resolves).symm
    rw [Dispatcher.carryOut_checking resolves reports,
      Dispatcher.carryOut_checking (h := h.orElse _ other) resolves reports]
    by_cases sound : errors = []
    · have proper : Proper rs session attribute? message h ⟨args⟩ :=
        ⟨⟨payload, type, command, routed, resolves⟩, reports.nil_iff.mp sound⟩
      simp only [sound, orElse, proper, if_true]
    · rw [if_neg sound, if_neg sound]

end Checking

/-- Handlers are called with proper arguments only. If all parameters resolve, the handler is called unless something
is wrong with the arguments, and then all of it is replied, and nothing else. -/
theorem validation_gate (rs : Resolvers) (chain : Chain) (hs : List Descriptor) (session : SessionId)
    (attribute? : String → Option Typed) (message : Bytes) : Gated rs chain hs session attribute? message := by
  constructor
  · intro other
    exact Dispatcher.dispatch_replaced (d := .checking rs chain hs) (fun _ => rfl)
      fun _ _ _ _ routed => Descriptor.carryOut_orElse routed
  · intro payload type command h args routed found resolves
    obtain ⟨errors, reports⟩ := Param.reports_total (List.Forall₂.length_eq resolves).symm
    refine ⟨errors, fun es => ?_, reports.nil_iff, ?_⟩
    · constructor
      · intro others
        rw [← others.allViolations, reports.allViolations]
      · rintro rfl
        exact reports
    · have known : (Dispatcher.checking rs chain hs).handlers.find? type command = some h :=
        Table.find_ofList_some.mpr found
      rw [Dispatcher.dispatch_found routed known, Dispatcher.invoke_eq,
        Dispatcher.carryOut_checking resolves reports]
      rfl

end FrameServer.Structured
