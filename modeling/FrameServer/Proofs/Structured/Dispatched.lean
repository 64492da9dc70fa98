import FrameServer.Proofs.Structured.Pipeline

namespace FrameServer.Structured

open Script (Answered course_of_answers)

/-- What becomes of a message of `session` that ends at `stage`, if the handlers `hs` are registered in this order. -/
structure Dispatched (d : Dispatcher) (hs : List Descriptor) (session : SessionId)
    (attribute? : String → Option Typed) (message : Bytes) (stage : Stage) : Prop where
  reached : stage.Reached d hs session attribute? message
  only : ∀ s : Stage, s.Reached d hs session attribute? message → s = stage
  /-- Whatever its actions are answered, the dispatcher comes to an end. -/
  ends : ∀ answer : List Answered → (a : Action) → a.Reply, ∃ steps o,
    ((d.serving hs).handler { session, message, attribute? }).Course steps o ∧
      ∀ before step after, steps = before ++ step :: after → step.reply = answer before step.action
  /-- It ends normally, after having done and replied just what belongs to the stage. -/
  course : ∀ steps o, ((d.serving hs).handler { session, message, attribute? }).Course steps o ↔
    ∃ reply, o = .ok (reply.map Reply.render) ∧ Tells d.chain session stage steps reply
  /-- There is no response if and only if a handler was called and returned without failure. -/
  silent : ∀ steps o, ((d.serving hs).handler { session, message, attribute? }).Course steps o →
    (o = .ok none ↔ ∃ payload h args own, stage = .called payload h args ∧ (h.run ⟨args⟩).Course own (.ok ()) ∧
      steps = opening d.chain session payload ++ own ++ closing d.chain session payload)
  /-- Until the chain was told that a handler was found, the resolvers have no part in what is done. -/
  first : ∀ payload type command h, Routed message payload type command → LastWith Descriptor.key hs (key type command) h →
    ∃ rest : Resolvers → Script (Option Reply), ∀ rs,
      ({ d with resolvers := rs }.serving hs).dispatch session attribute? message =
        (Script.noteCalls session (d.chain.run (.beforeDispatch payload))).bind fun _ => rest rs

theorem Tells.silent {chain : Chain} {session : SessionId} {stage : Stage} {steps : List Answered}
    {reply : Option Reply} (told : Tells chain session stage steps reply) :
    reply = none ↔ ∃ payload h args own, stage = .called payload h args ∧ (h.run ⟨args⟩).Course own (.ok ()) ∧
      steps = opening chain session payload ++ own ++ closing chain session payload := by
  constructor
  · intro none
    cases told with
    | carriedOut payload h args own ran => exact ⟨payload, h, args, own, rfl, ran, rfl⟩
    | _ => cases none
  · rintro ⟨payload, h, args, own, rfl, ran, same⟩
    cases told with
    | carriedOut => rfl
    | failed _ _ _ own' o f ran' failure =>
      simp only [List.append_assoc, List.append_cancel_left_eq] at same
      obtain ⟨-, rfl⟩ := ran'.unique ran same
      cases failure

/-- Every message ends at exactly one stage: the first that it does not pass. At most one handler is called, once;
without failure it is the only case in which there is no reply. -/
theorem dispatch_pipeline (d : Dispatcher) (hs : List Descriptor) (session : SessionId)
    (attribute? : String → Option Typed) (message : Bytes) :
    ∃ stage, Dispatched d hs session attribute? message stage := by
  refine ⟨(d.serving hs).stage session attribute? message, ?_⟩
  constructor
  · exact Dispatcher.stage_reached d hs session attribute? message
  · intro s reached
    exact (Dispatcher.stage_of_reached reached).symm
  · intro answer
    exact course_of_answers _ answer
  · intro steps o
    exact Dispatcher.course_handler
  · intro steps o ran
    obtain ⟨reply, rfl, told⟩ := Dispatcher.course_handler.mp ran
    have none_iff : Outcome.ok (reply.map Reply.render) = .ok none ↔ reply = none := by
      cases reply <;> simp
    rw [none_iff]
    exact Tells.silent told
  · intro payload type command h routed found
    refine ⟨fun rs => ({ d with resolvers := rs }.serving hs).carryOut session attribute? payload h, fun rs => ?_⟩
    rw [Dispatcher.dispatch_found routed (Table.find_ofList_some.mpr found), Dispatcher.invoke_eq]
    rfl

end FrameServer.Structured
