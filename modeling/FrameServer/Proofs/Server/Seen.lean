import FrameServer.Proofs.Server.Story

namespace FrameServer

/-- A chain calls every hook on some member, and nothing else but being told of its failure. -/
theorem Chain.called_run (c : Chain) (h h' : Hook) : (∃ call ∈ c.run h', call.occasion = .hook h) ↔ h = h' := by
  constructor
  · rintro ⟨call, hc, he⟩
    obtain ⟨m, -, hm⟩ := List.mem_flatMap.mp hc
    unfold Middleware.calls at hm
    dsimp only at hm
    split at hm
    · obtain rfl := List.mem_singleton.mp hm
      cases he
      rfl
    · rcases List.mem_cons.mp hm with rfl | hm
      · cases he
        rfl
      · obtain rfl := List.mem_singleton.mp hm
        cases he
  · rintro rfl
    obtain ⟨m, hm⟩ := List.exists_mem_of_ne_nil _ c.nonempty
    refine ⟨⟨m.name, m.recorded, .hook h⟩, List.mem_flatMap.mpr ⟨m, hm, ?_⟩, rfl⟩
    unfold Middleware.calls
    dsimp only
    split <;> exact List.mem_cons_self

theorem Json.lookup_insert (key : String) (value : Json) (members : List (String × Json)) :
    (insert key value members).lookup key = some value := by
  induction members with
  | nil => exact List.lookup_cons_self
  | cons member rest ih =>
    obtain ⟨k, v⟩ := member
    unfold insert
    split
    · exact List.lookup_cons_self
    · split
      case isTrue => exact List.lookup_cons_self
      case isFalse other =>
        rw [List.lookup_cons, beq_false_of_ne other]
        exact ih

namespace Server

open Connection

def Called (id : SessionId) (h : Hook) (trace : List Record) : Prop :=
  ∃ call : Middleware.Call, .hook id call ∈ trace ∧ call.occasion = .hook h

def Record.isEvent (kind : Event.Kind) : Record → Bool
  | .event e => e.kind == kind
  | _ => false

/-- Whether a record is a hook or an event of a session. -/
def Record.concerns (id : SessionId) : Record → Bool
  | .hook i _ => i == id
  | .event e => e.source == .session id
  | .note _ => false

variable {a : Application} {id : SessionId} {h h' : Hook} {kind : Event.Kind}

theorem called_append (xs ys : List Record) : Called id h (xs ++ ys) ↔ Called id h xs ∨ Called id h ys := by
  simp only [Called, List.mem_append, or_and_right, exists_or]

theorem called_hooks : Called id h (hooks a id h') ↔ h = h' := by
  rw [← a.chain.called_run h h']
  constructor
  · rintro ⟨call, hc, he⟩
    obtain ⟨call', hc', heq⟩ := List.mem_map.mp hc
    cases heq
    exact ⟨call, hc', he⟩
  · rintro ⟨call, hc, he⟩
    exact ⟨call, List.mem_map.mpr ⟨call, hc, rfl⟩, he⟩

theorem not_called {trace : List Record} (ht : ∀ call, .hook id call ∉ trace) : ¬ Called id h trace := by
  rintro ⟨call, hc, -⟩
  exact ht call hc

theorem not_called_event (properties : List (String × Json)) : ¬ Called id h [eventOf kind id properties] :=
  not_called fun call hc => by cases List.mem_singleton.mp hc

theorem not_called_served (rounds : List Round) : ¬ Called id h (served id rounds) := by
  refine not_called fun call hc => ?_
  obtain ⟨r, -, hr⟩ := List.mem_flatMap.mp hc
  rcases List.mem_cons.mp hr with he | hr
  · cases he
  · obtain ⟨n, -, he⟩ := List.mem_map.mp hr
    cases he

theorem count_hooks : (hooks a id h).countP (Record.isEvent kind) = 0 := by
  rw [List.countP_eq_zero]
  intro r hr
  obtain ⟨call, -, rfl⟩ := List.mem_map.mp hr
  exact Bool.false_ne_true

theorem isEvent_eventOf (kind kind' : Event.Kind) (id : SessionId) (properties : List (String × Json)) :
    (eventOf kind' id properties).isEvent kind = decide (kind' = kind) := by
  simp only [eventOf, Record.isEvent, (Event.foldl_set _ _).1]
  exact beq_eq_decide kind' kind

theorem count_event (kind' : Event.Kind) (properties : List (String × Json)) :
    [eventOf kind' id properties].countP (Record.isEvent kind) = if kind' = kind then 1 else 0 := by
  rw [List.countP_singleton, isEvent_eventOf]
  simp

theorem count_served (rounds : List Round) (other : kind ≠ .messageReceived) :
    (served id rounds).countP (Record.isEvent kind) = 0 := by
  rw [List.countP_eq_zero]
  intro r hr
  obtain ⟨round, -, hr⟩ := List.mem_flatMap.mp hr
  rcases List.mem_cons.mp hr with rfl | hr
  · rw [messageEvent, isEvent_eventOf, decide_eq_true_eq]
    exact Ne.symm other
  · obtain ⟨n, -, rfl⟩ := List.mem_map.mp hr
    exact Bool.false_ne_true

theorem concerns_event {i : SessionId} {properties : List (String × Json)}
    (h : (eventOf kind i properties).concerns id = true) : i = id := by
  simp only [eventOf, Record.concerns, (Event.foldl_set _ _).2, beq_iff_eq, Event.Source.session.injEq] at h
  exact h

theorem concerns_hooks {i : SessionId} {r : Record} (hr : r ∈ hooks a i h) (hc : r.concerns id = true) : i = id := by
  obtain ⟨call, -, rfl⟩ := List.mem_map.mp hr
  exact beq_iff_eq.mp hc

theorem closeEvent_inj {id : SessionId} {r r' : CloseReason} (h : closeEvent id r = closeEvent id r') : r = r' := by
  have reasons := congrArg (fun record => match record with
    | .event e => e.property? "reason"
    | _ => none) h
  have same : some (Json.string r.name) = some (Json.string r'.name) :=
    (Json.lookup_insert _ _ _).symm.trans (reasons.trans (Json.lookup_insert _ _ _))
  cases r <;> cases r' <;> first | rfl | simp [CloseReason.name] at same

theorem closeEvent_ne {id i : SessionId} {reason : CloseReason} {kind : Event.Kind} {properties : List (String × Json)}
    (other : kind ≠ .sessionClose) : closeEvent id reason ≠ eventOf kind i properties := by
  intro same
  have closes : (closeEvent id reason).isEvent .sessionClose = true := isEvent_eventOf _ _ _ _
  rw [same, isEvent_eventOf, decide_eq_true_eq] at closes
  exact other closes

theorem closeEvent_notMem_hooks {id i : SessionId} {reason : CloseReason} :
    closeEvent id reason ∉ hooks a i h := by
  intro mem
  obtain ⟨call, -, same⟩ := List.mem_map.mp mem
  cases same

/-- What a task tells concerns its own session. -/
theorem Connection.Effect.concerns {k : SessionKey} {s : Session} {i i' : Hub} {c c' : Connection}
    {records : List Record} (e : c.Effect a k s i i' c' records) {r : Record} (hr : r ∈ records)
    (hc : r.concerns id = true) : s.id = id := by
  cases e with
  | connect | corrupt | timeout | part => exact concerns_hooks hr hc
  | greet | receive | broken | fail | close =>
    obtain rfl := List.mem_singleton.mp hr
    exact concerns_event hc
  | work =>
    obtain ⟨n, -, rfl⟩ := List.mem_map.mp hr
    cases hc
  | _ => cases hr

end Server
end FrameServer
