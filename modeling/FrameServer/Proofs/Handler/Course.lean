import FrameServer.Handler.Script

namespace FrameServer.Script

/-- An action that was taken, and the answer to it. -/
structure Answered where
  action : Action
  reply : action.Reply

/-- A script takes these actions, gets these answers and ends with this value. -/
inductive Course {α : Type} : Script α → List Answered → α → Prop
  | done (x : α) : Course (.done x) [] x
  | act (a : Action) (next : a.Reply → Script α) (r : a.Reply) {steps : List Answered} {x : α}
      (rest : Course (next r) steps x) : Course (.act a next) (⟨a, r⟩ :: steps) x

variable {α β : Type} {s : Script α} {f : α → Script β} {steps : List Answered} {x : α} {y : β}

theorem bind_eq (s : Script α) (f : α → Script β) : (s >>= f) = s.bind f := rfl

theorem course_done {x' : α} : (done x).Course steps x' ↔ steps = [] ∧ x' = x := by
  constructor
  · intro h
    cases h
    exact ⟨rfl, rfl⟩
  · rintro ⟨rfl, rfl⟩
    exact .done _

theorem Course.bind {more : List Answered} (h : s.Course steps x) (k : (f x).Course more y) :
    (s.bind f).Course (steps ++ more) y := by
  induction h with
  | done x => exact k
  | act a next r rest ih => exact .act a _ r (ih k)

/-- What two scripts do one after the other falls into what each of them does. -/
theorem course_bind : (s.bind f).Course steps y ↔
    ∃ before after x, steps = before ++ after ∧ s.Course before x ∧ (f x).Course after y := by
  constructor
  · intro h
    induction s generalizing steps with
    | done x => exact ⟨[], steps, x, rfl, .done x, h⟩
    | act a next ih =>
      cases h with
      | act _ _ r rest =>
        obtain ⟨before, after, x, rfl, first, second⟩ := ih r rest
        exact ⟨⟨a, r⟩ :: before, after, x, rfl, .act a next r first, second⟩
  · rintro ⟨before, after, x, rfl, first, second⟩
    exact first.bind second

/-- The answers determine what a script does, how long it does it, and what it ends with. -/
theorem Course.unique {more rest rest' : List Answered} {x' : α} (h : s.Course steps x) (h' : s.Course more x')
    (same : steps ++ rest = more ++ rest') : steps = more ∧ x = x' := by
  induction h generalizing more with
  | done x =>
    obtain ⟨rfl, rfl⟩ := course_done.mp h'
    exact ⟨rfl, rfl⟩
  | act a next r _ ih =>
    cases h' with
    | act _ _ r' later =>
      obtain ⟨first, tail⟩ := List.cons.inj same
      obtain rfl : r = r' := by cases first; rfl
      obtain ⟨rfl, rfl⟩ := ih later tail
      exact ⟨rfl, rfl⟩

/-- Whatever it is answered, also in view of what was answered before, a script comes to an end. -/
theorem course_of_answers (s : Script α) (answer : List Answered → (a : Action) → a.Reply) :
    ∃ steps x, s.Course steps x ∧
      ∀ before step after, steps = before ++ step :: after → step.reply = answer before step.action := by
  induction s generalizing answer with
  | done x => exact ⟨[], x, .done x, fun before step after split => by simp at split⟩
  | act a next ih =>
    obtain ⟨steps, x, rest, answered⟩ := ih (answer [] a) fun before => answer (⟨a, answer [] a⟩ :: before)
    refine ⟨⟨a, answer [] a⟩ :: steps, x, .act a next _ rest, ?_⟩
    intro before step after split
    cases before with
    | nil =>
      obtain ⟨rfl, -⟩ := List.cons.inj split
      rfl
    | cons first before =>
      obtain ⟨rfl, later⟩ := List.cons.inj split
      exact answered before step after later

/-- Calls as they are written down: those that are recorded, in their order. -/
def noted (session : SessionId) (calls : List Middleware.Call) : List Answered :=
  (calls.filter (·.recorded)).map fun c => ⟨.note ⟨some session, .call c⟩, ()⟩

/-- Writing calls down does nothing else. -/
theorem course_noteCalls {session : SessionId} {calls : List Middleware.Call} {u : Unit} :
    (noteCalls session calls).Course steps u ↔ steps = noted session calls := by
  induction calls generalizing steps with
  | nil => simp [noteCalls, course_done, noted]
  | cons c cs ih =>
    by_cases hc : c.recorded
    · have head : noted session (c :: cs) = ⟨.note ⟨some session, .call c⟩, ()⟩ :: noted session cs := by
        simp [noted, hc]
      rw [noteCalls, if_pos hc, head]
      constructor
      · intro h
        cases h with
        | act _ _ r rest => rw [ih.mp rest]
      · rintro rfl
        exact .act (.note ⟨some session, .call c⟩) (fun _ => noteCalls session cs) () (ih.mpr rfl)
    · have head : noted session (c :: cs) = noted session cs := by simp [noted, hc]
      rw [noteCalls, if_neg hc, head]
      exact ih

theorem course_noteCalls_bind {session : SessionId} {calls : List Middleware.Call} {f : Unit → Script β} :
    ((noteCalls session calls).bind f).Course steps y ↔
      ∃ after, steps = noted session calls ++ after ∧ (f ()).Course after y := by
  rw [course_bind]
  constructor
  · rintro ⟨before, after, u, rfl, first, second⟩
    exact ⟨after, by rw [course_noteCalls.mp first], second⟩
  · rintro ⟨after, rfl, second⟩
    exact ⟨_, after, (), rfl, course_noteCalls.mpr rfl, second⟩

theorem course_noteCalls_done {x' : β} {session : SessionId} {calls : List Middleware.Call} :
    ((noteCalls session calls).bind fun _ => done y).Course steps x' ↔ steps = noted session calls ∧ x' = y := by
  rw [course_noteCalls_bind]
  constructor
  · rintro ⟨after, rfl, last⟩
    obtain ⟨rfl, rfl⟩ := course_done.mp last
    exact ⟨List.append_nil _, rfl⟩
  · rintro ⟨rfl, rfl⟩
    exact ⟨[], (List.append_nil _).symm, .done _⟩

end FrameServer.Script
