import FrameServer.Failure

namespace FrameServer

/-- A failure is seen from further out; a panic is let through. -/
def Outcome.within {α : Type} (o : Outcome α) (context : String) : Outcome α :=
  match o with
  | .failed f => .failed (f.within context)
  | o => o

/-- What is done one step after the other, for as long as nothing fails or panics, and how it ends. -/
structure Trail (ε α : Type) where
  steps : List ε := []
  ending : Outcome α

namespace Trail

variable {ε δ α β : Type}

def done (a : α) : Trail ε α := { ending := .ok a }

/-- One step and its outcome. -/
def step (e : ε) (o : Outcome α) : Trail ε α := ⟨[e], o⟩

/-- A failure or a panic leaves out what comes next. -/
def bind (t : Trail ε α) (next : α → Trail ε β) : Trail ε β :=
  match t.ending with
  | .ok a => ⟨t.steps ++ (next a).steps, (next a).ending⟩
  | .failed f => ⟨t.steps, .failed f⟩
  | .panicked p => ⟨t.steps, .panicked p⟩

/-- A failure or a panic is caught, and becomes a value of what comes next. -/
def caught (t : Trail ε α) (who : String) : Trail ε (Except Failure α) := ⟨t.steps, .ok (t.ending.contain who)⟩

def within (t : Trail ε α) (context : String) : Trail ε α := ⟨t.steps, t.ending.within context⟩

def map (t : Trail ε α) (f : α → β) : Trail ε β := ⟨t.steps, t.ending.map f⟩

def named (t : Trail ε α) (name : ε → δ) : Trail δ α := ⟨t.steps.map name, t.ending⟩

/-- The same is done for every item, in their order. -/
def forEach (items : List δ) (body : δ → Trail ε Unit) : Trail ε Unit :=
  match items with
  | [] => done ()
  | i :: more => (body i).bind fun _ => forEach more body

theorem bind_ok {t : Trail ε α} {next : α → Trail ε β} {a : α} (ok : t.ending = .ok a) :
    t.bind next = ⟨t.steps ++ (next a).steps, (next a).ending⟩ := by
  rw [bind, ok]

/-- What is done for the items comes to an end if it does for each of them. -/
theorem forEach_ok {body : δ → Trail ε Unit} (returns : ∀ i, (body i).ending = .ok ()) (items : List δ) :
    forEach items body = ⟨items.flatMap fun i => (body i).steps, .ok ()⟩ := by
  induction items with
  | nil => rfl
  | cons i more ih => rw [forEach, bind_ok (returns i), ih, List.flatMap_cons]

/-- What comes first has its steps before those of the rest, which there are only if it ends well. -/
theorem bind_cases (t : Trail ε α) (next : α → Trail ε β) :
    (∃ a, t.ending = .ok a ∧ t.bind next = ⟨t.steps ++ (next a).steps, (next a).ending⟩) ∨
    (∃ f, t.ending = .failed f ∧ t.bind next = ⟨t.steps, .failed f⟩) ∨
    ∃ p, t.ending = .panicked p ∧ t.bind next = ⟨t.steps, .panicked p⟩ := by
  unfold bind
  cases t.ending <;> simp

end Trail
end FrameServer
