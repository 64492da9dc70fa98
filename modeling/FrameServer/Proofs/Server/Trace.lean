import FrameServer.Proofs.Server.Play

namespace FrameServer

namespace Script

def notesOf : Action → List Note
  | .note n => [n]
  | _ => []

/-- A script that was run up to a point, with whatever answers it was given, and what it wrote down. -/
inductive Runs {α : Type} (s : Script α) : List Note → Script α → Prop
  | start : Runs s [] s
  | act {notes : List Note} {a : Action} {next : a.Reply → Script α} (ran : Runs s notes (.act a next)) (r : a.Reply) :
      Runs s (notes ++ notesOf a) (next r)

end Script

namespace Work

variable {h h' : Hub} {k : SessionKey} {w w' : Work} {notes : List Note}

theorem begin_notes {a : Action} {r : a.Reply} (hb : begin h k a = .inl (r, h', notes)) : notes = Script.notesOf a := by
  cases a with
  | send | broadcast | closeAsync | sleep => cases hb
  | _ =>
    obtain ⟨-, he⟩ := Prod.mk.inj (Sum.inl.inj hb)
    exact (Prod.mk.inj he).2.symm

theorem reply_notes {a : Action} {wait : Wait} {r : a.Reply} (hr : reply? h k a wait = some r) :
    Script.notesOf a = [] := by
  cases a with
  | note n => cases wait <;> cases hr
  | _ => rfl

/-- A step of a handler is a step of its script, or a wait. -/
theorem step_runs {s : Script (Outcome (Option Bytes))} {told : List Note} (ran : s.Runs told w.script)
    (hw : w.step h k = .goesOn h' w' notes) : s.Runs (told ++ notes) w'.script := by
  obtain ⟨script, wait⟩ := w
  cases script with
  | done o => cases hw
  | act a next =>
    cases wait with
    | none =>
      simp only [step] at hw
      split at hw
      next r i found hb =>
        simp only [Progress.goesOn.injEq] at hw
        obtain ⟨-, rfl, rfl⟩ := hw
        rw [begin_notes hb]
        exact ran.act r
      · simp only [Progress.goesOn.injEq] at hw
        obtain ⟨-, rfl, rfl⟩ := hw
        rw [List.append_nil]
        exact ran
    | some wait =>
      simp only [step] at hw
      split at hw
      next r hr =>
        simp only [Progress.goesOn.injEq] at hw
        obtain ⟨-, rfl, rfl⟩ := hw
        rw [← reply_notes hr]
        exact ran.act r
      · cases hw

theorem step_finished {o : Outcome (Option Bytes)} (hw : w.step h k = .finished o) : w.script = .done o := by
  obtain ⟨script, wait⟩ := w
  cases script with
  | done o' =>
    obtain rfl := Progress.finished.inj hw
    rfl
  | act a next =>
    cases wait with
    | none =>
      simp only [step] at hw
      split at hw <;> cases hw
    | some wait =>
      simp only [step] at hw
      split at hw <;> cases hw

end Work

namespace Server

def Label.isTask (k : SessionKey) : Label → Bool
  | .task j => j == k
  | _ => false

/-- What the task of session `k` tells in one step. -/
def noted (k : SessionKey) (l : Label) (s t : State) : List Record :=
  if l.isTask k then t.journal.drop s.journal.length else []

def told (a : Application) (k : SessionKey) (s : State) : List Label → List Record
  | [] => []
  | l :: ls =>
    match step a s l with
    | none => []
    | some t => noted k l s t ++ told a k t ls

def State.released (s : State) (k : SessionKey) : Bool := (s.hub.session? k).any (·.lane.released)

/-- How often the outbound half of session `k` is shut down along a list of steps. -/
def shutdowns (a : Application) (k : SessionKey) (s : State) : List Label → Nat
  | [] => 0
  | l :: ls =>
    match step a s l with
    | none => 0
    | some t => (!s.released k && t.released k).toNat + shutdowns a k t ls

/-- What is gathered in the steps of a run. -/
def gathered {α : Type} (f : State → Label → Option α) (a : Application) (s : State) : List Label → List α
  | [] => []
  | l :: ls =>
    match step a s l with
    | none => []
    | some t => (f s l).toList ++ gathered f a t ls

variable {a : Application} {k : SessionKey} {s t u : State} {l : Label} {ls ms : List Label}

theorem told_append (h : play a s ls = some t) : told a k s (ls ++ ms) = told a k s ls ++ told a k t ms := by
  induction ls generalizing s with
  | nil =>
    obtain rfl := Option.some.inj h
    rfl
  | cons l ls ih =>
    obtain ⟨u, hu, h⟩ := Option.bind_eq_some_iff.mp h
    simp only [List.cons_append, told, hu, ih h, List.append_assoc]

theorem told_concat (h : play a s ls = some t) (hl : step a t l = some u) :
    told a k s (ls ++ [l]) = told a k s ls ++ noted k l t u := by
  rw [told_append h]
  simp only [told, hl, List.append_nil]

theorem isTask_iff : l.isTask k = true ↔ l = .task k := by
  cases l <;> simp [Label.isTask]

theorem isTask_false (h : l ≠ .task k) : l.isTask k = false := by
  rw [← Bool.not_eq_true, isTask_iff]
  exact h

theorem noted_other (h : l.isTask k = false) : noted k l s t = [] := by
  simp [noted, h]

theorem released_eq {x : Session} (hx : s.hub.session? k = some x) : s.released k = x.lane.released := by
  simp [State.released, hx]

theorem released_step (h : step a s l = some t) (hr : s.released k = true) : t.released k = true := by
  cases hx : s.hub.session? k with
  | none => simp [State.released, hx] at hr
  | some x =>
    obtain ⟨x', ms, hx', path⟩ := (step_change h).session.2 k x hx
    rw [released_eq hx] at hr
    rw [released_eq hx']
    exact path.released hr

/-- The outbound half is shut down once at most, and once if it is in the end. -/
theorem shutdowns_eq (h : play a s ls = some t) : (s.released k).toNat + shutdowns a k s ls = (t.released k).toNat := by
  induction ls generalizing s with
  | nil =>
    obtain rfl := Option.some.inj h
    rfl
  | cons l ls ih =>
    obtain ⟨u, hu, h⟩ := Option.bind_eq_some_iff.mp h
    rw [← ih h]
    simp only [shutdowns, hu]
    cases hs : s.released k with
    | false => simp
    | true => simp [released_step hu hs]

theorem gathered_append {α : Type} {f : State → Label → Option α} (h : play a s ls = some t) :
    gathered f a s (ls ++ ms) = gathered f a s ls ++ gathered f a t ms := by
  induction ls generalizing s with
  | nil =>
    obtain rfl := Option.some.inj h
    rfl
  | cons l ls ih =>
    obtain ⟨u, hu, h⟩ := Option.bind_eq_some_iff.mp h
    simp only [List.cons_append, gathered, hu, ih h, List.append_assoc]

theorem gathered_concat {α : Type} {f : State → Label → Option α} (h : play a s ls = some t)
    (hl : step a t l = some u) :
    gathered f a s (ls ++ [l]) = gathered f a s ls ++ (f t l).toList := by
  rw [gathered_append h]
  simp only [gathered, hl, List.append_nil]

theorem gathered_grows {α : Type} (f : State → Label → Option α) (s : State) (ls ms : List Label) :
    gathered f a s ls <+: gathered f a s (ls ++ ms) := by
  induction ls generalizing s with
  | nil => exact List.nil_prefix
  | cons l ls ih =>
    simp only [List.cons_append, gathered]
    cases step a s l with
    | none => exact List.prefix_rfl
    | some t => exact (List.prefix_append_right_inj _).mpr (ih t)

end Server
end FrameServer
