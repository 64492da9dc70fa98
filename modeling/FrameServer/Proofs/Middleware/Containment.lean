import Mathlib.Data.List.Forall2
import FrameServer.Middleware
import FrameServer.Proofs.Trail

namespace FrameServer

theorem Hook.payload?_eq_some {h : Hook} {p : Json} :
    h.payload? = some p ↔ h = .beforeDispatch p ∨ h = .afterDispatch p := by
  cases h <;> simp [Hook.payload?]

namespace Middleware

variable {m : Middleware} {h : Hook} {os : List Occasion}

/-- One call, with the outcome the member gives it. -/
def face (m : Middleware) (o : Occasion) : Trail Occasion Unit :=
  .step o <| match o with
    | .hook h => m.react h
    | .failure f payload => m.observe f payload

/-- Tells the member of a failure, and drops what comes of it. -/
def tell (m : Middleware) (f : Failure) (payload : Option Json) : Trail Occasion Unit :=
  ((m.face (.failure f payload)).caught "on_exception").bind fun _ => .done ()

/-- Calls a hook of the member, and tells the same member if that fails. -/
def attend (m : Middleware) (h : Hook) : Trail Occasion Unit :=
  ((m.face (.hook h)).caught h.name).bind fun
    | .ok () => .done ()
    | .error f => m.tell f h.payload?

def take (m : Middleware) : Occasion → Trail Occasion Unit
  | .hook h => m.attend h
  | .failure f payload => m.tell f payload

/-- What a member hears of a hook: the hook, and right after it the failure of that hook, if there is one. -/
inductive Hears (h : Hook) (m : Middleware) : List Occasion → Prop
  | well (ok : m.react h = .ok ()) : Hears h m [.hook h]
  | failed {f : Failure} (fails : m.react h = .failed f) : Hears h m [.hook h, .failure f h.payload?]
  | panicked {p : Panic} (panics : m.react h = .panicked p) :
      Hears h m [.hook h, .failure ⟨h.name ++ " panicked: " ++ p.message, []⟩ h.payload?]

theorem tell_eq (f : Failure) (payload : Option Json) : m.tell f payload = ⟨[.failure f payload], .ok ()⟩ := rfl

theorem attend_returns (m : Middleware) (h : Hook) : (m.attend h).ending = .ok () := by
  unfold attend
  rw [Trail.bind_ok rfl]
  dsimp only
  split
  · rfl
  · rw [tell_eq]

theorem take_returns (m : Middleware) (o : Occasion) : (m.take o).ending = .ok () := by
  cases o with
  | hook h => exact m.attend_returns h
  | failure f payload => rfl

theorem hears_attend (m : Middleware) (h : Hook) : Hears h m (m.attend h).steps := by
  unfold attend
  rw [Trail.bind_ok rfl]
  simp only [Trail.caught, face, Trail.step, tell_eq]
  cases outcome : m.react h with
  | ok => exact .well outcome
  | failed f => exact .failed outcome
  | panicked p => exact .panicked outcome

/-- The outcome of a hook is one, so what is heard of it is one. -/
theorem Hears.unique {part part' : List Occasion} (heard : Hears h m part) (heard' : Hears h m part') :
    part = part' := by
  cases heard <;> cases heard' <;> simp_all

theorem hears_iff {part : List Occasion} : Hears h m part ↔ part = (m.attend h).steps := by
  constructor
  · intro heard
    exact heard.unique (m.hears_attend h)
  · rintro rfl
    exact m.hears_attend h

/-- A call as the journal has it. -/
def call (m : Middleware) (o : Occasion) : Call := ⟨m.name, m.recorded, o⟩

theorem calls_eq (m : Middleware) (h : Hook) : m.calls h = (m.attend h).steps.map m.call := by
  unfold calls attend
  rw [Trail.bind_ok rfl]
  simp only [Trail.caught, face, Trail.step, tell_eq]
  cases (m.react h).contain h.name <;> rfl

end Middleware

namespace Chain

open Middleware (Occasion)

variable {c : Chain} {i : Nat} {m : Middleware}

def alone (m : Middleware) : Chain := ⟨[m], by simp⟩

/-- Every member takes the occasion, in the order of the chain. Each call comes with the place of its member. -/
def take (c : Chain) (o : Occasion) : Trail (Nat × Occasion) Unit :=
  .forEach c.members.zipIdx fun x => (x.1.take o).named (x.2, ·)

/-- One occasion after the other. -/
def takeAll (c : Chain) (os : List Occasion) : Trail (Nat × Occasion) Unit := .forEach os c.take

/-- What the member in one place hears. -/
def heardBy (i : Nat) (calls : List (Nat × Occasion)) : List Occasion :=
  calls.filterMap fun (j, o) => if j = i then some o else none

/-- Each member's part, in the order of the members. -/
def inPlaces (parts : List (List Occasion)) : List (Nat × Occasion) :=
  parts.zipIdx.flatMap fun x => x.1.map (x.2, ·)

theorem take_eq (c : Chain) (o : Occasion) :
    c.take o = ⟨inPlaces (c.members.map fun m => (m.take o).steps), .ok ()⟩ := by
  rw [take, Trail.forEach_ok fun x => x.1.take_returns o, inPlaces, List.zipIdx_map, List.flatMap_map]
  rfl

theorem takeAll_eq (c : Chain) (os : List Occasion) :
    c.takeAll os = ⟨os.flatMap fun o => (c.take o).steps, .ok ()⟩ :=
  Trail.forEach_ok (fun o => by rw [take_eq]) os

theorem heardBy_map (i j : Nat) (part : List Occasion) :
    heardBy i (part.map (j, ·)) = if j = i then part else [] := by
  rw [heardBy, List.filterMap_map]
  by_cases here : j = i <;> simp [here]

/-- The places are counted from `k` on. -/
theorem heardBy_from (i k : Nat) (parts : List (List Occasion)) :
    heardBy i ((parts.zipIdx k).flatMap fun x => x.1.map (x.2, ·)) =
      if k ≤ i then (parts[i - k]?).getD [] else [] := by
  induction parts generalizing k with
  | nil => simp [heardBy]
  | cons part more ih =>
    rw [List.zipIdx_cons, List.flatMap_cons, heardBy, List.filterMap_append, ← heardBy, ← heardBy, ih, heardBy_map]
    rcases Nat.lt_trichotomy i k with before | rfl | after
    · rw [if_neg (by omega), if_neg (by omega), if_neg (by omega), List.append_nil]
    · rw [if_pos rfl, if_neg (by omega), if_pos (Nat.le_refl i), List.append_nil, Nat.sub_self]
      rfl
    · obtain ⟨d, rfl⟩ := Nat.exists_eq_add_of_lt after
      rw [if_neg (by omega), if_pos (by omega), if_pos (by omega), List.nil_append,
        show k + d + 1 - k = d + 1 by omega, show k + d + 1 - (k + 1) = d by omega, List.getElem?_cons_succ]

theorem heardBy_take (there : c.members[i]? = some m) (o : Occasion) :
    heardBy i (c.take o).steps = (m.take o).steps := by
  rw [take_eq, inPlaces, heardBy_from, if_pos (Nat.zero_le i), Nat.sub_zero, List.getElem?_map, there]
  rfl

theorem heardBy_takeAll (there : c.members[i]? = some m) (os : List Occasion) :
    heardBy i (c.takeAll os).steps = os.flatMap fun o => (m.take o).steps := by
  rw [takeAll_eq]
  induction os with
  | nil => rfl
  | cons o more ih =>
    rw [List.flatMap_cons, heardBy, List.filterMap_append, ← heardBy, ← heardBy, ih, heardBy_take there,
      List.flatMap_cons]

/-- The calls as the journal has them, each under the name of its member. -/
def journal (c : Chain) (calls : List (Nat × Occasion)) : List Middleware.Call :=
  calls.filterMap fun (i, o) => c.members[i]?.map (·.call o)

theorem journal_take (c : Chain) (o : Occasion) :
    c.journal (c.take o).steps = c.members.flatMap fun m => (m.take o).steps.map m.call := by
  rw [take, Trail.forEach_ok fun x => x.1.take_returns o, journal, List.filterMap_flatMap]
  conv_rhs => rw [← List.zipIdx_map_fst 0 c.members, List.flatMap_map]
  refine List.flatMap_congr fun x hx => ?_
  rw [Trail.named, List.filterMap_map, ← List.filterMap_eq_map]
  simp only [Function.comp_def, List.mem_zipIdx_iff_getElem?.mp hx, Option.map_some]

/-- The calls of a hook on a chain: each member in turn hears of the hook and of its own failure. -/
def Attends (c : Chain) (h : Hook) (calls : List Middleware.Call) : Prop :=
  ∃ parts, List.Forall₂ (Middleware.Hears h) c.members parts ∧
    calls = (List.zipWith (fun m part => part.map m.call) c.members parts).flatten

theorem attends_iff {h : Hook} {calls : List Middleware.Call} : c.Attends h calls ↔ calls = c.run h := by
  have alike : ∀ parts, List.Forall₂ (Middleware.Hears h) c.members parts ↔
      parts = c.members.map fun m => (m.attend h).steps := by
    intro parts
    have one : Middleware.Hears h = fun m part => (m.attend h).steps = part := by
      funext m part
      exact propext (Middleware.hears_iff.trans eq_comm)
    rw [one, ← List.forall₂_map_left_iff, List.forall₂_eq_eq_eq, eq_comm]
  have whole : (List.zipWith (fun m part => part.map m.call) c.members
      (c.members.map fun m => (m.attend h).steps)).flatten = c.run h := by
    rw [List.zipWith_map_right, List.zipWith_self, run, List.flatMap]
    exact congrArg List.flatten (List.map_congr_left fun m _ => (m.calls_eq h).symm)
  constructor
  · rintro ⟨parts, hears, rfl⟩
    rw [(alike parts).mp hears, whole]
  · rintro rfl
    exact ⟨_, (alike _).mpr rfl, whole.symm⟩

/-- No failure keeps the hook from any member. -/
theorem Attends.mem {h : Hook} {calls : List Middleware.Call} (attends : c.Attends h calls) (there : m ∈ c.members) :
    m.call (.hook h) ∈ calls := by
  have heard : m.call (.hook h) ∈ m.calls h := by
    unfold Middleware.calls
    split
    · exact List.mem_singleton_self _
    · exact List.mem_cons_self
  rw [attends_iff.mp attends]
  exact List.mem_flatMap_of_mem there heard

/-- What a chain makes of hooks and failures, however the members take them. -/
structure Contained (c : Chain) : Prop where
  /-- A hook is over in time, and each member in turn has heard of it and of its own failure. -/
  hook : ∀ h, (c.take (.hook h)).ending = .ok () ∧
    ∃ parts, List.Forall₂ (Middleware.Hears h) c.members parts ∧ (c.take (.hook h)).steps = inPlaces parts
  /-- The payload of a failed hook is told if the hook is one of dispatch. -/
  payload : ∀ (h : Hook) p, h.payload? = some p ↔ h = .beforeDispatch p ∨ h = .afterDispatch p
  /-- A failure reaches every member once. -/
  failure : ∀ f payload, (c.take (.failure f payload)).ending = .ok () ∧
    (c.take (.failure f payload)).steps = inPlaces (c.members.map fun _ => [.failure f payload])
  run : ∀ h, c.run h = c.journal (c.take (.hook h)).steps
  report : ∀ f payload, c.report f payload = c.journal (c.take (.failure f payload)).steps
  /-- Over any hooks and failures, a member hears what it would hear without the others. -/
  alone : ∀ os, (c.takeAll os).ending = .ok () ∧ ∀ i m, c.members[i]? = some m →
    heardBy i (c.takeAll os).steps = heardBy 0 ((alone m).takeAll os).steps

/-- Any call of a hook may fail or panic; what comes of it stays with the member, and the chain goes on. -/
theorem contained (c : Chain) : c.Contained where
  hook h := by
    rw [take_eq]
    refine ⟨rfl, _, ?_, rfl⟩
    rw [List.forall₂_map_right_iff]
    exact List.forall₂_same.mpr fun m _ => m.hears_attend h
  payload h p := Hook.payload?_eq_some
  failure f payload := by
    rw [take_eq]
    exact ⟨rfl, rfl⟩
  run h := by
    rw [journal_take]
    exact List.flatMap_congr fun m _ => m.calls_eq h
  report f payload := by
    rw [journal_take]
    exact List.map_eq_flatMap
  alone os := by
    refine ⟨by rw [takeAll_eq], fun i m there => ?_⟩
    rw [heardBy_takeAll there, heardBy_takeAll (c := .alone m) (i := 0) rfl]

end Chain
end FrameServer
