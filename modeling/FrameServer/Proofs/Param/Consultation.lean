import FrameServer.Proofs.Param.Registration
import FrameServer.Proofs.Trail

namespace FrameServer.Resolvers

/-- A resolver is asked whether it supports a parameter, or is used for it. It is told by its place in the registry. -/
inductive Consultation
  | asked (place : Nat) (p : Param)
  | used (place : Nat) (p : Param)

namespace Consultation

def place : Consultation → Nat
  | asked i _ | used i _ => i

def param : Consultation → Param
  | asked _ p | used _ p => p

end Consultation

/-- The first resolver that supports the parameter, and its place. -/
def search (p : Param) : List (Resolver × Nat) → Trail Consultation (Option (Resolver × Nat))
  | [] => .done none
  | (r, i) :: more => (Trail.step (.asked i p) (.ok (r.supports p))).bind fun
    | true => .done (some (r, i))
    | false => search p more

def consult (rs : Resolvers) (ctx : Resolver.Context) (p : Param) : Trail Consultation Argument :=
  (search p rs.list.zipIdx).bind fun
    | none => .done .absent
    | some (r, i) => (Trail.step (.used i p) (r.resolve p ctx)).within
      s!"resolver '{r.name}' failed for parameter '{p.name}'"

def consultAll (rs : Resolvers) (ctx : Resolver.Context) : List Param → Trail Consultation (List Argument)
  | [] => .done []
  | p :: ps => (rs.consult ctx p).bind fun a => (rs.consultAll ctx ps).map (a :: ·)

/-- The resolvers in `n` places from `k` on are asked. -/
def asking (p : Param) (k n : Nat) : List Consultation := (List.range' k n).map (.asked · p)

/-- The resolver behind these is the first one that supports the parameter. -/
structure First (rs : Resolvers) (p : Param) (before : List Resolver) (r : Resolver) : Prop where
  here : ∃ after, rs.list = before ++ r :: after
  unsupported : ∀ q ∈ before, q.supports p = false
  supported : r.supports p = true

/-- What one parameter comes to, and who is consulted for it. -/
inductive Gives (rs : Resolvers) (ctx : Resolver.Context) (p : Param) : Trail Consultation Argument → Prop
  | absent (unsupported : ∀ r ∈ rs.list, r.supports p = false) :
      Gives rs ctx p ⟨asking p 0 rs.list.length, .ok .absent⟩
  | given {before r a} (first : rs.First p before r) (ok : r.resolve p ctx = .ok a) :
      Gives rs ctx p ⟨asking p 0 (before.length + 1) ++ [.used before.length p], .ok a⟩
  | failed {before r f} (first : rs.First p before r) (fails : r.resolve p ctx = .failed f) :
      Gives rs ctx p ⟨asking p 0 (before.length + 1) ++ [.used before.length p],
        .failed ⟨"resolver '" ++ r.name ++ "' failed for parameter '" ++ p.name ++ "'", f.message :: f.causes⟩⟩
  | panicked {before r c} (first : rs.First p before r) (panics : r.resolve p ctx = .panicked c) :
      Gives rs ctx p ⟨asking p 0 (before.length + 1) ++ [.used before.length p], .panicked c⟩

/-- Each parameter is given an argument, in these steps. -/
def Given (rs : Resolvers) (ctx : Resolver.Context) : List Param → List (List Consultation × Argument) → Prop :=
  List.Forall₂ fun p g => rs.Gives ctx p ⟨g.1, .ok g.2⟩

/-- What a list of parameters comes to. Nobody is consulted for the ones after the first that fails. -/
inductive Collects (rs : Resolvers) (ctx : Resolver.Context) (ps : List Param) :
    Trail Consultation (List Argument) → Prop
  | all {got} (each : rs.Given ctx ps got) : Collects rs ctx ps ⟨got.flatMap (·.1), .ok (got.map (·.2))⟩
  | failed {earlier p later got steps f} (split : ps = earlier ++ p :: later) (each : rs.Given ctx earlier got)
      (fails : rs.Gives ctx p ⟨steps, .failed f⟩) : Collects rs ctx ps ⟨got.flatMap (·.1) ++ steps, .failed f⟩
  | panicked {earlier p later got steps c} (split : ps = earlier ++ p :: later) (each : rs.Given ctx earlier got)
      (panics : rs.Gives ctx p ⟨steps, .panicked c⟩) : Collects rs ctx ps ⟨got.flatMap (·.1) ++ steps, .panicked c⟩

variable {rs : Resolvers} {ctx : Resolver.Context} {p : Param} {ps : List Param}
  {before after : List Resolver} {r : Resolver} {k : Nat}

theorem search_none (unsupported : ∀ r ∈ before, r.supports p = false) :
    search p (before.zipIdx k) = ⟨asking p k before.length, .ok none⟩ := by
  induction before generalizing k with
  | nil => rfl
  | cons r more ih =>
    rw [List.zipIdx_cons, search, Trail.bind_ok rfl, unsupported r List.mem_cons_self]
    dsimp only
    rw [ih fun q hq => unsupported q (List.mem_cons_of_mem _ hq)]
    rfl

theorem search_first (unsupported : ∀ q ∈ before, q.supports p = false) (supported : r.supports p = true) :
    search p ((before ++ r :: after).zipIdx k) =
      ⟨asking p k (before.length + 1), .ok (some (r, k + before.length))⟩ := by
  induction before generalizing k with
  | nil =>
    rw [List.nil_append, List.zipIdx_cons, search, Trail.bind_ok rfl, supported]
    rfl
  | cons q more ih =>
    rw [List.cons_append, List.zipIdx_cons, search, Trail.bind_ok rfl, unsupported q List.mem_cons_self]
    dsimp only
    rw [ih fun q hq => unsupported q (List.mem_cons_of_mem _ hq), List.length_cons,
      show k + 1 + more.length = k + (more.length + 1) by omega]
    rfl

theorem first_or_none (rs : Resolvers) (p : Param) :
    (∀ r ∈ rs.list, r.supports p = false) ∨ ∃ before r, rs.First p before r := by
  cases found : rs.list.find? (·.supports p) with
  | none => exact .inl fun r hr => by simpa using List.find?_eq_none.mp found r hr
  | some r =>
    obtain ⟨supported, before, after, split, unsupported⟩ := List.find?_eq_some_iff_append.mp found
    exact .inr ⟨before, r, ⟨after, split⟩, fun q hq => by simpa using unsupported q hq, supported⟩

theorem First.find (first : rs.First p before r) : rs.list.find? (·.supports p) = some r := by
  obtain ⟨after, here⟩ := first.here
  refine List.find?_eq_some_iff_append.mpr ⟨first.supported, before, after, here, fun q hq => ?_⟩
  rw [first.unsupported q hq]
  rfl

theorem consult_none (unsupported : ∀ r ∈ rs.list, r.supports p = false) :
    rs.consult ctx p = ⟨asking p 0 rs.list.length, .ok .absent⟩ := by
  rw [consult, search_none unsupported, Trail.bind_ok rfl, Trail.done, List.append_nil]

theorem First.consult (first : rs.First p before r) : rs.consult ctx p =
    ⟨asking p 0 (before.length + 1) ++ [.used before.length p],
      (r.resolve p ctx).within s!"resolver '{r.name}' failed for parameter '{p.name}'"⟩ := by
  obtain ⟨after, here⟩ := first.here
  rw [Resolvers.consult, here, search_first first.unsupported first.supported, Trail.bind_ok rfl, Nat.zero_add]
  rfl

theorem consult_gives (rs : Resolvers) (ctx : Resolver.Context) (p : Param) : rs.Gives ctx p (rs.consult ctx p) := by
  rcases rs.first_or_none p with unsupported | ⟨before, r, first⟩
  · rw [consult_none unsupported]
    exact .absent unsupported
  · rw [first.consult]
    cases outcome : r.resolve p ctx with
    | ok a => exact .given first outcome
    | failed f => exact .failed first outcome
    | panicked c => exact .panicked first outcome

theorem consult_ending (rs : Resolvers) (ctx : Resolver.Context) (p : Param) :
    (rs.consult ctx p).ending = rs.resolve ctx p := by
  rcases rs.first_or_none p with unsupported | ⟨before, r, first⟩
  · have none : rs.list.find? (·.supports p) = none :=
      List.find?_eq_none.mpr fun r hr => by simp [unsupported r hr]
    rw [consult_none unsupported, resolve, none]
  · rw [first.consult, resolve, first.find]
    dsimp only
    cases r.resolve p ctx <;> rfl

theorem consultAll_ending (rs : Resolvers) (ctx : Resolver.Context) (ps : List Param) :
    (rs.consultAll ctx ps).ending = rs.resolveAll ctx ps := by
  induction ps with
  | nil => rfl
  | cons p ps ih =>
    rw [consultAll, resolveAll, ← consult_ending, ← ih]
    rcases (rs.consult ctx p).bind_cases fun a => (rs.consultAll ctx ps).map (a :: ·) with
      ⟨a, ok, all⟩ | ⟨f, fails, all⟩ | ⟨c, panics, all⟩
    · rw [all, ok]
      rfl
    · rw [all, fails]
    · rw [all, panics]

theorem Collects.cons {a : Argument} {steps : List Consultation} {t : Trail Consultation (List Argument)}
    (given : rs.Gives ctx p ⟨steps, .ok a⟩) (rest : rs.Collects ctx ps t) :
    rs.Collects ctx (p :: ps) ⟨steps ++ t.steps, t.ending.map (a :: ·)⟩ := by
  cases rest with
  | all each => exact .all (.cons (b := (steps, a)) given each)
  | failed split each fails =>
    rw [← List.append_assoc]
    exact .failed (congrArg (p :: ·) split) (.cons (b := (steps, a)) given each) fails
  | panicked split each panics =>
    rw [← List.append_assoc]
    exact .panicked (congrArg (p :: ·) split) (.cons (b := (steps, a)) given each) panics

theorem consultAll_collects (rs : Resolvers) (ctx : Resolver.Context) (ps : List Param) :
    rs.Collects ctx ps (rs.consultAll ctx ps) := by
  induction ps with
  | nil => exact .all .nil
  | cons p ps ih =>
    have gives := rs.consult_gives ctx p
    rw [consultAll]
    rcases (rs.consult ctx p).bind_cases fun a => (rs.consultAll ctx ps).map (a :: ·) with
      ⟨a, ok, all⟩ | ⟨f, fails, all⟩ | ⟨c, panics, all⟩
    · rw [all]
      exact .cons (ok ▸ gives) ih
    · rw [all]
      exact .failed (show p :: ps = [] ++ p :: ps from rfl) .nil (fails ▸ gives)
    · rw [all]
      exact .panicked (show p :: ps = [] ++ p :: ps from rfl) .nil (panics ▸ gives)

end FrameServer.Resolvers
