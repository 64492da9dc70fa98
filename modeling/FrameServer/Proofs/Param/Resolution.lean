import Mathlib.Data.List.Forall2
import FrameServer.Param.Resolver

namespace FrameServer

theorem Outcome.contain_map {α β : Type} (f : α → β) (who : String) (o : Outcome α) :
    (o.map f).contain who = (o.contain who).map f := by
  cases o <;> rfl

namespace Resolvers

/-- Every parameter resolves, to the argument in its place. -/
def Resolves (rs : Resolvers) (ctx : Resolver.Context) : List Param → List Argument → Prop :=
  List.Forall₂ fun p a => rs.resolve ctx p = .ok a

/-- The first parameter that does not resolve fails or panics like this. -/
def Fails (rs : Resolvers) (ctx : Resolver.Context) (ps : List Param) (f : Failure) : Prop :=
  ∃ earlier p later, ps = earlier ++ p :: later ∧ (∀ q ∈ earlier, ∃ a, rs.resolve ctx q = .ok a) ∧
    (rs.resolve ctx p).contain "resolver" = .error f

variable {rs : Resolvers} {ctx : Resolver.Context} {p : Param} {ps : List Param} {args : List Argument} {f : Failure}

theorem contain_resolveAll_cons : (rs.resolveAll ctx (p :: ps)).contain "resolver" =
    match (rs.resolve ctx p).contain "resolver" with
    | .error f => .error f
    | .ok a => ((rs.resolveAll ctx ps).contain "resolver").map (a :: ·) := by
  simp only [resolveAll]
  cases rs.resolve ctx p with
  | ok a => exact Outcome.contain_map _ _ _
  | failed f => rfl
  | panicked c => rfl

theorem contain_ok {α : Type} {o : Outcome α} {who : String} {a : α} : o.contain who = .ok a ↔ o = .ok a := by
  cases o <;> simp [Outcome.contain]

theorem contain_resolveAll_ok : (rs.resolveAll ctx ps).contain "resolver" = .ok args ↔ rs.Resolves ctx ps args := by
  induction ps generalizing args with
  | nil => cases args <;> simp [resolveAll, Outcome.contain, Resolves]
  | cons p ps ih =>
    rw [contain_resolveAll_cons]
    constructor
    · intro h
      split at h
      · cases h
      next a ha =>
        cases hr : (rs.resolveAll ctx ps).contain "resolver" with
        | error f => simp [hr, Except.map] at h
        | ok rest =>
          rw [hr] at h
          obtain rfl := Except.ok.inj h
          exact .cons (contain_ok.mp ha) (ih.mp hr)
    · intro h
      cases h with
      | cons first rest =>
        rw [contain_ok.mpr first, ih.mpr rest]
        rfl

theorem contain_resolveAll_error : (rs.resolveAll ctx ps).contain "resolver" = .error f ↔ rs.Fails ctx ps f := by
  induction ps with
  | nil => simp [resolveAll, Outcome.contain, Fails]
  | cons p ps ih =>
    rw [contain_resolveAll_cons]
    cases hp : (rs.resolve ctx p).contain "resolver" with
    | error g =>
      constructor
      · intro h
        obtain rfl := Except.error.inj h
        exact ⟨[], p, ps, rfl, by simp, hp⟩
      · rintro ⟨earlier, q, later, split, resolved, hq⟩
        cases earlier with
        | nil =>
          obtain ⟨rfl, rfl⟩ := List.cons.inj split
          exact congrArg Except.error (Except.error.inj (hp.symm.trans hq))
        | cons q' earlier =>
          obtain ⟨rfl, rfl⟩ := List.cons.inj split
          obtain ⟨a, ha⟩ := resolved p List.mem_cons_self
          rw [contain_ok.mpr ha] at hp
          cases hp
    | ok a =>
      have failed : ((rs.resolveAll ctx ps).contain "resolver").map (a :: ·) = .error f ↔
          (rs.resolveAll ctx ps).contain "resolver" = .error f := by
        cases (rs.resolveAll ctx ps).contain "resolver" <;> simp [Except.map]
      rw [failed, ih]
      constructor
      · rintro ⟨earlier, q, later, rfl, resolved, hq⟩
        refine ⟨p :: earlier, q, later, rfl, ?_, hq⟩
        intro x hx
        rcases List.mem_cons.mp hx with rfl | hx
        · exact ⟨a, contain_ok.mp hp⟩
        · exact resolved x hx
      · rintro ⟨earlier, q, later, split, resolved, hq⟩
        cases earlier with
        | nil =>
          obtain ⟨rfl, rfl⟩ := List.cons.inj split
          rw [hp] at hq
          cases hq
        | cons q' earlier =>
          obtain ⟨rfl, rfl⟩ := List.cons.inj split
          exact ⟨earlier, q, later, rfl, fun x hx => resolved x (List.mem_cons_of_mem _ hx), hq⟩

end Resolvers
end FrameServer
