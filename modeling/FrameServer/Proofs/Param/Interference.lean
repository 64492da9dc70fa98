import FrameServer.Proofs.Param.Consultation

namespace FrameServer

def Param.IsCustom (p : Param) : Prop := ∃ tag, p.kind = .custom tag

namespace Resolvers

variable {rs : Resolvers} {ctx : Resolver.Context} {p : Param} {before extra : List Resolver} {r : Resolver}

theorem First.append (first : rs.First p before r) (extra : List Resolver) :
    (⟨rs.list ++ extra⟩ : Resolvers).First p before r := by
  obtain ⟨after, here⟩ := first.here
  exact ⟨⟨after ++ extra, by rw [here, List.append_assoc, List.cons_append]⟩, first.unsupported, first.supported⟩

theorem First.lt_length (first : rs.First p before r) : before.length < rs.list.length := by
  obtain ⟨after, here⟩ := first.here
  rw [here, List.length_append, List.length_cons]
  omega

theorem First.place_lt (first : rs.First p before r) : ∀ s ∈ (rs.consult ctx p).steps, s.place < rs.list.length := by
  have bound := first.lt_length
  intro s hs
  rw [first.consult] at hs
  rcases List.mem_append.mp hs with asked | used
  · obtain ⟨i, hi, rfl⟩ := List.mem_map.mp asked
    have := List.mem_range'_1.mp hi
    simp only [Consultation.place]
    omega
  · obtain rfl := List.mem_singleton.mp used
    exact bound

theorem builtin_first (plain : ¬ p.IsCustom) : ∃ before r, builtin.First p before r := by
  rcases builtin.first_or_none p with unsupported | found
  · exfalso
    cases kind : p.kind with
    | custom tag => exact plain ⟨tag, kind⟩
    | session => simpa [Resolver.session, kind] using unsupported .session (by simp [builtin])
    | field key => simpa [Resolver.field, kind] using unsupported .field (by simp [builtin])
    | body => simpa [Resolver.body, kind] using unsupported .body (by simp [builtin])
    | sessionId => simpa [Resolver.sessionId, kind] using unsupported .sessionId (by simp [builtin])
  · exact found

/-- The built-in resolvers and then as many of `customs` as are accepted. -/
def extended (customs : List Resolver) : Resolvers := (builtin.registerAll customs).2

theorem extended_list (customs : List Resolver) : ∃ extra, extended customs = ⟨builtin.list ++ extra⟩ :=
  ⟨_, congrArg Resolvers.mk (builtin.registrations customs).list⟩

theorem consult_extended (plain : ¬ p.IsCustom) (customs : List Resolver) (ctx : Resolver.Context) :
    (extended customs).consult ctx p = builtin.consult ctx p := by
  obtain ⟨extra, list⟩ := extended_list customs
  obtain ⟨before, r, first⟩ := builtin_first plain
  rw [list, (first.append extra).consult, first.consult]

theorem consult_param (rs : Resolvers) (ctx : Resolver.Context) (p : Param) :
    ∀ s ∈ (rs.consult ctx p).steps, s.param = p := by
  have asked : ∀ k n, ∀ s ∈ asking p k n, s.param = p := by
    intro k n s hs
    obtain ⟨i, -, rfl⟩ := List.mem_map.mp hs
    rfl
  rcases rs.first_or_none p with unsupported | ⟨before, r, first⟩
  · rw [consult_none unsupported]
    exact asked _ _
  · intro s hs
    rw [first.consult] at hs
    rcases List.mem_append.mp hs with hs | used
    · exact asked _ _ s hs
    · obtain rfl := List.mem_singleton.mp used
      rfl

theorem mem_consultAll {ps : List Param} {s : Consultation} (h : s ∈ (rs.consultAll ctx ps).steps) :
    ∃ p ∈ ps, s ∈ (rs.consult ctx p).steps := by
  induction ps with
  | nil => cases h
  | cons p ps ih =>
    rw [consultAll] at h
    rcases (rs.consult ctx p).bind_cases fun a => (rs.consultAll ctx ps).map (a :: ·) with
      ⟨a, -, all⟩ | ⟨f, -, all⟩ | ⟨c, -, all⟩
    · rw [all] at h
      rcases List.mem_append.mp h with first | later
      · exact ⟨p, List.mem_cons_self, first⟩
      · obtain ⟨q, hq, hs⟩ := ih later
        exact ⟨q, List.mem_cons_of_mem _ hq, hs⟩
    · rw [all] at h
      exact ⟨p, List.mem_cons_self, h⟩
    · rw [all] at h
      exact ⟨p, List.mem_cons_self, h⟩

/-- The argument in each place is that of the parameter there. -/
theorem argument_of_ok {ps : List Param} {args : List Argument} {i : Nat} (ok : rs.resolveAll ctx ps = .ok args)
    (there : ps[i]? = some p) : ∃ a, args[i]? = some a ∧ rs.resolve ctx p = .ok a := by
  have resolves : rs.Resolves ctx ps args := contain_resolveAll_ok.mp (contain_ok.mpr ok)
  obtain ⟨inside, rfl⟩ := List.getElem?_eq_some_iff.mp there
  have inside' : i < args.length := resolves.length_eq ▸ inside
  exact ⟨args[i], List.getElem?_eq_getElem inside', resolves.get inside inside'⟩

/-- What custom resolvers can and cannot do to the parameters that are not custom. -/
structure Shielded (customs : List Resolver) (ctx : Resolver.Context) : Prop where
  /-- The built-in resolvers keep their places. -/
  places : ∃ extra, (extended customs).list = builtin.list ++ extra
  /-- Consulted and given is the same as without the others. -/
  same : ∀ p, ¬ p.IsCustom → (extended customs).consult ctx p = builtin.consult ctx p ∧
    (extended customs).resolve ctx p = builtin.resolve ctx p
  sameAll : ∀ ps, (∀ p ∈ ps, ¬ p.IsCustom) → (extended customs).consultAll ctx ps = builtin.consultAll ctx ps
  /-- A resolver past the built-in ones is consulted for custom parameters only. -/
  custom : ∀ ps, ∀ s ∈ ((extended customs).consultAll ctx ps).steps,
    builtin.list.length ≤ s.place → s.param ∈ ps ∧ s.param.IsCustom
  /-- Two sets of custom resolvers that both resolve a list differ on its custom parameters at most. -/
  others : ∀ others ps args args', (extended customs).resolveAll ctx ps = .ok args →
    (extended others).resolveAll ctx ps = .ok args' →
    ∀ (i : Nat) p, ps[i]? = some p → ¬ p.IsCustom → args[i]? = args'[i]?

theorem resolve_extended (plain : ¬ p.IsCustom) (customs : List Resolver) (ctx : Resolver.Context) :
    (extended customs).resolve ctx p = builtin.resolve ctx p := by
  rw [← consult_ending, ← consult_ending, consult_extended plain]

theorem consultAll_congr {rs' : Resolvers} {ps : List Param}
    (same : ∀ p ∈ ps, rs.consult ctx p = rs'.consult ctx p) : rs.consultAll ctx ps = rs'.consultAll ctx ps := by
  induction ps with
  | nil => rfl
  | cons p ps ih =>
    rw [consultAll, consultAll, same p List.mem_cons_self, ih fun q hq => same q (List.mem_cons_of_mem _ hq)]

theorem Shielded.of_customs (customs : List Resolver) (ctx : Resolver.Context) : Shielded customs ctx where
  places := (extended_list customs).imp fun _ h => congrArg Resolvers.list h
  same p plain := ⟨consult_extended plain customs ctx, resolve_extended plain customs ctx⟩
  sameAll ps plain := consultAll_congr fun p hp => consult_extended (plain p hp) customs ctx
  custom ps s hs beyond := by
    obtain ⟨p, hp, hs⟩ := mem_consultAll hs
    obtain rfl := consult_param _ _ _ s hs
    refine ⟨hp, by_contra fun plain => ?_⟩
    rw [consult_extended plain] at hs
    obtain ⟨before, r, first⟩ := builtin_first plain
    exact Nat.not_lt.mpr beyond (first.place_lt s hs)
  others others ps args args' ok ok' i p there plain := by
    obtain ⟨a, here, gives⟩ := argument_of_ok ok there
    obtain ⟨a', here', gives'⟩ := argument_of_ok ok' there
    rw [resolve_extended plain] at gives gives'
    obtain rfl := Outcome.ok.inj (gives.symm.trans gives')
    rw [here, here']

/-- How a registry comes about and how it resolves parameters. -/
structure InOrder (rs : Resolvers) (more : List Resolver) (ctx : Resolver.Context) (ps : List Param) : Prop where
  /-- A name that is taken changes nothing; what is accepted comes last. -/
  registrations : Registrations rs more (rs.registerAll more).1 (rs.registerAll more).2
  accepted : (rs.registerAll more).2.list = rs.list ++ chosen more (rs.registerAll more).1
  distinct : rs.names.Nodup → (rs.registerAll more).2.names.Nodup
  builtin : (extended more).names.Nodup
  shielded : Shielded more ctx
  /-- One argument for each parameter, or the failure of the first parameter that fails. -/
  collects : rs.Collects ctx ps (rs.consultAll ctx ps)
  resolveAll : rs.resolveAll ctx ps = (rs.consultAll ctx ps).ending
  resolve : ∀ p, rs.resolve ctx p = (rs.consult ctx p).ending

/-- Resolvers that are registered after the built-in ones are consulted for custom parameters only, in the order of
their registration. -/
theorem in_order (rs : Resolvers) (more : List Resolver) (ctx : Resolver.Context) (ps : List Param) :
    InOrder rs more ctx ps where
  registrations := rs.registrations more
  accepted := (rs.registrations more).list
  distinct := (rs.registrations more).distinct
  builtin := (builtin.registrations more).distinct (by decide)
  shielded := .of_customs more ctx
  collects := rs.consultAll_collects ctx ps
  resolveAll := (rs.consultAll_ending ctx ps).symm
  resolve p := (rs.consult_ending ctx p).symm

end Resolvers
end FrameServer
