import FrameServer.Proofs.Param.Resolution

namespace FrameServer.Resolvers

/-- What one registration makes of a registry. -/
inductive Registers (rs : Resolvers) (r : Resolver) : Bool → Resolvers → Prop
  | refused (taken : r.name ∈ rs.names) : Registers rs r false rs
  | accepted (free : r.name ∉ rs.names) : Registers rs r true ⟨rs.list ++ [r]⟩

/-- Registrations one after the other, with their answers. -/
inductive Registrations : Resolvers → List Resolver → List Bool → Resolvers → Prop
  | none {rs} : Registrations rs [] [] rs
  | next {rs r added mid more answers after} (first : Registers rs r added mid)
      (rest : Registrations mid more answers after) : Registrations rs (r :: more) (added :: answers) after

/-- The resolvers with the answer yes. -/
def chosen (more : List Resolver) (answers : List Bool) : List Resolver :=
  ((more.zip answers).filter (·.2)).map (·.1)

variable {rs mid after : Resolvers} {r : Resolver} {more : List Resolver} {added : Bool} {answers : List Bool}

theorem registers (rs : Resolvers) (r : Resolver) : Registers rs r (rs.register r).1 (rs.register r).2 := by
  unfold register
  by_cases taken : r.name ∈ rs.names
  · rw [if_pos (List.contains_iff_mem.mpr taken)]
    exact .refused taken
  · rw [if_neg fun h => taken (List.contains_iff_mem.mp h)]
    exact .accepted taken

theorem registrations (rs : Resolvers) (more : List Resolver) :
    Registrations rs more (rs.registerAll more).1 (rs.registerAll more).2 := by
  induction more generalizing rs with
  | nil => exact .none
  | cons r more ih => exact .next (rs.registers r) (ih _)

theorem chosen_cons : chosen (r :: more) (added :: answers) = chosen [r] [added] ++ chosen more answers := by
  cases added <;> rfl

theorem Registers.list (h : Registers rs r added after) : after.list = rs.list ++ chosen [r] [added] := by
  cases h with
  | refused => exact (List.append_nil _).symm
  | accepted => rfl

theorem Registers.distinct (h : Registers rs r added after) (distinct : rs.names.Nodup) : after.names.Nodup := by
  cases h with
  | refused => exact distinct
  | accepted free =>
    rw [names, List.map_append, List.nodup_append]
    refine ⟨distinct, by simp, fun n hn n' hn' same => free ?_⟩
    rw [List.map_singleton, List.mem_singleton] at hn'
    rw [← hn', ← same]
    exact hn

theorem Registrations.list (h : Registrations rs more answers after) :
    after.list = rs.list ++ chosen more answers := by
  induction h with
  | none => exact (List.append_nil _).symm
  | next first rest ih => rw [ih, first.list, List.append_assoc, ← chosen_cons]

theorem Registrations.distinct (h : Registrations rs more answers after) (distinct : rs.names.Nodup) :
    after.names.Nodup := by
  induction h with
  | none => exact distinct
  | next first rest ih => exact ih (first.distinct distinct)

end FrameServer.Resolvers
