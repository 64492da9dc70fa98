import Mathlib.Data.List.Forall2
import FrameServer.Param.Basic

namespace FrameServer.Param

/-- What is wrong with an argument of a parameter. -/
inductive Against (p : Param) : Argument → List String → Prop
  | missing (required : p.required = true) : Against p .absent ["must not be null"]
  | spared (optional : p.required = false) : Against p .absent []
  | session (id : SessionId) : Against p (.session id) []
  | sessionId (id : SessionId) : Against p (.sessionId id) []
  | unchecked (v : Typed) (free : p.check? = none) : Against p (.value v) []
  | checked (v : Typed) (c : Check) (check : p.check? = some c) (fits : c.shape = v.shape) :
      Against p (.value v) (c.violations v.datum)
  | mistyped (v : Typed) (c : Check) (check : p.check? = some c) (other : c.shape ≠ v.shape) :
      Against p (.value v) ["has an unexpected type"]

/-- The faults of all arguments, each with the name of its parameter, in the order of the parameters. -/
inductive Reports : List Param → List Argument → List String → Prop
  | nil : Reports [] [] []
  | cons {p : Param} {a : Argument} {ps : List Param} {args : List Argument} {faults more : List String}
      (first : Against p a faults) (rest : Reports ps args more) :
      Reports (p :: ps) (a :: args) (faults.map (fun m => p.name ++ ": " ++ m) ++ more)

/-- An argument that a parameter takes. -/
structure Admits (p : Param) (a : Argument) : Prop where
  present : p.required = true → a ≠ .absent
  sound : ∀ v c, a = .value v → p.check? = some c → c.shape = v.shape ∧ c.violations v.datum = []

variable {p : Param} {a : Argument} {ps : List Param} {args : List Argument} {faults errors : List String}

theorem against_total (p : Param) (a : Argument) : ∃ faults, Against p a faults := by
  cases a with
  | absent =>
    cases hr : p.required with
    | true => exact ⟨_, .missing hr⟩
    | false => exact ⟨_, .spared hr⟩
  | session id => exact ⟨_, .session id⟩
  | sessionId id => exact ⟨_, .sessionId id⟩
  | value v =>
    cases hc : p.check? with
    | none => exact ⟨_, .unchecked v hc⟩
    | some c =>
      by_cases fits : c.shape = v.shape
      · exact ⟨_, .checked v c hc fits⟩
      · exact ⟨_, .mistyped v c hc fits⟩

theorem Against.violations (h : Against p a faults) :
    p.violations (some a) = faults.map fun m => p.name ++ ": " ++ m := by
  cases h with
  | missing required =>
    simp only [Param.violations, required, if_true, List.map_cons, List.map_nil, String.append_assoc]
    rfl
  | spared optional => simp [Param.violations, optional]
  | session id => rfl
  | sessionId id => rfl
  | unchecked v free => simp [Param.violations, check, free]
  | checked v c hc fits => simp [Param.violations, check, hc, fits]
  | mistyped v c hc other => simp [Param.violations, check, hc, other]

theorem Against.nil_iff (h : Against p a faults) : faults = [] ↔ Admits p a := by
  cases h with
  | missing required => simpa using fun admits : Admits p .absent => admits.present required rfl
  | spared optional =>
    have present : p.required = true → Argument.absent ≠ .absent := by simp [optional]
    simpa using Admits.mk present (by simp)
  | session id => simpa using Admits.mk (by simp) (by simp)
  | sessionId id => simpa using Admits.mk (by simp) (by simp)
  | unchecked v free => simpa using Admits.mk (by simp) (by simp [free])
  | checked v c hc fits =>
    constructor
    · intro none
      refine ⟨by simp, fun v' c' same hc' => ?_⟩
      obtain rfl := Argument.value.inj same
      obtain rfl := Option.some.inj (hc.symm.trans hc')
      exact ⟨fits, none⟩
    · intro admits
      exact (admits.sound v c rfl hc).2
  | mistyped v c hc other => simpa using fun admits : Admits p (.value v) => other (admits.sound v c rfl hc).1

theorem reports_total (h : args.length = ps.length) : ∃ errors, Reports ps args errors := by
  induction ps generalizing args with
  | nil =>
    obtain rfl := List.length_eq_zero_iff.mp h
    exact ⟨[], .nil⟩
  | cons p ps ih =>
    cases args with
    | nil => simp at h
    | cons a args =>
      obtain ⟨faults, first⟩ := against_total p a
      obtain ⟨more, rest⟩ := ih (Nat.succ.inj h)
      exact ⟨_, .cons first rest⟩

/-- The faults that are collected from the arguments are those that the cases tell. -/
theorem Reports.allViolations (h : Reports ps args errors) : Param.allViolations ps args = errors := by
  induction h with
  | nil => rfl
  | cons first rest ih => simp only [Param.allViolations, List.head?_cons, List.tail_cons, first.violations, ih]

theorem Reports.nil_iff (h : Reports ps args errors) : errors = [] ↔ List.Forall₂ Admits ps args := by
  induction h with
  | nil => simp
  | cons first rest ih =>
    rw [List.append_eq_nil_iff, List.map_eq_nil_iff, first.nil_iff, ih, List.forall₂_cons]

end FrameServer.Param
