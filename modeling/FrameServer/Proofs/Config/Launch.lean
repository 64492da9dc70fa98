import FrameServer.Proofs.Server.Demand

namespace FrameServer.Config

open Server (Demand Wants asked_iff launched play)

variable {c : Config} {a : Application}

/-- What the check looks at: some values must not be zero, and a delimiter that is used must be one byte. -/
structure Usable (c : Config) : Prop where
  positive : ∀ p ∈ c.positives, p.2 ≠ 0
  delimiter : c.framing.strategy = .delimiter → c.framing.delimiter.toNat < 128

theorem FramingPart.delimiterByte_ok {f : FramingPart} :
    (∃ d, f.delimiterByte? = .ok d) ↔ f.delimiter.toNat < 128 := by
  unfold delimiterByte?
  split <;> simp [*]

/-- The check of the values that must not be zero. -/
def nonzero (c : Config) : Except ConfigError Unit :=
  match c.positives.find? (·.2 = 0) with
  | some (field, _) => .error (.invalid field "must be greater than zero")
  | none => .ok ()

theorem nonzero_ok : c.nonzero = .ok () ↔ ∀ p ∈ c.positives, p.2 ≠ 0 := by
  have absent : c.positives.find? (·.2 = 0) = none ↔ ∀ p ∈ c.positives, p.2 ≠ 0 := by
    simp [List.find?_eq_none]
  rw [← absent]
  unfold nonzero
  cases c.positives.find? (·.2 = 0) <;> simp

theorem validate_eq : c.validate =
    if c.framing.strategy = .delimiter then c.framing.delimiterByte?.bind fun _ => c.nonzero else c.nonzero := by
  unfold validate nonzero
  cases c.positives.find? (·.2 = 0) <;> rfl

theorem validate_ok : c.validate = .ok () ↔ c.Usable := by
  rw [validate_eq]
  by_cases delimited : c.framing.strategy = .delimiter
  · rw [if_pos delimited]
    constructor
    · intro checked
      cases byte : c.framing.delimiterByte? with
      | error e =>
        rw [byte] at checked
        cases checked
      | ok d =>
        rw [byte] at checked
        exact ⟨nonzero_ok.mp checked, fun _ => FramingPart.delimiterByte_ok.mp ⟨d, byte⟩⟩
    · intro usable
      obtain ⟨d, byte⟩ := FramingPart.delimiterByte_ok.mpr (usable.delimiter delimited)
      rw [byte]
      exact nonzero_ok.mpr usable.positive
  · rw [if_neg delimited, nonzero_ok]
    exact ⟨fun positive => ⟨positive, fun delimiter => absurd delimiter delimited⟩, fun usable => usable.positive⟩

theorem Usable.framing_ok (usable : c.Usable) : ∃ framing, c.framing? = .ok framing := by
  unfold framing?
  cases strategy : c.framing.strategy with
  | line => exact ⟨_, rfl⟩
  | delimiter =>
    obtain ⟨d, found⟩ := FramingPart.delimiterByte_ok.mpr (usable.delimiter strategy)
    exact ⟨_, by rw [found]; rfl⟩
  | lengthPrefixed => exact ⟨_, rfl⟩

/-- Just what passes the check becomes a server, and its values come there as they are. -/
theorem ofConfig_ok : Application.ofConfig c = .ok a ↔ c.Usable ∧ ∃ framing, c.framing? = .ok framing ∧
    a = { settings := c.settings, framing, handler := Application.handlerOf c.dispatch.mode [.logging],
          chain := .ofList [.logging], eventBuffer := c.events.buffer.toNat } := by
  rw [← validate_ok]
  unfold Application.ofConfig
  cases c.validate with
  | error e => simp [bind, Except.bind]
  | ok u =>
    cases c.framing? with
    | error e => simp [bind, Except.bind]
    | ok framing => simp [bind, Except.bind, pure, Except.pure, eq_comm]

/-- None of what the server is handed is zero. -/
theorem Usable.pos (usable : c.Usable) : 0 < c.server.maxConnections.toNat ∧
    0 < c.server.backpressureCapacity.toNat ∧ 0 < c.keepAlive.sweepIntervalSecs.toNat ∧ 0 < c.events.buffer.toNat := by
  have pos : ∀ p ∈ c.positives, 0 < p.2.toNat := by
    intro p hp
    exact Nat.pos_of_ne_zero fun zero => usable.positive p hp (UInt64.toNat_inj.mp zero)
  simp only [positives, List.forall_mem_cons] at pos
  obtain ⟨connections, capacity, -, -, interval, buffer, -⟩ := pos
  exact ⟨connections, capacity, interval, buffer⟩

/-- What a configuration asks of the runtime until a time. -/
inductive Needs (c : Config) (time : Nat) : Demand → Prop
  | events : Needs c time (.channel c.events.buffer.toNat)
  | frames : Needs c time (.channel c.server.backpressureCapacity.toNat)
  | sweeps (now : Nat) (early : now ≤ time) :
      Needs c time (.ticker (now + 1000 * c.keepAlive.sweepIntervalSecs.toNat)
        (1000 * c.keepAlive.sweepIntervalSecs.toNat))

theorem wants_iff (built : Application.ofConfig c = .ok a) {time : Nat} {d : Demand} :
    Wants a time d ↔ c.Needs time d := by
  obtain ⟨usable, framing, -, same⟩ := ofConfig_ok.mp built
  obtain ⟨-, capacity, -, buffer⟩ := usable.pos
  have events : max a.eventBuffer 1 = c.events.buffer.toNat := by
    rw [same]
    exact Nat.max_eq_left buffer
  have frames : max a.settings.backpressureCapacity 1 = c.server.backpressureCapacity.toNat := by
    rw [same]
    exact Nat.max_eq_left capacity
  have sweeps : a.settings.sweepInterval = 1000 * c.keepAlive.sweepIntervalSecs.toNat := by
    rw [same]
    rfl
  constructor
  · intro wants
    cases wants with
    | events =>
      rw [events]
      exact .events
    | frames =>
      rw [frames]
      exact .frames
    | sweeps now early =>
      rw [sweeps]
      exact .sweeps now early
  · intro needs
    cases needs with
    | events =>
      rw [← events]
      exact .events
    | frames =>
      rw [← frames]
      exact .frames
    | sweeps now early =>
      rw [← sweeps]
      exact .sweeps now early

/-- The limits of the runtime: how much room a channel can have, and how far its clock goes. -/
structure WithinLimits (c : Config) (horizon time : Nat) : Prop where
  events : c.events.buffer.toNat ≤ Demand.maxRoom
  frames : c.server.backpressureCapacity.toNat ≤ Demand.maxRoom
  sweeps : time + 1000 * c.keepAlive.sweepIntervalSecs.toNat < horizon

theorem Needs.positive {time : Nat} {d : Demand} (needs : c.Needs time d) (usable : c.Usable) : d.Positive := by
  obtain ⟨-, capacity, interval, buffer⟩ := usable.pos
  cases needs with
  | events => exact buffer
  | frames => exact capacity
  | sweeps now early => exact Nat.mul_pos (by decide) interval

theorem granted_iff (usable : c.Usable) {horizon time : Nat} :
    (∀ d, c.Needs time d → d.Granted horizon) ↔ c.WithinLimits horizon time := by
  constructor
  · intro granted
    have events := granted _ .events
    have frames := granted _ .frames
    have sweeps := granted _ (.sweeps time (Nat.le_refl _))
    exact ⟨events.2, frames.2, sweeps.2⟩
  · intro within d needs
    have positive := needs.positive usable
    cases needs with
    | events => exact ⟨positive, within.events⟩
    | frames => exact ⟨positive, within.frames⟩
    | sweeps now early =>
      have late := within.sweeps
      exact ⟨positive, by omega⟩

/-- What passes the check becomes a server. -/
theorem Usable.built (usable : c.Usable) : ∃ a, Application.ofConfig c = .ok a := by
  obtain ⟨framing, framed⟩ := usable.framing_ok
  exact ⟨_, ofConfig_ok.mpr ⟨usable, framing, framed, rfl⟩⟩

theorem needs_iff (built : Application.ofConfig c = .ok a) {listening : List Event.Kind} {time : Nat} {d : Demand} :
    (∃ ls t, play a {} ls = some t ∧ t.hub.clock ≤ time ∧ d ∈ launched a listening ls) ↔ c.Needs time d := by
  obtain ⟨usable, framing, -, same⟩ := ofConfig_ok.mp built
  have room : 0 < a.settings.maxConnections := by
    rw [same]
    exact usable.pos.1
  rw [asked_iff room, wants_iff built]

/-- What becomes of a configuration, from its check to the runs of the server. -/
structure Launches (c : Config) : Prop where
  accepted : c.validate = .ok () ↔ c.Usable
  framed : c.validate = .ok () → ∃ framing, c.framing? = .ok framing
  built : c.validate = .ok () ↔ ∃ a, Application.ofConfig c = .ok a
  /-- What is asked of the runtime in runs that take no longer than a time, whoever listens to the events. -/
  asked : ∀ a, Application.ofConfig c = .ok a → ∀ listening time d,
    (∃ ls t, play a {} ls = some t ∧ t.hub.clock ≤ time ∧ d ∈ launched a listening ls) ↔ c.Needs time d
  /-- Nothing is asked for with a zero: on a runtime without limits, all would be granted. -/
  positive : ∀ a, Application.ofConfig c = .ok a → ∀ listening ls t, play a {} ls = some t →
    ∀ d ∈ launched a listening ls, d.Positive
  /-- Within the limits of the runtime everything is granted, in all runs; beyond them, in some run something is not. -/
  granted : ∀ a, Application.ofConfig c = .ok a → ∀ listening horizon time,
    (∀ ls t, play a {} ls = some t → t.hub.clock ≤ time → ∀ d ∈ launched a listening ls, d.Granted horizon) ↔
      c.WithinLimits horizon time

/-- What the check of a configuration is good for, and what it leaves to the runtime. -/
theorem launches (c : Config) : c.Launches := by
  constructor
  · exact validate_ok
  · intro checked
    exact (validate_ok.mp checked).framing_ok
  · rw [validate_ok]
    constructor
    · intro usable
      exact usable.built
    · rintro ⟨a, built⟩
      exact (ofConfig_ok.mp built).1
  · intro a built listening time d
    exact needs_iff built
  · intro a built listening ls t run d hd
    have needs := (needs_iff built).mp ⟨ls, t, run, Nat.le_refl _, hd⟩
    exact needs.positive (ofConfig_ok.mp built).1
  · intro a built listening horizon time
    rw [← granted_iff (ofConfig_ok.mp built).1]
    constructor
    · intro granted d needs
      obtain ⟨ls, t, run, early, hd⟩ := (needs_iff built).mpr needs
      exact granted ls t run early d hd
    · intro granted ls t run early d hd
      exact granted d ((needs_iff built).mp ⟨ls, t, run, early, hd⟩)

/-- The configuration passes the check and becomes a server, and in one of its runs the runtime refuses something. -/
def Fails (c : Config) (horizon : Nat) : Prop :=
  c.validate = .ok () ∧ ∃ a, Application.ofConfig c = .ok a ∧ ∃ ls t, play a {} ls = some t ∧
    ∃ d ∈ launched a Event.Kind.all ls, ¬ d.Granted horizon

theorem fails_of_needs (checked : c.validate = .ok ()) {horizon : Nat} {d : Demand} (needs : c.Needs 0 d)
    (refused : ¬ d.Granted horizon) : c.Fails horizon := by
  obtain ⟨a, built⟩ := (validate_ok.mp checked).built
  obtain ⟨ls, t, run, -, hd⟩ := (needs_iff built).mpr needs
  exact ⟨checked, a, built, ls, t, run, d, hd, refused⟩

/-- In milliseconds, where a clock ends that counts seconds in words with a sign. -/
def wordClock : Nat := 1000 * Nat.pow 2 63

/-- The check knows no limits: not for the room for events, not for the room for frames, and not for the time between
two sweeps. -/
theorem validate_unlimited : Fails { events := { buffer := 9223372036854775808 } } wordClock ∧
    Fails { server := { backpressureCapacity := 9223372036854775808 } } wordClock ∧
    Fails { keepAlive := { sweepIntervalSecs := 18446744073709551615 } } wordClock := by
  refine ⟨?_, ?_, ?_⟩
  · exact fails_of_needs (by decide +kernel) .events (by decide +kernel)
  · exact fails_of_needs (by decide +kernel) .frames (by decide +kernel)
  · exact fails_of_needs (by decide +kernel) (.sweeps 0 (Nat.le_refl 0)) (by decide +kernel)

end FrameServer.Config
