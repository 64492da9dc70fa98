import Mathlib.Algebra.Group.Nat.Defs
import FrameServer.Config.Document

namespace FrameServer

/-- The fields of a record, with its name. A unit and a tuple without items have none. -/
inductive Ron.Value.Holds : Ron.Value → Option String → List (String × Ron.Value) → Prop
  | unit : Holds .unit none []
  | tuple (name : Option String) : Holds (.tuple name []) name []
  | record (name : Option String) (fields : List (String × Ron.Value)) : Holds (.record name fields) name fields

namespace Config

inductive Part
  | server | framing | keepAlive | dispatch | events | log
  deriving DecidableEq, Repr

inductive Key
  | host | port | maxConnections | writeTimeoutSecs | shutdownGraceSecs | dispatchDelayMs | backpressureCapacity
  | strategy | delimiter | maxFrameSize
  | idleTimeoutSecs | sweepIntervalSecs
  | mode
  | buffer
  | level | file
  deriving DecidableEq, Repr

def Part.name : Part → String
  | server => "server"
  | framing => "framing"
  | keepAlive => "keepalive"
  | dispatch => "dispatch"
  | events => "events"
  | log => "log"

/-- The name that a record of the section may have. -/
def Part.type : Part → String
  | server => "ServerConfig"
  | framing => "FramingConfig"
  | keepAlive => "KeepAliveConfig"
  | dispatch => "DispatchConfig"
  | events => "EventsConfig"
  | log => "LogConfig"

def Key.part : Key → Part
  | host | port | maxConnections | writeTimeoutSecs | shutdownGraceSecs | dispatchDelayMs | backpressureCapacity =>
    .server
  | strategy | delimiter | maxFrameSize => .framing
  | idleTimeoutSecs | sweepIntervalSecs => .keepAlive
  | mode => .dispatch
  | buffer => .events
  | level | file => .log

def Key.name : Key → String
  | host => "host"
  | port => "port"
  | maxConnections => "max_connections"
  | writeTimeoutSecs => "write_timeout_secs"
  | shutdownGraceSecs => "shutdown_grace_secs"
  | dispatchDelayMs => "dispatch_delay_ms"
  | backpressureCapacity => "backpressure_capacity"
  | strategy => "strategy"
  | delimiter => "delimiter"
  | maxFrameSize => "max_frame_size"
  | idleTimeoutSecs => "idle_timeout_secs"
  | sweepIntervalSecs => "sweep_interval_secs"
  | mode => "mode"
  | buffer => "buffer"
  | level => "level"
  | file => "file"

/-- The chosen fields of a configuration, and the others of another one. -/
def pick (chosen : Key → Bool) (c d : Config) : Config where
  server := {
    host := if chosen .host then c.server.host else d.server.host
    port := if chosen .port then c.server.port else d.server.port
    maxConnections := if chosen .maxConnections then c.server.maxConnections else d.server.maxConnections
    writeTimeoutSecs := if chosen .writeTimeoutSecs then c.server.writeTimeoutSecs else d.server.writeTimeoutSecs
    shutdownGraceSecs := if chosen .shutdownGraceSecs then c.server.shutdownGraceSecs else d.server.shutdownGraceSecs
    dispatchDelayMs := if chosen .dispatchDelayMs then c.server.dispatchDelayMs else d.server.dispatchDelayMs
    backpressureCapacity :=
      if chosen .backpressureCapacity then c.server.backpressureCapacity else d.server.backpressureCapacity }
  framing := {
    strategy := if chosen .strategy then c.framing.strategy else d.framing.strategy
    delimiter := if chosen .delimiter then c.framing.delimiter else d.framing.delimiter
    maxFrameSize := if chosen .maxFrameSize then c.framing.maxFrameSize else d.framing.maxFrameSize }
  keepAlive := {
    idleTimeoutSecs := if chosen .idleTimeoutSecs then c.keepAlive.idleTimeoutSecs else d.keepAlive.idleTimeoutSecs
    sweepIntervalSecs :=
      if chosen .sweepIntervalSecs then c.keepAlive.sweepIntervalSecs else d.keepAlive.sweepIntervalSecs }
  dispatch := { mode := if chosen .mode then c.dispatch.mode else d.dispatch.mode }
  events := { buffer := if chosen .buffer then c.events.buffer else d.events.buffer }
  log := {
    level := if chosen .level then c.log.level else d.log.level
    file := if chosen .file then c.log.file else d.log.file }

/-- A whole number of so many bits. Only zero has a sign, and the type behind it is the one of the field, if any. -/
def IsWhole (bits n : Nat) (v : Ron.Value) : Prop :=
  ∃ negative type, v = .number (.whole negative n type) ∧ (negative → n = 0) ∧ (type = none ∨ type = some s!"u{bits}")

/-- The values that stand for a field of a configuration. -/
def Key.Means (c : Config) : Key → Ron.Value → Prop
  | host, v => v = .text c.server.host
  | port, v => IsWhole 16 c.server.port.toNat v
  | maxConnections, v => IsWhole 64 c.server.maxConnections.toNat v
  | writeTimeoutSecs, v => IsWhole 64 c.server.writeTimeoutSecs.toNat v
  | shutdownGraceSecs, v => IsWhole 64 c.server.shutdownGraceSecs.toNat v
  | dispatchDelayMs, v => IsWhole 64 c.server.dispatchDelayMs.toNat v
  | backpressureCapacity, v => IsWhole 64 c.server.backpressureCapacity.toNat v
  | strategy, v => v = .word c.framing.strategy.name
  | delimiter, v => v = .char c.framing.delimiter
  | maxFrameSize, v => IsWhole 64 c.framing.maxFrameSize.toNat v
  | idleTimeoutSecs, v => IsWhole 64 c.keepAlive.idleTimeoutSecs.toNat v
  | sweepIntervalSecs, v => IsWhole 64 c.keepAlive.sweepIntervalSecs.toNat v
  | mode, v => v = .word c.dispatch.mode.name
  | buffer, v => IsWhole 64 c.events.buffer.toNat v
  | level, v => v = .text c.log.level
  | file, v => v = .flag c.log.file

/-- Whether a field of that name stands just once and with such a value, or else not at all. -/
def Fields.States (fs : Fields) (key : String) (stated : Bool) (means : Ron.Value → Prop) : Prop :=
  if stated then ∃ v, fs.filter (·.1 = key) = [(key, v)] ∧ means v else fs.filter (·.1 = key) = []

/-- Whether a record may have this name, or none. -/
def Fits (named : Bool) (type : String) (name : Option String) : Prop := name = some type ∨ name = none ∧ named = false

/-- A section that states just the chosen ones of its fields. -/
inductive Part.Stated (c : Config) (chosen : Key → Bool) (named : Bool) (p : Part) : Ron.Value → Prop
  | intro {v : Ron.Value} {name : Option String} {fs : Fields} (holds : v.Holds name fs) (fits : Fits named p.type name)
      (fields : ∀ k : Key, k.part = p → fs.States k.name (chosen k) (k.Means c)) : Part.Stated c chosen named p v

/-- A document that states just the chosen fields. A section may be left out if none of its fields is stated. -/
inductive Stated (c : Config) (chosen : Key → Bool) (named : Bool) : Ron.Value → Prop
  | intro {v : Ron.Value} {name : Option String} {fs : Fields} (holds : v.Holds name fs) (fits : Fits named "Config" name)
      (present : Part → Bool) (parts : ∀ p : Part, fs.States p.name (present p) (p.Stated c chosen named))
      (left : ∀ k : Key, chosen k → present k.part) : Stated c chosen named v

variable {c d : Config} {chosen : Key → Bool} {named stated : Bool} {key type : String} {name : Option String}
  {v : Ron.Value} {fs : Fields} {means : Ron.Value → Prop}

theorem Fields.ofValue?_of_holds (holds : v.Holds name fs) (fits : Fits named type name) :
    Fields.ofValue? named type v = some fs := by
  cases holds with
  | unit =>
    rcases fits with impossible | ⟨-, rfl⟩
    · cases impossible
    · rfl
  | tuple => rcases fits with rfl | ⟨rfl, rfl⟩ <;> simp [Fields.ofValue?]
  | record => rcases fits with rfl | ⟨rfl, rfl⟩ <;> simp [Fields.ofValue?]

theorem Fields.States.take {α : Type} {read : Ron.Value → Option α} {a fallback : α}
    (states : fs.States key stated means) (present : stated → ∀ v, means v → read v = some a)
    (absent : stated = false → a = fallback) : fs.take key read fallback = some a := by
  cases stated with
  | true =>
    obtain ⟨v, found, meant⟩ := states
    rw [Fields.take, found]
    exact present rfl v meant
  | false =>
    have missing : fs.filter (·.1 = key) = [] := states
    rw [Fields.take, missing, absent rfl]

/-- A field has the stated value, or the one that is there without it. -/
theorem Fields.States.field {α : Type} {read : Ron.Value → Option α} {a fallback : α}
    (states : fs.States key stated means) (reads : ∀ v, means v → read v = some a) :
    fs.take key read fallback = some (if stated then a else fallback) := by
  apply states.take
  · intro present v meant
    rw [if_pos present]
    exact reads v meant
  · intro absent
    simp [absent]

/-- Among fields of different names each one is stated just where it is listed. -/
theorem Fields.states_map {α κ : Type} [DecidableEq κ] {name : κ → String} (inj : Function.Injective name)
    {place : α → κ} (value : α → Ron.Value) {items : List α} (once : (items.map place).Nodup) (k : κ) (means : Ron.Value → Prop)
    (each : ∀ a ∈ items, place a = k → means (value a)) :
    Fields.States (items.map fun a => (name (place a), value a)) (name k) (k ∈ items.map place) means := by
  induction items with
  | nil => rfl
  | cons a items ih =>
    obtain ⟨new, once⟩ := List.nodup_cons.mp once
    have further := ih once fun b mem => each b (List.mem_cons_of_mem a mem)
    by_cases here : place a = k
    · have gone : k ∉ items.map place := by rwa [← here]
      have others : (items.map fun a => (name (place a), value a)).filter (·.1 = name k) = [] := by
        simpa [Fields.States, gone] using further
      simp only [Fields.States, here, List.map_cons, List.mem_cons, true_or, decide_true, if_true]
      exact ⟨value a, by simp [others], each a List.mem_cons_self here⟩
    · have apart : name (place a) ≠ name k := fun same => here (inj same)
      simpa [Fields.States, apart, Ne.symm here] using further

theorem IsWhole.read {bits n : Nat} (whole : IsWhole bits n v) (fits : n < 2 ^ bits) : whole? bits v = some n := by
  obtain ⟨negative, type, rfl, zero, typed⟩ := whole
  exact if_pos ⟨fits, zero, typed⟩

theorem IsWhole.uint64 {n : UInt64} (whole : IsWhole 64 n.toNat v) : uint64? v = some n := by
  rw [uint64?, whole.read n.toNat_lt, Option.map_some, UInt64.ofNat_toNat]

theorem IsWhole.uint16 {n : UInt16} (whole : IsWhole 16 n.toNat v) : uint16? v = some n := by
  rw [uint16?, whole.read n.toNat_lt, Option.map_some, UInt16.ofNat_toNat]

theorem strategy?_name (s : Strategy) : strategy? (.word s.name) = some s := by cases s <;> rfl

theorem mode?_name (m : Mode) : mode? (.word m.name) = some m := by cases m <;> rfl

theorem Part.Stated.server (stated : Part.server.Stated c chosen named v) :
    ServerPart.over? named d.server v = some (c.pick chosen d).server := by
  obtain @⟨name, fs, holds, fits, states⟩ := stated
  have found : Fields.ofValue? named "ServerConfig" v = some fs := Fields.ofValue?_of_holds holds fits
  have host : fs.take "host" text? d.server.host = some (if chosen .host then c.server.host else d.server.host) :=
    (states .host rfl).field (by rintro _ rfl; rfl)
  have port : fs.take "port" uint16? d.server.port = some (if chosen .port then c.server.port else d.server.port) :=
    (states .port rfl).field fun v meant => meant.uint16
  have maxConnections : fs.take "max_connections" uint64? d.server.maxConnections = _ :=
    (states .maxConnections rfl).field fun v meant => meant.uint64
  have writeTimeoutSecs : fs.take "write_timeout_secs" uint64? d.server.writeTimeoutSecs = _ :=
    (states .writeTimeoutSecs rfl).field fun v meant => meant.uint64
  have shutdownGraceSecs : fs.take "shutdown_grace_secs" uint64? d.server.shutdownGraceSecs = _ :=
    (states .shutdownGraceSecs rfl).field fun v meant => meant.uint64
  have dispatchDelayMs : fs.take "dispatch_delay_ms" uint64? d.server.dispatchDelayMs = _ :=
    (states .dispatchDelayMs rfl).field fun v meant => meant.uint64
  have backpressureCapacity : fs.take "backpressure_capacity" uint64? d.server.backpressureCapacity = _ :=
    (states .backpressureCapacity rfl).field fun v meant => meant.uint64
  simp only [ServerPart.over?, found, host, port, maxConnections, writeTimeoutSecs, shutdownGraceSecs, dispatchDelayMs,
    backpressureCapacity, Option.bind_eq_bind, Option.bind_some, pick]
  rfl

theorem Part.Stated.framing (stated : Part.framing.Stated c chosen named v) :
    FramingPart.over? named d.framing v = some (c.pick chosen d).framing := by
  obtain @⟨name, fs, holds, fits, states⟩ := stated
  have found : Fields.ofValue? named "FramingConfig" v = some fs := Fields.ofValue?_of_holds holds fits
  have strategy : fs.take "strategy" strategy? d.framing.strategy = _ :=
    (states .strategy rfl).field (by rintro _ rfl; exact strategy?_name _)
  have delimiter : fs.take "delimiter" char? d.framing.delimiter = _ :=
    (states .delimiter rfl).field (by rintro _ rfl; rfl)
  have maxFrameSize : fs.take "max_frame_size" uint64? d.framing.maxFrameSize = _ :=
    (states .maxFrameSize rfl).field fun v meant => meant.uint64
  simp only [FramingPart.over?, found, strategy, delimiter, maxFrameSize, Option.bind_eq_bind, Option.bind_some, pick]
  rfl

theorem Part.Stated.keepAlive (stated : Part.keepAlive.Stated c chosen named v) :
    KeepAlivePart.over? named d.keepAlive v = some (c.pick chosen d).keepAlive := by
  obtain @⟨name, fs, holds, fits, states⟩ := stated
  have found : Fields.ofValue? named "KeepAliveConfig" v = some fs := Fields.ofValue?_of_holds holds fits
  have idleTimeoutSecs : fs.take "idle_timeout_secs" uint64? d.keepAlive.idleTimeoutSecs = _ :=
    (states .idleTimeoutSecs rfl).field fun v meant => meant.uint64
  have sweepIntervalSecs : fs.take "sweep_interval_secs" uint64? d.keepAlive.sweepIntervalSecs = _ :=
    (states .sweepIntervalSecs rfl).field fun v meant => meant.uint64
  simp only [KeepAlivePart.over?, found, idleTimeoutSecs, sweepIntervalSecs, Option.bind_eq_bind, Option.bind_some,
    pick]
  rfl

theorem Part.Stated.dispatch (stated : Part.dispatch.Stated c chosen named v) :
    DispatchPart.over? named d.dispatch v = some (c.pick chosen d).dispatch := by
  obtain @⟨name, fs, holds, fits, states⟩ := stated
  have found : Fields.ofValue? named "DispatchConfig" v = some fs := Fields.ofValue?_of_holds holds fits
  have mode : fs.take "mode" mode? d.dispatch.mode = _ := (states .mode rfl).field (by rintro _ rfl; exact mode?_name _)
  simp only [DispatchPart.over?, found, mode, Option.bind_eq_bind, Option.bind_some, pick]
  rfl

theorem Part.Stated.events (stated : Part.events.Stated c chosen named v) :
    EventsPart.over? named d.events v = some (c.pick chosen d).events := by
  obtain @⟨name, fs, holds, fits, states⟩ := stated
  have found : Fields.ofValue? named "EventsConfig" v = some fs := Fields.ofValue?_of_holds holds fits
  have buffer : fs.take "buffer" uint64? d.events.buffer = _ := (states .buffer rfl).field fun v meant => meant.uint64
  simp only [EventsPart.over?, found, buffer, Option.bind_eq_bind, Option.bind_some, pick]
  rfl

theorem Part.Stated.log (stated : Part.log.Stated c chosen named v) :
    LogPart.over? named d.log v = some (c.pick chosen d).log := by
  obtain @⟨name, fs, holds, fits, states⟩ := stated
  have found : Fields.ofValue? named "LogConfig" v = some fs := Fields.ofValue?_of_holds holds fits
  have level : fs.take "level" text? d.log.level = _ := (states .level rfl).field (by rintro _ rfl; rfl)
  have file : fs.take "file" flag? d.log.file = _ := (states .file rfl).field (by rintro _ rfl; rfl)
  simp only [LogPart.over?, found, level, file, Option.bind_eq_bind, Option.bind_some, pick]
  rfl

/-- What a document states is laid over a configuration, and the rest of that one stays. -/
theorem Stated.over? (states : Stated c chosen named v) (d : Config) :
    Config.over? named d v = some (c.pick chosen d) := by
  obtain @⟨name, fs, holds, fits, present, parts, left⟩ := states
  have found : Fields.ofValue? named "Config" v = some fs := Fields.ofValue?_of_holds holds fits
  have absent (k : Key) (gone : present k.part = false) : chosen k = false := by
    refine Bool.eq_false_iff.mpr fun stated => ?_
    rw [left k stated] at gone
    cases gone
  have server : fs.take "server" (ServerPart.over? named d.server) d.server = some (c.pick chosen d).server := by
    refine (parts .server).take (fun _ v stated => stated.server) fun gone => ?_
    simp only [pick, absent .host gone, absent .port gone, absent .maxConnections gone, absent .writeTimeoutSecs gone,
      absent .shutdownGraceSecs gone, absent .dispatchDelayMs gone, absent .backpressureCapacity gone,
      Bool.false_eq_true, if_false]
  have framing : fs.take "framing" (FramingPart.over? named d.framing) d.framing = some (c.pick chosen d).framing := by
    refine (parts .framing).take (fun _ v stated => stated.framing) fun gone => ?_
    simp only [pick, absent .strategy gone, absent .delimiter gone, absent .maxFrameSize gone, Bool.false_eq_true,
      if_false]
  have keepAlive : fs.take "keepalive" (KeepAlivePart.over? named d.keepAlive) d.keepAlive =
      some (c.pick chosen d).keepAlive := by
    refine (parts .keepAlive).take (fun _ v stated => stated.keepAlive) fun gone => ?_
    simp only [pick, absent .idleTimeoutSecs gone, absent .sweepIntervalSecs gone, Bool.false_eq_true, if_false]
  have dispatch : fs.take "dispatch" (DispatchPart.over? named d.dispatch) d.dispatch =
      some (c.pick chosen d).dispatch := by
    refine (parts .dispatch).take (fun _ v stated => stated.dispatch) fun gone => ?_
    simp only [pick, absent .mode gone, Bool.false_eq_true, if_false]
  have events : fs.take "events" (EventsPart.over? named d.events) d.events = some (c.pick chosen d).events := by
    refine (parts .events).take (fun _ v stated => stated.events) fun gone => ?_
    simp only [pick, absent .buffer gone, Bool.false_eq_true, if_false]
  have log : fs.take "log" (LogPart.over? named d.log) d.log = some (c.pick chosen d).log := by
    refine (parts .log).take (fun _ v stated => stated.log) fun gone => ?_
    simp only [pick, absent .level gone, absent .file gone, Bool.false_eq_true, if_false]
  simp only [Config.over?, found, server, framing, keepAlive, dispatch, events, log, Option.bind_eq_bind,
    Option.bind_some]
  rfl

end Config
end FrameServer
