import FrameServer.Proofs.Framing.Reading

namespace FrameServer

/-- The same bytes, none of them searched. -/
def Backlog.rewound (b : Backlog) : Backlog := { b with scanned := 0 }

namespace Framing

/-- What can be done with a buffer: more bytes come in, or a message is taken, before or after the end of the
stream. -/
inductive Operation
  | feed (chunk : Bytes)
  | decode
  | decodeEof
  deriving DecidableEq, Repr

variable (f : Framing)

/-- What an operation answers, unless it only brings bytes, and the buffer after it. -/
def operate (b : Backlog) : Operation → Option Taken × Backlog
  | .feed chunk => (none, b.feed chunk)
  | .decode => (some (f.decode b).1, (f.decode b).2)
  | .decodeEof => (some (f.decodeEof b).1, (f.decodeEof b).2)

def operateAll (b : Backlog) (ops : List Operation) : Backlog := ops.foldl (fun b op => (f.operate b op).2) b

/-- The answers to operations and the bytes left after each, if the buffer is changed by `before` ahead of each. -/
def answers (before : Backlog → Backlog) (b : Backlog) : List Operation → List (Option Taken × Bytes)
  | [] => []
  | op :: ops =>
    let r := f.operate (before b) op
    (r.1, r.2.bytes) :: answers before r.2 ops

variable {f} {b b' : Backlog} {stop : UInt8}

theorem decodeEof_resume (h : f.Searched b) : f.decodeEof b = f.decodeEof b.rewound := by
  have same : f.decode b = f.decode b.rewound := decode_resume f b h
  simp only [decodeEof, same]

theorem searched_decode (h : f.Searched b) : f.Searched (f.decode b).2 := by
  have attempt := decode_attempt f b h
  generalize f.decode b = r at attempt ⊢
  cases attempt with
  | message m rest => exact searched_fresh f rest
  | more b' same searched => exact searched
  | failed e => exact searched_fresh f b.bytes

section Marked

variable (marked : f.kind.terminator? = some stop)
include marked

theorem searched_iff :
    f.Searched b ↔ b.scanned ≤ b.bytes.length ∧ b.scanned ≤ f.max ∧ stop ∉ b.bytes.take b.scanned := by
  simp only [Searched, marked]

/-- What comes before a terminator is all that may be changed of what the search gives. -/
theorem decode_eq_takeUntil : ∃ strip : Bytes → Bytes, ∀ b, f.decode b =
    ((takeUntil stop f.max b).1.map (·.map strip), (takeUntil stop f.max b).2) := by
  cases hk : f.kind with
  | line =>
    simp only [hk, Kind.terminator?, Option.some.injEq] at marked
    subst marked
    refine ⟨stripCr, fun b => ?_⟩
    simp only [decode, hk]
    rcases takeUntil lf f.max b with ⟨_ | _ | _, _⟩ <;> rfl
  | delimiter d =>
    simp only [hk, Kind.terminator?, Option.some.injEq] at marked
    subst marked
    refine ⟨id, fun b => ?_⟩
    simp only [decode, hk]
    rcases takeUntil d f.max b with ⟨_ | _ | _, _⟩ <;> rfl
  | lengthPrefixed => simp [hk, Kind.terminator?] at marked

/-- An attempt that needs more bytes has searched all there are; any other one leaves nothing searched. -/
theorem decode_scanned (h : f.Searched b) :
    (f.decode b).1 = .ok none ∧ (f.decode b).2 = ⟨b.bytes, b.bytes.length⟩ ∨
      (f.decode b).1 ≠ .ok none ∧ (f.decode b).2.scanned = 0 := by
  obtain ⟨strip, same⟩ := decode_eq_takeUntil marked
  rw [decode_resume f b h, same]
  rcases takeUntil_cases stop f.max b.bytes with ⟨p, rest, -, -, -, found⟩ | ⟨-, -, overlong⟩ | ⟨-, -, missing⟩
  · simp [found, Except.map]
  · simp [overlong, Except.map]
  · simp [missing, Except.map]

theorem leftover_scanned : (f.leftover b).2.scanned = 0 := by
  cases hk : f.kind with
  | line =>
    simp only [leftover, hk]
    split <;> rfl
  | delimiter d => simp only [leftover, hk]
  | lengthPrefixed => simp [hk, Kind.terminator?] at marked

theorem decodeEof_scanned (h : f.Searched b) : (f.decodeEof b).2.scanned = 0 := by
  unfold decodeEof
  split
  next b' _ => exact leftover_scanned marked
  next r goesOn =>
    rcases decode_scanned marked h with ⟨waits, -⟩ | ⟨-, fresh⟩
    · exact (goesOn _ (Prod.ext waits rfl)).elim
    · exact fresh

/-- Every operation keeps the searched bytes free of terminators. -/
theorem searched_operate (h : f.Searched b) (op : Operation) : f.Searched (f.operate b op).2 := by
  have fresh {c : Backlog} (none : c.scanned = 0) : f.Searched c := by
    rw [searched_iff marked, none]
    simp
  cases op with
  | feed chunk => exact searched_feed f b chunk h
  | decode => exact searched_decode h
  | decodeEof => exact fresh (decodeEof_scanned marked h)

theorem searched_operateAll (ops : List Operation) (h : f.Searched b) : f.Searched (f.operateAll b ops) := by
  induction ops generalizing b with
  | nil => exact h
  | cons op ops ih => exact ih (searched_operate marked h op)

/-- With the same bytes in both, it does not matter whether the search in one resumes. -/
theorem answers_rewound (ops : List Operation) (h : f.Searched b) (same : b.bytes = b'.bytes) :
    f.answers id b ops = f.answers Backlog.rewound b' ops := by
  induction ops generalizing b b' with
  | nil => rfl
  | cons op ops ih =>
    have rewound : b'.rewound = b.rewound := by simp [Backlog.rewound, same]
    have further := searched_operate marked h op
    have step : (f.operate b op).1 = (f.operate b.rewound op).1 ∧
        (f.operate b op).2.bytes = (f.operate b.rewound op).2.bytes := by
      cases op with
      | feed chunk => exact ⟨rfl, rfl⟩
      | decode =>
        have resumed : f.decode b = f.decode b.rewound := decode_resume f b h
        simp only [operate, resumed, and_self]
      | decodeEof =>
        have resumed : f.decodeEof b = f.decodeEof b.rewound := decodeEof_resume h
        simp only [operate, resumed, and_self]
    simp only [answers, id_eq, rewound]
    rw [step.1, step.2, ih further step.2]

end Marked

/-- What a buffer says of the search for a terminator that resumes in it. -/
structure Resumes (f : Framing) (stop : UInt8) (b : Backlog) : Prop where
  within : b.scanned ≤ b.bytes.length
  limited : b.scanned ≤ f.max
  clear : stop ∉ b.bytes.take b.scanned
  waits : (f.decode b).1 = .ok none → (f.decode b).2.scanned = (f.decode b).2.bytes.length
  returns : (f.decode b).1 ≠ .ok none → (f.decode b).2.scanned = 0
  ends : (f.decodeEof b).2.scanned = 0
  decode : f.decode b = f.decode b.rewound
  decodeEof : f.decodeEof b = f.decodeEof b.rewound

/-- Whatever was done with a buffer that was empty at first, the search in it may resume where it does: every
attempt to take a message gives what it would give if the search began anew, and leaves the same buffer. -/
theorem search_resumes (f : Framing) (stop : UInt8) (marked : f.kind.terminator? = some stop) (ops : List Operation) :
    f.Resumes stop (f.operateAll {} ops) ∧ f.answers id {} ops = f.answers Backlog.rewound {} ops := by
  have empty : f.Searched {} := searched_fresh f []
  have searched : f.Searched (f.operateAll {} ops) := searched_operateAll marked ops empty
  have scanned := decode_scanned marked searched
  refine ⟨?_, answers_rewound marked ops empty rfl⟩
  obtain ⟨within, limited, clear⟩ := (searched_iff marked).mp searched
  refine ⟨within, limited, clear, ?_, ?_, decodeEof_scanned marked searched, decode_resume f _ searched,
    decodeEof_resume searched⟩
  · intro waits
    rcases scanned with ⟨-, all⟩ | ⟨returns, -⟩
    · rw [all]
    · exact absurd waits returns
  · intro returns
    rcases scanned with ⟨waits, -⟩ | ⟨-, fresh⟩
    · exact absurd waits returns
    · exact fresh

/-- A line of at most three bytes that trickles in, one that is too long, and what is left of it at the end. -/
def trickle : List Operation :=
  [.feed [97, 98], .decode, .feed [cr], .decode, .feed [lf, 99, 100], .decode, .decode, .feed [101, 102], .decode,
    .decodeEof, .feed [lf], .decodeEof]

theorem search_resumes_trickle : Kind.terminator? .line = some lf ∧
    (Framing.operateAll ⟨.line, 3⟩ {} (trickle.take 4)).scanned = 3 ∧
    Framing.Resumes ⟨.line, 3⟩ lf (Framing.operateAll ⟨.line, 3⟩ {} (trickle.take 7)) ∧
    (Framing.answers ⟨.line, 3⟩ Backlog.rewound {} trickle).filterMap Prod.fst =
      [.ok none, .ok none, .ok (some [97, 98]), .ok none, .error (.tooLarge 4 3), .error (.tooLarge 4 3),
        .error (.tooLarge 5 3)] := by
  have resumes := search_resumes ⟨.line, 3⟩ lf rfl
  refine ⟨rfl, by decide, (resumes _).1, ?_⟩
  rw [← (resumes trickle).2]
  rfl

end Framing
end FrameServer
