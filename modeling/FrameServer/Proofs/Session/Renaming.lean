import Mathlib.Logic.Equiv.Basic
import FrameServer.Proofs.Session.Sending
import FrameServer.Proofs.Session.Wire

namespace FrameServer

variable {σ : Ticket → Ticket}

namespace Lane

def renamed (σ : Ticket → Ticket) (l : Lane) : Lane :=
  { l with
    turn := l.turn.map fun p => (σ p.1, p.2)
    queue := l.queue.map fun p => (σ p.1, p.2)
    results := l.results.map fun p => (σ p.1, p.2) }

def Move.renamed (σ : Ticket → Ticket) : Move → Move
  | request t job => request (σ t) job
  | abandon t => abandon (σ t)
  | m => m

theorem renamed_start (l : Lane) (t : Ticket) (job : Job) :
    (l.start t job).renamed σ = (l.renamed σ).start (σ t) job := by
  cases job with
  | shutdown => rfl
  | message m =>
    have released : (l.renamed σ).released = l.released := rfl
    have framing : (l.renamed σ).framing = l.framing := rfl
    simp only [start, released, framing]
    split
    · rfl
    · split <;> rfl

/-- Whoever leaves the queue leaves it under either name. -/
theorem filter_renamed {α : Type} (one : σ.Injective) (t : Ticket) (queue : List (Ticket × α)) :
    (queue.map fun p => (σ p.1, p.2)).filter (·.1 ≠ σ t) = (queue.filter (·.1 ≠ t)).map fun p => (σ p.1, p.2) := by
  rw [List.filter_map]
  congr 1
  refine List.filter_congr fun p _ => ?_
  simp [one.eq_iff]

theorem step_renamed (one : σ.Injective) (l : Lane) (m : Move) :
    (l.renamed σ).step (m.renamed σ) = (l.step m).map (·.renamed σ) := by
  cases m with
  | request t job => simp [step, renamed, Move.renamed]
  | grant =>
    cases turn : l.turn with
    | some p => simp [step, renamed, Move.renamed, turn]
    | none =>
      cases queue : l.queue with
      | nil => simp [step, renamed, Move.renamed, turn, queue]
      | cons p rest =>
        have started := renamed_start (σ := σ) { l with queue := rest } p.1 p.2
        simp only [renamed, turn, Option.map_none] at started
        simp [step, renamed, Move.renamed, turn, queue, started]
  | accept n =>
    cases turn : l.turn with
    | none => simp [step, renamed, Move.renamed, turn]
    | some p =>
      by_cases fits : 0 < n ∧ n ≤ p.2.length
      · simp [step, renamed, Move.renamed, turn, fits]
      · simp [step, renamed, Move.renamed, turn, fits]
  | finish | fail reason =>
    cases turn : l.turn with
    | none => simp [step, renamed, Move.renamed, turn]
    | some p =>
      obtain ⟨t, _ | ⟨b, bs⟩⟩ := p
      · simp [step, renamed, Move.renamed, turn, settleTicket]
      · simp [step, renamed, Move.renamed, turn, settleTicket]
  | abandon t =>
    cases turn : l.turn with
    | none => simp only [step, renamed, Move.renamed, turn, filter_renamed one, Option.map_some, Option.map_none]
    | some p =>
      by_cases same : p.1 = t
      · simp [step, renamed, Move.renamed, turn, same]
      · simp only [step, renamed, Move.renamed, turn, filter_renamed one, Option.map_some, one.eq_iff, same, if_false]

theorem result?_renamed (one : σ.Injective) (l : Lane) (t : Ticket) : (l.renamed σ).result? (σ t) = l.result? t := by
  unfold result? renamed
  dsimp only
  induction l.results with
  | nil => rfl
  | cons p rest ih =>
    rw [List.map_cons, List.lookup_cons, List.lookup_cons, ih]
    by_cases same : t = p.1
    · simp [same]
    · simp only [beq_eq_false_iff_ne.mpr same, beq_eq_false_iff_ne.mpr (one.ne same)]

/-- Other names for tickets that the lane never heard of change nothing. -/
theorem renamed_eq_self {l : Lane} (fixed : ∀ t, l.Names t → σ t = t) : l.renamed σ = l := by
  have turn : (l.turn.map fun p => (σ p.1, p.2)) = l.turn := by
    cases turn : l.turn with
    | none => rfl
    | some p => rw [Option.map_some, fixed p.1 (.inr (.inl ⟨p.2, turn⟩))]
  have queue : (l.queue.map fun p => (σ p.1, p.2)) = l.queue :=
    List.map_congr_left (fun p hp => by rw [fixed p.1 (.inl ⟨p.2, hp⟩)]; rfl) |>.trans (List.map_id _)
  have results : (l.results.map fun p => (σ p.1, p.2)) = l.results :=
    List.map_congr_left (fun p hp => by rw [fixed p.1 (.inr (.inr ⟨p.2, hp⟩))]; rfl) |>.trans (List.map_id _)
  rw [renamed, turn, queue, results]

end Lane

namespace Session

def renamed (σ : Ticket → Ticket) (s : Session) : Session := { s with lane := s.lane.renamed σ }

def Move.renamed (σ : Ticket → Ticket) : Move → Move
  | send t m => send (σ t) m
  | closeAsync t => closeAsync (σ t)
  | lane m => lane (m.renamed σ)
  | m => m

variable {s s' : Session} {p : Pipe}

/-- What the lane does under other tickets, the session does. -/
theorem map_renamed {l l' : Option Lane} (same : l' = l.map (·.renamed σ)) (s : Session) :
    l'.map ({ s.renamed σ with lane := · }) = (l.map ({ s with lane := · })).map (·.renamed σ) := by
  rw [same, Option.map_map, Option.map_map]
  rfl

theorem step_renamed (one : σ.Injective) (s : Session) (m : Move) :
    (s.renamed σ).step (m.renamed σ) = (s.step m).map (·.renamed σ) := by
  cases m with
  | send t msg =>
    by_cases closed : s.closed = true
    · simp [step, renamed, Move.renamed, closed, Lane.settleTicket, Lane.renamed]
    · have same : (s.renamed σ).closed = s.closed := rfl
      simp only [step, Move.renamed]
      rw [same, if_neg closed, if_neg closed]
      exact map_renamed (Lane.step_renamed one s.lane (.request t (.message msg))) s
  | closeAsync t => exact map_renamed (Lane.step_renamed one s.lane (.request t .shutdown)) { s with closed := true }
  | lane m => exact map_renamed (Lane.step_renamed one s.lane m) s
  | closeIdle =>
    by_cases closed : s.closed = true
    · simp [step, closeIdle, renamed, Move.renamed, closed]
    · simp [step, closeIdle, close, renamed, Move.renamed, closed]
  | _ => rfl

theorem play_renamed (one : σ.Injective) (s : Session) (ms : List Move) :
    (s.renamed σ).play (ms.map (·.renamed σ)) = (s.play ms).map (·.renamed σ) := by
  induction ms generalizing s with
  | nil => rfl
  | cons m ms ih =>
    simp only [List.map_cons, play, step_renamed one s m]
    cases s.step m with
    | none => rfl
    | some s' => exact ih s'

/-- Under other tickets the same move is ready. It has no ticket of its own. -/
theorem ready?_renamed (s : Session) (p : Pipe) : (s.renamed σ).ready? p = s.ready? p := by
  unfold ready? room
  cases turn : s.lane.turn with
  | none => simp [renamed, Lane.renamed, turn]
  | some q =>
    obtain ⟨t, _ | ⟨b, bs⟩⟩ := q
    · simp [renamed, Lane.renamed, turn]
    · simp [renamed, Lane.renamed, turn]

theorem renamed_of_ready {m : Lane.Move} (ready : s.ready? p = some m) : m.renamed σ = m := by
  obtain ⟨s', -, ready⟩ := ready_step ready
  cases ready <;> rfl

theorem settleWith_renamed (one : σ.Injective) (p : Pipe) (fuel : Nat) (s : Session) :
    (s.renamed σ).settleWith p fuel = (s.settleWith p fuel).renamed σ := by
  induction fuel generalizing s with
  | zero => rfl
  | succ fuel ih =>
    unfold settleWith
    rw [ready?_renamed]
    cases ready : s.ready? p with
    | none => rfl
    | some m =>
      have made := step_renamed one s (.lane m)
      rw [Move.renamed, renamed_of_ready ready] at made
      simp only [made]
      cases s.step (.lane m) with
      | none => rfl
      | some s' => exact ih s'

theorem settle_renamed (one : σ.Injective) (s : Session) (p : Pipe) :
    (s.renamed σ).settle p = (s.settle p).renamed σ := by
  have size : (s.renamed σ).lane.queue.length = s.lane.queue.length := List.length_map _
  rw [settle, size, settleWith_renamed one, settle]

theorem renamed_eq_self (fixed : ∀ t, s.lane.Names t → σ t = t) : s.renamed σ = s := by
  rw [renamed, Lane.renamed_eq_self fixed]

end Session
end FrameServer
