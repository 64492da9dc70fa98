import FrameServer.Session.Basic

namespace FrameServer.Lane

/-- What a move does to a lane. -/
inductive Effect (l : Lane) : Move → Lane → Prop
  | request (t : Ticket) (job : Job) : Effect l (.request t job) { l with queue := l.queue ++ [(t, job)] }
  | shutdown (t : Ticket) (rest : List (Ticket × Job)) (idle : l.turn = none)
      (first : l.queue = (t, .shutdown) :: rest) :
      Effect l .grant ({ l with queue := rest, released := true }.settleTicket t (.ok ()))
  | refuse (t : Ticket) (m : Bytes) (rest : List (Ticket × Job)) (e : SendError) (idle : l.turn = none)
      (first : l.queue = (t, .message m) :: rest)
      (why : e = .closed ∧ l.released = true ∨ ∃ fault, e = .frame fault ∧ l.framing.encode m = .error fault) :
      Effect l .grant ({ l with queue := rest }.settleTicket t (.error e))
  | begin (t : Ticket) (m w : Bytes) (rest : List (Ticket × Job)) (idle : l.turn = none)
      (first : l.queue = (t, .message m) :: rest) (unreleased : l.released = false)
      (frame : l.framing.encode m = .ok w) : Effect l .grant { l with queue := rest, turn := some (t, w) }
  | accept (t : Ticket) (rest : Bytes) (n : Nat) (turn : l.turn = some (t, rest)) (pos : 0 < n)
      (le : n ≤ rest.length) :
      Effect l (.accept n) { l with wire := l.wire ++ rest.take n, turn := some (t, rest.drop n) }
  | finish (t : Ticket) (turn : l.turn = some (t, [])) :
      Effect l .finish ({ l with turn := none }.settleTicket t (.ok ()))
  | fail (t : Ticket) (rest : Bytes) (reason : String) (turn : l.turn = some (t, rest)) (left : rest ≠ []) :
      Effect l (.fail reason) ({ l with turn := none }.settleTicket t (.error (.frame (.io reason))))
  | abandonTurn (t : Ticket) (rest : Bytes) (turn : l.turn = some (t, rest)) :
      Effect l (.abandon t) { l with turn := none }
  | abandonPlace (t : Ticket) (other : ∀ rest, l.turn ≠ some (t, rest)) :
      Effect l (.abandon t) { l with queue := l.queue.filter (·.1 ≠ t) }

theorem step_effect {l l' : Lane} {m : Move} (h : l.step m = some l') : l.Effect m l' := by
  cases m with
  | request t job =>
    simp only [step, Option.some.injEq] at h
    subst h
    exact .request t job
  | grant =>
    simp only [step] at h
    split at h
    next t job rest idle first =>
      simp only [Option.some.injEq] at h
      subst h
      cases job with
      | shutdown => exact .shutdown t rest idle first
      | message m =>
        simp only [start]
        split
        next hr => exact .refuse t m rest _ idle first (.inl ⟨rfl, hr⟩)
        next hr =>
          split
          next e he => exact .refuse t m rest _ idle first (.inr ⟨e, rfl, he⟩)
          next w hw => exact .begin t m w rest idle first (by simpa using hr) hw
    · cases h
  | accept n =>
    simp only [step] at h
    split at h
    next t rest turn =>
      split at h
      next hn =>
        simp only [Option.some.injEq] at h
        subst h
        exact .accept t rest n turn hn.1 hn.2
      · cases h
    · cases h
  | finish =>
    simp only [step] at h
    split at h
    next t turn =>
      simp only [Option.some.injEq] at h
      subst h
      exact .finish t turn
    · cases h
  | fail reason =>
    simp only [step] at h
    split at h
    next t b rest turn =>
      simp only [Option.some.injEq] at h
      subst h
      exact .fail t (b :: rest) reason turn (by simp)
    · cases h
  | abandon t =>
    simp only [step] at h
    split at h
    next u rest turn =>
      split at h
      next hu =>
        simp only [Option.some.injEq] at h
        subst h hu
        exact .abandonTurn u rest turn
      next hu =>
        simp only [Option.some.injEq] at h
        subst h
        refine .abandonPlace t fun r hr => hu ?_
        rw [turn] at hr
        cases hr
        rfl
    next turn =>
      simp only [Option.some.injEq] at h
      subst h
      refine .abandonPlace t fun r hr => ?_
      rw [turn] at hr
      cases hr

end FrameServer.Lane
