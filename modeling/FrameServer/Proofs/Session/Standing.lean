import FrameServer.Proofs.Session.Path

namespace FrameServer

namespace Lane

/-- Whether a ticket was ever heard of. -/
def Names (l : Lane) (t : Ticket) : Prop :=
  (∃ job, (t, job) ∈ l.queue) ∨ (∃ rest, l.turn = some (t, rest)) ∨ ∃ r, (t, r) ∈ l.results

/-- Whether something about the lane says that its session is closed. -/
def Quit (l : Lane) : Prop :=
  (∃ t, (t, Job.shutdown) ∈ l.queue) ∨ l.released = true ∨ ∃ t, (t, .error .closed) ∈ l.results

/-- A ticket that can do nothing but shut the connection down. -/
structure Reserved (l : Lane) (t : Ticket) : Prop where
  queue : ∀ job, (t, job) ∈ l.queue → job = .shutdown
  turn : ∀ rest, l.turn ≠ some (t, rest)
  result : ∀ r, (t, r) ∈ l.results → l.released = true

variable {l l' : Lane} {m : Move} {t : Ticket}

theorem step_framing (h : l.step m = some l') : l'.framing = l.framing := by
  cases step_effect h <;> rfl

theorem step_released (h : l.step m = some l') (hr : l.released = true) : l'.released = true := by
  cases step_effect h with
  | shutdown => rfl
  | _ => exact hr

inductive Settled (l l' : Lane) (t : Ticket) : Except SendError Unit → Prop
  | shutdown (asked : (t, .shutdown) ∈ l.queue) (released : l'.released = true) : Settled l l' t (.ok ())
  | refused (m : Bytes) (e : SendError) (asked : (t, .message m) ∈ l.queue) (why : e = .closed → l.released = true) :
      Settled l l' t (.error e)
  | turned (rest : Bytes) (r : Except SendError Unit) (turn : l.turn = some (t, rest)) (unclosed : r ≠ .error .closed) :
      Settled l l' t r

theorem queued_of_step {job : Job} (h : l.step m = some l') (hq : (t, job) ∈ l'.queue) :
    (t, job) ∈ l.queue ∨ m = .request t job := by
  cases step_effect h with
  | request u job' =>
    rcases List.mem_append.mp hq with hq | hq
    · exact .inl hq
    · obtain ⟨rfl, rfl⟩ := Prod.mk.inj (List.mem_singleton.mp hq)
      exact .inr rfl
  | shutdown _ _ _ first | refuse _ _ _ _ _ first | «begin» _ _ _ _ _ first =>
    exact .inl (first ▸ List.mem_cons_of_mem _ hq)
  | abandonPlace => exact .inl (List.mem_filter.mp hq).1
  | _ => exact .inl hq

theorem turn_of_step {rest : Bytes} (h : l.step m = some l') (ht : l'.turn = some (t, rest)) :
    (∃ rest, l.turn = some (t, rest)) ∨ ∃ msg, (t, .message msg) ∈ l.queue := by
  cases step_effect h with
  | «begin» u msg w rest' _ first =>
    obtain ⟨rfl, rfl⟩ := Prod.mk.inj (Option.some.inj ht)
    exact .inr ⟨msg, by simp [first]⟩
  | accept u rest' n turn =>
    obtain ⟨rfl, rfl⟩ := Prod.mk.inj (Option.some.inj ht)
    exact .inl ⟨rest', turn⟩
  | finish | fail | abandonTurn => cases ht
  | _ => exact .inl ⟨rest, ht⟩

theorem result_of_step {r : Except SendError Unit} (h : l.step m = some l') (hr : (t, r) ∈ l'.results) :
    (t, r) ∈ l.results ∨ l.Settled l' t r := by
  cases step_effect h with
  | shutdown u rest _ first =>
    rcases List.mem_cons.mp hr with he | hr
    · obtain ⟨rfl, rfl⟩ := Prod.mk.inj he
      exact .inr (.shutdown (by simp [first]) rfl)
    · exact .inl hr
  | refuse u msg rest e _ first why =>
    rcases List.mem_cons.mp hr with he | hr
    · obtain ⟨rfl, rfl⟩ := Prod.mk.inj he
      refine .inr (.refused msg e (by simp [first]) ?_)
      rintro rfl
      rcases why with ⟨-, released⟩ | ⟨fault, he, -⟩
      · exact released
      · cases he
    · exact .inl hr
  | finish u turn =>
    rcases List.mem_cons.mp hr with he | hr
    · obtain ⟨rfl, rfl⟩ := Prod.mk.inj he
      exact .inr (.turned [] _ turn (by simp))
    · exact .inl hr
  | fail u rest reason turn =>
    rcases List.mem_cons.mp hr with he | hr
    · obtain ⟨rfl, rfl⟩ := Prod.mk.inj he
      exact .inr (.turned rest _ turn (by simp))
    · exact .inl hr
  | _ => exact .inl hr

theorem released_of_step (h : l.step m = some l') (hr : l'.released = true) :
    l.released = true ∨ ∃ t, (t, .shutdown) ∈ l.queue := by
  cases step_effect h with
  | shutdown u rest _ first => exact .inr ⟨u, by simp [first]⟩
  | _ => exact .inl hr

theorem names_of_settleTicket {u : Ticket} {r : Except SendError Unit} (h : (l.settleTicket u r).Names t) :
    t = u ∨ l.Names t := by
  rcases h with hq | ht | ⟨r', hr⟩
  · exact .inr (.inl hq)
  · exact .inr (.inr (.inl ht))
  · rcases List.mem_cons.mp hr with he | hr
    · exact .inl (congrArg Prod.fst he)
    · exact .inr (.inr (.inr ⟨r', hr⟩))

/-- A move names no ticket but the one that it asks under. -/
theorem names_of_step (h : l.step m = some l') (ht : l'.Names t) : l.Names t ∨ ∃ job, m = .request t job := by
  rcases ht with ⟨job, hq⟩ | ⟨rest, ht⟩ | ⟨r, hr⟩
  · rcases queued_of_step h hq with hq | he
    · exact .inl (.inl ⟨job, hq⟩)
    · exact .inr ⟨job, he⟩
  · rcases turn_of_step h ht with ht | ⟨msg, hq⟩
    · exact .inl (.inr (.inl ht))
    · exact .inl (.inl ⟨_, hq⟩)
  · rcases result_of_step h hr with hr | settled
    · exact .inl (.inr (.inr ⟨r, hr⟩))
    · cases settled with
      | shutdown asked => exact .inl (.inl ⟨_, asked⟩)
      | refused _ _ asked => exact .inl (.inl ⟨_, asked⟩)
      | turned rest _ turn => exact .inl (.inr (.inl ⟨rest, turn⟩))

/-- Only being asked for a shutdown makes a lane quit. -/
theorem quit_of_step (h : l.step m = some l') (hq : l'.Quit) : l.Quit ∨ ∃ t, m = .request t .shutdown := by
  rcases hq with ⟨t, hq⟩ | hr | ⟨t, hc⟩
  · rcases queued_of_step h hq with hq | he
    · exact .inl (.inl ⟨t, hq⟩)
    · exact .inr ⟨t, he⟩
  · rcases released_of_step h hr with hr | asked
    · exact .inl (.inr (.inl hr))
    · exact .inl (.inl asked)
  · rcases result_of_step h hc with hc | settled
    · exact .inl (.inr (.inr ⟨t, hc⟩))
    · cases settled with
      | refused _ _ _ why => exact .inl (.inr (.inl (why rfl)))
      | turned _ _ _ unclosed => exact absurd rfl unclosed

/-- A new ticket that asks for a shutdown can do nothing else. -/
theorem reserved_of_new (hn : ¬ l.Names t) (h : l.step (.request t .shutdown) = some l') : l'.Reserved t := by
  simp only [step, Option.some.injEq] at h
  subst h
  constructor
  · intro job hj
    rcases List.mem_append.mp hj with hj | hj
    · exact absurd (.inl ⟨job, hj⟩) hn
    · exact (Prod.mk.inj (List.mem_singleton.mp hj)).2
  · intro rest hr
    exact hn (.inr (.inl ⟨rest, hr⟩))
  · intro r hr
    exact absurd (.inr (.inr ⟨r, hr⟩)) hn

theorem reserved_of_step (h : l.step m = some l') (hm : ∀ job, m ≠ .request t job) (hr : l.Reserved t) :
    l'.Reserved t := by
  have silent : ∀ msg, (t, .message msg) ∉ l.queue := by
    intro msg hq
    cases hr.queue _ hq
  constructor
  · intro job hj
    rcases queued_of_step h hj with hj | he
    · exact hr.queue job hj
    · exact absurd he (hm job)
  · intro rest ht
    rcases turn_of_step h ht with ⟨rest', ht⟩ | ⟨msg, hq⟩
    · exact hr.turn rest' ht
    · exact silent msg hq
  · intro r hj
    rcases result_of_step h hj with hj | settled
    · exact step_released h (hr.result r hj)
    · cases settled with
      | shutdown _ released => exact released
      | refused msg _ asked => exact absurd asked (silent msg)
      | turned rest _ turn => exact absurd turn (hr.turn rest)

theorem Reserved.settle {u : Ticket} {r : Except SendError Unit} (h : l.Reserved t) (other : u ≠ t) :
    (l.settleTicket u r).Reserved t := by
  refine ⟨h.queue, h.turn, fun r' hj => ?_⟩
  rcases List.mem_cons.mp hj with he | hj
  · exact absurd (Prod.mk.inj he).1.symm other
  · exact h.result r' hj

theorem mem_of_result {r : Except SendError Unit} (h : l.result? t = some r) : (t, r) ∈ l.results := by
  unfold result? at h
  obtain ⟨before, after, he, -⟩ := List.lookup_eq_some_iff.mp h
  simp [he]

end Lane

namespace Session

/-- What is always true of a session when `n` tickets are given out. -/
structure Standing (n : Nat) (s : Session) : Prop where
  below : ∀ t, s.lane.Names t → t < n
  quit : s.lane.Quit → s.closed = true

variable {n n' : Nat} {s s' : Session} {ms : List Move}

/-- A session that has just come has no tickets. -/
theorem standing_fresh {f : Framing} (fresh : s.lane = { framing := f }) (n : Nat) : s.Standing n := by
  constructor
  · rw [fresh]
    rintro t (⟨job, there⟩ | ⟨rest, turn⟩ | ⟨r, there⟩)
    · cases there
    · cases turn
    · cases there
  · rw [fresh]
    rintro (⟨t, there⟩ | released | ⟨t, there⟩)
    · cases there
    · cases released
    · cases there

theorem Change.names {m : Move} (h : s.Change m s') (fits : m.Fits n n') {t : Ticket} (ht : s'.lane.Names t) :
    s.lane.Names t ∨ n ≤ t ∧ t < n' := by
  cases h.lane with
  | ask u msg _ lane | release u _ lane =>
    rcases Lane.names_of_step lane ht with ht | ⟨job, he⟩
    · exact .inl ht
    · cases he
      exact .inr fits
  | refuse u msg _ lane =>
    rw [lane] at ht
    rcases Lane.names_of_settleTicket ht with rfl | ht
    · exact .inr fits
    · exact .inl ht
  | move lm lane =>
    rcases Lane.names_of_step lane ht with ht | ⟨job, he⟩
    · exact .inl ht
    · subst he
      exact fits.elim
  | none _ lane => exact .inl (lane ▸ ht)

/-- A lane quits only for a session that is closed. -/
theorem Change.quit {m : Move} (h : s.Change m s') (fits : m.Fits n n') (hq : s'.lane.Quit) :
    s.lane.Quit ∨ s'.closed = true := by
  cases h.lane with
  | ask t msg _ lane =>
    rcases Lane.quit_of_step lane hq with hq | ⟨u, he⟩
    · exact .inl hq
    · cases he
  | refuse t msg closed => exact .inr (h.closed closed)
  | release t closed => exact .inr closed
  | move lm lane =>
    rcases Lane.quit_of_step lane hq with hq | ⟨u, he⟩
    · exact .inl hq
    · subst he
      exact fits.elim
  | none _ lane => exact .inl (lane ▸ hq)

theorem released_of_step {m : Move} (h : s.step m = some s') (hr : s.lane.released = true) :
    s'.lane.released = true := by
  cases (step_change h).lane with
  | ask _ _ _ lane | release _ _ lane | move _ lane => exact Lane.step_released lane hr
  | refuse _ _ _ lane | none _ lane => exact lane ▸ hr

namespace Path

theorem standing (h : Path n s ms n' s') (hs : s.Standing n) : s'.Standing n' := by
  refine h.invariant (P := Standing) ?_ ?_ hs
  · intro i j x hn hx
    exact ⟨fun t ht => Nat.lt_of_lt_of_le (hx.below t ht) hn, hx.quit⟩
  · intro i j x y m hs hn fits _ hx
    have change := step_change hs
    constructor
    · intro t ht
      rcases change.names fits ht with old | ⟨-, new⟩
      · exact Nat.lt_of_lt_of_le (hx.below t old) hn
      · exact new
    · intro hq
      rcases change.quit fits hq with hq | closed
      · exact change.closed (hx.quit hq)
      · exact closed

theorem reserved {t : Ticket} (h : Path n s ms n' s') (ht : t < n) (hr : s.lane.Reserved t) :
    s'.lane.Reserved t := by
  refine h.invariant (P := fun _ x => x.lane.Reserved t) (fun _ hx => hx) ?_ hr
  intro i j x y m hs hn fits hi hx
  have newer : ∀ u, i ≤ u → u ≠ t := by
    rintro u hu rfl
    exact Nat.lt_irrefl u (Nat.lt_of_lt_of_le ht (Nat.le_trans hi hu))
  cases (step_change hs).lane with
  | ask u _ _ lane | release u _ lane =>
    refine Lane.reserved_of_step lane (fun job he => ?_) hx
    cases he
    exact newer t fits.1 rfl
  | refuse u msg _ lane =>
    rw [lane]
    exact hx.settle (newer u fits.1)
  | move lm lane =>
    refine Lane.reserved_of_step lane (fun job he => ?_) hx
    subst he
    exact fits
  | none _ lane => exact lane ▸ hx

theorem released (h : Path n s ms n' s') (hr : s.lane.released = true) : s'.lane.released = true := by
  refine h.invariant (P := fun _ x => x.lane.released = true) (fun _ hx => hx) ?_ hr
  intro i j x y m hs _ _ _ hx
  exact released_of_step hs hx

end Path

end Session
end FrameServer
