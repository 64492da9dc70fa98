import FrameServer.Proofs.Lists
import FrameServer.Proofs.Session.Wire

namespace FrameServer

namespace Lane

/-- All tickets of a lane: those that wait, the one whose turn it is, and those that are done. -/
def tickets (l : Lane) : List Ticket := l.queue.map Prod.fst ++ (l.turn.toList.map Prod.fst ++ l.results.map Prod.fst)

def Move.request? : Move → Option (Ticket × Job)
  | .request t job => some (t, job)
  | _ => none

/-- Whether a move gives up no send, and the connection does not fail in it. -/
def Move.persists : Move → Bool
  | .abandon _ | .fail _ => false
  | _ => true

variable {l l' : Lane} {m : Move} {t : Ticket}

theorem mem_tickets : t ∈ l.tickets ↔ l.Names t := by
  simp [tickets, Names]

theorem tickets_settleTicket (r : Except SendError Unit) : (l.settleTicket t r).tickets.Perm (t :: l.tickets) := by
  rw [List.perm_iff_count]
  intro u
  simp only [tickets, settleTicket, List.map_cons, List.count_append, List.count_cons]
  omega

/-- A ticket that is alone has one result. -/
theorem result?_of_mem {r : Except SendError Unit} (once : l.tickets.Nodup) (h : (t, r) ∈ l.results) :
    l.result? t = some r :=
  lookup_of_mem (List.nodup_append.mp (List.nodup_append.mp once).2.1).2.1 h

/-- The one whose turn it is has no result. -/
theorem result?_of_turn {rest : Bytes} (once : l.tickets.Nodup) (turn : l.turn = some (t, rest)) :
    l.result? t = none := by
  have later := (List.nodup_append.mp once).2.1
  rw [turn] at later
  have other : t ∉ l.results.map Prod.fst := (List.nodup_cons.mp later).1
  cases known : l.result? t with
  | none => rfl
  | some r => exact absurd (List.mem_map.mpr ⟨_, mem_of_result known, rfl⟩) other

section Step

variable (h : l.step m = some l')
include h

/-- A move adds no ticket but the one that it asks under, and loses none if no send is given up. -/
theorem count_tickets (u : Ticket) :
    l'.tickets.count u ≤ (l.tickets ++ m.request?.toList.map Prod.fst).count u ∧
      (m.persists = true → l'.tickets.count u = (l.tickets ++ m.request?.toList.map Prod.fst).count u) := by
  cases step_effect h with
  | request t job =>
    simp only [tickets, Move.request?, Option.toList_some, List.map_append, List.map_cons, List.map_nil,
      List.count_append]
    omega
  | shutdown t rest idle first | refuse t msg rest e idle first | «begin» t msg w rest idle first =>
    simp only [tickets, settleTicket, Move.request?, idle, first, Option.toList_some, Option.toList_none, List.map_cons,
      List.map_nil, List.count_append, List.count_cons, List.count_nil]
    omega
  | accept t rest n turn | finish t turn | fail t rest reason turn | abandonTurn t rest turn =>
    simp only [tickets, settleTicket, Move.request?, Move.persists, turn, Option.toList_some, Option.toList_none,
      List.map_cons, List.map_nil, List.count_append, List.count_cons, List.count_nil, Bool.false_eq_true, false_implies,
      and_true]
    omega
  | abandonPlace t =>
    have fewer := ((List.filter_sublist (p := (·.1 ≠ t)) (l := l.queue)).map Prod.fst).count_le u
    simp only [tickets, Move.request?, Move.persists, Option.toList_none, List.map_nil, List.count_append,
      List.count_nil, Bool.false_eq_true, false_implies, and_true]
    omega

theorem tickets_perm (persists : m.persists = true) : l'.tickets.Perm (l.tickets ++ m.request?.toList.map Prod.fst) := by
  rw [List.perm_iff_count]
  intro u
  exact (count_tickets h u).2 persists

end Step

end Lane

namespace Session

/-- What a move asks the lane for. Whoever asks may have looked at the session before that. -/
def Move.request? : Move → Option (Ticket × Lane.Job)
  | .send t msg => some (t, .message msg)
  | .closeAsync t => some (t, .shutdown)
  | .lane m => m.request?
  | _ => none

theorem Move.Fits.bounds {n n' : Nat} {m : Move} {t : Ticket} {job : Lane.Job} (h : m.Fits n n')
    (asks : m.request? = some (t, job)) : n ≤ t ∧ t < n' := by
  cases m with
  | send | closeAsync =>
    obtain ⟨rfl, -⟩ := Prod.mk.inj (Option.some.inj asks)
    exact h
  | lane lm =>
    cases lm with
    | request => exact h.elim
    | _ => cases asks
  | _ => cases asks

def requests (ms : List Move) : List (Ticket × Lane.Job) := ms.filterMap Move.request?

variable {s s' : Session} {m : Move} {ms ms' : List Move} {f : Framing} {t : Ticket}

theorem requests_append : requests (ms ++ ms') = requests ms ++ requests ms' := List.filterMap_append

theorem requests_cons : requests (m :: ms) = m.request?.toList ++ requests ms := by
  cases asks : m.request? <;> simp [requests, asks]

theorem requests_singleton : requests [m] = m.request?.toList := by
  rw [requests_cons]
  exact List.append_nil _

theorem count_tickets (h : s.step m = some s') (u : Ticket) :
    s'.lane.tickets.count u ≤ (s.lane.tickets ++ m.request?.toList.map Prod.fst).count u := by
  cases (step_change h).lane with
  | ask t _ _ lane | release t _ lane => exact (Lane.count_tickets lane u).1
  | refuse t _ _ lane =>
    rw [lane]
    have same := (Lane.tickets_settleTicket (.error .closed)).trans (List.perm_append_singleton t s.lane.tickets).symm
    exact Nat.le_of_eq (same.count_eq u)
  | move lm lane => exact (Lane.count_tickets lane u).1
  | none _ lane =>
    rw [lane, List.count_append]
    exact Nat.le_add_right _ _

/-- What a move keeps for a ticket that it does not ask under. -/
theorem keeps_of_step {P : Lane → Prop} (h : s.step m = some s') (other : ∀ job, m.request? ≠ some (t, job))
    (step : ∀ {l l' : Lane} {m : Lane.Move}, l.step m = some l' → P l → (∀ job, m ≠ .request t job) → P l')
    (refuse : ∀ {l : Lane} {u : Ticket}, u ≠ t → P l → P (l.settleTicket u (.error .closed))) (hp : P s.lane) :
    P s'.lane := by
  cases (step_change h).lane with
  | ask u _ _ lane | release u _ lane =>
    refine step lane hp fun job he => ?_
    cases he
    exact other _ rfl
  | refuse u msg _ lane =>
    rw [lane]
    refine refuse ?_ hp
    rintro rfl
    exact other _ rfl
  | move lm lane =>
    refine step lane hp fun job he => ?_
    subst he
    exact other job rfl
  | none _ lane => exact lane ▸ hp

theorem keeps_of_play {P : Lane → Prop} (run : s.play ms = some s') (other : t ∉ (requests ms).map Prod.fst)
    (step : ∀ {l l' : Lane} {m : Lane.Move}, l.step m = some l' → P l → (∀ job, m ≠ .request t job) → P l')
    (refuse : ∀ {l : Lane} {u : Ticket}, u ≠ t → P l → P (l.settleTicket u (.error .closed))) (hp : P s.lane) :
    P s'.lane := by
  refine play_induction (P := fun ms x => t ∉ (requests ms).map Prod.fst → P x.lane) (fun _ => hp) ?_ run other
  intro ms m x y _ made ih other
  rw [requests_append, requests_singleton, List.map_append] at other
  refine keeps_of_step made (fun job asks => ?_) step refuse (ih fun there => other (List.mem_append_left _ there))
  exact other (List.mem_append_right _ (by simp [asks]))

section Own

variable (fresh : s.lane = { framing := f }) (run : s.play ms = some s')
include fresh run

/-- Nobody has a ticket that was not asked under, and nobody has more of them. -/
theorem count_tickets_play (u : Ticket) : s'.lane.tickets.count u ≤ ((requests ms).map Prod.fst).count u := by
  refine play_induction (P := fun ms x => x.lane.tickets.count u ≤ ((requests ms).map Prod.fst).count u) ?_ ?_ run
  · simp [fresh, Lane.tickets]
  · intro ms m x y _ made before
    have more := count_tickets made u
    rw [List.count_append] at more
    rw [requests_append, requests_singleton, List.map_append, List.count_append]
    omega

theorem asked_of_names (h : s'.lane.Names t) : t ∈ (requests ms).map Prod.fst := by
  have some : 0 < s'.lane.tickets.count t := List.count_pos_iff.mpr (Lane.mem_tickets.mpr h)
  exact List.count_pos_iff.mp (Nat.lt_of_lt_of_le some (count_tickets_play fresh run t))

theorem tickets_nodup (own : ((requests ms).map Prod.fst).Nodup) : s'.lane.tickets.Nodup := by
  rw [List.nodup_iff_count_le_one] at own ⊢
  intro u
  exact Nat.le_trans (count_tickets_play fresh run u) (own u)

end Own

/-- Who asks under a ticket of its own asks under one that nobody asks under before or later. -/
theorem own_split {before after : List Move} {job : Lane.Job} (asks : m.request? = some (t, job))
    (own : ((requests (before ++ m :: after)).map Prod.fst).Nodup) :
    t ∉ (requests before).map Prod.fst ∧ t ∉ (requests after).map Prod.fst := by
  rw [requests_append, requests_cons, asks, List.map_append, List.map_append] at own
  obtain ⟨-, rest, apart⟩ := List.nodup_append.mp own
  constructor
  · intro there
    exact apart t there t (by simp) rfl
  · intro there
    exact (List.nodup_append.mp rest).2.2 t (by simp) t there rfl

end Session
end FrameServer
