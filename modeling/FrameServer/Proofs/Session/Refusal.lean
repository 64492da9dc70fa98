import Mathlib.Data.List.Basic
import FrameServer.Proofs.Session.Leads
import FrameServer.Proofs.Session.Tickets

namespace FrameServer

namespace Lane

/-- A ticket that was refused because the session is closed; nothing else becomes of it. -/
structure Refused (l : Lane) (t : Ticket) : Prop where
  queue : ∀ job, (t, job) ∉ l.queue
  turn : ∀ rest, l.turn ≠ some (t, rest)
  result : ∀ r, (t, r) ∈ l.results → r = .error .closed
  told : (t, .error .closed) ∈ l.results

/-- A ticket that is ahead of every shutdown, and is not refused because the session is closed. -/
structure Spared (l : Lane) (t : Ticket) : Prop where
  result : (t, .error .closed) ∉ l.results
  released : ∀ job, (t, job) ∈ l.queue → l.released = false
  ahead : ∀ job u, ¬ [(u, Job.shutdown), (t, job)].Sublist l.queue

variable {l l' : Lane} {m : Move} {t u : Ticket}

theorem results_of_step (h : l.step m = some l') : l.results ⊆ l'.results := by
  cases step_effect h with
  | shutdown | refuse | finish | fail => exact List.subset_cons_self _ _
  | _ => exact List.Subset.refl _

theorem refused_of_step (h : l.step m = some l') (hr : l.Refused t) (hm : ∀ job, m ≠ .request t job) :
    l'.Refused t := by
  constructor
  · intro job hq
    rcases queued_of_step h hq with hq | he
    · exact hr.queue job hq
    · exact hm job he
  · intro rest ht
    rcases turn_of_step h ht with ⟨rest', ht⟩ | ⟨msg, hq⟩
    · exact hr.turn rest' ht
    · exact hr.queue _ hq
  · intro r hj
    rcases result_of_step h hj with hj | settled
    · exact hr.result r hj
    · cases settled with
      | shutdown asked => exact absurd asked (hr.queue _)
      | refused msg _ asked => exact absurd asked (hr.queue _)
      | turned rest _ turn => exact absurd turn (hr.turn rest)
  · exact results_of_step h hr.told

/-- A new ticket that is refused at once. -/
theorem refused_of_new (new : ¬ l.Names t) : (l.settleTicket t (.error .closed)).Refused t := by
  refine ⟨fun job hq => new (.inl ⟨job, hq⟩), fun rest ht => new (.inr (.inl ⟨rest, ht⟩)), fun r hj => ?_,
    List.mem_cons_self⟩
  rcases List.mem_cons.mp hj with he | hj
  · exact (Prod.mk.inj he).2
  · exact absurd (.inr (.inr ⟨r, hj⟩)) new

theorem Refused.settle {r : Except SendError Unit} (h : l.Refused t) (other : u ≠ t) :
    (l.settleTicket u r).Refused t := by
  refine ⟨h.queue, h.turn, fun r' hj => ?_, List.mem_cons_of_mem _ h.told⟩
  rcases List.mem_cons.mp hj with he | hj
  · exact absurd (Prod.mk.inj he).1.symm other
  · exact h.result r' hj

theorem Refused.result? (hr : l.Refused t) : l.result? t = some (.error .closed) := by
  cases h : l.result? t with
  | none =>
    have silent := List.lookup_eq_none_iff.mp h _ hr.told
    simp at silent
  | some r => rw [hr.result r (mem_of_result h)]

/-- The queue of a lane only loses places, but for the last one. -/
theorem queue_of_step (h : l.step m = some l') :
    l'.queue.Sublist l.queue ∨ ∃ t job, m = .request t job ∧ l'.queue = l.queue ++ [(t, job)] := by
  cases step_effect h with
  | request t job => exact .inr ⟨t, job, rfl, rfl⟩
  | shutdown _ _ _ first | refuse _ _ _ _ _ first | «begin» _ _ _ _ _ first =>
    left
    rw [first]
    exact List.sublist_cons_self _ _
  | abandonPlace => exact .inl List.filter_sublist
  | _ => exact .inl (List.Sublist.refl _)

theorem spared_of_step (h : l.step m = some l') (hs : l.Spared t) (hm : ∀ job, m ≠ .request t job) : l'.Spared t := by
  constructor
  · intro hc
    rcases result_of_step h hc with hc | settled
    · exact hs.result hc
    · cases settled with
      | refused msg _ asked why =>
        have released := hs.released _ asked
        rw [why rfl] at released
        cases released
      | turned _ _ _ unclosed => exact unclosed rfl
  · intro job hq
    rcases queued_of_step h hq with old | he
    · cases step_effect h with
      | shutdown u rest _ first =>
        have before : [(u, Job.shutdown), (t, job)].Sublist l.queue := by
          rw [first]
          exact (List.singleton_sublist.mpr hq).cons_cons _
        exact absurd before (hs.ahead job u)
      | _ => exact hs.released job old
    · exact absurd he (hm job)
  · intro job u before
    rcases queue_of_step h with fewer | ⟨t', job', rfl, more⟩
    · exact hs.ahead job u (before.trans fewer)
    · rw [more] at before
      obtain ⟨first, last, split, hf, hl⟩ := List.sublist_append_iff.mp before
      rcases List.sublist_singleton.mp hl with rfl | rfl
      · rw [List.append_nil] at split
        rw [← split] at hf
        exact hs.ahead job u hf
      · have same := congrArg List.getLast? split
        rw [List.getLast?_concat] at same
        obtain ⟨rfl, rfl⟩ : t = t' ∧ job = job' := by simpa using same
        exact hm job rfl

end Lane

namespace Session

variable {n n' : Nat} {s s' : Session} {ms : List Move} {t : Ticket}

/-- While a session is open, its lane spares all tickets. -/
theorem Standing.spared (h : s.Standing n) (unclosed : s.closed = false) (t : Ticket) : s.lane.Spared t := by
  have going : ¬ s.lane.Quit := by
    intro quit
    rw [h.quit quit] at unclosed
    cases unclosed
  constructor
  · intro hc
    exact going (.inr (.inr ⟨t, hc⟩))
  · intro job _
    cases released : s.lane.released with
    | false => rfl
    | true => exact absurd (.inr (.inl released)) going
  · intro job u before
    exact going (.inl ⟨u, before.subset List.mem_cons_self⟩)

/-- What the moves of a lane keep for a ticket is kept by all moves of its session, if the ticket is not new. -/
theorem Path.keeps {P : Lane → Prop} (h : Path n s ms n' s') (old : t < n)
    (step : ∀ {l l' : Lane} {m : Lane.Move}, l.step m = some l' → P l → (∀ job, m ≠ .request t job) → P l')
    (refuse : ∀ {l : Lane} {u : Ticket}, u ≠ t → P l → P (l.settleTicket u (.error .closed))) (hp : P s.lane) :
    P s'.lane := by
  refine h.invariant (P := fun _ x => P x.lane) (fun _ hx => hx) ?_ hp
  intro i j x y m hs _ fits hi hx
  refine keeps_of_step hs (fun job asks => ?_) step refuse hx
  exact Nat.lt_irrefl t (Nat.lt_of_lt_of_le old (Nat.le_trans hi (fits.bounds asks).1))

theorem Path.refused (h : Path n s ms n' s') (old : t < n) (hr : s.lane.Refused t) : s'.lane.Refused t :=
  h.keeps old (P := (·.Refused t)) Lane.refused_of_step (fun other refused => refused.settle other) hr

theorem Path.spared (h : Path n s ms n' s') (old : t < n) (hs : s.lane.Spared t) : s'.lane.Spared t := by
  refine h.keeps old (P := (·.Spared t)) Lane.spared_of_step ?_ hs
  intro l u other hl
  refine ⟨fun hj => ?_, hl.released, hl.ahead⟩
  rcases List.mem_cons.mp hj with he | hj
  · exact other (Prod.mk.inj he).1.symm
  · exact hl.result hj

end Session

/-- A send on a session that is closed is refused at once. -/
theorem Hub.send_refused {h : Hub} {k : SessionKey} {s s' : Session} {m : Bytes} (hk : h.session? k = some s)
    (new : ¬ s.lane.Names h.tickets) (closed : s.closed = true) (hk' : (h.send k m).2.session? k = some s') :
    s'.lane.Refused h.tickets := by
  have told : (s.lane.settleTicket h.tickets (.error .closed)).Refused h.tickets := Lane.refused_of_new new
  have asked : ({ h with tickets := h.tickets + 1 }.move k (.send h.tickets m)).session? k =
      some { s with lane := s.lane.settleTicket h.tickets (.error .closed) } :=
    session_move _ k hk (by simp [Session.step, closed])
  unfold send request at hk'
  dsimp only at hk'
  split at hk'
  · obtain ⟨z, ms, hz, path⟩ := (leads_settle _ k).session_back hk'
    obtain rfl := Option.some.inj (asked.symm.trans hz)
    exact path.refused (by simp) told
  · obtain rfl := Option.some.inj (asked.symm.trans hk')
    exact told

end FrameServer
