import FrameServer.Proofs.Session.Refusal
import FrameServer.Proofs.Session.Wire

namespace FrameServer

/-- The turns of one ticket. -/
def share (book : List Writing) (t : Ticket) : List Writing := book.filter (·.ticket = t)

variable {book : List Writing} {t : Ticket} {w : Writing}

theorem share_cons_self (own : w.ticket = t) : share (w :: book) t = w :: share book t :=
  List.filter_cons_of_pos (decide_eq_true own)

theorem share_cons_other (other : w.ticket ≠ t) : share (w :: book) t = share book t :=
  List.filter_cons_of_neg (by simpa using other)

namespace Lane

/-- What a send that has returned has written. -/
inductive Ended (f : Framing) (m : Bytes) (mine : List Writing) : Except SendError Unit → Prop
  | whole (w : Writing) (only : mine = [w]) (all : w.taken = w.frame.length) : Ended f m mine (.ok ())
  | refused (e : SendError) (nothing : mine = [])
      (why : e = .closed ∨ ∃ fault, e = .frame fault ∧ f.encode m = .error fault) : Ended f m mine (.error e)
  | broken (reason : String) : Ended f m mine (.error (.frame (.io reason)))

/-- What is true of the send of `m` under ticket `t`, wherever it is. -/
structure Fate (f : Framing) (t : Ticket) (m : Bytes) (l : Lane) (book : List Writing) : Prop where
  once : l.tickets.count t ≤ 1
  waiting : ∀ job, (t, job) ∈ l.queue → job = .message m ∧ share book t = []
  writing : ∀ rest, l.turn = some (t, rest) → ∃ w, share book t = [w]
  ended : ∀ r, (t, r) ∈ l.results → Ended f m (share book t) r
  single : (share book t).length ≤ 1
  own : ∀ w ∈ share book t, w.message = m

variable {f : Framing} {m : Bytes} {l l' : Lane} {mv : Move} {book' : List Writing}

theorem count_pos_of_names (named : l.Names t) : 0 < l.tickets.count t := List.count_pos_iff.mpr (mem_tickets.mpr named)

namespace Fate

/-- A ticket that waits has no turn and no result, and waits only once. -/
theorem alone_in_queue (fate : Fate f t m l book) {job : Job} {rest : List (Ticket × Job)}
    (first : l.queue = (t, job) :: rest) :
    (∀ job, (t, job) ∉ rest) ∧ (∀ rest, l.turn ≠ some (t, rest)) ∧ ∀ r, (t, r) ∉ l.results := by
  have once := fate.once
  simp only [tickets, first, List.map_cons, List.count_append, List.count_cons_self] at once
  refine ⟨fun job there => ?_, fun rest turn => ?_, fun r there => ?_⟩
  · have : 0 < (rest.map Prod.fst).count t := List.count_pos_iff.mpr (List.mem_map.mpr ⟨_, there, rfl⟩)
    omega
  · simp only [turn, Option.toList_some, List.map_cons, List.map_nil, List.count_cons_self] at once
    omega
  · have : 0 < (l.results.map Prod.fst).count t := List.count_pos_iff.mpr (List.mem_map.mpr ⟨_, there, rfl⟩)
    omega

theorem alone_in_turn (fate : Fate f t m l book) {rest : Bytes} (turn : l.turn = some (t, rest)) :
    (∀ job, (t, job) ∉ l.queue) ∧ ∀ r, (t, r) ∉ l.results := by
  have once := fate.once
  simp only [tickets, turn, Option.toList_some, List.map_cons, List.map_nil, List.count_append, List.count_cons_self,
    List.count_nil] at once
  refine ⟨fun job there => ?_, fun r there => ?_⟩
  · have : 0 < (l.queue.map Prod.fst).count t := List.count_pos_iff.mpr (List.mem_map.mpr ⟨_, there, rfl⟩)
    omega
  · have : 0 < (l.results.map Prod.fst).count t := List.count_pos_iff.mpr (List.mem_map.mpr ⟨_, there, rfl⟩)
    omega

/-- The send stays where it is, or leaves its place without another one, and writes nothing. -/
theorem carry (fate : Fate f t m l book) (once : l'.tickets.count t ≤ 1)
    (queue : ∀ job, (t, job) ∈ l'.queue → (t, job) ∈ l.queue)
    (turn : ∀ rest, l'.turn = some (t, rest) → ∃ rest, l.turn = some (t, rest))
    (results : ∀ r, (t, r) ∈ l'.results → (t, r) ∈ l.results) (same : share book' t = share book t) :
    Fate f t m l' book' := by
  refine ⟨once, ?_, ?_, ?_, ?_, ?_⟩
  · intro job there
    rw [same]
    exact fate.waiting job (queue job there)
  · intro rest mine
    obtain ⟨rest, mine⟩ := turn rest mine
    rw [same]
    exact fate.writing rest mine
  · intro r there
    rw [same]
    exact fate.ended r (results r there)
  · rw [same]
    exact fate.single
  · rw [same]
    exact fate.own

/-- The send returns, with what it has written. -/
theorem ends (fate : Fate f t m l book) {r : Except SendError Unit} (ended : Ended f m (share book t) r)
    (once : l'.tickets.count t ≤ 1) (queue : ∀ job, (t, job) ∉ l'.queue) (turn : l'.turn = none)
    (results : ∀ r', (t, r') ∈ l'.results → r' = r) : Fate f t m l' book := by
  refine ⟨once, fun job there => absurd there (queue job), ?_, ?_, fate.single, fate.own⟩
  · intro rest mine
    rw [turn] at mine
    cases mine
  · intro r' there
    rw [results r' there]
    exact ended

/-- Moves that ask under other tickets take the send further, or leave it where it is. -/
theorem step (kept : Kept f l book) (fate : Fate f t m l book) (h : l.step mv = some l')
    (other : ∀ job, mv ≠ .request t job) : Fate f t m l' (l.enter book mv) := by
  have once : l'.tickets.count t ≤ 1 := by
    have more := (count_tickets h t).1
    have silent : (mv.request?.toList.map Prod.fst).count t = 0 := by
      refine List.count_eq_zero.mpr fun there => ?_
      cases mv with
      | request u job =>
        obtain rfl : t = u := by simpa [Move.request?] using there
        exact other job rfl
      | _ => simp [Move.request?] at there
    rw [List.count_append, silent] at more
    exact Nat.le_trans more fate.once
  cases step_effect h with
  | request u job =>
    refine fate.carry once (fun job' there => ?_) (fun rest mine => ⟨rest, mine⟩) (fun _ there => there) rfl
    rcases List.mem_append.mp there with there | there
    · exact there
    · obtain ⟨rfl, rfl⟩ := Prod.mk.inj (List.mem_singleton.mp there)
      exact absurd rfl (other _)
  | shutdown u rest idle first =>
    rw [enter_shutdown first]
    refine fate.carry once (fun job there => first ▸ List.mem_cons_of_mem _ there) (fun rest mine => ⟨rest, mine⟩)
      (fun r there => ?_) rfl
    rcases List.mem_cons.mp there with same | there
    · obtain ⟨rfl, rfl⟩ := Prod.mk.inj same
      cases (fate.waiting .shutdown (by simp [first])).1
    · exact there
  | refuse u msg rest e idle first why =>
    rw [enter_refuse first why]
    by_cases own : u = t
    · subst own
      obtain ⟨same, nothing⟩ := fate.waiting (.message msg) (by simp [first])
      obtain rfl := Job.message.inj same
      obtain ⟨noPlace, -, noResult⟩ := fate.alone_in_queue first
      have ended : Ended f msg (share book u) (.error e) :=
        .refused e nothing (why.imp And.left (Exists.imp fun fault why => why.imp_right (kept.framing ▸ ·)))
      refine fate.ends ended once noPlace idle fun r there => ?_
      rcases List.mem_cons.mp there with same | there
      · exact (Prod.mk.inj same).2
      · exact absurd there (noResult r)
    · refine fate.carry once (fun job there => first ▸ List.mem_cons_of_mem _ there) (fun rest mine => ⟨rest, mine⟩)
        (fun r there => ?_) rfl
      exact (List.mem_cons.mp there).resolve_left fun same => own (Prod.mk.inj same).1.symm
  | «begin» u msg frame rest idle first unreleased encoded =>
    rw [enter_begin idle first unreleased encoded]
    by_cases own : u = t
    · subst own
      obtain ⟨same, nothing⟩ := fate.waiting (.message msg) (by simp [first])
      obtain rfl := Job.message.inj same
      obtain ⟨noPlace, -, noResult⟩ := fate.alone_in_queue first
      have only : share ({ ticket := u, message := msg, frame := frame } :: book) u =
          [{ ticket := u, message := msg, frame := frame }] := by
        rw [share_cons_self rfl, nothing]
      refine ⟨once, fun job there => absurd there (noPlace job), fun _ _ => ⟨_, only⟩,
        fun r there => absurd there (noResult r), by simp [only], ?_⟩
      rw [only]
      simp
    · refine fate.carry once (fun job there => first ▸ List.mem_cons_of_mem _ there) (fun rest mine => ?_)
        (fun _ there => there) (share_cons_other own)
      exact absurd (Prod.mk.inj (Option.some.inj mine)).1 own
  | accept u rest n turn pos le =>
    obtain ⟨w, older, rfl, rfl, -⟩ := kept.turn u rest turn
    by_cases own : w.ticket = t
    · subst own
      obtain ⟨noPlace, noResult⟩ := fate.alone_in_turn turn
      obtain ⟨v, only⟩ := fate.writing rest turn
      rw [share_cons_self rfl] at only
      obtain ⟨rfl, none⟩ := List.cons.inj only
      have after : share ({ w with taken := w.taken + n } :: older) w.ticket = [{ w with taken := w.taken + n }] := by
        rw [share_cons_self rfl, none]
      have same : w.message = m := fate.own w (by rw [share_cons_self rfl]; exact List.mem_cons_self)
      refine ⟨once, fun job there => absurd there (noPlace job), fun _ _ => ⟨_, after⟩,
        fun r there => absurd there (noResult r), by simp [enter, after], ?_⟩
      intro x hx
      simp only [enter, after, List.mem_singleton] at hx
      rw [hx]
      exact same
    · refine fate.carry once (fun _ there => there) (fun rest' mine => ?_) (fun _ there => there) ?_
      · exact absurd (Prod.mk.inj (Option.some.inj mine)).1 own
      · have later : share ({ w with taken := w.taken + n } :: older) t = share older t := share_cons_other own
        exact later.trans (share_cons_other own).symm
  | finish u turn =>
    by_cases own : u = t
    · subst own
      obtain ⟨noPlace, noResult⟩ := fate.alone_in_turn turn
      obtain ⟨w, older, rfl, rfl, nothing⟩ := kept.turn u [] turn
      obtain ⟨v, only⟩ := fate.writing [] turn
      have mine : share (w :: older) w.ticket = [w] := by
        rw [share_cons_self rfl] at only ⊢
        rw [(List.cons.inj only).2]
      have all : w.taken = w.frame.length :=
        Nat.le_antisymm (kept.sound w List.mem_cons_self).2 (List.drop_eq_nil_iff.mp nothing)
      refine fate.ends (.whole w mine all) once noPlace rfl fun r there => ?_
      rcases List.mem_cons.mp there with same | there
      · exact (Prod.mk.inj same).2
      · exact absurd there (noResult r)
    · refine fate.carry once (fun _ there => there) (fun rest mine => by cases mine) (fun r there => ?_) rfl
      exact (List.mem_cons.mp there).resolve_left fun same => own (Prod.mk.inj same).1.symm
  | fail u rest reason turn left =>
    by_cases own : u = t
    · subst own
      obtain ⟨noPlace, noResult⟩ := fate.alone_in_turn turn
      refine fate.ends (.broken reason) once noPlace rfl fun r there => ?_
      rcases List.mem_cons.mp there with same | there
      · exact (Prod.mk.inj same).2
      · exact absurd there (noResult r)
    · refine fate.carry once (fun _ there => there) (fun rest mine => by cases mine) (fun r there => ?_) rfl
      exact (List.mem_cons.mp there).resolve_left fun same => own (Prod.mk.inj same).1.symm
  | abandonTurn u rest turn =>
    refine fate.carry once (fun _ there => there) (fun rest' mine => ?_) (fun _ there => there) rfl
    cases mine
  | abandonPlace u none =>
    exact fate.carry once (fun _ there => (List.mem_filter.mp there).1) (fun rest mine => ⟨rest, mine⟩)
      (fun _ there => there) rfl

end Fate

end Lane

namespace Session

open Lane (Fate Kept)

variable {f : Framing} {m : Bytes} {s s' : Session} {mv : Move} {n n' : Nat} {ms : List Move}

theorem fate_step (kept : Kept f s.lane book) (fate : Fate f t m s.lane book) (h : s.step mv = some s')
    (other : ∀ job, mv.request? ≠ some (t, job)) : Fate f t m s'.lane (s.enter book mv) := by
  cases (step_change h).lane with
  | ask u msg _ lane | release u _ lane =>
    refine fate.step kept lane fun job same => ?_
    cases same
    exact other _ rfl
  | refuse u msg _ lane =>
    have apart : u ≠ t := by
      rintro rfl
      exact other _ rfl
    rw [lane]
    refine fate.carry ?_ (fun _ there => there) (fun rest mine => ⟨rest, mine⟩) (fun r there => ?_) rfl
    · rw [(Lane.tickets_settleTicket _).count_eq, List.count_cons_of_ne apart]
      exact fate.once
    · exact (List.mem_cons.mp there).resolve_left fun same => apart (Prod.mk.inj same).1.symm
  | move lm lane =>
    refine fate.step kept lane fun job same => ?_
    subst same
    exact other job rfl
  | none other' lane =>
    have entered : s.enter book mv = book := by
      cases mv with
      | lane lm => exact absurd rfl (other' lm)
      | _ => rfl
    rw [entered, lane]
    exact fate

/-- Whatever comes later, a send has one of the fates. -/
theorem Path.fate (path : Path n s ms n' s') (old : t < n) (kept : Kept f s.lane book) (fate : Fate f t m s.lane book) :
    Kept f s'.lane (s.ledger book ms) ∧ Fate f t m s'.lane (s.ledger book ms) := by
  induction path with
  | nil => exact ⟨kept, fate⟩
  | snoc path mv hs _ fits ih =>
    rw [ledger_concat path.play hs]
    refine ⟨kept_step ih.1 hs, fate_step ih.1 ih.2 hs fun job asks => ?_⟩
    exact Nat.lt_irrefl t (Nat.lt_of_lt_of_le old (Nat.le_trans path.tickets_le (fits.bounds asks).1))

/-- A send asks for its turn, or is refused, under a ticket that is new. -/
theorem fate_send (new : ¬ s.lane.Names t) (nothing : share book t = []) (h : s.step (.send t m) = some s') :
    Fate f t m s'.lane book := by
  have absent : s.lane.tickets.count t = 0 := List.count_eq_zero.mpr fun there => new (Lane.mem_tickets.mp there)
  have single : (share book t).length ≤ 1 := by simp [nothing]
  have own : ∀ w ∈ share book t, w.message = m := by simp [nothing]
  simp only [step] at h
  split at h
  · obtain rfl := Option.some.inj h
    refine ⟨?_, fun job there => absurd (.inl ⟨job, there⟩) new, fun rest turn => absurd (.inr (.inl ⟨rest, turn⟩)) new,
      ?_, single, own⟩
    · refine Nat.le_of_eq ?_
      rw [(Lane.tickets_settleTicket _).count_eq, List.count_cons_self, absent]
    · intro r there
      rcases List.mem_cons.mp there with same | there
      · rw [(Prod.mk.inj same).2]
        exact .refused .closed nothing (.inl rfl)
      · exact absurd (.inr (.inr ⟨r, there⟩)) new
  · obtain ⟨l, lane, rfl⟩ := Option.map_eq_some_iff.mp h
    have once := (Lane.count_tickets lane t).1
    rw [List.count_append, absent] at once
    obtain rfl := Option.some.inj lane
    refine ⟨Nat.le_trans once (by simp [Lane.Move.request?]), ?_,
      fun rest turn => absurd (.inr (.inl ⟨rest, turn⟩)) new,
      fun r there => absurd (.inr (.inr ⟨r, there⟩)) new, single, own⟩
    intro job there
    rcases List.mem_append.mp there with there | there
    · exact absurd (.inl ⟨job, there⟩) new
    · exact ⟨(Prod.mk.inj (List.mem_singleton.mp there)).2, nothing⟩

/-- Every ticket of a path is one of those that were given out. -/
theorem Path.send_lt (path : Path n s ms n' s') (asked : .send t m ∈ ms) : t < n' := by
  induction path with
  | nil => cases asked
  | snoc path mv _ hn fits ih =>
    rcases List.mem_append.mp asked with before | now
    · exact Nat.lt_of_lt_of_le (ih before) hn
    · obtain rfl := List.mem_singleton.mp now
      exact fits.2

end Session
end FrameServer
