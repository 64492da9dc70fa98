import Mathlib.Data.List.Perm.Subperm
import FrameServer.Proofs.Session.Tickets

namespace FrameServer

namespace Lane

def Job.message? : Job → Option Bytes
  | .message m => some m
  | .shutdown => none

/-- The messages among some requests. -/
def messages (rs : List (Ticket × Job)) : List (Ticket × Bytes) :=
  rs.filterMap fun (t, job) => job.message?.map (t, ·)

def succeeded (l : Lane) (t : Ticket) : Bool :=
  match l.result? t with
  | some (.ok ()) => true
  | _ => false

/-- What is true of a lane, of the ledger of its turns and of what was asked of it, as long as no send is given up. -/
structure InTurn (f : Framing) (asked : List (Ticket × Job)) (l : Lane) (book : List Writing) : Prop where
  kept : Kept f l book
  /-- The turns are had, and waited for, in the order in which they were asked for. -/
  line : ((book.reverse.map fun w => (w.ticket, w.message)) ++ messages l.queue).Sublist (messages asked)
  queue : ∀ p ∈ l.queue, p ∈ asked
  whole : ∀ w ∈ l.behind book, w.taken = w.frame.length ∧ (w.ticket, .ok ()) ∈ l.results
  done : ∀ t, (t, .ok ()) ∈ l.results → (∃ w ∈ l.behind book, w.ticket = t) ∨ (t, .shutdown) ∈ asked
  failed : ∀ t e, (t, .error e) ∈ l.results →
    e = .closed ∨ ∃ m fault, (t, .message m) ∈ asked ∧ e = .frame fault ∧ f.encode m = .error fault
  /-- Every ticket is in one place. -/
  places : l.tickets.Perm (asked.map Prod.fst)

variable {l l' : Lane} {m : Move} {f : Framing} {book : List Writing} {asked : List (Ticket × Job)} {t : Ticket}

theorem messages_append (rs rs' : List (Ticket × Job)) : messages (rs ++ rs') = messages rs ++ messages rs' :=
  List.filterMap_append

theorem mem_messages {rs : List (Ticket × Job)} {msg : Bytes} : (t, msg) ∈ messages rs ↔ (t, .message msg) ∈ rs := by
  unfold messages
  rw [List.mem_filterMap]
  constructor
  · rintro ⟨⟨u, job⟩, there, he⟩
    obtain ⟨msg', hm, he⟩ := Option.map_eq_some_iff.mp he
    obtain ⟨rfl, rfl⟩ := Prod.mk.inj he
    cases job with
    | shutdown => cases hm
    | message x =>
      obtain rfl := Option.some.inj hm
      exact there
  · intro there
    exact ⟨_, there, rfl⟩

theorem messages_fst (rs : List (Ticket × Job)) : ((messages rs).map Prod.fst).Sublist (rs.map Prod.fst) := by
  induction rs with
  | nil => exact List.Sublist.refl _
  | cons r rs ih =>
    obtain ⟨t, job⟩ := r
    cases job with
    | shutdown => exact ih.cons _
    | message msg => exact ih.cons_cons _

theorem inTurn_empty (f : Framing) : InTurn f [] { framing := f } [] := by
  refine ⟨kept_empty f, List.Sublist.refl _, ?_, ?_, ?_, ?_, List.Perm.refl _⟩
  all_goals
    intros
    contradiction

namespace InTurn

/-- A session that is closed refuses a send that has not asked for its turn. -/
theorem refuse (h : InTurn f asked l book) (t : Ticket) (msg : Bytes) :
    InTurn f (asked ++ [(t, .message msg)]) (l.settleTicket t (.error .closed)) book := by
  have earlier : ∀ {p}, p ∈ asked → p ∈ asked ++ [(t, Job.message msg)] := List.mem_append_left _
  constructor
  · exact ⟨h.kept.framing, h.kept.sound, h.kept.wire, h.kept.turn⟩
  · rw [messages_append]
    exact h.line.trans (List.sublist_append_left _ _)
  · exact fun p hp => earlier (h.queue p hp)
  · intro w hw
    obtain ⟨whole, done⟩ := h.whole w hw
    exact ⟨whole, List.mem_cons_of_mem _ done⟩
  · intro u hu
    have hu : (u, .ok ()) ∈ l.results := by simpa [settleTicket] using hu
    exact (h.done u hu).imp_right earlier
  · intro u e hu
    rcases List.mem_cons.mp hu with he | hu
    · exact .inl (Except.error.inj (Prod.mk.inj he).2)
    · rcases h.failed u e hu with closed | ⟨m, fault, there, why⟩
      · exact .inl closed
      · exact .inr ⟨m, fault, earlier there, why⟩
  · rw [List.map_append]
    exact (tickets_settleTicket _).trans ((h.places.cons t).trans (List.perm_append_singleton t _).symm)

/-- The first in line is done without having its turn. -/
theorem dismiss {job : Job} {rest : List (Ticket × Job)} {r : Except SendError Unit} (h : InTurn f asked l book)
    (idle : l.turn = none) (first : l.queue = (t, job) :: rest) (kept : Kept f l' book) (queue : l'.queue = rest)
    (turn : l'.turn = none) (results : l'.results = (t, r) :: l.results) (ok : r = .ok () → job = .shutdown)
    (error : ∀ e, r = .error e →
      e = .closed ∨ ∃ msg fault, job = .message msg ∧ e = .frame fault ∧ f.encode msg = .error fault)
    (places : l'.tickets.Perm (asked.map Prod.fst)) :
    InTurn f asked l' book := by
  have mine : (t, job) ∈ asked := h.queue _ (by simp [first])
  have same : l'.behind book = l.behind book := by rw [behind_idle idle, behind_idle turn]
  constructor
  · exact kept
  · have fewer : (messages rest).Sublist (messages l.queue) := by
      rw [first]
      exact (List.sublist_cons_self _ _).filterMap _
    rw [queue]
    exact ((List.Sublist.refl _).append fewer).trans h.line
  · intro p hp
    rw [queue] at hp
    exact h.queue p (by simp [first, hp])
  · intro w hw
    rw [same] at hw
    obtain ⟨whole, done⟩ := h.whole w hw
    exact ⟨whole, by simp [results, done]⟩
  · intro u hu
    rw [results] at hu
    rw [same]
    rcases List.mem_cons.mp hu with he | hu
    · obtain ⟨rfl, result⟩ := Prod.mk.inj he
      rw [ok result.symm] at mine
      exact .inr mine
    · exact h.done u hu
  · intro u e hu
    rw [results] at hu
    rcases List.mem_cons.mp hu with he | hu
    · obtain ⟨rfl, result⟩ := Prod.mk.inj he
      rcases error e result.symm with closed | ⟨msg, fault, rfl, why⟩
      · exact .inl closed
      · exact .inr ⟨msg, fault, mine, why⟩
    · exact h.failed u e hu
  · exact places

theorem ask {job : Job} (h : InTurn f asked l book) (queue : l'.queue = l.queue ++ [(t, job)]) (turn : l'.turn = l.turn)
    (results : l'.results = l.results) (kept : Kept f l' book)
    (places : l'.tickets.Perm ((asked ++ [(t, job)]).map Prod.fst)) : InTurn f (asked ++ [(t, job)]) l' book := by
  have earlier : ∀ {p}, p ∈ asked → p ∈ asked ++ [(t, job)] := List.mem_append_left _
  have same : l'.behind book = l.behind book := by rw [behind, behind, turn]
  constructor
  · exact kept
  · have longer := h.line.append (List.Sublist.refl (messages [(t, job)]))
    rw [List.append_assoc, ← messages_append, ← messages_append] at longer
    rw [queue]
    exact longer
  · intro p hp
    rw [queue] at hp
    rcases List.mem_append.mp hp with hp | hp
    · exact earlier (h.queue p hp)
    · exact List.mem_append_right _ hp
  · rw [same, results]
    exact h.whole
  · intro u hu
    rw [results] at hu
    rw [same]
    exact (h.done u hu).imp_right earlier
  · intro u e hu
    rw [results] at hu
    rcases h.failed u e hu with closed | ⟨m, fault, there, why⟩
    · exact .inl closed
    · exact .inr ⟨m, fault, earlier there, why⟩
  · exact places

/-- The first in line begins to write. -/
theorem begins {w : Writing} {rest : List (Ticket × Job)} {bytes : Bytes} (h : InTurn f asked l book)
    (idle : l.turn = none) (first : l.queue = (w.ticket, .message w.message) :: rest) (queue : l'.queue = rest)
    (turn : l'.turn = some (w.ticket, bytes)) (results : l'.results = l.results) (kept : Kept f l' (w :: book))
    (places : l'.tickets.Perm (asked.map Prod.fst)) : InTurn f asked l' (w :: book) := by
  have before : l.behind book = book := behind_idle idle
  have after : l'.behind (w :: book) = book := behind_busy turn
  constructor
  · exact kept
  · have line := h.line
    rw [first] at line
    rw [queue]
    simpa [messages, Job.message?] using line
  · intro p hp
    rw [queue] at hp
    exact h.queue p (by simp [first, hp])
  · rw [after, results]
    rw [← before]
    exact h.whole
  · rw [after, results]
    rw [← before]
    exact h.done
  · rw [results]
    exact h.failed
  · exact places

/-- The one whose turn it is writes on. -/
theorem writes {w v : Writing} {rest rest' : Bytes} (h : InTurn f asked l (w :: book)) (turn : l.turn = some (t, rest))
    (same : v.ticket = w.ticket ∧ v.message = w.message) (queue : l'.queue = l.queue)
    (turn' : l'.turn = some (t, rest')) (results : l'.results = l.results) (kept : Kept f l' (v :: book))
    (places : l'.tickets.Perm (asked.map Prod.fst)) : InTurn f asked l' (v :: book) := by
  have before : l.behind (w :: book) = book := behind_busy turn
  have after : l'.behind (v :: book) = book := behind_busy turn'
  constructor
  · exact kept
  · rw [queue]
    simpa [same] using h.line
  · rw [queue]
    exact h.queue
  · rw [after, results]
    rw [← before]
    exact h.whole
  · rw [after, results]
    rw [← before]
    exact h.done
  · rw [results]
    exact h.failed
  · exact places

/-- The one whose turn it is has written its frame. -/
theorem ends {w : Writing} (h : InTurn f asked l (w :: book)) (turn : l.turn = some (w.ticket, []))
    (whole : w.taken = w.frame.length) (queue : l'.queue = l.queue) (turn' : l'.turn = none)
    (results : l'.results = (w.ticket, .ok ()) :: l.results) (kept : Kept f l' (w :: book))
    (places : l'.tickets.Perm (asked.map Prod.fst)) : InTurn f asked l' (w :: book) := by
  have before : l.behind (w :: book) = book := behind_busy turn
  have after : l'.behind (w :: book) = w :: book := behind_idle turn'
  constructor
  · exact kept
  · rw [queue]
    exact h.line
  · rw [queue]
    exact h.queue
  · intro v hv
    rw [after] at hv
    rw [results]
    rcases List.mem_cons.mp hv with rfl | hv
    · exact ⟨whole, List.mem_cons_self⟩
    · obtain ⟨whole, done⟩ := h.whole v (by rw [before]; exact hv)
      exact ⟨whole, List.mem_cons_of_mem _ done⟩
  · intro u hu
    rw [results] at hu
    rw [after]
    rcases List.mem_cons.mp hu with he | hu
    · exact .inl ⟨w, List.mem_cons_self, (Prod.mk.inj he).1.symm⟩
    · rcases h.done u hu with ⟨v, hv, mine⟩ | shutdown
      · rw [before] at hv
        exact .inl ⟨v, List.mem_cons_of_mem _ hv, mine⟩
      · exact .inr shutdown
  · intro u e hu
    rw [results] at hu
    exact h.failed u e (by simpa using hu)
  · exact places

/-- A move of the lane with which no send is given up. -/
theorem step (h : InTurn f asked l book) (made : l.step m = some l') (persists : m.persists = true) :
    InTurn f (asked ++ m.request?.toList) l' (l.enter book m) := by
  have kept : Kept f l' (l.enter book m) := h.kept.step made
  have framing : l.framing = f := h.kept.framing
  have places : l'.tickets.Perm ((asked ++ m.request?.toList).map Prod.fst) := by
    rw [List.map_append]
    exact (tickets_perm made persists).trans (h.places.append_right _)
  cases step_effect made with
  | request t job => exact h.ask rfl rfl rfl kept places
  | shutdown t rest idle first =>
    rw [enter_shutdown first] at kept ⊢
    simp only [Move.request?, Option.toList_none, List.append_nil] at places ⊢
    exact h.dismiss idle first kept rfl idle rfl (fun _ => rfl) (fun e he => by cases he) places
  | refuse t msg rest e idle first why =>
    rw [enter_refuse first why] at kept ⊢
    simp only [Move.request?, Option.toList_none, List.append_nil] at places ⊢
    refine h.dismiss idle first kept rfl idle rfl (fun he => by cases he) (fun e' he => ?_) places
    obtain rfl := Except.error.inj he
    rcases why with ⟨closed, -⟩ | ⟨fault, he, refused⟩
    · exact .inl closed
    · exact .inr ⟨msg, fault, rfl, he, framing ▸ refused⟩
  | «begin» t msg w rest idle first unreleased frame =>
    rw [enter_begin idle first unreleased frame] at kept ⊢
    simp only [Move.request?, Option.toList_none, List.append_nil] at places ⊢
    exact h.begins idle first rfl rfl rfl kept places
  | accept t rest n turn pos le =>
    simp only [Move.request?, Option.toList_none, List.append_nil] at places ⊢
    obtain ⟨w, older, rfl, -, -⟩ := h.kept.turn t rest turn
    exact h.writes turn ⟨rfl, rfl⟩ rfl rfl rfl kept places
  | finish t turn =>
    simp only [Move.request?, Option.toList_none, List.append_nil] at places ⊢
    obtain ⟨w, older, rfl, rfl, written⟩ := h.kept.turn t [] turn
    have whole : w.taken = w.frame.length :=
      Nat.le_antisymm (h.kept.sound w List.mem_cons_self).2 (List.drop_eq_nil_iff.mp written)
    exact h.ends turn whole rfl rfl rfl kept places
  | fail | abandonTurn | abandonPlace => cases persists

section Own

variable (h : InTurn f asked l book) (own : (asked.map Prod.fst).Nodup)
include h own

/-- No ticket is in two places. -/
theorem alone : l.tickets.Nodup := h.places.nodup_iff.mpr own

/-- The sends that succeeded are those that had their turns, in this order. -/
theorem succeeded_eq : (messages asked).filter (fun p => l.succeeded p.1) =
    (l.behind book).reverse.map fun w => (w.ticket, w.message) := by
  have turns : ((l.behind book).reverse.map fun w => (w.ticket, w.message)).Sublist (messages asked) := by
    have part : (l.behind book).Sublist book := by
      unfold behind
      split
      · exact List.tail_sublist book
      · exact List.Sublist.refl book
    exact ((part.reverse.map _).trans (List.sublist_append_left _ _)).trans h.line
  have each : ∀ p ∈ (l.behind book).reverse.map (fun w => (w.ticket, w.message)), l.succeeded p.1 = true := by
    intro p hp
    obtain ⟨w, hw, rfl⟩ := List.mem_map.mp hp
    have done := (h.whole w (List.mem_reverse.mp hw)).2
    simp only [succeeded, result?_of_mem (h.alone own) done]
  have among := turns.filter fun p => l.succeeded p.1
  rw [List.filter_eq_self.mpr each] at among
  have once : ((messages asked).map Prod.fst).Nodup := (messages_fst asked).nodup own
  refine (among.eq_of_length_le ?_).symm
  refine (List.subperm_of_subset ((List.Nodup.of_map _ once).filter _) fun p hp => ?_).length_le
  obtain ⟨t, msg⟩ := p
  obtain ⟨there, success⟩ := List.mem_filter.mp hp
  have result : l.result? t = some (.ok ()) := by
    unfold succeeded at success
    split at success
    next known => exact known
    · cases success
  rcases h.done t (mem_of_result result) with ⟨w, hw, mine⟩ | shutdown
  · have asked := turns.subset (List.mem_map.mpr ⟨w, List.mem_reverse.mpr hw, rfl⟩)
    have same := List.inj_on_of_nodup_map once asked there mine
    exact List.mem_map.mpr ⟨w, List.mem_reverse.mpr hw, same⟩
  · have same := List.inj_on_of_nodup_map own (mem_messages.mp there) shutdown rfl
    cases (Prod.mk.inj same).2

/-- A message waits under its ticket, or the ticket has its turn or its result. -/
theorem present {msg : Bytes} (there : (t, .message msg) ∈ asked) :
    (t, .message msg) ∈ l.queue ∨ (∃ rest, l.turn = some (t, rest)) ∨ (l.result? t).isSome = true := by
  have place : t ∈ l.tickets := h.places.mem_iff.mpr (List.mem_map.mpr ⟨_, there, rfl⟩)
  rcases List.mem_append.mp place with queued | place
  · obtain ⟨⟨u, job⟩, hq, rfl⟩ := List.mem_map.mp queued
    have same := List.inj_on_of_nodup_map own (h.queue _ hq) there rfl
    exact .inl (same ▸ hq)
  rcases List.mem_append.mp place with turn | done
  · obtain ⟨⟨u, rest⟩, ht, rfl⟩ := List.mem_map.mp turn
    exact .inr (.inl ⟨rest, Option.mem_toList.mp ht⟩)
  · obtain ⟨⟨u, r⟩, hr, rfl⟩ := List.mem_map.mp done
    have known : l.result? u = some r := result?_of_mem (h.alone own) hr
    exact .inr (.inr (by rw [known]; rfl))

end Own

/-- The wire holds whole frames, and what the send whose turn it is has written. -/
theorem written (h : InTurn f asked l book) :
    ∃ frames part, f.encodeAll ((l.behind book).reverse.map (·.message)) = .ok frames ∧ l.wire = frames ++ part ∧
      (l.turn = none → part = []) ∧
      ∀ t rest, l.turn = some (t, rest) → ∃ msg, (t, msg) ∈ messages asked ∧ f.encode msg = .ok (part ++ rest) := by
  have sound : ∀ w ∈ (l.behind book).reverse, w.Sound f := by
    intro w hw
    refine h.kept.sound w ?_
    have hw := List.mem_reverse.mp hw
    unfold behind at hw
    split at hw
    · exact List.mem_of_mem_tail hw
    · exact hw
  have whole : ∀ w ∈ (l.behind book).reverse, w.taken = w.frame.length :=
    fun w hw => (h.whole w (List.mem_reverse.mp hw)).1
  have frames := Session.encodeAll_whole _ sound whole
  have wire := h.kept.wire
  cases turn : l.turn with
  | none =>
    rw [behind_idle turn] at frames ⊢
    exact ⟨_, [], frames, by rw [List.append_nil, wire], fun _ => rfl, fun t rest he => by cases he⟩
  | some p =>
    obtain ⟨t, rest⟩ := p
    obtain ⟨w, older, rfl, mine, left⟩ := h.kept.turn t rest turn
    have line : (t, w.message) ∈ messages asked := by
      rw [← mine]
      exact h.line.subset (by simp)
    rw [behind_busy turn, List.tail_cons] at frames ⊢
    refine ⟨_, w.part, frames, by simp [wire], fun he => (by cases he), fun u rest' he => ?_⟩
    obtain ⟨rfl, rfl⟩ := Prod.mk.inj (Option.some.inj he)
    refine ⟨w.message, line, ?_⟩
    have all : w.part ++ w.frame.drop w.taken = w.frame := List.take_append_drop w.taken w.frame
    rw [← left, all]
    exact (h.kept.sound w List.mem_cons_self).1

end InTurn

end Lane

namespace Session

open Lane (InTurn messages)

def Move.persists : Move → Bool
  | .lane m => m.persists
  | _ => true

/-- All sends, in the order in which they asked for their turn. -/
def sends (ms : List Move) : List (Ticket × Bytes) := messages (requests ms)

/-- The sends that returned without an error. -/
def delivered (s : Session) (ms : List Move) : List (Ticket × Bytes) := (sends ms).filter fun p => s.lane.succeeded p.1

variable {s s' s'' : Session} {m : Move} {ms : List Move} {f : Framing} {book : List Writing}
  {asked : List (Ticket × Lane.Job)} {t : Ticket}

theorem inTurn_step (h : InTurn f asked s.lane book) (made : s.step m = some s') (persists : m.persists = true) :
    InTurn f (asked ++ m.request?.toList) s'.lane (s.enter book m) := by
  cases m with
  | send t msg =>
    simp only [step] at made
    split at made
    · obtain rfl := Option.some.inj made
      exact h.refuse t msg
    · obtain ⟨l, lane, rfl⟩ := Option.map_eq_some_iff.mp made
      exact h.step lane rfl
  | closeAsync t =>
    simp only [step] at made
    obtain ⟨l, lane, rfl⟩ := Option.map_eq_some_iff.mp made
    exact h.step lane rfl
  | lane lm =>
    obtain ⟨l, lane, rfl⟩ := Option.map_eq_some_iff.mp made
    exact h.step lane persists
  | closeIdle =>
    have lane : s'.lane = s.lane := by
      obtain rfl := Option.some.inj made
      unfold closeIdle
      split <;> rfl
    rw [lane]
    simpa [Move.request?, enter] using h
  | close | touch | setAttribute | removeAttribute =>
    obtain rfl := Option.some.inj made
    simpa [Move.request?, enter, close] using h

theorem inTurn_play (fresh : s.lane = { framing := f }) (run : s.play ms = some s')
    (persists : ∀ m ∈ ms, m.persists = true) : InTurn f (requests ms) s'.lane (s.ledger [] ms) := by
  refine play_induction (P := fun ms x => (∀ m ∈ ms, m.persists = true) → InTurn f (requests ms) x.lane (s.ledger [] ms))
    ?_ ?_ run persists
  · intro _
    rw [fresh]
    exact Lane.inTurn_empty f
  · intro ms m x y before made ih persists
    have after := inTurn_step (ih fun m hm => persists m (List.mem_append_left _ hm)) made (persists m (by simp))
    rw [ledger_concat before made, requests_append, requests_singleton]
    exact after

/-- A send is refused as one on a closed session only if the session is closed, or shut down. -/
theorem closed_play (fresh : s.lane = { framing := f }) (run : s.play ms = some s')
    (refused : (t, .error .closed) ∈ s'.lane.results) : s'.closed = true ∨ s'.lane.released = true := by
  refine play_induction
    (P := fun _ x => (t, .error .closed) ∈ x.lane.results → x.closed = true ∨ x.lane.released = true) ?_ ?_ run refused
  · intro refused
    rw [fresh] at refused
    cases refused
  · intro ms m x y _ made ih refused
    have change := step_change made
    have earlier (old : (t, .error .closed) ∈ x.lane.results) : y.closed = true ∨ y.lane.released = true :=
      (ih old).imp change.closed (released_of_step made)
    cases change.lane with
    | ask _ _ _ lane | release _ _ lane | move _ lane =>
      rcases Lane.result_of_step lane refused with old | settled
      · exact earlier old
      · cases settled with
        | refused _ _ _ why => exact .inr (Lane.step_released lane (why rfl))
        | turned _ _ _ unclosed => exact absurd rfl unclosed
    | refuse u' msg closed lane =>
      rw [lane] at refused
      rcases List.mem_cons.mp refused with - | old
      · exact .inl (change.closed closed)
      · exact earlier old
    | none _ lane => exact earlier (lane ▸ refused)

/-- What has come of the sends on a session of which none was given up. -/
structure InOrder (f : Framing) (ms : List Move) (s : Session) : Prop where
  /-- The wire holds the frames of the sends that succeeded, in the order in which they asked for their turn, and
  behind them what the send whose turn it is has written so far. -/
  wire : ∃ frames part, f.encodeAll ((s.delivered ms).map Prod.snd) = .ok frames ∧ s.lane.wire = frames ++ part ∧
    (s.lane.turn = none → part = []) ∧
    ∀ t rest, s.lane.turn = some (t, rest) →
      ∃ m, (t, m) ∈ sends ms ∧ s.lane.result? t = none ∧ f.encode m = .ok (part ++ rest)
  once : ((s.delivered ms).map Prod.fst).Nodup
  /-- No send is lost: it waits, has its turn, or has returned. -/
  present : ∀ t m, (t, m) ∈ sends ms →
    (t, .message m) ∈ s.lane.queue ∨ (∃ rest, s.lane.turn = some (t, rest)) ∨ (s.lane.result? t).isSome = true
  failed : ∀ t m e, (t, m) ∈ sends ms → s.lane.result? t = some (.error e) →
    e = .closed ∧ (s.closed = true ∨ s.lane.released = true) ∨ ∃ fault, e = .frame fault ∧ f.encode m = .error fault
  returned : (∀ p ∈ sends ms, (s.lane.result? p.1).isSome = true) →
    f.encodeAll ((s.delivered ms).map Prod.snd) = .ok s.lane.wire
  /-- The peer reads the messages of the sends that succeeded, however their bytes come in. -/
  received : ∀ chunks : List Bytes, chunks.flatten = s.lane.wire → f.kind.Preserves ((s.delivered ms).map Prod.snd) →
    ∃ more, (f.readFrom {} chunks .eof).1.messages = (s.delivered ms).map Prod.snd ++ more ∧
      (s.lane.turn = none → more = [] ∧ (f.readFrom {} chunks .eof).1.error = none)

/-- If no send is given up and the connection does not fail, the frames are whole and follow one another in the order in
which the sends asked for their turn, however much is taken at a time. -/
theorem sends_in_order (fresh : s.lane = { framing := f }) (run : s.play ms = some s')
    (own : ((requests ms).map Prod.fst).Nodup) (persists : ∀ m ∈ ms, m.persists = true) : InOrder f ms s' := by
  have inTurn := inTurn_play fresh run persists
  have alone := inTurn.alone own
  have succeeded : s'.delivered ms = _ := inTurn.succeeded_eq own
  have messages_eq : (s'.delivered ms).map Prod.snd = (s'.lane.behind (s.ledger [] ms)).reverse.map (·.message) := by
    rw [succeeded, List.map_map]
    rfl
  obtain ⟨frames, part, encoded, wire, idle, busy⟩ := inTurn.written
  rw [← messages_eq] at encoded
  constructor
  · refine ⟨frames, part, encoded, wire, idle, fun t rest turn => ?_⟩
    obtain ⟨m, there, frame⟩ := busy t rest turn
    exact ⟨m, there, Lane.result?_of_turn alone turn, frame⟩
  · have once : ((sends ms).map Prod.fst).Nodup := (Lane.messages_fst _).nodup own
    exact (List.filter_sublist.map Prod.fst).nodup once
  · intro t m there
    exact inTurn.present own (Lane.mem_messages.mp there)
  · intro t m e there result
    have known := Lane.mem_of_result result
    rcases inTurn.failed t e known with rfl | ⟨m', fault, there', why, refused⟩
    · exact .inl ⟨rfl, closed_play fresh run known⟩
    · have same := List.inj_on_of_nodup_map own (Lane.mem_messages.mp there) there' rfl
      obtain rfl : m = m' := by simpa using same
      exact .inr ⟨fault, why, refused⟩
  · intro all
    have none : s'.lane.turn = none := by
      cases turn : s'.lane.turn with
      | none => rfl
      | some p =>
        obtain ⟨m, there, -⟩ := busy p.1 p.2 turn
        have returned := all _ there
        rw [Lane.result?_of_turn alone turn] at returned
        cases returned
    rw [encoded, wire, idle none, List.append_nil]
  · intro chunks bytes preserved
    obtain ⟨read, clean⟩ := f.readFrom_messages chunks
    have divided := f.divide_encodeAll_append _ frames part encoded
    rw [f.kind.flatMap_readBack_eq_iff _ |>.mpr preserved] at divided
    rw [bytes, wire, divided] at read clean
    refine ⟨(f.divide part).messages, read, fun none => ?_⟩
    rw [idle none, f.divide_nil] at clean ⊢
    exact ⟨rfl, clean rfl⟩

/-- Two sends that cross, a shutdown that waits behind them, and a send that comes too late. -/
def crossing : List Move :=
  [.send 0 (textBytes "hi"), .lane .grant, .lane (.accept 2), .send 1 (textBytes "ho"), .closeAsync 2,
    .send 3 (textBytes "no"), .lane (.accept 1), .lane .finish, .lane .grant, .lane (.accept 3), .lane .finish,
    .lane .grant]

theorem sends_in_order_crossing : ∃ s, unused.play crossing = some s ∧ InOrder {} crossing s ∧
    s.lane.wire = textBytes "hi\nho\n" ∧ s.delivered crossing = [(0, textBytes "hi"), (1, textBytes "ho")] ∧
    s.lane.result? 3 = some (.error .closed) := by
  have order (s : Session) (run : unused.play crossing = some s) : InOrder {} crossing s :=
    sends_in_order (f := {}) rfl run (by decide) (by decide)
  exact ⟨_, rfl, order _ rfl, rfl, rfl, rfl⟩

end Session
end FrameServer
