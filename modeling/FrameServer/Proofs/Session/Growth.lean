import FrameServer.Proofs.Session.Share

namespace FrameServer

variable {f : Framing} {n : Nat} {base m : Bytes} {t : Ticket} {book : List Writing}

/-- The turns of a ticket that had just one. -/
theorem share_eq_singleton {w : Writing} (only : share book t = [w]) :
    ∃ newer older, book = newer ++ w :: older ∧ share newer t = [] ∧ share older t = [] ∧ w.ticket = t := by
  obtain ⟨newer, older, split, others, own, rest⟩ := List.filter_eq_cons_iff.mp only
  exact ⟨newer, older, split, List.filter_eq_nil_iff.mpr others, rest, of_decide_eq_true own⟩

namespace Lane

/-- `base` was written before the tickets from `n` on were given out. -/
structure Beyond (n : Nat) (base : Bytes) (l : Lane) (book : List Writing) : Prop where
  wire : base <+: l.wire
  turns : ∀ newer w older, book = newer ++ w :: older → n ≤ w.ticket → base <+: older.reverse.flatMap (·.part)

/-- What the wire holds of a send of `m` under ticket `t`, and where. -/
structure Accounted (f : Framing) (t : Ticket) (m base : Bytes) (l : Lane) (book : List Writing) : Prop where
  wire : l.wire = book.reverse.flatMap (·.part)
  /-- A send that succeeded has written one frame, behind all that was there before it. -/
  counted : l.result? t = some (.ok ()) → ∃ newer w older between, book = newer ++ w :: older ∧
    w.ticket = t ∧ w.message = m ∧ f.encode m = .ok w.frame ∧ share newer t = [] ∧ share older t = [] ∧
    older.reverse.flatMap (·.part) = base ++ between ∧
    l.wire = base ++ between ++ w.frame ++ newer.reverse.flatMap (·.part)
  /-- A send on a closed session has not written a byte. -/
  closed : l.result? t = some (.error .closed) → share book t = []
  /-- Nor has one whose frame is refused, and it does not succeed. -/
  refused : ∀ e, f.encode m = .error e → share book t = [] ∧ l.result? t ≠ some (.ok ())
  once : (share book t).length ≤ 1
  own : ∀ w ∈ share book t, w.message = m ∧ f.encode m = .ok w.frame

variable {l l' : Lane} {mv : Move}

theorem Beyond.step (kept : Kept f l book) (beyond : Beyond n base l book) (h : l.step mv = some l') :
    Beyond n base l' (l.enter book mv) := by
  have stroke := stroke book h
  generalize l.enter book mv = book' at stroke
  cases stroke with
  | start t msg frame idle asked encoded turn wire =>
    refine ⟨wire ▸ beyond.wire, fun newer w older split new => ?_⟩
    cases newer with
    | nil =>
      obtain ⟨-, rfl⟩ := List.cons.inj split
      rw [← kept.wire]
      exact beyond.wire
    | cons v newer => exact beyond.turns newer w older (List.cons.inj split).2 new
  | take t rest k mine pos le turn wire =>
    obtain ⟨v, behind, rfl, -, -⟩ := kept.turn t rest mine
    refine ⟨wire ▸ beyond.wire.trans (List.prefix_append _ _), fun newer w older split new => ?_⟩
    cases newer with
    | nil =>
      obtain ⟨rfl, rfl⟩ := List.cons.inj split
      exact beyond.turns [] v behind rfl new
    | cons u newer =>
      exact beyond.turns (v :: newer) w older (congrArg (v :: ·) (List.cons.inj split).2) new
  | leave _ t rest mine turn wire | other _ turn wire => exact ⟨wire ▸ beyond.wire, beyond.turns⟩

theorem Fate.accounted (kept : Kept f l book) (fate : Fate f t m l book) (beyond : Beyond n base l book)
    (new : n ≤ t) : Accounted f t m base l book := by
  have mine : ∀ w ∈ share book t, w.message = m ∧ f.encode m = .ok w.frame := by
    intro w hw
    have sound := (kept.sound w (List.mem_filter.mp hw).1).1
    rw [fate.own w hw] at sound
    exact ⟨fate.own w hw, sound⟩
  refine ⟨kept.wire, fun ok => ?_, fun result => ?_, fun e refused => ?_, fate.single, mine⟩
  · cases fate.ended _ (mem_of_result ok) with
    | whole w only all =>
      obtain ⟨message, encoded⟩ := mine w (only ▸ List.mem_cons_self)
      obtain ⟨newer, older, split, before, later, ticket⟩ := share_eq_singleton only
      obtain ⟨between, parts⟩ := beyond.turns newer w older split (ticket ▸ new)
      have whole : w.part = w.frame := by rw [Writing.part, all, List.take_length]
      refine ⟨newer, w, older, between, split, ticket, message, encoded, before, later, parts.symm, ?_⟩
      rw [kept.wire, split, List.reverse_append, List.reverse_cons, List.flatMap_append, List.flatMap_append,
        List.flatMap_singleton, ← parts, whole]
  · cases fate.ended _ (mem_of_result result) with
    | refused _ nothing => exact nothing
  · have nothing : share book t = [] := by
      refine List.eq_nil_iff_forall_not_mem.mpr fun w hw => ?_
      rw [(mine w hw).2] at refused
      cases refused
    refine ⟨nothing, fun ok => ?_⟩
    cases fate.ended _ (mem_of_result ok) with
    | whole w only =>
      rw [nothing] at only
      cases only

end Lane

namespace Session

open Lane (Beyond Kept)

variable {s s' s₀ : Session} {mv : Move} {ms : List Move} {n' n₀ : Nat}

theorem beyond_step (kept : Kept f s.lane book) (beyond : Beyond n base s.lane book) (h : s.step mv = some s') :
    Beyond n base s'.lane (s.enter book mv) := by
  cases onLane book h with
  | move lm lane entered => exact entered ▸ beyond.step kept lane
  | still _ _ wire _ entered =>
    rw [entered]
    exact ⟨wire ▸ beyond.wire, beyond.turns⟩

theorem Path.beyond (path : Path n s ms n' s') (kept : Kept f s.lane book) {i : Nat}
    (beyond : Beyond i base s.lane book) :
    Kept f s'.lane (s.ledger book ms) ∧ Beyond i base s'.lane (s.ledger book ms) := by
  induction path with
  | nil => exact ⟨kept, beyond⟩
  | snoc path mv hs _ _ ih =>
    rw [ledger_concat path.play hs]
    exact ⟨kept_step ih.1 hs, beyond_step ih.1 ih.2 hs⟩

/-- So far no ticket is new. -/
theorem Path.beyond_fresh (fresh : s₀.lane = { framing := f }) (path : s₀.Path n₀ ms n s) :
    Beyond n s.lane.wire s.lane (s₀.ledger [] ms) := by
  refine ⟨List.prefix_rfl, fun newer w older split new => ?_⟩
  have older := path.send_lt ((path.asked fresh).book w (split ▸ List.mem_append_right _ List.mem_cons_self))
  exact absurd older (Nat.not_lt.mpr new)

end Session
end FrameServer
