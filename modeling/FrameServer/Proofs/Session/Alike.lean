import FrameServer.Proofs.Session.Sweep

namespace FrameServer

namespace Hub

/-- In both hubs session `k` is the same, and so are its connection and the time. -/
structure Alike (k : SessionKey) (h g : Hub) : Prop where
  session : h.session? k = g.session? k
  pipe : h.pipe k = g.pipe k
  clock : h.clock = g.clock

variable {h h' g g' : Hub} {k j : SessionKey}

namespace Alike

theorem refl (k : SessionKey) (h : Hub) : Alike k h h := ⟨rfl, rfl, rfl⟩

theorem symm (a : Alike k h g) : Alike k g h := ⟨a.session.symm, a.pipe.symm, a.clock.symm⟩

theorem trans (a : Alike k h g) (b : Alike k g g') : Alike k h g' :=
  ⟨a.session.trans b.session, a.pipe.trans b.pipe, a.clock.trans b.clock⟩

/-- What leaves the session alone leaves the hubs alike. -/
theorem elsewhere (steady : h.Steady h') (same : h'.session? k = h.session? k) : Alike k h' h :=
  ⟨same, steady.pipe k, steady.clock⟩

theorem result? (a : Alike k h g) (t : Ticket) : h.result? k t = g.result? k t := by
  simp only [Hub.result?, a.session]

theorem steady (a : Alike k h g) (sh : h.Steady h') (sg : g.Steady g') (same : h'.session? k = g'.session? k) :
    Alike k h' g' :=
  ⟨same, ((sh.pipe k).trans a.pipe).trans (sg.pipe k).symm, (sh.clock.trans a.clock).trans sg.clock.symm⟩

end Alike

theorem session_move_self (h : Hub) (k : SessionKey) (m : Session.Move) :
    (h.move k m).session? k = (h.session? k).map fun s => (s.step m).getD s := by
  cases hs : h.session? k with
  | none => simp only [move, hs, Option.map_none]
  | some s =>
    cases made : s.step m with
    | none => simp only [move, hs, made, Option.map_some, Option.getD_none]
    | some s' => rw [session_move h k hs made, Option.map_some, made, Option.getD_some]

theorem session_settle_self (h : Hub) (k : SessionKey) :
    (h.settle k).session? k = (h.session? k).map (·.settle (h.pipe k)) := by
  cases hs : h.session? k with
  | none => simp only [settle, hs, Option.map_none]
  | some s => rw [settle_here hs, Option.map_some]

theorem Alike.move (a : Alike k h g) (j : SessionKey) (m : Session.Move) : Alike k (h.move j m) (g.move j m) := by
  refine a.steady (h.steady_move j m) (g.steady_move j m) ?_
  by_cases e : j = k
  · subst e
    rw [session_move_self, session_move_self, a.session]
  · rw [move_elsewhere e, move_elsewhere e, a.session]

theorem Alike.closeIdle (a : Alike k h g) : (h.closeIdle k).1 = (g.closeIdle k).1 ∧
    Alike k (h.closeIdle k).2 (g.closeIdle k).2 := by
  unfold Hub.closeIdle
  rw [a.session]
  cases g.session? k with
  | none => exact ⟨rfl, a⟩
  | some s => exact ⟨rfl, a.move k .closeIdle⟩

/-- A send under the same ticket does the same. -/
theorem Alike.send (a : Alike k h g) (tickets : h.tickets = g.tickets) (j : SessionKey) (m : Bytes) :
    Alike k (h.send j m).2 (g.send j m).2 := by
  refine a.steady (h.steady_request j _) (g.steady_request j _) ?_
  by_cases e : j = k
  · subst e
    have next : Alike j { h with tickets := h.tickets + 1 } { g with tickets := g.tickets + 1 } :=
      ⟨a.session, a.pipe, a.clock⟩
    have free : h.isFree j = g.isFree j := by
      unfold isFree
      rw [a.session]
    have asked := next.move j (.send g.tickets m)
    unfold Hub.send request
    dsimp only
    rw [free, tickets]
    rw [tickets] at asked
    split
    · rw [session_settle_self, session_settle_self, asked.session, asked.pipe]
    · exact asked.session
  · rw [send_elsewhere e, send_elsewhere e, a.session]

theorem Alike.sendEach (a : Alike k h g) (tickets : h.tickets = g.tickets) (m : Bytes) (ks : List SessionKey) :
    (h.sendEach m ks).1 = (g.sendEach m ks).1 ∧ Alike k (h.sendEach m ks).2 (g.sendEach m ks).2 := by
  induction ks generalizing h g with
  | nil => exact ⟨rfl, a⟩
  | cons j ks ih =>
    have next : (h.send j m).2.tickets = (g.send j m).2.tickets := by
      rw [show (h.send j m).2.tickets = _ from request_tickets h j (.send · m),
        show (g.send j m).2.tickets = _ from request_tickets g j (.send · m), tickets]
    obtain ⟨same, after⟩ := ih (a.send tickets j m) next
    refine ⟨?_, after⟩
    simp only [Hub.sendEach, same]
    exact congrArg (fun t => (j, t) :: _) tickets

end Hub

namespace Sweep

open Hub (Alike)

variable {h g : Hub} {k : SessionKey} {n : Notice}

theorem part_alike (a : Alike n.key h g) : (n.part h).1 = (n.part g).1 ∧ Alike n.key (n.part h).2 (n.part g).2 := by
  unfold Notice.part
  rw [a.result?]
  split
  · exact a.closeIdle
  · exact (a.move n.key (.lane (.abandon n.ticket))).closeIdle

/-- The notices of session `k`. -/
def own (k : SessionKey) (ts : List (SessionKey × Ticket)) : List (SessionKey × Ticket) := ts.filter (·.1 = k)

/-- For session `k` it does not matter what other notices there are. -/
theorem visit_own (deadline : Nat) (ts : List (SessionKey × Ticket)) (a : Alike k h g) :
    own k (visit deadline ts h).1 = (visit deadline (own k ts) g).1 ∧
      Alike k (visit deadline ts h).2.2 (visit deadline (own k ts) g).2.2 := by
  induction ts generalizing h g with
  | nil => exact ⟨rfl, a⟩
  | cons p ts ih =>
    obtain ⟨j, t⟩ := p
    by_cases e : j = k
    · subst e
      have mine : own j ((j, t) :: ts) = (j, t) :: own j ts := List.filter_cons_of_pos (by simp)
      rw [mine, visit_cons, visit_cons, a.result?, a.clock]
      split
      · exact ih (part_alike (n := ⟨j, t, deadline⟩) a).2
      · obtain ⟨same, after⟩ := ih a
        refine ⟨?_, after⟩
        dsimp only
        rw [← same]
        exact List.filter_cons_of_pos (by simp)
    · have others (us : List (SessionKey × Ticket)) : own k ((j, t) :: us) = own k us :=
        List.filter_cons_of_neg (by simpa using e)
      rw [others, visit_cons]
      split
      · refine ih (.trans ?_ a)
        exact .elsewhere (steady_part _ h) (part_elsewhere e)
      · obtain ⟨same, after⟩ := ih a
        exact ⟨(others _).trans same, after⟩

/-- Two sweeps that go on with the same notices for session `k`. -/
structure Alongside (k : SessionKey) (w : Sweep) (h : Hub) (v : Sweep) (g : Hub) : Prop where
  alike : Alike k h g
  deadline : w.deadline = v.deadline
  own : own k w.pending = own k v.pending

variable {w v : Sweep}

theorem Alongside.progress (a : Alongside k w h v g) :
    Alongside k (w.progress h).1 (w.progress h).2 (v.progress g).1 (v.progress g).2 := by
  obtain ⟨same, after⟩ := visit_own w.deadline w.pending a.alike
  obtain ⟨same', after'⟩ := visit_own v.deadline v.pending (Alike.refl k g)
  rw [a.own, a.deadline] at same after
  refine ⟨?_, a.deadline, ?_⟩
  · unfold Sweep.progress
    rw [a.deadline]
    exact after.trans after'.symm
  · unfold Sweep.progress
    rw [a.deadline]
    exact same.trans same'.symm

theorem alongside_start {limit patience : Nat} (a : Alike k h g) (tickets : h.tickets = g.tickets)
    (chosen : h.idleKeys limit = g.idleKeys limit) : Alongside k (start h limit patience).1 (start h limit patience).2
      (start g limit patience).1 (start g limit patience).2 := by
  obtain ⟨same, after⟩ := a.sendEach tickets idleNotice (h.idleKeys limit)
  unfold start
  rw [← chosen]
  refine Alongside.progress ⟨after, ?_, ?_⟩
  · dsimp only
    rw [after.clock]
  · dsimp only
    rw [same]

/-- A sweep goes on after everything that happens meanwhile. -/
def along (w : Sweep) (h : Hub) : List (Hub → Hub) → Sweep × Hub
  | [] => (w, h)
  | e :: es => along (w.progress (e h)).1 (w.progress (e h)).2 es

/-- What is the same for session `k` stays the same for it all along the sweep. -/
theorem Alongside.along {es fs : List (Hub → Hub)} (a : Alongside k w h v g)
    (same : List.Forall₂ (fun e f => ∀ h g, Alike k h g → Alike k (e h) (f g)) es fs) :
    Alongside k (w.along h es).1 (w.along h es).2 (v.along g fs).1 (v.along g fs).2 := by
  induction same generalizing w h v g with
  | nil => exact a
  | cons first _ ih => exact ih (Alongside.progress ⟨first h g a.alike, a.deadline, a.own⟩)

end Sweep

/-- What a sweep of `h₀` comes to, in whatever order it and the others go on. -/
structure Hub.SweepsIdle (h₀ : Hub) (limit patience : Nat) : Prop where
  swept : ∀ r h cs, Sweep.Course h₀ limit patience r h cs → Sweep.Swept h₀ limit patience r h cs
  starts : ∃ sent cs, Sweep.Course h₀ limit patience ((Sweep.start h₀ limit patience).1.round sent)
    (Sweep.start h₀ limit patience).2 cs
  goesOn : ∀ (w : Sweep) sent h cs, Sweep.Course h₀ limit patience (w.round sent) h cs →
    ∃ cs', Sweep.Course h₀ limit patience ((w.progress h).1.round sent) (w.progress h).2 cs'
  ends : ∀ (w : Sweep) h, w.deadline ≤ h.clock → (w.progress h).1.isOver = true
  /-- Whether the other sessions read, stall or fail makes no difference to session `k`. -/
  unhindered : ∀ k g, Hub.Alike k h₀ g → h₀.tickets = g.tickets → h₀.idleKeys limit = g.idleKeys limit →
    ∀ es fs, List.Forall₂ (fun e f => ∀ h g, Hub.Alike k h g → Hub.Alike k (e h) (f g)) es fs →
      Sweep.Alongside k
        ((Sweep.start h₀ limit patience).1.along (Sweep.start h₀ limit patience).2 es).1
        ((Sweep.start h₀ limit patience).1.along (Sweep.start h₀ limit patience).2 es).2
        ((Sweep.start g limit patience).1.along (Sweep.start g limit patience).2 fs).1
        ((Sweep.start g limit patience).1.along (Sweep.start g limit patience).2 fs).2

theorem Hub.Coherent.sweepsIdle {h₀ : Hub} (coherent : h₀.Coherent) (limit patience : Nat) :
    h₀.SweepsIdle limit patience where
  swept _ _ _ course := course.swept coherent
  starts := Sweep.course_start h₀ limit patience
  goesOn _ _ _ _ course := Sweep.course_progress course
  ends _ _ late := Sweep.progress_over late
  unhindered _ _ alike tickets chosen _ _ same := (Sweep.alongside_start alike tickets chosen).along same

end FrameServer
