import FrameServer.Proofs.Session.Standing
import FrameServer.Session.Sweep

namespace FrameServer

namespace Session

variable {s s' : Session}

theorem ready_fits {p : Pipe} {m : Lane.Move} (n : Nat) (h : s.ready? p = some m) : (Move.lane m).Fits n n := by
  cases m with
  | request t job =>
    unfold ready? at h
    split at h
    · cases h
    · split at h
      · cases h
      · dsimp only at h
        split at h <;> cases h
    · split at h <;> cases h
  | _ => trivial

theorem path_settleWith (n fuel : Nat) (p : Pipe) (s : Session) : ∃ ms, Path n s ms n (s.settleWith p fuel) := by
  induction fuel generalizing s with
  | zero => exact ⟨[], .nil (Nat.le_refl n)⟩
  | succ fuel ih =>
    unfold settleWith
    split
    · exact ⟨[], .nil (Nat.le_refl n)⟩
    next m hm =>
      split
      · exact ⟨[], .nil (Nat.le_refl n)⟩
      next s' hs =>
        obtain ⟨ms, path⟩ := ih s'
        exact ⟨_, (Path.single _ hs (Nat.le_refl n) (ready_fits n hm)).trans path⟩

theorem path_settle (n : Nat) (p : Pipe) (s : Session) : ∃ ms, Path n s ms n (s.settle p) :=
  path_settleWith n _ p s

end Session

namespace Hub

/-- What can come of the sessions of a hub: each of them makes moves of its own, and the registry only loses entries. -/
structure Leads (h h' : Hub) : Prop where
  tickets : h.tickets ≤ h'.tickets
  registry : h'.registry.entries.Sublist h.registry.entries
  length : h'.sessions.length = h.sessions.length
  session : ∀ k s, h.session? k = some s →
    ∃ s' ms, h'.session? k = some s' ∧ s.Path h.tickets ms h'.tickets s'

variable {h h' h'' : Hub}

namespace Leads

theorem refl (h : Hub) : h.Leads h :=
  ⟨Nat.le_refl _, List.Sublist.refl _, rfl, fun _ s hs => ⟨s, [], hs, .nil (Nat.le_refl _)⟩⟩

theorem trans (a : h.Leads h') (b : h'.Leads h'') : h.Leads h'' := by
  refine ⟨Nat.le_trans a.tickets b.tickets, b.registry.trans a.registry, b.length.trans a.length, ?_⟩
  intro k s hs
  obtain ⟨s', ms, hs', path⟩ := a.session k s hs
  obtain ⟨s'', ms', hs'', path'⟩ := b.session k s' hs'
  exact ⟨s'', ms ++ ms', hs'', path.trans path'⟩

theorem of_same (ht : h.tickets ≤ h'.tickets) (hr : h'.registry.entries.Sublist h.registry.entries)
    (hs : h'.sessions = h.sessions) : h.Leads h' := by
  refine ⟨ht, hr, by rw [hs], fun k s hk => ⟨s, [], ?_, .nil ht⟩⟩
  rw [← hk, session?, hs, session?]

theorem of_path {k : SessionKey} {s s' : Session} {ms : List Session.Move} (hk : h.session? k = some s)
    (path : s.Path h.tickets ms h'.tickets s') (hr : h'.registry.entries.Sublist h.registry.entries)
    (hs : h'.sessions = h.sessions.set k s') : h.Leads h' := by
  refine ⟨path.tickets_le, hr, by simp [hs], fun j u hj => ?_⟩
  have bound : k < h.sessions.length := (List.getElem?_eq_some_iff.mp hk).1
  by_cases e : k = j
  · subst e
    obtain rfl : s = u := Option.some.inj (hk.symm.trans hj)
    exact ⟨s', ms, by rw [session?, hs, List.getElem?_set_self bound], path⟩
  · exact ⟨u, [], by rw [session?, hs, List.getElem?_set_ne e]; exact hj, .nil path.tickets_le⟩

/-- A session that is there afterwards was there before. -/
theorem session_back {k : SessionKey} {s' : Session} (a : h.Leads h') (hs : h'.session? k = some s') :
    ∃ s ms, h.session? k = some s ∧ s.Path h.tickets ms h'.tickets s' := by
  have bound : k < h'.sessions.length := (List.getElem?_eq_some_iff.mp hs).1
  rw [a.length] at bound
  have hk : h.session? k = some h.sessions[k] := List.getElem?_eq_getElem bound
  obtain ⟨u, ms, hu, path⟩ := a.session k _ hk
  obtain rfl : u = s' := Option.some.inj (hu.symm.trans hs)
  exact ⟨_, ms, hk, path⟩

end Leads

variable (h) (k : SessionKey)

theorem leads_move (m : Session.Move) (fits : m.Fits h.tickets h.tickets) : h.Leads (h.move k m) := by
  unfold move
  split
  · exact .refl h
  next s hk =>
    split
    · exact .refl h
    next s' hs => exact .of_path hk (.single m hs (Nat.le_refl _) fits) (List.Sublist.refl _) rfl

theorem leads_settle : h.Leads (h.settle k) := by
  unfold settle
  split
  · exact .refl h
  next s hk =>
    obtain ⟨ms, path⟩ := s.path_settle h.tickets (h.pipe k)
    exact .of_path hk path (List.Sublist.refl _) rfl

theorem leads_settleAll : h.Leads h.settleAll := by
  refine ⟨Nat.le_refl _, List.Sublist.refl _, by simp [settleAll], fun k s hk => ?_⟩
  obtain ⟨ms, path⟩ := s.path_settle h.tickets (h.pipe k)
  refine ⟨s.settle (h.pipe k), ms, ?_, path⟩
  simp only [session?] at hk
  simp [settleAll, session?, List.getElem?_zipIdx, hk]

theorem leads_request (m : Ticket → Session.Move) (fits : (m h.tickets).Fits h.tickets (h.tickets + 1)) :
    h.Leads (h.request k m).2 := by
  have asked : h.Leads ({ h with tickets := h.tickets + 1 }.move k (m h.tickets)) := by
    unfold move
    split
    · exact .of_same (Nat.le_succ _) (List.Sublist.refl _) rfl
    next s hk =>
      split
      · exact .of_same (Nat.le_succ _) (List.Sublist.refl _) rfl
      next s' hs => exact .of_path hk (.single _ hs (Nat.le_succ _) fits) (List.Sublist.refl _) rfl
  unfold request
  dsimp only
  split
  · exact asked.trans (leads_settle _ k)
  · exact asked

theorem leads_send (m : Bytes) : h.Leads (h.send k m).2 :=
  h.leads_request k _ ⟨Nat.le_refl _, Nat.lt_succ_self _⟩

theorem leads_closeAsync : h.Leads (h.request k .closeAsync).2 :=
  h.leads_request k _ ⟨Nat.le_refl _, Nat.lt_succ_self _⟩

@[simp] theorem move_tickets (m : Session.Move) : (h.move k m).tickets = h.tickets := by
  unfold move
  split
  · rfl
  · split <;> rfl

@[simp] theorem settle_tickets : (h.settle k).tickets = h.tickets := by
  unfold settle
  split <;> rfl

@[simp] theorem request_tickets (m : Ticket → Session.Move) : (h.request k m).2.tickets = h.tickets + 1 := by
  unfold request
  dsimp only
  split <;> simp

theorem session_move {m : Session.Move} {s s' : Session} (hk : h.session? k = some s) (hs : s.step m = some s') :
    (h.move k m).session? k = some s' := by
  have bound : k < h.sessions.length := (List.getElem?_eq_some_iff.mp hk).1
  simp only [move, hk, hs]
  exact List.getElem?_set_self bound

/-- A shutdown that is asked for has its ticket for itself. -/
theorem closeAsync_reserved {s s' : Session} (hk : h.session? k = some s) (new : ¬ s.lane.Names h.tickets)
    (hk' : (h.request k .closeAsync).2.session? k = some s') : s'.lane.Reserved h.tickets := by
  obtain ⟨y, hy⟩ : ∃ y, s.step (.closeAsync h.tickets) = some y := ⟨_, rfl⟩
  have reserved : y.lane.Reserved h.tickets := by
    simp only [Session.step, Option.map_eq_some_iff] at hy
    obtain ⟨l, hl, rfl⟩ := hy
    exact Lane.reserved_of_new new hl
  have asked : ({ h with tickets := h.tickets + 1 }.move k (.closeAsync h.tickets)).session? k = some y :=
    session_move _ k hk hy
  unfold request at hk'
  dsimp only at hk'
  split at hk'
  · obtain ⟨z, ms, hz, path⟩ := (leads_settle _ k).session_back hk'
    obtain rfl : y = z := Option.some.inj (asked.symm.trans hz)
    exact path.reserved (by simp) reserved
  · obtain rfl : y = s' := Option.some.inj (asked.symm.trans hk')
    exact reserved

theorem leads_call (c : Session.Call) : h.Leads (h.call k c).2 := by
  refine h.leads_request k _ ?_
  cases c with
  | send | closeAsync => exact ⟨Nat.le_refl _, Nat.lt_succ_self _⟩
  | _ => trivial

theorem leads_sendEach (m : Bytes) (ks : List SessionKey) : h.Leads (h.sendEach m ks).2 := by
  induction ks generalizing h with
  | nil => exact .refl h
  | cons k ks ih => exact (h.leads_send k m).trans (ih (h.send k m).2)

theorem leads_broadcast (m : Bytes) : h.Leads (h.broadcast m).2 := h.leads_sendEach m _

theorem leads_abandon (t : Ticket) : h.Leads (h.abandon k t) :=
  h.leads_move k (.lane (.abandon t)) trivial

theorem leads_giveUp (t : Ticket) : h.Leads ((h.move k (.lane (.abandon t))).settle k) :=
  (h.leads_abandon k t).trans (leads_settle _ k)

theorem leads_abandonAll (ts : List (SessionKey × Ticket)) : h.Leads (h.abandonAll ts) := by
  induction ts generalizing h with
  | nil => exact .refl h
  | cons p ts ih => exact (h.leads_abandon p.1 p.2).trans (ih (h.abandon p.1 p.2))

theorem leads_closeIdle : h.Leads (h.closeIdle k).2 := by
  unfold closeIdle
  split
  · exact h.leads_move k .closeIdle trivial
  · exact .refl h

/-- What a peer or its connection does is no move of its session. -/
theorem leads_setPipe (p : Pipe) : h.Leads (h.setPipe k p) := .of_same (Nat.le_refl _) (List.Sublist.refl _) rfl

end Hub

namespace Sweep

variable (h : Hub)

theorem leads_visit (deadline : Nat) (ts : List (SessionKey × Ticket)) : h.Leads (visit deadline ts h).2.2 := by
  induction ts generalizing h with
  | nil => exact .refl h
  | cons p ts ih =>
    unfold visit
    dsimp only
    split
    · split
      · exact (h.leads_closeIdle p.1).trans (ih _)
      · exact ((h.leads_abandon p.1 p.2).trans (Hub.leads_closeIdle _ p.1)).trans (ih _)
    · exact ih h

theorem leads_progress (w : Sweep) : h.Leads (w.progress h).2 := leads_visit h w.deadline w.pending

theorem leads_start (limit patience : Nat) : h.Leads (start h limit patience).2 :=
  (h.leads_sendEach idleNotice _).trans (leads_progress _ _)

end Sweep

namespace Monitor

variable (m : Monitor) (h : Hub)

theorem leads_stop : h.Leads (m.stop h).2 := h.leads_abandonAll _

theorem leads_act : h.Leads (m.act h).2 := by
  unfold act
  cases hw : m.sweep with
  | none =>
    dsimp only
    split
    · split
      · exact Sweep.leads_start h _ _
      · exact .refl h
    · exact .refl h
  | some w =>
    have on := Sweep.leads_progress h w
    dsimp only
    split
    · split
      · exact on.trans (Sweep.leads_start _ _ _)
      · exact on
    · exact on

end Monitor
end FrameServer
