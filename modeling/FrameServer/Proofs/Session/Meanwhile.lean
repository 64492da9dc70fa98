import FrameServer.Proofs.Session.Broadcast

namespace FrameServer

theorem Lane.wire_of_step {l l' : Lane} {m : Lane.Move} (h : l.step m = some l') :
    l.wire.length ≤ l'.wire.length := by
  cases step_effect h with
  | accept => simp
  | _ => exact Nat.le_refl _

/-- What a connection has taken stays taken. -/
theorem Session.Path.wire_le {n n' : Nat} {s s' : Session} {ms : List Session.Move} (h : s.Path n ms n' s') :
    s.lane.wire.length ≤ s'.lane.wire.length := by
  refine h.invariant (P := fun _ x => s.lane.wire.length ≤ x.lane.wire.length) (fun _ le => le) ?_ (Nat.le_refl _)
  intro i j x y m hs _ _ _ le
  refine Nat.le_trans le ?_
  cases (Session.step_change hs).lane with
  | ask _ _ _ lane | release _ _ lane | move _ lane => exact Lane.wire_of_step lane
  | refuse _ _ _ lane | none _ lane => exact Nat.le_of_eq (congrArg (·.wire.length) lane).symm

namespace Hub

/-- Every session makes moves of its own, and what its peer has read was written. -/
structure Meanwhile (h h' : Hub) : Prop where
  tickets : h.tickets ≤ h'.tickets
  session : ∀ k s, h.session? k = some s → ∃ s' ms, h'.session? k = some s' ∧ s.Path h.tickets ms h'.tickets s'
  read : ∀ k s s', h.session? k = some s → h'.session? k = some s' → (h.pipe k).read ≤ s.lane.wire.length →
    (h'.pipe k).read ≤ s'.lane.wire.length

/-- Sessions that began with nothing on their lanes, each registered once at most. -/
structure Coherent (h : Hub) : Prop where
  past : ∀ k s, h.session? k = some s → ∃ (f : Framing) (s₀ : Session) (n : Nat) (ms : List Session.Move),
    s₀.lane = { framing := f } ∧ s₀.Path n ms h.tickets s
  once : h.registry.keys.Nodup
  read : ∀ k s, h.session? k = some s → (h.pipe k).read ≤ s.lane.wire.length

theorem Orderly.coherent {f : Framing} {h : Hub} (orderly : h.Orderly f) : h.Coherent := by
  refine ⟨fun k s hs => ?_, orderly.once, orderly.read⟩
  obtain ⟨s₀, n, ms, fresh, path⟩ := orderly.past k s hs
  exact ⟨f, s₀, n, ms, fresh, path⟩

/-- Whether session `k` is registered, open, and idle for more than `limit`. -/
def Lapsed (h : Hub) (limit : Nat) (k : SessionKey) : Prop :=
  k ∈ h.registry.keys ∧ ∃ s, h.session? k = some s ∧ s.closed = false ∧ limit < s.idleFor h.clock

/-- The sessions that are open in `h` and closed in `h'`. -/
def closings (h h' : Hub) : List SessionKey := (List.range h.sessions.length).filter fun k =>
  (h.session? k).any (!·.closed) && (h'.session? k).any (·.closed)

variable {h h' h'' : Hub} {k : SessionKey} {limit : Nat} {s : Session}

theorem mem_idleKeys : k ∈ h.idleKeys limit ↔ h.Lapsed limit k := by
  unfold idleKeys Lapsed
  rw [List.mem_filter]
  cases h.session? k with
  | none => simp
  | some s => simp [Session.alive]

theorem mem_closings : k ∈ h.closings h' ↔ ∃ s s', h.session? k = some s ∧ s.closed = false ∧
    h'.session? k = some s' ∧ s'.closed = true := by
  unfold closings
  rw [List.mem_filter, List.mem_range]
  simp only [Bool.and_eq_true, Option.any_eq_true, Bool.not_eq_true']
  constructor
  · rintro ⟨-, ⟨s, hs, unclosed⟩, s', hs', closed⟩
    exact ⟨s, s', hs, unclosed, hs', closed⟩
  · rintro ⟨s, s', hs, unclosed, hs', closed⟩
    exact ⟨(List.getElem?_eq_some_iff.mp hs).1, ⟨s, hs, unclosed⟩, s', hs', closed⟩

theorem nodup_closings : (h.closings h').Nodup := List.nodup_range.filter _

/-- Where only session `k` may have changed, no other can have been closed. -/
theorem closings_one {s' : Session} (hs : h.session? k = some s) (hs' : h'.session? k = some s')
    (same : ∀ j, j ≠ k → h'.session? j = h.session? j) :
    h.closings h' = if !s.closed && s'.closed then [k] else [] := by
  have only : ∀ j ∈ h.closings h', j = k := by
    intro j closing
    obtain ⟨x, x', hx, unclosed, hx', closed⟩ := mem_closings.mp closing
    by_contra e
    obtain rfl := Option.some.inj (hx.symm.trans ((same j e).symm.trans hx'))
    rw [unclosed] at closed
    cases closed
  have this : k ∈ h.closings h' ↔ (!s.closed && s'.closed) = true := by
    simp [mem_closings, hs, hs']
  have once : (h.closings h').Nodup := nodup_closings
  generalize h.closings h' = cs at only this once
  match cs with
  | [] => rw [if_neg fun closing => absurd (this.mpr closing) List.not_mem_nil]
  | [j] =>
    obtain rfl := only j List.mem_cons_self
    rw [if_pos (this.mp List.mem_cons_self)]
  | i :: j :: rest =>
    have first := only i List.mem_cons_self
    have second := only j (List.mem_cons_of_mem _ List.mem_cons_self)
    rw [first, second] at once
    simp at once

namespace Meanwhile

theorem refl (h : Hub) : h.Meanwhile h := by
  refine ⟨Nat.le_refl _, fun k s hs => ⟨s, [], hs, .nil (Nat.le_refl _)⟩, fun k s s' hs hs' read => ?_⟩
  obtain rfl := Option.some.inj (hs.symm.trans hs')
  exact read

theorem trans (a : h.Meanwhile h') (b : h'.Meanwhile h'') : h.Meanwhile h'' := by
  refine ⟨Nat.le_trans a.tickets b.tickets, fun k s hs => ?_, fun k s s'' hs hs'' read => ?_⟩
  · obtain ⟨s', ms, hs', path⟩ := a.session k s hs
    obtain ⟨s'', ms', hs'', path'⟩ := b.session k s' hs'
    exact ⟨s'', ms ++ ms', hs'', path.trans path'⟩
  · obtain ⟨s', -, hs', -⟩ := a.session k s hs
    exact b.read k s' s'' hs' hs'' (a.read k s s' hs hs' read)

/-- What goes on among the sessions themselves. -/
theorem of_leads (leads : h.Leads h') (steady : h.Steady h') : h.Meanwhile h' := by
  refine ⟨leads.tickets, leads.session, fun k s s' hs hs' read => ?_⟩
  obtain ⟨t, ms, ht, path⟩ := leads.session k s hs
  obtain rfl := Option.some.inj (ht.symm.trans hs')
  rw [steady.pipe k]
  exact Nat.le_trans read path.wire_le

theorem closed (a : h.Meanwhile h') (closed : ∃ s, h.session? k = some s ∧ s.closed = true) :
    ∃ s, h'.session? k = some s ∧ s.closed = true := by
  obtain ⟨s, hs, closed⟩ := closed
  obtain ⟨s', ms, hs', path⟩ := a.session k s hs
  exact ⟨s', hs', path.closed closed⟩

theorem closedIdle (a : h.Meanwhile h')
    (closed : ∃ s, h.session? k = some s ∧ s.closed = true ∧ s.closedIdle = true) :
    ∃ s, h'.session? k = some s ∧ s.closed = true ∧ s.closedIdle = true := by
  obtain ⟨s, hs, closed, idle⟩ := closed
  obtain ⟨s', ms, hs', path⟩ := a.session k s hs
  exact ⟨s', hs', path.closed closed, path.closedIdle idle⟩

end Meanwhile

/-- Sessions that have just come are coherent. -/
theorem coherent_fresh (fresh : ∀ s ∈ h.sessions, ∃ f, s.lane = { framing := f }) (once : h.registry.keys.Nodup)
    (unread : ∀ p ∈ h.pipes, p.read = 0) : h.Coherent := by
  refine ⟨fun k s hs => ?_, once, fun k s _ => ?_⟩
  · obtain ⟨f, fresh⟩ := fresh s (List.mem_of_getElem? hs)
    exact ⟨f, s, 0, [], fresh, .nil (Nat.zero_le _)⟩
  · have unread : (h.pipe k).read = 0 := by
      unfold pipe
      cases there : h.pipes[k]? with
      | none => rfl
      | some p => exact unread p (List.mem_of_getElem? there)
    rw [unread]
    exact Nat.zero_le _

theorem Coherent.of_leads (coherent : h.Coherent) (leads : h.Leads h') (steady : h.Steady h') : h'.Coherent := by
  have meanwhile := Meanwhile.of_leads leads steady
  refine ⟨fun k s' hs' => ?_, ?_, fun k s' hs' => ?_⟩
  · obtain ⟨s, ms', hs, path⟩ := leads.session_back hs'
    obtain ⟨f, s₀, n, ms, fresh, past⟩ := coherent.past k s hs
    exact ⟨f, s₀, n, ms ++ ms', fresh, past.trans path⟩
  · rw [steady.registry]
    exact coherent.once
  · obtain ⟨s, -, hs, -⟩ := leads.session_back hs'
    exact meanwhile.read k s s' hs hs' (coherent.read k s hs)

/-- A session of a coherent hub has come from its beginning, whatever happened since. -/
theorem Coherent.session (coherent : h.Coherent) (meanwhile : h.Meanwhile h') (hs : h.session? k = some s) :
    ∃ x, h'.session? k = some x ∧ (h'.pipe k).read ≤ x.lane.wire.length ∧
      ∃ (f : Framing) (s₀ : Session) (n : Nat) (ms : List Session.Move), s₀.lane = { framing := f } ∧
        s₀.Path n ms h'.tickets x := by
  obtain ⟨f, s₀, n, ms, fresh, past⟩ := coherent.past k s hs
  obtain ⟨x, ms', hx, path⟩ := meanwhile.session k s hs
  exact ⟨x, hx, meanwhile.read k s x hs hx (coherent.read k s hs), f, s₀, n, _, fresh, past.trans path⟩

end Hub
end FrameServer
