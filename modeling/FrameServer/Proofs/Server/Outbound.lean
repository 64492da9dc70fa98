import FrameServer.Proofs.Server.Common
import FrameServer.Proofs.Session.Sending

namespace FrameServer.Server

def Label.isNetwork (k : SessionKey) : Label → Bool
  | .widen j _ | .fail j _ => j == k
  | _ => false

/-- What a session still sends, and whether it is closed. -/
def State.outbound (s : State) (k : SessionKey) : Option (Lane × Bool) :=
  (s.hub.session? k).map fun x => (x.lane, x.closed)

variable {a : Application} {s t : State} {l : Label} {ls : List Label} {k : SessionKey} {x y : Session} {p : Pipe}
  {i : Ticket} {m before : Bytes}

theorem outbound_eq (hx : s.hub.session? k = some x) : s.outbound k = some (x.lane, x.closed) := by
  simp [State.outbound, hx]

theorem of_outbound (h : t.outbound k = s.outbound k) (hx : s.hub.session? k = some x) :
    ∃ y, t.hub.session? k = some y ∧ y.lane = x.lane ∧ y.closed = x.closed := by
  rw [outbound_eq hx] at h
  obtain ⟨y, hy, same⟩ := Option.map_eq_some_iff.mp h
  exact ⟨y, hy, (Prod.mk.inj same).1, (Prod.mk.inj same).2⟩

theorem pipe_read (unread : ∀ p ∈ s.hub.pipes, p.read = 0) (k : SessionKey) : (s.hub.pipe k).read = 0 := by
  unfold Hub.pipe
  cases hp : s.hub.pipes[k]? with
  | none => rfl
  | some p => exact unread p (List.mem_of_getElem? hp)

theorem step_unread (h : step a s l = some t) (unread : ∀ p ∈ s.hub.pipes, p.read = 0) :
    ∀ p ∈ t.hub.pipes, p.read = 0 := by
  have shared := step_shared h
  generalize t.hub = h' at shared ⊢
  cases shared with
  | steady _ _ steady =>
    rw [steady.pipes]
    exact unread
  | widen j n steady | fail j n steady =>
    rw [steady.pipes]
    intro p hp
    rcases List.mem_or_eq_of_mem_set hp with hp | rfl
    · exact unread p hp
    · exact pipe_read unread j
  | enroll i id peer =>
    rw [State.addSession_hub]
    intro p hp
    rcases List.mem_append.mp hp with hp | hp
    · exact unread p hp
    · rw [List.mem_singleton.mp hp]
  | _ => exact unread

/-- The peers of a server are not known to have read anything. -/
theorem play_unread (run : play a {} ls = some t) (k : SessionKey) : (t.hub.pipe k).read = 0 := by
  have unread : ∀ p ∈ t.hub.pipes, p.read = 0 := by
    refine play_invariant (P := fun s => ∀ p ∈ s.hub.pipes, p.read = 0) (fun hl unread => step_unread hl unread) run ?_
    intro p hp
    cases hp
  exact pipe_read unread k

/-- What the connection to a peer does is seen by the lane of its session, which goes on as far as it can. -/
theorem network_step (run : play a {} ls = some s) (h : step a s l = some t) (network : l.isNetwork k = true)
    (hx : s.hub.session? k = some x) : t.hub.session? k = some (x.settle (t.hub.pipe k)) ∧
      (s.hub.pipe k).capacity ≤ (t.hub.pipe k).capacity ∧
      ((s.hub.pipe k).fault ≠ none → (t.hub.pipe k).fault ≠ none) := by
  have there : k < s.hub.pipes.length := by
    rw [play_pipes run, (play_standing run).paired]
    exact (List.getElem?_eq_some_iff.mp hx).1
  have changed (q : Pipe) : ((s.hub.setPipe k q).settle k).session? k = some (x.settle q) ∧
      ((s.hub.setPipe k q).settle k).pipe k = q := by
    have here : (s.hub.setPipe k q).pipe k = q := by
      simp [Hub.pipe, Hub.setPipe, List.getElem?_set_self there]
    have kept : (s.hub.setPipe k q).session? k = some x := hx
    rw [Hub.settle_here kept, (Hub.steady_settle _ k).pipe k, here]
    exact ⟨rfl, rfl⟩
  cases step_turn h with
  | widen j n =>
    obtain rfl : j = k := by simpa [Label.isNetwork] using network
    obtain ⟨session, pipe⟩ := changed { s.hub.pipe j with capacity := (s.hub.pipe j).capacity + n }
    dsimp only
    rw [pipe]
    exact ⟨session, Nat.le_add_right _ n, fun fault => fault⟩
  | fail j reason =>
    obtain rfl : j = k := by simpa [Label.isNetwork] using network
    obtain ⟨session, pipe⟩ := changed ((s.hub.pipe j).broken reason)
    dsimp only
    rw [pipe]
    exact ⟨session, Nat.le_refl _, fun _ => Option.some_ne_none reason⟩
  | _ => cases network

/-- The pipe to a peer is its own. -/
theorem pipe_step (run : play a {} ls = some s) (h : step a s l = some t) (other : l.isNetwork k = false)
    (hx : s.hub.session? k = some x) : t.hub.pipe k = s.hub.pipe k := by
  have there : k < s.hub.pipes.length := by
    rw [play_pipes run, (play_standing run).paired]
    exact (List.getElem?_eq_some_iff.mp hx).1
  rcases step_pipe h there with same | ⟨n, rfl⟩ | ⟨reason, rfl⟩
  · exact same
  · simp [Label.isNetwork] at other
  · simp [Label.isNetwork] at other

/-- Whatever happens to a session on whose lane a send is alone, nobody else sending, takes the send further. -/
theorem alone_step (run : play a {} ls = some s) (h : step a s l = some t) (hx : s.hub.session? k = some x)
    (alone : x.Alone (s.hub.pipe k) i m before) (only : l.isNetwork k = false → t.outbound k = s.outbound k) :
    ∃ y, t.hub.session? k = some y ∧ y.Alone (t.hub.pipe k) i m before := by
  cases network : l.isNetwork k with
  | true =>
    obtain ⟨hy, -, fault⟩ := network_step run h network hx
    refine ⟨_, hy, alone.settle ?_ fault⟩
    rw [play_unread (play_concat.mpr ⟨s, run, h⟩) k]
    exact Nat.zero_le _
  | false =>
    obtain ⟨y, hy, lane, closed⟩ := of_outbound (only network) hx
    rw [pipe_step run h network hx]
    exact ⟨y, hy, alone.congr lane closed⟩

/-- Nothing happens on a lane that has nothing to do. -/
theorem idle_step (run : play a {} ls = some s) (h : step a s l = some t) (hx : s.hub.session? k = some x)
    (idle : x.Idle) (only : l.isNetwork k = false → t.outbound k = s.outbound k) :
    ∃ y, t.hub.session? k = some y ∧ y.lane = x.lane ∧ y.closed = x.closed := by
  cases network : l.isNetwork k with
  | true =>
    have settled := (network_step run h network hx).1
    rw [idle.settle] at settled
    exact ⟨x, settled, rfl, rfl⟩
  | false => exact of_outbound (only network) hx

theorem play_framing (run : play a {} ls = some t) (hx : t.hub.session? k = some x) : x.lane.framing = a.framing := by
  obtain ⟨clock, id, peer, n, ms, path⟩ := session_of_play run hx
  refine path.invariant (P := fun _ y => y.lane.framing = a.framing) (fun _ same => same) (fun hm _ _ _ same => ?_) rfl
  cases (Session.step_change hm).lane with
  | ask _ _ _ lane | release _ _ lane | move _ lane => exact (Lane.step_framing lane).trans same
  | refuse _ _ _ lane | none _ lane =>
    rw [lane]
    exact same

end FrameServer.Server
