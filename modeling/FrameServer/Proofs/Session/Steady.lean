import FrameServer.Proofs.Session.Leads

namespace FrameServer

namespace Hub

/-- What no session changes: the clock, the connections as the lanes see them, and who is registered. -/
structure Steady (h h' : Hub) : Prop where
  clock : h'.clock = h.clock
  pipes : h'.pipes = h.pipes
  registry : h'.registry = h.registry

variable {h h' h'' : Hub}

namespace Steady

theorem refl (h : Hub) : h.Steady h := ⟨rfl, rfl, rfl⟩

theorem trans (a : h.Steady h') (b : h'.Steady h'') : h.Steady h'' :=
  ⟨b.clock.trans a.clock, b.pipes.trans a.pipes, b.registry.trans a.registry⟩

theorem pipe (a : h.Steady h') (k : SessionKey) : h'.pipe k = h.pipe k := by
  simp only [Hub.pipe, a.pipes]

end Steady

variable (h) (k : SessionKey)

theorem steady_move (m : Session.Move) : h.Steady (h.move k m) := by
  unfold move
  split
  · exact .refl h
  · split
    · exact .refl h
    · exact ⟨rfl, rfl, rfl⟩

theorem steady_settle : h.Steady (h.settle k) := by
  unfold settle
  split
  · exact .refl h
  · exact ⟨rfl, rfl, rfl⟩

theorem steady_settleAll : h.Steady h.settleAll := ⟨rfl, rfl, rfl⟩

theorem steady_request (m : Ticket → Session.Move) : h.Steady (h.request k m).2 := by
  have next : h.Steady { h with tickets := h.tickets + 1 } := ⟨rfl, rfl, rfl⟩
  have asked := next.trans (steady_move _ k (m h.tickets))
  unfold request
  dsimp only
  split
  · exact asked.trans (steady_settle _ k)
  · exact asked

theorem steady_sendEach (m : Bytes) (ks : List SessionKey) : h.Steady (h.sendEach m ks).2 := by
  induction ks generalizing h with
  | nil => exact .refl h
  | cons k ks ih => exact (h.steady_request k (.send · m)).trans (ih _)

theorem steady_giveUp (t : Ticket) : h.Steady ((h.move k (.lane (.abandon t))).settle k) :=
  (h.steady_move k _).trans (steady_settle _ k)

theorem steady_abandonAll (ts : List (SessionKey × Ticket)) : h.Steady (h.abandonAll ts) := by
  induction ts generalizing h with
  | nil => exact .refl h
  | cons p ts ih => exact (h.steady_move p.1 _).trans (ih _)

theorem steady_closeIdle : h.Steady (h.closeIdle k).2 := by
  unfold closeIdle
  split
  · exact h.steady_move k .closeIdle
  · exact .refl h

end Hub

namespace Sweep

variable (h : Hub)

theorem steady_visit (deadline : Nat) (ts : List (SessionKey × Ticket)) : h.Steady (visit deadline ts h).2.2 := by
  induction ts generalizing h with
  | nil => exact .refl h
  | cons p ts ih =>
    unfold visit
    dsimp only
    split
    · split
      · exact (h.steady_closeIdle p.1).trans (ih _)
      · exact ((h.steady_move p.1 _).trans (Hub.steady_closeIdle _ p.1)).trans (ih _)
    · exact ih h

theorem steady_progress (w : Sweep) : h.Steady (w.progress h).2 := steady_visit h w.deadline w.pending

theorem steady_start (limit patience : Nat) : h.Steady (start h limit patience).2 :=
  (h.steady_sendEach idleNotice _).trans (steady_progress _ _)

end Sweep

namespace Monitor

variable (m : Monitor) (h : Hub)

theorem steady_stop : h.Steady (m.stop h).2 := h.steady_abandonAll _

theorem steady_act : h.Steady (m.act h).2 := by
  unfold act
  cases hw : m.sweep with
  | none =>
    dsimp only
    split
    · split
      · exact Sweep.steady_start h _ _
      · exact .refl h
    · exact .refl h
  | some w =>
    have on := Sweep.steady_progress h w
    dsimp only
    split
    · split
      · exact on.trans (Sweep.steady_start _ _ _)
      · exact on
    · exact on

end Monitor
end FrameServer
