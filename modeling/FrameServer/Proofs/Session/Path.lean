import FrameServer.Proofs.Session.LaneStep

namespace FrameServer

namespace Session

/-- Whether a move may be made while the tickets from `n` up to `n'` are given out. A turn on the lane is
asked for through the session only. -/
def Move.Fits (n n' : Nat) : Move → Prop
  | .send t _ | .closeAsync t => n ≤ t ∧ t < n'
  | .lane (.request _ _) => False
  | _ => True

theorem Move.Fits.mono {n n' n'' : Nat} {m : Move} (h : m.Fits n n') (hn : n' ≤ n'') : m.Fits n n'' := by
  cases m with
  | send t _ => exact ⟨h.1, Nat.lt_of_lt_of_le h.2 hn⟩
  | closeAsync t => exact ⟨h.1, Nat.lt_of_lt_of_le h.2 hn⟩
  | lane lm => cases lm <;> exact h
  | _ => trivial

/-- From session `s`, with `n` tickets given out, the moves lead to `s'`, with `n'` tickets given out. -/
inductive Path (n : Nat) (s : Session) : List Move → Nat → Session → Prop
  | nil {n' : Nat} (hn : n ≤ n') : Path n s [] n' s
  | snoc {ms : List Move} {n' n'' : Nat} {s' s'' : Session} (path : Path n s ms n' s') (m : Move)
      (hs : s'.step m = some s'') (hn : n' ≤ n'') (fits : m.Fits n' n'') : Path n s (ms ++ [m]) n'' s''

namespace Path

variable {n n' n'' : Nat} {s s' s'' : Session} {ms ms' : List Move}

theorem tickets_le (h : Path n s ms n' s') : n ≤ n' := by
  induction h with
  | nil hn => exact hn
  | snoc _ m _ hn _ ih => exact Nat.le_trans ih hn

theorem weaken (h : Path n s ms n' s') (hn : n' ≤ n'') : Path n s ms n'' s' := by
  cases h with
  | nil h => exact .nil (Nat.le_trans h hn)
  | snoc path m hs h fits => exact .snoc path m hs (Nat.le_trans h hn) (fits.mono hn)

theorem trans (h : Path n s ms n' s') (h' : Path n' s' ms' n'' s'') : Path n s (ms ++ ms') n'' s'' := by
  induction h' with
  | nil hn =>
    rw [List.append_nil]
    exact h.weaken hn
  | snoc path m hs hn fits ih =>
    rw [← List.append_assoc]
    exact .snoc ih m hs hn fits

theorem single (m : Move) (hs : s.step m = some s') (hn : n ≤ n') (fits : m.Fits n n') : Path n s [m] n' s' :=
  .snoc (.nil (Nat.le_refl n)) m hs hn fits

/-- What every move keeps, the moves keep together. -/
theorem invariant {P : Nat → Session → Prop} (wait : ∀ {i j : Nat} {x : Session}, i ≤ j → P i x → P j x)
    (keep : ∀ {i j : Nat} {x y : Session} {m : Move}, x.step m = some y → i ≤ j → m.Fits i j → n ≤ i → P i x → P j y)
    (h : Path n s ms n' s') (hp : P n s) : P n' s' := by
  induction h with
  | nil hn => exact wait hn hp
  | snoc path m hs hn fits ih => exact keep hs hn fits path.tickets_le ih

end Path

inductive LaneChange (s s' : Session) : Move → Prop
  | ask (t : Ticket) (m : Bytes) (unclosed : s.closed = false)
      (lane : s.lane.step (.request t (.message m)) = some s'.lane) : LaneChange s s' (.send t m)
  | refuse (t : Ticket) (m : Bytes) (closed : s.closed = true)
      (lane : s'.lane = s.lane.settleTicket t (.error .closed)) : LaneChange s s' (.send t m)
  | release (t : Ticket) (closed : s'.closed = true)
      (lane : s.lane.step (.request t .shutdown) = some s'.lane) : LaneChange s s' (.closeAsync t)
  | move (m : Lane.Move) (lane : s.lane.step m = some s'.lane) : LaneChange s s' (.lane m)
  | none {m : Move} (other : ∀ lm, m ≠ .lane lm) (lane : s'.lane = s.lane) : LaneChange s s' m

/-- What one move of a session can do. -/
structure Change (s : Session) (m : Move) (s' : Session) : Prop where
  id : s'.id = s.id
  address : s'.address = s.address
  closed : s.closed = true → s'.closed = true
  closedIdle : s.closedIdle = true → s'.closedIdle = true
  lane : LaneChange s s' m

theorem step_change {s s' : Session} {m : Move} (h : s.step m = some s') : s.Change m s' := by
  cases m with
  | send t msg =>
    simp only [step] at h
    split at h
    next hc =>
      simp only [Option.some.injEq] at h
      subst h
      exact ⟨rfl, rfl, fun h => h, fun h => h, .refuse t msg hc rfl⟩
    next hc =>
      obtain ⟨l, hl, rfl⟩ := Option.map_eq_some_iff.mp h
      exact ⟨rfl, rfl, fun h => h, fun h => h, .ask t msg (by simpa using hc) hl⟩
  | close =>
    simp only [step, close, Option.some.injEq] at h
    subst h
    exact ⟨rfl, rfl, fun _ => rfl, fun h => h, .none (by simp) rfl⟩
  | closeIdle =>
    simp only [step, closeIdle, Option.some.injEq] at h
    subst h
    split
    · exact ⟨rfl, rfl, fun h => h, fun h => h, .none (by simp) rfl⟩
    · exact ⟨rfl, rfl, fun _ => rfl, fun _ => rfl, .none (by simp) rfl⟩
  | closeAsync t =>
    simp only [step, Option.map_eq_some_iff] at h
    obtain ⟨l, hl, rfl⟩ := h
    exact ⟨rfl, rfl, fun _ => rfl, fun h => h, .release t rfl hl⟩
  | lane lm =>
    simp only [step, Option.map_eq_some_iff] at h
    obtain ⟨l, hl, rfl⟩ := h
    exact ⟨rfl, rfl, fun h => h, fun h => h, .move lm hl⟩
  | touch now =>
    simp only [step, Option.some.injEq] at h
    subst h
    exact ⟨rfl, rfl, fun h => h, fun h => h, .none (by simp) rfl⟩
  | setAttribute key value =>
    simp only [step, Option.some.injEq] at h
    subst h
    exact ⟨rfl, rfl, fun h => h, fun h => h, .none (by simp) rfl⟩
  | removeAttribute key =>
    simp only [step, Option.some.injEq] at h
    subst h
    exact ⟨rfl, rfl, fun h => h, fun h => h, .none (by simp) rfl⟩

namespace Path

variable {n n' : Nat} {s s' : Session} {ms : List Move}

theorem id_eq (h : Path n s ms n' s') : s'.id = s.id :=
  h.invariant (P := fun _ x => x.id = s.id) (fun _ hx => hx) (fun hs _ _ _ hx => (step_change hs).id.trans hx) rfl

theorem address_eq (h : Path n s ms n' s') : s'.address = s.address :=
  h.invariant (P := fun _ x => x.address = s.address) (fun _ hx => hx)
    (fun hs _ _ _ hx => (step_change hs).address.trans hx) rfl

theorem closed (h : Path n s ms n' s') (hc : s.closed = true) : s'.closed = true :=
  h.invariant (P := fun _ x => x.closed = true) (fun _ hx => hx) (fun hs _ _ _ hx => (step_change hs).closed hx) hc

theorem unclosed (h : Path n s ms n' s') (hc : s'.closed = false) : s.closed = false := by
  cases closed : s.closed with
  | false => rfl
  | true =>
    rw [h.closed closed] at hc
    cases hc

theorem closedIdle (h : Path n s ms n' s') (hc : s.closedIdle = true) : s'.closedIdle = true :=
  h.invariant (P := fun _ x => x.closedIdle = true) (fun _ hx => hx)
    (fun hs _ _ _ hx => (step_change hs).closedIdle hx) hc

end Path

end Session
end FrameServer
