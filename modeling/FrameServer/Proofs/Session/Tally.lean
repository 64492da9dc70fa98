import FrameServer.Proofs.Session.Closing
import FrameServer.Proofs.Session.Growth
import FrameServer.Proofs.Session.Meanwhile
import FrameServer.Proofs.Session.Renaming
import FrameServer.Server.Work
import FrameServer.Session.Watch

namespace FrameServer

namespace Session

variable {f : Framing} {s s' s₀ x y z : Session} {p : Pipe} {t u : Ticket} {m : Bytes} {n n' n₀ : Nat}
  {ms ms' : List Move} {σ : Ticket → Ticket}

/-- Nobody asks twice under one ticket. -/
theorem Path.own (path : s.Path n ms n' s') :
    ((requests ms).map Prod.fst).Nodup ∧ ∀ t ∈ (requests ms).map Prod.fst, t < n' := by
  induction path with
  | nil => exact ⟨List.nodup_nil, nofun⟩
  | snoc path mv hs le fits ih =>
    obtain ⟨once, below⟩ := ih
    rw [requests_append, requests_singleton, List.map_append]
    cases asks : mv.request? with
    | none => exact ⟨by simpa using once, fun t there => Nat.lt_of_lt_of_le (below t (by simpa using there)) le⟩
    | some q =>
      obtain ⟨t, job⟩ := q
      have bounds := fits.bounds asks
      refine ⟨List.nodup_append.mpr ⟨once, List.nodup_singleton _, ?_⟩, ?_⟩
      · rintro a there b here rfl
        obtain rfl := List.mem_singleton.mp here
        exact Nat.lt_irrefl _ (Nat.lt_of_lt_of_le (below _ there) bounds.1)
      · intro a there
        rcases List.mem_append.mp there with before | now
        · exact Nat.lt_of_lt_of_le (below a before) le
        · obtain rfl := List.mem_singleton.mp now
          exact bounds.2

/-- A result is never another one later. -/
theorem Path.lasting {r : Except SendError Unit} (fresh : s₀.lane = { framing := f }) (past : s₀.Path n₀ ms n s)
    (later : s.Path n ms' n' s') (known : s.lane.result? t = some r) : s'.lane.result? t = some r := by
  have path := past.trans later
  have there : (t, r) ∈ s'.lane.results :=
    later.invariant (P := fun _ x => (t, r) ∈ x.lane.results) (fun _ there => there)
      (fun made _ _ _ there => results_of_step made there) (Lane.mem_of_result known)
  exact Lane.result?_of_mem (tickets_nodup fresh path.play path.own.1) there

/-- A closed session is told at once that it is, and that is all. -/
theorem sent_closed (closed : s.closed = true) :
    s.sent p t m = { s with lane := s.lane.settleTicket t (.error .closed) } := by
  unfold sent
  simp only [step, closed, if_true]
  split
  next free =>
    simp only [Bool.and_eq_true, Option.isNone_iff_eq_none] at free
    exact settle_of_ready (by simp [ready?, Lane.settleTicket, free.1, free.2])
  · rfl

theorem sent_path (n : Nat) : ∃ z ms, s.step (.send t m) = some z ∧ z.Path n ms n (s.sent p t m) := by
  obtain ⟨z, made, same | settled⟩ := s.sent_cases p t m
  · exact ⟨z, [], made, same ▸ .nil (Nat.le_refl n)⟩
  · obtain ⟨ms, path⟩ := z.path_settle n p
    exact ⟨z, ms, made, settled ▸ path⟩

theorem sent_renamed (one : σ.Injective) (s : Session) :
    (s.renamed σ).sent p (σ t) m = (s.sent p t m).renamed σ := by
  have made : (s.renamed σ).step (.send (σ t) m) = _ := step_renamed one s (.send t m)
  have free : ((s.renamed σ).lane.turn.isNone && (s.renamed σ).lane.queue.isEmpty) =
      (s.lane.turn.isNone && s.lane.queue.isEmpty) := by
    simp [renamed, Lane.renamed]
  unfold sent
  rw [made, free]
  cases s.step (.send t m) with
  | none => rfl
  | some z =>
    simp only [Option.map_some, settle_renamed one]
    split <;> rfl

/-- It makes no difference which of the tickets a send has that were not given out yet. -/
theorem sent_swap (standing : s.Standing n) (new : n ≤ t) (new' : n ≤ u) :
    s.sent p u m = (s.sent p t m).renamed (Equiv.swap t u) := by
  have same : s.renamed (Equiv.swap t u) = s := by
    refine renamed_eq_self fun i named => ?_
    have below := standing.below i named
    exact Equiv.swap_apply_of_ne_of_ne (Nat.ne_of_lt (Nat.lt_of_lt_of_le below new))
      (Nat.ne_of_lt (Nat.lt_of_lt_of_le below new'))
  rw [← sent_renamed (Equiv.swap t u).injective, same, Equiv.swap_apply_left]

/-- `y'` is to ticket `u` what `y` is to ticket `t`, and so is whatever becomes of them. -/
structure Mirrors (t u : Ticket) (y y' : Session) : Prop where
  same : y' = y.renamed (Equiv.swap t u)
  goesOn : ∀ ms z, y.play ms = some z → ∃ z', y'.play (ms.map (·.renamed (Equiv.swap t u))) = some z' ∧
    z'.closed = z.closed ∧ z'.lane.wire = z.lane.wire ∧ z'.lane.result? u = z.lane.result? t ∧
    ∀ p, z'.ready? p = z.ready? p

theorem mirrors_renamed (t u : Ticket) (y : Session) : y.Mirrors t u (y.renamed (Equiv.swap t u)) := by
  have one : Function.Injective (Equiv.swap t u) := (Equiv.swap t u).injective
  refine ⟨rfl, fun ms z played => ⟨z.renamed (Equiv.swap t u), ?_, rfl, rfl, ?_, ready?_renamed z⟩⟩
  · rw [play_renamed one, played, Option.map_some]
  · have result := Lane.result?_renamed one z.lane t
    rwa [Equiv.swap_apply_left] at result

/-- What the wire holds of a send, and where, whatever came before it and comes after it. -/
theorem accounted_sent (older : n ≤ t) (newer : t < n') (new : ¬ s.lane.Names t) :
    ∃ ms, s.Path n ms n' (s.sent p t m) ∧ ∀ (s₀ : Session) n₀ before more n'' z,
      s₀.lane = { framing := s.lane.framing } → s₀.Path n₀ before n s → (s.sent p t m).Path n' more n'' z →
      Lane.Accounted s.lane.framing t m s.lane.wire z.lane (s₀.ledger [] (before ++ ms ++ more)) := by
  obtain ⟨z, ms, made, settled⟩ := s.sent_path (p := p) (t := t) (m := m) n'
  have asked : s.Path n [.send t m] n' z := .single _ made (Nat.le_of_lt (Nat.lt_of_le_of_lt older newer))
    ⟨older, newer⟩
  refine ⟨.send t m :: ms, asked.trans settled, fun s₀ n₀ before more n'' z' fresh past later => ?_⟩
  obtain ⟨kept, fate⟩ := Path.fate_sent older newer new made fresh past (settled.trans later)
  have beyond := (((asked.trans settled).trans later).beyond (past.kept fresh) (past.beyond_fresh fresh)).2
  rw [← ledger_append past.play] at beyond
  rw [List.append_assoc]
  exact fate.accounted kept beyond older

/-- What a send of `m` under ticket `t` is to a session that was `s` before it and is `y` after it, while the tickets
from `n` up to `n'` were given out. The connection was as `p` tells. -/
structure Receives (m : Bytes) (t : Ticket) (p : Pipe) (n n' : Nat) (s y : Session) : Prop where
  sent : y = s.sent p t m
  closed : s.closed = true → y = { s with lane := s.lane.settleTicket t (.error .closed) }
  gets : s.Gets s.lane.framing m t p n n' y
  accounted : ∃ ms, s.Path n ms n' y ∧ ∀ (s₀ : Session) n₀ before more n'' z,
    s₀.lane = { framing := s.lane.framing } → s₀.Path n₀ before n s → y.Path n' more n'' z →
    Lane.Accounted s.lane.framing t m s.lane.wire z.lane (s₀.ledger [] (before ++ ms ++ more))
  /-- If it has succeeded, one frame was written behind all that was written before. -/
  grew : ∀ more n'' z, y.Path n' more n'' z → z.lane.result? t = some (.ok ()) → ∃ frame between later,
    s.lane.framing.encode m = .ok frame ∧ z.lane.wire = s.lane.wire ++ between ++ frame ++ later
  lasting : ∀ more i z later j z' r, y.Path n' more i z → z.Path i later j z' →
    z.lane.result? t = some r → z'.lane.result? t = some r

end Session

namespace Hub

open Session (Receives)

variable {h g : Hub} {k j : SessionKey} {x s : Session} {m : Bytes} {t u : Ticket} {n : Nat}

/-- The tickets of a broadcast are the next ones. -/
theorem sendEach_tickets (h : Hub) (m : Bytes) (ks : List SessionKey) :
    (h.sendEach m ks).1 = ks.zip (List.range' h.tickets ks.length) := by
  induction ks generalizing h with
  | nil => rfl
  | cons k ks ih =>
    have next : (h.send k m).2.tickets = h.tickets + 1 := request_tickets h k _
    have rest := ih (h.send k m).2
    rw [next] at rest
    exact congrArg ((k, h.tickets) :: ·) rest

theorem tally_eq (g : Hub) (ts : List (SessionKey × Ticket)) :
    g.tally ts = (ts.countP fun p => (g.result? p.1 p.2).isSome,
      ts.countP fun p => g.result? p.1 p.2 = some (.ok ())) := by
  unfold tally
  refine Prod.ext (List.length_filterMap_eq_countP ..) ?_
  dsimp only
  rw [← List.countP_eq_length_filter, List.countP_filterMap]
  refine List.countP_congr fun p _ => ?_
  rcases g.result? p.1 p.2 with _ | (e | ⟨⟩) <;> simp

/-- A broadcast returns when all its sends have, with the number of those that succeeded. -/
theorem reply_iff {ts : List (SessionKey × Ticket)} :
    Work.reply? g j (.broadcast m) (.broadcast ts) = some n ↔ (∀ p ∈ ts, ∃ r, g.result? p.1 p.2 = some r) ∧
      n = ts.countP fun p => g.result? p.1 p.2 = some (.ok ()) := by
  have all : (ts.countP fun p => (g.result? p.1 p.2).isSome) = ts.length ↔
      ∀ p ∈ ts, ∃ r, g.result? p.1 p.2 = some r := by
    simp only [List.countP_eq_length, Option.isSome_iff_exists]
  unfold Work.reply?
  dsimp only
  rw [tally_eq]
  split
  next done => rw [Option.some.injEq, and_iff_right (all.mp done), eq_comm]
  next waits => exact ⟨nofun, fun returned => absurd (all.mpr returned.1) waits⟩

/-- What a broadcast of `m` comes to. -/
structure Tallies (h : Hub) (m : Bytes) : Prop where
  /-- Whoever makes it, the same sends are begun. -/
  begins : ∀ k, Work.begin h k (.broadcast m) = .inr ((h.broadcast m).2, .broadcast (h.broadcast m).1)
  recipients : (h.broadcast m).1 = h.registry.keys.zip (List.range' h.tickets h.registry.keys.length)
  once : h.registry.keys.Nodup
  reaches : ∀ k, (∃ t, (k, t) ∈ (h.broadcast m).1) ↔ k ∈ h.registry.keys
  others : ∀ k, k ∉ h.registry.keys → (h.broadcast m).2.session? k = h.session? k
  each : ∀ k t, (k, t) ∈ (h.broadcast m).1 → ∃ s y, h.session? k = some s ∧
    (h.broadcast m).2.session? k = some y ∧ Receives m t (h.pipe k) h.tickets (h.broadcast m).2.tickets s y
  /-- It returns when all sends have returned, and tells how many of them succeeded. -/
  returns : ∀ g j n, Work.reply? g j (.broadcast m) (.broadcast (h.broadcast m).1) = some n ↔
    (∀ p ∈ (h.broadcast m).1, ∃ r, g.result? p.1 p.2 = some r) ∧
      n = (h.broadcast m).1.countP fun p => g.result? p.1 p.2 = some (.ok ())
  /-- Among any others, registered in any order, a session fares the same. -/
  alone : ∀ (g : Hub) k t u s, g.Coherent → h.session? k = some s → g.session? k = some s →
    g.pipe k = h.pipe k → (k, t) ∈ (h.broadcast m).1 → (k, u) ∈ (g.broadcast m).1 → ∃ y y',
    (h.broadcast m).2.session? k = some y ∧ (g.broadcast m).2.session? k = some y' ∧ y.Mirrors t u y'
  /-- Without anybody registered nothing happens. -/
  nobody : h.registry.entries = [] → h.broadcast m = ([], h) ∧
    ∀ g j, Work.reply? g j (.broadcast m) (.broadcast (h.broadcast m).1) = some 0

theorem Coherent.standing (coherent : h.Coherent) (hs : h.session? k = some s) : s.Standing h.tickets := by
  obtain ⟨f, s₀, n, ms, fresh, past⟩ := coherent.past k s hs
  exact past.standing (Session.standing_fresh fresh n)

theorem Coherent.receives (coherent : h.Coherent) (there : (k, t) ∈ (h.broadcast m).1) (hs : h.session? k = some s) :
    ∃ y, (h.broadcast m).2.session? k = some y ∧
      Receives m t (h.pipe k) h.tickets (h.broadcast m).2.tickets s y := by
  obtain ⟨f, s₀, n₀, before, fresh, past⟩ := coherent.past k s hs
  obtain rfl : s.lane.framing = f := (past.kept fresh).framing
  obtain ⟨after, older, newer⟩ := broadcast_sent coherent.once there hs
  have new : ¬ s.lane.Names t := fun named =>
    Nat.lt_irrefl _ (Nat.lt_of_lt_of_le ((coherent.standing hs).below _ named) older)
  obtain ⟨ms, sending, accounted⟩ := Session.accounted_sent (p := h.pipe k) (m := m) older newer new
  refine ⟨_, after, rfl, Session.sent_closed, ?_, ⟨ms, sending, accounted⟩, ?_, ?_⟩
  · exact Session.gets_sent fresh past older newer (coherent.read k s hs)
  · intro more n'' z later ok
    obtain ⟨newer, w, older, between, -, -, -, encoded, -, -, -, wire⟩ :=
      (accounted s₀ n₀ before more n'' z fresh past later).counted ok
    exact ⟨w.frame, between, _, encoded, wire⟩
  · intro more i z later j z' r path path' known
    exact ((past.trans sending).trans path).lasting fresh path' known

theorem Coherent.tallies (coherent : h.Coherent) (there : ∀ k ∈ h.registry.keys, ∃ s, h.session? k = some s)
    (m : Bytes) : h.Tallies m where
  begins _ := rfl
  recipients := sendEach_tickets h m _
  once := coherent.once
  reaches k := by
    refine ⟨?_, fun registered => ?_⟩
    · rintro ⟨t, sent⟩
      exact mem_keys_of_broadcast sent
    · rw [← sendEach_keys h m h.registry.keys] at registered
      obtain ⟨⟨k, t⟩, sent, rfl⟩ := List.mem_map.mp registered
      exact ⟨t, sent⟩
  others _ other := sendEach_elsewhere other
  each k t sent := by
    obtain ⟨s, hs⟩ := there k (mem_keys_of_broadcast sent)
    obtain ⟨y, hy, receives⟩ := coherent.receives sent hs
    exact ⟨s, y, hs, hy, receives⟩
  returns _ _ _ := reply_iff
  alone g k t u s coherent' hs hs' pipe sent sent' := by
    obtain ⟨after, new, -⟩ := broadcast_sent coherent.once sent hs
    obtain ⟨after', new', -⟩ := broadcast_sent coherent'.once sent' hs'
    have standing : s.Standing (min h.tickets g.tickets) := by
      have here := coherent.standing hs
      exact ⟨fun i named => Nat.lt_min.mpr ⟨here.below i named, (coherent'.standing hs').below i named⟩, here.quit⟩
    refine ⟨_, _, after, ?_, Session.mirrors_renamed t u _⟩
    rw [after', pipe, Session.sent_swap standing (Nat.le_trans (Nat.min_le_left ..) new)
      (Nat.le_trans (Nat.min_le_right ..) new')]
  nobody none := by
    have nobody : h.broadcast m = ([], h) := by
      unfold broadcast Registry.keys
      rw [none]
      rfl
    refine ⟨nobody, fun g j => ?_⟩
    rw [nobody]
    rfl

/-- Whatever sessions are registered, a broadcast makes one send to each of them and counts those that succeed; when
the registry is gone there is nobody to send to. -/
theorem broadcast_tallies (coherent : h.Coherent) (there : ∀ k ∈ h.registry.keys, ∃ s, h.session? k = some s)
    (m : Bytes) : h.Tallies m ∧ ∀ w : Watch, w.dropRegistry.broadcast m = (some 0, w.dropRegistry) := by
  refine ⟨coherent.tallies there m, fun w => ?_⟩
  have nobody : w.dropRegistry.hub.broadcast m = ([], w.dropRegistry.hub) := rfl
  unfold Watch.broadcast
  rw [nobody]
  rfl

/-- One whose peer reads, one that is closed, one whose connection fails, one that takes only short messages, one with
room for a single byte, one that is not registered, and one that is going to leave. -/
def mixedCrowd : Hub where
  sessions := [{ id := "reads", lane := { framing := {} } },
    { id := "closed", lane := { framing := {} }, closed := true }, { id := "gone", lane := { framing := {} } },
    { id := "short", lane := { framing := { max := 1 } } },
    { id := "stalls", lane := { framing := {} } }, { id := "guest", lane := { framing := {} } },
    { id := "leaves", lane := { framing := {} } }]
  pipes := [{}, {}, { fault := some "broken pipe" }, {}, { capacity := 1 }, {}, {}]
  registry := ⟨[("stalls", 4), ("closed", 1), ("gone", 2), ("short", 3), ("leaves", 6), ("reads", 0)]⟩

/-- The last one has left. -/
def oneLeft : Hub := (mixedCrowd.request 6 .closeAsync).2

theorem coherent_oneLeft : oneLeft.Coherent := by
  have fresh : mixedCrowd.Coherent := by
    refine coherent_fresh (fun s there => ?_) (by decide) (by decide)
    have all : ∀ s ∈ mixedCrowd.sessions, s.lane = { framing := s.lane.framing } := by simp [mixedCrowd]
    exact ⟨_, all s there⟩
  exact fresh.of_leads (mixedCrowd.leads_closeAsync 6) (mixedCrowd.steady_request 6 _)

/-- The peer that stalls reads a byte, and another one. -/
def readOn (h : Hub) : Hub :=
  (((h.setPipe 4 { capacity := 1, read := 1 }).settle 4).setPipe 4 { capacity := 1, read := 2 }).settle 4

theorem broadcast_tallies_mixed : oneLeft.Tallies [104, 105] ∧
    (oneLeft.broadcast [104, 105]).1 = [(4, 1), (1, 2), (2, 3), (3, 4), (6, 5), (0, 6)] ∧
    (∀ j, Work.reply? (oneLeft.broadcast [104, 105]).2 j (.broadcast [104, 105])
      (.broadcast (oneLeft.broadcast [104, 105]).1) = none) ∧
    ∀ j, Work.reply? (readOn (oneLeft.broadcast [104, 105]).2) j (.broadcast [104, 105])
      (.broadcast (oneLeft.broadcast [104, 105]).1) = some 2 := by
  have all : ∀ k ∈ oneLeft.registry.keys, (oneLeft.session? k).isSome = true := by decide +kernel
  have tallies := (broadcast_tallies coherent_oneLeft (fun k registered =>
    Option.isSome_iff_exists.mp (all k registered)) [104, 105]).1
  have before : Work.reply? (oneLeft.broadcast [104, 105]).2 0 (.broadcast [104, 105])
      (.broadcast (oneLeft.broadcast [104, 105]).1) = none := by decide +kernel
  have after : Work.reply? (readOn (oneLeft.broadcast [104, 105]).2) 0 (.broadcast [104, 105])
      (.broadcast (oneLeft.broadcast [104, 105]).1) = some 2 := by decide +kernel
  exact ⟨tallies, by decide +kernel, fun _ => before, fun _ => after⟩

end Hub
end FrameServer
