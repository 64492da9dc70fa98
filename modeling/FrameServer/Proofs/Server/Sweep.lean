import FrameServer.Proofs.Server.Wire
import FrameServer.Proofs.Session.Alike
import FrameServer.Proofs.Session.Monitor

namespace FrameServer

theorem Hub.session_settleAll (h : Hub) (k : SessionKey) :
    h.settleAll.session? k = (h.session? k).map (·.settle (h.pipe k)) := by
  simp only [settleAll, session?, List.getElem?_map, List.getElem?_zipIdx, Nat.zero_add, Option.map_map]
  rfl

namespace Server

variable {a : Application} {s t u v : State} {l : Label} {ls : List Label} {i : Nat} {k : SessionKey} {m m' : Monitor}

/-- A step of a server is something that happens meanwhile. -/
theorem meanwhile_of_step (run : play a {} ls = some s) (h : step a s l = some t) : s.hub.Meanwhile t.hub := by
  obtain ⟨tickets, session⟩ := (step_change h).session
  refine ⟨tickets, session, fun k x x' _ _ _ => ?_⟩
  rw [play_unread (play_concat.mpr ⟨s, run, h⟩) k]
  exact Nat.zero_le _

theorem stopMonitor_monitors (hm : s.stopMonitor.monitors[i]? = some m') :
    s.monitors[i]? = some m' ∨ ∃ m, s.monitors[i]? = some m ∧ m' = (m.stop s.hub).1 := by
  unfold State.stopMonitor at hm
  split at hm
  · exact .inl hm
  next j m found =>
    obtain ⟨j', -, found⟩ := Option.bind_eq_some_iff.mp found
    obtain ⟨m₀, there, same⟩ := Option.map_eq_some_iff.mp found
    obtain ⟨rfl, rfl⟩ := Prod.mk.inj same
    by_cases e : j' = i
    · subst e
      have bound := (List.getElem?_eq_some_iff.mp there).1
      obtain rfl := Option.some.inj ((List.getElem?_set_self bound).symm.trans hm)
      exact .inr ⟨m₀, there, rfl⟩
    · exact .inl ((List.getElem?_set_ne e).symm.trans hm)

/-- What a step does to a monitor, if that is not new. -/
theorem monitor_of_step (h : step a s l = some t) (hm : t.monitors[i]? = some m') :
    (∃ m, s.monitors[i]? = some m ∧ (m' = m ∨ m' = (m.stop s.hub).1 ∨ l = .watch i ∧ m' = (m.act s.hub).1)) ∨
      ∃ m : Monitor, m.sweep = none ∧ m' = m.start s.hub.clock := by
  cases step_turn h with
  | serve address port =>
    rcases Nat.lt_or_ge i s.monitors.length with old | new
    · exact .inl ⟨m', (List.getElem?_append_left old).symm.trans hm, .inl rfl⟩
    · have last := (List.getElem?_append_right new).symm.trans hm
      rw [List.mem_singleton.mp (List.mem_of_getElem? last)]
      exact .inr ⟨_, rfl, rfl⟩
  | lose j reason l _ _ _ =>
    rcases stopMonitor_monitors (i := i) hm with before | ⟨m, there, rfl⟩
    · exact .inl ⟨m', before, .inl rfl⟩
    · exact .inl ⟨m, there, .inr (.inl rfl)⟩
  | stop =>
    rcases stopMonitor_monitors (i := i) hm with before | ⟨m, there, rfl⟩
    · exact .inl ⟨m', before, .inl rfl⟩
    · exact .inl ⟨m, there, .inr (.inl rfl)⟩
  | watch j m there =>
    by_cases e : j = i
    · subst e
      have bound := (List.getElem?_eq_some_iff.mp there).1
      obtain rfl := Option.some.inj ((List.getElem?_set_self bound).symm.trans hm)
      exact .inl ⟨m, there, .inr (.inr ⟨rfl, rfl⟩)⟩
    · exact .inl ⟨m', (List.getElem?_set_ne e).symm.trans hm, .inl rfl⟩
  | proceed j c _ does => cases does <;> exact .inl ⟨m', hm, .inl rfl⟩
  | _ => exact .inl ⟨m', hm, .inl rfl⟩

/-- Along the way monitor `i` has its turn in `u`, where it is `m`. -/
def Acted (a : Application) (i : Nat) (ls : List Label) (u : State) (m : Monitor) : Prop :=
  ∃ before after, ls = before ++ .watch i :: after ∧ play a {} before = some u ∧ u.monitors[i]? = some m

theorem Acted.more (acted : Acted a i ls u m) (l : Label) : Acted a i (ls ++ [l]) u m := by
  obtain ⟨before, after, split, run, there⟩ := acted
  exact ⟨before, after ++ [l], by rw [split, List.append_assoc, List.cons_append], run, there⟩

theorem acted_last (run : play a {} ls = some u) (hm : u.monitors[i]? = some m) :
    Acted a i (ls ++ [.watch i]) u m := ⟨ls, [], rfl, run, hm⟩

/-- Whenever monitor `i` begins a sweep, session `k` is not idle for too long. -/
def Heard (a : Application) (k : SessionKey) (i : Nat) (ls : List Label) : Prop :=
  ∀ u m, Acted a i ls u m → m.Fresh k u.hub

/-- Along the way monitor `i` began a sweep, in `h₀`. -/
def Began (a : Application) (i : Nat) (ls : List Label) (h₀ : Hub) : Prop :=
  ∃ u m, Acted a i ls u m ∧ m.begins u.hub = true ∧ h₀ = (m.goOn u.hub).2

theorem coherent_of_play (run : play a {} ls = some s) : s.hub.Coherent := (orderly_of_play run).coherent

theorem Began.coherent {h₀ : Hub} (began : Began a i ls h₀) : h₀.Coherent := by
  obtain ⟨u, m, ⟨before, -, -, run, -⟩, -, rfl⟩ := began
  exact (coherent_of_play run).of_leads (m.leads_goOn u.hub) (m.steady_goOn u.hub)

theorem play_watching (run : play a {} ls = some t) (heard : Heard a k i ls) (hm : t.monitors[i]? = some m) :
    m.Watching k t.hub := by
  induction ls using List.reverseRecOn generalizing t m with
  | nil =>
    obtain rfl := Option.some.inj run
    cases hm
  | append_singleton ls l ih =>
    obtain ⟨s, hs, hl⟩ := play_concat.mp run
    have earlier : Heard a k i ls := fun u m acted => heard u m (acted.more l)
    rcases monitor_of_step hl hm with ⟨m₀, there, does⟩ | ⟨m₀, rests, rfl⟩
    · have watching := ih hs earlier there
      rcases does with rfl | rfl | ⟨rfl, rfl⟩
      · exact .others _ watching
      · exact .others _ watching.stop
      · exact .others _ (watching.act (heard s m₀ (acted_last hs there)))
    · exact .others _ (Monitor.Watching.rests m₀ s.hub rests).start

/-- Where monitor `i` has its turn, session `k` only goes on with what it was sent before. -/
theorem watch_spares (run : play a {} ls = some u) (heard : Heard a k i (ls ++ [.watch i]))
    (made : step a u (.watch i) = some v) {x : Session} (hx : u.hub.session? k = some x) :
    v.hub.session? k = some (x.settle (u.hub.pipe k)) := by
  cases step_turn made with
  | watch _ m there _ =>
    have apart := (play_watching run (fun u m acted => heard u m (acted.more _)) there).apart
    have same := (Monitor.act_apart apart (heard u m (acted_last run there))).1
    rw [Hub.session_settleAll, same, hx, (Monitor.steady_act m u.hub).pipe k, Option.map_some]

/-- A sweep that is under way is in the course of one that its monitor began. -/
theorem play_course {w : Sweep} (run : play a {} ls = some t) (hm : t.monitors[i]? = some m)
    (under : m.sweep = some w) : ∃ h₀ sent cs, Began a i ls h₀ ∧
      Sweep.Course h₀ m.idleLimit m.patience (w.round sent) t.hub cs := by
  induction ls using List.reverseRecOn generalizing t m w with
  | nil =>
    obtain rfl := Option.some.inj run
    cases hm
  | append_singleton ls l ih =>
    obtain ⟨s, hs, hl⟩ := play_concat.mp run
    rcases monitor_of_step hl hm with ⟨m₀, there, rfl | rfl | ⟨rfl, rfl⟩⟩ | ⟨m₀, rests, rfl⟩
    · obtain ⟨h₀, sent, cs, ⟨u, m₁, acted, began⟩, course⟩ := ih hs there under
      exact ⟨h₀, sent, cs, ⟨u, m₁, acted.more l, began⟩, course.others (meanwhile_of_step hs hl)⟩
    · cases under
    · have acted := acted_last hs there
      obtain ⟨limit, patience⟩ := m₀.act_kept s.hub
      have after : (m₀.act s.hub).2.Meanwhile t.hub := by
        cases step_turn hl with
        | watch _ m₁ there' _ =>
          obtain rfl := Option.some.inj (there.symm.trans there')
          exact .of_leads (Hub.leads_settleAll _) (Hub.steady_settleAll _)
      rw [limit, patience]
      rcases Monitor.act_sweep under with ⟨w₀, before, rfl, same⟩ | ⟨begins, rfl, same⟩ <;> rw [same] at after
      · obtain ⟨h₀, sent, cs, ⟨u, m₁, acted, began⟩, course⟩ := ih hs there before
        obtain ⟨cs', course⟩ := Sweep.course_progress course
        exact ⟨h₀, sent, cs', ⟨u, m₁, acted.more _, began⟩, course.others after⟩
      · obtain ⟨sent, cs, course⟩ := Sweep.course_start (m₀.goOn s.hub).2 m₀.idleLimit m₀.patience
        exact ⟨_, sent, cs, ⟨s, m₀, acted, begins, rfl⟩, course.others after⟩
    · unfold Monitor.start at under
      split at under <;> cases rests.symm.trans under

/-- What the monitors of a server do, whatever its tasks and its network do meanwhile. -/
structure KeepsAlive (a : Application) (ls : List Label) (s : State) : Prop where
  coherent : s.hub.Coherent
  meanwhile : ∀ l t, step a s l = some t → s.hub.Meanwhile t.hub
  /-- A sweep that is under way is in the course of one that its monitor began. -/
  course : ∀ i m w, s.monitors[i]? = some m → m.sweep = some w → ∃ h₀ sent cs, h₀.Coherent ∧ Began a i ls h₀ ∧
    Sweep.Course h₀ m.idleLimit m.patience (w.round sent) s.hub cs
  /-- A session that was heard of in time before every sweep is never closed by one. -/
  spares : ∀ i k x t, Heard a k i (ls ++ [.watch i]) → step a s (.watch i) = some t → s.hub.session? k = some x →
    t.hub.session? k = some (x.settle (s.hub.pipe k)) ∧ (x.settle (s.hub.pipe k)).closed = x.closed

theorem keepsAlive_of_play (run : play a {} ls = some s) : KeepsAlive a ls s where
  coherent := coherent_of_play run
  meanwhile _ _ made := meanwhile_of_step run made
  course i m w hm under := by
    obtain ⟨h₀, sent, cs, began, course⟩ := play_course run hm under
    exact ⟨h₀, sent, cs, began.coherent, began, course⟩
  spares i k x t heard made hx := ⟨watch_spares run heard made hx, Session.closed_settle _ x⟩

/-- Sweeps close exactly the sessions that were idle for too long when they began, and the monitors of a server do
no more than that. -/
theorem sweeps_idle {h₀ : Hub} (coherent : h₀.Coherent) (limit patience : Nat) (run : play a {} ls = some s) :
    h₀.SweepsIdle limit patience ∧ KeepsAlive a ls s :=
  ⟨coherent.sweepsIdle limit patience, keepsAlive_of_play run⟩

/-- Two sessions are idle for too long, one of which takes only four bytes; a third has just not been idle for long
enough. -/
def oneStalls : Hub where
  clock := 31000
  sessions := [{ id := "reads", lane := { framing := {} } },
    { id := "waits", lane := { framing := {} }, lastActivity := 1000 }, { id := "stalls", lane := { framing := {} } }]
  pipes := [{}, {}, { capacity := 4 }]
  registry := ⟨[("reads", 0), ("waits", 1), ("stalls", 2)]⟩

theorem coherent_oneStalls : oneStalls.Coherent := by
  refine Hub.coherent_fresh (fun s there => ⟨{}, ?_⟩) (by decide) (by decide)
  have all : ∀ s ∈ oneStalls.sessions, s.lane = { framing := {} } := by simp [oneStalls]
  exact all s there

/-- A peer that takes nothing and says nothing for half a minute. -/
def silentPeer : List Label :=
  [.serve "127.0.0.1:7000" 7000, .connect 0 "s" "127.0.0.1:50000", .enroll 0, .task 0, .task 0, .pass 31000, .watch 0]

theorem sweeps_idle_stalled : ∃ s m w, play quietServer {} silentPeer = some s ∧ s.monitors[0]? = some m ∧
    m.sweep = some w ∧ oneStalls.SweepsIdle 30000 5000 ∧ KeepsAlive quietServer silentPeer s ∧
    (∀ k, oneStalls.Lapsed 30000 k ↔ k = 0 ∨ k = 2) ∧ (Sweep.start oneStalls 30000 5000).1.pending = [(2, 1)] ∧
    (Sweep.start oneStalls 30000 5000).1.closed = 1 := by
  have under : ((play quietServer {} silentPeer).bind fun s => s.monitors[0]?.bind (·.sweep)).isSome = true := by
    decide +kernel
  have chosen : oneStalls.idleKeys 30000 = [0, 2] := by decide
  have started : (Sweep.start oneStalls 30000 5000).1 = ⟨36000, [(2, 1)], 1⟩ := by decide +kernel
  obtain ⟨w, hw⟩ := Option.isSome_iff_exists.mp under
  obtain ⟨s, run, hw⟩ := Option.bind_eq_some_iff.mp hw
  obtain ⟨m, hm, hw⟩ := Option.bind_eq_some_iff.mp hw
  obtain ⟨sweeps, keeps⟩ := sweeps_idle coherent_oneStalls 30000 5000 run
  refine ⟨s, m, w, run, hm, hw, sweeps, keeps, fun k => ?_, by rw [started], by rw [started]⟩
  rw [← Hub.mem_idleKeys, chosen]
  simp

end Server
end FrameServer
