import FrameServer.Proofs.Server.Buffer

namespace FrameServer.Server

open Connection

/-- The frames that the pump of session `k` finds along a list of steps. -/
def decoded (a : Application) (k : SessionKey) : State → List Label → List Bytes := gathered (found a k) a

/-- The messages with which the handler of session `k` is called along a list of steps. -/
def handed (a : Application) (k : SessionKey) : State → List Label → List Bytes := gathered (taken k) a

variable {a : Application} {k : SessionKey} {s t : State} {l : Label} {ls : List Label} {c c' : Connection}
  {places : List Nat} {first : Nat}

/-- The frames at these places were handled, those from `first` on wait. -/
structure Sieve (a : Application) (k : SessionKey) (ls : List Label) (c : Connection) (places : List Nat)
    (first : Nat) : Prop where
  increasing : places.Pairwise (· < ·)
  handled : (handed a k {} ls).map some = places.map fun p => (decoded a k {} ls)[p]?
  behind : ∀ p ∈ places, p < first
  bound : first ≤ (decoded a k {} ls).length
  retained : c.waiting.items = (decoded a k {} ls).drop first
  /-- A frame was skipped when, before the handler got to it, as many newer ones had been found as there is room for. -/
  skipped : ∀ j < first, j ∉ places → ∃ before after, ls = before ++ after ∧
    (∀ p ∈ places.take (handed a k {} before).length, p < j) ∧
    j + c.waiting.capacity < (decoded a k {} before).length

namespace Sieve

theorem length_eq (h : Sieve a k ls c places first) : (handed a k {} ls).length = places.length := by
  have same := congrArg List.length h.handled
  rw [List.length_map, List.length_map] at same
  exact same

theorem admitted (found : decoded a k {} ls = []) (untaken : handed a k {} ls = []) :
    Sieve a k ls (admitted a.settings) [] 0 := by
  refine ⟨.nil, ?_, by simp, by simp, ?_, fun j hj => absurd hj (Nat.not_lt_zero j)⟩
  · rw [untaken]
    rfl
  · rw [found]
    rfl

theorem keep (h : Sieve a k ls c places first) (found : decoded a k {} (ls ++ [l]) = decoded a k {} ls)
    (untaken : handed a k {} (ls ++ [l]) = handed a k {} ls) (kept : c'.waiting = c.waiting) :
    Sieve a k (ls ++ [l]) c' places first := by
  constructor
  · exact h.increasing
  · rw [found, untaken]
    exact h.handled
  · exact h.behind
  · rw [found]
    exact h.bound
  · rw [found, kept]
    exact h.retained
  · intro j hj absent
    obtain ⟨before, after, rfl, older, newer⟩ := h.skipped j hj absent
    rw [kept]
    exact ⟨before, after ++ [l], List.append_assoc _ _ _, older, newer⟩

theorem push {f : Bytes} (h : Sieve a k ls c places first)
    (found : decoded a k {} (ls ++ [l]) = decoded a k {} ls ++ [f])
    (untaken : handed a k {} (ls ++ [l]) = handed a k {} ls) (pushed : c'.waiting = c.waiting.push f) :
    Sieve a k (ls ++ [l]) c' places (max first ((decoded a k {} ls).length + 1 - c.waiting.capacity)) := by
  have room : c'.waiting.capacity = c.waiting.capacity := by rw [pushed, Ring.push_capacity]
  have longer : (decoded a k {} (ls ++ [l])).length = (decoded a k {} ls).length + 1 := by
    rw [found, List.length_append, List.length_singleton]
  have bound := h.bound
  constructor
  · exact h.increasing
  · rw [found, untaken, h.handled]
    apply List.map_congr_left
    intro p hp
    have old : p < (decoded a k {} ls).length := Nat.lt_of_lt_of_le (h.behind p hp) bound
    exact (List.getElem?_append_left old).symm
  · intro p hp
    have old := h.behind p hp
    omega
  · omega
  · rw [pushed, found]
    exact Ring.push_items h.retained bound
  · intro j hj absent
    rw [room]
    by_cases old : j < first
    · obtain ⟨before, after, rfl, older, newer⟩ := h.skipped j old absent
      exact ⟨before, after ++ [l], List.append_assoc _ _ _, older, newer⟩
    · refine ⟨ls ++ [l], [], (List.append_nil _).symm, ?_, by omega⟩
      intro p hp
      have late := h.behind p (List.mem_of_mem_take hp)
      omega

theorem pop {m : Bytes} (h : Sieve a k ls c places first)
    (found : decoded a k {} (ls ++ [l]) = decoded a k {} ls)
    (took : handed a k {} (ls ++ [l]) = handed a k {} ls ++ [m]) (popped : c.waiting.pop? = (some m, c'.waiting)) :
    Sieve a k (ls ++ [l]) c' (places ++ [first]) (first + 1) := by
  have room : c'.waiting.capacity = c.waiting.capacity := (Ring.pop_some popped).2
  obtain ⟨there, bound, left⟩ := Ring.pop_items h.retained popped
  constructor
  · apply List.pairwise_append.mpr
    refine ⟨h.increasing, List.pairwise_singleton _ _, ?_⟩
    intro p hp q hq
    obtain rfl := List.mem_singleton.mp hq
    exact h.behind p hp
  · rw [took, found, List.map_append, List.map_append, h.handled]
    simp [there]
  · intro p hp
    rcases List.mem_append.mp hp with hp | hp
    · exact Nat.lt_succ_of_lt (h.behind p hp)
    · obtain rfl := List.mem_singleton.mp hp
      exact Nat.lt_succ_self _
  · rw [found]
    exact bound
  · rw [found]
    exact left
  · intro j hj absent
    obtain ⟨missing, other⟩ := not_or.mp (mt List.mem_append.mpr absent)
    have old : j < first := by
      have ne : j ≠ first := by simpa using other
      omega
    obtain ⟨before, after, rfl, older, newer⟩ := h.skipped j old missing
    rw [room]
    refine ⟨before, after ++ [l], List.append_assoc _ _ _, ?_, newer⟩
    have short : (handed a k {} before).length ≤ places.length := by
      rw [← h.length_eq]
      exact (gathered_grows (taken k) {} before after).length_le
    rw [List.take_append_of_le_length short]
    exact older

end Sieve

/-- What is known of the frames of session `k` after a run: nothing before it is connected, then which were handled. -/
structure Sifted (a : Application) (k : SessionKey) (ls : List Label) (t : State) : Prop where
  before : t.connection? k = none → decoded a k {} ls = [] ∧ handed a k {} ls = []
  sieve : ∀ c, t.connection? k = some c → ∃ places first, Sieve a k ls c places first
  room : ∀ c, t.connection? k = some c → c.waiting.capacity = Ring.roomFor (max a.settings.backpressureCapacity 1)

theorem Connection.Flow.capacity {f? m? : Option Bytes} (h : c.Flow c' f? m?) :
    c'.waiting.capacity = c.waiting.capacity := by
  cases h with
  | push f _ pushed => rw [pushed, Ring.push_capacity]
  | pop m popped => exact (Ring.pop_some popped).2
  | keep kept => rw [kept]

theorem Sieve.flow {f? m? : Option Bytes} (h : Sieve a k ls c places first)
    (found : decoded a k {} (ls ++ [l]) = decoded a k {} ls ++ f?.toList)
    (took : handed a k {} (ls ++ [l]) = handed a k {} ls ++ m?.toList) (flow : c.Flow c' f? m?) :
    ∃ places first, Sieve a k (ls ++ [l]) c' places first := by
  cases flow with
  | push f _ pushed => exact ⟨_, _, h.push found (by simpa using took) pushed⟩
  | pop m popped => exact ⟨_, _, h.pop (by simpa using found) took popped⟩
  | keep kept => exact ⟨_, _, h.keep (by simpa using found) (by simpa using took) kept⟩

theorem play_sifted (k : SessionKey) (run : play a {} ls = some t) : Sifted a k ls t := by
  induction ls using List.reverseRecOn generalizing t with
  | nil =>
    obtain rfl := Option.some.inj run
    exact ⟨fun _ => ⟨rfl, rfl⟩, fun c hc => (by cases hc), fun c hc => (by cases hc)⟩
  | append_singleton ls l ih =>
    obtain ⟨s, hs, hl⟩ := play_concat.mp run
    have sifted := ih hs
    have found : decoded a k {} (ls ++ [l]) = decoded a k {} ls ++ (found a k s l).toList := gathered_concat hs hl
    have took : handed a k {} (ls ++ [l]) = handed a k {} ls ++ (taken k s l).toList := gathered_concat hs hl
    cases hc : s.connection? k with
    | none =>
      obtain ⟨unfound, untaken, new⟩ := step_unconnected hl hc
      obtain ⟨noFrames, noMessages⟩ := sifted.before hc
      rw [unfound, noFrames] at found
      rw [untaken, noMessages] at took
      refine ⟨fun _ => ⟨found, took⟩, fun d hd => ?_, fun d hd => ?_⟩
      all_goals
        rcases new with absent | added
        · rw [absent] at hd
          cases hd
        obtain rfl : admitted a.settings = d := Option.some.inj (added.symm.trans hd)
      · exact ⟨[], 0, .admitted found took⟩
      · rfl
    | some c =>
      obtain ⟨c', hc', flow⟩ := step_flow hl hc
      obtain ⟨places, first, sieve⟩ := sifted.sieve c hc
      refine ⟨fun absent => ?_, fun d hd => ?_, fun d hd => ?_⟩
      · rw [hc'] at absent
        cases absent
      · obtain rfl : c' = d := Option.some.inj (hc'.symm.trans hd)
        exact sieve.flow found took flow
      · obtain rfl : c' = d := Option.some.inj (hc'.symm.trans hd)
        rw [flow.capacity]
        exact sifted.room c hc

end FrameServer.Server
