import FrameServer.Proofs.Framing.Front

namespace FrameServer.Framing

variable {f : Framing} {b : Backlog}

theorem decode_shortens (searched : f.Searched b) {m : Bytes} (taken : (f.decode b).1 = .ok (some m)) :
    (f.decode b).2.bytes.length < b.bytes.length := by
  have attempt := decode_attempt f b searched
  generalize f.decode b = r at attempt taken ⊢
  cases attempt with
  | message m rest shorter => exact shorter
  | more b' => cases taken
  | failed e => cases taken

theorem decodeEof_shortens (searched : f.Searched b) {m : Bytes} (taken : (f.decodeEof b).1 = .ok (some m)) :
    (f.decodeEof b).2.bytes.length < b.bytes.length := by
  have final := decodeEof_final f b searched
  generalize f.decodeEof b = r at final taken ⊢
  cases final with
  | message m rest shorter => exact shorter
  | done b' => cases taken
  | failed e b' => cases taken

/-- After the end of the stream no search is under way. -/
theorem decodeEof_unsearched (searched : f.Searched b) : (f.decodeEof b).2.scanned = 0 := by
  cases terminated : f.kind.terminator? with
  | some stop => exact decodeEof_scanned terminated searched
  | none =>
    have after : f.Searched (f.operate b .decodeEof).2 := searched_after searched .decodeEof
    simpa only [Searched, terminated, operate] using after

/-- An attempt that fails takes nothing away. -/
theorem decodeEof_failed (searched : f.Searched b) {e : FrameError} (failed : (f.decodeEof b).1 = .error e) :
    (f.decodeEof b).2.bytes = b.bytes := by
  have draws := decode_draws f b searched
  simp only [decodeEof] at failed ⊢
  generalize f.decode b = r at draws failed ⊢
  cases draws with
  | message m frame rest => cases failed
  | failed size => rfl
  | more b' same =>
    simp only [leftover] at failed ⊢
    split at failed
    · split at failed <;> cases failed
    · cases failed
    · split at failed
      next bytes => simpa only [bytes] using same
      next => cases failed

theorem decodeEof_empty (f : Framing) : f.decodeEof {} = (.ok none, {}) := by
  obtain ⟨kind, max⟩ := f
  cases kind <;> simp [decodeEof, decode, leftover, takeUntil, takePrefixed, locate]

/-- An attempt that gives no message empties the buffer, or fails and leaves all bytes in it. -/
theorem decodeEof_over (searched : f.Searched b) (silent : ∀ m, (f.decodeEof b).1 ≠ .ok (some m)) :
    f.decodeEof b = (.ok none, {}) ∨ ∃ e b', f.decodeEof b = (.error e, b') ∧ b'.bytes = b.bytes := by
  have unsearched := decodeEof_unsearched searched
  have kept {e : FrameError} := decodeEof_failed searched (e := e)
  have final := decodeEof_final f b searched
  generalize f.decodeEof b = r at silent unsearched kept final ⊢
  cases final with
  | message m rest => exact absurd rfl (silent m)
  | done b' empty =>
    left
    obtain ⟨bytes, scanned⟩ := b'
    simp_all
  | failed e b' => exact .inr ⟨e, b', rfl, kept rfl⟩

/-- After an attempt that gives no message the next one comes to the same. -/
theorem decodeEof_again (searched : f.Searched b) (silent : ∀ m, (f.decodeEof b).1 ≠ .ok (some m)) :
    f.decodeEof (f.decodeEof b).2 = f.decodeEof b := by
  rcases decodeEof_over searched silent with last | ⟨e, b', last, kept⟩
  · rw [last]
    exact decodeEof_empty f
  · have still : f.Searched b' := by
      have after := searched_after searched .decodeEof
      simpa only [operate, last] using after
    calc f.decodeEof (f.decodeEof b).2
        = f.decodeEof b' := by rw [last]
      _ = f.decodeEof b'.rewound := decodeEof_resume still
      _ = f.decodeEof b.rewound := by simp only [Backlog.rewound, kept]
      _ = f.decodeEof b := (decodeEof_resume searched).symm

/-- The buffer after so many attempts at the end of the stream. -/
def afterEof (f : Framing) (b : Backlog) (n : Nat) : Backlog := f.operateAll b (List.replicate n .decodeEof)

theorem afterEof_succ (n : Nat) : f.afterEof b (n + 1) = f.afterEof (f.decodeEof b).2 n := rfl

theorem afterEof_still {t : Taken} (still : f.decodeEof b = (t, b)) (n : Nat) : f.afterEof b n = b := by
  induction n with
  | zero => rfl
  | succ n ih => rw [afterEof_succ, still, ih]

/-- The first attempt without a message comes before there are more attempts than bytes, as every message shortens
the buffer. -/
theorem exists_over (searched : f.Searched b) : ∃ n ≤ b.bytes.length,
    (∀ k < n, ∃ m, (f.decodeEof (f.afterEof b k)).1 = .ok (some m)) ∧
      ∀ m, (f.decodeEof (f.afterEof b n)).1 ≠ .ok (some m) := by
  induction length : b.bytes.length using Nat.strongRecOn generalizing b with
  | _ size ih =>
    by_cases taken : ∃ m, (f.decodeEof b).1 = .ok (some m)
    · obtain ⟨m, taken⟩ := taken
      have shorter : (f.decodeEof b).2.bytes.length < size := length ▸ decodeEof_shortens searched taken
      obtain ⟨n, few, messages, silent⟩ := ih _ shorter (searched_after searched .decodeEof) rfl
      refine ⟨n + 1, Nat.lt_of_le_of_lt few shorter, ?_, silent⟩
      intro k before
      cases k with
      | zero => exact ⟨m, taken⟩
      | succ k => exact messages k (Nat.lt_of_succ_lt_succ before)
    · exact ⟨0, Nat.zero_le _, nofun, fun m same => taken ⟨m, same⟩⟩

/-- A loop that goes on as long as it gets messages makes these attempts and no others. -/
theorem drainWith_eof {n fuel : Nat} (enough : n < fuel)
    (messages : ∀ k < n, ∃ m, (f.decodeEof (f.afterEof b k)).1 = .ok (some m))
    (silent : ∀ m, (f.decodeEof (f.afterEof b n)).1 ≠ .ok (some m)) :
    drainWith f.decodeEof fuel b = (List.range (n + 1)).map fun k => f.decodeEof (f.afterEof b k) := by
  induction n generalizing b fuel with
  | zero =>
    obtain ⟨fuel, rfl⟩ : ∃ k, fuel = k + 1 := ⟨fuel - 1, by omega⟩
    rw [drainWith]
    split
    next m b' taken => exact absurd (congrArg Prod.fst taken) (silent m)
    next => rfl
  | succ n ih =>
    obtain ⟨fuel, rfl⟩ : ∃ k, fuel = k + 1 := ⟨fuel - 1, by omega⟩
    obtain ⟨m, taken⟩ := messages 0 (Nat.zero_lt_succ n)
    have first : f.decodeEof b = (.ok (some m), (f.decodeEof b).2) := Prod.ext taken rfl
    have later : drainWith f.decodeEof fuel (f.decodeEof b).2 =
        (List.range (n + 1)).map fun k => f.decodeEof (f.afterEof b (k + 1)) :=
      ih (Nat.lt_of_succ_lt_succ enough) (fun k before => messages (k + 1) (Nat.succ_lt_succ before)) silent
    rw [List.range_succ_eq_map, List.map_cons, List.map_map, drainWith, first]
    exact congrArg₂ List.cons first.symm later

/-- How a buffer stands at an attempt that gives no message. -/
inductive Settles (f : Framing) (b : Backlog) : Prop
  /-- Nothing is left in it, and no later attempt changes that. -/
  | emptied (last : f.decodeEof b = (.ok none, {})) (later : ∀ k, f.decodeEof (f.afterEof b (k + 1)) = (.ok none, {}))
  /-- All its bytes are left in it, and every later attempt fails in the same way. -/
  | failed (e : FrameError) (b' : Backlog) (last : f.decodeEof b = (.error e, b')) (kept : b'.bytes = b.bytes)
      (later : ∀ k, f.decodeEof (f.afterEof b (k + 1)) = (.error e, b'))

theorem settles (searched : f.Searched b) (silent : ∀ m, (f.decodeEof b).1 ≠ .ok (some m)) : f.Settles b := by
  have again := decodeEof_again searched silent
  have later (k : Nat) : f.decodeEof (f.afterEof b (k + 1)) = f.decodeEof b := by
    rw [afterEof_succ, afterEof_still (t := (f.decodeEof b).1) again, again]
  rcases decodeEof_over searched silent with last | ⟨e, b', last, kept⟩
  · exact .emptied last fun k => (later k).trans last
  · exact .failed e b' last kept fun k => (later k).trans last

/-- How taking messages out of a buffer comes to an end. -/
structure Drains (f : Framing) (b : Backlog) : Prop where
  shortens : ∀ m, (f.decode b).1 = .ok (some m) → (f.decode b).2.bytes.length < b.bytes.length
  shortensEof : ∀ m, (f.decodeEof b).1 = .ok (some m) → (f.decodeEof b).2.bytes.length < b.bytes.length
  /-- After some messages there is an attempt that gives none. The loop over a buffer goes as far as that attempt. -/
  stops : ∃ n ≤ b.bytes.length, (∀ k < n, ∃ m, (f.decodeEof (f.afterEof b k)).1 = .ok (some m)) ∧
    f.Settles (f.afterEof b n) ∧ f.drainEof b = (List.range (n + 1)).map fun k => f.decodeEof (f.afterEof b k)

/-- Whatever was done with a buffer that was empty at first, taking what is left in it comes to an end, and leaves
nothing or what cannot be taken. -/
theorem operateAll_drains (f : Framing) (ops : List Operation) : f.Drains (f.operateAll {} ops) := by
  have searched : f.Searched (f.operateAll {} ops) := searched_after_all ops (f.searched_fresh [])
  refine ⟨fun m => decode_shortens searched, fun m => decodeEof_shortens searched, ?_⟩
  obtain ⟨n, few, messages, silent⟩ := exists_over searched
  have rest : f.Searched (f.afterEof (f.operateAll {} ops) n) := searched_after_all _ searched
  exact ⟨n, few, messages, settles rest silent, drainWith_eof (Nat.lt_succ_of_le few) messages silent⟩

/-- A carriage return that ends the stream is a message without bytes, and the last one. -/
example : Framing.drainEof ⟨.line, 3⟩ ⟨[97, lf, cr], 1⟩ =
    [(.ok (some [97]), ⟨[cr], 0⟩), (.ok (some []), {}), (.ok none, {})] := rfl

end FrameServer.Framing
