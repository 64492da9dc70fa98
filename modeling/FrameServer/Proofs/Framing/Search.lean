import FrameServer.Framing.Decode

namespace FrameServer.Framing

/-- The scanned bytes of a buffer hold no terminator, and are within the limit. -/
def Searched (f : Framing) (b : Backlog) : Prop :=
  match f.kind.terminator? with
  | some stop => b.scanned ≤ b.bytes.length ∧ b.scanned ≤ f.max ∧ stop ∉ b.bytes.take b.scanned
  | none => b.scanned = 0

theorem searched_fresh (f : Framing) (w : Bytes) : f.Searched ⟨w, 0⟩ := by
  unfold Searched
  cases f.kind.terminator? <;> simp

theorem searched_feed (f : Framing) (b : Backlog) (chunk : Bytes) (h : f.Searched b) :
    f.Searched (b.feed chunk) := by
  unfold Searched at h ⊢
  cases hk : f.kind.terminator? with
  | none => simpa [hk, Backlog.feed] using h
  | some stop =>
    rw [hk] at h
    obtain ⟨hlen, hmax, hfree⟩ := h
    refine ⟨?_, hmax, ?_⟩
    · simp only [Backlog.feed, List.length_append]
      omega
    · simpa [Backlog.feed, List.take_append_of_le_length hlen] using hfree

theorem locate_found (stop : UInt8) (i limit : Nat) (p rest : Bytes) (hp : stop ∉ p)
    (hl : p.length < limit) : locate stop i limit (p ++ stop :: rest) = some (i + p.length) := by
  induction p generalizing i limit with
  | nil =>
    obtain ⟨n, rfl⟩ : ∃ n, limit = n + 1 := ⟨limit - 1, by simp at hl; omega⟩
    simp [locate]
  | cons b p ih =>
    obtain ⟨n, rfl⟩ : ∃ n, limit = n + 1 := ⟨limit - 1, by simp at hl; omega⟩
    have hb : b ≠ stop := fun h => hp (by simp [h])
    have ht := ih (i + 1) n (fun h => hp (List.mem_cons_of_mem _ h)) (by simpa using hl)
    simp only [List.cons_append, locate, if_neg hb, ht, List.length_cons]
    congr 1
    omega

theorem locate_missing (stop : UInt8) (i limit : Nat) (w : Bytes) (hw : stop ∉ w.take limit) :
    locate stop i limit w = none := by
  induction w generalizing i limit with
  | nil => cases limit <;> rfl
  | cons b w ih =>
    cases limit with
    | zero => rfl
    | succ limit =>
      simp only [List.take_succ_cons, List.mem_cons, not_or] at hw
      rw [locate, if_neg (Ne.symm hw.1)]
      exact ih (i + 1) limit hw.2

/-- A search may begin behind bytes that hold no terminator. -/
theorem locate_resume (stop : UInt8) (n limit : Nat) (w : Bytes) (hn : n ≤ limit)
    (hw : stop ∉ w.take n) (i : Nat) :
    locate stop (i + n) (limit - n) (w.drop n) = locate stop i limit w := by
  induction n generalizing limit w i with
  | zero => simp
  | succ n ih =>
    obtain ⟨limit, rfl⟩ : ∃ l, limit = l + 1 := ⟨limit - 1, by omega⟩
    cases w with
    | nil => cases h : limit + 1 - (n + 1) <;> rfl
    | cons b w =>
      simp only [List.take_succ_cons, List.mem_cons, not_or] at hw
      have ht := ih limit w (by omega) hw.2 (i + 1)
      rw [List.drop_succ_cons, locate, if_neg (Ne.symm hw.1), ← ht]
      congr 1 <;> omega

theorem takeUntil_resume (stop : UInt8) (max : Nat) (b : Backlog) (hmax : b.scanned ≤ max)
    (hfree : stop ∉ b.bytes.take b.scanned) :
    takeUntil stop max b = takeUntil stop max ⟨b.bytes, 0⟩ := by
  have hs : min b.scanned (max + 1) = b.scanned := by omega
  have hr := locate_resume stop b.scanned (max + 1) b.bytes (by omega) hfree 0
  simp only [Nat.zero_add] at hr
  simp [takeUntil, hs, hr]

theorem decode_resume (f : Framing) (b : Backlog) (h : f.Searched b) :
    f.decode b = f.decode ⟨b.bytes, 0⟩ := by
  unfold Searched at h
  obtain ⟨kind, max⟩ := f
  cases kind with
  | line =>
    simp only [Kind.terminator?] at h
    simp only [decode, takeUntil_resume lf max b h.2.1 h.2.2]
  | delimiter d =>
    simp only [Kind.terminator?] at h
    simp only [decode, takeUntil_resume d max b h.2.1 h.2.2]
  | lengthPrefixed =>
    simp only [Kind.terminator?] at h
    obtain ⟨bytes, scanned⟩ := b
    subst h
    rfl

/-- What an attempt to take the bytes before a terminator comes to. -/
theorem takeUntil_cases (stop : UInt8) (max : Nat) (w : Bytes) :
    (∃ p rest, w = p ++ stop :: rest ∧ stop ∉ p ∧ p.length ≤ max ∧
      takeUntil stop max ⟨w, 0⟩ = (.ok (some p), ⟨rest, 0⟩)) ∨
    (stop ∉ w.take (max + 1) ∧ max < w.length ∧
      takeUntil stop max ⟨w, 0⟩ = (.error (.tooLarge w.length max), ⟨w, 0⟩)) ∨
    (stop ∉ w ∧ w.length ≤ max ∧ takeUntil stop max ⟨w, 0⟩ = (.ok none, ⟨w, w.length⟩)) := by
  by_cases hm : stop ∈ w.take (max + 1)
  · left
    obtain ⟨p, rest, he, hp⟩ := List.eq_append_cons_of_mem hm
    have hl : p.length ≤ max := by
      have := congrArg List.length he
      simp only [List.length_take, List.length_append, List.length_cons] at this
      omega
    obtain ⟨rest', rfl⟩ : ∃ rest', w = p ++ stop :: rest' := by
      refine ⟨rest ++ w.drop (max + 1), ?_⟩
      rw [← List.cons_append, ← List.append_assoc, ← he, List.take_append_drop]
    have hf := locate_found stop 0 (max + 1) p rest' hp (by omega)
    exact ⟨p, rest', rfl, hp, hl, by simp [takeUntil, hf]⟩
  · right
    have hl := locate_missing stop 0 (max + 1) w hm
    by_cases hlen : max < w.length
    · left
      refine ⟨hm, hlen, ?_⟩
      simp [takeUntil, hl, hlen]
    · right
      have hle : w.length ≤ max := by omega
      rw [List.take_of_length_le (by omega)] at hm
      refine ⟨hm, hle, ?_⟩
      simp [takeUntil, hl, hlen]

end FrameServer.Framing
