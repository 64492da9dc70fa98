import FrameServer.Proofs.Framing.Resumption
import FrameServer.Proofs.Framing.RoundTrip

namespace FrameServer.Framing

variable (f : Framing)

/-- The bytes that a message is taken from. A line may lose a carriage return; any other frame is what the message is
encoded to. -/
def Carries (m w : Bytes) : Prop :=
  match f.kind with
  | .line => ∃ r, (r = [] ∨ r = [cr]) ∧ w = m ++ r ++ [lf]
  | .delimiter _ | .lengthPrefixed => f.encode m = .ok w

/-- Whether a buffer shows that its first frame is longer than the limit. -/
def Oversized (w : Bytes) : Prop :=
  match f.kind.terminator? with
  | some stop => f.max < w.length ∧ stop ∉ w.take (f.max + 1)
  | none => ∃ p q r s rest, w = p :: q :: r :: s :: rest ∧ f.max < prefixLength p q r s

/-- Whether a buffer is within what may wait for more bytes. -/
def Within (w : Bytes) : Prop :=
  match f.kind.terminator? with
  | some _ => w.length ≤ f.max
  | none => w.length < 4 + f.max

/-- What an attempt to take a message does to a buffer. -/
inductive Draws (w : Bytes) : Taken × Backlog → Prop
  | message (m frame rest : Bytes) (carried : f.Carries m frame) (front : w = frame ++ rest) (short : m.length ≤ f.max)
      (fits : ¬ f.Oversized w) : Draws w (.ok (some m), ⟨rest, 0⟩)
  | more (b : Backlog) (same : b.bytes = w) (within : f.Within w) (fits : ¬ f.Oversized w) : Draws w (.ok none, b)
  | failed (size : Nat) (oversized : f.Oversized w) : Draws w (.error (.tooLarge size f.max), ⟨w, 0⟩)

theorem stripCr_append (m : Bytes) : ∃ r, (r = [] ∨ r = [cr]) ∧ m = stripCr m ++ r := by
  unfold stripCr
  split
  next last =>
    refine ⟨[cr], .inr rfl, ?_⟩
    obtain ⟨front, rfl⟩ := List.getLast?_eq_some_iff.mp last
    rw [List.dropLast_concat]
  next => exact ⟨[], .inl rfl, (List.append_nil m).symm⟩

theorem lengthPrefix_prefixLength (p q r s : UInt8) :
    lengthPrefix (prefixLength p q r s) = [p, q, r, s] ∧ prefixLength p q r s ≤ prefixMax := by
  have hp := p.toNat_lt
  have hq := q.toNat_lt
  have hr := r.toNat_lt
  have hs := s.toNat_lt
  have byte (n : Nat) (b : UInt8) (h : n % 256 = b.toNat) : n.toUInt8 = b := by
    rw [← UInt8.toNat_inj]
    simpa using h
  constructor
  · unfold lengthPrefix prefixLength
    rw [byte _ p (by omega), byte _ q (by omega), byte _ r (by omega), byte _ s (by omega)]
  · unfold prefixLength prefixMax
    omega

section Marked

variable {f} {stop : UInt8} (marked : f.kind.terminator? = some stop)
include marked

theorem oversized_iff (w : Bytes) : f.Oversized w ↔ f.max < w.length ∧ stop ∉ w.take (f.max + 1) := by
  simp only [Oversized, marked]

theorem within_iff (w : Bytes) : f.Within w ↔ w.length ≤ f.max := by
  simp only [Within, marked]

theorem takeUntil_draws (strip : Bytes → Bytes) (shorter : ∀ p, (strip p).length ≤ p.length)
    (carried : ∀ p, p.length ≤ f.max → f.Carries (strip p) (p ++ [stop])) (w : Bytes) :
    Draws f w ((takeUntil stop f.max ⟨w, 0⟩).1.map (·.map strip), (takeUntil stop f.max ⟨w, 0⟩).2) := by
  rcases takeUntil_cases stop f.max w with ⟨p, rest, rfl, -, short, found⟩ | ⟨clear, long, overlong⟩ |
    ⟨-, short, missing⟩
  · rw [found]
    refine .message (strip p) (p ++ [stop]) rest (carried p short) (by simp) (Nat.le_trans (shorter p) short) ?_
    rw [oversized_iff marked]
    rintro ⟨-, clear⟩
    refine clear (List.mem_take_iff_getElem.mpr ⟨p.length, ?_, ?_⟩)
    · simp only [List.length_append, List.length_cons]
      omega
    · simp
  · rw [overlong]
    exact .failed _ ((oversized_iff marked w).mpr ⟨long, clear⟩)
  · rw [missing]
    refine .more _ rfl ((within_iff marked w).mpr short) ?_
    rw [oversized_iff marked]
    exact fun h => absurd h.1 (Nat.not_lt.mpr short)

end Marked

theorem takePrefixed_draws (counted : f.kind = .lengthPrefixed) (w : Bytes) :
    Draws f w (takePrefixed f.max ⟨w, 0⟩) := by
  have oversized : f.Oversized w ↔
      ∃ p q r s rest, w = p :: q :: r :: s :: rest ∧ f.max < prefixLength p q r s := by
    simp only [Oversized, counted, Kind.terminator?]
  have within : f.Within w ↔ w.length < 4 + f.max := by simp only [Within, counted, Kind.terminator?]
  rcases w with _ | ⟨p, _ | ⟨q, _ | ⟨r, _ | ⟨s, rest⟩⟩⟩⟩
  case cons.cons.cons.cons =>
    by_cases large : f.max < prefixLength p q r s
    · simp only [takePrefixed, gt_iff_lt, if_pos large]
      exact .failed _ (oversized.mpr ⟨p, q, r, s, rest, rfl, large⟩)
    · have fits : ¬ f.Oversized (p :: q :: r :: s :: rest) := by
        rw [oversized]
        rintro ⟨p', q', r', s', rest', same, large'⟩
        simp only [List.cons.injEq] at same
        obtain ⟨rfl, rfl, rfl, rfl, -⟩ := same
        exact large large'
      simp only [takePrefixed, gt_iff_lt, if_neg large, List.length_take]
      by_cases part : rest.length < prefixLength p q r s
      · rw [if_pos (by omega)]
        refine .more _ rfl (within.mpr ?_) fits
        simp only [List.length_cons]
        omega
      · rw [if_neg (by omega)]
        obtain ⟨head, small⟩ := lengthPrefix_prefixLength p q r s
        have length : (rest.take (prefixLength p q r s)).length = prefixLength p q r s := by
          rw [List.length_take]
          omega
        refine .message _ ([p, q, r, s] ++ rest.take (prefixLength p q r s)) _ ?_ ?_ ?_ fits
        · simp only [Carries, counted, encode, length, gt_iff_lt, if_neg large, if_neg (Nat.not_lt.mpr small), head]
        · simp
        · rw [length]
          exact Nat.not_lt.mp large
  all_goals
    refine .more _ rfl (within.mpr ?_) (by simp [oversized])
    simp only [List.length_cons, List.length_nil]
    omega

theorem decode_draws (b : Backlog) (searched : f.Searched b) : Draws f b.bytes (f.decode b) := by
  rw [decode_resume f b searched]
  cases hk : f.kind with
  | line =>
    have carried (p : Bytes) : f.Carries (stripCr p) (p ++ [lf]) := by
      obtain ⟨r, which, split⟩ := stripCr_append p
      simp only [Carries, hk]
      exact ⟨r, which, by rw [← split]⟩
    have shorter (p : Bytes) : (stripCr p).length ≤ p.length := by
      obtain ⟨r, -, split⟩ := stripCr_append p
      have := congrArg List.length split
      rw [List.length_append] at this
      omega
    have draws := takeUntil_draws (f := f) (by rw [hk]; rfl) stripCr shorter (fun p _ => carried p) b.bytes
    simp only [decode, hk]
    generalize takeUntil lf f.max ⟨b.bytes, 0⟩ = r at draws ⊢
    obtain ⟨_ | _ | _, _⟩ := r <;> exact draws
  | delimiter d =>
    have carried (p : Bytes) (short : p.length ≤ f.max) : f.Carries p (p ++ [d]) := by
      simp only [Carries, hk, encode, gt_iff_lt, if_neg (Nat.not_lt.mpr short)]
    have draws := takeUntil_draws (f := f) (by rw [hk]; rfl) id (fun p => Nat.le_refl _) carried b.bytes
    simp only [decode, hk]
    generalize takeUntil d f.max ⟨b.bytes, 0⟩ = r at draws ⊢
    obtain ⟨_ | _ | _, _⟩ := r <;> exact draws
  | lengthPrefixed =>
    simp only [decode, hk]
    exact takePrefixed_draws f hk b.bytes

/-- Bytes that come later do not make a frame shorter. -/
theorem Oversized.append {f : Framing} {w : Bytes} (h : f.Oversized w) (v : Bytes) : f.Oversized (w ++ v) := by
  unfold Oversized at h ⊢
  split at h
  next stop _ =>
    obtain ⟨long, clear⟩ := h
    refine ⟨?_, ?_⟩
    · rw [List.length_append]
      omega
    · rwa [List.take_append_of_le_length (by omega)]
  next =>
    obtain ⟨p, q, r, s, rest, rfl, large⟩ := h
    exact ⟨p, q, r, s, rest ++ v, rfl, large⟩

theorem decode_oversized {f : Framing} {b : Backlog} (searched : f.Searched b) (oversized : f.Oversized b.bytes) :
    ∃ size, f.decode b = (.error (.tooLarge size f.max), ⟨b.bytes, 0⟩) := by
  have draws := decode_draws f b searched
  generalize f.decode b = r at draws ⊢
  cases draws with
  | message m frame rest _ _ _ fits => exact absurd oversized fits
  | more b' _ _ fits => exact absurd oversized fits
  | failed size => exact ⟨size, rfl⟩

/-- Every operation leaves a place where the search may resume. -/
theorem searched_after {f : Framing} {b : Backlog} (h : f.Searched b) (op : Operation) :
    f.Searched (f.operate b op).2 := by
  cases terminated : f.kind.terminator? with
  | some stop => exact searched_operate terminated h op
  | none =>
    cases op with
    | feed chunk => exact searched_feed f b chunk h
    | decode => exact searched_decode h
    | decodeEof =>
      have after : f.Searched (f.decode b).2 := searched_decode h
      simp only [operate, decodeEof]
      split
      next b' waits =>
        rw [waits] at after
        have counted : f.kind = .lengthPrefixed := by
          cases hk : f.kind <;> simp [hk, Kind.terminator?] at terminated ⊢
        simp only [leftover, counted]
        split
        · exact after
        · simpa only [Searched, terminated] using after
      next => exact after

theorem searched_after_all {f : Framing} {b : Backlog} (ops : List Operation) (h : f.Searched b) :
    f.Searched (f.operateAll b ops) := by
  induction ops generalizing b with
  | nil => exact h
  | cons op ops ih => exact ih (searched_after h op)

end FrameServer.Framing
