import FrameServer.Proofs.Framing.Division

namespace FrameServer.Framing

variable (f : Framing)

/-- Bytes that begin a message but do not hold all of it. -/
def Unfinished (w : Bytes) : Prop :=
  match f.kind.terminator? with
  | some stop => stop ∉ w ∧ w.length ≤ f.max
  | none => ∀ p q r s rest, w = p :: q :: r :: s :: rest →
      prefixLength p q r s ≤ f.max ∧ rest.length < prefixLength p q r s

/-- What the front of a buffer says about a stream that begins with it. -/
inductive Attempt (w : Bytes) : Taken × Backlog → Prop
  | message (m rest : Bytes) (shorter : rest.length < w.length)
      (first : ∀ v, f.divide (w ++ v) = (f.divide (rest ++ v)).after [m]) :
      Attempt w (.ok (some m), ⟨rest, 0⟩)
  | more (b : Backlog) (same : b.bytes = w) (searched : f.Searched b) (unfinished : f.Unfinished w) :
      Attempt w (.ok none, b)
  | failed (e : FrameError) (silent : ∀ v, (f.divide (w ++ v)).messages = [])
      (shows : ∀ v, (f.divide (w ++ v)).ending.Shows f.max (some e)) : Attempt w (.error e, ⟨w, 0⟩)

theorem takeUntil_attempt (stop : UInt8) (piece : Bytes → Bytes) (tail : Bytes → List Bytes)
    (hk : f.kind.terminator? = some stop)
    (hd : ∀ w, f.divide w = deliver f.max piece tail (w.splitOn stop)) (w : Bytes) :
    match takeUntil stop f.max ⟨w, 0⟩ with
    | (.ok (some m), b) => Attempt f w (.ok (some (piece m)), b)
    | r => Attempt f w r := by
  rcases takeUntil_cases stop f.max w with ⟨p, rest, rfl, hp, hl, ht⟩ | ⟨hs, hl, ht⟩ | ⟨hs, hl, ht⟩
  · rw [ht]
    refine .message (piece p) rest (by simp; omega) fun v => ?_
    rw [hd, hd, List.append_assoc, List.cons_append]
    exact deliver_split f.max piece tail stop p (rest ++ v) hp hl
  · rw [ht]
    have long (v : Bytes) : f.divide (w ++ v) = ⟨[], .overlong⟩ := by
      rw [hd]
      apply deliver_split_overlong
      · rwa [List.take_append_of_le_length (by omega)]
      · simp only [List.length_append]
        omega
    refine .failed _ (fun v => by rw [long]) fun v => ?_
    rw [long]
    exact ⟨w.length, hl, rfl⟩
  · rw [ht]
    refine .more _ rfl ?_ ?_
    · unfold Searched
      rw [hk]
      exact ⟨Nat.le_refl _, hl, by simpa using hs⟩
    · unfold Unfinished
      rw [hk]
      exact ⟨hs, hl⟩

theorem takePrefixed_attempt (hk : f.kind = .lengthPrefixed) (w : Bytes) :
    Attempt f w (takePrefixed f.max ⟨w, 0⟩) := by
  have hd (w : Bytes) : f.divide w = divideCounted f.max w := by simp [divide, hk]
  have searched : f.Searched ⟨w, 0⟩ := f.searched_fresh w
  have unfinished (h : ∀ p q r s rest, w = p :: q :: r :: s :: rest →
      prefixLength p q r s ≤ f.max ∧ rest.length < prefixLength p q r s) : f.Unfinished w := by
    unfold Unfinished
    rw [hk]
    exact h
  match w with
  | p :: q :: r :: s :: rest =>
    by_cases hm : f.max < prefixLength p q r s
    · have announced (v : Bytes) : f.divide (p :: q :: r :: s :: rest ++ v) =
          ⟨[], .announced (prefixLength p q r s)⟩ := by
        rw [hd]
        exact divideCounted_announced f.max p q r s (rest ++ v) hm
      simp only [takePrefixed, gt_iff_lt, if_pos hm]
      exact .failed _ (fun v => by rw [announced]) fun v => by rw [announced]; rfl
    · have hm' : prefixLength p q r s ≤ f.max := Nat.le_of_not_lt hm
      simp only [takePrefixed, gt_iff_lt, if_neg hm, List.length_take]
      by_cases hr : rest.length < prefixLength p q r s
      · rw [if_pos (by omega)]
        refine .more _ rfl searched (unfinished fun p' q' r' s' rest' he => ?_)
        simp only [List.cons.injEq] at he
        obtain ⟨rfl, rfl, rfl, rfl, rfl⟩ := he
        exact ⟨hm', hr⟩
      · rw [if_neg (by omega)]
        have hr' : prefixLength p q r s ≤ rest.length := Nat.le_of_not_lt hr
        refine .message _ (rest.drop (prefixLength p q r s)) (by simp; omega) fun v => ?_
        rw [hd, hd]
        have h := divideCounted_message f.max p q r s (rest ++ v) hm'
          (by simp only [List.length_append]; omega)
        rwa [List.drop_append_of_le_length hr', List.take_append_of_le_length hr'] at h
  | [] | [_] | [_, _] | [_, _, _] => exact .more _ rfl searched (unfinished (by simp))

theorem decode_attempt (b : Backlog) (h : f.Searched b) : Attempt f b.bytes (f.decode b) := by
  rw [decode_resume f b h]
  cases hk : f.kind with
  | line =>
    have ha := takeUntil_attempt f lf stripCr (fun t => if t = [] then [] else [stripCr t])
      (by rw [hk]; rfl) (fun w => by simp [divide, hk]) b.bytes
    simp only [decode, hk]
    split at ha <;> simp_all
  | delimiter d =>
    have ha := takeUntil_attempt f d id (fun _ => [])
      (by rw [hk]; rfl) (fun w => by simp [divide, hk]) b.bytes
    simp only [decode, hk]
    split at ha <;> simp_all
  | lengthPrefixed =>
    simp only [decode, hk]
    exact takePrefixed_attempt f hk b.bytes

/-- What an attempt says once the stream has ended behind the bytes. -/
inductive Final (w : Bytes) : Taken × Backlog → Prop
  | message (m rest : Bytes) (shorter : rest.length < w.length)
      (first : f.divide w = (f.divide rest).after [m]) : Final w (.ok (some m), ⟨rest, 0⟩)
  | done (b : Backlog) (empty : b.bytes = []) (last : f.divide w = ⟨[], .clean⟩) : Final w (.ok none, b)
  | failed (e : FrameError) (b : Backlog) (silent : (f.divide w).messages = [])
      (shows : (f.divide w).ending.Shows f.max (some e)) : Final w (.error e, b)

theorem leftover_final (b : Backlog) (h : f.Unfinished b.bytes) : Final f b.bytes (f.leftover b) := by
  obtain ⟨w, scanned⟩ := b
  unfold Unfinished at h
  cases hk : f.kind with
  | line =>
    simp only [hk, Kind.terminator?] at h
    have last : f.divide w = ⟨if w = [] then [] else [stripCr w], .clean⟩ := by
      simp only [divide, hk]
      exact deliver_tail _ _ _ lf w h.1 h.2
    have nothing : f.divide [] = ⟨[], .clean⟩ := by simp [divide, hk, deliver]
    by_cases hw : w = []
    · subst hw
      simp only [leftover, hk]
      exact .done _ rfl nothing
    · simp only [leftover, hk, List.isEmpty_iff, if_neg hw]
      refine .message (stripCr w) [] (List.length_pos_iff.mpr hw) ?_
      rw [last, nothing, if_neg hw]
      rfl
  | delimiter d =>
    simp only [hk, Kind.terminator?] at h
    simp only [leftover, hk]
    refine .done _ rfl ?_
    simp only [divide, hk]
    exact deliver_tail _ _ _ d w h.1 h.2
  | lengthPrefixed =>
    simp only [hk, Kind.terminator?] at h
    have hd (w : Bytes) : f.divide w = divideCounted f.max w := by simp [divide, hk]
    simp only [leftover, hk]
    rcases w with _ | ⟨p, _ | ⟨q, _ | ⟨r, _ | ⟨s, rest⟩⟩⟩⟩
    · exact .done _ rfl (by simp [hd, divideCounted])
    · exact .done _ rfl (by simp [hd, divideCounted])
    · exact .done _ rfl (by simp [hd, divideCounted])
    · exact .done _ rfl (by simp [hd, divideCounted])
    · have hc := h p q r s rest rfl
      have truncated := divideCounted_truncated f.max p q r s rest hc.1 hc.2
      refine .failed _ _ ?_ ?_
      · rw [hd, truncated]
      · rw [hd, truncated]
        rfl

theorem decodeEof_final (b : Backlog) (h : f.Searched b) : Final f b.bytes (f.decodeEof b) := by
  have ha := decode_attempt f b h
  unfold decodeEof
  split
  next b' hb =>
    rw [hb] at ha
    cases ha with
    | more _ same _ unfinished =>
      rw [← same] at unfinished ⊢
      exact leftover_final f b' unfinished
  next r hb =>
    generalize f.decode b = r at ha hb
    cases ha with
    | message m rest shorter first =>
      exact .message m rest shorter (by simpa using first [])
    | more b' => exact absurd rfl (hb b')
    | failed e silent shows => exact .failed e _ (by simpa using silent []) (by simpa using shows [])

/-- Whether what was read and the buffer after it make up the division of the stream. -/
def Accounts (d : Division) (r : Reading) (rest : Division) : Prop :=
  match r.error with
  | none => d = rest.after r.messages
  | some e => d.messages = r.messages ∧ d.ending.Shows f.max (some e)

theorem accounts_after (d rest : Division) (r : Reading) (m : Bytes) (h : f.Accounts d r rest) :
    f.Accounts (d.after [m]) { r with messages := m :: r.messages } rest := by
  obtain ⟨messages, error⟩ := r
  cases error with
  | none =>
    simp only [Accounts] at h ⊢
    simp [h]
  | some e =>
    simp only [Accounts] at h ⊢
    exact ⟨by simp [h.1], h.2⟩

/-- Taking all messages of a buffer. The fuel is enough, as every message shortens the buffer. -/
theorem collect_decode (fuel : Nat) (b : Backlog) (hf : b.bytes.length < fuel) (h : f.Searched b) :
    f.Searched (collect (drainWith f.decode fuel b) b).2 ∧
    ∀ v, f.Accounts (f.divide (b.bytes ++ v)) (collect (drainWith f.decode fuel b) b).1
      (f.divide ((collect (drainWith f.decode fuel b) b).2.bytes ++ v)) := by
  induction fuel generalizing b with
  | zero => exact absurd hf (Nat.not_lt_zero _)
  | succ fuel ih =>
    have ha := decode_attempt f b h
    rw [drainWith]
    generalize f.decode b = r at ha
    cases ha with
    | message m rest shorter first =>
      obtain ⟨searched, accounts⟩ := ih ⟨rest, 0⟩ (by simp only; omega) (f.searched_fresh rest)
      refine ⟨searched, fun v => ?_⟩
      rw [first v]
      exact accounts_after f _ _ _ m (accounts v)
    | more b' same searched =>
      refine ⟨searched, fun v => ?_⟩
      simp [collect, Accounts, same]
    | failed e silent shows =>
      refine ⟨f.searched_fresh _, fun v => ?_⟩
      simp [collect, Accounts, silent v, shows v]

theorem collect_decodeEof (fuel : Nat) (b : Backlog) (hf : b.bytes.length < fuel) (h : f.Searched b) :
    f.Accounts (f.divide b.bytes) (collect (drainWith f.decodeEof fuel b) b).1 ⟨[], .clean⟩ ∧
    ((collect (drainWith f.decodeEof fuel b) b).1.error = none →
      (collect (drainWith f.decodeEof fuel b) b).2.bytes = []) := by
  induction fuel generalizing b with
  | zero => exact absurd hf (Nat.not_lt_zero _)
  | succ fuel ih =>
    have ha := decodeEof_final f b h
    rw [drainWith]
    generalize f.decodeEof b = r at ha
    cases ha with
    | message m rest shorter first =>
      obtain ⟨accounts, empty⟩ := ih ⟨rest, 0⟩ (by simp only; omega) (f.searched_fresh rest)
      refine ⟨?_, empty⟩
      rw [first]
      exact accounts_after f _ _ _ m accounts
    | done b' empty last => simp [collect, Accounts, last, empty]
    | failed e b' silent shows => simp [collect, Accounts, silent, shows]

/-- Reading on from a buffer agrees with the division of what it holds and what follows. -/
theorem readFrom_accounts (chunks : List Bytes) (b : Backlog) (h : f.Searched b) :
    f.Accounts (f.divide (b.bytes ++ chunks.flatten)) (f.readFrom b chunks .eof).1 ⟨[], .clean⟩ ∧
    ((f.readFrom b chunks .eof).1.error = none → (f.readFrom b chunks .eof).2.bytes = []) := by
  induction chunks generalizing b with
  | nil =>
    rw [List.flatten_nil, List.append_nil]
    exact collect_decodeEof f _ b (Nat.lt_succ_self _) h
  | cons chunk chunks ih =>
    have hc := collect_decode f _ (b.feed chunk) (Nat.lt_succ_self _) (f.searched_feed b chunk h)
    have hb : b.bytes ++ (chunk :: chunks).flatten = (b.feed chunk).bytes ++ chunks.flatten := by
      simp [Backlog.feed]
    obtain ⟨searched, accounts⟩ := hc
    have accounts := accounts chunks.flatten
    rw [hb, readFrom, drain]
    generalize collect (drainWith f.decode ((b.feed chunk).bytes.length + 1) (b.feed chunk)) (b.feed chunk) = c
      at searched accounts
    obtain ⟨⟨messages, error⟩, b'⟩ := c
    cases error with
    | some e => exact ⟨accounts, by simp⟩
    | none =>
      obtain ⟨further, empty⟩ := ih b' searched
      simp only [Accounts] at accounts further ⊢
      rw [accounts]
      refine ⟨?_, empty⟩
      generalize f.readFrom b' chunks .eof = r at further
      obtain ⟨⟨ms, error⟩, b''⟩ := r
      cases error with
      | none => exact (congrArg (Division.after messages) further).trans (Division.after_after _ _ _)
      | some e => simpa using further

theorem readFrom_messages (chunks : List Bytes) :
    (f.readFrom {} chunks .eof).1.messages = (f.divide chunks.flatten).messages ∧
      ((f.divide chunks.flatten).ending = .clean → (f.readFrom {} chunks .eof).1.error = none) := by
  obtain ⟨accounts, -⟩ := readFrom_accounts f chunks {} (f.searched_fresh [])
  rw [List.nil_append] at accounts
  generalize (f.readFrom {} chunks .eof).1 = r at accounts
  obtain ⟨messages, error⟩ := r
  cases error with
  | none =>
    simp only [Accounts] at accounts
    simp [accounts]
  | some e =>
    obtain ⟨same, shows⟩ := accounts
    refine ⟨same.symm, fun clean => ?_⟩
    rw [clean] at shows
    cases shows

/-- However a stream is cut into reads, reading it to its end gives the messages of the stream divided as a
whole, and ends as that does. -/
theorem readAll_eq_divide (chunks : List Bytes) :
    (f.readAll chunks .eof).messages = (f.divide chunks.flatten).messages ∧
      (f.divide chunks.flatten).ending.Shows f.max (f.readAll chunks .eof).error := by
  have h := (readFrom_accounts f chunks {} (f.searched_fresh [])).1
  rw [List.nil_append] at h
  unfold readAll
  generalize (f.readFrom {} chunks .eof).1 = r at h
  obtain ⟨messages, error⟩ := r
  cases error with
  | none =>
    simp only [Accounts] at h
    simp [h, Ending.Shows]
  | some e => exact ⟨h.1.symm, h.2⟩

end FrameServer.Framing
