import Mathlib.Data.List.Basic
import FrameServer.Proofs.Framing.Reading
import FrameServer.Proofs.Lists

namespace FrameServer.Framing

def encodeAll (f : Framing) : List Bytes → Except FrameError Bytes
  | [] => .ok []
  | m :: ms =>
    match f.encode m, f.encodeAll ms with
    | .ok w, .ok ws => .ok (w ++ ws)
    | .ok _, .error e => .error e
    | .error e, _ => .error e

/-- What the frame of a message is read back as. -/
def Kind.readBack (k : Kind) (m : Bytes) : List Bytes :=
  match k with
  | .line => (m.splitOn lf).map stripCr
  | .delimiter d => m.splitOn d
  | .lengthPrefixed => [m]

/-- Whether messages hold nothing that the framing takes for an end of theirs. -/
def Kind.Preserves (k : Kind) (ms : List Bytes) : Prop :=
  match k with
  | .line => ∀ m ∈ ms, lf ∉ m ∧ m.getLast? ≠ some cr
  | .delimiter d => ∀ m ∈ ms, d ∉ m
  | .lengthPrefixed => True

theorem encode_eq_ok_iff (f : Framing) (m : Bytes) :
    (∃ w, f.encode m = .ok w) ↔ m.length ≤ f.max ∧ (f.kind = .lengthPrefixed → m.length ≤ prefixMax) := by
  unfold encode
  by_cases hm : m.length > f.max
  · simp [hm, Nat.not_le_of_lt hm]
  · cases hk : f.kind with
    | line => simp [hm, Nat.le_of_not_lt hm]
    | delimiter d => simp [hm, Nat.le_of_not_lt hm]
    | lengthPrefixed =>
      by_cases hp : m.length > prefixMax
      · simp [hm, hp]
      · simp [hm, hp, Nat.le_of_not_lt hm, Nat.le_of_not_lt hp]

theorem encode_fault {f : Framing} {m : Bytes} {fault : FrameError} (h : f.encode m = .error fault) :
    ∃ size max, fault = .tooLarge size max := by
  unfold encode at h
  split at h
  · exact ⟨_, _, (Except.error.inj h).symm⟩
  · split at h
    · cases h
    · cases h
    · split at h
      · exact ⟨_, _, (Except.error.inj h).symm⟩
      · cases h

theorem encode_length_pos {f : Framing} {m w : Bytes} (h : f.encode m = .ok w) : 0 < w.length := by
  unfold encode at h
  split at h
  · cases h
  · split at h
    · obtain rfl := Except.ok.inj h
      simp
    · obtain rfl := Except.ok.inj h
      simp
    · split at h
      · cases h
      · obtain rfl := Except.ok.inj h
        simp [lengthPrefix]

theorem prefixLength_lengthPrefix (n : Nat) (h : n ≤ prefixMax) :
    ∃ p q r s, lengthPrefix n = [p, q, r, s] ∧ prefixLength p q r s = n := by
  refine ⟨_, _, _, _, rfl, ?_⟩
  simp only [prefixLength, Nat.toUInt8, UInt8.toNat_ofNat', prefixMax] at h ⊢
  omega

theorem length_le_of_mem_splitOn (stop : UInt8) (m p : Bytes) (h : p ∈ m.splitOn stop) :
    p.length ≤ m.length := by
  induction m generalizing p with
  | nil =>
    simp only [List.splitOn_nil, List.mem_singleton] at h
    simp [h]
  | cons b m ih =>
    rw [List.splitOn_cons_eq_if_modifyHead] at h
    obtain ⟨q, qs, hq⟩ := List.exists_cons_of_ne_nil (List.splitOn_ne_nil stop m)
    rw [hq] at h ih
    simp only [List.length_cons]
    split at h
    · rcases List.mem_cons.mp h with rfl | h
      · simp
      · exact Nat.le_succ_of_le (ih p h)
    · rw [List.modifyHead_cons] at h
      rcases List.mem_cons.mp h with rfl | h
      · have := ih q List.mem_cons_self
        simp only [List.length_cons]
        omega
      · exact Nat.le_succ_of_le (ih p (List.mem_cons_of_mem _ h))

theorem deliver_append (max : Nat) (piece : Bytes → Bytes) (tail : Bytes → List Bytes)
    (ps qs : List Bytes) (hq : qs ≠ []) (hp : ∀ p ∈ ps, p.length ≤ max) :
    deliver max piece tail (ps ++ qs) = (deliver max piece tail qs).after (ps.map piece) := by
  induction ps with
  | nil => rfl
  | cons p ps ih =>
    have hps := ih fun x hx => hp x (List.mem_cons_of_mem _ hx)
    rw [List.cons_append, deliver_cons max piece tail p (ps ++ qs) (by simp [hq]) (hp p List.mem_cons_self), hps]
    simp

/-- A frame that ends with a terminator is divided at every terminator in its message. -/
theorem deliver_frame (max : Nat) (piece : Bytes → Bytes) (tail : Bytes → List Bytes) (stop : UInt8)
    (m v : Bytes) (hm : m.length ≤ max) :
    deliver max piece tail ((m ++ [stop] ++ v).splitOn stop) =
      (deliver max piece tail (v.splitOn stop)).after ((m.splitOn stop).map piece) := by
  rw [List.append_assoc, List.singleton_append, List.splitOn_append_cons_self]
  apply deliver_append
  · exact List.splitOn_ne_nil _ _
  · intro p hp
    exact Nat.le_trans (length_le_of_mem_splitOn stop m p hp) hm

theorem divide_frame (f : Framing) (m w v : Bytes) (h : f.encode m = .ok w) :
    f.divide (w ++ v) = (f.divide v).after (f.kind.readBack m) := by
  have hl := (encode_eq_ok_iff f m).mp ⟨w, h⟩
  have hn : ¬ m.length > f.max := Nat.not_lt.mpr hl.1
  unfold encode at h
  rw [if_neg hn] at h
  cases hk : f.kind with
  | line =>
    simp only [hk, Except.ok.injEq] at h
    subst h
    simp only [divide, hk]
    exact deliver_frame _ _ _ lf m v hl.1
  | delimiter d =>
    simp only [hk, Except.ok.injEq] at h
    subst h
    simp only [divide, hk]
    simpa [Kind.readBack] using deliver_frame f.max id (fun _ => []) d m v hl.1
  | lengthPrefixed =>
    simp only [hk] at h
    rw [if_neg (Nat.not_lt.mpr (hl.2 hk)), Except.ok.injEq] at h
    subst h
    obtain ⟨p, q, r, s, hp, hv⟩ := prefixLength_lengthPrefix m.length (hl.2 hk)
    simp only [divide, hk, hp, List.cons_append, List.nil_append]
    have := divideCounted_message f.max p q r s (m ++ v) (by omega) (by simp [hv])
    simpa [hv, Kind.readBack] using this

theorem divide_nil (f : Framing) : f.divide [] = ⟨[], .clean⟩ := by
  cases hk : f.kind <;> simp [divide, hk, deliver, divideCounted]

theorem encodeAll_cons {f : Framing} {m : Bytes} {ms : List Bytes} {w : Bytes} (h : f.encodeAll (m :: ms) = .ok w) :
    ∃ v vs, f.encode m = .ok v ∧ f.encodeAll ms = .ok vs ∧ w = v ++ vs := by
  rw [encodeAll] at h
  split at h
  next v vs hv hvs =>
    simp only [Except.ok.injEq] at h
    exact ⟨v, vs, hv, hvs, h.symm⟩
  all_goals simp at h

/-- Frames one after the other are read back one after the other, and then what follows them. -/
theorem divide_encodeAll_append (f : Framing) (ms : List Bytes) (w v : Bytes) (h : f.encodeAll ms = .ok w) :
    f.divide (w ++ v) = (f.divide v).after (ms.flatMap f.kind.readBack) := by
  induction ms generalizing w with
  | nil =>
    simp only [encodeAll, Except.ok.injEq] at h
    subst h
    rfl
  | cons m ms ih =>
    obtain ⟨u, us, hu, hus, rfl⟩ := encodeAll_cons h
    rw [List.append_assoc, divide_frame f m u (us ++ v) hu, ih us hus, Division.after_after, List.flatMap_cons]

theorem divide_encodeAll (f : Framing) (ms : List Bytes) (w : Bytes) (h : f.encodeAll ms = .ok w) :
    f.divide w = ⟨ms.flatMap f.kind.readBack, .clean⟩ := by
  have whole := divide_encodeAll_append f ms w [] h
  rw [List.append_nil, divide_nil] at whole
  rw [whole]
  simp [Division.after]

theorem Kind.readBack_ne_nil (k : Kind) (m : Bytes) : k.readBack m ≠ [] := by
  cases k <;> simp [readBack]

theorem splitOn_ne_singleton (stop : UInt8) (m : Bytes) (h : stop ∈ m) (g : Bytes → Bytes) (x : Bytes) :
    (m.splitOn stop).map g ≠ [x] := by
  obtain ⟨p, rest, rfl, hp⟩ := List.eq_append_cons_of_mem h
  rw [List.splitOn_append_cons_self_of_not_mem hp]
  simp

theorem stripCr_eq_self_iff (m : Bytes) : stripCr m = m ↔ m.getLast? ≠ some cr := by
  unfold stripCr
  by_cases h : m.getLast? = some cr
  · have hne : m ≠ [] := by
      rintro rfl
      simp at h
    have hpos : 0 < m.length := List.length_pos_iff.mpr hne
    have : m.dropLast ≠ m := by
      intro he
      have := congrArg List.length he
      simp only [List.length_dropLast] at this
      omega
    simp [h, this]
  · simp [h]

theorem Kind.readBack_line (m : Bytes) (h : lf ∉ m) : Kind.line.readBack m = [stripCr m] := by
  simp [readBack, List.splitOn_eq_singleton h]

theorem Kind.readBack_eq_self_iff (k : Kind) (m : Bytes) : k.readBack m = [m] ↔ k.Preserves [m] := by
  cases k with
  | line =>
    by_cases h : lf ∈ m
    · simp [Preserves, h, readBack, splitOn_ne_singleton lf m h stripCr m]
    · simp [Preserves, h, readBack_line m h, stripCr_eq_self_iff]
  | delimiter d =>
    by_cases h : d ∈ m
    · have := splitOn_ne_singleton d m h id m
      simp only [List.map_id] at this
      simp [Preserves, h, readBack, this]
    · simp [Preserves, h, readBack, List.splitOn_eq_singleton h]
  | lengthPrefixed => simp [Preserves, readBack]

theorem Kind.preserves_cons (k : Kind) (m : Bytes) (ms : List Bytes) :
    k.Preserves (m :: ms) ↔ k.Preserves [m] ∧ k.Preserves ms := by
  cases k <;> simp [Preserves]

/-- As every message becomes at least one, a list comes back only if each of its messages does. -/
theorem Kind.flatMap_readBack_eq_iff (k : Kind) (ms : List Bytes) :
    ms.flatMap k.readBack = ms ↔ k.Preserves ms := by
  induction ms with
  | nil => cases k <;> simp [Preserves]
  | cons m ms ih =>
    rw [preserves_cons, ← ih, ← readBack_eq_self_iff, List.flatMap_cons]
    constructor
    · intro h
      have hlen := congrArg List.length h
      have hle := length_le_flatMap k.readBack_ne_nil ms
      have hpos := List.length_pos_iff.mpr (k.readBack_ne_nil m)
      simp only [List.length_append, List.length_cons] at hlen
      obtain ⟨x, hx⟩ := List.length_eq_one_iff.mp (show (k.readBack m).length = 1 by omega)
      rw [hx, List.singleton_append, List.cons.injEq] at h
      exact ⟨by rw [hx, h.1], h.2⟩
    · rintro ⟨hm, hms⟩
      rw [hm, hms, List.singleton_append]

theorem encodeAll_eq_ok_iff (f : Framing) (ms : List Bytes) :
    (∃ w, f.encodeAll ms = .ok w) ↔
      ∀ m ∈ ms, m.length ≤ f.max ∧ (f.kind = .lengthPrefixed → m.length ≤ prefixMax) := by
  induction ms with
  | nil => simp [encodeAll]
  | cons m ms ih =>
    rw [List.forall_mem_cons, ← ih, ← encode_eq_ok_iff, encodeAll]
    cases f.encode m with
    | error e => simp
    | ok v => cases f.encodeAll ms <;> simp

/-- Messages within the limit are encoded, and read without an error and with nothing left behind, however
their wire is cut into reads. They come back as they were just if the framing preserves them; lines without
a line feed come back without the carriage return at their end. -/
theorem readFrom_encodeAll (f : Framing) (ms : List Bytes) :
    ((∃ w, f.encodeAll ms = .ok w) ↔
      ∀ m ∈ ms, m.length ≤ f.max ∧ (f.kind = .lengthPrefixed → m.length ≤ prefixMax)) ∧
    ∀ (w : Bytes) (chunks : List Bytes), f.encodeAll ms = .ok w → chunks.flatten = w →
      (f.readFrom {} chunks .eof).1.error = none ∧
      (f.readFrom {} chunks .eof).2.bytes = [] ∧
      ((f.readFrom {} chunks .eof).1.messages = ms ↔ f.kind.Preserves ms) ∧
      (f.kind = .line → (∀ m ∈ ms, lf ∉ m) →
        (f.readFrom {} chunks .eof).1.messages = ms.map stripCr) := by
  refine ⟨encodeAll_eq_ok_iff f ms, fun w chunks he hc => ?_⟩
  have hd := divide_encodeAll f ms w he
  obtain ⟨accounts, empty⟩ := readFrom_accounts f chunks {} (f.searched_fresh [])
  rw [List.nil_append, hc, hd] at accounts
  generalize f.readFrom {} chunks .eof = r at accounts empty
  obtain ⟨⟨messages, error⟩, b⟩ := r
  cases error with
  | some e => simp [Accounts, Ending.Shows] at accounts
  | none =>
    have hm : messages = ms.flatMap f.kind.readBack := by
      simpa [Accounts, Division.after] using accounts.symm
    subst hm
    refine ⟨rfl, empty rfl, f.kind.flatMap_readBack_eq_iff ms, fun hk hlf => ?_⟩
    rw [hk, List.map_eq_flatMap]
    exact List.flatMap_congr fun m hm => Kind.readBack_line m (hlf m hm)

/-- Two lines of at most two bytes, cut inside the end of the first: one is at the limit and ends with a
carriage return, the other is empty. -/
theorem readFrom_two_lines :
    Framing.encodeAll ⟨.line, 2⟩ [[97, cr], []] = .ok [97, cr, lf, lf] ∧
    (Framing.readFrom ⟨.line, 2⟩ {} [[97, cr], [], [lf, lf]] .eof).1.error = none ∧
    (Framing.readFrom ⟨.line, 2⟩ {} [[97, cr], [], [lf, lf]] .eof).1.messages = [[97], []] ∧
    ¬ Kind.Preserves .line [[97, cr], []] := by
  have he : Framing.encodeAll ⟨.line, 2⟩ [[97, cr], []] = .ok [97, cr, lf, lf] := by decide
  obtain ⟨error, _, _, lines⟩ :=
    (readFrom_encodeAll ⟨.line, 2⟩ [[97, cr], []]).2 _ [[97, cr], [], [lf, lf]] he rfl
  refine ⟨he, error, ?_, by simp [Kind.Preserves]⟩
  rw [lines rfl (by decide)]
  decide

end FrameServer.Framing
