import FrameServer.Proofs.Lists
import FrameServer.Text.Utf8

namespace FrameServer.Utf8

theorem follow_cons (bits count n : Nat) (low high : UInt8) (bs : Bytes) (hn : n < 64) (lo : low.toNat ≤ n + 128)
    (hi : n + 128 ≤ high.toNat) :
    follow bits (count + 1) low high (UInt8.ofNat (n + 128) :: bs) = follow (bits * 64 + n) count 0x80 0xBF bs := by
  have value : (UInt8.ofNat (n + 128)).toNat = n + 128 := UInt8.toNat_ofNat_of_lt' (show n + 128 < 256 by omega)
  have fits : low ≤ UInt8.ofNat (n + 128) ∧ UInt8.ofNat (n + 128) ≤ high := by
    rw [UInt8.le_iff_toNat_le, UInt8.le_iff_toNat_le, value]
    exact ⟨lo, hi⟩
  have own : (n + 128) % 64 = n := by omega
  rw [follow, if_pos fits, value, own]

/-- A byte after the second one may be any that goes on with a character. -/
theorem follow_rest (bits count n : Nat) (bs : Bytes) (hn : n < 64) :
    follow bits (count + 1) 0x80 0xBF (UInt8.ofNat (n + 128) :: bs) = follow (bits * 64 + n) count 0x80 0xBF bs := by
  apply follow_cons
  · exact hn
  · exact Nat.le_add_left 128 n
  · exact Nat.le_of_lt_succ (show n + 128 < 192 by omega)

/-- What the first byte of a character says of the bytes behind it. -/
theorem lead_two (n : Nat) (lo : 2 ≤ n) (hi : n < 32) : lead (UInt8.ofNat (n + 192)) = some (n, 1, 0x80, 0xBF) := by
  have value : (UInt8.ofNat (n + 192)).toNat = n + 192 := UInt8.toNat_ofNat_of_lt' (show n + 192 < 256 by omega)
  simp only [lead, value]
  rw [if_neg (by omega), if_neg (by omega), if_pos (by omega), Nat.add_sub_cancel]

theorem lead_three (n m : Nat) (hn : n < 16) (hm : m < 64) (first : n = 0 → 32 ≤ m) (surrogate : n = 13 → m < 32) :
    ∃ low high, lead (UInt8.ofNat (n + 224)) = some (n, 2, low, high) ∧ low.toNat ≤ m + 128 ∧ m + 128 ≤ high.toNat := by
  have value : (UInt8.ofNat (n + 224)).toNat = n + 224 := UInt8.toNat_ofNat_of_lt' (show n + 224 < 256 by omega)
  have bounds : (0x80 : UInt8).toNat = 128 ∧ (0xA0 : UInt8).toNat = 160 ∧ (0x9F : UInt8).toNat = 159 ∧
      (0xBF : UInt8).toNat = 191 := by decide
  simp only [lead, value]
  rw [if_neg (by omega), if_neg (by omega), if_neg (by omega)]
  by_cases zero : n = 0
  · refine ⟨0xA0, 0xBF, ?_, ?_⟩
    · rw [if_pos (by omega), zero]
    · have := first zero
      omega
  by_cases thirteen : n = 13
  · refine ⟨0x80, 0x9F, ?_, ?_⟩
    · rw [if_neg (by omega), if_pos (by omega), thirteen]
    · have := surrogate thirteen
      omega
  · refine ⟨0x80, 0xBF, ?_, by omega⟩
    rw [if_neg (by omega), if_neg (by omega), if_pos (by omega), Nat.add_sub_cancel]

theorem lead_four (n m : Nat) (hn : n < 5) (hm : m < 64) (first : n = 0 → 16 ≤ m) (last : n = 4 → m < 16) :
    ∃ low high, lead (UInt8.ofNat (n + 240)) = some (n, 3, low, high) ∧ low.toNat ≤ m + 128 ∧ m + 128 ≤ high.toNat := by
  have value : (UInt8.ofNat (n + 240)).toNat = n + 240 := UInt8.toNat_ofNat_of_lt' (show n + 240 < 256 by omega)
  have bounds : (0x80 : UInt8).toNat = 128 ∧ (0x90 : UInt8).toNat = 144 ∧ (0x8F : UInt8).toNat = 143 ∧
      (0xBF : UInt8).toNat = 191 := by decide
  simp only [lead, value]
  rw [if_neg (by omega), if_neg (by omega), if_neg (by omega), if_neg (by omega), if_neg (by omega), if_neg (by omega)]
  by_cases zero : n = 0
  · refine ⟨0x90, 0xBF, ?_, ?_⟩
    · rw [if_pos (by omega), zero]
    · have := first zero
      omega
  by_cases four : n = 4
  · refine ⟨0x80, 0x8F, ?_, ?_⟩
    · rw [if_neg (by omega), if_neg (by omega), if_pos (by omega), four]
    · have := last four
      omega
  · refine ⟨0x80, 0xBF, ?_, by omega⟩
    rw [if_neg (by omega), if_pos (by omega), Nat.add_sub_cancel]

theorem toNat_bounds (c : Char) : c.toNat < 0xD800 ∨ 0xDFFF < c.toNat ∧ c.toNat < 0x110000 := c.valid

/-- The bytes of a character are read as that character, and nothing is taken of what follows. -/
theorem next_char (c : Char) (rest : Bytes) :
    ∃ a bs, String.utf8EncodeChar c = a :: bs ∧ next a (bs ++ rest) = (some c, rest) := by
  have valid := toNat_bounds c
  have back : Char.ofNat c.toNat = c := Char.ofNat_toNat c
  have code : c.val.toNat = c.toNat := rfl
  unfold String.utf8EncodeChar
  rw [code]
  generalize c.toNat = v at valid back
  dsimp only
  split
  next one =>
    have value : (UInt8.ofNat v).toNat = v := UInt8.toNat_ofNat_of_lt' (show v < 256 by omega)
    refine ⟨_, _, rfl, ?_⟩
    simp only [next, lead, value]
    rw [if_pos (by omega)]
    simp [follow, back]
  split
  next _ two =>
    have sum : v / 64 % 32 * 64 + v % 64 = v := by omega
    refine ⟨_, _, rfl, ?_⟩
    simp only [next, lead_two (v / 64 % 32) (by omega) (by omega), List.cons_append, List.nil_append]
    rw [follow_rest _ _ _ _ (by omega), sum]
    simp [follow, back]
  split
  next _ _ three =>
    have sum : (v / 4096 % 16 * 64 + v / 64 % 64) * 64 + v % 64 = v := by omega
    obtain ⟨low, high, leads, lo, hi⟩ :=
      lead_three (v / 4096 % 16) (v / 64 % 64) (by omega) (by omega) (by omega) (by omega)
    refine ⟨_, _, rfl, ?_⟩
    simp only [next, leads, List.cons_append, List.nil_append]
    rw [follow_cons _ _ _ _ _ _ (by omega) lo hi, follow_rest _ _ _ _ (by omega), sum]
    simp [follow, back]
  next _ _ four =>
    have sum : ((v / 262144 % 8 * 64 + v / 4096 % 64) * 64 + v / 64 % 64) * 64 + v % 64 = v := by omega
    obtain ⟨low, high, leads, lo, hi⟩ :=
      lead_four (v / 262144 % 8) (v / 4096 % 64) (by omega) (by omega) (by omega) (by omega)
    refine ⟨_, _, rfl, ?_⟩
    simp only [next, leads, List.cons_append, List.nil_append]
    rw [follow_cons _ _ _ _ _ _ (by omega) lo hi, follow_rest _ _ _ _ (by omega), follow_rest _ _ _ _ (by omega), sum]
    simp [follow, back]

@[simp] theorem encode_nil : encode [] = [] := rfl

theorem encode_cons (c : Char) (cs : List Char) : encode (c :: cs) = String.utf8EncodeChar c ++ encode cs :=
  List.flatMap_cons

theorem encode_append (cs ds : List Char) : encode (cs ++ ds) = encode cs ++ encode ds := List.flatMap_append

theorem length_le_encode (cs : List Char) : cs.length ≤ (encode cs).length := by
  refine length_le_flatMap (fun c => ?_) cs
  obtain ⟨a, bs, bytes, -⟩ := next_char c []
  rw [bytes]
  exact List.cons_ne_nil a bs

/-- Every byte below `0x80` is a character of its own. -/
theorem toNat_of_mem_char {b : UInt8} {c : Char} (low : b.toNat < 128) (h : b ∈ String.utf8EncodeChar c) :
    c.toNat = b.toNat := by
  have code : c.val.toNat = c.toNat := rfl
  have apart : ∀ n, 128 ≤ n → n < 256 → b ≠ UInt8.ofNat n := by
    rintro n lo hi rfl
    rw [UInt8.toNat_ofNat_of_lt' hi] at low
    omega
  unfold String.utf8EncodeChar at h
  rw [code] at h
  generalize c.toNat = v at h
  dsimp only at h
  split at h
  next one =>
    rw [List.mem_singleton.mp h]
    exact (UInt8.toNat_ofNat_of_lt' (show v < 256 by omega)).symm
  split at h
  · simp only [List.mem_cons, List.not_mem_nil, or_false] at h
    rcases h with h | h
    all_goals exact absurd h (apart _ (by omega) (by omega))
  split at h
  · simp only [List.mem_cons, List.not_mem_nil, or_false] at h
    rcases h with h | h | h
    all_goals exact absurd h (apart _ (by omega) (by omega))
  · simp only [List.mem_cons, List.not_mem_nil, or_false] at h
    rcases h with h | h | h | h
    all_goals exact absurd h (apart _ (by omega) (by omega))

theorem mem_of_mem_encode {b : UInt8} {cs : List Char} (low : b.toNat < 128) (h : b ∈ encode cs) :
    Char.ofNat b.toNat ∈ cs := by
  obtain ⟨c, hc, hb⟩ := List.mem_flatMap.mp h
  rw [← toNat_of_mem_char low hb, Char.ofNat_toNat]
  exact hc

/-- Text is read back character by character. -/
theorem chars_encode (cs : List Char) (rest : Bytes) : chars (encode cs ++ rest) = cs.map some ++ chars rest := by
  induction cs with
  | nil => rfl
  | cons c cs ih =>
    obtain ⟨a, bs, bytes, read⟩ := next_char c (encode cs ++ rest)
    rw [encode_cons, List.append_assoc, bytes, List.cons_append, chars, read, ih, List.map_cons, List.cons_append]

theorem decodeLossy_encode (cs : List Char) : decodeLossy (encode cs) = cs := by
  have read := chars_encode cs []
  rw [List.append_nil] at read
  rw [decodeLossy, read, chars, List.append_nil, List.map_map]
  exact List.map_id cs

theorem decode?_encode (cs : List Char) : decode? (encode cs) = some cs := by
  have read := chars_encode cs []
  rw [List.append_nil] at read
  rw [decode?, read, chars, List.append_nil, List.mapM_map]
  exact (List.mapM_pure (m := Option) (f := id)).trans (congrArg some (List.map_id cs))

end FrameServer.Utf8

namespace FrameServer

theorem lossyText_textBytes (s : String) : lossyText (textBytes s) = s := by
  rw [lossyText, textBytes, Utf8.decodeLossy_encode, String.ofList_toList]

theorem text?_textBytes (s : String) : text? (textBytes s) = some s := by
  rw [text?, textBytes, Utf8.decode?_encode, Option.map_some, String.ofList_toList]

end FrameServer
