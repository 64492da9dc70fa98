import FrameServer.Proofs.Lists
import FrameServer.Text.Case

namespace FrameServer

namespace Text

namespace CaseRun

def moved (r : CaseRun) (n : Nat) : Nat := ((n : Int) + r.shift).toNat

/-- Whether the characters of the run are all even or all odd. -/
def alternates (r : CaseRun) : Bool := r.step == 2 || r.first == r.last

/-- A sufficient check that what the characters of `r` become is not covered by `q`: it lies before or behind `q`, or
is odd where `q` is even. -/
def avoids (r q : CaseRun) : Bool :=
  Nat.blt (r.moved r.last) q.first || Nat.blt q.last (r.moved r.first) ||
    r.alternates && q.alternates && r.moved r.first % 2 != q.first % 2

variable {r q : CaseRun} {n : Nat}

theorem covers_iff : r.covers n = true ↔ r.first ≤ n ∧ n ≤ r.last ∧ (n - r.first) % r.step = 0 := by
  simp [covers, and_assoc]

theorem even_of_alternates (h : r.alternates = true) (hn : r.covers n = true) : (n - r.first) % 2 = 0 := by
  obtain ⟨low, high, step⟩ := covers_iff.mp hn
  simp only [alternates, Bool.or_eq_true, beq_iff_eq] at h
  rcases h with two | single
  · rwa [two] at step
  · omega

theorem not_covers_moved (start : 0 ≤ (r.first : Int) + r.shift) (h : r.avoids q = true) (hn : r.covers n = true) :
    q.covers (r.moved n) = false := by
  rw [Bool.eq_false_iff]
  intro hm
  obtain ⟨low, high, -⟩ := covers_iff.mp hn
  obtain ⟨low', high', -⟩ := covers_iff.mp hm
  simp only [avoids, Bool.or_eq_true, Bool.and_eq_true, Nat.blt_eq, bne_iff_ne] at h
  rcases h with (before | behind) | ⟨⟨steps, steps'⟩, parity⟩
  · simp only [moved] at before low'
    omega
  · simp only [moved] at behind high'
    omega
  · have even := even_of_alternates steps hn
    have even' := even_of_alternates steps' hm
    simp only [moved] at parity low' even'
    omega

end CaseRun

/-- A code point of the first plane that the tables leave as it is. -/
def settled (runs : List CaseRun) (expansions : List (Nat × List Nat)) (n : Nat) : Bool :=
  Nat.blt n 0xD800 && (runs.all fun r => !r.covers n) && (expansions.lookup n).isNone

/-- What the tables make of a character is a character again, which they leave as it is. -/
structure Stable (runs : List CaseRun) (expansions : List (Nat × List Nat)) : Prop where
  apart : (runs.all fun r => runs.all r.avoids) = true
  unexpanded : (runs.all fun r => expansions.all fun e =>
    Nat.blt (r.moved r.last) e.1 || Nat.blt e.1 (r.moved r.first)) = true
  expanded : (expansions.all fun e => e.2.all (settled runs expansions)) = true
  valid : ∀ r ∈ runs, 0 ≤ (r.first : Int) + r.shift ∧
    (r.moved r.last < 0xD800 ∨ 0xDFFF < r.moved r.first ∧ r.moved r.last < 0x110000)

theorem upper_stable : Stable upperRuns upperExpansions where
  apart := by decide +kernel
  unexpanded := by decide +kernel
  expanded := by decide +kernel
  valid := by decide +kernel

section Stable

variable {runs : List CaseRun} {expansions : List (Nat × List Nat)} {n m : Nat}

theorem mapCase_eq_self (uncovered : ∀ r ∈ runs, r.covers n = false) (unlisted : expansions.lookup n = none) :
    mapCase runs expansions n = [n] := by
  have none : runs.find? (·.covers n) = none := List.find?_eq_none.mpr fun r hr => by simp [uncovered r hr]
  simp only [mapCase, none, unlisted]

theorem mapCase_settled (h : settled runs expansions n = true) :
    n.isValidChar ∧ mapCase runs expansions n = [n] := by
  simp only [settled, Bool.and_eq_true, Nat.blt_eq, List.all_eq_true, Bool.not_eq_eq_eq_not, Bool.not_true,
    Option.isNone_iff_eq_none] at h
  obtain ⟨⟨low, uncovered⟩, unlisted⟩ := h
  exact ⟨.inl low, mapCase_eq_self uncovered unlisted⟩

theorem lookup_eq_none_of_ne {key : Nat} (h : ∀ e ∈ expansions, e.1 ≠ key) : expansions.lookup key = none := by
  rw [List.lookup_eq_none_iff]
  intro e he
  simpa using (h e he).symm

/-- The code points that a valid one becomes are valid, and become nothing else. -/
theorem Stable.mapCase (h : Stable runs expansions) (hn : n.isValidChar) (hm : m ∈ mapCase runs expansions n) :
    m.isValidChar ∧ Text.mapCase runs expansions m = [m] := by
  unfold Text.mapCase at hm
  split at hm
  next r found =>
    have hr := List.mem_of_find?_eq_some found
    have covered : r.covers n = true := by simpa using List.find?_some found
    obtain ⟨start, valid⟩ := h.valid r hr
    obtain ⟨low, high, -⟩ := CaseRun.covers_iff.mp covered
    obtain rfl : m = r.moved n := List.mem_singleton.mp hm
    have above : r.moved r.first ≤ r.moved n := by
      simp only [CaseRun.moved]
      omega
    have below : r.moved n ≤ r.moved r.last := by
      simp only [CaseRun.moved]
      omega
    have apart := List.all_eq_true.mp h.apart r hr
    have unexpanded := List.all_eq_true.mp h.unexpanded r hr
    refine ⟨?_, mapCase_eq_self ?_ (lookup_eq_none_of_ne ?_)⟩
    · rcases valid with low | ⟨low, high⟩
      · exact .inl (Nat.lt_of_le_of_lt below low)
      · exact .inr ⟨Nat.lt_of_lt_of_le low above, Nat.lt_of_le_of_lt below high⟩
    · exact fun q hq => CaseRun.not_covers_moved start (List.all_eq_true.mp apart q hq) covered
    · intro e he
      have outside := List.all_eq_true.mp unexpanded e he
      simp only [Bool.or_eq_true, Nat.blt_eq] at outside
      omega
  next uncovered =>
    split at hm
    next ms listed =>
      have all := List.all_eq_true.mp h.expanded (n, ms) (mem_of_lookup listed)
      exact mapCase_settled (List.all_eq_true.mp all m hm)
    next unlisted =>
      obtain rfl := List.mem_singleton.mp hm
      refine ⟨hn, mapCase_eq_self (fun r hr => ?_) unlisted⟩
      simpa using List.find?_eq_none.mp uncovered r hr

end Stable

theorem toNat_ofNat_of_valid {n : Nat} (h : n.isValidChar) : (Char.ofNat n).toNat = n := by
  rw [Char.ofNat, dif_pos h]
  rfl

theorem upperChar_of_mem {c d : Char} (h : d ∈ upperChar c) : upperChar d = [d] := by
  obtain ⟨m, hm, rfl⟩ := List.mem_map.mp h
  obtain ⟨valid, kept⟩ := upper_stable.mapCase c.valid hm
  rw [upperChar, toNat_ofNat_of_valid valid, kept]
  rfl

/-- A text in upper case is upper case already. -/
theorem upper_upper (cs : List Char) : upper (upper cs) = upper cs := by
  have settled (c : Char) : (upperChar c).flatMap upperChar = upperChar c := by
    rw [List.flatMap_congr (g := fun d => [d]) fun d hd => upperChar_of_mem hd]
    exact List.flatMap_singleton' _
  rw [upper, upper, List.flatMap_assoc]
  exact List.flatMap_congr fun c _ => settled c

section Recased

/-- What is the same for the large and the small form of each ASCII letter is the same for all characters, as the
others are left as they are. -/
theorem toLower_congr {β : Type} {f : Char → β}
    (letters : ∀ i < 26, f (Char.ofNat (65 + i)).toLower = f (Char.ofNat (65 + i))) (c : Char) : f c.toLower = f c := by
  by_cases large : c.val ≥ 'A'.val ∧ c.val ≤ 'Z'.val
  · obtain ⟨low, high⟩ := large
    have low' : 65 ≤ c.toNat := low
    have high' : c.toNat ≤ 90 := high
    have same : Char.ofNat (65 + (c.toNat - 65)) = c := by
      rw [Nat.add_sub_cancel' low', Char.ofNat_toNat]
    have there := letters (c.toNat - 65) (by omega)
    rwa [same] at there
  · have same : c.toLower = c := dif_neg large
    rw [same]

theorem upperChar_toLower (c : Char) : upperChar c.toLower = upperChar c := toLower_congr (by decide +kernel) c

theorem lowerChar_toLower (c : Char) : lowerChar c.toLower = lowerChar c := toLower_congr (by decide +kernel) c

theorem isCased_toLower (c : Char) : isCased c.toLower = isCased c := toLower_congr (by decide +kernel) c

theorem isCaseIgnorable_toLower (c : Char) : isCaseIgnorable c.toLower = isCaseIgnorable c :=
  toLower_congr (by decide +kernel) c

theorem toLower_eq_sigma (c : Char) : c.toLower = 'Σ' ↔ c = 'Σ' := by
  have same := toLower_congr (f := fun c => decide (c = 'Σ')) (by decide +kernel) c
  simpa using same

theorem upper_toLower (cs : List Char) : upper (cs.map Char.toLower) = upper cs := by
  rw [upper, upper, List.flatMap_map]
  exact List.flatMap_congr fun c _ => upperChar_toLower c

theorem meetsCased_toLower (cs : List Char) : meetsCased (cs.map Char.toLower) = meetsCased cs := by
  have passed : isCaseIgnorable ∘ Char.toLower = isCaseIgnorable := funext isCaseIgnorable_toLower
  rw [meetsCased, meetsCased, List.dropWhile_map, passed]
  cases cs.dropWhile isCaseIgnorable with
  | nil => rfl
  | cons c _ => exact isCased_toLower c

/-- A capital sigma looks at the letters around it, but not at their case. -/
theorem lowerAfter_toLower (before cs : List Char) :
    lowerAfter (before.map Char.toLower) (cs.map Char.toLower) = lowerAfter before cs := by
  induction cs generalizing before with
  | nil => rfl
  | cons c cs ih =>
    have rest := ih (c :: before)
    rw [List.map_cons] at rest
    rw [List.map_cons, lowerAfter, lowerAfter, rest, meetsCased_toLower, meetsCased_toLower, lowerChar_toLower]
    simp only [toLower_eq_sigma]

theorem lower_toLower (cs : List Char) : lower (cs.map Char.toLower) = lower cs := lowerAfter_toLower [] cs

end Recased

end Text

theorem upperText_upperText (s : String) : upperText (upperText s) = upperText s := by
  rw [upperText, upperText, String.toList_ofList, Text.upper_upper]

/-- Two texts that differ at most in the case of ASCII letters. -/
def Recased (s t : String) : Prop := s.toList.map Char.toLower = t.toList.map Char.toLower

theorem Recased.upperText {s t : String} (h : Recased s t) : upperText s = upperText t := by
  unfold FrameServer.upperText
  rw [← Text.upper_toLower, h, Text.upper_toLower]

theorem Recased.lowerText {s t : String} (h : Recased s t) : lowerText s = lowerText t := by
  unfold FrameServer.lowerText
  rw [← Text.lower_toLower, h, Text.lower_toLower]

end FrameServer
