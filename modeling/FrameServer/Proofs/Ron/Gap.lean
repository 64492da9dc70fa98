import FrameServer.Ron.Basic

namespace FrameServer.Ron

/-- A character at which a gap ends. -/
def isSolid (c : Char) : Bool := !isSpace c && c ≠ '/'

/-- The rest of a comment in brackets up to its end, with whole comments in it. -/
inductive Enclosed : List Char → Prop
  | close : Enclosed ['*', '/']
  | nest {inner further : List Char} (nested : Enclosed inner) (enclosed : Enclosed further) :
      Enclosed ('/' :: '*' :: (inner ++ further))
  | other {c : Char} {further : List Char} (enclosed : Enclosed further) (inside : ¬['/', '*'] <+: c :: further)
      (goesOn : ¬['*', '/'] <+: c :: further) : Enclosed (c :: further)

/-- White space and comments. -/
inductive Blank : List Char → Prop
  | nil : Blank []
  | space {c : Char} {further : List Char} (space : isSpace c) (blank : Blank further) : Blank (c :: further)
  | line {text further : List Char} (one : '\n' ∉ text) (blank : Blank further) :
      Blank ('/' :: '/' :: (text ++ '\n' :: further))
  | block {comment further : List Char} (enclosed : Enclosed comment) (blank : Blank further) :
      Blank ('/' :: '*' :: (comment ++ further))

/-- The end of a file. A comment in its last line need not come to an end. -/
inductive Trailing : List Char → Prop
  | blank {gap : List Char} (blank : Blank gap) : Trailing gap
  | line {gap text : List Char} (blank : Blank gap) (one : '\n' ∉ text) : Trailing (gap ++ '/' :: '/' :: text)

/-- What stands behind a value: a gap, and then a comma or the end of the parentheses. -/
inductive Ends : List Char → Prop
  | intro {gap further : List Char} {mark : Char} (blank : Blank gap) (marks : mark ∈ [',', ')']) :
      Ends (gap ++ mark :: further)

/-- A character with which the text behind a value may begin. -/
def isEnd (c : Char) : Bool := c ∈ [',', ')'] || !isSolid c

variable {c d : Char} {g t cs rest : List Char}

theorem skipGap_space (space : isSpace c) : skipGap (c :: cs) = skipGap cs := by
  have noSlash : c ≠ '/' := by
    rintro rfl
    exact absurd space (by decide)
  rw [skipGap, skipGap, Gap.skip]
  · exact if_pos space
  · intro cs' h; exact absurd h noSlash
  · intro cs' h; exact absurd h noSlash

theorem skipGap_solid (solid : isSolid c) : skipGap (c :: cs) = some (c :: cs) := by
  have parts : ¬isSpace c ∧ c ≠ '/' := by simpa [isSolid] using solid
  rw [skipGap, Gap.skip]
  · rw [if_neg parts.1, if_neg parts.2]
  · intro cs' h; exact absurd h parts.2
  · intro cs' h; exact absurd h parts.2

/-- Where a gap ends, no other one begins. -/
theorem skipGap_idem {cs ds : List Char} (h : skipGap cs = some ds) : skipGap ds = some ds := by
  have ends (g : Gap) (cs ds : List Char) (h : g.skip cs = some ds) : ds = [] ∨ ∃ c t, ds = c :: t ∧ isSolid c := by
    fun_induction Gap.skip g cs <;> simp_all [isSolid]
    grind
  rcases ends .space cs ds h with rfl | ⟨c, t, rfl, solid⟩
  · rfl
  · exact skipGap_solid solid

/-- The gap around a comment inside so many others. -/
def Gap.around : Nat → Gap
  | 0 => space
  | depth + 1 => block depth

theorem skip_enclosed (enclosed : Enclosed t) (depth : Nat) :
    (Gap.block depth).skip (t ++ cs) = (Gap.around depth).skip cs := by
  induction enclosed generalizing depth cs with
  | close => cases depth <;> simp [Gap.skip, Gap.around]
  | @nest inner further nested enclosed ih ih' =>
    calc (Gap.block depth).skip ('/' :: '*' :: (inner ++ further) ++ cs)
        = (Gap.block (depth + 1)).skip (inner ++ (further ++ cs)) := by simp [Gap.skip]
      _ = (Gap.block depth).skip (further ++ cs) := ih (depth + 1)
      _ = (Gap.around depth).skip cs := ih' depth
  | @other c further enclosed inside goesOn ih =>
    obtain ⟨d, t, rfl⟩ : ∃ d t, further = d :: t := by cases enclosed <;> exact ⟨_, _, rfl⟩
    rw [List.cons_append, Gap.skip]
    · exact ih depth
    · intro cs' slash star
      obtain ⟨rfl, -⟩ := List.cons.inj star
      exact inside (by simp [slash])
    · intro cs' _ star slash
      obtain ⟨rfl, -⟩ := List.cons.inj slash
      exact goesOn (by simp [star])
    · intro depth' cs' _ star slash
      obtain ⟨rfl, -⟩ := List.cons.inj slash
      exact goesOn (by simp [star])

theorem skip_line (one : '\n' ∉ t) : Gap.line.skip (t ++ '\n' :: cs) = Gap.space.skip cs := by
  induction t with
  | nil => simp [Gap.skip]
  | cons c t ih =>
    obtain ⟨first, later⟩ := List.ne_and_not_mem_of_not_mem_cons one
    rw [List.cons_append, Gap.skip]
    · exact ih later
    · intro newline
      exact first newline.symm

theorem skip_lastLine (one : '\n' ∉ t) : Gap.line.skip t = some [] := by
  induction t with
  | nil => simp [Gap.skip]
  | cons c t ih =>
    obtain ⟨first, later⟩ := List.ne_and_not_mem_of_not_mem_cons one
    rw [Gap.skip]
    · exact ih later
    · intro newline
      exact first newline.symm

/-- White space and comments are passed over. -/
theorem skipGap_blank (blank : Blank g) : skipGap (g ++ cs) = skipGap cs := by
  induction blank with
  | nil => rfl
  | space space _ ih => rw [List.cons_append, skipGap_space space, ih]
  | @line text further one _ ih =>
    calc skipGap ('/' :: '/' :: (text ++ '\n' :: further) ++ cs)
        = Gap.line.skip (text ++ '\n' :: (further ++ cs)) := by simp [skipGap, Gap.skip]
      _ = skipGap (further ++ cs) := skip_line one
      _ = skipGap cs := ih
  | @block comment further enclosed _ ih =>
    calc skipGap ('/' :: '*' :: (comment ++ further) ++ cs)
        = (Gap.block 0).skip (comment ++ (further ++ cs)) := by simp [skipGap, Gap.skip]
      _ = skipGap (further ++ cs) := skip_enclosed enclosed 0
      _ = skipGap cs := ih

theorem skipGap_trailing (trailing : Trailing t) : skipGap t = some [] := by
  cases trailing with
  | blank blank =>
    have passed : skipGap (t ++ []) = skipGap [] := skipGap_blank blank
    rwa [List.append_nil] at passed
  | @line g text blank one =>
    calc skipGap (g ++ '/' :: '/' :: text)
        = skipGap ('/' :: '/' :: text) := skipGap_blank blank
      _ = Gap.line.skip text := by simp [skipGap, Gap.skip]
      _ = some [] := skip_lastLine one

theorem Blank.append {h : List Char} (blank : Blank g) (blank' : Blank h) : Blank (g ++ h) := by
  induction blank with
  | nil => exact blank'
  | space space _ ih => exact .space space ih
  | @line text further one _ ih =>
    rw [List.cons_append, List.cons_append, List.append_assoc]
    exact .line one ih
  | @block comment further enclosed _ ih =>
    rw [List.cons_append, List.cons_append, List.append_assoc]
    exact .block enclosed ih

theorem Blank.replicate (n : Nat) : Blank (List.replicate n ' ') := by
  induction n with
  | zero => exact .nil
  | succ n ih => exact .space (by decide) ih

theorem Blank.front (blank : Blank g) (d : Char) (rest : List Char) :
    ∃ a t, g ++ d :: rest = a :: t ∧ (a = d ∨ ¬isSolid a) := by
  cases blank with
  | nil => exact ⟨d, rest, rfl, .inl rfl⟩
  | space space => exact ⟨_, _, rfl, .inr (by simp [isSolid, space])⟩
  | line => exact ⟨_, _, rfl, .inr (by decide)⟩
  | block => exact ⟨_, _, rfl, .inr (by decide)⟩

theorem Ends.head (ends : Ends rest) : ∃ a t, rest = a :: t ∧ isEnd a := by
  obtain ⟨blank, marks⟩ := ends
  obtain ⟨a, t, same, rfl | hollow⟩ := blank.front _ _
  · exact ⟨_, _, same, by simp [isEnd, marks]⟩
  · exact ⟨_, _, same, by simp [isEnd, hollow]⟩

theorem skipGap_mark (blank : Blank g) (mark : d ∈ [',', ')']) : skipGap (g ++ d :: rest) = some (d :: rest) := by
  have solid : isSolid d := by
    simp only [List.mem_cons, List.not_mem_nil, or_false] at mark
    rcases mark with rfl | rfl <;> decide
  rw [skipGap_blank blank, skipGap_solid solid]

end FrameServer.Ron
