namespace FrameServer

/-- A failure and its causes, the nearest first. -/
structure Failure where
  message : String
  causes : List String := []
  deriving DecidableEq, Repr

namespace Failure

/-- The same failure seen from further out. -/
def within (f : Failure) (context : String) : Failure := ⟨context, f.message :: f.causes⟩

def oneLine (f : Failure) : String := ": ".intercalate (f.message :: f.causes)

def lines : List Char → List (List Char)
  | [] => [[]]
  | c :: cs =>
    if c = '\n' then [] :: lines cs
    else match lines cs with
      | [] => [[c]]
      | l :: ls => (c :: l) :: ls

/-- The lines of a text, the first after `first` and the others after `other`. -/
def indented (first other text : String) : String :=
  match (lines text.toList).map String.ofList with
  | [] => first
  | l :: ls => first ++ l ++ String.join (ls.map fun l => "\n" ++ other ++ l)

/-- A number at the right edge of five columns. -/
def column5 (n : Nat) : String :=
  let digits := toString n
  String.ofList (List.replicate (5 - digits.length) ' ') ++ digits

def numbered : Nat → List String → List String
  | _, [] => []
  | i, c :: cs => indented (column5 i ++ ": ") "       " c :: numbered (i + 1) cs

/-- The message and, below it, the causes, which are numbered if there are several. -/
def trace (f : Failure) : String :=
  match f.causes with
  | [] => f.message
  | [c] => f.message ++ "\n\nCaused by:\n" ++ indented "    " "    " c
  | cs => f.message ++ "\n\nCaused by:\n" ++ "\n".intercalate (numbered 0 cs)

end Failure

inductive Panic
  | text (message : String)
  | other
  deriving DecidableEq, Repr

def Panic.message : Panic → String
  | .text message => message
  | .other => "unknown panic"

inductive Outcome (α : Type)
  | ok (value : α)
  | failed (failure : Failure)
  | panicked (panic : Panic)
  deriving DecidableEq, Repr

namespace Outcome

variable {α β : Type}

def map (f : α → β) : Outcome α → Outcome β
  | ok a => ok (f a)
  | failed e => failed e
  | panicked p => panicked p

/-- A panic as a failure of whoever panicked. -/
def contain (who : String) : Outcome α → Except Failure α
  | ok a => .ok a
  | failed e => .error e
  | panicked p => .error ⟨s!"{who} panicked: {p.message}", []⟩

end Outcome
end FrameServer
