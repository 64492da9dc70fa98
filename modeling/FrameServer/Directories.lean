import FrameServer.Config.Basic

namespace FrameServer

/-- Everything that is there below the top directory, by the names on the way to it, the last one first. -/
structure FileTree where
  directories : List (List (List Char)) := []
  files : List (List (List Char)) := []
  deriving DecidableEq, Repr

namespace FileTree

def names : List Char → List (List Char)
  | [] => [[]]
  | c :: cs =>
    if c = '/' then [] :: names cs
    else match names cs with
      | [] => [[c]]
      | n :: ns => (c :: n) :: ns

def steps (path : String) : List (List Char) := (names path.toList).filter fun n => n ≠ [] && n ≠ ['.']

def nameLimit : Nat := 255

/-- A path must have fewer bytes. -/
def pathLimit : Nat := 4096

def isLong (name : List Char) : Bool := (String.ofList name).utf8ByteSize > nameLimit

/-- The directory to which names lead from the directory `here`. -/
def follow (t : FileTree) (here : List (List Char)) : List (List Char) → Except FileFault (List (List Char))
  | [] => .ok here
  | n :: ns =>
    if isLong n then .error .nameTooLong
    else if n = ['.', '.'] then t.follow here.tail ns
    else if n :: here ∈ t.files then .error .notADirectory
    else if n :: here ∈ t.directories then t.follow (n :: here) ns
    else .error .notFound

def isDirectory (t : FileTree) (ns : List (List Char)) : Bool := (t.follow [] ns).isOk

/-- A plain file with the name `n` in the directory to which `ns` lead, if there can be one. -/
def addFile (t : FileTree) (n : List Char) (ns : List (List Char)) : FileTree :=
  match t.follow [] ns with
  | .ok here => if n :: here ∈ t.directories then t else { t with files := (n :: here) :: t.files }
  | .error _ => t

def addDirectory (t : FileTree) (n : List Char) (ns : List (List Char)) : Except FileFault FileTree := do
  let here ← t.follow [] ns
  if n = ['.', '.'] then throw .taken
  if isLong n then throw .nameTooLong
  if n :: here ∈ t.files || n :: here ∈ t.directories then throw .taken
  return { t with directories := (n :: here) :: t.directories }

/-- As `addDirectory`, which may be there already. -/
def haveDirectory (t : FileTree) (n : List Char) (ns : List (List Char)) : Except FileFault FileTree :=
  match t.addDirectory n ns with
  | .error .taken => if t.isDirectory (ns ++ [n]) then .ok t else .error .taken
  | r => r

/-- A directory and whatever is missing on the way to it, given the way backwards. -/
def haveAll (t : FileTree) : List (List Char) → Except FileFault FileTree
  | [] => .ok t
  | n :: way =>
    match t.haveDirectory n way.reverse with
    | .error .notFound => do (← t.haveAll way).haveDirectory n way.reverse
    | r => r

def haveDirectories (t : FileTree) (path : String) : Except FileFault FileTree :=
  if path.contains '\x00' then .error .nulInName
  else if path.utf8ByteSize ≥ pathLimit then .error .nameTooLong
  else t.haveAll (steps path).reverse

end FileTree

structure Directories where
  config : String
  log : String
  deriving DecidableEq, Repr

namespace Directories

def join (base name : String) : String :=
  if base.isEmpty || base.toList.getLast? = some '/' then base ++ name else base ++ "/" ++ name

def ofConfigDir (dir : String) : Directories := ⟨dir, join dir "logs"⟩

def programName : String := "quay"

/-- The directories below the place where programs keep theirs. -/
def ofRoot (root : String) : Directories := ofConfigDir (join root programName)

def isAbsolute (path : String) : Bool := path.toList.head? = some '/'

def userRoot? (configHome home : Option String) : Option String :=
  match configHome.filter isAbsolute with
  | some dir => some dir
  | none => (home.filter (!·.isEmpty)).map (join · ".config")

def ofUser? (configHome home : Option String) : Option Directories := (userRoot? configHome home).map ofRoot

def create (d : Directories) (t : FileTree) : Except FileFault FileTree := do
  (← t.haveDirectories d.config).haveDirectories d.log

def faultMessage (fault : FileFault) : String := "platform I/O error: " ++ fault.message

def noRootMessage : String := "could not determine OS configuration directory"

end Directories
end FrameServer
