import FrameServer.Config.Document
import FrameServer.Text.Utf8

namespace FrameServer

/-- A directory as far as a configuration file in it goes. -/
inductive Folder
  | plain (file : Option Bytes)
  | fileIsFolder
  /-- The directory cannot be there, as a plain file is in its way. -/
  | belowFile
  deriving DecidableEq, Repr

namespace Folder

def read : Folder → Except ConfigError String
  | plain none => .error (.read .notFound)
  | plain (some bytes) =>
    match text? bytes with
    | some s => .ok s
    | none => .error (.read .notText)
  | fileIsFolder => .error (.read .isADirectory)
  | belowFile => .error (.read .notADirectory)

/-- Puts a text into the file, with the directory if need be. -/
def write (s : String) : Folder → Except ConfigError Folder
  | plain _ => .ok (plain (some (textBytes s)))
  | fileIsFolder => .error (.write .isADirectory)
  | belowFile => .error (.write .notADirectory)

def hasFile : Folder → Bool
  | plain file => file.isSome
  | fileIsFolder => true
  | belowFile => false

end Folder

namespace Config

def fileName : String := "config.ron"

def save (c : Config) (d : Folder) : Except ConfigError Folder := d.write c.render

def ofFolder (d : Folder) : Except ConfigError Config := do
  let s ← d.read
  match parse? s with
  | some c => .ok c
  | none => .error .parse

/-- The configuration of a directory; where there is none, the default is put there. -/
def loadOrCreate (d : Folder) : Except ConfigError (Config × Folder) :=
  if d.hasFile then (ofFolder d).map fun c => (c, d)
  else
    let c : Config := {}
    (c.save d).map fun d => (c, d)

/-- Reads the file again; the new configuration if it differs. -/
def reload (c : Config) (d : Folder) : Except ConfigError (Option Config) :=
  (ofFolder d).map fun new => if new = c then none else some new

end Config
end FrameServer
