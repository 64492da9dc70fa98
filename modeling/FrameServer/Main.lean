import FrameServer.Config.Folder
import FrameServer.Config.Options
import FrameServer.Directories
import FrameServer.Server.Run

namespace FrameServer.CommandLine

open Server

def readFolder (dir : String) : IO Folder := do
  try
    let bytes ← IO.FS.readBinFile (Directories.join dir Config.fileName)
    return .plain (some bytes.toList)
  catch
    | .inappropriateType _ 20 _ => return .belowFile
    | .inappropriateType .. => return .fileIsFolder
    | _ => return .plain none

def writeFolder (dir : String) : Folder → IO Unit
  | .plain (some bytes) => IO.FS.writeBinFile (Directories.join dir Config.fileName) ⟨bytes.toArray⟩
  | _ => return ()

/-- The configuration of a directory, or the default if it cannot be had. -/
def loadConfig (dir : String) : IO Config := do
  let folder ← readFolder dir
  match Config.loadOrCreate folder with
  | .ok (c, new) =>
    if new ≠ folder then writeFolder dir new
    return c
  | .error e =>
    IO.eprintln s!"Failed to load config: {e.message}, using defaults"
    return {}

def session : SessionKey := 0

/-- Writes what the peer has not seen of the first `n` bytes and more; how much there is now. -/
def writeOut (s : State) (n : Nat) : IO Nat := do
  let wire := ((s.hub.session? session).map (·.lane.wire)).getD []
  let out ← IO.getStdout
  out.write ⟨(wire.drop n).toArray⟩
  out.flush
  return wire.length

/-- Lets time pass and bytes come in and go out until the connection has ended. -/
partial def serve (a : Application) (s : State) (time written : Nat) (reading : Task (Except IO.Error ByteArray)) :
    IO Unit := do
  let now ← IO.monoMsNow
  let s := s.pass a (now - time) 10
  let (s, reading) ← if (← IO.hasFinished reading) && !s.quiet then
    match reading.get with
    | .ok bytes =>
      if bytes.isEmpty then pure (s.make a (.finish session .eof), reading)
      else
        let more ← IO.asTask ((← IO.getStdin).read 65536) .dedicated
        pure (s.make a (.arrive session bytes.toList), more)
    | .error e => pure (s.make a (.finish session (.failed (toString e))), reading)
  else pure (s, reading)
  let total ← writeOut s written
  let s := s.make a (.widen session (total - written))
  if s.quiet then return
  IO.sleep 10
  serve a s now total reading

def run (c : Config) : IO UInt32 := do
  match Application.ofConfig c with
  | .error e =>
    IO.eprintln s!"Error: {e.message}"
    return 1
  | .ok a =>
    let s := (State.start a {} c.server.port.toNat (.ok (c.server.host, c.server.port.toNat))).2
    let s := (s.make a (.connect 0 "0" "")).make a (.widen session 65536)
    let reading ← IO.asTask ((← IO.getStdin).read 65536) .dedicated
    serve a s (← IO.monoMsNow) 0 reading
    return 0

def directories (o : Options) : IO (Option Directories) := do
  match o.configDir with
  | some dir => return some (.ofConfigDir dir)
  | none => return Directories.ofUser? (← IO.getEnv "XDG_CONFIG_HOME") (← IO.getEnv "HOME")

def start (args : List String) : IO UInt32 := do
  match Options.parse args with
  | .error stop =>
    if stop.wanted then IO.println stop.message else IO.eprintln s!"error: {stop.message}"
    return if stop.wanted then 0 else 2
  | .ok o =>
    match ← directories o with
    | none =>
      IO.eprintln s!"Error: {Directories.noRootMessage}"
      return 1
    | some dirs =>
      try IO.FS.createDirAll dirs.log catch e => IO.eprintln s!"Failed to create {dirs.config}: {e}"
      run ((← loadConfig dirs.config).override o)

end FrameServer.CommandLine

/-- Serves one connection, whose two halves are the standard streams, as a super server hands it over. -/
def main (args : List String) : IO UInt32 := FrameServer.CommandLine.start args
