import StateCheck.Command.Program
import StateCheck.Timestamp
import StateCheck.Yaml.Load

/-!
The outer layer of the program: it looks at the files that a request may use, lets the program
run on what it saw, and writes and prints what came of it.
-/

namespace StateCheck.Main

/-- What lies at a path, if anything does. -/
def look (path : String) : IO (Option Files.Entry) := do
  try
    return some (.file (← IO.FS.readBinFile path).toList)
  catch _ =>
    try
      if ← (← IO.FS.realPath path).isDir then return some .directory
      return none
    catch _ => return none

/-- A path and the paths of all directories on the way to it. -/
def stages (path : String) : List String :=
  let names := Files.parts path
  (List.range names.length).map fun n =>
    Files.root path ++ Text.joinWith "/" (names.take (n + 1))

/-- What lies at paths and on the way to them. -/
def survey (paths : List String) : IO Files := do
  let mut seen := []
  for path in paths.flatMap stages do
    if let some entry ← look path then
      seen := seen ++ [(path, entry)]
  return Files.ofList seen

/-- The present time, as the time at which a new file is written. -/
def now : IO String := do
  let (_, path) ← IO.FS.createTempFile
  let written := (← path.metadata).modified
  IO.FS.removeFile path
  return Timestamp.text written.sec.toNat (written.nsec.toNat / 1000)

def pathOf (place : List String) : String :=
  match place with
  | "/" :: names => "/" ++ Text.joinWith "/" names
  | names => Text.joinWith "/" names

/-- Brings the files from what they were to what they became. -/
def save (before after : Files) : IO Unit := do
  for (place, entry) in after.entries do
    if before.at? place != some entry then
      match entry with
      | .directory => IO.FS.createDirAll (pathOf place)
      | .file bytes => IO.FS.writeBinFile (pathOf place) (ByteArray.mk bytes.toArray)

end StateCheck.Main

open StateCheck in
def main (args : List String) : IO UInt32 := do
  let home := (← IO.getEnv "HOME").getD ""
  let named := (Command.Request.read args).elim [] Command.Request.files
  let files ← Main.survey
    (named ++ Settings.standardPaths home ++ Inventory.standardPaths)
  let network := (Device.Network.ofLibrary .absent).guarded (.ofCustom [])
  let ending := Command.program ⟨files, home, ← Main.now, network, Yaml.load⟩ args
  for notice in ending.trace.notices do
    IO.eprintln notice
  Main.save files ending.trace.files
  IO.print ending.trace.output
  IO.eprint ending.trace.errors
  if let some e := ending.fault then
    IO.eprintln ("Stopped by an unexpected fault " ++ e.text)
  return ending.code.toUInt32
