import CloudControl.CommandLine.Run

/-!
# The program

The program reads the environment and the settings folder, runs its command line, writes the files
that the run has changed, and prints. It carries no requests itself: over the link that it uses
every server is out of reach.
-/

namespace CloudControl.Program

open CommandLine

/-- The link over which no server can be reached. -/
def offline : Link Unit where
  exchange r s := (.error (.unreachable r.url), s)
  now _ := ⟨0, 0⟩

/-- The clock of a program that never waits. -/
def still : Clock Unit where
  reading _ := 0
  sleep _ s := s

/-- The variable for the settings folder. -/
def folderVariable : String := "CLOUDSTACK_CONFIG_DIR"

/-- The path of the settings folder. -/
def folderPath : IO String := do
  match ← IO.getEnv folderVariable with
  | some path => return path
  | none => return (← IO.getEnv "HOME").getD "." ++ "/.cloudstack"

/-- The variables that matter. -/
def environment : IO Environment := do
  let mut bindings := []
  for (_, name) in Invocation.optionVariables do
    if let some value ← IO.getEnv name then
      bindings := (name, value) :: bindings
  return ⟨bindings⟩

/-- The text of a file, if it can be read. -/
def readText? (path : String) : IO (Option String) := do
  try
    return some (← IO.FS.readFile path)
  catch _ =>
    return none

/-- The names in a folder, if it is there. -/
def namesIn? (path : String) : IO (Option (List String)) := do
  try
    let folder ← IO.FS.realPath path
    return some ((← folder.readDir).toList.map (·.fileName))
  catch _ =>
    return none

/-- Reads what stands at a place of the settings folder at a path: a file, or a folder with the
files in it. -/
def readPlace (path : String) (place : Place) (folder : SettingsFolder) : IO SettingsFolder := do
  let path := path ++ "/" ++ place.path
  if let some text ← readText? path then
    return folder.withFile place text
  match ← namesIn? path with
  | none => return folder
  | some names =>
    let mut folder := (folder.ensureFolder place).toOption.getD folder
    for name in names do
      if let some text ← readText? (path ++ "/" ++ name) then
        folder := folder.withFile (place ++ [name]) text
    return folder

/-- Reads the settings folder at a path. -/
def readFolder (path : String) : IO SettingsFolder := do
  readPlace path Place.profiles (← readPlace path Place.selection .empty)

/-- Writes what has changed in the settings folder at a path. -/
def writeFolder (path : String) (old new : SettingsFolder) : IO Unit := do
  if new.node? Place.profiles == some .folder then
    IO.FS.createDirAll (path ++ "/" ++ Place.profiles.path)
  for (place, text) in new.files do
    if old.node? place != some (.file text) then
      IO.FS.writeFile (path ++ "/" ++ place.path) text
  for (place, _) in old.files do
    if (new.node? place).isNone then
      IO.FS.removeFile (path ++ "/" ++ place.path)

/-- Says how a run ended, unless all went well. -/
def report : Ending → IO Unit
  | .success => return
  | .failure e => IO.eprintln ("Error: " ++ e.message)
  | .misuse e => IO.eprintln ("error: " ++ e.message)
  | .stopped cause => IO.eprintln cause.message

/-- Runs a command line. -/
def start (words : List String) : IO UInt32 := do
  let path ← folderPath
  let folder ← readFolder path
  let r := run offline still (← environment) words folder ()
  IO.print r.output
  writeFolder path folder r.folder
  report r.ending
  return UInt32.ofNat r.ending.exitCode

end CloudControl.Program

/-- The command line of the program. -/
def main (words : List String) : IO UInt32 :=
  CloudControl.Program.start words
