import CloudControl.Profiles.Store
import CloudControl.Table

/-!
# Managing profiles

Profiles are listed, shown, created, deleted and selected. A command works on the settings folder
and prints lines; what it did before it failed stays done. Nothing can be asked, so an argument
that is missing, or a deletion that must be confirmed, is an error.
-/

namespace CloudControl

/-- A command on profiles. -/
inductive ProfileCommand where
  | list
  | get (name : Option String)
  | create (name url apiKey secretKey : Option String) (current : Bool)
  | delete (names : List String) (force : Bool)
  /-- Selects a profile; a hyphen stands for the previous one. -/
  | setCurrent (name : String)
  deriving DecidableEq

/-- The settings folder, and the lines printed so far. -/
structure ProfileDesk where
  folder : SettingsFolder
  printed : List String

/-- A computation on profiles. -/
abbrev ProfileAction (α : Type) := ExceptT ProfileError (StateM ProfileDesk) α

namespace ProfileAction

/-- Prints a line. -/
def print (line : String) : ProfileAction Unit :=
  modify fun d ↦ { d with printed := d.printed ++ [line] }

/-- The settings folder. -/
def folder : ProfileAction SettingsFolder := do
  return (← get).folder

/-- The computation that has an outcome. -/
def lift {α : Type} (e : Except ProfileError α) : ProfileAction α :=
  ExceptT.mk (pure e)

/-- Changes the settings folder. -/
def change (step : SettingsFolder → Except ProfileError SettingsFolder) : ProfileAction Unit := do
  let f ← lift (step (← folder))
  modify fun d ↦ { d with folder := f }

/-- Saves a profile. -/
def saveProfile (p : Profile) : ProfileAction Unit := do
  change (·.ensureProfiles)
  change (·.writeProfile p)

/-- Saves the selection. -/
def saveSelection (s : Selection) : ProfileAction Unit := do
  change (·.ensureProfiles)
  change (·.writeSelection s)

/-- An argument that would otherwise be asked for. -/
def given (arg? : Option String) : ProfileAction String :=
  match arg? with
  | some arg => return arg
  | none => throw .noTerminal

end ProfileAction

namespace ProfileCommand

open ProfileAction

/-- Prints a selection that has been made. -/
def printSelected (name : String) : ProfileAction Unit :=
  print ("Set '" ++ name ++ "' as current profile")

/-- The table of profiles, with a mark at the one in use. -/
def listing (current? : Option String) (profiles : List Profile) : String :=
  Table.text ["NAME", "CURR", "API KEY", "URL"] (profiles.map fun p ↦
    [p.name, if current? == some p.name then "*" else "", p.apiKey, p.url])

/-- Lists the profiles. -/
def runList (env : Environment) (json : Bool) : ProfileAction Unit := do
  let f ← folder
  let current? := (f.resolve env none).toOption.map Profile.name
  let profiles ← lift (f.usableProfiles env)
  if json then print (Json.array (profiles.map Profile.encode)).pretty
  else print (listing current? profiles)

/-- Shows a profile without its secret. -/
def runGet (env : Environment) (json : Bool) (name? : Option String) : ProfileAction Unit := do
  let p ← lift ((← folder).resolve env name?)
  if json then print p.encode.pretty
  else do
    print ("Name:       " ++ p.name)
    print ("URL:        " ++ p.url)
    print ("API key:    " ++ p.apiKey)
    print ("Secret key: " ++ Profile.masked p.secretKey)

/-- Creates a profile, and selects it if that is asked for or none is selected. -/
def runCreate (name? url? apiKey? secretKey? : Option String) (current : Bool) :
    ProfileAction Unit := do
  let name ← given name?
  if name = Profile.environmentName then throw .reservedName
  if (← lift (← folder).listProfiles).contains name then throw (.taken name)
  let url ← given url?
  let apiKey ← given apiKey?
  let secretKey ← given secretKey?
  saveProfile ⟨name, url, apiKey, secretKey⟩
  print ("Created profile '" ++ name ++ "'")
  let selection ← lift (← folder).loadSelection
  if current || selection.current.isNone then
    saveSelection (selection.select name)
    printSelected name

/-- Deletes profiles in turn. One that was selected is selected no more. -/
def deleteAll (force : Bool) (selection : Selection) : List String → ProfileAction Unit
  | [] => return
  | name :: rest => do
    if !force then throw .noTerminal
    change (·.deleteProfile name)
    print ("Deleted profile '" ++ name ++ "'")
    if selection.current = some name then
      saveSelection selection.clear
      deleteAll force selection.clear rest
    else deleteAll force selection rest

/-- Deletes profiles. -/
def runDelete (names : List String) (force : Bool) : ProfileAction Unit := do
  let selection ← lift (← folder).loadSelection
  deleteAll force selection names

/-- The name that a hyphen stands for, or the name itself. -/
def target (selection : Selection) (name : String) : Except ProfileError String :=
  if name = "-" then
    match selection.previous with
    | some previous => .ok previous
    | none => .error .noPrevious
  else .ok name

/-- Selects a profile. -/
def runSetCurrent (name : String) : ProfileAction Unit := do
  let selection ← lift (← folder).loadSelection
  let name ← lift (target selection name)
  if name ≠ Profile.environmentName then
    if !(← lift (← folder).listProfiles).contains name then throw (.unknown name)
  saveSelection (selection.select name)
  printSelected name

/-- Carries out a command. -/
def run (env : Environment) (json : Bool) : ProfileCommand → ProfileAction Unit
  | list => runList env json
  | get name? => runGet env json name?
  | create name? url? apiKey? secretKey? current =>
    runCreate name? url? apiKey? secretKey? current
  | delete names force => runDelete names force
  | setCurrent name => runSetCurrent name

/-- What a command does to the settings folder, the lines that it prints, and its error. -/
def outcome (env : Environment) (json : Bool) (c : ProfileCommand) (f : SettingsFolder) :
    Except ProfileError Unit × ProfileDesk :=
  (c.run env json).run ⟨f, []⟩

end ProfileCommand

end CloudControl
