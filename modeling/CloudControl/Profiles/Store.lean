import CloudControl.Profiles.Folder
import CloudControl.Profiles.Profile

/-!
# Looking up profiles

Profiles and the selection are read from the settings folder and written to it. One further
profile comes from the environment. `SettingsFolder.resolve` says which profile is meant when
none, or one, is named.
-/

namespace CloudControl

/-- The variables of the environment. -/
structure Environment where
  bindings : List (String × String)

namespace Environment

/-- The value of a variable. -/
def get? (env : Environment) (name : String) : Option String :=
  env.bindings.lookup name

/-- The variable for the name of a profile. -/
def profileVariable : String := "CLOUDSTACK_PROFILE"

/-- The variable for an endpoint. -/
def urlVariable : String := "CLOUDSTACK_URL"

/-- The variable for an API key. -/
def apiKeyVariable : String := "CLOUDSTACK_API_KEY"

/-- The variable for a secret key. -/
def secretKeyVariable : String := "CLOUDSTACK_SECRET_KEY"

end Environment

/-- What keeps a profile from being used or changed. -/
inductive ProfileError where
  | unreadable (name : String) (cause : FileError)
  | malformed (name : String) (cause : DocumentError)
  | undeletable (name : String) (cause : FileError)
  /-- The folder of profiles or the file of the selection cannot be used. -/
  | inaccessible (cause : FileError)
  | malformedSelection (cause : DocumentError)
  | missingVariable (variableName : String)
  | notConfigured
  | reservedName
  | taken (name : String)
  | unknown (name : String)
  | noPrevious
  /-- A question cannot be asked. -/
  | noTerminal

/-- The wording of an error about profiles. -/
def ProfileError.message : ProfileError → String
  | unreadable name cause => "Failed to read profile '" ++ name ++ "': " ++ cause.message
  | malformed name cause => "Failed to parse profile '" ++ name ++ "': " ++ cause.message
  | undeletable name cause => "Failed to delete profile '" ++ name ++ "': " ++ cause.message
  | inaccessible cause => cause.message
  | malformedSelection cause => cause.message
  | missingVariable variableName => variableName ++ " must be set"
  | notConfigured =>
    "No profile configured. Use 'cloudstack profile create' or set " ++ Environment.urlVariable ++
      ", " ++ Environment.apiKeyVariable ++ " and " ++ Environment.secretKeyVariable
  | reservedName => "'" ++ Profile.environmentName ++ "' is reserved for the environment profile"
  | taken name => "Profile '" ++ name ++ "' already exists"
  | unknown name => "Profile '" ++ name ++ "' does not exist"
  | noPrevious => "No previous profile to switch to"
  | noTerminal => "IO error: not a terminal"

namespace Environment

/-- A variable that must be set. -/
def require (env : Environment) (name : String) : Except ProfileError String :=
  match env.get? name with
  | some value => .ok value
  | none => .error (.missingVariable name)

/-- The profile that the environment describes. -/
def profile (env : Environment) : Except ProfileError Profile := do
  let url ← env.require urlVariable
  let apiKey ← env.require apiKeyVariable
  let secretKey ← env.require secretKeyVariable
  return ⟨Profile.environmentName, url, apiKey, secretKey⟩

end Environment

namespace SettingsFolder

/-- Reads a profile. -/
def loadProfile (f : SettingsFolder) (name : String) : Except ProfileError Profile := do
  let text ← (do f.readFile (← f.place name)).mapError (.unreadable name)
  (Profile.read text).mapError (.malformed name)

/-- Makes the folder of profiles, unless it is there. -/
def ensureProfiles (f : SettingsFolder) : Except ProfileError SettingsFolder :=
  (f.ensureFolder Place.profiles).mapError .inaccessible

/-- Writes a profile. -/
def writeProfile (f : SettingsFolder) (p : Profile) : Except ProfileError SettingsFolder :=
  (do f.writeFile (← f.place p.name) p.text).mapError .inaccessible

/-- Deletes the file of a profile. -/
def deleteProfile (f : SettingsFolder) (name : String) : Except ProfileError SettingsFolder :=
  (do f.removeFile (← f.place name)).mapError (.undeletable name)

/-- Reads the selection; without a file nothing is selected. -/
def loadSelection (f : SettingsFolder) : Except ProfileError Selection :=
  if (f.node? Place.selection).isNone then .ok .empty
  else do
    let text ← (f.readFile Place.selection).mapError .inaccessible
    (Selection.read text).mapError .malformedSelection

/-- Writes the selection. -/
def writeSelection (f : SettingsFolder) (s : Selection) : Except ProfileError SettingsFolder :=
  (f.writeFile Place.selection s.text).mapError .inaccessible

/-- The profile with a name, which may be the one of the environment. -/
def named (f : SettingsFolder) (env : Environment) (name : String) :
    Except ProfileError Profile :=
  if name = Profile.environmentName then env.profile else f.loadProfile name

/-- The profile that is meant: the one that is named; or else the one of the environment, if that
gives an endpoint; or else the selected one. -/
def resolve (f : SettingsFolder) (env : Environment) (name? : Option String) :
    Except ProfileError Profile :=
  match name? with
  | some name => f.named env name
  | none =>
    if (env.get? Environment.urlVariable).isSome then env.profile
    else do
      let selection ← f.loadSelection
      match selection.current with
      | some name => f.named env name
      | none => .error .notConfigured

/-- The names of the profiles. -/
def listProfiles (f : SettingsFolder) : Except ProfileError (List String) :=
  f.profileNames.mapError .inaccessible

/-- The profiles that can be used: the one of the environment, and the files that can be read. -/
def usableProfiles (f : SettingsFolder) (env : Environment) :
    Except ProfileError (List Profile) := do
  let names ← f.listProfiles
  return env.profile.toOption.toList ++ names.filterMap fun name ↦ (f.loadProfile name).toOption

end SettingsFolder

end CloudControl
