import CloudControl.CommandLine.Invocation

/-!
# Running a command line

A run reads the words, carries out the command on the settings folder or on a server, and ends
with an exit code: zero when all went well, one after an error, two when the words make no sense,
and the one of a signal when the program has stopped.
-/

namespace CloudControl.CommandLine

/-- What went wrong in a command. -/
inductive CommandError where
  | profile (cause : ProfileError)
  | task (cause : TaskError)

/-- The wording of what went wrong. -/
def CommandError.message : CommandError → String
  | profile cause => cause.message
  | task cause => cause.message

/-- How a run ends. -/
inductive Ending where
  | success
  | failure (error : CommandError)
  | misuse (error : UsageError)
  /-- The program has stopped before the end. -/
  | stopped (cause : Overflow)

/-- The exit code of a run. -/
def Ending.exitCode : Ending → Nat
  | success => 0
  | failure _ => 1
  | misuse _ => 2
  | stopped _ => 134

/-- The text that tells the version. -/
def versionText : String := "cloudstack 0.1.0"

/-- The text that tells how to use the program. -/
def usageText : String := "Usage: cloudstack [OPTIONS] <COMMAND>"

/-- A run: what was printed, how it ended, and what it left behind. -/
structure Run (σ : Type) where
  printed : List String
  ending : Ending
  folder : SettingsFolder
  server : σ

/-- The text that was printed. -/
def Run.output {σ : Type} (r : Run σ) : String :=
  String.join (r.printed.map (· ++ "\n"))

section

variable {σ : Type}

/-- The run that ends in an outcome. -/
def endingOf {ε : Type} (wrap : ε → CommandError) : Except ε Unit → Ending
  | .ok () => .success
  | .error e => .failure (wrap e)

/-- The ending of a task. -/
def endingOfTask : Except TaskError Unit → Ending
  | .error (.client (.stopped cause)) => .stopped cause
  | result => endingOf .task result

/-- Carries out a command on profiles. -/
def runProfile (env : Environment) (json : Bool) (c : ProfileCommand) (f : SettingsFolder) (s : σ) :
    Run σ :=
  let (result, desk) := c.outcome env json f
  ⟨desk.printed, endingOf .profile result, desk.folder, s⟩

/-- The client of an invocation. -/
def clientOf (i : Invocation) (env : Environment) (f : SettingsFolder) :
    Except CommandError Client := do
  let p ← (i.target env f).mapError .profile
  (Client.connect p.url (some p.credentials)).mapError fun e ↦ .task (.client e)

/-- Carries out a task. -/
def runTask (link : Link σ) (clock : Clock σ) (i : Invocation) (env : Environment) (t : Task)
    (f : SettingsFolder) (s : σ) : Run σ :=
  match clientOf i env f with
  | .error e => ⟨[], .failure e, f, s⟩
  | .ok client =>
    let (result, console) := (t.perform ⟨link, clock, client⟩ i.json).run ⟨s, []⟩
    ⟨console.printed, endingOfTask result, f, console.server⟩

/-- Carries out what an invocation asks for. -/
def runInvocation (link : Link σ) (clock : Clock σ) (env : Environment) (i : Invocation)
    (f : SettingsFolder) (s : σ) : Run σ :=
  match i.instruction with
  | .profile c => runProfile env i.json c f s
  | .task t => runTask link clock i env t f s

/-- Runs a command line. -/
def run (link : Link σ) (clock : Clock σ) (env : Environment) (words : List String)
    (f : SettingsFolder) (s : σ) : Run σ :=
  match Invocation.read env words with
  | .ok i => runInvocation link clock env i f s
  | .error (.usage e) => ⟨[], .misuse e, f, s⟩
  | .error .version => ⟨[versionText], .success, f, s⟩
  | .error .help => ⟨[usageText], .success, f, s⟩

end

end CloudControl.CommandLine
