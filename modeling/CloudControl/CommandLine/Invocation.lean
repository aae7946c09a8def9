import CloudControl.CommandLine.Commands

/-!
# Invocations

An invocation is a command line that has been read: an instruction, and the options that every
command takes. These may stand at any level; the deepest one counts, and a variable of the
environment stands in for one that is not given.
-/

namespace CloudControl.CommandLine

/-- A command line that has been read. -/
structure Invocation where
  instruction : Instruction
  profile : Option String
  url : Option String
  apiKey : Option String
  secretKey : Option String
  /-- Entities are shown as JSON. -/
  json : Bool

namespace Invocation

/-- The options that every command takes. -/
def sharedOptions : List OptionSpec := [
  { OptionSpec.value "profile" with letter := some 'p' },
  { OptionSpec.value "url" with letter := some 'U' },
  .value "api-key", .value "secret-key", lettered "json" 'j', lettered "verbose" 'v']

/-- The variables that stand in for options. -/
def optionVariables : List (String × String) := [
  ("profile", Environment.profileVariable), ("url", Environment.urlVariable),
  ("api-key", Environment.apiKeyVariable), ("secret-key", Environment.secretKeyVariable)]

/-- The options that the environment gives. -/
def environmentOptions (env : Environment) : List (String × String) :=
  optionVariables.filterMap fun (option, variableName) ↦
    (env.get? variableName).map fun value ↦ (option, value)

/-- The options of a command with those that every command takes. A shared option gives way to one
of the command under the same name. -/
def withShared (own : List OptionSpec) : List OptionSpec :=
  own ++ sharedOptions.filter fun o ↦ !own.any (·.name == o.name)

/-- The sub-command that tells how to use the commands of a level. -/
def helpName : String := "help"

/-- A level of sub-commands, which has no operands. -/
def levelOf (names : List String) (hasVersion : Bool) : Level :=
  ⟨sharedOptions, helpName :: names, some 0, hasVersion⟩

/-- The level of the commands and groups. -/
def topLevel : Level := levelOf (entries.flatMap Entry.names) true

/-- The level of the commands of a group. -/
def groupLevel (leaves : List Leaf) : Level := levelOf (leaves.flatMap Leaf.names) false

/-- The level of the words of a command. -/
def leafLevel (l : Leaf) : Level := ⟨withShared l.options, [], l.operands, false⟩

/-- Words that ask for help must lead to a command: none may stand behind its name. -/
def helpOfLeaf : List String → Interruption
  | [] => .help
  | word :: _ => .usage (.unexpectedOperand word)

/-- The help on a group, or on the command of it that words lead to. -/
def helpOfGroup (leaves : List Leaf) : List String → Interruption
  | [] => .help
  | word :: rest =>
    if word == helpName || leaves.any (·.names.contains word) then helpOfLeaf rest
    else .usage (.unexpectedOperand word)

/-- The help on the group or the command that words lead to. -/
def helpOn : List String → Interruption
  | [] => .help
  | word :: rest =>
    match entries.find? (·.names.contains word) with
    | some (.group _ leaves) => helpOfGroup leaves rest
    | some (.leaf _) => helpOfLeaf rest
    | none => if word == helpName then helpOfLeaf rest else .usage (.unexpectedOperand word)

/-- The sub-command that ends a level, which must be there. -/
def subcommand (e : LevelEnd) : Except Interruption (String × List String) :=
  match e.command with
  | some c => .ok c
  | none => .error (.usage .missingCommand)

/-- The invocation of a command with its words. -/
def ofWords (l : Leaf) (w : Words) : Except UsageError Invocation := do
  let instruction ← l.read w
  return ⟨instruction, w.value? "profile", w.value? "url", w.value? "api-key",
    w.value? "secret-key", w.has "json"⟩

/-- Reads the words of a command, after options given at the levels above it. -/
def readLeaf (env : Environment) (above : List (String × String)) (l : Leaf)
    (words : List String) : Except Interruption Invocation := do
  let e ← readLevel (leafLevel l) words .start
  let options := e.words.options ++ above ++ environmentOptions env
  (ofWords l ⟨options, e.words.operands⟩).mapError .usage

/-- Judges the last option of a level after the levels below it. -/
def judge (e : LevelEnd) (i : Invocation) : Except Interruption Invocation :=
  match e.objection with
  | some error => .error (.usage error)
  | none => .ok i

/-- Reads the words of a group, after options given at the level above it. -/
def readGroup (env : Environment) (above : List (String × String)) (leaves : List Leaf)
    (words : List String) : Except Interruption Invocation := do
  let e ← readLevel (groupLevel leaves) words .start
  let (name, rest) ← subcommand e
  if name == helpName then .error (helpOfGroup leaves rest)
  match leaves.find? (·.names.contains name) with
  | some l => judge e (← readLeaf env (e.words.options ++ above) l rest)
  | none => .error (.usage (.unexpectedOperand name))

/-- Reads a command line. -/
def read (env : Environment) (words : List String) : Except Interruption Invocation := do
  let e ← readLevel topLevel words .start
  let (name, rest) ← subcommand e
  if name == helpName then .error (helpOn rest)
  match entries.find? (·.names.contains name) with
  | some (.leaf l) => judge e (← readLeaf env e.words.options l rest)
  | some (.group _ leaves) => judge e (← readGroup env e.words.options leaves rest)
  | none => .error (.usage (.unexpectedOperand name))

/-- The profile whose endpoint and keys are used: the one that is meant, with what is given in
place of its own. -/
def effectiveProfile (i : Invocation) (env : Environment) (f : SettingsFolder) :
    Except ProfileError Profile := do
  let p ← f.resolve env i.profile
  return { p with
    url := i.url.getD p.url
    apiKey := i.apiKey.getD p.apiKey
    secretKey := i.secretKey.getD p.secretKey }

/-- The endpoint and the keys of an invocation. Without the name of a profile they may be given
outright. -/
def target (i : Invocation) (env : Environment) (f : SettingsFolder) :
    Except ProfileError Profile :=
  match i.profile, i.url, i.apiKey, i.secretKey with
  | none, some url, some apiKey, some secretKey => .ok ⟨"", url, apiKey, secretKey⟩
  | _, _, _, _ => i.effectiveProfile env f

end Invocation

end CloudControl.CommandLine
