import CloudControl.Calendar.Reader

/-!
# Reading the words of a command line

A command line is read in levels: options up to the name of a sub-command, whose own level then
begins. An option is named by a word after two hyphens or by a letter after one; letters may
share a hyphen. Its value follows as the next word, or in the same word after an equals sign or
the letter itself. A word that starts with a hyphen is never a value, a lone hyphen aside, and
after two hyphens alone every word is an operand.

Words are read in order, and the first one that is wrong, or that asks for help, decides. A value
that stands in a word of its own is judged when the level goes on, so after the levels below it
when it is the last one in front of a sub-command.
-/

namespace CloudControl.CommandLine

/-- The values that an option takes. -/
inductive ValueKind where
  | text
  /-- Natural numbers of 64 bits from `least` on. -/
  | natural (least : Nat)
  /-- Integers from `least` to `most`. -/
  | integer (least most : Int)
  | date
  deriving DecidableEq

/-- The values include a text. -/
def ValueKind.admits : ValueKind → String → Bool
  | text, _ => true
  | natural least, s => (Text.Numeral.natOfBits? 64 s).any (least ≤ ·)
  | integer least most, s => (Text.Numeral.intOfBits? 64 s).any fun i ↦ least ≤ i && i ≤ most
  | date, s => (Date.parse? s).isSome

/-- An option of a level. -/
structure OptionSpec where
  name : String
  letter : Option Char := none
  takesValue : Bool := true
  /-- The option may be given more than once. -/
  repeats : Bool := false
  kind : ValueKind := .text
  deriving DecidableEq

namespace OptionSpec

/-- An option with a value. -/
def value (name : String) (kind : ValueKind := .text) : OptionSpec :=
  ⟨name, none, true, false, kind⟩

/-- An option without a value. -/
def switch (name : String) : OptionSpec := ⟨name, none, false, false, .text⟩

end OptionSpec

/-- What is wrong with a command line. -/
inductive UsageError where
  | unknownOption (word : String)
  | missingValue (option : String)
  | unexpectedValue (option : String)
  | repeated (option : String)
  | malformedValue (option : String)
  | missingOption (option : String)
  | missingOperand
  | unexpectedOperand (word : String)
  | missingCommand
  deriving DecidableEq

/-- The wording of what is wrong with a command line. -/
def UsageError.message : UsageError → String
  | unknownOption word => "unexpected option '" ++ word ++ "'"
  | missingValue option => "a value is required for '--" ++ option ++ "'"
  | unexpectedValue option => "'--" ++ option ++ "' takes no value"
  | repeated option => "'--" ++ option ++ "' cannot be used multiple times"
  | malformedValue option => "invalid value for '--" ++ option ++ "'"
  | missingOption option => "'--" ++ option ++ "' is required"
  | missingOperand => "an argument is missing"
  | unexpectedOperand word => "unexpected argument '" ++ word ++ "'"
  | missingCommand => "a command is required"

/-- Why reading stops before the end. -/
inductive Interruption where
  | usage (error : UsageError)
  /-- The version is asked for. -/
  | version
  /-- Help is asked for. -/
  | help
  deriving DecidableEq

/-- What one level admits. -/
structure Level where
  options : List OptionSpec
  /-- The names of the sub-commands. -/
  commands : List String
  /-- The greatest number of operands, if there is one. -/
  operands : Option Nat
  /-- The version can be asked for. -/
  hasVersion : Bool

namespace Level

/-- The option with a name. -/
def option? (l : Level) (name : String) : Option OptionSpec :=
  l.options.find? (·.name == name)

/-- The option with a letter. -/
def letter? (l : Level) (c : Char) : Option OptionSpec :=
  l.options.find? (·.letter == some c)

end Level

/-- The options with their values, and the operands. -/
structure Words where
  options : List (String × String)
  operands : List String
  deriving DecidableEq

namespace Words

/-- No words. -/
def empty : Words := ⟨[], []⟩

/-- What is wrong with adding an option with a value, if anything. -/
def objection? (w : Words) (o : OptionSpec) (value : String) : Option UsageError :=
  if !o.repeats && w.options.any (·.1 == o.name) then some (.repeated o.name)
  else if !o.kind.admits value then some (.malformedValue o.name)
  else none

/-- Adds an option with a value. -/
def push (w : Words) (o : OptionSpec) (value : String) : Words :=
  { w with options := w.options ++ [(o.name, value)] }

/-- Adds an option with a value, unless something is wrong with that. -/
def add (w : Words) (o : OptionSpec) (value : String) : Except Interruption Words :=
  match w.objection? o value with
  | some e => .error (.usage e)
  | none => .ok (w.push o value)

end Words

/-- How far a level has been read. -/
structure Progress where
  words : Words
  /-- The option whose value is the next word. -/
  pending : Option OptionSpec
  /-- The last option with its value, which has not been judged yet. -/
  held : Option (OptionSpec × String)
  /-- Every word is an operand from here on. -/
  bare : Bool

namespace Progress

/-- Nothing has been read. -/
def start : Progress := ⟨.empty, none, none, false⟩

/-- A level whose words are complete. -/
def done (w : Words) : Progress := ⟨w, none, none, false⟩

/-- The words, with the last option judged. -/
def settled (p : Progress) : Except Interruption Words :=
  match p.held with
  | some (o, value) => p.words.add o value
  | none => .ok p.words

end Progress

/-- The word stands for options. -/
def isOptionWord (word : String) : Bool :=
  word.toList.head? == some '-' && word != "-"

/-- Reads letters after a hyphen. -/
def readLetters (l : Level) : List Char → Words → Except Interruption Progress
  | [], w => .ok (.done w)
  | c :: rest, w =>
    match l.letter? c with
    | some o =>
      if o.takesValue then
        match rest with
        | [] => .ok { Progress.done w with pending := some o }
        | '=' :: value => (w.add o (String.ofList value)).map .done
        | value => (w.add o (String.ofList value)).map .done
      else do readLetters l rest (← w.add o "")
    | none =>
      if c == 'h' then .error .help
      else if c == 'V' && l.hasVersion then .error .version
      else .error (.usage (.unknownOption (String.ofList ['-', c])))

/-- Splits the characters after two hyphens at the first equals sign. -/
def splitValue (cs : List Char) : String × Option String :=
  let name := cs.takeWhile (· != '=')
  let value? := match cs.dropWhile (· != '=') with
    | [] => none
    | _ :: value => some (String.ofList value)
  (String.ofList name, value?)

/-- Reads the name of an option after two hyphens. -/
def readName (l : Level) (cs : List Char) (w : Words) : Except Interruption Progress :=
  let (name, value?) := splitValue cs
  match l.option? name, value? with
  | some o, some value =>
    if o.takesValue then (w.add o value).map .done
    else .error (.usage (.unexpectedValue name))
  | some o, none =>
    if o.takesValue then .ok { Progress.done w with pending := some o }
    else (w.add o "").map .done
  | none, none =>
    if name == "help" then .error .help
    else if name == "version" && l.hasVersion then .error .version
    else .error (.usage (.unknownOption name))
  | none, some _ => .error (.usage (.unknownOption name))

/-- Reads an operand, if the level admits one more. -/
def readOperand (l : Level) (word : String) (p : Progress) : Except Interruption Progress := do
  let w ← p.settled
  if l.operands.all (w.operands.length < ·) then
    .ok { Progress.done { w with operands := w.operands ++ [word] } with bare := p.bare }
  else .error (.usage (.unexpectedOperand word))

/-- Reads a word that is no sub-command. -/
def readWord (l : Level) (word : String) (p : Progress) : Except Interruption Progress :=
  match p.pending with
  | some o =>
    if isOptionWord word then .error (.usage (.missingValue o.name))
    else .ok { p with pending := none, held := some (o, word) }
  | none =>
    if p.bare then readOperand l word p
    else
      match word.toList with
      | ['-', '-'] => .ok { p with bare := true }
      | '-' :: '-' :: cs => do readName l cs (← p.settled)
      | '-' :: c :: cs => do readLetters l (c :: cs) (← p.settled)
      | _ => readOperand l word p

/-- The words of a level, and the sub-command that ends it with the words behind it. -/
structure LevelEnd where
  words : Words
  command : Option (String × List String)
  /-- What is wrong with the last option in front of the sub-command. -/
  objection : Option UsageError

/-- The end of a level at a sub-command. -/
def Progress.endAt (p : Progress) (command : String × List String) : LevelEnd :=
  match p.held with
  | some (o, value) => ⟨p.words.push o value, some command, p.words.objection? o value⟩
  | none => ⟨p.words, some command, none⟩

/-- Reads a level. -/
def readLevel (l : Level) : List String → Progress → Except Interruption LevelEnd
  | [], p =>
    match p.pending with
    | some o => .error (.usage (.missingValue o.name))
    | none => do return ⟨← p.settled, none, none⟩
  | word :: rest, p =>
    if p.pending.isNone && !p.bare && l.commands.contains word then .ok (p.endAt (word, rest))
    else do readLevel l rest (← readWord l word p)

namespace Words

/-- The value of an option, if it is given. -/
def value? (w : Words) (name : String) : Option String :=
  w.options.lookup name

/-- The option is given. -/
def has (w : Words) (name : String) : Bool :=
  (w.value? name).isSome

/-- The values of an option, in order. -/
def values (w : Words) (name : String) : List String :=
  w.options.filterMap fun (n, value) ↦ if n == name then some value else none

/-- The value of an option that must be given. -/
def required (w : Words) (name : String) : Except UsageError String :=
  match w.value? name with
  | some value => .ok value
  | none => .error (.missingOption name)

/-- The value of an option, read by a function. -/
def parsed {α : Type} (w : Words) (name : String) (read : String → Option α) :
    Except UsageError (Option α) :=
  match w.value? name with
  | none => .ok none
  | some value =>
    match read value with
    | some a => .ok (some a)
    | none => .error (.malformedValue name)

/-- The natural number that an option gives. -/
def natural (w : Words) (name : String) : Except UsageError (Option Nat) :=
  w.parsed name (Text.Numeral.natOfBits? 64)

/-- The integer that an option gives. -/
def integer (w : Words) (name : String) : Except UsageError (Option Int) :=
  w.parsed name (Text.Numeral.intOfBits? 64)

/-- A date that must be given. -/
def date (w : Words) (name : String) : Except UsageError Date := do
  let value ← w.required name
  match Date.parse? value with
  | some d => .ok d
  | none => .error (.malformedValue name)

/-- The first operand. -/
def one (w : Words) : Except UsageError String :=
  match w.operands with
  | [] => .error .missingOperand
  | word :: _ => .ok word

/-- The first two operands. -/
def two (w : Words) : Except UsageError (String × String) :=
  match w.operands with
  | first :: second :: _ => .ok (first, second)
  | _ => .error .missingOperand

/-- The first operand and those behind it. -/
def oneOrMore (w : Words) : Except UsageError (String × List String) :=
  match w.operands with
  | [] => .error .missingOperand
  | word :: rest => .ok (word, rest)

end Words

end CloudControl.CommandLine
