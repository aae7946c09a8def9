import CloudControl.Client.Basic
import CloudControl.Options.Builder

/-!
# Operations

An operation is a command with named arguments: it says how each argument is written, which
options it takes besides, and how its result is read. Where an argument and an option are written
under one name, the argument wins, unless the operation says otherwise.
-/

namespace CloudControl

/-- An argument of an operation. -/
structure Slot where
  name : String
  encoding : Encoding
  /-- What stands in for the argument when it is not given. -/
  fallback : Option Argument

namespace Slot

/-- A text. -/
def text (name param : String) : Slot := ⟨name, .plain param, some (.text "")⟩

/-- A text that may be left out. -/
def optional (name param : String) : Slot := ⟨name, .plain param, none⟩

/-- A truth value. -/
def flag (name param : String) : Slot := ⟨name, .plain param, some (.flag false)⟩

/-- A truth value that is sent only when it is true. -/
def switch (name param : String) : Slot := ⟨name, .switch param, none⟩

/-- A number. -/
def number (name param : String) : Slot := ⟨name, .plain param, none⟩

/-- A date. -/
def date (name param : String) : Slot := ⟨name, .plain param, none⟩

/-- A text of an enumeration. -/
def choice (name : String) (enum : Schema.TextEnum) (param : String) : Slot :=
  ⟨name, .choice enum param, none⟩

/-- A code that is sent as its name. -/
def codeName (name : String) (enum : Schema.CodeEnum) (param : String) : Slot :=
  ⟨name, .codeName enum param, none⟩

/-- A list of texts. -/
def joined (name param : String) : Slot := ⟨name, .joined param, some (.texts [])⟩

/-- The parameters of the argument among named ones. -/
def write (s : Slot) (args : List (String × Argument)) : List Param :=
  match args.lookup s.name <|> s.fallback with
  | some arg => s.encoding.write arg
  | none => []

end Slot

/-- How the result of an operation is read. -/
inductive ResultShape where
  /-- The items of a list. -/
  | items (kind : Schema.Kind)
  /-- The first item, if there is one. -/
  | first (kind : Schema.Kind)
  /-- A field of the first item, if there is one. -/
  | firstField (kind : Schema.Kind) (field : String)
  /-- The first item, which must be there. -/
  | object (kind : Schema.Kind)
  /-- The name of a job. -/
  | job
  /-- Nothing. -/
  | done

/-- A command with named arguments. -/
structure Operation where
  name : String
  command : Command
  slots : List Slot := []
  /-- The options that it takes besides. -/
  options : Option Options.Builder := none
  /-- An option wins over an argument under the same name. -/
  optionsWin : Bool := false
  result : ResultShape

/-- The result of an operation. -/
inductive OperationResult where
  | items (values : List Schema.Value)
  | value (value : Option Schema.Value)
  | done

/-- The result as JSON. -/
def OperationResult.encode : OperationResult → Json
  | items values => .array (values.map Schema.Value.encode)
  | value v => (v.map Schema.Value.encode).getD .null
  | done => .null

namespace Operation

/-- The parameters of the arguments. -/
def arguments (o : Operation) (args : List (String × Argument)) : List Param :=
  o.slots.flatMap fun s ↦ s.write args

/-- The parameters of the arguments and the options. -/
def params (o : Operation) (args : List (String × Argument)) (options : Params) : Params :=
  if o.optionsWin then (Params.ofList (o.arguments args)).merge options
  else options.setAll (o.arguments args)

variable {σ : Type}

/-- Carries out an operation. -/
def run (link : Link σ) (c : Client) (o : Operation) (args : List (String × Argument))
    (options : Params) : Action σ OperationResult := do
  let params := o.params args options
  match o.result with
  | .items k => return .items (← c.list link o.command k.decode params)
  | .first k => return .value (← c.find link o.command k.decode params)
  | .firstField k field =>
    let found ← c.find link o.command k.decode params
    return .value (found.bind fun v ↦ v.fields.lookup field)
  | .object k => return .value (some (← c.object link o.command k.decode params))
  | .job => return .value (some (← c.start link o.command params))
  | .done =>
    c.unit link o.command params
    return .done

end Operation

end CloudControl
