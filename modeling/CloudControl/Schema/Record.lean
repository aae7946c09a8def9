import CloudControl.Schema.Decode
import CloudControl.Text.Blank

/-!
# Views of records

Reads single fields out of a record, and answers the questions about machines, volumes, rules,
limits, networks and replies that need more than one field or a default.
-/

namespace CloudControl.Schema

namespace Value

/-- The text of a field. -/
def text? : Value → Option String
  | text s => s
  | _ => none

/-- The truth value of a field. -/
def flag? : Value → Option Bool
  | flag b => b
  | _ => none

/-- The whole number of a field. -/
def whole? : Value → Option Int
  | whole i => i
  | _ => none

/-- The floating-point number of a field. -/
def decimal? : Value → Option Binary64
  | decimal x => x
  | _ => none

/-- The time of a field. -/
def time? : Value → Option Timestamp
  | time t => t
  | _ => none

/-- The code of a field. -/
def code? : Value → Option Int
  | code n => n
  | _ => none

/-- The JSON value of a field. -/
def raw? : Value → Option Json
  | raw j => j
  | _ => none

/-- The items of a list; other fields have none. -/
def items : Value → List Value
  | list vs => vs
  | _ => []

/-- The fields of a record; other values have none. -/
def fields : Value → Record
  | record r => r
  | _ => []

end Value

namespace Record

/-- The text of the field with a name. -/
def text? (r : Record) (name : String) : Option String :=
  (r.lookup name).bind Value.text?

/-- The truth value of the field with a name. -/
def flag? (r : Record) (name : String) : Option Bool :=
  (r.lookup name).bind Value.flag?

/-- The whole number of the field with a name. -/
def whole? (r : Record) (name : String) : Option Int :=
  (r.lookup name).bind Value.whole?

/-- The floating-point number of the field with a name. -/
def decimal? (r : Record) (name : String) : Option Binary64 :=
  (r.lookup name).bind Value.decimal?

/-- The time of the field with a name. -/
def time? (r : Record) (name : String) : Option Timestamp :=
  (r.lookup name).bind Value.time?

/-- The code of the field with a name. -/
def code? (r : Record) (name : String) : Option Int :=
  (r.lookup name).bind Value.code?

/-- The JSON value of the field with a name. -/
def raw? (r : Record) (name : String) : Option Json :=
  (r.lookup name).bind Value.raw?

/-- The items of the list with a name. -/
def items (r : Record) (name : String) : List Value :=
  ((r.lookup name).map Value.items).getD []

/-- The records of the list with a name. -/
def records (r : Record) (name : String) : List Record :=
  (r.items name).map Value.fields

/-- The record as JSON. -/
def encode (r : Record) : Json :=
  (Value.record r).encode

/-- The interface of a machine that carries its traffic: the default one, or else the first. -/
def primaryInterface? (machine : Record) : Option Record :=
  let interfaces := machine.records "nic"
  interfaces.find? (fun i ↦ i.flag? "isdefault" == some true) <|> interfaces.head?

/-- The address of a machine. -/
def primaryAddress? (machine : Record) : Option String :=
  machine.primaryInterface?.bind (·.text? "ipaddress")

/-- A machine uses the volume. -/
def isAttached (volume : Record) : Bool :=
  (volume.text? "virtualmachineid").isSome

/-- The networks of a rule. -/
def cidrs (rule : Record) : List String :=
  ((rule.text? "cidrlist").map splitCidrs).getD []
where
  /-- The networks in a text that separates them by commas. -/
  splitCidrs (list : String) : List String :=
    ((list.toList.splitOn ',').map Text.trimList).filterMap fun c ↦
      if c.isEmpty then none else some (String.ofList c)

/-- The limit lets any number of resources through. -/
def isUnlimited (limit : Record) : Bool :=
  match limit.whole? "max" with
  | some max => max == -1
  | none => true

/-- The reply reports success, which it does unless it says otherwise. -/
def isSuccess (reply : Record) : Bool :=
  (reply.flag? "success").getD true

/-- The service of a network with a name, in any letter case. -/
def service? (network : Record) (name : String) : Option Record :=
  (network.records "service").find? fun s ↦ Text.eqFolded ((s.text? "name").getD "") name

end Record

end CloudControl.Schema
