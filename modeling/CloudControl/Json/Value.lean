import CloudControl.Number.Binary64
import CloudControl.Text.Numeral

/-!
# JSON values

Whole numbers within 64 bits are kept apart from floating-point numbers. An object is a list
of members; the reader and `ofMembers` list them in the order of their names, each name once.
-/

namespace CloudControl

/-- A number: whole, or floating-point. -/
inductive JsonNumber where
  | int (i : Int)
  | float (x : Binary64)
  deriving DecidableEq

/-- A JSON value. -/
inductive Json where
  | null
  | bool (b : Bool)
  | number (n : JsonNumber)
  | string (s : String)
  | array (items : List Json)
  | object (members : List (String × Json))
  deriving Inhabited

namespace JsonNumber

/-- The whole number, if it fits two's complement of `bits` bits. -/
def toIntOfBits? (bits : Nat) : JsonNumber → Option Int
  | int i =>
    if Text.Numeral.minSigned bits ≤ i ∧ i ≤ Text.Numeral.maxSigned bits then some i else none
  | float _ => none

/-- The whole number, if it is not negative. -/
def toNat? : JsonNumber → Option Nat
  | int i => if 0 ≤ i then some i.toNat else none
  | float _ => none

/-- The number as a floating-point number. -/
def toBinary64 : JsonNumber → Binary64
  | int i => Binary64.ofInt i
  | float x => x

end JsonNumber

namespace Json

/-- A whole number. -/
def ofInt (i : Int) : Json := number (.int i)

/-- A natural number. -/
def ofNat (n : Nat) : Json := number (.int n)

/-- A floating-point number; one that is not finite has no number in JSON. -/
def ofBinary64 (x : Binary64) : Json :=
  if x.isFinite then number (.float x) else null

/-- A text, or null. -/
def ofString? : Option String → Json
  | some s => string s
  | none => null

/-- The text of a string. -/
def string? : Json → Option String
  | string s => some s
  | _ => none

/-- The items of an array. -/
def array? : Json → Option (List Json)
  | array items => some items
  | _ => none

/-- The members of an object. -/
def object? : Json → Option (List (String × Json))
  | object members => some members
  | _ => none

/-- The value is null. -/
def isNull : Json → Bool
  | null => true
  | _ => false

/-- The value is an array or an object. -/
def isContainer : Json → Bool
  | array _ => true
  | object _ => true
  | _ => false

/-- The value of the member of an object with a name. -/
def get? (name : String) : Json → Option Json
  | object members => members.lookup name
  | _ => none

/-- Sets a member in a list of members in the order of their names. -/
def insertMember {α : Type} (name : String) (value : α) : List (String × α) → List (String × α)
  | [] => [(name, value)]
  | (n, v) :: rest =>
    if name < n then (name, value) :: (n, v) :: rest
    else if name = n then (name, value) :: rest
    else (n, v) :: insertMember name value rest

/-- Puts members in the order of their names; of members of one name the last one counts. -/
def sortMembers {α : Type} (members : List (String × α)) : List (String × α) :=
  members.foldl (fun sorted m ↦ insertMember m.1 m.2 sorted) []

/-- The object of some members, in the order of their names. -/
def ofMembers (members : List (String × Json)) : Json :=
  object (sortMembers members)

/-- Sets a member of an object. -/
def set (name : String) (value : Json) : Json → Json
  | object members => object (insertMember name value members)
  | other => other

/-! ## Equality -/

mutual

/-- Whether two values are equal. -/
def decEq : (a b : Json) → Decidable (a = b)
  | null, null => isTrue rfl
  | bool a, bool b => decidable_of_iff (a = b) (by simp)
  | number a, number b => decidable_of_iff (a = b) (by simp)
  | string a, string b => decidable_of_iff (a = b) (by simp)
  | array a, array b => @decidable_of_iff _ (a = b) (by simp) (decEqItems a b)
  | object a, object b => @decidable_of_iff _ (a = b) (by simp) (decEqMembers a b)
  | null, bool _ | null, number _ | null, string _ | null, array _ | null, object _
  | bool _, null | bool _, number _ | bool _, string _ | bool _, array _ | bool _, object _
  | number _, null | number _, bool _ | number _, string _ | number _, array _
  | number _, object _ | string _, null | string _, bool _ | string _, number _
  | string _, array _ | string _, object _ | array _, null | array _, bool _
  | array _, number _ | array _, string _ | array _, object _ | object _, null
  | object _, bool _ | object _, number _ | object _, string _ | object _, array _ =>
    isFalse nofun

/-- Whether two lists of items are equal. -/
def decEqItems : (a b : List Json) → Decidable (a = b)
  | [], [] => isTrue rfl
  | [], _ :: _ => isFalse nofun
  | _ :: _, [] => isFalse nofun
  | v :: rest, w :: others =>
    @decidable_of_iff _ (v = w ∧ rest = others) (by simp)
      (@instDecidableAnd _ _ (decEq v w) (decEqItems rest others))

/-- Whether two lists of members are equal. -/
def decEqMembers : (a b : List (String × Json)) → Decidable (a = b)
  | [], [] => isTrue rfl
  | [], _ :: _ => isFalse nofun
  | _ :: _, [] => isFalse nofun
  | (name, v) :: rest, (other, w) :: others =>
    @decidable_of_iff _ (name = other ∧ v = w ∧ rest = others) (by simp [and_assoc])
      (@instDecidableAnd _ _ _ (@instDecidableAnd _ _ (decEq v w) (decEqMembers rest others)))

end

instance : DecidableEq Json := decEq

end Json

end CloudControl
