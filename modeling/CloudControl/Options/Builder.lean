import CloudControl.Argument

/-!
# Building options

The optional parameters of a command are set one after the other. Each setter has a name and an
encoding, which says what parameters its argument becomes.
-/

namespace CloudControl

namespace Params

/-- Selects a page of results. -/
def withPage (p : Params) (page pageSize : Nat) : Params :=
  (p.set "page" (Text.Numeral.ofNat page)).set "pagesize" (Text.Numeral.ofNat pageSize)

end Params

namespace Options

/-- A setter with its name. -/
structure Setter where
  name : String
  encoding : Encoding
  deriving DecidableEq

namespace Setter

/-- Sets the parameters of an argument. -/
def apply (s : Setter) (arg : Argument) (p : Params) : Params :=
  p.setAll (s.encoding.write arg)

/-- Setters of single values. -/
def plain (setters : List (String × String)) : List Setter :=
  setters.map fun (name, param) ↦ ⟨name, .plain param⟩

/-- The setter of a list of texts. -/
def joined (name param : String) : Setter := ⟨name, .joined param⟩

/-- The setters of a command that lists its results in pages. -/
def paging : List Setter :=
  plain [("page", "page"), ("pageSize", "pagesize"), ("keyword", "keyword")] ++
    [⟨"withPage", .two "page" "pagesize"⟩]

/-- Names an account together with its domain. -/
def accountInDomain : Setter := ⟨"accountInDomain", .two "account" "domainid"⟩

/-- Names tags by key and value. -/
def tags : Setter := ⟨"tags", .indexed "tags" "key" "value"⟩

end Setter

/-- The setters of a command. -/
structure Builder where
  name : String
  setters : List Setter
  deriving DecidableEq

namespace Builder

/-- The setter with a name. -/
def setter? (b : Builder) (name : String) : Option Setter :=
  b.setters.find? (·.name == name)

/-- Sets the parameters of one call; a setter that the command does not have sets nothing. -/
def call (b : Builder) (name : String) (arg : Argument) (p : Params) : Params :=
  match b.setter? name with
  | some s => s.apply arg p
  | none => p

end Builder

end Options

end CloudControl
