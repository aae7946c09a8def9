import CloudControl.Params
import CloudControl.Text.Lowercase

/-!
# Commands

A command says how one request to the management server is made: the name it is sent under, the
verb, the member of the reply that holds the result, the parameters that are always sent, and
what stands in for the result when the server reports an error.
-/

namespace CloudControl

/-- How the parameters of a request travel. -/
inductive Verb where
  /-- In the query of the address. -/
  | get
  /-- In the body. -/
  | post
  deriving DecidableEq

/-- The name of a verb. -/
def Verb.name : Verb → String
  | get => "GET"
  | post => "POST"

/-- What stands in for a result when the server reports an error. -/
inductive Fallback where
  /-- Nothing does. -/
  | propagate
  /-- No items, when the server does not know what was asked for. -/
  | emptyWhenNotFound
  /-- No value, when the server does not know what was asked for. -/
  | noneWhenNotFound
  /-- Success, when the server does not know what was asked for. -/
  | unitWhenNotFound
  /-- No value, when the server does not know what was asked for, refuses to tell, or fails. -/
  | noneWhenUnavailable
  deriving DecidableEq

/-- How one request is made. -/
structure Command where
  name : String
  verb : Verb
  /-- The member of the reply that holds the result; the whole reply when there is none. -/
  select : Option String
  fallback : Fallback
  /-- The reply names a job. -/
  isJob : Bool
  /-- Parameters that are sent unless the caller sets them. -/
  fixed : List Param
  deriving DecidableEq

/-- Commands that belong together. -/
structure CommandGroup where
  name : String
  commands : List Command
  deriving DecidableEq

/-- The name of the member that a reply is wrapped in. -/
def responseKey (command : String) : String :=
  Text.lowercase command ++ "response"

namespace Command

/-- The parameter that names the command. -/
def commandParam : String := "command"

/-- The parameter that names the format of the reply. -/
def responseParam : String := "response"

/-- The format of every reply. -/
def responseFormat : String := "json"

/-- A request whose whole reply is the result. -/
def get (name : String) : Command := ⟨name, .get, none, .propagate, false, []⟩

/-- A request with a body, whose whole reply is the result. -/
def post (name : String) : Command := { get name with verb := .post }

/-- A request with its result under a member of the reply. -/
def answers (name key : String) : Command := { get name with select := some key }

/-- A request with a body, with its result under a member of the reply. -/
def postsTo (name key : String) : Command := { post name with select := some key }

/-- A request that lists items. -/
def lists (name key : String) : Command :=
  { answers name key with fallback := .emptyWhenNotFound }

/-- A request that looks up one item. -/
def finds (name key : String) : Command :=
  { answers name key with fallback := .noneWhenNotFound }

/-- Sends the parameter that asks for the items of every account. -/
def inAll (c : Command) : Command := { c with fixed := [("listall", "true")] }

/-- A request that lists the items of every account. -/
def listsAll (name key : String) : Command := (lists name key).inAll

/-- A request that looks up one item of any account. -/
def findsInAll (name key : String) : Command := (finds name key).inAll

/-- A request that starts a job. -/
def starts (name : String) : Command := { get name with isJob := true }

/-- A request with a body that starts a job. -/
def startsByPost (name : String) : Command := { post name with isJob := true }

/-- A request that removes something; it may be gone already. -/
def removes (name : String) : Command := { get name with fallback := .unitWhenNotFound }

/-- Sends the parameter that selects the templates a machine can start from. -/
def withTemplateFilter (c : Command) : Command :=
  { c with fixed := [("templatefilter", "executable")] }

/-- The name of the member that the reply to a command is wrapped in. -/
def responseKey (c : Command) : String :=
  CloudControl.responseKey c.name

/-- The parameters that are always sent. -/
def baseParams (c : Command) : Params :=
  (Params.ofList [(commandParam, c.name), (responseParam, responseFormat)]).setAll c.fixed

end Command

end CloudControl
