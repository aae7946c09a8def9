import CloudControl.Catalog.Groups
import CloudControl.Json.Reader
import CloudControl.Text.Search

/-!
# Fixtures

A simulated server answers from files. A file is named after a command in any letter case and
holds the reply to it, with or without the object that replies are wrapped in. The file of jobs
holds an array of jobs. Files of other endings, and files that are not JSON, are passed over.
-/

namespace CloudControl.Simulator

/-- Why fixtures cannot be used. -/
inductive FixtureError where
  | jobsNotArray
  | jobWithoutId
  deriving DecidableEq

/-- The wording of an error. -/
def FixtureError.message : FixtureError → String
  | jobsNotArray => "expected an array of jobs"
  | jobWithoutId => "job without a jobid"

/-- What a simulated server answers from. -/
structure Fixtures where
  /-- The replies, by the name of the command in small letters. -/
  replies : List (String × Json)
  /-- The finished jobs, by their identifiers. -/
  jobs : List (String × Json)
  deriving Inhabited

/-- The name in front of the ending of a file of JSON. -/
def stem? (fileName : String) : Option String :=
  let ending := ".json".toList
  let name := fileName.toList
  if ending.isSuffixOf name && ending.length < name.length then
    some (String.ofList (name.take (name.length - ending.length)))
  else none

/-- Takes a reply out of the object that it is wrapped in, if it is. -/
def unwrapFixture (command : String) (value : Json) : Json :=
  match value with
  | .object members =>
    match members.lookup (command ++ "response") with
    | some inner => inner
    | none =>
      match members with
      | [(key, inner)] => if Text.endsIn key "response" then inner else value
      | _ => value
  | _ => value

/-- A job with its identifier. -/
def identifyJob (job : Json) : Except FixtureError (String × Json) :=
  match (job.get? "jobid").bind Json.string? with
  | some id => .ok (id, job)
  | none => .error .jobWithoutId

/-- The jobs of a file, by their identifiers. -/
def loadJobs (value : Json) : Except FixtureError (List (String × Json)) :=
  match value with
  | .array jobs => (jobs.mapM identifyJob).map Json.sortMembers
  | _ => .error .jobsNotArray

namespace Fixtures

/-- The name of the file of jobs. -/
def jobsStem : String := "jobs"

/-- No fixtures. -/
def empty : Fixtures := ⟨[], []⟩

/-- Adds the file of a name and a text. -/
def addFile (f : Fixtures) (file : String × String) : Except FixtureError Fixtures :=
  match (stem? file.1).map Text.lowercase, Json.parse? file.2 with
  | some name, some value =>
    if name = jobsStem then do
      .ok { f with jobs := ← loadJobs value }
    else
      .ok { f with replies := Json.insertMember name (unwrapFixture name value) f.replies }
  | _, _ => .ok f

/-- The fixtures of files. -/
def load (files : List (String × String)) : Except FixtureError Fixtures :=
  files.foldlM addFile empty

/-- The commands with a reply. -/
def commands (f : Fixtures) : List String :=
  f.replies.map (·.1)

/-- The reply to a command. -/
def reply? (f : Fixtures) (command : String) : Option Json :=
  f.replies.lookup command

end Fixtures

/-- The command lists items. -/
def isListing (command : String) : Bool :=
  "list".toList.isPrefixOf command.toList

/-- The first array among members. -/
def firstArray? : List (String × Json) → Option (String × List Json)
  | [] => none
  | (key, .array items) :: _ => some (key, items)
  | _ :: rest => firstArray? rest

/-- The items of the reply to a command, with the name of the member that holds them: the member
that the catalogue knows for the command, or else the first array. -/
def listItems? (command : String) (reply : Json) : Option (String × List Json) := do
  let members ← reply.object?
  let selected := (Catalog.lookup? command).bind Command.select
  match selected.bind fun key ↦ (members.lookup key).bind fun v ↦ v.array?.map (key, ·) with
  | some found => some found
  | none => firstArray? members

/-- The identifier of an item. -/
def itemId? (item : Json) : Option String :=
  (item.get? "id").bind Json.string?

/-- The identifiers of the items that the reply to a listing command holds. -/
def replyIds (reply : String × Json) : List String :=
  if isListing reply.1 then
    match listItems? reply.1 reply.2 with
    | some (_, items) => items.filterMap itemId?
    | none => []
  else []

/-- The identifiers of every entity that a listing command shows. -/
def Fixtures.entityIds (f : Fixtures) : List String :=
  f.replies.flatMap replyIds

end CloudControl.Simulator
