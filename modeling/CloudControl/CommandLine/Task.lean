import CloudControl.Client.JobWait
import CloudControl.CommandLine.Report
import CloudControl.Json.Printer
import CloudControl.Operations.Administration

/-!
# Tasks

A task is what a command line asks of the server, and how the answer is shown: as text, or as
JSON. What was printed before an error stays printed.
-/

namespace CloudControl.CommandLine

open Schema

/-- Why a task could not be carried out. -/
inductive TaskError where
  | client (cause : ClientError)
  | notFound (noun id : String)
  /-- A period ends before it starts. -/
  | endBeforeStart
  | generationFailed (reason : Option String)
  /-- A parameter has no equals sign. -/
  | malformedPair (pair : String)
  /-- A parameter has no name. -/
  | emptyName (pair : String)

/-- The wording of an error. -/
def TaskError.message : TaskError → String
  | client cause => cause.message
  | notFound noun id => noun ++ " " ++ id ++ " not found"
  | endBeforeStart => "--end must not be before --start"
  | generationFailed reason => "Usage generation failed: " ++ reason.getD "no reason given"
  | malformedPair pair => "Expected KEY=VALUE, got '" ++ pair ++ "'"
  | emptyName pair => "Empty parameter name in '" ++ pair ++ "'"

/-- An operation with its arguments and options. -/
structure Call where
  operation : Operation
  args : List (String × Argument) := []
  options : Params := ∅

/-- What is asked of the server. -/
inductive Task where
  /-- Shows the entities that a call returns. -/
  | list (call : Call) (columns : List Column)
  /-- Shows the entities of every page. -/
  | pages (call : Call) (kind : Kind) (pageSize : Nat) (columns : List Column)
  /-- Shows the entity that a call returns. -/
  | entity (call : Call) (noun id : String) (lines : Record → List String)
  /-- Starts a job; if it is waited for, shows what it produced. -/
  | job (call : Call) (wait : Option JobWait) (announcement? : Record → Option String)
      (kind : Kind) (sentence : Record → String)
  /-- Starts a job that produces nothing; if it is waited for, says that it is done. -/
  | chore (call : Call) (wait : Option JobWait) (sentence : String)
  /-- Makes a call that returns nothing, and says that it is done. -/
  | order (call : Call) (sentence : String)
  /-- Generates usage records for a period. -/
  | generateUsage (first last : Date)
  /-- Waits for a job, and shows it. -/
  | awaitJob (id : String) (wait : JobWait)
  /-- Sends any command, and shows the reply as JSON. -/
  | raw (command : String) (params : Params)
  /-- Does nothing, because the arguments do not make sense. -/
  | refuse (error : TaskError)

/-- The state of a server's link, and the lines printed so far. -/
structure Console (σ : Type) where
  server : σ
  printed : List String

/-- A computation of a task. -/
abbrev Session (σ α : Type) := ExceptT TaskError (StateM (Console σ)) α

/-- A client with what carries its requests. -/
structure Connection (σ : Type) where
  link : Link σ
  clock : Clock σ
  client : Client

namespace Session

variable {σ α : Type}

/-- Prints a line. -/
def print (line : String) : Session σ Unit :=
  modify fun c ↦ { c with printed := c.printed ++ [line] }

/-- Prints lines. -/
def printAll (lines : List String) : Session σ Unit :=
  modify fun c ↦ { c with printed := c.printed ++ lines }

/-- Prints a JSON value. -/
def printJson (j : Json) : Session σ Unit :=
  print j.pretty

/-- Makes requests. -/
def ask (a : Action σ α) : Session σ α :=
  ExceptT.mk fun c ↦
    match a.outcome c.server with
    | (.ok v, s) => (.ok v, { c with server := s })
    | (.error e, s) => (.error (.client e), { c with server := s })

/-- Makes the requests of a call. -/
def call (cn : Connection σ) (k : Call) : Session σ OperationResult :=
  ask (k.operation.run cn.link cn.client k.args k.options)

/-- Makes the requests of a call for one value. -/
def callValue? (cn : Connection σ) (k : Call) : Session σ (Option Value) := do
  match ← call cn k with
  | .value v => return v
  | _ => return none

/-- Makes the requests of a call for values. -/
def callItems (cn : Connection σ) (k : Call) : Session σ (List Value) := do
  match ← call cn k with
  | .items vs => return vs
  | _ => return []

/-- Shows entities. -/
def showAll (json : Bool) (columns : List Column) (values : List Value) : Session σ Unit :=
  if json then printJson (.array (values.map Value.encode))
  else print (entityTable columns (values.map Value.fields))

/-- Shows an entity. -/
def showOne (json : Bool) (lines : Record → List String) (v : Value) : Session σ Unit :=
  if json then printJson v.encode else printAll (lines v.fields)

/-- The identifier of the job that a reply names. -/
def jobId (started : Value) : String :=
  (started.fields.text? "jobid").getD ""

/-- Says that a job has been started. -/
def showStarted (json : Bool) (started : Value) : Session σ Unit :=
  if json then printJson started.encode else print ("Started job " ++ jobId started)

/-- Starts a job; the reply names it. -/
def startJob (cn : Connection σ) (k : Call) : Session σ Value := do
  return (← callValue? cn k).getD (.record [])

end Session

namespace Task

open Session

variable {σ : Type}

/-- Carries out a task. -/
def perform (cn : Connection σ) (json : Bool) : Task → Session σ Unit
  | list k columns => do showAll json columns (← callItems cn k)
  | pages k kind pageSize columns => do
    let values ← ask (cn.client.listAll cn.link k.operation.command kind k.options pageSize)
    showAll json columns values
  | entity k noun id lines => do
    match ← callValue? cn k with
    | some v => showOne json lines v
    | none => throw (.notFound noun id)
  | job k wait announcement? kind sentence => do
    let started ← startJob cn k
    if !json then printAll (announcement? started.fields).toList
    match wait with
    | none => showStarted json started
    | some w =>
      let v ← ask (cn.client.waitForResult cn.link cn.clock (jobId started) w w.maxPolls kind)
      showOne json (fun r ↦ [sentence r]) v
  | chore k wait sentence => do
    let started ← startJob cn k
    match wait with
    | none => showStarted json started
    | some w =>
      let _ ← ask (cn.client.waitForJob cn.link cn.clock (jobId started) w w.maxPolls)
      if !json then print sentence
  | order k sentence => do
    let _ ← call cn k
    print sentence
  | generateUsage first last => do
    let period := [("start", .date first), ("end", .date last)]
    let reply := (← callValue? cn { operation := .generateUsageRecords, args := period }).getD
      (.record [])
    if json then printJson reply.encode
    else if reply.fields.flag? "success" = some false then
      throw (.generationFailed (reply.fields.text? "displaytext"))
    else print ("Generated usage records from " ++ first.text ++ " to " ++ last.text)
  | awaitJob id wait => do
    let job ← ask (cn.client.waitForJob cn.link cn.clock id wait wait.maxPolls)
    showOne json jobLines (.record job.fields)
  | raw command params => do
    printJson (← ask (cn.client.sendRaw cn.link command params))
  | refuse e => throw e

end Task

end CloudControl.CommandLine
