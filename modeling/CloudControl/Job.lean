import CloudControl.Schema.Jobs
import CloudControl.Schema.Record

/-!
# Jobs in progress

A command that takes long is answered with the identifier of a job, which is then asked for
until it is finished. `Job.status` reads how far a job is, `Job.result` what it produced, and
`Job.error?` why it failed.
-/

namespace CloudControl

open Schema

/-- How far a job is. -/
inductive JobStatus where
  | pending
  | succeeded
  | failed
  | unknown (code : Int)
  deriving DecidableEq

namespace JobStatus

/-- The status of a code. -/
def ofCode (code : Int) : JobStatus :=
  if code = 0 then pending
  else if code = 1 then succeeded
  else if code = 2 then failed
  else unknown code

/-- The code of a status. -/
def code : JobStatus → Int
  | pending => 0
  | succeeded => 1
  | failed => 2
  | unknown code => code

/-- The name of a status. -/
def name (s : JobStatus) : String :=
  CodeEnum.asyncJobStatus.nameOf s.code

/-- A job of the status is finished. -/
def isDone : JobStatus → Bool
  | succeeded => true
  | failed => true
  | _ => false

end JobStatus

/-- Why a job failed. -/
structure JobError where
  code : Option Int
  text : Option String
  deriving DecidableEq

namespace JobError

/-- The error that a record describes. -/
def ofRecord (r : Record) : JobError :=
  ⟨r.whole? "errorcode", r.text? "errortext"⟩

/-- The wording of an error. -/
def message : JobError → String
  | ⟨some code, some text⟩ => text ++ " (error " ++ Text.Numeral.ofInt code ++ ")"
  | ⟨none, some text⟩ => text
  | ⟨some code, none⟩ => "error " ++ Text.Numeral.ofInt code
  | ⟨none, none⟩ => "unknown error"

/-- The error as JSON. -/
def encode (e : JobError) : Json :=
  .object [("errorcode", (e.code.map Json.ofInt).getD .null), ("errortext", Json.ofString? e.text)]

end JobError

/-- A job, as the server describes it. -/
structure Job where
  fields : Record

namespace Job

/-- Reads a job. -/
def decode (j : Json) : Except DecodeError Job :=
  (Kind.asyncJob.decodeRecord j).map Job.mk

/-- The identifier of a job. -/
def id (job : Job) : String :=
  (job.fields.text? "jobid").getD ""

/-- How far a job is; a job that does not say is pending. -/
def status (job : Job) : JobStatus :=
  match job.fields.code? "jobstatus" with
  | some code => JobStatus.ofCode code
  | none => .pending

/-- The job is finished. -/
def isDone (job : Job) : Bool :=
  job.status.isDone

/-- Takes the only member of an object, if it is an array or an object itself. -/
def unwrap (result : Json) : Json :=
  match result with
  | .object [(_, inner)] => if inner.isContainer then inner else result
  | _ => result

/-- What a job produced, read as a kind. -/
def result (job : Job) (k : Kind) : Except DecodeError (Option Value) :=
  match job.fields.raw? "jobresult" with
  | some raw => (k.decode (unwrap raw)).map some
  | none => .ok none

/-- The error that the result of a job describes, as far as it can be read. -/
def describedError (job : Job) : JobError :=
  match (job.fields.raw? "jobresult").map Kind.asyncJobError.decodeRecord with
  | some (.ok r) => JobError.ofRecord r
  | _ => ⟨none, none⟩

/-- Why a job failed; the code of the result stands in for one that the error leaves out. -/
def error? (job : Job) : Option JobError :=
  if job.status = .failed then
    let e := job.describedError
    some ⟨e.code <|> job.fields.whole? "jobresultcode", e.text⟩
  else none

end Job

end CloudControl
