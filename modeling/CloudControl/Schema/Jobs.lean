import CloudControl.Schema.CodeEnums
import CloudControl.Schema.TextEnums

/-!
# Jobs

Replies that report success, and jobs that run after their command has been answered.
-/

namespace CloudControl.Schema

namespace Kind

/-- The reply to a command that only succeeds or fails. -/
def successResponse : Kind :=
  .record "SuccessResponse" [
    ("success", .scalar .flag), ("displaytext", .optionalText)]

/-- The reply to a command that runs as a job. -/
def asyncCreateResponse : Kind :=
  .record "AsyncCreateResponse" [
    ("id", .optionalText), ("jobid", .text)]

/-- The error of a failed job. -/
def asyncJobError : Kind :=
  .record "AsyncJobError" [
    ("errorcode", .scalar (.signed 32)), ("errortext", .optionalText)]

/-- A job, with its result once it is finished. -/
def asyncJob : Kind :=
  .record "AsyncJob" [
    ("jobid", .text), ("accountid", .optionalText), ("userid", .optionalText),
    ("cmd", .optionalText), ("jobstatus", .optionalCode .asyncJobStatus),
    ("jobprocstatus", .scalar (.signed 32)), ("jobresultcode", .scalar (.signed 32)),
    ("jobresulttype", .optionalText), ("jobresult", .raw), ("jobinstancetype", .optionalText),
    ("jobinstanceid", .optionalText), ("created", .time)]

end Kind

end CloudControl.Schema
