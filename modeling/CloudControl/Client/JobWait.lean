import CloudControl.Client.Basic

/-!
# Waiting for jobs

A job is asked for again and again until it is finished, or until the next pause would go beyond
the time that the caller is willing to wait. `judge` says what follows from one answer, and
`pollJob` repeats it for a number of times that the caller sets; with an interval of more than
nothing, `JobWait.maxPolls` is enough. The end of the next pause is a length of time itself, and
where it is too long for one the program stops.
-/

namespace CloudControl

/-- How to wait for a job: two lengths of time. -/
structure JobWait where
  interval : Nat
  timeout : Nat
  interval_le : interval ≤ Span.longest := by decide
  timeout_le : timeout ≤ Span.longest := by decide
  deriving DecidableEq

namespace JobWait

/-- The wait with two lengths of time, or with the longest in place of one that is longer. -/
def ofNanos (interval timeout : Nat) : JobWait where
  interval := min interval Span.longest
  timeout := min timeout Span.longest
  interval_le := Nat.min_le_right _ _
  timeout_le := Nat.min_le_right _ _

/-- The number of answers after which the time is over, if each pause lasts as long as it should. -/
def maxPolls (w : JobWait) : Nat :=
  w.timeout / w.interval + 1

end JobWait

/-- A clock of nanoseconds that can be waited on. -/
structure Clock (σ : Type) where
  reading : σ → Nat
  sleep : Nat → σ → σ

/-- What follows from one answer about a job. -/
inductive PollVerdict where
  | finished (result : Except ClientError Job)
  | pending

/-- Judges an answer about a job that has been waited for. -/
def judge (id : String) (wait : JobWait) (elapsed : Nat)
    (answer : Except ClientError (Option Job)) : PollVerdict :=
  match answer with
  | .error e => .finished (.error e)
  | .ok none => .finished (.error (.jobNotFound id))
  | .ok (some job) =>
    match job.status with
    | .unknown code =>
      .finished (.error (.unexpectedReply Command.queryAsyncJobResult.name
        (.unknownJobStatus id code)))
    | .failed => .finished (.error (.jobFailed id (job.error?.getD ⟨none, none⟩)))
    | .succeeded => .finished (.ok job)
    | .pending =>
      match Span.add? elapsed wait.interval with
      | none => .finished (.error (.stopped .length))
      | some paused =>
        if wait.timeout < paused then .finished (.error (.jobTimeout id elapsed)) else .pending

namespace Client

variable {σ : Type}

/-- The parameters that ask for a job. -/
def jobParams (id : String) : Params :=
  Params.ofList [("jobid", id)]

/-- A job as it is now; none when the server does not know it. -/
def getJob (link : Link σ) (c : Client) (id : String) : Action σ (Option Job) := do
  let v? ← c.find link .queryAsyncJobResult Schema.Kind.asyncJob.decode (jobParams id)
  return v?.map fun v ↦ ⟨v.fields⟩

/-- Asks for a job at most `polls` times, until there is nothing more to wait for. -/
def pollJob (link : Link σ) (clock : Clock σ) (c : Client) (id : String) (wait : JobWait)
    (started : Nat) : Nat → σ → Option (Except ClientError Job) × σ
  | 0, s => (none, s)
  | polls + 1, s =>
    let (answer, s) := (c.getJob link id).outcome s
    match judge id wait (clock.reading s - started) answer with
    | .finished result => (some result, s)
    | .pending => pollJob link clock c id wait started polls (clock.sleep wait.interval s)

/-- Waits for a job, asking for it at most `polls` times. -/
def waitForJob (link : Link σ) (clock : Clock σ) (c : Client) (id : String) (wait : JobWait)
    (polls : Nat) : Action σ Job :=
  Action.ofFunction fun s ↦
    let started := clock.reading s
    match pollJob link clock c id wait started polls s with
    | (some result, s) => (result, s)
    | (none, s) => (.error (.jobTimeout id (clock.reading s - started)), s)

/-- What a job that has succeeded produced. -/
def jobResult (id : String) (k : Schema.Kind) (job : Job) : Except ClientError Schema.Value :=
  let command := Command.queryAsyncJobResult.name
  match job.result k with
  | .ok (some v) => .ok v
  | .ok none => .error (.unexpectedReply command (.noJobResult id))
  | .error e => .error (.decode command (.decode e))

/-- Waits for a job and reads what it produced. -/
def waitForResult (link : Link σ) (clock : Clock σ) (c : Client) (id : String) (wait : JobWait)
    (polls : Nat) (k : Schema.Kind) : Action σ Schema.Value := do
  lift (jobResult id k (← c.waitForJob link clock id wait polls))

end Client

end CloudControl
