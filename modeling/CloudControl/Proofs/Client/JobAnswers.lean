import CloudControl.Proofs.Client.JobWait

/-!
# What an answer says about a job

A client that waits for a job asks again just if it has been told of a pending job and there is time
for another pause (`Client.GoesOn`). Every other answer ends the wait, and `Client.Concludes` says
with what: there is a case for every answer that a server can give, and for the lack of one. A
pending job ends it in one of two ways: the next pause would go beyond the time that the client is
willing to wait, or its end is even more than a length of time can be, so that the program stops
(`Client.Overruns`).

`Client.exists_concludes` leaves no answer out, and `Client.judge_of_goesOn` and
`Client.judge_of_concludes` show that an answer is judged so. The status of a job is the one that
its reply spells out, whichever way it does (`Job.HasStatus`).
-/

namespace CloudControl

open Schema

/-! ## The status of a job -/

/-- Only null is null. -/
theorem Json.isNull_iff {j : Json} : j.isNull = true ↔ j = .null := by
  cases j <;> simp [isNull]

namespace Job

/-- What stands for the status in the description of a job: the member of its name, or, where the
description is an array, the element at its position. -/
def statusIn? : Json → Option Json
  | .object members => members.lookup "jobstatus"
  | .array elements => elements[4]?
  | _ => none

/-- The code of the status in the description of a job. It is zero where no status stands, or null
does. -/
inductive HasStatus (item : Json) : Int → Prop where
  | absent (h : statusIn? item = none) : HasStatus item 0
  | null (h : statusIn? item = some .null) : HasStatus item 0
  | code {j : Json} (h : statusIn? item = some j) (hj : j ≠ .null) :
      HasStatus item (CodeEnum.asyncJobStatus.codeOfJson j)

/-- Every description has a code. -/
theorem exists_hasStatus (item : Json) : ∃ code, HasStatus item code := by
  cases hstatus : statusIn? item with
  | none => exact ⟨0, .absent hstatus⟩
  | some j =>
    by_cases hj : j = .null
    · exact ⟨0, .null (hj ▸ hstatus)⟩
    · exact ⟨_, .code hstatus hj⟩

/-- A job that is read has the code of its description, unless that has none. -/
theorem code?_of_decode {item : Json} {job : Job} (h : decode item = .ok job) :
    job.fields.code? "jobstatus" =
      (statusIn? item).bind fun j ↦
        if j.isNull then none else some (CodeEnum.asyncJobStatus.codeOfJson j) := by
  obtain ⟨v, hv, rfl⟩ := decode_eq_ok_iff.mp h
  obtain ⟨x, hx, hreads⟩ : ∃ x, v.fields.lookup "jobstatus" = some x ∧
      (Kind.optionalCode .asyncJobStatus).Reads (statusIn? item) x :=
    Kind.exists_reads_of_decode_at (i := 4) (by decide) hv rfl
  have hcode : (Value.fields v).code? "jobstatus" = x.code? := by
    rw [Record.code?, hx]
    rfl
  rw [hcode]
  cases hstatus : statusIn? item with
  | none =>
    rw [hstatus] at hreads
    cases hreads
    rfl
  | some j =>
    rw [hstatus] at hreads
    cases hreads
    rfl

/-- A job that is read has the status of its description. -/
theorem status_of_decode {item : Json} {job : Job} (h : decode item = .ok job) {code : Int}
    (hcode : HasStatus item code) : job.status = JobStatus.ofCode code := by
  have hread := code?_of_decode h
  unfold status
  cases hcode with
  | absent hstatus | null hstatus =>
    rw [hstatus] at hread
    rw [hread]
    rfl
  | code hstatus hj =>
    rw [hstatus, Option.bind_some, if_neg (Json.isNull_iff.not.mpr hj)] at hread
    rw [hread]

end Job

/-! ## What an answer says -/

namespace Envelope

/-- A content shows an item: the first one if it is a list, and else itself, unless it is null. -/
inductive Shows : Json → Json → Prop where
  | first (item : Json) (rest : List Json) : Shows (.array (item :: rest)) item
  | itself {content : Json} (hnull : content ≠ .null) (harray : ∀ items, content ≠ .array items) :
      Shows content content

/-- A content shows nothing: it is null or an empty list. -/
def IsEmpty (content : Json) : Prop :=
  content = .null ∨ content = .array []

/-- A content shows an item or nothing. -/
theorem isEmpty_or_shows (content : Json) : IsEmpty content ∨ ∃ item, Shows content item := by
  cases content with
  | null => exact .inl (.inl rfl)
  | array items =>
    cases items with
    | nil => exact .inl (.inr rfl)
    | cons item rest => exact .inr ⟨item, .first item rest⟩
  | bool | number | string | object => exact .inr ⟨_, .itself (by simp) (by simp)⟩

/-- No reply stops the program. -/
theorem unwrap_ne_stopped (command : String) (status : Nat) (body : String) (cause : Overflow) :
    unwrap command status body ≠ .error (.stopped cause) := by
  intro h
  unfold unwrap at h
  split at h
  · split at h <;> cases h
  · dsimp only at h
    split at h
    · cases h
    · split at h <;> cases h

end Envelope

/-- The content of a reply to a question for a job. -/
def Reply.HasContent (r : Reply) (content : Json) : Prop :=
  Envelope.unwrap Command.queryAsyncJobResult.name r.status r.body = .ok content

/-- A reply tells of a job with a code for its status. -/
def Reply.TellsOf (r : Reply) (job : Job) (code : Int) : Prop :=
  ∃ content item, r.HasContent content ∧ Envelope.Shows content item ∧
    Job.decode item = .ok job ∧ Job.HasStatus item code

namespace Client

/-- An answer keeps a wait going: it tells of a pending job, and the next pause does not go beyond
the time that the client is willing to wait. -/
def GoesOn (wait : JobWait) (elapsed : Nat) (answer : Except ClientError Reply) : Prop :=
  ∃ r job, answer = .ok r ∧ r.TellsOf job 0 ∧ elapsed + wait.interval ≤ wait.timeout

/-- An answer stops the program: it tells of a pending job, and the time at the end of the next
pause is longer than the longest. -/
def Overruns (wait : JobWait) (elapsed : Nat) (answer : Except ClientError Reply) : Prop :=
  ∃ r job, answer = .ok r ∧ r.TellsOf job 0 ∧ Span.longest < elapsed + wait.interval

/-- What a wait ends with on an answer. -/
inductive Concludes (id : String) (wait : JobWait) (elapsed : Nat) :
    Except ClientError Reply → Except ClientError Job → Prop where
  /-- No reply came. -/
  | unanswered (e : ClientError) : Concludes id wait elapsed (.error e) (.error e)
  /-- The server says that it does not know the job. -/
  | unknown {r : Reply} (h : Command.queryAsyncJobResult.Excuses r) :
      Concludes id wait elapsed (.ok r) (.error (.jobNotFound id))
  /-- The server reports another error, or its reply is not wrapped as it should be. -/
  | refused {r : Reply} {e : ClientError} (h : ¬ Command.queryAsyncJobResult.Excuses r)
      (he : Envelope.unwrap Command.queryAsyncJobResult.name r.status r.body = .error e) :
      Concludes id wait elapsed (.ok r) (.error e)
  | empty {r : Reply} {content : Json} (h : r.HasContent content)
      (hempty : Envelope.IsEmpty content) :
      Concludes id wait elapsed (.ok r) (.error (.jobNotFound id))
  /-- What should be a job cannot be read as one. -/
  | unreadable {r : Reply} {content item : Json} {e : DecodeError} (h : r.HasContent content)
      (hitem : Envelope.Shows content item) (he : Job.decode item = .error e) :
      Concludes id wait elapsed (.ok r)
        (.error (.decode Command.queryAsyncJobResult.name (.decode e)))
  | succeeded {r : Reply} {job : Job} (h : r.TellsOf job 1) :
      Concludes id wait elapsed (.ok r) (.ok job)
  | failed {r : Reply} {job : Job} {e : JobError} (h : r.TellsOf job 2)
      (he : job.error? = some e) : Concludes id wait elapsed (.ok r) (.error (.jobFailed id e))
  /-- The status of the job has no meaning. -/
  | odd {r : Reply} {job : Job} {code : Int} (h : r.TellsOf job code)
      (hcode : code ≠ 0 ∧ code ≠ 1 ∧ code ≠ 2) :
      Concludes id wait elapsed (.ok r)
        (.error (.unexpectedReply Command.queryAsyncJobResult.name (.unknownJobStatus id code)))
  /-- The job is pending, and the time is over. -/
  | late {r : Reply} {job : Job} (h : r.TellsOf job 0)
      (hlate : wait.timeout < elapsed + wait.interval)
      (hfits : elapsed + wait.interval ≤ Span.longest) :
      Concludes id wait elapsed (.ok r) (.error (.jobTimeout id elapsed))
  /-- The job is pending, and the end of the next pause is too long a time. -/
  | overrun {r : Reply} {job : Job} (h : r.TellsOf job 0)
      (hover : Span.longest < elapsed + wait.interval) :
      Concludes id wait elapsed (.ok r) (.error (.stopped .length))

/-- A job that a wait ends with has succeeded. -/
theorem Concludes.status_eq {id : String} {wait : JobWait} {elapsed : Nat}
    {answer : Except ClientError Reply} {job : Job}
    (h : Concludes id wait elapsed answer (.ok job)) : job.status = .succeeded := by
  cases h with
  | succeeded h =>
    obtain ⟨content, item, _, _, hdecode, hstatus⟩ := h
    exact Job.status_of_decode hdecode hstatus

/-! ## How an answer is judged -/

/-- What a client makes of the answer to a question for a job. -/
def jobOf : Except ClientError Reply → Except ClientError (Option Job)
  | .error e => Command.queryAsyncJobResult.fallback.cover none (.error e)
  | .ok r => Command.queryAsyncJobResult.fallback.cover none
      (Envelope.unwrap Command.queryAsyncJobResult.name r.status r.body >>=
        readFirst .queryAsyncJobResult Job.decode)

/-- A first item is read as a job just as its fields are read. -/
theorem readFirst_job (content : Json) :
    readFirst .queryAsyncJobResult Job.decode content =
      (readFirst .queryAsyncJobResult Kind.asyncJob.decode content).map
        (Option.map fun v ↦ ⟨v.fields⟩) := by
  unfold readFirst
  cases Envelope.selectedItems .queryAsyncJobResult content with
  | nil => rfl
  | cons item rest =>
    simp only [Envelope.decode, Job.decode, Kind.decodeRecord_eq]
    cases Kind.asyncJob.decode item <;> rfl

/-- A question for a job has what is made of its answer for an outcome. -/
theorem outcome_getJob_eq {σ : Type} (link : Link σ) (c : Client) (id : String) (s : σ) :
    (c.getJob link id).outcome s =
      (jobOf ((c.reply link .queryAsyncJobResult (jobParams id)).outcome s).1,
        ((c.reply link .queryAsyncJobResult (jobParams id)).outcome s).2) := by
  rw [getJob, Action.outcome_bind_pure, find_eq, outcome_call]
  rcases (c.reply link .queryAsyncJobResult (jobParams id)).outcome s with ⟨e | r, next⟩
  · simp only [Fallback.map_cover]
    rfl
  · simp only [Fallback.map_cover, jobOf, funext readFirst_job]
    cases Envelope.unwrap Command.queryAsyncJobResult.name r.status r.body <;> rfl

/-- A first item that cannot be read as a job is no error that the server reports. -/
theorem isLocal_of_readFirst_job (inner : Json) (e : ClientError)
    (h : readFirst .queryAsyncJobResult Job.decode inner = .error e) : e.IsLocal :=
  isLocal_of_readFirst h

section

variable {r : Reply} {content item : Json}

/-- A content is read if the server reports no missing job. -/
theorem jobOf_of_hasContent (h : r.HasContent content) :
    jobOf (.ok r) = readFirst .queryAsyncJobResult Job.decode content := by
  have hnot : ¬ Command.queryAsyncJobResult.Excuses r := by
    intro hexcuses
    have herror := unwrap_of_reportsError hexcuses.1
    rw [h] at herror
    cases herror
  rw [jobOf, cover_of_not_excuses isLocal_of_readFirst_job hnot, h]
  rfl

/-- The item that a content shows is read. -/
theorem readFirst_of_shows (h : Envelope.Shows content item) :
    readFirst .queryAsyncJobResult Job.decode content =
      (Envelope.decode Command.queryAsyncJobResult.name Job.decode item).map some := by
  cases h with
  | first rest => rfl
  | itself hnull harray =>
    cases content with
    | null => exact absurd rfl hnull
    | array items => exact absurd rfl (harray items)
    | bool | number | string | object => rfl

/-- A content without an item is read as no job. -/
theorem readFirst_of_isEmpty (h : Envelope.IsEmpty content) :
    readFirst .queryAsyncJobResult Job.decode content = .ok none := by
  rcases h with rfl | rfl <;> rfl

/-- A reply that tells of a job is taken for that job. -/
theorem jobOf_of_tellsOf {job : Job} {code : Int} (h : r.TellsOf job code) :
    jobOf (.ok r) = .ok (some job) := by
  obtain ⟨content, item, hcontent, hitem, hdecode, _⟩ := h
  rw [jobOf_of_hasContent hcontent, readFirst_of_shows hitem, Envelope.decode, hdecode]
  rfl

/-- A job that a reply tells of has the status of its code. -/
theorem status_of_tellsOf {job : Job} {code : Int} (h : r.TellsOf job code) :
    job.status = JobStatus.ofCode code := by
  obtain ⟨content, item, _, _, hdecode, hstatus⟩ := h
  exact Job.status_of_decode hdecode hstatus

end

variable {id : String} {wait : JobWait} {elapsed : Nat} {answer : Except ClientError Reply}

/-- The client goes on after an answer that keeps the wait going. -/
theorem judge_of_goesOn (h : GoesOn wait elapsed answer) :
    judge id wait elapsed (jobOf answer) = .pending := by
  obtain ⟨r, job, rfl, htells, htime⟩ := h
  rw [jobOf_of_tellsOf htells]
  exact judge_of_pending id (status_of_tellsOf htells) htime

/-- An answer that a wait ends on is judged to end it so. -/
theorem judge_of_concludes {result : Except ClientError Job}
    (hlocal : ∀ e, answer = .error e → e.IsLocal) (h : Concludes id wait elapsed answer result) :
    judge id wait elapsed (jobOf answer) = .finished result := by
  cases h with
  | unanswered e =>
    have hcover : jobOf (.error e) = .error e :=
      cover_of_not_applies ((hlocal e rfl).applies_eq_false _)
    simp only [hcover, judge]
  | unknown hexcuses =>
    have hcover : jobOf (.ok _) = .ok none := cover_of_excuses none _ hexcuses
    simp only [hcover, judge]
  | refused hexcuses hunwrap =>
    rw [jobOf, cover_of_not_excuses isLocal_of_readFirst_job hexcuses, hunwrap]
    rfl
  | empty hcontent hempty =>
    rw [jobOf_of_hasContent hcontent, readFirst_of_isEmpty hempty]
    rfl
  | unreadable hcontent hitem hdecode =>
    rw [jobOf_of_hasContent hcontent, readFirst_of_shows hitem, Envelope.decode, hdecode]
    rfl
  | @succeeded r job htells =>
    have hstatus : job.status = .succeeded := status_of_tellsOf htells
    simp only [jobOf_of_tellsOf htells, judge, hstatus]
  | @failed r job e htells he =>
    have hstatus : job.status = .failed := status_of_tellsOf htells
    simp only [jobOf_of_tellsOf htells, judge, hstatus, he, Option.getD_some]
  | @odd r job code htells hcode =>
    obtain ⟨hzero, hone, htwo⟩ := hcode
    have hstatus : job.status = .unknown code := by
      rw [status_of_tellsOf htells, JobStatus.ofCode, if_neg hzero, if_neg hone, if_neg htwo]
    simp only [jobOf_of_tellsOf htells, judge, hstatus]
  | @late r job htells hlate hfits =>
    have hstatus : job.status = .pending := status_of_tellsOf htells
    simp only [jobOf_of_tellsOf htells, judge, hstatus, Span.add?_of_le hfits, if_pos hlate]
  | @overrun r job htells hover =>
    have hstatus : job.status = .pending := status_of_tellsOf htells
    simp only [jobOf_of_tellsOf htells, judge, hstatus, Span.add?_of_lt hover]

/-- An answer that a wait ends on does not keep it going. -/
theorem Concludes.not_goesOn {result : Except ClientError Job}
    (h : Concludes id wait elapsed answer result)
    (hlocal : ∀ e, answer = .error e → e.IsLocal) : ¬ GoesOn wait elapsed answer := by
  intro hgoes
  have hjudge := judge_of_concludes hlocal h
  rw [judge_of_goesOn hgoes] at hjudge
  cases hjudge

/-- A wait ends with a stop of the program just if the question could not be sent for one, or the
next pause overruns. -/
theorem Concludes.stopped_iff {result : Except ClientError Job}
    (h : Concludes id wait elapsed answer result)
    (hlocal : ∀ e, answer = .error e → e.IsLocal) :
    (∃ cause, result = .error (.stopped cause)) ↔
      (∃ cause, answer = .error (.stopped cause)) ∨ Overruns wait elapsed answer := by
  constructor
  · rintro ⟨cause, rfl⟩
    cases h with
    | unanswered => exact .inl ⟨cause, rfl⟩
    | refused _ hunwrap => exact absurd hunwrap (Envelope.unwrap_ne_stopped _ _ _ cause)
    | overrun htells hover => exact .inr ⟨_, _, rfl, htells, hover⟩
  · rintro (⟨cause, rfl⟩ | ⟨r, job, rfl, htells, hover⟩)
    · cases h with
      | unanswered => exact ⟨cause, rfl⟩
    · have hjudge := judge_of_concludes hlocal h
      rw [judge_of_concludes hlocal (.overrun htells hover)] at hjudge
      cases hjudge
      exact ⟨.length, rfl⟩

/-- A job that does not keep the wait going ends it. -/
theorem exists_concludes_of_tellsOf (id : String) {r : Reply} {job : Job} {code : Int}
    (h : r.TellsOf job code) (hends : ¬ GoesOn wait elapsed (.ok r)) :
    ∃ result, Concludes id wait elapsed (.ok r) result := by
  by_cases hzero : code = 0
  · subst hzero
    have hlate : wait.timeout < elapsed + wait.interval :=
      Nat.lt_of_not_le fun htime ↦ hends ⟨r, job, rfl, h, htime⟩
    by_cases hfits : elapsed + wait.interval ≤ Span.longest
    · exact ⟨_, .late h hlate hfits⟩
    · exact ⟨_, .overrun h (Nat.lt_of_not_le hfits)⟩
  by_cases hone : code = 1
  · subst hone
    exact ⟨_, .succeeded h⟩
  by_cases htwo : code = 2
  · subst htwo
    have hfailed : job.status = .failed := status_of_tellsOf h
    exact ⟨_, .failed h (if_pos hfailed)⟩
  · exact ⟨_, .odd h ⟨hzero, hone, htwo⟩⟩

/-- Every answer that does not keep a wait going ends it. -/
theorem exists_concludes (id : String) (h : ¬ GoesOn wait elapsed answer) :
    ∃ result, Concludes id wait elapsed answer result := by
  cases answer with
  | error e => exact ⟨_, .unanswered e⟩
  | ok r =>
    by_cases hexcuses : Command.queryAsyncJobResult.Excuses r
    · exact ⟨_, .unknown hexcuses⟩
    cases hunwrap : Envelope.unwrap Command.queryAsyncJobResult.name r.status r.body with
    | error e => exact ⟨_, .refused hexcuses hunwrap⟩
    | ok content =>
      rcases Envelope.isEmpty_or_shows content with hempty | ⟨item, hitem⟩
      · exact ⟨_, .empty hunwrap hempty⟩
      cases hdecode : Job.decode item with
      | error e => exact ⟨_, .unreadable hunwrap hitem hdecode⟩
      | ok job =>
        obtain ⟨code, hcode⟩ := Job.exists_hasStatus item
        exact exists_concludes_of_tellsOf id ⟨content, item, hunwrap, hitem, hdecode, hcode⟩ h

end Client

end CloudControl
