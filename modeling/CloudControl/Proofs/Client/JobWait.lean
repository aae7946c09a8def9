import CloudControl.Proofs.Client.Envelope
import CloudControl.Proofs.Client.Requests
import CloudControl.Proofs.Json.RoundTrip
import CloudControl.Proofs.Schema.Acceptance
import CloudControl.Proofs.Simulator.Jobs
import CloudControl.Simulator.Link

/-!
# Waiting for a job of the simulated server

A client that waits for a job asks for it until the server shows its result, and counts on the
answers before that to say that the job is pending. `Client.waitForJob_of_undisturbed` says that
this is so for every job that can be read: as long as nothing disturbs the wait
(`Client.IsUndisturbed`), the client asks once more than the job is still pending for, and ends with
what the job says.

Each turn asks once, which the server counts, and pauses. `Client.outcome_getJob` is about one
question, and the turns before it are counted by `Client.IsUndisturbed.pollsOf_afterTurns`, so that
it is known of every turn which content it is shown. The loop follows by induction on the turns that
are left (`Client.pollJob_of_undisturbed`).
-/

namespace CloudControl

open Auth Schema Simulator

/-! ## What a job shows -/

namespace Schema

/-- A record is read as the fields of a value. -/
theorem Kind.decodeRecord_eq (k : Kind) (j : Json) :
    k.decodeRecord j = (k.decode j).map Value.fields := by
  rw [decodeRecord]
  rcases k.decode j with e | v
  · rfl
  · cases v <;> rfl

/-- The fields of a record; other kinds have none. -/
def Kind.fields : Kind → List (String × Kind)
  | .record _ fields => fields
  | _ => []

end Schema

namespace Job

/-- A job is read just if its value is, and has the fields of that value. -/
theorem decode_eq_ok_iff {j : Json} {job : Job} :
    decode j = .ok job ↔ ∃ v, Kind.asyncJob.decode j = .ok v ∧ job = ⟨v.fields⟩ := by
  rw [decode, Kind.decodeRecord_eq]
  cases Kind.asyncJob.decode j <;> simp [Except.map, eq_comm]

end Job

namespace Simulator

variable {fixture : Json} {id : String}

/-- The jobs of a file are found by their identifiers. -/
theorem get?_jobid_of_loadJobs {value : Json} {jobs : List (String × Json)}
    (hload : loadJobs value = .ok jobs) (hjob : jobs.lookup id = some fixture) :
    fixture.get? "jobid" = some (.string id) := by
  unfold loadJobs at hload
  split at hload
  · next items =>
    obtain ⟨named, hnamed, rfl⟩ := map_eq_ok_iff.mp hload
    rw [Json.lookup_sortMembers] at hjob
    obtain ⟨before, after, hmembers, _⟩ := List.lookup_eq_some_iff.mp hjob
    have hmem : (id, fixture) ∈ named := by
      rw [← List.mem_reverse, hmembers]
      exact List.mem_append_right _ List.mem_cons_self
    obtain ⟨item, hitem⟩ := exists_of_mem_right (mapM_eq_ok_iff.mp hnamed) hmem
    unfold identifyJob at hitem
    split at hitem
    · next name hname =>
      cases hitem
      obtain ⟨j, hj, hstring⟩ := Option.bind_eq_some_iff.mp hname
      cases j <;> cases hstring
      exact hj
    · cases hitem
  · cases hload

/-- A field of a job that a pending one shows as zero takes anything, and a field that it leaves out
may be missing. -/
theorem fields_asyncJob : ∀ f ∈ Kind.asyncJob.fields,
    (f.1 ∈ statusFields → f.2.takesAnything = true) ∧
      (f.1 ∉ statusFields → f.1 ∉ pendingFields → f.2.isRequired = false) := by
  decide

/-- What a pending job shows can be read if the job can, and says that the job is pending. -/
theorem exists_decode_pendingContent {members : List (String × Json)} {job : Job}
    (h : Job.decode (.object members) = .ok job) :
    ∃ pending, Job.decode (pendingContent (.object members)) = .ok pending ∧
      pending.status = .pending := by
  obtain ⟨v, hv, _⟩ := Job.decode_eq_ok_iff.mp h
  obtain ⟨shown, hshown, _, hlookup⟩ := showsPending_pendingContent (.object members)
  have hread : ∃ w, Kind.asyncJob.decode (.object shown) = .ok w := by
    refine Kind.exists_decode_object_iff.mpr fun f hf ↦ ?_
    obtain ⟨hany, hmissing⟩ := fields_asyncJob f hf
    rw [hlookup]
    split_ifs with hstatus hpending
    · exact Kind.exists_decode_of_accepts (Kind.accepts_of_takesAnything (hany hstatus) _)
    · -- This field is read as it is in the job.
      obtain ⟨x, _, hx⟩ := Kind.exists_reads_of_decode (by decide) hv hf
      exact ⟨x, hx⟩
    · exact (Kind.exists_absent?_iff f.2).mpr (hmissing hstatus hpending)
  obtain ⟨w, hw⟩ := hread
  have hfield : ("jobstatus", Kind.optionalCode .asyncJobStatus) ∈ Kind.asyncJob.fields := by
    simp [Kind.asyncJob, Kind.fields]
  obtain ⟨x, hx, hstatus⟩ := Kind.exists_reads_of_decode (by decide) hw hfield
  rw [hlookup, if_pos (by decide)] at hstatus
  cases hstatus
  have hcode : w.fields.code? "jobstatus" = some 0 := congrArg (Option.bind · Value.code?) hx
  refine ⟨⟨w.fields⟩, ?_, ?_⟩
  · rw [hshown]
    exact Job.decode_eq_ok_iff.mpr ⟨w, hw, rfl⟩
  · rw [Job.status, hcode]
    rfl

/-- A client reads a job off the content that it is answered with. -/
structure ShowsJob (content : Json) (job : Job) : Prop where
  isObject : ∃ members, content = .object members
  decode : Job.decode content = .ok job
  noError : content.get? Envelope.errorCodeKey = none
  isReadBack : (Answer.reply jobCommand 200 content).IsReadBack

/-- A job of a file shows what is read of it. -/
theorem showsJob_of_loadJobs {value : Json} {jobs : List (String × Json)}
    (hload : loadJobs value = .ok jobs) (hjob : jobs.lookup id = some fixture) {job : Job}
    (hdecode : Job.decode fixture = .ok job)
    (hcode : fixture.get? Envelope.errorCodeKey = none)
    (hback : (Answer.reply jobCommand 200 fixture).IsReadBack) : ShowsJob fixture job := by
  refine ⟨?_, hdecode, hcode, hback⟩
  have hid := get?_jobid_of_loadJobs hload hjob
  cases fixture with
  | object members => exact ⟨members, rfl⟩
  | null | bool | number | string | array => cases hid

/-- A pending job shows that it is pending, if the job itself can be read. -/
theorem ShowsJob.exists_pending {job : Job} (h : ShowsJob fixture job)
    (hback : (Answer.reply jobCommand 200 (pendingContent fixture)).IsReadBack) :
    ∃ pending : Job, ShowsJob (pendingContent fixture) pending ∧ pending.status = .pending := by
  obtain ⟨members, rfl⟩ := h.isObject
  obtain ⟨pending, hpending, hstatus⟩ := exists_decode_pendingContent h.decode
  obtain ⟨shown, hshown, _, hlookup⟩ := showsPending_pendingContent (.object members)
  have hcode : (pendingContent (.object members)).get? Envelope.errorCodeKey = none := by
    rw [hshown, Json.get?, hlookup, if_neg (by decide), if_neg (by decide)]
  exact ⟨pending, ⟨⟨shown, hshown⟩, hpending, hcode, hback⟩, hstatus⟩

/-- The content that a question for a job is answered with. -/
def Server.shown (server : Server) (s : State) (id : String) (fixture : Json) : Json :=
  if s.pollsOf id + 1 ≤ server.settings.pendingPolls then pendingContent fixture else fixture

/-- The world after a question for a job has been counted. -/
def World.counted (w : World) (id : String) : World :=
  { w with state := w.state.countPoll id }

end Simulator

/-! ## One question -/

/-- The server reads a request as a question for a job. -/
structure Request.AsksFor (id : String) (r : Request) : Prop where
  command : lookup? Command.commandParam r.params = some Command.queryAsyncJobResult.name
  job : lookup? "jobid" r.params = some id

/-- A clock beside the requests that are kept. -/
def Clock.recorded {σ : Type} (clock : Clock σ) : Clock (σ × List Request) where
  reading s := clock.reading s.1
  sleep pause s := (clock.sleep pause s.1, s.2)

namespace Client

/-- The client may ask for a job: it is ready, and has credentials that the server accepts for this
question. -/
structure MayAsk (c : Client) (server : Server) (id : String) (w : World) : Prop where
  isReady : c.IsReady w.now
  isAuthorised : ∀ credentials, c.credentials = some credentials →
    (credentials.call w.now (commandParams .queryAsyncJobResult (jobParams id))).IsAuthorised
      server w.state

/-- The identifier of a job is neither a credential nor a command. -/
theorem isNamed_jobParams {name : String}
    (hname : name ∈ credentialParams ++ [Command.commandParam]) {id : String} {p : Param}
    (hp : p ∈ (jobParams id).entries ++ Command.queryAsyncJobResult.fixed) :
    isNamed name p = false := by
  have hjob : (jobParams id).entries ++ Command.queryAsyncJobResult.fixed = [("jobid", id)] := rfl
  have hother : ∀ name ∈ credentialParams ++ [Command.commandParam],
      Text.eqFolded "jobid" name = false := by
    decide
  rw [hjob, List.mem_singleton] at hp
  rw [hp]
  exact hother name hname

/-- What a client asks for a job with is read as a question for that job. -/
theorem asksFor_addTo (credentials : Credentials) (now : Instant) (id : String) :
    let asked := (credentials.addTo now (commandParams .queryAsyncJobResult (jobParams id))).1
    lookup? Command.commandParam asked = some Command.queryAsyncJobResult.name ∧
      lookup? "jobid" asked = some id := by
  dsimp only
  rw [credentials.lookup?_addTo now _ (by decide), credentials.lookup?_addTo now _ (by decide)]
  constructor
  · exact lookup?_commandParams fun p hp ↦ isNamed_jobParams (by decide) hp
  · have hset : commandParams .queryAsyncJobResult (jobParams id) =
        ((Command.queryAsyncJobResult.baseParams.set "jobid" id).set Command.commandParam
          Command.queryAsyncJobResult.name).set Command.responseParam Command.responseFormat := rfl
    rw [hset, lookup?_set_of_ne (by decide), lookup?_set_of_ne (by decide)]
    exact lookup?_set (by decide) (by decide) id

/-- A client that is ready, and whose credentials the server accepts, may ask for every job. -/
theorem mayAsk_of_accepts {server : Server} {c : Client} {w : World} (hready : c.IsReady w.now)
    {credentials : Credentials} (hcredentials : c.credentials = some credentials)
    (haccepts : server.Accepts w credentials) (id : String) : c.MayAsk server id w := by
  have hown : ∀ name ∈ credentialParams, Text.eqFolded Command.commandParam name = false ∧
      Text.eqFolded Command.responseParam name = false := by
    decide
  refine ⟨hready, fun held hheld ↦ ?_⟩
  obtain rfl : credentials = held := Option.some.inj (hcredentials.symm.trans hheld)
  refine credentials.authorize_addTo haccepts fun p hp name hname ↦ ?_
  obtain ⟨hcommand, hresponse⟩ := hown name hname
  exact isNamed_commandParams hcommand hresponse
    (fun p hp ↦ isNamed_jobParams (List.mem_append_left _ hname) hp) hp

/-- A client that is ready can ask for every job. -/
theorem exists_request_asksFor {σ : Type} (link : Link σ) {c : Client} {s : σ}
    (hready : c.IsReady (link.now s)) (id : String) :
    ∃ r, c.request? link .queryAsyncJobResult (jobParams id) s = .ok r ∧ r.AsksFor id := by
  obtain ⟨credentials, hcredentials, husable⟩ := hready.hasCredentials
  obtain ⟨hcommand, hid⟩ := asksFor_addTo credentials (link.now s) id
  rw [request?_of_credentials _ _ _ _ hcredentials hready.isWeb husable, hready.sendsCookie]
  exact ⟨_, rfl, by rwa [params_requestOf], by rwa [params_requestOf]⟩

section

variable {server : Server} {c : Client} {id : String} {fixture : Json} {w : World}
  (hjob : server.fixtures.jobs.lookup id = some fixture)
include hjob

/-- What a client receives when it asks for a job, and what the server makes of it. -/
theorem outcome_reply_of_mayAsk (hask : c.MayAsk server id w) :
    (c.reply (Simulator.link server) .queryAsyncJobResult (jobParams id)).outcome w =
      (.ok (Answer.reply jobCommand 200 (server.shown w.state id fixture)).toReply,
        w.counted id) := by
  obtain ⟨hready, hauth⟩ := hask
  obtain ⟨credentials, hcredentials, husable⟩ := hready.hasCredentials
  obtain ⟨hcommand, hid⟩ := asksFor_addTo credentials w.now id
  let call := credentials.call w.now (commandParams .queryAsyncJobResult (jobParams id))
  have hpolls : call.Polls server id w.state :=
    ⟨(congrArg (Option.map Text.lowercase) hcommand).trans (by decide),
      hauth credentials hcredentials, hid⟩
  have hexecute := Call.execute_of_polls hjob hpolls
  have hverb : Command.queryAsyncJobResult.verb ≠ .post := by decide
  rw [outcome_reply_of_server hcredentials hready.isWeb husable (absurd · hverb),
    hready.sendsCookie]
  have hanswer : call.answer server w.state =
      .reply jobCommand 200 (server.shown w.state id fixture) := congrArg Prod.fst hexecute
  have hnext : call.next server w.state = w.state.countPoll id := congrArg Prod.snd hexecute
  simp only [if_true, call] at hanswer hnext ⊢
  rw [hanswer, hnext]
  rfl

/-- A client is told of the job that its question is answered with, and the question is counted and
kept. -/
theorem outcome_getJob (hask : c.MayAsk server id w) {job : Job}
    (hshows : ShowsJob (server.shown w.state id fixture) job) (sent : List Request) :
    ∃ r : Request, r.AsksFor id ∧
      (c.getJob (Simulator.link server).recorded id).outcome (w, sent) =
        (.ok (some job), (w.counted id, sent ++ [r])) := by
  obtain ⟨⟨members, hshown⟩, hdecode, hcode, hback⟩ := hshows
  rw [hshown] at hdecode hcode hback
  obtain ⟨v, hv, rfl⟩ := Job.decode_eq_ok_iff.mp hdecode
  obtain ⟨r, hr, hasks⟩ := exists_request_asksFor (Simulator.link server) hask.isReady id
  have hreply : (c.reply (Simulator.link server).recorded .queryAsyncJobResult
      (jobParams id)).outcome (w, sent) =
        (.ok (Answer.reply jobCommand 200 (.object members)).toReply,
          (w.counted id, sent ++ [r])) := by
    rw [outcome_reply_recorded, outcome_reply_of_mayAsk hjob hask, hr, hshown]
    rfl
  have hread : (Envelope.unwrap Command.queryAsyncJobResult.name 200
      (Answer.reply jobCommand 200 (.object members)).body.compact >>=
        readFirst .queryAsyncJobResult Kind.asyncJob.decode) = .ok (some v) := by
    rw [Envelope.unwrap_reply hback (by rw [hcode]; rfl)]
    show (Envelope.decode _ Kind.asyncJob.decode (.object members)).map some = _
    rw [Envelope.decode, hv]
    rfl
  have hfound : (c.find (Simulator.link server).recorded .queryAsyncJobResult
      Kind.asyncJob.decode (jobParams id)).outcome (w, sent) =
        (.ok (some v), (w.counted id, sent ++ [r])) := by
    rw [find_eq, outcome_call, hreply]
    show (Fallback.cover _ none (Envelope.unwrap _ 200 (Answer.body _).compact >>= _), _) = _
    rw [hread]
    rfl
  refine ⟨r, hasks, ?_⟩
  rw [getJob, Action.outcome_bind, hfound]
  rfl

end

/-! ## The turns of a wait -/

/-- The world after some turns of a wait, in each of which the job has been asked for and a pause
has followed. -/
def afterTurns (clock : Clock World) (id : String) (interval : Nat) : Nat → World → World
  | 0, w => w
  | turns + 1, w => afterTurns clock id interval turns (clock.sleep interval (w.counted id))

/-- Nothing disturbs a wait for some turns: the client may ask for the job in each of them and once
more, no pause goes beyond the time that the client is willing to wait, and in no pause another
client asks for the job. -/
structure IsUndisturbed (server : Server) (clock : Clock World) (c : Client) (id : String)
    (wait : JobWait) (started turns : Nat) (w : World) : Prop where
  mayAsk : ∀ i ≤ turns, c.MayAsk server id (afterTurns clock id wait.interval i w)
  inTime : ∀ i < turns,
    clock.reading ((afterTurns clock id wait.interval i w).counted id) - started + wait.interval ≤
      wait.timeout
  isAlone : ∀ i < turns,
    (clock.sleep wait.interval
      ((afterTurns clock id wait.interval i w).counted id)).state.pollsOf id =
        ((afterTurns clock id wait.interval i w).counted id).state.pollsOf id

section

variable {server : Server} {clock : Clock World} {c : Client} {id : String} {wait : JobWait}
  {started turns : Nat} {w : World}

namespace IsUndisturbed

/-- The rest of a wait is not disturbed either. -/
theorem next (h : IsUndisturbed server clock c id wait started (turns + 1) w) :
    IsUndisturbed server clock c id wait started turns
      (clock.sleep wait.interval (w.counted id)) where
  mayAsk i hi := h.mayAsk (i + 1) (Nat.succ_le_succ hi)
  inTime i hi := h.inTime (i + 1) (Nat.succ_lt_succ hi)
  isAlone i hi := h.isAlone (i + 1) (Nat.succ_lt_succ hi)

/-- A turn counts as one question. -/
theorem pollsOf_next (h : IsUndisturbed server clock c id wait started (turns + 1) w) :
    (clock.sleep wait.interval (w.counted id)).state.pollsOf id = w.state.pollsOf id + 1 :=
  (h.isAlone 0 (Nat.succ_pos turns)).trans (w.state.pollsOf_countPoll_self)

/-- Every turn counts as one question. -/
theorem pollsOf_afterTurns (h : IsUndisturbed server clock c id wait started turns w) {i : Nat}
    (hi : i ≤ turns) :
    (afterTurns clock id wait.interval i w).state.pollsOf id = w.state.pollsOf id + i := by
  induction i generalizing turns w with
  | zero => rfl
  | succ i ih =>
    cases turns with
    | zero => exact absurd hi (Nat.not_succ_le_zero i)
    | succ turns =>
      rw [afterTurns, ih h.next (Nat.le_of_succ_le_succ hi), h.pollsOf_next]
      omega

/-- A wait with pauses of more than nothing is over within the turns that it is given, if each pause
lasts as long as it should. -/
theorem lt_maxPolls (h : IsUndisturbed server clock c id wait started turns w)
    (hinterval : 0 < wait.interval)
    (hcounted : ∀ w, clock.reading (w.counted id) = clock.reading w)
    (hsleep : ∀ w, clock.reading w + wait.interval ≤
      clock.reading (clock.sleep wait.interval w))
    (hstarted : started ≤ clock.reading w) : turns < wait.maxPolls := by
  have hreading : ∀ i w, clock.reading w + i * wait.interval ≤
      clock.reading (afterTurns clock id wait.interval i w) := by
    intro i
    induction i with
    | zero => intro w; simp [afterTurns]
    | succ i ih =>
      intro w
      have hfirst := hsleep (w.counted id)
      have hrest := ih (clock.sleep wait.interval (w.counted id))
      rw [hcounted] at hfirst
      rw [afterTurns, Nat.succ_mul]
      omega
  rw [JobWait.maxPolls, Nat.lt_succ_iff, Nat.le_div_iff_mul_le hinterval]
  cases turns with
  | zero => simp
  | succ turns =>
    -- The last pause begins after all the others.
    have hlast := h.inTime turns (Nat.lt_succ_self turns)
    have hbefore := hreading turns w
    rw [hcounted] at hlast
    rw [Nat.succ_mul]
    omega

end IsUndisturbed

/-! ## The wait -/

/-- What a wait ends with when it is told of a job with a code for its status: with the job if it
has succeeded, with its error if it has failed, and otherwise with the code. -/
structure EndsWith (id : String) (job : Job) (code : Int) (result : Except ClientError Job) :
    Prop where
  succeeded : code = 1 → result = .ok job
  failed : code = 2 → ∃ e, job.error? = some e ∧ result = .error (.jobFailed id e)
  unknown : code ≠ 1 → code ≠ 2 → result =
    .error (.unexpectedReply Command.queryAsyncJobResult.name (.unknownJobStatus id code))

/-- A pending job keeps the wait going, if the next pause is over in time. -/
theorem judge_of_pending (id : String) {wait : JobWait} {job : Job}
    (hstatus : job.status = .pending) {elapsed : Nat}
    (htime : elapsed + wait.interval ≤ wait.timeout) :
    judge id wait elapsed (.ok (some job)) = .pending := by
  have hsum : Span.add? elapsed wait.interval = some (elapsed + wait.interval) :=
    Span.add?_of_le (Nat.le_trans htime wait.timeout_le)
  simp only [judge, hstatus, hsum, if_neg (Nat.not_lt.mpr htime)]

/-- A job with any code but that of a pending one ends the wait, however long it has taken. -/
theorem exists_judge_finished (id : String) (wait : JobWait) {job : Job} {code : Int}
    (hcode : job.fields.code? "jobstatus" = some code) (hpending : code ≠ 0) :
    ∃ result, (∀ elapsed, judge id wait elapsed (.ok (some job)) = .finished result) ∧
      EndsWith id job code result := by
  have hstatus : job.status = JobStatus.ofCode code := by rw [Job.status, hcode]
  by_cases hone : code = 1
  · subst hone
    exact ⟨.ok job, fun elapsed ↦ by simp only [judge, hstatus]; rfl, fun _ ↦ rfl, nofun, nofun⟩
  by_cases htwo : code = 2
  · subst htwo
    have hfailed : job.status = .failed := hstatus
    obtain ⟨e, he⟩ : ∃ e, job.error? = some e := ⟨_, if_pos hfailed⟩
    refine ⟨.error (.jobFailed id e), fun elapsed ↦ ?_, nofun, fun _ ↦ ⟨e, he, rfl⟩, nofun⟩
    simp only [judge, hfailed, he, Option.getD_some]
  · have hunknown : job.status = .unknown code := by
      rw [hstatus, JobStatus.ofCode, if_neg hpending, if_neg hone, if_neg htwo]
    refine ⟨_, fun elapsed ↦ ?_, (absurd · hone), (absurd · htwo), fun _ _ ↦ rfl⟩
    simp only [judge, hunknown]

section

variable {σ : Type} {link : Link σ} {clock : Clock σ} {started : Nat} {s next : σ}
  {answer : Except ClientError (Option Job)}
  (hget : (c.getJob link id).outcome s = (answer, next))
include hget

/-- The loop of a wait goes on with a pause after an answer that does not end it. -/
theorem pollJob_of_pending
    (h : judge id wait (clock.reading next - started) answer = .pending) (polls : Nat) :
    pollJob link clock c id wait started (polls + 1) s =
      pollJob link clock c id wait started polls (clock.sleep wait.interval next) := by
  rw [pollJob, hget]
  simp only [h]

/-- The loop of a wait is over after an answer that ends it. -/
theorem pollJob_of_finished {result : Except ClientError Job}
    (h : judge id wait (clock.reading next - started) answer = .finished result) (polls : Nat) :
    pollJob link clock c id wait started (polls + 1) s = (some result, next) := by
  rw [pollJob, hget]
  simp only [h]

end

section

variable {fixture : Json} (hjob : server.fixtures.jobs.lookup id = some fixture)
  {job pending : Job} (hshows : ShowsJob fixture job)
  (hpending : ShowsJob (pendingContent fixture) pending) (hstatus : pending.status = .pending)
include hjob hshows hpending hstatus

/-- The loop of a wait: pending answers keep it going, and the first other one ends it. -/
theorem pollJob_of_undisturbed {result : Except ClientError Job}
    (hresult : ∀ elapsed, judge id wait elapsed (.ok (some job)) = .finished result)
    (hturns : server.settings.pendingPolls - w.state.pollsOf id = turns)
    (h : IsUndisturbed server clock c id wait started turns w) {polls : Nat}
    (hpolls : turns < polls) (sent : List Request) :
    ∃ asked : List Request, asked.length = turns + 1 ∧ (∀ r ∈ asked, r.AsksFor id) ∧
      pollJob (Simulator.link server).recorded clock.recorded c id wait started polls (w, sent) =
        (some result, ((afterTurns clock id wait.interval turns w).counted id, sent ++ asked)) := by
  induction turns generalizing polls w sent with
  | zero =>
    obtain ⟨polls, rfl⟩ := Nat.exists_eq_succ_of_ne_zero (Nat.ne_of_gt hpolls)
    have hshown : server.shown w.state id fixture = fixture := if_neg (by omega)
    obtain ⟨r, hasks, hget⟩ := outcome_getJob hjob (h.mayAsk 0 (Nat.le_refl 0))
      (hshown.symm ▸ hshows) sent
    exact ⟨[r], rfl, by simpa using hasks, pollJob_of_finished hget (hresult _) polls⟩
  | succ turns ih =>
    obtain ⟨polls, rfl⟩ := Nat.exists_eq_succ_of_ne_zero (Nat.ne_of_gt (Nat.zero_lt_of_lt hpolls))
    have hshown : server.shown w.state id fixture = pendingContent fixture := if_pos (by omega)
    obtain ⟨r, hasks, hget⟩ := outcome_getJob hjob (h.mayAsk 0 (Nat.zero_le _))
      (hshown.symm ▸ hpending) sent
    have hrest : server.settings.pendingPolls -
        (clock.sleep wait.interval (w.counted id)).state.pollsOf id = turns := by
      rw [h.pollsOf_next]
      omega
    obtain ⟨asked, hlength, hall, hpoll⟩ := ih hrest h.next (Nat.lt_of_succ_lt_succ hpolls)
      (sent ++ [r])
    refine ⟨r :: asked, congrArg Nat.succ hlength, List.forall_mem_cons.mpr ⟨hasks, hall⟩, ?_⟩
    have hgoes : judge id wait (clock.recorded.reading (w.counted id, sent ++ [r]) - started)
        (.ok (some pending)) = .pending :=
      judge_of_pending id hstatus (h.inTime 0 (Nat.succ_pos turns))
    have hnext := pollJob_of_pending hget hgoes polls
    exact hnext.trans (List.append_cons sent r asked ▸ hpoll)

end

/-- The outcome of a wait is what its loop ends with. -/
theorem outcome_waitForJob {σ : Type} {link : Link σ} {clock : Clock σ} {polls : Nat} {s next : σ}
    {result : Except ClientError Job}
    (h : pollJob link clock c id wait (clock.reading s) polls s = (some result, next)) :
    (c.waitForJob link clock id wait polls).outcome s = (result, next) := by
  rw [waitForJob, Action.outcome_ofFunction]
  simp only [h]

/-- A wait for a job of the server that nothing disturbs, where the job can be read and reports no
error. For as many turns as the server has left for it, the client is told of a pending job. If the
job itself is not pending, the client asks just once more, and ends with what the job says. -/
theorem waitForJob_of_undisturbed {value fixture : Json}
    (hload : loadJobs value = .ok server.fixtures.jobs)
    (hjob : server.fixtures.jobs.lookup id = some fixture) {job : Job}
    (hdecode : Job.decode fixture = .ok job)
    (hnone : fixture.get? Envelope.errorCodeKey = none)
    (hback : (Answer.reply jobCommand 200 fixture).IsReadBack)
    (hpending : (Answer.reply jobCommand 200 (pendingContent fixture)).IsReadBack)
    (hturns : server.settings.pendingPolls - w.state.pollsOf id = turns)
    (h : IsUndisturbed server clock c id wait (clock.reading w) turns w) {polls : Nat}
    (hpolls : turns < polls) :
    (∀ i < turns, ∀ sent, ∃ (pending : Job) (next : World × List Request),
      (c.getJob (Simulator.link server).recorded id).outcome
        (afterTurns clock id wait.interval i w, sent) = (.ok (some pending), next) ∧
      pending.status = .pending) ∧
    ∀ code, job.fields.code? "jobstatus" = some code → code ≠ 0 →
      ∃ (result : Except ClientError Job) (asked : List Request),
        (c.waitForJob (Simulator.link server).recorded clock.recorded id wait polls).outcome
          (w, []) = (result, ((afterTurns clock id wait.interval turns w).counted id, asked)) ∧
        asked.length = turns + 1 ∧ (∀ r ∈ asked, r.AsksFor id) ∧ EndsWith id job code result := by
  have hshows := showsJob_of_loadJobs hload hjob hdecode hnone hback
  obtain ⟨pending, hshowsPending, hstatus⟩ := hshows.exists_pending hpending
  constructor
  · intro i hi sent
    have hshown : server.shown (afterTurns clock id wait.interval i w).state id fixture =
        pendingContent fixture := by
      rw [Server.shown, h.pollsOf_afterTurns (Nat.le_of_lt hi), if_pos (by omega)]
    obtain ⟨r, _, hget⟩ := outcome_getJob hjob (h.mayAsk i (Nat.le_of_lt hi))
      (hshown.symm ▸ hshowsPending) sent
    exact ⟨pending, _, hget, hstatus⟩
  · intro code hcode hdone
    obtain ⟨result, hresult, hends⟩ := exists_judge_finished id wait hcode hdone
    obtain ⟨asked, hlength, hall, hpoll⟩ := pollJob_of_undisturbed hjob hshows hshowsPending hstatus
      hresult hturns h hpolls []
    exact ⟨result, asked, outcome_waitForJob hpoll, hlength, hall, hends⟩

end

/-- A job that has been asked for once already, and is pending for two questions, is asked for twice
by a client that waits for it, and then has failed. -/
theorem waitForJob_of_undisturbed_failed :
    let fixture : Json := .object [("jobid", .string "j"),
      ("jobresult", .object [("errorcode", .ofNat 530), ("errortext", .string "no host")]),
      ("jobstatus", .ofNat 2)]
    let server : Server := ⟨{ Settings.usual with pendingPolls := 2 }, ⟨[], [("j", fixture)]⟩,
      fun _ ↦ ⟨"k", "C"⟩⟩
    let c : Client := ⟨⟨"http", "", "", some (.domain "localhost"), some 8080,
      .segments ["client", "api"], none, none⟩,
      some (.signed ⟨"stub-api-key", "stub-secret-key", none⟩)⟩
    let w : World := ⟨State.initial.countPoll "j", ⟨0, 0⟩, 0⟩
    let wait : JobWait := { interval := 2000000000, timeout := 600000000000 }
    ∃ asked : List Request, asked.length = 2 ∧ (∀ r ∈ asked, r.AsksFor "j") ∧
      ((c.waitForJob (Simulator.link server).recorded Simulator.clock.recorded "j" wait
        wait.maxPolls).outcome (w, [])).1 = .error (.jobFailed "j" ⟨some 530, some "no host"⟩) := by
  intro fixture server c w wait
  obtain ⟨job, hdecode, hcode, herror⟩ : ∃ job, Job.decode fixture = .ok job ∧
      job.fields.code? "jobstatus" = some 2 ∧
      job.error? = some ⟨some 530, some "no host"⟩ := ⟨_, rfl, rfl, rfl⟩
  have hload : loadJobs (.array [fixture]) = .ok server.fixtures.jobs := rfl
  have hask : ∀ w : World, c.MayAsk server "j" w := by
    intro w
    have haccepts : server.Accepts w (.signed ⟨"stub-api-key", "stub-secret-key", none⟩) :=
      ⟨rfl, rfl, nofun⟩
    exact mayAsk_of_accepts ⟨rfl, ⟨_, rfl, rfl⟩, by decide⟩ rfl haccepts "j"
  have hturns : server.settings.pendingPolls - w.state.pollsOf "j" = 1 := rfl
  have hundisturbed : IsUndisturbed server Simulator.clock c "j" wait 0 1 w := by
    refine ⟨fun _ _ ↦ hask _, fun i hi ↦ ?_, fun _ _ ↦ rfl⟩
    rw [Nat.lt_one_iff.mp hi]
    decide
  have hpolls : 1 < wait.maxPolls := hundisturbed.lt_maxPolls (by decide) (fun _ ↦ rfl)
    (fun _ ↦ Nat.le_refl _) (Nat.le_refl 0)
  obtain ⟨result, asked, houtcome, hlength, hall, hends⟩ :=
    (waitForJob_of_undisturbed hload rfl hdecode rfl (Json.parse?_compact (by decide))
      (Json.parse?_compact (by decide)) hturns hundisturbed hpolls).2 2 hcode (by decide)
  refine ⟨asked, hlength, hall, ?_⟩
  obtain ⟨e, he, hresult⟩ := hends.failed rfl
  rw [herror] at he
  rw [houtcome, hresult, Option.some.inj he]

end Client

end CloudControl
