import CloudControl.Proofs.Client.JobAnswers

/-!
# Waiting for a job over any history

A wait is followed from one answer to the next, over a link that may bring anything and by a clock
that may show anything. `Waiting.endsAt_of_history` says that the client asks on just as long as it
is told of a pending job and has the time for another pause, and that the wait is over on the first
other answer. `Waiting.ends_in_time` bounds the questions and the pauses by the time that the client
is willing to wait, if the clock moves on by the length of each pause.

A wait that is over need not return. The program stops where its question cannot be signed, and
where a job is pending and the end of the next pause is more than a length of time can be
(`Waiting.StopsAt`). The latter happens only when the time of the wait is over, and just then the
wait should say so: `Waiting.endsAt_overrun` and `Waiting.not_returnsAt_longest` show it for an
interval of as many seconds as 64 bits count and for the longest interval of all.

What the client does is noted event by event (`Waiting.outcome`). One turn is
`Waiting.loop_of_goesOn` or `Waiting.loop_of_concludes`, and `Waiting.loop_of_turns` carries the
loop over any number of turns. The number of questions that the loop is allowed makes no difference
once it is greater than the number of turns. Times are numbers of nanoseconds.
-/

namespace CloudControl

open Client

/-- What a client does while it waits: it asks, and it pauses for some time at a reading of the
clock. -/
inductive WaitEvent where
  | asks (r : Request)
  | pauses (reading length : Nat)

namespace WaitEvent

/-- The time that an event takes by itself. -/
def duration : WaitEvent → Nat
  | asks _ => 0
  | pauses _ length => length

/-- The event is a question. -/
def isQuestion : WaitEvent → Bool
  | asks _ => true
  | pauses _ _ => false

end WaitEvent

/-- A clock that notes the pauses. -/
def Clock.noting {σ : Type} (clock : Clock σ) : Clock (σ × List WaitEvent) where
  reading s := clock.reading s.1
  sleep length s := (clock.sleep length s.1, s.2 ++ [.pauses (clock.reading s.1) length])

/-- A wait of a client for a job, over a link and by a clock, from a state. -/
structure Waiting (σ : Type) where
  link : Link σ
  clock : Clock σ
  client : Client
  id : String
  wait : JobWait
  start : σ

namespace Waiting

variable {σ : Type} (w : Waiting σ)

/-- The loop of the wait from a state with some events, for a number of questions. -/
def loop (polls : Nat) (s : σ × List WaitEvent) :
    Option (Except ClientError Job) × σ × List WaitEvent :=
  pollJob (w.link.noting .asks) w.clock.noting w.client w.id w.wait (w.clock.reading w.start)
    polls s

/-- What the wait comes to with a number of questions, and what the client has done then. -/
def outcome (polls : Nat) : Except ClientError Job × σ × List WaitEvent :=
  (w.client.waitForJob (w.link.noting .asks) w.clock.noting w.id w.wait polls).outcome (w.start, [])

/-! ## Turns -/

/-- The state in which the question of a turn is asked. Turns count from zero. -/
def before : Nat → σ
  | 0 => w.start
  | n + 1 => w.clock.sleep w.wait.interval
      ((w.client.reply w.link .queryAsyncJobResult (jobParams w.id)).outcome (before n)).2

/-- The answer of a turn. -/
def answer (n : Nat) : Except ClientError Reply :=
  ((w.client.reply w.link .queryAsyncJobResult (jobParams w.id)).outcome (w.before n)).1

/-- The state in which the answer of a turn has come. -/
def answered (n : Nat) : σ :=
  ((w.client.reply w.link .queryAsyncJobResult (jobParams w.id)).outcome (w.before n)).2

/-- The time that has passed when the answer of a turn has come. -/
def elapsed (n : Nat) : Nat :=
  w.clock.reading (w.answered n) - w.clock.reading w.start

/-- The wait goes on after a turn. -/
def GoesOn (n : Nat) : Prop :=
  Client.GoesOn w.wait (w.elapsed n) (w.answer n)

/-- The program stops after a turn: its question cannot be signed, or its answer tells of a pending
job and the next pause is too long to be added to the time that has passed. -/
def StopsAt (n : Nat) : Prop :=
  (∃ cause, w.answer n = .error (.stopped cause)) ∨
    Client.Overruns w.wait (w.elapsed n) (w.answer n)

/-- The question of a turn, if it can be sent. -/
def question (n : Nat) : List WaitEvent :=
  (w.client.request? w.link .queryAsyncJobResult (jobParams w.id) (w.before n)).toOption.toList.map
    .asks

/-- The events of the turns before one: in each a question and a pause. -/
def events : Nat → List WaitEvent
  | 0 => []
  | n + 1 => events n ++ w.question n ++ [.pauses (w.clock.reading (w.answered n)) w.wait.interval]

/-- The wait is over on the answer of a turn: it is not over before, and whatever number of
questions it is allowed, it asks no other one. -/
structure EndsAt (n : Nat) (result : Except ClientError Job) : Prop where
  goesOn : ∀ polls ≤ n, w.loop polls (w.start, []) = (none, w.before polls, w.events polls)
  ends : ∀ polls, n < polls →
    w.outcome polls = (result, w.answered n, w.events n ++ w.question n)

/-- The wait returns on the answer of a turn: it is over, and the program has not stopped. -/
structure ReturnsAt (n : Nat) (result : Except ClientError Job) : Prop extends
    w.EndsAt n result where
  not_stopped : ∀ cause, result ≠ .error (.stopped cause)

/-! ## The loop -/

/-- A question is asked over a link that notes it as it is otherwise. -/
theorem outcome_getJob_noting (n : Nat) (events : List WaitEvent) :
    (w.client.getJob (w.link.noting .asks) w.id).outcome (w.before n, events) =
      (jobOf (w.answer n), w.answered n, events ++ w.question n) := by
  rw [outcome_getJob_eq, outcome_reply_noting]
  rfl

/-- The lack of an answer is no error that the server reports. -/
theorem isLocal_of_answer {n : Nat} {e : ClientError} (h : w.answer n = .error e) :
    e.IsLocal := by
  have hreply : (w.client.reply w.link .queryAsyncJobResult (jobParams w.id)).outcome (w.before n) =
      (.error e, w.answered n) := Prod.ext h rfl
  exact isLocal_of_reply hreply

/-- A turn after which the wait goes on. -/
theorem loop_of_goesOn {n : Nat} (h : w.GoesOn n) (polls : Nat) (events : List WaitEvent) :
    w.loop (polls + 1) (w.before n, events) =
      w.loop polls (w.before (n + 1), events ++ w.question n ++
        [.pauses (w.clock.reading (w.answered n)) w.wait.interval]) := by
  have hjudge : judge w.id w.wait (w.elapsed n) (jobOf (w.answer n)) = .pending :=
    judge_of_goesOn h
  exact pollJob_of_pending (w.outcome_getJob_noting n events) hjudge polls

/-- A turn that ends the wait. -/
theorem loop_of_concludes {n : Nat} {result : Except ClientError Job}
    (h : Concludes w.id w.wait (w.elapsed n) (w.answer n) result) (polls : Nat)
    (events : List WaitEvent) :
    w.loop (polls + 1) (w.before n, events) =
      (some result, w.answered n, events ++ w.question n) := by
  have hjudge : judge w.id w.wait (w.elapsed n) (jobOf (w.answer n)) = .finished result :=
    judge_of_concludes (fun e he ↦ w.isLocal_of_answer he) h
  exact pollJob_of_finished (w.outcome_getJob_noting n events) hjudge polls

/-- The loop after some turns. -/
theorem loop_of_turns {n : Nat} (h : ∀ i < n, w.GoesOn i) (polls : Nat) :
    w.loop (n + polls) (w.start, []) = w.loop polls (w.before n, w.events n) := by
  induction n generalizing polls with
  | zero =>
    rw [Nat.zero_add]
    rfl
  | succ n ih =>
    have hsum : n + 1 + polls = n + (polls + 1) := by omega
    rw [hsum, ih (fun i hi ↦ h i (Nat.lt_succ_of_lt hi)), w.loop_of_goesOn (h n n.lt_succ_self)]
    rfl

/-- The outcome of a wait whose loop ends is what the loop ends with. -/
theorem outcome_of_loop {polls : Nat} {result : Except ClientError Job}
    {next : σ × List WaitEvent} (h : w.loop polls (w.start, []) = (some result, next)) :
    w.outcome polls = (result, next) :=
  outcome_waitForJob h

/-- As long as the wait goes on, the loop comes to the next turn. -/
theorem loop_eq_none {n : Nat} (h : ∀ i < n, w.GoesOn i) :
    w.loop n (w.start, []) = (none, w.before n, w.events n) :=
  w.loop_of_turns h 0

/-- The wait is over on the first answer that ends it. -/
theorem endsAt_of_concludes {n : Nat} (h : ∀ i < n, w.GoesOn i)
    {result : Except ClientError Job}
    (hends : Concludes w.id w.wait (w.elapsed n) (w.answer n) result) : w.EndsAt n result where
  goesOn polls hpolls := w.loop_eq_none fun i hi ↦ h i (Nat.lt_of_lt_of_le hi hpolls)
  ends polls hpolls := by
    obtain ⟨more, rfl⟩ := Nat.exists_eq_add_of_lt hpolls
    apply w.outcome_of_loop
    rw [Nat.add_assoc, w.loop_of_turns h, w.loop_of_concludes hends]

/-- A wait that has gone on until an answer overruns is over with a stop of the program. -/
theorem endsAt_of_overruns {n : Nat} (h : ∀ i < n, w.GoesOn i)
    (hover : Client.Overruns w.wait (w.elapsed n) (w.answer n)) :
    w.EndsAt n (.error (.stopped .length)) := by
  obtain ⟨r, job, hr, htells, hlong⟩ := hover
  exact w.endsAt_of_concludes h (hr ▸ .overrun htells hlong)

/-- A wait is over with one result. -/
theorem EndsAt.result_eq {m n : Nat} {result other : Except ClientError Job}
    (h : w.EndsAt m result) (hother : w.EndsAt n other) : result = other := by
  have hm := h.ends (m + n + 1) (by omega)
  have hn := hother.ends (m + n + 1) (by omega)
  exact congrArg Prod.fst (hm.symm.trans hn)

/-- A wait that an answer ends returns on it unless the program stops. -/
theorem returnsAt_iff_of_concludes {n : Nat} (h : ∀ i < n, w.GoesOn i)
    {result : Except ClientError Job}
    (hends : Concludes w.id w.wait (w.elapsed n) (w.answer n) result) :
    w.ReturnsAt n result ↔ ¬ w.StopsAt n := by
  have hstops : (∃ cause, result = .error (.stopped cause)) ↔ w.StopsAt n :=
    hends.stopped_iff fun e he ↦ w.isLocal_of_answer he
  rw [← hstops]
  constructor
  · rintro hreturns ⟨cause, hcause⟩
    exact hreturns.not_stopped cause hcause
  · intro hnot
    exact ⟨w.endsAt_of_concludes h hends, fun cause hcause ↦ hnot ⟨cause, hcause⟩⟩

/-- A wait whose answers all keep it going is over when the last question is answered. -/
theorem outcome_of_goesOn {polls : Nat} (h : ∀ i < polls, w.GoesOn i) :
    ∃ e, (w.outcome polls).1 = .error e := by
  have hloop := w.loop_eq_none h
  unfold loop at hloop
  have hpoll : pollJob (w.link.noting .asks) w.clock.noting w.client w.id w.wait
      (w.clock.noting.reading (w.start, [])) polls (w.start, []) = _ := hloop
  unfold outcome
  rw [waitForJob, Action.outcome_ofFunction]
  simp only [hpoll]
  exact ⟨_, rfl⟩

/-- A wait that does not go on after each of some turns has a first turn that it ends on. -/
theorem exists_first_end {polls : Nat} (h : ¬ ∀ i < polls, w.GoesOn i) :
    ∃ n < polls, ¬ w.GoesOn n ∧ ∀ i < n, w.GoesOn i := by
  induction polls with
  | zero => exact absurd (fun i hi ↦ absurd hi i.not_lt_zero) h
  | succ polls ih =>
    by_cases hbefore : ∀ i < polls, w.GoesOn i
    · refine ⟨polls, polls.lt_succ_self, fun hlast ↦ h fun i hi ↦ ?_, hbefore⟩
      rcases Nat.lt_succ_iff_lt_or_eq.mp hi with hless | rfl
      · exact hbefore i hless
      · exact hlast
    · obtain ⟨n, hn, hends⟩ := ih hbefore
      exact ⟨n, Nat.lt_succ_of_lt hn, hends⟩

/-! ## A server with a script -/

/-- A wait for a job of a server whose answers are written down, with the readings of the clock
after each. The state counts the answers. -/
def scripted (content : Nat → Json) (reading : Nat → Nat) (client : Client) (id : String)
    (wait : JobWait) : Waiting Nat where
  link.exchange _ n :=
    (.ok (Simulator.Answer.reply Simulator.jobCommand 200 (content n)).toReply, n + 1)
  link.now _ := ⟨0, 0⟩
  clock := ⟨reading, fun _ n ↦ n⟩
  client := client
  id := id
  wait := wait
  start := 0

/-- A client with keys for a server on its own host. -/
def keyHolder : Client :=
  ⟨⟨"http", "", "", some (.domain "localhost"), some 8080, .segments ["client", "api"], none, none⟩,
    some (.signed ⟨"stub-api-key", "stub-secret-key", none⟩)⟩

/-- The client can send its requests. -/
theorem isReady_keyHolder : keyHolder.IsReady ⟨0, 0⟩ :=
  ⟨rfl, ⟨_, rfl, rfl⟩, by decide⟩

/-- A job that is pending, as a server describes it. -/
def pendingJob : Json :=
  .object [("jobid", .string "j"), ("jobstatus", .ofNat 0)]

/-- A wait for a job that is pending for ever. -/
def pendingForever (reading : Nat → Nat) (wait : JobWait) : Waiting Nat :=
  scripted (fun _ ↦ pendingJob) reading keyHolder "j" wait

section

variable {content : Nat → Json} {reading : Nat → Nat} {client : Client} {id : String}
  {wait : JobWait} (hready : client.IsReady ⟨0, 0⟩)
include hready

/-- The answer to each question is the one that is written down. -/
theorem outcome_reply_scripted (n : Nat) :
    (client.reply (scripted content reading client id wait).link .queryAsyncJobResult
      (jobParams id)).outcome n =
      (.ok (Simulator.Answer.reply Simulator.jobCommand 200 (content n)).toReply, n + 1) := by
  obtain ⟨r, hr⟩ := hready.exists_request (scripted content reading client id wait).link
    .queryAsyncJobResult (jobParams id) n
  rw [outcome_reply, hr]
  simp only [Link.replyTo, scripted]

/-- As many questions have been asked before a turn as there are turns before it. -/
theorem before_scripted (n : Nat) : (scripted content reading client id wait).before n = n := by
  induction n with
  | zero => rfl
  | succ n ih =>
    show ((client.reply (scripted content reading client id wait).link .queryAsyncJobResult
      (jobParams id)).outcome ((scripted content reading client id wait).before n)).2 = n + 1
    rw [ih, outcome_reply_scripted hready]

/-- The answer of a turn is the one that is written down for it. -/
theorem answer_scripted (n : Nat) : (scripted content reading client id wait).answer n =
    .ok (Simulator.Answer.reply Simulator.jobCommand 200 (content n)).toReply := by
  unfold answer
  rw [before_scripted hready]
  exact congrArg Prod.fst (outcome_reply_scripted hready n)

/-- The time of an answer is read from the script. -/
theorem elapsed_scripted (n : Nat) :
    (scripted content reading client id wait).elapsed n = reading (n + 1) - reading 0 := by
  unfold elapsed answered
  rw [before_scripted hready]
  show reading ((client.reply (scripted content reading client id wait).link .queryAsyncJobResult
    (jobParams id)).outcome n).2 - reading 0 = reading (n + 1) - reading 0
  rw [outcome_reply_scripted hready]

section

variable {n : Nat}
  (hback : (Simulator.Answer.reply Simulator.jobCommand 200 (content n)).IsReadBack)
  (hnone : ((content n).get? Envelope.errorCodeKey).bind Envelope.code? = none)
  {item : Json} (hitem : Envelope.Shows (content n) item) {job : Job}
  (hdecode : Job.decode item = .ok job)
include hback hnone hitem hdecode

/-- A script tells of a job in each answer that shows one and reports no error. -/
theorem tellsOf_scripted {code : Int} (hcode : Job.HasStatus item code) :
    ∃ r, (scripted content reading client id wait).answer n = .ok r ∧ r.TellsOf job code :=
  ⟨_, answer_scripted hready n, content n, item, Envelope.unwrap_reply hback hnone, hitem, hdecode,
    hcode⟩

/-- A script keeps the wait going by a pending job in time. -/
theorem goesOn_scripted (hcode : Job.HasStatus item 0)
    (htime : reading (n + 1) - reading 0 + wait.interval ≤ wait.timeout) :
    (scripted content reading client id wait).GoesOn n := by
  obtain ⟨r, hr, htells⟩ := tellsOf_scripted hready hback hnone hitem hdecode hcode
  refine ⟨r, job, hr, htells, ?_⟩
  rw [elapsed_scripted hready]
  exact htime

/-- A script overruns by a pending job after too long a time. -/
theorem overruns_scripted (hcode : Job.HasStatus item 0)
    (htime : Span.longest < reading (n + 1) - reading 0 + wait.interval) :
    Overruns wait ((scripted content reading client id wait).elapsed n)
      ((scripted content reading client id wait).answer n) := by
  obtain ⟨r, hr, htells⟩ := tellsOf_scripted hready hback hnone hitem hdecode hcode
  refine ⟨r, job, hr, htells, ?_⟩
  rw [elapsed_scripted hready]
  exact htime

end

end

section

variable (reading : Nat → Nat) (wait : JobWait)

/-- The time of an answer about a pending job is read from the clock. -/
theorem elapsed_pendingForever (n : Nat) :
    (pendingForever reading wait).elapsed n = reading (n + 1) - reading 0 :=
  elapsed_scripted isReady_keyHolder n

/-- An answer about a pending job overruns if the end of the next pause is too long a time. -/
theorem overruns_pendingForever {n : Nat}
    (htime : Span.longest < reading (n + 1) - reading 0 + wait.interval) :
    Overruns wait ((pendingForever reading wait).elapsed n)
      ((pendingForever reading wait).answer n) := by
  obtain ⟨job, hdecode⟩ : ∃ job, Job.decode pendingJob = .ok job := ⟨_, rfl⟩
  have hshows : Envelope.Shows pendingJob pendingJob := .itself nofun nofun
  have hcode : Job.HasStatus pendingJob 0 := .code (j := .ofNat 0) rfl nofun
  exact overruns_scripted isReady_keyHolder (Json.parse?_compact (by decide)) rfl hshows hdecode
    hcode htime

end

/-! ## Any history -/

/-- Over any history, the wait goes on from answer to answer as long as each tells of a pending job
and leaves the time for another pause. On the first answer that does not it is over, with the result
that belongs to it, and it asks nothing more. It returns that result unless the program stops. So no
wait ends with a job that has not succeeded. -/
theorem endsAt_of_history :
    (∀ n, (∀ i < n, w.GoesOn i) → w.loop n (w.start, []) = (none, w.before n, w.events n)) ∧
    (∀ n, (∀ i < n, w.GoesOn i) → ¬ w.GoesOn n →
      (∃ result, Concludes w.id w.wait (w.elapsed n) (w.answer n) result) ∧
      ∀ result, Concludes w.id w.wait (w.elapsed n) (w.answer n) result →
        w.EndsAt n result ∧ (w.ReturnsAt n result ↔ ¬ w.StopsAt n)) ∧
    ∀ polls job, (w.outcome polls).1 = .ok job → job.status = .succeeded := by
  refine ⟨fun n h ↦ w.loop_eq_none h, fun n h hends ↦ ?_, fun polls job hjob ↦ ?_⟩
  · refine ⟨exists_concludes w.id hends, fun result hresult ↦ ?_⟩
    exact ⟨w.endsAt_of_concludes h hresult, w.returnsAt_iff_of_concludes h hresult⟩
  by_cases hgoes : ∀ i < polls, w.GoesOn i
  · obtain ⟨e, he⟩ := w.outcome_of_goesOn hgoes
    rw [he] at hjob
    cases hjob
  · obtain ⟨n, hn, hends, hfirst⟩ := w.exists_first_end hgoes
    obtain ⟨result, hresult⟩ := exists_concludes w.id hends
    have houtcome := (w.endsAt_of_concludes hfirst hresult).ends polls hn
    have hok : result = .ok job := by
      rw [houtcome] at hjob
      exact hjob
    subst hok
    exact hresult.status_eq

/-- A client is told of a pending job by the name of the status, then by a job without a status,
and then of the job that has succeeded, as the first of a list. -/
theorem endsAt_of_history_list :
    let first : Json := .object [("jobid", .string "j"), ("jobstatus", .string "pending")]
    let second : Json := .object [("jobid", .string "j")]
    let third : Json := .object [("jobid", .string "j"), ("jobstatus", .string "1")]
    let content : Nat → Json
      | 0 => first
      | 1 => second
      | _ => .array [third, .null]
    let w := scripted content (2500000000 * ·) keyHolder "j"
      { interval := 2000000000, timeout := 7000000000 }
    ∃ job, job.status = .succeeded ∧ w.ReturnsAt 2 (.ok job) := by
  intro first second third content w
  have hgoes : ∀ i < 2, w.GoesOn i := by
    intro i hi
    match i, hi with
    | 0, _ =>
      obtain ⟨job, hdecode⟩ : ∃ job, Job.decode first = .ok job := ⟨_, rfl⟩
      exact goesOn_scripted isReady_keyHolder (Json.parse?_compact (by decide)) rfl
        (.itself nofun nofun) hdecode (.code (j := .string "pending") rfl nofun) (by decide)
    | 1, _ =>
      obtain ⟨job, hdecode⟩ : ∃ job, Job.decode second = .ok job := ⟨_, rfl⟩
      exact goesOn_scripted isReady_keyHolder (Json.parse?_compact (by decide)) rfl
        (.itself nofun nofun) hdecode (.absent rfl) (by decide)
  obtain ⟨job, hdecode⟩ : ∃ job, Job.decode third = .ok job := ⟨_, rfl⟩
  obtain ⟨r, hr, htells⟩ : ∃ r, w.answer 2 = .ok r ∧ r.TellsOf job 1 :=
    tellsOf_scripted isReady_keyHolder (Json.parse?_compact (by decide)) rfl
      (.first third [.null]) hdecode (.code (j := .string "1") rfl nofun)
  have hconcludes : Concludes w.id w.wait (w.elapsed 2) (w.answer 2) (.ok job) :=
    hr ▸ .succeeded htells
  have hends : ¬ w.GoesOn 2 := hconcludes.not_goesOn fun e he ↦ w.isLocal_of_answer he
  obtain ⟨_, hover, hsucceeded⟩ := w.endsAt_of_history
  have hat : w.EndsAt 2 (.ok job) := ((hover 2 hgoes hends).2 (.ok job) hconcludes).1
  exact ⟨job, hsucceeded 3 job (congrArg Prod.fst (hat.ends 3 (by omega))), hat, nofun⟩

/-- The interval is as many seconds as 64 bits count, the job is pending, and the answer has taken a
second: far more time than ten minutes would have passed after a pause. The wait should return with
the end of its time, and the program stops. -/
theorem endsAt_overrun :
    let w := pendingForever (1000000000 * ·)
      { interval := 18446744073709551615000000000, timeout := 600000000000 }
    (∃ r job, w.answer 0 = .ok r ∧ r.TellsOf job 0) ∧
      w.wait.timeout < w.elapsed 0 + w.wait.interval ∧
      w.EndsAt 0 (.error (.stopped .length)) ∧
      ¬ w.ReturnsAt 0 (.error (.jobTimeout "j" (w.elapsed 0))) := by
  intro w
  have hover : Client.Overruns w.wait (w.elapsed 0) (w.answer 0) :=
    overruns_pendingForever _ _ (by decide)
  have hfirst : ∀ i < 0, w.GoesOn i := nofun
  have hends := w.endsAt_of_overruns hfirst hover
  obtain ⟨r, told, hr, htells, hlong⟩ := hover
  refine ⟨⟨r, told, hr, htells⟩, Nat.lt_of_le_of_lt w.wait.timeout_le hlong, hends, ?_⟩
  intro hreturns
  cases hends.result_eq w hreturns.toEndsAt

/-! ## The time it takes -/

/-- The clock moves on by at least the interval from one answer to the next, as long as the wait
goes on. -/
def IsPaced : Prop :=
  ∀ n, (∀ i ≤ n, w.GoesOn i) → w.elapsed n + w.wait.interval ≤ w.elapsed (n + 1)

/-- What a client does stays within its budget: it asks no more often than there are pauses in the
time, it pauses only where the time is left for it, and all the pauses together take no more. -/
structure StaysWithin (events : List WaitEvent) : Prop where
  questions : events.countP WaitEvent.isQuestion ≤ w.wait.timeout / w.wait.interval + 1
  pauses : ∀ reading length, .pauses reading length ∈ events → length = w.wait.interval ∧
    reading - w.clock.reading w.start + w.wait.interval ≤ w.wait.timeout
  total : (events.map WaitEvent.duration).sum ≤ w.wait.timeout

/-- As much time has passed as the pauses take. -/
theorem mul_interval_le_elapsed (hpaced : w.IsPaced) {n : Nat} (h : ∀ i < n, w.GoesOn i) :
    n * w.wait.interval ≤ w.elapsed n := by
  induction n with
  | zero => simp only [Nat.zero_mul, Nat.zero_le]
  | succ n ih =>
    have hbefore := ih fun i hi ↦ h i (Nat.lt_succ_of_lt hi)
    have hpause := hpaced n fun i hi ↦ h i (Nat.lt_succ_of_le hi)
    rw [Nat.succ_mul]
    omega

/-- The pauses of the turns that a wait goes on after are within the time. -/
theorem mul_interval_le_timeout (hpaced : w.IsPaced) {n : Nat} (h : ∀ i < n, w.GoesOn i) :
    n * w.wait.interval ≤ w.wait.timeout := by
  cases n with
  | zero => simp only [Nat.zero_mul, Nat.zero_le]
  | succ n =>
    have hpassed := w.mul_interval_le_elapsed hpaced fun i hi ↦ h i (Nat.lt_succ_of_lt hi)
    obtain ⟨_, _, _, _, htime⟩ := h n n.lt_succ_self
    rw [Nat.succ_mul]
    omega

/-- A turn has one question at most. -/
theorem question_eq (n : Nat) : w.question n = [] ∨ ∃ r, w.question n = [.asks r] := by
  unfold question
  cases w.client.request? w.link .queryAsyncJobResult (jobParams w.id) (w.before n) with
  | error e => exact .inl rfl
  | ok r => exact .inr ⟨r, rfl⟩

/-- The question of a turn counts as one at most. -/
theorem countP_question_le (n : Nat) : (w.question n).countP WaitEvent.isQuestion ≤ 1 := by
  rcases w.question_eq n with hnone | ⟨r, hr⟩
  · simp [hnone]
  · simp [hr, WaitEvent.isQuestion]

/-- The question of a turn takes no time by itself. -/
theorem sum_duration_question (n : Nat) : ((w.question n).map WaitEvent.duration).sum = 0 := by
  rcases w.question_eq n with hnone | ⟨r, hr⟩
  · simp [hnone]
  · simp [hr, WaitEvent.duration]

/-- The question of a turn is no pause. -/
theorem pauses_not_mem_question (n reading length : Nat) :
    .pauses reading length ∉ w.question n := by
  rcases w.question_eq n with hnone | ⟨r, hr⟩
  · simp [hnone]
  · simp [hr]

/-- There are no more questions than turns. -/
theorem countP_events_le (n : Nat) : (w.events n).countP WaitEvent.isQuestion ≤ n := by
  induction n with
  | zero => exact Nat.le_refl 0
  | succ n ih =>
    have hlast := w.countP_question_le n
    have hpause : ∀ reading length,
        [WaitEvent.pauses reading length].countP WaitEvent.isQuestion = 0 :=
      fun _ _ ↦ rfl
    simp only [events, List.countP_append, hpause]
    omega

/-- The pauses take the interval once for each turn. -/
theorem sum_duration_events (n : Nat) :
    ((w.events n).map WaitEvent.duration).sum = n * w.wait.interval := by
  induction n with
  | zero => simp [events]
  | succ n ih =>
    simp only [events, List.map_append, List.sum_append, ih, sum_duration_question,
      List.map_singleton, List.sum_singleton, WaitEvent.duration]
    rw [Nat.succ_mul, Nat.add_zero]

/-- Every pause follows a turn that the wait goes on after. -/
theorem exists_turn_of_pauses {n reading length : Nat} (h : .pauses reading length ∈ w.events n) :
    ∃ i < n, reading = w.clock.reading (w.answered i) ∧ length = w.wait.interval := by
  induction n with
  | zero => exact absurd h List.not_mem_nil
  | succ n ih =>
    simp only [events, List.mem_append, pauses_not_mem_question, or_false, List.mem_singleton,
      WaitEvent.pauses.injEq] at h
    rcases h with hbefore | ⟨hreading, hlength⟩
    · obtain ⟨i, hi, hturn⟩ := ih hbefore
      exact ⟨i, Nat.lt_succ_of_lt hi, hturn⟩
    · exact ⟨n, n.lt_succ_self, hreading, hlength⟩

/-- What a client does until it is answered for the last time stays within its budget. -/
theorem staysWithin (hpaced : w.IsPaced) (hinterval : 0 < w.wait.interval) {n : Nat}
    (h : ∀ i < n, w.GoesOn i) : w.StaysWithin (w.events n ++ w.question n) where
  questions := by
    have hturns : n ≤ w.wait.timeout / w.wait.interval :=
      (Nat.le_div_iff_mul_le hinterval).mpr (w.mul_interval_le_timeout hpaced h)
    have hbefore := w.countP_events_le n
    have hlast := w.countP_question_le n
    rw [List.countP_append]
    omega
  pauses reading length hmem := by
    have hbefore : .pauses reading length ∈ w.events n :=
      (List.mem_append.mp hmem).resolve_right (w.pauses_not_mem_question n reading length)
    obtain ⟨i, hi, rfl, rfl⟩ := w.exists_turn_of_pauses hbefore
    obtain ⟨_, _, _, _, htime⟩ := h i hi
    exact ⟨rfl, htime⟩
  total := by
    rw [List.map_append, List.sum_append, sum_duration_events, sum_duration_question, Nat.add_zero]
    exact w.mul_interval_le_timeout hpaced h

/-- If the clock moves on by the interval with each pause, the wait is over after as many questions
as there are intervals in its time, and one more, whatever the client is told. It pauses only where
its time allows another pause, and if that is shorter than the interval, it asks just once. The wait
returns unless the program stops. -/
theorem ends_in_time (hinterval : 0 < w.wait.interval) (hpaced : w.IsPaced) :
    ∃ n result, n ≤ w.wait.timeout / w.wait.interval ∧ w.EndsAt n result ∧
      w.StaysWithin (w.events n ++ w.question n) ∧
      (w.wait.timeout < w.wait.interval → n = 0) ∧
      (w.ReturnsAt n result ↔ ¬ w.StopsAt n) := by
  have hends : ¬ ∀ i < w.wait.timeout / w.wait.interval + 1, w.GoesOn i := by
    intro hgoes
    have hmul := w.mul_interval_le_timeout hpaced hgoes
    have hle := (Nat.le_div_iff_mul_le hinterval).mpr hmul
    omega
  obtain ⟨n, hn, hlast, hfirst⟩ := w.exists_first_end hends
  obtain ⟨result, hresult⟩ := exists_concludes w.id hlast
  refine ⟨n, result, Nat.le_of_lt_succ hn, w.endsAt_of_concludes hfirst hresult,
    w.staysWithin hpaced hinterval hfirst, fun hshort ↦ ?_,
    w.returnsAt_iff_of_concludes hfirst hresult⟩
  rw [Nat.div_eq_of_lt hshort] at hn
  omega

/-- A client that is told of a pending job for ever, with time for two pauses to the full. -/
theorem ends_in_time_exactly :
    let w := pendingForever (fun n ↦ 2000000000 * (n - 1))
      { interval := 2000000000, timeout := 4000000000 }
    ∃ n result, n ≤ 2 ∧ w.ReturnsAt n result ∧ w.StaysWithin (w.events n ++ w.question n) := by
  intro w
  have helapsed : ∀ n, w.elapsed n = 2000000000 * n := elapsed_pendingForever _ _
  have hpaced : w.IsPaced := by
    intro n _
    show w.elapsed n + 2000000000 ≤ w.elapsed (n + 1)
    rw [helapsed, helapsed, Nat.mul_succ]
  have hinterval : 0 < w.wait.interval := by decide
  obtain ⟨n, result, hn, -, hstays, -, hreturns⟩ := w.ends_in_time hinterval hpaced
  have hturns : n ≤ 4000000000 / 2000000000 := hn
  refine ⟨n, result, hturns, hreturns.mpr ?_, hstays⟩
  rintro (⟨cause, hcause⟩ | ⟨_, _, _, _, hlong⟩)
  · have hanswer : w.answer n = .ok _ := answer_scripted isReady_keyHolder n
    rw [hanswer] at hcause
    cases hcause
  · have hlater : 18446744073709551615999999999 < w.elapsed n + 2000000000 := hlong
    rw [helapsed] at hlater
    omega

/-- The interval is the longest of all, and the clock moves on by that with each pause. The first
answer tells of a pending job, and it has taken a nanosecond. The wait should return then, with the
end of its time, and it never returns. -/
theorem not_returnsAt_longest :
    let w := pendingForever (fun n ↦ n + Span.longest * (n - 1))
      { interval := Span.longest, timeout := 600000000000 }
    0 < w.wait.interval ∧ w.IsPaced ∧ ∀ n result, ¬ w.ReturnsAt n result := by
  intro w
  have helapsed : ∀ n, w.elapsed n = n + 1 + Span.longest * n := elapsed_pendingForever _ _
  have hpaced : w.IsPaced := by
    intro n _
    show w.elapsed n + Span.longest ≤ w.elapsed (n + 1)
    rw [helapsed, helapsed, Nat.mul_succ]
    omega
  have hover : Client.Overruns w.wait (w.elapsed 0) (w.answer 0) :=
    overruns_pendingForever _ _ (by decide)
  have hfirst : ∀ i < 0, w.GoesOn i := nofun
  have hends := w.endsAt_of_overruns hfirst hover
  refine ⟨by decide, hpaced, fun n result hreturns ↦ ?_⟩
  exact hreturns.not_stopped .length (hreturns.toEndsAt.result_eq w hends)

end Waiting

end CloudControl
