import CloudControl.Proofs.Json.Members
import CloudControl.Proofs.Simulator.Run

/-!
# How often a job is pending

A job is pending for the first few times that it is asked for, as many as the settings say, and
then it shows its result for good. `answer_run_of_polls` says so over all runs of calls: what
counts is the number of authorised questions for that job so far, and nothing else.

The state keeps the number of questions for each job. What one call does to it
(`pollsOf_next_of_polls`, `pollsOf_next_of_not_polls`) is carried through a run by induction on its
calls, and `answer_of_polls` reads the answer off the number.
-/

namespace CloudControl.Simulator

/-! ## What a pending job shows -/

/-- The members of a job that say how far it is. -/
def statusFields : List String := ["jobstatus", "jobprocstatus", "jobresultcode"]

/-- The content says that a job is pending: it is an object that says zero for every status, shows
some fields of the job as they are, and has no other member. -/
def ShowsPending (job content : Json) : Prop :=
  ∃ members, content = .object members ∧ Json.Ascending members ∧ ∀ name, members.lookup name =
    if name ∈ statusFields then some (.ofNat 0)
    else if name ∈ pendingFields then job.get? name
    else none

/-- The members that keys have somewhere are found under those keys. -/
theorem lookup_filterMap_keys {α : Type} (f : String → Option α) (keys : List String)
    (name : String) :
    (keys.filterMap fun key ↦ (f key).map (key, ·)).lookup name =
      if name ∈ keys then f name else none := by
  induction keys with
  | nil => rfl
  | cons key rest ih =>
    rw [List.filterMap_cons]
    by_cases heq : name = key
    · subst heq
      cases hvalue : f name with
      | none => simp [ih, hvalue]
      | some v => simp
    · have hne : (name == key) = false := beq_eq_false_iff_ne.mpr heq
      cases hvalue : f key with
      | none => simp [ih, heq]
      | some v => simp [List.lookup_cons, hne, ih, heq]

/-- What a pending job shows says that it is pending. -/
theorem showsPending_pendingContent (job : Json) : ShowsPending job (pendingContent job) := by
  refine ⟨_, rfl, Json.ascending_sortMembers _, fun name ↦ ?_⟩
  rw [Json.lookup_sortMembers, List.reverse_append, ← List.filterMap_reverse, List.lookup_append,
    lookup_filterMap_keys]
  by_cases hstatus : name ∈ statusFields
  · rw [if_pos hstatus]
    simp only [statusFields, List.mem_cons, List.not_mem_nil, or_false] at hstatus
    rcases hstatus with rfl | rfl | rfl <;> rfl
  · rw [if_neg hstatus]
    simp only [statusFields, List.mem_cons, List.not_mem_nil, or_false, not_or] at hstatus
    obtain ⟨hjob, hproc, hresult⟩ := hstatus
    simp [List.lookup_cons, beq_eq_false_iff_ne.mpr hjob, beq_eq_false_iff_ne.mpr hproc,
      beq_eq_false_iff_ne.mpr hresult]

/-! ## The count of a job -/

namespace State

variable (s : State) {job other : String}

/-- A question is counted. -/
theorem pollsOf_countPoll_self : (s.countPoll job).pollsOf job = s.pollsOf job + 1 := by
  simp only [pollsOf, countPoll, List.lookup_cons_self, Option.getD_some]

/-- A question for one job leaves the counts of the others alone. -/
theorem pollsOf_countPoll_of_ne (h : job ≠ other) :
    (s.countPoll other).pollsOf job = s.pollsOf job := by
  simp only [pollsOf, countPoll, List.lookup_cons, beq_eq_false_iff_ne.mpr h]
  rw [lookup_filter_of_ne h]

end State

namespace Call

variable {server : Server} {s : State} {c : Call} {job : String} {fixture : Json}

/-- A call is an authorised question for a job. -/
structure Polls (server : Server) (job : String) (s : State) (c : Call) : Prop where
  command : c.command? = some jobCommand
  authorised : c.IsAuthorised server s
  job : Auth.lookup? "jobid" c.params = some job

instance (server : Server) (job : String) (s : State) (c : Call) :
    Decidable (c.Polls server job s) :=
  decidable_of_iff (c.command? = some jobCommand ∧ c.IsAuthorised server s ∧
      Auth.lookup? "jobid" c.params = some job)
    ⟨fun ⟨hcommand, hauth, hjob⟩ ↦ ⟨hcommand, hauth, hjob⟩,
      fun h ↦ ⟨h.command, h.authorised, h.job⟩⟩

/-- A question for a known job is counted, and answered as the count says. -/
theorem execute_of_polls (hjob : server.fixtures.jobs.lookup job = some fixture)
    (h : c.Polls server job s) :
    execute server c.now s c.params c.cookies =
      (.reply jobCommand 200 (if s.pollsOf job + 1 ≤ server.settings.pendingPolls
        then pendingContent fixture else fixture), s.countPoll job) := by
  obtain ⟨command, hexecute⟩ := execute_of_authorised h.command (by decide) h.authorised
  rw [hexecute, dispatch, if_neg (by decide), if_pos rfl, queryJob, h.job]
  simp only [hjob, s.pollsOf_countPoll_self]

/-- What a question for a known job is answered with. -/
theorem answer_of_polls (hjob : server.fixtures.jobs.lookup job = some fixture)
    (h : c.Polls server job s) :
    c.answer server s = .reply jobCommand 200 (if s.pollsOf job + 1 ≤ server.settings.pendingPolls
      then pendingContent fixture else fixture) :=
  congrArg Prod.fst (execute_of_polls hjob h)

/-- A question for a known job is counted. -/
theorem pollsOf_next_of_polls (hjob : server.fixtures.jobs.lookup job = some fixture)
    (h : c.Polls server job s) : (c.next server s).pollsOf job = s.pollsOf job + 1 := by
  have hnext : c.next server s = s.countPoll job := congrArg Prod.snd (execute_of_polls hjob h)
  rw [hnext, s.pollsOf_countPoll_self]

/-- Every other call leaves the count of the job as it is. -/
theorem pollsOf_next_of_not_polls (h : ¬ c.Polls server job s) :
    (c.next server s).pollsOf job = s.pollsOf job := by
  rcases next_cases server s c with ⟨_, _, hnext⟩ | ⟨_, _, _, _, hnext⟩ |
    ⟨hcommand, hauth, other, hother, _, hnext⟩ | hnext
  · rw [hnext]
    rfl
  · rw [hnext]
    rfl
  · rw [hnext, s.pollsOf_countPoll_of_ne]
    rintro rfl
    exact h ⟨hcommand, hauth, hother⟩
  · rw [hnext]

end Call

/-! ## Runs -/

section

variable {server : Server} {job : String} {fixture : Json}
  (hjob : server.fixtures.jobs.lookup job = some fixture)
include hjob

/-- A run adds to the count of a job the number of questions for it. -/
theorem pollsOf_run (s : State) (calls : List Call) :
    (run server s calls).pollsOf job =
      s.pollsOf job + count server (Call.Polls server job) s calls := by
  induction calls generalizing s with
  | nil => rfl
  | cons c calls ih =>
    -- The rest of the run starts from the count that the first call leaves.
    rw [run, ih, count]
    by_cases hpolls : c.Polls server job s
    · rw [Call.pollsOf_next_of_polls hjob hpolls, if_pos hpolls, Nat.add_assoc]
    · rw [Call.pollsOf_next_of_not_polls hpolls, if_neg hpolls, Nat.zero_add]

/-- What a question for a job is answered with after a run. -/
theorem answer_run {calls : List Call} {c : Call}
    (h : c.Polls server job (run server .initial calls)) :
    c.answer server (run server .initial calls) = .reply jobCommand 200
      (if count server (Call.Polls server job) .initial calls + 1 ≤ server.settings.pendingPolls
        then pendingContent fixture else fixture) := by
  have hnone : State.initial.pollsOf job = 0 := rfl
  rw [Call.answer_of_polls hjob h, pollsOf_run hjob, hnone, Nat.zero_add]

/-- How a job is answered for, over all runs. The first authorised questions for it, as many as
the settings say, are told that it is pending. Every later one is shown its fixture, and so is
each question after that. A call that is no authorised question for the job leaves its count
alone: neither one that is refused, nor one for another job, nor any other command. -/
theorem answer_run_of_polls (calls : List Call) :
    (∀ c : Call, c.Polls server job (run server .initial calls) →
      let turn := count server (Call.Polls server job) .initial calls + 1
      (turn ≤ server.settings.pendingPolls → ∃ content, ShowsPending fixture content ∧
        c.answer server (run server .initial calls) = .reply jobCommand 200 content) ∧
      (server.settings.pendingPolls < turn →
        c.answer server (run server .initial calls) = .reply jobCommand 200 fixture ∧
        ∀ between (later : Call),
          later.Polls server job (run server .initial (calls ++ c :: between)) →
          later.answer server (run server .initial (calls ++ c :: between)) =
            .reply jobCommand 200 fixture)) ∧
    ∀ other : Call, ¬ other.Polls server job (run server .initial calls) →
      (run server .initial (calls ++ [other])).pollsOf job =
        (run server .initial calls).pollsOf job := by
  constructor
  · intro c hpolls turn
    constructor
    · intro hpending
      refine ⟨pendingContent fixture, showsPending_pendingContent fixture, ?_⟩
      rw [answer_run hjob hpolls, if_pos hpending]
    · intro hdone
      refine ⟨by rw [answer_run hjob hpolls, if_neg (Nat.not_le.mpr hdone)], ?_⟩
      -- The count never falls.
      intro between later hlater
      have hcount : count server (Call.Polls server job) .initial calls ≤
          count server (Call.Polls server job) .initial (calls ++ c :: between) := by
        rw [count_append]
        exact Nat.le_add_right _ _
      rw [answer_run hjob hlater, if_neg (by omega)]
  · intro other hother
    rw [run_append]
    exact Call.pollsOf_next_of_not_polls hother

end

/-- A job that is pending once is pending for the first question of a session, though another job
and a client without a session have been asked for before, and shows its result to the second. -/
theorem answer_run_of_polls_twice :
    let fixture : Json := .object [("cmd", .string "deploy"), ("jobid", .string "j"),
      ("jobresult", .object [("id", .string "vm")]), ("jobstatus", .ofNat 1)]
    let server : Server := ⟨.usual, ⟨[], [("j", fixture)]⟩, fun _ ↦ ⟨"k", "C"⟩⟩
    let poll (job : String) (credentials : List Param) : Call :=
      ⟨⟨0, 0⟩, [("command", "QueryAsyncJobResult"), ("JobId", job)] ++ credentials, []⟩
    let session : List Param := [("sessionkey", "k")]
    let login : Call :=
      ⟨⟨0, 0⟩, [("command", "login"), ("username", "admin"), ("password", "password")], []⟩
    let calls := [login, poll "other" session, poll "j" []]
    let first := poll "j" session
    first.Polls server "j" (run server .initial calls) ∧
      (∃ content, ShowsPending fixture content ∧
        first.answer server (run server .initial calls) = .reply jobCommand 200 content) ∧
      first.Polls server "j" (run server .initial (calls ++ [first])) ∧
      first.answer server (run server .initial (calls ++ [first])) =
        .reply jobCommand 200 fixture := by
  intro fixture server poll session login calls first
  have haccepts : acceptsLogin server.settings login.params = true := by
    simp only [acceptsLogin, Bool.and_eq_true, Bool.or_eq_true, beq_iff_eq]
    exact ⟨by decide, .inr (by decide)⟩
  have hlogin : login.next server .initial = State.initial.openSession ⟨"k", "C"⟩ := by
    rw [Call.next_login server .initial (by decide), if_pos haccepts]
  have hjob : server.fixtures.jobs.lookup "j" = some fixture := rfl
  have hfirst : first.Polls server "j" (run server .initial calls) := by
    rw [run, hlogin]
    decide
  have hsecond : first.Polls server "j" (run server .initial (calls ++ [first])) := by
    show first.Polls server "j" (run server .initial (login :: _))
    rw [run, hlogin]
    decide
  have hnone : count server (Call.Polls server "j") .initial calls = 0 := by
    rw [count, hlogin]
    decide
  have hone : count server (Call.Polls server "j") .initial (calls ++ [first]) = 1 := by
    rw [count_append, hnone, count, if_pos hfirst]
    rfl
  refine ⟨hfirst, ?_, hsecond, ?_⟩
  · exact ((answer_run_of_polls hjob calls).1 first hfirst).1 (by rw [hnone]; decide)
  · exact (((answer_run_of_polls hjob (calls ++ [first])).1 first hsecond).2
      (by rw [hone]; decide)).1

end CloudControl.Simulator
