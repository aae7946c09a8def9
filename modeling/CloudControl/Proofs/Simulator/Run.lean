import CloudControl.Proofs.Lists
import CloudControl.Simulator.Server

/-!
# Runs of the simulated server

A run is any number of calls, one after the other. `Call.next_cases` says once what a call can do
to the state of a server: a login that is accepted opens a session, an authorised logout closes
one, an authorised question for a known job is counted, and every other call leaves the state as
it is.
-/

namespace CloudControl.Simulator

/-- What a server does with parameters in which it finds a command. -/
theorem execute_of_lookup? {server : Server} {params : List Param} {command : String}
    (h : Auth.lookup? Command.commandParam params = some command) (now : Instant) (s : State)
    (cookies : List String) :
    execute server now s params cookies =
      if Text.lowercase command = "login" then login server s params
      else match authorize server.settings s now params cookies with
        | .error refusal =>
          (.error (Text.lowercase command) unauthorizedStatus refusal.message, s)
        | .ok () => dispatch server s command (Text.lowercase command) params := by
  cases hverdict : authorize server.settings s now params cookies <;>
    simp only [execute, h, hverdict]

/-- The parameters and cookies of a request, and the time at which it is executed. -/
structure Call where
  now : Instant
  params : List Param
  cookies : List String
  deriving DecidableEq

namespace Call

/-- The command of a call, in small letters. -/
def command? (c : Call) : Option String :=
  (Auth.lookup? Command.commandParam c.params).map Text.lowercase

/-- The server accepts the credentials of a call. -/
def IsAuthorised (server : Server) (s : State) (c : Call) : Prop :=
  authorize server.settings s c.now c.params c.cookies = .ok ()

instance (server : Server) (s : State) (c : Call) : Decidable (c.IsAuthorised server s) :=
  match h : authorize server.settings s c.now c.params c.cookies with
  | .ok () => .isTrue h
  | .error _ => .isFalse fun hok ↦ nomatch h.symm.trans hok

/-- What a call is answered with. -/
def answer (server : Server) (s : State) (c : Call) : Answer :=
  (execute server c.now s c.params c.cookies).1

/-- The state after a call. -/
def next (server : Server) (s : State) (c : Call) : State :=
  (execute server c.now s c.params c.cookies).2

variable {server : Server} {s : State} {c : Call}

/-- A login is answered whatever the credentials of the call are. -/
theorem execute_login (h : c.command? = some "login") :
    execute server c.now s c.params c.cookies = login server s c.params := by
  obtain ⟨command, hcommand, hname⟩ := Option.map_eq_some_iff.mp h
  rw [execute_of_lookup? hcommand, if_pos hname]

/-- A call without valid credentials changes nothing, unless it is a login. -/
theorem next_of_refused (hname : c.command? ≠ some "login") (h : ¬ c.IsAuthorised server s) :
    c.next server s = s := by
  unfold next execute
  cases hcommand : Auth.lookup? Command.commandParam c.params with
  | none => rfl
  | some command =>
    have hlogin : Text.lowercase command ≠ "login" := by
      intro heq
      exact hname (by rw [command?, hcommand, Option.map_some, heq])
    cases hauth : authorize server.settings s c.now c.params c.cookies with
    | ok _ => exact absurd hauth h
    | error refusal => simp only [if_neg hlogin]

/-- An authorised call other than a login is dispatched by its command. -/
theorem execute_of_authorised {name : String} (hcommand : c.command? = some name)
    (hname : name ≠ "login") (h : c.IsAuthorised server s) :
    ∃ command, execute server c.now s c.params c.cookies =
      dispatch server s command name c.params := by
  obtain ⟨command, hlookup, rfl⟩ := Option.map_eq_some_iff.mp hcommand
  rw [IsAuthorised] at h
  exact ⟨command, by rw [execute_of_lookup? hlookup, if_neg hname, h]⟩

/-- What an authorised call other than a login does is what its command does. -/
theorem next_of_authorised {name : String} (hcommand : c.command? = some name)
    (hname : name ≠ "login") (h : c.IsAuthorised server s) :
    ∃ command, c.next server s = (dispatch server s command name c.params).2 := by
  obtain ⟨command, hexecute⟩ := execute_of_authorised hcommand hname h
  exact ⟨command, congrArg Prod.snd hexecute⟩

/-- What a logout does: it closes the session that it names, if it names one. -/
theorem next_logout (hcommand : c.command? = some "logout") (h : c.IsAuthorised server s) :
    c.next server s = match Auth.lookup? sessionKeyParam c.params with
      | some key => s.closeSession key
      | none => s := by
  obtain ⟨command, hnext⟩ := next_of_authorised hcommand (by decide) h
  rw [hnext, dispatch, if_pos rfl]
  rfl

/-- What a question for a job does: it is counted if the job is known. -/
theorem next_queryJob (hcommand : c.command? = some jobCommand) (h : c.IsAuthorised server s) :
    (∃ job, Auth.lookup? "jobid" c.params = some job ∧
      (server.fixtures.jobs.lookup job).isSome = true ∧ c.next server s = s.countPoll job) ∨
    c.next server s = s := by
  obtain ⟨command, hnext⟩ := next_of_authorised hcommand (by decide) h
  rw [hnext, dispatch, if_neg (by decide), if_pos rfl, queryJob]
  cases hjob : Auth.lookup? "jobid" c.params with
  | none => exact .inr rfl
  | some job =>
    cases hfixture : server.fixtures.jobs.lookup job with
    | none => exact .inr (by simp only [hfixture])
    | some fixture => exact .inl ⟨job, rfl, by rw [hfixture]; rfl, by simp only [hfixture]⟩

/-- An authorised call of any other command changes nothing. -/
theorem next_of_other {name : String} (hcommand : c.command? = some name)
    (hlogin : name ≠ "login") (hlogout : name ≠ "logout") (hjob : name ≠ jobCommand)
    (h : c.IsAuthorised server s) : c.next server s = s := by
  obtain ⟨command, hnext⟩ := next_of_authorised hcommand hlogin h
  rw [hnext, dispatch, if_neg hlogout, if_neg hjob]

/-- A login opens a session if the server accepts its name and password. -/
theorem next_login (server : Server) (s : State) (hcommand : c.command? = some "login") :
    c.next server s = if acceptsLogin server.settings c.params then
      s.openSession (server.ticket s.logins) else s := by
  rw [next, execute_login hcommand, login]
  split <;> rfl

/-- What a call can do to the state. -/
theorem next_cases (server : Server) (s : State) (c : Call) :
    (c.command? = some "login" ∧ acceptsLogin server.settings c.params = true ∧
      c.next server s = s.openSession (server.ticket s.logins)) ∨
    (c.command? = some "logout" ∧ c.IsAuthorised server s ∧
      ∃ key, Auth.lookup? sessionKeyParam c.params = some key ∧
        c.next server s = s.closeSession key) ∨
    (c.command? = some jobCommand ∧ c.IsAuthorised server s ∧
      ∃ job, Auth.lookup? "jobid" c.params = some job ∧
        (server.fixtures.jobs.lookup job).isSome = true ∧ c.next server s = s.countPoll job) ∨
    c.next server s = s := by
  by_cases hlogin : c.command? = some "login"
  · have hnext := next_login server s hlogin
    by_cases haccepts : acceptsLogin server.settings c.params = true
    · rw [if_pos haccepts] at hnext
      exact .inl ⟨hlogin, haccepts, hnext⟩
    · rw [if_neg haccepts] at hnext
      exact .inr (.inr (.inr hnext))
  by_cases hauth : c.IsAuthorised server s
  · by_cases hlogout : c.command? = some "logout"
    · have hnext := next_logout hlogout hauth
      cases hkey : Auth.lookup? sessionKeyParam c.params with
      | none =>
        rw [hkey] at hnext
        exact .inr (.inr (.inr hnext))
      | some key =>
        rw [hkey] at hnext
        exact .inr (.inl ⟨hlogout, hauth, key, rfl, hnext⟩)
    by_cases hjob : c.command? = some jobCommand
    · rcases next_queryJob hjob hauth with hcounted | hnext
      · exact .inr (.inr (.inl ⟨hjob, hauth, hcounted⟩))
      · exact .inr (.inr (.inr hnext))
    cases hname : c.command? with
    | none =>
      -- A call without a command is answered before its credentials are looked at.
      have hcommand := Option.map_eq_none_iff.mp hname
      refine .inr (.inr (.inr ?_))
      simp only [next, execute, hcommand]
    | some name =>
      rw [hname, Option.some.injEq] at hlogin hlogout hjob
      exact .inr (.inr (.inr (next_of_other hname hlogin hlogout hjob hauth)))
  · exact .inr (.inr (.inr (next_of_refused hlogin hauth)))

end Call

/-- The state after calls, one after the other. -/
def run (server : Server) : State → List Call → State
  | s, [] => s
  | s, c :: calls => run server (c.next server s) calls

/-- A run goes on where the run before it ended. -/
theorem run_append (server : Server) (s : State) (before after : List Call) :
    run server s (before ++ after) = run server (run server s before) after := by
  induction before generalizing s with
  | nil => rfl
  | cons c before ih => exact ih (c.next server s)

/-- No call of a run is of a kind, in the state that it meets. -/
def Never (server : Server) (kind : State → Call → Prop) : State → List Call → Prop
  | _, [] => True
  | s, c :: calls => ¬ kind s c ∧ Never server kind (c.next server s) calls

/-- The number of calls of a run that are of a kind, each in the state that it meets. -/
def count (server : Server) (kind : State → Call → Prop) [∀ s c, Decidable (kind s c)] :
    State → List Call → Nat
  | _, [] => 0
  | s, c :: calls =>
    (if kind s c then 1 else 0) + count server kind (c.next server s) calls

/-- The calls of a kind are counted up to where a run goes on, and from there. -/
theorem count_append (server : Server) (kind : State → Call → Prop)
    [∀ s c, Decidable (kind s c)] (s : State) (before after : List Call) :
    count server kind s (before ++ after) =
      count server kind s before + count server kind (run server s before) after := by
  induction before generalizing s with
  | nil => exact (Nat.zero_add _).symm
  | cons c before ih =>
    rw [List.cons_append, count, count, run, ih, Nat.add_assoc]

/-- A run without calls of two kinds has none of either kind. -/
theorem Never.or {server : Server} {kind other : State → Call → Prop} {s : State}
    {calls : List Call} (h : Never server kind s calls) (hother : Never server other s calls) :
    Never server (fun s c ↦ kind s c ∨ other s c) s calls := by
  induction calls generalizing s with
  | nil => trivial
  | cons c calls ih =>
    refine ⟨?_, ih h.2 hother.2⟩
    rintro (hkind | hkind)
    · exact h.1 hkind
    · exact hother.1 hkind

/-- A run without calls of a kind has none of a narrower kind. -/
theorem Never.imp {server : Server} {kind narrower : State → Call → Prop} {s : State}
    {calls : List Call} (h : Never server kind s calls)
    (himp : ∀ s c, narrower s c → kind s c) : Never server narrower s calls := by
  induction calls generalizing s with
  | nil => trivial
  | cons c calls ih => exact ⟨fun hnarrower ↦ h.1 (himp s c hnarrower), ih h.2⟩

end CloudControl.Simulator
