import CloudControl.Proofs.Form
import CloudControl.Proofs.Simulator.Jobs
import CloudControl.Proofs.Simulator.Sessions

/-!
# Requests that are refused or fail

A request without valid credentials is refused before the server looks at its fixtures, so that the
refusal tells nothing of them; and a request that fails for whatever reason changes nothing.
`refused_of_not_isAuthorised` says so of one request in any state, and of any run on two servers
that differ in nothing but their fixtures: the sessions of both are the same all along
(`SameSessions.run`), and so are the refusals.
-/

namespace CloudControl.Simulator

/-- Two states have the same open sessions, and the same number of logins. -/
structure SameSessions (s s' : State) : Prop where
  sessions : s'.sessions = s.sessions
  logins : s'.logins = s.logins

/-- The verdict on a request depends on the open sessions and on nothing else in the state. -/
theorem authorize_of_sessions {s s' : State} (h : s'.sessions = s.sessions) (settings : Settings)
    (now : Instant) (params : List Param) (cookies : List String) :
    authorize settings s' now params cookies = authorize settings s now params cookies := by
  simp only [authorize, authorizeSession, State.session?, h]

namespace Call

variable {server : Server} {s : State} {c : Call}

/-! ## Refusals -/

/-- A call that is not authorised is refused for some reason. -/
theorem exists_refusal (h : ¬ c.IsAuthorised server s) :
    ∃ refusal, authorize server.settings s c.now c.params c.cookies = .error refusal := by
  cases hauth : authorize server.settings s c.now c.params c.cookies with
  | ok _ => exact absurd hauth h
  | error refusal => exact ⟨refusal, rfl⟩

/-- A call that is refused is answered with the reason, unless it is a login. So it is by every
server with the same settings and open sessions. -/
theorem execute_of_refused {name : String} {refusal : Refusal} (hcommand : c.command? = some name)
    (hname : name ≠ "login")
    (h : authorize server.settings s c.now c.params c.cookies = .error refusal)
    {other : Server} {s' : State} (hsettings : other.settings = server.settings)
    (hsessions : s'.sessions = s.sessions) :
    execute other c.now s' c.params c.cookies =
      (.error name unauthorizedStatus refusal.message, s') := by
  obtain ⟨command, hlookup, rfl⟩ := Option.map_eq_some_iff.mp hcommand
  have hother : authorize other.settings s' c.now c.params c.cookies = .error refusal := by
    rw [hsettings, authorize_of_sessions hsessions, h]
  rw [execute_of_lookup? hlookup, if_neg hname, hother]

/-! ## Failures -/

/-- The answer to an authorised logout is no error. -/
theorem status_of_logout (hcommand : c.command? = some "logout") (h : c.IsAuthorised server s) :
    (c.answer server s).status = 200 := by
  obtain ⟨command, hexecute⟩ := execute_of_authorised hcommand (by decide) h
  rw [answer, hexecute, dispatch, if_pos rfl]
  rfl

/-- The answer to a question for a known job is no error. -/
theorem status_of_polls {job : String}
    (hjob : (server.fixtures.jobs.lookup job).isSome = true) (h : c.Polls server job s) :
    (c.answer server s).status = 200 := by
  obtain ⟨fixture, hfixture⟩ := Option.isSome_iff_exists.mp hjob
  rw [answer_of_polls hfixture h]
  rfl

/-- A call that is answered with an error changes nothing. Whatever changes the state is answered
with success: a login that is accepted, an authorised logout, and a question for a known job. -/
theorem next_of_failed (h : (c.answer server s).status ≠ 200) : c.next server s = s := by
  rcases c.next_cases server s with ⟨hcommand, haccepts, _⟩ | ⟨hcommand, hauth, _⟩ |
    ⟨hcommand, hauth, job, hjob, hknown, _⟩ | hnext
  · exact absurd (answer_of_accepts hcommand haccepts).1 h
  · exact absurd (status_of_logout hcommand hauth) h
  · exact absurd (status_of_polls hknown ⟨hcommand, hauth, hjob⟩) h
  · exact hnext

end Call

/-- A request that is answered with an error changes nothing, also if it is not executed. -/
theorem receive_of_failed {server : Server} {now : Instant} {s : State} {r : Incoming}
    (h : (receive server now s r).1.status ≠ 200) : (receive server now s r).2 = s := by
  unfold receive at h ⊢
  split at h
  · rfl
  · let c : Call := ⟨now, r.params, r.cookies⟩
    exact c.next_of_failed h

/-! ## Two servers with other fixtures -/

/-- A call that is neither a login nor a logout leaves the sessions alone. -/
theorem sameSessions_next {server : Server} {s : State} {c : Call}
    (hlogin : c.command? ≠ some "login") (hlogout : c.command? ≠ some "logout") :
    SameSessions s (c.next server s) := by
  rcases c.next_cases server s with ⟨hcommand, _⟩ | ⟨hcommand, _⟩ | ⟨_, _, job, _, _, hnext⟩ | hnext
  · exact absurd hcommand hlogin
  · exact absurd hcommand hlogout
  · rw [hnext]
    exact ⟨rfl, rfl⟩
  · rw [hnext]
    exact ⟨rfl, rfl⟩

namespace SameSessions

variable {server other : Server} {s s' : State}

/-- What is open in one state and in a second is so in a third. -/
theorem trans {s'' : State} (h : SameSessions s s') (h' : SameSessions s' s'') :
    SameSessions s s'' :=
  ⟨h'.sessions.trans h.sessions, h'.logins.trans h.logins⟩

/-- States have the same sessions in either order. -/
theorem symm (h : SameSessions s s') : SameSessions s' s :=
  ⟨h.sessions.symm, h.logins.symm⟩

/-- Servers with the same settings give the same verdict where the sessions are the same. -/
theorem isAuthorised_iff (h : SameSessions s s') (hsettings : other.settings = server.settings)
    (c : Call) : c.IsAuthorised other s' ↔ c.IsAuthorised server s := by
  rw [Call.IsAuthorised, Call.IsAuthorised, hsettings, authorize_of_sessions h.sessions]

variable (hsettings : other.settings = server.settings) (hticket : other.ticket = server.ticket)
include hsettings hticket

/-- A call keeps the sessions of two servers the same, whatever their fixtures are. -/
theorem next (h : SameSessions s s') (c : Call) :
    SameSessions (c.next server s) (c.next other s') := by
  by_cases hlogin : c.command? = some "login"
  · rw [Call.next_login server s hlogin, Call.next_login other s' hlogin, hsettings, hticket,
      h.logins]
    split
    · exact ⟨congrArg (List.cons _) h.sessions, congrArg Nat.succ h.logins⟩
    · exact h
  by_cases hlogout : c.command? = some "logout"
  · by_cases hauth : c.IsAuthorised server s
    · have hauth' : c.IsAuthorised other s' := (h.isAuthorised_iff hsettings c).mpr hauth
      rw [Call.next_logout hlogout hauth, Call.next_logout hlogout hauth']
      cases Auth.lookup? sessionKeyParam c.params with
      | none => exact h
      | some key => exact ⟨congrArg (List.filter _) h.sessions, h.logins⟩
    · have hauth' : ¬ c.IsAuthorised other s' :=
        fun hother ↦ hauth ((h.isAuthorised_iff hsettings c).mp hother)
      rw [Call.next_of_refused hlogin hauth, Call.next_of_refused hlogin hauth']
      exact h
  · exact ((sameSessions_next hlogin hlogout).symm.trans h).trans (sameSessions_next hlogin hlogout)

/-- A run keeps the sessions of two servers the same. -/
theorem run (h : SameSessions s s') (calls : List Call) :
    SameSessions (run server s calls) (run other s' calls) := by
  induction calls generalizing s s' with
  | nil => exact h
  | cons c calls ih => exact ih (h.next hsettings hticket c)

end SameSessions

/-! ## The gate -/

/-- What a server does with requests that it refuses or that fail. In any state, a request with a
command other than a login that is refused is answered with an error of status 401 that tells the
reason, and changes nothing; another server with the same settings and sessions gives just that
answer, whatever its fixtures and the counts of its jobs are. A request that is answered with any
status other than 200 changes nothing, whether it is executed or not. And two servers that differ
in their fixtures alone refuse the same requests of a run, in the same words. -/
theorem refused_of_not_isAuthorised (server : Server) (s : State) :
    (∀ (c : Call) (name : String), c.command? = some name → name ≠ "login" →
      ¬ c.IsAuthorised server s →
        ∃ refusal, authorize server.settings s c.now c.params c.cookies = .error refusal ∧
          ∀ (other : Server) (s' : State), other.settings = server.settings →
            s'.sessions = s.sessions →
              execute other c.now s' c.params c.cookies = (.error name 401 refusal.message, s')) ∧
    (∀ c : Call, (c.answer server s).status ≠ 200 → c.next server s = s) ∧
    (∀ (now : Instant) (r : Incoming), (receive server now s r).1.status ≠ 200 →
      (receive server now s r).2 = s) ∧
    ∀ (other : Server) (calls : List Call) (c : Call) (name : String),
      other.settings = server.settings → other.ticket = server.ticket →
        c.command? = some name → name ≠ "login" → ¬ c.IsAuthorised server (run server s calls) →
          c.answer other (run other s calls) = c.answer server (run server s calls) := by
  refine ⟨fun c name hcommand hname hauth ↦ ?_, fun c ↦ Call.next_of_failed,
    fun now r ↦ receive_of_failed,
    fun other calls c name hsettings hticket hcommand hname hauth ↦ ?_⟩
  · obtain ⟨refusal, hrefusal⟩ := Call.exists_refusal hauth
    exact ⟨refusal, hrefusal, fun other s' ↦ Call.execute_of_refused hcommand hname hrefusal⟩
  · obtain ⟨refusal, hrefusal⟩ := Call.exists_refusal hauth
    have hsame : SameSessions (run server s calls) (run other s calls) :=
      SameSessions.run hsettings hticket ⟨rfl, rfl⟩ calls
    have hanswer : c.answer other (run other s calls) = .error name 401 refusal.message :=
      congrArg Prod.fst
        (Call.execute_of_refused hcommand hname hrefusal hsettings hsame.sessions)
    rw [hanswer, Call.answer, Call.execute_of_refused hcommand hname hrefusal rfl rfl]
    rfl

/-- A logout with the cookie of another session is refused, by a server without fixtures and by one
with them, also after a question for a job that only one of them knows; that question and a query
with two commands fail. -/
theorem refused_of_not_isAuthorised_wrong_cookie :
    let server : Server := ⟨.usual, ⟨[], []⟩, fun _ ↦ ⟨"k", "C"⟩⟩
    let other : Server := { server with fixtures := ⟨[("listzones", .object [])], [("j", .null)]⟩ }
    let s : State := ⟨[("k", "C")], [], 1⟩
    let s' : State := { s with polls := [("j", 2)] }
    let c : Call := ⟨⟨0, 0⟩, [("Command", "LogOut"), ("sessionkey", "k")], ["JSESSIONID=D"]⟩
    let poll : Call := ⟨⟨0, 0⟩, [("command", "queryAsyncJobResult"), ("jobid", "j"),
      ("sessionkey", "k")], []⟩
    let pairs : List Param := [("command", "logout"), ("command", "login")]
    let twice : Incoming := ⟨Form.encodePairs pairs, none, []⟩
    (∃ refusal, authorize server.settings s c.now c.params c.cookies = .error refusal ∧
      execute other c.now s' c.params c.cookies = (.error "logout" 401 refusal.message, s')) ∧
    (poll.answer server s).status = parameterStatus ∧ poll.next server s = s ∧
    (receive server ⟨0, 0⟩ s twice).1.status = 400 ∧ (receive server ⟨0, 0⟩ s twice).2 = s ∧
    (poll.next other s).pollsOf "j" = 1 ∧
      c.answer other (run other s [poll]) = c.answer server (run server s [poll]) := by
  intro server other s s' c poll pairs twice
  obtain ⟨hrefused, hfailed, hnot, hblind⟩ := refused_of_not_isAuthorised server s
  have hstatus : (poll.answer server s).status = parameterStatus := by decide
  have htwice : (receive server ⟨0, 0⟩ s twice).1.status = 400 := by
    have hduplicate : duplicate? [] pairs = some "command" := by decide
    rw [receive, Form.parse_encodePairs, hduplicate]
    rfl
  refine ⟨?_, hstatus, hfailed poll (by rw [hstatus]; decide), htwice,
    hnot ⟨0, 0⟩ twice (by rw [htwice]; decide), by decide, ?_⟩
  · obtain ⟨refusal, hrefusal, hall⟩ := hrefused c "logout" (by decide) (by decide) (by decide)
    exact ⟨refusal, hrefusal, hall other s' rfl rfl⟩
  · exact hblind other [poll] c "logout" rfl rfl (by decide) (by decide) (by decide)

end CloudControl.Simulator
