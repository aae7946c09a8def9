import CloudControl.Proofs.Json.Members
import CloudControl.Proofs.Simulator.Run

/-!
# The life of a session

A login that succeeds opens a session, and an authorised logout that names the session closes it.
`isAuthorised_run_iff` says that nothing else matters, over all runs of calls: a request that
names a session is accepted if a login of the run told its key, no authorised logout has named it
since, and the cookie that the request brings, if any, is the one that the login set.

The state keeps the open sessions by their keys. What one call does to the entry of a key
(`session?_next_of_opens`, `session?_next_of_closes`, `session?_next_of_not_affects`) is carried
through a run by induction on its calls.
-/

namespace CloudControl.Simulator

/-- The session key that a login is answered with. -/
def Answer.sessionKey? (a : Answer) : Option String :=
  match (a.body.get? (responseKey "login")).bind (·.get? sessionKeyParam) with
  | some (.string key) => some key
  | _ => none

namespace Call

/-- A call is a login that succeeds: its answer tells a session key and sets a session cookie. -/
structure Issues (server : Server) (ticket : Ticket) (s : State) (c : Call) : Prop where
  command : c.command? = some "login"
  status : (c.answer server s).status = 200
  sessionKey : (c.answer server s).sessionKey? = some ticket.sessionKey
  cookie : (c.answer server s).setCookie = some (sessionHeader ticket.sessionId)

/-- A call is a login that succeeds and is told a session key. -/
def Opens (server : Server) (key : String) (s : State) (c : Call) : Prop :=
  ∃ ticket, c.Issues server ticket s ∧ ticket.sessionKey = key

/-- A call is an authorised logout that names a session. -/
structure Closes (server : Server) (key : String) (s : State) (c : Call) : Prop where
  command : c.command? = some "logout"
  authorised : c.IsAuthorised server s
  sessionKey : Auth.lookup? sessionKeyParam c.params = some key

/-- A call opens or closes a session. -/
def Affects (server : Server) (key : String) (s : State) (c : Call) : Prop :=
  c.Opens server key s ∨ c.Closes server key s

end Call

/-- Each login that succeeds in a run is told a session key that no later one is told. -/
def DrawsFreshKeys (server : Server) : State → List Call → Prop
  | _, [] => True
  | s, c :: calls =>
    (∀ ticket, c.Issues server ticket s →
      Never server (Call.Opens server ticket.sessionKey) (c.next server s) calls) ∧
    DrawsFreshKeys server (c.next server s) calls

namespace State

variable (s : State) {key other : String}

/-- A session that is opened is found. -/
theorem session?_openSession_self (t : Ticket) :
    (s.openSession t).session? t.sessionKey = some t.sessionId := by
  simp only [session?, openSession, List.lookup_cons, beq_self_eq_true]

/-- Opening a session leaves the others alone. -/
theorem session?_openSession_of_ne {t : Ticket} (h : key ≠ t.sessionKey) :
    (s.openSession t).session? key = s.session? key := by
  simp only [session?, openSession, List.lookup_cons, beq_eq_false_iff_ne.mpr h]

/-- A session that is closed is not found. -/
theorem session?_closeSession_self : (s.closeSession key).session? key = none := by
  rw [session?, closeSession, List.lookup_eq_none_iff]
  intro p hp
  have hne := (List.mem_filter.mp hp).2
  rw [bne_iff_ne] at hne
  exact bne_iff_ne.mpr hne.symm

/-- Closing a session leaves the others alone. -/
theorem session?_closeSession_of_ne (h : key ≠ other) :
    (s.closeSession other).session? key = s.session? key :=
  lookup_filter_of_ne h s.sessions

/-- Counting a question for a job leaves the sessions alone. -/
theorem session?_countPoll (job : String) : (s.countPoll job).session? key = s.session? key := rfl

end State

/-! ## Logins that succeed -/

/-- The content of a login tells its session key. -/
theorem get?_loginContent (sessionKey username : String) :
    (loginContent sessionKey username).get? sessionKeyParam = some (.string sessionKey) :=
  Json.get?_ofMembers [("timeout", .string "1800")] sessionKeyParam (.string sessionKey)
    (by simp [sessionKeyParam])

/-- Cookies that are set by one header are one cookie. -/
theorem sessionHeader_inj {sessionId other : String}
    (h : sessionHeader sessionId = sessionHeader other) : sessionId = other := by
  simpa [sessionHeader] using h

namespace Call

variable {server : Server} {s : State} {c : Call} {ticket : Ticket} {key : String}

/-- The answer to a login that the server accepts tells the ticket whose turn it is. -/
theorem answer_of_accepts (hcommand : c.command? = some "login")
    (haccepts : acceptsLogin server.settings c.params = true) :
    (c.answer server s).status = 200 ∧
      (c.answer server s).sessionKey? = some (server.ticket s.logins).sessionKey ∧
      (c.answer server s).setCookie = some (sessionHeader (server.ticket s.logins).sessionId) := by
  rw [answer, execute_login hcommand, login, if_pos haccepts]
  refine ⟨rfl, ?_, rfl⟩
  have hbody : ∀ content : Json,
      (Json.object [(responseKey "login", content)]).get? (responseKey "login") =
        some content := fun content ↦ by
    simp only [Json.get?, List.lookup_cons, beq_self_eq_true]
  simp only [Answer.sessionKey?, Answer.reply, hbody, Option.bind_some, get?_loginContent]

/-- The answer to a login that the server does not accept is an error. -/
theorem status_of_not_accepts (hcommand : c.command? = some "login")
    (haccepts : ¬ acceptsLogin server.settings c.params = true) :
    (c.answer server s).status = accountStatus := by
  rw [answer, execute_login hcommand, login, if_neg haccepts]
  rfl

/-- A login succeeds if the server accepts its name and password, and is given the ticket whose
turn it is. -/
theorem issues_iff : c.Issues server ticket s ↔
    c.command? = some "login" ∧ acceptsLogin server.settings c.params = true ∧
      ticket = server.ticket s.logins := by
  constructor
  · rintro ⟨hcommand, hstatus, hkey, hcookie⟩
    by_cases haccepts : acceptsLogin server.settings c.params = true
    · obtain ⟨_, hturnKey, hturnCookie⟩ := answer_of_accepts (s := s) hcommand haccepts
      rw [hturnKey, Option.some.injEq] at hkey
      rw [hturnCookie, Option.some.injEq] at hcookie
      exact ⟨hcommand, haccepts, Ticket.ext hkey.symm (sessionHeader_inj hcookie).symm⟩
    · rw [status_of_not_accepts hcommand haccepts] at hstatus
      exact absurd hstatus (by decide)
  · rintro ⟨hcommand, haccepts, rfl⟩
    obtain ⟨hstatus, hkey, hcookie⟩ := answer_of_accepts (s := s) hcommand haccepts
    exact ⟨hcommand, hstatus, hkey, hcookie⟩

/-- A login that succeeds opens the session of its ticket. -/
theorem next_of_issues (h : c.Issues server ticket s) : c.next server s = s.openSession ticket := by
  obtain ⟨hcommand, haccepts, rfl⟩ := issues_iff.mp h
  rw [next_login server s hcommand, if_pos haccepts]

/-- A logout closes the session that it names. -/
theorem next_of_closes (h : c.Closes server key s) : c.next server s = s.closeSession key := by
  rw [next_logout h.command h.authorised, h.sessionKey]

/-! ## One call and the entry of a key -/

/-- A session that is opened is found with the cookie that was set. -/
theorem session?_next_of_opens (h : c.Issues server ticket s) :
    (c.next server s).session? ticket.sessionKey = some ticket.sessionId := by
  rw [next_of_issues h, s.session?_openSession_self]

/-- A session that is closed is not found. -/
theorem session?_next_of_closes (h : c.Closes server key s) :
    (c.next server s).session? key = none := by
  rw [next_of_closes h, s.session?_closeSession_self]

/-- A call that neither opens nor closes a session leaves it as it is. -/
theorem session?_next_of_not_affects (h : ¬ c.Affects server key s) :
    (c.next server s).session? key = s.session? key := by
  rcases next_cases server s c with ⟨hcommand, haccepts, hnext⟩ |
    ⟨hcommand, hauth, other, hother, hnext⟩ | ⟨_, _, job, _, _, hnext⟩ | hnext
  · have hissues : c.Issues server (server.ticket s.logins) s :=
      issues_iff.mpr ⟨hcommand, haccepts, rfl⟩
    rw [hnext, s.session?_openSession_of_ne]
    rintro rfl
    exact h (.inl ⟨_, hissues, rfl⟩)
  · rw [hnext, s.session?_closeSession_of_ne]
    rintro rfl
    exact h (.inr ⟨hcommand, hauth, hother⟩)
  · rw [hnext, s.session?_countPoll]
  · rw [hnext]

end Call

/-! ## Runs and the entry of a key -/

section

variable {server : Server} {key : String}

/-- A run that neither opens nor closes a session leaves it as it is. -/
theorem session?_run_of_never {s : State} {calls : List Call}
    (h : Never server (Call.Affects server key) s calls) :
    (run server s calls).session? key = s.session? key := by
  induction calls generalizing s with
  | nil => rfl
  | cons c calls ih => exact (ih h.2).trans (Call.session?_next_of_not_affects h.1)

/-- A session that is not open is not open after a run that does not open it. -/
theorem session?_run_of_none {s : State} {calls : List Call} (hnone : s.session? key = none)
    (h : Never server (Call.Opens server key) s calls) :
    (run server s calls).session? key = none := by
  induction calls generalizing s with
  | nil => exact hnone
  | cons c calls ih =>
    refine ih ?_ h.2
    by_cases hcloses : c.Closes server key s
    · exact Call.session?_next_of_closes hcloses
    · have hunaffected : ¬ c.Affects server key s := by
        rintro (hopens | hother)
        · exact h.1 hopens
        · exact hcloses hother
      rw [Call.session?_next_of_not_affects hunaffected, hnone]

/-- A session that a run has closed and does not open again is not open after it. -/
theorem session?_run_of_closed {s : State} {calls : List Call}
    (h : Never server (Call.Opens server key) s calls)
    (hclosed : ¬ Never server (Call.Closes server key) s calls) :
    (run server s calls).session? key = none := by
  induction calls generalizing s with
  | nil => exact absurd trivial hclosed
  | cons c calls ih =>
    -- Either the first call closes the session, or a later one does.
    rw [run]
    by_cases hcloses : c.Closes server key s
    · exact session?_run_of_none (Call.session?_next_of_closes hcloses) h.2
    · exact ih h.2 fun hrest ↦ hclosed ⟨hcloses, hrest⟩

/-- A session that is found after a run was there before it, or a login of the run opened it; and
it has not been opened or closed since. -/
theorem exists_issues_of_session?_run {s : State} {calls : List Call} {sessionId : String}
    (h : (run server s calls).session? key = some sessionId) :
    (s.session? key = some sessionId ∧ Never server (Call.Affects server key) s calls) ∨
    ∃ before login after ticket, calls = before ++ login :: after ∧
      login.Issues server ticket (run server s before) ∧ ticket.sessionKey = key ∧
      ticket.sessionId = sessionId ∧
      Never server (Call.Affects server key) (login.next server (run server s before)) after := by
  induction calls generalizing s with
  | nil => exact .inl ⟨h, trivial⟩
  | cons c calls ih =>
    -- Either the session was there after the first call, or a later login has opened it.
    rcases ih h with ⟨hfound, hnever⟩ | ⟨before, login, after, ticket, rfl, hlater⟩
    · by_cases haffects : c.Affects server key s
      · rcases haffects with ⟨ticket, hissues, rfl⟩ | hcloses
        · -- The call is the login itself.
          rw [Call.session?_next_of_opens hissues, Option.some.injEq] at hfound
          exact .inr ⟨[], c, calls, ticket, rfl, hissues, rfl, hfound, hnever⟩
        · rw [Call.session?_next_of_closes hcloses] at hfound
          exact absurd hfound nofun
      · rw [Call.session?_next_of_not_affects haffects] at hfound
        exact .inl ⟨hfound, haffects, hnever⟩
    · exact .inr ⟨c :: before, login, after, ticket, rfl, hlater⟩

/-- Keys that are fresh in a run are fresh in the rest of it. -/
theorem DrawsFreshKeys.of_append {s : State} {before after : List Call}
    (h : DrawsFreshKeys server s (before ++ after)) :
    DrawsFreshKeys server (run server s before) after := by
  induction before generalizing s with
  | nil => exact h
  | cons c before ih => exact ih h.2

/-- A session that a login has opened is found after the run if no logout has closed it. -/
theorem session?_run_of_issues {s : State} {before after : List Call} {login : Call}
    {ticket : Ticket} (hfresh : DrawsFreshKeys server s (before ++ login :: after))
    (hissues : login.Issues server ticket (run server s before))
    (hopen : Never server (Call.Closes server ticket.sessionKey)
      (login.next server (run server s before)) after) :
    (run server s (before ++ login :: after)).session? ticket.sessionKey =
      some ticket.sessionId := by
  have hnever : Never server (Call.Affects server ticket.sessionKey)
      (login.next server (run server s before)) after :=
    (hfresh.of_append.1 ticket hissues).or hopen
  rw [run_append, run, session?_run_of_never hnever, Call.session?_next_of_opens hissues]

end

/-! ## Fresh keys -/

/-- No call lowers the number of logins. -/
theorem logins_le_next (server : Server) (s : State) (c : Call) :
    s.logins ≤ (c.next server s).logins := by
  rcases c.next_cases server s with ⟨_, _, hnext⟩ | ⟨_, _, _, _, hnext⟩ |
    ⟨_, _, _, _, _, hnext⟩ | hnext
  · rw [hnext]
    exact Nat.le_succ s.logins
  all_goals exact Nat.le_of_eq (congrArg State.logins hnext).symm

/-- A key whose turn has passed is told no more if every turn has a key of its own. -/
theorem never_opens_of_lt {server : Server}
    (hdistinct : ∀ m n, (server.ticket m).sessionKey = (server.ticket n).sessionKey → m = n)
    {turn : Nat} {s : State} (hturn : turn < s.logins) (calls : List Call) :
    Never server (Call.Opens server (server.ticket turn).sessionKey) s calls := by
  induction calls generalizing s with
  | nil => trivial
  | cons c calls ih =>
    refine ⟨?_, ih (Nat.lt_of_lt_of_le hturn (logins_le_next server s c))⟩
    rintro ⟨ticket, hissues, hkey⟩
    obtain ⟨_, _, rfl⟩ := Call.issues_iff.mp hissues
    exact Nat.ne_of_gt hturn (hdistinct _ _ hkey)

/-- A server draws fresh keys in every run if every turn has a key of its own. -/
theorem drawsFreshKeys_of_distinct {server : Server}
    (hdistinct : ∀ m n, (server.ticket m).sessionKey = (server.ticket n).sessionKey → m = n)
    (s : State) (calls : List Call) : DrawsFreshKeys server s calls := by
  induction calls generalizing s with
  | nil => trivial
  | cons c calls ih =>
    refine ⟨?_, ih (c.next server s)⟩
    intro ticket hissues
    obtain ⟨_, _, rfl⟩ := Call.issues_iff.mp hissues
    rw [Call.next_of_issues hissues]
    exact never_opens_of_lt hdistinct (Nat.lt_succ_self s.logins) calls

/-! ## Requests that name a session -/

section

variable {r : Call} {key : String}
  (hsignature : Auth.lookup? Auth.signatureParam r.params = none)
include hsignature

/-- A request without a signature is judged by its session. -/
theorem authorize_of_unsigned (settings : Settings) (s : State) :
    authorize settings s r.now r.params r.cookies = authorizeSession s r.params r.cookies := by
  rw [authorize, hsignature]
  exact if_neg nofun

variable (hkey : Auth.lookup? sessionKeyParam r.params = some key)
include hkey

/-- The verdict on a request that names a session depends on that session alone. -/
theorem authorize_congr {settings : Settings} {s s' : State}
    (h : s.session? key = s'.session? key) :
    authorize settings s r.now r.params r.cookies =
      authorize settings s' r.now r.params r.cookies := by
  rw [authorize_of_unsigned hsignature, authorize_of_unsigned hsignature]
  simp only [authorizeSession, hkey, h]

/-- A request that names a session is accepted if the session is open and the cookie is its own. -/
theorem isAuthorised_iff {server : Server} {s : State} : r.IsAuthorised server s ↔
    ∃ sessionId, s.session? key = some sessionId ∧
      ∀ sent, cookie? r.cookies = some sent → sent = sessionId := by
  rw [Call.IsAuthorised, authorize_of_unsigned hsignature]
  simp only [authorizeSession, hkey]
  cases s.session? key with
  | none => simp
  | some sessionId =>
    cases cookie? r.cookies with
    | none => simp
    | some sent => by_cases hsent : sent = sessionId <;> simp [hsent]

end

/-- The life of a session, over all runs of a server that draws fresh keys. A request that names a
session and has no signature is accepted if a login of the run succeeded with that key, no
authorised logout has named the key since, and a cookie of the request is the one of that login.
A call that is neither of the two does not change the verdict: neither a login that fails or is
told another key, nor a logout that is refused or names another session, nor any other command. -/
theorem isAuthorised_run_iff {server : Server} {calls : List Call}
    (hfresh : DrawsFreshKeys server .initial calls) {r : Call} {key : String}
    (hsignature : Auth.lookup? Auth.signatureParam r.params = none)
    (hkey : Auth.lookup? sessionKeyParam r.params = some key) :
    (r.IsAuthorised server (run server .initial calls) ↔
      ∃ before login after ticket, calls = before ++ login :: after ∧
        login.Issues server ticket (run server .initial before) ∧ ticket.sessionKey = key ∧
        Never server (Call.Closes server key) (run server .initial (before ++ [login])) after ∧
        ∀ sent, cookie? r.cookies = some sent → sent = ticket.sessionId) ∧
    ∀ c : Call, (∀ ticket, c.Issues server ticket (run server .initial calls) →
        ticket.sessionKey ≠ key) → ¬ c.Closes server key (run server .initial calls) →
      authorize server.settings (run server .initial (calls ++ [c])) r.now r.params r.cookies =
        authorize server.settings (run server .initial calls) r.now r.params r.cookies := by
  refine ⟨?_, ?_⟩
  · rw [isAuthorised_iff hsignature hkey]
    constructor
    · rintro ⟨sessionId, hsession, hcookie⟩
      rcases exists_issues_of_session?_run hsession with ⟨hnone, _⟩ |
        ⟨before, login, after, ticket, hcalls, hissues, hticket, rfl, hnever⟩
      · exact absurd hnone nofun
      · refine ⟨before, login, after, ticket, hcalls, hissues, hticket, ?_, hcookie⟩
        rw [run_append]
        exact hnever.imp fun _ _ hcloses ↦ .inr hcloses
    · rintro ⟨before, login, after, ticket, rfl, hissues, rfl, hopen, hcookie⟩
      rw [run_append] at hopen
      exact ⟨ticket.sessionId, session?_run_of_issues hfresh hissues hopen, hcookie⟩
  · intro c hissues hcloses
    have hunaffected : ¬ c.Affects server key (run server .initial calls) := by
      rintro (⟨ticket, hticket, heq⟩ | h)
      · exact hissues ticket hticket heq
      · exact hcloses h
    rw [run_append]
    exact authorize_congr hsignature hkey (Call.session?_next_of_not_affects hunaffected)

/-- A session stays open when a client with another cookie tries to close it, when another session
is opened and closed, and when a login fails. -/
theorem isAuthorised_run_two_sessions :
    let server : Server := ⟨.usual, ⟨[], []⟩, fun turn ↦
      ⟨String.ofList (List.replicate (turn + 1) 'k'),
        String.ofList (List.replicate (turn + 1) 'C')⟩⟩
    let call (command : String) (params : List Param) (cookies : List String) : Call :=
      ⟨⟨0, 0⟩, ("command", command) :: params, cookies⟩
    let login := call "Login" [("username", "admin"), ("password", "password")] []
    let calls := [login, call "logout" [("sessionkey", "k")] ["JSESSIONID=D"], login,
      call "logout" [("sessionkey", "kk")] []]
    let failed := call "login" [("username", "root"), ("password", "password")] []
    let r := call "listZones" [("SessionKey", "k"), ("sessionkey", "kk")] ["JSESSIONID=C"]
    DrawsFreshKeys server .initial calls ∧ r.IsAuthorised server (run server .initial calls) ∧
      r.IsAuthorised server (run server .initial (calls ++ [failed])) := by
  intro server call login calls failed r
  have hfresh : DrawsFreshKeys server .initial calls := by
    refine drawsFreshKeys_of_distinct (fun m n h ↦ ?_) .initial calls
    have hlength := congrArg String.length h
    simpa [server] using hlength
  have hissues : login.Issues server (server.ticket 0) .initial :=
    Call.issues_iff.mpr ⟨by decide, by
      simp only [acceptsLogin, Bool.and_eq_true, Bool.or_eq_true, beq_iff_eq]
      exact ⟨by decide, .inr (by decide)⟩, rfl⟩
  have haccepted : r.IsAuthorised server (run server .initial calls) := by
    refine (isAuthorised_run_iff hfresh rfl rfl).1.mpr
      ⟨[], login, calls.tail, server.ticket 0, rfl, hissues, by decide, ?_, ?_⟩
    · refine ⟨fun h ↦ ?_, fun h ↦ absurd h.command (by decide),
        fun h ↦ absurd h.sessionKey (by decide), trivial⟩
      have hauth := h.authorised
      rw [List.nil_append, run, run, Call.next_of_issues hissues] at hauth
      exact absurd hauth (by decide)
    · decide
  refine ⟨hfresh, haccepted, ?_⟩
  have hsame := (isAuthorised_run_iff hfresh (r := r) rfl rfl).2 failed ?_ ?_
  · exact hsame.trans haccepted
  · intro ticket h
    exact absurd (Call.issues_iff.mp h).2.1 (by decide)
  · exact fun h ↦ absurd h.command (by decide)

end CloudControl.Simulator
