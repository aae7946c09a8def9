import CloudControl.Client.Session
import CloudControl.Proofs.Client.Envelope
import CloudControl.Proofs.Client.ListingRequest
import CloudControl.Proofs.Json.RoundTrip
import CloudControl.Proofs.Schema.Decode
import CloudControl.Proofs.Simulator.Refusals

/-!
# The session of a client

A login over the simulated server succeeds with the name and the password of the server, and its
credentials stand for the session that the server has opened: its key is read out of the reply, and
its cookie goes from one header into the other (`sessionIdOfSetCookie?_sessionHeader`,
`cookie?_cookieHeader`). `Client.login_opens_session` follows the session from there. Every request
of the client is accepted, whatever happens in between, up to an authorised logout that names the
session, and every later one is refused.
-/

namespace CloudControl

open Auth Simulator Text

/-! ## Cookies -/

namespace Auth

/-- A text that can be the value of a cookie: it has no semicolon and no blank. -/
def IsCookieText (id : String) : Prop :=
  ∀ c ∈ id.toList, c ≠ ';' ∧ isBlank c = false

instance (id : String) : Decidable (IsCookieText id) :=
  decidable_of_iff ((id.toList.all fun c ↦ c != ';' && !isBlank c) = true)
    (by simp [IsCookieText])

variable {id : String}

/-- The session cookie as it stands in a header. -/
def cookiePair (id : String) : List Char :=
  sessionCookie.toList ++ '=' :: id.toList

/-- The session cookie has no semicolon and no blank in a header. -/
theorem IsCookieText.of_mem_cookiePair (h : IsCookieText id) :
    ∀ c ∈ cookiePair id, c ≠ ';' ∧ isBlank c = false := by
  have hname : IsCookieText (sessionCookie ++ "=") := by decide
  intro c hc
  rw [cookiePair, List.append_cons] at hc
  rcases List.mem_append.mp hc with hc | hc
  · exact hname c (by rwa [String.toList_append])
  · exact h c hc

/-- The value of the session cookie is read off its part of a header. -/
theorem sessionIdOfPart?_cookiePair (h : IsCookieText id) :
    sessionIdOfPart? (trimList (cookiePair id)) = some id := by
  have htrim : trimList (cookiePair id) = cookiePair id :=
    trimList_of_ends (fun c hc ↦ (h.of_mem_cookiePair c (List.mem_of_head? hc)).2)
      fun c hc ↦ (h.of_mem_cookiePair c (List.mem_of_getLast? hc)).2
  have hpair : cookiePair id = (sessionCookie.toList ++ ['=']) ++ id.toList := by
    rw [cookiePair, List.append_cons]
  have hfront : (sessionCookie.toList ++ ['=']).isPrefixOf (cookiePair id) = true := by
    rw [List.isPrefixOf_iff_prefix, hpair]
    exact List.prefix_append _ _
  rw [htrim, sessionIdOfPart?]
  simp only [hfront, if_true]
  rw [hpair, List.drop_left, String.ofList_toList]

/-- No part of the session cookie in a header is taken for another cookie. -/
theorem not_semicolon_of_mem_cookiePair (h : IsCookieText id) :
    ∀ c ∈ cookiePair id, (c == ';') = false :=
  fun c hc ↦ beq_eq_false_iff_ne.mpr (h.of_mem_cookiePair c hc).1

/-- The cookie that a login sets is read off the header that sets it. -/
theorem sessionIdOfSetCookie?_sessionHeader (h : IsCookieText id) :
    sessionIdOfSetCookie? (sessionHeader id) = some id := by
  have hheader : (sessionHeader id).toList =
      cookiePair id ++ ';' :: " Path=/client; HttpOnly".toList := by
    simp only [sessionHeader, String.toList_append, cookiePair, List.append_assoc]
    rfl
  have hsplit : (cookiePair id ++ ';' :: " Path=/client; HttpOnly".toList).splitOn ';' =
      cookiePair id :: " Path=/client; HttpOnly".toList.splitOn ';' :=
    List.splitOnP_append_cons_of_forall_mem (not_semicolon_of_mem_cookiePair h) ';' rfl _
  rw [sessionIdOfSetCookie?, hheader, hsplit, List.findSome?_cons, sessionIdOfPart?_cookiePair h]

/-- The cookie of a session is found by the server as it was set, if the header can be read. -/
theorem cookie?_cookieHeader (h : IsCookieText id) {sent : String}
    (hsent : cookie? [sessionCookie ++ "=" ++ id] = some sent) : sent = id := by
  have hheader : (sessionCookie ++ "=" ++ id).toList = cookiePair id := by
    simp only [String.toList_append, cookiePair, List.append_assoc]
    rfl
  have hsplit : (cookiePair id).splitOn ';' = [cookiePair id] :=
    List.splitOnP_eq_singleton (not_semicolon_of_mem_cookiePair h)
  rw [cookie?, List.filter_cons] at hsent
  split at hsent
  · rw [List.filter_nil, List.flatMap_singleton, hheader, hsplit, List.findSome?_cons,
      sessionIdOfPart?_cookiePair h] at hsent
    exact (Option.some.inj hsent).symm
  · cases hsent

end Auth

namespace Client

variable {id : String}

/-- A client takes the cookie out of the header that sets it, if the header can be read. -/
theorem sessionIdOf?_sessionHeader (h : IsCookieText id) :
    sessionIdOf? [sessionHeader id] =
      if isReadableHeader (sessionHeader id) then some id else none := by
  rw [sessionIdOf?, List.filter_cons]
  split
  · rw [List.filter_nil, List.findSome?_cons, sessionIdOfSetCookie?_sessionHeader h]
  · rfl

/-- The cookie of a session that a login has opened can be sent. -/
theorem all_isHeaderChar_cookieHeader (h : IsCookieText id) (key : String) :
    (((Session.mk key (sessionIdOf? [sessionHeader id])).cookieHeader.getD "").toList.all
      isHeaderChar) = true := by
  rw [sessionIdOf?_sessionHeader h]
  split
  · next hreadable =>
    -- The cookie is the front of the header that sets it.
    have hchars : ∀ c ∈ (sessionCookie ++ "=" ++ id).toList, c ∈ (sessionHeader id).toList := by
      intro c hc
      rw [sessionHeader, String.toList_append]
      exact List.mem_append_left _ hc
    refine List.all_eq_true.mpr fun c hc ↦ ?_
    have hc := List.all_eq_true.mp hreadable c (hchars c hc)
    simp only [isHeaderChar, Bool.or_eq_true, Bool.and_eq_true, decide_eq_true_eq,
      bne_iff_ne] at hc ⊢
    exact hc.imp_right fun hrange ↦ ⟨hrange.1, Nat.ne_of_lt hrange.2⟩
  · rfl

/-- The server finds no other cookie than the one that it has set. -/
theorem cookie?_of_sessionHeader (h : IsCookieText id) (key : String) {sent : String}
    (hsent : Simulator.cookie?
      (Session.mk key (sessionIdOf? [sessionHeader id])).cookieHeader.toList = some sent) :
    sent = id := by
  rw [sessionIdOf?_sessionHeader h] at hsent
  split at hsent
  · exact cookie?_cookieHeader h hsent
  · cases hsent

/-! ## Logging in -/

/-- The parameters of a login name the command, the user and the digest of the password. -/
theorem lookup?_loginParams (l : Login) :
    lookup? Command.commandParam (loginParams l).entries = some Command.login.name ∧
      lookup? "username" (loginParams l).entries = some l.username ∧
      lookup? "password" (loginParams l).entries = some l.hashedPassword := by
  have hbase : ∀ p ∈ Command.login.baseParams.entries,
      ∀ name ∈ ["username", "password"], isNamed name p = false := by
    decide
  have hset : loginParams l = ((Command.login.baseParams.set "username" l.username).set
    "password" l.hashedPassword).set "domain" l.domain := rfl
  rw [hset]
  refine ⟨?_, ?_, ?_⟩
  · rw [lookup?_set_of_ne (by decide), lookup?_set_of_ne (by decide),
      lookup?_set_of_ne (by decide)]
    decide
  · rw [lookup?_set_of_ne (by decide), lookup?_set_of_ne (by decide)]
    exact lookup?_set (by decide) (fun p hp ↦ hbase p hp "username" (by decide)) _
  · rw [lookup?_set_of_ne (by decide)]
    refine lookup?_set (by decide) (fun p hp ↦ ?_) _
    rcases mem_setEntry hp with rfl | hp
    · exact (by decide : eqFolded "username" "password" = false)
    · exact hbase p hp "password" (by decide)

/-- A server accepts a login with its name and its password, in any domain. -/
theorem acceptsLogin_loginParams {settings : Settings} {l : Login}
    (husername : l.username = settings.username) (hpassword : l.password = settings.password) :
    acceptsLogin settings (loginParams l).entries = true := by
  obtain ⟨_, hname, hdigest⟩ := lookup?_loginParams l
  simp only [acceptsLogin, paramText, hname, hdigest, Option.getD_some, husername,
    Login.hashedPassword, hpassword, beq_self_eq_true, Bool.true_or, Bool.and_self]

end Client

namespace Simulator

section

variable (sessionKey username : String)

/-- The answer to a login is read back as it was printed. -/
theorem isReadBack_loginContent :
    (Answer.reply "login" 200 (loginContent sessionKey username)).IsReadBack := by
  have hmembers : ∃ members, loginContent sessionKey username = .ofMembers members ∧
      ∀ m ∈ members, ∃ s, m.2 = .string s := ⟨_, rfl, by simp⟩
  obtain ⟨members, hcontent, hstrings⟩ := hmembers
  have hexact : (loginContent sessionKey username).isExact 126 = true := by
    rw [hcontent]
    refine Json.isExact_object_iff.mpr ⟨125, rfl, Json.ascending_sortMembers _, fun m hm ↦ ?_⟩
    obtain ⟨s, hs⟩ := hstrings m (Json.mem_sortMembers hm)
    rw [hs, Json.isExact]
  exact Answer.isReadBack_reply hexact "login" 200

/-- The content of a login holds no error. -/
theorem errorCode_loginContent :
    (loginContent sessionKey username).get? Envelope.errorCodeKey = none := by
  simp only [loginContent, Json.ofMembers, Json.get?, Json.lookup_sortMembers]
  rfl

open Schema in
/-- The content of a login is read as a reply that tells the session key. -/
theorem exists_decode_loginContent : ∃ v : Value,
    Kind.loginResponse.decode (loginContent sessionKey username) = .ok v ∧
      v.fields.text? "sessionkey" = some sessionKey := by
  obtain ⟨members, hcontent⟩ : ∃ members, loginContent sessionKey username = .object members :=
    ⟨_, rfl⟩
  have hlookup : ∀ name, members.lookup name =
      (loginContent sessionKey username).get? name := fun _ ↦ by rw [hcontent, Json.get?]
  have hdecode : ∃ v, Kind.loginResponse.decode (.object members) = .ok v := by
    refine Kind.exists_decode_object_iff.mpr fun f hf ↦ ?_
    rw [hlookup]
    simp only [loginContent, Json.ofMembers, Json.get?, Json.lookup_sortMembers]
    simp only [List.mem_cons, List.not_mem_nil, or_false] at hf
    rcases hf with rfl | rfl | rfl | rfl | rfl | rfl | rfl | rfl | rfl | rfl | rfl | rfl <;>
      exact ⟨_, rfl⟩
  obtain ⟨v, hv⟩ := hdecode
  obtain ⟨x, hx, hread⟩ := Kind.exists_reads_of_decode (by decide) hv List.mem_cons_self
  rw [hlookup] at hread
  change Kind.text.Reads ((loginContent sessionKey username).get? sessionKeyParam) x at hread
  rw [get?_loginContent] at hread
  cases hread
  rw [hcontent]
  exact ⟨v, hv, congrArg (Option.bind · Value.text?) hx⟩

end

/-- The answer to a login that the server accepts: a content that is read back and holds no error,
and from which the key of the session that is opened can be read, with the cookie of that
session. -/
theorem exists_execute_loginParams {server : Server} {l : Login}
    (husername : l.username = server.settings.username)
    (hpassword : l.password = server.settings.password) (now : Instant) (s : State) :
    ∃ (content : Json) (v : Schema.Value),
      execute server now s (Client.loginParams l).entries [] =
        (⟨200, some (sessionHeader (server.ticket s.logins).sessionId),
          (Answer.reply "login" 200 content).body⟩, s.openSession (server.ticket s.logins)) ∧
      (Answer.reply "login" 200 content).IsReadBack ∧
      content.get? Envelope.errorCodeKey = none ∧
      Schema.Kind.loginResponse.decode content = .ok v ∧
      v.fields.text? "sessionkey" = some (server.ticket s.logins).sessionKey := by
  obtain ⟨hcommand, hname, _⟩ := Client.lookup?_loginParams l
  let call : Call := ⟨now, (Client.loginParams l).entries, []⟩
  have hlogin : call.command? = some "login" := by
    rw [Call.command?, hcommand]
    rfl
  let key := (server.ticket s.logins).sessionKey
  obtain ⟨v, hv, hkey⟩ := exists_decode_loginContent key l.username
  refine ⟨_, v, ?_, isReadBack_loginContent key l.username, errorCode_loginContent key l.username,
    hv, hkey⟩
  rw [Call.execute_login (c := call) hlogin, login,
    if_pos (Client.acceptsLogin_loginParams husername hpassword)]
  simp only [call, paramText, hname, Option.getD_some]
  rfl

end Simulator

namespace Client

variable {server : Server} {w : World} {c : Client}

/-- What a client is answered to a login that the server accepts: the key of the session that the
server has opened and, if it can be read, the cookie. -/
theorem outcome_login (hweb : c.endpoint.isWeb = true) (hquery : c.endpoint.query = none)
    {l : Login} (husername : l.username = server.settings.username)
    (hpassword : l.password = server.settings.password) :
    ∃ v : Schema.Value,
      v.fields.text? "sessionkey" = some (server.ticket w.state.logins).sessionKey ∧
        (c.login (Simulator.link server) l).outcome w =
          (.ok ⟨v.fields,
            sessionIdOf? [sessionHeader (server.ticket w.state.logins).sessionId]⟩,
            { w with state := w.state.openSession (server.ticket w.state.logins) }) := by
  obtain ⟨content, v, hexecute, hback, hcode, hv, hkey⟩ :=
    exists_execute_loginParams husername hpassword w.now w.state
  refine ⟨v, hkey, ?_⟩
  have hreceive : receive server w.now w.state
      (.ofRequest (c.requestOf Command.login.verb (loginParams l).entries none)) =
        execute server w.now w.state (loginParams l).entries [] :=
    receive_requestOf (fun _ ↦ hquery) (OnlyOnce.of_params (loginParams l)) none w.now w.state
  have hunwrap : Envelope.unwrap Command.login.name 200
      (Answer.reply "login" 200 content).body.compact = .ok content :=
    Envelope.unwrap_reply hback (by rw [hcode]; rfl)
  have hsent : (c.sendPairs (Simulator.link server) Command.login.name Command.login.verb
      (loginParams l).entries none).outcome w =
        (.ok ([sessionHeader (server.ticket w.state.logins).sessionId], content),
          { w with state := w.state.openSession (server.ticket w.state.logins) }) := by
    rw [outcome_sendPairs, outcome_deliver, checkRequest_requestOf hweb, if_pos (by decide)]
    dsimp only
    rw [Simulator.replyTo_link (hreceive.trans hexecute)]
    simp only [Answer.toReply, hunwrap]
    rfl
  rw [login, Action.outcome_bind, hsent]
  dsimp only
  rw [Action.outcome_bind, outcome_lift, Envelope.decode, hv]
  rfl

/-! ## Later requests -/

/-- Neither the caller nor the command itself brings a command, a signature or a session key, in any
letter case. -/
def BringsNoSession (command : Command) (params : Params) : Prop :=
  ∀ p ∈ params.entries ++ command.fixed,
    ∀ name ∈ [Command.commandParam, signatureParam, sessionKeyParam], isNamed name p = false

instance (command : Command) (params : Params) : Decidable (BringsNoSession command params) :=
  inferInstanceAs (Decidable (∀ p ∈ params.entries ++ command.fixed,
    ∀ name ∈ [Command.commandParam, signatureParam, sessionKeyParam], isNamed name p = false))

/-- The commands of the catalogue bring none of them by themselves. -/
theorem bringsNoSession_of_mem {command : Command} (h : command ∈ Catalog.commands)
    {params : Params} (hparams : ∀ p ∈ params.entries,
      ∀ name ∈ [Command.commandParam, signatureParam, sessionKeyParam], isNamed name p = false) :
    BringsNoSession command params := by
  have hnames : ∀ name ∈ [Command.commandParam, signatureParam, sessionKeyParam],
      name ∈ pageParams ++ credentialParams ++ [Command.commandParam] := by
    decide
  intro p hp name hname
  rcases List.mem_append.mp hp with hp | hp
  · exact hparams p hp name hname
  · exact isNamed_fixed h p hp name (hnames name hname)

section

variable {command : Command} {params : Params} (hparams : BringsNoSession command params)
  (held : Session) (now : Instant)
include hparams

/-- A request of a session carries no signature. -/
theorem BringsNoSession.lookup?_signature :
    lookup? signatureParam
      ((Credentials.session held).call now (commandParams command params)).params = none := by
  show lookup? signatureParam (Params.set _ _ _).entries = none
  rw [lookup?_set_of_ne (by decide)]
  exact lookup?_eq_none_iff.mpr fun p hp ↦
    isNamed_commandParams (by decide) (by decide) (fun p hp ↦ hparams p hp _ (by decide)) hp

/-- A request of a session names it. -/
theorem BringsNoSession.lookup?_sessionKey :
    lookup? Simulator.sessionKeyParam
      ((Credentials.session held).call now (commandParams command params)).params =
        some held.sessionKey :=
  lookup?_set (by decide) (fun p hp ↦
    isNamed_commandParams (by decide) (by decide) (fun p hp ↦ hparams p hp _ (by decide)) hp) _

/-- A request of a session is one of its command. -/
theorem BringsNoSession.command?_call :
    ((Credentials.session held).call now (commandParams command params)).command? =
      some (lowercase command.name) := by
  have hcommand : ∀ p ∈ params.entries ++ command.fixed,
      isNamed Command.commandParam p = false :=
    fun p hp ↦ hparams p hp _ (by decide)
  have hlookup : lookup? Command.commandParam
      ((Credentials.session held).addTo now (commandParams command params)).1 =
        some command.name := by
    rw [Credentials.lookup?_addTo _ _ _ (by decide), lookup?_commandParams hcommand]
  exact congrArg (Option.map lowercase) hlookup

end

/-- A reply of status 401 is read as an error of a client that is not authorised. -/
theorem exists_unwrap_unauthorized (command body : String) : ∃ e : ApiError,
    Envelope.unwrap command 401 body = .error (.api e) ∧ e.status = 401 ∧
      e.kind = .unauthorized := by
  let r : Reply := ⟨401, [], body⟩
  have hstatus : ∀ code, Envelope.errorStatus 401 code = 401 := by
    rintro (_ | code) <;> rfl
  refine ⟨_, unwrap_of_reportsError (r := r) (.inl rfl), hstatus _, ?_⟩
  show classify (Envelope.errorStatus 401 _) _ = _
  rw [hstatus]
  rfl

section

variable {held : Session} (hcredentials : c.credentials = some (.session held))
  (hweb : c.endpoint.isWeb = true) (hquery : c.endpoint.query = none)
  (hsends : c.sendsCookie = true) {command : Command} {params : Params}
  (hparams : BringsNoSession command params)
include hcredentials hweb hquery hsends hparams

/-- The request of a client with an open session is executed and accepted, if the server finds no
cookie in it other than the one of the session. -/
theorem exists_authorised_request {sessionId : String}
    (hsession : w.state.session? held.sessionKey = some sessionId)
    (hcookie : ∀ sent, Simulator.cookie? held.cookieHeader.toList = some sent → sent = sessionId) :
    ∃ r, c.request? (Simulator.link server) command params w = .ok r ∧
      receive server w.now w.state (.ofRequest r) =
        execute server w.now w.state (Incoming.ofRequest r).params (Incoming.ofRequest r).cookies ∧
      authorize server.settings w.state w.now (Incoming.ofRequest r).params
        (Incoming.ofRequest r).cookies = .ok () := by
  have hauth : ((Credentials.session held).call w.now
      (commandParams command params)).IsAuthorised server w.state :=
    (isAuthorised_iff (hparams.lookup?_signature held w.now)
      (hparams.lookup?_sessionKey held w.now)).mpr ⟨sessionId, hsession, hcookie⟩
  have hrequest :=
    request?_of_credentials (Simulator.link server) command params w hcredentials hweb rfl
  rw [hsends, if_pos rfl] at hrequest
  have honce := (Credentials.session held).onlyOnce_addTo w.now (commandParams command params)
  refine ⟨_, hrequest, ?_, ?_⟩
  · rw [params_ofRequest hquery, cookies_ofRequest]
    exact receive_requestOf (fun _ ↦ hquery) honce _ _ _
  · rw [params_ofRequest hquery, cookies_ofRequest]
    exact hauth

/-- The request of a client whose session is not open is refused. -/
theorem exists_send_unauthorized (hname : lowercase command.name ≠ "login")
    (hsession : w.state.session? held.sessionKey = none) :
    ∃ e : ApiError, (c.send (Simulator.link server) command params).outcome w =
      (.error (.api e), w) ∧ e.status = 401 ∧ e.kind = .unauthorized := by
  let call : Call := (Credentials.session held).call w.now (commandParams command params)
  have hauth : ¬ call.IsAuthorised server w.state := by
    rw [isAuthorised_iff (hparams.lookup?_signature held w.now)
      (hparams.lookup?_sessionKey held w.now), hsession]
    rintro ⟨sessionId, hfound, _⟩
    cases hfound
  obtain ⟨refusal, hrefusal⟩ := Call.exists_refusal hauth
  have hexecute : execute server call.now w.state call.params call.cookies =
      (.error (lowercase command.name) unauthorizedStatus refusal.message, w.state) :=
    Call.execute_of_refused (hparams.command?_call held w.now) hname hrefusal rfl rfl
  obtain ⟨e, hunwrap, hstatus, hkind⟩ := exists_unwrap_unauthorized command.name
    (Answer.error (lowercase command.name) unauthorizedStatus refusal.message).body.compact
  refine ⟨e, ?_, hstatus, hkind⟩
  rw [outcome_send, outcome_reply_of_server hcredentials hweb rfl (fun _ ↦ hquery), hsends,
    if_pos rfl, Call.answer, Call.next, hexecute]
  exact congrArg (·, w) hunwrap

end

/-- The session of a client, from its login on. A client that asks over the web, at an address
without a query, logs in with the name and the password of the server, in any domain, and gets the
key of a session that the server has opened. Let any calls follow that open no other session of the
same key, by whatever clients. As long as none of them is an authorised logout that names the
session, the client can send every command with its credentials, and the server executes and accepts
the request. Once there has been one, each such request is answered with an error of status 401,
unless it is a login. Parameters of the caller that are called `command`, `signature` or
`sessionkey` are left out of this. -/
theorem login_opens_session (hweb : c.endpoint.isWeb = true) (hquery : c.endpoint.query = none)
    {l : Login} (husername : l.username = server.settings.username)
    (hpassword : l.password = server.settings.password)
    (hcookie : IsCookieText (server.ticket w.state.logins).sessionId) :
    ∃ session : OpenSession,
      (c.login (Simulator.link server) l).outcome w =
        (.ok session, { w with state := w.state.openSession (server.ticket w.state.logins) }) ∧
      session.sessionKey = (server.ticket w.state.logins).sessionKey ∧
      ∀ (between : List Call) (w' : World) (command : Command) (params : Params),
        Never server (Call.Opens server session.sessionKey)
          (w.state.openSession (server.ticket w.state.logins)) between →
        w'.state = run server (w.state.openSession (server.ticket w.state.logins)) between →
        BringsNoSession command params →
        let client := c.withCredentials session.credentials
        let isOpen := Never server (Call.Closes server session.sessionKey)
          (w.state.openSession (server.ticket w.state.logins)) between
        (isOpen → ∃ r, client.request? (Simulator.link server) command params w' = .ok r ∧
          receive server w'.now w'.state (.ofRequest r) = execute server w'.now w'.state
            (Incoming.ofRequest r).params (Incoming.ofRequest r).cookies ∧
          authorize server.settings w'.state w'.now (Incoming.ofRequest r).params
            (Incoming.ofRequest r).cookies = .ok ()) ∧
        (¬ isOpen → lowercase command.name ≠ "login" → ∃ e : ApiError,
          (client.send (Simulator.link server) command params).outcome w' =
            (.error (.api e), w') ∧ e.status = 401 ∧ e.kind = .unauthorized) := by
  obtain ⟨v, hkey, hlogin⟩ := outcome_login (w := w) hweb hquery husername hpassword
  let ticket := server.ticket w.state.logins
  let session : OpenSession := ⟨v.fields, sessionIdOf? [sessionHeader ticket.sessionId]⟩
  have hsessionKey : session.sessionKey = ticket.sessionKey := by
    rw [OpenSession.sessionKey, hkey, Option.getD_some]
  refine ⟨session, hlogin, hsessionKey, ?_⟩
  intro between w' command params hfresh hrun hparams client isOpen
  let held : Session := ⟨session.sessionKey, session.sessionId⟩
  have hcredentials : client.credentials = some (.session held) := rfl
  have hsends : client.sendsCookie = true := all_isHeaderChar_cookieHeader hcookie _
  constructor
  · intro hopen
    have hsession : w'.state.session? session.sessionKey = some ticket.sessionId := by
      rw [hrun, session?_run_of_never (hfresh.or hopen), hsessionKey,
        w.state.session?_openSession_self]
    exact exists_authorised_request hcredentials hweb hquery hsends hparams hsession
      fun _ hsent ↦ cookie?_of_sessionHeader hcookie _ hsent
  · intro hclosed hname
    have hsession : w'.state.session? session.sessionKey = none := by
      rw [hrun, session?_run_of_closed hfresh hclosed]
    exact exists_send_unauthorized hcredentials hweb hquery hsends hparams hname hsession

/-- The session of a client outlives that of another client, who logs in and out in between, and
ends with its own logout. -/
theorem login_opens_session_between_others :
    let server : Server := ⟨.usual, ⟨[], []⟩, fun turn ↦
      ⟨String.ofList (List.replicate (turn + 1) 'k'),
        String.ofList (List.replicate (turn + 1) 'C')⟩⟩
    let c : Client := ⟨⟨"http", "", "", some (.domain "localhost"), some 8080,
      .segments ["client", "api"], none, none⟩, none⟩
    let call (command : String) (params : List Param) (cookies : List String) : Call :=
      ⟨⟨0, 0⟩, ("command", command) :: params, cookies⟩
    let others := [call "login" [("username", "admin"), ("password", "password")] [],
      call "logout" [("sessionkey", "kk")] ["JSESSIONID=CC"]]
    let logout := call "logout" [("sessionkey", "k")] ["JSESSIONID=C"]
    let opened := State.initial.openSession ⟨"k", "C"⟩
    let world (s : State) : World := ⟨s, ⟨0, 0⟩, 0⟩
    let params : Params := ⟨[("name", "zone1")], by decide⟩
    ∃ session : OpenSession,
      (c.login (Simulator.link server) ⟨"admin", "password", "dom"⟩).outcome (world .initial) =
        (.ok session, world opened) ∧
      (∃ r, (c.withCredentials session.credentials).request? (Simulator.link server)
          (.post "listZones") params (world (run server opened others)) = .ok r ∧
        authorize server.settings (run server opened others) ⟨0, 0⟩ (Incoming.ofRequest r).params
          (Incoming.ofRequest r).cookies = .ok ()) ∧
      ∃ e : ApiError, ((c.withCredentials session.credentials).send (Simulator.link server)
          (.get "listZones") params).outcome (world (run server opened [logout])) =
            (.error (.api e), world (run server opened [logout])) ∧
        e.status = 401 ∧ e.kind = .unauthorized := by
  intro server c call others logout opened world params
  have hdistinct : ∀ m n, (server.ticket m).sessionKey = (server.ticket n).sessionKey → m = n := by
    intro m n h
    have hlength := congrArg String.length h
    simpa [server] using hlength
  have hfirst : 0 < opened.logins := Nat.zero_lt_one
  have hfresh : ∀ calls, Never server (Call.Opens server "k") opened calls :=
    never_opens_of_lt hdistinct hfirst
  obtain ⟨session, hlogin, hkey, hlater⟩ := @login_opens_session server (world .initial) c rfl rfl
    ⟨"admin", "password", "dom"⟩ rfl rfl (by decide)
  replace hkey : session.sessionKey = "k" := hkey
  rw [hkey] at hlater
  -- Rewriting with this keeps the runs below from being computed.
  have hstate : ∀ s, (world s).state = s := fun _ ↦ rfl
  refine ⟨session, hlogin, ?_, ?_⟩
  · obtain ⟨r, hrequest, _, hauth⟩ := (hlater others (world (run server opened others))
      (.post "listZones") params (hfresh others) (hstate _) (by decide)).1
        ⟨fun h ↦ absurd h.command (by decide), fun h ↦ absurd h.sessionKey (by decide), trivial⟩
    rw [hstate] at hauth
    exact ⟨r, hrequest, hauth⟩
  · have hcloses : logout.Closes server "k" opened := ⟨by decide, by decide, by decide⟩
    have hended : ¬ Never server (Call.Closes server "k") opened [logout] :=
      fun hopen ↦ hopen.1 hcloses
    obtain ⟨_, hrefused⟩ := hlater [logout] (world (run server opened [logout]))
      (.get "listZones") params (hfresh [logout]) (hstate _) (by decide)
    exact hrefused hended (by decide)

end Client

end CloudControl
