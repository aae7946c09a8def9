import CloudControl.Proofs.Client.Calls
import CloudControl.Proofs.Client.SignedRequest
import CloudControl.Proofs.Simulator.Listing
import CloudControl.Proofs.Simulator.Sessions

/-!
# A request is exchanged for an answer

What a client with credentials that are of use sends is one request, which carries the parameters of
its command with the credentials added to them (`Client.request?_of_credentials`). The simulated
server reads just these parameters, from a query as from a body, so that to the server the request
is a call (`Credentials.call`), and what the client receives is the answer to that call
(`Client.outcome_reply_of_server`).
-/

namespace CloudControl

open Auth Simulator

/-! ## The parameters of a command -/

namespace Client

/-- The entries of the parameters of a command. -/
theorem mem_commandParams {c : Command} {params : Params} {p : Param}
    (h : p ∈ (commandParams c params).entries) :
    p = (Command.responseParam, Command.responseFormat) ∨ p = (Command.commandParam, c.name) ∨
      p ∈ params.entries ∨ p ∈ c.fixed := by
  rcases mem_setEntry h with hresponse | h
  · exact .inl hresponse
  rcases mem_setEntry h with hcommand | h
  · exact .inr (.inl hcommand)
  rcases Params.mem_setAll h with hparams | h
  · exact .inr (.inr (.inl hparams))
  rcases Params.mem_setAll h with hfixed | h
  · exact .inr (.inr (.inr hfixed))
  rcases Params.mem_setAll h with hbase | h
  · rcases List.mem_pair.mp hbase with hcommand | hresponse
    · exact .inr (.inl hcommand)
    · exact .inl hresponse
  · exact absurd h List.not_mem_nil

/-- A name other than `command` and `response` stands among the parameters of a command only if the
caller or the command itself brings it. -/
theorem isNamed_commandParams {command : Command} {params : Params} {name : String}
    (hcommand : Text.eqFolded Command.commandParam name = false)
    (hresponse : Text.eqFolded Command.responseParam name = false)
    (hparams : ∀ p ∈ params.entries ++ command.fixed, isNamed name p = false) {p : Param}
    (hp : p ∈ (commandParams command params).entries) : isNamed name p = false := by
  rcases mem_commandParams hp with rfl | rfl | hp | hp
  · exact hresponse
  · exact hcommand
  · exact hparams p (List.mem_append_left _ hp)
  · exact hparams p (List.mem_append_right _ hp)

/-- The parameters of a command name that command, if neither the caller nor the command itself sets
another one. -/
theorem lookup?_commandParams {command : Command} {params : Params}
    (hparams : ∀ p ∈ params.entries ++ command.fixed, isNamed Command.commandParam p = false) :
    lookup? Command.commandParam (commandParams command params).entries = some command.name := by
  refine lookup?_eq_some Command.commandParam ?_ (Text.eqFolded_self _) fun p hp hname ↦ ?_
  · rw [Params.mem_entries_iff, commandParams, Params.get?_set, if_neg (by decide),
      Params.get?_set_self]
  rcases mem_commandParams hp with rfl | rfl | hp | hp
  · exact absurd hname (by decide)
  · rfl
  · exact absurd (hname.symm.trans (hparams p (List.mem_append_left _ hp))) nofun
  · exact absurd (hname.symm.trans (hparams p (List.mem_append_right _ hp))) nofun

end Client

/-! ## Credentials -/

/-- A server accepts credentials: keys of its account with a signature that is valid at once, or an
open session with no other cookie than its own. -/
def Simulator.Server.Accepts (server : Server) (w : World) : Credentials → Prop
  | .signed signer => signer.apiKey = server.settings.apiKey ∧
      signer.secret = server.settings.secretKey ∧ IsValidAt signer.timeToLive [] w.now w.now
  | .session session => ∃ sessionId, w.state.session? session.sessionKey = some sessionId ∧
      ∀ sent, cookie? session.cookieHeader.toList = some sent → sent = sessionId

/-- The parameters that carry credentials, with the cookie that goes with them. -/
def Auth.Credentials.addTo (credentials : Credentials) (now : Instant) (params : Params) :
    List Param × Option String :=
  match credentials with
  | .signed signer => (signer.sign now params.entries, none)
  | .session held =>
    ((params.set Client.sessionKeyParam held.sessionKey).entries, held.cookieHeader)

/-- A parameter that may stand in a query once does. -/
def OnlyOnce (params : List Param) : Prop :=
  params.Pairwise fun p q ↦ p.1 = q.1 → uniqueParams.contains p.1 = false

namespace OnlyOnce

/-- Parameters with each name once. -/
theorem of_params (params : Params) : OnlyOnce params.entries :=
  params.ascending.imp fun hbefore heq ↦ absurd heq hbefore.ne

/-- Dropping a name. -/
theorem without {params : List Param} (h : OnlyOnce params) (name : String) :
    OnlyOnce (Auth.without name params) :=
  h.filter _

/-- Adding a name that may stand in a query more than once. -/
theorem concat {params : List Param} (h : OnlyOnce params) {name : String}
    (hname : uniqueParams.contains name = false) (value : String) :
    OnlyOnce (params ++ [(name, value)]) := by
  refine List.pairwise_append.mpr ⟨h, List.pairwise_singleton _ _, fun p _ q hq heq ↦ ?_⟩
  rw [heq, List.mem_singleton.mp hq]
  exact hname

/-- Nothing that stands in a query once stands there twice. -/
theorem duplicate?_eq_none {params : List Param} (h : OnlyOnce params) {seen : List String}
    (hseen : ∀ p ∈ params, seen.contains p.1 = false) : duplicate? seen params = none := by
  induction params generalizing seen with
  | nil => rfl
  | cons p rest ih =>
    obtain ⟨hfirst, hrest⟩ := List.pairwise_cons.mp h
    obtain ⟨hnew, hlater⟩ := List.forall_mem_cons.mp hseen
    obtain ⟨name, value⟩ := p
    rw [duplicate?, hnew, if_neg Bool.false_ne_true]
    refine ih hrest fun q hq ↦ ?_
    split
    · next hunique =>
      have hne : q.1 ≠ name := fun heq ↦
        absurd ((hfirst q hq heq.symm).symm.trans hunique) nofun
      rw [List.contains_cons, hlater q hq, beq_eq_false_iff_ne.mpr hne]
      rfl
    · exact hlater q hq

end OnlyOnce

namespace Auth.Credentials

variable (credentials : Credentials) (now : Instant) (params : Params)

/-- Credentials bring nothing that may stand in a query only once. -/
theorem onlyOnce_addTo : OnlyOnce (credentials.addTo now params).1 := by
  cases credentials with
  | signed signer =>
    have hown : OnlyOnce (signer.own params.entries) :=
      (((OnlyOnce.of_params params).without signatureParam).without apiKeyParam).concat
        (by decide) _
    have hprepared : OnlyOnce (signer.prepare now params.entries) := by
      cases httl : signer.timeToLive with
      | none => rwa [signer.prepare_of_none now params.entries httl]
      | some ttl =>
        rw [signer.prepare_of_some now params.entries httl, Signer.withExpiry,
          List.append_cons _ (versionParam, _)]
        exact (((hown.without versionParam).without expiresParam).concat (by decide) _).concat
          (by decide) _
    exact hprepared.concat (by decide) _
  | session held => exact OnlyOnce.of_params _

/-- Credentials change no other parameters. -/
theorem withoutAll_addTo :
    withoutAll credentialParams (credentials.addTo now params).1 =
      withoutAll credentialParams params.entries := by
  cases credentials with
  | signed signer =>
    exact signer.withoutAll_sign now params.entries
      (List.Subset.trans signer.replacedNames_subset (by decide))
  | session held => exact withoutAll_setEntry (by decide) _ _

/-- A name that has nothing to do with credentials finds what it finds without them. -/
theorem lookup?_addTo {name : String}
    (h : ∀ credential ∈ credentialParams, Text.eqFolded name credential = false) :
    lookup? name (credentials.addTo now params).1 = lookup? name params.entries := by
  rw [← lookup?_withoutAll h, credentials.withoutAll_addTo, lookup?_withoutAll h]

variable {credentials params}

/-- Credentials that the server accepts are of use. -/
theorem areUsable_of_accepts {server : Server} {w : World}
    (haccepts : server.Accepts w credentials) : credentials.areUsable w.now = true := by
  cases credentials with
  | signed signer => exact canSign_of_valid haccepts.2.2
  | session held => rfl

/-- The server accepts the request to which credentials that it accepts are added. -/
theorem authorize_addTo {server : Server} {w : World} (haccepts : server.Accepts w credentials)
    (hparams : ∀ p ∈ params.entries, ∀ name ∈ credentialParams, isNamed name p = false) :
    authorize server.settings w.state w.now (credentials.addTo w.now params).1
      (credentials.addTo w.now params).2.toList = .ok () := by
  cases credentials with
  | signed signer =>
    -- The signature is the right one, so the verdict is the one on the expiry.
    obtain ⟨hkey, hsecret, hvalid⟩ := haccepts
    have hnow : IsValidAt signer.timeToLive params.entries w.now w.now := by
      cases httl : signer.timeToLive with
      | none => exact fun p hp ↦ hparams p hp versionParam (by decide)
      | some ttl =>
        rw [httl] at hvalid
        exact hvalid
    have hverify := signer.verify_sign_eq w.now params.entries w.now
    rw [checkExpiry_of_valid hnow, hsecret] at hverify
    refine authorize_of_signature (signer.lookup?_signature_sign w.now params.entries) ?_ _ _ _
      hverify
    rw [signer.lookup?_apiKey_sign, hkey]
  | session held =>
    let r : Call := ⟨w.now, (params.set Client.sessionKeyParam held.sessionKey).entries,
      held.cookieHeader.toList⟩
    have hsignature : lookup? signatureParam r.params = none := by
      show lookup? signatureParam (params.set _ _).entries = none
      rw [lookup?_set_of_ne (by decide)]
      exact lookup?_eq_none_iff.mpr fun p hp ↦ hparams p hp signatureParam (by decide)
    have hkey : lookup? sessionKeyParam r.params = some held.sessionKey :=
      lookup?_set (by decide) (fun p hp ↦ hparams p hp sessionKeyParam (by decide)) _
    exact (isAuthorised_iff (s := w.state) hsignature hkey).mpr haccepts

end Auth.Credentials

/-! ## The request -/

namespace Client

/-- The cookie of a session, if there is one. -/
def cookie? (c : Client) : Option String :=
  match c.credentials with
  | some (.session held) => held.cookieHeader
  | _ => none

/-- The cookie of the client can be sent. -/
def sendsCookie (c : Client) : Bool :=
  (c.cookie?.getD "").toList.all isHeaderChar

/-- The client has credentials that are of use now, and asks in a way that can be sent over the
web. -/
structure IsReady (c : Client) (now : Instant) : Prop where
  isWeb : c.endpoint.isWeb = true
  hasCredentials : ∃ credentials, c.credentials = some credentials ∧
    credentials.areUsable now = true
  sendsCookie : c.sendsCookie = true

section

variable {σ : Type} (link : Link σ) {c : Client} (command : Command) (params : Params) (s : σ)

/-- The request of a command, if it can be sent. -/
def request? (link : Link σ) (c : Client) (command : Command) (params : Params) (s : σ) :
    Except ClientError Request := do
  let (pairs, cookie) ← c.authenticate (link.now s) command.name (commandParams command params)
  checkRequest (c.requestOf command.verb pairs cookie)

/-- A request is sent over the web, unless its cookie cannot be. -/
theorem checkRequest_requestOf (hweb : c.endpoint.isWeb = true) (verb : Verb) (pairs : List Param)
    (cookie : Option String) :
    checkRequest (c.requestOf verb pairs cookie) =
      if (cookie.getD "").toList.all isHeaderChar then .ok (c.requestOf verb pairs cookie)
      else .error (.transport .malformedHeader) := by
  have hurl : (c.requestOf verb pairs cookie).url.isWeb = true := by
    cases verb <;> exact hweb
  have hcookie : (c.requestOf verb pairs cookie).cookie = cookie := by
    cases verb <;> rfl
  rw [checkRequest, hurl, hcookie]
  rfl

section

variable {credentials : Credentials} (hcredentials : c.credentials = some credentials)
include hcredentials

/-- A client adds its credentials to the parameters, if they are of use. -/
theorem authenticate_of_credentials (now : Instant) (name : String) :
    c.authenticate now name params =
      if credentials.areUsable now then .ok (credentials.addTo now params)
      else .error (.stopped .date) := by
  rw [authenticate, hcredentials]
  cases credentials <;> rfl

/-- The cookie of the client goes with its credentials. -/
theorem cookie?_of_credentials (now : Instant) :
    c.cookie? = (credentials.addTo now params).2 := by
  rw [cookie?, hcredentials]
  cases credentials <;> rfl

/-- The program stops over credentials that are of no use. -/
theorem request?_of_not_usable (h : credentials.areUsable (link.now s) = false) :
    c.request? link command params s = .error (.stopped .date) := by
  rw [request?, authenticate_of_credentials _ hcredentials, h]
  rfl

/-- The request of a client with credentials, unless the cookie cannot be sent. -/
theorem request?_of_credentials (hweb : c.endpoint.isWeb = true)
    (husable : credentials.areUsable (link.now s) = true) :
    c.request? link command params s =
      if c.sendsCookie then
        .ok (c.requestOf command.verb
          (credentials.addTo (link.now s) (commandParams command params)).1
          (credentials.addTo (link.now s) (commandParams command params)).2)
      else .error (.transport .malformedHeader) := by
  rw [request?, authenticate_of_credentials _ hcredentials, if_pos husable, sendsCookie,
    cookie?_of_credentials (commandParams command params) hcredentials (link.now s)]
  exact checkRequest_requestOf hweb _ _ _

end

/-- A client that is ready can send every command. -/
theorem IsReady.exists_request (h : c.IsReady (link.now s)) :
    ∃ r, c.request? link command params s = .ok r := by
  obtain ⟨credentials, hcredentials, husable⟩ := h.hasCredentials
  rw [request?_of_credentials link command params s hcredentials h.isWeb husable, h.sendsCookie]
  exact ⟨_, rfl⟩

end

end Client

/-! ## The reply -/

/-- What a link brings in exchange for a request, with its failures as errors of the client. -/
def Link.replyTo {σ : Type} (link : Link σ) (r : Request) (s : σ) :
    Except ClientError Reply × σ :=
  match link.exchange r s with
  | (.ok reply, s) => (.ok reply, s)
  | (.error e, s) => (.error (.transport e), s)

/-- The simulated server replies with its answer. -/
theorem Simulator.replyTo_link {server : Server} {w : World} {r : Request} {a : Answer} {s : State}
    (h : receive server w.now w.state (.ofRequest r) = (a, s)) :
    (Simulator.link server).replyTo r w = (.ok a.toReply, { w with state := s }) := by
  simp only [Link.replyTo, Simulator.link, h]

/-- The call that a server receives from a client with credentials. -/
def Auth.Credentials.call (credentials : Credentials) (now : Instant) (params : Params) : Call :=
  ⟨now, (credentials.addTo now params).1, (credentials.addTo now params).2.toList⟩

namespace Client

section

variable {σ : Type} (link : Link σ) (s : σ)

/-- What is delivered is exchanged, if it can be sent. -/
theorem outcome_deliver (r : Request) :
    (deliver link r).outcome s = match checkRequest r with
      | .ok r => link.replyTo r s
      | .error e => (.error e, s) := by
  rw [deliver, Action.outcome_bind, outcome_lift]
  cases checkRequest r <;> rfl

/-- The reply to a command is what the link brings in exchange for its request. -/
theorem outcome_reply (c : Client) (command : Command) (params : Params) :
    (c.reply link command params).outcome s = match c.request? link command params s with
      | .ok r => link.replyTo r s
      | .error e => (.error e, s) := by
  rw [reply, outcome_get_bind, Action.outcome_bind, outcome_lift, request?]
  cases c.authenticate (link.now s) command.name (commandParams command params) with
  | error e => rfl
  | ok added =>
    obtain ⟨pairs, cookie⟩ := added
    exact outcome_deliver link s (c.requestOf command.verb pairs cookie)

/-- The outcome of a command whose request can be sent. -/
theorem outcome_send_of_request? {link : Link σ} {c : Client} {command : Command}
    {params : Params} {s : σ} {r : Request} (h : c.request? link command params s = .ok r) :
    (c.send link command params).outcome s = match link.replyTo r s with
      | (.ok reply, next) => (Envelope.unwrap command.name reply.status reply.body, next)
      | (.error e, next) => (.error e, next) := by
  rcases hreply : link.replyTo r s with ⟨e | reply, next⟩ <;>
    simp only [outcome_send, outcome_reply, h, hreply]

end

variable {server : Server} {w : World} {c : Client}

/-- The server reads the cookie that the client sends. -/
theorem cookies_ofRequest (c : Client) (verb : Verb) (pairs : List Param)
    (cookie : Option String) :
    (Incoming.ofRequest (c.requestOf verb pairs cookie)).cookies = cookie.toList := by
  cases verb <;> rfl

/-- The server executes the parameters that a request carries, in a query as in a body, if the
query holds none twice that may not stand there twice. -/
theorem receive_requestOf {verb : Verb} (hquery : verb = .post → c.endpoint.query = none)
    {pairs : List Param} (honce : OnlyOnce pairs) (cookie : Option String) (now : Instant)
    (s : State) :
    receive server now s (.ofRequest (c.requestOf verb pairs cookie)) =
      execute server now s pairs cookie.toList := by
  cases verb with
  | get =>
    have hreceived : Incoming.ofRequest (c.requestOf .get pairs cookie) =
        ⟨Form.encodePairs pairs, none, cookie.toList⟩ := rfl
    have honly : duplicate? [] pairs = none := honce.duplicate?_eq_none fun _ _ ↦ rfl
    rw [hreceived, receive, Incoming.params, Form.parse_encodePairs, honly]
  | post =>
    have honly : duplicate? [] (Form.parse
        (Incoming.ofRequest (c.requestOf .post pairs cookie)).query) = none := by
      show duplicate? [] (Form.parse (c.endpoint.query.getD "")) = none
      rw [hquery rfl]
      rfl
    simp only [receive, honly]
    rw [params_ofRequest (hquery rfl), cookies_ofRequest]

/-- A client with credentials that are of use is answered as the server answers the call, and the
server goes on from there, unless the cookie of the client cannot be sent. -/
theorem outcome_reply_of_server {credentials : Credentials}
    (hcredentials : c.credentials = some credentials) (hweb : c.endpoint.isWeb = true)
    (husable : credentials.areUsable w.now = true) {command : Command}
    (hquery : command.verb = .post → c.endpoint.query = none) (params : Params) :
    let call := credentials.call w.now (commandParams command params)
    (c.reply (Simulator.link server) command params).outcome w =
      if c.sendsCookie then
        (.ok (call.answer server w.state).toReply, { w with state := call.next server w.state })
      else (.error (.transport .malformedHeader), w) := by
  intro call
  rw [outcome_reply,
    request?_of_credentials (Simulator.link server) _ _ w hcredentials hweb husable]
  cases c.sendsCookie with
  | false => rfl
  | true =>
    exact Simulator.replyTo_link (receive_requestOf hquery (credentials.onlyOnce_addTo _ _) _ _ _)

end Client

end CloudControl
