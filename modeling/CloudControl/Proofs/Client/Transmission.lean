import CloudControl.Proofs.Client.Requests
import CloudControl.Schema.Storage

/-!
# What a call transmits

The request of a call carries the parameters of its command, and what the credentials of the client
add to them. `Client.requests_transmit` says which pairs the other side reads: for the parameters,
which value each name has, whether the command, its caller or the client sets it
(`Command.valueOf?`); and for the credentials, what is dropped, set and appended
(`Auth.Credentials.transmitted`). Names and values are texts of any kind.
-/

namespace CloudControl

open Auth Simulator

/-- The value that a command is sent with under a name. Its own name and the format of the reply
come before all others, and the caller comes before what the command sends by itself, where the
last value of a name counts. -/
def Command.valueOf? (command : Command) (params : Params) (name : String) : Option String :=
  if name = "command" then some command.name
  else if name = "response" then some "json"
  else (params.get? name).or (command.fixed.reverse.lookup name)

/-- The pairs that stand for parameters with credentials. A session is a parameter like the others.
A signer drops what has one of its names, in any letter case, and appends its own. -/
def Auth.Credentials.transmitted (credentials : Credentials) (now : Instant) (params : Params) :
    List Param :=
  match credentials with
  | .session held => (params.set "sessionkey" held.sessionKey).entries
  | .signed ⟨apiKey, secret, none⟩ =>
    let unsigned := withoutAll ["apiKey", "signature"] params.entries ++ [("apiKey", apiKey)]
    unsigned ++ [("signature", signatureOf secret (canonicalString unsigned))]
  | .signed ⟨apiKey, secret, some ttl⟩ =>
    let unsigned :=
      withoutAll ["expires", "signatureVersion", "apiKey", "signature"] params.entries ++
        [("apiKey", apiKey), ("signatureVersion", "3"), ("expires", Signer.expiryText now ttl)]
    unsigned ++ [("signature", signatureOf secret (canonicalString unsigned))]

/-- A request carries pairs in its query or in its body, as its verb says. -/
def Request.Transmits (r : Request) (verb : Verb) (pairs : List Param) : Prop :=
  r.verb = verb ∧ match verb with
    | .get => r.body = none ∧ ∃ query, r.url.query = some query ∧ Form.parse query = pairs
    | .post => ∃ body, r.body = some body ∧ Form.parse body = pairs

/-- A computation makes the request of a command and reads its reply in some way. -/
inductive Client.IsCallOf {σ : Type} (link : Link σ) (c : Client) (command : Command)
    (params : Params) : {α : Type} → Action σ α → Prop where
  | send : IsCallOf link c command params (c.send link command params)
  | fetchPage {α : Type} (reader : Schema.Reader α) :
      IsCallOf link c command params (c.fetchPage link command reader params)
  | list {α : Type} (reader : Schema.Reader α) :
      IsCallOf link c command params (c.list link command reader params)
  | find {α : Type} (reader : Schema.Reader α) :
      IsCallOf link c command params (c.find link command reader params)
  | object {α : Type} (reader : Schema.Reader α) :
      IsCallOf link c command params (c.object link command reader params)
  | unit : IsCallOf link c command params (c.unit link command params)
  | start : IsCallOf link c command params (c.start link command params)

/-! ## The parameters of a command -/

/-- The parameters that a command is sent with have the values that they should. -/
theorem Client.get?_commandParams (command : Command) (params : Params) (name : String) :
    (commandParams command params).get? name = command.valueOf? params name := by
  rw [commandParams, Params.get?_set, Params.get?_set, Params.get?_merge, Command.baseParams,
    Params.get?_setAll_of_list, Command.valueOf?]
  by_cases hname : name = "command"
  · subst hname
    rfl
  by_cases hresponse : name = "response"
  · subst hresponse
    rfl
  have hnone : (Params.ofList [(Command.commandParam, command.name),
      (Command.responseParam, Command.responseFormat)]).get? name = none := by
    simp only [Params.ofList, Params.setAll_cons, Params.setAll_nil, Params.get?_set]
    exact (if_neg hresponse).trans (if_neg hname)
  rw [if_neg hname, if_neg hresponse, hnone, Option.or_none]
  exact (if_neg hresponse).trans (if_neg hname)

/-! ## Credentials -/

/-- What credentials add to parameters is what is transmitted. -/
theorem Auth.Credentials.addTo_eq_transmitted (credentials : Credentials) (now : Instant)
    (params : Params) : (credentials.addTo now params).1 = credentials.transmitted now params := by
  cases credentials with
  | session held => rfl
  | signed signer =>
    obtain ⟨apiKey, secret, ttl⟩ := signer
    cases ttl with
    | none =>
      show Signer.sign _ now params.entries = _
      rw [Signer.sign, Signer.prepare_of_none _ now _ rfl, Signer.own_eq]
      rfl
    | some ttl =>
      show Signer.sign _ now params.entries = _
      rw [Signer.sign, Signer.prepare_of_some _ now _ rfl, Signer.withExpiry_own]
      rfl

namespace Client

variable {σ α : Type} {link : Link σ} {c : Client} {command : Command} {params : Params}

/-! ## Requests -/

/-- The pairs of a request are read back from where its verb puts them. -/
theorem transmits_requestOf (c : Client) (verb : Verb) (pairs : List Param)
    (cookie : Option String) : (c.requestOf verb pairs cookie).Transmits verb pairs := by
  cases verb with
  | get => exact ⟨rfl, rfl, _, rfl, Form.parse_encodePairs pairs⟩
  | post => exact ⟨rfl, _, rfl, Form.parse_encodePairs pairs⟩

/-- The request of a client with credentials carries the parameters of the command with what the
credentials add to them. -/
theorem transmits_of_request? {credentials : Credentials}
    (hcredentials : c.credentials = some credentials) {s : σ} {r : Request}
    (h : c.request? link command params s = .ok r) :
    r.Transmits command.verb
      (credentials.transmitted (link.now s) (commandParams command params)) := by
  obtain ⟨⟨pairs, cookie⟩, hauth, hcheck⟩ := bind_eq_ok_iff.mp h
  obtain ⟨held, hheld, hadded⟩ := authenticate_eq_ok hauth
  obtain rfl : credentials = held := Option.some.inj (hcredentials.symm.trans hheld)
  obtain rfl : (credentials.addTo (link.now s) (commandParams command params)).1 = pairs :=
    congrArg Prod.fst hadded
  rw [eq_of_checkRequest hcheck, ← credentials.addTo_eq_transmitted]
  exact c.transmits_requestOf command.verb _ _

/-- A client without credentials makes no request. -/
theorem request?_of_no_credentials (h : c.credentials = none) (link : Link σ) (command : Command)
    (params : Params) (s : σ) :
    c.request? link command params s = .error (.missingCredentials command.name) := by
  rw [request?, authenticate, h]
  rfl

/-- What comes after the reply in a call leaves the state. -/
theorem IsCallOf.state_eq {a : Action σ α} (h : IsCallOf link c command params a) (s : σ) :
    (a.outcome s).2 = ((c.reply link command params).outcome s).2 := by
  cases h with
  | send => exact state_send s
  | fetchPage => exact state_fetchPage s
  | list => exact state_list s
  | find => exact state_find s
  | object => exact state_object s
  | unit => exact state_unit s
  | start => exact state_start s

/-- A call sends the request of its command if it can be sent, and nothing else. -/
theorem IsCallOf.requests_eq {a : Action (σ × List Request) α}
    (h : IsCallOf link.recorded c command params a) (s : σ) :
    a.requests s = (c.request? link command params s).toOption.toList := by
  rw [Action.requests, h.state_eq, sent_reply, List.nil_append]

/-- A call sends nothing without credentials, and nothing with those of a signer that cannot sign.
With other credentials, it sends one request if the address is one of the web and the cookie can be
sent, and what it sends carries the parameters of the command, as the credentials transmit them. -/
theorem requests_transmit {a : Action (σ × List Request) α}
    (h : IsCallOf link.recorded c command params a) (s : σ) :
    (c.credentials = none → a.requests s = []) ∧
    ∀ credentials, c.credentials = some credentials →
      (c.IsReady (link.now s) → ∃ r, a.requests s = [r]) ∧
      (credentials.areUsable (link.now s) = false → a.requests s = []) ∧
      ∃ sent : Params, (∀ name, sent.get? name = command.valueOf? params name) ∧
        ∀ r ∈ a.requests s,
          r.Transmits command.verb (credentials.transmitted (link.now s) sent) := by
  rw [h.requests_eq]
  refine ⟨fun hnone ↦ ?_, fun credentials hcredentials ↦ ⟨fun hready ↦ ?_, fun husable ↦ ?_, ?_⟩⟩
  · rw [request?_of_no_credentials hnone]
    rfl
  · obtain ⟨r, hr⟩ := hready.exists_request link command params s
    exact ⟨r, by rw [hr]; rfl⟩
  · rw [request?_of_not_usable link command params s hcredentials husable]
    rfl
  · refine ⟨commandParams command params, get?_commandParams command params, fun r hr ↦ ?_⟩
    cases hrequest : c.request? link command params s with
    | error e =>
      rw [hrequest] at hr
      exact absurd hr List.not_mem_nil
    | ok sent =>
      rw [hrequest] at hr
      exact List.mem_singleton.mp hr ▸ transmits_of_request? hcredentials hrequest

/-- The parameters that a request is made of are known by their values. -/
theorem eq_commandParams {sent : Params}
    (h : ∀ name, sent.get? name = command.valueOf? params name) :
    sent = commandParams command params :=
  Params.ext_get? fun name ↦ (h name).trans (get?_commandParams command params name).symm

/-- The templates are listed for a caller who chooses among them, names another command, and brings
an expiry, by a client whose signatures expire; and a user is created in a session by a caller who
brings a session key of another spelling. -/
theorem requests_transmit_listTemplates :
    let url : Url := ⟨"http", "", "", some (.domain "localhost"), some 8080,
      .segments ["client", "api"], some "old=1", none⟩
    let link : Link Unit := .constant ⟨401, [], ""⟩
    let signing : Client := ⟨url, some (.signed ⟨"key", "secret", some (.ofSeconds 300)⟩)⟩
    let holding : Client := ⟨url, some (.session ⟨"k=1", some "node"⟩)⟩
    let templates : Params := ⟨[("EXPIRES", "never"), ("command", "deleteTemplate"),
      ("templatefilter", "self"), ("zone&é", " +%2B")], by decide⟩
    let user : Params := ⟨[("SessionKey", "forged"), ("username", "sam")], by decide⟩
    let unsigned : List Param := [("command", "listTemplates"), ("response", "json"),
      ("templatefilter", "self"), ("zone&é", " +%2B"), ("apiKey", "key"),
      ("signatureVersion", "3"), ("expires", "1970-01-01T00:05:00+0000")]
    (∃ r, (signing.list link.recorded .listTemplates
        Schema.Kind.template.decode templates).requests () = [r] ∧
      r.Transmits .get
        (unsigned ++ [("signature", signatureOf "secret" (canonicalString unsigned))])) ∧
    ∃ r, (holding.unit link.recorded .createUser user).requests () = [r] ∧
      r.Transmits .post [("SessionKey", "forged"), ("command", "createUser"), ("response", "json"),
        ("sessionkey", "k=1"), ("username", "sam")] := by
  intro url link signing holding templates user unsigned
  have hsigning : signing.IsReady ⟨0, 0⟩ := ⟨by decide, ⟨_, rfl, by decide⟩, by decide⟩
  have hholding : holding.IsReady ⟨0, 0⟩ := ⟨by decide, ⟨_, rfl, rfl⟩, by decide⟩
  constructor
  · have hcall : IsCallOf link.recorded signing .listTemplates templates
        (signing.list link.recorded .listTemplates Schema.Kind.template.decode templates) := .list _
    obtain ⟨hsends, -, sent, hsent, htransmits⟩ := (requests_transmit hcall ()).2 _ rfl
    obtain ⟨r, hr⟩ := hsends hsigning
    refine ⟨r, hr, ?_⟩
    have hunsigned : withoutAll ["expires", "signatureVersion", "apiKey", "signature"]
        (commandParams .listTemplates templates).entries ++ [("apiKey", "key"),
          ("signatureVersion", "3"), ("expires", Signer.expiryText ⟨0, 0⟩ (.ofSeconds 300))] =
        unsigned := by decide +kernel
    rw [← hunsigned, ← eq_commandParams hsent]
    exact htransmits r (hr ▸ List.mem_singleton_self r)
  · have hcall : IsCallOf link.recorded holding .createUser user
        (holding.unit link.recorded .createUser user) := .unit
    obtain ⟨hsends, -, sent, hsent, htransmits⟩ := (requests_transmit hcall ()).2 _ rfl
    obtain ⟨r, hr⟩ := hsends hholding
    refine ⟨r, hr, ?_⟩
    have hentries : ((commandParams .createUser user).set "sessionkey" "k=1").entries =
        [("SessionKey", "forged"), ("command", "createUser"), ("response", "json"),
          ("sessionkey", "k=1"), ("username", "sam")] := by decide +kernel
    rw [← hentries, ← eq_commandParams hsent]
    exact htransmits r (hr ▸ List.mem_singleton_self r)

end Client

end CloudControl
