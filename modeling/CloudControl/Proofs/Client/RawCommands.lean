import CloudControl.Proofs.Client.Envelope
import CloudControl.Proofs.Client.Requests

/-!
# Raw commands

A raw command is any text with any parameters. `Client.sendRaw_runs_commandFound` says what becomes
of it: one request is sent, the server dispatches it by the command that it finds in it, and the
reply is read as one to the command that was asked for. Parameters are kept in the order of their
names, and the server takes the first one that is called `command` in any letter case. So it finds
another command if a parameter of the caller has that name with capitals, which
`Client.sendRaw_runs_deleteZone` shows to happen, or if the address of a request with a body names
one; and in every other case it finds the command that was asked for.
-/

namespace CloudControl

open Auth Simulator

/-- A raw command, with the verb that the catalogue knows for it. -/
def Command.raw (name : String) : Command :=
  { get name with verb := ((Catalog.lookup? name).map verb).getD .get }

namespace Client

/-- The parameters of the address, which stand in front of those of a request with a body and are
replaced by those of one without. -/
def ownParams (c : Client) (verb : Verb) : List Param :=
  match verb with
  | .get => []
  | .post => Form.parse (c.endpoint.query.getD "")

/-- The command that a server finds in the request of a raw command. -/
def commandFound (c : Client) (command : String) (params : Params) : String :=
  (lookup? Command.commandParam
    (c.ownParams (Command.raw command).verb ++ (params.erase Command.commandParam).entries)).getD
      command

/-- Neither the address nor the caller names another command, in any letter case. -/
def NamesNoOther (c : Client) (command : String) (params : Params) : Prop :=
  (∀ p ∈ c.ownParams (Command.raw command).verb, isNamed Command.commandParam p = false) ∧
    ∀ p ∈ params.entries, isNamed Command.commandParam p = true → p.1 = Command.commandParam

section

variable {σ : Type} (link : Link σ) (c : Client) (command : String) (params : Params)

/-! ## The command that is found -/

/-- The command that was asked for is found if no other is named. -/
theorem commandFound_of_namesNoOther (h : c.NamesNoOther command params) :
    c.commandFound command params = command := by
  have hnone : lookup? Command.commandParam (c.ownParams (Command.raw command).verb ++
      (params.erase Command.commandParam).entries) = none := by
    refine lookup?_eq_none_iff.mpr fun p hp ↦ ?_
    rcases List.mem_append.mp hp with hp | hp
    · exact h.1 p hp
    · obtain ⟨hp, hother⟩ := List.mem_filter.mp hp
      rw [← Bool.not_eq_true]
      exact fun hnamed ↦ bne_iff_ne.mp hother (h.2 p hp hnamed)
  rw [commandFound, hnone]
  rfl

/-- The parameters of a raw command are those of the caller, with the command and the format of the
reply in place of theirs. -/
theorem commandParams_raw : commandParams (.raw command) params =
    (params.set Command.commandParam command).set Command.responseParam
      Command.responseFormat := by
  refine Params.ext_get? fun name ↦ ?_
  have hbase : (Command.raw command).baseParams = (Params.ofList
      [(Command.commandParam, command), (Command.responseParam, Command.responseFormat)]) := rfl
  have hname : (Command.raw command).name = command := rfl
  rw [commandParams, hbase, hname]
  simp only [Params.get?_set, Params.get?_merge]
  by_cases hresponse : name = Command.responseParam
  · rw [if_pos hresponse, if_pos hresponse]
  by_cases hcommand : name = Command.commandParam
  · rw [if_pos hcommand, if_pos hcommand]
  have hnone : (Params.ofList [(Command.commandParam, command),
      (Command.responseParam, Command.responseFormat)]).get? name = none := by
    simp only [Params.ofList, Params.setAll_cons, Params.setAll_nil, Params.get?_set,
      if_neg hresponse, if_neg hcommand]
    rfl
  rw [if_neg hresponse, if_neg hresponse, if_neg hcommand, if_neg hcommand, hnone, Option.or_none]

/-- A raw command is sent like any other. -/
theorem sendRaw_eq_send : c.sendRaw link command params = c.send link (.raw command) params := by
  rw [send, commandParams_raw]
  rfl

/-- The first command among the parameters that are sent. -/
theorem lookup?_commandParams_raw :
    lookup? Command.commandParam (commandParams (.raw command) params).entries =
      some ((lookup? Command.commandParam (params.erase Command.commandParam).entries).getD
        command) := by
  have hget : (commandParams (.raw command) params).get? Command.commandParam = some command := by
    rw [commandParams_raw, Params.get?_set_of_ne _ (by decide), Params.get?_set_self]
  rw [lookup?_of_get? (by decide) hget, commandParams_raw,
    Params.erase_set_of_ne _ (by decide), Params.erase_set_self, lookup?_set_of_ne (by decide)]

/-- The server reads the parameters of the address and those that were sent. -/
theorem params_ofRequest_append (verb : Verb) (pairs : List Param) (cookie : Option String) :
    (Incoming.ofRequest (c.requestOf verb pairs cookie)).params = c.ownParams verb ++ pairs := by
  cases verb with
  | get =>
    show Form.parse (Form.encodePairs pairs) = pairs
    exact Form.parse_encodePairs pairs
  | post =>
    show Form.parse (c.endpoint.query.getD "") ++ Form.parse (Form.encodePairs pairs) = _
    rw [Form.parse_encodePairs, ownParams]

/-- The first command among the parameters that the server reads. -/
theorem lookup?_params_ofRequest (credentials : Credentials) (now : Instant)
    (cookie : Option String) :
    lookup? Command.commandParam (Incoming.ofRequest (c.requestOf (Command.raw command).verb
      (credentials.addTo now (commandParams (.raw command) params)).1 cookie)).params =
        some (c.commandFound command params) := by
  rw [params_ofRequest_append, lookup?_append, credentials.lookup?_addTo _ _ (by decide),
    lookup?_commandParams_raw, commandFound, lookup?_append]
  cases lookup? Command.commandParam (c.ownParams (Command.raw command).verb) <;> rfl

end

/-! ## The request and its reply -/

/-- What becomes of a raw command of a client with keys. Nothing is sent if its signature would
expire on no date. Otherwise one request is sent, and its reply is read as one to that command. The
server executes it under the command that it finds in it, in small letters: it is a login if that is
its name, and otherwise it is dispatched by that name once it is authorised. The command that is
found is the one that was asked for, unless a parameter of the caller other than `command` itself,
or the address of a request with a body, names another. -/
theorem sendRaw_runs_commandFound {σ : Type} (link : Link σ) {c : Client} {signer : Signer}
    (hcredentials : c.credentials = some (.signed signer)) (hweb : c.endpoint.isWeb = true)
    (command : String) (params : Params) (s : σ) :
    (signer.canSign (link.now s) = false →
      (c.sendRaw link.recorded command params).requests s = []) ∧
    (signer.canSign (link.now s) = true →
      ∃ r : Request, (c.sendRaw link.recorded command params).requests s = [r] ∧
        ((c.sendRaw link command params).outcome s = match link.replyTo r s with
          | (.ok reply, next) => (Envelope.unwrap command reply.status reply.body, next)
          | (.error e, next) => (.error e, next)) ∧
        (∀ (server : Server) (now : Instant) (state : State),
          let found := c.commandFound command params
          let name := Text.lowercase found
          let received := Incoming.ofRequest r
          execute server now state received.params received.cookies =
            (if name = "login" then Simulator.login server state received.params
            else match authorize server.settings state now received.params received.cookies with
              | .error refusal => (.error name unauthorizedStatus refusal.message, state)
              | .ok () => dispatch server state found name received.params) ∧
          (((Command.raw command).verb = .post → c.endpoint.query = none) →
            receive server now state received =
              execute server now state received.params received.cookies)) ∧
        (c.NamesNoOther command params → c.commandFound command params = command)) := by
  let credentials : Credentials := .signed signer
  constructor
  · intro hsigns
    have hstops := request?_of_not_usable link (.raw command) params s hcredentials hsigns
    rw [sendRaw_eq_send, Action.requests, state_send, sent_reply, hstops]
    rfl
  intro hsigns
  rcases hadded : credentials.addTo (link.now s) (commandParams (.raw command) params) with
    ⟨pairs, cookie⟩
  have honce := credentials.onlyOnce_addTo (link.now s) (commandParams (.raw command) params)
  have hfound := c.lookup?_params_ofRequest command params credentials (link.now s) cookie
  have hsends : c.sendsCookie = true := by
    rw [sendsCookie, cookie?, hcredentials]
    rfl
  have hrequest := request?_of_credentials link (.raw command) params s hcredentials hweb hsigns
  rw [hadded] at honce hfound
  rw [hsends, if_pos rfl, hadded] at hrequest
  refine ⟨c.requestOf (Command.raw command).verb pairs cookie, ?_, ?_,
    fun server now state ↦ ⟨execute_of_lookup? hfound now state _, fun hquery ↦ ?_⟩,
    c.commandFound_of_namesNoOther command params⟩
  · rw [sendRaw_eq_send, Action.requests, state_send, sent_reply, hrequest]
    rfl
  · rw [sendRaw_eq_send, outcome_send_of_request? hrequest]
    rfl
  · -- Without a query of its own, the address adds nothing to what was sent.
    have hown : c.ownParams (Command.raw command).verb = [] := by
      unfold ownParams
      split
      · rfl
      · next hpost => rw [hquery hpost]; rfl
    rw [receive_requestOf hquery honce, params_ofRequest_append, hown, cookies_ofRequest,
      List.nil_append]

/-- The list of zones is asked for in a query. -/
theorem verb_raw_listZones : (Command.raw "listZones").verb = .get := by
  decide +kernel

/-- A caller that sets `command` itself does not change the command, nor does one that sets another
parameter. -/
theorem sendRaw_runs_listZones :
    let server : Server := ⟨.usual, ⟨[], []⟩, fun _ ↦ ⟨"k", "C"⟩⟩
    let client : Client := ⟨⟨"http", "", "", some (.domain "localhost"), some 8080,
      .segments ["client", "api"], none, none⟩, some (.signed (Settings.usual.signer none))⟩
    let params : Params := ⟨[("COMMANDS", "1"), ("command", "deleteZone"), ("name", "zone2")],
      by decide⟩
    ∃ r : Request, (client.sendRaw (Simulator.link server).recorded "listZones" params).requests
        ⟨.initial, ⟨0, 0⟩, 0⟩ = [r] ∧
      let received := Incoming.ofRequest r
      receive server ⟨0, 0⟩ .initial received =
        match authorize server.settings .initial ⟨0, 0⟩ received.params received.cookies with
          | .error refusal => (.error "listzones" unauthorizedStatus refusal.message, .initial)
          | .ok () => dispatch server .initial "listZones" "listzones" received.params := by
  intro server client params
  obtain ⟨r, hsent, _, hruns, hfound⟩ := (sendRaw_runs_commandFound (Simulator.link server)
    (c := client) rfl rfl "listZones" params ⟨.initial, ⟨0, 0⟩, 0⟩).2 rfl
  refine ⟨r, hsent, ?_⟩
  have hcommand : client.commandFound "listZones" params = "listZones" :=
    hfound ⟨by rw [verb_raw_listZones]; nofun, by decide⟩
  have hname : Text.lowercase "listZones" = "listzones" := by decide
  obtain ⟨hexecute, hreceive⟩ := hruns server ⟨0, 0⟩ .initial
  intro received
  rw [hreceive fun _ ↦ rfl, hexecute, hcommand, hname]
  rfl

/-- A parameter that is called `command` in capitals comes before the one that the client sets, so
that a caller who asks for the list of zones deletes one, and is told so in place of the list. -/
theorem sendRaw_runs_deleteZone :
    let success : Json := .object [("success", .string "true")]
    let server : Server := ⟨.usual, ⟨[("deletezone", success), ("listzones", .object [])], []⟩,
      fun _ ↦ ⟨"k", "C"⟩⟩
    let client : Client := ⟨⟨"http", "", "", some (.domain "localhost"), some 8080,
      .segments ["client", "api"], none, none⟩, some (.signed (Settings.usual.signer none))⟩
    let params : Params := ⟨[("COMMAND", "deleteZone")], by decide⟩
    let w : World := ⟨.initial, ⟨0, 0⟩, 0⟩
    ∃ r : Request, (client.sendRaw (Simulator.link server).recorded "listZones" params).requests w =
        [r] ∧
      (lookup? Command.commandParam (Incoming.ofRequest r).params).map Text.lowercase ≠
        some (Text.lowercase "listZones") ∧
      receive server w.now w.state (.ofRequest r) =
        dispatch server w.state "deleteZone" "deletezone" (Incoming.ofRequest r).params ∧
      (client.sendRaw (Simulator.link server) "listZones" params).outcome w = (.ok success, w) := by
  intro success server client params w
  let credentials : Credentials := .signed (Settings.usual.signer none)
  have hcredentials : client.credentials = some credentials := rfl
  let call : Call := credentials.call w.now (commandParams (.raw "listZones") params)
  have hquery : (Command.raw "listZones").verb = .post → client.endpoint.query = none :=
    fun _ ↦ rfl
  have hcommand : client.commandFound "listZones" params = "deleteZone" := by
    rw [commandFound, verb_raw_listZones]
    rfl
  have hrequest : client.request? (Simulator.link server) (.raw "listZones") params w =
      .ok (client.requestOf (Command.raw "listZones").verb call.params none) :=
    request?_of_credentials _ _ _ _ hcredentials rfl rfl
  have hreceived : (Incoming.ofRequest (client.requestOf (Command.raw "listZones").verb
      call.params none)).params = call.params := params_ofRequest rfl _ _ _
  -- The parameters of the caller hold no credentials, so that the signature is accepted.
  have haccepts : server.Accepts w credentials := ⟨rfl, rfl, nofun⟩
  have hauth : authorize server.settings w.state w.now call.params call.cookies = .ok () :=
    Credentials.authorize_addTo haccepts (by decide +kernel)
  have hlookup : lookup? Command.commandParam call.params = some "deleteZone" := by
    rw [← hreceived, ← hcommand]
    exact client.lookup?_params_ofRequest "listZones" params credentials w.now none
  have hid : lookup? "id" call.params = none := by
    show lookup? "id" (credentials.addTo _ _).1 = none
    rw [credentials.lookup?_addTo _ _ (by decide)]
    decide +kernel
  have hname : Text.lowercase "deleteZone" = "deletezone" := by decide
  have honce : OnlyOnce call.params := credentials.onlyOnce_addTo _ _
  have hexecute : execute server w.now w.state call.params call.cookies =
      dispatch server w.state "deleteZone" "deletezone" call.params := by
    rw [execute_of_lookup? hlookup, hname, if_neg (by decide), hauth]
  have hdispatch : receive server w.now w.state
      (.ofRequest (client.requestOf (Command.raw "listZones").verb call.params none)) =
        dispatch server w.state "deleteZone" "deletezone" call.params :=
    (receive_requestOf hquery honce none w.now w.state).trans hexecute
  have hanswer : dispatch server w.state "deleteZone" "deletezone" call.params =
      (.reply "deletezone" 200 success, w.state) := by
    rw [dispatch, if_neg (by decide), if_neg (by decide), answerFixture]
    show (single server.fixtures "deleteZone" "deletezone" success call.params, w.state) = _
    rw [single, hid]
  refine ⟨client.requestOf (Command.raw "listZones").verb call.params none, ?_, ?_, ?_, ?_⟩
  · rw [sendRaw_eq_send, Action.requests, state_send, sent_reply, hrequest]
    rfl
  · rw [hreceived, hlookup]
    decide
  · rw [hdispatch, hreceived]
  · rw [sendRaw_eq_send, outcome_send_of_request? hrequest,
      Simulator.replyTo_link (hdispatch.trans hanswer)]
    have hback : (Answer.reply "deletezone" 200 success).IsReadBack := by decide +kernel
    exact congrArg (·, w) (Envelope.unwrap_reply hback rfl)

end Client

end CloudControl
