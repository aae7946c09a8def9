import CloudControl.Proofs.Client.Exchange

/-!
# A listing request reaches the server

A client whose credentials the server accepts makes a request of a listing command. What it adds
to the parameters of its caller does not keep the request from being read, accepted and answered:
`outcome_reply_of_listing` says that the reply is the answer to the parameters alone, whatever the
credentials are, and that the server is left as it was.
-/

namespace CloudControl

open Auth Simulator

namespace Client

/-- A page can be asked for before or after the parameters of a command are added. -/
theorem commandParams_withPage (c : Command) (params : Params) (page size : Nat) :
    commandParams c (params.withPage page size) = (commandParams c params).withPage page size := by
  refine Params.ext_get? fun name ↦ ?_
  simp only [commandParams, Params.withPage, Params.get?_set, Params.get?_merge]
  by_cases hsize : name = "pagesize"
  · subst hsize
    rw [if_neg (by decide), if_neg (by decide), if_pos rfl, if_pos rfl, Option.some_or]
  by_cases hpage : name = "page"
  · subst hpage
    rw [if_neg (by decide), if_neg (by decide), if_neg (by decide), if_pos rfl,
      if_neg (by decide), if_pos rfl, Option.some_or]
  rw [if_neg hsize, if_neg hpage, if_neg hsize, if_neg hpage]

end Client

/-! ## Listing commands -/

/-- The command asks for items that are listed under a member of the reply, and the parameters that
it always sends are neither pages nor credentials nor the command. -/
structure Command.ListsItems (c : Command) : Prop where
  name : isListing (Text.lowercase c.name) = true
  verb : c.verb = .get
  select : ∃ key, c.select = some key ∧ key ≠ "count"
  fixed : ∀ p ∈ c.fixed, ∀ name ∈ pageParams ++ credentialParams ++ [Command.commandParam],
    isNamed name p = false

/-- The names of the parameters that commands always send. -/
def Command.fixedNames : List String := ["listall", "templatefilter"]

/-- No other parameter is always sent. -/
theorem mem_fixedNames : ∀ c ∈ Catalog.commands, ∀ p ∈ c.fixed, p.1 ∈ Command.fixedNames := by
  decide +kernel

/-- The parameters that commands always send select neither a page nor anything else that a client
adds. -/
theorem isNamed_fixed {c : Command} (h : c ∈ Catalog.commands) :
    ∀ p ∈ c.fixed, ∀ name ∈ pageParams ++ credentialParams ++ [Command.commandParam],
      isNamed name p = false := by
  have hother : ∀ fixed ∈ Command.fixedNames,
      ∀ name ∈ pageParams ++ credentialParams ++ [Command.commandParam],
        Text.eqFolded fixed name = false := by
    decide
  exact fun p hp ↦ hother p.1 (mem_fixedNames c h p hp)

/-- The listing commands of the catalogue list items. -/
theorem listsItems_of_mem {c : Command} (h : c ∈ Catalog.commands)
    (hname : isListing (Text.lowercase c.name) = true) : c.ListsItems := by
  have hcount : ∀ c ∈ Catalog.commands, c.select ≠ some "count" := by decide +kernel
  -- A command of another form has a name that starts in another way.
  have hforms : ∀ c ∈ Catalog.commands, (c.verb = .get ∧ c.select.isSome = true) ∨
      ((c.name.toList.all fun a ↦ a.toNat < 128) = true ∧
        "list".toList.isPrefixOf (c.name.toList.map Char.toLower) = false) := by
    decide +kernel
  rcases hforms c h with ⟨hverb, hselect⟩ | ⟨hascii, hother⟩
  · obtain ⟨key, hkey⟩ := Option.isSome_iff_exists.mp hselect
    refine ⟨hname, hverb, ⟨key, hkey, ?_⟩, isNamed_fixed h⟩
    rintro rfl
    exact hcount c h hkey
  · rw [Text.lowercase_of_ascii (Text.ascii_of_all hascii), isListing, Text.toList_foldCase,
      hother] at hname
    exact absurd hname nofun

/-- Parameters of a caller that bring neither credentials nor a command. -/
def Params.AreForeign (params : Params) : Prop :=
  ∀ p ∈ params.entries, ∀ name ∈ credentialParams ++ [Command.commandParam], isNamed name p = false

instance (params : Params) : Decidable params.AreForeign :=
  inferInstanceAs (Decidable (∀ p ∈ params.entries,
    ∀ name ∈ credentialParams ++ [Command.commandParam], isNamed name p = false))

section

variable {command : Command} {params : Params}

/-- Asking for a page brings no credentials and no command. -/
theorem Params.AreForeign.withPage (hparams : params.AreForeign) (page size : Nat) :
    (params.withPage page size).AreForeign := by
  have hpage : ∀ asked ∈ pageParams, ∀ name ∈ credentialParams ++ [Command.commandParam],
      Text.eqFolded asked name = false := by
    decide
  intro p hp name hname
  rcases mem_withPage hp with rfl | rfl | hp
  · exact hpage "pagesize" (by decide) name hname
  · exact hpage "page" (by decide) name hname
  · exact hparams p hp name hname

/-- The parameters of a listing command hold no page and no credential that those of the caller do
not hold. -/
theorem Command.ListsItems.isNamed_of_mem (hcommand : command.ListsItems) {name : String}
    (hname : name ∈ pageParams ++ credentialParams)
    (hparams : ∀ p ∈ params.entries, isNamed name p = false) {p : Param}
    (hp : p ∈ (Client.commandParams command params).entries) : isNamed name p = false := by
  have hown : ∀ name ∈ pageParams ++ credentialParams,
      Text.eqFolded commandParam name = false ∧ Text.eqFolded responseParam name = false := by
    decide
  obtain ⟨hnotCommand, hnotResponse⟩ := hown name hname
  refine Client.isNamed_commandParams hnotCommand hnotResponse (fun p hp ↦ ?_) hp
  rcases List.mem_append.mp hp with hp | hp
  · exact hparams p hp
  · exact hcommand.fixed p hp name (List.mem_append_left _ hname)

/-- The parameters of a listing command ask for no page if those of the caller do not. -/
theorem Command.ListsItems.asksForNoPage (hcommand : command.ListsItems)
    (hpages : AsksForNoPage params) : AsksForNoPage (Client.commandParams command params) :=
  fun _ hp name hname ↦ hcommand.isNamed_of_mem (List.mem_append_left _ hname)
    (fun p hp ↦ hpages p hp name hname) hp

/-- The parameters of a listing command bring no credentials. -/
theorem Command.ListsItems.isNamed_credential (hcommand : command.ListsItems)
    (hparams : params.AreForeign) {p : Param}
    (hp : p ∈ (Client.commandParams command params).entries) {name : String}
    (hname : name ∈ credentialParams) : isNamed name p = false :=
  hcommand.isNamed_of_mem (List.mem_append_right _ hname)
    (fun p hp ↦ hparams p hp name (List.mem_append_left _ hname)) hp

/-- The parameters of a listing command name that command. -/
theorem Command.ListsItems.lookup?_command (hcommand : command.ListsItems)
    (hparams : params.AreForeign) :
    lookup? commandParam (Client.commandParams command params).entries = some command.name := by
  have hlast : commandParam ∈ [commandParam] := List.mem_singleton_self _
  refine Client.lookup?_commandParams fun p hp ↦ ?_
  rcases List.mem_append.mp hp with hp | hp
  · exact hparams p hp commandParam (List.mem_append_right _ hlast)
  · exact hcommand.fixed p hp commandParam (List.mem_append_right _ hlast)

end

/-! ## The reply -/

namespace Client

/-- The client asks over the web, with credentials that a server accepts. -/
structure IsAuthorised (c : Client) (server : Server) (w : World) : Prop where
  isWeb : c.endpoint.isWeb = true
  accepted : ∃ credentials, c.credentials = some credentials ∧ server.Accepts w credentials

variable {server : Server} {w : World} {c : Client} {command : Command} {params : Params}
  {fixture : Json}

/-- A listing is answered from its fixture, and leaves the server as it was. -/
theorem dispatch_of_listing {name : String} (hname : isListing name = true)
    (hfixture : server.fixtures.reply? name = some fixture) (s : State) (command : String)
    (params : List Param) :
    dispatch server s command name params = (listing name fixture params, s) := by
  have hlogout : name ≠ "logout" := fun heq ↦ absurd (heq ▸ hname) (by decide)
  have hjob : name ≠ jobCommand := fun heq ↦ absurd (heq ▸ hname) (by decide)
  rw [dispatch, if_neg hlogout, if_neg hjob, answerFixture, hfixture]
  exact congrArg (·, s) (if_pos hname)

/-- A listing with accepted credentials is answered as it is without them. -/
theorem execute_of_listing (hcommand : command.ListsItems)
    (hfixture : server.fixtures.reply? (Text.lowercase command.name) = some fixture)
    {credentials : Credentials} (haccepts : server.Accepts w credentials)
    (hparams : params.AreForeign) :
    execute server w.now w.state (credentials.addTo w.now (commandParams command params)).1
        (credentials.addTo w.now (commandParams command params)).2.toList =
      (listing (Text.lowercase command.name) fixture (commandParams command params).entries,
        w.state) := by
  have hsame := credentials.withoutAll_addTo w.now (commandParams command params)
  have hlookup : lookup? Command.commandParam
      (credentials.addTo w.now (commandParams command params)).1 = some command.name := by
    rw [credentials.lookup?_addTo _ _ (by decide), hcommand.lookup?_command hparams]
  have hauth := Auth.Credentials.authorize_addTo haccepts fun p hp name hname ↦
    hcommand.isNamed_credential hparams hp hname
  rcases hadded : credentials.addTo w.now (commandParams command params) with ⟨pairs, cookie⟩
  rw [hadded] at hsame hauth hlookup
  -- What the credentials add is no part of the listing.
  have hlisting : listing (Text.lowercase command.name) fixture pairs =
      listing (Text.lowercase command.name) fixture (commandParams command params).entries := by
    rw [← listing_withoutAll_credentials, hsame, listing_withoutAll_credentials]
  let r : Call := ⟨w.now, pairs, cookie.toList⟩
  have hname : r.command? = some (Text.lowercase command.name) :=
    congrArg (Option.map Text.lowercase) hlookup
  have hlogin : Text.lowercase command.name ≠ "login" := fun heq ↦
    absurd (heq ▸ hcommand.name) (by decide)
  obtain ⟨_, hexecute⟩ := Call.execute_of_authorised (c := r) hname hlogin hauth
  exact hexecute.trans ((dispatch_of_listing hcommand.name hfixture _ _ _).trans
    (congrArg (·, w.state) hlisting))

/-- A client with accepted credentials that asks a server to list items is answered with the
listing of its own parameters, unless it cannot send its cookie. -/
theorem outcome_reply_of_listing (hcommand : command.ListsItems)
    (hfixture : server.fixtures.reply? (Text.lowercase command.name) = some fixture)
    (hclient : c.IsAuthorised server w) (hparams : params.AreForeign) :
    (c.reply (Simulator.link server) command params).outcome w =
      (if c.sendsCookie then
        .ok (listing (Text.lowercase command.name) fixture
          (commandParams command params).entries).toReply
      else .error (.transport .malformedHeader), w) := by
  obtain ⟨credentials, hcredentials, haccepts⟩ := hclient.accepted
  have hquery : command.verb = .post → c.endpoint.query = none := fun hpost ↦
    absurd (hcommand.verb.symm.trans hpost) nofun
  have hexecute := execute_of_listing hcommand hfixture haccepts hparams
  rw [outcome_reply_of_server hcredentials hclient.isWeb
    (Auth.Credentials.areUsable_of_accepts haccepts) hquery]
  simp only [Credentials.call, Call.answer, Call.next, hexecute]
  split <;> rfl

end Client

end CloudControl
