import CloudControl.Proofs.Client.SignedRequest
import CloudControl.Proofs.Simulator.Loading
import CloudControl.Proofs.Simulator.Run
import CloudControl.Proofs.Simulator.Selection

/-!
# Which entities exist

A server decides twice whether an entity exists: a listing compares the identifier that is asked for
with the text of the field of each item, in any letter case, and every other command looks for it
among the identifiers that were collected from the lists, which are the texts of the items as they
are. `status_eq_unknown_iff` says what the second decision comes to in terms of the lists, and that
both agree where every item has a text for its identifier and is asked for in its own letter case.
`lists_differ` shows that they do not agree otherwise.
-/

namespace CloudControl.Simulator

open Auth Text

variable {id : String} {params : List Param} {items : List Json} {item : Json}

/-! ## Asking for an identifier -/

/-- The item has an identifier, in any letter case. -/
def HasId (id : String) (item : Json) : Prop :=
  ∃ field, item.get? "id" = some field ∧ eqFolded (fieldText field) id = true

/-- The parameters ask for an identifier and for nothing else: all others do not select items, and
the whole selection is asked for. -/
structure AsksForId (id : String) (params : List Param) : Prop where
  found : lookup? "id" params = some id
  alone : ∀ p ∈ params, (isNamed "id" p = true ∧ p.2 = id) ∨ isReserved p.1 = true
  noKeyword : lookup? "keyword" params = none
  noSize : lookup? "pagesize" params = none

/-- An item whose identifier is the text has it. -/
theorem hasId_of_get? (h : item.get? "id" = some (.string id)) : HasId id item :=
  ⟨_, h, eqFolded_self id⟩

/-- Just the items with an identifier have a field for it with its text. -/
theorem hasId_iff : HasId id item ↔ fieldIs "id" id item = true :=
  fieldIs_iff.symm

/-- An identifier selects the items that have it, if any item has a field for it. -/
theorem AsksForId.matches_iff (h : AsksForId id params) :
    Matches items params item ↔ (items.any (hasField "id") = true → HasId id item) := by
  have hlower : ∀ p : Param, isNamed "id" p = true → lowercase p.1 = "id" :=
    fun p hp ↦ lowercase_of_eqFolded (ascii_of_all (by decide)) hp
  have hselects : Selects items "id" ↔ items.any (hasField "id") = true := by
    rw [selects_iff, Bool.and_eq_true]
    exact and_iff_right (by decide)
  constructor
  · intro hitem hany
    obtain ⟨p, hp, hnamed, hvalue⟩ : ∃ p ∈ params, isNamed "id" p = true ∧ p.2 = id := by
      obtain ⟨p, hp, hvalue⟩ := Option.map_eq_some_iff.mp h.found
      exact ⟨p, List.mem_of_find?_eq_some hp, List.find?_some hp, hvalue⟩
    have hfield := hitem.fields p hp
    rw [hlower p hnamed, hvalue] at hfield
    exact hfield (hselects.mpr hany)
  · refine fun hitem ↦ ⟨fun p hp hname ↦ ?_, fun keyword hkeyword ↦ ?_⟩
    · rcases h.alone p hp with ⟨hnamed, hvalue⟩ | hreserved
      · rw [hlower p hnamed] at hname ⊢
        rw [hvalue]
        exact hitem (hselects.mp hname)
      · have hlowered := isReserved_lowercase hreserved
        rw [selects_iff, hlowered] at hname
        exact absurd hname (by simp)
    · rw [h.noKeyword] at hkeyword
      cases hkeyword

/-- What is selected by an identifier: the items that have it, or all of them if no item has a field
for it. -/
theorem AsksForId.selectItems_eq (h : AsksForId id params) (items : List Json) :
    selectItems items params =
      if items.any (hasField "id") then items.filter (fieldIs "id" id) else items := by
  have hdecide : ∀ item, decide (Matches items params item) =
      (!items.any (hasField "id") || fieldIs "id" id item) := by
    intro item
    rw [Bool.eq_iff_iff, decide_eq_true_iff, h.matches_iff, hasId_iff]
    cases items.any (hasField "id") <;> simp
  rw [Simulator.selectItems_eq, selection]
  simp only [hdecide]
  split
  · next hany => simp only [hany, Bool.not_true, Bool.false_or]
  · next hnone =>
    rw [Bool.not_eq_true] at hnone
    simp only [hnone, Bool.not_false, Bool.true_or, List.filter_true]

/-- All of a selection is shown when an identifier is asked for. -/
theorem AsksForId.pageOf_eq {α : Type} (h : AsksForId id params) (selected : List α) :
    pageOf selected params = selected := by
  rw [pageOf, wholeParam?, h.noSize]
  rfl

/-! ## What an answer shows -/

/-- An answer shows an item in a list of its content. -/
def Answer.Shows (a : Answer) (item : Json) : Prop :=
  ∃ command content key items, a = .reply command 200 content ∧
    content.get? key = some (.array items) ∧ item ∈ items

/-- A reply with a content shows the items in the lists of that content. -/
theorem shows_reply_iff {name : String} {content : Json} :
    (Answer.reply name 200 content).Shows item ↔
      ∃ key items, content.get? key = some (.array items) ∧ item ∈ items := by
  constructor
  · rintro ⟨command, other, key, items, heq, hlist, hitem⟩
    injection heq with _ _ hbody
    injection hbody with hmembers
    injection hmembers with hmember
    injection hmember with _ hcontent
    exact ⟨key, items, hcontent ▸ hlist, hitem⟩
  · rintro ⟨key, items, hlist, hitem⟩
    exact ⟨name, content, key, items, rfl, hlist, hitem⟩

/-- An error shows nothing. -/
theorem not_shows_error {name text : String} {code : Nat} (hcode : code ≠ 200) :
    ¬ (Answer.error name code text).Shows item := by
  rintro ⟨command, content, key, items, heq, _⟩
  injection heq with hstatus
  exact hcode hstatus

/-- A reply without a list of items has no array among its members. -/
theorem ne_array_of_listItems?_eq_none {name key : String} {fixture : Json}
    (h : listItems? name fixture = none) (items : List Json) :
    fixture.get? key ≠ some (.array items) := by
  intro hget
  cases fixture with
  | object members =>
    obtain ⟨key, items, hfound⟩ := exists_listItems? name ⟨_, _, mem_of_lookup_eq_some hget⟩
    rw [h] at hfound
    cases hfound
  | null | bool | number | string | array => cases hget

/-- What a listing shows when an identifier is asked for. -/
theorem shows_listing_iff {name : String} {fixture : Json} (h : AsksForId id params) :
    (listing name fixture params).Shows item ↔ ∃ key items,
      listItems? name fixture = some (key, items) ∧ item ∈ selectItems items params := by
  cases hitems : listItems? name fixture with
  | none =>
    have hanswer : listing name fixture params = .reply name 200 fixture := by
      rw [listing, answerListing, hitems]
    rw [hanswer, shows_reply_iff]
    constructor
    · rintro ⟨key, items, hlist, _⟩
      exact absurd hlist (ne_array_of_listItems?_eq_none hitems items)
    · rintro ⟨_, _, heq, _⟩
      cases heq
  | some found =>
    obtain ⟨key, items⟩ := found
    rw [listing_eq hitems, h.pageOf_eq, h.found]
    unfold selectionAnswer
    by_cases hselected : selectItems items params = []
    · rw [if_pos hselected]
      refine ⟨fun hshows ↦ absurd hshows (not_shows_error (by decide)), ?_⟩
      rintro ⟨_, _, heq, hitem⟩
      cases heq
      rw [hselected] at hitem
      exact absurd hitem List.not_mem_nil
    · rw [if_neg hselected, shows_reply_iff]
      constructor
      · rintro ⟨other, shown, hlist, hitem⟩
        rw [get?_listingContent] at hlist
        refine ⟨key, items, rfl, ?_⟩
        split at hlist
        · cases hlist
          exact hitem
        · split at hlist <;> cases hlist
      · rintro ⟨_, _, heq, hitem⟩
        cases heq
        refine ⟨key, _, ?_, hitem⟩
        rw [get?_listingContent, if_pos ⟨hselected, rfl⟩]

/-! ## The identifiers that are collected -/

/-- An identifier is collected just if an item of a list has it as its text. -/
theorem mem_entityIds_iff {f : Fixtures} (hf : f.IsLoaded) : id ∈ f.entityIds ↔
    ∃ name fixture key items item, isListing name = true ∧ f.reply? name = some fixture ∧
      listItems? name fixture = some (key, items) ∧ item ∈ items ∧
      item.get? "id" = some (.string id) := by
  have hitem : ∀ item : Json, itemId? item = some id ↔ item.get? "id" = some (.string id) := by
    intro item
    rw [itemId?, Option.bind_eq_some_iff]
    constructor
    · rintro ⟨field, hfield, htext⟩
      cases field <;> cases htext
      exact hfield
    · exact fun h ↦ ⟨_, h, rfl⟩
  rw [Fixtures.entityIds, List.mem_flatMap]
  constructor
  · rintro ⟨⟨name, fixture⟩, hreply, hid⟩
    unfold replyIds at hid
    split at hid
    · next hlisting =>
      split at hid
      · next key items hfound =>
        obtain ⟨item, hmem, hget⟩ := List.mem_filterMap.mp hid
        exact ⟨name, fixture, key, items, item, hlisting, hf.mem_iff.mp hreply, hfound, hmem,
          (hitem item).mp hget⟩
      · exact absurd hid List.not_mem_nil
    · exact absurd hid List.not_mem_nil
  · rintro ⟨name, fixture, key, items, item, hlisting, hreply, hfound, hmem, hget⟩
    refine ⟨(name, fixture), hf.mem_iff.mpr hreply, ?_⟩
    rw [replyIds, if_pos hlisting, hfound]
    exact List.mem_filterMap.mpr ⟨item, hmem, (hitem item).mpr hget⟩

/-! ## Calls -/

/-- The commands that a server answers without its fixtures. -/
def builtIn : List String := ["login", "logout", jobCommand]

/-- A listing command is none of those that are answered without fixtures. -/
theorem not_mem_builtIn_of_isListing {name : String} (h : isListing name = true) :
    name ∉ builtIn := by
  have hnone : ∀ name ∈ builtIn, isListing name = false := by decide
  exact fun hmem ↦ absurd (h.symm.trans (hnone name hmem)) nofun

namespace Call

variable {server : Server} {s : State} {c : Call} {name : String}

/-- An authorised call is answered from the fixtures, unless it is one of the others. -/
theorem answer_of_fixture (hcommand : c.command? = some name) (hother : name ∉ builtIn)
    (h : c.IsAuthorised server s) :
    ∃ command, c.answer server s = answerFixture server.fixtures command name c.params := by
  simp only [builtIn, List.mem_cons, List.not_mem_nil, or_false, not_or] at hother
  obtain ⟨hlogin, hlogout, hjob⟩ := hother
  obtain ⟨command, hexecute⟩ := execute_of_authorised hcommand hlogin h
  exact ⟨command, by rw [answer, hexecute, dispatch, if_neg hlogout, if_neg hjob]⟩

/-- The replies of the fixtures have no part in the answer to the commands that are answered without
them. -/
theorem answer_of_builtIn (hcommand : c.command? = some name) (hname : name ∈ builtIn) :
    c.answer server s =
      c.answer { server with fixtures := { server.fixtures with replies := [] } } s := by
  obtain ⟨command, hlookup, rfl⟩ := Option.map_eq_some_iff.mp hcommand
  rw [answer, answer, execute_of_lookup? hlookup, execute_of_lookup? hlookup]
  split
  · rfl
  next hlogin =>
  have hname : lowercase command = "logout" ∨ lowercase command = jobCommand := by
    simpa [builtIn, hlogin] using hname
  cases authorize server.settings s c.now c.params c.cookies with
  | error refusal => rfl
  | ok _ =>
    rcases hname with hname | hname
    · simp only [dispatch, hname, if_true]
    · rw [hname]
      rfl

/-- An authorised call that asks a listing for an identifier. -/
structure ListsId (server : Server) (s : State) (id : String) (c : Call) : Prop where
  authorised : c.IsAuthorised server s
  listing : ∃ name, c.command? = some name ∧ isListing name = true
  asks : AsksForId id c.params

/-- A listing that is asked for an identifier shows items of its list. -/
theorem ListsId.shows_iff (h : c.ListsId server s id) : (c.answer server s).Shows item ↔
    ∃ name fixture key items, c.command? = some name ∧ isListing name = true ∧
      server.fixtures.reply? name = some fixture ∧ listItems? name fixture = some (key, items) ∧
      item ∈ selectItems items c.params := by
  obtain ⟨name, hname, hlisting⟩ := h.listing
  obtain ⟨command, hanswer⟩ :=
    answer_of_fixture hname (not_mem_builtIn_of_isListing hlisting) h.authorised
  rw [hanswer, answerFixture]
  cases hreply : server.fixtures.reply? name with
  | none =>
    refine ⟨fun hshows ↦ absurd hshows (not_shows_error (by decide)), ?_⟩
    rintro ⟨_, fixture, key, items, heq, _, hfound, _⟩
    rw [hname] at heq
    cases heq
    rw [hreply] at hfound
    cases hfound
  | some fixture =>
    rw [hlisting]
    simp only [if_true]
    rw [shows_listing_iff h.asks]
    constructor
    · rintro ⟨key, items, hitems, hitem⟩
      exact ⟨name, fixture, key, items, hname, hlisting, hreply, hitems, hitem⟩
    · rintro ⟨_, _, key, items, heq, _, hfound, hitems, hitem⟩
      rw [hname] at heq
      cases heq
      rw [hreply] at hfound
      cases hfound
      exact ⟨key, items, hitems, hitem⟩

/-- What a signer adds to parameters does not select items. -/
theorem mem_sign {signer : Signer} {now : Instant} {p : Param} (h : p ∈ signer.sign now params) :
    p ∈ params ∨ isReserved p.1 = true := by
  have hreserved : ∀ name ∈ [expiresParam, versionParam, apiKeyParam, signatureParam],
      isReserved name = true := by decide
  rw [Signer.sign, Signer.prepare_eq] at h
  rcases List.mem_append.mp h with h | h
  · rcases List.mem_append.mp h with h | h
    · exact .inl (List.mem_of_mem_filter h)
    · exact .inr (hreserved _ (signer.replacedNames_subset (signer.mem_replacedNames now h)))
  · rw [List.mem_singleton.mp h]
    exact .inr (show isReserved signatureParam = true by decide)

/-- Every listing can be asked for any identifier, with a signature of the account. -/
theorem exists_listsId (server : Server) (s : State) {command : String} (id : String)
    (hlisting : isListing (lowercase command) = true) :
    ∃ c : Call, c.ListsId server s id ∧ c.command? = some (lowercase command) := by
  let signer := server.settings.signer none
  let now : Instant := ⟨0, 0⟩
  let params : List Param := [(Command.commandParam, command), ("id", id)]
  have hplain : ∀ p ∈ params, isNamed versionParam p = false := by
    intro p hp
    rcases List.mem_pair.mp hp with rfl | rfl
    · exact show eqFolded Command.commandParam versionParam = false by decide
    · exact show eqFolded "id" versionParam = false by decide
  have hverify : verify (signer.sign now params) server.settings.secretKey now = .ok () := by
    refine (signer.verify_sign_eq now params now).trans ?_
    have hvalid : IsValidAt signer.timeToLive params now now := hplain
    exact checkExpiry_of_valid hvalid
  have hlookup : ∀ name, (∀ other ∈ credentialParams, eqFolded name other = false) →
      lookup? name (signer.sign now params) = lookup? name params := by
    intro name hname
    rw [← lookup?_withoutAll hname, signer.withoutAll_sign now params
      (List.Subset.trans signer.replacedNames_subset (by decide)), lookup?_withoutAll hname]
  let c : Call := ⟨now, signer.sign now params, []⟩
  have hcommand : c.command? = some (lowercase command) := by
    rw [command?, hlookup _ (by decide), lookup?_cons_of_eq (eqFolded_self _)]
    rfl
  refine ⟨c, ⟨?_, ⟨_, hcommand, hlisting⟩, ⟨?_, fun p hp ↦ ?_, ?_, ?_⟩⟩, hcommand⟩
  · exact authorize_of_signature (signer.lookup?_signature_sign now params)
      (signer.lookup?_apiKey_sign now params) s now [] hverify
  · rw [hlookup _ (by decide), lookup?_cons_of_ne (by decide), lookup?_cons_of_eq (eqFolded_self _)]
  · rcases mem_sign hp with hp | hreserved
    · rcases List.mem_pair.mp hp with rfl | rfl
      · exact .inr (show isReserved Command.commandParam = true by decide)
      · exact .inl ⟨eqFolded_self "id", rfl⟩
    · exact .inr hreserved
  · rw [hlookup _ (by decide), lookup?_cons_of_ne (by decide), lookup?_cons_of_ne (by decide),
      lookup?_nil]
  · rw [hlookup _ (by decide), lookup?_cons_of_ne (by decide), lookup?_cons_of_ne (by decide),
      lookup?_nil]

/-- A call for another command, which its fixture answers if the entity is known: it is answered
that there is none just if its identifier has not been collected. -/
theorem status_of_fixture {fixture : Json} (hcommand : c.command? = some name)
    (hother : name ∉ builtIn) (hsingle : isListing name = false) (h : c.IsAuthorised server s)
    (hfixture : server.fixtures.reply? name = some fixture)
    (hid : lookup? "id" c.params = some id) :
    (c.answer server s).status = parameterStatus ↔ id ∉ server.fixtures.entityIds := by
  obtain ⟨command, hanswer⟩ := answer_of_fixture hcommand hother h
  rw [hanswer, answerFixture, hfixture]
  simp only [hsingle, Bool.false_eq_true, if_false, single, hid]
  by_cases hknown : id ∈ server.fixtures.entityIds
  · rw [List.contains_iff_mem.mpr hknown, if_pos rfl]
    have hfound : ¬ 200 = parameterStatus := by decide
    exact ⟨fun hstatus ↦ absurd hstatus hfound, fun hunknown ↦ absurd hknown hunknown⟩
  · rw [if_neg (mt List.contains_iff_mem.mp hknown)]
    exact ⟨fun _ ↦ hknown, fun _ ↦ rfl⟩

/-- An identifier has been collected just if a listing that is asked for it, by any call and in any
state, shows an item that has it as its text. -/
theorem mem_entityIds_iff_shows (hf : server.fixtures.IsLoaded) :
    id ∈ server.fixtures.entityIds ↔ ∃ s c item, Call.ListsId server s id c ∧
      (c.answer server s).Shows item ∧ item.get? "id" = some (.string id) := by
  rw [mem_entityIds_iff hf]
  constructor
  · rintro ⟨name, fixture, key, items, item, hlisting, hreply, hitems, hitem, hget⟩
    obtain ⟨command, _, _, hcommand, _⟩ := hf.origin (name, fixture) (hf.mem_iff.mpr hreply)
    obtain rfl : lowercase command = name := hcommand
    obtain ⟨c, hc, hname⟩ := exists_listsId server .initial id hlisting
    refine ⟨.initial, c, item, hc, hc.shows_iff.mpr ?_, hget⟩
    refine ⟨_, fixture, key, items, hname, hlisting, hreply, hitems, ?_⟩
    rw [hc.asks.selectItems_eq]
    split
    · exact List.mem_filter.mpr ⟨hitem, hasId_iff.mp (hasId_of_get? hget)⟩
    · exact hitem
  · rintro ⟨s, c, item, hc, hshows, hget⟩
    obtain ⟨name, fixture, key, items, _, hlisting, hreply, hitems, hitem⟩ := hc.shows_iff.mp hshows
    rw [selectItems_eq, selection] at hitem
    exact ⟨name, fixture, key, items, item, hlisting, hreply, hitems, List.mem_of_mem_filter hitem,
      hget⟩

/-! ## Two zones -/

/-- The files of a server with two zones, one of them with a number for its identifier. -/
def zoneFiles : List (String × String) := [
  ("listZones.json", "\x7b\"zone\": [\x7b\"id\": 7\x7d, \x7b\"id\": \"Z-1\"\x7d]\x7d"),
  ("deleteZone.json", "\x7b\"success\": true\x7d")]

/-- What is loaded from these files. -/
def zoneFixtures : Fixtures :=
  ⟨[("deletezone", .object [("success", .bool true)]),
    ("listzones", .object [("zone", .array [
      .object [("id", .ofInt 7)], .object [("id", .string "Z-1")]])])], []⟩

/-- The files are loaded. -/
theorem load_zoneFiles : Fixtures.load zoneFiles = .ok zoneFixtures :=
  Fixtures.load_eq_ok (by decide +kernel)

/-- A server with the two zones, and a session on it. -/
def zoneServer : Server := ⟨.usual, zoneFixtures, fun _ ↦ ⟨"key", "cookie"⟩⟩

/-- The state with that session. -/
def zoneSession : State := ⟨[("key", "cookie")], [], 1⟩

/-- A call for the zone with an identifier, by that session. -/
def zoneCall (command id : String) : Call :=
  ⟨⟨0, 0⟩, [(Command.commandParam, command), ("id", id), (sessionKeyParam, "key")], []⟩

/-- A listing of the zones asks for the identifier. -/
theorem listsId_zoneCall : ∀ id ∈ ["7", "z-1"],
    (zoneCall "listZones" id).ListsId zoneServer zoneSession id := by
  have hparams : ∀ id ∈ ["7", "z-1"],
      (zoneCall "listZones" id).IsAuthorised zoneServer zoneSession ∧
      lookup? "id" (zoneCall "listZones" id).params = some id ∧
      (∀ p ∈ (zoneCall "listZones" id).params,
        (isNamed "id" p = true ∧ p.2 = id) ∨ isReserved p.1 = true) ∧
      lookup? "keyword" (zoneCall "listZones" id).params = none ∧
      lookup? "pagesize" (zoneCall "listZones" id).params = none := by
    decide +kernel
  intro id hid
  obtain ⟨hauthorised, hfound, halone, hkeyword, hsize⟩ := hparams id hid
  exact ⟨hauthorised, ⟨"listzones", rfl, by decide⟩, ⟨hfound, halone, hkeyword, hsize⟩⟩

/-! ## Agreement -/

/-- Whatever fixtures are loaded, an authorised call for a command other than a listing, which has a
fixture and names an entity, is answered that there is none just if no listing that is asked for the
identifier shows an item that has it as its text. So it is if no listing shows an item with that
identifier in any letter case or form; and where all items with that identifier have it as their
text, it is so just if there are none. The commands that a server answers without its fixtures do
not look for an entity at all. -/
theorem status_eq_unknown_iff {files : List (String × String)}
    (hload : Fixtures.load files = .ok server.fixtures) (hcommand : c.command? = some name)
    (hsingle : isListing name = false) (h : c.IsAuthorised server s) {fixture : Json}
    (hfixture : server.fixtures.reply? name = some fixture)
    (hid : lookup? "id" c.params = some id) :
    (name ∉ builtIn →
      ((c.answer server s).status = 431 ↔ ∀ s c item, Call.ListsId server s id c →
        (c.answer server s).Shows item → item.get? "id" ≠ some (.string id)) ∧
      ((∀ s c item, Call.ListsId server s id c → (c.answer server s).Shows item →
        ¬ HasId id item) → (c.answer server s).status = 431) ∧
      ((∀ s c item, Call.ListsId server s id c → (c.answer server s).Shows item → HasId id item →
          item.get? "id" = some (.string id)) →
        ((c.answer server s).status = 431 ↔ ∀ s c item, Call.ListsId server s id c →
          (c.answer server s).Shows item → ¬ HasId id item))) ∧
    (name ∈ builtIn → c.answer server s =
      c.answer { server with fixtures := { server.fixtures with replies := [] } } s) := by
  refine ⟨fun hother ↦ ?_, answer_of_builtIn hcommand⟩
  have hunknown : (c.answer server s).status = 431 ↔ ∀ s c item, Call.ListsId server s id c →
      (c.answer server s).Shows item → item.get? "id" ≠ some (.string id) := by
    refine (status_of_fixture hcommand hother hsingle h hfixture hid).trans ?_
    rw [mem_entityIds_iff_shows (Fixtures.isLoaded_of_load hload)]
    constructor
    · exact fun hnone s c item hc hshows hget ↦ hnone ⟨s, c, item, hc, hshows, hget⟩
    · rintro hnone ⟨s, c, item, hc, hshows, hget⟩
      exact hnone s c item hc hshows hget
  refine ⟨hunknown, fun hnone ↦ ?_, fun hplain ↦ ?_⟩
  · exact hunknown.mpr fun s c item hc hshows hget ↦ hnone s c item hc hshows (hasId_of_get? hget)
  · refine hunknown.trans ⟨fun hnone s c item hc hshows hhas ↦ ?_,
      fun hnone s c item hc hshows hget ↦ hnone s c item hc hshows (hasId_of_get? hget)⟩
    exact hnone s c item hc hshows (hplain s c item hc hshows hhas)

/-- The zone with a text for its identifier is found under it, and so a listing shows it. -/
theorem status_eq_unknown_iff_zone :
    Fixtures.load zoneFiles = .ok zoneServer.fixtures ∧
    (zoneCall "deleteZone" "Z-1").command? = some "deletezone" ∧
    isListing "deletezone" = false ∧
    (zoneCall "deleteZone" "Z-1").IsAuthorised zoneServer zoneSession ∧
    zoneServer.fixtures.reply? "deletezone" = some (.object [("success", .bool true)]) ∧
    lookup? "id" (zoneCall "deleteZone" "Z-1").params = some "Z-1" ∧
    "deletezone" ∉ builtIn ∧
    ((zoneCall "deleteZone" "Z-1").answer zoneServer zoneSession).status = 200 ∧
    ∃ s c item, Call.ListsId zoneServer s "Z-1" c ∧ (c.answer zoneServer s).Shows item ∧
      item.get? "id" = some (.string "Z-1") := by
  have hother : "deletezone" ∉ builtIn := by decide
  have hauthorised : (zoneCall "deleteZone" "Z-1").IsAuthorised zoneServer zoneSession := by decide
  have hstatus : ((zoneCall "deleteZone" "Z-1").answer zoneServer zoneSession).status = 200 := by
    decide +kernel
  refine ⟨load_zoneFiles, rfl, by decide, hauthorised, rfl, rfl, hother, hstatus, ?_⟩
  obtain ⟨hunknown, _, _⟩ :=
    (status_eq_unknown_iff load_zoneFiles rfl (by decide) hauthorised rfl rfl).1 hother
  by_contra hnone
  push Not at hnone
  have hrefused := hunknown.mpr hnone
  rw [hstatus] at hrefused
  exact absurd hrefused (by decide)

/-- Lists and other commands do not agree on what exists: the zone whose identifier is a number, and
the zone whose identifier is asked for in the other letter case, are listed when they are asked for,
and yet any other command with the same identifier is answered that there is none. -/
theorem lists_differ : Fixtures.load zoneFiles = .ok zoneServer.fixtures ∧
    ∀ id ∈ ["7", "z-1"],
      (zoneCall "deleteZone" id).IsAuthorised zoneServer zoneSession ∧
      ((zoneCall "deleteZone" id).answer zoneServer zoneSession).status = 431 ∧
      ∃ item, (zoneCall "listZones" id).ListsId zoneServer zoneSession id ∧
        ((zoneCall "listZones" id).answer zoneServer zoneSession).Shows item ∧ HasId id item := by
  have hitems : listItems? "listzones" (.object [("zone", .array [
      .object [("id", .ofInt 7)], .object [("id", .string "Z-1")]])]) =
        some ("zone", [.object [("id", .ofInt 7)], .object [("id", .string "Z-1")]]) :=
    listItems?_of_select (by decide +kernel) rfl
  refine ⟨load_zoneFiles, List.forall_mem_cons.mpr ⟨?_, List.forall_mem_singleton.mpr ?_⟩⟩
  · have hlists := listsId_zoneCall "7" (by decide)
    exact ⟨by decide, by decide +kernel, _, hlists, hlists.shows_iff.mpr
      ⟨_, _, "zone", _, rfl, by decide, rfl, hitems, List.mem_cons_self⟩, .ofInt 7, rfl, by decide⟩
  · have hlists := listsId_zoneCall "z-1" (by decide)
    exact ⟨by decide, by decide +kernel, _, hlists, hlists.shows_iff.mpr
      ⟨_, _, "zone", _, rfl, by decide, rfl, hitems, List.mem_cons_self⟩, .string "Z-1", rfl,
      by decide⟩

end Call

end CloudControl.Simulator
