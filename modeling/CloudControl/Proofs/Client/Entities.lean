import CloudControl.Proofs.Client.Lookup
import CloudControl.Proofs.Operations
import CloudControl.Proofs.Simulator.Existence

/-!
# Looking up one entity

A client asks a server for the entity with an identifier and is given the first one in the list of
the server that has it, in any letter case, as it is read from the list; or no value, just if no
entity has it (`Operation.finds_entity`).

Where no item of the list has a field for an identifier, the server selects all of them. An item
that is an array of its fields in order is read all the same, whatever its identifier is
(`Operation.finds_other_entity`).
-/

namespace CloudControl

open Auth Simulator Text

/-! ## Operations that look up an entity -/

namespace Schema.Kind

/-- The kind is one of entities, which have a text for an identifier. -/
def hasId : Kind → Bool
  | .record _ fields =>
    match fields.lookup "id" with
    | some .text => true
    | _ => false
  | _ => false

/-- The names of the fields of a record. -/
def fieldNames : Kind → List String
  | .record _ fields => fields.map Prod.fst
  | _ => []

variable {k : Kind} {item : Json} {v : Value}

/-- An entity is a record with a field for its identifier. -/
theorem exists_record_of_hasId (hk : k.hasId = true) :
    ∃ name fields, k = .record name fields ∧ ("id", Kind.text) ∈ fields := by
  unfold hasId at hk
  split at hk
  · next name fields =>
    split at hk
    · next hlookup => exact ⟨name, fields, rfl, mem_of_lookup_eq_some hlookup⟩
    · cases hk
  · cases hk

/-- An entity is read from an item with a text for its identifier, which is the identifier of the
entity, or from an array of its fields in order. -/
theorem hasId_cases (hk : k.hasId = true) (hnames : k.fieldNames.Nodup)
    (h : k.decode item = .ok v) :
    (∃ s, item.get? "id" = some (.string s) ∧ v.fields.lookup "id" = some (.text (some s))) ∨
      ∃ elements, item = .array elements := by
  obtain ⟨name, fields, rfl, hid⟩ := exists_record_of_hasId hk
  cases item with
  | object members =>
    obtain ⟨x, hx, hread⟩ := exists_reads_of_decode hnames h hid
    dsimp only at hread
    have hget : (Json.object members).get? "id" = members.lookup "id" := rfl
    rw [hget]
    -- Nothing but a text is read as the identifier.
    cases hfield : members.lookup "id" with
    | none =>
      rw [hfield] at hread
      cases hread
    | some field =>
      rw [hfield] at hread
      cases field with
      | string s =>
        cases hread
        exact .inl ⟨s, rfl, hx⟩
      | null | bool | number | array | object => cases hread
  | array elements => exact .inr ⟨elements, rfl⟩
  | null | bool | number | string => cases h

end Schema.Kind

namespace Operation

/-- The kind of the entity that the operation looks up by its identifier. -/
def entity? (o : Operation) : Option Schema.Kind :=
  match o.result with
  | .first k => if k.hasId then some k else none
  | _ => none

/-- How an operation looks up an entity. -/
structure LooksUp (o : Operation) (k : Schema.Kind) : Prop where
  result : o.result = .first k
  command : o.command ∈ Catalog.commands
  isListing : isListing (lowercase o.command.name) = true
  /-- The server lists the items that the operation selects. -/
  select : (Catalog.lookup? (lowercase o.command.name)).bind Command.select = o.command.select
  notCode : o.command.select ≠ some Envelope.errorCodeKey
  fallback : o.command.fallback = .noneWhenNotFound
  /-- The identifier alone is sent if it is the only argument. -/
  params : ∀ id, (o.params [("id", .text id)] ∅).entries = [("id", id)]
  ignoresFloats : k.ignoresFloats = true
  fieldNames : k.fieldNames.Nodup
  hasId : k.hasId = true

variable {o : Operation} {k : Schema.Kind}

/-- The first argument is an identifier, and no other has a value unless it is given. -/
def takesId (o : Operation) : Bool :=
  !o.optionsWin && match o.slots with
    | s :: rest => s.name == "id" && decide (s.encoding = .plain "id") &&
        rest.all fun s ↦ s.name != "id" && s.fallback.isNone
    | [] => false

/-- Of such an operation, an identifier is the only parameter if it is the only argument. -/
theorem entries_params_of_takesId (h : o.takesId = true) (id : String) :
    (o.params [("id", .text id)] ∅).entries = [("id", id)] := by
  unfold takesId at h
  rw [Bool.and_eq_true, Bool.not_eq_true'] at h
  obtain ⟨hwin, h⟩ := h
  have harguments : o.arguments [("id", .text id)] = [("id", id)] := by
    split at h
    · next s rest hslots =>
      simp only [Bool.and_eq_true, beq_iff_eq, decide_eq_true_eq, List.all_eq_true, bne_iff_ne,
        Option.isNone_iff_eq_none] at h
      obtain ⟨⟨hname, hencoding⟩, hrest⟩ := h
      have hfirst : s.write [("id", .text id)] = [("id", id)] := by
        rw [Slot.write, hname, hencoding]
        rfl
      have hothers : rest.flatMap (fun s ↦ s.write [("id", .text id)]) = [] := by
        refine List.flatMap_eq_nil_iff.mpr fun s hs ↦ ?_
        obtain ⟨hother, hnone⟩ := hrest s hs
        rw [Slot.write, List.lookup_cons, beq_eq_false_iff_ne.mpr hother, hnone]
        rfl
      rw [arguments, hslots, List.flatMap_cons, hfirst, hothers, List.append_nil]
    · cases h
  rw [params, hwin, harguments]
  rfl

/-- Every operation that looks up an entity does so in the same way. -/
theorem looksUp_of_mem (ho : o ∈ all) (hk : k ∈ o.entity?) : o.LooksUp k := by
  have hcommand : ∀ o ∈ all, ∀ k ∈ o.entity?, o.command ∈ Catalog.commands := by decide +kernel
  have hlisting : ∀ o ∈ all, ∀ k ∈ o.entity?, isListing (lowercase o.command.name) = true := by
    decide +kernel
  have hselect : ∀ o ∈ all, ∀ k ∈ o.entity?,
      (Catalog.lookup? (lowercase o.command.name)).bind Command.select = o.command.select := by
    decide +kernel
  have hrest : ∀ o ∈ all, ∀ k ∈ o.entity?,
      o.command.select ≠ some Envelope.errorCodeKey ∧ o.command.fallback = .noneWhenNotFound ∧
        o.takesId = true ∧ k.ignoresFloats = true ∧ k.fieldNames.Nodup := by
    decide +kernel
  obtain ⟨hresult, hid⟩ : o.result = .first k ∧ k.hasId = true := by
    have hentity : o.entity? = some k := hk
    unfold entity? at hentity
    split at hentity
    · next hresult =>
      split at hentity <;> cases hentity
      next hid => exact ⟨hresult, hid⟩
    · cases hentity
  obtain ⟨hcode, hfallback, htakes, hfloats, hnames⟩ := hrest o ho k hk
  exact ⟨hresult, hcommand o ho k hk, hlisting o ho k hk, hselect o ho k hk, hcode, hfallback,
    entries_params_of_takesId htakes, hfloats, hnames, hid⟩

end Operation

/-! ## The request -/

namespace Client

variable {command : Command} {params : Params} {id : String}

/-- What a command always sends selects no items. -/
theorem isReserved_fixed (hcommand : command ∈ Catalog.commands) {p : Param}
    (hp : p ∈ command.fixed) : isReserved p.1 = true ∧
      ∀ name ∈ ["id", "keyword", "pagesize"], isNamed name p = false := by
  have hnames : ∀ fixed ∈ Command.fixedNames, isReserved fixed = true ∧
      ∀ name ∈ ["id", "keyword", "pagesize"], eqFolded fixed name = false := by
    decide
  exact hnames p.1 (mem_fixedNames command hcommand p hp)

section

variable (hcommand : command ∈ Catalog.commands) (hparams : params.entries = [("id", id)])

include hcommand hparams

/-- A command that is sent with an identifier is sent with no keyword and no page size. -/
theorem lookup?_commandParams_of_id {name : String} (hname : name ∈ ["keyword", "pagesize"]) :
    lookup? name (commandParams command params).entries = none := by
  have hnames : ∀ name ∈ ["keyword", "pagesize"], name ∈ ["id", "keyword", "pagesize"] ∧
      eqFolded Command.commandParam name = false ∧ eqFolded Command.responseParam name = false ∧
        eqFolded "id" name = false := by
    decide
  obtain ⟨hmem, hcommandParam, hresponseParam, hid⟩ := hnames name hname
  refine lookup?_eq_none_iff.mpr fun p hp ↦
    isNamed_commandParams hcommandParam hresponseParam (fun p hp ↦ ?_) hp
  rcases List.mem_append.mp hp with hp | hp
  · rw [hparams] at hp
    rw [List.mem_singleton.mp hp]
    exact hid
  · exact (isReserved_fixed hcommand hp).2 name hmem

/-- Of the parameters of a command that is sent with an identifier, no other selects items. -/
theorem mem_commandParams_of_id {p : Param} (hp : p ∈ (commandParams command params).entries) :
    (isNamed "id" p = true ∧ p.2 = id) ∨ isReserved p.1 = true ∧ isNamed "id" p = false := by
  rcases mem_commandParams hp with rfl | rfl | hp | hp
  · exact .inr (show isReserved Command.responseParam = true ∧
      eqFolded Command.responseParam "id" = false by decide)
  · exact .inr (show isReserved Command.commandParam = true ∧
      eqFolded Command.commandParam "id" = false by decide)
  · rw [hparams] at hp
    rw [List.mem_singleton.mp hp]
    exact .inl ⟨eqFolded_self "id", rfl⟩
  · have hfixed := isReserved_fixed hcommand hp
    exact .inr ⟨hfixed.1, hfixed.2 "id" (by decide)⟩

/-- The parameters of a command that is sent with an identifier ask for that identifier. -/
theorem asksForId_commandParams : AsksForId id (commandParams command params).entries := by
  have hfree : IsFree "id" := ⟨by decide, by decide, by decide⟩
  have hsent : ("id", id) ∈ (commandParams command params).entries := by
    refine Params.mem_entries_iff.mpr (get?_commandParams_of_isFree hfree ?_)
    rw [Params.get?, hparams]
    rfl
  refine ⟨lookup?_eq_some "id" hsent (eqFolded_self "id") fun p hp hnamed ↦ ?_,
    fun p hp ↦ (mem_commandParams_of_id hcommand hparams hp).imp_right And.left,
    lookup?_commandParams_of_id hcommand hparams (by decide),
    lookup?_commandParams_of_id hcommand hparams (by decide)⟩
  rcases mem_commandParams_of_id hcommand hparams hp with ⟨-, hvalue⟩ | ⟨-, hunnamed⟩
  · exact hvalue
  · rw [hnamed] at hunnamed
    cases hunnamed

end

variable {server : Server} {w : World} {c : Client} {fixture : Json} {α : Type}

/-- A call for one item of a listing is answered with the listing of its own parameters. -/
theorem outcome_find_of_listing (reader : Schema.Reader α) (hcommand : command.ListsItems)
    (hfixture : server.fixtures.reply? (lowercase command.name) = some fixture)
    (hclient : c.IsAuthorised server w) (hcookie : c.sendsCookie = true)
    (hparams : params.AreForeign) :
    (c.find (Simulator.link server) command reader params).outcome w =
      (firstOfAnswer command reader (listing (lowercase command.name) fixture
        (commandParams command params).entries), w) := by
  rw [find_eq, outcome_call, outcome_reply_of_listing hcommand hfixture hclient hparams,
    if_pos hcookie]
  rfl

end Client

/-! ## The list of the server -/

namespace Simulator

/-- A reply of fixtures that have been loaded is what a reader can give. -/
theorem Fixtures.IsLoaded.isReadable {f : Fixtures} (hf : f.IsLoaded) {name : String}
    {fixture : Json} (h : f.reply? name = some fixture) : fixture.IsReadable := by
  obtain ⟨_, text, value, _, hparse, heq⟩ := hf.origin (name, fixture) (hf.mem_iff.mpr h)
  have hvalue := Json.isReadable_of_parse? hparse
  dsimp only at heq
  subst heq
  -- The reply is a member of the value, or the value itself.
  unfold unwrapFixture
  split
  · next members =>
    cases hvalue with
    | object hascending hmembers =>
    split
    · next inner hlookup => exact hmembers _ (mem_of_lookup_eq_some hlookup)
    · split
      · split
        · exact hmembers _ (List.mem_singleton_self _)
        · exact .object hascending hmembers
      · exact .object hascending hmembers
  · exact hvalue

/-- The items that are selected for an identifier: those that have it, or all of them if no item has
a field for one. -/
def selectedById (id : String) (items : List Json) : List Json :=
  if items.any (hasField "id") then items.filter (fieldIs "id" id) else items

section

variable {id : String} {items rest : List Json} {item : Json}

/-- The items that are selected stand in the order of the list. -/
theorem selectedById_sublist (id : String) (items : List Json) :
    (selectedById id items).Sublist items := by
  unfold selectedById
  split
  · exact List.filter_sublist
  · exact List.Sublist.refl items

/-- The first item that is selected is the first one that has the identifier, if any item has a
field for one. -/
theorem selectedById_eq_cons (h : selectedById id items = item :: rest) :
    items.find? (fieldIs "id" id) = some item ∨
      items.any (hasField "id") = false ∧ items = item :: rest := by
  unfold selectedById at h
  split at h
  · refine .inl ?_
    rw [← List.head?_filter, h]
    rfl
  · next hnone => exact .inr ⟨Bool.not_eq_true _ ▸ hnone, h⟩

/-- The first item that has the identifier is the first one that is selected. -/
theorem exists_selectedById_eq_cons (h : items.find? (fieldIs "id" id) = some item) :
    ∃ rest, selectedById id items = item :: rest := by
  obtain ⟨field, hfield, _⟩ := hasId_iff.mpr (List.find?_some h)
  have hany : items.any (hasField "id") = true := List.any_eq_true.mpr
    ⟨item, List.mem_of_find?_eq_some h, Option.isSome_iff_exists.mpr ⟨field, hfield⟩⟩
  rw [← List.head?_filter] at h
  rw [selectedById, if_pos hany]
  exact List.head?_eq_some_iff.mp h

/-- Nothing is selected just if nothing has the identifier, unless no item has a field for one. -/
theorem selectedById_eq_nil_iff (h : items = [] ∨ items.any (hasField "id") = true) :
    selectedById id items = [] ↔ ∀ item ∈ items, ¬ HasId id item := by
  rcases h with rfl | hany
  · exact iff_of_true rfl nofun
  · rw [selectedById, if_pos hany, List.filter_eq_nil_iff]
    simp only [hasId_iff]

end

end Simulator

namespace Operation

variable {o : Operation} {k : Schema.Kind} {server : Server} {key id : String}
  {members : List (String × Json)} {items : List Json} {c : Client} {w : World}

/-- A look-up comes to what the client makes of the items that the server selects. -/
theorem outcome_run_of_looksUp (ho : o.LooksUp k) (hselect : o.command.select = some key)
    (hfixture : server.fixtures.reply? (lowercase o.command.name) = some (.object members))
    (hitems : members.lookup key = some (.array items)) (hclient : c.IsAuthorised server w)
    (hcookie : c.sendsCookie = true) (id : String) :
    (o.run (Simulator.link server) c [("id", .text id)] ∅).outcome w =
      ((Client.firstOfAnswer o.command k.decode (selectionAnswer (lowercase o.command.name) key
        (selectedById id items) (some id) (selectedById id items))).map .value, w) := by
  have hlists := listsItems_of_mem ho.command ho.isListing
  have hforeign : (o.params [("id", .text id)] ∅).AreForeign := by
    have hnames : ∀ name ∈ credentialParams ++ [Command.commandParam],
        eqFolded "id" name = false := by
      decide
    intro p hp
    rw [ho.params] at hp
    rw [List.mem_singleton.mp hp]
    exact hnames
  have hasks := Client.asksForId_commandParams ho.command (ho.params id)
  have hfound := Client.outcome_find_of_listing k.decode hlists hfixture hclient hcookie hforeign
  rw [listing_eq (listItems?_of_select (ho.select.trans hselect) hitems), hasks.pageOf_eq,
    hasks.found, hasks.selectItems_eq] at hfound
  rw [run, ho.result]
  dsimp only
  rw [Action.outcome_bind_pure, hfound, selectedById]

/-- The first item that is selected is the first one that has the identifier, and the entity has it
too; or no item has a field for one, and the first item is an array. -/
theorem LooksUp.first_cases (ho : o.LooksUp k) {item : Json} {rest : List Json} {v : Schema.Value}
    (hfirst : selectedById id items = item :: rest) (hread : k.decode item = .ok v) :
    (∃ item s, items.find? (fieldIs "id" id) = some item ∧ k.decode item = .ok v ∧
      v.fields.lookup "id" = some (.text (some s)) ∧ eqFolded s id = true) ∨
    items.any (hasField "id") = false ∧ ∃ elements rest, items = .array elements :: rest ∧
      k.decode (.array elements) = .ok v := by
  have hid := Schema.Kind.hasId_cases ho.hasId ho.fieldNames hread
  rcases selectedById_eq_cons hfirst with hfind | ⟨hnone, rfl⟩
  · -- The item that is found has a field, so it is no array.
    obtain ⟨field, hfield, hfolded⟩ := hasId_iff.mpr (List.find?_some hfind)
    rcases hid with ⟨s, hs, hvalue⟩ | ⟨elements, rfl⟩
    · obtain rfl := Option.some.inj (hfield.symm.trans hs)
      exact .inl ⟨item, s, hfind, hread, hvalue, hfolded⟩
    · cases hfield
  · -- No item has a field, so the first one is no object.
    rcases hid with ⟨s, hs, _⟩ | ⟨elements, rfl⟩
    · have hfield : hasField "id" item = true := Option.isSome_iff_exists.mpr ⟨_, hs⟩
      exact absurd hfield (List.any_eq_false.mp hnone item List.mem_cons_self)
    · exact .inr ⟨hnone, elements, rest, rfl, hread⟩

/-- An operation that looks up an entity gives the first item with the identifier, in any letter
case, as it is read from the list of the server. Only if no item has a field for an identifier, it
may give the first item, which is then an array of the fields of the entity. It gives no value just
if no item has the identifier, where the list is empty or an item has a field for one. The entity is
given if all items can be read again when they have been printed. -/
theorem finds_entity (ho : o ∈ all) (hk : k ∈ o.entity?) {files : List (String × String)}
    (hload : Fixtures.load files = .ok server.fixtures) (hselect : o.command.select = some key)
    (hfixture : server.fixtures.reply? (lowercase o.command.name) = some (.object members))
    (hitems : members.lookup key = some (.array items)) (hclient : c.IsAuthorised server w)
    (hcookie : c.sendsCookie = true) (id : String) :
    let found := ((o.run (Simulator.link server) c [("id", .text id)] ∅).outcome w).1
    (∀ v, found = .ok (.value (some v)) →
      (∃ item s, items.find? (fieldIs "id" id) = some item ∧ k.decode item = .ok v ∧
        v.fields.lookup "id" = some (.text (some s)) ∧ eqFolded s id = true) ∨
      items.any (hasField "id") = false ∧ ∃ elements rest, items = .array elements :: rest ∧
        k.decode (.array elements) = .ok v) ∧
    (items = [] ∨ items.any (hasField "id") = true →
      (found = .ok (.value none) ↔ ∀ item ∈ items, ¬ HasId id item)) ∧
    (items.length ≤ Numeral.maxUnsigned 64 →
      (∀ item ∈ items, ∃ item', item.readBack 124 = some item') → ∀ item v,
        items.find? (fieldIs "id" id) = some item → k.decode item = .ok v →
          found = .ok (.value (some v))) := by
  intro found
  have hlooks := looksUp_of_mem ho hk
  have hcode : key ≠ Envelope.errorCodeKey := fun heq ↦ hlooks.notCode (heq ▸ hselect)
  -- Nothing that is read is a floating-point number, so that nothing changes on the way.
  have hreadable : ∀ item ∈ items, item.IsReadable := by
    cases (Fixtures.isLoaded_of_load hload).isReadable hfixture with
    | object _ hmembers =>
      cases hmembers _ (mem_of_lookup_eq_some hitems) with
      | array hreadable => exact hreadable
  have hfound : found = _ := congrArg Prod.fst
    (outcome_run_of_looksUp hlooks hselect hfixture hitems hclient hcookie id)
  have hselected : ∀ item ∈ selectedById id items, item.IsReadable :=
    fun item hitem ↦ hreadable item ((selectedById_sublist id items).mem hitem)
  refine ⟨fun v hv ↦ ?_, fun hlist ↦ ?_, fun hlength hback item v hitem hread ↦ ?_⟩
  · obtain ⟨value, hvalue, heq⟩ := map_eq_ok_iff.mp (hfound.symm.trans hv)
    obtain rfl : value = some v := OperationResult.value.inj heq
    obtain ⟨item, rest, hfirst, hread⟩ := Client.exists_first_of_firstOfAnswer hselect hcode
      hlooks.fallback hlooks.ignoresFloats hselected hvalue
    exact hlooks.first_cases hfirst hread
  · rw [← selectedById_eq_nil_iff hlist,
      ← Client.firstOfAnswer_eq_none_iff hselect hcode hlooks.fallback, hfound, map_eq_ok_iff]
    constructor
    · rintro ⟨value, hvalue, heq⟩
      cases heq
      exact hvalue
    · exact fun hnone ↦ ⟨none, hnone, rfl⟩
  · obtain ⟨rest, hfirst⟩ := exists_selectedById_eq_cons hitem
    have hsublist := hfirst ▸ selectedById_sublist id items
    have hlooked := Client.firstOfAnswer_of_decode hselect hcode hlooks.ignoresFloats
      (hreadable item (List.mem_of_find?_eq_some hitem)) (hsublist.length_le.trans hlength)
      (fun shown hshown ↦ hback shown (hsublist.mem hshown)) hread (lowercase o.command.name) id
    rw [hfound, hfirst, hlooked]
    rfl

/-! ## Operating systems -/

/-- A server that lists some operating systems. -/
def systemServer (systems : List Json) : Server :=
  ⟨.usual, ⟨[("listostypes", .object [("ostype", .array systems)])], []⟩, fun _ ↦ ⟨"", ""⟩⟩

/-- A client of that server. -/
def systemClient : Client :=
  ⟨⟨"http", "", "", some (.domain "localhost"), some 8080, .segments ["client", "api"], none, none⟩,
    some (.signed (Settings.usual.signer none))⟩

/-- The time at which it asks. -/
def systemWorld : World :=
  ⟨.initial, ⟨1772366400, 0⟩, 0⟩

/-- The server accepts the client. -/
theorem isAuthorised_systemClient (systems : List Json) :
    systemClient.IsAuthorised (systemServer systems) systemWorld :=
  ⟨by decide, _, rfl, rfl, rfl, fun p hp ↦ absurd hp List.not_mem_nil⟩

/-- An operating system is found by its identifier, in another letter case, and one that is not
there is not. -/
theorem finds_entity_system :
    let systems : List Json := [.object [("id", .ofInt 7)],
      .object [("description", .string "Linux"), ("id", .string "OS-1")],
      .object [("description", .string "Other"), ("id", .string "os-1")]]
    let found (id : String) := ((getOsType.run (Simulator.link (systemServer systems)) systemClient
      [("id", .text id)] ∅).outcome systemWorld).1
    found "os-1" = .ok (.value (some (.record [("id", .text (some "OS-1")),
        ("description", .text (some "Linux")), ("oscategoryid", .text none),
        ("isuserdefined", .flag none)]))) ∧
      found "os-2" = .ok (.value none) := by
  intro systems found
  have hload : Fixtures.load [("listOsTypes.json", "\x7b\"ostype\": [\x7b\"id\": 7\x7d, " ++
      "\x7b\"id\": \"OS-1\", \"description\": \"Linux\"\x7d, " ++
      "\x7b\"id\": \"os-1\", \"description\": \"Other\"\x7d]\x7d")] =
      .ok (systemServer systems).fixtures :=
    Fixtures.load_eq_ok (by decide +kernel)
  have ho : getOsType ∈ all := List.mem_of_getElem? (i := 130) rfl
  have hfixture : (systemServer systems).fixtures.reply? (lowercase getOsType.command.name) =
      some (.object [("ostype", .array systems)]) := by
    decide +kernel
  have hselect : getOsType.command.select = some "ostype" := rfl
  have hfound := finds_entity ho (k := .osType) rfl hload hselect hfixture rfl
    (isAuthorised_systemClient systems) rfl
  have hexact : ∀ item ∈ systems, item.isExact 124 = true := by decide +kernel
  have hfind : systems.find? (fieldIs "id" "os-1") =
      some (.object [("description", .string "Linux"), ("id", .string "OS-1")]) := by
    rfl
  have hnone : ∀ item ∈ systems, ¬ HasId "os-2" item := by
    simp only [hasId_iff]
    decide +kernel
  exact ⟨(hfound "os-1").2.2 (by decide)
      (fun item hitem ↦ ⟨item, Json.readBack_of_isExact (hexact item hitem)⟩) _ _ hfind rfl,
    ((hfound "os-2").2.1 (.inr (by decide +kernel))).mpr hnone⟩

/-- An operating system that is an array is found whatever identifier is asked for. -/
theorem finds_other_entity :
    let systems : List Json := [.array [.string "os-9", .string "Linux", .null, .null]]
    getOsType ∈ all ∧ Schema.Kind.osType ∈ getOsType.entity? ∧
      getOsType.command.select = some "ostype" ∧
      Fixtures.load [("listOsTypes.json",
        "\x7b\"ostype\": [[\"os-9\", \"Linux\", null, null]]\x7d")] =
          .ok (systemServer systems).fixtures ∧
      (systemServer systems).fixtures.reply? (lowercase getOsType.command.name) =
        some (.object [("ostype", .array systems)]) ∧
      systemClient.IsAuthorised (systemServer systems) systemWorld ∧
      ∃ v, ((getOsType.run (Simulator.link (systemServer systems)) systemClient
          [("id", .text "os-1")] ∅).outcome systemWorld).1 = .ok (.value (some v)) ∧
        v.fields.lookup "id" = some (.text (some "os-9")) ∧ eqFolded "os-9" "os-1" = false := by
  intro systems
  have ho : getOsType ∈ all := List.mem_of_getElem? (i := 130) rfl
  have hk : Schema.Kind.osType ∈ getOsType.entity? := rfl
  have hfixture : (systemServer systems).fixtures.reply? (lowercase getOsType.command.name) =
      some (.object [("ostype", .array systems)]) := by
    decide +kernel
  have hlooks := looksUp_of_mem ho hk
  have hexact : ∀ item ∈ systems, item.isExact 124 = true := by decide +kernel
  have hreadable : ∀ item ∈ systems, item.IsReadable := by
    refine List.forall_mem_singleton.mpr (.array ?_)
    simp only [List.forall_mem_cons]
    exact ⟨.string _, .string _, .null, .null, nofun⟩
  -- No item has a field for an identifier, so that all of them are selected.
  have hselected : selectedById "os-1" systems = systems := if_neg (by decide +kernel)
  obtain ⟨v, hread, hid⟩ : ∃ v, Schema.Kind.osType.decode
      (.array [.string "os-9", .string "Linux", .null, .null]) = .ok v ∧
        v.fields.lookup "id" = some (.text (some "os-9")) :=
    ⟨_, rfl, rfl⟩
  have hselect : getOsType.command.select = some "ostype" := rfl
  have hcount : systems.length ≤ Numeral.maxUnsigned 64 := by decide
  have hfound := Client.firstOfAnswer_of_decode hselect (by decide) hlooks.ignoresFloats
    (hreadable _ (List.mem_singleton_self _)) hcount
    (fun item hitem ↦ ⟨item, Json.readBack_of_isExact (hexact item hitem)⟩) hread
    (lowercase getOsType.command.name) "os-1"
  refine ⟨ho, hk, rfl, Fixtures.load_eq_ok (by decide +kernel), hfixture,
    isAuthorised_systemClient systems, v, ?_, hid, by decide⟩
  rw [outcome_run_of_looksUp hlooks hselect hfixture rfl
    (isAuthorised_systemClient systems) rfl, hselected, hfound]
  rfl

end Operation

end CloudControl
