import CloudControl.Proofs.Client.Envelope
import CloudControl.Proofs.Client.ListingRequest

/-!
# Listing page by page

A client that lists items of a server page by page comes to the same as one that asks for all of
them at once (`listAll_eq_list`): to the items that the server selects, each read once and in
order, or to the error of the first item that cannot be read, or to what the fallback of the
command makes of an identifier that nothing has.

The server answers with a number of items and some of them. `readPage_listingContent` says what a
client reads there, so that every page is read as the page of one list, which is the condition of
`Pagination.collect_of_mapM_ok` and `Pagination.collect_of_mapM_error`.
-/

namespace CloudControl

open Auth Simulator

namespace Envelope

/-- A reply whose status reports an error is one. -/
theorem exists_unwrap_error {status : Nat} (h : isSuccess status = false) (command body : String) :
    ∃ e, unwrap command status body = .error e :=
  ⟨_, unwrap_of_reportsError (r := ⟨status, [], body⟩) (.inl h)⟩

end Envelope

/-! ## The content of a listing -/

section

variable {key : String} {total : Nat} {page : List Json}

/-- The content of a listing reports no error. -/
theorem errorCode_listingContent :
    ((listingContent key total page).get? Envelope.errorCodeKey).bind Envelope.code? = none := by
  rw [get?_listingContent]
  split
  · rfl
  · rw [if_neg (by decide)]
    rfl

/-- What is shown is found under the name of its member, also if it is nothing. -/
theorem itemsOf_listingContent (hkey : key ≠ "count") :
    Envelope.itemsOf ((listingContent key total page).get? key) = page := by
  rw [get?_listingContent, if_neg hkey]
  cases page with
  | nil => rfl
  | cons item rest => rw [if_pos ⟨List.cons_ne_nil _ _, rfl⟩]; rfl

/-- Nothing is found under another name. -/
theorem itemsOf_listingContent_of_ne {name : String} (hkey : name ≠ key) (hcount : name ≠ "count") :
    Envelope.itemsOf ((listingContent key total page).get? name) = [] := by
  rw [get?_listingContent, if_neg fun h ↦ hkey h.2, if_neg hcount]
  rfl

/-- The number of items is reported, also on a page that is empty. -/
theorem reportedCount_listingContent (hkey : key ≠ "count") :
    Envelope.reportedCount (listingContent key total page) = some total := by
  rw [Envelope.reportedCount, get?_listingContent, if_neg fun h ↦ hkey h.2.symm, if_pos rfl]
  rfl

end

namespace Client

variable {α : Type} {command : Command} {reader : Schema.Reader α}

/-- A page holds what is read of the items that the command selects, and the number of items that
the reply reports. -/
theorem readPage_eq (content : Json) :
    readPage command reader content =
      ((Envelope.selectedItems command content).mapM (Envelope.decode command.name reader)).map
        (⟨·, Envelope.reportedCount content⟩) := by
  rw [readPage]
  cases (Envelope.selectedItems command content).mapM (Envelope.decode command.name reader) <;> rfl

/-- The content of a listing is read as the items that it shows, if the command selects them. -/
theorem readPage_listingContent {key : String} (hselect : command.select = some key)
    (hkey : key ≠ "count") (total : Nat) (page : List Json) :
    readPage command reader (listingContent key total page) =
      (page.mapM (Envelope.decode command.name reader)).map (⟨·, some total⟩) := by
  rw [readPage_eq, Envelope.selectedItems, hselect, reportedCount_listingContent hkey]
  simp only [itemsOf_listingContent hkey]

/-- Where the command selects nothing, nothing is read. -/
theorem readPage_of_nothing {content : Json} (h : Envelope.selectedItems command content = []) :
    readPage command reader content = .ok ⟨[], Envelope.reportedCount content⟩ := by
  rw [readPage_eq, h]
  rfl

/-- What a call for a page makes of an answer. -/
def pageOfAnswer (command : Command) (reader : Schema.Reader α) (a : Answer) :
    Except ClientError (Pagination.Page α) :=
  command.fallback.cover ⟨[], some 0⟩
    (Envelope.unwrap command.name a.status a.body.compact >>= readPage command reader)

/-- A result whose error the server does not report is covered by no fallback. -/
theorem cover_of_isLocal {f : Fallback} {value : α} {x : Except ClientError α}
    (h : ∀ e, x = .error e → e.IsLocal) : f.cover value x = x := by
  cases x with
  | ok a => rfl
  | error e => exact cover_of_not_applies ((h e rfl).applies_eq_false f)

/-- A content that reports no error is read. -/
theorem pageOfAnswer_reply {name : String} {content : Json}
    (hback : (Answer.reply name 200 content).IsReadBack)
    (hcode : (content.get? Envelope.errorCodeKey).bind Envelope.code? = none) :
    pageOfAnswer command reader (.reply name 200 content) = readPage command reader content := by
  show command.fallback.cover _ (Envelope.unwrap command.name 200
    (Answer.reply name 200 content).body.compact >>= readPage command reader) = _
  rw [Envelope.unwrap_reply hback hcode]
  exact cover_of_isLocal fun e ↦ isLocal_of_readPage

/-- An answer that reports an error shows no items, whether or not the fallback hides the error. -/
theorem items_of_pageOfAnswer_error {name text : String} {page : Pagination.Page α}
    (h : pageOfAnswer command reader (.error name parameterStatus text) = .ok page) :
    page.items = [] := by
  have hstatus : Envelope.isSuccess (Answer.error name parameterStatus text).status = false := rfl
  obtain ⟨e, herror⟩ := Envelope.exists_unwrap_error hstatus command.name
    (Answer.error name parameterStatus text).body.compact
  rw [pageOfAnswer, herror] at h
  change (if command.fallback.applies e then Except.ok _ else Except.error e) = .ok page at h
  split at h
  · exact congrArg Pagination.Page.items (Except.ok.inj h).symm
  · exact absurd h nofun

section

variable {name key : String} {selected shown : List Json} {id? : Option String}
  (hback : (selectionAnswer name key selected id? shown).IsReadBack)

include hback

/-- What is shown of a selection is read, if the command selects the member that holds it. -/
theorem pageOfAnswer_of_select (hselect : command.select = some key) (hkey : key ≠ "count")
    (hselected : selected ≠ []) :
    pageOfAnswer command reader (selectionAnswer name key selected id? shown) =
      (shown.mapM (Envelope.decode command.name reader)).map (⟨·, some selected.length⟩) := by
  rw [selectionAnswer.eq_def, if_neg hselected] at hback ⊢
  rw [pageOfAnswer_reply hback errorCode_listingContent, readPage_listingContent hselect hkey]

variable (reader) in
/-- Nothing is read if the command selects another member. -/
theorem pageOfAnswer_of_other {selects : String} (hselect : command.select = some selects)
    (hcount : selects ≠ "count") (hother : selects ≠ key) (hselected : selected ≠ []) :
    ∃ total, pageOfAnswer command reader (selectionAnswer name key selected id? shown) =
      .ok ⟨[], total⟩ := by
  have hnothing :
      Envelope.selectedItems command (listingContent key selected.length shown) = [] := by
    rw [Envelope.selectedItems, hselect]
    exact itemsOf_listingContent_of_ne hother hcount
  rw [selectionAnswer.eq_def, if_neg hselected] at hback ⊢
  rw [pageOfAnswer_reply hback errorCode_listingContent, readPage_of_nothing hnothing]
  exact ⟨_, rfl⟩

/-- Nothing is read if nothing is selected. -/
theorem items_of_pageOfAnswer_nil {selects : String} (hselect : command.select = some selects)
    (hselected : selected = []) {page : Pagination.Page α}
    (h : pageOfAnswer command reader (selectionAnswer name key selected id? shown) = .ok page) :
    page.items = [] := by
  subst hselected
  cases id? with
  | some id => exact items_of_pageOfAnswer_error h
  | none =>
    have hnothing : Envelope.selectedItems command (.object []) = [] := by
      rw [Envelope.selectedItems, hselect]
      rfl
    have hread : pageOfAnswer command reader (.reply name 200 (.object [])) =
        .ok ⟨[], Envelope.reportedCount (.object [])⟩ := by
      rw [pageOfAnswer_reply hback rfl, readPage_of_nothing hnothing]
    exact congrArg Pagination.Page.items (Except.ok.inj (h.symm.trans hread))

end

/-! ## Pages and lists -/

section

variable {σ : Type} {link : Link σ} {c : Client} {params : Params} {pageSize : Nat} {s next : σ}

/-- The source of the pages of a list. -/
def pages (link : Link σ) (c : Client) (command : Command) (reader : Schema.Reader α)
    (params : Params) : Pagination.Source σ α ClientError :=
  fun s page size ↦ (c.fetchPage link command reader (params.withPage page size)).outcome s

/-- All items are the ones that are collected, and the error of a page is the one of the whole. -/
theorem outcome_listAll :
    (c.listAll link command reader params pageSize).outcome s =
      match Pagination.collect (c.pages link command reader params) pageSize s with
      | (.ok items, next) => (.ok items, next)
      | (.error .invalidPageSize, next) => (.error .invalidPageSize, next)
      | (.error (.fetch _ e), next) => (.error e, next) := by
  unfold listAll pages
  rw [Action.outcome_ofFunction]
  dsimp only
  generalize Pagination.collect _ pageSize s = collected
  rcases collected with ⟨(_ | ⟨page, e⟩) | items, next⟩ <;> rfl

/-- A first page that is no page or holds no items says what the whole is. -/
theorem outcome_listAll_of_first (hpageSize : pageSize ≠ 0)
    {answer : Except ClientError (Pagination.Page α)}
    (h : (c.fetchPage link command reader (params.withPage 1 pageSize)).outcome s = (answer, next))
    (hnone : ∀ page, answer = .ok page → page.items = []) :
    (c.listAll link command reader params pageSize).outcome s =
      (answer.map (·.items), next) := by
  have hfirst : c.pages link command reader params s 1 pageSize = (answer, next) := h
  have hnext : (c.pages link command reader params).after pageSize s 1 = next :=
    congrArg Prod.snd hfirst
  cases answer with
  | error e =>
    rw [outcome_listAll, Pagination.collect_of_first_error hpageSize (congrArg Prod.fst hfirst),
      hnext]
    rfl
  | ok page =>
    obtain ⟨items, total⟩ := page
    obtain rfl : items = [] := hnone _ rfl
    rw [outcome_listAll, Pagination.collect_of_first_empty hpageSize (congrArg Prod.fst hfirst),
      hnext]
    rfl

/-- Pages that are read as the pages of one list make up that list. -/
theorem outcome_listAll_of_reads {β : Type} {f : β → Except ClientError α} {xs : List β}
    (hpageSize : pageSize ≠ 0) (hmax : xs.length ≤ pageSize * Pagination.maxPage)
    (hunchanged : ∀ page, (c.pages link command reader params s page pageSize).2 = s)
    (hreads : (c.pages link command reader params).Reads s pageSize f xs) :
    (c.listAll link command reader params pageSize).outcome s = (xs.mapM f, s) := by
  rw [outcome_listAll]
  cases hread : xs.mapM f with
  | ok ys =>
    obtain ⟨n, hcollect⟩ := Pagination.collect_of_mapM_ok hreads hpageSize hmax hread
    rw [hcollect, Pagination.Source.after_of_unchanged hunchanged]
  | error e =>
    obtain ⟨page, n, hcollect⟩ := Pagination.collect_of_mapM_error hreads hpageSize hmax hread
    rw [hcollect, Pagination.Source.after_of_unchanged hunchanged]

variable {name key selects : String} {selected : List Json} {id? : Option String}

/-- A selection that is shown at once and page by page comes to the same both ways. -/
theorem outcome_listAll_of_selection (hselect : command.select = some selects)
    (hcount : selects ≠ "count") (hpageSize : pageSize ≠ 0)
    (hsize : selected.length ≤ pageSize * Pagination.maxPage)
    (hwhole : (c.fetchPage link command reader params).outcome s =
      (pageOfAnswer command reader (selectionAnswer name key selected id? selected), s))
    (hpages : ∀ n < Pagination.maxPage,
      c.pages link command reader params s (n + 1) pageSize = (pageOfAnswer command reader
        (selectionAnswer name key selected id? (Pagination.slice pageSize (n + 1) selected)), s))
    (hunchanged : ∀ page, (c.pages link command reader params s page pageSize).2 = s)
    (hbackWhole : (selectionAnswer name key selected id? selected).IsReadBack)
    (hbackPage : ∀ n < Pagination.maxPage, (selectionAnswer name key selected id?
      (Pagination.slice pageSize (n + 1) selected)).IsReadBack) :
    (c.listAll link command reader params pageSize).outcome s =
      (c.list link command reader params).outcome s := by
  have hfirst := hpages 0 (by decide)
  rw [outcome_list, hwhole]
  by_cases hselected : selected = []
  · -- The first page is the whole.
    subst hselected
    exact outcome_listAll_of_first hpageSize hfirst fun page ↦
      items_of_pageOfAnswer_nil hbackWhole hselect rfl
  by_cases hkey : selects = key
  · -- Every page is read item by item, and so is the whole.
    subst hkey
    have hreads : (c.pages link command reader params).Reads s pageSize
        (Envelope.decode command.name reader) selected := by
      intro n hn
      rw [Pagination.Source.after_of_unchanged hunchanged, hpages n hn]
      exact pageOfAnswer_of_select (hbackPage n hn) hselect hcount hselected
    have hread : pageOfAnswer command reader
        (selectionAnswer name selects selected id? selected) = _ :=
      pageOfAnswer_of_select hbackWhole hselect hcount hselected
    rw [outcome_listAll_of_reads hpageSize hsize hunchanged hreads, hread]
    cases selected.mapM (Envelope.decode command.name reader) <;> rfl
  · -- The items are under a member that the command does not look at.
    obtain ⟨total, hread⟩ := pageOfAnswer_of_other reader hbackWhole hselect hcount hkey hselected
    obtain ⟨totalFirst, hreadFirst⟩ := pageOfAnswer_of_other reader (hbackPage 0 (by decide))
      hselect hcount hkey hselected
    rw [hreadFirst] at hfirst
    rw [hread, outcome_listAll_of_first hpageSize hfirst fun page hpage ↦
      congrArg Pagination.Page.items (Except.ok.inj hpage).symm]
    rfl

end

/-! ## Over the link to a server -/

section

variable {server : Server} {w : World} {c : Client} {params : Params} {fixture : Json}

/-- A page of a listing is what a call makes of the listing of its own parameters, unless the
cookie cannot be sent. -/
theorem outcome_fetchPage_of_listing (hcommand : command.ListsItems)
    (hfixture : server.fixtures.reply? (Text.lowercase command.name) = some fixture)
    (hclient : c.IsAuthorised server w) (hparams : params.AreForeign) :
    (c.fetchPage (Simulator.link server) command reader params).outcome w =
      (if c.sendsCookie then
        pageOfAnswer command reader (listing (Text.lowercase command.name) fixture
          (commandParams command params).entries)
      else .error (.transport .malformedHeader), w) := by
  rw [fetchPage_eq, outcome_call, outcome_reply_of_listing hcommand hfixture hclient hparams]
  cases c.sendsCookie with
  | true => rfl
  | false =>
    have hlocal : ClientError.IsLocal (.transport .malformedHeader) := ⟨rfl, rfl⟩
    exact congrArg (·, w) (cover_of_not_applies (hlocal.applies_eq_false _))

/-- A client asks for a list at once, or for a page of it. -/
inductive Asks (params : Params) (pageSize : Nat) : Params → Prop
  | whole : Asks params pageSize params
  | page {number : Nat} (hfirst : 1 ≤ number) (hlast : number ≤ Pagination.maxPage) :
    Asks params pageSize (params.withPage number pageSize)

/-- Listing page by page comes to the same as listing at once: to the same items in the same order,
to none where nothing is selected, and to the same error. The credentials are accepted, the caller
brings none of its own and asks for no page, and there are pages enough for what is selected. -/
theorem listAll_eq_list {pageSize : Nat} {members : List (String × Json)}
    (reader : Schema.Reader α) (hcommand : command ∈ Catalog.commands)
    (hname : isListing (Text.lowercase command.name) = true)
    (hfixture : server.fixtures.reply? (Text.lowercase command.name) = some (.object members))
    (harray : ∃ key items, (key, Json.array items) ∈ members)
    (hparams : params.AreForeign) (hpages : AsksForNoPage params)
    (hclient : c.IsAuthorised server w)
    (hpageSize : 1 ≤ pageSize) (hmax : pageSize ≤ Pagination.maxPage)
    (hsize : ∀ key items,
      listItems? (Text.lowercase command.name) (.object members) = some (key, items) →
        (selectItems items (commandParams command params).entries).length ≤
          pageSize * Pagination.maxPage)
    (hback : ∀ asked, Asks params pageSize asked →
      (listing (Text.lowercase command.name) (.object members)
        (commandParams command asked).entries).IsReadBack) :
    (c.listAll (Simulator.link server) command reader params pageSize).outcome w =
      (c.list (Simulator.link server) command reader params).outcome w := by
  have hlists := listsItems_of_mem hcommand hname
  obtain ⟨selects, hselect, hcount⟩ := hlists.select
  obtain ⟨key, items, hitems⟩ := exists_listItems? (Text.lowercase command.name) harray
  have hnone := hlists.asksForNoPage hpages
  have hne : pageSize ≠ 0 := Nat.ne_of_gt hpageSize
  have hfetch : ∀ asked : Params, asked.AreForeign →
      (c.fetchPage (Simulator.link server) command reader asked).outcome w =
        (if c.sendsCookie then
          pageOfAnswer command reader (listing (Text.lowercase command.name) (.object members)
            (commandParams command asked).entries)
        else .error (.transport .malformedHeader), w) :=
    fun asked hasked ↦ outcome_fetchPage_of_listing hlists hfixture hclient hasked
  cases hcookie : c.sendsCookie with
  | false =>
    -- No request gets through, and the first one ends both calls.
    simp only [hcookie, Bool.false_eq_true, if_false] at hfetch
    rw [outcome_list, hfetch params hparams]
    exact outcome_listAll_of_first hne (hfetch _ (hparams.withPage 1 pageSize)) nofun
  | true =>
    -- Every answer shows the selection of the parameters of the caller, at once or a page of it.
    simp only [hcookie, if_true] at hfetch
    have hwhole := listing_of_asksForNoPage hitems hnone
    have hpage := fun n (hn : n < Pagination.maxPage) ↦
      listing_withPage hitems hnone (Nat.le_add_left 1 n) hpageSize hn hmax
    simp only [← commandParams_withPage] at hpage
    have hshown := hfetch params hparams
    have hbackWhole := hback _ .whole
    rw [hwhole] at hshown hbackWhole
    refine outcome_listAll_of_selection hselect hcount hne (hsize _ _ hitems) hshown ?_ ?_
      hbackWhole ?_
    · intro n hn
      rw [pages, hfetch _ (hparams.withPage _ _), hpage n hn]
    · exact fun page ↦ congrArg Prod.snd (hfetch _ (hparams.withPage page pageSize))
    · exact fun n hn ↦ hpage n hn ▸ hback _ (.page (Nat.le_add_left 1 n) hn)

end

/-- Three of four zones are selected, and are listed in pages of two. -/
theorem listAll_eq_list_selected_zones :
    let zone (id state : String) : Json := .object [("id", .string id), ("state", .string state)]
    let members : List (String × Json) :=
      [("zone", .array [zone "1" "on", zone "2" "off", zone "3" "on", zone "4" "ON"])]
    let server : Server := ⟨.usual, ⟨[("listzones", .object members)], []⟩, fun _ ↦ ⟨"", ""⟩⟩
    let w : World := ⟨.initial, ⟨1772366400, 0⟩, 0⟩
    let c : Client := ⟨⟨"http", "", "", some (.domain "localhost"), some 8080,
      .segments ["client", "api"], none, none⟩, some (.signed (Settings.usual.signer none))⟩
    let params : Params := ⟨[("state", "on")], by decide⟩
    (c.listAll (Simulator.link server) .listZones Schema.Kind.raw.decode params 2).outcome w =
      (c.list (Simulator.link server) .listZones Schema.Kind.raw.decode params).outcome w := by
  intro zone members server w c params
  have hcommand : Command.listZones ∈ Catalog.commands := List.mem_of_getElem? (i := 86) rfl
  have hname : isListing (Text.lowercase Command.listZones.name) = true := by decide +kernel
  have hfixture : server.fixtures.reply? (Text.lowercase Command.listZones.name) =
      some (.object members) := by
    decide +kernel
  have hitems : listItems? (Text.lowercase Command.listZones.name) (.object members) =
      some ("zone", [zone "1" "on", zone "2" "off", zone "3" "on", zone "4" "ON"]) := by
    decide +kernel
  have hselected : selectItems [zone "1" "on", zone "2" "off", zone "3" "on", zone "4" "ON"]
      (commandParams .listZones params).entries =
        [zone "1" "on", zone "3" "on", zone "4" "ON"] := by
    decide +kernel
  have hpages : AsksForNoPage params := by decide
  have hnone := (listsItems_of_mem hcommand hname).asksForNoPage hpages
  refine listAll_eq_list _ hcommand hname hfixture ⟨"zone", _, List.mem_singleton.mpr rfl⟩
    (by decide) hpages ?_ (by decide) (by decide) ?_ ?_
  · exact ⟨by decide, _, rfl, rfl, rfl, fun p hp ↦ absurd hp List.not_mem_nil⟩
  · intro key items h
    obtain ⟨rfl, rfl⟩ := Prod.mk.inj (Option.some.inj (hitems.symm.trans h))
    rw [hselected]
    decide
  · intro asked hasked
    cases hasked with
    | whole =>
      rw [listing_of_asksForNoPage hitems hnone, hselected]
      decide +kernel
    | @page number hfirst hlast =>
      rw [commandParams_withPage,
        listing_withPage hitems hnone hfirst (by decide) hlast (by decide), hselected]
      match number with
      | 1 => decide +kernel
      | 2 => decide +kernel
      | n + 3 =>
        have hpast : Pagination.slice 2 (n + 3)
            [zone "1" "on", zone "3" "on", zone "4" "ON"] = [] := by
          rw [Pagination.slice, List.drop_of_length_le (by simp; omega), List.take_nil]
        rw [hpast]
        decide +kernel

end Client

end CloudControl
