import CloudControl.Options.Builder
import CloudControl.Proofs.Auth.Parameters
import CloudControl.Proofs.Json.Members
import CloudControl.Proofs.Pagination
import CloudControl.Proofs.Params
import CloudControl.Proofs.Text.Numeral
import CloudControl.Simulator.Server

/-!
# What a listing shows

The answer to a listing command depends on few of its parameters. Credentials do not count
(`listing_withoutAll_credentials`), and a page number with a page size leaves the selection as it
is (`selectItems_withPage`) and shows one page of it (`pageOf_withPage`).
-/

namespace CloudControl.Simulator

open Auth Text

/-- Parameters that carry credentials. -/
def credentialParams : List String :=
  [apiKeyParam, versionParam, expiresParam, signatureParam, sessionKeyParam]

/-- Parameters that ask for a page. -/
def pageParams : List String := ["page", "pagesize"]

/-! ## Parameters that do not count -/

/-- A name that does not select items does not either once it is lower-cased. -/
theorem isReserved_lowercase {name : String} (h : isReserved name = true) :
    isReserved (lowercase name) = true := by
  have hascii : ∀ r ∈ reservedParams, (r.toList.all fun c ↦ c.toNat < 128) = true := by decide
  obtain ⟨r, hr, heq⟩ := List.any_eq_true.mp h
  refine List.any_eq_true.mpr ⟨r, hr, ?_⟩
  rw [eqFolded_comm] at heq ⊢
  exact eqFolded_lowercase (ascii_of_all (hascii r hr)) heq

/-- A name that differs at most in letter case from one that does not select items does not
either. -/
theorem isReserved_of_eqFolded {name other : String} (h : isReserved other = true)
    (heq : eqFolded name other = true) : isReserved name = true := by
  obtain ⟨r, hr, hother⟩ := List.any_eq_true.mp h
  refine List.any_eq_true.mpr ⟨r, hr, ?_⟩
  rw [eqFolded_comm, eqFolded_congr heq, eqFolded_comm, hother]

section

variable {names : List String} (hreserved : ∀ name ∈ names, isReserved name = true)

include hreserved

/-- Parameters that do not select items can be dropped before the others are looked at. -/
theorem filters_withoutAll (items : List Json) (params : List Param) :
    filters items (withoutAll names params) = filters items params := by
  rw [filters, filters, withoutAll, List.filter_map, List.filter_map, List.filter_filter]
  refine congrArg _ (List.filter_congr fun p _ ↦ ?_)
  cases hkept : names.all fun name ↦ !isNamed name p with
  | true => rw [Bool.and_true]
  | false =>
    obtain ⟨name, hname, hp⟩ := List.all_eq_false.mp hkept
    have hnamed : isNamed name p = true := by simpa using hp
    have hlower := isReserved_lowercase (isReserved_of_eqFolded (hreserved name hname) hnamed)
    simp only [Function.comp_apply, hlower, Bool.not_true, Bool.false_and]

/-- Parameters that do not select items have no part in the selection, unless one is the
keyword. -/
theorem selectItems_withoutAll (hkeyword : ∀ name ∈ names, eqFolded "keyword" name = false)
    (items : List Json) (params : List Param) :
    selectItems items (withoutAll names params) = selectItems items params := by
  unfold selectItems
  rw [filters_withoutAll hreserved, lookup?_withoutAll hkeyword]

end

/-- Credentials have no part in the answer to a listing command. -/
theorem listing_withoutAll_credentials (name : String) (fixture : Json) (params : List Param) :
    listing name fixture (withoutAll credentialParams params) = listing name fixture params := by
  have hselected : ∀ items, selectItems items (withoutAll credentialParams params) =
      selectItems items params :=
    fun items ↦ selectItems_withoutAll (by decide) (by decide) items params
  have hid : lookup? "id" (withoutAll credentialParams params) = lookup? "id" params :=
    lookup?_withoutAll (by decide) params
  have hpage : lookup? "page" (withoutAll credentialParams params) = lookup? "page" params :=
    lookup?_withoutAll (by decide) params
  have hsize : lookup? "pagesize" (withoutAll credentialParams params) =
      lookup? "pagesize" params :=
    lookup?_withoutAll (by decide) params
  simp only [listing, answerListing, pageOf, pageNumber, wholeParam?, hselected, hid, hpage, hsize]

/-! ## Pages -/

/-- No parameter asks for a page. -/
def AsksForNoPage (params : Params) : Prop :=
  ∀ p ∈ params.entries, ∀ name ∈ pageParams, isNamed name p = false

instance (params : Params) : Decidable (AsksForNoPage params) :=
  inferInstanceAs (Decidable (∀ p ∈ params.entries, ∀ name ∈ pageParams, isNamed name p = false))

section

variable {params : Params}

/-- Without a page size the whole selection is shown. -/
theorem pageOf_of_asksForNoPage {α : Type} (h : AsksForNoPage params) (items : List α) :
    pageOf items params.entries = items := by
  have hsize : lookup? "pagesize" params.entries = none :=
    lookup?_eq_none_iff.mpr fun p hp ↦ h p hp "pagesize" (by decide)
  rw [pageOf, wholeParam?, hsize]
  rfl

/-- Asking for a page makes no difference to the other parameters. -/
theorem withoutAll_withPage (params : Params) (page size : Nat) :
    withoutAll pageParams (params.withPage page size).entries =
      withoutAll pageParams params.entries := by
  rw [Params.withPage, Params.entries_set, Params.entries_set, withoutAll_setEntry (by decide),
    withoutAll_setEntry (by decide)]

/-- Asking for a page makes no difference to the selection. -/
theorem selectItems_withPage (params : Params) (items : List Json) (page size : Nat) :
    selectItems items (params.withPage page size).entries = selectItems items params.entries := by
  have hreserved : ∀ name ∈ pageParams, isReserved name = true := by decide
  have hkeyword : ∀ name ∈ pageParams, eqFolded "keyword" name = false := by decide
  rw [← selectItems_withoutAll hreserved hkeyword, withoutAll_withPage,
    selectItems_withoutAll hreserved hkeyword]

/-- Asking for a page makes no difference to what other names have as their values. -/
theorem lookup?_withPage {name : String} (h : ∀ other ∈ pageParams, eqFolded name other = false)
    (params : Params) (page size : Nat) :
    lookup? name (params.withPage page size).entries = lookup? name params.entries := by
  rw [← lookup?_withoutAll h, withoutAll_withPage, lookup?_withoutAll h]

/-- The entries of parameters that ask for a page. -/
theorem mem_withPage {page size : Nat} {p : Param} (h : p ∈ (params.withPage page size).entries) :
    p = ("pagesize", Numeral.ofNat size) ∨ p = ("page", Numeral.ofNat page) ∨
      p ∈ params.entries := by
  rcases mem_setEntry h with rfl | h
  · exact .inl rfl
  · exact .inr (mem_setEntry h)

/-- The page number and the page size are found. -/
theorem lookup?_withPage_self (h : AsksForNoPage params) (page size : Nat) :
    lookup? "page" (params.withPage page size).entries = some (Numeral.ofNat page) ∧
      lookup? "pagesize" (params.withPage page size).entries = some (Numeral.ofNat size) := by
  constructor
  · rw [Params.withPage, lookup?_set_of_ne (by decide)]
    exact lookup?_set (by decide) (fun p hp ↦ h p hp "page" (by decide)) _
  · refine lookup?_set (by decide) (fun p hp ↦ ?_) _
    rcases mem_setEntry hp with rfl | hbefore
    · exact show eqFolded "page" "pagesize" = false by decide
    · exact h p hbefore "pagesize" (by decide)

/-- The page that is asked for is shown. -/
theorem pageOf_withPage {α : Type} (h : AsksForNoPage params) {page size : Nat}
    (hpage : 1 ≤ page) (hsize : 1 ≤ size) (hpageMax : page ≤ Pagination.maxPage)
    (hsizeMax : size ≤ Pagination.maxPage) (items : List α) :
    pageOf items (params.withPage page size).entries = Pagination.slice size page items := by
  have hbits : Pagination.maxPage ≤ Numeral.maxUnsigned 64 := by decide
  obtain ⟨hnumber, hlength⟩ := lookup?_withPage_self h page size
  have hread : wholeParam? "pagesize" (params.withPage page size).entries = some size := by
    rw [wholeParam?, hlength, Option.bind_some,
      Numeral.natOfBits?_ofNat (Nat.le_trans hsizeMax hbits)]
  have hasked : pageNumber (params.withPage page size).entries = page := by
    rw [pageNumber, wholeParam?, hnumber, Option.bind_some,
      Numeral.natOfBits?_ofNat (Nat.le_trans hpageMax hbits), Option.getD_some]
    exact Nat.max_eq_right hpage
  have hstart : pageStart page size = (page - 1) * size := by
    have hfits : Pagination.maxPage * Pagination.maxPage ≤ Numeral.maxUnsigned 64 := by decide
    have hbelow := Nat.mul_le_mul (Nat.le_trans (Nat.sub_le page 1) hpageMax) hsizeMax
    exact Nat.min_eq_left (Nat.le_trans hbelow hfits)
  simp only [pageOf, hread, hasked, hstart, Pagination.slice]
  exact if_pos hsize

end

/-! ## Answers -/

variable {name key : String} {fixture : Json} {items : List Json}

/-- What a listing command is answered with when it shows some items of a selection. If nothing is
selected, an identifier that is asked for is one that nothing has. -/
def selectionAnswer (name key : String) (selected : List Json) (id? : Option String)
    (shown : List Json) : Answer :=
  if selected = [] then
    match id? with
    | some id => .error name parameterStatus (missingEntity name id)
    | none => .reply name 200 (.object [])
  else .reply name 200 (listingContent key selected.length shown)

/-- A listing command shows the selection or a page of it. -/
theorem listing_eq (h : listItems? name fixture = some (key, items)) (params : List Param) :
    listing name fixture params = selectionAnswer name key (selectItems items params)
      (lookup? "id" params) (pageOf (selectItems items params) params) := by
  rw [listing, answerListing, h]
  unfold selectionAnswer
  cases hselected : selectItems items params with
  | nil =>
    simp only [hselected, List.isEmpty_nil, if_pos]
    cases lookup? "id" params <;> rfl
  | cons first rest =>
    simp only [hselected, List.isEmpty_cons, Bool.false_eq_true, reduceCtorEq, if_false]

section

variable {params : Params} (h : listItems? name fixture = some (key, items))
  (hparams : AsksForNoPage params)

include h hparams

/-- The whole selection is shown if no page is asked for. -/
theorem listing_of_asksForNoPage :
    listing name fixture params.entries = selectionAnswer name key
      (selectItems items params.entries) (lookup? "id" params.entries)
      (selectItems items params.entries) := by
  rw [listing_eq h, pageOf_of_asksForNoPage hparams]

/-- A page of the selection is shown if it is asked for. -/
theorem listing_withPage {page size : Nat} (hpage : 1 ≤ page) (hsize : 1 ≤ size)
    (hpageMax : page ≤ Pagination.maxPage) (hsizeMax : size ≤ Pagination.maxPage) :
    listing name fixture (params.withPage page size).entries = selectionAnswer name key
      (selectItems items params.entries) (lookup? "id" params.entries)
      (Pagination.slice size page (selectItems items params.entries)) := by
  rw [listing_eq h, selectItems_withPage, lookup?_withPage (by decide),
    pageOf_withPage hparams hpage hsize hpageMax hsizeMax]

end

/-- The members of the content of a listing. -/
theorem get?_listingContent (key : String) (total : Nat) (page : List Json) (name : String) :
    (listingContent key total page).get? name =
      if page ≠ [] ∧ name = key then some (.array page)
      else if name = "count" then some (.ofNat total) else none := by
  have hcount : [("count", Json.ofNat total)].lookup name =
      if name = "count" then some (.ofNat total) else none := by
    by_cases h : name = "count" <;> simp [h, List.lookup_cons, beq_eq_false_iff_ne.mpr]
  show (Json.sortMembers _).lookup name = _
  rw [Json.lookup_sortMembers]
  cases page with
  | nil => exact hcount
  | cons item rest =>
    show [(key, Json.array (item :: rest)), ("count", .ofNat total)].lookup name = _
    rw [List.lookup_cons, hcount]
    by_cases hkey : name = key
    · have hshown : item :: rest ≠ [] ∧ name = key := ⟨List.cons_ne_nil item rest, hkey⟩
      rw [if_pos hshown, beq_iff_eq.mpr hkey]
    · have hhidden : ¬ (item :: rest ≠ [] ∧ name = key) := fun h ↦ hkey h.2
      rw [if_neg hhidden, beq_eq_false_iff_ne.mpr hkey]

/-- The first array among members is found if there is one. -/
theorem exists_firstArray? {members : List (String × Json)}
    (h : ∃ key items, (key, Json.array items) ∈ members) :
    ∃ found, firstArray? members = some found := by
  obtain ⟨key, items, hmem⟩ := h
  induction members with
  | nil => exact absurd hmem List.not_mem_nil
  | cons m rest ih =>
    obtain ⟨name, value⟩ := m
    cases value with
    | array items => exact ⟨_, rfl⟩
    | null | bool | number | string | object =>
      rcases List.mem_cons.mp hmem with heq | hrest
      · exact absurd (congrArg Prod.snd heq) nofun
      · exact ih hrest

/-- A reply with an array among its members has items to show. -/
theorem exists_listItems? (name : String) {members : List (String × Json)}
    (h : ∃ key items, (key, Json.array items) ∈ members) :
    ∃ key items, listItems? name (.object members) = some (key, items) := by
  obtain ⟨⟨key, items⟩, hfirst⟩ := exists_firstArray? h
  have hmembers : (Json.object members).object? = some members := rfl
  simp only [listItems?, hmembers, Option.bind_eq_bind, Option.bind_some]
  split
  · next found _ => exact ⟨found.1, found.2, rfl⟩
  · exact ⟨key, items, hfirst⟩

/-- The array under the member that the catalogue knows for a command is what the command lists. -/
theorem listItems?_of_select {members : List (String × Json)}
    (hselect : (Catalog.lookup? name).bind Command.select = some key)
    (h : members.lookup key = some (.array items)) :
    listItems? name (.object members) = some (key, items) := by
  have hmembers : (Json.object members).object? = some members := rfl
  have harray : (Json.array items).array? = some items := rfl
  simp only [listItems?, hmembers, hselect, h, harray, Option.bind_eq_bind, Option.bind_some,
    Option.map_some]

end CloudControl.Simulator
