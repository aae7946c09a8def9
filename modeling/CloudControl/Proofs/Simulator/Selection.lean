import CloudControl.Proofs.Simulator.Listing

/-!
# What a listing selects and shows

The parameters of a listing select among all the items of its fixture (`Matches`), and of the
selection they show a page (`IsShown`). `listing_isExact` says that the answer to a listing reports
the number of the items that are selected and shows just those of the page, that the pages of one
size taken together are the selection, and that only the order of parameters of one name counts.

The number of the items is hidden if the items stand under its own name (`listing_hides_count`).
-/

namespace CloudControl.Simulator

open Auth Text

/-! ## The selection -/

/-- A name selects among items: it is not a reserved one, and at least one item has a field of this
name. -/
structure Selects (items : List Json) (name : String) : Prop where
  notReserved : ∀ reserved ∈ reservedParams, eqFolded reserved name = false
  isField : ∃ item ∈ items, ∃ field, item.get? name = some field

/-- An item is one that the parameters ask for among some items. -/
structure Matches (items : List Json) (params : List Param) (item : Json) : Prop where
  /-- Each parameter whose name in small letters selects has the value of the field. -/
  fields : ∀ p ∈ params, Selects items (lowercase p.1) →
    ∃ field, item.get? (lowercase p.1) = some field ∧ eqFolded (fieldText field) p.2 = true
  /-- The name of the item holds the keyword, if there is one. -/
  keyword : ∀ keyword, lookup? "keyword" params = some keyword →
    ∃ name, item.get? "name" = some name ∧
      (lowercase keyword).toList <:+: (lowercase (fieldText name)).toList

section

variable {items : List Json} {params : List Param} {item : Json}

/-- A name selects just if it passes both checks on it. -/
theorem selects_iff {name : String} :
    Selects items name ↔ (!isReserved name && items.any (hasField name)) = true := by
  simp only [Bool.and_eq_true, Bool.not_eq_true', isReserved, List.any_eq_false, List.any_eq_true,
    hasField, Option.isSome_iff_exists, Bool.not_eq_true]
  exact ⟨fun h ↦ ⟨h.notReserved, h.isField⟩, fun h ↦ ⟨h.1, h.2⟩⟩

/-- A field has a value just if there is one with its text. -/
theorem fieldIs_iff {name value : String} : fieldIs name value item = true ↔
    ∃ field, item.get? name = some field ∧ eqFolded (fieldText field) value = true := by
  unfold fieldIs
  cases item.get? name with
  | none => simp
  | some field => simp only [Option.some.injEq, exists_eq_left']

/-- The name of an item holds a keyword just if there is one with it. -/
theorem nameHolds_iff {keyword : String} : nameHolds keyword item = true ↔
    ∃ name, item.get? "name" = some name ∧
      (lowercase keyword).toList <:+: (lowercase (fieldText name)).toList := by
  unfold nameHolds
  cases item.get? "name" with
  | none => simp
  | some name => simp only [Option.some.injEq, exists_eq_left', holds, hasInfix_iff]

/-- Every parameter that selects has the value of its field. -/
theorem all_filters_iff : ((filters items params).all fun p ↦ fieldIs p.1 p.2 item) = true ↔
    ∀ p ∈ params, Selects items (lowercase p.1) →
      ∃ field, item.get? (lowercase p.1) = some field ∧ eqFolded (fieldText field) p.2 = true := by
  simp only [filters, List.all_eq_true, List.mem_filter, List.mem_map, fieldIs_iff]
  constructor
  · intro h p hp hselects
    exact h (lowercase p.1, p.2) ⟨⟨p, hp, rfl⟩, selects_iff.mp hselects⟩
  · rintro h _ ⟨⟨p, hp, rfl⟩, hselects⟩
    exact h p hp (selects_iff.mpr hselects)

/-- An item is asked for just if it passes the checks of the parameters. -/
theorem matches_iff : Matches items params item ↔
    (((filters items params).all fun p ↦ fieldIs p.1 p.2 item) &&
      (lookup? "keyword" params).all fun keyword ↦ nameHolds keyword item) = true := by
  rw [Bool.and_eq_true, all_filters_iff, Option.all_eq_true]
  simp only [nameHolds_iff]
  exact ⟨fun h ↦ ⟨h.fields, h.keyword⟩, fun h ↦ ⟨h.1, h.2⟩⟩

instance (items : List Json) (params : List Param) : DecidablePred (Matches items params) :=
  fun _ ↦ decidable_of_iff _ matches_iff.symm

/-- The items that parameters ask for, in their order. -/
def selection (items : List Json) (params : List Param) : List Json :=
  items.filter fun item ↦ Matches items params item

/-- The items that are selected are those that the parameters ask for, in their order. -/
theorem selectItems_eq (items : List Json) (params : List Param) :
    selectItems items params = selection items params := by
  have hmatches : ∀ item, decide (Matches items params item) =
      (((filters items params).all fun p ↦ fieldIs p.1 p.2 item) &&
        (lookup? "keyword" params).all fun keyword ↦ nameHolds keyword item) := by
    intro item
    rw [Bool.eq_iff_iff, decide_eq_true_iff, matches_iff]
  unfold selectItems selection
  simp only [hmatches]
  cases lookup? "keyword" params with
  | none => simp only [Option.all_none, Bool.and_true]
  | some keyword => simp only [Option.all_some, List.filter_filter, Bool.and_comm]

end

/-! ## The page -/

/-- The first parameter of a name is the numeral of a number of at most 64 bits. -/
def Sets (params : List Param) (name : String) (n : Nat) : Prop :=
  ∃ text, lookup? name params = some text ∧ Numeral.WritesNat text.toList n ∧
    n ≤ Numeral.maxUnsigned 64

/-- The parameters ask for pages of a size. -/
def AsksForSize (params : List Param) (size : Nat) : Prop :=
  Sets params "pagesize" size ∧ 0 < size

/-- The parameters ask for a page, which is the first one if they do not say which. Pages count from
one. -/
inductive AsksForPage (params : List Param) : Nat → Prop where
  | set {page : Nat} (h : Sets params "page" page) (hpage : 0 < page) : AsksForPage params page
  | first (h : ∀ n, Sets params "page" n → n = 0) : AsksForPage params 1

/-- What parameters show of a selection: a page of the size that they ask for, or all of it if they
ask for none. -/
inductive IsShown {α : Type} (params : List Param) (selected : List α) : List α → Prop where
  | whole (h : ∀ size, ¬ AsksForSize params size) : IsShown params selected selected
  | page {size page : Nat} (hsize : AsksForSize params size) (hpage : AsksForPage params page)
      {shown : List α} (h : ∀ i, shown[i]? =
        if i < size then selected[(page - 1) * size + i]? else none) :
      IsShown params selected shown

section

variable {params : List Param}

/-- A parameter is read as a number just if it sets one. -/
theorem wholeParam?_eq_some_iff {name : String} {n : Nat} :
    wholeParam? name params = some n ↔ Sets params name n := by
  simp only [wholeParam?, Option.bind_eq_some_iff, Numeral.natOfBits?_eq_some_iff, Sets]

/-- The parameters ask for the page whose number is read from them. -/
theorem asksForPage_pageNumber : AsksForPage params (pageNumber params) := by
  unfold pageNumber
  cases hread : wholeParam? "page" params with
  | none =>
    refine .first fun n hn ↦ ?_
    rw [wholeParam?_eq_some_iff.mpr hn] at hread
    cases hread
  | some n =>
    have hset := wholeParam?_eq_some_iff.mp hread
    cases n with
    | zero =>
      refine .first fun n hn ↦ ?_
      rw [wholeParam?_eq_some_iff.mpr hn] at hread
      exact Option.some.inj hread
    | succ n =>
      have hmax : max 1 ((some (n + 1)).getD 1) = n + 1 := Nat.max_eq_right (by simp)
      rw [hmax]
      exact .set hset n.succ_pos

/-- The parameters ask for one page only. -/
theorem AsksForPage.eq_pageNumber {page : Nat} (h : AsksForPage params page) :
    page = pageNumber params := by
  unfold pageNumber
  cases h with
  | set hset hpage =>
    rw [wholeParam?_eq_some_iff.mpr hset, Option.getD_some]
    exact (Nat.max_eq_right hpage).symm
  | first hzero =>
    cases hread : wholeParam? "page" params with
    | none => rfl
    | some n =>
      rw [hzero n (wholeParam?_eq_some_iff.mp hread)]
      rfl

variable {α : Type} {items : List α}

/-- A page begins where its number and its size say, if there are no more items than positions. -/
theorem drop_pageStart (hlength : items.length ≤ Numeral.maxUnsigned 64) (page size : Nat) :
    items.drop (pageStart page size) = items.drop ((page - 1) * size) := by
  rcases Nat.le_total ((page - 1) * size) (Numeral.maxUnsigned 64) with hle | hge
  · rw [pageStart, Nat.min_eq_left hle]
  · rw [pageStart, Nat.min_eq_right hge, List.drop_of_length_le hlength,
      List.drop_of_length_le (Nat.le_trans hlength hge)]

/-- A page of a size is a slice of the items. -/
theorem pageOf_of_asksForSize (hlength : items.length ≤ Numeral.maxUnsigned 64) {size page : Nat}
    (hsize : AsksForSize params size) (hpage : AsksForPage params page) :
    pageOf items params = Pagination.slice size page items := by
  rw [pageOf, wholeParam?_eq_some_iff.mpr hsize.1]
  simp only [if_pos hsize.2, ← hpage.eq_pageNumber, drop_pageStart hlength]
  rfl

/-- All items are shown if no size is asked for. -/
theorem pageOf_of_not_asksForSize (h : ∀ size, ¬ AsksForSize params size) :
    pageOf items params = items := by
  unfold pageOf
  cases hread : wholeParam? "pagesize" params with
  | none => rfl
  | some size =>
    have hzero : ¬ 0 < size := fun hpos ↦ h size ⟨wholeParam?_eq_some_iff.mp hread, hpos⟩
    exact if_neg hzero

/-- A slice has the items at the positions of its page. -/
theorem getElem?_slice (size page i : Nat) : (Pagination.slice size page items)[i]? =
    if i < size then items[(page - 1) * size + i]? else none := by
  rw [Pagination.slice, List.getElem?_take, List.getElem?_drop]

/-- What is shown is what the parameters ask for. -/
theorem isShown_pageOf (hlength : items.length ≤ Numeral.maxUnsigned 64) :
    IsShown params items (pageOf items params) := by
  by_cases hsize : ∃ size, AsksForSize params size
  · obtain ⟨size, hsize⟩ := hsize
    have hpage : AsksForPage params (pageNumber params) := asksForPage_pageNumber
    refine .page hsize hpage fun i ↦ ?_
    rw [pageOf_of_asksForSize hlength hsize hpage, getElem?_slice]
  · have hnone : ∀ size, ¬ AsksForSize params size := fun size h ↦ hsize ⟨size, h⟩
    rw [pageOf_of_not_asksForSize hnone]
    exact .whole hnone

end

/-- The number of pages of a size that items fill. -/
def pageCount (total size : Nat) : Nat :=
  (total + size - 1) / size

/-- A page shows something if it is one of those that the items fill. -/
theorem slice_ne_nil {α : Type} {items : List α} {size i : Nat} (hsize : 0 < size)
    (h : i < pageCount items.length size) : Pagination.slice size (i + 1) items ≠ [] := by
  have hbelow : (i + 1) * size ≤ items.length + size - 1 :=
    (Nat.le_div_iff_mul_le hsize).mp h
  have hlength := Pagination.length_slice size i items
  rw [Nat.succ_mul] at hbelow
  intro hnil
  rw [hnil, List.length_nil] at hlength
  omega

/-- The pages that items fill are the items, one after the other. -/
theorem flatMap_slice {α : Type} (items : List α) {size : Nat} (hsize : 0 < size) :
    ((List.range (pageCount items.length size)).flatMap fun i ↦
      Pagination.slice size (i + 1) items) = items := by
  have hpages : ∀ n, ((List.range n).flatMap fun i ↦ Pagination.slice size (i + 1) items) =
      items.take (n * size) := by
    intro n
    induction n with
    | zero => simp
    | succ n ih =>
      rw [List.range_succ, List.flatMap_append, ih, List.flatMap_singleton,
        Pagination.take_append_slice]
  have hall : items.length ≤ pageCount items.length size * size := by
    have hdiv := Nat.div_add_mod (items.length + size - 1) size
    have hmod := Nat.mod_lt (items.length + size - 1) hsize
    rw [Nat.mul_comm] at hdiv
    unfold pageCount
    omega
  rw [hpages, List.take_of_length_le hall]

/-! ## The answer -/

/-- The answer to a listing with a selection, of which some items are shown. -/
inductive IsAnswer (name key : String) (params : List Param) (selected shown : List Json) :
    Answer → Prop where
  | unknown {id : String} (hnone : selected = []) (hid : lookup? "id" params = some id) :
      IsAnswer name key params selected shown (.error name 431 (missingEntity name id))
  | nothing (hnone : selected = []) (hid : lookup? "id" params = none) :
      IsAnswer name key params selected shown (.reply name 200 (.object []))
  /-- The number of the items that are selected is reported, and the items stand under their key if
  there are any. -/
  | items (hsome : selected ≠ []) {members : List (String × Json)}
      (hascending : Json.Ascending members)
      (hlookup : ∀ n, members.lookup n =
        if shown ≠ [] ∧ n = key then some (.array shown)
        else if n = "count" then some (.ofNat selected.length) else none) :
      IsAnswer name key params selected shown (.reply name 200 (.object members))

variable {name key : String} {fixture : Json} {items : List Json} {params : List Param}

/-- A listing is answered with its selection. -/
theorem isAnswer_selectionAnswer (selected shown : List Json) :
    IsAnswer name key params selected shown
      (selectionAnswer name key selected (lookup? "id" params) shown) := by
  unfold selectionAnswer
  by_cases hselected : selected = []
  · rw [if_pos hselected]
    cases hid : lookup? "id" params with
    | none => exact .nothing hselected hid
    | some id => exact .unknown hselected hid
  · rw [if_neg hselected]
    exact .items hselected (Json.ascending_sortMembers _)
      (get?_listingContent key selected.length shown)

/-! ## The order of parameters -/

/-- The same parameters in another order, in which the parameters of each name are in the order that
they were in. Names that differ in the case of ASCII letters only are the same. -/
def IsReordering (params other : List Param) : Prop :=
  ∀ name, other.filter (isNamed name) = params.filter (isNamed name)

/-- Parameters are named differently: no two have one name, whatever the case of ASCII letters. -/
def AreNamedApart (params : List Param) : Prop :=
  params.Pairwise fun p q ↦ eqFolded p.1 q.1 = false

section

variable {other : List Param}

/-- Parameters in another order have the same first value of a name. -/
theorem IsReordering.lookup?_eq (h : IsReordering params other) (name : String) :
    lookup? name other = lookup? name params := by
  rw [lookup?, lookup?, ← List.head?_filter, ← List.head?_filter, h name]

/-- Parameters in another order are the same ones. -/
theorem IsReordering.mem_iff (h : IsReordering params other) (p : Param) :
    p ∈ other ↔ p ∈ params := by
  have hfilter : ∀ ps : List Param, p ∈ ps ↔ p ∈ ps.filter (isNamed p.1) := by
    intro ps
    rw [List.mem_filter, isNamed, eqFolded_self]
    exact (and_iff_left rfl).symm
  rw [hfilter other, h p.1, ← hfilter params]

/-- Parameters in another order ask for the same items. -/
theorem IsReordering.matches_iff (h : IsReordering params other) {item : Json} :
    Matches items other item ↔ Matches items params item := by
  constructor
  · intro hitem
    exact ⟨fun p hp ↦ hitem.fields p ((h.mem_iff p).mpr hp), h.lookup?_eq "keyword" ▸ hitem.keyword⟩
  · intro hitem
    exact ⟨fun p hp ↦ hitem.fields p ((h.mem_iff p).mp hp),
      (h.lookup?_eq "keyword").symm ▸ hitem.keyword⟩

/-- Parameters in another order show the same page. -/
theorem IsReordering.pageOf_eq {α : Type} (h : IsReordering params other) (selected : List α) :
    pageOf selected other = pageOf selected params := by
  simp only [pageOf, pageNumber, wholeParam?, h.lookup?_eq]

/-- Parameters in another order are answered alike. -/
theorem IsReordering.listing_eq (h : IsReordering params other)
    (hitems : listItems? name fixture = some (key, items)) :
    listing name fixture other = listing name fixture params := by
  have hselected : selectItems items other = selectItems items params := by
    simp only [selectItems_eq, selection, h.matches_iff]
  rw [Simulator.listing_eq hitems, Simulator.listing_eq hitems, hselected, h.lookup?_eq,
    h.pageOf_eq]

/-- Where no two parameters have one name, every order is another order of them. -/
theorem AreNamedApart.isReordering (hapart : AreNamedApart params) (hperm : other.Perm params) :
    IsReordering params other := by
  intro name
  have hfilter : (other.filter (isNamed name)).Perm (params.filter (isNamed name)) :=
    hperm.filter _
  have hpairwise := hapart.filter (isNamed name)
  have hnamed : ∀ p ∈ params.filter (isNamed name), eqFolded p.1 name = true :=
    fun p hp ↦ (List.mem_filter.mp hp).2
  cases hparams : params.filter (isNamed name) with
  | nil => rw [hparams] at hfilter; exact hfilter.eq_nil
  | cons p rest =>
    rw [hparams] at hfilter hpairwise hnamed
    cases rest with
    | nil => exact List.perm_singleton.mp hfilter
    | cons q rest =>
      have hdiffer := (List.pairwise_cons.mp hpairwise).1 q List.mem_cons_self
      have hp := hnamed p List.mem_cons_self
      have hq := hnamed q (List.mem_cons_of_mem p List.mem_cons_self)
      rw [eqFolded_congr hp, eqFolded_comm, hq] at hdiffer
      cases hdiffer

end

/-! ## Listings -/

section

variable (hitems : listItems? name fixture = some (key, items))
  (hlength : items.length ≤ Numeral.maxUnsigned 64)
include hitems hlength

/-- A listing is answered with the items that are asked for, and shows what the parameters ask
for. -/
theorem exists_isAnswer (params : List Param) :
    ∃ shown, IsShown params (selection items params) shown ∧
      IsAnswer name key params (selection items params) shown (listing name fixture params) := by
  have hselected : (selection items params).length ≤ Numeral.maxUnsigned 64 :=
    Nat.le_trans (List.length_filter_le _ items) hlength
  refine ⟨pageOf (selection items params) params, isShown_pageOf hselected, ?_⟩
  rw [listing_eq hitems, selectItems_eq]
  exact isAnswer_selectionAnswer _ _

/-- Parameters that differ from others in the page only are answered with a slice of the same
selection. -/
theorem isAnswer_slice {params asked : List Param} {size page : Nat}
    (hsize : AsksForSize params size)
    (hasked : withoutAll ["page"] asked = withoutAll ["page"] params)
    (hpage : AsksForPage asked page) :
    IsAnswer name key asked (selection items params)
      (Pagination.slice size page (selection items params)) (listing name fixture asked) := by
  have hselected : selectItems items asked = selection items params := by
    have hreserved : ∀ name ∈ ["page"], isReserved name = true := by decide
    have hkeyword : ∀ name ∈ ["page"], eqFolded "keyword" name = false := by decide
    rw [← selectItems_eq, ← selectItems_withoutAll hreserved hkeyword, hasked,
      selectItems_withoutAll hreserved hkeyword]
  have hfound : lookup? "pagesize" asked = lookup? "pagesize" params := by
    have hother : ∀ name ∈ ["page"], eqFolded "pagesize" name = false := by decide
    rw [← lookup?_withoutAll hother, hasked, lookup?_withoutAll hother]
  have hasksSize : AsksForSize asked size := by
    obtain ⟨⟨text, htext, hnumber⟩, hpos⟩ := hsize
    exact ⟨⟨text, hfound.trans htext, hnumber⟩, hpos⟩
  have hselectedLength : (selection items params).length ≤ Numeral.maxUnsigned 64 :=
    Nat.le_trans (List.length_filter_le _ items) hlength
  rw [listing_eq hitems, hselected, pageOf_of_asksForSize hselectedLength hasksSize hpage]
  exact isAnswer_selectionAnswer _ _

/-- Each listing is answered with just the items that its parameters ask for, and shows the page
that they ask for. The pages of one size, asked for one after the other, are not empty, and are the
selection when they are put together. Parameters of different names may be in any order. -/
theorem listing_isExact :
    (∀ params, ∃ shown, IsShown params (selection items params) shown ∧
      IsAnswer name key params (selection items params) shown (listing name fixture params)) ∧
    (∀ params size, AsksForSize params size → ∀ asked : Nat → List Param,
      (∀ i < pageCount (selection items params).length size,
        withoutAll ["page"] (asked i) = withoutAll ["page"] params ∧
          AsksForPage (asked i) (i + 1)) →
      ∃ shown : Nat → List Json,
        (∀ i < pageCount (selection items params).length size, shown i ≠ [] ∧
          IsAnswer name key (asked i) (selection items params) (shown i)
            (listing name fixture (asked i))) ∧
        (List.range (pageCount (selection items params).length size)).flatMap shown =
          selection items params) ∧
    (∀ params other, IsReordering params other ∨ (AreNamedApart params ∧ other.Perm params) →
      listing name fixture other = listing name fixture params) := by
  refine ⟨exists_isAnswer hitems hlength, fun params size hsize asked hasked ↦ ?_,
    fun params other horder ↦ ?_⟩
  · refine ⟨fun i ↦ Pagination.slice size (i + 1) (selection items params), fun i hi ↦ ?_,
      flatMap_slice _ hsize.2⟩
    obtain ⟨hparams, hpage⟩ := hasked i hi
    exact ⟨slice_ne_nil hsize.2 hi, isAnswer_slice hitems hlength hsize hparams hpage⟩
  · have hreordering : IsReordering params other := by
      rcases horder with h | ⟨hapart, hperm⟩
      · exact h
      · exact hapart.isReordering hperm
    exact hreordering.listing_eq hitems

end

/-- Two of three accounts have a keyword in their name, and are shown on a page each. -/
theorem listing_isExact_accounts :
    let account (id name : String) : Json := .object [("id", .string id), ("name", .string name)]
    let items := [account "1" "North", account "2" "South", account "3" "north-east"]
    let params : List Param :=
      [("command", "listAccounts"), ("Keyword", "NORTH"), ("pagesize", "1")]
    let asked (i : Nat) : List Param := ("page", Numeral.ofNat (i + 1)) :: params
    let north := [account "1" "North", account "3" "north-east"]
    ∃ shown : Nat → List Json,
      (∀ i < 2, shown i ≠ [] ∧ IsAnswer "listaccounts" "account" (asked i) north (shown i)
        (listing "listaccounts" (.object [("account", .array items)]) (asked i))) ∧
      shown 0 ++ shown 1 = north := by
  intro account items params asked north
  have hitems : listItems? "listaccounts" (.object [("account", .array items)]) =
      some ("account", items) := by
    decide +kernel
  have hselected : selection items params = north := by decide +kernel
  have hsize : AsksForSize params 1 := ⟨wholeParam?_eq_some_iff.mp rfl, Nat.one_pos⟩
  have hasked : ∀ i < 2, withoutAll ["page"] (asked i) = withoutAll ["page"] params ∧
      AsksForPage (asked i) (i + 1) := by
    intro i hi
    have hdropped := not_kept_of_mem (List.mem_singleton_self "page")
      (p := ("page", Numeral.ofNat (i + 1))) (eqFolded_self "page")
    have hset : wholeParam? "page" (asked i) = some (i + 1) := by
      rw [wholeParam?, lookup?_cons_of_eq (eqFolded_self "page"), Option.bind_some]
      exact Numeral.natOfBits?_ofNat (Nat.le_trans hi (by decide))
    exact ⟨List.filter_cons_of_neg (Bool.eq_false_iff.mp hdropped),
      .set (wholeParam?_eq_some_iff.mp hset) i.succ_pos⟩
  have hcount : pageCount (selection items params).length 1 = 2 := by
    rw [hselected]
    show (2 + 1 - 1) / 1 = 2
    rfl
  have hpages := (listing_isExact hitems (by decide)).2.1 params 1 hsize asked
  rw [hcount, hselected] at hpages
  obtain ⟨shown, hshown, hall⟩ := hpages hasked
  have hboth : (List.range 2).flatMap shown = shown 0 ++ shown 1 := by
    simp [List.range_succ]
  exact ⟨shown, hshown, hboth ▸ hall⟩

/-- Where the items stand under the name of their number, the number is not reported: one account
is selected, and what stands for the number is the list of it. -/
theorem listing_hides_count :
    let account : Json := .object [("id", .string "a")]
    let fixture : Json := .object [("count", .array [account])]
    let params : List Param := [("command", "listAccounts"), ("response", "json")]
    listItems? "listaccounts" fixture = some ("count", [account]) ∧
      selection [account] params = [account] ∧
      ∃ content, listing "listaccounts" fixture params = .reply "listaccounts" 200 content ∧
        content.get? "count" ≠ some (.ofNat 1) := by
  intro account fixture params
  have hitems : listItems? "listaccounts" fixture = some ("count", [account]) := by decide +kernel
  have hselected : selection [account] params = [account] := by decide +kernel
  refine ⟨hitems, hselected, listingContent "count" 1 [account], ?_, by decide⟩
  rw [listing_eq hitems, selectItems_eq, hselected]
  rfl

end CloudControl.Simulator
