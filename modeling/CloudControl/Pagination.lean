import CloudControl.Text.Numeral

/-!
# Collecting pages

`collect` asks a source for one page after the other, from page one on, until the reported
total has been reached, an empty page arrives, or, where no total is reported, a page is not
full. The source may change state, so a recorded sequence of pages and a simulated server are
both sources. Page numbers have 32 bits, which bounds the number of calls.
-/

namespace CloudControl.Pagination

/-- Items, and the total that the server reports. -/
structure Page (α : Type) where
  items : List α
  total : Option Nat
  deriving DecidableEq

/-- Why the pages could not be collected. -/
inductive Error (ε : Type) where
  /-- The size of a page is zero. -/
  | invalidPageSize
  /-- The source failed on a page. -/
  | fetch (page : Nat) (source : ε)
  deriving DecidableEq

/-- The wording of an error, given the wording of the errors of the source. -/
def Error.message {ε : Type} (wording : ε → String) : Error ε → String
  | invalidPageSize => "page size must be at least 1"
  | fetch page source => "fetching page " ++ toString page ++ " failed: " ++ wording source

/-- The largest page number. -/
def maxPage : Nat := Text.Numeral.maxUnsigned 32

/-- The page just fetched is the last, given how many items it holds and how many have been
collected with it. -/
def isLast (pageSize fetched collected : Nat) (total : Option Nat) : Bool :=
  fetched == 0 ||
    match total with
    | some total => total ≤ collected
    | none => fetched < pageSize

section

variable {σ α ε : Type}

/-- A source of pages: it is asked for a page number and a page size. -/
abbrev Source (σ α ε : Type) := σ → Nat → Nat → Except ε (Page α) × σ

/-- Collects the pages from `page` on behind the items collected so far. -/
def collectFrom (source : Source σ α ε) (pageSize page : Nat) (collected : List α) (s : σ) :
    Except (Error ε) (List α) × σ :=
  match source s page pageSize with
  | (.error e, s) => (.error (.fetch page e), s)
  | (.ok found, s) =>
    let collected := collected ++ found.items
    if isLast pageSize found.items.length collected.length found.total then (.ok collected, s)
    else if page < maxPage then collectFrom source pageSize (page + 1) collected s
    else (.ok collected, s)
termination_by maxPage - page

/-- Collects every page of a source. -/
def collect (source : Source σ α ε) (pageSize : Nat) (s : σ) :
    Except (Error ε) (List α) × σ :=
  if pageSize = 0 then (.error .invalidPageSize, s)
  else collectFrom source pageSize 1 [] s

end

end CloudControl.Pagination
