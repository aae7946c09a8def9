import CloudControl.Proofs.Pagination

/-!
# Collecting from any source

A source may answer every call as it likes: with items of any number, with a total that changes
from page to page, or with an error, and all this may depend on the calls before. Whatever it does,
`collect_recorded_of_any` says which calls are made and what the collection ends with: pages are
asked for in turn up to the first one that fails, or that shows the end of the list, or that is the
last that has a number.

The answers to the calls, page by page, are all that this depends on. The loop is followed through
them by `exists_endsAt_from`, whose invariant is that no page so far has ended the collection.
-/

namespace CloudControl.Pagination

variable {σ α ε : Type}

/-- The answers of a source that is asked for its pages in turn, by the numbers of the pages. -/
def Source.answers (source : Source σ α ε) (pageSize : Nat) (s : σ) (page : Nat) :
    Except ε (Page α) :=
  (source (source.after pageSize s (page - 1)) page pageSize).1

/-- The items of a page; none if there is no page. -/
def itemsOf : Except ε (Page α) → List α
  | .ok found => found.items
  | .error _ => []

/-- The items of the first pages, one page after the other. -/
def itemsUpTo (answers : Nat → Except ε (Page α)) (pages : Nat) : List α :=
  (List.range pages).flatMap fun i ↦ itemsOf (answers (i + 1))

/-- More is to come after a page: it holds items, and the total that it reports is greater than the
number of items up to it, or it reports none and is full. -/
structure GoesOn (pageSize collected : Nat) (found : Page α) : Prop where
  items_ne_nil : found.items ≠ []
  lt_total : ∀ total, found.total = some total → collected < total
  isFull : found.total = none → pageSize ≤ found.items.length

/-- The number of the last page that is asked for, and what the collection ends with. -/
structure EndsAt (answers : Nat → Except ε (Page α)) (pageSize last : Nat)
    (result : Except (Error ε) (List α)) : Prop where
  one_le : 1 ≤ last
  le_max : last ≤ 2 ^ 32 - 1
  before : ∀ page, 1 ≤ page → page < last → ∃ found, answers page = .ok found ∧
    GoesOn pageSize (itemsUpTo answers page).length found
  failed : ∀ e, answers last = .error e → result = .error (.fetch last e)
  succeeded : ∀ found, answers last = .ok found →
    result = .ok (itemsUpTo answers last) ∧
      (found.items = [] ∨
        (∃ total, found.total = some total ∧ total ≤ (itemsUpTo answers last).length) ∨
        (found.total = none ∧ found.items.length < pageSize) ∨ last = 2 ^ 32 - 1)

/-! ## The last page -/

/-- The loop takes a page for one of many just if more is to come after it. -/
theorem isLast_eq_false_iff {pageSize collected : Nat} {found : Page α} :
    isLast pageSize found.items.length collected found.total = false ↔
      GoesOn pageSize collected found := by
  obtain ⟨items, total⟩ := found
  constructor
  · intro h
    unfold isLast at h
    rw [Bool.or_eq_false_iff, beq_eq_false_iff_ne] at h
    obtain ⟨hitems, hmore⟩ := h
    refine ⟨List.length_pos_iff.mp (Nat.pos_of_ne_zero hitems), ?_, ?_⟩
    · rintro total rfl
      simpa using hmore
    · rintro rfl
      simpa using hmore
  · rintro ⟨hitems, htotal, hfull⟩
    unfold isLast
    rw [Bool.or_eq_false_iff, beq_eq_false_iff_ne]
    refine ⟨fun h ↦ hitems (List.length_eq_zero_iff.mp h), ?_⟩
    cases total with
    | some total => simpa using htotal total rfl
    | none => simpa using hfull rfl

/-- A page after which no more is to come is empty, or reaches the total, or is not full. -/
theorem ends_of_not_goesOn {pageSize collected : Nat} {found : Page α}
    (h : ¬ GoesOn pageSize collected found) :
    found.items = [] ∨ (∃ total, found.total = some total ∧ total ≤ collected) ∨
      (found.total = none ∧ found.items.length < pageSize) := by
  by_contra hnot
  simp only [not_or, not_exists, not_and, Nat.not_le, Nat.not_lt] at hnot
  obtain ⟨hitems, htotal, hfull⟩ := hnot
  exact h ⟨hitems, htotal, hfull⟩

/-- What a collection ends with if a page is its last: the error of that page, or all items. -/
def resultAt (answers : Nat → Except ε (Page α)) (last : Nat) : Except (Error ε) (List α) :=
  match answers last with
  | .ok _ => .ok (itemsUpTo answers last)
  | .error e => .error (.fetch last e)

/-- The first page that does not go on, or that has the last number, ends a collection. -/
theorem endsAt_resultAt {answers : Nat → Except ε (Page α)} {pageSize last : Nat}
    (hone : 1 ≤ last) (hmax : last ≤ 2 ^ 32 - 1)
    (hbefore : ∀ page, 1 ≤ page → page < last → ∃ found, answers page = .ok found ∧
      GoesOn pageSize (itemsUpTo answers page).length found)
    (hlast : ∀ found, answers last = .ok found →
      ¬ GoesOn pageSize (itemsUpTo answers last).length found ∨ last = 2 ^ 32 - 1) :
    EndsAt answers pageSize last (resultAt answers last) := by
  refine ⟨hone, hmax, hbefore, ?_, ?_⟩
  · intro e he
    simp only [resultAt, he]
  · intro found hfound
    refine ⟨by simp only [resultAt, hfound], ?_⟩
    rcases hlast found hfound with hends | hnumber
    · rcases ends_of_not_goesOn hends with hempty | htotal | hshort
      · exact .inl hempty
      · exact .inr (.inl htotal)
      · exact .inr (.inr (.inl hshort))
    · exact .inr (.inr (.inr hnumber))

/-! ## The loop -/

/-- The items up to a page are those before it and its own. -/
theorem itemsUpTo_succ {answers : Nat → Except ε (Page α)} {n : Nat} {found : Page α}
    (h : answers (n + 1) = .ok found) :
    itemsUpTo answers (n + 1) = itemsUpTo answers n ++ found.items := by
  simp [itemsUpTo, List.range_succ, h, itemsOf]

section

variable {source : Source σ α ε} {pageSize : Nat} {s : σ}

/-- The loop ends with a page that does not go on, or that has the last number. -/
theorem collectFrom_of_ends {n : Nat}
    (hends : ∀ found, source.answers pageSize s (n + 1) = .ok found →
      ¬ GoesOn pageSize (itemsUpTo (source.answers pageSize s) (n + 1)).length found ∨
        maxPage ≤ n + 1) :
    collectFrom source pageSize (n + 1) (itemsUpTo (source.answers pageSize s) n)
        (source.after pageSize s n) =
      (resultAt (source.answers pageSize s) (n + 1), source.after pageSize s (n + 1)) := by
  cases hanswer : source.answers pageSize s (n + 1) with
  | error e =>
    simp only [resultAt, hanswer]
    exact collectFrom_of_error hanswer
  | ok found =>
    simp only [resultAt, hanswer]
    rw [itemsUpTo_succ hanswer]
    rcases hends found hanswer with hlast | hnumber
    · refine collectFrom_of_last hanswer ?_
      rw [← isLast_eq_false_iff, Bool.not_eq_false, itemsUpTo_succ hanswer] at hlast
      exact hlast
    · exact collectFrom_of_maxPage hanswer hnumber

/-- After some pages that have not ended the collection, the loop goes on to its end. -/
theorem exists_endsAt_from {n : Nat} (hn : n < maxPage)
    (hbefore : ∀ page, 1 ≤ page → page ≤ n → ∃ found,
      source.answers pageSize s page = .ok found ∧
        GoesOn pageSize (itemsUpTo (source.answers pageSize s) page).length found) :
    ∃ last result, EndsAt (source.answers pageSize s) pageSize last result ∧
      collectFrom source pageSize (n + 1) (itemsUpTo (source.answers pageSize s) n)
        (source.after pageSize s n) = (result, source.after pageSize s last) := by
  have hmax : maxPage = 2 ^ 32 - 1 := by decide
  induction hleft : maxPage - n generalizing n with
  | zero => omega
  | succ left ih =>
    by_cases hmore : ∃ found, source.answers pageSize s (n + 1) = .ok found ∧
        GoesOn pageSize (itemsUpTo (source.answers pageSize s) (n + 1)).length found ∧
          n + 1 < maxPage
    · obtain ⟨found, hanswer, hgoes, hnumber⟩ := hmore
      have hnext : collectFrom source pageSize (n + 1) (itemsUpTo (source.answers pageSize s) n)
          (source.after pageSize s n) =
          collectFrom source pageSize (n + 2) (itemsUpTo (source.answers pageSize s) (n + 1))
            (source.after pageSize s (n + 1)) := by
        have hnot := isLast_eq_false_iff.mpr hgoes
        rw [itemsUpTo_succ hanswer] at hnot ⊢
        exact collectFrom_of_more hanswer hnot hnumber
      rw [hnext]
      refine ih hnumber (fun page hpage hle ↦ ?_) (by omega)
      rcases Nat.lt_succ_iff_lt_or_eq.mp (Nat.lt_succ_of_le hle) with hlt | rfl
      · exact hbefore page hpage (Nat.le_of_lt_succ hlt)
      · exact ⟨found, hanswer, hgoes⟩
    · refine ⟨n + 1, _, endsAt_resultAt (Nat.succ_pos n) (by omega)
        (fun page hpage hlt ↦ hbefore page hpage (Nat.le_of_lt_succ hlt)) ?_,
        collectFrom_of_ends ?_⟩
      all_goals
        intro found hanswer
        by_contra hnot
        rw [not_or, not_not] at hnot
        exact hmore ⟨found, hanswer, hnot.1, by omega⟩

end

/-- A source that keeps a record answers as it does without one. -/
theorem answers_recorded (source : Source σ α ε) (pageSize : Nat) (s : σ) :
    source.recorded.answers pageSize (s, []) = source.answers pageSize s := by
  funext page
  unfold Source.answers
  rw [Source.after_recorded]
  rfl

/-- What a collection comes to, whatever its source answers. A page size of zero is refused before
any call. With any other, pages are asked for in turn, each with that page size, from the first up
to one that fails, that is empty, that reaches the total that it reports, that is not full and
reports none, or that is the last with a number of 32 bits. All pages before it show that more is
to come. If it fails, that is the error; otherwise the items of all pages are the result. -/
theorem collect_recorded_of_any (source : Source σ α ε) (s : σ) (pageSize : Nat) :
    (pageSize = 0 → collect source.recorded pageSize (s, []) = (.error .invalidPageSize, s, [])) ∧
    (1 ≤ pageSize → ∃ last result s', EndsAt (source.answers pageSize s) pageSize last result ∧
      collect source.recorded pageSize (s, []) =
        (result, s', (List.range last).map fun i ↦ (i + 1, pageSize))) := by
  constructor
  · intro hzero
    rw [collect, if_pos hzero]
  · intro hsize
    have hbefore : ∀ page, 1 ≤ page → page ≤ 0 → ∃ found,
        source.recorded.answers pageSize (s, []) page = .ok found ∧
          GoesOn pageSize (itemsUpTo (source.recorded.answers pageSize (s, [])) page).length
            found := by
      intro page hpage hle
      omega
    obtain ⟨last, result, hends, hrun⟩ := exists_endsAt_from (by decide) hbefore
    rw [answers_recorded] at hends
    rw [source.after_recorded pageSize s last] at hrun
    refine ⟨last, result, source.after pageSize s last, hends, ?_⟩
    rw [collect, if_neg (Nat.ne_of_gt hsize)]
    exact hrun

/-- A source that gives more items than it is asked for, then reports no total any more, and then
fails is asked three times. -/
theorem collect_recorded_of_any_failing :
    let source : Source Unit Nat String := fun s page _ ↦
      (if page = 1 then .ok ⟨[1, 2, 3], some 9⟩
        else if page = 2 then .ok ⟨[4, 5], none⟩ else .error "lost", s)
    ∃ s', collect source.recorded 2 ((), []) =
      (.error (.fetch 3 "lost"), s', [(1, 2), (2, 2), (3, 2)]) := by
  intro source
  obtain ⟨last, result, s', hends, hrun⟩ :=
    (collect_recorded_of_any source () 2).2 (by decide)
  have hlast : last = 3 := by
    have hone := hends.one_le
    by_contra hne
    rcases Nat.lt_or_gt_of_ne hne with hlt | hgt
    · -- More is to come after the first two pages.
      obtain rfl | rfl : last = 1 ∨ last = 2 := by omega
      · have hreason := (hends.succeeded _ rfl).2
        simp [itemsUpTo, itemsOf, Source.answers, source] at hreason
      · have hreason := (hends.succeeded _ rfl).2
        simp at hreason
    · obtain ⟨found, hfound, _⟩ := hends.before 3 (by decide) hgt
      cases hfound
  subst hlast
  refine ⟨s', ?_⟩
  rw [hrun, hends.failed "lost" rfl]
  rfl

end CloudControl.Pagination
