import CloudControl.Pagination
import CloudControl.Proofs.Except
import Mathlib.Algebra.Order.Floor.Div

/-!
# Collecting the pages of a list

A source that serves a list in pages is asked for the first page, the second, and so on, until it
has given the whole list. `collect_recorded` says so for a server that caps the size of its pages,
and counts the calls: one for each page when the server reports a total, and one more for a page
that is not full when it reports none.

The loop is taken apart by what one page does to it (`collectFrom_of_more`, `collectFrom_of_last`,
`collectFrom_of_error`). `collectFrom_full` carries it over any number of full pages, where the
items collected are the front of the list. A source may also read the items of each page one by
one; then the collection ends as reading the whole list does (`collect_of_mapM_ok`,
`collect_of_mapM_error`).
-/

namespace CloudControl.Pagination

variable {σ α ε : Type}

/-- The items of a list on a page. Pages count from one. -/
def slice (size page : Nat) (xs : List α) : List α :=
  (xs.drop ((page - 1) * size)).take size

namespace Source

/-- The source that keeps a record of the calls. -/
def recorded (source : Source σ α ε) : Source (σ × List (Nat × Nat)) α ε :=
  fun s page pageSize ↦
    let (answer, next) := source s.1 page pageSize
    (answer, next, s.2 ++ [(page, pageSize)])

/-- The state of a source after it was asked for a number of pages in turn. -/
def after (source : Source σ α ε) (pageSize : Nat) (s : σ) : Nat → σ
  | 0 => s
  | n + 1 => (source (source.after pageSize s n) (n + 1) pageSize).2

/-- A source that is asked in turn for pages of one size gives a list in pages of another size,
with a total on every page. -/
def Serves (source : Source σ α ε) (s : σ) (pageSize size : Nat) (total : Option Nat)
    (xs : List α) : Prop :=
  ∀ n < maxPage, (source (source.after pageSize s n) (n + 1) pageSize).1 =
    .ok ⟨slice size (n + 1) xs, total⟩

/-- A source that does not change stays as it is. -/
theorem after_of_unchanged {source : Source σ α ε} {pageSize : Nat} {s : σ}
    (h : ∀ page, (source s page pageSize).2 = s) (n : Nat) : source.after pageSize s n = s := by
  induction n with
  | zero => rfl
  | succ n ih => rw [after, ih, h]

/-- The record after a number of pages. -/
theorem after_recorded (source : Source σ α ε) (pageSize : Nat) (s : σ) (n : Nat) :
    source.recorded.after pageSize (s, []) n =
      (source.after pageSize s n, (List.range n).map fun i ↦ (i + 1, pageSize)) := by
  induction n with
  | zero => rfl
  | succ n ih =>
    rw [after, ih, List.range_succ, List.map_append]
    rfl

/-- A source that keeps a record serves what it served without one. -/
theorem Serves.recorded {source : Source σ α ε} {s : σ} {pageSize size : Nat} {total : Option Nat}
    {xs : List α} (h : source.Serves s pageSize size total xs) :
    source.recorded.Serves (s, []) pageSize size total xs := by
  intro n hn
  rw [after_recorded]
  exact h n hn

end Source

/-! ## One page -/

section

variable {source : Source σ α ε} {pageSize page : Nat} {collected : List α} {s : σ}

/-- A page that fails ends the collection. -/
theorem collectFrom_of_error {e : ε} (h : (source s page pageSize).1 = .error e) :
    collectFrom source pageSize page collected s =
      (.error (.fetch page e), (source s page pageSize).2) := by
  rw [collectFrom]
  rcases hfetch : source s page pageSize with ⟨answer, next⟩
  rw [hfetch] at h
  subst h
  rfl

/-- The last page ends the collection. -/
theorem collectFrom_of_last {found : Page α} (h : (source s page pageSize).1 = .ok found)
    (hlast : isLast pageSize found.items.length (collected ++ found.items).length found.total =
      true) :
    collectFrom source pageSize page collected s =
      (.ok (collected ++ found.items), (source s page pageSize).2) := by
  rw [collectFrom]
  rcases hfetch : source s page pageSize with ⟨answer, next⟩
  rw [hfetch] at h
  subst h
  exact if_pos hlast

/-- After any other page the next one follows. -/
theorem collectFrom_of_more {found : Page α} (h : (source s page pageSize).1 = .ok found)
    (hmore : isLast pageSize found.items.length (collected ++ found.items).length found.total =
      false) (hpage : page < maxPage) :
    collectFrom source pageSize page collected s =
      collectFrom source pageSize (page + 1) (collected ++ found.items)
        (source s page pageSize).2 := by
  rw [collectFrom]
  rcases hfetch : source s page pageSize with ⟨answer, next⟩
  rw [hfetch] at h
  subst h
  simp only [hmore, hpage, if_pos, Bool.false_eq_true, if_false]

/-- A page that succeeds ends the collection when there is no number for another page. -/
theorem collectFrom_of_maxPage {found : Page α} (h : (source s page pageSize).1 = .ok found)
    (hpage : maxPage ≤ page) :
    collectFrom source pageSize page collected s =
      (.ok (collected ++ found.items), (source s page pageSize).2) := by
  rw [collectFrom]
  rcases hfetch : source s page pageSize with ⟨answer, next⟩
  rw [hfetch] at h
  subst h
  simp only [Nat.not_lt.mpr hpage, if_false, ite_self]

end

/-! ## Full pages -/

/-- The front of a list and the next page of it. -/
theorem take_append_slice (size n : Nat) (xs : List α) :
    xs.take (n * size) ++ slice size (n + 1) xs = xs.take ((n + 1) * size) := by
  rw [slice, Nat.add_sub_cancel, Nat.succ_mul, List.take_add]

/-- The number of items on a page. -/
theorem length_slice (size n : Nat) (xs : List α) :
    (slice size (n + 1) xs).length = min size (xs.length - n * size) := by
  rw [slice, List.length_take, List.length_drop, Nat.add_sub_cancel]

/-- More pages are to come after a number of full ones: the total is not reached, or there is none
and a page has the size that was asked for. -/
def MoreAfter (pageSize size n : Nat) : Option Nat → Prop
  | some total => n * size < total
  | none => size = pageSize

/-- A full page is not the last while more are to come. -/
theorem isLast_of_more {pageSize size n : Nat} {total : Option Nat} (hsize : 0 < size)
    (hmore : MoreAfter pageSize size n total) :
    isLast pageSize size (n * size) total = false := by
  have hfilled : (size == 0) = false := beq_eq_false_iff_ne.mpr (Nat.ne_of_gt hsize)
  cases total with
  | some total =>
    have hless : n * size < total := hmore
    simp only [isLast, hfilled, Bool.false_or, decide_eq_false_iff_not]
    omega
  | none =>
    have heq : size = pageSize := hmore
    subst heq
    simp only [isLast, hfilled, Bool.false_or, Nat.lt_irrefl, decide_false]

/-- More pages were to come earlier too. -/
theorem MoreAfter.of_succ {pageSize size n : Nat} {total : Option Nat}
    (h : MoreAfter pageSize size (n + 1) total) : MoreAfter pageSize size n total := by
  cases total with
  | some total =>
    have hless : (n + 1) * size < total := h
    exact Nat.lt_of_le_of_lt (Nat.mul_le_mul_right size (Nat.le_succ n)) hless
  | none => exact h

section

variable {source : Source σ α ε} {pageSize size : Nat} {total : Option Nat} {xs : List α} {s : σ}

/-- Over a number of full pages the front of the list is collected. -/
theorem collectFrom_full {n : Nat}
    (hserves : ∀ i < n, (source (source.after pageSize s i) (i + 1) pageSize).1 =
      .ok ⟨slice size (i + 1) xs, total⟩)
    (hsize : 0 < size) (hfull : n * size ≤ xs.length)
    (hmore : 0 < n → MoreAfter pageSize size n total) (hmax : n < maxPage) :
    collectFrom source pageSize 1 [] s =
      collectFrom source pageSize (n + 1) (xs.take (n * size)) (source.after pageSize s n) := by
  induction n with
  | zero => rw [Nat.zero_mul, List.take_zero, Source.after]
  | succ n ih =>
    have hrest : size ≤ xs.length - n * size := by
      rw [Nat.succ_mul] at hfull
      omega
    have hlength : (slice size (n + 1) xs).length = size := by
      rw [length_slice, Nat.min_eq_left hrest]
    have hcollected : (xs.take (n * size) ++ slice size (n + 1) xs).length = (n + 1) * size := by
      rw [take_append_slice, List.length_take, Nat.min_eq_left hfull]
    rw [ih (fun i hi ↦ hserves i (Nat.lt_succ_of_lt hi))
        (Nat.le_trans (Nat.mul_le_mul_right size (Nat.le_succ n)) hfull)
        (fun _ ↦ (hmore n.succ_pos).of_succ) (Nat.lt_of_succ_lt hmax),
      collectFrom_of_more (hserves n n.lt_succ_self) ?_ hmax]
    · rw [take_append_slice, Source.after]
    · show isLast pageSize (slice size (n + 1) xs).length _ total = false
      rw [hlength, hcollected, isLast_of_more hsize (hmore n.succ_pos)]

/-- A list that ends on a page is collected with that page. -/
theorem collect_of_pages {n : Nat} (hserves : source.Serves s pageSize size total xs)
    (hpageSize : pageSize ≠ 0) (hsize : 0 < size) (hfull : n * size ≤ xs.length)
    (hrest : xs.length ≤ (n + 1) * size) (hmore : 0 < n → MoreAfter pageSize size n total)
    (hlast : isLast pageSize (xs.length - n * size) xs.length total = true)
    (hmax : n < maxPage) :
    collect source pageSize s = (.ok xs, source.after pageSize s (n + 1)) := by
  have hwhole : xs.take (n * size) ++ slice size (n + 1) xs = xs := by
    rw [take_append_slice, List.take_of_length_le hrest]
  have hlength : (slice size (n + 1) xs).length = xs.length - n * size := by
    rw [length_slice, Nat.min_eq_right (by rw [Nat.succ_mul] at hrest; omega)]
  rw [collect, if_neg hpageSize,
    collectFrom_full (fun i hi ↦ hserves i (Nat.lt_trans hi hmax)) hsize hfull hmore hmax,
    collectFrom_of_last (hserves n hmax) ?_]
  · rw [hwhole]
    rfl
  · show isLast pageSize (slice size (n + 1) xs).length _ total = true
    rw [hwhole, hlength, hlast]

/-- A list whose total is on every page is collected to its end. -/
theorem collect_of_total (hserves : source.Serves s pageSize size (some xs.length) xs)
    (hpageSize : pageSize ≠ 0) (hsize : 0 < size) (hmax : xs.length ≤ size * maxPage) :
    collect source pageSize s =
      (.ok xs, source.after pageSize s (max 1 (xs.length ⌈/⌉ size))) := by
  obtain ⟨n, hn⟩ : ∃ n, max 1 (xs.length ⌈/⌉ size) = n + 1 :=
    Nat.exists_eq_succ_of_ne_zero (Nat.ne_of_gt (Nat.lt_of_lt_of_le one_pos (le_max_left 1 _)))
  have hceil : ∀ m, xs.length ⌈/⌉ size ≤ m ↔ xs.length ≤ m * size := fun m ↦ by
    rw [ceilDiv_le_iff_le_smul hsize, smul_eq_mul, Nat.mul_comm]
  -- All items fit on the pages, and without the last page they do not, unless it is the only one.
  have hrest : xs.length ≤ (n + 1) * size := (hceil (n + 1)).mp (hn ▸ le_max_right 1 _)
  have hmore : 0 < n → n * size < xs.length := fun hpos ↦ by
    by_contra hle
    have hfew : xs.length ⌈/⌉ size ≤ n := (hceil n).mpr (Nat.le_of_not_lt hle)
    omega
  have hbound : n < maxPage := by
    have hpages : xs.length ⌈/⌉ size ≤ maxPage := (hceil maxPage).mpr (Nat.mul_comm size _ ▸ hmax)
    have hone : 1 ≤ maxPage := by decide
    omega
  rw [hn]
  refine collect_of_pages hserves hpageSize hsize ?_ hrest hmore ?_ hbound
  · rcases Nat.eq_zero_or_pos n with rfl | hpos
    · rw [Nat.zero_mul]
      exact Nat.zero_le _
    · exact Nat.le_of_lt (hmore hpos)
  · simp only [isLast, Nat.le_refl, decide_true, Bool.or_true]

/-- A list without totals is collected up to a page that is not full. -/
theorem collect_of_no_total (hserves : source.Serves s pageSize pageSize none xs)
    (hpageSize : pageSize ≠ 0) (hmax : xs.length < pageSize * maxPage) :
    collect source pageSize s = (.ok xs, source.after pageSize s (xs.length / pageSize + 1)) := by
  have hsize : 0 < pageSize := Nat.pos_of_ne_zero hpageSize
  have hlast : xs.length < (xs.length / pageSize + 1) * pageSize := by
    rw [Nat.mul_comm]
    exact Nat.lt_mul_div_succ xs.length hsize
  have hshort : xs.length - xs.length / pageSize * pageSize < pageSize := by
    rw [Nat.succ_mul] at hlast
    omega
  refine collect_of_pages hserves hpageSize hsize (Nat.div_mul_le_self _ _) (Nat.le_of_lt hlast)
    (fun _ ↦ rfl) ?_ (Nat.div_lt_of_lt_mul hmax)
  simp only [isLast, hshort, decide_true, Bool.or_true]

end

/-! ## Pages of items that are read -/

/-- A page that cannot be read is the only one that is looked at if it is the first. -/
theorem collect_of_first_error {source : Source σ α ε} {pageSize : Nat} {s : σ} {e : ε}
    (hpageSize : pageSize ≠ 0) (h : (source s 1 pageSize).1 = .error e) :
    collect source pageSize s = (.error (.fetch 1 e), source.after pageSize s 1) := by
  rw [collect, if_neg hpageSize, collectFrom_of_error h]
  rfl

/-- An empty first page is the only one. -/
theorem collect_of_first_empty {source : Source σ α ε} {pageSize : Nat} {s : σ}
    {total : Option Nat} (hpageSize : pageSize ≠ 0)
    (h : (source s 1 pageSize).1 = .ok ⟨[], total⟩) :
    collect source pageSize s = (.ok [], source.after pageSize s 1) := by
  rw [collect, if_neg hpageSize, collectFrom_of_last h rfl]
  rfl

section

variable {β : Type} {f : β → Except ε α} {xs : List β}

/-- The page of a list that is read is read as the page of the result. -/
theorem mapM_slice {ys : List α} (h : xs.mapM f = .ok ys) (size page : Nat) :
    (slice size page xs).mapM f = .ok (slice size page ys) := by
  rw [mapM_eq_ok_iff] at h ⊢
  exact List.forall₂_take _ (List.forall₂_drop _ h)

/-- A page of the front of a list is a page of the list. -/
theorem slice_take {size n i : Nat} (h : i < n) (xs : List β) :
    slice size (i + 1) (xs.take (n * size)) = slice size (i + 1) xs := by
  have hfits : size ≤ n * size - i * size := by
    rw [← Nat.sub_mul]
    exact Nat.le_mul_of_pos_left size (Nat.sub_pos_of_lt h)
  rw [slice, slice, Nat.add_sub_cancel, List.drop_take, List.take_take, Nat.min_eq_left hfits]

/-- Where a list cannot be read, some page is the first that cannot. -/
theorem exists_slice_error {size : Nat} {e : ε} (hsize : 0 < size) (h : xs.mapM f = .error e) :
    ∃ n ys, (xs.take (n * size)).mapM f = .ok ys ∧
      (slice size (n + 1) xs).mapM f = .error e := by
  classical
  have hfails : ∃ n, ∃ e', (xs.take (n * size)).mapM f = .error e' :=
    ⟨xs.length, e, by rw [List.take_of_length_le (Nat.le_mul_of_pos_right _ hsize), h]⟩
  obtain ⟨e', herror⟩ := Nat.find_spec hfails
  obtain ⟨n, hn⟩ : ∃ n, Nat.find hfails = n + 1 := by
    refine Nat.exists_eq_succ_of_ne_zero fun hzero ↦ ?_
    rw [hzero, Nat.zero_mul, List.take_zero, List.mapM_nil] at herror
    exact absurd herror nofun
  obtain ⟨ys, hys⟩ : ∃ ys, (xs.take (n * size)).mapM f = .ok ys := by
    cases hfront : (xs.take (n * size)).mapM f with
    | ok ys => exact ⟨ys, rfl⟩
    | error e => exact absurd ⟨e, hfront⟩ (Nat.find_min hfails (by omega))
  -- The error of the first pages is the one of the whole list.
  have hwhole : e' = e := by
    rw [← List.take_append_drop ((n + 1) * size) xs, ← hn, List.mapM_append, herror] at h
    exact Except.error.inj h
  rw [hn, ← take_append_slice, List.mapM_append, hys] at herror
  refine ⟨n, ys, hys, ?_⟩
  obtain ⟨_, _, hrest⟩ := (bind_eq_error_iff.mp herror).resolve_left nofun
  rcases bind_eq_error_iff.mp hrest with hpage | ⟨zs, _, hdone⟩
  · rw [hpage, hwhole]
  · exact absurd hdone nofun

/-- A source reads the items of a list page by page, with the length of the list on every page. -/
def Source.Reads (source : Source σ α ε) (s : σ) (pageSize : Nat) (f : β → Except ε α)
    (xs : List β) : Prop :=
  ∀ n < maxPage, (source (source.after pageSize s n) (n + 1) pageSize).1 =
    ((slice pageSize (n + 1) xs).mapM f).map (⟨·, some xs.length⟩)

variable {source : Source σ α ε} {pageSize : Nat} {s : σ}

/-- A list that can be read is collected. -/
theorem collect_of_mapM_ok {ys : List α} (hreads : source.Reads s pageSize f xs)
    (hpageSize : pageSize ≠ 0) (hmax : xs.length ≤ pageSize * maxPage) (h : xs.mapM f = .ok ys) :
    ∃ n, collect source pageSize s = (.ok ys, source.after pageSize s n) := by
  have hlength : xs.length = ys.length := (mapM_eq_ok_iff.mp h).length_eq
  have hserves : source.Serves s pageSize pageSize (some ys.length) ys := by
    intro n hn
    rw [hreads n hn, mapM_slice h, hlength]
    rfl
  exact ⟨_, collect_of_total hserves hpageSize (Nat.pos_of_ne_zero hpageSize) (hlength ▸ hmax)⟩

/-- A list that cannot be read is collected up to the page that cannot, and its error is the one
of the list. -/
theorem collect_of_mapM_error {e : ε} (hreads : source.Reads s pageSize f xs)
    (hpageSize : pageSize ≠ 0) (hmax : xs.length ≤ pageSize * maxPage)
    (h : xs.mapM f = .error e) :
    ∃ page n, collect source pageSize s = (.error (.fetch page e), source.after pageSize s n) := by
  have hsize : 0 < pageSize := Nat.pos_of_ne_zero hpageSize
  obtain ⟨n, ys, hys, herror⟩ := exists_slice_error hsize h
  -- The page that fails holds an item, so the pages before it are full.
  have hshort : n * pageSize < xs.length := by
    by_contra hle
    rw [slice, Nat.add_sub_cancel, List.drop_of_length_le (Nat.le_of_not_lt hle),
      List.take_nil, List.mapM_nil] at herror
    exact absurd herror nofun
  have hn : n < maxPage := by
    by_contra hle
    have hpages := Nat.mul_le_mul_right pageSize (Nat.le_of_not_lt hle)
    rw [Nat.mul_comm] at hmax
    omega
  have hlength : ys.length = n * pageSize := by
    rw [← (mapM_eq_ok_iff.mp hys).length_eq, List.length_take,
      Nat.min_eq_left (Nat.le_of_lt hshort)]
  have hserves : ∀ i < n, (source (source.after pageSize s i) (i + 1) pageSize).1 =
      .ok ⟨slice pageSize (i + 1) ys, some xs.length⟩ := by
    intro i hi
    rw [hreads i (Nat.lt_trans hi hn), ← slice_take hi, mapM_slice hys]
    rfl
  refine ⟨n + 1, n + 1, ?_⟩
  rw [collect, if_neg hpageSize,
    collectFrom_full hserves hsize (Nat.le_of_eq hlength.symm) (fun _ ↦ hshort) hn,
    collectFrom_of_error (by rw [hreads n hn, herror]; rfl)]
  rfl

end

/-! ## The calls -/

/-- The whole of a list is collected, each item once and in order, from a server that caps the size
of its pages, and the pages are asked for one after the other from the first to the last. With a
total on every page these are the pages that hold the list, and at least one. Without a total, and
with a cap that does not cut pages short, they end with the first page that is not full. -/
theorem collect_recorded {source : Source σ α ε} {s : σ} {xs : List α} {pageSize cap : Nat}
    (hpageSize : 1 ≤ pageSize) (hcap : 1 ≤ cap) :
    (source.Serves s pageSize (min cap pageSize) (some xs.length) xs →
      xs.length ≤ min cap pageSize * maxPage →
      ∃ s', collect source.recorded pageSize (s, []) = (.ok xs, s',
        (List.range (max 1 (xs.length ⌈/⌉ min cap pageSize))).map fun i ↦ (i + 1, pageSize))) ∧
    (source.Serves s pageSize (min cap pageSize) none xs → pageSize ≤ cap →
      xs.length < pageSize * maxPage →
      ∃ s', collect source.recorded pageSize (s, []) = (.ok xs, s',
        (List.range (xs.length / pageSize + 1)).map fun i ↦ (i + 1, pageSize))) := by
  have hne : pageSize ≠ 0 := Nat.ne_of_gt hpageSize
  constructor
  · intro hserves hmax
    have hsize : 0 < min cap pageSize := Nat.lt_min.mpr ⟨hcap, hpageSize⟩
    refine ⟨source.after pageSize s (max 1 (xs.length ⌈/⌉ min cap pageSize)), ?_⟩
    rw [collect_of_total hserves.recorded hne hsize hmax, source.after_recorded]
  · intro hserves hle hmax
    rw [Nat.min_eq_right hle] at hserves
    refine ⟨source.after pageSize s (xs.length / pageSize + 1), ?_⟩
    rw [collect_of_no_total hserves.recorded hne hmax, source.after_recorded]

/-- A server that caps pages at three items and reports a total is asked three times for seven
items, and one that reports no total four times for six items in pages of two. -/
theorem collect_recorded_capped :
    let source (xs : List Nat) (size : Nat) (total : Option Nat) : Source Unit Nat Empty :=
      fun s page _ ↦ (.ok ⟨slice size page xs, total⟩, s)
    (∃ s', collect (source [1, 2, 3, 4, 5, 6, 7] 3 (some 7)).recorded 5 ((), []) =
      (.ok [1, 2, 3, 4, 5, 6, 7], s', [(1, 5), (2, 5), (3, 5)])) ∧
    (∃ s', collect (source [1, 2, 3, 4, 5, 6] 2 none).recorded 2 ((), []) =
      (.ok [1, 2, 3, 4, 5, 6], s', [(1, 2), (2, 2), (3, 2), (4, 2)])) := by
  intro source
  constructor
  · exact (collect_recorded (by decide : 1 ≤ 5) (by decide : 1 ≤ 3)).1
      (fun _ _ ↦ rfl) (by decide)
  · exact (collect_recorded (by decide : 1 ≤ 2) (by decide : 1 ≤ 9)).2
      (fun _ _ ↦ rfl) (by decide) (by decide)

end CloudControl.Pagination
