import CloudControl.Options.Builder
import CloudControl.Proofs.Params
import CloudControl.Proofs.Text.Numeral

/-!
# The names that arguments are written under

An encoding writes an argument under its own names, or under numbered ones that share what stands
before the number. This `stem` is all that is needed to tell the parameters of different arguments
apart: whatever the argument is, its parameters have the stems of the encoding
(`Encoding.stem_mem_of_mem_write`), and no two of them have one name
(`Encoding.pairwise_write`). Options that are set one after the other have the stems of the setters
(`Options.Builder.stem_mem_of_mem_build`).
-/

namespace CloudControl

/-- What stands before the number in the name of a parameter, or all of a name without one. -/
def stem (name : String) : List Char :=
  name.toList.takeWhile (· != '[')

namespace Encoding

/-- The name that an encoding writes, if it is the only one. -/
def name? : Encoding → Option String
  | plain param | switch param | choice _ param | codeName _ param | joined param | time param
  | base64 param => some param
  | two _ _ | indexed _ _ _ => none

/-- The stems of the names that an encoding writes. -/
def stems : Encoding → List (List Char)
  | plain param | switch param | choice _ param | codeName _ param | joined param | time param
  | base64 param => [stem param]
  | two first second => [stem first, stem second]
  | indexed list _ _ => [stem list]

/-- An encoding that writes two parameters writes them under two names. -/
def isDistinct : Encoding → Bool
  | two first second => first != second
  | indexed _ first second => first != second
  | _ => true

/-! ## Numbered names -/

/-- The characters of a numbered name. -/
theorem toList_itemParam (list member : String) (index : Nat) :
    (itemParam list member index).toList =
      list.toList ++ '[' :: ((Text.Numeral.ofNat index).toList ++ ']' :: '.' :: member.toList) := by
  simp [itemParam]

/-- The stem of a numbered name is the one of the list. -/
theorem stem_itemParam (list member : String) (index : Nat) :
    stem (itemParam list member index) = stem list := by
  rw [stem, stem, toList_itemParam, List.takeWhile_append]
  split
  · next hall =>
    rw [List.takeWhile_cons_of_neg (by decide), List.append_nil]
    exact ((List.takeWhile_prefix _).eq_of_length hall).symm
  · rfl

/-- A numbered name tells its number and its member. -/
theorem itemParam_inj {list first second : String} {i j : Nat}
    (h : itemParam list first i = itemParam list second j) : i = j ∧ first = second := by
  -- The number ends before the closing bracket, which is no digit.
  have hclosed : ∀ n rest, ((Text.Numeral.ofNat n).toList ++ ']' :: rest).takeWhile (· != ']') =
      (Text.Numeral.ofNat n).toList := by
    intro n rest
    have hdigits : ∀ c ∈ (Text.Numeral.ofNat n).toList, (c != ']') = true := by
      intro c hc
      refine bne_iff_ne.mpr fun heq ↦ ?_
      exact absurd (heq ▸ Text.Numeral.isDigit_of_mem_ofNat hc) (by decide)
    rw [List.takeWhile_append_of_pos hdigits, List.takeWhile_cons_of_neg (by decide),
      List.append_nil]
  have htail := congrArg String.toList h
  rw [toList_itemParam, toList_itemParam, List.append_cancel_left_eq, List.cons.injEq] at htail
  have hdigits := congrArg (List.takeWhile (· != ']')) htail.2
  rw [hclosed, hclosed] at hdigits
  have hmember := htail.2
  rw [hdigits, List.append_cancel_left_eq, List.cons.injEq, List.cons.injEq,
    String.toList_inj] at hmember
  have hindex := congrArg (Text.Numeral.valueFrom 0) hdigits
  rw [Text.Numeral.valueFrom_ofNat, Text.Numeral.valueFrom_ofNat] at hindex
  exact ⟨hindex, hmember.2.2⟩

/-- The parameters of the pairs of a list are their members, with numbers from the first one on. -/
theorem mem_indexedParams_iff {list first second : String} {start : Nat}
    {items : List (String × String)} {p : Param} :
    p ∈ indexedParams list first second start items ↔ ∃ i x, items[i]? = some x ∧
      (p = (itemParam list first (start + i), x.1) ∨
        p = (itemParam list second (start + i), x.2)) := by
  induction items generalizing start with
  | nil => simp [indexedParams]
  | cons item rest ih =>
    simp only [indexedParams, List.mem_cons, ih]
    constructor
    · rintro (rfl | rfl | ⟨i, x, hx, hp⟩)
      · exact ⟨0, item, rfl, .inl rfl⟩
      · exact ⟨0, item, rfl, .inr rfl⟩
      · rw [Nat.add_assoc, Nat.add_comm 1 i] at hp
        exact ⟨i + 1, x, hx, hp⟩
    · rintro ⟨i, x, hx, hp⟩
      cases i with
      | zero =>
        cases hx
        exact hp.imp_right .inl
      | succ i =>
        rw [Nat.add_comm i 1, ← Nat.add_assoc] at hp
        exact .inr (.inr ⟨i, x, hx, hp⟩)

/-- No two parameters of the pairs of a list have one name. -/
theorem pairwise_indexedParams {list first second : String} (hne : first ≠ second) (start : Nat)
    (items : List (String × String)) :
    (indexedParams list first second start items).Pairwise fun p q ↦ p.1 ≠ q.1 := by
  induction items generalizing start with
  | nil => exact .nil
  | cons item rest ih =>
    have hlater : ∀ member, ∀ p ∈ indexedParams list first second (start + 1) rest,
        itemParam list member start ≠ p.1 := by
      intro member p hp heq
      obtain ⟨i, x, _, rfl | rfl⟩ := mem_indexedParams_iff.mp hp
      all_goals
        have hindex := (itemParam_inj heq).1
        omega
    refine .cons (List.forall_mem_cons.mpr ⟨fun heq ↦ hne (itemParam_inj heq).2, hlater first⟩)
      (.cons (hlater second) (ih (start + 1)))

/-! ## All encodings -/

/-- An encoding with one name writes one parameter, or none. -/
theorem write_of_name? {e : Encoding} {param : String} (h : e.name? = some param)
    (arg : Argument) : e.write arg = [] ∨ ∃ value, e.write arg = [(param, value)] := by
  unfold write
  split <;> first | exact .inl rfl | (cases h <;> exact .inr ⟨_, rfl⟩)

/-- Every parameter of an argument has a stem of its encoding. -/
theorem stem_mem_of_mem_write {e : Encoding} {arg : Argument} {p : Param} (h : p ∈ e.write arg) :
    stem p.1 ∈ e.stems := by
  cases hname : e.name? with
  | some param =>
    have hstems : e.stems = [stem param] := by cases e <;> cases hname <;> rfl
    rcases write_of_name? hname arg with hwrite | ⟨value, hwrite⟩
    · rw [hwrite] at h
      exact absurd h List.not_mem_nil
    · rw [hwrite] at h
      rw [hstems, List.mem_singleton.mp h]
      exact List.mem_singleton_self _
  | none =>
    cases e with
    | indexed list first second =>
      cases arg with
      | pairs items =>
        obtain ⟨i, x, _, rfl | rfl⟩ := mem_indexedParams_iff.mp h
        all_goals
          rw [stem_itemParam]
          exact List.mem_singleton_self _
      | text | flag | whole | decimal | two | texts | date | time | octets =>
        exact absurd h List.not_mem_nil
    | two first second =>
      cases arg with
      | two a b =>
        rcases List.mem_pair.mp h with rfl | rfl
        · exact List.mem_cons_self
        · exact List.mem_cons_of_mem _ (List.mem_singleton_self _)
      | text | flag | whole | decimal | texts | pairs | date | time | octets =>
        exact absurd h List.not_mem_nil
    | plain | switch | choice | codeName | joined | time | base64 => cases hname

/-- No two parameters of an argument have one name. -/
theorem pairwise_write {e : Encoding} (he : e.isDistinct = true) (arg : Argument) :
    (e.write arg).Pairwise fun p q ↦ p.1 ≠ q.1 := by
  cases hname : e.name? with
  | some param =>
    rcases write_of_name? hname arg with hwrite | ⟨value, hwrite⟩
    · rw [hwrite]
      exact .nil
    · rw [hwrite]
      exact List.pairwise_singleton _ _
  | none =>
    cases e with
    | indexed list first second =>
      cases arg with
      | pairs items => exact pairwise_indexedParams (bne_iff_ne.mp he) 0 items
      | text | flag | whole | decimal | two | texts | date | time | octets => exact .nil
    | two first second =>
      cases arg with
      | two a b => exact List.pairwise_pair.mpr (bne_iff_ne.mp he)
      | text | flag | whole | decimal | texts | pairs | date | time | octets => exact .nil
    | plain | switch | choice | codeName | joined | time | base64 => cases hname

end Encoding

namespace Options.Builder

/-- The parameters of some calls of setters, one after the other. -/
def build (b : Builder) (calls : List (String × Argument)) : Params :=
  calls.foldl (fun p call ↦ b.call call.1 call.2 p) ∅

/-- The stems of the names that the setters write. -/
def stems (b : Builder) : List (List Char) :=
  b.setters.flatMap (·.encoding.stems)

/-- A call sets parameters with stems of the setters. -/
theorem stem_mem_of_mem_call {b : Builder} {name : String} {arg : Argument} {q : Params}
    {p : Param} (h : p ∈ (b.call name arg q).entries) : stem p.1 ∈ b.stems ∨ p ∈ q.entries := by
  unfold call at h
  split at h
  · next s hs =>
    have hmem : s ∈ b.setters := List.mem_of_find?_eq_some hs
    rcases Params.mem_setAll h with hwritten | hbefore
    · exact .inl (List.mem_flatMap.mpr ⟨s, hmem, Encoding.stem_mem_of_mem_write hwritten⟩)
    · exact .inr hbefore
  · exact .inr h

/-- Options have parameters with stems of the setters. -/
theorem stem_mem_of_mem_build {b : Builder} {calls : List (String × Argument)} {p : Param}
    (h : p ∈ (b.build calls).entries) : stem p.1 ∈ b.stems := by
  -- The calls so far have set such parameters only.
  suffices hstep : ∀ (calls : List (String × Argument)) (q : Params),
      (∀ p ∈ q.entries, stem p.1 ∈ b.stems) →
      ∀ p ∈ (calls.foldl (fun p call ↦ b.call call.1 call.2 p) q).entries, stem p.1 ∈ b.stems from
    hstep calls ∅ nofun p h
  intro calls
  induction calls with
  | nil => exact fun _ hq ↦ hq
  | cons call rest ih =>
    intro q hq
    exact ih _ fun p hp ↦ (stem_mem_of_mem_call hp).elim id (hq p)

end Options.Builder

end CloudControl
