import CloudControl.Options.Builders
import CloudControl.Proofs.Options

/-!
# Lists that are set again

A list of texts is joined in one parameter, so another list that is set later replaces it. A list of
pairs is spread over numbered parameters, and a later one is written over them (`overlaid`): where
the earlier list was longer, its last pairs stay. `HoldsPairs` says which pairs parameters hold;
`holdsPairs_call` follows them through one call of any setter, and `holdsPairs_build` through all
the calls that build a set of options. `call_call_of_list` tells when a list that is set twice is
as if only the second had been set.
-/

namespace CloudControl

open Encoding

/-- The pairs that are left when a list is written over another one. -/
def overlaid (before after : List (String × String)) : List (String × String) :=
  after ++ before.drop after.length

/-- A pair of the later list, or of the earlier one where the later one has ended. -/
theorem getElem?_overlaid (before after : List (String × String)) (i : Nat) :
    (overlaid before after)[i]? = after[i]?.or before[i]? := by
  rw [overlaid]
  rcases Nat.lt_or_ge i after.length with hlt | hge
  · rw [List.getElem?_append_left hlt, List.getElem?_eq_getElem hlt, Option.some_or]
  · rw [List.getElem?_append_right hge, List.getElem?_drop, Nat.add_sub_cancel' hge,
      List.getElem?_eq_none hge, Option.none_or]

namespace Encoding

variable {list first second : String}

/-- The parameters of the pairs of a list are their members, numbered from zero. -/
theorem mem_indexedParams_zero_iff {items : List (String × String)} {p : Param} :
    p ∈ indexedParams list first second 0 items ↔ ∃ i x, items[i]? = some x ∧
      (p = (itemParam list first i, x.1) ∨ p = (itemParam list second i, x.2)) := by
  rw [mem_indexedParams_iff]
  simp only [Nat.zero_add]

/-- The members of a pair are found under its number. -/
theorem lookup_indexedParams (list : String) (hne : first ≠ second)
    (items : List (String × String)) (i : Nat) :
    (indexedParams list first second 0 items).lookup (itemParam list first i) =
        items[i]?.map Prod.fst ∧
      (indexedParams list first second 0 items).lookup (itemParam list second i) =
        items[i]?.map Prod.snd := by
  have hnames : ((indexedParams list first second 0 items).map Prod.fst).Nodup :=
    List.pairwise_map.mpr (pairwise_indexedParams hne 0 items)
  cases hx : items[i]? with
  | some x =>
    exact ⟨lookup_of_mem hnames (mem_indexedParams_zero_iff.mpr ⟨i, x, hx, .inl rfl⟩),
      lookup_of_mem hnames (mem_indexedParams_zero_iff.mpr ⟨i, x, hx, .inr rfl⟩)⟩
  | none =>
    have hnone : ∀ member,
        (indexedParams list first second 0 items).lookup (itemParam list member i) = none := by
      intro member
      refine List.lookup_eq_none_iff.mpr fun e he ↦ bne_iff_ne.mpr fun heq ↦ ?_
      obtain ⟨j, x, hj, rfl | rfl⟩ := mem_indexedParams_zero_iff.mp he
      all_goals
        rw [← (itemParam_inj heq).1, hx] at hj
        cases hj
    exact ⟨hnone first, hnone second⟩

end Encoding

namespace Params

variable {list first second : String} {p : Params} {zs : List (String × String)}

/-- Under the numbers of a list, parameters hold the members of these pairs and nothing else. -/
def HoldsPairs (p : Params) (list first second : String) (items : List (String × String)) : Prop :=
  ∀ i, p.get? (itemParam list first i) = items[i]?.map Prod.fst ∧
    p.get? (itemParam list second i) = items[i]?.map Prod.snd

/-- A list of pairs is written over the pairs that were held before. -/
theorem holdsPairs_setAll (hne : first ≠ second) (h : p.HoldsPairs list first second zs)
    (ys : List (String × String)) :
    (p.setAll (indexedParams list first second 0 ys)).HoldsPairs list first second
      (overlaid zs ys) := by
  intro i
  have hnames : (indexedParams list first second 0 ys).Pairwise fun p q ↦ p.1 ≠ q.1 :=
    pairwise_indexedParams hne 0 ys
  obtain ⟨hfirst, hsecond⟩ := lookup_indexedParams list hne ys i
  rw [get?_setAll hnames, get?_setAll hnames, hfirst, hsecond, (h i).1, (h i).2,
    getElem?_overlaid, Option.map_or, Option.map_or]
  exact ⟨rfl, rfl⟩

/-- A list of pairs leaves all other names alone. -/
theorem get?_setAll_indexedParams_of_ne (hne : first ≠ second) {other : String}
    (h : ∀ i, other ≠ itemParam list first i ∧ other ≠ itemParam list second i) (p : Params)
    (ys : List (String × String)) :
    (p.setAll (indexedParams list first second 0 ys)).get? other = p.get? other := by
  have hnone : (indexedParams list first second 0 ys).lookup other = none := by
    refine List.lookup_eq_none_iff.mpr fun e he ↦ bne_iff_ne.mpr ?_
    obtain ⟨i, x, _, rfl | rfl⟩ := mem_indexedParams_zero_iff.mp he
    · exact (h i).1
    · exact (h i).2
  rw [get?_setAll (pairwise_indexedParams hne 0 ys), hnone, Option.none_or]

/-- A list of pairs that is set before another one leaves no trace, just if its pairs beyond the
end of the other one were there before. -/
theorem setAll_indexedParams_eq_iff (hne : first ≠ second) (p : Params)
    (xs ys : List (String × String)) :
    (p.setAll (indexedParams list first second 0 xs)).setAll
        (indexedParams list first second 0 ys) = p.setAll (indexedParams list first second 0 ys) ↔
      ∀ i x, ys.length ≤ i → xs[i]? = some x →
        p.get? (itemParam list first i) = some x.1 ∧
          p.get? (itemParam list second i) = some x.2 := by
  rw [setAll_setAll_eq_iff (pairwise_indexedParams hne 0 xs) (pairwise_indexedParams hne 0 ys)]
  have hlookup := lookup_indexedParams list hne ys
  constructor
  · intro h i x hend hx
    have hends : ys[i]? = none := List.getElem?_eq_none hend
    exact ⟨h _ (mem_indexedParams_zero_iff.mpr ⟨i, x, hx, .inl rfl⟩)
        (by rw [(hlookup i).1, hends, Option.map_none]),
      h _ (mem_indexedParams_zero_iff.mpr ⟨i, x, hx, .inr rfl⟩)
        (by rw [(hlookup i).2, hends, Option.map_none])⟩
  · intro h e he hnone
    obtain ⟨i, x, hx, rfl | rfl⟩ := mem_indexedParams_zero_iff.mp he
    · rw [(hlookup i).1, Option.map_eq_none_iff, List.getElem?_eq_none_iff] at hnone
      exact (h i x hnone hx).1
    · rw [(hlookup i).2, Option.map_eq_none_iff, List.getElem?_eq_none_iff] at hnone
      exact (h i x hnone hx).2

/-- Over pairs that are not more than those of the second list, the first one leaves no trace just
if it is not longer than the second. -/
theorem HoldsPairs.setAll_eq_iff (hne : first ≠ second) (h : p.HoldsPairs list first second zs)
    {xs ys : List (String × String)} (hlength : zs.length ≤ ys.length) :
    (p.setAll (indexedParams list first second 0 xs)).setAll
        (indexedParams list first second 0 ys) = p.setAll (indexedParams list first second 0 ys) ↔
      xs.length ≤ ys.length := by
  rw [setAll_indexedParams_eq_iff hne]
  constructor
  · intro hleft
    by_contra hlonger
    have hlt : ys.length < xs.length := by omega
    have hheld := (hleft ys.length _ (Nat.le_refl _) (List.getElem?_eq_getElem hlt)).1
    rw [(h ys.length).1, List.getElem?_eq_none hlength] at hheld
    cases hheld
  · intro hle i x hend hx
    rw [List.getElem?_eq_none (Nat.le_trans hle hend)] at hx
    cases hx

end Params

namespace Options

/-! ## One call after another -/

/-- The setter spreads a list of pairs over numbered parameters. -/
def Setter.isIndexed (s : Setter) : Bool :=
  match s.encoding with
  | .indexed _ _ _ => true
  | _ => false

/-- The pairs that are held under the numbers of a setter after a call. -/
def Setter.heldAfter (s : Setter) (held : List (String × String)) :
    String × Argument → List (String × String)
  | (name, .pairs items) => if name = s.name then overlaid held items else held
  | _ => held

namespace Builder

variable {b : Builder} {s : Setter} {list first second : String}

/-- No setter writes two parameters of one name. -/
theorem isDistinct_of_mem_all : ∀ b ∈ all, ∀ s ∈ b.setters, s.encoding.isDistinct = true := by
  decide +kernel

/-- The two members of a pair have different names. -/
theorem ne_of_indexed (hb : b ∈ all) (hs : s ∈ b.setters)
    (hlist : s.encoding = .indexed list first second) : first ≠ second := by
  have hdistinct := isDistinct_of_mem_all b hb s hs
  rw [hlist] at hdistinct
  exact bne_iff_ne.mp hdistinct

/-- Where a setter writes numbered parameters, no other setter has its name or writes parameters
that could be taken for them. -/
theorem stems_of_isIndexed : ∀ b ∈ all, ∀ s ∈ b.setters, s.isIndexed = true → ∀ t ∈ b.setters,
    t = s ∨ t.name ≠ s.name ∧ ∀ stem ∈ s.encoding.stems, stem ∉ t.encoding.stems := by
  decide +kernel

/-- A call of a setter sets the parameters of its argument. -/
theorem call_eq {name : String} (hs : b.setter? name = some s) (arg : Argument) (p : Params) :
    b.call name arg p = p.setAll (s.encoding.write arg) := by
  rw [call, hs]
  rfl

/-- A call of a setter leaves the names alone whose stems it does not write. -/
theorem get?_call_of_stem (hb : b ∈ all) {name other : String} (hs : b.setter? name = some s)
    (hother : stem other ∉ s.encoding.stems) (arg : Argument) (p : Params) :
    (b.call name arg p).get? other = p.get? other := by
  have hnone : (s.encoding.write arg).lookup other = none := by
    refine List.lookup_eq_none_iff.mpr fun e he ↦ bne_iff_ne.mpr ?_
    rintro rfl
    exact hother (stem_mem_of_mem_write he)
  have hdistinct := isDistinct_of_mem_all b hb s (List.mem_of_find?_eq_some hs)
  rw [call_eq hs, Params.get?_setAll (pairwise_write hdistinct arg), hnone, Option.none_or]

/-- A call under another name leaves the pairs that are held. -/
theorem heldAfter_of_ne {name : String} (h : name ≠ s.name) (held : List (String × String))
    (arg : Argument) : s.heldAfter held (name, arg) = held := by
  cases arg with
  | pairs items => exact if_neg h
  | _ => rfl

/-- A call of any setter leaves the pairs that `heldAfter` says. -/
theorem holdsPairs_call (hb : b ∈ all) (hs : s ∈ b.setters)
    (hlist : s.encoding = .indexed list first second) {p : Params}
    {held : List (String × String)} (h : p.HoldsPairs list first second held)
    (name : String) (arg : Argument) :
    (b.call name arg p).HoldsPairs list first second (s.heldAfter held (name, arg)) := by
  have hne := ne_of_indexed hb hs hlist
  have hindexed : s.isIndexed = true := by rw [Setter.isIndexed, hlist]
  cases hfind : b.setter? name with
  | none =>
    have hother : name ≠ s.name := fun heq ↦
      List.find?_eq_none.mp hfind s hs (beq_iff_eq.mpr heq.symm)
    rw [heldAfter_of_ne hother, call, hfind]
    exact h
  | some t =>
    have ht : t ∈ b.setters := List.mem_of_find?_eq_some hfind
    have hname : t.name = name := by
      have hfound := List.find?_some (p := fun u : Setter ↦ u.name == name) hfind
      exact beq_iff_eq.mp hfound
    rcases stems_of_isIndexed b hb s hs hindexed t ht with rfl | ⟨hother, hstems⟩
    · rw [call_eq hfind, hlist]
      cases arg with
      | pairs ys =>
        rw [Setter.heldAfter, if_pos hname.symm]
        exact Params.holdsPairs_setAll hne h ys
      | _ => exact h
    · rw [heldAfter_of_ne (hname ▸ hother)]
      have hkept : ∀ member i, (b.call name arg p).get? (itemParam list member i) =
          p.get? (itemParam list member i) := by
        intro member i
        refine get?_call_of_stem hb hfind (fun hmem ↦ ?_) arg p
        rw [stem_itemParam] at hmem
        exact hstems (stem list) (by rw [hlist]; exact List.mem_singleton_self _) hmem
      intro i
      rw [hkept, hkept]
      exact h i

/-- The options that some calls have built hold the pairs of the list setter in these calls, each
list written over the ones before it. -/
theorem holdsPairs_build (hb : b ∈ all) (hs : s ∈ b.setters)
    (hlist : s.encoding = .indexed list first second) (calls : List (String × Argument)) :
    (b.build calls).HoldsPairs list first second (calls.foldl s.heldAfter []) := by
  -- The calls so far have left the pairs that the fold has come to.
  suffices hstep : ∀ (calls : List (String × Argument)) (p : Params)
      (held : List (String × String)), p.HoldsPairs list first second held →
      (calls.foldl (fun p call ↦ b.call call.1 call.2 p) p).HoldsPairs list first second
        (calls.foldl s.heldAfter held) from
    hstep calls ∅ [] fun _ ↦ ⟨rfl, rfl⟩
  intro calls
  induction calls with
  | nil => exact fun _ _ h ↦ h
  | cons call rest ih =>
    intro p held h
    exact ih _ _ (holdsPairs_call hb hs hlist h call.1 call.2)

/-! ## One list after another -/

/-- Two calls of a setter, one after the other. -/
def callTwice (b : Builder) (name : String) (before after : Argument) (p : Params) : Params :=
  b.call name after (b.call name before p)

/-- For every set of options, every setter of a list and whatever parameters are set already: a
list of texts replaces the one that was set before it. A list of pairs replaces it just if the
pairs that the first list has beyond the end of the second were there before either of them, which
for options that hold no more pairs than the second list is to say that the first list is not
longer. Otherwise the last pairs of the first list stay. No other parameter changes. -/
theorem call_call_of_list (hb : b ∈ all) {name : String} (hs : b.setter? name = some s)
    (o : Params) :
    (∀ param, s.encoding = .joined param → ∀ xs ys : List String,
      b.callTwice name (.texts xs) (.texts ys) o = b.call name (.texts ys) o ∧
        ∀ other, (b.call name (.texts ys) o).get? other =
          if other = param then some (joinTexts ys) else o.get? other) ∧
    ∀ list first second, s.encoding = .indexed list first second →
      ∀ xs ys : List (String × String),
        (b.callTwice name (.pairs xs) (.pairs ys) o = b.call name (.pairs ys) o ↔
          ∀ i x, ys.length ≤ i → xs[i]? = some x →
            o.get? (itemParam list first i) = some x.1 ∧
              o.get? (itemParam list second i) = some x.2) ∧
        (∀ zs, o.HoldsPairs list first second zs →
          (b.callTwice name (.pairs xs) (.pairs ys) o).HoldsPairs list first second
              (overlaid (overlaid zs xs) ys) ∧
            (zs.length ≤ ys.length →
              (b.callTwice name (.pairs xs) (.pairs ys) o = b.call name (.pairs ys) o ↔
                xs.length ≤ ys.length))) ∧
        ∀ other, (∀ i, other ≠ itemParam list first i ∧ other ≠ itemParam list second i) →
          (b.callTwice name (.pairs xs) (.pairs ys) o).get? other = o.get? other := by
  have hmem : s ∈ b.setters := List.mem_of_find?_eq_some hs
  refine ⟨fun param hparam xs ys ↦ ?_, fun list first second hlist xs ys ↦ ?_⟩
  · have hcall : ∀ (zs : List String) (p : Params),
        b.call name (.texts zs) p = p.set param (joinTexts zs) := by
      intro zs p
      rw [call_eq hs, hparam]
      rfl
    rw [callTwice, hcall, hcall, hcall]
    refine ⟨Params.ext_get? fun other ↦ ?_, Params.get?_set o param (joinTexts ys)⟩
    rw [Params.get?_set, Params.get?_set, Params.get?_set]
    split <;> rfl
  · have hne := ne_of_indexed hb hmem hlist
    have hcall : ∀ (zs : List (String × String)) (p : Params),
        b.call name (.pairs zs) p = p.setAll (indexedParams list first second 0 zs) := by
      intro zs p
      rw [call_eq hs, hlist]
      rfl
    rw [callTwice, hcall, hcall, hcall]
    refine ⟨Params.setAll_indexedParams_eq_iff hne o xs ys, fun zs h ↦ ⟨?_, ?_⟩, ?_⟩
    · exact Params.holdsPairs_setAll hne (Params.holdsPairs_setAll hne h xs) ys
    · exact h.setAll_eq_iff hne
    · intro other hother
      rw [Params.get?_setAll_indexedParams_of_ne hne hother,
        Params.get?_setAll_indexedParams_of_ne hne hother]

/-- Deleting two tags and then one of them, another one in place of a tag, and admitting one network
in place of two. -/
theorem call_call_of_list_deleteTags :
    (deleteTags.callTwice "tags" (.pairs [("env", "prod"), ("owner", "ops")])
        (.pairs [("env", "prod")]) ∅).HoldsPairs "tags" "key" "value"
      [("env", "prod"), ("owner", "ops")] ∧
    deleteTags.callTwice "tags" (.pairs [("env", "test")]) (.pairs [("env", "prod")]) ∅ =
      deleteTags.call "tags" (.pairs [("env", "prod")]) ∅ ∧
    authorizeIngress.callTwice "cidrList" (.texts ["10.0.0.0/8", "1.1.1.1/32"])
        (.texts ["2.2.2.2/16"]) ∅ = authorizeIngress.call "cidrList" (.texts ["2.2.2.2/16"]) ∅ := by
  have htags : deleteTags.setter? "tags" = some Setter.tags := rfl
  have hcidr : authorizeIngress.setter? "cidrList" = some (Setter.joined "cidrList" "cidrlist") :=
    by decide +kernel
  have hempty : Params.HoldsPairs ∅ "tags" "key" "value" [] := fun _ ↦ ⟨rfl, rfl⟩
  have hpairs := (call_call_of_list (by decide +kernel) htags ∅).2 "tags" "key" "value" rfl
  have htexts := (call_call_of_list (by decide +kernel) hcidr ∅).1 "cidrlist" rfl
  exact ⟨((hpairs [("env", "prod"), ("owner", "ops")] [("env", "prod")]).2.1 [] hempty).1,
    (((hpairs [("env", "test")] [("env", "prod")]).2.1 [] hempty).2 (by decide)).mpr (by decide),
    (htexts ["10.0.0.0/8", "1.1.1.1/32"] ["2.2.2.2/16"]).1⟩

/-- The tag that is left out the second time is still deleted. -/
theorem callTwice_deleteTags_ne :
    deleteTags.callTwice "tags" (.pairs [("env", "prod"), ("owner", "ops")])
        (.pairs [("env", "prod")]) ∅ ≠ deleteTags.call "tags" (.pairs [("env", "prod")]) ∅ ∧
      (deleteTags.callTwice "tags" (.pairs [("env", "prod"), ("owner", "ops")])
        (.pairs [("env", "prod")]) ∅).get? "tags[1].key" = some "owner" := by
  decide +kernel

end Builder

end Options

end CloudControl
