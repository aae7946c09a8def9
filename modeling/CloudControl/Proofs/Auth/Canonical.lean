import Mathlib.Data.List.Basic
import Mathlib.Data.List.Forall2
import CloudControl.Proofs.Auth.Parameters
import CloudControl.Proofs.Form

/-!
# Which requests share a canonical string

For names without separators the canonical string keeps everything of a request but the order in
which it came and the letter case of ASCII letters: `canonicalString_eq_iff`. In small letters the
canonical string is cut at its ampersands into pairs, and each pair at its only equals sign into
a name and a written value, which stands for the folded value.
-/

namespace CloudControl.Auth

open Text

/-- The name is ASCII and holds neither of the signs that separate names and values. -/
def IsPlainName (name : String) : Prop :=
  ∀ c ∈ name.toList, c.toNat < 128 ∧ c ≠ '=' ∧ c ≠ '&'

instance (name : String) : Decidable (IsPlainName name) :=
  List.decidableBAll (fun c : Char ↦ c.toNat < 128 ∧ c ≠ '=' ∧ c ≠ '&') name.toList

/-- Every parameter that is signed has a plain name. -/
def HasPlainNames (params : List Param) : Prop :=
  ∀ p ∈ params, isNamed signatureParam p = false → IsPlainName p.1

instance (params : List Param) : Decidable (HasPlainNames params) :=
  inferInstanceAs (Decidable (∀ p ∈ params, isNamed signatureParam p = false → IsPlainName p.1))

/-- Two parameters differ at most in the case of ASCII letters, in name and in value. -/
def SameFolded (p q : Param) : Prop :=
  eqFolded p.1 q.1 = true ∧ eqFolded p.2 q.2 = true

instance (p q : Param) : Decidable (SameFolded p q) :=
  inferInstanceAs (Decidable (eqFolded p.1 q.1 = true ∧ eqFolded p.2 q.2 = true))

/-- A parameter with the case of ASCII letters folded, in name and in value. -/
def foldParam (p : Param) : Param :=
  (foldCase p.1, foldCase p.2)

/-- Two parameters are the same up to letter case if they are folded to one. -/
theorem sameFolded_iff {p q : Param} : SameFolded p q ↔ foldParam p = foldParam q := by
  rw [SameFolded, foldParam, foldParam, Prod.mk.injEq, eqFolded_iff_foldCase,
    eqFolded_iff_foldCase]

/-- Parameters are the same up to letter case, position by position, if they are folded to one
list. -/
theorem forall₂_sameFolded_iff {ps qs : List Param} :
    List.Forall₂ SameFolded ps qs ↔ ps.map foldParam = qs.map foldParam := by
  have hsame : SameFolded = fun p q ↦ foldParam p = foldParam q := by
    funext p q
    exact propext sameFolded_iff
  rw [← List.forall₂_eq_eq_eq, List.forall₂_map_left_iff, List.forall₂_map_right_iff, hsame]

/-! ## One pair -/

/-- A parameter as it is signed: in small letters. -/
def foldedPair (p : Param) : List Char :=
  (canonicalPair p).map Char.toLower

/-- The name and the written value of a pair in small letters. -/
theorem foldedPair_eq (p : Param) : foldedPair p =
    p.1.toList.map Char.toLower ++ '=' :: (Form.encodeChars p.2).map Char.toLower := by
  rw [foldedPair, canonicalPair, List.map_append, List.map_cons]
  rfl

/-- A plain name in small letters holds no separator. -/
theorem separator_not_mem_name {name : String} (h : IsPlainName name) :
    '=' ∉ name.toList.map Char.toLower ∧ '&' ∉ name.toList.map Char.toLower := by
  rw [mem_map_toLower_iff (by decide), mem_map_toLower_iff (by decide)]
  constructor
  · intro hmem
    exact (h '=' hmem).2.1 rfl
  · intro hmem
    exact (h '&' hmem).2.2 rfl

/-- A written value in small letters holds no separator. -/
theorem separator_not_mem_value (value : String) :
    '=' ∉ (Form.encodeChars value).map Char.toLower ∧
      '&' ∉ (Form.encodeChars value).map Char.toLower := by
  rw [mem_map_toLower_iff (by decide), mem_map_toLower_iff (by decide)]
  constructor
  · intro hmem
    exact (Form.isFormChar_of_mem_encodeChars hmem).ne_separator.2 rfl
  · intro hmem
    exact (Form.isFormChar_of_mem_encodeChars hmem).ne_separator.1 rfl

/-- A pair in small letters is not empty, and holds no ampersand if its name is plain. -/
theorem ampersand_not_mem_foldedPair {p : Param} (h : IsPlainName p.1) :
    '&' ∉ foldedPair p ∧ foldedPair p ≠ [] := by
  rw [foldedPair_eq]
  refine ⟨?_, by simp⟩
  rw [List.mem_append, List.mem_cons]
  rintro (hmem | heq | hmem)
  · exact (separator_not_mem_name h).2 hmem
  · exact absurd heq (by decide)
  · exact (separator_not_mem_value p.2).2 hmem

/-- Two pairs with plain names are one in small letters if they are the same up to letter case. -/
theorem foldedPair_eq_iff {p q : Param} (hp : IsPlainName p.1) :
    foldedPair p = foldedPair q ↔ foldParam p = foldParam q := by
  rw [foldedPair_eq, foldedPair_eq,
    List.append_cons_inj_of_notMem (separator_not_mem_name hp).1 (separator_not_mem_value p.2).1,
    Form.map_toLower_encodeChars_inj, ← eqFolded_iff, ← sameFolded_iff, SameFolded]
  simp only [true_and]

/-! ## All pairs -/

/-- A pair with a plain name is ASCII. -/
theorem ascii_of_mem_canonicalPair {p : Param} (h : IsPlainName p.1) {c : Char}
    (hc : c ∈ canonicalPair p) : c.toNat < 128 := by
  rw [canonicalPair, List.mem_append, List.mem_cons] at hc
  rcases hc with hc | rfl | hc
  · exact (h c hc).1
  · decide
  · exact (Form.isFormChar_of_mem_encodeChars hc).ascii

/-- A parameter that is signed is one of the request. -/
theorem mem_signedParams {params : List Param} {p : Param} :
    p ∈ signedParams params ↔ p ∈ params ∧ isNamed signatureParam p = false := by
  rw [signedParams, (List.mergeSort_perm _ _).mem_iff, List.mem_filter, Bool.not_eq_true']

/-- The canonical string of a request with plain names joins its pairs in small letters. -/
theorem toList_canonicalString {params : List Param} (h : HasPlainNames params) :
    (canonicalString params).toList =
      List.intercalate ['&'] ((signedParams params).map foldedPair) := by
  have hascii : ∀ c ∈ List.intercalate ['&'] ((signedParams params).map canonicalPair),
      c.toNat < 128 := by
    intro c hc
    rcases mem_of_mem_intercalate hc with hc | ⟨pair, hpair, hc⟩
    · rw [List.mem_singleton.mp hc]
      decide
    · obtain ⟨p, hp, rfl⟩ := List.mem_map.mp hpair
      obtain ⟨hmem, hsigned⟩ := mem_signedParams.mp hp
      exact ascii_of_mem_canonicalPair (h p hmem hsigned) hc
  rw [canonicalString, lowercase_of_ascii (by simpa using hascii), toList_foldCase,
    String.toList_ofList, map_intercalate, List.map_map]
  rfl

/-- Two functions that tell the same parameters apart tell the same lists of them apart. -/
theorem map_eq_map_iff {α β γ : Type} {f : α → β} {g : α → γ} {xs ys : List α}
    (h : ∀ x ∈ xs, ∀ y, f x = f y ↔ g x = g y) :
    xs.map f = ys.map f ↔ xs.map g = ys.map g := by
  induction xs generalizing ys with
  | nil => cases ys <;> simp
  | cons x xs ih =>
    obtain ⟨hx, hxs⟩ := List.forall_mem_cons.mp h
    cases ys with
    | nil => simp
    | cons y ys =>
      rw [List.map_cons, List.map_cons, List.map_cons, List.map_cons, List.cons.injEq,
        List.cons.injEq, hx y, ih hxs]

/-- Requests with plain names share a canonical string if what is signed of them is folded to one
list. -/
theorem canonicalString_eq_iff_map {ps qs : List Param} (hps : HasPlainNames ps)
    (hqs : HasPlainNames qs) : canonicalString ps = canonicalString qs ↔
      (signedParams ps).map foldParam = (signedParams qs).map foldParam := by
  have hplain : ∀ {params : List Param}, HasPlainNames params →
      ∀ p ∈ signedParams params, IsPlainName p.1 := by
    intro params h p hp
    obtain ⟨hmem, hsigned⟩ := mem_signedParams.mp hp
    exact h p hmem hsigned
  have hparts : ∀ {params : List Param}, HasPlainNames params →
      ∀ pair ∈ (signedParams params).map foldedPair, '&' ∉ pair ∧ pair ≠ [] := by
    intro params h pair hpair
    obtain ⟨p, hp, rfl⟩ := List.mem_map.mp hpair
    exact ampersand_not_mem_foldedPair (hplain h p hp)
  rw [← String.toList_inj, toList_canonicalString hps, toList_canonicalString hqs,
    intercalate_inj (hparts hps) (hparts hqs),
    map_eq_map_iff fun p hp q ↦ foldedPair_eq_iff (hplain hps p hp)]

/-- What is signed is what is left of the parameters without the signature, in another order. -/
theorem signedParams_perm (params : List Param) :
    (signedParams params).Perm (without signatureParam params) :=
  List.mergeSort_perm _ _

/-- The parameters around one of another name are left around it. -/
theorem without_append_cons {name : String} {p : Param} (h : isNamed name p = false)
    (before after : List Param) :
    without name (before ++ p :: after) = without name before ++ p :: without name after := by
  rw [without_append]
  congr 1
  exact List.filter_cons_of_pos (by rw [h]; rfl)

/-- Requests that share a canonical string are made of the same folded parameters. -/
theorem folded_perm_of_eq {ps qs : List Param} (hps : HasPlainNames ps) (hqs : HasPlainNames qs)
    (h : canonicalString ps = canonicalString qs) :
    ((without signatureParam ps).map foldParam).Perm
      ((without signatureParam qs).map foldParam) := by
  have hp := (signedParams_perm ps).map foldParam
  have hq := (signedParams_perm qs).map foldParam
  rw [(canonicalString_eq_iff_map hps hqs).mp h] at hp
  exact hp.symm.trans hq

/-- A request with plain names is signed for what it says: requests share a canonical string if
what is left without the signatures, in the stable order of names, agrees position by position up
to the case of ASCII letters. So to change the value of a parameter by more than that, or to add
or remove a parameter, always changes the text that is signed. -/
theorem canonicalString_eq_iff {ps qs : List Param} (hps : HasPlainNames ps)
    (hqs : HasPlainNames qs) :
    (canonicalString ps = canonicalString qs ↔
      List.Forall₂ SameFolded (signedParams ps) (signedParams qs)) ∧
    (∀ before name value value' after, ps = before ++ (name, value) :: after →
      qs = before ++ (name, value') :: after → eqFolded name signatureParam = false →
      eqFolded value value' = false → canonicalString ps ≠ canonicalString qs) ∧
    (∀ before p after, ps = before ++ after → qs = before ++ p :: after →
      eqFolded p.1 signatureParam = false → canonicalString ps ≠ canonicalString qs) := by
  refine ⟨?_, ?_, ?_⟩
  · rw [canonicalString_eq_iff_map hps hqs, forall₂_sameFolded_iff]
  · rintro before name value value' after hp hq hname hvalue h
    have hperm := folded_perm_of_eq hps hqs h
    -- The order does not help: the other parameters are the same, so these two would be as well.
    rw [hp, hq, without_append_cons (p := (name, value)) hname,
      without_append_cons (p := (name, value')) hname, List.map_append, List.map_append,
      List.perm_append_left_iff, List.map_cons, List.map_cons] at hperm
    have hfold : foldParam (name, value) = foldParam (name, value') :=
      List.singleton_perm_singleton.mp ((List.perm_append_right_iff _).mp hperm)
    rw [(sameFolded_iff.mpr hfold).2] at hvalue
    exact absurd hvalue (by decide)
  · rintro before p after hp hq hname h
    have hlength := (folded_perm_of_eq hps hqs h).length_eq
    rw [hp, hq, without_append_cons hname, without_append] at hlength
    simp only [List.length_map, List.length_append, List.length_cons] at hlength
    omega

/-- The order in which a request names its parameters does not matter to what is signed, nor do
the letter case of ASCII letters and an old signature. The letter case of other letters does, and
so does a parameter without a name or a value. -/
theorem canonicalString_eq_reordered :
    HasPlainNames [("b", "x y&z=Ü"), ("a", "1"), ("Signature", "ä=&")] ∧
    HasPlainNames [("A", "1"), ("b", "X Y&Z=Ü")] ∧
    canonicalString [("b", "x y&z=Ü"), ("a", "1"), ("Signature", "ä=&")] =
      canonicalString [("A", "1"), ("b", "X Y&Z=Ü")] ∧
    canonicalString [("a", "1"), ("b", "Ü")] ≠ canonicalString [("a", "1"), ("b", "ü")] ∧
    canonicalString [] ≠ canonicalString [("", "")] := by
  have hps : HasPlainNames [("b", "x y&z=Ü"), ("a", "1"), ("Signature", "ä=&")] := by decide
  have hqs : HasPlainNames [("A", "1"), ("b", "X Y&Z=Ü")] := by decide
  refine ⟨hps, hqs, (canonicalString_eq_iff hps hqs).1.mpr ?_, ?_, ?_⟩
  · have hleft : signedParams [("b", "x y&z=Ü"), ("a", "1"), ("Signature", "ä=&")] =
        [("a", "1"), ("b", "x y&z=Ü")] := by
      rw [signedParams, show List.filter _ _ = [("b", "x y&z=Ü"), ("a", "1")] by decide]
      simp [List.mergeSort, nameOrder]
    have hright : signedParams [("A", "1"), ("b", "X Y&Z=Ü")] = [("A", "1"), ("b", "X Y&Z=Ü")] := by
      rw [signedParams, show List.filter _ _ = [("A", "1"), ("b", "X Y&Z=Ü")] by decide]
      exact List.mergeSort_of_pairwise (by decide)
    rw [hleft, hright]
    exact .cons (by decide) (.cons (by decide) .nil)
  · exact (canonicalString_eq_iff (by decide) (by decide)).2.1 [("a", "1")] "b" "Ü" "ü" []
      rfl rfl (by decide) (by decide)
  · exact (canonicalString_eq_iff (by decide) (by decide)).2.2 [] ("", "") [] rfl rfl (by decide)

end CloudControl.Auth
