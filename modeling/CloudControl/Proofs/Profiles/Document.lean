import CloudControl.Profiles.Profile
import CloudControl.Proofs.Except
import CloudControl.Proofs.Json.RoundTrip

/-!
# Settings documents are read back as they were written

An object of texts is written with each member on a line of its own. If every member is a field of
a document, no field comes twice and no required one is missing, the document is read from that
text with the members in their order (`Document.read_pretty`). Profiles and selections are written
in this way, whatever their texts are.
-/

namespace CloudControl

open Json

/-! ## Blanks -/

/-- A blank is skipped. -/
theorem Json.skip_blank {c : Char} (h : isSpace c = true) (cs : List Char) :
    skip (c :: cs) = skip cs :=
  List.dropWhile_cons_of_pos h

/-- A line break is skipped. -/
theorem Json.skip_lineBreak (level : Nat) (cs : List Char) :
    skip ((lineBreak level).toList ++ cs) = skip cs := by
  rw [lineBreak, String.toList_ofList, skip, List.dropWhile_append_of_pos]
  · rfl
  · intro c hc
    rcases List.mem_cons.mp hc with rfl | hc
    · rfl
    · rw [List.eq_of_mem_replicate hc]
      rfl

/-- A quote is not skipped. -/
theorem Json.skip_quote (s : String) (cs : List Char) :
    skip ((quote s).toList ++ cs) = '"' :: (s.toList.flatMap escapeChar ++ '"' :: cs) := by
  rw [toList_quote, List.cons_append, skip_cons rfl, List.append_assoc]
  rfl

/-! ## Members -/

/-- Members that hold texts. -/
def textMembers (texts : List (String × String)) : List (String × Json) :=
  texts.map fun t ↦ (t.1, .string t.2)

/-- The texts of fields that all have one. -/
def givenTexts (texts : List (String × String)) : DocumentTexts :=
  texts.map fun t ↦ (t.1, some t.2)

/-- A member as it is written. -/
def memberText (t : String × String) : List Char :=
  (quote t.1).toList ++ ':' :: ' ' :: (quote t.2).toList

/-- The written form of an object of texts that is not empty. -/
theorem toList_pretty_object (t : String × String) (rest : List (String × String)) :
    (object (textMembers (t :: rest))).pretty.toList =
      '\x7b' :: ((lineBreak 1).toList ++ (memberText t ++
        ((prettyMembers 1 (textMembers rest)).toList ++ ((lineBreak 0).toList ++ ['\x7d'])))) := by
  have hopen : "\x7b".toList = ['\x7b'] := rfl
  have hcolon : ": ".toList = [':', ' '] := rfl
  have hclose : "\x7d".toList = ['\x7d'] := rfl
  show (prettyAt 0 (object ((t.1, .string t.2) :: textMembers rest))).toList = _
  simp only [prettyAt, String.toList_append, memberText, List.append_assoc, hopen, hcolon, hclose,
    List.cons_append, List.nil_append]

/-- The written form of further members. -/
theorem toList_prettyMembers_cons (level : Nat) (t : String × String)
    (rest : List (String × String)) :
    (prettyMembers level (textMembers (t :: rest))).toList =
      ',' :: ((lineBreak level).toList ++ (memberText t ++
        (prettyMembers level (textMembers rest)).toList)) := by
  have hcomma : ",".toList = [','] := rfl
  have hcolon : ": ".toList = [':', ' '] := rfl
  show (prettyMembers level ((t.1, .string t.2) :: textMembers rest)).toList = _
  simp only [prettyMembers, prettyAt, String.toList_append, memberText, List.append_assoc, hcomma,
    hcolon, List.cons_append, List.nil_append]

/-- Every further member takes at least one character. -/
theorem length_le_prettyMembers (level : Nat) (texts : List (String × String)) :
    texts.length ≤ (prettyMembers level (textMembers texts)).toList.length := by
  induction texts with
  | nil => exact Nat.zero_le _
  | cons t rest ih =>
    rw [toList_prettyMembers_cons]
    simp only [List.length_cons, List.length_append]
    omega

namespace Document

variable {d : Document} {texts : DocumentTexts} {rest : List Char}

/-- A text is read as the text of a field. -/
theorem readText_quote (f : DocumentField) (value : String) (rest : List Char) :
    readText f (' ' :: ((quote value).toList ++ rest)) = .ok (some value, rest) := by
  have hskip : skip (' ' :: ((quote value).toList ++ rest)) =
      '"' :: (value.toList.flatMap escapeChar ++ '"' :: rest) := by
    rw [skip_blank rfl, skip_quote]
  rw [readText, hskip]
  simp only [takeString_escaped]
  rfl

/-- The member of a field that has not been read yet is read. -/
theorem readMember_text {name : String} {f : DocumentField}
    (hfield : d.fields.find? (·.name == name) = some f) (hnew : ∀ t ∈ texts, t.1 ≠ name)
    (value : String) :
    d.readMember texts name (':' :: ' ' :: ((quote value).toList ++ rest)) =
      .ok (texts ++ [(name, some value)], rest) := by
  have hany : texts.any (·.1 == name) = false := by
    rw [List.any_eq_false]
    exact fun t ht ↦ by simpa using hnew t ht
  have hcolon : dropColon (':' :: ' ' :: ((quote value).toList ++ rest)) =
      .ok (' ' :: ((quote value).toList ++ rest)) := rfl
  rw [readMember, hfield]
  simp only [hany, Bool.false_eq_true, if_false, hcolon]
  exact bind_eq_ok_iff.mpr ⟨_, rfl, bind_eq_ok_iff.mpr ⟨_, readText_quote f value rest, rfl⟩⟩

/-- A member is read, and then the closing brace or the further members behind a comma. -/
theorem readMembers_memberText {t : String × String}
    (hfield : (d.fields.find? (·.name == t.1)).isSome) (hnew : ∀ u ∈ texts, u.1 ≠ t.1)
    (fuel : Nat) {cs : List Char} (hcs : skip cs = skip (memberText t ++ rest)) :
    (∀ after, skip rest = '\x7d' :: after →
      d.readMembers (fuel + 1) texts cs = .ok (texts ++ [(t.1, some t.2)], after)) ∧
    ∀ after, skip rest = ',' :: after →
      d.readMembers (fuel + 1) texts cs =
        d.readMembers fuel (texts ++ [(t.1, some t.2)]) after := by
  obtain ⟨f, hf⟩ := Option.isSome_iff_exists.mp hfield
  have hname : skip cs = '"' :: (t.1.toList.flatMap escapeChar ++
      '"' :: ':' :: ' ' :: ((quote t.2).toList ++ rest)) := by
    rw [hcs, memberText, List.append_assoc, skip_quote]
    rfl
  rw [readMembers, hname]
  simp only [takeString_escaped, require, bind, Except.bind, readMember_text hf hnew]
  constructor
  · intro after hafter
    simp only [hafter]
  · intro after hafter
    simp only [hafter]

/-- Members are read up to the closing brace. -/
theorem readMembers_prettyMembers (members : List (String × String)) (t : String × String)
    (hfields : ∀ m ∈ t :: members, (d.fields.find? (·.name == m.1)).isSome)
    (hnames : (texts.map Prod.fst ++ (t :: members).map Prod.fst).Nodup) {fuel : Nat}
    (hfuel : members.length < fuel) {cs : List Char}
    (hcs : skip cs = skip (memberText t ++ ((prettyMembers 1 (textMembers members)).toList ++
      ((lineBreak 0).toList ++ '\x7d' :: rest)))) :
    d.readMembers fuel texts cs = .ok (texts ++ givenTexts (t :: members), rest) := by
  induction members generalizing texts t fuel cs with
  | nil =>
    obtain ⟨fuel, rfl⟩ : ∃ n, fuel = n + 1 := ⟨fuel - 1, by omega⟩
    have hnew : ∀ u ∈ texts, u.1 ≠ t.1 := fun u hu ↦
      (List.nodup_append.mp hnames).2.2 _ (List.mem_map_of_mem hu) _ List.mem_cons_self
    refine (readMembers_memberText (hfields t List.mem_cons_self) hnew fuel hcs).1 rest ?_
    show skip ((lineBreak 0).toList ++ '\x7d' :: rest) = _
    rw [skip_lineBreak, skip_cons rfl]
  | cons next members ih =>
    rw [List.length_cons] at hfuel
    obtain ⟨fuel, rfl⟩ : ∃ n, fuel = n + 1 := ⟨fuel - 1, by omega⟩
    have hnew : ∀ u ∈ texts, u.1 ≠ t.1 := fun u hu ↦
      (List.nodup_append.mp hnames).2.2 _ (List.mem_map_of_mem hu) _ List.mem_cons_self
    have hmore : skip ((prettyMembers 1 (textMembers (next :: members))).toList ++
        ((lineBreak 0).toList ++ '\x7d' :: rest)) = ',' :: ((lineBreak 1).toList ++
          (memberText next ++ ((prettyMembers 1 (textMembers members)).toList ++
            ((lineBreak 0).toList ++ '\x7d' :: rest)))) := by
      rw [toList_prettyMembers_cons, List.cons_append, skip_cons rfl, List.append_assoc,
        List.append_assoc]
    rw [(readMembers_memberText (hfields t List.mem_cons_self) hnew fuel hcs).2 _ hmore,
      ih next (fun m hm ↦ hfields m (List.mem_cons_of_mem t hm)) ?_ (by omega)
        (skip_lineBreak 1 _), List.append_assoc]
    · rfl
    · rw [List.map_append, List.append_assoc]
      exact hnames

/-- An object of texts is read back with its members in their order, if every member is a field, no
field comes twice and no required one is missing. -/
theorem read_pretty {members : List (String × String)} {names : List String}
    (hmembers : members.map Prod.fst = names)
    (hfields : ∀ name ∈ names, (d.fields.find? (·.name == name)).isSome) (hnames : names.Nodup)
    (hcomplete : ∀ f ∈ d.fields, f.isRequired → f.name ∈ names) :
    d.read (object (textMembers members)).pretty = .ok (givenTexts members) := by
  subst hmembers
  have hcheck : d.checkComplete (givenTexts members) = .ok () := by
    have hnone : d.fields.find? (fun f ↦ f.isRequired &&
        !(givenTexts members).any (·.1 == f.name)) = none := by
      rw [List.find?_eq_none]
      intro f hf hmissing
      rw [Bool.and_eq_true, Bool.not_eq_true', List.any_eq_false] at hmissing
      obtain ⟨m, hm, hname⟩ := List.mem_map.mp (hcomplete f hf hmissing.1)
      exact hmissing.2 (m.1, some m.2) (List.mem_map_of_mem hm) (beq_iff_eq.mpr hname)
    rw [checkComplete, hnone]
  have hread : ∀ cs, (object (textMembers members)).pretty.toList = '\x7b' :: cs →
      d.readObject cs = .ok (givenTexts members, []) →
      d.read (object (textMembers members)).pretty = .ok (givenTexts members) := by
    intro cs hcs hobject
    rw [read, hcs, skip_cons rfl]
    exact bind_eq_ok_iff.mpr ⟨_, hobject, rfl⟩
  cases members with
  | nil =>
    have hempty : (object (textMembers [])).pretty.toList = ['\x7b', '\x7d'] := by
      have hbraces : "\x7b\x7d".toList = ['\x7b', '\x7d'] := rfl
      simp only [textMembers, List.map_nil, pretty, prettyAt, hbraces]
    refine hread ['\x7d'] hempty ?_
    rw [readObject, skip_cons rfl]
    exact bind_eq_ok_iff.mpr ⟨_, rfl, bind_eq_ok_iff.mpr ⟨_, hcheck, rfl⟩⟩
  | cons t rest =>
    refine hread _ (toList_pretty_object t rest) ?_
    have hlength := length_le_prettyMembers 1 rest
    have hquote : ∀ cs, skip (memberText t ++ cs) = '"' :: (t.1.toList.flatMap escapeChar ++
        '"' :: ':' :: ' ' :: ((quote t.2).toList ++ cs)) := by
      intro cs
      rw [memberText, List.append_assoc, skip_quote]
      rfl
    rw [readObject, skip_lineBreak, hquote]
    simp only
    refine bind_eq_ok_iff.mpr ⟨(givenTexts (t :: rest), []), ?_,
      bind_eq_ok_iff.mpr ⟨(), hcheck, rfl⟩⟩
    have hmembers : ∀ m ∈ t :: rest, (d.fields.find? (·.name == m.1)).isSome :=
      fun m hm ↦ hfields m.1 (List.mem_map_of_mem hm)
    have hfresh : ((([] : DocumentTexts).map Prod.fst) ++ (t :: rest).map Prod.fst).Nodup := hnames
    rw [readMembers_prettyMembers rest t hmembers hfresh, List.nil_append]
    · simp only [List.length_cons, List.length_append]
      omega
    · rw [hquote, skip_cons rfl]

end Document

/-! ## Profiles and selections -/

/-- A profile is read back as it was written. -/
theorem Profile.read_text (p : Profile) : Profile.read p.text = .ok p := by
  have htext : p.text = (object (textMembers [("name", p.name), ("url", p.url),
      ("apiKey", p.apiKey), ("secretKey", p.secretKey)])).pretty := rfl
  have hread : ∀ {members : List (String × String)},
      members.map Prod.fst = ["name", "url", "apiKey", "secretKey"] →
      Profile.document.read (object (textMembers members)).pretty = .ok (givenTexts members) :=
    fun hmembers ↦ Document.read_pretty hmembers (by decide) (by decide) (by decide)
  rw [Profile.read, htext, hread rfl]
  rfl

/-- A selection is read back as it was written. -/
theorem Selection.read_text (s : Selection) : Selection.read s.text = .ok s := by
  have hread : ∀ (members : List (String × String)) (names : List String),
      members.map Prod.fst = names → names ∈ ["profile", "oldProfile"].sublists →
      Selection.document.read (object (textMembers members)).pretty = .ok (givenTexts members) := by
    intro members names hmembers hnames
    have hall : ∀ names ∈ ["profile", "oldProfile"].sublists,
        (∀ name ∈ names, (Selection.document.fields.find? (·.name == name)).isSome) ∧
          names.Nodup ∧ ∀ f ∈ Selection.document.fields, f.isRequired → f.name ∈ names := by
      decide
    obtain ⟨hfields, hnodup, hcomplete⟩ := hall names hnames
    exact Document.read_pretty hmembers hfields hnodup hcomplete
  rcases s with ⟨_ | current, _ | previous⟩
  · have htext : (Selection.mk none none).text = (object (textMembers [])).pretty := rfl
    rw [Selection.read, htext, hread [] [] rfl (by decide)]
    rfl
  · have htext : (Selection.mk none (some previous)).text =
        (object (textMembers [("oldProfile", previous)])).pretty := rfl
    rw [Selection.read, htext, hread _ ["oldProfile"] rfl (by decide)]
    rfl
  · have htext : (Selection.mk (some current) none).text =
        (object (textMembers [("profile", current)])).pretty := rfl
    rw [Selection.read, htext, hread _ ["profile"] rfl (by decide)]
    rfl
  · have htext : (Selection.mk (some current) (some previous)).text =
        (object (textMembers [("profile", current), ("oldProfile", previous)])).pretty := rfl
    rw [Selection.read, htext, hread _ ["profile", "oldProfile"] rfl (by decide)]
    rfl

end CloudControl
