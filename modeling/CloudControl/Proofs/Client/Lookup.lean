import CloudControl.Proofs.Client.Paging
import CloudControl.Proofs.Schema.Floats

/-!
# What a call for one item makes of a listing

A call for one item reads the first of the items that a server shows (`Client.firstOfAnswer`). A
server that is asked for an identifier shows the items that it selects, or answers that nothing has
the identifier, which the fallback of the command makes no value of
(`Client.firstOfAnswer_eq_none_iff`). What is shown has been printed and read again. Floating-point
numbers may change on the way, but a kind that holds none reads the item as it was in the list of
the server (`Client.exists_first_of_firstOfAnswer`, `Client.firstOfAnswer_of_decode`).
-/

namespace CloudControl

open Auth Simulator Text

/-! ## The answer -/

namespace Client

variable {α : Type} {command : Command} {reader : Schema.Reader α} {name key id : String}

/-- What a call for one item makes of an answer. -/
def firstOfAnswer (command : Command) (reader : Schema.Reader α) (a : Answer) :
    Except ClientError (Option α) :=
  command.fallback.cover none
    (Envelope.unwrap command.name a.status a.body.compact >>= readFirst command reader)

/-- A text that ends in these words says that something is missing, whatever it is about. -/
theorem saysMissing_append (s : String) : saysMissing (s ++ " does not exist") = true := by
  have hascii : ∀ c ∈ " does not exist".toList, c.toNat < 128 := Text.ascii_of_all (by decide)
  obtain ⟨front, hfront⟩ := exists_lowercaseFrom_append [] s.toList hascii
  have hwords : " does not exist".toList.map Char.toLower = [' '] ++ "does not exist".toList := by
    decide
  have hlower : (lowercase (s ++ " does not exist")).toList =
      (front ++ [' ']) ++ "does not exist".toList ++ [] := by
    rw [lowercase, String.toList_ofList, String.toList_append, hfront, hwords, List.append_nil,
      List.append_assoc]
  rw [saysMissing, holds, hlower, hasInfix_append, Bool.true_or]

/-- The body of an error is read back as it was printed. -/
theorem isReadBack_error {code : Nat} (hcode : code ≤ 999) (name text : String) :
    (Answer.error name code text).IsReadBack := by
  have hcontent : (Answer.errorContent code text).isExact 126 = true := by
    refine Json.isExact_object_iff.mpr ⟨125, rfl, Json.ascending_sortMembers _, fun m hm ↦ ?_⟩
    have hmember := Json.mem_sortMembers hm
    simp only [List.mem_cons, List.not_mem_nil, or_false] at hmember
    rcases hmember with rfl | rfl | rfl | rfl
    · rfl
    · exact Json.isExact_ofNat (hcode.trans (by decide)) 125
    · exact Json.isExact_ofNat (by decide) 125
    · rfl
  exact Answer.isReadBack_reply hcontent name code

/-- An identifier that nothing has comes to no value. -/
theorem firstOfAnswer_unknownId (hfallback : command.fallback = .noneWhenNotFound)
    (name id : String) :
    firstOfAnswer command reader (.error name parameterStatus (missingEntity name id)) =
      .ok none := by
  have hback := isReadBack_error (by decide : parameterStatus ≤ 999) name (missingEntity name id)
  have hkind : classify parameterStatus (missingEntity name id) = .notFound :=
    (classify_eq_notFound_iff _ _).mpr (.inr ⟨.inr rfl, saysMissing_append _⟩)
  show command.fallback.cover none (Envelope.unwrap command.name parameterStatus
    (Answer.error name parameterStatus (missingEntity name id)).body.compact >>= _) = _
  rw [Envelope.unwrap_error hback (by decide), hkind, hfallback]
  rfl

/-- What is read from a reply to a command. -/
theorem parse?_reply (name : String) (status : Nat) (content : Json) :
    Json.parse? (Answer.reply name status content).body.compact =
      (content.readBack 126).map fun content' ↦ .object [(responseKey name, content')] := by
  rw [Json.parse?_compact_eq]
  show ((content.readBack 126).bind _).map _ = _
  cases content.readBack 126 <;> rfl

/-- A reply with an object that reports no error: the object is taken out of its envelope as it is
read back, or the reply cannot be read at all. -/
theorem unwrap_reply_cases (command name : String) {members : List (String × Json)}
    (hascending : Json.Ascending members)
    (hcode : (Json.object members).get? Envelope.errorCodeKey = none) :
    Envelope.unwrap command 200 (Answer.reply name 200 (.object members)).body.compact =
        .error (.decode command .notJson) ∧ (Json.object members).readBack 126 = none ∨
      ∃ content, (Json.object members).readBack 126 = some content ∧
        Envelope.unwrap command 200 (Answer.reply name 200 (.object members)).body.compact =
          .ok content := by
  have hparse := parse?_reply name 200 (.object members)
  cases hback : (Json.object members).readBack 126 with
  | none =>
    rw [hback] at hparse
    rw [Envelope.unwrap, hparse]
    exact .inl ⟨rfl, rfl⟩
  | some content =>
    rw [hback] at hparse
    have hnone := Json.rel_get?_of_readBack hascending hback Envelope.errorCodeKey
    rw [hcode] at hnone
    have hcontent : content.get? Envelope.errorCodeKey = none := by
      generalize content.get? Envelope.errorCodeKey = found at hnone
      cases hnone
      rfl
    exact .inr ⟨content, rfl, Envelope.unwrap_of_parse? hparse (by rw [hcontent]; rfl)⟩

/-- The first item of a list within a reply is the first one as it is read back. -/
theorem exists_first_of_readBack {depth : Nat} {members : List (String × Json)} {content : Json}
    (hascending : Json.Ascending members)
    (hback : (Json.object members).readBack (depth + 2) = some content) {item : Json}
    {rest : List Json} (h : (Json.object members).get? key = some (.array (item :: rest))) :
    ∃ item' rest', item.readBack depth = some item' ∧
      content.get? key = some (.array (item' :: rest')) := by
  have hrel := Json.rel_get?_of_readBack hascending hback key
  rw [h] at hrel
  generalize content.get? key = found at hrel
  cases hrel with
  | some harray =>
    obtain ⟨others, hothers, rfl⟩ := Option.map_eq_some_iff.mp harray
    cases Json.itemsReadBack_eq_some_iff.mp hothers with
    | cons hfirst _ => exact ⟨_, _, hfirst, rfl⟩

/-- What a call for one item makes of a reply that shows some items: it cannot be read at all, or
it is read from the first of them as it is read back. -/
theorem firstOfAnswer_listing (reader : Schema.Reader α) (name : String)
    (hselect : command.select = some key) (hcode : key ≠ Envelope.errorCodeKey) (total : Nat)
    (item : Json) (rest : List Json) :
    (listingContent key total (item :: rest)).readBack 126 = none ∧ (∃ e,
      firstOfAnswer command reader
        (.reply name 200 (listingContent key total (item :: rest))) = .error e) ∨
    ∃ item', item.readBack 124 = some item' ∧ firstOfAnswer command reader
      (.reply name 200 (listingContent key total (item :: rest))) =
        (Envelope.decode command.name reader item').map some := by
  have hget := get?_listingContent key total (item :: rest)
  obtain ⟨members, hcontent, hascending⟩ : ∃ members,
      listingContent key total (item :: rest) = .object members ∧ Json.Ascending members :=
    ⟨_, rfl, Json.ascending_sortMembers _⟩
  rw [hcontent] at hget ⊢
  have hnoCode : (Json.object members).get? Envelope.errorCodeKey = none := by
    rw [hget, if_neg fun h ↦ hcode h.2.symm, if_neg (by decide)]
  have hitems : (Json.object members).get? key = some (.array (item :: rest)) := by
    rw [hget, if_pos ⟨List.cons_ne_nil _ _, rfl⟩]
  have hlocal : ∀ {x : Except ClientError (Option α)}, (∀ e, x = .error e → e.IsLocal) →
      command.fallback.cover none x = x := cover_of_isLocal
  rcases unwrap_reply_cases command.name name hascending hnoCode with ⟨hunwrap, hback⟩ |
    ⟨content, hback, hunwrap⟩
  · refine .inl ⟨hback, .decode command.name .notJson, ?_⟩
    show command.fallback.cover none (Envelope.unwrap command.name 200 _ >>= _) = _
    rw [hunwrap]
    exact hlocal fun e he ↦ by cases he; exact ⟨rfl, rfl⟩
  · obtain ⟨item', rest', hitem, hshown⟩ := exists_first_of_readBack hascending hback hitems
    refine .inr ⟨item', hitem, ?_⟩
    show command.fallback.cover none (Envelope.unwrap command.name 200 _ >>= _) = _
    rw [hunwrap]
    show command.fallback.cover none (readFirst command reader content) = _
    rw [hlocal fun e ↦ isLocal_of_readFirst, readFirst, Envelope.selectedItems, hselect]
    simp only [hshown, Envelope.itemsOf]

/-- A reply that shows items can be read if each of them can, and their number has a text of 64
bits. -/
theorem exists_readBack_listingContent {total : Nat} {shown : List Json}
    (htotal : total ≤ Text.Numeral.maxUnsigned 64)
    (hshown : ∀ item ∈ shown, ∃ item', item.readBack 124 = some item') (key : String) :
    ∃ content, (listingContent key total shown).readBack 126 = some content := by
  obtain ⟨items, hitems⟩ := exists_forall₂_iff.mpr hshown
  have harray : (Json.array shown).readBack 125 = some (.array items) := by
    rw [Json.readBack, Json.itemsReadBack_eq_some_iff.mpr hitems, Option.map_some]
  obtain ⟨members, hcontent, hmembers⟩ : ∃ members,
      listingContent key total shown = .object members ∧
        ∀ m ∈ members, m = ("count", .ofNat total) ∨ m = (key, .array shown) := by
    refine ⟨_, rfl, fun m hm ↦ ?_⟩
    rcases List.mem_cons.mp (Json.mem_sortMembers hm) with rfl | hm
    · exact .inl rfl
    · split at hm
      · exact absurd hm List.not_mem_nil
      · exact .inr (List.mem_singleton.mp hm)
  have hback : ∀ m ∈ members, ∃ n : String × Json, m.1 = n.1 ∧ m.2.readBack 125 = some n.2 := by
    intro m hm
    rcases hmembers m hm with rfl | rfl
    · exact ⟨("count", _), rfl, Json.readBack_of_isExact (Json.isExact_ofNat htotal 125)⟩
    · exact ⟨(key, .array items), rfl, harray⟩
  obtain ⟨others, hothers⟩ := exists_forall₂_iff.mpr hback
  rw [hcontent, Json.readBack, Json.membersReadBack_eq_some_iff.mpr hothers]
  exact ⟨_, rfl⟩

/-! ## The items that are selected -/

section

variable {selected : List Json} {k : Schema.Kind} {v : Schema.Value}

/-- The item that is found is what the first of the selected ones is read as, also before it is
sent. -/
theorem exists_first_of_firstOfAnswer (hselect : command.select = some key)
    (hcode : key ≠ Envelope.errorCodeKey) (hfallback : command.fallback = .noneWhenNotFound)
    (hk : k.ignoresFloats = true) (hreadable : ∀ item ∈ selected, item.IsReadable)
    (h : firstOfAnswer command k.decode (selectionAnswer name key selected (some id) selected) =
      .ok (some v)) :
    ∃ item rest, selected = item :: rest ∧ k.decode item = .ok v := by
  cases selected with
  | nil =>
    have hnone : firstOfAnswer command k.decode (selectionAnswer name key [] (some id) []) =
        .ok none := firstOfAnswer_unknownId hfallback name id
    rw [hnone] at h
    cases h
  | cons item rest =>
    refine ⟨item, rest, rfl, ?_⟩
    rw [selectionAnswer, if_neg (List.cons_ne_nil item rest)] at h
    rcases firstOfAnswer_listing k.decode name hselect hcode
      (item :: rest).length item rest with ⟨-, e, herror⟩ | ⟨item', hback, hfound⟩
    · rw [herror] at h
      cases h
    · rw [hfound] at h
      obtain ⟨x, hread, heq⟩ := map_eq_ok_iff.mp h
      obtain rfl := Option.some.inj heq
      have hsame := Json.sameButFloats_of_readBack (hreadable item List.mem_cons_self) hback
      exact (Schema.Kind.readsSame_of_ignoresFloats hk _ _ hsame _).mpr
        (Envelope.decode_eq_ok_iff.mp hread)

/-- The first of the selected items is found as it is read, if every item that is sent can be
read. -/
theorem firstOfAnswer_of_decode (hselect : command.select = some key)
    (hcode : key ≠ Envelope.errorCodeKey) (hk : k.ignoresFloats = true) {item : Json}
    {rest : List Json} (hreadable : item.IsReadable)
    (htotal : (item :: rest).length ≤ Text.Numeral.maxUnsigned 64)
    (hshown : ∀ shown ∈ item :: rest, ∃ shown', shown.readBack 124 = some shown')
    (h : k.decode item = .ok v) (name id : String) :
    firstOfAnswer command k.decode
      (selectionAnswer name key (item :: rest) (some id) (item :: rest)) = .ok (some v) := by
  obtain ⟨content, hcontent⟩ := exists_readBack_listingContent htotal hshown key
  rw [selectionAnswer, if_neg (List.cons_ne_nil item rest)]
  rcases firstOfAnswer_listing k.decode name hselect hcode
    (item :: rest).length item rest with ⟨hnone, -⟩ | ⟨item', hback, hfound⟩
  · rw [hcontent] at hnone
    cases hnone
  · have hsame := Json.sameButFloats_of_readBack hreadable hback
    have hread := (Schema.Kind.readsSame_of_ignoresFloats hk _ _ hsame _).mp h
    rw [hfound, Envelope.decode_eq_ok_iff.mpr hread]
    rfl

/-- There is no item just if none is selected. -/
theorem firstOfAnswer_eq_none_iff (hselect : command.select = some key)
    (hcode : key ≠ Envelope.errorCodeKey) (hfallback : command.fallback = .noneWhenNotFound) :
    firstOfAnswer command reader (selectionAnswer name key selected (some id) selected) =
      .ok none ↔ selected = [] := by
  constructor
  · intro h
    cases selected with
    | nil => rfl
    | cons item rest =>
      rw [selectionAnswer, if_neg (List.cons_ne_nil item rest)] at h
      rcases firstOfAnswer_listing reader name hselect hcode
        (item :: rest).length item rest with ⟨-, e, herror⟩ | ⟨item', _, hfound⟩
      · rw [herror] at h
        cases h
      · rw [hfound] at h
        obtain ⟨x, _, heq⟩ := map_eq_ok_iff.mp h
        cases heq
  · rintro rfl
    exact firstOfAnswer_unknownId hfallback name id

end

end Client

end CloudControl
