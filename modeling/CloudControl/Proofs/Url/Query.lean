import CloudControl.Proofs.Client.SignedRequest
import CloudControl.Proofs.Except
import CloudControl.Url.Reader
import Mathlib.Data.List.DropRight
import Mathlib.Data.List.TakeWhile

/-!
# Pairs as the query of an address

Pairs are written in characters that a query admits, and none of which marks a place in an address.
So a query in form encoding is not escaped again, and an address that ends in one is read with just
that query, whatever stands in front of it (`Url.tail_of_parse`). The same text is the body of a
request. Whichever way the pairs travel, the server reads what the client has written
(`Form.parse_encodePairs_sent`).

How an address is read is followed from step to step. What is left of the text ends in the query
all along (`Url.EndsInQuery`), since no step drops or cuts anything at a question mark until the
query itself is split off (`Url.splitTail_of_endsInQuery`).
-/

namespace CloudControl

open Simulator

/-! ## The characters of pairs -/

/-- What holds of all ASCII characters holds of each. -/
theorem Text.forall_ascii {P : Char → Prop} (h : ∀ n < 128, P (Char.ofNat n)) {c : Char}
    (hc : c.toNat < 128) : P c := by
  have hchar := h c.toNat hc
  rwa [Char.ofNat_toNat] at hchar

/-- Characters that are admitted are written as themselves. -/
theorem Text.Percent.encode_of_admits {admits : Char → Bool} {cs : List Char}
    (h : ∀ c ∈ cs, admits c = true) : encode admits cs = cs := by
  induction cs with
  | nil => rfl
  | cons c cs ih =>
    rw [List.forall_mem_cons] at h
    rw [encode, List.flatMap_cons, encodeChar, if_pos h.1]
    exact congrArg (c :: ·) (ih h.2)

namespace Form

/-- The characters that pairs are written in. -/
def IsPairChar (c : Char) : Prop :=
  Text.isLetter c = true ∨ Text.isDigit c = true ∨ c ∈ ['*', '-', '.', '_', '%', '=', '&']

/-- What holds of the characters of the form and of both separators holds of all that pairs are
written in. -/
theorem forall_mem_encodePairs {P : Char → Prop}
    (hform : ∀ n < 128, isFormChar (Char.ofNat n) → P (Char.ofNat n)) (hand : P '&')
    (hequals : P '=') (pairs : List (String × String)) :
    ∀ c ∈ (encodePairs pairs).toList, P c := by
  have hchar : ∀ c, isFormChar c → P c := fun c h ↦
    Text.forall_ascii (P := fun c ↦ isFormChar c → P c) hform h.ascii h
  intro c hc
  rw [encodePairs, String.toList_ofList] at hc
  rcases Text.mem_of_mem_intercalate hc with hc | ⟨part, hpart, hc⟩
  · exact List.mem_singleton.mp hc ▸ hand
  obtain ⟨pair, -, rfl⟩ := List.mem_map.mp hpart
  rw [encodePair, List.mem_append, List.mem_cons] at hc
  rcases hc with hname | rfl | hvalue
  · exact hchar c (isFormChar_of_mem_encodeChars hname)
  · exact hequals
  · exact hchar c (isFormChar_of_mem_encodeChars hvalue)

/-- Pairs are written in their characters. -/
theorem isPairChar_of_mem_encodePairs (pairs : List (String × String)) :
    ∀ c ∈ (encodePairs pairs).toList, IsPairChar c := by
  have hform : ∀ n < 128, isFormChar (Char.ofNat n) → IsPairChar (Char.ofNat n) := by
    unfold isFormChar IsPairChar
    decide
  exact forall_mem_encodePairs hform (.inr (.inr (by decide))) (.inr (.inr (by decide))) pairs

/-- A query of any address admits all that pairs are written in. -/
theorem isQueryChar_of_mem_encodePairs (pairs : List (String × String)) :
    ∀ c ∈ (encodePairs pairs).toList, Url.isQueryChar true c = true := by
  have hform : ∀ n < 128, isFormChar (Char.ofNat n) →
      Url.isQueryChar true (Char.ofNat n) = true := by
    unfold isFormChar
    decide
  exact forall_mem_encodePairs hform (by decide) (by decide) pairs

end Form

namespace Url

/-! ## The end of an address -/

/-- A text ends in a query: there is no mark in front of it, and no fragment behind. -/
def EndsInQuery (q cs : List Char) : Prop :=
  ∃ front, '#' ∉ front ∧ '?' ∉ front ∧ cs = front ++ '?' :: q

section

variable {c : Char} (h : isQueryChar true c = true)
include h

/-- A character of the query of an address of the web is one of any query. -/
theorem isQueryChar_of_special (isSpecial : Bool) : isQueryChar isSpecial c = true := by
  cases isSpecial with
  | true => exact h
  | false => simp_all [isQueryChar]

/-- A character of a query is no blank and no control character. -/
theorem lt_of_isQueryChar : 0x20 < c.toNat := by
  rcases Nat.lt_or_ge c.toNat 128 with hc | hc
  · have hall : ∀ n < 128, isQueryChar true (Char.ofNat n) = true →
        0x20 < (Char.ofNat n).toNat := by decide
    exact Text.forall_ascii (P := fun c ↦ isQueryChar true c = true → 0x20 < c.toNat) hall hc h
  · exact Nat.lt_of_lt_of_le (by decide) hc

/-- A character of a query does not begin a fragment. -/
theorem ne_hash_of_isQueryChar : c ≠ '#' := by
  rintro rfl
  exact absurd h (by decide)

end

namespace EndsInQuery

variable {q cs rest : List Char} {c : Char}

/-- What drops no question mark does not get to the query. -/
theorem dropWhile {p : Char → Bool} (h : EndsInQuery q cs) (hp : p '?' = false) :
    EndsInQuery q (cs.dropWhile p) := by
  obtain ⟨front, hhash, hmark, rfl⟩ := h
  refine ⟨front.dropWhile p, fun hmem ↦ hhash ?_, fun hmem ↦ hmark ?_, ?_⟩
  · exact (List.dropWhile_suffix p).mem hmem
  · exact (List.dropWhile_suffix p).mem hmem
  · rw [List.dropWhile_append, List.dropWhile_cons_of_neg (by simp [hp])]
    split
    · next hnil => rw [List.isEmpty_iff.mp hnil, List.nil_append]
    · rfl

/-- The first character is no part of the query, unless it is the question mark. -/
theorem tail (h : EndsInQuery q (c :: rest)) (hc : c ≠ '?') : EndsInQuery q rest := by
  obtain ⟨front, hhash, hmark, heq⟩ := h
  cases front with
  | nil => exact absurd (List.cons.inj heq).1 hc
  | cons d front =>
    obtain ⟨rfl, rfl⟩ := List.cons.inj heq
    exact ⟨front, fun hmem ↦ hhash (List.mem_cons_of_mem _ hmem),
      fun hmem ↦ hmark (List.mem_cons_of_mem _ hmem), rfl⟩

/-- The query itself is kept where what is dropped from behind does not take it. -/
theorem rdropWhile {p : Char → Bool} (h : EndsInQuery q cs) (hp : ∀ c ∈ '?' :: q, p c = false) :
    EndsInQuery q (cs.rdropWhile p) := by
  obtain ⟨front, hhash, hmark, rfl⟩ := h
  -- The last character is one of the query, or the question mark in front of it.
  have hkept : (front ++ '?' :: q).rdropWhile p = front ++ '?' :: q := by
    rw [List.rdropWhile_eq_self_iff]
    intro hne
    rw [List.getLast_append_of_ne_nil _ (List.cons_ne_nil '?' q), Bool.not_eq_true]
    exact hp _ (List.getLast_mem _)
  exact ⟨front, hhash, hmark, hkept⟩

/-- The query is kept where its characters are. -/
theorem filter {p : Char → Bool} (h : EndsInQuery q cs) (hp : ∀ c ∈ '?' :: q, p c = true) :
    EndsInQuery q (cs.filter p) := by
  obtain ⟨front, hhash, hmark, rfl⟩ := h
  refine ⟨front.filter p, fun hmem ↦ hhash (List.mem_of_mem_filter hmem),
    fun hmem ↦ hmark (List.mem_of_mem_filter hmem), ?_⟩
  rw [List.filter_append, List.filter_eq_self.mpr hp]

end EndsInQuery

/-- The character is dropped at the ends of an address. -/
def isEdge (c : Char) : Bool :=
  c.toNat ≤ 0x20

/-- The character is kept within an address. -/
def isInner (c : Char) : Bool :=
  c != '\t' && c != '\n' && c != '\r'

/-- What is dropped at the ends of an address, and then within it. -/
theorem clean_eq (s : String) :
    clean s = ((s.toList.dropWhile isEdge).rdropWhile isEdge).filter isInner := rfl

/-- A character other than an edge is kept. -/
theorem isInner_of_not_edge {c : Char} (h : isEdge c = false) : isInner c = true := by
  rw [isEdge, decide_eq_false_iff_not] at h
  simp only [isInner, Bool.and_eq_true, bne_iff_ne]
  refine ⟨⟨?_, ?_⟩, ?_⟩ <;>
  · rintro rfl
    exact h (by decide)

variable {q : List Char} (hq : ∀ c ∈ q, isQueryChar true c = true)
include hq

/-- A query is written as itself. -/
theorem escape_eq (isSpecial : Bool) : escape (isQueryChar isSpecial) q = String.ofList q := by
  rw [escape, Text.Percent.encode_of_admits fun c hc ↦ isQueryChar_of_special (hq c hc) isSpecial]

/-- A query at the end of a text is split off as it is. -/
theorem splitTail_of_endsInQuery {cs : List Char} (h : EndsInQuery q cs) (isSpecial : Bool) :
    (splitTail isSpecial cs).2 = (some (String.ofList q), none) := by
  obtain ⟨front, hhash, hmark, rfl⟩ := h
  have hnone : ∀ c ∈ front ++ '?' :: q, (c != '#') = true := by
    intro c hc
    rw [bne_iff_ne]
    rw [List.mem_append, List.mem_cons] at hc
    rcases hc with hc | rfl | hc
    · exact ne_of_mem_of_not_mem hc hhash
    · decide
    · exact ne_hash_of_isQueryChar (hq c hc)
  have hfront : ∀ c ∈ front, (c != '?') = true := fun c hc ↦
    bne_iff_ne.mpr (ne_of_mem_of_not_mem hc hmark)
  simp only [splitTail, List.takeWhile_eq_self_iff.mpr hnone, List.dropWhile_eq_nil_iff.mpr hnone,
    List.dropWhile_append_of_pos hfront]
  exact congrArg (some · , none) (escape_eq hq isSpecial)

/-- What is dropped around an address and within it is no part of its query. -/
theorem endsInQuery_clean {s : String} (h : EndsInQuery q s.toList) : EndsInQuery q (clean s) := by
  have hedge : ∀ c ∈ '?' :: q, isEdge c = false := by
    intro c hc
    rw [isEdge, decide_eq_false_iff_not, Nat.not_le]
    rcases List.mem_cons.mp hc with rfl | hc
    · decide
    · exact lt_of_isQueryChar (hq c hc)
  rw [clean_eq]
  exact ((h.dropWhile (by decide)).rdropWhile hedge).filter fun c hc ↦
    isInner_of_not_edge (hedge c hc)

omit hq

/-! ## The parts of an address -/

/-- The query and the fragment of an address. -/
def tail (u : Url) : Option String × Option String :=
  (u.query, u.fragment)

variable {scheme : String} {cs rest : List Char} {u : Url}

/-- An address with a host has the query and the fragment of its text. -/
theorem tail_of_parseAuthority (h : parseAuthority scheme cs = .ok u) :
    u.tail = (splitTail (isSpecial scheme) cs).2 := by
  unfold parseAuthority at h
  simp only at h
  obtain ⟨⟨host, port, behind⟩, -, h⟩ := bind_eq_ok_iff.mp h
  split at h
  · cases h
  · cases h
    rfl

/-- The address of a file has the query and the fragment of its text. -/
theorem tail_of_parseFile (h : parseFile cs = .ok u) : u.tail = (splitTail true cs).2 := by
  unfold parseFile at h
  simp only at h
  split at h
  · split at h
    · split at h
      · cases h
        rfl
      · obtain ⟨host?, -, h⟩ := bind_eq_ok_iff.mp h
        cases host? <;> cases h <;> rfl
    · cases h
      rfl
  · cases h
    rfl

/-- What follows the scheme of an address ends in its query. -/
theorem endsInQuery_of_splitScheme? (h : splitScheme? cs = some (scheme, rest))
    (hcs : EndsInQuery q cs) : EndsInQuery q rest := by
  have hdropped := hcs.dropWhile (p := isSchemeChar) (by decide)
  unfold splitScheme? at h
  split at h
  · split at h
    · split at h
      · next hrest =>
        cases h
        rw [hrest] at hdropped
        exact hdropped.tail (by decide)
      · cases h
    · cases h
  · cases h

include hq

/-- An address whose text ends in a query has that query as it is, and no fragment. -/
theorem tail_of_parse {s : String} (hs : EndsInQuery q s.toList) (h : parse s = .ok u) :
    u.tail = (some (String.ofList q), none) := by
  have hclean := endsInQuery_clean hq hs
  unfold parse at h
  split at h
  · cases h
  · next hscheme =>
    rw [tail_of_parseFile h]
    exact splitTail_of_endsInQuery hq (endsInQuery_of_splitScheme? hscheme hclean) true
  · next hscheme =>
    have hrest := endsInQuery_of_splitScheme? hscheme hclean
    split at h
    · rw [tail_of_parseAuthority h]
      exact splitTail_of_endsInQuery hq (hrest.dropWhile (by decide)) _
    · split at h
      · rw [tail_of_parseAuthority h]
        exact splitTail_of_endsInQuery hq ((hrest.tail (by decide)).tail (by decide)) _
      · cases h
        exact splitTail_of_endsInQuery hq hrest false

end Url

namespace Form

/-- Pairs are read back from their written form, which is made of letters, digits, some marks and
the two separators. A query does not escape it, and every address that ends in it is read with just
that query. It is the query or the body of a request as it is, from which the server reads the
pairs, behind those of the query that the address of the server may have itself. -/
theorem parse_encodePairs_sent (pairs : List (String × String)) :
    parse (encodePairs pairs) = pairs ∧
    (∀ c ∈ (encodePairs pairs).toList, IsPairChar c) ∧
    (∀ isSpecial, Url.escape (Url.isQueryChar isSpecial) (encodePairs pairs).toList =
      encodePairs pairs) ∧
    (∀ (front : String) (u : Url), '#' ∉ front.toList → '?' ∉ front.toList →
      Url.parse (front ++ "?" ++ encodePairs pairs) = .ok u →
        u.query = some (encodePairs pairs) ∧ u.fragment = none) ∧
    ∀ (client : Client) (cookie : Option String),
      (client.requestOf .get pairs cookie).url.query = some (encodePairs pairs) ∧
      (client.requestOf .post pairs cookie).body = some (encodePairs pairs) ∧
      (Incoming.ofRequest (client.requestOf .get pairs cookie)).params = pairs ∧
      (Incoming.ofRequest (client.requestOf .post pairs cookie)).params =
        parse (client.endpoint.query.getD "") ++ pairs := by
  have hquery := isQueryChar_of_mem_encodePairs pairs
  refine ⟨parse_encodePairs pairs, isPairChar_of_mem_encodePairs pairs, ?_, ?_, ?_⟩
  · intro isSpecial
    rw [Url.escape_eq hquery, String.ofList_toList]
  · intro front u hhash hmark h
    have hends : Url.EndsInQuery (encodePairs pairs).toList
        (front ++ "?" ++ encodePairs pairs).toList :=
      ⟨front.toList, hhash, hmark, by simp⟩
    have htail := Url.tail_of_parse hquery hends h
    rw [String.ofList_toList, Url.tail, Prod.mk.injEq] at htail
    exact htail
  · intro client cookie
    refine ⟨rfl, rfl, parse_encodePairs pairs, ?_⟩
    show parse _ ++ parse (encodePairs pairs) = _
    rw [parse_encodePairs]
    rfl

/-- A name and a value that imitate the form encoding, and an empty pair that stands there twice,
for a server on the web. -/
theorem parse_encodePairs_sent_imitation :
    let pairs := [("a&b=c", "x y+z%26é"), ("", ""), ("", "")]
    let written := "a%26b%3Dc=x%20y%2Bz%2526%C3%A9&=&="
    parse written = pairs ∧
      ∃ u, Url.parse ("http://localhost:8080/client/api" ++ "?" ++ written) = .ok u ∧
        u.query = some written ∧ u.fragment = none := by
  intro pairs written
  have hwritten : encodePairs pairs = written := by decide
  obtain ⟨hread, -, -, hquery, -⟩ := parse_encodePairs_sent pairs
  rw [hwritten] at hread hquery
  have hsome : (Url.parse ("http://localhost:8080/client/api" ++ "?" ++ written)).toOption.isSome =
      true := by decide +kernel
  obtain ⟨u, hu⟩ := Option.isSome_iff_exists.mp hsome
  have hparse := toOption_eq_some_iff.mp hu
  exact ⟨hread, u, hparse, hquery _ u (by decide) (by decide) hparse⟩

end Form

end CloudControl
