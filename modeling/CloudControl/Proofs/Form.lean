import CloudControl.Form
import CloudControl.Proofs.Text.Folding
import CloudControl.Proofs.Text.Joined
import CloudControl.Proofs.Text.Utf8

/-!
# Form encoding is read back as it was written

`parse_encodePairs` says that pairs of any texts come back from their written form. It rests on
three facts: an octet comes back from its one or three characters, those characters are never a
separator, and a list of segments without separators is cut where it was joined. The letter case
of the written form does not matter to the escapes, so the written form in small letters stands
for the folded text (`decode_folded`).
-/

namespace CloudControl.Form

open Text

/-- The octets that stand for themselves. -/
theorem isPlain_iff (b : UInt8) : isPlain b = true ↔
    (48 ≤ b.toNat ∧ b.toNat ≤ 57) ∨ (65 ≤ b.toNat ∧ b.toNat ≤ 90) ∨
      (97 ≤ b.toNat ∧ b.toNat ≤ 122) ∨ b.toNat = 42 ∨ b.toNat = 45 ∨ b.toNat = 46 ∨
      b.toNat = 95 := by
  simp only [isPlain, Bool.or_eq_true, Bool.and_eq_true, decide_eq_true_eq, beq_iff_eq,
    UInt8.le_iff_toNat_le, ← UInt8.toNat_inj, UInt8.reduceToNat, or_assoc]

/-- The characters of a written form: the plain ones and the percent sign. -/
def isFormChar (c : Char) : Prop :=
  (48 ≤ c.toNat ∧ c.toNat ≤ 57) ∨ (65 ≤ c.toNat ∧ c.toNat ≤ 90) ∨
    (97 ≤ c.toNat ∧ c.toNat ≤ 122) ∨ c = '*' ∨ c = '-' ∨ c = '.' ∨ c = '_' ∨ c = '%'

/-- A capital digit is a digit or one of the first six capitals. -/
theorem capital_range {n : Nat} (h : n < 16) :
    (48 ≤ (Hex.capital n).toNat ∧ (Hex.capital n).toNat ≤ 57) ∨
      (65 ≤ (Hex.capital n).toNat ∧ (Hex.capital n).toNat ≤ 70) := by
  have : ∀ n : Fin 16, (48 ≤ (Hex.capital n).toNat ∧ (Hex.capital n).toNat ≤ 57) ∨
      (65 ≤ (Hex.capital n).toNat ∧ (Hex.capital n).toNat ≤ 70) := by decide
  exact this ⟨n, h⟩

/-- A capital digit in small letters reads back as the number it was written for. -/
theorem value?_toLower_capital {n : Nat} (h : n < 16) :
    Hex.value? (Hex.capital n).toLower = some n := by
  have : ∀ n : Fin 16, Hex.value? (Hex.capital n).toLower = some n.val := by decide
  exact this ⟨n, h⟩

/-- The code point of the character of an octet is the octet. -/
theorem toNat_ofNat_octet (b : UInt8) : (Char.ofNat b.toNat).toNat = b.toNat := by
  have hvalid : b.toNat.isValidChar := .inl (Nat.lt_trans b.toNat_lt (by decide))
  rw [Char.ofNat, dif_pos hvalid]
  rfl

/-- An octet is written in characters of the form. -/
theorem isFormChar_of_mem_encodeByte {b : UInt8} {c : Char} (h : c ∈ encodeByte b) :
    isFormChar c := by
  unfold encodeByte at h
  have hb := b.toNat_lt
  split at h
  · next hplain =>
    rw [List.mem_singleton] at h
    subst h
    have hrange := (isPlain_iff b).mp hplain
    simp only [isFormChar, ← Char.toNat_inj, toNat_ofNat_octet]
    simp only [show '*'.toNat = 42 from rfl, show '-'.toNat = 45 from rfl,
      show '.'.toNat = 46 from rfl, show '_'.toNat = 95 from rfl]
    omega
  · simp only [List.mem_cons, List.not_mem_nil, or_false] at h
    rcases h with rfl | rfl | rfl
    · simp [isFormChar]
    · have := capital_range (n := b.toNat / 16) (by omega)
      unfold isFormChar
      omega
    · have := capital_range (n := b.toNat % 16) (by omega)
      unfold isFormChar
      omega

/-- A text is written in characters of the form. -/
theorem isFormChar_of_mem_encodeChars {s : String} {c : Char} (h : c ∈ encodeChars s) :
    isFormChar c := by
  obtain ⟨_, _, hc⟩ := List.mem_flatMap.mp h
  exact isFormChar_of_mem_encodeByte hc

/-- A character of the form is ASCII. -/
theorem isFormChar.ascii {c : Char} (h : isFormChar c) : c.toNat < 128 := by
  simp only [isFormChar] at h
  rcases h with h | h | h | rfl | rfl | rfl | rfl | rfl
  · omega
  · omega
  · omega
  all_goals decide

/-- A character of the form is no separator. -/
theorem isFormChar.ne_separator {c : Char} (h : isFormChar c) : c ≠ '&' ∧ c ≠ '=' := by
  constructor <;>
  · rintro rfl
    revert h
    unfold isFormChar
    decide

/-- A plain octet is read as itself. -/
theorem decodeBytes_cons_of_plain {b : UInt8} (h : isPlain b = true) (rest : List UInt8) :
    decodeBytes (b :: rest) = b :: decodeBytes rest := by
  rw [decodeBytes]
  · rintro hi lo tail rfl -
    exact absurd h (by decide)
  · rintro rfl
    exact absurd h (by decide)

/-- A percent sign with two digits is read as the octet that the digits name. -/
theorem decodeBytes_escape {hi lo : Char} {x y : Nat} (hhi : hi.toNat < 128)
    (hlo : lo.toNat < 128) (hx : Hex.value? hi = some x) (hy : Hex.value? lo = some y)
    (rest : List UInt8) :
    decodeBytes (Utf8.encodeChars ['%', hi, lo] ++ rest) =
      UInt8.ofNat (x * 16 + y) :: decodeBytes rest := by
  have hocts : ∀ c : Char, c.toNat < 128 → Char.ofNat (UInt8.ofNat c.toNat).toNat = c := by
    intro c hc
    rw [UInt8.toNat_ofNat', Nat.mod_eq_of_lt (by omega), Char.ofNat_toNat]
  have hwritten : Utf8.encodeChars ['%', hi, lo] =
      [37, UInt8.ofNat hi.toNat, UInt8.ofNat lo.toNat] := by
    rw [Utf8.encodeChars_of_ascii (by simp [hhi, hlo])]
    rfl
  rw [hwritten]
  simp only [List.cons_append, List.nil_append]
  rw [decodeBytes, hocts hi hhi, hocts lo hlo, hx, hy]

/-- The written form of an octet is read as the octet, whatever follows it. -/
theorem decodeBytes_encodeByte (b : UInt8) (rest : List UInt8) :
    decodeBytes (Utf8.encodeChars (encodeByte b) ++ rest) = b :: decodeBytes rest := by
  have hb := b.toNat_lt
  unfold encodeByte
  split
  · next hplain =>
    have hascii : b.toNat < 128 := by
      have := (isPlain_iff b).mp hplain
      omega
    rw [Utf8.encodeChars_of_ascii (by simpa [toNat_ofNat_octet] using hascii)]
    simp only [List.map_cons, List.map_nil, toNat_ofNat_octet, UInt8.ofNat_toNat]
    exact decodeBytes_cons_of_plain hplain rest
  · have hhi := capital_range (n := b.toNat / 16) (by omega)
    have hlo := capital_range (n := b.toNat % 16) (by omega)
    rw [decodeBytes_escape (by omega) (by omega) (Hex.value?_capital (by omega))
      (Hex.value?_capital (by omega)), Nat.div_add_mod' b.toNat 16, UInt8.ofNat_toNat]

/-- The octets of a written text are read as the octets of the text. -/
theorem decodeBytes_flatMap (f : UInt8 → List Char) (g : UInt8 → UInt8)
    (h : ∀ b rest, decodeBytes (Utf8.encodeChars (f b) ++ rest) = g b :: decodeBytes rest)
    (bytes : List UInt8) :
    decodeBytes (Utf8.encodeChars (bytes.flatMap f)) = bytes.map g := by
  induction bytes with
  | nil => simp [decodeBytes]
  | cons b bytes ih =>
    rw [List.flatMap_cons, Utf8.encodeChars_append, h, ih, List.map_cons]

/-- The written form of a text is read as that text. -/
theorem decode_encodeChars (s : String) : decode (Utf8.encodeChars (encodeChars s)) = s := by
  rw [decode, encodeChars, decodeBytes_flatMap encodeByte id decodeBytes_encodeByte,
    List.map_id, Utf8.decode_encode]

/-! ## Letter case -/

/-- An octet with the letter case of an ASCII capital folded. -/
def foldOctet (b : UInt8) : UInt8 :=
  if 65 ≤ b && b ≤ 90 then b + 32 else b

/-- Folding adds 32 to the octet of a capital. -/
theorem toNat_foldOctet (b : UInt8) :
    (foldOctet b).toNat = if 65 ≤ b.toNat ∧ b.toNat ≤ 90 then b.toNat + 32 else b.toNat := by
  unfold foldOctet
  simp only [Bool.and_eq_true, decide_eq_true_eq, UInt8.le_iff_toNat_le, UInt8.reduceToNat]
  split
  · rw [UInt8.toNat_add]
    simp only [UInt8.reduceToNat]
    omega
  · rfl

/-- The octets of a character that is not ASCII are not ASCII. -/
theorem le_of_mem_encodeChar {c : Char} (h : 128 ≤ c.toNat) {b : UInt8}
    (hb : b ∈ String.utf8EncodeChar c) : 128 ≤ b.toNat := by
  unfold String.utf8EncodeChar at hb
  simp only [show c.val.toNat = c.toNat from rfl] at hb
  rw [if_neg (by omega)] at hb
  split at hb
  · simp only [List.mem_cons, List.not_mem_nil, or_false] at hb
    rcases hb with rfl | rfl <;> simp only [UInt8.toNat_ofNat'] <;> omega
  · split at hb
    · simp only [List.mem_cons, List.not_mem_nil, or_false] at hb
      rcases hb with rfl | rfl | rfl <;> simp only [UInt8.toNat_ofNat'] <;> omega
    · simp only [List.mem_cons, List.not_mem_nil, or_false] at hb
      rcases hb with rfl | rfl | rfl | rfl <;> simp only [UInt8.toNat_ofNat'] <;> omega

/-- Folding a character folds its octets. -/
theorem encodeChar_toLower (c : Char) :
    String.utf8EncodeChar c.toLower = (String.utf8EncodeChar c).map foldOctet := by
  by_cases h : c.toNat < 128
  · have hlower := toLower_ascii_iff.mpr h
    rw [Utf8.encodeChar_of_ascii hlower, Utf8.encodeChar_of_ascii h, List.map_singleton,
      List.singleton_inj, ← UInt8.toNat_inj, toNat_foldOctet, UInt8.toNat_ofNat',
      UInt8.toNat_ofNat', Nat.mod_eq_of_lt (by omega), Nat.mod_eq_of_lt (by omega), toNat_toLower]
  · rw [toLower_of_not_ascii (by omega), List.map_congr_left (g := id), List.map_id]
    intro b hb
    have := le_of_mem_encodeChar (by omega) hb
    rw [id_eq, ← UInt8.toNat_inj, toNat_foldOctet, if_neg (by omega)]

/-- Folding characters folds their octets. -/
theorem encodeChars_toLower (cs : List Char) :
    Utf8.encodeChars (cs.map Char.toLower) = (Utf8.encodeChars cs).map foldOctet := by
  induction cs with
  | nil => rfl
  | cons c cs ih =>
    rw [List.map_cons, Utf8.encodeChars_cons, Utf8.encodeChars_cons, encodeChar_toLower, ih,
      List.map_append]

/-- The written form of an octet in small letters is read as the folded octet. -/
theorem decodeBytes_encodeByte_toLower (b : UInt8) (rest : List UInt8) :
    decodeBytes (Utf8.encodeChars ((encodeByte b).map Char.toLower) ++ rest) =
      foldOctet b :: decodeBytes rest := by
  have hb := b.toNat_lt
  unfold encodeByte
  split
  · next hplain =>
    have hfolded : isPlain (foldOctet b) = true := by
      have := (isPlain_iff b).mp hplain
      rw [isPlain_iff, toNat_foldOctet]
      split <;> omega
    have hascii : b.toNat < 128 := by
      have := (isPlain_iff b).mp hplain
      omega
    have hplainByte : Utf8.encodeChars [Char.ofNat b.toNat] = [b] := by
      rw [Utf8.encodeChars_of_ascii (by simpa [toNat_ofNat_octet] using hascii)]
      simp [toNat_ofNat_octet]
    rw [encodeChars_toLower, hplainByte]
    exact decodeBytes_cons_of_plain hfolded rest
  · next hplain =>
    have hhi := capital_range (n := b.toNat / 16) (by omega)
    have hlo := capital_range (n := b.toNat % 16) (by omega)
    -- An octet that is escaped is no letter, so only the digits of its escape are folded.
    have hsame : foldOctet b = b := by
      rw [isPlain_iff] at hplain
      rw [← UInt8.toNat_inj, toNat_foldOctet, if_neg (by omega)]
    rw [hsame]
    exact (decodeBytes_escape (toLower_ascii_iff.mpr (by omega)) (toLower_ascii_iff.mpr (by omega))
      (value?_toLower_capital (by omega)) (value?_toLower_capital (by omega)) rest).trans
      (by rw [Nat.div_add_mod' b.toNat 16, UInt8.ofNat_toNat])

/-- The written form of a text in small letters is read as the folded text. -/
theorem decode_folded (s : String) :
    decode (Utf8.encodeChars ((encodeChars s).map Char.toLower)) = foldCase s := by
  rw [decode, encodeChars, List.map_flatMap,
    decodeBytes_flatMap _ foldOctet decodeBytes_encodeByte_toLower, Utf8.encode,
    ← encodeChars_toLower, Utf8.decode, Utf8.decodeChars_encodeChars, foldCase]

/-- An octet and the folded octet have one written form in small letters. -/
theorem map_toLower_encodeByte_foldOctet (b : UInt8) :
    (encodeByte (foldOctet b)).map Char.toLower = (encodeByte b).map Char.toLower := by
  by_cases h : 65 ≤ b.toNat ∧ b.toNat ≤ 90
  · have hfold := toNat_foldOctet b
    rw [if_pos h] at hfold
    have hplain : isPlain b = true := by
      rw [isPlain_iff]
      omega
    have hfolded : isPlain (foldOctet b) = true := by
      rw [isPlain_iff]
      omega
    rw [encodeByte_plain hplain, encodeByte_plain hfolded, List.map_singleton, List.map_singleton,
      List.singleton_inj, ← Char.toNat_inj, toNat_toLower, toNat_toLower, toNat_ofNat_octet,
      toNat_ofNat_octet, hfold, if_pos h, if_neg (by omega)]
  · rw [show foldOctet b = b by rw [← UInt8.toNat_inj, toNat_foldOctet, if_neg h]]

/-- The written form of a text in small letters is made of the octets of the folded text. -/
theorem map_toLower_encodeChars (s : String) :
    (encodeChars s).map Char.toLower =
      (Utf8.encode (foldCase s)).flatMap fun b ↦ (encodeByte b).map Char.toLower := by
  rw [encodeChars, List.map_flatMap, Utf8.encode, Utf8.encode, toList_foldCase,
    encodeChars_toLower, List.flatMap_map]
  simp only [map_toLower_encodeByte_foldOctet]

/-- Two texts have one written form in small letters just if they differ at most in the letter
case of ASCII letters. -/
theorem map_toLower_encodeChars_inj {s t : String} :
    (encodeChars s).map Char.toLower = (encodeChars t).map Char.toLower ↔
      eqFolded s t = true := by
  rw [eqFolded_iff_foldCase]
  constructor
  · intro h
    rw [← decode_folded s, h, decode_folded]
  · intro h
    rw [map_toLower_encodeChars, map_toLower_encodeChars, h]

/-! ## Pairs -/

/-- An ASCII character stands among others just if its octet stands among theirs. -/
theorem mem_encodeChars_iff {cs : List Char} (h : ∀ c ∈ cs, c.toNat < 128) {d : Char}
    (hd : d.toNat < 128) : UInt8.ofNat d.toNat ∈ Utf8.encodeChars cs ↔ d ∈ cs := by
  rw [Utf8.encodeChars_of_ascii h, List.mem_map]
  constructor
  · rintro ⟨c, hc, heq⟩
    have hlt := h c hc
    rw [← UInt8.toNat_inj, UInt8.toNat_ofNat', UInt8.toNat_ofNat', Nat.mod_eq_of_lt (by omega),
      Nat.mod_eq_of_lt (by omega), Char.toNat_inj] at heq
    exact heq ▸ hc
  · intro hmem
    exact ⟨d, hmem, rfl⟩

/-- A written text holds no octet of a separator. -/
theorem separator_not_mem (s : String) :
    ampersand ∉ Utf8.encodeChars (encodeChars s) ∧ equals ∉ Utf8.encodeChars (encodeChars s) := by
  have hascii : ∀ c ∈ encodeChars s, c.toNat < 128 :=
    fun c hc ↦ (isFormChar_of_mem_encodeChars hc).ascii
  constructor
  · intro h
    have hmem := (mem_encodeChars_iff hascii (d := '&') (by decide)).mp h
    exact (isFormChar_of_mem_encodeChars hmem).ne_separator.1 rfl
  · intro h
    have hmem := (mem_encodeChars_iff hascii (d := '=') (by decide)).mp h
    exact (isFormChar_of_mem_encodeChars hmem).ne_separator.2 rfl

/-- The octets of a written pair. -/
theorem encodeChars_encodePair (pair : String × String) :
    Utf8.encodeChars (encodePair pair) =
      Utf8.encodeChars (encodeChars pair.1) ++ equals :: Utf8.encodeChars (encodeChars pair.2) := by
  rw [encodePair, Utf8.encodeChars_append, Utf8.encodeChars_cons]
  rfl

/-- A written pair is read as that pair. -/
theorem decodePair_encodePair (pair : String × String) :
    decodePair (Utf8.encodeChars (encodePair pair)) = pair := by
  have hname : ∀ b ∈ Utf8.encodeChars (encodeChars pair.1), (b != equals) = true := by
    intro b hb
    rw [bne_iff_ne]
    rintro rfl
    exact (separator_not_mem pair.1).2 hb
  rw [encodeChars_encodePair, decodePair, List.takeWhile_append_of_pos hname,
    List.dropWhile_append_of_pos hname]
  simp [decode_encodeChars]

/-- Pairs of any texts are read back from their written form. -/
theorem parse_encodePairs (pairs : List (String × String)) : parse (encodePairs pairs) = pairs := by
  have hpair : ∀ bytes ∈ pairs.map (Utf8.encodeChars ∘ encodePair),
      ampersand ∉ bytes ∧ bytes ≠ [] := by
    intro bytes hbytes
    obtain ⟨p, -, rfl⟩ := List.mem_map.mp hbytes
    rw [Function.comp_apply, encodeChars_encodePair]
    refine ⟨?_, by simp⟩
    rw [List.mem_append, List.mem_cons]
    rintro (h | h | h)
    · exact (separator_not_mem p.1).1 h
    · exact absurd h (by decide)
    · exact (separator_not_mem p.2).1 h
  have hjoined : Utf8.encodeChars (List.intercalate ['&'] (pairs.map encodePair)) =
      List.intercalate [ampersand] (pairs.map (Utf8.encodeChars ∘ encodePair)) := by
    rw [Utf8.encodeChars, flatMap_intercalate, List.map_map]
    rfl
  -- No pairs are written as no octets, which split into one empty segment; it is skipped.
  rw [parse, encodePairs, Utf8.encode, String.toList_ofList, hjoined, parseBytes, segments]
  cases pairs with
  | nil => rfl
  | cons p rest =>
    rw [List.splitOn_intercalate _ (fun l hl ↦ (hpair l hl).1) (by simp),
      List.filter_eq_self.mpr (fun l hl ↦ by simpa using (hpair l hl).2), List.map_map]
    exact List.map_id'' decodePair_encodePair (p :: rest)

end CloudControl.Form
