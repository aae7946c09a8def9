import CloudControl.Json.Printer
import CloudControl.Json.Reader

/-!
# Strings are read back as they were printed

A character of a string is written as an escape of one letter, as a unit of four digits, or as
itself (`escapeChar_cases`), and each of these is read as one part that stands for the character.
`takeString_escaped` takes a whole string off the front of its written form, whatever follows the
closing quote.
-/

namespace CloudControl.Json

open Text

/-- A part of a string stands for a character: as itself, or as the unit of a control character. -/
inductive StringPart.Stands (c : Char) : StringPart → Prop where
  | plain : Stands c (.plain c)
  | unit (h : c.toNat < 32) : Stands c (.unit c.toNat)

/-- The written form of a character is an escape of one letter, the unit of a control character, or
the character itself. -/
theorem escapeChar_cases (c : Char) :
    (∃ e, escaped? e = some c ∧ escapeChar c = ['\\', e]) ∨
    (c.toNat < 32 ∧
      escapeChar c = ['\\', 'u', '0', '0', Hex.digit (c.toNat / 16), Hex.digit (c.toNat % 16)]) ∨
    (c ≠ '"' ∧ c ≠ '\\' ∧ 32 ≤ c.toNat ∧ escapeChar c = [c]) := by
  by_cases hletter : c ∈ ['"', '\\', '\n', '\r', '\t', '\x08', '\x0c']
  · left
    simp only [List.mem_cons, List.not_mem_nil, or_false] at hletter
    rcases hletter with rfl | rfl | rfl | rfl | rfl | rfl | rfl <;> exact ⟨_, rfl, rfl⟩
  right
  simp only [List.mem_cons, List.not_mem_nil, or_false, not_or] at hletter
  obtain ⟨hquote, hslash, hline, hreturn, htab, hback, hfeed⟩ := hletter
  have hback : ¬ c.toNat = 8 := fun h ↦ hback (Char.toNat_inj.mp h)
  have hfeed : ¬ c.toNat = 12 := fun h ↦ hfeed (Char.toNat_inj.mp h)
  by_cases hcontrol : c.toNat < 32
  · left
    simp [escapeChar, *]
  · right
    simp only [escapeChar, beq_iff_eq, hquote, hslash, hline, hreturn, htab, hback, hfeed,
      hcontrol, if_false, ne_eq, not_false_eq_true, and_true, true_and]
    omega

/-! ## Reading parts -/

/-- The unit of an octet is read from its two digits behind two zeros. -/
theorem unit?_octet {n : Nat} (h : n < 256) :
    unit? '0' '0' (Hex.digit (n / 16)) (Hex.digit (n % 16)) = some n := by
  have hzero : Hex.value? '0' = some 0 := by decide
  have hhigh : Hex.value? (Hex.digit (n / 16)) = some (n / 16) := Hex.value?_digit (by omega)
  have hlow : Hex.value? (Hex.digit (n % 16)) = some (n % 16) := Hex.value?_digit (by omega)
  simp only [unit?, hzero, hhigh, hlow, bind, Option.bind]
  congr 1
  omega

section

variable (rest : List Char)

/-- A unit is read as a part. -/
theorem takeParts_unit {a b c d : Char} {n : Nat} (h : unit? a b c d = some n) :
    takeParts ('\\' :: 'u' :: a :: b :: c :: d :: rest) =
      (takeParts rest).map fun p ↦ (.unit n :: p.1, p.2) := by
  rw [takeParts, h]
  cases takeParts rest <;> rfl

/-- An escape of one letter is read as the character that it stands for. -/
theorem takeParts_escape {e c : Char} (h : escaped? e = some c) :
    takeParts ('\\' :: e :: rest) = (takeParts rest).map fun p ↦ (.plain c :: p.1, p.2) := by
  rw [takeParts]
  · rw [h]
    cases takeParts rest <;> rfl
  · rintro a b c d rest rfl
    cases h

/-- Any character other than a quote, a backslash and a control character is read as itself. -/
theorem takeParts_plain {c : Char} (hquote : c ≠ '"') (hslash : c ≠ '\\')
    (hcontrol : 32 ≤ c.toNat) :
    takeParts (c :: rest) = (takeParts rest).map fun p ↦ (.plain c :: p.1, p.2) := by
  rw [takeParts]
  · have hallowed : (decide (c.toNat < 32) || c == '\\') = false := by simp [hslash, hcontrol]
    rw [hallowed, if_neg Bool.false_ne_true]
    cases takeParts rest <;> rfl
  · exact hquote
  · rintro a b c d rest rfl
    exact absurd rfl hslash
  · rintro e rest rfl
    exact absurd rfl hslash

end

/-- The written form of a character is read as a part that stands for it. -/
theorem takeParts_escapeChar (c : Char) :
    ∃ part : StringPart, part.Stands c ∧ ∀ rest, takeParts (escapeChar c ++ rest) =
      (takeParts rest).map fun p ↦ (part :: p.1, p.2) := by
  rcases escapeChar_cases c with ⟨e, hletter, heq⟩ | ⟨hcontrol, heq⟩ |
    ⟨hquote, hslash, hcontrol, heq⟩
  · exact ⟨_, .plain, fun rest ↦ heq ▸ takeParts_escape rest hletter⟩
  · exact ⟨_, .unit hcontrol, fun rest ↦ heq ▸ takeParts_unit rest (unit?_octet (by omega))⟩
  · exact ⟨_, .plain, fun rest ↦ heq ▸ takeParts_plain rest hquote hslash hcontrol⟩

/-- A part that stands for a character is joined to the others as that character. -/
theorem joinParts_cons {c : Char} {part : StringPart} (h : part.Stands c)
    (parts : List StringPart) :
    joinParts (part :: parts) = (joinParts parts).map (c :: ·) := by
  cases h with
  | plain => rw [joinParts]
  | unit h =>
    -- A control character is no half of a surrogate pair, whatever part comes next.
    have hhigh : isHighSurrogate c.toNat = false := by simp [isHighSurrogate]; omega
    have hlow : isLowSurrogate c.toNat = false := by simp [isLowSurrogate]; omega
    have hchar : Char.ofNat c.toNat = c := Char.ofNat_toNat c
    rcases parts with _ | ⟨_ | lo, rest⟩
    · simp only [joinParts, hhigh, hlow, hchar, Bool.or_self, Bool.false_eq_true, if_false]
    · simp only [joinParts, hhigh, hlow, hchar, Bool.or_self, Bool.false_eq_true, if_false]
    · rw [joinParts, hhigh, hlow, hchar]
      rfl

/-! ## Reading strings -/

/-- The written forms of characters are read up to the closing quote as parts that join to those
characters. -/
theorem exists_takeParts (cs rest : List Char) :
    ∃ parts, takeParts (cs.flatMap escapeChar ++ '"' :: rest) = some (parts, rest) ∧
      joinParts parts = some cs := by
  induction cs with
  | nil => exact ⟨[], by rw [List.flatMap_nil, List.nil_append, takeParts], by rw [joinParts]⟩
  | cons c cs ih =>
    obtain ⟨parts, htaken, hjoined⟩ := ih
    obtain ⟨part, hstands, hpart⟩ := takeParts_escapeChar c
    refine ⟨part :: parts, ?_, ?_⟩
    · rw [List.flatMap_cons, List.append_assoc, hpart, htaken, Option.map_some]
    · rw [joinParts_cons hstands, hjoined, Option.map_some]

/-- A string is taken off the front of its written form. -/
theorem takeString_escaped (s : String) (rest : List Char) :
    takeString (s.toList.flatMap escapeChar ++ '"' :: rest) = some (s, rest) := by
  obtain ⟨parts, htaken, hjoined⟩ := exists_takeParts s.toList rest
  simp only [takeString, htaken, hjoined, Option.bind_eq_bind, Option.bind_some,
    String.ofList_toList]

end CloudControl.Json
