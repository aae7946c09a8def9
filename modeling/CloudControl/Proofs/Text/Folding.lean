import CloudControl.Text.Ascii
import CloudControl.Text.Lowercase

/-!
# Folding the case of ASCII letters

Folding acts on each character by itself, moves no character in or out of the ASCII range and
never makes a character that is not a letter. Lower-casing an ASCII text is folding it.
-/

namespace CloudControl.Text

/-- Folding adds 32 to the code point of a capital. -/
theorem toNat_toLower (c : Char) :
    c.toLower.toNat = if 65 ≤ c.toNat ∧ c.toNat ≤ 90 then c.toNat + 32 else c.toNat := by
  have hbounds : (c.val ≥ 'A'.val ∧ c.val ≤ 'Z'.val) ↔ (65 ≤ c.toNat ∧ c.toNat ≤ 90) := by
    rw [ge_iff_le, UInt32.le_iff_toNat_le, UInt32.le_iff_toNat_le]
    rfl
  unfold Char.toLower
  split
  · next h =>
    have hrange := hbounds.mp h
    rw [if_pos hrange]
    show (c.val + ('a'.val - 'A'.val)).toNat = c.val.toNat + 32
    have hle : c.val.toNat ≤ 90 := hrange.2
    rw [UInt32.toNat_add]
    exact Nat.mod_eq_of_lt (Nat.lt_of_le_of_lt (Nat.add_le_add_right hle 32) (by decide))
  · next h => rw [if_neg (fun hrange ↦ h (hbounds.mpr hrange))]

/-- Folding keeps the characters that are not ASCII. -/
theorem toLower_of_not_ascii {c : Char} (h : 128 ≤ c.toNat) : c.toLower = c := by
  rw [← Char.toNat_inj, toNat_toLower, if_neg (by omega)]

/-- Folding keeps the ASCII characters among themselves. -/
theorem toLower_ascii_iff {c : Char} : c.toLower.toNat < 128 ↔ c.toNat < 128 := by
  rw [toNat_toLower]
  split <;> omega

/-- A folded character is its own folded form. -/
@[simp]
theorem toLower_toLower (c : Char) : c.toLower.toLower = c.toLower := by
  rw [← Char.toNat_inj, toNat_toLower c.toLower, toNat_toLower c]
  by_cases hcapital : 65 ≤ c.toNat ∧ c.toNat ≤ 90
  · rw [if_pos hcapital, if_neg (by omega)]
  · rw [if_neg hcapital, if_neg hcapital]

/-- A character other than a letter is the folded form of itself only. -/
theorem toLower_eq_iff_of_not_letter {c d : Char} (h : isLetter d = false) :
    c.toLower = d ↔ c = d := by
  have hd : ¬ (97 ≤ d.toNat ∧ d.toNat ≤ 122) ∧ ¬ (65 ≤ d.toNat ∧ d.toNat ≤ 90) := by
    simpa [isLetter, Char.le_def, UInt32.le_iff_toNat_le] using h
  rw [← Char.toNat_inj, ← Char.toNat_inj, toNat_toLower]
  split <;> omega

/-- A character other than a letter stands among folded characters just if it stood among them
before. -/
theorem mem_map_toLower_iff {cs : List Char} {d : Char} (h : isLetter d = false) :
    d ∈ cs.map Char.toLower ↔ d ∈ cs := by
  rw [List.mem_map]
  constructor
  · rintro ⟨c, hc, heq⟩
    exact (toLower_eq_iff_of_not_letter h).mp heq ▸ hc
  · intro hd
    exact ⟨d, hd, (toLower_eq_iff_of_not_letter h).mpr rfl⟩

/-- The characters of a folded text. -/
@[simp]
theorem toList_foldCase (s : String) : (foldCase s).toList = s.toList.map Char.toLower := by
  simp [foldCase]

/-- Two texts differ at most in letter case if they have one folded form. -/
theorem eqFolded_iff_foldCase {s t : String} : eqFolded s t = true ↔ foldCase s = foldCase t := by
  rw [eqFolded_iff, ← String.toList_inj, toList_foldCase, toList_foldCase]

/-- Texts that differ at most in letter case can stand for each other in a comparison. -/
theorem eqFolded_congr {s t : String} (h : eqFolded s t = true) (u : String) :
    eqFolded s u = eqFolded t u := by
  rw [Bool.eq_iff_iff, eqFolded_iff_foldCase, eqFolded_iff_foldCase, eqFolded_iff_foldCase.mp h]

/-- Characters with capitals among them stand before the same ones in small letters. -/
theorem lt_of_map_toLower {cs ds : List Char} (h : cs.map Char.toLower = ds) (hne : cs ≠ ds) :
    cs < ds := by
  induction cs generalizing ds with
  | nil => exact absurd h hne
  | cons c cs ih =>
    rw [← h, List.map_cons, List.cons_lt_cons_iff]
    by_cases hc : c.toLower = c
    · refine .inr ⟨hc.symm, ih rfl fun hcs ↦ hne ?_⟩
      rw [← h, List.map_cons, hc, ← hcs]
    · left
      have hnat : c.toNat ≠ c.toLower.toNat := fun heq ↦ hc (Char.toNat_inj.mp heq).symm
      show c.val < c.toLower.val
      rw [UInt32.lt_iff_toNat_lt]
      show c.toNat < c.toLower.toNat
      rw [toNat_toLower] at hnat ⊢
      split at hnat
      · next hcapital =>
        rw [if_pos hcapital]
        omega
      · exact absurd rfl hnat

/-- A text with capitals stands before the same one in small letters. -/
theorem lt_of_eqFolded {s t : String} (h : eqFolded s t = true) (hne : s ≠ t)
    (ht : foldCase t = t) : s < t := by
  rw [eqFolded_iff_foldCase, ht] at h
  rw [String.lt_iff]
  refine lt_of_map_toLower ?_ fun heq ↦ hne (String.toList_inj.mp heq)
  rw [← toList_foldCase, h]

/-- Lower-casing ASCII characters folds each of them, whatever stands in front of them. -/
theorem lowercaseFrom_of_ascii {cs : List Char} (h : ∀ c ∈ cs, c.toNat < 128)
    (before : List Char) : lowercaseFrom before cs = cs.map Char.toLower := by
  induction cs generalizing before with
  | nil => rfl
  | cons c cs ih =>
    obtain ⟨hc, hcs⟩ := List.forall_mem_cons.mp h
    have hsigma : (c == 'Σ') = false := by
      rw [beq_eq_false_iff_ne]
      rintro rfl
      exact absurd hc (by decide)
    simp [lowercaseFrom, hsigma, lowercaseChar_of_ascii hc, ih hcs]

/-- A text is ASCII if every character of it is checked to be. -/
theorem ascii_of_all {s : String} (h : (s.toList.all fun c ↦ c.toNat < 128) = true) :
    ∀ c ∈ s.toList, c.toNat < 128 :=
  fun c hc ↦ of_decide_eq_true (List.all_eq_true.mp h c hc)

/-- Lower-casing an ASCII text folds its letter case. -/
theorem lowercase_of_ascii {s : String} (h : ∀ c ∈ s.toList, c.toNat < 128) :
    lowercase s = foldCase s := by
  rw [lowercase, lowercaseFrom_of_ascii h, foldCase]

/-- Lower-casing a text that ends with ASCII characters folds each of these, whatever the others
are. -/
theorem exists_lowercaseFrom_append (before cs : List Char) {ds : List Char}
    (h : ∀ c ∈ ds, c.toNat < 128) :
    ∃ front, lowercaseFrom before (cs ++ ds) = front ++ ds.map Char.toLower := by
  induction cs generalizing before with
  | nil => exact ⟨[], lowercaseFrom_of_ascii h before⟩
  | cons c cs ih =>
    obtain ⟨front, hfront⟩ := ih (c :: before)
    exact ⟨_, by rw [List.cons_append, lowercaseFrom, hfront, ← List.append_assoc]⟩

/-- A text that differs from an ASCII one at most in letter case is that one once the case of both
is folded. -/
theorem lowercase_of_eqFolded {s t : String} (ht : ∀ c ∈ t.toList, c.toNat < 128)
    (h : eqFolded s t = true) : lowercase s = foldCase t := by
  rw [eqFolded_iff_foldCase] at h
  have hfolded : s.toList.map Char.toLower = t.toList.map Char.toLower := by
    rw [← toList_foldCase, ← toList_foldCase, h]
  have hs : ∀ c ∈ s.toList, c.toNat < 128 := by
    intro c hc
    have hmem : c.toLower ∈ t.toList.map Char.toLower := hfolded ▸ List.mem_map_of_mem hc
    obtain ⟨d, hd, heq⟩ := List.mem_map.mp hmem
    rw [← toLower_ascii_iff, ← heq, toLower_ascii_iff]
    exact ht d hd
  rw [lowercase_of_ascii hs, h]

/-- A text that differs from an ASCII one at most in letter case still does once it is
lower-cased. -/
theorem eqFolded_lowercase {s t : String} (ht : ∀ c ∈ t.toList, c.toNat < 128)
    (h : eqFolded s t = true) : eqFolded (lowercase s) t = true := by
  rw [lowercase_of_eqFolded ht h, eqFolded_iff_foldCase, ← String.toList_inj]
  simp only [toList_foldCase, List.map_map, Function.comp_def, toLower_toLower]

end CloudControl.Text
