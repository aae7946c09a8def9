import CloudControl.Text.Utf8

/-!
# UTF-8 is read back as it was written

`decode_encode` says that every text is the reading of its octets. A character takes one to four
octets, and `head` finds it again in front of whatever follows; the four lemmas on `head` are
the four lengths. `encodeChars_of_ascii` is the form of characters that are ASCII.
-/

namespace CloudControl.Text.Utf8

/-- The range of a continuation octet. -/
theorem isTail_iff (b : UInt8) : isTail b = true ↔ 0x80 ≤ b.toNat ∧ b.toNat ≤ 0xBF := by
  simp [isTail, UInt8.le_iff_toNat_le]

/-- The range of a second octet, which four of the first octets make narrower. -/
theorem isSecond_iff (lead b : UInt8) : isSecond lead b = true ↔
    (0x80 ≤ b.toNat ∧ b.toNat ≤ 0xBF) ∧ (lead.toNat = 0xE0 → 0xA0 ≤ b.toNat) ∧
      (lead.toNat = 0xED → b.toNat ≤ 0x9F) ∧ (lead.toNat = 0xF0 → 0x90 ≤ b.toNat) ∧
      (lead.toNat = 0xF4 → b.toNat ≤ 0x8F) := by
  unfold isSecond
  simp only [beq_iff_eq, ← UInt8.toNat_inj, UInt8.reduceToNat]
  split
  · simp [UInt8.le_iff_toNat_le]; omega
  · split
    · simp [UInt8.le_iff_toNat_le]; omega
    · split
      · simp [UInt8.le_iff_toNat_le]; omega
      · split
        · simp [UInt8.le_iff_toNat_le]; omega
        · rw [isTail_iff]
          omega

section

variable {c : Char} {lead b d e : UInt8}

/-- A character of one octet is found in front of any octets. -/
theorem head_of_one (rest : List UInt8) (hlead : lead.toNat = c.toNat) (hc : c.toNat ≤ 0x7F) :
    head lead rest = (c, 0) := by
  unfold head
  simp only [UInt8.lt_iff_toNat_lt, UInt8.reduceToNat]
  rw [if_pos (by omega), hlead, Char.ofNat_toNat]

/-- A character of two octets is found in front of any octets. -/
theorem head_of_two (rest : List UInt8) (hlead : lead.toNat = c.toNat / 64 % 32 + 0xC0)
    (hb : b.toNat = c.toNat % 64 + 0x80) (hlow : 0x7F < c.toNat) (hhigh : c.toNat ≤ 0x7FF) :
    head lead (b :: rest) = (c, 1) := by
  have hvalue : lead.toNat % 32 * 64 + b.toNat % 64 = c.toNat := by
    omega
  have hsecond : isSecond lead b = true := by
    rw [isSecond_iff]
    omega
  unfold head payload
  simp only [UInt8.lt_iff_toNat_lt, UInt8.reduceToNat]
  rw [if_neg (by omega), if_neg (by omega), if_pos (by omega), if_pos hsecond, hvalue,
    Char.ofNat_toNat]

/-- A character of three octets is found in front of any octets. That it is no surrogate keeps
its second octet out of the range that follows `0xED`. -/
theorem head_of_three (rest : List UInt8) (hlead : lead.toNat = c.toNat / 4096 % 16 + 0xE0)
    (hb : b.toNat = c.toNat / 64 % 64 + 0x80) (hd : d.toNat = c.toNat % 64 + 0x80)
    (hlow : 0x7FF < c.toNat) (hhigh : c.toNat ≤ 0xFFFF) :
    head lead (b :: d :: rest) = (c, 2) := by
  have hvalid : c.toNat.isValidChar := c.valid
  simp only [Nat.isValidChar] at hvalid
  have hvalue : lead.toNat % 16 * 4096 + b.toNat % 64 * 64 + d.toNat % 64 = c.toNat := by
    omega
  have hsecond : isSecond lead b = true := by
    rw [isSecond_iff]
    omega
  have htail : isTail d = true := by
    rw [isTail_iff]
    omega
  unfold head payload
  simp only [UInt8.lt_iff_toNat_lt, UInt8.reduceToNat, hsecond, htail]
  rw [if_neg (by omega), if_neg (by omega), if_neg (by omega), if_pos (by omega)]
  simp [hvalue]

/-- A character of four octets is found in front of any octets. -/
theorem head_of_four (rest : List UInt8) (hlead : lead.toNat = c.toNat / 262144 % 8 + 0xF0)
    (hb : b.toNat = c.toNat / 4096 % 64 + 0x80) (hd : d.toNat = c.toNat / 64 % 64 + 0x80)
    (he : e.toNat = c.toNat % 64 + 0x80) (hlow : 0xFFFF < c.toNat) :
    head lead (b :: d :: e :: rest) = (c, 3) := by
  have hvalid : c.toNat.isValidChar := c.valid
  simp only [Nat.isValidChar] at hvalid
  have hvalue : lead.toNat % 8 * 262144 + b.toNat % 64 * 4096 + d.toNat % 64 * 64 +
      e.toNat % 64 = c.toNat := by
    omega
  have hsecond : isSecond lead b = true := by
    rw [isSecond_iff]
    omega
  have htail : isTail d = true ∧ isTail e = true := by
    rw [isTail_iff, isTail_iff]
    omega
  unfold head payload
  simp only [UInt8.lt_iff_toNat_lt, UInt8.reduceToNat, hsecond, htail]
  rw [if_neg (by omega), if_neg (by omega), if_neg (by omega), if_neg (by omega),
    if_pos (by omega)]
  simp [hvalue]

end

/-- The octets of a character are read as that character, whatever follows them. -/
theorem decodeChars_encodeChar (c : Char) (rest : List UInt8) :
    decodeChars (String.utf8EncodeChar c ++ rest) = c :: decodeChars rest := by
  have hvalid : c.toNat.isValidChar := c.valid
  simp only [Nat.isValidChar] at hvalid
  unfold String.utf8EncodeChar
  simp only [show c.val.toNat = c.toNat from rfl]
  -- One case for each length, from one octet to four.
  split
  · rw [List.singleton_append, decodeChars, head_of_one (c := c) rest (by simp; omega) (by omega)]
    rfl
  · split
    · simp only [List.cons_append, List.nil_append]
      rw [decodeChars, head_of_two (c := c) rest (by simp; omega) (by simp; omega) (by omega)
        (by omega)]
      rfl
    · split
      · simp only [List.cons_append, List.nil_append]
        rw [decodeChars, head_of_three (c := c) rest (by simp; omega) (by simp; omega)
          (by simp; omega) (by omega) (by omega)]
        rfl
      · simp only [List.cons_append, List.nil_append]
        rw [decodeChars, head_of_four (c := c) rest (by simp; omega) (by simp; omega)
          (by simp; omega) (by simp; omega) (by omega)]
        rfl

/-- The octets of characters are read as those characters. -/
theorem decodeChars_encodeChars (cs : List Char) : decodeChars (encodeChars cs) = cs := by
  induction cs with
  | nil => simp [decodeChars]
  | cons c cs ih => rw [encodeChars_cons, decodeChars_encodeChar, ih]

/-- The octets of a text are read as that text. -/
@[simp]
theorem decode_encode (s : String) : decode (encode s) = s := by
  rw [decode, encode, decodeChars_encodeChars, String.ofList_toList]

@[simp]
theorem encodeChars_append (cs ds : List Char) :
    encodeChars (cs ++ ds) = encodeChars cs ++ encodeChars ds := by
  simp [encodeChars]

/-- An ASCII character is one octet. -/
theorem encodeChar_of_ascii {c : Char} (h : c.toNat < 128) :
    String.utf8EncodeChar c = [UInt8.ofNat c.toNat] := by
  have hval : c.val.toNat ≤ 0x7F := Nat.le_of_lt_succ h
  rw [String.utf8EncodeChar]
  exact if_pos hval

/-- ASCII characters are one octet each. -/
theorem encodeChars_of_ascii {cs : List Char} (h : ∀ c ∈ cs, c.toNat < 128) :
    encodeChars cs = cs.map fun c ↦ UInt8.ofNat c.toNat := by
  induction cs with
  | nil => rfl
  | cons c cs ih =>
    obtain ⟨hc, hcs⟩ := List.forall_mem_cons.mp h
    rw [encodeChars_cons, encodeChar_of_ascii hc, ih hcs]
    rfl

end CloudControl.Text.Utf8
