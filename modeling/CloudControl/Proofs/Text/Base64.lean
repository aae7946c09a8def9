import CloudControl.Text.Base64

/-!
# Base64 is read back as it was written

`decode_encode` follows the groups of three octets. Every group but the last gives four letters
none of which is the padding sign, so the reader takes it for a whole group; the two padded
groups leave unused bits that are zero.
-/

namespace CloudControl.Text.Base64

/-- A letter is not the padding sign. -/
theorem letter_ne_padding {n : Nat} (h : n < 64) : letter n ≠ '=' := by
  have : ∀ n : Fin 64, letter n ≠ '=' := by decide
  exact this ⟨n, h⟩

/-- A group of four letters is read as three octets, and then what follows it. -/
theorem decodeList_group {a b c d : Nat} (ha : a < 64) (hb : b < 64) (hc : c < 64) (hd : d < 64)
    {rest : List Char} {bytes : List UInt8} (hrest : decodeList rest = some bytes) :
    decodeList (letter a :: letter b :: letter c :: letter d :: rest) =
      some (UInt8.ofNat (a * 4 + b / 16) :: UInt8.ofNat (b % 16 * 16 + c / 4) ::
        UInt8.ofNat (c % 4 * 64 + d) :: bytes) := by
  rw [decodeList]
  · simp [value?_letter, ha, hb, hc, hd, hrest]
  · intro hpadding _ _
    exact letter_ne_padding hc hpadding
  · intro hpadding _
    exact letter_ne_padding hd hpadding

/-- Octets are read back from their letters. -/
theorem decodeList_encodeList (bytes : List UInt8) :
    decodeList (encodeList bytes) = some bytes := by
  fun_induction encodeList bytes with
  | case1 => rfl
  | case2 a =>
    have ha := a.toNat_lt
    have hunused : a.toNat % 4 * 16 % 16 = 0 := by
      omega
    rw [decodeList, value?_letter (by omega), value?_letter (by omega)]
    simp only [Option.bind_eq_bind, Option.bind_some, if_pos hunused, Option.some.injEq,
      List.cons.injEq, and_true, ← UInt8.toNat_inj, UInt8.toNat_ofNat']
    omega
  | case3 a b =>
    have ha := a.toNat_lt
    have hb := b.toNat_lt
    have hunused : b.toNat % 16 * 4 % 4 = 0 := by
      omega
    rw [decodeList, value?_letter (by omega), value?_letter (by omega), value?_letter (by omega)]
    · simp only [Option.bind_eq_bind, Option.bind_some, if_pos hunused, Option.some.injEq,
        List.cons.injEq, and_true, ← UInt8.toNat_inj, UInt8.toNat_ofNat']
      omega
    · exact letter_ne_padding (by omega)
  | case4 a b c rest ih =>
    have ha := a.toNat_lt
    have hb := b.toNat_lt
    have hc := c.toNat_lt
    rw [decodeList_group (by omega) (by omega) (by omega) (by omega) ih]
    simp only [Option.some.injEq, List.cons.injEq, and_true, ← UInt8.toNat_inj, UInt8.toNat_ofNat']
    omega

/-- The written form of octets is read as those octets. -/
@[simp]
theorem decode_encode (bytes : List UInt8) : decode (encode bytes) = some bytes := by
  rw [decode, encode, String.toList_ofList, decodeList_encodeList]

end CloudControl.Text.Base64
