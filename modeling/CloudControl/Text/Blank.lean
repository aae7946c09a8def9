/-!
# Blank characters

A blank is a character with the Unicode property `White_Space`. `trim` drops the blanks at
both ends of a text.
-/

namespace CloudControl.Text

/-- The characters with the Unicode property `White_Space`. -/
def isBlank (c : Char) : Bool :=
  let n := c.toNat
  (9 ≤ n && n ≤ 13) || n == 0x20 || n == 0x85 || n == 0xA0 || n == 0x1680 ||
    (0x2000 ≤ n && n ≤ 0x200A) || n == 0x2028 || n == 0x2029 || n == 0x202F ||
    n == 0x205F || n == 0x3000

/-- Drops the blanks at the front of a character list. -/
def trimStart (cs : List Char) : List Char :=
  cs.dropWhile isBlank

/-- Drops the blanks at both ends of a character list. -/
def trimList (cs : List Char) : List Char :=
  (trimStart (trimStart cs).reverse).reverse

/-- Drops the blanks at both ends of a text. -/
def trim (s : String) : String :=
  String.ofList (trimList s.toList)

@[simp]
theorem trimStart_nil : trimStart [] = [] := rfl

/-- A list that starts with a character other than a blank is left alone by `trimStart`. -/
theorem trimStart_cons_of_not_blank {c : Char} {cs : List Char} (h : isBlank c = false) :
    trimStart (c :: cs) = c :: cs := by
  simp [trimStart, List.dropWhile, h]

/-- A list that does not start with a blank is left alone by `trimStart`. -/
theorem trimStart_of_head {cs : List Char} (h : ∀ c ∈ cs.head?, isBlank c = false) :
    trimStart cs = cs := by
  cases cs with
  | nil => rfl
  | cons c rest => exact trimStart_cons_of_not_blank (h c rfl)

/-- A list without a blank at either end is left alone by `trimList`. -/
theorem trimList_of_ends {cs : List Char} (hhead : ∀ c ∈ cs.head?, isBlank c = false)
    (hlast : ∀ c ∈ cs.getLast?, isBlank c = false) : trimList cs = cs := by
  rw [← List.head?_reverse] at hlast
  rw [trimList, trimStart_of_head hhead, trimStart_of_head hlast, List.reverse_reverse]

end CloudControl.Text
