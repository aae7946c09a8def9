/-!
# Searching in texts

Whether a text holds another one, and the start of a text.
-/

namespace CloudControl.Text

/-- A list of characters holds another one without gaps. -/
def hasInfix (part : List Char) : List Char → Bool
  | [] => part.isEmpty
  | c :: rest => part.isPrefixOf (c :: rest) || hasInfix part rest

/-- A text holds another one. -/
def holds (s part : String) : Bool :=
  hasInfix part.toList s.toList

/-- A text ends in another one. -/
def endsIn (s ending : String) : Bool :=
  ending.toList.isSuffixOf s.toList

/-- At most a number of characters from the start of a text. -/
def firstChars (count : Nat) (s : String) : String :=
  String.ofList (s.toList.take count)

/-- A list of characters is held just if it is a part of the other one without gaps. -/
theorem hasInfix_iff {part cs : List Char} : hasInfix part cs = true ↔ part <:+: cs := by
  induction cs with
  | nil => rw [hasInfix, List.isEmpty_iff, List.infix_nil]
  | cons c rest ih =>
    rw [hasInfix, Bool.or_eq_true, List.isPrefixOf_iff_prefix, ih, List.infix_cons_iff]

/-- The parts of a list of characters around it show that it is held. -/
theorem hasInfix_append (front part back : List Char) :
    hasInfix part (front ++ part ++ back) = true :=
  hasInfix_iff.mpr ⟨front, back, rfl⟩

end CloudControl.Text
