/-!
# Punycode

`encode` writes the characters of a label beyond ASCII with letters and digits, and `decode` reads
them back. The ASCII characters come
first and keep their order. The others follow in ascending order, each as the number of places
that are passed over since the one before, in digits of mixed weight whose thresholds adapt to
the numbers that have been written.

The two are not defined on labels of any length: no more than `longestLabel` characters are
written, and no more than `longestText` are read.
-/

namespace CloudControl.Text.Punycode

/-- The digit of a number below 36. -/
def digit (n : Nat) : Char :=
  if n < 26 then Char.ofNat (97 + n) else Char.ofNat (22 + n)

/-- The threshold of the digit at a position. -/
def threshold (position bias : Nat) : Nat :=
  if position ≤ bias then 1 else min 26 (position - bias)

/-- A threshold is never zero. -/
theorem one_le_threshold (position bias : Nat) : 1 ≤ threshold position bias := by
  simp only [threshold]
  split <;> omega

/-- The digits of a number, from a position on. -/
def digits (bias position q : Nat) : List Char :=
  let t := threshold position bias
  if q < t then [digit q]
  else digit (t + (q - t) % (36 - t)) :: digits bias (position + 36) ((q - t) / (36 - t))
termination_by q
decreasing_by
  have hpos := one_le_threshold position bias
  have hdiv := Nat.div_le_self (q - threshold position bias) (36 - threshold position bias)
  omega

/-- Scales a number down to a bias. -/
def scale (position delta : Nat) : Nat :=
  if delta ≤ 455 then position + 36 * delta / (delta + 38) else scale (position + 36) (delta / 35)
termination_by delta
decreasing_by omega

/-- The bias after a number has been written, with `count` characters in place. -/
def adapt (delta count : Nat) (isFirst : Bool) : Nat :=
  let delta := if isFirst then delta / 700 else delta / 2
  scale 0 (delta + delta / count)

/-- What has been written so far. -/
structure State where
  /-- The places passed over since the last character was written. -/
  delta : Nat
  bias : Nat
  /-- The number of characters in place. -/
  count : Nat
  isFirst : Bool
  output : List Char

/-- Passes over one character of the label, or writes it when it is the one to be placed. -/
def visit (target : Nat) (s : State) (c : Char) : State :=
  if c.toNat < target then { s with delta := s.delta + 1 }
  else if c.toNat = target then
    { delta := 0, bias := adapt s.delta (s.count + 1) s.isFirst, count := s.count + 1,
      isFirst := false, output := s.output ++ digits s.bias 36 s.delta }
  else s

/-- Places every occurrence of the characters of ascending code points `targets`, the first of
which follows the code point `start`. -/
def place (label : List Char) : List Nat → Nat → State → List Char
  | [], _, s => s.output
  | target :: rest, start, s =>
    let s := { s with delta := s.delta + (target - start) * (s.count + 1) }
    let s := label.foldl (visit target) s
    place label rest (target + 1) { s with delta := s.delta + 1 }

/-- The written form of a label of any length, without the mark that announces it. -/
def encodeAll (label : List Char) : List Char :=
  let basic := label.filter (·.toNat < 128)
  let targets := (((label.filter (128 ≤ ·.toNat)).map Char.toNat).mergeSort).eraseDups
  let start := if basic.isEmpty then [] else basic ++ ['-']
  place label targets 128 ⟨0, 72, basic.length, true, start⟩

/-- The characters that a label may have to be written. -/
def longestLabel : Nat := 1000

/-- The written form of a label, without the mark that announces it, unless the label is too
long. -/
def encode? (label : List Char) : Option (List Char) :=
  if label.length ≤ longestLabel then some (encodeAll label) else none

/-! ## Reading -/

/-- The value of a digit. -/
def digitValue? (c : Char) : Option Nat :=
  if 'a' ≤ c && c ≤ 'z' then some (c.toNat - 97)
  else if '0' ≤ c && c ≤ '9' then some (c.toNat - 22)
  else none

/-- The first number that neither a delta nor a weight may reach. -/
def numberBound : Nat := 4294967296

/-- Adds a number in digits to `sum`, and returns the text behind it. -/
def readNumber? (bias : Nat) : List Char → Nat → Nat → Nat → Option (Nat × List Char)
  | [], _, _, _ => none
  | c :: rest, position, weight, sum => do
    let d ← digitValue? c
    let sum := sum + d * weight
    let t := threshold position bias
    if numberBound ≤ sum then none
    else if d < t then some (sum, rest)
    else if numberBound ≤ weight * (36 - t) then none
    else readNumber? bias rest (position + 36) (weight * (36 - t)) sum

/-- A number takes at least one digit. -/
theorem length_of_readNumber? {bias : Nat} {cs : List Char} {position weight sum : Nat}
    {r : Nat × List Char} (h : readNumber? bias cs position weight sum = some r) :
    r.2.length < cs.length := by
  induction cs generalizing position weight sum with
  | nil => simp [readNumber?] at h
  | cons c rest ih =>
    simp only [readNumber?, Option.bind_eq_bind, Option.bind_eq_some_iff] at h
    obtain ⟨d, -, h⟩ := h
    split at h
    · cases h
    · split at h
      · cases h
        simp
      · split at h
        · cases h
        · exact Nat.lt_succ_of_lt (ih h)

/-- The character of a code point. -/
def charOf? (n : Nat) : Option Char :=
  if n.isValidChar then some (Char.ofNat n) else none

/-- Puts the characters that numbers describe into a label, where `index` is the place behind the
last one and `code` its code point. -/
def fill? (bias code index : Nat) (label cs : List Char) : Option (List Char) :=
  if cs.isEmpty then some label
  else
    match _h : readNumber? bias cs 36 1 index with
    | none => none
    | some (sum, rest) =>
      let count := label.length + 1
      let place := sum % count
      match charOf? (code + sum / count) with
      | none => none
      | some c =>
        fill? (adapt (sum - index) count (index = 0)) (code + sum / count)
          (place + 1) (label.take place ++ c :: label.drop place) rest
termination_by cs.length
decreasing_by exact length_of_readNumber? _h

/-- The characters that a written form may have to be read. -/
def longestText : Nat := 2000

/-- The label of a written form in small letters, without the mark that announces it. -/
def decode? (cs : List Char) : Option (List Char) :=
  let tail := (cs.reverse.takeWhile (· != '-')).reverse
  let basic := cs.take (cs.length - tail.length - 1)
  if longestText < cs.length then none
  else if basic.isEmpty && tail.length < cs.length then none
  else fill? 72 128 0 basic tail

end CloudControl.Text.Punycode
