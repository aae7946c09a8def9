import CloudControl.Json.Reader

/-!
# Passing over JSON

`passValue?` passes over a value that nobody asks for. The value must be JSON by its form, but its
numbers may be out of reach, its strings may hold halves of surrogate pairs, and its containers may
be nested to any depth.
-/

namespace CloudControl.Json

/-- Passes over a string after its opening quote. -/
def passString? (cs : List Char) : Option (List Char) :=
  (takeParts cs).map (·.2)

/-- Passes over the name of a member after its opening quote, and the colon behind it. -/
def passName? (cs : List Char) : Option (List Char) := do
  match skip (← passString? cs) with
  | ':' :: rest => some rest
  | _ => none

/-- Passes over a number. -/
def passNumber? : List Char → Option (List Char)
  | '-' :: rest => (takeNumeral true rest).map (·.2)
  | cs => (takeNumeral false cs).map (·.2)

/-- Passes over a word, a string or a number. -/
def passPlain? : List Char → Option (List Char)
  | 'n' :: rest => (takeWord ['u', 'l', 'l'] null rest).map (·.2)
  | 't' :: rest => (takeWord ['r', 'u', 'e'] null rest).map (·.2)
  | 'f' :: rest => (takeWord ['a', 'l', 's', 'e'] null rest).map (·.2)
  | '"' :: rest => passString? rest
  | cs => passNumber? cs

mutual

/-- Passes over a value, and over what is left of the containers around it, which `closers` end,
the innermost first. -/
def passNested? (fuel : Nat) (closers cs : List Char) : Option (List Char) :=
  match fuel with
  | 0 => none
  | fuel + 1 =>
    match skip cs with
    | '[' :: rest =>
      match skip rest with
      | ']' :: rest => passEnd? fuel closers rest
      | rest => passNested? fuel (']' :: closers) rest
    | '\x7b' :: rest =>
      match skip rest with
      | '\x7d' :: rest => passEnd? fuel closers rest
      | rest => passMember? fuel ('\x7d' :: closers) rest
    | cs => (passPlain? cs).bind (passEnd? fuel closers)

/-- Passes over a member of the innermost container, and over what is left of all of them. -/
def passMember? (fuel : Nat) (closers cs : List Char) : Option (List Char) :=
  match fuel with
  | 0 => none
  | fuel + 1 =>
    match skip cs with
    | '"' :: rest => (passName? rest).bind (passNested? fuel closers)
    | _ => none

/-- Passes over what is left of containers behind a value in the innermost one. -/
def passEnd? (fuel : Nat) (closers cs : List Char) : Option (List Char) :=
  match fuel, closers with
  | 0, _ => none
  | _ + 1, [] => some cs
  | fuel + 1, closer :: outer =>
    match skip cs with
    | [] => none
    | c :: rest =>
      if c == closer then passEnd? fuel outer rest
      else if c != ',' then none
      else if closer == ']' then passNested? fuel closers rest
      else passMember? fuel closers rest

end

/-- Passes over a value. -/
def passValue? (cs : List Char) : Option (List Char) :=
  passNested? (2 * cs.length + 2) [] cs

end CloudControl.Json
