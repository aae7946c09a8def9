import CloudControl.Form
import CloudControl.Params
import CloudControl.Text.Ascii
import CloudControl.Text.Lowercase

/-!
# The canonical string

What is signed is one text: the parameters other than the signature, in the order of their
names, as `name=value` with each value in form encoding, joined by `&` and lower-cased as a
whole. The sort is stable, so parameters of one name keep their order.
-/

namespace CloudControl.Auth

/-- The parameter that carries the signature. -/
def signatureParam : String := "signature"

/-- The parameter has a name, in any letter case. -/
def isNamed (name : String) (p : Param) : Bool :=
  Text.eqFolded p.1 name

/-- The value of the first parameter with a name, in any letter case. -/
def lookup? (name : String) (params : List Param) : Option String :=
  (params.find? (isNamed name)).map (·.2)

/-- The order of the names, for a stable sort. -/
def nameOrder (p q : Param) : Bool :=
  p.1 ≤ q.1

/-- The parameters that are signed, in the order in which they are. -/
def signedParams (params : List Param) : List Param :=
  (params.filter (!isNamed signatureParam ·)).mergeSort nameOrder

/-- A parameter as it is signed, before lower-casing. -/
def canonicalPair (p : Param) : List Char :=
  p.1.toList ++ '=' :: Form.encodeChars p.2

/-- The text that is signed. -/
def canonicalString (params : List Param) : String :=
  Text.lowercase (String.ofList (List.intercalate ['&'] ((signedParams params).map canonicalPair)))

/-- The parameters that are signed are in the order of their names. -/
theorem sorted_signedParams (params : List Param) :
    (signedParams params).Pairwise fun p q ↦ p.1 ≤ q.1 := by
  have h := @List.pairwise_mergeSort _ nameOrder
    (fun a b c hab hbc ↦ by
      simp only [nameOrder, decide_eq_true_eq] at *
      exact String.le_trans hab hbc)
    (fun a b ↦ by
      simp only [nameOrder, Bool.or_eq_true, decide_eq_true_eq]
      exact String.le_total a.1 b.1)
    (params.filter (!isNamed signatureParam ·))
  exact h.imp (by simp [nameOrder])

end CloudControl.Auth
