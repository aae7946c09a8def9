import Mathlib.Data.List.Pairwise
import CloudControl.Proofs.Auth.Canonical
import CloudControl.Proofs.Simulator.Selection

/-!
# The order of parameters does not matter to signatures

Parameters that are named differently, whatever the case of ASCII letters, are sorted in one way
only, and each name finds the same value wherever its parameter stands. So the order in which a
request names them changes neither what is signed, nor the signature, nor the verdict on it:
`canonicalString_sign_verify_of_perm`. Where two names differ in letter case alone, the first of
them counts, and the verdict depends on which one that is.
-/

namespace CloudControl.Auth

open Text Simulator

variable {params other : List Param}

/-! ## Parameters that are named apart -/

/-- A name tells a parameter among those that are named apart. -/
theorem eq_of_areNamedApart (hapart : AreNamedApart params) {p q : Param}
    (hp : p ∈ params) (hq : q ∈ params) (h : eqFolded p.1 q.1 = true) : p = q := by
  have hsymm : Std.Symm fun p q : Param ↦ eqFolded p.1 q.1 = false :=
    ⟨fun p q hpq ↦ by rw [eqFolded_comm, hpq]⟩
  by_contra hne
  have hdiffer := hapart.forall hp hq hne
  rw [h] at hdiffer
  cases hdiffer

/-- What a signer prepares is named apart if what it was given is. -/
theorem areNamedApart_prepare (hapart : AreNamedApart params) (s : Signer) (now : Instant) :
    AreNamedApart (s.prepare now params) := by
  have hnames : ((s.additions now).map Prod.fst).Pairwise fun name other ↦
      eqFolded name other = false := by
    rw [Signer.additions]
    cases s.timeToLive with
    | none => exact List.pairwise_singleton _ _
    | some ttl =>
      have hall : [apiKeyParam, versionParam, expiresParam].Pairwise fun name other ↦
          eqFolded name other = false := by
        decide
      exact hall
  have hadditions : AreNamedApart (s.additions now) := List.pairwise_map.mp hnames
  rw [Signer.prepare_eq]
  refine List.pairwise_append.mpr ⟨hapart.filter _, hadditions, ?_⟩
  -- A signer adds none but names that it has dropped.
  intro p hp q hq
  exact isNamed_of_mem_withoutAll (s.mem_replacedNames now hq) hp

/-! ## Another order -/

variable (hapart : AreNamedApart params) (hperm : other.Perm params)
include hapart hperm

/-- Parameters are signed in one order, whichever one they came in. -/
theorem signedParams_eq_of_perm : signedParams other = signedParams params := by
  have hsigned : (signedParams other).Perm (signedParams params) :=
    (signedParams_perm other).trans ((hperm.filter _).trans (signedParams_perm params).symm)
  refine hsigned.eq_of_pairwise ?_ (sorted_signedParams other) (sorted_signedParams params)
  intro p q hp hq hpq hqp
  have hname : p.1 = q.1 := String.le_antisymm hpq hqp
  have hmem : p ∈ params := (mem_signedParams.mp (hsigned.mem_iff.mp hp)).1
  exact eq_of_areNamedApart hapart hmem (mem_signedParams.mp hq).1 (hname ▸ eqFolded_self p.1)

/-- What is signed does not depend on the order. -/
theorem canonicalString_eq_of_perm : canonicalString other = canonicalString params := by
  rw [canonicalString, canonicalString, signedParams_eq_of_perm hapart hperm]

/-- The verdict does not depend on the order, nor does the error. -/
theorem verify_eq_of_perm (secret : String) (now : Instant) :
    verify other secret now = verify params secret now := by
  have hlookup := (hapart.isReordering hperm).lookup?_eq
  have hcanonical := canonicalString_eq_of_perm hapart hperm
  simp only [verify, checkExpiry, checkSignature, hlookup, hcanonical]

omit hapart in
/-- A signer keeps the parameters in the order that they came in. -/
theorem prepare_perm (s : Signer) (now : Instant) :
    (s.prepare now other).Perm (s.prepare now params) := by
  rw [Signer.prepare_eq, Signer.prepare_eq]
  exact (hperm.filter _).append_right _

/-- The signature does not depend on the order. -/
theorem signature_eq_of_perm (s : Signer) (now : Instant) :
    canonicalString (s.prepare now other) = canonicalString (s.prepare now params) :=
  canonicalString_eq_of_perm (areNamedApart_prepare hapart s now) (prepare_perm hperm s now)

/-- The order of parameters that are named apart, whatever the case of ASCII letters, matters
neither to what is signed, nor to the signature that a signer adds, nor to the verdict of a
verifier. What the signer makes of them is the same up to the order. -/
theorem canonicalString_sign_verify_of_perm :
    canonicalString other = canonicalString params ∧
    (∀ (s : Signer) (now : Instant), (s.sign now other).Perm (s.sign now params) ∧
      ∃ signature, lookup? signatureParam (s.sign now other) = some signature ∧
        lookup? signatureParam (s.sign now params) = some signature) ∧
    (∀ secret now, verify other secret now = verify params secret now) := by
  refine ⟨canonicalString_eq_of_perm hapart hperm, fun s now ↦ ?_, verify_eq_of_perm hapart hperm⟩
  have hsignature := signature_eq_of_perm hapart hperm s now
  constructor
  · rw [Signer.sign, Signer.sign, hsignature]
    exact (prepare_perm hperm s now).append_right _
  · refine ⟨_, s.lookup?_signature_sign now other, ?_⟩
    rw [s.lookup?_signature_sign now params, hsignature]

omit hapart hperm

/-- A request that announces an expiry is refused for the same reason in either order. With two
versions that differ in letter case, the order decides which of them is found, and so the error. -/
theorem canonicalString_sign_verify_of_perm_expiry :
    let params : List Param :=
      [("b", "1"), ("SignatureVersion", "3"), ("EXPIRES", "never"), ("signature", "%")]
    let other : List Param :=
      [("signature", "%"), ("EXPIRES", "never"), ("b", "1"), ("SignatureVersion", "3")]
    AreNamedApart params ∧ other.Perm params ∧ canonicalString other = canonicalString params ∧
      (∀ secret now, verify other secret now = .error (.malformedExpiry "never")) ∧
      (∀ secret now, verify
        [("signatureVersion", "3"), ("SIGNATUREVERSION", "2"), ("signature", "%")] secret now =
          .error .missingExpiry) ∧
      (∀ secret now, verify
        [("SIGNATUREVERSION", "2"), ("signatureVersion", "3"), ("signature", "%")] secret now =
          .error .malformedSignature) := by
  intro params other
  have hapart : AreNamedApart params := by
    rw [AreNamedApart]
    decide
  have hperm : other.Perm params := by decide
  obtain ⟨hcanonical, -, hverify⟩ := canonicalString_sign_verify_of_perm hapart hperm
  refine ⟨hapart, hperm, hcanonical, fun secret now ↦ ?_, fun _ _ ↦ rfl, fun _ _ ↦ rfl⟩
  rw [hverify]
  rfl

end CloudControl.Auth
