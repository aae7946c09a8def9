import CloudControl.Proofs.Auth.Expiry

/-!
# Signing a signed request again

A signer drops the parameters that it sets, whoever set them before and in whatever letter case,
so what it makes of a request depends on the rest of it only (`Signer.sign_congr`). The rest is
what another signer leaves alone, if that one drops no more names. `Signer.sign_sign` says that
the second signature leaves no trace of the first.
-/

namespace CloudControl.Auth.Signer

open Text

/-- A signer makes the same of requests that differ in what it drops only. -/
theorem sign_congr (s : Signer) (now : Instant) {params other : List Param}
    (h : withoutAll s.replacedNames params = withoutAll s.replacedNames other) :
    s.sign now params = s.sign now other := by
  have hprepare : s.prepare now params = s.prepare now other := by
    rw [prepare_eq, prepare_eq, h]
  rw [sign, sign, hprepare]

/-- A signer with a time to live drops more names than one without. -/
theorem replacedNames_subset_of_isSome {a b : Signer}
    (h : a.timeToLive.isSome → b.timeToLive.isSome) : a.replacedNames ⊆ b.replacedNames := by
  cases hb : b.timeToLive with
  | some ttl =>
    have hall : b.replacedNames = [expiresParam, versionParam, apiKeyParam, signatureParam] := by
      rw [replacedNames, hb]
    exact hall ▸ a.replacedNames_subset
  | none =>
    have ha : a.timeToLive = none := by
      rw [hb] at h
      exact Option.not_isSome_iff_eq_none.mp fun hsome ↦ absurd (h hsome) Bool.false_ne_true
    rw [replacedNames, replacedNames, ha, hb]
    exact List.Subset.refl _

variable (s : Signer) (now : Instant) (params : List Param)

/-- Of the parameters with a name that a signer drops, a signed request has those that the signer
adds. -/
theorem filter_sign {name : String} (h : name ∈ s.replacedNames) :
    (s.sign now params).filter (isNamed name) =
      (s.additions now ++
        [(signatureParam, signatureOf s.secret (canonicalString (s.prepare now params)))]).filter
          (isNamed name) := by
  have hleft : (withoutAll s.replacedNames params).filter (isNamed name) = [] := by
    refine List.filter_eq_nil_iff.mpr fun p hp ↦ ?_
    rw [isNamed_of_mem_withoutAll h hp]
    exact Bool.false_ne_true
  rw [sign, prepare_eq, List.append_assoc, List.filter_append, hleft, List.nil_append]

/-- A signer adds its own key, and nothing else that has the name of a key or of a signature. -/
theorem filter_additions :
    (s.additions now).filter (isNamed apiKeyParam) = [(apiKeyParam, s.apiKey)] ∧
      (s.additions now).filter (isNamed signatureParam) = [] := by
  have hkey : eqFolded apiKeyParam signatureParam = false := by decide
  have hversion : eqFolded versionParam apiKeyParam = false ∧
      eqFolded versionParam signatureParam = false := by
    decide
  have hexpires : eqFolded expiresParam apiKeyParam = false ∧
      eqFolded expiresParam signatureParam = false := by
    decide
  rw [additions]
  cases s.timeToLive with
  | none => simp only [List.filter_cons, isNamed, eqFolded_self, hkey, List.filter_nil, if_true,
      Bool.false_eq_true, if_false, and_self]
  | some ttl => simp only [List.filter_cons, isNamed, eqFolded_self, hkey, hversion, hexpires,
      List.filter_nil, if_true, Bool.false_eq_true, if_false, and_self]

/-- A signed request has one API key, the one of its signer. -/
theorem filter_apiKey_sign :
    (s.sign now params).filter (isNamed apiKeyParam) = [(apiKeyParam, s.apiKey)] := by
  have hother : eqFolded signatureParam apiKeyParam = false := by decide
  rw [s.filter_sign now params (s.subset_replacedNames (by decide)), List.filter_append,
    (s.filter_additions now).1, List.filter_cons_of_neg (by rw [isNamed, hother]; decide),
    List.filter_nil, List.append_nil]

/-- A signed request has one signature, the one that its signer gives it. -/
theorem filter_signature_sign : (s.sign now params).filter (isNamed signatureParam) =
    [(signatureParam, signatureOf s.secret (canonicalString (s.sign now params)))] := by
  rw [s.filter_sign now params (s.subset_replacedNames (by decide)), List.filter_append,
    (s.filter_additions now).2, sign, canonicalString_append_signature]
  exact List.filter_cons_of_pos (eqFolded_self signatureParam)

/-- Signing a signed request leaves no trace of the first signature, if the second signer gives an
expiry whenever the first one does: the outcome is what the second signer makes of the request
itself. So signing twice is signing once. There is one API key in it and one signature, whatever
the caller passed under these names in whatever letter case, and both are those of the second
signer. The caller's other parameters, but for those of an expiry that the second signer gives, are
left in their order. -/
theorem sign_sign {a b : Signer} (h : a.timeToLive.isSome → b.timeToLive.isSome)
    (t u : Instant) (params : List Param) :
    b.sign u (a.sign t params) = b.sign u params ∧
    a.sign t (a.sign t params) = a.sign t params ∧
    (b.sign u (a.sign t params)).filter (isNamed apiKeyParam) = [(apiKeyParam, b.apiKey)] ∧
    (b.sign u (a.sign t params)).filter (isNamed signatureParam) =
      [(signatureParam, signatureOf b.secret (canonicalString (b.sign u (a.sign t params))))] ∧
    withoutAll b.replacedNames (b.sign u (a.sign t params)) =
      withoutAll b.replacedNames params := by
  have hagain : ∀ {c : Signer}, a.replacedNames ⊆ c.replacedNames → ∀ v,
      c.sign v (a.sign t params) = c.sign v params := fun hsubset v ↦
    sign_congr _ v (a.withoutAll_sign t params hsubset)
  have hsecond := hagain (replacedNames_subset_of_isSome h) u
  refine ⟨hsecond, hagain (List.Subset.refl _) t, b.filter_apiKey_sign u _,
    b.filter_signature_sign u _, ?_⟩
  rw [hsecond, b.withoutAll_sign u params (List.Subset.refl _)]

/-- A request with a key, a signature and an expiry that the caller made up is signed by one signer
and then by another one. The outcome has the key of the second, and the caller's command. A second
signer that gives no expiry would leave the one of the first. -/
theorem sign_sign_made_up :
    let a : Signer := ⟨"first", "secret", some (.ofSeconds 60)⟩
    let b : Signer := ⟨"second", "other", some (.ofSeconds 300)⟩
    let params : List Param := [("APIKEY", "x"), ("command", "listZones"), ("Signature", "y"),
      ("apikey", "z"), ("EXPIRES", "never")]
    let t : Instant := ⟨1772366400, 0⟩
    (a.timeToLive.isSome → b.timeToLive.isSome) ∧
      (b.sign t (a.sign t params)).filter (isNamed apiKeyParam) = [("apiKey", "second")] ∧
      withoutAll b.replacedNames (b.sign t (a.sign t params)) = [("command", "listZones")] ∧
      (ofKeys "second" "other").sign t (a.sign t params) ≠
        (ofKeys "second" "other").sign t params := by
  intro a b params t
  have hexpiry : a.timeToLive.isSome → b.timeToLive.isSome := fun _ ↦ rfl
  obtain ⟨-, -, hkey, -, hrest⟩ := sign_sign hexpiry t t params
  refine ⟨hexpiry, hkey, ?_, fun heq ↦ ?_⟩
  · rw [hrest]
    decide
  · have hkept : ∀ ps, lookup? versionParam ((ofKeys "second" "other").sign t ps) =
        lookup? versionParam ps :=
      fun ps ↦ lookup?_sign_of_none _ t ps rfl (by decide) (by decide)
    have hversion := congrArg (lookup? versionParam) heq
    rw [hkept, hkept, a.lookup?_version_sign t params rfl] at hversion
    exact absurd hversion (by decide)

end CloudControl.Auth.Signer
