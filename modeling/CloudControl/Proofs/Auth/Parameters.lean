import CloudControl.Auth.Signer
import CloudControl.Proofs.Params
import CloudControl.Proofs.Text.Base64
import CloudControl.Proofs.Text.Folding

/-!
# Looking up the parameters of a signed request

What `lookup?` finds after parameters are dropped or added, and from it what a verifier finds in
a request that a signer made. `verify_sign_eq` leaves nothing of the verdict on such a request
but the check of its expiry, since the signature is always the right one.
-/

namespace CloudControl.Auth

open Text

/-- The first of two lists that has a parameter gives its value. -/
theorem lookup?_append (name : String) (xs ys : List Param) :
    lookup? name (xs ++ ys) = (lookup? name xs).or (lookup? name ys) := by
  simp only [lookup?, List.find?_append, Option.map_or]

/-- No parameters hold none. -/
@[simp]
theorem lookup?_nil (name : String) : lookup? name [] = none := rfl

/-- A parameter of another name is passed over. -/
theorem lookup?_cons_of_ne {name other : String} (h : eqFolded other name = false)
    (value : String) (rest : List Param) :
    lookup? name ((other, value) :: rest) = lookup? name rest := by
  simp only [lookup?, List.find?_cons, isNamed, h]

/-- The first parameter of the name is found. -/
theorem lookup?_cons_of_eq {name other : String} (h : eqFolded other name = true)
    (value : String) (rest : List Param) :
    lookup? name ((other, value) :: rest) = some value := by
  simp only [lookup?, List.find?_cons, isNamed, h, Option.map_some]

/-- Nothing is found just if no parameter has the name. -/
theorem lookup?_eq_none_iff {name : String} {params : List Param} :
    lookup? name params = none ↔ ∀ p ∈ params, isNamed name p = false := by
  simp [lookup?]

/-- A name is dropped from both parts of the parameters. -/
theorem without_append (name : String) (xs ys : List Param) :
    without name (xs ++ ys) = without name xs ++ without name ys :=
  List.filter_append xs ys

/-- Drops the parameters with one of several names, in any letter case. -/
def withoutAll (names : List String) (params : List Param) : List Param :=
  params.filter fun p ↦ names.all fun name ↦ !isNamed name p

/-- Dropping names keeps the parameters of every other name. -/
theorem lookup?_withoutAll {name : String} {names : List String}
    (h : ∀ other ∈ names, eqFolded name other = false) (params : List Param) :
    lookup? name (withoutAll names params) = lookup? name params := by
  rw [lookup?, lookup?, withoutAll, List.find?_filter]
  congr 2
  funext p
  -- A parameter of the name that is looked up has none of the names that are dropped.
  cases hp : isNamed name p with
  | false => simp
  | true =>
    have hkept : (names.all fun other ↦ !isNamed other p) = true := by
      rw [List.all_eq_true]
      intro other hother
      rw [isNamed, eqFolded_congr hp, h other hother]
      rfl
    rw [hkept]
    rfl

/-- Dropping a name is dropping one of several. -/
theorem without_eq_withoutAll (name : String) (params : List Param) :
    without name params = withoutAll [name] params := by
  simp only [without, withoutAll, List.all_cons, List.all_nil, Bool.and_true]

/-- Dropping names one after the other is dropping all of them. -/
theorem without_withoutAll (name : String) (names : List String) (params : List Param) :
    without name (withoutAll names params) = withoutAll (name :: names) params := by
  rw [without, withoutAll, List.filter_filter, withoutAll]
  congr 1

/-- Dropping a name keeps a parameter that has another one. -/
theorem without_concat_of_ne {name other : String} (h : eqFolded other name = false)
    (params : List Param) (value : String) :
    without name (params ++ [(other, value)]) = without name params ++ [(other, value)] := by
  have hkept : (!isNamed name (other, value)) = true := by rw [isNamed, h]; rfl
  rw [without_append]
  exact congrArg (without name params ++ ·) (List.filter_cons_of_pos hkept)

/-- Dropping a name keeps the parameters of every other name. -/
theorem lookup?_without_of_ne {name other : String} (h : eqFolded name other = false)
    (params : List Param) : lookup? name (without other params) = lookup? name params := by
  rw [without_eq_withoutAll, lookup?_withoutAll fun _ hmem ↦ List.mem_singleton.mp hmem ▸ h]

/-- A name that is dropped is not found. -/
theorem lookup?_without_self (name : String) (params : List Param) :
    lookup? name (without name params) = none := by
  rw [lookup?_eq_none_iff]
  intro p hp
  simpa using (List.mem_filter.mp hp).2

/-- The one value of a name is found. -/
theorem lookup?_eq_some {name value : String} (key : String) {params : List Param}
    (hmem : (key, value) ∈ params) (hkey : eqFolded key name = true)
    (h : ∀ p ∈ params, isNamed name p = true → p.2 = value) :
    lookup? name params = some value := by
  cases hfind : params.find? (isNamed name) with
  | none => exact absurd hkey (List.find?_eq_none.mp hfind _ hmem)
  | some p =>
    rw [lookup?, hfind, Option.map_some,
      h p (List.mem_of_find?_eq_some hfind) (List.find?_some hfind)]

section

variable {name : String} {names : List String}

/-- A parameter with one of the names is dropped. -/
theorem not_kept_of_mem {p : Param} (h : name ∈ names) (hp : isNamed name p = true) :
    (names.all fun other ↦ !isNamed other p) = false := by
  rw [List.all_eq_false]
  exact ⟨name, h, by rw [hp]; decide⟩

/-- Dropping some of the names first makes no difference. -/
theorem withoutAll_withoutAll {first : List String} (h : first ⊆ names) (params : List Param) :
    withoutAll names (withoutAll first params) = withoutAll names params := by
  rw [withoutAll, withoutAll, List.filter_filter, withoutAll]
  congr 1
  funext p
  cases hkept : names.all fun other ↦ !isNamed other p with
  | false => rfl
  | true =>
    rw [Bool.true_and, List.all_eq_true]
    intro other hother
    exact List.all_eq_true.mp hkept other (h hother)

/-- Adding parameters with the names makes no difference. -/
theorem withoutAll_append {added : List Param} (h : ∀ p ∈ added, p.1 ∈ names)
    (params : List Param) : withoutAll names (params ++ added) = withoutAll names params := by
  have hadded : withoutAll names added = [] := by
    refine List.filter_eq_nil_iff.mpr fun p hp ↦ ?_
    rw [not_kept_of_mem (h p hp) (eqFolded_self p.1)]
    exact Bool.false_ne_true
  rw [withoutAll, List.filter_append, ← withoutAll, ← withoutAll, hadded, List.append_nil]

/-- None of the parameters that are left has one of the names. -/
theorem isNamed_of_mem_withoutAll (h : name ∈ names) {params : List Param} {p : Param}
    (hp : p ∈ withoutAll names params) : isNamed name p = false := by
  have hkept := List.all_eq_true.mp (List.mem_filter.mp hp).2 name h
  rwa [Bool.not_eq_true'] at hkept

/-- Setting one of the names makes no difference. -/
theorem withoutAll_setEntry (h : name ∈ names) (value : String) (params : List Param) :
    withoutAll names (setEntry name value params) = withoutAll names params := by
  have hdropped : ∀ v, (names.all fun other ↦ !isNamed other (name, v)) = false := fun v ↦
    not_kept_of_mem h (eqFolded_self name)
  induction params with
  | nil =>
    rw [setEntry, withoutAll, List.filter_cons, hdropped]
    rfl
  | cons e rest ih =>
    obtain ⟨n, v⟩ := e
    unfold withoutAll at ih ⊢
    simp only [setEntry]
    split
    · rw [List.filter_cons, hdropped]
      rfl
    · split
      · next heq =>
        subst heq
        rw [List.filter_cons, List.filter_cons, hdropped, hdropped]
        rfl
      · rw [List.filter_cons, List.filter_cons, ih]

end

/-- A value that is set is found under its name, in any letter case, if there was none before. -/
theorem lookup?_set {params : Params} {key name : String} (hkey : eqFolded key name = true)
    (h : ∀ p ∈ params.entries, isNamed name p = false) (value : String) :
    lookup? name (params.set key value).entries = some value := by
  refine lookup?_eq_some key ?_ hkey fun p hp hname ↦ ?_
  · rw [Params.mem_entries_iff, Params.get?_set_self]
  · rcases mem_setEntry hp with rfl | hbefore
    · rfl
    · exact absurd (hname.symm.trans (h p hbefore)) nofun

/-- Setting a value makes no difference to what other names have as theirs. -/
theorem lookup?_set_of_ne {name other : String} (h : eqFolded name other = false)
    (params : Params) (value : String) :
    lookup? name (params.set other value).entries = lookup? name params.entries := by
  have hother : ∀ dropped ∈ [other], eqFolded name dropped = false :=
    fun _ hmem ↦ List.mem_singleton.mp hmem ▸ h
  rw [← lookup?_withoutAll hother, Params.entries_set,
    withoutAll_setEntry (List.mem_singleton_self other), lookup?_withoutAll hother]

/-- Of parameters in the order of their names, one whose name has capitals comes before the one in
small letters, and is found in its place. -/
theorem lookup?_of_get? {params : Params} {name value : String} (hname : foldCase name = name)
    (h : params.get? name = some value) :
    lookup? name params.entries =
      some ((lookup? name (params.erase name).entries).getD value) := by
  obtain ⟨entries, hascending⟩ := params
  show lookup? name entries =
    some ((lookup? name (entries.filter (·.1 != name))).getD value)
  replace h : entries.lookup name = some value := h
  induction entries with
  | nil => exact absurd h nofun
  | cons e rest ih =>
    obtain ⟨n, v⟩ := e
    obtain ⟨hfirst, hrest⟩ := List.pairwise_cons.mp hascending
    by_cases heq : n = name
    · -- Every later name is greater, so that none is the name with capitals.
      subst heq
      rw [List.lookup_cons_self, Option.some.injEq] at h
      have hnone : lookup? n (rest.filter (·.1 != n)) = none := by
        refine lookup?_eq_none_iff.mpr fun p hp ↦ ?_
        obtain ⟨hp, hother⟩ := List.mem_filter.mp hp
        rw [← Bool.not_eq_true]
        intro hnamed
        have hbefore : n < p.1 := hfirst p hp
        have hafter := lt_of_eqFolded hnamed (bne_iff_ne.mp hother) hname
        exact String.lt_irrefl n (String.lt_trans hbefore hafter)
      rw [lookup?_cons_of_eq (eqFolded_self n), List.filter_cons_of_neg (by simp), hnone, h]
      rfl
    · have hlookup : rest.lookup name = some value := by
        rwa [List.lookup_cons, beq_eq_false_iff_ne.mpr (Ne.symm heq)] at h
      rw [List.filter_cons_of_pos (by simpa using heq)]
      cases hnamed : eqFolded n name with
      | true => rw [lookup?_cons_of_eq hnamed, lookup?_cons_of_eq hnamed, Option.getD_some]
      | false =>
        rw [lookup?_cons_of_ne hnamed, lookup?_cons_of_ne hnamed]
        exact ih hrest hlookup

/-- A signature has no part in what is signed. -/
theorem canonicalString_append_signature (params : List Param) (signature : String) :
    canonicalString (params ++ [(signatureParam, signature)]) = canonicalString params := by
  have hdropped : isNamed signatureParam (signatureParam, signature) = true := eqFolded_self _
  simp [canonicalString, signedParams, List.filter_append, hdropped]

namespace Signer

variable (s : Signer) (now : Instant) (params : List Param)

/-- A name that a signer does not replace finds what it found before. -/
theorem lookup?_own_of_ne {name : String} (hsignature : eqFolded name signatureParam = false)
    (hkey : eqFolded name apiKeyParam = false) :
    lookup? name (s.own params) = lookup? name params := by
  rw [own, lookup?_append, lookup?_without_of_ne hkey, lookup?_without_of_ne hsignature,
    lookup?_cons_of_ne (by rw [eqFolded_comm, hkey]), lookup?_nil, Option.or_none]

/-- The API key of the signer is the one that is found. -/
theorem lookup?_apiKey_own : lookup? apiKeyParam (s.own params) = some s.apiKey := by
  rw [own, lookup?_append, lookup?_without_self, lookup?_cons_of_eq (eqFolded_self _)]
  rfl

/-- No signature is left. -/
theorem lookup?_signature_own : lookup? signatureParam (s.own params) = none := by
  rw [own, lookup?_append, lookup?_without_of_ne (by decide), lookup?_without_self,
    lookup?_cons_of_ne (by decide)]
  rfl

/-- A name other than those of the expiry finds what it found before. -/
theorem lookup?_withExpiry_of_ne {name : String} (hversion : eqFolded name versionParam = false)
    (hexpires : eqFolded name expiresParam = false) (expires : String) :
    lookup? name (withExpiry expires params) = lookup? name params := by
  rw [withExpiry, lookup?_append, lookup?_without_of_ne hexpires, lookup?_without_of_ne hversion,
    lookup?_cons_of_ne (by rw [eqFolded_comm, hversion]),
    lookup?_cons_of_ne (by rw [eqFolded_comm, hexpires]), lookup?_nil, Option.or_none]

/-- The version of signatures that expire is the one that is found. -/
theorem lookup?_version_withExpiry (expires : String) :
    lookup? versionParam (withExpiry expires params) = some expiringVersion := by
  rw [withExpiry, lookup?_append, lookup?_without_of_ne (by decide), lookup?_without_self,
    lookup?_cons_of_eq (eqFolded_self _)]
  rfl

/-- The expiry that was set is the one that is found. -/
theorem lookup?_expires_withExpiry (expires : String) :
    lookup? expiresParam (withExpiry expires params) = some expires := by
  rw [withExpiry, lookup?_append, lookup?_without_self, lookup?_cons_of_ne (by decide),
    lookup?_cons_of_eq (eqFolded_self _)]
  rfl

/-- Without a time to live, only what every signer replaces is replaced. -/
theorem prepare_of_none (h : s.timeToLive = none) : s.prepare now params = s.own params := by
  simp only [prepare, h]

/-- With a time to live, the parameters of the expiry are replaced as well. -/
theorem prepare_of_some {ttl : Duration} (h : s.timeToLive = some ttl) :
    s.prepare now params = withExpiry (expiryText now ttl) (s.own params) := by
  simp only [prepare, h]

/-- A name that has nothing to do with the expiry finds what every signer leaves of it. -/
theorem lookup?_prepare {name : String} (hversion : eqFolded name versionParam = false)
    (hexpires : eqFolded name expiresParam = false) :
    lookup? name (s.prepare now params) = lookup? name (s.own params) := by
  cases h : s.timeToLive with
  | none => rw [prepare_of_none s now params h]
  | some ttl => rw [prepare_of_some s now params h, lookup?_withExpiry_of_ne _ hversion hexpires]

/-- A name other than the signature finds in a signed request what it finds before signing. -/
theorem lookup?_sign_of_ne {name : String} (h : eqFolded signatureParam name = false) :
    lookup? name (s.sign now params) = lookup? name (s.prepare now params) := by
  rw [sign, lookup?_append, lookup?_cons_of_ne h, lookup?_nil, Option.or_none]

/-- The signature of a signed request is the one of its other parameters. -/
theorem lookup?_signature_sign : lookup? signatureParam (s.sign now params) =
    some (signatureOf s.secret (canonicalString (s.prepare now params))) := by
  rw [sign, lookup?_append, lookup?_prepare s now params (by decide) (by decide),
    lookup?_signature_own, lookup?_cons_of_eq (eqFolded_self _)]
  rfl

/-- The API key of a signed request is the one of the signer. -/
theorem lookup?_apiKey_sign : lookup? apiKeyParam (s.sign now params) = some s.apiKey := by
  rw [lookup?_sign_of_ne s now params (by decide),
    lookup?_prepare s now params (by decide) (by decide), lookup?_apiKey_own]

/-- The signature that a signer adds is the one that its secret gives for the request. -/
theorem checkSignature_sign :
    checkSignature (s.sign now params) s.secret
      (signatureOf s.secret (canonicalString (s.prepare now params))) = .ok () := by
  rw [checkSignature, signatureOf, Base64.decode_encode, sign, canonicalString_append_signature]
  exact if_pos rfl

/-- The verdict on a signed request is the one on its expiry. -/
theorem verify_sign_eq (t : Instant) :
    verify (s.sign now params) s.secret t = checkExpiry (s.sign now params) t := by
  rw [verify, lookup?_signature_sign]
  simp only [checkSignature_sign]
  cases checkExpiry (s.sign now params) t <;> rfl

/-- A signer drops the signatures and keys of others, and appends its own key. -/
theorem own_eq : s.own params =
    withoutAll [apiKeyParam, signatureParam] params ++ [(apiKeyParam, s.apiKey)] := by
  rw [own, without_eq_withoutAll signatureParam, without_withoutAll]

/-- The expiry is appended behind the key, once that of others is dropped. -/
theorem withExpiry_own (expires : String) : withExpiry expires (s.own params) =
    withoutAll [expiresParam, versionParam, apiKeyParam, signatureParam] params ++
      [(apiKeyParam, s.apiKey), (versionParam, expiringVersion), (expiresParam, expires)] := by
  rw [withExpiry, own_eq, without_concat_of_ne (by decide), without_concat_of_ne (by decide),
    without_withoutAll, without_withoutAll, List.append_assoc]
  rfl

/-- The names whose parameters a signer drops, to set them itself. -/
def replacedNames : List String :=
  match s.timeToLive with
  | none => [apiKeyParam, signatureParam]
  | some _ => [expiresParam, versionParam, apiKeyParam, signatureParam]

/-- The parameters that a signer adds in front of the signature. -/
def additions : List Param :=
  match s.timeToLive with
  | none => [(apiKeyParam, s.apiKey)]
  | some ttl =>
    [(apiKeyParam, s.apiKey), (versionParam, expiringVersion), (expiresParam, expiryText now ttl)]

/-- A request up to its signature is what the signer leaves of it, and then what it adds. -/
theorem prepare_eq :
    s.prepare now params = withoutAll s.replacedNames params ++ s.additions now := by
  rw [replacedNames, additions]
  cases h : s.timeToLive with
  | none => rw [prepare_of_none s now params h, own_eq]
  | some ttl => rw [prepare_of_some s now params h, withExpiry_own]

/-- A signer sets none but the names that it drops. -/
theorem mem_replacedNames {p : Param} (h : p ∈ s.additions now) : p.1 ∈ s.replacedNames := by
  rw [additions] at h
  rw [replacedNames]
  cases httl : s.timeToLive with
  | none =>
    rw [httl] at h
    rw [List.mem_singleton.mp h]
    exact List.mem_cons_self
  | some ttl =>
    rw [httl] at h
    have hnames : ∀ name ∈ [apiKeyParam, versionParam, expiresParam],
        name ∈ [expiresParam, versionParam, apiKeyParam, signatureParam] := by
      decide
    exact hnames p.1 (List.mem_map_of_mem h)

/-- A signer drops signatures and API keys, with or without a time to live. -/
theorem subset_replacedNames : [apiKeyParam, signatureParam] ⊆ s.replacedNames := by
  rw [replacedNames]
  cases s.timeToLive with
  | none => exact List.Subset.refl _
  | some ttl =>
    exact List.subset_cons_of_subset _ (List.subset_cons_of_subset _ (List.Subset.refl _))

/-- A signer drops nothing but signatures, API keys and what belongs to the expiry. -/
theorem replacedNames_subset :
    s.replacedNames ⊆ [expiresParam, versionParam, apiKeyParam, signatureParam] := by
  rw [replacedNames]
  cases s.timeToLive with
  | none => decide
  | some ttl => exact List.Subset.refl _

/-- A signed request is the request but for what the signer drops and adds. -/
theorem withoutAll_sign {names : List String} (h : s.replacedNames ⊆ names) :
    withoutAll names (s.sign now params) = withoutAll names params := by
  have hadditions : ∀ p ∈ s.additions now, p.1 ∈ names :=
    fun p hp ↦ h (s.mem_replacedNames now hp)
  have hsignature : signatureParam ∈ names := h (s.subset_replacedNames (by decide))
  rw [sign, withoutAll_append (by simpa using hsignature), prepare_eq,
    withoutAll_append hadditions, withoutAll_withoutAll h]

end Signer

end CloudControl.Auth
