import CloudControl.Proofs.CommandLine.Requests
import CloudControl.Proofs.Lists
import CloudControl.Proofs.Profiles.Entries

/-!
# A profile that is asked for by name

A command line or the environment names a stored profile, and the requests go to the address and
are signed with the keys of that profile (`requests_isFor_named`), but only as far as the
environment gives no address and no keys: a variable that stands in for an option that is not given
takes the place of what the profile holds, as the option itself would.
-/

namespace CloudControl

/-- An address without its query. -/
def Url.withoutQuery (u : Url) : Url :=
  { u with query := none }

/-- A request is for a profile: it goes to the address of the profile, with any query, and is signed
with the keys of the profile. -/
structure Request.IsFor (r : Request) (p : Profile) : Prop where
  address : ∃ endpoint, Url.parse p.url = .ok endpoint ∧
    r.url.withoutQuery = endpoint.withoutQuery
  signed : ∃ now params, r.params = (Auth.Signer.ofKeys p.apiKey p.secretKey).sign now params

/-- A profile with the address and the keys that the environment gives in place of its own. -/
def Profile.under (p : Profile) (env : Environment) : Profile :=
  { p with
    url := (env.get? Environment.urlVariable).getD p.url
    apiKey := (env.get? Environment.apiKeyVariable).getD p.apiKey
    secretKey := (env.get? Environment.secretKeyVariable).getD p.secretKey }

/-- Nothing takes the place of what a profile holds in an environment that gives nothing. -/
theorem Profile.under_of_unset {p : Profile} {env : Environment}
    (h : ∀ v ∈ [Environment.urlVariable, Environment.apiKeyVariable,
      Environment.secretKeyVariable], env.get? v = none) : p.under env = p := by
  simp only [List.forall_mem_cons] at h
  obtain ⟨hurl, hapi, hsecret, _⟩ := h
  rw [Profile.under, hurl, hapi, hsecret]
  rfl

namespace CommandLine

namespace Invocation

/-! ## The options of a command line -/

/-- The options that the words of a command give, in front of those of the levels above it. -/
def leafOptions (above : List (String × String)) (l : Leaf) (words : List String) :
    Except Interruption (List (String × String)) := do
  return (← readLevel (leafLevel l) words .start).words.options ++ above

/-- The options that the words of a group give, in front of those of the level above it. -/
def groupOptions (above : List (String × String)) (leaves : List Leaf) (words : List String) :
    Except Interruption (List (String × String)) := do
  let e ← readLevel (groupLevel leaves) words .start
  let (name, rest) ← subcommand e
  match leaves.find? (·.names.contains name) with
  | some l => leafOptions (e.words.options ++ above) l rest
  | none => .error (.usage (.unexpectedOperand name))

/-- The options that a command line itself gives, those of its deepest level first. -/
def givenOptions (words : List String) : Except Interruption (List (String × String)) := do
  let e ← readLevel topLevel words .start
  let (name, rest) ← subcommand e
  match entries.find? (·.names.contains name) with
  | some (.leaf l) => leafOptions e.words.options l rest
  | some (.group _ leaves) => groupOptions e.words.options leaves rest
  | none => .error (.usage (.unexpectedOperand name))

/-- An invocation holds the values of the options that every command takes. -/
structure HasShared (i : Invocation) (options : List (String × String)) : Prop where
  profile : i.profile = options.lookup "profile"
  url : i.url = options.lookup "url"
  apiKey : i.apiKey = options.lookup "api-key"
  secretKey : i.secretKey = options.lookup "secret-key"

variable {env : Environment} {above : List (String × String)} {words : List String} {i : Invocation}

/-- The judgement on an option leaves the invocation as it is. -/
theorem eq_of_judge {e : LevelEnd} {j : Invocation} (h : judge e i = .ok j) : i = j := by
  unfold judge at h
  split at h
  · cases h
  · exact Except.ok.inj h

/-- A command that is read holds its options in front of those of the levels above it and those of
the environment. -/
theorem hasShared_of_readLeaf {l : Leaf} (h : readLeaf env above l words = .ok i) :
    ∃ options, leafOptions above l words = .ok options ∧
      i.HasShared (options ++ environmentOptions env) := by
  obtain ⟨e, he, hwords⟩ := bind_eq_ok_iff.mp h
  obtain ⟨instruction, _, hi⟩ := bind_eq_ok_iff.mp (mapError_eq_ok_iff.mp hwords)
  obtain rfl := Except.ok.inj hi
  exact ⟨e.words.options ++ above, bind_eq_ok_iff.mpr ⟨e, he, rfl⟩, rfl, rfl, rfl, rfl⟩

/-- So does a command of a group. -/
theorem hasShared_of_readGroup {leaves : List Leaf}
    (h : readGroup env above leaves words = .ok i) :
    ∃ options, groupOptions above leaves words = .ok options ∧
      i.HasShared (options ++ environmentOptions env) := by
  obtain ⟨e, he, h⟩ := bind_eq_ok_iff.mp h
  obtain ⟨⟨name, rest⟩, hname, h⟩ := bind_eq_ok_iff.mp h
  simp only [groupOptions, he, hname, bind, Except.bind] at h ⊢
  split at h
  · cases h
  cases hfound : leaves.find? (·.names.contains name) with
  | none =>
    simp only [hfound] at h
    cases h
  | some l =>
    simp only [hfound] at h ⊢
    obtain ⟨j, hj, hjudged⟩ := bind_eq_ok_iff.mp h
    rw [← eq_of_judge hjudged]
    exact hasShared_of_readLeaf hj

/-- So does every command line. -/
theorem hasShared_of_read (h : read env words = .ok i) :
    ∃ options, givenOptions words = .ok options ∧
      i.HasShared (options ++ environmentOptions env) := by
  obtain ⟨e, he, h⟩ := bind_eq_ok_iff.mp h
  obtain ⟨⟨name, rest⟩, hname, h⟩ := bind_eq_ok_iff.mp h
  simp only [givenOptions, he, hname, bind, Except.bind] at h ⊢
  split at h
  · cases h
  cases hfound : entries.find? (·.names.contains name) with
  | none =>
    simp only [hfound] at h
    cases h
  | some entry =>
    cases entry with
    | leaf l =>
      simp only [hfound] at h ⊢
      obtain ⟨j, hj, hjudged⟩ := bind_eq_ok_iff.mp h
      rw [← eq_of_judge hjudged]
      exact hasShared_of_readLeaf hj
    | group _ leaves =>
      simp only [hfound] at h ⊢
      obtain ⟨j, hj, hjudged⟩ := bind_eq_ok_iff.mp h
      rw [← eq_of_judge hjudged]
      exact hasShared_of_readGroup hj

/-- A variable of the environment stands in for its option. -/
theorem lookup_environmentOptions {option variableName : String}
    (h : (option, variableName) ∈ optionVariables) :
    (environmentOptions env).lookup option = env.get? variableName :=
  lookup_filterMap (by decide) env.get? h

variable {options : List (String × String)} {f : SettingsFolder} {name : String} {p : Profile}

/-- A profile that is named, with no other option in place of what it holds, is the target together
with what the environment gives. -/
theorem target_of_hasShared (hshared : i.HasShared (options ++ environmentOptions env))
    (hname : (options.lookup "profile").or (env.get? Environment.profileVariable) = some name)
    (hother : name ≠ Profile.environmentName)
    (hown : ∀ option ∈ ["url", "api-key", "secret-key"], options.lookup option = none)
    (hstored : f.loadProfile name = .ok p) : i.target env f = .ok (p.under env) := by
  have hvalue : ∀ option variableName, (option, variableName) ∈ optionVariables →
      (options ++ environmentOptions env).lookup option =
        (options.lookup option).or (env.get? variableName) := by
    intro option variableName hmem
    rw [List.lookup_append, lookup_environmentOptions hmem]
  have hprofile : i.profile = some name := by
    rw [hshared.profile, hvalue _ Environment.profileVariable (by decide), hname]
  simp only [List.forall_mem_cons] at hown
  obtain ⟨hurl, hapi, hsecret, _⟩ := hown
  have hresolved : f.resolve env (some name) = .ok p := by
    rw [SettingsFolder.resolve, SettingsFolder.named, if_neg hother, hstored]
  rw [target, hprofile, effectiveProfile, hprofile, hresolved, hshared.url, hshared.apiKey,
    hshared.secretKey, hvalue _ Environment.urlVariable (by decide), hurl,
    hvalue _ Environment.apiKeyVariable (by decide), hapi,
    hvalue _ Environment.secretKeyVariable (by decide), hsecret]
  rfl

end Invocation

variable {σ : Type} {link : Link σ} {clock : Clock σ} {env : Environment} {words : List String}
  {options : List (String × String)} {f : SettingsFolder} {s : σ} {name : String} {p : Profile}

/-- The client of a profile makes requests for it. -/
theorem isFor_of_makes {i : Invocation} {c : Client} {r : Request}
    (htarget : i.target env f = .ok p) (hclient : clientOf i env f = .ok c) (h : c.Makes r) :
    r.IsFor p := by
  rw [clientOf, htarget] at hclient
  have hconnect : Client.connect p.url (some p.credentials) = .ok c :=
    mapError_eq_ok_iff.mp hclient
  unfold Client.connect at hconnect
  split at hconnect
  · next endpoint hendpoint =>
    obtain rfl := Except.ok.inj hconnect
    obtain ⟨now, command, params, pairs, cookie, hauth, rfl⟩ := h
    obtain ⟨rfl, rfl⟩ := Prod.mk.inj (Except.ok.inj hauth)
    refine ⟨⟨endpoint, hendpoint, ?_⟩, now, params.entries, Client.params_requestOf ..⟩
    cases command.verb <;> rfl
  · cases hconnect

/-- A stored profile is named by an option or a variable, and no address and no keys are given as
options. Then every request is for this profile with what the environment gives in place of its
own, and for the profile as it is stored if the environment gives nothing. -/
theorem requests_isFor_named (hgiven : Invocation.givenOptions words = .ok options)
    (hname : (options.lookup "profile").or (env.get? Environment.profileVariable) = some name)
    (hother : name ≠ Profile.environmentName)
    (hown : ∀ option ∈ ["url", "api-key", "secret-key"], options.lookup option = none)
    (hstored : f.loadProfile name = .ok p) :
    (∀ r ∈ requests link clock env words f s, r.IsFor (p.under env)) ∧
      ((∀ v ∈ [Environment.urlVariable, Environment.apiKeyVariable,
          Environment.secretKeyVariable], env.get? v = none) →
        ∀ r ∈ requests link clock env words f s, r.IsFor p) := by
  have hall : ∀ r ∈ requests link clock env words f s, r.IsFor (p.under env) := by
    intro r hr
    obtain ⟨i, c, hread, hclient, hmakes⟩ := makes_of_mem_requests hr
    obtain ⟨options', hoptions, hshared⟩ := Invocation.hasShared_of_read hread
    obtain rfl := Except.ok.inj (hgiven.symm.trans hoptions)
    exact isFor_of_makes (Invocation.target_of_hasShared hshared hname hother hown hstored) hclient
      hmakes
  exact ⟨hall, fun hunset ↦ Profile.under_of_unset (p := p) hunset ▸ hall⟩

/-- A stored profile. -/
def lab : Profile := ⟨"lab", "https://lab.example.org/client/api", "lab-key", "lab-secret"⟩

/-- The settings folder with this profile. -/
def labFolder : SettingsFolder :=
  ⟨[(Place.profiles, .folder), (.ofProfile "lab", .file lab.text)]⟩

/-- An environment with another address and other keys. -/
def liveEnvironment : Environment := ⟨[
  (Environment.urlVariable, "https://live.example.org/client/api"),
  (Environment.apiKeyVariable, "live-key"), (Environment.secretKeyVariable, "live-secret")]⟩

/-- The requests of a command line that names the profile, in the environment that gives other
values. -/
def labRequests : List Request :=
  let link := Link.constant ⟨200, [], "\x7b\"listzonesresponse\":\x7b\x7d\x7d"⟩
  let clock : Clock Unit := ⟨fun _ ↦ 0, fun _ s ↦ s⟩
  requests link clock liveEnvironment ["zone", "list", "--profile", "lab"] labFolder ()

/-- The stored profile is found under its name. -/
theorem loadProfile_labFolder : labFolder.loadProfile "lab" = .ok lab := by
  have hplace : labFolder.place "lab" = .ok (.ofProfile "lab") := by decide +kernel
  exact SettingsFolder.loadProfile_of_readFile hplace rfl

/-- The one request is for the profile with what the environment gives. -/
theorem requests_isFor_named_lab :
    Invocation.givenOptions ["zone", "list", "--profile", "lab"] = .ok [("profile", "lab")] ∧
      labFolder.loadProfile "lab" = .ok lab ∧ labRequests.length = 1 ∧
      ∀ r ∈ labRequests, r.IsFor (lab.under liveEnvironment) := by
  have hgiven : Invocation.givenOptions ["zone", "list", "--profile", "lab"] =
      .ok [("profile", "lab")] := by decide +kernel
  exact ⟨hgiven, loadProfile_labFolder, by decide +kernel,
    (requests_isFor_named hgiven rfl (by decide) (by decide) loadProfile_labFolder).1⟩

/-- The request goes to the address that the environment gives, and not to the one of the profile
that is named. -/
theorem not_isFor_named_lab :
    Invocation.givenOptions ["zone", "list", "--profile", "lab"] = .ok [("profile", "lab")] ∧
      labFolder.loadProfile "lab" = .ok lab ∧ ∃ r ∈ labRequests, ¬ r.IsFor lab := by
  have hhosts : labRequests.map (·.url.host) = [some (.domain "live.example.org")] := by
    decide +kernel
  obtain ⟨r, hr, hhost⟩ := List.mem_map.mp (hhosts ▸ List.mem_singleton_self _ :
    some (.domain "live.example.org") ∈ labRequests.map (·.url.host))
  refine ⟨by decide +kernel, loadProfile_labFolder, r, hr, fun hfor ↦ ?_⟩
  obtain ⟨endpoint, hparse, haddress⟩ := hfor.address
  have hlab : (Url.parse lab.url).toOption.map (·.host) =
      some (some (.domain "lab.example.org")) := by decide +kernel
  rw [hparse] at hlab
  have hendpoint : endpoint.host = some (.domain "lab.example.org") := Option.some.inj hlab
  have hsame : r.url.withoutQuery.host = endpoint.withoutQuery.host := congrArg Url.host haddress
  exact absurd (hhost.symm.trans (hsame.trans hendpoint)) (by decide)

end CommandLine

end CloudControl
