import CloudControl.Proofs.Profiles.Places

/-!
# Creating a profile

A profile is refused if its name is listed, and the names that are listed are those of the files of
profiles (`SettingsFolder.entryNames_write`), all but the file that is named by the ending alone. So
a creation that succeeds replaces no file and adds its name to the list, as long as the name is not
empty (`ProfileCommand.keeps_profiles_of_create`). The empty name is never listed, and a second
creation under it replaces the first (`ProfileCommand.create_replaces_emptyName`).
-/

namespace CloudControl

namespace SettingsFolder

variable {f f' : SettingsFolder} {name : String}

/-! ## Names that are listed -/

/-- The name of the profile that stands at a place, if it is one in the folder of profiles. -/
def entryName? (e : Place × FileNode) : Option String :=
  if e.1.dropLast == Place.profiles then e.1.getLast?.bind profileName? else none

/-- The names of the profiles that stand in the folder of profiles. -/
def entryNames (f : SettingsFolder) : List String :=
  f.nodes.filterMap entryName?

/-- The file of a profile tells its name, unless that is empty. -/
theorem profileName?_append (name : String) :
    profileName? (name ++ Place.ending) = if name = "" then none else some name := by
  have hends : Text.endsIn (name ++ Place.ending) Place.ending = true := by
    rw [Text.endsIn, String.toList_append, List.isSuffixOf_iff_suffix]
    exact List.suffix_append _ _
  have hname : String.ofList ((name ++ Place.ending).toList.take
      ((name ++ Place.ending).toList.length - Place.ending.toList.length)) = name := by
    rw [String.toList_append, List.length_append, Nat.add_sub_cancel, List.take_left,
      String.ofList_toList]
  have hempty : name ++ Place.ending = Place.ending ↔ name = "" := by
    constructor
    · intro h
      have hlist : name.toList ++ Place.ending.toList = [] ++ Place.ending.toList := by
        rw [← String.toList_append, h, List.nil_append]
      exact String.toList_eq_nil_iff.mp (List.append_cancel_right hlist)
    · rintro rfl
      rfl
  rw [profileName?, hends, hname, Bool.true_and]
  simp only [bne_iff_ne, ne_eq, hempty, ite_not]

/-- What stands at the place of a profile has its name, unless that is empty. -/
theorem entryName?_ofProfile (name : String) (n : FileNode) :
    entryName? (.ofProfile name, n) = if name = "" then none else some name := by
  rw [entryName?, Place.ofProfile, List.dropLast_concat, List.getLast?_concat, if_pos (by simp)]
  exact profileName?_append name

/-- What has a name is at the place of that name. -/
theorem eq_ofProfile_of_entryName? {e : Place × FileNode} (h : entryName? e = some name) :
    e.1 = .ofProfile name := by
  unfold entryName? at h
  split at h
  · next hfolder =>
    obtain ⟨file, hlast, hname⟩ := Option.bind_eq_some_iff.mp h
    obtain ⟨front, hplace⟩ := List.getLast?_eq_some_iff.mp hlast
    rw [hplace, List.dropLast_concat, beq_iff_eq] at hfolder
    rw [hplace, hfolder, eq_of_profileName? hname, Place.ofProfile]
  · cases h

/-- A name is one of the folder just if something stands at its place and it is not empty. -/
theorem mem_entryNames : name ∈ f.entryNames ↔ name ≠ "" ∧ ∃ n, (.ofProfile name, n) ∈ f.nodes := by
  rw [entryNames, List.mem_filterMap]
  constructor
  · rintro ⟨⟨p, n⟩, hmem, hname⟩
    obtain rfl : p = .ofProfile name := eq_ofProfile_of_entryName? hname
    refine ⟨?_, n, hmem⟩
    rintro rfl
    cases hname
  · rintro ⟨hne, n, hmem⟩
    exact ⟨_, hmem, by rw [entryName?_ofProfile, if_neg hne]⟩

/-- Putting something at a place adds its name, if what was there before had none. -/
theorem entryNames_write {p : Place} {n : FileNode}
    (hfree : ∀ old, (p, old) ∈ f.nodes → entryName? (p, old) = none)
    (hnodes : f'.nodes = f.nodes.write p n) :
    f'.entryNames = (entryName? (p, n)).toList ++ f.entryNames := by
  have hrest : (f.nodes.filter (·.1 != p)).filterMap entryName? = f.nodes.filterMap entryName? := by
    rw [List.filterMap_filter]
    refine List.filterMap_congr fun e he ↦ ?_
    split
    · rfl
    · next heq =>
      obtain rfl : e.1 = p := by simpa using heq
      exact (hfree e.2 he).symm
  rw [entryNames, hnodes, FileNodes.write, List.filterMap_cons, hrest, entryNames]
  cases entryName? (p, n) <;> rfl

/-- What stands outside of the folder of profiles has no name there. -/
theorem entryNames_write_of_outside {p : Place} {n : FileNode} (hp : p.dropLast ≠ Place.profiles)
    (hnodes : f'.nodes = f.nodes.write p n) : f'.entryNames = f.entryNames := by
  have hnone : ∀ m, entryName? (p, m) = none := fun m ↦ if_neg fun h ↦ hp (beq_iff_eq.mp h)
  rw [entryNames_write (fun old _ ↦ hnone old) hnodes, hnone]
  rfl

/-- Putting a name into others adds it to them. -/
theorem insertName_perm (name : String) (names : List String) :
    (insertName name names).Perm (name :: names) := by
  induction names with
  | nil => exact .refl _
  | cons n rest ih =>
    rw [insertName]
    split
    · exact .refl _
    · exact (ih.cons n).trans (.swap name n rest)

/-- The names that are listed are those in the folder of profiles, in order. -/
theorem IsTidy.profileNames_eq (hf : f.IsTidy)
    (hfile : ∀ text, f.node? Place.profiles ≠ some (.file text)) :
    f.profileNames = .ok (f.entryNames.foldr insertName []) := by
  unfold profileNames
  split
  · next hnone =>
    -- Without the folder nothing stands in it.
    have hempty : f.entryNames = [] := by
      rw [entryNames, List.filterMap_eq_nil_iff]
      intro e he
      cases hname : entryName? e with
      | none => rfl
      | some name =>
        have hplace := eq_ofProfile_of_entryName? hname
        obtain ⟨-, hfolder⟩ := hf.files (name ++ Place.ending) e.2
          (by rw [← Place.ofProfile, ← hplace]; exact he)
        rw [hnone] at hfolder
        cases hfolder
    rw [hempty]
    rfl
  · next text hnode => exact absurd hnode (hfile text)
  · rw [namesIn, List.filterMap_filterMap, entryNames]
    congr 2
    refine List.filterMap_congr fun e _ ↦ ?_
    show (if e.1.dropLast == Place.profiles then e.1.getLast? else none).bind profileName? =
      entryName? e
    rw [entryName?]
    split <;> rfl

/-! ## Profiles that are listed -/

/-- The place of a name without slashes depends on the folder of profiles alone. -/
theorem place_congr (hplain : '/' ∉ name.toList)
    (hfolder : f'.node? Place.profiles = f.node? Place.profiles) :
    f'.place name = f.place name := by
  have hrooted : (name.toList.head? == some '/') = false := by
    rw [beq_eq_false_iff_ne]
    exact fun hhead ↦ hplain (List.mem_of_head? hhead)
  have hfollow : f'.follow [] ["profiles.d", name ++ Place.ending] =
      f.follow [] ["profiles.d", name ++ Place.ending] := by
    have hnode : f'.node? ([] ++ ["profiles.d"]) = f.node? ([] ++ ["profiles.d"]) := hfolder
    simp only [follow, hnode]
  simp only [place, hrooted, Bool.false_eq_true, if_false, Place.ofPath_profile hplain, hfollow]

/-- The profile of a name without slashes depends on the folder of profiles and its file alone. -/
theorem loadProfile_congr (hplain : '/' ∉ name.toList)
    (hfolder : f'.node? Place.profiles = f.node? Place.profiles)
    (hfile : f'.nodes.lookup (.ofProfile name) = f.nodes.lookup (.ofProfile name)) :
    f'.loadProfile name = f.loadProfile name := by
  rw [loadProfile, loadProfile, place_congr hplain hfolder]
  cases hplace : f.place name with
  | error e => rfl
  | ok p =>
    have hread : f'.readFile p = f.readFile p := by
      rw [place_eq_ok hplain hplace, readFile, readFile, node?_ofProfile, node?_ofProfile, hfile]
    show (do let text ← (f'.readFile p).mapError _; _) =
      (do let text ← (f.readFile p).mapError _; _)
    rw [hread]

/-! ## What a creation does -/

/-- A profile whose name is not listed has been written, and a selection may have been. -/
structure Creates (f : SettingsFolder) (p : Profile) (f' : SettingsFolder) : Prop where
  fresh : ∃ names, f.listProfiles = .ok names ∧ p.name ∉ names
  written : ∃ f₁ f₂, f.ensureProfiles = .ok f₁ ∧ f₁.writeProfile p = .ok f₂ ∧
    (f' = f₂ ∨ ∃ f₃ s, f₂.ensureProfiles = .ok f₃ ∧ f₃.writeSelection s = .ok f')

/-- A profile has been added to a settings folder: it is the only one whose file has changed. -/
structure HasAdded (f : SettingsFolder) (p : Profile) (f' : SettingsFolder) : Prop where
  folder : f'.node? Place.profiles = some .folder
  place : f'.place p.name = .ok (.ofProfile p.name)
  file : f'.nodes.lookup (.ofProfile p.name) = some (.file p.text)
  others : ∀ q, q ≠ Place.profiles → q ≠ Place.selection → q ≠ .ofProfile p.name →
    f'.nodes.lookup q = f.nodes.lookup q
  names : f'.entryNames = (if p.name = "" then [] else [p.name]) ++ f.entryNames

/-- The folder of profiles is there after it has been made, and no name is added. -/
theorem folder_of_ensureProfiles (h : f.ensureProfiles = .ok f') :
    f'.node? Place.profiles = some .folder ∧ f'.entryNames = f.entryNames := by
  have h := mapError_eq_ok_iff.mp h
  unfold ensureFolder at h
  split at h
  · next hfolder =>
    obtain rfl := Except.ok.inj h
    exact ⟨hfolder, rfl⟩
  · cases h
  · obtain rfl := Except.ok.inj h
    refine ⟨?_, entryNames_write_of_outside (p := Place.profiles) (by decide) rfl⟩
    show (f.nodes.write Place.profiles .folder).lookup Place.profiles = _
    rw [FileNodes.lookup_write_self]

/-- A name that is not listed is not the name of a file, as long as it is not empty. -/
theorem Creates.not_mem_entryNames {p : Profile} (hf : f.IsTidy) (h : f.Creates p f') :
    (∀ text, f.node? Place.profiles ≠ some (.file text)) ∧ p.name ∉ f.entryNames := by
  obtain ⟨names, hnames, hfresh⟩ := h.fresh
  have hlisted := mapError_eq_ok_iff.mp hnames
  have hfile : ∀ text, f.node? Place.profiles ≠ some (.file text) := by
    intro text hnode
    rw [profileNames, hnode] at hlisted
    cases hlisted
  refine ⟨hfile, fun hmem ↦ hfresh ?_⟩
  rw [hf.profileNames_eq hfile] at hlisted
  rw [← Except.ok.inj hlisted]
  exact mem_foldr_insertName.mpr hmem

/-- A text is read just if it is in the file at a place inside the settings folder. -/
theorem readFile_eq_ok_iff {p : Place} {text : String} :
    f.readFile p = .ok text ↔ p.isOutside = false ∧ f.nodes.lookup p = some (.file text) := by
  unfold readFile node?
  cases p.isOutside with
  | true => exact ⟨nofun, nofun⟩
  | false =>
    rw [if_neg Bool.false_ne_true]
    constructor
    · intro h
      split at h
      · next hnode => exact ⟨rfl, Except.ok.inj h ▸ hnode⟩
      · cases h
      · cases h
    · rintro ⟨-, hnode⟩
      rw [hnode]

/-- What a creation does to a tidy folder. -/
theorem Creates.hasAdded {p : Profile} (hf : f.IsTidy) (hplain : '/' ∉ p.name.toList)
    (h : f.Creates p f') : f.HasAdded p f' := by
  obtain ⟨f₁, f₂, hensured, hwritten, hlast⟩ := h.written
  obtain ⟨hfolder₁, hnames₁⟩ := folder_of_ensureProfiles hensured
  have hnodes := nodes_of_writeProfile hplain hwritten
  have hfolder₂ : f₂.node? Place.profiles = some .folder := by
    show f₂.nodes.lookup Place.profiles = _
    rw [hnodes, FileNodes.lookup_write_of_ne _ (Place.ofProfile_ne_profiles p.name).symm]
    exact hfolder₁
  have hplace₁ : f₁.place p.name = .ok (.ofProfile p.name) := by
    obtain ⟨place, hplace, _⟩ := bind_eq_ok_iff.mp (mapError_eq_ok_iff.mp hwritten)
    rw [hplace, place_eq_ok hplain hplace]
  have hadded : f.HasAdded p f₂ := by
    refine ⟨hfolder₂, ?_, ?_, fun q hprofiles _ hq ↦ ?_, ?_⟩
    · rw [place_congr hplain (hfolder₂.trans hfolder₁.symm), hplace₁]
    · rw [hnodes, FileNodes.lookup_write_self]
    · rw [hnodes, FileNodes.lookup_write_of_ne _ hq, lookup_of_ensureProfiles hensured hprofiles]
    · have hfree : ∀ old, (Place.ofProfile p.name, old) ∈ f₁.nodes →
          entryName? (.ofProfile p.name, old) = none := by
        intro old hold
        rw [entryName?_ofProfile, if_pos]
        by_contra hne
        refine (h.not_mem_entryNames hf).2 ?_
        rw [← hnames₁]
        exact mem_entryNames.mpr ⟨hne, old, hold⟩
      rw [entryNames_write hfree hnodes, entryName?_ofProfile, hnames₁]
      split <;> rfl
  rcases hlast with rfl | ⟨f₃, s, hensured₃, hselected⟩
  · exact hadded
  · obtain ⟨hfolder₃, hnames₃⟩ := folder_of_ensureProfiles hensured₃
    have hnodes' := nodes_of_writeSelection hselected
    have hother : ∀ q, q ≠ Place.profiles → q ≠ Place.selection →
        f'.nodes.lookup q = f₂.nodes.lookup q := by
      intro q hprofiles hselection
      rw [hnodes', FileNodes.lookup_write_of_ne _ hselection,
        lookup_of_ensureProfiles hensured₃ hprofiles]
    have hfolder' : f'.node? Place.profiles = some .folder := by
      show f'.nodes.lookup Place.profiles = _
      rw [hnodes', FileNodes.lookup_write_of_ne _ (by decide)]
      exact hfolder₃
    refine ⟨hfolder', ?_, ?_, fun q hprofiles hselection hq ↦ ?_, ?_⟩
    · rw [place_congr hplain (hfolder'.trans hfolder₂.symm)]
      exact hadded.place
    · rw [hother _ (Place.ofProfile_ne_profiles _) (Place.ofProfile_ne_selection _)]
      exact hadded.file
    · rw [hother q hprofiles hselection]
      exact hadded.others q hprofiles hselection hq
    · rw [entryNames_write_of_outside (by decide) hnodes', hnames₃]
      exact hadded.names

/-- The profiles that were there are the same after another one has been added. -/
theorem HasAdded.loadProfile_of_mem {p : Profile} (h : f.HasAdded p f') (hf : f.IsTidy)
    (hfresh : p.name ∉ f.entryNames) :
    ∀ name ∈ f.entryNames, f'.loadProfile name = f.loadProfile name := by
  intro name hname
  obtain ⟨-, n, hmem⟩ := mem_entryNames.mp hname
  obtain ⟨hslash, hfolder⟩ := hf.files (name ++ Place.ending) n hmem
  have hplain : '/' ∉ name.toList := by
    rw [String.toList_append, List.mem_append] at hslash
    exact fun hmem ↦ hslash (.inl hmem)
  refine loadProfile_congr hplain (h.folder.trans hfolder.symm) ?_
  refine h.others _ (Place.ofProfile_ne_profiles name) (Place.ofProfile_ne_selection name) ?_
  exact fun heq ↦ hfresh (Place.ofProfile_inj.mp heq ▸ hname)

end SettingsFolder

/-! ## The command -/

namespace ProfileAction

/-- Looking at the folder. -/
theorem run_folder (d : ProfileDesk) : folder.run d = (.ok d.folder, d) := rfl

/-- Taking over an outcome. -/
theorem run_lift {α : Type} (outcome : Except ProfileError α) (d : ProfileDesk) :
    (lift outcome).run d = (outcome, d) := rfl

end ProfileAction

namespace ProfileCommand

open ProfileAction SettingsFolder

/-- A creation that succeeds writes the profile, whose name was not listed. -/
theorem ensures_creates (f : SettingsFolder) (p : Profile) (current : Bool) :
    Ensures (On (· = f)) (runCreate (some p.name) (some p.url) (some p.apiKey) (some p.secretKey)
      current) (fun _ ↦ On (f.Creates p)) (On fun _ ↦ True) := by
  refine (ensures_given _ fun _ _ ↦ trivial).bind fun name ↦ .of_fact fun hname ↦ ?_
  obtain rfl := Option.some.inj hname
  simp only
  split
  · exact .throw_bind (fun _ _ ↦ trivial) _ _
  refine ensures_read_bind (fun _ _ ↦ trivial) fun names ↦ ?_
  split
  · exact .throw_bind (fun _ _ ↦ trivial) _ _
  next hnew =>
  have hnew : p.name ∉ names := by simpa using hnew
  refine (ensures_given _ fun _ _ ↦ trivial).bind fun url ↦ .of_fact fun hurl ↦ ?_
  refine (ensures_given _ fun _ _ ↦ trivial).bind fun apiKey ↦ .of_fact fun hapiKey ↦ ?_
  refine (ensures_given _ fun _ _ ↦ trivial).bind fun secretKey ↦ .of_fact fun hsecretKey ↦ ?_
  obtain rfl := Option.some.inj hurl
  obtain rfl := Option.some.inj hapiKey
  obtain rfl := Option.some.inj hsecretKey
  -- What has been written so far, with the name that was not listed before.
  let Written (f₂ : SettingsFolder) : Prop := f.listProfiles = .ok names ∧
    ∃ f₁, f.ensureProfiles = .ok f₁ ∧ f₁.writeProfile p = .ok f₂
  have hsaved : Ensures (On fun g ↦ g = f ∧ g.listProfiles = .ok names) (saveProfile p)
      (fun _ ↦ On Written) (On fun _ ↦ True) := by
    refine (ensures_change (Q := fun f₁ ↦ f.listProfiles = .ok names ∧ f.ensureProfiles = .ok f₁)
      ?_ fun _ _ _ _ ↦ trivial).bind fun _ ↦ ensures_change ?_ fun _ _ _ _ ↦ trivial
    · rintro g f₁ ⟨rfl, hnames⟩ hensured
      exact ⟨hnames, hensured⟩
    · rintro f₁ f₂ ⟨hnames, hensured⟩ hwritten
      exact ⟨hnames, f₁, hensured, hwritten⟩
  refine hsaved.bind fun _ ↦ (ensures_print _).bind fun _ ↦
    ensures_read_bind (fun _ _ ↦ trivial) fun selection ↦ ?_
  split
  · have hselected : Ensures (On Written) (saveSelection (selection.select p.name))
        (fun _ ↦ On (f.Creates p)) (On fun _ ↦ True) := by
      refine (ensures_change (Q := fun f₃ ↦ ∃ f₂, Written f₂ ∧ f₂.ensureProfiles = .ok f₃)
        ?_ fun _ _ _ _ ↦ trivial).bind fun _ ↦ ensures_change ?_ fun _ _ _ _ ↦ trivial
      · exact fun f₂ f₃ hwritten hensured ↦ ⟨f₂, hwritten, hensured⟩
      · rintro f₃ f' ⟨f₂, ⟨hnames, f₁, hfirst, hwritten⟩, hensured⟩ hselected
        exact ⟨⟨names, hnames, hnew⟩, f₁, f₂, hfirst, hwritten, .inr ⟨f₃, _, hensured, hselected⟩⟩
    exact (hselected.imp (fun _ hd ↦ hd.1) (fun _ _ h ↦ h) fun _ h ↦ h).bind fun _ ↦ ensures_print _
  · rintro d ⟨⟨hnames, f₁, hfirst, hwritten⟩, -⟩
    exact ⟨⟨names, hnames, hnew⟩, f₁, d.folder, hfirst, hwritten, .inl rfl⟩

/-- Listing the profiles prints these, as a table or as JSON. -/
def Lists (env : Environment) (f : SettingsFolder) (profiles : List Profile) : Prop :=
  ∀ json, ProfileCommand.list.outcome env json f = (.ok (), ⟨f,
    [if json then (Json.array (profiles.map Profile.encode)).pretty
      else listing ((f.resolve env none).toOption.map Profile.name) profiles]⟩)

/-- The profiles that are listed are those of the environment and of the names in the folder. -/
theorem lists_of_isTidy {f : SettingsFolder} (hf : f.IsTidy)
    (hfile : ∀ text, f.node? Place.profiles ≠ some (.file text)) (env : Environment) :
    Lists env f (env.profile.toOption.toList ++
      (f.entryNames.foldr insertName []).filterMap fun name ↦ (f.loadProfile name).toOption) := by
  have husable : f.usableProfiles env = .ok (env.profile.toOption.toList ++
      (f.entryNames.foldr insertName []).filterMap fun name ↦ (f.loadProfile name).toOption) := by
    rw [usableProfiles, listProfiles, hf.profileNames_eq hfile]
    rfl
  intro json
  simp only [outcome, run, runList, run_bind, run_folder, run_lift, husable]
  cases json <;> rfl

/-- Whatever commands have been carried out, with any names, a creation under a name without slashes
that succeeds changes no file of a profile, and the list shows the new profile besides the ones that
it showed before. The empty name alone is different: its file may be replaced, and it is not listed.
-/
theorem keeps_profiles_of_create {commands : List (Environment × Bool × ProfileCommand)}
    {f : SettingsFolder} (hf : folderAfter commands .empty = f) {env : Environment} {json : Bool}
    {p : Profile} (hplain : '/' ∉ p.name.toList) {current : Bool} {d : ProfileDesk}
    (h : (create (some p.name) (some p.url) (some p.apiKey) (some p.secretKey) current).outcome env
      json f = (.ok (), d)) :
    (∀ place text, place ≠ Place.selection → (p.name = "" → place ≠ .ofProfile "") →
      f.readFile place = .ok text → d.folder.readFile place = .ok text) ∧
    d.folder.readFile (.ofProfile p.name) = .ok p.text ∧
    ∀ env, ∃ before after, Lists env f before ∧ Lists env d.folder after ∧
      if p.name = "" then after = before else after.Perm (p :: before) := by
  have htidy : f.IsTidy := hf ▸ isTidy_folderAfter commands isTidy_empty
  have hrun : (runCreate (some p.name) (some p.url) (some p.apiKey) (some p.secretKey) current).run
      ⟨f, []⟩ = (.ok (), d) := h
  have htidy' : d.folder.IsTidy := by
    have hkept := keeps_runCreate (some p.name) (some p.url) (some p.apiKey) (some p.secretKey)
      current ⟨f, []⟩ htidy
    rwa [hrun] at hkept
  have hcreates : f.Creates p d.folder := by
    have hend := ensures_creates f p current ⟨f, []⟩ rfl
    rwa [hrun] at hend
  obtain ⟨hfile, hfresh⟩ := hcreates.not_mem_entryNames htidy
  have hadded := hcreates.hasAdded htidy hplain
  have hstored : d.folder.readFile (.ofProfile p.name) = .ok p.text :=
    readFile_eq_ok_iff.mpr ⟨Place.isOutside_ofProfile _, hadded.file⟩
  refine ⟨fun place text hselection hempty hread ↦ ?_, hstored, fun env ↦ ⟨_, _,
    lists_of_isTidy htidy hfile env, lists_of_isTidy htidy' (fun text ↦ ?_) env, ?_⟩⟩
  · obtain ⟨hinside, hlookup⟩ := readFile_eq_ok_iff.mp hread
    have hprofiles : place ≠ Place.profiles := by
      rintro rfl
      exact hfile text hlookup
    have hother : place ≠ .ofProfile p.name := by
      rintro rfl
      by_cases hname : p.name = ""
      · exact hempty hname (by rw [hname])
      · exact hfresh (mem_entryNames.mpr ⟨hname, _, mem_of_lookup_eq_some hlookup⟩)
    rw [readFile_eq_ok_iff, hadded.others place hprofiles hselection hother]
    exact ⟨hinside, hlookup⟩
  · rw [hadded.folder]
    exact nofun
  · have hsame := hadded.loadProfile_of_mem htidy hfresh
    have hrest : (f.entryNames.foldr insertName []).filterMap
        (fun name ↦ (d.folder.loadProfile name).toOption) =
          (f.entryNames.foldr insertName []).filterMap fun name ↦ (f.loadProfile name).toOption :=
      List.filterMap_congr fun name hname ↦ by rw [hsame name (mem_foldr_insertName.mp hname)]
    rw [hadded.names]
    split
    · rw [List.nil_append, hrest]
    · have hself : (d.folder.loadProfile p.name).toOption = some p := by
        rw [loadProfile_of_readFile hadded.place hstored]
        rfl
      refine .trans (.append_left _ ?_) List.perm_middle
      rw [List.singleton_append, List.foldr_cons, ← hrest]
      refine ((insertName_perm p.name _).filterMap _).trans (.of_eq ?_)
      exact List.filterMap_cons_some (f := fun name ↦ (d.folder.loadProfile name).toOption) hself

/-- The creation of a profile. -/
def creation (p : Profile) : ProfileCommand :=
  .create (some p.name) (some p.url) (some p.apiKey) (some p.secretKey) false

/-- A second profile is created beside the first, whose file stays as it is. -/
theorem keeps_profiles_of_create_second :
    let lab : Profile := ⟨"lab", "https://lab.example.org/client/api", "key", "secret"⟩
    let live : Profile := ⟨"live", "https://example.org/client/api", "other", "hidden"⟩
    let f := folderAfter [(⟨[]⟩, false, creation lab)] .empty
    let d := ((creation live).outcome ⟨[]⟩ false f).2
    '/' ∉ live.name.toList ∧ (creation live).outcome ⟨[]⟩ false f = (.ok (), d) ∧
      f.readFile (.ofProfile "lab") = .ok lab.text ∧
      d.folder.readFile (.ofProfile "lab") = .ok lab.text := by
  intro lab live f d
  have hplain : '/' ∉ live.name.toList := by decide
  have hrun : (creation live).outcome ⟨[]⟩ false f = (.ok (), d) :=
    Prod.ext (toOption_eq_some_iff.mp (by decide +kernel)) rfl
  have hlab : f.readFile (.ofProfile "lab") = .ok lab.text :=
    toOption_eq_some_iff.mp (by decide +kernel)
  have hbefore : folderAfter [(⟨[]⟩, false, creation lab)] .empty = f := rfl
  have hkept := (keeps_profiles_of_create hbefore hplain hrun).1
  exact ⟨hplain, hrun, hlab, hkept _ _ (by decide) (by decide) hlab⟩

/-- Two profiles are created under the empty name, one after the other, and the second takes the
place of the first. None of them is listed. -/
theorem create_replaces_emptyName :
    let first : Profile := ⟨"", "https://one.example.org/client/api", "key-1", "secret-1"⟩
    let second : Profile := ⟨"", "https://two.example.org/client/api", "key-2", "secret-2"⟩
    let f := folderAfter [(⟨[]⟩, false, creation first)] .empty
    let d := ((creation second).outcome ⟨[]⟩ false f).2
    (creation second).outcome ⟨[]⟩ false f = (.ok (), d) ∧
      f.readFile (.ofProfile "") = .ok first.text ∧
      d.folder.readFile (.ofProfile "") = .ok second.text ∧ first.text ≠ second.text ∧
      (ProfileCommand.list.outcome ⟨[]⟩ true d.folder).2.printed = ["[]"] := by
  intro first second f d
  exact ⟨Prod.ext (toOption_eq_some_iff.mp (by decide +kernel)) rfl,
    toOption_eq_some_iff.mp (by decide +kernel), toOption_eq_some_iff.mp (by decide +kernel),
    by decide +kernel, by decide +kernel⟩

end ProfileCommand

end CloudControl
