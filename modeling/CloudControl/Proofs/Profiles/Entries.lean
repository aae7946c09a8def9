import CloudControl.Proofs.Profiles.Document
import CloudControl.Proofs.Profiles.Folder

/-!
# What a settings folder holds

The commands on profiles put three kinds of entries into a settings folder (`IsEntry`), and select
only names that are known. `IsWellKept` says both, and there is one lemma for each change of the
folder: making the folder of profiles, writing a profile, deleting one, and writing a selection.
A deletion may leave a selected name without a profile until the selection is written again, which
cannot fail (`HasEntries.exists_writeSelection`). A folder that is well kept is consistent
(`IsWellKept.isConsistent`).
-/

namespace CloudControl

namespace SettingsFolder

variable {f f' : SettingsFolder} {name : String}

/-- The selected profile, if there is one, is the one of the environment or has a file; every file
of a profile holds a profile under its own name; and the profile of the environment has no file. -/
structure IsConsistent (f : SettingsFolder) : Prop where
  current : ∃ s, f.loadSelection = .ok s ∧ ∀ name, s.current = some name →
    name = Profile.environmentName ∨ ∃ text, f.readFile (.ofProfile name) = .ok text
  profiles : ∀ name text, f.readFile (.ofProfile name) = .ok text →
    ∃ p, Profile.read text = .ok p ∧ p.name = name
  environment : f.node? (.ofProfile Profile.environmentName) = none

/-! ## What changes -/

/-- A file that is written stands at its place. -/
theorem nodes_of_writeFile {p : Place} {text : String} (h : f.writeFile p text = .ok f') :
    f'.nodes = f.nodes.write p (.file text) := by
  unfold writeFile at h
  split at h
  · cases h
  · rw [← Except.ok.inj h]

/-- A profile is written at the place of its name. -/
theorem nodes_of_writeProfile {p : Profile} (hplain : '/' ∉ p.name.toList)
    (h : f.writeProfile p = .ok f') :
    f'.nodes = f.nodes.write (.ofProfile p.name) (.file p.text) := by
  obtain ⟨place, hplace, hwrite⟩ := bind_eq_ok_iff.mp (mapError_eq_ok_iff.mp h)
  rw [nodes_of_writeFile hwrite, place_eq_ok hplain hplace]

/-- A profile is deleted from the place of its name. -/
theorem nodes_of_deleteProfile (hplain : '/' ∉ name.toList) (h : f.deleteProfile name = .ok f') :
    f'.nodes = f.nodes.remove (.ofProfile name) := by
  obtain ⟨place, hplace, hremove⟩ := bind_eq_ok_iff.mp (mapError_eq_ok_iff.mp h)
  rw [place_eq_ok hplain hplace] at hremove
  unfold removeFile at hremove
  split at hremove
  · rw [← Except.ok.inj hremove]
  · cases hremove
  · cases hremove

/-- The selection is written in its file. -/
theorem nodes_of_writeSelection {s : Selection} (h : f.writeSelection s = .ok f') :
    f'.nodes = f.nodes.write Place.selection (.file s.text) :=
  nodes_of_writeFile (mapError_eq_ok_iff.mp h)

/-- The folder of profiles is made, or there already. -/
theorem nodes_of_ensureProfiles (h : f.ensureProfiles = .ok f') :
    f' = f ∨ f'.nodes = f.nodes.write Place.profiles .folder := by
  have h := mapError_eq_ok_iff.mp h
  unfold ensureFolder at h
  split at h
  · exact .inl (Except.ok.inj h).symm
  · cases h
  · exact .inr (by rw [← Except.ok.inj h])

/-- The selection depends on its file alone. -/
theorem loadSelection_congr
    (h : f'.nodes.lookup Place.selection = f.nodes.lookup Place.selection) :
    f'.loadSelection = f.loadSelection := by
  have hnode : f'.node? Place.selection = f.node? Place.selection := h
  rw [loadSelection, loadSelection, readFile, readFile, hnode]

/-- A selection that has been written is read. -/
theorem loadSelection_of_lookup {s : Selection}
    (h : f.nodes.lookup Place.selection = some (.file s.text)) : f.loadSelection = .ok s := by
  have hnode : f.node? Place.selection = some (.file s.text) := h
  rw [loadSelection, readFile, hnode]
  exact bind_eq_ok_iff.mpr ⟨s.text, rfl, mapError_eq_ok_iff.mpr s.read_text⟩

/-- A profile that has been written is read. -/
theorem loadProfile_of_readFile {p : Profile} {place : Place} (hplace : f.place name = .ok place)
    (hfile : f.readFile place = .ok p.text) : f.loadProfile name = .ok p := by
  have htext : (do f.readFile (← f.place name)) = Except.ok p.text :=
    bind_eq_ok_iff.mpr ⟨place, hplace, hfile⟩
  refine bind_eq_ok_iff.mpr ⟨p.text, mapError_eq_ok_iff.mpr htext, ?_⟩
  exact mapError_eq_ok_iff.mpr p.read_text

/-! ## Entries -/

/-- What the commands on profiles put into a settings folder: the folder of profiles, the file of
the selection, and profiles under their own names, none of which is the name of the environment. -/
inductive IsEntry : Place → FileNode → Prop where
  | profiles : IsEntry Place.profiles .folder
  | selection (s : Selection) : IsEntry Place.selection (.file s.text)
  | profile (p : Profile) (h : p.name ≠ Profile.environmentName) :
      IsEntry (.ofProfile p.name) (.file p.text)

/-- The file of the selection holds a selection. -/
theorem IsEntry.exists_selection {n : FileNode} (h : IsEntry Place.selection n) :
    ∃ s : Selection, n = .file s.text := by
  generalize hp : Place.selection = p at h
  cases h with
  | profiles => exact absurd hp (by decide)
  | selection s => exact ⟨s, rfl⟩
  | profile p hname => exact absurd hp.symm (Place.ofProfile_ne_selection p.name)

/-- The folder of profiles is a folder. -/
theorem IsEntry.eq_folder {n : FileNode} (h : IsEntry Place.profiles n) : n = .folder := by
  generalize hp : Place.profiles = p at h
  cases h with
  | profiles => rfl
  | selection s => exact absurd hp (by decide)
  | profile p hname => exact absurd hp.symm (Place.ofProfile_ne_profiles p.name)

/-- At the place of a profile stands a profile with its name, which is not the environment's. -/
theorem IsEntry.exists_profile {n : FileNode} (h : IsEntry (.ofProfile name) n) :
    name ≠ Profile.environmentName ∧ ∃ p : Profile, p.name = name ∧ n = .file p.text := by
  generalize hp : Place.ofProfile name = p at h
  cases h with
  | profiles => exact absurd hp (Place.ofProfile_ne_profiles name)
  | selection s => exact absurd hp (Place.ofProfile_ne_selection name)
  | profile p hname =>
    obtain rfl := Place.ofProfile_inj.mp hp
    exact ⟨hname, p, rfl, rfl⟩

/-- There is nothing in a settings folder but such entries. -/
def HasEntries (f : SettingsFolder) : Prop :=
  ∀ p n, f.nodes.lookup p = some n → IsEntry p n

/-- A name stands for the environment or for a profile that is stored. -/
def Knows (f : SettingsFolder) (name : String) : Prop :=
  name = Profile.environmentName ∨ ∃ n, f.nodes.lookup (.ofProfile name) = some n

/-- There is nothing but entries, and the selected profile is known. -/
structure IsWellKept (f : SettingsFolder) : Prop where
  entries : f.HasEntries
  current : ∀ s, f.loadSelection = .ok s → ∀ name, s.current = some name → f.Knows name

namespace HasEntries

variable (h : f.HasEntries)

include h

/-- An entry is put into the folder. -/
theorem write {p : Place} {n : FileNode} (hp : IsEntry p n)
    (hnodes : f'.nodes = f.nodes.write p n) : f'.HasEntries := by
  intro q m hq
  rw [hnodes] at hq
  by_cases heq : q = p
  · subst heq
    rw [FileNodes.lookup_write_self] at hq
    exact Option.some.inj hq ▸ hp
  · rw [FileNodes.lookup_write_of_ne _ heq] at hq
    exact h q m hq

/-- An entry is removed. -/
theorem remove {p : Place} (hnodes : f'.nodes = f.nodes.remove p) : f'.HasEntries := by
  intro q m hq
  rw [hnodes] at hq
  by_cases heq : q = p
  · subst heq
    rw [FileNodes.lookup_remove_self] at hq
    cases hq
  · rw [FileNodes.lookup_remove_of_ne _ heq] at hq
    exact h q m hq

/-- The file of the selection holds a selection. -/
theorem exists_loadSelection : ∃ s, f.loadSelection = .ok s := by
  cases hnode : f.nodes.lookup Place.selection with
  | none =>
    have hnode : f.node? Place.selection = none := hnode
    exact ⟨.empty, by rw [loadSelection, hnode]; rfl⟩
  | some n =>
    obtain ⟨s, rfl⟩ := (h _ n hnode).exists_selection
    exact ⟨s, loadSelection_of_lookup hnode⟩

/-- The selection can be written. -/
theorem exists_writeSelection (s : Selection) : ∃ f', f.writeSelection s = .ok f' := by
  cases hnode : f.nodes.lookup Place.selection with
  | none =>
    have hnode : f.node? Place.selection = none := hnode
    exact ⟨_, by rw [writeSelection, writeFile, hnode]; rfl⟩
  | some n =>
    obtain ⟨old, rfl⟩ := (h _ n hnode).exists_selection
    have hnode : f.node? Place.selection = some (.file old.text) := hnode
    exact ⟨_, by rw [writeSelection, writeFile, hnode]; rfl⟩

/-- The folder of profiles can be made. -/
theorem exists_ensureProfiles : ∃ f', f.ensureProfiles = .ok f' := by
  cases hnode : f.nodes.lookup Place.profiles with
  | none =>
    have hnode : f.node? Place.profiles = none := hnode
    exact ⟨_, by rw [ensureProfiles, ensureFolder, hnode]; rfl⟩
  | some n =>
    obtain rfl := (h _ n hnode).eq_folder
    have hnode : f.node? Place.profiles = some .folder := hnode
    exact ⟨_, by rw [ensureProfiles, ensureFolder, hnode]; rfl⟩

end HasEntries

/-- A known name stays known when the names of profiles still have files. -/
theorem Knows.congr (h : f.Knows name)
    (hnode : f'.nodes.lookup (.ofProfile name) = f.nodes.lookup (.ofProfile name)) :
    f'.Knows name := by
  rw [Knows, hnode]
  exact h

/-- Making the folder of profiles changes nothing elsewhere. -/
theorem lookup_of_ensureProfiles (h : f.ensureProfiles = .ok f') {p : Place}
    (hp : p ≠ Place.profiles) : f'.nodes.lookup p = f.nodes.lookup p := by
  rcases nodes_of_ensureProfiles h with rfl | hnodes
  · rfl
  · rw [hnodes, FileNodes.lookup_write_of_ne _ hp]

/-- The folder of profiles is an entry. -/
theorem HasEntries.ensureProfiles (hf : f.HasEntries) (h : f.ensureProfiles = .ok f') :
    f'.HasEntries := by
  rcases nodes_of_ensureProfiles h with rfl | hnodes
  · exact hf
  · exact hf.write .profiles hnodes

/-- Making the folder of profiles keeps the known names. -/
theorem Knows.ensureProfiles (hf : f.Knows name) (h : f.ensureProfiles = .ok f') :
    f'.Knows name :=
  hf.congr (lookup_of_ensureProfiles h (Place.ofProfile_ne_profiles name))

/-- Making the folder of profiles. -/
theorem IsWellKept.ensureProfiles (hf : f.IsWellKept) (h : f.ensureProfiles = .ok f') :
    f'.IsWellKept where
  entries := hf.entries.ensureProfiles h
  current s hs name hname := by
    rw [loadSelection_congr (lookup_of_ensureProfiles h (by decide))] at hs
    exact (hf.current s hs name hname).ensureProfiles h

/-- Writing a profile makes its name known. -/
theorem IsWellKept.writeProfile {p : Profile} (hf : f.IsWellKept) (hplain : '/' ∉ p.name.toList)
    (hname : p.name ≠ Profile.environmentName) (h : f.writeProfile p = .ok f') :
    f'.IsWellKept ∧ f'.Knows p.name := by
  have hnodes := nodes_of_writeProfile hplain h
  have hself : f'.nodes.lookup (.ofProfile p.name) = some (.file p.text) := by
    rw [hnodes, FileNodes.lookup_write_self]
  refine ⟨⟨hf.entries.write (.profile p hname) hnodes, fun s hs name hcurrent ↦ ?_⟩,
    .inr ⟨_, hself⟩⟩
  have hselection : f'.loadSelection = f.loadSelection := loadSelection_congr <| by
    rw [hnodes, FileNodes.lookup_write_of_ne _ (Place.ofProfile_ne_selection p.name).symm]
  rw [hselection] at hs
  by_cases heq : name = p.name
  · exact heq ▸ .inr ⟨_, hself⟩
  · refine (hf.current s hs name hcurrent).congr ?_
    rw [hnodes, FileNodes.lookup_write_of_ne _ fun h ↦ heq (Place.ofProfile_inj.mp h)]

/-- Writing a selection of a known name. -/
theorem HasEntries.writeSelection {s : Selection} (hf : f.HasEntries)
    (hcurrent : ∀ name, s.current = some name → f.Knows name) (h : f.writeSelection s = .ok f') :
    f'.IsWellKept ∧ f'.loadSelection = .ok s := by
  have hnodes := nodes_of_writeSelection h
  have hload : f'.loadSelection = .ok s :=
    loadSelection_of_lookup (by rw [hnodes, FileNodes.lookup_write_self])
  refine ⟨⟨hf.write (.selection s) hnodes, fun s' hs' name hname ↦ ?_⟩, hload⟩
  obtain rfl : s = s' := Except.ok.inj (hload.symm.trans hs')
  refine (hcurrent name hname).congr ?_
  rw [hnodes, FileNodes.lookup_write_of_ne _ (Place.ofProfile_ne_selection name)]

/-- Deleting a profile makes no other name unknown, and leaves the selection. -/
theorem IsWellKept.deleteProfile (hf : f.IsWellKept) (hplain : '/' ∉ name.toList)
    (h : f.deleteProfile name = .ok f') :
    f'.HasEntries ∧ f'.loadSelection = f.loadSelection ∧
      ∀ other, other ≠ name → f.Knows other → f'.Knows other := by
  have hnodes := nodes_of_deleteProfile hplain h
  refine ⟨hf.entries.remove hnodes, loadSelection_congr ?_, fun other hother hknown ↦ ?_⟩
  · rw [hnodes, FileNodes.lookup_remove_of_ne _ (Place.ofProfile_ne_selection name).symm]
  · refine hknown.congr ?_
    rw [hnodes, FileNodes.lookup_remove_of_ne _ fun h ↦ hother (Place.ofProfile_inj.mp h)]

/-- The names that are listed are known. -/
theorem knows_of_mem_listProfiles {names : List String} (h : f.listProfiles = .ok names)
    (hname : name ∈ names) : f.Knows name :=
  .inr (exists_of_mem_profileNames (mapError_eq_ok_iff.mp h) hname)

/-- A settings folder without files is well kept. -/
theorem isWellKept_empty : IsWellKept .empty where
  entries _ _ h := nomatch h
  current s hs name hname := by
    obtain rfl : Selection.empty = s := Except.ok.inj hs
    cases hname

/-- A settings folder that is well kept is consistent. -/
theorem IsWellKept.isConsistent (h : f.IsWellKept) : f.IsConsistent := by
  have hentry : ∀ name n, f.node? (.ofProfile name) = some n →
      name ≠ Profile.environmentName ∧ ∃ p : Profile, p.name = name ∧ n = .file p.text := by
    intro name n hn
    rw [node?_ofProfile] at hn
    exact (h.entries _ n hn).exists_profile
  refine ⟨?_, fun name text htext ↦ ?_, ?_⟩
  · obtain ⟨s, hs⟩ := h.entries.exists_loadSelection
    refine ⟨s, hs, fun name hname ↦ (h.current s hs name hname).imp_right ?_⟩
    rintro ⟨n, hn⟩
    rw [← node?_ofProfile] at hn
    obtain ⟨-, p, -, rfl⟩ := hentry name n hn
    exact ⟨p.text, by rw [readFile, hn]⟩
  · unfold readFile at htext
    split at htext
    · next found hfound =>
      obtain ⟨-, p, hp, hn⟩ := hentry name _ hfound
      obtain rfl := Except.ok.inj htext
      rw [FileNode.file.inj hn]
      exact ⟨p, p.read_text, hp⟩
    · cases htext
    · cases htext
  · cases hnode : f.node? (.ofProfile Profile.environmentName) with
    | none => rfl
    | some n => exact absurd rfl (hentry _ n hnode).1

end SettingsFolder

end CloudControl
