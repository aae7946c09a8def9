import CloudControl.Proofs.Lists
import CloudControl.Proofs.Profiles.Consistency

/-!
# Where files can be

Whatever names the commands on profiles are given, with slashes or without, a way that leads to a
file ends in a folder that is there (`SettingsFolder.exists_of_follow`). The folder of profiles is
the only one that is ever made, so what stands in it has a name without slashes
(`SettingsFolder.IsTidy`). Every command keeps this (`ProfileCommand.keeps_isTidy`).
-/

namespace CloudControl

open SettingsFolder

/-- The names in a path hold no slash. -/
theorem Place.not_slash_of_mem_ofPath {path name : String} (h : name ∈ ofPath path) :
    '/' ∉ name.toList := by
  obtain ⟨part, hpart, rfl⟩ := List.mem_map.mp h
  rw [String.toList_ofList]
  exact Text.not_mem_of_mem_splitOn hpart

namespace FileNodes

variable {nodes : FileNodes} {p : Place} {n : FileNode} {e : Place × FileNode}

/-- What stands somewhere after something was put at a place stands there now or stood before. -/
theorem mem_of_mem_write (h : e ∈ nodes.write p n) : e = (p, n) ∨ e ∈ nodes :=
  (List.mem_cons.mp h).imp_right List.mem_of_mem_filter

/-- What stands somewhere after something was removed stood there before. -/
theorem mem_of_mem_remove (h : e ∈ nodes.remove p) : e ∈ nodes :=
  List.mem_of_mem_filter h

end FileNodes

namespace SettingsFolder

variable {f f' : SettingsFolder} {p : Place} {name : String}

/-- No folder is there but the one of profiles, and what stands in it has a name without slashes. -/
structure IsTidy (f : SettingsFolder) : Prop where
  folders : ∀ p, (p, FileNode.folder) ∈ f.nodes → p = Place.profiles
  files : ∀ file n, (Place.profiles ++ [file], n) ∈ f.nodes →
    '/' ∉ file.toList ∧ f.node? Place.profiles = some .folder

/-- A settings folder without files is tidy. -/
theorem isTidy_empty : IsTidy .empty where
  folders _ h := nomatch h
  files _ _ h := nomatch h

/-! ## Ways -/

/-- The folder around a folder is there. -/
theorem IsTidy.node?_parent (hf : f.IsTidy) (h : f.node? p = some .folder) :
    f.node? p.parent = some .folder := by
  have houtside : ∀ q : Place, q.isOutside = true → f.node? q = some .folder :=
    fun q hq ↦ by rw [node?, if_pos hq]
  unfold Place.parent
  split
  · exact houtside _ (by decide)
  split
  · next hdots =>
    refine houtside _ ?_
    rw [Place.isOutside, List.all_append, hdots]
    rfl
  next hroot hdots =>
  -- What is left inside is the folder of profiles, and outside the one in the root.
  unfold node? at h
  split at h
  · next hout =>
    rw [Place.isOutside, Bool.or_eq_true, Bool.or_eq_true] at hout
    have hp : p = Place.root ++ ["tmp"] := by
      rcases hout with (hout | hout) | hout
      · exact absurd hout hdots
      · exact absurd hout hroot
      · exact beq_iff_eq.mp hout
    exact houtside _ (by rw [hp]; decide)
  · rw [hf.folders p (mem_of_lookup_eq_some h)]
    exact houtside _ (by decide)

/-- A way from a folder leads to a place in a folder that is there, under the last of its names. -/
theorem exists_of_follow (hf : f.IsTidy) {folder : Place} {names : List String} (hne : names ≠ [])
    (hfolder : f.node? folder = some .folder) (h : f.follow folder names = .ok p) :
    ∃ around, ∃ file ∈ names, p = around ++ [file] ∧ f.node? around = some .folder := by
  -- The way so far has come to a folder that is there.
  induction names generalizing folder with
  | nil => exact absurd rfl hne
  | cons name rest ih =>
    cases rest with
    | nil =>
      rw [follow] at h
      split at h
      · cases h
      · exact ⟨folder, name, List.mem_cons_self, (Except.ok.inj h).symm, hfolder⟩
    | cons next rest =>
      have hgo : ∀ {folder}, f.node? folder = some .folder →
          f.follow folder (next :: rest) = .ok p → ∃ around, ∃ file ∈ name :: next :: rest,
            p = around ++ [file] ∧ f.node? around = some .folder := by
        intro folder hfolder h
        obtain ⟨around, file, hfile, hp⟩ := ih (List.cons_ne_nil _ _) hfolder h
        exact ⟨around, file, List.mem_cons_of_mem _ hfile, hp⟩
      rw [follow] at h
      · split at h
        · exact hgo hfolder h
        split at h
        · exact hgo (hf.node?_parent hfolder) h
        split at h
        · cases h
        split at h
        · next hinner => exact hgo hinner h
        · cases h
        · cases h
      · exact fun heq ↦ absurd heq (List.cons_ne_nil _ _)

/-- The place of a name is in a folder that is there, and its own name holds no slash. -/
theorem exists_of_place (hf : f.IsTidy) (h : f.place name = .ok p) :
    ∃ around file, p = around ++ [file] ∧ '/' ∉ file.toList ∧ f.node? around = some .folder := by
  have hroot : f.node? Place.root = some .folder := by rw [node?, if_pos (by decide)]
  have hempty : f.node? [] = some .folder := by rw [node?, if_pos (by decide)]
  obtain ⟨path, start, hstart, hway⟩ : ∃ path start, f.node? start = some .folder ∧
      f.follow start (Place.ofPath path) = .ok p := by
    unfold place at h
    simp only at h
    split at h
    · cases h
    -- A name that starts with a slash leads from the root.
    split at h <;> split at h
    · cases h
    · exact ⟨_, _, hroot, h⟩
    · cases h
    · exact ⟨_, _, hempty, h⟩
  have hne : Place.ofPath path ≠ [] := fun hpath ↦
    List.splitOn_ne_nil _ _ (List.map_eq_nil_iff.mp hpath)
  obtain ⟨around, file, hfile, hp, haround⟩ := exists_of_follow hf hne hstart hway
  exact ⟨around, file, hp, Place.not_slash_of_mem_ofPath hfile, haround⟩

/-! ## Changes -/

namespace IsTidy

variable (hf : f.IsTidy)

include hf

/-- A file is put into a folder that is there. -/
theorem writeFile {text : String} (hplace : ∃ around file, p = around ++ [file] ∧
    '/' ∉ file.toList ∧ f.node? around = some .folder) (h : f.writeFile p text = .ok f') :
    f'.IsTidy := by
  have hnodes := nodes_of_writeFile h
  -- The file does not stand in the way of the folder of profiles.
  have hkept : f.node? Place.profiles = some .folder → f'.node? Place.profiles = some .folder := by
    intro hfolder
    have hne : Place.profiles ≠ p := by
      rintro rfl
      rw [SettingsFolder.writeFile, hfolder] at h
      cases h
    have hlookup : f'.nodes.lookup Place.profiles = f.nodes.lookup Place.profiles := by
      rw [hnodes, FileNodes.lookup_write_of_ne _ hne]
    exact hlookup.trans hfolder
  refine ⟨fun q hq ↦ ?_, fun file n hn ↦ ?_⟩
  · rw [hnodes] at hq
    rcases FileNodes.mem_of_mem_write hq with heq | hq
    · cases heq
    · exact hf.folders q hq
  · rw [hnodes] at hn
    rcases FileNodes.mem_of_mem_write hn with heq | hn
    · obtain ⟨around, last, rfl, hlast, haround⟩ := hplace
      obtain ⟨rfl, hfile⟩ := List.append_inj' (congrArg Prod.fst heq) rfl
      obtain rfl := List.singleton_inj.mp hfile
      exact ⟨hlast, hkept haround⟩
    · exact (hf.files file n hn).imp_right hkept

/-- Making the folder of profiles. -/
theorem ensureProfiles (h : f.ensureProfiles = .ok f') : f'.IsTidy := by
  rcases nodes_of_ensureProfiles h with rfl | hnodes
  · exact hf
  · have hfolder : f'.node? Place.profiles = some .folder := by
      show f'.nodes.lookup Place.profiles = _
      rw [hnodes, FileNodes.lookup_write_self]
    refine ⟨fun q hq ↦ ?_, fun file n hn ↦ ?_⟩
    · rw [hnodes] at hq
      rcases FileNodes.mem_of_mem_write hq with heq | hq
      · exact congrArg Prod.fst heq
      · exact hf.folders q hq
    · rw [hnodes] at hn
      rcases FileNodes.mem_of_mem_write hn with heq | hn
      · exact absurd (congrArg Prod.fst heq) (by simp)
      · exact ⟨(hf.files file n hn).1, hfolder⟩

/-- Writing a profile. -/
theorem writeProfile {p : Profile} (h : f.writeProfile p = .ok f') : f'.IsTidy := by
  obtain ⟨place, hplace, hwrite⟩ := bind_eq_ok_iff.mp (mapError_eq_ok_iff.mp h)
  exact hf.writeFile (exists_of_place hf hplace) hwrite

/-- Writing a selection. -/
theorem writeSelection {s : Selection} (h : f.writeSelection s = .ok f') : f'.IsTidy :=
  hf.writeFile ⟨[], "config.json", rfl, by decide, by rw [node?, if_pos (by decide)]⟩
    (mapError_eq_ok_iff.mp h)

/-- Deleting a profile. -/
theorem deleteProfile (h : f.deleteProfile name = .ok f') : f'.IsTidy := by
  obtain ⟨place, _, hremove⟩ := bind_eq_ok_iff.mp (mapError_eq_ok_iff.mp h)
  unfold removeFile at hremove
  split at hremove
  · next text hfile =>
    obtain rfl := Except.ok.inj hremove
    refine ⟨fun q hq ↦ hf.folders q (FileNodes.mem_of_mem_remove hq), fun file n hn ↦ ?_⟩
    obtain ⟨hslash, hfolder⟩ := hf.files file n (FileNodes.mem_of_mem_remove hn)
    have hne : Place.profiles ≠ place := by
      rintro rfl
      rw [hfolder] at hfile
      cases hfile
    exact ⟨hslash, (FileNodes.lookup_remove_of_ne _ hne).trans hfolder⟩
  · cases hremove
  · cases hremove

end IsTidy

end SettingsFolder

/-! ## Commands -/

namespace ProfileAction

variable {α : Type} {P : SettingsFolder → Prop}

/-- Looking at the folder keeps what holds of it. -/
theorem keeps_folder : Keeps (On P) folder :=
  .of_quiet fun _ ↦ rfl

/-- An outcome that is taken over keeps what holds of the folder. -/
theorem keeps_lift (outcome : Except ProfileError α) : Keeps (On P) (lift outcome) :=
  .of_quiet fun _ ↦ by cases outcome <;> rfl

/-- Printing keeps what holds of the folder. -/
theorem keeps_print (line : String) : Keeps (On P) (print line) :=
  fun _ hd ↦ hd

/-- An argument that must be there keeps what holds of the folder. -/
theorem keeps_given (arg? : Option String) : Keeps (On P) (given arg?) :=
  .of_quiet fun _ ↦ by cases arg? <;> rfl

/-- A change that keeps what holds of the folder when it succeeds always does. -/
theorem keeps_change {step : SettingsFolder → Except ProfileError SettingsFolder}
    (h : ∀ f f', P f → step f = .ok f' → P f') : Keeps (On P) (change step) :=
  keeps_iff_ensures.mpr (ensures_change h fun _ _ hf _ ↦ hf)

/-- Saving a profile. -/
theorem keeps_saveProfile (p : Profile) : Keeps (On IsTidy) (saveProfile p) :=
  (keeps_change fun _ _ hf h ↦ hf.ensureProfiles h).bind fun _ ↦
    keeps_change fun _ _ hf h ↦ hf.writeProfile h

/-- Saving a selection. -/
theorem keeps_saveSelection (s : Selection) : Keeps (On IsTidy) (saveSelection s) :=
  (keeps_change fun _ _ hf h ↦ hf.ensureProfiles h).bind fun _ ↦
    keeps_change fun _ _ hf h ↦ hf.writeSelection h

end ProfileAction

namespace ProfileCommand

open ProfileAction

/-- Creating a profile keeps the folder tidy. -/
theorem keeps_runCreate (name? url? apiKey? secretKey? : Option String) (current : Bool) :
    Keeps (On IsTidy) (runCreate name? url? apiKey? secretKey? current) := by
  refine (keeps_given _).bind fun name ↦ ?_
  simp only
  split
  · exact .throw_bind _ _
  refine .bind keeps_folder fun _ ↦ (keeps_lift _).bind fun names ↦ ?_
  split
  · exact .throw_bind _ _
  refine (keeps_given _).bind fun url ↦ (keeps_given _).bind fun apiKey ↦
    (keeps_given _).bind fun secretKey ↦ (keeps_saveProfile _).bind fun _ ↦
    (keeps_print _).bind fun _ ↦ keeps_folder.bind fun _ ↦ (keeps_lift _).bind fun selection ↦ ?_
  split
  · exact (keeps_saveSelection _).bind fun _ ↦ keeps_print _
  · exact .pure _

/-- Deleting profiles keeps the folder tidy. -/
theorem keeps_deleteAll (force : Bool) (selection : Selection) (names : List String) :
    Keeps (On IsTidy) (deleteAll force selection names) := by
  induction names generalizing selection with
  | nil => exact .pure _
  | cons name rest ih =>
    rw [deleteAll]
    cases force with
    | false => exact .throw_bind _ _
    | true =>
      refine .bind (keeps_change fun _ _ hf h ↦ hf.deleteProfile h) fun _ ↦
        (keeps_print _).bind fun _ ↦ ?_
      split
      · exact (keeps_saveSelection _).bind fun _ ↦ ih _
      · exact ih _

/-- Selecting a profile keeps the folder tidy. -/
theorem keeps_runSetCurrent (name : String) : Keeps (On IsTidy) (runSetCurrent name) := by
  refine keeps_folder.bind fun _ ↦ (keeps_lift _).bind fun selection ↦
    (keeps_lift _).bind fun name ↦ ?_
  have hselect : Keeps (On IsTidy) (do saveSelection (selection.select name); printSelected name) :=
    (keeps_saveSelection _).bind fun _ ↦ keeps_print _
  simp only
  split
  · refine keeps_folder.bind fun _ ↦ (keeps_lift _).bind fun names ↦ ?_
    split
    · exact .throw_bind _ _
    · exact hselect
  · exact hselect

/-- Every command keeps the folder tidy, whatever names it is given and whether it succeeds or
fails. -/
theorem keeps_isTidy (env : Environment) (json : Bool) (c : ProfileCommand) :
    Keeps (On IsTidy) (c.run env json) := by
  cases c with
  | list =>
    refine keeps_folder.bind fun f ↦ (keeps_lift _).bind fun profiles ↦ ?_
    split <;> exact keeps_print _
  | get name? =>
    refine keeps_folder.bind fun f ↦ (keeps_lift _).bind fun p ↦ ?_
    cases json with
    | true => exact keeps_print _
    | false =>
      exact (keeps_print _).bind fun _ ↦ (keeps_print _).bind fun _ ↦ (keeps_print _).bind fun _ ↦
        keeps_print _
  | create name? url? apiKey? secretKey? current =>
    exact keeps_runCreate name? url? apiKey? secretKey? current
  | delete names force =>
    exact keeps_folder.bind fun f ↦ (keeps_lift _).bind fun selection ↦
      keeps_deleteAll force selection names
  | setCurrent name => exact keeps_runSetCurrent name

/-- Commands one after the other keep the folder tidy. -/
theorem isTidy_folderAfter (commands : List (Environment × Bool × ProfileCommand))
    {f : SettingsFolder} (hf : f.IsTidy) : (folderAfter commands f).IsTidy := by
  induction commands generalizing f with
  | nil => exact hf
  | cons first rest ih => exact ih (keeps_isTidy first.1 first.2.1 first.2.2 ⟨f, []⟩ hf)

end ProfileCommand

end CloudControl
