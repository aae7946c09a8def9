import CloudControl.Profiles.Store
import CloudControl.Proofs.Except
import CloudControl.Proofs.Text.Joined

/-!
# Where profiles are

A profile whose name holds no slash has one place, the file of that name in the folder of profiles:
whatever is read, written or deleted under the name is there (`SettingsFolder.place_eq_ok`). The
names that are listed are names of what stands in that folder
(`SettingsFolder.exists_of_mem_profileNames`).
-/

namespace CloudControl

namespace Place

/-- The place of the profile with a name. -/
def ofProfile (name : String) : Place :=
  profiles ++ [name ++ ending]

/-- Different names have different places. -/
theorem ofProfile_inj {name other : String} : ofProfile name = ofProfile other ↔ name = other := by
  constructor
  · intro h
    have hfile : name ++ ending = other ++ ending := by simpa [ofProfile] using h
    have hlist := congrArg String.toList hfile
    rw [String.toList_append, String.toList_append, List.append_left_inj] at hlist
    exact String.toList_inj.mp hlist
  · rintro rfl
    rfl

/-- The folder of profiles is not the place of a profile. -/
theorem ofProfile_ne_profiles (name : String) : ofProfile name ≠ profiles := by
  simp [ofProfile]

/-- The file of the selection is not the place of a profile. -/
theorem ofProfile_ne_selection (name : String) : ofProfile name ≠ selection := by
  simp [ofProfile, profiles, selection]

/-- The place of a profile is inside the settings folder. -/
theorem isOutside_ofProfile (name : String) : (ofProfile name).isOutside = false := by
  have hfirst : ("profiles.d" == "..") = false := by decide
  simp [isOutside, ofProfile, profiles, root, hfirst]

/-- The path of a profile leads through the folder of profiles to its file. -/
theorem ofPath_profile {name : String} (hplain : '/' ∉ name.toList) :
    ofPath (profiles.path ++ "/" ++ (name ++ ending)) = ["profiles.d", name ++ ending] := by
  have hsplits : ∀ {part : String}, '/' ∉ part.toList → ∀ c ∈ part.toList, (c == '/') = false :=
    fun hpart c hc ↦ beq_eq_false_iff_ne.mpr fun heq ↦ hpart (heq ▸ hc)
  have hfolder : '/' ∉ "profiles.d".toList := by decide
  have hfile : '/' ∉ (name ++ ending).toList := by
    rw [String.toList_append, List.mem_append]
    exact not_or.mpr ⟨hplain, by decide⟩
  have hslash : profiles.path ++ "/" = "profiles.d/" := by decide
  have htext : (profiles.path ++ "/" ++ (name ++ ending)).toList =
      "profiles.d".toList ++ '/' :: (name ++ ending).toList := by
    rw [hslash, String.toList_append]
    rfl
  have hsplit : (profiles.path ++ "/" ++ (name ++ ending)).toList.splitOn '/' =
      ["profiles.d".toList, (name ++ ending).toList] := by
    rw [htext]
    exact (List.splitOnP_append_cons_of_forall_mem (hsplits hfolder) '/' rfl _).trans
      (congrArg _ (List.splitOnP_eq_singleton (hsplits hfile)))
  rw [ofPath, hsplit, List.map_cons, List.map_singleton, String.ofList_toList, String.ofList_toList]

end Place

namespace SettingsFolder

variable {f : SettingsFolder} {name : String}

/-- What stands at the place of a profile. -/
theorem node?_ofProfile (f : SettingsFolder) (name : String) :
    f.node? (Place.ofProfile name) = f.nodes.lookup (Place.ofProfile name) := by
  rw [node?, Place.isOutside_ofProfile, if_neg Bool.false_ne_true]

/-- The profile with a name is at its place, in the folder of profiles. -/
theorem place_eq_ok {p : Place} (hplain : '/' ∉ name.toList) (h : f.place name = .ok p) :
    p = Place.ofProfile name := by
  have hrooted : (name.toList.head? == some '/') = false := by
    rw [beq_eq_false_iff_ne]
    exact fun hhead ↦ hplain (List.mem_of_head? hhead)
  unfold place at h
  simp only [hrooted, Bool.false_eq_true, if_false, Place.ofPath_profile hplain] at h
  split_ifs at h
  -- The way leads through the folder of profiles, and to nothing without it.
  have hdots : ("profiles.d" == "" || "profiles.d" == ".") = false := by decide
  have hup : ("profiles.d" == "..") = false := by decide
  simp only [follow, hdots, hup, Bool.false_eq_true, if_false] at h
  split at h
  · cases h
  split at h
  · split at h
    · cases h
    · exact (Except.ok.inj h).symm
  · cases h
  · cases h

/-! ## Names of profiles -/

/-- The name of the profile in a file is the name of the file without its ending. -/
theorem eq_of_profileName? {file : String} (h : profileName? file = some name) :
    file = name ++ Place.ending := by
  unfold profileName? at h
  split at h
  · next hends =>
    obtain ⟨front, hfront⟩ : Place.ending.toList <:+ file.toList :=
      List.isSuffixOf_iff_suffix.mp (Bool.and_eq_true_iff.mp hends).1
    rw [← hfront, List.length_append, Nat.add_sub_cancel, List.take_left] at h
    rw [← Option.some.inj h, ← String.toList_inj, String.toList_append, String.toList_ofList,
      hfront]
  · cases h

/-- Putting a name into others keeps these. -/
theorem mem_insertName {other : String} {names : List String} :
    other ∈ insertName name names ↔ other = name ∨ other ∈ names := by
  induction names with
  | nil => simp [insertName]
  | cons n rest ih =>
    rw [insertName]
    split
    · simp
    · rw [List.mem_cons, ih, List.mem_cons]
      tauto

/-- Putting names in order keeps them. -/
theorem mem_foldr_insertName {names : List String} :
    name ∈ names.foldr insertName [] ↔ name ∈ names := by
  induction names with
  | nil => simp
  | cons n rest ih => rw [List.foldr_cons, mem_insertName, ih, List.mem_cons]

/-- What has a name in a folder stands there. -/
theorem exists_of_mem_namesIn {folder : Place} {file : String} (h : file ∈ f.namesIn folder) :
    ∃ n, (folder ++ [file], n) ∈ f.nodes := by
  obtain ⟨⟨p, n⟩, hmem, hfile⟩ := List.mem_filterMap.mp h
  simp only at hfile
  split at hfile
  · next hfolder =>
    obtain ⟨front, rfl⟩ := List.getLast?_eq_some_iff.mp hfile
    rw [List.dropLast_concat] at hfolder
    exact ⟨n, beq_iff_eq.mp hfolder ▸ hmem⟩
  · cases hfile

/-- Something stands at the place of every profile whose name is listed. -/
theorem exists_of_mem_profileNames {names : List String} (h : f.profileNames = .ok names)
    (hname : name ∈ names) : ∃ n, f.nodes.lookup (Place.ofProfile name) = some n := by
  unfold profileNames at h
  split at h
  · obtain rfl := Except.ok.inj h
    exact absurd hname List.not_mem_nil
  · cases h
  · obtain rfl := Except.ok.inj h
    obtain ⟨file, hfile, heq⟩ := List.mem_filterMap.mp (mem_foldr_insertName.mp hname)
    obtain ⟨n, hn⟩ := exists_of_mem_namesIn hfile
    rw [eq_of_profileName? heq] at hn
    rw [← Option.isSome_iff_exists, ← Option.ne_none_iff_isSome]
    intro hnone
    exact absurd rfl (bne_iff_ne.mp (List.lookup_eq_none_iff.mp hnone _ hn))

end SettingsFolder

end CloudControl
