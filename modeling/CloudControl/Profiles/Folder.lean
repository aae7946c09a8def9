import CloudControl.Text.Search

/-!
# The settings folder

A settings folder holds files and further folders. A place in it is the list of the names that
lead there. Profiles are files in a folder of their own, beside the file that says which one is
selected; the name of a profile is the name of its file without the ending. A name with slashes
leads through folders, each of which must be there, and may lead out of the settings folder.
-/

namespace CloudControl

/-- Why a file or a folder cannot be used. -/
inductive FileError where
  /-- The file, or a folder on the way to it, is not there. -/
  | missing
  /-- Something stands where a folder is to be made. -/
  | taken
  /-- A file stands in the place of a folder. -/
  | notFolder
  /-- A folder stands in the place of a file. -/
  | isFolder
  /-- The name of a file or a folder, or the way to it, is too long. -/
  | nameTooLong
  /-- The name holds the null character. -/
  | nullInName
  deriving DecidableEq

/-- The wording of why a file or a folder cannot be used. -/
def FileError.message : FileError → String
  | missing => "No such file or directory (os error 2)"
  | taken => "File exists (os error 17)"
  | notFolder => "Not a directory (os error 20)"
  | isFolder => "Is a directory (os error 21)"
  | nameTooLong => "File name too long (os error 36)"
  | nullInName => "file name contained an unexpected NUL byte"

/-- The names that lead from the settings folder to a file or a folder. Two points at the front
lead out of it, and a slash at the front leads from the root of all folders. -/
abbrev Place := List String

namespace Place

/-- The folder of profiles. -/
def profiles : Place := ["profiles.d"]

/-- The file of the selection. -/
def selection : Place := ["config.json"]

/-- The ending of the files of profiles. -/
def ending : String := ".json"

/-- The root of all folders. -/
def root : Place := ["/"]

/-- The names in a path. -/
def ofPath (path : String) : Place :=
  (path.toList.splitOn '/').map String.ofList

/-- The path of a place. -/
def path (p : Place) : String :=
  String.intercalate "/" p

/-- The folders outside of the settings folder that are always there. -/
def isOutside (p : Place) : Bool :=
  p.all (· == "..") || p == root || p == root ++ ["tmp"]

/-- The folder around a folder. -/
def parent (p : Place) : Place :=
  if p == root then root
  else if p.all (· == "..") then p ++ [".."]
  else p.dropLast

/-- The greatest number of octets in a name. -/
def maxNameLength : Nat := 255

/-- A name is too long. -/
def isTooLong (name : String) : Bool :=
  maxNameLength < name.utf8ByteSize

/-- The greatest number of octets in a path. The way to the settings folder takes a few more. -/
def maxPathLength : Nat := 4079

end Place

/-- What stands at a place. -/
inductive FileNode where
  | file (text : String)
  | folder
  deriving DecidableEq

/-- What stands where in a settings folder. -/
abbrev FileNodes := List (Place × FileNode)

namespace FileNodes

/-- Puts a file or a folder at a place. -/
def write (nodes : FileNodes) (p : Place) (n : FileNode) : FileNodes :=
  (p, n) :: nodes.filter (·.1 != p)

/-- Removes what stands at a place. -/
def remove (nodes : FileNodes) (p : Place) : FileNodes :=
  nodes.filter (·.1 != p)

/-- What was just put at a place stands there. -/
@[simp]
theorem lookup_write_self (nodes : FileNodes) (p : Place) (n : FileNode) :
    (nodes.write p n).lookup p = some n := by
  simp [write]

/-- Removing from a place changes no other. -/
theorem lookup_remove_of_ne (nodes : FileNodes) {p other : Place} (h : other ≠ p) :
    (nodes.remove p).lookup other = nodes.lookup other := by
  induction nodes with
  | nil => rfl
  | cons node rest ih =>
    obtain ⟨q, n⟩ := node
    by_cases hq : q = p
    · subst hq
      have hother : (other == q) = false := beq_eq_false_iff_ne.mpr h
      have ih' : (rest.filter (·.1 != q)).lookup other = rest.lookup other := ih
      simp [remove, List.lookup_cons, hother, ih']
    · have ih' : (rest.filter (·.1 != p)).lookup other = rest.lookup other := ih
      simp [remove, hq, List.lookup_cons, ih']

/-- Putting something at a place changes no other. -/
theorem lookup_write_of_ne (nodes : FileNodes) {p other : Place} (h : other ≠ p)
    (n : FileNode) : (nodes.write p n).lookup other = nodes.lookup other := by
  have hother : (other == p) = false := beq_eq_false_iff_ne.mpr h
  have hrest : (nodes.filter (·.1 != p)).lookup other = nodes.lookup other :=
    lookup_remove_of_ne nodes h
  simp [write, List.lookup_cons, hother, hrest]

/-- Nothing stands where something was removed. -/
theorem lookup_remove_self (nodes : FileNodes) (p : Place) :
    (nodes.remove p).lookup p = none := by
  simpa [remove, List.lookup_eq_none_iff] using fun _ _ _ h heq ↦ h heq.symm

end FileNodes

/-- The files and folders of the settings. -/
structure SettingsFolder where
  nodes : FileNodes
  deriving DecidableEq

namespace SettingsFolder

/-- No files and no folders. -/
def empty : SettingsFolder := ⟨[]⟩

/-- What stands at a place. -/
def node? (f : SettingsFolder) (p : Place) : Option FileNode :=
  if p.isOutside then some .folder else f.nodes.lookup p

/-! ## Files and folders -/

/-- The text of the file at a place. -/
def readFile (f : SettingsFolder) (p : Place) : Except FileError String :=
  match f.node? p with
  | some (.file text) => .ok text
  | some .folder => .error .isFolder
  | none => .error .missing

/-- Writes a file at a place, whose folder is there. -/
def writeFile (f : SettingsFolder) (p : Place) (text : String) : Except FileError SettingsFolder :=
  match f.node? p with
  | some .folder => .error .isFolder
  | _ => .ok ⟨f.nodes.write p (.file text)⟩

/-- Removes the file at a place. -/
def removeFile (f : SettingsFolder) (p : Place) : Except FileError SettingsFolder :=
  match f.node? p with
  | some (.file _) => .ok ⟨f.nodes.remove p⟩
  | some .folder => .error .isFolder
  | none => .error .missing

/-- Makes a folder, unless it is there. -/
def ensureFolder (f : SettingsFolder) (p : Place) : Except FileError SettingsFolder :=
  match f.node? p with
  | some .folder => .ok f
  | some (.file _) => .error .taken
  | none => .ok ⟨f.nodes.write p .folder⟩

/-- The settings folder with a file at a place, and with the folders that lead there. -/
def withFile (f : SettingsFolder) (p : Place) (text : String) : SettingsFolder :=
  let folders := (List.range p.length).map p.take
  let f := folders.foldl (fun f folder ↦ (f.ensureFolder folder).toOption.getD f) f
  ⟨f.nodes.write p (.file text)⟩

/-- Every file, by its place. -/
def files (f : SettingsFolder) : List (Place × String) :=
  f.nodes.filterMap fun
    | (p, .file text) => some (p, text)
    | (_, .folder) => none

/-- Follows names from a folder to the place of the last one. -/
def follow (f : SettingsFolder) (folder : Place) : List String → Except FileError Place
  | [] => .ok folder
  | [name] => if Place.isTooLong name then .error .nameTooLong else .ok (folder ++ [name])
  | name :: rest =>
    if name == "" || name == "." then f.follow folder rest
    else if name == ".." then f.follow folder.parent rest
    else if Place.isTooLong name then .error .nameTooLong
    else
      match f.node? (folder ++ [name]) with
      | some .folder => f.follow (folder ++ [name]) rest
      | some (.file _) => .error .notFolder
      | none => .error .missing

/-! ## Profiles -/

/-- Where the profile with a name is. A name that starts with a slash is a path from the root. -/
def place (f : SettingsFolder) (name : String) : Except FileError Place :=
  let isRooted := name.toList.head? == some '/'
  let path := name ++ Place.ending
  let path := if isRooted then path else Place.profiles.path ++ "/" ++ path
  if name.toList.contains '\x00' then .error .nullInName
  else if Place.maxPathLength < path.utf8ByteSize then .error .nameTooLong
  else f.follow (if isRooted then Place.root else []) (Place.ofPath path)

/-- The name of the profile in a file. A file that is named by the ending alone is none. -/
def profileName? (file : String) : Option String :=
  if Text.endsIn file Place.ending && file != Place.ending then
    some (String.ofList (file.toList.take (file.toList.length - Place.ending.toList.length)))
  else none

/-- Puts a name into names that ascend. -/
def insertName (name : String) : List String → List String
  | [] => [name]
  | n :: rest => if name < n then name :: n :: rest else n :: insertName name rest

/-- The names of what stands in a folder. -/
def namesIn (f : SettingsFolder) (folder : Place) : List String :=
  f.nodes.filterMap fun (p, _) ↦ if p.dropLast == folder then p.getLast? else none

/-- The names of the profiles, ascending; none without the folder of profiles. -/
def profileNames (f : SettingsFolder) : Except FileError (List String) :=
  match f.node? Place.profiles with
  | none => .ok []
  | some (.file _) => .error .notFolder
  | some .folder =>
    .ok (((f.namesIn Place.profiles).filterMap profileName?).foldr insertName [])

end SettingsFolder

end CloudControl
