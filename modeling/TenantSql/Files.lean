import TenantSql.Error

/-!
The files a deployment is set up from. `Files` is what loading needs to know of a file system: whether
something is there, and the text that is there. `Listing` is a file system given by the list of what it
holds.
-/

namespace TenantSql

/-- A view of a file system. -/
structure Files where
  isThere : String → Bool
  text : String → Except FileFault String

/-- The path of a file in a directory, with a separator before the name unless the directory is empty or
ends in one. -/
def pathIn (directory name : String) : String :=
  if directory.toList.getLast?.all (· == '/') then directory ++ name else directory ++ "/" ++ name

/-- All paths in a directory begin alike, and the name follows. -/
theorem pathIn_eq_append (directory name : String) : pathIn directory name = pathIn directory "" ++ name := by
  unfold pathIn
  split
  · rw [String.append_empty]
  · rw [String.append_empty]

theorem pathIn_injective {directory one other : String} (same : pathIn directory one = pathIn directory other) :
    one = other := by
  rw [pathIn_eq_append directory one, pathIn_eq_append directory other] at same
  exact (String.append_right_inj _).mp same

example : pathIn "" "a.toml" = "a.toml" ∧ pathIn "conf/" "a.toml" = "conf/a.toml" ∧
    pathIn "conf" "a.toml" = "conf/a.toml" := by decide

/-- What a path leads to. -/
inductive Entry where
  | file (bytes : ByteArray)
  | directory

/-- Everything a directory holds: paths, as the names on the way to them, and what is there. -/
abbrev Listing := List (List String × Entry)

namespace Listing

/-- The names of a path relative to a directory. -/
def names (path : String) : List String :=
  (Text.pieces (· == '/') path.toList).map String.ofList

/-- What stands under a path. Every path on the way to something is a directory. -/
def entry? (listing : Listing) (path : List String) : Option Entry :=
  match listing.find? (·.1 == path) with
  | some (_, entry) => some entry
  | none =>
    if path.isEmpty || listing.any (fun (held, _) => path.isPrefixOf held) then some .directory
    else none

/-- The most bytes that a name of one file can have. -/
def longestName : Nat := 255

/-- The most bytes that a path can have. -/
def longestPath : Nat := 4095

/-- Walks down from a directory. Empty names and single dots stay where they are, double dots go back;
only directories lead further. -/
def walk (listing : Listing) (reached : List String) : List String → Except FileFault Entry
  | [] =>
    match listing.entry? reached with
    | some entry => .ok entry
    | none => .error .notFound
  | name :: rest =>
    match listing.entry? reached with
    | some .directory =>
      if name = "" || name = "." then walk listing reached rest
      else if name = ".." then walk listing reached.dropLast rest
      else if longestName < name.utf8ByteSize then .error .nameTooLong
      else walk listing (reached ++ [name]) rest
    | some (.file _) => .error .notDirectory
    | none => .error .notFound

/-- What a path leads to. -/
def find (listing : Listing) (path : String) : Except FileFault Entry :=
  if path.contains '\x00' then .error .nullInName
  else if longestPath < path.utf8ByteSize then .error .nameTooLong
  else listing.walk [] (names path)

/-- The text of a file. -/
def read (listing : Listing) (path : String) : Except FileFault String :=
  match listing.find path with
  | .ok (.file bytes) =>
    match String.fromUTF8? bytes with
    | some text => .ok text
    | none => .error .notText
  | .ok .directory => .error .isDirectory
  | .error fault => .error fault

/-- The view of a file system that has nothing but this directory, reached by the given path. -/
def files (listing : Listing) (root : String) : Files where
  isThere path :=
    match below path with
    | some path => (listing.find path).isOk
    | none => false
  text path :=
    match below path with
    | some path => listing.read path
    | none => .error .notFound
where
  /-- The part of a path below the directory. -/
  below (path : String) : Option String :=
    let beginning := (pathIn root "").toList
    if beginning.isPrefixOf path.toList then some (String.ofList (path.toList.drop beginning.length))
    else none

/-- By the path of a name in the directory one comes to what the listing has under the name. -/
theorem files_pathIn (listing : Listing) (root name : String) :
    (listing.files root).isThere (pathIn root name) = (listing.find name).isOk ∧
      (listing.files root).text (pathIn root name) = listing.read name := by
  have below : files.below root (pathIn root name) = some name := by
    have begun : (pathIn root "").toList <+: (pathIn root "").toList ++ name.toList := List.prefix_append _ _
    rw [files.below, pathIn_eq_append root name, String.toList_append, if_pos (List.isPrefixOf_iff_prefix.mpr begun),
      List.drop_left, String.ofList_toList]
  simp only [files, below, and_self]

end Listing
end TenantSql
