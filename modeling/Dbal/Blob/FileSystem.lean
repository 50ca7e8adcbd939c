/-
# An ideal file system

The part of `std::filesystem` and of the file streams that the blob store uses, below its root
directory and without symbolic links, as Linux has it.  A text names what is left of it up to the
first NUL, its components between the slashes without the empty ones and the dots; a text that ends
with a slash or a dot names only directories.  Nothing fails for want of space or of permission.
-/

import Mathlib.Data.List.AList
import Mathlib.Data.List.Infix
import Mathlib.Data.List.TakeWhile
import Dbal.Codec.Search

namespace Dbal
namespace Blob

/-- A name in a directory. -/
structure Name where
  chars : List Char
  ne_nil : chars ≠ []
  ne_dot : chars ≠ ['.']
  no_slash : '/' ∉ chars
  no_nul : '\x00' ∉ chars
  deriving DecidableEq

/-- The names from the root directory down. -/
abbrev Path := List Name

/-- The name that a component of a text is, if it is one. -/
def Name.ofChars? (chars : List Char) : Option Name :=
  if h : chars ≠ [] ∧ chars ≠ ['.'] ∧ '/' ∉ chars ∧ '\x00' ∉ chars then
    some ⟨chars, h.1, h.2.1, h.2.2.1, h.2.2.2⟩
  else none

@[simp] theorem Name.ofChars?_chars (name : Name) : Name.ofChars? name.chars = some name := by
  simp [Name.ofChars?, name.ne_nil, name.ne_dot, name.no_slash, name.no_nul]

/-- How a text ends. -/
inductive Ending where
  | name | slash | dot
  deriving DecidableEq, Repr

/-- What a text names. -/
structure Location where
  path : Path
  ending : Ending
  deriving DecidableEq

/-- The text up to the first NUL. -/
def cString (chars : List Char) : List Char := chars.takeWhile (· ≠ '\x00')

/-- The components between the slashes. -/
def components (chars : List Char) : List (List Char) := chars.splitOn '/'

/-- How the text with these components ends. -/
def endingOf (parts : List (List Char)) : Ending :=
  if (parts.reverse.dropWhile (· = [])).head? = some ['.'] then .dot
  else if parts.getLast? = some [] then .slash
  else .name

/-- What the text names below the root directory. -/
def resolve (text : String) : Location where
  path := (components (cString text.toList)).filterMap Name.ofChars?
  ending := endingOf (components (cString text.toList))

/-- The text of a path, with slashes between its names. -/
def keyOf (path : Path) : String :=
  String.ofList (['/'].intercalate (path.map Name.chars))

/-- A regular file. -/
structure File where
  bytes : List UInt8
  lastWrite : Int
  deriving DecidableEq

/-- The files and the directories below the root; no path is both. -/
structure FileSystem where
  files : AList fun _ : Path => File
  dirs : List Path
  root_not_file : [] ∉ files
  dirs_not_files : ∀ path ∈ dirs, path ∉ files

namespace FileSystem

variable (fs : FileSystem)

def isDirectory (path : Path) : Bool := path = [] || path ∈ fs.dirs

theorem not_mem_of_isDirectory {fs : FileSystem} {path : Path} (h : fs.isDirectory path = true) :
    path ∉ fs.files := by
  rw [isDirectory, Bool.or_eq_true, decide_eq_true_eq, decide_eq_true_eq] at h
  rcases h with rfl | h
  · exact fs.root_not_file
  · exact fs.dirs_not_files path h

theorem ne_nil_of_mem {fs : FileSystem} {path : Path} (h : path ∈ fs.files) : path ≠ [] := by
  rintro rfl
  exact fs.root_not_file h

/-- The regular file that a text names. -/
def fileAt (location : Location) : Option File :=
  if location.ending = .name then fs.files.lookup location.path else none

/-- `exists`. -/
def existsAt (location : Location) : Bool :=
  fs.isDirectory location.path || (fs.fileAt location).isSome

/-- The file stands under the path, with what was there before replaced. -/
def put (path : Path) (file : File) (h : fs.isDirectory path = false) : FileSystem where
  files := fs.files.insert path file
  dirs := fs.dirs
  root_not_file := by
    have hroot : path ≠ [] := by
      rintro rfl
      simp [isDirectory] at h
    simp [fs.root_not_file, hroot.symm]
  dirs_not_files := by
    intro other hother
    have hne : other ≠ path := by
      rintro rfl
      simp [isDirectory, hother] at h
    simp [hne, fs.dirs_not_files other hother]

/-- No file stands under the path. -/
def erase (path : Path) : FileSystem where
  files := fs.files.erase path
  dirs := fs.dirs
  root_not_file := fun h => fs.root_not_file (AList.mem_erase.1 h).2
  dirs_not_files := fun other hother h => fs.dirs_not_files other hother (AList.mem_erase.1 h).2

/-- `create_directories`: a file in the way is an error. -/
def createDirectories (location : Location) : Except String FileSystem :=
  if h : ∀ path ∈ location.path.inits.tail, path ∉ fs.files then
    .ok { fs with
      dirs := fs.dirs ∪ location.path.inits.tail
      dirs_not_files := fun path hpath =>
        (List.mem_union_iff.1 hpath).elim (fs.dirs_not_files path) (h path) }
  else .error "Not a directory"

/-- An `ofstream` that truncates, and what is written to it. -/
def write (location : Location) (file : File) : Option FileSystem :=
  if h : fs.isDirectory location.path = false then
    if location.ending = .name ∧ fs.isDirectory location.path.dropLast = true then
      some (fs.put location.path file h)
    else none
  else none

/-- `rename` of a regular file. -/
def rename (source target : Location) : Except String FileSystem :=
  match fs.fileAt source with
  | none => .error "No such file or directory"
  | some file =>
      if h : fs.isDirectory target.path = false then
        if target.ending ≠ .name then .error "Not a directory"
        else if source.path = target.path then .ok fs
        else .ok ((fs.put target.path file h).erase source.path)
      else .error "Is a directory"

/-- `copy_file` with `overwrite_existing`. -/
def copyFile (source target : Location) (now : Int) : Except String FileSystem :=
  match fs.fileAt source with
  | none => .error "No such file or directory"
  | some file =>
      if h : fs.isDirectory target.path = false then
        if target.ending ≠ .name then .error "Is a directory"
        else if source.path = target.path then .error "File exists"
        else .ok (fs.put target.path { file with lastWrite := now } h)
      else .error "Is a directory"

/-- Nothing stands in the directory. -/
def isEmpty (path : Path) : Bool :=
  fs.isDirectory path &&
    !(fs.files.keys.any fun other => path.isPrefixOf other && other ≠ path) &&
    !(fs.dirs.any fun other => path.isPrefixOf other && other ≠ path)

/-- A directory is no more. -/
def eraseDirectory (path : Path) : FileSystem :=
  { fs with
    dirs := fs.dirs.erase path
    dirs_not_files := fun other hother => fs.dirs_not_files other (List.mem_of_mem_erase hother) }

/-- `remove`: of an empty directory, or of a file. -/
def remove (location : Location) : Except String FileSystem :=
  if fs.isDirectory location.path then
    if location.ending = .dot || location.path = [] then .error "Invalid argument"
    else if fs.isEmpty location.path then .ok (fs.eraseDirectory location.path)
    else .error "Directory not empty"
  else if (fs.fileAt location).isSome then .ok (fs.erase location.path)
  else .error "No such file or directory"

end FileSystem

/-! ### Texts of paths -/

theorem cString_keyOf (path : Path) :
    cString (keyOf path).toList = ['/'].intercalate (path.map Name.chars) := by
  rw [keyOf, String.toList_ofList, cString, List.takeWhile_eq_self_iff]
  intro c hc
  rcases Codec.mem_intercalate hc with hslash | ⟨chars, hchars, hc⟩
  · rw [List.mem_singleton.1 hslash]
    decide
  · obtain ⟨name, -, rfl⟩ := List.mem_map.1 hchars
    simpa using ne_of_mem_of_not_mem hc name.no_nul

theorem components_keyOf {path : Path} (h : path ≠ []) :
    components (cString (keyOf path).toList) = path.map Name.chars := by
  rw [cString_keyOf, components, List.splitOn_intercalate]
  · intro chars hchars
    obtain ⟨name, -, rfl⟩ := List.mem_map.1 hchars
    exact name.no_slash
  · simpa using h

/-- **A path is found under its text.** -/
theorem resolve_keyOf {path : Path} (h : path ≠ []) : resolve (keyOf path) = ⟨path, .name⟩ := by
  have hparts := components_keyOf h
  obtain ⟨front, last, hpath⟩ := (List.eq_nil_or_concat path).resolve_left h
  have hending : endingOf (path.map Name.chars) = .name := by
    simp [endingOf, hpath, last.ne_nil, last.ne_dot]
  rw [resolve, hparts, hending, List.filterMap_map]
  simp

/-- The text of a path is a text of no other one. -/
theorem keyOf_injective {path path' : Path} (h : path ≠ []) (h' : path' ≠ [])
    (hkey : keyOf path = keyOf path') : path = path' := by
  have hresolve := resolve_keyOf h
  rw [hkey, resolve_keyOf h'] at hresolve
  exact (congrArg Location.path hresolve).symm

/-- A name with more characters behind. -/
def Name.append (name : Name) (more : List Char) (h : '/' ∉ more ∧ '\x00' ∉ more ∧
    more.length ≠ 0) : Name where
  chars := name.chars ++ more
  ne_nil := by simp [name.ne_nil]
  ne_dot := by
    intro hdot
    have hlength := congrArg List.length hdot
    have hpos := List.length_pos_iff.2 name.ne_nil
    simp at hlength
    omega
  no_slash := by simp [name.no_slash, h.1]
  no_nul := by simp [name.no_nul, h.2.1]

/-- The last name of a path with more characters behind. -/
theorem keyOf_append (front : Path) (last : Name) (more : String) (h) :
    keyOf (front ++ [last]) ++ more = keyOf (front ++ [last.append more.toList h]) := by
  rw [← String.toList_inj, String.toList_append]
  simp [keyOf, Name.append, Codec.intercalate_append_last]

end Blob
end Dbal
