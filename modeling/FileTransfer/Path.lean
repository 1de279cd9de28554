import FileTransfer.Bytes
import FileTransfer.Text.Lossy

namespace FileTransfer

/-!
# Paths

A path is a run of octets in which only the slash has a meaning.  It is kept as
it was written; what it stands for is read from its parts, the runs between the
slashes.  `components` drops the parts that name nothing, so two spellings of a
path have the same components, and `join` adds one component at the end.
-/

abbrev Path := Bytes

namespace Path

/-- The octet that separates the parts of a path. -/
def slash : UInt8 := 0x2F

/-- The octet that makes up the two names with a meaning of their own. -/
def dot : UInt8 := 0x2E

/-- The name by which a directory refers to itself. -/
def selfName : Bytes := [dot]

/-- The name by which a directory refers to its parent. -/
def parentName : Bytes := [dot, dot]

/-- The runs of octets between the slashes of a path, in order. -/
def parts : Path → List Bytes
  | [] => [[]]
  | octet :: rest =>
      if octet = slash then
        [] :: parts rest
      else
        match parts rest with
        | [] => [[octet]]
        | part :: more => (octet :: part) :: more

/-- A path has at least one part. -/
theorem parts_ne_nil (path : Path) : parts path ≠ [] := by
  cases path with
  | nil => simp [parts]
  | cons octet rest =>
      simp only [parts]
      split
      · simp
      · split <;> simp

/-- A path without a slash is its own only part. -/
theorem parts_of_no_slash
    {path : Path}
    (single : slash ∉ path) :
    parts path = [path] := by
  induction path with
  | nil => rfl
  | cons octet rest ih =>
      have apart : octet ≠ slash := fun same => single (by simp [same])
      have restApart : slash ∉ rest := fun inside => single (by simp [inside])
      simp [parts, apart, ih restApart]

/-- A slash between two paths separates their parts. -/
theorem parts_append_slash (front back : Path) :
    parts (front ++ slash :: back) = parts front ++ parts back := by
  induction front with
  | nil => simp [parts]
  | cons octet rest ih =>
      by_cases separates : octet = slash
      · simp [parts, separates, ih]
      · have nonempty := parts_ne_nil rest
        cases shape : parts rest with
        | nil => exact absurd shape nonempty
        | cons part more => simp [parts, separates, ih, shape]

/-- Whether a path starts at the root. -/
def isAbsolute (path : Path) : Bool :=
  path.head? = some slash

/-- Whether a path ends in a slash, and so insists on a directory. -/
def endsInSlash (path : Path) : Bool :=
  path.getLast? = some slash

/-- The nonempty parts of a path. -/
def names (path : Path) : List Bytes :=
  (parts path).filter (· ≠ [])

/-- What one part of a path asks for. -/
inductive Component where
  | root
  | here
  | up
  | normal (name : Bytes)
  deriving Repr, DecidableEq

/-- The component that a part stands for, if it names anything. -/
def component? (part : Bytes) : Option Component :=
  if part = [] then none
  else if part = selfName then none
  else if part = parentName then some .up
  else some (.normal part)

/-- The component that the first part of a path stands for. -/
def firstComponent? (part : Bytes) (others : List Bytes) : Option Component :=
  if part = [] then
    if others = [] then none else some .root
  else if part = selfName then some .here
  else component? part

/--
The components of a path.  Empty parts and inner parts `.` name nothing; a
leading empty part is the root and a leading part `.` is kept.
-/
def components (path : Path) : List Component :=
  match parts path with
  | [] => []
  | first :: others =>
      (firstComponent? first others).toList ++ others.filterMap component?

/--
The path of a name below a directory.  A slash is added unless the directory
is empty or ends in one; an absolute name stands for itself.
-/
def join (directory name : Path) : Path :=
  if isAbsolute name then name
  else if directory = [] ∨ endsInSlash directory then directory ++ name
  else directory ++ slash :: name

/-- The text that a path is shown as. -/
def display (path : Path) : String :=
  Text.lossy path

def spell (reversed : List Bytes) : Path :=
  List.intercalate [slash] reversed.reverse

/-- Whether a part that has others before it names nothing. -/
def isIdle (part : Bytes) (before : List Bytes) : Bool :=
  before ≠ [] ∧ (part = [] ∨ part = selfName)

/-- Reversed parts without those at the end of the path that name nothing. -/
def trimmed : List Bytes → List Bytes
  | [] => []
  | part :: before =>
      if isIdle part before then trimmed before else part :: before

/-- The paths that reversed parts and their remainders spell, longest first. -/
def lineage : List Bytes → List Path
  | [] => [[]]
  | part :: before =>
      if isIdle part before then lineage before
      else if part = [] then [[slash]]
      else spell (part :: before) :: lineage before

/--
The directories that enclose a path, the nearest first.  A relative path ends
in the empty path and an absolute one in the root; the root and the empty path
have none.
-/
def ancestors (path : Path) : List Path :=
  match trimmed (parts path).reverse with
  | [] => []
  | part :: before =>
      if part = [] then [] else lineage before

end Path

end FileTransfer
