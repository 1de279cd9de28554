import FileTransfer.FileTree.Open
import FileTransfer.Filename

namespace FileTransfer

/-!
# Where an output goes

Opening an output empties one location of a file tree, and storing its content
fills that location again.  The two together amount to one `put`
(`store_of_create`), so nothing else in the tree changes.

`OffersFiles` says of a directory that whatever opens under a valid name in it is
a regular file.  That is so in every tree without devices
(`offersFiles_of_no_device`), and devices elsewhere do not matter.
-/

namespace Listing

theorem set_single
    (older newer : Entry)
    {location : Location}
    (below : location ≠ []) :
    set newer location (single older location) = single newer location := by
  induction location with
  | nil => exact absurd rfl below
  | cons name deeper ih =>
      cases deeper with
      | nil => simp [single, set]
      | cons next deepest => simpa [single, set] using ih (by simp)

theorem set_set
    (older newer : Entry)
    (location : Location)
    (listing : Listing) :
    set newer location (set older location listing) =
      set newer location listing := by
  induction listing generalizing location with
  | empty =>
      cases location with
      | nil => rfl
      | cons name deeper =>
          simp only [set]
          exact set_single older newer (by simp)
  | named known found inside rest insideHolds restHolds =>
      cases location with
      | nil => rfl
      | cons name deeper =>
          by_cases same : known = name
          · by_cases last : deeper = []
            · simp [set, same, last]
            · simp [set, same, last, insideHolds]
          · simp [set, same, restHolds]

end Listing

namespace FileTree

/-- What does not stand for a directory is not the root. -/
theorem ne_root_of_not_directory
    (tree : FileTree)
    {location : Location}
    (notDirectory : tree.lookup? location ≠ some .directory) :
    location ≠ [] := by
  rintro rfl
  exact notDirectory rfl

/-- Of two entries put at one location, the later one stays. -/
theorem put_put
    (older newer : Entry)
    (location : Location)
    (tree : FileTree) :
    (tree.put location older).put location newer = tree.put location newer := by
  simp [put, Listing.set_set]

/-- What an opened output is: a file that is empty now, or a device. -/
theorem create_cases
    {tree opened : FileTree}
    {path : Path}
    {sink : Sink}
    (opens : tree.create path = .ok (sink, opened)) :
    ∃ spot, tree.resolve true path = .ok spot ∧
      ((spot.location ≠ [] ∧ sink = .file spot.location ∧
          opened = tree.put spot.location (.file []) ∧
          (tree.lookup? spot.location = none ∨
            ∃ old, tree.lookup? spot.location = some (.file old))) ∨
        ∃ device, tree.lookup? spot.location = some (.device device) ∧
          sink = .device device ∧ opened = tree) := by
  unfold create openSink at opens
  cases resolved : tree.resolve true path with
  | error error => simp [resolved] at opens
  | ok spot =>
      simp only [resolved] at opens
      refine ⟨spot, rfl, ?_⟩
      have named
          (notDirectory : tree.lookup? spot.location ≠ some .directory) :
          spot.location ≠ [] :=
        fun isRoot => notDirectory (by simp [isRoot, lookup?])
      cases stands : tree.lookup? spot.location with
      | none =>
          simp only [stands] at opens
          cases opens
          exact .inl ⟨named (by simp [stands]), rfl, rfl, .inl rfl⟩
      | some entry =>
          cases entry with
          | directory => simp [stands] at opens
          | link target => simp [stands] at opens
          | file old =>
              simp only [stands, if_true] at opens
              cases opens
              exact .inl ⟨named (by simp [stands]), rfl, rfl, .inr ⟨old, rfl⟩⟩
          | device device =>
              simp only [stands] at opens
              cases opens
              exact .inr ⟨device, rfl, rfl, rfl⟩

/-- An opened regular file has a name, and is empty. -/
theorem create_file
    {tree opened : FileTree}
    {path : Path}
    {location : Location}
    (opens : tree.create path = .ok (.file location, opened)) :
    location ≠ [] ∧ opened = tree.put location (.file []) := by
  obtain ⟨spot, -, ⟨named, isFile, emptied, -⟩ | ⟨device, -, isDevice, -⟩⟩ :=
    create_cases opens
  · cases isFile
    exact ⟨named, emptied⟩
  · cases isDevice

/-- Storing the content of an opened output comes to one change of the tree. -/
theorem store_of_create
    {tree opened : FileTree}
    {path : Path}
    {sink : Sink}
    (opens : tree.create path = .ok (sink, opened))
    (content : Bytes) :
    opened.store sink content = tree.store sink content := by
  obtain ⟨spot, -, ⟨-, rfl, rfl, -⟩ | ⟨device, -, rfl, rfl⟩⟩ := create_cases opens
  · exact put_put _ _ spot.location tree
  · rfl

/-- The output of a path, if it opens, is a regular file. -/
def RegularOutput (tree : FileTree) (path : Path) : Prop :=
  ∀ sink opened,
    tree.create path = .ok (sink, opened) → ∃ location, sink = .file location

/-- The output of a path opens, and is a regular file. -/
def OpensFile (tree : FileTree) (path : Path) : Prop :=
  ∃ location opened, tree.create path = .ok (.file location, opened)

theorem OpensFile.regularOutput
    {tree : FileTree}
    {path : Path}
    (opensFile : tree.OpensFile path) :
    tree.RegularOutput path := by
  intro sink opened creates
  obtain ⟨location, emptied, opens⟩ := opensFile
  obtain ⟨rfl, -⟩ := Prod.mk.inj (Except.ok.inj (creates.symm.trans opens))
  exact ⟨location, rfl⟩

/-- Below a directory, every output that opens under a valid name is a regular file. -/
def OffersFiles (tree : FileTree) (directory : Path) : Prop :=
  ∀ raw name, Filename.validate raw = .ok name →
    tree.RegularOutput (Path.join directory raw)

/-- Without devices in the tree, every output that opens is a regular file. -/
theorem offersFiles_of_no_device
    {tree : FileTree}
    (noDevice : ∀ location device, tree.lookup? location ≠ some (.device device))
    (directory : Path) :
    tree.OffersFiles directory := by
  intro raw name valid sink opened opens
  obtain ⟨spot, -, ⟨-, isFile, -⟩ | ⟨device, stands, -⟩⟩ := create_cases opens
  · exact ⟨spot.location, isFile⟩
  · exact absurd stands (noDevice _ device)

theorem offersFiles_bare (current : Location) (directory : Path) :
    (bare current).OffersFiles directory := by
  apply offersFiles_of_no_device
  intro location device stands
  cases location with
  | nil => cases stands
  | cons name deeper => simp [bare, lookup?, Listing.find?] at stands

end FileTree

end FileTransfer
