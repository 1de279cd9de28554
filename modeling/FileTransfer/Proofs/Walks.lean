import FileTransfer.Proofs.Names
import FileTransfer.Proofs.Outputs
import Mathlib

namespace FileTransfer

/-!
# Where a path leads

`FileTree.Leads` describes the successful walks of a tree by their first moves,
so that facts about walks are proved by induction on it.

Two facts matter for outputs.  An existing directory takes a regular file under
any plain name that is free in it or already stands for a regular file
(`create_of_takes`), and what was stored in an output is found again by its
path (`contentOf_put_of_create`).
-/

namespace FileTree

/-- Putting an entry where there is none, or a file, leaves everything but files alone. -/
theorem lookup?_put_of_free
    {tree : FileTree}
    {place other : Location}
    {held : Entry}
    (free :
      tree.lookup? place = none ∨ ∃ old, tree.lookup? place = some (.file old))
    (stands : tree.lookup? other = some held)
    (notFile : ∀ old, held ≠ .file old)
    (entry : Entry) :
    (tree.put place entry).lookup? other = some held := by
  rw [lookup?_put_of_ne _ tree, stands]
  rintro rfl
  rcases free with free | ⟨old, isFile⟩
  · simp [free] at stands
  · rw [isFile, Option.some.injEq] at stands
    exact notFile old stands.symm

/--
Whether moves lead from a location to a spot when at most a given number of
links is followed.
-/
inductive Leads
    (tree : FileTree)
    (creating : Bool) :
    Nat → Location → List Path.Move → Spot → Prop where
  | stay (links : Nat) (location : Location) :
      Leads tree creating links location [] (.entry location)
  | here
      {links : Nat}
      {location : Location}
      {rest : List Path.Move}
      {spot : Spot}
      (isOpen : tree.lookup? location = some .directory)
      (further : Leads tree creating links location rest spot) :
      Leads tree creating links location (.here :: rest) spot
  | insist
      {links : Nat}
      {location : Location}
      {rest : List Path.Move}
      {spot : Spot}
      (isOpen : tree.lookup? location = some .directory)
      (further : Leads tree creating links location rest spot) :
      Leads tree creating links location (.insist :: rest) spot
  | up
      {links : Nat}
      {location : Location}
      {rest : List Path.Move}
      {spot : Spot}
      (isOpen : tree.lookup? location = some .directory)
      (further : Leads tree creating links location.dropLast rest spot) :
      Leads tree creating links location (.up :: rest) spot
  | vacant
      {links : Nat}
      {location : Location}
      {name : Bytes}
      (isOpen : tree.lookup? location = some .directory)
      (short : name.length ≤ nameLimit)
      (free : tree.lookup? (location ++ [name]) = none) :
      Leads tree creating links location [.enter name] (.vacant location name)
  | link
      {links : Nat}
      {location : Location}
      {name target : Bytes}
      {rest : List Path.Move}
      {spot : Spot}
      (isOpen : tree.lookup? location = some .directory)
      (notLast : ¬(creating ∧ rest = [.insist]))
      (short : name.length ≤ nameLimit)
      (stands : tree.lookup? (location ++ [name]) = some (.link target))
      (further :
        Leads tree creating links
          (if Path.isAbsolute target then [] else location)
          (Path.moves target ++ rest) spot) :
      Leads tree creating (links + 1) location (.enter name :: rest) spot
  | enter
      {links : Nat}
      {location : Location}
      {name : Bytes}
      {entry : Entry}
      {rest : List Path.Move}
      {spot : Spot}
      (isOpen : tree.lookup? location = some .directory)
      (notLast : ¬(creating ∧ rest = [.insist]))
      (short : name.length ≤ nameLimit)
      (stands : tree.lookup? (location ++ [name]) = some entry)
      (notLink : ∀ target, entry ≠ .link target)
      (further : Leads tree creating links (location ++ [name]) rest spot) :
      Leads tree creating links location (.enter name :: rest) spot

/-- A walk that ends somewhere is a way that leads there. -/
theorem leads_of_walk
    {tree : FileTree}
    {creating : Bool}
    {links : Nat}
    {location : Location}
    {moves : List Path.Move}
    {spot : Spot}
    (walks : tree.walk creating links (tree.position location) moves = .ok spot) :
    tree.Leads creating links location moves spot := by
  cases moves with
  | nil =>
      rw [walk_nil] at walks
      cases walks
      exact .stay links location
  | cons move rest =>
      rw [walk_cons] at walks
      split at walks
      case isFalse => cases walks
      case isTrue isOpen =>
        cases move with
        | here => exact .here isOpen (leads_of_walk walks)
        | insist => exact .insist isOpen (leads_of_walk walks)
        | up => exact .up isOpen (leads_of_walk walks)
        | enter name =>
            simp only at walks
            split at walks
            case isTrue => cases walks
            case isFalse notLast =>
              split at walks
              case isTrue => cases walks
              case isFalse short =>
                have short : name.length ≤ nameLimit := Nat.le_of_not_lt short
                cases stands : tree.lookup? (location ++ [name]) with
                | none =>
                    simp only [stands] at walks
                    split at walks
                    case isFalse => cases walks
                    case isTrue last =>
                      cases walks
                      subst last
                      exact .vacant isOpen short stands
                | some entry =>
                    cases entry with
                    | link target =>
                        cases links with
                        | zero => simp [stands] at walks
                        | succ fewer =>
                            simp only [stands, ← apply_ite] at walks
                            exact .link isOpen notLast short stands
                              (leads_of_walk walks)
                    | directory =>
                        simp only [stands] at walks
                        exact .enter isOpen notLast short stands (by simp)
                          (leads_of_walk walks)
                    | file old =>
                        simp only [stands] at walks
                        exact .enter isOpen notLast short stands (by simp)
                          (leads_of_walk walks)
                    | device device =>
                        simp only [stands] at walks
                        exact .enter isOpen notLast short stands (by simp)
                          (leads_of_walk walks)
termination_by (links, moves.length)

/-- A way that leads somewhere is walked. -/
theorem Leads.walk
    {tree : FileTree}
    {creating : Bool}
    {links : Nat}
    {location : Location}
    {moves : List Path.Move}
    {spot : Spot}
    (leads : tree.Leads creating links location moves spot) :
    tree.walk creating links (tree.position location) moves = .ok spot := by
  induction leads with
  | stay links location => exact walk_nil tree creating links location
  | here isOpen further ih => simpa [walk_cons, isOpen] using ih
  | insist isOpen further ih => simpa [walk_cons, isOpen] using ih
  | up isOpen further ih => simpa [walk_cons, isOpen] using ih
  | vacant isOpen short free =>
      simp [walk_cons, isOpen, Nat.not_lt.mpr short, free]
  | link isOpen notLast short stands further ih =>
      simp only [apply_ite] at ih
      simpa [walk_cons, isOpen, notLast, Nat.not_lt.mpr short, stands] using ih
  | @enter links location name entry rest spot isOpen notLast short stands
      notLink further ih =>
      cases entry with
      | link target => exact absurd rfl (notLink target)
      | directory =>
          simpa [walk_cons, isOpen, notLast, Nat.not_lt.mpr short, stands] using ih
      | file old =>
          simpa [walk_cons, isOpen, notLast, Nat.not_lt.mpr short, stands] using ih
      | device device =>
          simpa [walk_cons, isOpen, notLast, Nat.not_lt.mpr short, stands] using ih

namespace Leads

variable
  {tree : FileTree}
  {creating : Bool}
  {links : Nat}
  {location : Location}
  {moves : List Path.Move}
  {spot : Spot}

/-- Whatever comes before it, the last move of a way is made from some location. -/
theorem last_move
    {links : Nat}
    {location : Location}
    {moves : List Path.Move}
    {last : Path.Move}
    (front : List Path.Move)
    (leads : tree.Leads creating links location moves spot)
    (shape : moves = front ++ [last]) :
    ∃ fewer middle, tree.Leads creating fewer middle [last] spot := by
  cases front with
  | nil =>
      subst shape
      exact ⟨links, location, leads⟩
  | cons move others =>
      cases leads with
      | stay => cases shape
      | here _ further => exact last_move others further (List.cons.inj shape).2
      | insist _ further => exact last_move others further (List.cons.inj shape).2
      | up _ further => exact last_move others further (List.cons.inj shape).2
      | vacant => simp at shape
      | @link links _ name target rest _ _ _ _ _ further =>
          obtain ⟨-, rfl⟩ := List.cons.inj shape
          exact last_move (Path.moves target ++ others) further
            (List.append_assoc _ others _).symm
      | enter _ _ _ _ _ further =>
          exact last_move others further (List.cons.inj shape).2

/-- Moves that insist on a directory lead to one. -/
theorem directory_of_insist
    (front : List Path.Move)
    (leads : tree.Leads creating links location (front ++ [.insist]) spot) :
    tree.lookup? spot.location = some .directory := by
  obtain ⟨fewer, middle, last⟩ := leads.last_move front rfl
  cases last with
  | insist isOpen further =>
      cases further
      exact isOpen

/-- A way to anything but a directory is open to a walk that may create an entry. -/
theorem toCreate
    (leads : tree.Leads false links location moves spot)
    (notDirectory : tree.lookup? spot.location ≠ some .directory) :
    tree.Leads true links location moves spot := by
  induction leads with
  | stay links location => exact .stay links location
  | here isOpen _ ih => exact .here isOpen (ih notDirectory)
  | insist isOpen _ ih => exact .insist isOpen (ih notDirectory)
  | up isOpen _ ih => exact .up isOpen (ih notDirectory)
  | vacant isOpen short free => exact .vacant isOpen short free
  | link isOpen _ short stands further ih =>
      refine .link isOpen ?_ short stands (ih notDirectory)
      rintro ⟨-, rfl⟩
      exact notDirectory (further.directory_of_insist _)
  | enter isOpen _ short stands notLink further ih =>
      refine .enter isOpen ?_ short stands notLink (ih notDirectory)
      rintro ⟨-, rfl⟩
      exact notDirectory (directory_of_insist [] further)

/-- A way to a directory is continued by a way from there to a name. -/
theorem thenEnter
    {name : Bytes}
    {tail : List Path.Move}
    {last : Spot}
    (leads : tree.Leads false links location (moves ++ tail) spot)
    (idle : tail = [] ∨ tail = [.insist])
    (directory : tree.lookup? spot.location = some .directory)
    (enters :
      ∀ links, tree.Leads creating links spot.location [.enter name] last) :
    tree.Leads creating links location (moves ++ [.enter name]) last := by
  generalize shape : moves ++ tail = all at leads
  have notInsist (others : List Path.Move) :
      ¬(creating ∧ others ++ [.enter name] = [.insist]) := by
    rintro ⟨-, same⟩
    cases others <;> simp at same
  induction leads generalizing moves with
  | stay links location =>
      obtain ⟨rfl, -⟩ := List.append_eq_nil_iff.mp shape
      exact enters links
  | here isOpen further ih =>
      cases moves with
      | nil => rcases idle with rfl | rfl <;> simp at shape
      | cons move others =>
          obtain ⟨rfl, remains⟩ := List.cons.inj shape
          exact .here isOpen (ih directory enters remains)
  | insist isOpen further ih =>
      cases moves with
      | nil =>
          rcases idle with rfl | rfl
          · cases shape
          · obtain ⟨-, rfl⟩ := List.cons.inj shape
            cases further
            exact enters _
      | cons move others =>
          obtain ⟨rfl, remains⟩ := List.cons.inj shape
          exact .insist isOpen (ih directory enters remains)
  | up isOpen further ih =>
      cases moves with
      | nil => rcases idle with rfl | rfl <;> simp at shape
      | cons move others =>
          obtain ⟨rfl, remains⟩ := List.cons.inj shape
          exact .up isOpen (ih directory enters remains)
  | vacant isOpen short free => simp [Spot.location, free] at directory
  | @link links location next target rest spot isOpen _ short stands further ih =>
      cases moves with
      | nil => rcases idle with rfl | rfl <;> simp at shape
      | cons move others =>
          obtain ⟨rfl, rfl⟩ := List.cons.inj shape
          have later :=
            ih directory enters (List.append_assoc (Path.moves target) others _)
          rw [List.append_assoc] at later
          exact .link isOpen (notInsist others) short stands later
  | enter isOpen _ short stands notLink further ih =>
      cases moves with
      | nil => rcases idle with rfl | rfl <;> simp at shape
      | cons move others =>
          obtain ⟨rfl, rfl⟩ := List.cons.inj shape
          exact .enter isOpen (notInsist others) short stands notLink
            (ih directory enters rfl)

/-- The way to an output leads to the file that is stored there. -/
theorem afterPut
    (leads : tree.Leads creating links location moves spot)
    (free :
      tree.lookup? spot.location = none ∨
        ∃ old, tree.lookup? spot.location = some (.file old))
    (named : spot.location ≠ [])
    (content : Bytes) :
    (tree.put spot.location (.file content)).Leads false links location moves
      (.entry spot.location) := by
  have kept
      {other : Location}
      {entry : Entry}
      (stands : tree.lookup? other = some entry)
      (notFile : ∀ old, entry ≠ .file old) :
      (tree.put spot.location (.file content)).lookup? other = some entry :=
    lookup?_put_of_free free stands notFile _
  induction leads with
  | stay links location => exact .stay links location
  | here isOpen _ ih =>
      exact .here (kept isOpen (by simp)) (ih free named kept)
  | insist isOpen _ ih =>
      exact .insist (kept isOpen (by simp)) (ih free named kept)
  | up isOpen _ ih =>
      exact .up (kept isOpen (by simp)) (ih free named kept)
  | vacant isOpen short _ =>
      exact .enter (kept isOpen (by simp)) (by simp) short
        (lookup?_put_self _ tree named) (by simp) (.stay _ _)
  | link isOpen _ short stands _ ih =>
      exact .link (kept isOpen (by simp)) (by simp) short
        (kept stands (by simp)) (ih free named kept)
  | @enter links location name entry rest spot isOpen _ short stands notLink
      further ih =>
      have later := ih free named kept
      by_cases last : location ++ [name] = spot.location
      · have there :
            (tree.put spot.location (.file content)).lookup? (location ++ [name]) =
              some (.file content) := by
          rw [last, lookup?_put_self _ tree named]
        exact .enter (kept isOpen (by simp)) (by simp) short there (by simp) later
      · refine .enter (kept isOpen (by simp)) (by simp) short ?_ notLink later
        rw [lookup?_put_of_ne _ tree last, stands]

/-- A way from anything but a directory goes nowhere. -/
theorem stays
    (leads : tree.Leads creating links location moves spot)
    (notDirectory : tree.lookup? location ≠ some .directory) :
    spot = .entry location := by
  cases leads with
  | stay => rfl
  | here isOpen => exact absurd isOpen notDirectory
  | insist isOpen => exact absurd isOpen notDirectory
  | up isOpen => exact absurd isOpen notDirectory
  | vacant isOpen => exact absurd isOpen notDirectory
  | link isOpen => exact absurd isOpen notDirectory
  | enter isOpen => exact absurd isOpen notDirectory

/-- A way to a directory passes no file, so it remains when a file is written. -/
theorem keep
    {place : Location}
    (leads : tree.Leads creating links location moves spot)
    (directory : tree.lookup? spot.location = some .directory)
    (free :
      tree.lookup? place = none ∨ ∃ old, tree.lookup? place = some (.file old))
    (entry : Entry) :
    (tree.put place entry).Leads creating links location moves spot := by
  have kept
      {other : Location}
      {held : Entry}
      (stands : tree.lookup? other = some held)
      (notFile : ∀ old, held ≠ .file old) :
      (tree.put place entry).lookup? other = some held :=
    lookup?_put_of_free free stands notFile entry
  induction leads with
  | stay links location => exact .stay links location
  | here isOpen _ ih => exact .here (kept isOpen (by simp)) (ih directory)
  | insist isOpen _ ih => exact .insist (kept isOpen (by simp)) (ih directory)
  | up isOpen _ ih => exact .up (kept isOpen (by simp)) (ih directory)
  | vacant _ _ vacant => simp [Spot.location, vacant] at directory
  | link isOpen notLast short stands _ ih =>
      exact .link (kept isOpen (by simp)) notLast short (kept stands (by simp))
        (ih directory)
  | enter isOpen notLast short stands notLink further ih =>
      refine .enter (kept isOpen (by simp)) notLast short (kept stands ?_) notLink
        (ih directory)
      rintro old rfl
      rw [further.stays (by simp [stands]), Spot.location, stands] at directory
      cases directory

end Leads

def start (tree : FileTree) (path : Path) : Location :=
  if Path.isAbsolute path then [] else tree.current

/-- A path stands for the spot that its moves lead to. -/
theorem resolve_eq_ok_iff
    {tree : FileTree}
    {creating : Bool}
    {path : Path}
    {spot : Spot} :
    tree.resolve creating path = .ok spot ↔
      checkPath path = .ok () ∧
        tree.Leads creating linkLimit (tree.start path) (Path.moves path) spot := by
  unfold resolve
  cases checked : checkPath path with
  | error error => simp
  | ok done =>
      constructor
      · intro resolved
        refine ⟨rfl, leads_of_walk ?_⟩
        cases walks : tree.walk creating linkLimit (tree.origin path)
            (Path.moves path) with
        | error error => simp [walks, Except.mapError] at resolved
        | ok found =>
            simp only [walks, Except.mapError, Except.ok.injEq] at resolved
            rw [← resolved]
            exact walks
      · rintro ⟨-, leads⟩
        have walks : tree.walk creating linkLimit (tree.origin path)
            (Path.moves path) = .ok spot := leads.walk
        simp [walks, Except.mapError]

/-- A path is found at the spot that it stands for, if there is an entry. -/
theorem find_eq_ok_iff
    {tree : FileTree}
    {path : Path}
    {location : Location}
    {entry : Entry} :
    tree.find path = .ok (location, entry) ↔
      ∃ spot, tree.resolve false path = .ok spot ∧ spot.location = location ∧
        tree.lookup? location = some entry := by
  unfold find
  cases resolved : tree.resolve false path with
  | error error => simp
  | ok spot =>
      cases stands : tree.lookup? spot.location with
      | none =>
          constructor
          · intro found
            simp [stands] at found
          · rintro ⟨_, ⟨⟩, rfl, holds⟩
            simp [stands] at holds
      | some held =>
          constructor
          · intro found
            simp only [stands, Except.ok.injEq, Prod.mk.injEq] at found
            rcases found with ⟨rfl, rfl⟩
            exact ⟨spot, rfl, rfl, stands⟩
          · rintro ⟨_, ⟨⟩, rfl, holds⟩
            rw [stands, Option.some.injEq] at holds
            simp [stands, holds]

/-- An output opens as a regular file where there is one or none. -/
theorem create_of_resolve
    {tree : FileTree}
    {path : Path}
    {spot : Spot}
    (resolved : tree.resolve true path = .ok spot)
    (free :
      tree.lookup? spot.location = none ∨
        ∃ old, tree.lookup? spot.location = some (.file old)) :
    tree.create path =
      .ok (.file spot.location, tree.put spot.location (.file [])) := by
  rcases free with free | ⟨old, isFile⟩
  · simp [create, openSink, resolved, free]
  · simp [create, openSink, resolved, isFile]

/-- Of a path that the host takes, it takes any plain name that is not too far. -/
theorem checkPath_join
    {directory name : Path}
    (checked : checkPath directory = .ok ())
    (plain : Filename.isPlain name)
    (fits : (Path.join directory name).length < pathLimit) :
    checkPath (Path.join directory name) = .ok () := by
  have clean : 0 ∉ directory := fun inside => by
    simp [checkPath, inside] at checked
  have allowed : 0 ∉ Path.join directory name := by
    intro inside
    rcases Path.mem_join inside with front | same | back
    · exact clean front
    · exact absurd same (by decide)
    · exact Filename.no_nul_of_isPlain plain back
  obtain ⟨nonempty, single, -⟩ := Filename.parts_of_isPlain plain
  have given : Path.join directory name ≠ [] := by
    intro empty
    have names :
        Path.names (Path.join directory name) = Path.names directory ++ [name] :=
      Path.names_join nonempty single
    simp [empty, Path.names, Path.parts] at names
  simp [checkPath, allowed, given, Nat.not_le.mpr fits]

/--
Whether a directory exists and has a place for a regular file under a name:
either the name is free there, and its path no longer than the host allows, or
what it stands for is a regular file.
-/
def Takes (tree : FileTree) (directory : Path) (name : Bytes) : Prop :=
  ∃ place, tree.find directory = .ok (place, .directory) ∧
    ((tree.lookup? (place ++ [name]) = none ∧
        (Path.join directory name).length < pathLimit) ∨
      ∃ location old,
        tree.find (Path.join directory name) = .ok (location, .file old))

/-- The way to an existing directory is continued by a way from there to a plain name. -/
theorem leads_join
    {tree : FileTree}
    {creating : Bool}
    {directory name : Path}
    {place : Location}
    {last : Spot}
    (stands : tree.find directory = .ok (place, .directory))
    (plain : Filename.isPlain name)
    (enters : ∀ links, tree.Leads creating links place [.enter name] last) :
    tree.Leads creating linkLimit (tree.start (Path.join directory name))
      (Path.moves (Path.join directory name)) last := by
  obtain ⟨spot, resolved, rfl, isOpen⟩ := find_eq_ok_iff.mp stands
  obtain ⟨checked, leads⟩ := resolve_eq_ok_iff.mp resolved
  obtain ⟨nonempty, single, notSelf, notParent⟩ := Filename.parts_of_isPlain plain
  have given : directory ≠ [] := by
    rintro rfl
    simp [checkPath] at checked
  rw [start, Path.isAbsolute_join given single,
    Path.moves_join nonempty single notSelf notParent]
  exact leads.thenEnter (by split <;> simp) isOpen enters

/--
Where a directory has a place for a plain name, its output opens as a regular
file.  This is not the only way: a link to a free place opens as one, too.
-/
theorem create_of_takes
    {tree : FileTree}
    {directory name : Path}
    (plain : Filename.isPlain name)
    (short : name.length ≤ nameLimit)
    (takes : tree.Takes directory name) :
    tree.OpensFile (Path.join directory name) := by
  rcases takes with ⟨place, stands, ⟨free, fits⟩ | ⟨location, old, found⟩⟩
  · obtain ⟨spot, resolved, rfl, isOpen⟩ := find_eq_ok_iff.mp stands
    obtain ⟨checked, -⟩ := resolve_eq_ok_iff.mp resolved
    have resolves :
        tree.resolve true (Path.join directory name) =
          .ok (.vacant spot.location name) :=
      resolve_eq_ok_iff.mpr
        ⟨checkPath_join checked plain fits,
          leads_join stands plain fun _ => .vacant isOpen short free⟩
    exact ⟨_, _, create_of_resolve resolves (.inl free)⟩
  · obtain ⟨spot, resolved, rfl, isFile⟩ := find_eq_ok_iff.mp found
    obtain ⟨checked, leads⟩ := resolve_eq_ok_iff.mp resolved
    have creates := leads.toCreate (by simp [isFile])
    exact ⟨_, _, create_of_resolve (resolve_eq_ok_iff.mpr ⟨checked, creates⟩)
      (.inr ⟨old, isFile⟩)⟩

/-- An output that was opened as a file is found by its path once it is stored. -/
theorem find_put_of_create
    {tree opened : FileTree}
    {path : Path}
    {location : Location}
    (opens : tree.create path = .ok (.file location, opened))
    (content : Bytes) :
    (tree.put location (.file content)).find path =
      .ok (location, .file content) := by
  obtain ⟨spot, resolved, ⟨named, isFile, -, free⟩ | ⟨device, -, isDevice, -⟩⟩ :=
    create_cases opens
  · cases isFile
    obtain ⟨checked, leads⟩ := resolve_eq_ok_iff.mp resolved
    have later := leads.afterPut free named content
    exact find_eq_ok_iff.mpr
      ⟨.entry spot.location, resolve_eq_ok_iff.mpr ⟨checked, later⟩, rfl,
        lookup?_put_self _ tree named⟩
  · cases isDevice

/-- A directory is still found when a file was written. -/
theorem find_directory_put
    {tree : FileTree}
    {path : Path}
    {place location : Location}
    (stands : tree.find path = .ok (place, .directory))
    (free :
      tree.lookup? location = none ∨
        ∃ old, tree.lookup? location = some (.file old))
    (entry : Entry) :
    (tree.put location entry).find path = .ok (place, .directory) := by
  obtain ⟨spot, resolved, rfl, isOpen⟩ := find_eq_ok_iff.mp stands
  obtain ⟨checked, leads⟩ := resolve_eq_ok_iff.mp resolved
  exact find_eq_ok_iff.mpr
    ⟨spot, resolve_eq_ok_iff.mpr ⟨checked, leads.keep isOpen free entry⟩, rfl,
      lookup?_put_of_free free isOpen (by simp) entry⟩

/-- What is stored in an opened output is found by the path of the output. -/
theorem contentOf_put_of_create
    {tree opened : FileTree}
    {path : Path}
    {location : Location}
    (opens : tree.create path = .ok (.file location, opened))
    (content : Bytes) :
    (tree.put location (.file content)).contentOf path = .ok content := by
  simp [contentOf, find_put_of_create opens content]

end FileTree

end FileTransfer
