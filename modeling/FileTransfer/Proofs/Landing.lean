import FileTransfer.Proofs.Walks

namespace FileTransfer

/-!
# Where the outputs of a directory land

In a tree without symbolic links, a directory that takes outputs takes them all in
one place (`FileTree.Lands`), whatever way its path is spelled.  What a plain name
below it leads to then depends on a single entry of the tree: the one that has the
name in that place (`Lands.find`, `Lands.sink`).  Writing a file there keeps the
place (`Lands.put`).
-/

namespace FileTree

/-- No symbolic link stands anywhere in a tree. -/
def LinkFree (tree : FileTree) : Prop :=
  ∀ location target, tree.lookup? location ≠ some (.link target)

theorem linkFree_bare (current : Location) : (bare current).LinkFree := by
  intro location target stands
  cases location with
  | nil => cases stands
  | cons name deeper => simp [bare, lookup?, Listing.find?] at stands

/-- Writing anything but a link leaves a tree without links. -/
theorem LinkFree.put
    {tree : FileTree}
    {entry : Entry}
    (linkFree : tree.LinkFree)
    (location : Location)
    (notLink : ∀ target, entry ≠ .link target) :
    (tree.put location entry).LinkFree := by
  intro other target stands
  by_cases same : other = location
  · subst same
    by_cases root : other = []
    · simp [root, lookup?] at stands
    · rw [lookup?_put_self entry tree root, Option.some.injEq] at stands
      exact notLink target stands
  · rw [lookup?_put_of_ne entry tree same] at stands
    exact linkFree other target stands

/-- A path below a directory starts where the path of the directory starts. -/
theorem start_join
    {name : Path}
    (tree : FileTree)
    (directory : Path)
    (single : Path.slash ∉ name) :
    tree.start (Path.join directory name) = tree.start directory := by
  cases directory with
  | nil =>
      have whole : Path.join [] name = name := by
        simp [Path.join, Path.isAbsolute_of_no_slash single]
      rw [whole, start, Path.isAbsolute_of_no_slash single]
      rfl
  | cons octet others =>
      rw [start, Path.isAbsolute_join (by simp) single]
      rfl

/-- A directory stands in a place, and the path of the directory leads there. -/
structure Lands (tree : FileTree) (directory : Path) (place : Location) : Prop where
  isOpen : tree.lookup? place = some .directory
  leads :
    tree.Leads false linkLimit (tree.start directory)
      ((Path.names directory).map Path.moveOf) (.entry place)

/-!
## Ways without links
-/

/-- A way to a place is continued by whatever a name in that place leads to. -/
theorem Leads.walk_enter
    {tree : FileTree}
    {links : Nat}
    {location place : Location}
    {moves : List Path.Move}
    (leads : tree.Leads false links location moves (.entry place))
    (linkFree : tree.LinkFree)
    (creating : Bool)
    (name : Bytes) :
    tree.walk creating links (tree.position location) (moves ++ [.enter name]) =
      tree.walk creating links (tree.position place) [.enter name] := by
  generalize shape : Spot.entry place = spot at leads
  induction leads with
  | stay links location =>
      cases shape
      rfl
  | here isOpen _ ih => rw [List.cons_append, walk_cons, if_pos isOpen, ih shape]
  | insist isOpen _ ih => rw [List.cons_append, walk_cons, if_pos isOpen, ih shape]
  | up isOpen _ ih => rw [List.cons_append, walk_cons, if_pos isOpen, ih shape]
  | vacant => cases shape
  | link _ _ _ stands => exact absurd stands (linkFree _ _)
  | @enter links location next entry rest spot isOpen _ short stands notLink _ ih =>
      have notLast : ¬(creating ∧ rest ++ [.enter name] = [.insist]) := by
        rintro ⟨-, same⟩
        cases rest <;> simp at same
      rw [List.cons_append, walk_cons, if_pos isOpen]
      simp only [notLast, if_false, Nat.not_lt.mpr short, stands]
      cases entry with
      | link target => exact absurd rfl (notLink target)
      | directory => exact ih shape
      | file content => exact ih shape
      | device device => exact ih shape

/-- Before its last name, a way leads to a directory; the name is one in there. -/
theorem Leads.before_enter
    {tree : FileTree}
    {creating : Bool}
    {links : Nat}
    {location : Location}
    {all moves : List Path.Move}
    {name : Bytes}
    {last : Spot}
    (leads : tree.Leads creating links location all last)
    (linkFree : tree.LinkFree)
    (shape : all = moves ++ [.enter name]) :
    ∃ place, tree.lookup? place = some .directory ∧
      last.location = place ++ [name] ∧
      tree.Leads false links location moves (.entry place) := by
  induction leads generalizing moves with
  | stay => simp at shape
  | here isOpen _ ih =>
      cases moves with
      | nil => simp at shape
      | cons move others =>
          obtain ⟨rfl, remains⟩ := List.cons.inj shape
          obtain ⟨place, stands, there, leads⟩ := ih remains
          exact ⟨place, stands, there, .here isOpen leads⟩
  | insist isOpen _ ih =>
      cases moves with
      | nil => simp at shape
      | cons move others =>
          obtain ⟨rfl, remains⟩ := List.cons.inj shape
          obtain ⟨place, stands, there, leads⟩ := ih remains
          exact ⟨place, stands, there, .insist isOpen leads⟩
  | up isOpen _ ih =>
      cases moves with
      | nil => simp at shape
      | cons move others =>
          obtain ⟨rfl, remains⟩ := List.cons.inj shape
          obtain ⟨place, stands, there, leads⟩ := ih remains
          exact ⟨place, stands, there, .up isOpen leads⟩
  | @vacant links location _ isOpen =>
      cases moves with
      | nil =>
          cases shape
          exact ⟨location, isOpen, rfl, .stay _ _⟩
      | cons move others => simp at shape
  | link _ _ _ stands => exact absurd stands (linkFree _ _)
  | @enter links location _ entry rest spot isOpen _ short stands notLink further ih =>
      cases moves with
      | nil =>
          cases shape
          cases further
          exact ⟨location, isOpen, rfl, .stay _ _⟩
      | cons move others =>
          obtain ⟨rfl, remains⟩ := List.cons.inj shape
          obtain ⟨place, held, there, leads⟩ := ih remains
          exact ⟨place, held, there, .enter isOpen (by simp) short stands notLink leads⟩

/-!
## Plain names in a place
-/

/-- What a name in the directory at a place stands for. -/
def spotAt (tree : FileTree) (place : Location) (name : Bytes) : Except Errno Spot :=
  if nameLimit < name.length then .error .nameTooLong
  else
    match tree.lookup? (place ++ [name]) with
    | none => .ok (.vacant place name)
    | some _ => .ok (.entry (place ++ [name]))

theorem walk_enter
    {tree : FileTree}
    {place : Location}
    (linkFree : tree.LinkFree)
    (isOpen : tree.lookup? place = some .directory)
    (creating : Bool)
    (links : Nat)
    (name : Bytes) :
    tree.walk creating links (tree.position place) [.enter name] =
      tree.spotAt place name := by
  rw [walk_cons, if_pos isOpen]
  simp only [List.ne_cons_self, and_false, if_false, if_true, spotAt]
  split
  · rfl
  · cases stands : tree.lookup? (place ++ [name]) with
    | none => rfl
    | some entry =>
        cases entry with
        | link target => exact absurd stands (linkFree _ target)
        | directory => exact walk_nil _ _ _ _
        | file content => exact walk_nil _ _ _ _
        | device device => exact walk_nil _ _ _ _

/-- What the entry at a location is opened as, when it is opened to be written. -/
def sinkAt (location : Location) : Option Entry → Except HostError Sink
  | none => .ok (.file location)
  | some (.file _) => .ok (.file location)
  | some (.device device) => .ok (.device device)
  | some (.link _) => .error (.ofErrno .linkLoop)
  | some .directory => .error (.ofErrno .isDirectory)

namespace Lands

variable
  {tree : FileTree}
  {directory : Path}
  {place : Location}
  {name : Bytes}

/-- The path of a plain name stands for what has the name in the place. -/
theorem resolve
    (lands : tree.Lands directory place)
    (linkFree : tree.LinkFree)
    (plain : Filename.isPlain name)
    (creating : Bool) :
    tree.resolve creating (Path.join directory name) =
      match checkPath (Path.join directory name) with
      | .error error => .error error
      | .ok () => (tree.spotAt place name).mapError .ofErrno := by
  obtain ⟨nonempty, single, notSelf, notParent⟩ := Filename.parts_of_isPlain plain
  have walks :
      tree.walk creating linkLimit (tree.origin (Path.join directory name))
          (Path.moves (Path.join directory name)) =
        tree.spotAt place name := by
    calc
      _ = tree.walk creating linkLimit (tree.position (tree.start directory))
            ((Path.names directory).map Path.moveOf ++ [.enter name]) := by
        rw [← start_join tree directory single,
          Path.moves_join nonempty single notSelf notParent]
        rfl
      _ = tree.walk creating linkLimit (tree.position place) [.enter name] :=
        lands.leads.walk_enter linkFree creating name
      _ = tree.spotAt place name := walk_enter linkFree lands.isOpen _ _ _
  cases checked : checkPath (Path.join directory name) with
  | error error => simp only [FileTree.resolve, checked]
  | ok done => simp only [FileTree.resolve, checked, walks]

/-- What is found under a plain name hangs on the entry that has it in the place. -/
theorem find
    (lands : tree.Lands directory place)
    (linkFree : tree.LinkFree)
    (plain : Filename.isPlain name) :
    tree.find (Path.join directory name) =
      match checkPath (Path.join directory name) with
      | .error error => .error error
      | .ok () =>
          if nameLimit < name.length then .error (.ofErrno .nameTooLong)
          else
            match tree.lookup? (place ++ [name]) with
            | none => .error (.ofErrno .noEntry)
            | some entry => .ok (place ++ [name], entry) := by
  rw [FileTree.find, lands.resolve linkFree plain]
  cases checkPath (Path.join directory name) with
  | error error => rfl
  | ok done =>
      by_cases long : nameLimit < name.length
      · simp [spotAt, long, Except.mapError]
      · cases stands : tree.lookup? (place ++ [name]) with
        | none => simp [spotAt, long, stands, Except.mapError, Spot.location]
        | some entry => simp [spotAt, long, stands, Except.mapError, Spot.location]

/-- What opens under a plain name hangs on the entry that has it in the place. -/
theorem sink
    (lands : tree.Lands directory place)
    (linkFree : tree.LinkFree)
    (plain : Filename.isPlain name) :
    (tree.create (Path.join directory name)).map Prod.fst =
      match checkPath (Path.join directory name) with
      | .error error => .error error
      | .ok () =>
          if nameLimit < name.length then .error (.ofErrno .nameTooLong)
          else sinkAt (place ++ [name]) (tree.lookup? (place ++ [name])) := by
  rw [create, openSink, lands.resolve linkFree plain]
  cases checkPath (Path.join directory name) with
  | error error => rfl
  | ok done =>
      by_cases long : nameLimit < name.length
      · simp [spotAt, long, Except.mapError, Except.map]
      · cases stands : tree.lookup? (place ++ [name]) with
        | none =>
            simp [spotAt, long, stands, Except.mapError, Except.map, Spot.location, sinkAt]
        | some entry =>
            cases entry <;>
              simp [spotAt, long, stands, Except.mapError, Except.map, Spot.location,
                sinkAt]

/-- An output that opens as a file is new, or a file already. -/
theorem of_sink
    {location : Location}
    (lands : tree.Lands directory place)
    (linkFree : tree.LinkFree)
    (plain : Filename.isPlain name)
    (opens :
      (tree.create (Path.join directory name)).map Prod.fst = .ok (.file location)) :
    checkPath (Path.join directory name) = .ok () ∧ name.length ≤ nameLimit ∧
      location = place ++ [name] ∧
      (tree.lookup? (place ++ [name]) = none ∨
        ∃ old, tree.lookup? (place ++ [name]) = some (.file old)) := by
  rw [lands.sink linkFree plain] at opens
  cases checked : checkPath (Path.join directory name) with
  | error error => simp [checked] at opens
  | ok done =>
      simp only [checked] at opens
      split at opens
      case isTrue => cases opens
      case isFalse notLong =>
        refine ⟨rfl, Nat.not_lt.mp notLong, ?_⟩
        rcases stands : tree.lookup? (place ++ [name]) with _ | _ | content | _ | _ <;>
          simp [sinkAt, stands] at opens
        · exact ⟨opens.symm, .inl rfl⟩
        · exact ⟨opens.symm, .inr ⟨content, rfl⟩⟩

/-- An output that opened under a plain name has it in the place. -/
theorem of_create
    {sink : Sink}
    {opened : FileTree}
    (linkFree : tree.LinkFree)
    (plain : Filename.isPlain name)
    (opens : tree.create (Path.join directory name) = .ok (sink, opened)) :
    ∃ place, tree.Lands directory place := by
  obtain ⟨nonempty, single, notSelf, notParent⟩ := Filename.parts_of_isPlain plain
  obtain ⟨spot, resolved, -⟩ := create_cases opens
  obtain ⟨-, leads⟩ := resolve_eq_ok_iff.mp resolved
  rw [start_join tree directory single] at leads
  obtain ⟨place, stands, -, reaches⟩ :=
    leads.before_enter linkFree (Path.moves_join nonempty single notSelf notParent)
  exact ⟨place, stands, reaches⟩

/-- Writing a file leaves the outputs of a directory where they were. -/
theorem put
    {location : Location}
    (lands : tree.Lands directory place)
    (free :
      tree.lookup? location = none ∨
        ∃ old, tree.lookup? location = some (.file old))
    (content : Bytes) :
    (tree.put location (.file content)).Lands directory place where
  isOpen := lookup?_put_of_free free lands.isOpen (by simp) _
  leads := lands.leads.keep lands.isOpen free _

end Lands

end FileTree

end FileTransfer
