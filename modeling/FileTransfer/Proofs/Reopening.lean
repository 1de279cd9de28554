import FileTransfer.Journal.Basic
import FileTransfer.Proofs.Walks

namespace FileTransfer

/-!
# Opening a journal again

Opening a journal makes the directories that lead to its file.  Where the file is
there already, so are these directories: the way to the file passes each of them
(`Leads.split`, `Path.ancestors_cases`).  So nothing is made, and the journal goes on
with the same file (`Journal.openAt_of_find`).
-/

namespace FileTree

/-- A way that goes on stops at a directory on every move before. -/
theorem Leads.split
    {tree : FileTree}
    {creating : Bool}
    {links : Nat}
    {location : Location}
    {all front rest : List Path.Move}
    {spot : Spot}
    (leads : tree.Leads creating links location all spot)
    (shape : all = front ++ rest)
    (goesOn : rest ≠ []) :
    ∃ fewer middle, tree.Leads false links location front (.entry middle) ∧
      tree.lookup? middle = some .directory ∧
      tree.Leads creating fewer middle rest spot := by
  induction leads generalizing front with
  | stay links location =>
      obtain ⟨-, rfl⟩ := List.append_eq_nil_iff.mp shape.symm
      exact absurd rfl goesOn
  | @here links location others spot isOpen further ih =>
      cases front with
      | nil =>
          subst shape
          exact ⟨links, location, .stay _ _, isOpen, .here isOpen further⟩
      | cons move more =>
          obtain ⟨rfl, remains⟩ := List.cons.inj shape
          obtain ⟨fewer, middle, leads, stands, last⟩ := ih remains
          exact ⟨fewer, middle, .here isOpen leads, stands, last⟩
  | @insist links location others spot isOpen further ih =>
      cases front with
      | nil =>
          subst shape
          exact ⟨links, location, .stay _ _, isOpen, .insist isOpen further⟩
      | cons move more =>
          obtain ⟨rfl, remains⟩ := List.cons.inj shape
          obtain ⟨fewer, middle, leads, stands, last⟩ := ih remains
          exact ⟨fewer, middle, .insist isOpen leads, stands, last⟩
  | @up links location others spot isOpen further ih =>
      cases front with
      | nil =>
          subst shape
          exact ⟨links, location, .stay _ _, isOpen, .up isOpen further⟩
      | cons move more =>
          obtain ⟨rfl, remains⟩ := List.cons.inj shape
          obtain ⟨fewer, middle, leads, stands, last⟩ := ih remains
          exact ⟨fewer, middle, .up isOpen leads, stands, last⟩
  | @vacant links location name isOpen short free =>
      cases front with
      | nil =>
          subst shape
          exact ⟨links, location, .stay _ _, isOpen, .vacant isOpen short free⟩
      | cons move more =>
          obtain ⟨-, remains⟩ := List.cons.inj shape
          obtain ⟨-, rfl⟩ := List.append_eq_nil_iff.mp remains.symm
          exact absurd rfl goesOn
  | @link links location name target others spot isOpen notLast short stands further ih =>
      cases front with
      | nil =>
          subst shape
          exact ⟨_, location, .stay _ _, isOpen, .link isOpen notLast short stands further⟩
      | cons move more =>
          obtain ⟨rfl, rfl⟩ := List.cons.inj shape
          obtain ⟨fewer, middle, leads, held, last⟩ := ih (List.append_assoc _ _ _).symm
          exact ⟨fewer, middle, .link isOpen (by simp) short stands leads, held, last⟩
  | @enter links location name entry others spot isOpen notLast short stands notLink
      further ih =>
      cases front with
      | nil =>
          subst shape
          exact ⟨links, location, .stay _ _, isOpen,
            .enter isOpen notLast short stands notLink further⟩
      | cons move more =>
          obtain ⟨rfl, remains⟩ := List.cons.inj shape
          obtain ⟨fewer, middle, leads, held, last⟩ := ih remains
          exact ⟨fewer, middle, .enter isOpen (by simp) short stands notLink leads, held,
            last⟩

end FileTree

/-!
## The directories around a path
-/

namespace Path

theorem slash_notMem_part
    {path part : Path}
    (among : part ∈ parts path) :
    slash ∉ part := by
  induction path generalizing part with
  | nil =>
      obtain rfl := List.mem_singleton.mp among
      exact List.not_mem_nil
  | cons octet rest ih =>
      simp only [parts] at among
      split at among
      case isTrue =>
        obtain rfl | later := List.mem_cons.mp among
        · exact List.not_mem_nil
        · exact ih later
      case isFalse apart =>
        cases shape : parts rest with
        | nil => exact absurd shape (parts_ne_nil rest)
        | cons first more =>
            rw [shape] at among ih
            obtain rfl | later := List.mem_cons.mp among
            · have inner := ih List.mem_cons_self
              simp [Ne.symm apart, inner]
            · exact ih (List.mem_cons_of_mem _ later)

/-- A path that is spelled from parts has these parts. -/
theorem parts_spell
    {reversed : List Bytes}
    (nonempty : reversed ≠ [])
    (single : ∀ part ∈ reversed, slash ∉ part) :
    parts (spell reversed) = reversed.reverse := by
  have ordered : ∀ part ∈ reversed.reverse, slash ∉ part :=
    fun part among => single part (List.mem_reverse.mp among)
  have some : reversed.reverse ≠ [] := by simpa using nonempty
  unfold spell
  generalize reversed.reverse = all at ordered some ⊢
  induction all with
  | nil => exact absurd rfl some
  | cons part more ih =>
      obtain ⟨own, others⟩ := List.forall_mem_cons.mp ordered
      cases more with
      | nil => simpa [List.intercalate] using parts_of_no_slash own
      | cons next further =>
          have shape :
              List.intercalate [slash] (part :: next :: further) =
                part ++ slash :: List.intercalate [slash] (next :: further) := by
            simp [List.intercalate]
          rw [shape, parts_append_slash, parts_of_no_slash own, ih others (by simp)]
          rfl

/-- A path starts at the root when an empty part comes before another one. -/
theorem isAbsolute_iff_parts (path : Path) :
    isAbsolute path ↔ ∃ more, more ≠ [] ∧ parts path = [] :: more := by
  cases path with
  | nil => simp [isAbsolute, parts]
  | cons octet rest =>
      by_cases separates : octet = slash
      · simp [isAbsolute, parts, separates, parts_ne_nil rest]
      · cases shape : parts rest with
        | nil => exact absurd shape (parts_ne_nil rest)
        | cons first more => simp [isAbsolute, parts, separates, shape]

/-- Trimming only takes parts away from the end of a path. -/
theorem trimmed_split (reversed : List Bytes) :
    ∃ dropped, reversed = dropped ++ trimmed reversed := by
  induction reversed with
  | nil => exact ⟨[], rfl⟩
  | cons part before ih =>
      rw [trimmed]
      split
      case isTrue =>
        obtain ⟨dropped, shape⟩ := ih
        exact ⟨part :: dropped, congrArg (part :: ·) shape⟩
      case isFalse => exact ⟨[], rfl⟩

/--
The first path of a lineage is empty, or the root, or it is spelled from the first
parts, and the last of these is not empty.
-/
theorem lineage_cases
    {reversed : List Bytes}
    {nearest : Path}
    {outer : List Path}
    (shape : lineage reversed = nearest :: outer) :
    nearest = [] ∨ ∃ dropped part before, reversed = dropped ++ part :: before ∧
      (part = [] ∧ before = [] ∧ nearest = [slash] ∨
        part ≠ [] ∧ nearest = spell (part :: before)) := by
  induction reversed with
  | nil =>
      obtain ⟨rfl, -⟩ := List.cons.inj shape
      exact .inl rfl
  | cons part before ih =>
      rw [lineage] at shape
      split at shape
      case isTrue =>
        refine (ih shape).imp_right ?_
        rintro ⟨dropped, own, others, rfl, spelled⟩
        exact ⟨part :: dropped, own, others, rfl, spelled⟩
      case isFalse busy =>
        refine .inr ⟨[], part, before, rfl, ?_⟩
        split at shape
        case isTrue empty =>
          obtain ⟨rfl, -⟩ := List.cons.inj shape
          refine .inl ⟨empty, ?_, rfl⟩
          simpa [isIdle, empty] using busy
        case isFalse named =>
          obtain ⟨rfl, -⟩ := List.cons.inj shape
          exact .inr ⟨named, rfl⟩

/-- The nearest directory around a path is empty, or the path goes on from it. -/
theorem ancestors_cases
    {path nearest : Path}
    {outer : List Path}
    (shape : ancestors path = nearest :: outer) :
    nearest = [] ∨
      (isAbsolute nearest ↔ isAbsolute path) ∧
        ∃ rest, rest ≠ [] ∧ names path = names nearest ++ rest := by
  obtain ⟨idle, whole⟩ := trimmed_split (parts path).reverse
  unfold ancestors at shape
  split at shape
  case h_1 => cases shape
  case h_2 last before kept =>
    split at shape
    case isTrue => cases shape
    case isFalse named =>
      refine (lineage_cases shape).imp_right ?_
      rintro ⟨dropped, part, first, rfl, spelled⟩
      rw [kept] at whole
      have ordered :
          parts path =
            first.reverse ++ part :: (dropped.reverse ++ last :: idle.reverse) := by
        simpa using congrArg List.reverse whole
      obtain ⟨rfl, rfl, rfl⟩ | ⟨nonempty, rfl⟩ := spelled
      · refine ⟨?_, names path, ?_, rfl⟩
        · rw [isAbsolute_iff_parts path, ordered]
          simp [isAbsolute]
        · simp [names, ordered, named]
      · have single : ∀ own ∈ part :: first, slash ∉ own := by
          intro own among
          have inside : own ∈ parts path := by
            rw [ordered]
            rcases List.mem_cons.mp among with rfl | earlier
            · simp
            · simp [earlier]
          exact slash_notMem_part inside
        have spelled := parts_spell (List.cons_ne_nil part first) single
        rw [List.reverse_cons] at spelled
        refine ⟨?_, (dropped.reverse ++ last :: idle.reverse).filter (· ≠ []), ?_, ?_⟩
        · rw [isAbsolute_iff_parts, isAbsolute_iff_parts path, spelled, ordered]
          cases first.reverse with
          | nil => simp [nonempty]
          | cons leading others => simp
        · simp [named]
        · rw [names, names, spelled, ordered, ← List.filter_append]
          simp

end Path

/-!
## Making what is there
-/

namespace FileTree

/-- A path that the host refuses is not one that is missing. -/
theorem kind_of_checkPath
    {path : Path}
    {error : HostError}
    (given : path ≠ [])
    (refused : checkPath path = .error error) :
    error.kind ≠ .notFound := by
  rw [checkPath, if_neg given] at refused
  split at refused
  case isTrue =>
    cases refused
    decide
  case isFalse =>
    split at refused
    case isTrue =>
      cases refused
      decide
    case isFalse => cases refused

theorem filter_moves (path : Path) :
    (Path.moves path).filter (· ≠ .insist) = (Path.names path).map Path.moveOf := by
  have kept :
      ((Path.names path).map Path.moveOf).filter (· ≠ .insist) =
        (Path.names path).map Path.moveOf := by
    refine List.filter_eq_self.mpr fun move among => ?_
    obtain ⟨part, -, rfl⟩ := List.mem_map.mp among
    simp only [Path.moveOf]
    split
    · simp
    split <;> simp
  rw [Path.moves, List.filter_append, kept]
  split <;> simp

/-- A directory that a way passes cannot be made, though none is missing before it. -/
theorem makeDirectory_of_leads
    {tree : FileTree}
    {path : Path}
    {rest : List Path.Move}
    {spot : Spot}
    (given : path ≠ [])
    (leads :
      tree.Leads false linkLimit (tree.start path)
        ((Path.names path).map Path.moveOf ++ rest) spot)
    (goesOn : rest ≠ []) :
    ∃ error, tree.makeDirectory path = .error error ∧ error.kind ≠ .notFound := by
  have standing : (.ofErrno .alreadyExists : HostError).kind ≠ .notFound := by decide
  unfold makeDirectory
  cases checked : checkPath path with
  | error error => exact ⟨error, rfl, kind_of_checkPath given checked⟩
  | ok done =>
      simp only [filter_moves]
      generalize (Path.names path).map Path.moveOf = moves at leads ⊢
      obtain rfl | ⟨init, last, rfl⟩ := moves.eq_nil_or_concat
      · obtain ⟨fewer, middle, stays, isOpen, -⟩ := leads.split rfl goesOn
        have walks :
            tree.walk false linkLimit (tree.origin path) [] = .ok (.entry middle) :=
          stays.walk
        simp [walks, Spot.location, isOpen, standing]
      · rw [List.concat_eq_append] at leads ⊢
        obtain ⟨fewer, middle, stays, isOpen, further⟩ :=
          leads.split (List.append_assoc _ _ _) (by simp)
        have walks :
            tree.walk false linkLimit (tree.origin path) init = .ok (.entry middle) :=
          stays.walk
        simp only [List.dropLast_concat, List.getLast?_concat, walks, Spot.location, isOpen]
        cases last with
        | here => exact ⟨_, rfl, standing⟩
        | up => exact ⟨_, rfl, standing⟩
        | insist => exact ⟨_, rfl, standing⟩
        | enter name =>
            have taken : (tree.lookup? (middle ++ [name])).isSome := by
              cases further with
              | vacant => exact absurd rfl goesOn
              | link _ _ _ stands => simp [stands]
              | enter _ _ _ stands => simp [stands]
            simp only [taken, if_true]
            split
            · exact ⟨_, rfl, by decide⟩
            · exact ⟨_, rfl, standing⟩

/-- The directories that lead to an existing file are left as they are. -/
theorem makeDirectories_of_find
    {tree : FileTree}
    {path nearest : Path}
    {outer : List Path}
    {location : Location}
    {entry : Entry}
    (found : tree.find path = .ok (location, entry))
    (around : Path.ancestors path = nearest :: outer) :
    (tree.makeDirectories (nearest :: outer)).2 = tree := by
  unfold makeDirectories
  split
  case isTrue => rfl
  case isFalse given =>
    obtain ⟨spot, resolved, rfl, -⟩ := find_eq_ok_iff.mp found
    obtain ⟨checked, leads⟩ := resolve_eq_ok_iff.mp resolved
    obtain nothing | ⟨same, rest, goesOn, whole⟩ := Path.ancestors_cases around
    · exact absurd nothing given
    · have begins : tree.start path = tree.start nearest := by
        simp only [start, Bool.eq_iff_iff.mpr same]
      rw [Path.moves, whole, List.map_append, List.append_assoc, begins] at leads
      obtain ⟨error, refused, kind⟩ :=
        makeDirectory_of_leads given leads (by simp [goesOn])
      simp [refused, kind, ensureDirectory]

/-- An existing file is found again by its path after its content has changed. -/
theorem find_put_file
    {tree : FileTree}
    {path : Path}
    {location : Location}
    {old : Bytes}
    (found : tree.find path = .ok (location, .file old))
    (content : Bytes) :
    (tree.put location (.file content)).find path = .ok (location, .file content) := by
  obtain ⟨spot, resolved, rfl, stands⟩ := find_eq_ok_iff.mp found
  obtain ⟨checked, leads⟩ := resolve_eq_ok_iff.mp resolved
  have below : spot.location ≠ [] := tree.ne_root_of_not_directory (by simp [stands])
  have later := leads.afterPut (.inr ⟨old, stands⟩) below content
  exact find_eq_ok_iff.mpr
    ⟨.entry spot.location, resolve_eq_ok_iff.mpr ⟨checked, later⟩, rfl,
      lookup?_put_self _ tree below⟩

/-- Whatever a walk that may create an entry finds, any walk finds. -/
theorem Leads.toFind
    {tree : FileTree}
    {creating : Bool}
    {links : Nat}
    {location : Location}
    {moves : List Path.Move}
    {spot : Spot}
    (leads : tree.Leads creating links location moves spot) :
    tree.Leads false links location moves spot := by
  induction leads with
  | stay links location => exact .stay links location
  | here isOpen _ ih => exact .here isOpen ih
  | insist isOpen _ ih => exact .insist isOpen ih
  | up isOpen _ ih => exact .up isOpen ih
  | vacant isOpen short free => exact .vacant isOpen short free
  | link isOpen _ short stands _ ih => exact .link isOpen (by simp) short stands ih
  | enter isOpen _ short stands notLink _ ih =>
      exact .enter isOpen (by simp) short stands notLink ih

theorem find_of_resolve
    {tree : FileTree}
    {creating : Bool}
    {path : Path}
    {spot : Spot}
    {entry : Entry}
    (resolved : tree.resolve creating path = .ok spot)
    (stands : tree.lookup? spot.location = some entry) :
    tree.find path = .ok (spot.location, entry) := by
  obtain ⟨checked, leads⟩ := resolve_eq_ok_iff.mp resolved
  exact find_eq_ok_iff.mpr
    ⟨spot, resolve_eq_ok_iff.mpr ⟨checked, leads.toFind⟩, rfl, stands⟩

/-- An output that was opened to be continued is the file that its path stands for. -/
theorem sink_of_openAppend
    {tree opened : FileTree}
    {path : Path}
    {sink : Sink}
    {log : Location}
    {content : Bytes}
    (opens : tree.openAppend path = .ok (sink, opened))
    (found : opened.find path = .ok (log, .file content)) :
    sink = .file log := by
  unfold openAppend openSink at opens
  split at opens
  case h_1 => cases opens
  case h_2 spot resolved =>
    simp only [Bool.false_eq_true, if_false] at opens
    split at opens
    case h_1 free =>
      cases opens
      have below : spot.location ≠ [] :=
        tree.ne_root_of_not_directory (by simp [free])
      obtain ⟨checked, leads⟩ := resolve_eq_ok_iff.mp resolved
      have there :=
        find_of_resolve
          (resolve_eq_ok_iff.mpr ⟨checked, leads.afterPut (.inl free) below []⟩)
          (lookup?_put_self _ tree below)
      cases there.symm.trans found
      rfl
    case h_2 old stands =>
      cases opens
      cases (find_of_resolve resolved stands).symm.trans found
      rfl
    case h_3 device stands =>
      cases opens
      cases (find_of_resolve resolved stands).symm.trans found
    case h_4 => cases opens
    case h_5 => cases opens

end FileTree

namespace Journal

/-- A journal writes to the file that its path stands for once it is open. -/
theorem eq_writing_of_openAt
    {tree opened : FileTree}
    {path : Path}
    {format : JournalFormat}
    {journal : Journal}
    {log : Location}
    {content : Bytes}
    (opens : openAt format path tree = (.ok journal, opened))
    (found : opened.find path = .ok (log, .file content)) :
    journal = .writing format (.file log) := by
  unfold openAt at opens
  simp only at opens
  split at opens
  case h_1 sink after appends =>
    obtain ⟨same, rfl⟩ := Prod.mk.inj opens
    cases same
    rw [FileTree.sink_of_openAppend appends found]
  case h_2 => cases opens

/-- A journal whose file is there goes on with it, and opening it changes nothing. -/
theorem openAt_of_find
    {tree : FileTree}
    {path : Path}
    {log : Location}
    {content : Bytes}
    (found : tree.find path = .ok (log, .file content))
    (format : JournalFormat) :
    openAt format path tree = (.ok (.writing format (.file log)), tree) := by
  obtain ⟨spot, resolved, rfl, stands⟩ := FileTree.find_eq_ok_iff.mp found
  obtain ⟨checked, leads⟩ := FileTree.resolve_eq_ok_iff.mp resolved
  have creates : tree.resolve true path = .ok spot :=
    FileTree.resolve_eq_ok_iff.mpr ⟨checked, leads.toCreate (by simp [stands])⟩
  have opens : tree.openAppend path = .ok (.file spot.location, tree) := by
    simp [FileTree.openAppend, FileTree.openSink, creates, stands]
  unfold openAt
  cases around : Path.ancestors path with
  | nil => simp [opens]
  | cons nearest outer =>
      simp [FileTree.makeDirectories_of_find found around, opens]

end Journal

end FileTransfer
