import FileTransfer.Bytes

namespace FileTransfer

/-!
# Listings of directories

A listing holds what stands below a directory, name by name: the entry that has
the name, and a listing of what stands below that one.  An entry is found by
the names that lead to it.  `find?_set_self` and `find?_set_of_ne` say that
setting an entry changes what is found at its own location and nowhere else.
-/

/-- The names that lead to an entry. -/
abbrev Location := List Bytes

/-- The devices that a directory can hold. -/
inductive Device where
  /-- Takes everything and holds nothing. -/
  | null
  /-- Has no room for anything. -/
  | full
  deriving Repr, DecidableEq

/-- What stands at a location. -/
inductive Entry where
  | directory
  | file (content : Bytes)
  | link (target : Bytes)
  | device (device : Device)
  deriving Repr, DecidableEq

/-- What stands below a directory. -/
inductive Listing where
  | empty
  /-- A name, perhaps only on the way to others, before the rest of a listing. -/
  | named (name : Bytes) (entry : Option Entry) (inside rest : Listing)
  deriving Repr, DecidableEq

namespace Listing

/-- The entry at a location, if there is one. -/
def find? : Location → Listing → Option Entry
  | [], _ => none
  | _ :: _, .empty => none
  | name :: deeper, .named known entry inside rest =>
      if known = name then
        if deeper = [] then entry else find? deeper inside
      else find? (name :: deeper) rest

/-- No entry of a listing has no name. -/
theorem find?_nil (listing : Listing) : find? [] listing = none := by
  cases listing <;> simp [find?]

/-- The listing that holds an entry at a location and nothing else. -/
def single (entry : Entry) : Location → Listing
  | [] => .empty
  | [name] => .named name (some entry) .empty .empty
  | name :: deeper => .named name none (single entry deeper) .empty

def set (entry : Entry) : Location → Listing → Listing
  | [], listing => listing
  | name :: deeper, .empty => single entry (name :: deeper)
  | name :: deeper, .named known found inside rest =>
      if known = name then
        if deeper = [] then .named known (some entry) inside rest
        else .named known found (set entry deeper inside) rest
      else .named known found inside (set entry (name :: deeper) rest)

/-- A single entry is found at its location. -/
theorem find?_single_self
    {location : Location}
    (entry : Entry)
    (below : location ≠ []) :
    find? location (single entry location) = some entry := by
  induction location with
  | nil => exact absurd rfl below
  | cons name deeper ih =>
      cases deeper with
      | nil => simp [single, find?]
      | cons next deepest => simpa [single, find?] using ih (by simp)

/-- A single entry is found nowhere else. -/
theorem find?_single_of_ne
    {location other : Location}
    (entry : Entry)
    (apart : other ≠ location) :
    find? other (single entry location) = none := by
  induction location generalizing other with
  | nil => cases other <;> simp [single, find?]
  | cons name deeper ih =>
      cases other with
      | nil => exact find?_nil _
      | cons first others =>
          by_cases same : name = first
          · subst same
            have further : others ≠ deeper := fun equal => apart (by rw [equal])
            cases deeper with
            | nil =>
                cases others with
                | nil => exact absurd rfl further
                | cons => simp [single, find?]
            | cons next deepest =>
                by_cases last : others = []
                · simp [single, find?, last]
                · simpa [single, find?, last] using ih further
          · cases deeper <;> simp [single, find?, same]

/-- An entry that was set is found. -/
theorem find?_set_self
    {location : Location}
    (entry : Entry)
    (listing : Listing)
    (below : location ≠ []) :
    find? location (set entry location listing) = some entry := by
  induction listing generalizing location with
  | empty =>
      cases location with
      | nil => exact absurd rfl below
      | cons => exact find?_single_self entry below
  | named known found inside rest insideHolds restHolds =>
      cases location with
      | nil => exact absurd rfl below
      | cons name deeper =>
          by_cases same : known = name
          · by_cases last : deeper = []
            · simp [set, find?, same, last]
            · simpa [set, find?, same, last] using insideHolds last
          · simpa [set, find?, same] using restHolds below

/-- Setting an entry leaves the others alone. -/
theorem find?_set_of_ne
    {location other : Location}
    (entry : Entry)
    (listing : Listing)
    (apart : other ≠ location) :
    find? other (set entry location listing) = find? other listing := by
  induction listing generalizing location other with
  | empty =>
      cases location with
      | nil => rfl
      | cons =>
          rw [set, find?_single_of_ne entry apart]
          cases other <;> simp [find?]
  | named known found inside rest insideHolds restHolds =>
      cases location with
      | nil => rfl
      | cons name deeper =>
          cases other with
          | nil => rw [find?_nil, find?_nil]
          | cons first others =>
              by_cases same : known = name
              · subst same
                by_cases shared : known = first
                · subst shared
                  have further : others ≠ deeper := fun equal => apart (by rw [equal])
                  by_cases last : deeper = []
                  · subst last
                    simp [set, find?, further]
                  · by_cases reached : others = []
                    · simp [set, find?, last, reached]
                    · simpa [set, find?, last, reached] using insideHolds further
                · by_cases last : deeper = [] <;> simp [set, find?, last, shared]
              · by_cases shared : known = first
                · subst shared
                  simp [set, find?, same]
                · simpa [set, find?, same, shared] using restHolds apart

/-- What stands below a location. -/
def within : Location → Listing → Listing
  | [], listing => listing
  | _ :: _, .empty => .empty
  | name :: deeper, .named known _ inside rest =>
      if known = name then within deeper inside else within (name :: deeper) rest

/-- What has a name in a directory, and what stands below it. -/
def child (name : Bytes) : Listing → Option Entry × Listing
  | .empty => (none, .empty)
  | .named known entry inside rest =>
      if known = name then (entry, inside) else child name rest

/-- Nothing stands below a location of an empty listing. -/
theorem within_empty (location : Location) : within location .empty = .empty := by
  cases location <;> simp [within]

/-- Every listing is what stands below its own directory. -/
theorem within_nil (listing : Listing) : within [] listing = listing := by
  cases listing <;> simp [within]

/-- What stands one name further on is what stands below that child. -/
theorem within_append_name (location : Location) (name : Bytes) (listing : Listing) :
    within (location ++ [name]) listing = (child name (within location listing)).2 := by
  induction listing generalizing location with
  | empty => simp [within_empty, child]
  | named known entry inside rest insideHolds restHolds =>
      cases location with
      | nil =>
          have further := restHolds []
          simp only [List.nil_append, within_nil] at further
          by_cases same : known = name <;>
            simp [within, within_nil, child, same, further]
      | cons first deeper =>
          by_cases same : known = first
          · simpa [within, same] using insideHolds deeper
          · simpa [within, same] using restHolds (first :: deeper)

/-- The entry one name further on is that of the child. -/
theorem find?_append_name (location : Location) (name : Bytes) (listing : Listing) :
    find? (location ++ [name]) listing = (child name (within location listing)).1 := by
  induction listing generalizing location with
  | empty => cases location <;> simp [find?, within_empty, child]
  | named known entry inside rest insideHolds restHolds =>
      cases location with
      | nil =>
          have further := restHolds []
          simp only [List.nil_append, within_nil] at further
          by_cases same : known = name <;>
            simp [find?, within_nil, child, same, further]
      | cons first deeper =>
          by_cases same : known = first
          · simpa [find?, within, same] using insideHolds deeper
          · simpa [find?, within, same] using restHolds (first :: deeper)

/-- All entries of a listing at some location, each before those below it. -/
def entriesFrom (location : Location) : Listing → List (Location × Entry)
  | .empty => []
  | .named name entry inside rest =>
      let reached := location ++ [name]
      (entry.toList.map (reached, ·) ++ entriesFrom reached inside) ++
        entriesFrom location rest

/-- All entries of a listing, each before those below it. -/
def entries (listing : Listing) : List (Location × Entry) :=
  entriesFrom [] listing

end Listing

end FileTransfer
