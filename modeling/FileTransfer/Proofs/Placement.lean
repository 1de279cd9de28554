import FileTransfer.Proofs.LastNames

namespace FileTransfer

/-!
# Where a received name is placed

What a peer may call a file is a rule about the characters of a text
(`Filename.Proper`).  The checks on received octets follow this rule exactly, and the
last of them, that the name is one component of a path, never decides
(`Filename.validate_eq_ok_iff`).  Below a directory, however that is spelled, such a
name is one component more (`Path.components_join`), and no other name leads to the
same path.
-/

/-- A character of ASCII is in a text exactly if its octet is in the octets of the text. -/
theorem Bytes.mem_ofText_iff
    {character : Char}
    {octet : UInt8}
    (encodes : String.utf8EncodeChar character = [octet])
    (ascii : octet.toNat < 128)
    (text : String) :
    octet ∈ ofText text ↔ character ∈ text.toList := by
  have own : octet ∈ String.utf8EncodeChar character := by simp [encodes]
  rw [ofText_eq_flatMap, List.mem_flatMap]
  constructor
  · rintro ⟨other, among, inside⟩
    have same := utf8EncodeChar_of_ascii inside ascii
    rw [← utf8EncodeChar_of_ascii own ascii] at same
    exact (Char.ext (UInt32.toNat_inj.mp same)) ▸ among
  · exact fun among => ⟨character, among, own⟩

namespace Path

/-- The components of parts when a last part, which may name nothing, is among them. -/
def componentsOf : List Bytes → List Component
  | [] => []
  | first :: others =>
      (if first = [] then some .root
        else if first = selfName then some .here
        else component? first).toList ++
        others.filterMap component?

/-- Only the empty path has no root although its first part is empty. -/
theorem components_eq
    {path : Path}
    (nonempty : path ≠ []) :
    components path = componentsOf (parts path) := by
  unfold components
  cases shape : parts path with
  | nil => rfl
  | cons first others =>
      by_cases alone : first = [] ∧ others = []
      · obtain ⟨rfl, rfl⟩ := alone
        obtain ⟨octet, rest, rfl⟩ := List.exists_cons_of_ne_nil nonempty
        simp only [parts] at shape
        split at shape
        case isTrue => simp [parts_ne_nil] at shape
        case isFalse => split at shape <;> simp at shape
      · by_cases empty : first = []
        · have more : others ≠ [] := fun none => alone ⟨empty, none⟩
          simp [componentsOf, firstComponent?, empty, more]
        · simp only [componentsOf, firstComponent?, empty, if_false]

theorem componentsOf_concat
    {front : List Bytes}
    (nonempty : front ≠ [])
    (last : Bytes) :
    componentsOf (front ++ [last]) = componentsOf front ++ (component? last).toList := by
  obtain ⟨first, others, rfl⟩ := List.exists_cons_of_ne_nil nonempty
  have own : [last].filterMap component? = (component? last).toList := by
    cases named : component? last <;> simp [named]
  simp [componentsOf, ← own]

/-- A part that names something below its directory is a component of its own. -/
theorem component?_of_name
    {name : Bytes}
    (nonempty : name ≠ [])
    (notSelf : name ≠ selfName)
    (notParent : name ≠ parentName) :
    component? name = some (.normal name) := by
  simp [component?, nonempty, notSelf, notParent]

/-- Below any spelling of a directory, a name is one component more than the directory. -/
theorem components_join
    {name : Bytes}
    (nonempty : name ≠ [])
    (single : slash ∉ name)
    (notSelf : name ≠ selfName)
    (notParent : name ≠ parentName)
    (directory : Path) :
    components (join directory name) = components directory ++ [.normal name] := by
  have own := component?_of_name nonempty notSelf notParent
  have whole : join directory name ≠ [] := by
    intro empty
    have names : names (join directory name) = names directory ++ [name] :=
      names_join nonempty single
    rw [empty] at names
    simp [Path.names, parts] at names
  have relative := isAbsolute_of_no_slash single
  rw [components_eq whole]
  by_cases empty : directory = []
  · subst empty
    simp [join, relative, parts_of_no_slash single, componentsOf, nonempty, notSelf, own,
      components, parts, firstComponent?]
  rw [components_eq empty, join, relative, if_neg (by simp)]
  split
  case isFalse inner =>
    rw [parts_append_slash, parts_of_no_slash single,
      componentsOf_concat (parts_ne_nil directory), own]
    rfl
  case isTrue ends =>
    obtain ⟨front, rfl⟩ : ∃ front, directory = front ++ [slash] := by
      simpa [empty, endsInSlash, List.getLast?_eq_some_iff] using ends
    rw [List.append_assoc, List.singleton_append, parts_append_slash, parts_append_slash,
      parts_of_no_slash single, componentsOf_concat (parts_ne_nil front), own,
      show parts [] = [[]] from rfl, componentsOf_concat (parts_ne_nil front)]
    simp [component?]

/-- A directory is the front of every path below it, however it is spelled. -/
theorem prefix_join
    {name : Bytes}
    (single : slash ∉ name)
    (directory : Path) :
    directory <+: join directory name := by
  simp only [join, isAbsolute_of_no_slash single, Bool.false_eq_true, if_false]
  split <;> exact List.prefix_append _ _

end Path

namespace Filename

/-- The characters that no name may hold. -/
def forbiddenCharacters : List Char := ['/', '\\', ':', '\x00']

/-- A text by which a peer may call a file. -/
structure Proper (name : String) : Prop where
  nonempty : name ≠ ""
  allowed : ∀ character ∈ name.toList, character ∉ forbiddenCharacters
  notSelf : name ≠ "."
  notParent : name ≠ ".."

/-- A text holds a forbidden character exactly if its octets hold a forbidden one. -/
theorem allowed_iff (name : String) :
    (∀ octet ∈ Bytes.ofText name, octet ∉ forbidden) ↔
      ∀ character ∈ name.toList, character ∉ forbiddenCharacters := by
  have slash : Path.slash ∈ Bytes.ofText name ↔ '/' ∈ name.toList :=
    Bytes.mem_ofText_iff (by decide) (by decide) name
  have backslash : 0x5C ∈ Bytes.ofText name ↔ '\\' ∈ name.toList :=
    Bytes.mem_ofText_iff (by decide) (by decide) name
  have colon : 0x3A ∈ Bytes.ofText name ↔ ':' ∈ name.toList :=
    Bytes.mem_ofText_iff (by decide) (by decide) name
  have nul : 0x00 ∈ Bytes.ofText name ↔ '\x00' ∈ name.toList :=
    Bytes.mem_ofText_iff (by decide) (by decide) name
  calc
    _ ↔ forbidden.Disjoint (Bytes.ofText name) :=
      List.disjoint_left.symm.trans List.disjoint_comm
    _ ↔ forbiddenCharacters.Disjoint name.toList := by
      simp only [forbidden, forbiddenCharacters, List.disjoint_cons_left, slash,
        backslash, colon, nul, List.disjoint_nil_left]
    _ ↔ _ := List.disjoint_comm.trans List.disjoint_left

theorem isPlain_ofText_iff (name : String) :
    isPlain (Bytes.ofText name) ↔ Proper name := by
  have same (other : String) : Bytes.ofText name = Bytes.ofText other ↔ name = other :=
    ⟨Bytes.ofText_injective, congrArg Bytes.ofText⟩
  have self : Path.selfName = Bytes.ofText "." := by decide
  have parent : Path.parentName = Bytes.ofText ".." := by decide
  rw [isPlain_iff, allowed_iff, ← Bytes.ofText_empty, self, parent]
  simp only [ne_eq, same]
  exact ⟨fun ⟨nonempty, allowed, notSelf, notParent⟩ =>
      ⟨nonempty, allowed, notSelf, notParent⟩,
    fun ⟨nonempty, allowed, notSelf, notParent⟩ =>
      ⟨nonempty, allowed, notSelf, notParent⟩⟩

/-- Received octets are a name exactly if they are a text that is a proper one. -/
theorem validate_eq_ok_iff (raw : Bytes) (name : String) :
    validate raw = .ok name ↔ Bytes.text? raw = some name ∧ Proper name := by
  cases reads : Bytes.text? raw with
  | none => simp [validate, reads]
  | some text =>
      obtain rfl := Bytes.ofText_of_text? reads
      rw [← isPlain_ofText_iff, Option.some.injEq]
      by_cases plain : isPlain (Bytes.ofText text)
      · simp only [validate, reads, plain, if_true, Except.ok.injEq]
        exact ⟨fun same => ⟨same, same ▸ plain⟩, And.left⟩
      · simp only [validate, reads, plain, Bool.false_eq_true, if_false, reduceCtorEq,
          false_iff, not_and]
        rintro rfl
        exact plain

/-- What a refused name is shown as. -/
def shown (raw : Bytes) : String :=
  (Bytes.text? raw).getD (Text.lossy raw)

/-- What is no name is refused as such, and shown as far as it is a text. -/
theorem validate_of_refused
    {raw : Bytes}
    (refused : ∀ name, validate raw ≠ .ok name) :
    validate raw = .error (.invalidFilename (shown raw)) := by
  cases reads : Bytes.text? raw with
  | none => simp [validate, shown, reads]
  | some text =>
      have notPlain : ¬isPlain raw := fun plain =>
        refused text (by simp [validate, reads, plain])
      simp [validate, shown, reads, notPlain]

end Filename

/--
Received octets and an output directory, both arbitrary.  The octets are taken exactly
if they are a text that is a proper name, and nothing depends on whether it makes up
one component of a path, because every proper name does.  A name that is taken is
placed below the directory: its path begins with the directory as that is spelled,
has the components of the directory and the name as one more, and belongs to no other
octets.  Everything else is refused for its name, and gets no path.
-/
theorem place_exact (directory : Path) (raw : Bytes) :
    (∀ name,
        Filename.validate raw = .ok name ↔
          Bytes.text? raw = some name ∧ Filename.Proper name) ∧
      (∀ name,
        Bytes.text? raw = some name → Filename.Proper name →
          Filename.isSinglePart raw) ∧
      (∀ name,
        Filename.validate raw = .ok name →
          Bytes.ofText name = raw ∧
            ∃ path,
              Filename.place directory raw = .ok (name, path) ∧
                directory <+: path ∧
                Path.components path = Path.components directory ++ [.normal raw] ∧
                ∀ other second,
                  Filename.place directory other = .ok (second, path) →
                    other = raw ∧ second = name) ∧
      ((∀ name, ¬(Bytes.text? raw = some name ∧ Filename.Proper name)) →
        let fault := Fault.invalidFilename (Filename.shown raw)
        Filename.validate raw = .error fault ∧
          Filename.place directory raw = .error fault) := by
  refine ⟨Filename.validate_eq_ok_iff raw, ?_, ?_, ?_⟩
  · intro name reads proper
    have plain := (Filename.isPlain_ofText_iff name).mpr proper
    rw [Bytes.ofText_of_text? reads] at plain
    simp only [Filename.isPlain, Bool.and_eq_true] at plain
    exact plain.2
  · intro name valid
    have own := Filename.ofText_of_validate valid
    obtain ⟨nonempty, single, notSelf, notParent⟩ :=
      Filename.parts_of_isPlain (Filename.isPlain_of_validate valid)
    refine ⟨own, Path.join directory raw, Filename.place_eq_ok_iff.mpr ⟨valid, rfl⟩,
      Path.prefix_join single directory,
      Path.components_join nonempty single notSelf notParent directory, ?_⟩
    intro other second placed
    obtain ⟨taken, same⟩ := Filename.place_eq_ok_iff.mp placed
    obtain ⟨-, part, -, -⟩ :=
      Filename.parts_of_isPlain (Filename.isPlain_of_validate taken)
    obtain rfl : other = raw := by
      rw [← Path.lastPart_join part, same, Path.lastPart_join single]
    exact ⟨rfl, Except.ok.inj (taken.symm.trans valid)⟩
  · intro improper
    have refused (name : String) : Filename.validate raw ≠ .ok name := fun valid =>
      improper name ((Filename.validate_eq_ok_iff raw name).mp valid)
    have invalid := Filename.validate_of_refused refused
    exact ⟨invalid, by simp [Filename.place, invalid, Except.map]⟩

/-- A directory may be spelled with parts that name nothing, and a name may hold dots. -/
example :
    Path.components (Path.join (Bytes.ofText "/srv//.") (Bytes.ofText "..a")) =
      [.root, .normal (Bytes.ofText "srv"), .normal (Bytes.ofText "..a")] := by
  decide

end FileTransfer
