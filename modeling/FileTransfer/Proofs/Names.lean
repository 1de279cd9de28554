import FileTransfer.Filename
import FileTransfer.FileTree.Walk
import FileTransfer.Header

namespace FileTransfer

/-!
# Plain names

A plain name is one part of a path, so below a directory it adds exactly one
move to those of the directory (`Path.moves_join`).  In a header, a name that is
not too long is announced by its length.
-/

namespace Path

theorem names_append_slash (front back : Path) :
    names (front ++ slash :: back) = names front ++ names back := by
  simp [names, parts_append_slash]

theorem isAbsolute_of_no_slash
    {path : Path}
    (single : slash ∉ path) :
    isAbsolute path = false := by
  cases path with
  | nil => rfl
  | cons octet others =>
      have apart : octet ≠ slash := fun same => single (by simp [same])
      simp [isAbsolute, apart]

/-- A name below a directory adds one name to those of the directory. -/
theorem names_join
    {directory name : Path}
    (nonempty : name ≠ [])
    (single : slash ∉ name) :
    names (join directory name) = names directory ++ [name] := by
  have own : names name = [name] := by
    simp [names, parts_of_no_slash single, nonempty]
  simp only [join, isAbsolute_of_no_slash single, Bool.false_eq_true, if_false]
  split
  case isFalse inner => rw [names_append_slash, own]
  case isTrue ends =>
    rcases ends with rfl | ends
    · simpa [names, parts] using own
    · simp only [endsInSlash, decide_eq_true_eq, List.getLast?_eq_some_iff] at ends
      rcases ends with ⟨front, rfl⟩
      rw [List.append_assoc, List.singleton_append, names_append_slash,
        names_append_slash, own]
      simp [names, parts]

theorem isAbsolute_join
    {directory name : Path}
    (nonempty : directory ≠ [])
    (single : slash ∉ name) :
    isAbsolute (join directory name) = isAbsolute directory := by
  obtain ⟨first, others, rfl⟩ := List.exists_cons_of_ne_nil nonempty
  simp only [join, isAbsolute_of_no_slash single, Bool.false_eq_true, if_false]
  split <;> simp [isAbsolute]

theorem endsInSlash_join
    {directory name : Path}
    (nonempty : name ≠ [])
    (single : slash ∉ name) :
    endsInSlash (join directory name) = false := by
  cases ends : name.getLast? with
  | none => exact absurd (List.getLast?_eq_none_iff.mp ends) nonempty
  | some last =>
      have apart : last ≠ slash := fun same =>
        single (same ▸ List.mem_of_getLast? ends)
      simp only [join, isAbsolute_of_no_slash single, Bool.false_eq_true,
        if_false]
      split <;>
        simp [endsInSlash, List.getLast?_append, List.getLast?_cons, ends, apart]

/-- A path below a directory holds no octets but those of both, and slashes. -/
theorem mem_join
    {directory name : Path}
    {octet : UInt8}
    (inside : octet ∈ join directory name) :
    octet ∈ directory ∨ octet = slash ∨ octet ∈ name := by
  unfold join at inside
  split at inside
  · exact .inr (.inr inside)
  split at inside
  · rcases List.mem_append.mp inside with front | back
    · exact .inl front
    · exact .inr (.inr back)
  · rcases List.mem_append.mp inside with front | back
    · exact .inl front
    · exact .inr (List.mem_cons.mp back)

/-- The moves to a plain name below a directory. -/
theorem moves_join
    {directory name : Path}
    (nonempty : name ≠ [])
    (single : slash ∉ name)
    (notSelf : name ≠ selfName)
    (notParent : name ≠ parentName) :
    moves (join directory name) =
      (names directory).map moveOf ++ [.enter name] := by
  simp [moves, names_join nonempty single, endsInSlash_join nonempty single, moveOf,
    notSelf, notParent]

end Path

/-- A plain name is one part of a path, and enters what it names. -/
theorem Filename.parts_of_isPlain
    {name : Bytes}
    (plain : isPlain name) :
    name ≠ [] ∧ Path.slash ∉ name ∧ name ≠ Path.selfName ∧
      name ≠ Path.parentName := by
  simp only [isPlain, Bool.and_eq_true, decide_eq_true_eq, Bool.not_eq_true',
    List.any_eq_false, ne_eq] at plain
  rcases plain with ⟨⟨⟨⟨nonempty, allowed⟩, notSelf⟩, notParent⟩, -⟩
  refine ⟨nonempty, fun inside => ?_, notSelf, notParent⟩
  exact allowed Path.slash inside (by decide)

/-- A plain name holds no octet that the host refuses. -/
theorem Filename.no_nul_of_isPlain
    {name : Bytes}
    (plain : isPlain name) :
    0 ∉ name := by
  intro inside
  simp only [isPlain, Bool.and_eq_true, decide_eq_true_eq, Bool.not_eq_true',
    List.any_eq_false, ne_eq] at plain
  exact plain.1.1.1.2 0 inside (by decide)

/-- Only plain names are valid. -/
theorem Filename.isPlain_of_validate
    {raw : Bytes}
    {name : String}
    (valid : validate raw = .ok name) :
    isPlain raw := by
  unfold validate at valid
  cases reads : raw.text? with
  | none => simp [reads] at valid
  | some text =>
      simp only [reads] at valid
      split at valid
      case isTrue plain => exact plain
      case isFalse => cases valid

namespace Header

/-- The header that announces a name. -/
def announcement (name : String) : Bytes :=
  Bytes.ofNat16 (Bytes.ofText name).length ++ Bytes.ofText name

theorem length_announcement (name : String) :
    (announcement name).length = 2 + (Bytes.ofText name).length := by
  simp [announcement, Bytes.ofNat16]
  omega

/-- A name that is neither empty nor too long can be announced. -/
theorem encode_of_short
    {name : String}
    (nonempty : Bytes.ofText name ≠ [])
    (short : (Bytes.ofText name).length ≤ Limits.maxNameLength) :
    encode name = .ok (announcement name) := by
  simp [encode, nonempty, Nat.not_lt.mpr short, announcement]

theorem nameLength_ofNat16
    {length : Nat}
    (given : 0 < length)
    (short : length ≤ Limits.maxNameLength) :
    nameLength (Bytes.ofNat16 length) = .ok length := by
  simp only [Limits.maxNameLength] at short
  have small : length < 65536 := by omega
  have allowed : 1 ≤ length ∧ length ≤ 255 := ⟨given, short⟩
  simp [nameLength, Bytes.toNat_ofNat16 small, Limits.maxNameLength, allowed]

end Header

end FileTransfer
