import FileTransfer.Proofs.Names
import Mathlib

namespace FileTransfer

/-!
# The last name of a path

The name of a file is what follows the last slash of its path.  As octets this
is `Path.lastPart`, and the characters of the text that the path spells yield
the same name (`Filename.ofText_lastName`), because no character but the slash
itself has the octet of the slash in its encoding.

Every path joins what comes before its last part with that part
(`Path.join_lastPart`), and a name that was joined to any directory is the last
part again (`Path.lastPart_join`).
-/

namespace Bytes

theorem ofText_eq_flatMap (text : String) :
    ofText text = text.toList.flatMap String.utf8EncodeChar := by
  have encodes : text.toByteArray = text.toList.utf8Encode := by
    rw [← String.toByteArray_ofList, String.ofList_toList]
  simp [ofText, String.toUTF8, encodes, List.utf8Encode]

/-- An octet of ASCII occurs only in the encoding of its own character. -/
theorem utf8EncodeChar_of_ascii
    {character : Char}
    {octet : UInt8}
    (inside : octet ∈ String.utf8EncodeChar character)
    (ascii : octet.toNat < 128) :
    character.toNat = octet.toNat := by
  have value : character.toNat = character.val.toNat := rfl
  unfold String.utf8EncodeChar at inside
  simp only at inside
  split at inside
  case isTrue short =>
    obtain rfl := List.mem_singleton.mp inside
    rw [value, UInt8.toNat_ofNat']
    omega
  case isFalse =>
    split at inside
    · simp only [List.mem_cons, List.not_mem_nil, or_false] at inside
      rcases inside with rfl | rfl <;> rw [UInt8.toNat_ofNat'] at ascii <;> omega
    split at inside
    · simp only [List.mem_cons, List.not_mem_nil, or_false] at inside
      rcases inside with rfl | rfl | rfl <;>
        rw [UInt8.toNat_ofNat'] at ascii <;> omega
    · simp only [List.mem_cons, List.not_mem_nil, or_false] at inside
      rcases inside with rfl | rfl | rfl | rfl <;>
        rw [UInt8.toNat_ofNat'] at ascii <;> omega

theorem slash_mem_utf8EncodeChar
    {character : Char}
    (inside : Path.slash ∈ String.utf8EncodeChar character) :
    character = '/' :=
  Char.ext (UInt32.toNat_inj.mp (utf8EncodeChar_of_ascii inside (by decide)))

end Bytes

namespace Path

/-- What follows the last slash of a path. -/
def lastPart (path : Path) : Bytes :=
  path.rtakeWhile (· ≠ slash)

/-- A path up to its last slash. -/
def beforeLast (path : Path) : Path :=
  path.rdropWhile (· ≠ slash)

theorem slash_notMem_lastPart (path : Path) : slash ∉ lastPart path := by
  intro inside
  simpa using List.mem_rtakeWhile_imp inside

/-- What comes before the last part is nothing, or ends in the slash before it. -/
theorem beforeLast_ends (path : Path) :
    beforeLast path = [] ∨ endsInSlash (beforeLast path) := by
  by_cases nothing : beforeLast path = []
  · exact .inl nothing
  · have stops := List.rdropWhile_last_not (· ≠ slash) path nothing
    have last : (beforeLast path).getLast nothing = slash :=
      Decidable.not_not.mp fun apart => stops (decide_eq_true apart)
    exact .inr (by simp [endsInSlash, List.getLast?_eq_some_getLast nothing, last])

/-- A path joins what comes before its last part with that part. -/
theorem join_lastPart (path : Path) :
    join (beforeLast path) (lastPart path) = path := by
  have relative := isAbsolute_of_no_slash (slash_notMem_lastPart path)
  rw [join, relative, if_neg (by simp), if_pos (beforeLast_ends path)]
  exact List.rdropWhile_append_rtakeWhile

/-- What follows a last slash is the last part. -/
theorem lastPart_append
    {front last : Path}
    (ends : front = [] ∨ endsInSlash front)
    (single : slash ∉ last) :
    lastPart (front ++ last) = last := by
  have reversed : ∀ octet ∈ last.reverse, decide (octet ≠ slash) = true := by
    intro octet member
    simp only [ne_eq, decide_eq_true_eq]
    rintro rfl
    exact single (List.mem_reverse.mp member)
  have stops : front.reverse.takeWhile (· ≠ slash) = [] := by
    rcases ends with rfl | ends
    · rfl
    · simp only [endsInSlash, decide_eq_true_eq, List.getLast?_eq_some_iff] at ends
      rcases ends with ⟨before, rfl⟩
      simp
  rw [lastPart, List.rtakeWhile, List.reverse_append,
    List.takeWhile_append_of_pos reversed, stops, List.append_nil, List.reverse_reverse]

/-- A name that was joined to a directory is the last part of the path. -/
theorem lastPart_join
    {directory name : Path}
    (single : slash ∉ name) :
    lastPart (join directory name) = name := by
  rw [join, isAbsolute_of_no_slash single, if_neg (by simp)]
  split
  case isTrue ends => exact lastPart_append ends single
  case isFalse inner =>
    rw [← List.singleton_append, ← List.append_assoc]
    exact lastPart_append (.inr (by simp [endsInSlash])) single

/-- The moves of a path that does not end in a slash end with that of its last part. -/
theorem moves_lastPart
    {path : Path}
    (nonempty : lastPart path ≠ []) :
    moves path =
      (names (beforeLast path)).map moveOf ++ [moveOf (lastPart path)] := by
  have single := slash_notMem_lastPart path
  have names :
      names (join (beforeLast path) (lastPart path)) =
        names (beforeLast path) ++ [lastPart path] :=
    names_join nonempty single
  have ends : endsInSlash (join (beforeLast path) (lastPart path)) = false :=
    endsInSlash_join nonempty single
  rw [join_lastPart] at names ends
  simp [moves, names, ends]

end Path

namespace Filename

/-- The characters after the last slash encode to the octets after it. -/
theorem ofText_lastName (text : String) :
    Bytes.ofText (lastName text) = Path.lastPart (Bytes.ofText text) := by
  have after (characters : List Char) :
      (characters.rtakeWhile (· ≠ '/')).flatMap String.utf8EncodeChar =
        Path.lastPart (characters.flatMap String.utf8EncodeChar) := by
    induction characters using List.reverseRecOn with
    | nil => rfl
    | append_singleton front character ih =>
        by_cases separates : character = '/'
        · subst separates
          have slashes : String.utf8EncodeChar '/' = [Path.slash] := by decide
          simp [Path.lastPart, slashes]
        · have kept :
              ∀ octet ∈ (String.utf8EncodeChar character).reverse,
                decide (octet ≠ Path.slash) = true := by
            intro octet member
            simp only [ne_eq, decide_eq_true_eq]
            rintro rfl
            exact separates
              (Bytes.slash_mem_utf8EncodeChar (List.mem_reverse.mp member))
          have further :
              Path.lastPart
                  (front.flatMap String.utf8EncodeChar ++
                    String.utf8EncodeChar character) =
                Path.lastPart (front.flatMap String.utf8EncodeChar) ++
                  String.utf8EncodeChar character := by
            simp only [Path.lastPart, List.rtakeWhile, List.reverse_append]
            rw [List.takeWhile_append_of_pos kept, List.reverse_append,
              List.reverse_reverse]
          simp [separates, further, ← ih]
  rw [lastName, Bytes.ofText_eq_flatMap, Bytes.ofText_eq_flatMap,
    String.toList_ofList]
  exact after text.toList

/-- The last name of a text that joins a name to a directory is that name. -/
theorem lastName_of_join
    {directory : Path}
    {text name : String}
    (spells : Bytes.ofText text = Path.join directory (Bytes.ofText name))
    (single : Path.slash ∉ Bytes.ofText name) :
    lastName text = name := by
  apply Bytes.ofText_injective
  rw [ofText_lastName, spells, Path.lastPart_join single]

/-- A name that reads as a text, joined to a directory that does, reads as a text. -/
theorem text?_join
    {directory : Path}
    {dirText : String}
    (spelled : Bytes.text? directory = some dirText)
    (name : String) :
    ∃ text, Bytes.text? (Path.join directory (Bytes.ofText name)) = some text := by
  obtain rfl := Bytes.ofText_of_text? spelled
  have slashes : Bytes.ofText "/" = [Path.slash] := by decide
  unfold Path.join
  split
  · exact ⟨name, Bytes.text?_ofText name⟩
  split
  · exact ⟨dirText ++ name, by rw [← Bytes.ofText_append, Bytes.text?_ofText]⟩
  · refine ⟨dirText ++ ("/" ++ name), ?_⟩
    rw [← Bytes.text?_ofText, Bytes.ofText_append, Bytes.ofText_append, slashes]
    rfl

/--
A name is plain exactly when it is not empty, holds no forbidden octet, and is
not one of the two names with a meaning of their own.  That such a name makes
up one component of a path follows.
-/
theorem isPlain_iff (name : Bytes) :
    isPlain name ↔
      name ≠ [] ∧ (∀ octet ∈ name, octet ∉ forbidden) ∧
        name ≠ Path.selfName ∧ name ≠ Path.parentName := by
  constructor
  · intro plain
    simp only [isPlain, Bool.and_eq_true, decide_eq_true_eq, Bool.not_eq_true',
      List.any_eq_false, List.contains_iff_mem] at plain
    exact ⟨plain.1.1.1.1, plain.1.1.1.2, plain.1.1.2, plain.1.2⟩
  · rintro ⟨nonempty, allowed, notSelf, notParent⟩
    have single : Path.slash ∉ name := fun inside =>
      allowed Path.slash inside (by decide)
    have one : Path.components name = [.normal name] := by
      simp [Path.components, Path.parts_of_no_slash single, Path.firstComponent?,
        Path.component?, nonempty, notSelf, notParent]
    simp only [isPlain, isSinglePart, Bool.and_eq_true, decide_eq_true_eq,
      Bool.not_eq_true', List.any_eq_false, List.contains_iff_mem]
    exact ⟨⟨⟨⟨nonempty, allowed⟩, notSelf⟩, notParent⟩, one⟩

/-- A text is a valid name exactly when its octets are a plain one. -/
theorem validate_ofText_iff (name : String) :
    validate (Bytes.ofText name) = .ok name ↔ isPlain (Bytes.ofText name) := by
  rw [validate, Bytes.text?_ofText]
  simp

/-- A valid name is the text of the octets that were received. -/
theorem ofText_of_validate
    {raw : Bytes}
    {name : String}
    (valid : validate raw = .ok name) :
    Bytes.ofText name = raw := by
  unfold validate at valid
  cases reads : raw.text? with
  | none => simp [reads] at valid
  | some text =>
      simp only [reads] at valid
      split at valid
      case isTrue =>
        cases valid
        exact Bytes.ofText_of_text? reads
      case isFalse => cases valid

theorem place_eq_ok_iff
    {directory raw path : Path}
    {name : String} :
    place directory raw = .ok (name, path) ↔
      validate raw = .ok name ∧ Path.join directory raw = path := by
  cases valid : validate raw <;> simp [place, valid, Except.map]

end Filename

end FileTransfer
