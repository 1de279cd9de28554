import FileTransfer.Digest.Blake3
import FileTransfer.Fault
import FileTransfer.Decimal.Digits
import FileTransfer.Proofs.LastNames

namespace FileTransfer

/-!
# Line feeds in texts

An entry of a text journal is one line if there is no line feed in it but the last
one, so the line feeds in each of its parts are counted.  Numbers, digests and quoted
names have none.  A path is shown with as many as it has octets of this value
(`Text.feeds_lossy`), and a text is written with as many as it has
(`Bytes.count_ofText`): no other character or octet turns into one.
-/

/-- The octet of a line feed. -/
def Bytes.lineFeed : UInt8 := 0x0A

namespace Text

/-- The number of line feeds in a text. -/
def feeds (text : String) : Nat :=
  text.toList.count '\n'

@[simp] theorem feeds_append (first second : String) :
    feeds (first ++ second) = feeds first + feeds second := by
  simp [feeds]

@[simp] theorem feeds_toString (text : String) : feeds (toString text) = feeds text := rfl

@[simp] theorem feeds_ofList (chars : List Char) :
    feeds (String.ofList chars) = chars.count '\n' := by
  simp [feeds]

/-!
## Numbers and quoted names
-/

theorem newline_notMem_toDigits
    {base : Nat}
    (several : 1 < base)
    (number : Nat) :
    '\n' ∉ Nat.toDigits base number := by
  induction number using Nat.strongRecOn with
  | ind number ih =>
      rw [Nat.toDigits_eq_if several]
      split
      case isTrue small => simp
      case isFalse large =>
        have front := ih (number / base) (Nat.div_lt_self (by omega) several)
        simp [front]

@[simp] theorem feeds_repr (number : Nat) : feeds number.repr = 0 := by
  rw [Nat.repr_eq_ofList_toDigits, feeds_ofList]
  exact List.count_eq_zero.mpr (newline_notMem_toDigits (by decide) number)

@[simp] theorem feeds_fixed (places : Nat) (number : Binary64) :
    feeds (Decimal.fixed places number) = 0 := by
  have digits (value : Nat) : '\n' ∉ Decimal.digitsOf value :=
    newline_notMem_toDigits (by decide) value
  have padded (value width : Nat) :
      '\n' ∉ List.replicate width '0' ++ Decimal.digitsOf value := by
    simp [digits, List.mem_replicate]
  simp only [Decimal.fixed, Decimal.pointed, feeds_ofList, List.count_eq_zero,
    List.mem_append, List.mem_cons, not_or]
  refine ⟨fun inside => ?_, by decide, fun inside => ?_⟩
  · exact padded _ _ (List.mem_of_mem_take inside)
  · exact padded _ _ (List.mem_of_mem_drop inside)

@[simp] theorem feeds_hexDigest (content : Bytes) : feeds (Blake3.hexDigest content) = 0 := by
  have digit : ∀ value < 16, Bytes.hexDigit value ≠ '\n' := by decide
  simp only [Blake3.hexDigest, Bytes.toHex, feeds_ofList, List.count_eq_zero,
    List.mem_flatMap, not_exists, not_and]
  intro octet _ inside
  have bound := octet.toNat_lt
  simp only [List.mem_cons, List.not_mem_nil, or_false] at inside
  rcases inside with same | same
  · exact digit (octet.toNat / 16) (by omega) same.symm
  · exact digit (octet.toNat % 16) (by omega) same.symm

/-- A quoted text is on one line, whatever the text is. -/
@[simp] theorem feeds_quoted (text : String) : feeds (quoted text) = 0 := by
  have each (char : Char) : '\n' ∉ quotedChar char := by
    unfold quotedChar
    split_ifs with quote escape feed
    · decide
    · decide
    · decide
    · decide
    · decide
    · decide
    · simpa using Ne.symm feed
    · simp [codePoint, newline_notMem_toDigits]
  simp only [quoted, feeds_ofList, List.count_eq_zero, List.mem_cons, List.mem_append,
    List.mem_flatMap, List.not_mem_nil, or_false, not_or]
  refine ⟨by decide, ?_, by decide⟩
  rintro ⟨char, -, inside⟩
  exact each char inside

/-!
## Octets and characters
-/

theorem char_ofNat_eq_newline (code : Nat) : Char.ofNat code = '\n' ↔ code = 10 := by
  constructor
  · intro same
    have number := congrArg Char.toNat same
    unfold Char.ofNat at number
    split at number
    · exact number
    · cases number
  · rintro rfl
    rfl

/-- The continuation of a sequence is a front of what follows, in octets above ASCII. -/
theorem continued_cases
    {low high : UInt8}
    (above : 0x80 ≤ low.toNat)
    (count : Nat)
    (rest : Bytes) :
    let tail := continued count low high rest
    rest = tail ++ rest.drop tail.length ∧
      (∀ octet ∈ tail, 0x80 ≤ octet.toNat) ∧
      tail.length ≤ count ∧
      ∀ first others, tail = first :: others →
        low.toNat ≤ first.toNat ∧ first.toNat ≤ high.toNat := by
  induction rest generalizing count low high with
  | nil => simp [continued]
  | cons octet rest ih =>
      cases count with
      | zero => simp [continued]
      | succ more =>
          simp only [continued]
          split
          case isFalse outside => simp
          case isTrue inside =>
            obtain ⟨shape, high', within, -⟩ :=
              @ih 0x80 0xBF (by decide) more
            obtain ⟨least, most⟩ := inside
            rw [UInt8.le_iff_toNat_le] at least most
            refine ⟨by simpa using shape, ?_, by simpa using within, ?_⟩
            · intro other taken
              obtain rfl | later := List.mem_cons.mp taken
              · omega
              · exact high' other later
            · intro first others same
              obtain ⟨rfl, -⟩ := List.cons.inj same
              exact ⟨least, most⟩

/-- What leads a sequence stands for itself, or announces octets above ASCII. -/
theorem announced?_cases
    {lead low high : UInt8}
    {count : Nat}
    (announces : announced? lead = some (count, low, high)) :
    0x80 ≤ low.toNat ∧ high.toNat ≤ 0xBF ∧
      (lead.toNat < 0x80 ∧ count = 0 ∨
        0x80 ≤ lead.toNat ∧
          (count = 1 ∧ 2 ≤ lead.toNat % 32 ∨
            count = 2 ∧ (1 ≤ lead.toNat % 16 ∨ 0xA0 ≤ low.toNat) ∨
            count = 3 ∧ (1 ≤ lead.toNat % 8 ∨ 0x90 ≤ low.toNat))) := by
  have bound := lead.toNat_lt
  unfold announced? at announces
  simp only [UInt8.lt_iff_toNat_lt, ← UInt8.toNat_inj] at announces
  split_ifs at announces <;> cases announces <;> simp_all <;> omega

/-- A sequence of several octets stands for no line feed. -/
theorem assemble_ne_newline
    {lead low high : UInt8}
    {count : Nat}
    {tail : Bytes}
    (announces : announced? lead = some (count, low, high))
    (long : 0x80 ≤ lead.toNat)
    (whole : tail.length = count)
    (first :
      ∀ octet others, tail = octet :: others →
        low.toNat ≤ octet.toNat ∧ octet.toNat ≤ high.toNat) :
    assemble lead tail ≠ '\n' := by
  rw [assemble, ne_eq, char_ofNat_eq_newline]
  obtain ⟨above, below, ⟨short, -⟩ | ⟨-, one | two | three⟩⟩ :=
    announced?_cases announces
  · omega
  · obtain ⟨rfl, own⟩ := one
    obtain ⟨second, rfl⟩ := List.length_eq_one_iff.mp whole
    simp only [List.length_cons, List.length_nil, List.foldl_cons, List.foldl_nil]
    omega
  · obtain ⟨rfl, own⟩ := two
    obtain ⟨second, third, rfl⟩ := List.length_eq_two.mp whole
    obtain ⟨least, most⟩ := first second _ rfl
    simp only [List.length_cons, List.length_nil, List.foldl_cons, List.foldl_nil]
    omega
  · obtain ⟨rfl, own⟩ := three
    obtain ⟨second, third, fourth, rfl⟩ := List.length_eq_three.mp whole
    obtain ⟨least, most⟩ := first second _ rfl
    simp only [List.length_cons, List.length_nil, List.foldl_cons, List.foldl_nil]
    omega

/-- Octets are shown with as many line feeds as they have, whether or not they are text. -/
theorem feeds_lossy (bytes : Bytes) : feeds (lossy bytes) = bytes.count Bytes.lineFeed := by
  rw [lossy, feeds_ofList]
  fun_induction lossyChars bytes with
  | case1 => rfl
  | case2 lead rest leadless ih =>
      have notFeed : lead ≠ Bytes.lineFeed := by
        rintro rfl
        exact absurd leadless (by decide)
      have notNewline : replacement ≠ '\n' := by decide
      simp [notFeed, notNewline, ih]
  | case3 lead rest count low high announces tail char ih =>
      obtain ⟨above, -, ascii⟩ := announced?_cases announces
      obtain ⟨shape, beyond, within, first⟩ :=
        @continued_cases low high above count rest
      have tailFree : tail.count Bytes.lineFeed = 0 := by
        rw [List.count_eq_zero]
        intro inside
        exact absurd (beyond _ inside) (by decide)
      have counted :
          rest.count Bytes.lineFeed = (rest.drop tail.length).count Bytes.lineFeed := by
        conv_lhs => rw [shape]
        rw [List.count_append, tailFree, Nat.zero_add]
      have same : char = '\n' ↔ lead = Bytes.lineFeed := by
        rcases ascii with ⟨short, rfl⟩ | ⟨long, -⟩
        · have alone : tail = [] := List.length_eq_zero_iff.mp (Nat.le_zero.mp within)
          have itself : char = Char.ofNat lead.toNat := by simp [char, alone, assemble]
          rw [itself, char_ofNat_eq_newline, ← UInt8.toNat_inj]
          rfl
        · have other : lead ≠ Bytes.lineFeed := by
            rintro rfl
            exact absurd long (by decide)
          refine iff_of_false ?_ other
          by_cases whole : tail.length = count
          · simpa [char, whole] using assemble_ne_newline announces long whole first
          · simpa [char, whole] using (by decide : replacement ≠ '\n')
      rw [List.count_cons, List.count_cons, ih, counted]
      simp [same]

end Text

namespace Bytes

/-- A text is written with as many octets of a line feed as it has line feeds. -/
theorem count_ofText (text : String) : (ofText text).count lineFeed = Text.feeds text := by
  have each (char : Char) :
      (String.utf8EncodeChar char).count lineFeed = if char = '\n' then 1 else 0 := by
    split
    case isTrue same =>
      subst same
      rfl
    case isFalse other =>
      rw [List.count_eq_zero]
      intro inside
      exact other (Char.ext (UInt32.toNat_inj.mp (utf8EncodeChar_of_ascii inside (by decide))))
  rw [ofText_eq_flatMap, Text.feeds]
  induction text.toList with
  | nil => rfl
  | cons char rest ih =>
      rw [List.flatMap_cons, List.count_append, each, ih, List.count_cons, Nat.add_comm]
      simp

end Bytes

end FileTransfer
