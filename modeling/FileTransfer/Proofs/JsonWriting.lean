import FileTransfer.Journal.JsonValue
import FileTransfer.Proofs.JsonGrammar
import FileTransfer.Proofs.LineFeeds

namespace FileTransfer

/-!
# What the writer of JSON writes

The characters that write a value fall into the tokens of the value, whatever follows
them (`JsonValue.scan_chars`), and these tokens spell the value
(`JsonValue.reads_tokens`).  There is no control among the characters, and so no line
feed, because texts are escaped (`JsonValue.noControls_chars`).
-/

namespace Json

/-!
## Numbers
-/

theorem isDigit_of_mem_digitsOf
    {char : Char}
    {value : Nat}
    (among : char ∈ Decimal.digitsOf value) :
    char.isDigit :=
  Nat.isDigit_of_mem_toDigits (by decide) (by decide) among

theorem digits_digitsOf (value : Nat) : Digits (Decimal.digitsOf value) :=
  ⟨Nat.toDigits_ne_nil, fun _ among => isDigit_of_mem_digitsOf among⟩

/-- The digits of a number begin with a zero only if it is zero. -/
theorem head?_digitsOf
    {value : Nat}
    (positive : 0 < value) :
    (Decimal.digitsOf value).head? ≠ some '0' := by
  have digit : ∀ value < 10, 0 < value → Nat.digitChar value ≠ '0' := by decide
  unfold Decimal.digitsOf
  induction value using Nat.strongRecOn with
  | ind value ih =>
      rw [Nat.toDigits_eq_if (by decide)]
      split
      case isTrue small => simpa using digit value small positive
      case isFalse large =>
        have front := ih (value / 10) (by omega) (by omega)
        rw [List.head?_append_of_ne_nil _ Nat.toDigits_ne_nil]
        exact front

theorem wholePart_digitsOf (value : Nat) : WholePart (Decimal.digitsOf value) := by
  rcases Nat.eq_zero_or_pos value with rfl | positive
  · exact .inl rfl
  · exact .inr ⟨digits_digitsOf value, head?_digitsOf positive⟩

theorem numeral_digitsOf (value : Nat) : Numeral (Decimal.digitsOf value) :=
  ⟨[], Decimal.digitsOf value, [], [], by simp, .inl rfl, wholePart_digitsOf value,
    .inl rfl, .inl rfl⟩

/-- Digits with a point before some of them are a number. -/
theorem numeral_pointed (less value : Nat) :
    Numeral (Decimal.pointed (less + 1) (Decimal.digitsOf value)).toList := by
  simp only [Decimal.pointed, String.toList_ofList]
  generalize shape :
    List.replicate (less + 1 + 1 - (Decimal.digitsOf value).length) '0' ++
      Decimal.digitsOf value = padded
  have digits : ∀ char ∈ padded, char.isDigit := by
    intro char among
    rw [← shape, List.mem_append] at among
    rcases among with zero | digit
    · rw [(List.mem_replicate.mp zero).2]
      rfl
    · exact isDigit_of_mem_digitsOf digit
  have length :
      padded.length =
        less + 1 + 1 - (Decimal.digitsOf value).length +
          (Decimal.digitsOf value).length := by
    rw [← shape, List.length_append, List.length_replicate]
  have whole : WholePart (padded.take (padded.length - (less + 1))) := by
    by_cases long : less + 1 < (Decimal.digitsOf value).length
    · have bare : padded = Decimal.digitsOf value := by
        rw [← shape, Nat.sub_eq_zero_of_le (by omega), List.replicate_zero,
          List.nil_append]
      have positive : 0 < value := by
        rcases Nat.eq_zero_or_pos value with rfl | positive
        · change less + 1 < 1 at long
          omega
        · exact positive
      refine .inr ⟨⟨?_, ?_⟩, ?_⟩
      · intro empty
        have size := congrArg List.length empty
        simp only [List.length_take, List.length_nil] at size
        omega
      · intro char among
        exact digits char (List.mem_of_mem_take among)
      · rw [List.head?_take, if_neg (by omega), bare]
        exact head?_digitsOf positive
    · refine .inl ?_
      have one : padded.length - (less + 1) = 1 := by omega
      have some : less + 1 + 1 - (Decimal.digitsOf value).length =
          less + 1 - (Decimal.digitsOf value).length + 1 := by omega
      rw [one, ← shape, some, List.replicate_succ]
      rfl
  refine ⟨[], _, '.' :: padded.drop (padded.length - (less + 1)), [], ?_, .inl rfl, whole,
    .inr ⟨_, rfl, ?_, ?_⟩, .inl rfl⟩
  · simp
  · intro empty
    have size := congrArg List.length empty
    simp only [List.length_drop, List.length_nil] at size
    omega
  · intro char among
    exact digits char (List.mem_of_mem_drop among)

theorem numeral_positional (number : Decimal.Scaled) :
    Numeral (Decimal.positional number).toList := by
  obtain ⟨digits, power | less⟩ := number
  · simp only [Decimal.positional, String.toList_append, String.toList_ofList]
    exact ⟨[], Decimal.digitsOf (digits * 10 ^ power), ['.', '0'], [], by simp, .inl rfl,
      wholePart_digitsOf _, .inr ⟨['0'], rfl, by simp, by simp⟩, .inl rfl⟩
  · exact numeral_pointed less digits

theorem numeral_exponential (number : Decimal.Scaled) :
    Numeral (Decimal.exponential number).toList := by
  obtain ⟨nonempty, digits⟩ := digits_digitsOf number.digits
  simp only [Decimal.exponential, String.toList_append, String.toList_ofList]
  generalize Decimal.digitsOf number.digits = run at nonempty digits ⊢
  cases run with
  | nil => exact absurd rfl nonempty
  | cons first others =>
      simp only [List.take_succ_cons, List.take_zero, List.drop_succ_cons, List.drop_zero]
      generalize number.exponent + ((first :: others).length - 1 : Nat) = power
      refine ⟨[], [first],
        (if others = [] then "" else "." ++ String.ofList others).toList,
        (if power < 0 then "e-" else "e+").toList ++ Decimal.digitsOf power.natAbs,
        by simp, .inl rfl, ?_, ?_, .inr ?_⟩
      · by_cases zero : first = '0'
        · exact .inl (by rw [zero])
        · refine .inr ⟨⟨by simp, ?_⟩, by simpa using zero⟩
          intro char among
          exact digits char (List.mem_cons.mpr (.inl (List.mem_singleton.mp among)))
      · split
        case isTrue => exact .inl rfl
        case isFalse more =>
          refine .inr ⟨others, by simp, more, ?_⟩
          intro char among
          exact digits char (List.mem_cons_of_mem _ among)
      · split
        case isTrue =>
          exact ⟨'e', ['-'], _, rfl, .inl rfl, .inr (.inr rfl), digits_digitsOf _⟩
        case isFalse =>
          exact ⟨'e', ['+'], _, rfl, .inl rfl, .inr (.inl rfl), digits_digitsOf _⟩

/-- What is recorded of a fraction is a number. -/
theorem numeral_recorded (value : Binary64) : Numeral (Decimal.recorded value).toList := by
  unfold Decimal.recorded
  simp only
  split
  · exact numeral_positional _
  · exact numeral_exponential _

theorem isWordChar_of_isDigit {char : Char} (digit : char.isDigit) : isWordChar char := by
  simp [isWordChar, Char.isAlphanum, digit]

theorem Digits.wordChars
    {run : List Char}
    (digits : Digits run) :
    ∀ char ∈ run, isWordChar char :=
  fun char among => isWordChar_of_isDigit (digits.2 char among)

/-- A number is not empty, and made of the characters of words. -/
theorem Numeral.wordChars
    {run : List Char}
    (numeral : Numeral run) :
    run ≠ [] ∧ ∀ char ∈ run, isWordChar char := by
  obtain ⟨sign, whole, fraction, exponent, rfl, signed, isWhole, fractional, raised⟩ :=
    numeral
  have wholeChars : whole ≠ [] ∧ ∀ char ∈ whole, isWordChar char := by
    rcases isWhole with rfl | ⟨digits, -⟩
    · exact ⟨by simp, List.forall_mem_singleton.mpr rfl⟩
    · exact ⟨digits.1, digits.wordChars⟩
  have signChars : ∀ char ∈ sign, isWordChar char := by
    rcases signed with rfl | rfl
    · exact List.forall_mem_nil _
    · exact List.forall_mem_singleton.mpr rfl
  have fractionChars : ∀ char ∈ fraction, isWordChar char := by
    rcases fractional with rfl | ⟨digits, rfl, isRun⟩
    · exact List.forall_mem_nil _
    · exact List.forall_mem_cons.mpr ⟨rfl, isRun.wordChars⟩
  have exponentChars : ∀ char ∈ exponent, isWordChar char := by
    rcases raised with rfl | ⟨mark, signs, digits, rfl, marked, isSign, isRun⟩
    · exact List.forall_mem_nil _
    · refine List.forall_mem_cons.mpr
        ⟨?_, List.forall_mem_append.mpr ⟨?_, isRun.wordChars⟩⟩
      · rcases marked with rfl | rfl <;> rfl
      · rcases isSign with rfl | rfl | rfl
        · exact List.forall_mem_nil _
        · exact List.forall_mem_singleton.mpr rfl
        · exact List.forall_mem_singleton.mpr rfl
  refine ⟨by simp [wholeChars.1], ?_⟩
  simp only [List.forall_mem_append]
  exact ⟨signChars, wholeChars.2, fractionChars, exponentChars⟩

/-!
## Controls
-/

/--
No control is among some characters.  These are the characters below the blank, which
JSON does not let stand in a text as they are; the ends of lines are among them.
-/
def NoControls (chars : List Char) : Prop :=
  ∀ char ∈ chars, 32 ≤ char.toNat

namespace NoControls

theorem nil : NoControls [] :=
  List.forall_mem_nil _

theorem append
    {front back : List Char}
    (first : NoControls front)
    (second : NoControls back) :
    NoControls (front ++ back) :=
  List.forall_mem_append.mpr ⟨first, second⟩

theorem cons
    {char : Char}
    {rest : List Char}
    (plain : 32 ≤ char.toNat)
    (others : NoControls rest) :
    NoControls (char :: rest) :=
  List.forall_mem_cons.mpr ⟨plain, others⟩

theorem newline_notMem
    {chars : List Char}
    (plain : NoControls chars) :
    '\n' ∉ chars :=
  fun inside => absurd (plain '\n' inside) (by decide)

/-- What holds of no control holds of characters that are none. -/
theorem of_forall
    {chars : List Char}
    (kind : Char → Bool)
    (others : ∀ code < 32, kind (Char.ofNat code) = false)
    (all : ∀ char ∈ chars, kind char) :
    NoControls chars := by
  intro char inside
  by_contra control
  have other := others char.toNat (by omega)
  rw [Char.ofNat_toNat, all char inside] at other
  cases other

theorem of_wordChars
    {chars : List Char}
    (wordChars : ∀ char ∈ chars, isWordChar char) :
    NoControls chars :=
  of_forall isWordChar (by decide) wordChars

theorem of_numeral
    {run : List Char}
    (numeral : Numeral run) :
    NoControls run :=
  of_wordChars numeral.wordChars.2

end NoControls

/-!
## Scanning words and texts
-/

/-- Some characters do not continue a word. -/
def Apart (rest : List Char) : Prop :=
  ∀ char, rest.head? = some char → isWordChar char = false

theorem begin?_of_isWordChar
    {char : Char}
    (inWord : isWordChar char) :
    Mode.begin? char = some ([], .word [char]) := by
  have other (special : Char) (outside : isWordChar special = false) :
      char ≠ special := by
    rintro rfl
    rw [outside] at inWord
    cases inWord
  have notBlank : isBlank char = false := by
    simp [isBlank, other ' ' rfl, other '\t' rfl, other '\n' rfl, other '\r' rfl]
  simp [Mode.begin?, notBlank, inWord, other '\x7b' rfl, other '\x7d' rfl,
    other '[' rfl, other ']' rfl, other ':' rfl, other ',' rfl, other '"' rfl]

theorem scanFrom_word
    {rest : List Char}
    (apart : Apart rest)
    {word : List Char}
    (wordChars : ∀ char ∈ word, isWordChar char)
    (written : List Char) :
    scanFrom (.word written) (word ++ rest) =
      (scanFrom .between rest).map (.word (written ++ word) :: ·) := by
  induction word generalizing written with
  | nil =>
      cases rest with
      | nil => simp [scanFrom, Mode.end?]
      | cons char more =>
          have outside := apart char rfl
          simp only [List.nil_append, scanFrom, Mode.step?, outside, Bool.false_eq_true,
            if_false, List.append_nil]
          rcases Mode.begin? char with _ | ⟨tokens, mode⟩
          · rfl
          · simp [Function.comp_def]
  | cons char more ih =>
      obtain ⟨inWord, others⟩ := List.forall_mem_cons.mp wordChars
      simp only [List.cons_append, scanFrom, Mode.step?, inWord, if_true]
      rw [ih others]
      simp [Function.comp_def]

theorem scan_word
    {word rest : List Char}
    (nonempty : word ≠ [])
    (wordChars : ∀ char ∈ word, isWordChar char)
    (apart : Apart rest) :
    scan (word ++ rest) = (scan rest).map (.word word :: ·) := by
  cases word with
  | nil => exact absurd rfl nonempty
  | cons char more =>
      obtain ⟨inWord, others⟩ := List.forall_mem_cons.mp wordChars
      simp only [scan, List.cons_append, scanFrom, Mode.step?, begin?_of_isWordChar inWord]
      rw [scanFrom_word apart others]
      simp [Function.comp_def]

/-- The code point of a control is written with four hexadecimal digits. -/
theorem hexCode_of_control
    {code : Nat}
    (control : code < 32) :
    ∃ first second third fourth,
      JsonValue.hexCode code = [first, second, third, fourth] ∧
        isHex first ∧ isHex second ∧ isHex third ∧ isHex fourth := by
  interval_cases code <;> exact ⟨_, _, _, _, rfl, rfl, rfl, rfl, rfl⟩

/-- What is written for a character between quotes is scanned as a part of the text. -/
theorem scanFrom_escaped (char : Char) (written rest : List Char) :
    scanFrom (.text written) (JsonValue.escaped char ++ rest) =
      scanFrom (.text (written ++ JsonValue.escaped char)) rest := by
  unfold JsonValue.escaped
  split_ifs with quote escape back form feed ret tab control
  · simp [scanFrom, Mode.step?]
  · simp [scanFrom, Mode.step?]
  · simp [scanFrom, Mode.step?]
  · simp [scanFrom, Mode.step?]
  · simp [scanFrom, Mode.step?]
  · simp [scanFrom, Mode.step?]
  · simp [scanFrom, Mode.step?]
  · obtain ⟨first, second, third, fourth, shape, isFirst, isSecond, isThird, isFourth⟩ :=
      hexCode_of_control control
    simp [scanFrom, Mode.step?, shape, isFirst, isSecond, isThird, isFourth]
  · simp [scanFrom, Mode.step?, quote, escape, control]

theorem scanFrom_text (text written rest : List Char) :
    scanFrom (.text written) (text.flatMap JsonValue.escaped ++ rest) =
      scanFrom (.text (written ++ text.flatMap JsonValue.escaped)) rest := by
  induction text generalizing written with
  | nil => simp
  | cons char more ih =>
      rw [List.flatMap_cons, List.append_assoc, scanFrom_escaped, ih, List.append_assoc]

theorem scan_quotedChars (text : String) (rest : List Char) :
    scan (JsonValue.quotedChars text ++ rest) =
      (scan rest).map (.text (text.toList.flatMap JsonValue.escaped) :: ·) := by
  have quote : Mode.begin? '"' = some ([], .text []) := rfl
  simp only [scan, JsonValue.quotedChars, List.cons_append, List.append_assoc, scanFrom,
    Mode.step?, quote]
  rw [scanFrom_text]
  simp [scanFrom, Mode.step?, Function.comp_def]

end Json

/-!
## Values
-/

namespace JsonValue

open Json

/-- A text as it stands between its quotes. -/
def writtenText (text : String) : List Char :=
  text.toList.flatMap escaped

mutual

/-- The tokens of a value. -/
def tokens : JsonValue → List Token
  | .null => [.word "null".toList]
  | .integer value => [.word (Decimal.digitsOf value)]
  | .fraction value => [.word (Decimal.recorded value).toList]
  | .text value => [.text (writtenText value)]
  | .object fields => .opening :: (fieldTokens fields ++ [.closing])

/-- The tokens of the fields of an object. -/
def fieldTokens : List (String × JsonValue) → List Token
  | [] => []
  | [(key, value)] => .text (writtenText key) :: .colon :: tokens value
  | (key, value) :: next :: more =>
      .text (writtenText key) :: .colon ::
        (tokens value ++ .comma :: fieldTokens (next :: more))

end

mutual

/-- What the tokens of a value spell. -/
def document : JsonValue → Document
  | .null => .null
  | .integer value => .number (Decimal.digitsOf value)
  | .fraction value => .number (Decimal.recorded value).toList
  | .text value => .text (writtenText value)
  | .object fields => .object (fieldDocuments fields)

/-- What the tokens of the fields of an object spell. -/
def fieldDocuments : List (String × JsonValue) → List (List Char × Document)
  | [] => []
  | (key, value) :: more => (writtenText key, document value) :: fieldDocuments more

end

/-- A character that stands for itself between tokens is its token. -/
theorem scan_cons
    {char : Char}
    {token : Token}
    (begins : Mode.begin? char = some ([token], .between))
    (rest : List Char) :
    scan (char :: rest) = (scan rest).map (token :: ·) := by
  simp [scan, scanFrom, Mode.step?, begins]

mutual

/-- The characters of a value fall into its tokens, before whatever is apart from them. -/
theorem scan_chars
    (value : JsonValue)
    (rest : List Char)
    (apart : Apart rest) :
    scan (value.chars ++ rest) = (scan rest).map (value.tokens ++ ·) := by
  match value with
  | .null =>
      have wordChars : ∀ char ∈ "null".toList, isWordChar char :=
        List.all_eq_true.mp rfl
      exact scan_word (by decide) wordChars apart
  | .integer number =>
      obtain ⟨nonempty, wordChars⟩ := (numeral_digitsOf number).wordChars
      exact scan_word nonempty wordChars apart
  | .fraction number =>
      obtain ⟨nonempty, wordChars⟩ := (numeral_recorded number).wordChars
      exact scan_word nonempty wordChars apart
  | .text words => exact scan_quotedChars words rest
  | .object fields =>
      simp only [chars, tokens, List.cons_append, List.append_assoc]
      rw [scan_cons rfl, scan_fieldChars fields _ (by rintro char ⟨⟩; rfl), List.nil_append,
        scan_cons rfl]
      simp [Function.comp_def]

theorem scan_fieldChars
    (fields : List (String × JsonValue))
    (rest : List Char)
    (apart : Apart rest) :
    scan (fieldChars fields ++ rest) = (scan rest).map (fieldTokens fields ++ ·) := by
  match fields with
  | [] => simp [fieldChars, fieldTokens]
  | [(key, value)] =>
      simp only [fieldChars, fieldTokens, List.append_assoc, List.cons_append]
      rw [scan_quotedChars, scan_cons rfl, scan_chars value rest apart]
      simp [Function.comp_def, writtenText]
  | (key, value) :: next :: more =>
      simp only [fieldChars, fieldTokens, List.append_assoc, List.cons_append]
      rw [scan_quotedChars, scan_cons rfl,
        scan_chars value _ (by rintro char ⟨⟩; rfl), scan_cons rfl,
        scan_fieldChars (next :: more) rest apart]
      simp [Function.comp_def, writtenText]

end

mutual

/-- The tokens of a value spell it. -/
theorem reads_tokens (value : JsonValue) (rest : List Token) :
    Reads (value.tokens ++ rest) value.document rest := by
  match value with
  | .null => exact .null rest
  | .integer number => exact .number (numeral_digitsOf number) rest
  | .fraction number => exact .number (numeral_recorded number) rest
  | .text words => exact .text _ rest
  | .object [] => exact .emptyObject rest
  | .object (field :: more) =>
      simp only [tokens, document, List.cons_append, List.append_assoc]
      exact .object (reads_fieldTokens (field :: more) (by simp) rest)

theorem reads_fieldTokens
    (fields : List (String × JsonValue))
    (nonempty : fields ≠ [])
    (rest : List Token) :
    ReadsFields (fieldTokens fields ++ .closing :: rest) (fieldDocuments fields) rest := by
  match fields with
  | [(key, value)] => exact .last (reads_tokens value (.closing :: rest))
  | (key, value) :: next :: more =>
      simp only [fieldTokens, List.cons_append, List.append_assoc]
      exact .more (reads_tokens value _) (reads_fieldTokens (next :: more) (by simp) rest)

end

/-- The characters of a value fall into its tokens and nothing else. -/
theorem scan_value (value : JsonValue) : scan value.chars = some value.tokens := by
  have scanned := scan_chars value [] (by rintro char ⟨⟩)
  rw [List.append_nil] at scanned
  rw [scanned]
  simp [scan, scanFrom, Mode.end?]

/-- An object is written as one JSON object. -/
theorem isObject_chars (fields : List (String × JsonValue)) :
    IsObject (chars (.object fields)) := by
  have reads := reads_tokens (.object fields) []
  rw [List.append_nil] at reads
  exact ⟨_, _, scan_value _, reads⟩

/-!
## Controls
-/

theorem noControls_escaped (char : Char) : NoControls (escaped char) := by
  have pair {mark : Char} (plain : 32 ≤ mark.toNat) : NoControls ['\\', mark] :=
    .cons (by decide) (.cons plain .nil)
  unfold escaped
  split_ifs with quote escape back form feed ret tab control
  · exact pair (by decide)
  · exact pair (by decide)
  · exact pair (by decide)
  · exact pair (by decide)
  · exact pair (by decide)
  · exact pair (by decide)
  · exact pair (by decide)
  · obtain ⟨first, second, third, fourth, shape, isFirst, isSecond, isThird, isFourth⟩ :=
      hexCode_of_control control
    have digits : NoControls (hexCode char.toNat) := by
      refine .of_forall isHex (by decide) ?_
      simp [shape, isFirst, isSecond, isThird, isFourth]
    exact .cons (by decide) (.cons (by decide) digits)
  · exact List.forall_mem_singleton.mpr (Nat.le_of_not_lt control)

theorem noControls_quotedChars (words : String) : NoControls (quotedChars words) := by
  have inside : NoControls (words.toList.flatMap escaped) := by
    intro char among
    obtain ⟨source, -, written⟩ := List.mem_flatMap.mp among
    exact noControls_escaped source char written
  exact .cons (by decide) (inside.append (.cons (by decide) .nil))

mutual

/-- A value is written without controls, and so on one line, whatever its texts are. -/
theorem noControls_chars (value : JsonValue) : NoControls value.chars := by
  match value with
  | .null => exact .of_wordChars (List.all_eq_true.mp rfl)
  | .integer number => exact .of_numeral (numeral_digitsOf number)
  | .fraction number => exact .of_numeral (numeral_recorded number)
  | .text words => exact noControls_quotedChars words
  | .object fields =>
      exact .cons (by decide)
        ((noControls_fieldChars fields).append (.cons (by decide) .nil))

theorem noControls_fieldChars (fields : List (String × JsonValue)) :
    NoControls (fieldChars fields) := by
  match fields with
  | [] => exact .nil
  | [(key, value)] =>
      exact (noControls_quotedChars key).append
        (.cons (by decide) (noControls_chars value))
  | (key, value) :: next :: more =>
      exact (noControls_quotedChars key).append
        (.cons (by decide)
          ((noControls_chars value).append
            (.cons (by decide) (noControls_fieldChars (next :: more)))))

end

end JsonValue

end FileTransfer
