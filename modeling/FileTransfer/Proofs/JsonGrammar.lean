import FileTransfer.Bytes
import Mathlib

namespace FileTransfer.Json

/-!
# The grammar of JSON

A text is JSON if it falls into tokens and these tokens spell one value.  `scan` cuts a
text into tokens; what stands between quotes and every run of the characters of
numbers and literals is kept as it is written.  `Reads` says what some tokens spell,
and which tokens follow.  Blanks may stand between tokens and nowhere else.
-/

/-- A part of a JSON text. -/
inductive Token where
  | opening
  | closing
  | listOpening
  | listClosing
  | colon
  | comma
  /-- What stands between two quotes. -/
  | text (written : List Char)
  /-- A number or a literal. -/
  | word (written : List Char)
  deriving DecidableEq

/-!
## Tokens
-/

def isBlank (char : Char) : Bool :=
  [' ', '\t', '\n', '\r'].contains char

/-- Whether a character can stand in a number or a literal. -/
def isWordChar (char : Char) : Bool :=
  char.isAlphanum || ['+', '-', '.'].contains char

def isHex (char : Char) : Bool :=
  char.isDigit || "abcdefABCDEF".toList.contains char

/-- Where a scan stands. -/
inductive Mode where
  | between
  /-- Between quotes, after some characters. -/
  | text (written : List Char)
  /-- After a backslash between quotes. -/
  | escape (written : List Char)
  /-- In a code point between quotes, of which so many digits are missing. -/
  | code (written : List Char) (missing : Nat)
  | word (written : List Char)
  deriving DecidableEq

namespace Mode

/-- What a character between tokens begins, after the tokens that it completes. -/
def begin? (char : Char) : Option (List Token × Mode) :=
  if isBlank char then some ([], between)
  else if char = '\x7b' then some ([.opening], between)
  else if char = '\x7d' then some ([.closing], between)
  else if char = '[' then some ([.listOpening], between)
  else if char = ']' then some ([.listClosing], between)
  else if char = ':' then some ([.colon], between)
  else if char = ',' then some ([.comma], between)
  else if char = '"' then some ([], text [])
  else if isWordChar char then some ([], word [char])
  else none

/-- The tokens that a character completes, and where a scan stands after it. -/
def step? (char : Char) : Mode → Option (List Token × Mode)
  | between => begin? char
  | text written =>
      if char = '"' then some ([.text written], between)
      else if char = '\\' then some ([], escape (written ++ [char]))
      else if char.toNat < 32 then none
      else some ([], text (written ++ [char]))
  | escape written =>
      if char = 'u' then some ([], code (written ++ [char]) 4)
      else if "\"\\/bfnrt".toList.contains char then some ([], text (written ++ [char]))
      else none
  | code written missing =>
      if isHex char then
        some
          ([],
            if missing ≤ 1 then text (written ++ [char])
            else code (written ++ [char]) (missing - 1))
      else none
  | word written =>
      if isWordChar char then some ([], word (written ++ [char]))
      else (begin? char).map fun (tokens, mode) => (.word written :: tokens, mode)

/-- The tokens that the end of a text completes. -/
def end? : Mode → Option (List Token)
  | between => some []
  | word written => some [.word written]
  | _ => none

end Mode

/-- The tokens of the rest of a text, if it falls into tokens. -/
def scanFrom (mode : Mode) : List Char → Option (List Token)
  | [] => mode.end?
  | char :: rest =>
      match mode.step? char with
      | none => none
      | some (tokens, next) => (scanFrom next rest).map (tokens ++ ·)

/-- The tokens of a text, if it falls into tokens. -/
def scan (text : List Char) : Option (List Token) :=
  scanFrom .between text

/-!
## Values
-/

/-- What a JSON text spells.  Numbers and texts are kept as they are written. -/
inductive Document where
  | null
  | boolean (value : Bool)
  | number (written : List Char)
  | text (written : List Char)
  | list (items : List Document)
  | object (fields : List (List Char × Document))

/-- A run of at least one decimal digit. -/
def Digits (run : List Char) : Prop :=
  run ≠ [] ∧ ∀ char ∈ run, char.isDigit

/-- The whole part of a number: decimal digits without a needless zero in front. -/
def WholePart (run : List Char) : Prop :=
  run = ['0'] ∨ Digits run ∧ run.head? ≠ some '0'

/-- What may follow the whole part of a number: a point and digits. -/
def Fraction (run : List Char) : Prop :=
  run = [] ∨ ∃ digits, run = '.' :: digits ∧ Digits digits

/-- What may end a number: a power of ten. -/
def Exponent (run : List Char) : Prop :=
  run = [] ∨
    ∃ mark sign digits, run = mark :: (sign ++ digits) ∧ (mark = 'e' ∨ mark = 'E') ∧
      (sign = [] ∨ sign = ['+'] ∨ sign = ['-']) ∧ Digits digits

/-- A run that is written as JSON writes numbers. -/
def Numeral (run : List Char) : Prop :=
  ∃ sign whole fraction exponent, run = sign ++ (whole ++ (fraction ++ exponent)) ∧
    (sign = [] ∨ sign = ['-']) ∧ WholePart whole ∧ Fraction fraction ∧
    Exponent exponent

mutual

/-- Some tokens begin with what spells a value, and these tokens follow. -/
inductive Reads : List Token → Document → List Token → Prop where
  | null (rest : List Token) :
      Reads (.word "null".toList :: rest) .null rest
  | yes (rest : List Token) :
      Reads (.word "true".toList :: rest) (.boolean true) rest
  | no (rest : List Token) :
      Reads (.word "false".toList :: rest) (.boolean false) rest
  | number {written : List Char} (numeral : Numeral written) (rest : List Token) :
      Reads (.word written :: rest) (.number written) rest
  | text (written : List Char) (rest : List Token) :
      Reads (.text written :: rest) (.text written) rest
  | emptyList (rest : List Token) :
      Reads (.listOpening :: .listClosing :: rest) (.list []) rest
  | list
      {tokens rest : List Token}
      {items : List Document}
      (reads : ReadsItems tokens items rest) :
      Reads (.listOpening :: tokens) (.list items) rest
  | emptyObject (rest : List Token) :
      Reads (.opening :: .closing :: rest) (.object []) rest
  | object
      {tokens rest : List Token}
      {fields : List (List Char × Document)}
      (reads : ReadsFields tokens fields rest) :
      Reads (.opening :: tokens) (.object fields) rest

/-- Some tokens begin with items and the end of their list. -/
inductive ReadsItems : List Token → List Document → List Token → Prop where
  | last
      {tokens rest : List Token}
      {item : Document}
      (reads : Reads tokens item (.listClosing :: rest)) :
      ReadsItems tokens [item] rest
  | more
      {tokens between rest : List Token}
      {item : Document}
      {items : List Document}
      (reads : Reads tokens item (.comma :: between))
      (further : ReadsItems between items rest) :
      ReadsItems tokens (item :: items) rest

/-- Some tokens begin with fields and the end of their object. -/
inductive ReadsFields :
    List Token → List (List Char × Document) → List Token → Prop where
  | last
      {key : List Char}
      {tokens rest : List Token}
      {value : Document}
      (reads : Reads tokens value (.closing :: rest)) :
      ReadsFields (.text key :: .colon :: tokens) [(key, value)] rest
  | more
      {key : List Char}
      {tokens between rest : List Token}
      {value : Document}
      {fields : List (List Char × Document)}
      (reads : Reads tokens value (.comma :: between))
      (further : ReadsFields between fields rest) :
      ReadsFields (.text key :: .colon :: tokens) ((key, value) :: fields) rest

end

/-- A text that spells one object and nothing else. -/
def IsObject (text : List Char) : Prop :=
  ∃ tokens fields, scan text = some tokens ∧ Reads tokens (.object fields) []

/-- In an object, a key is followed by a colon. -/
theorem not_reads_of_missing_colon
    {front tail : List Token}
    {key first : List Char}
    {value : Document}
    (shape :
      front = .opening :: .text key :: .colon :: .text first :: .comma :: tail)
    (missing : ∀ other rest, tail ≠ .text other :: .colon :: rest)
    (rest : List Token) :
    ¬Reads front value rest := by
  intro reads
  subst shape
  cases reads with
  | object fields =>
      cases fields with
      | last only => cases only
      | more reads further =>
          cases reads
          cases further with
          | last => exact missing _ _ rfl
          | more => exact missing _ _ rfl

end FileTransfer.Json
