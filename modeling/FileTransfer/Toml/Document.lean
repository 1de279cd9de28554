import FileTransfer.Toml.Number

namespace FileTransfer.Toml

/-!
# Reading a configuration text

A text is a number of lines, each with a header, a value under its key, or
neither.  Values nest up to a fixed depth.  `parse?` yields the fields of the
whole, and nothing if the text is not well-formed or sets something twice.
-/

/-- The depth up to which values nest, and the number of keys that dots join. -/
def nestingLimit : Nat := 80

/-- A character of a key without quotes. -/
def isBareKey (char : Char) : Bool :=
  char.isAlphanum || char = '-' || char = '_'

namespace Scan

/-- One key, with or without quotes. -/
def simpleKey : Scan String := do
  match ← peek? with
  | some '"' => return String.ofList (← ofRead lineText)
  | some '\'' => return String.ofList (← ofRead lineText)
  | _ => return String.ofList (← takeSome isBareKey)

/-- Keys that dots join, with blanks around each. -/
def dottedKey : Scan (List String) := do
  let keys ←
    repeatUntil
      (fun (done : List String) => do
        blanks
        let key ← simpleKey
        blanks
        if ← accept ['.'] then pure (.inl (key :: done))
        else pure (.inr (key :: done)))
      []
  if keys.length < nestingLimit then pure keys.reverse else refuse

/-- A value under its key, given how to read a value. -/
def keyValue (value : Scan Node) : Scan (List String × Node) := do
  let path ← dottedKey
  expect ['=']
  blanks
  let node ← value
  return (path, node)

/-- The rest of an array, given how to read one of its items. -/
def arrayItems (item : Scan Node) : Scan Node := do
  let items ←
    repeatUntil
      (fun (done : List Node) => do
        gap
        if ← accept [']'] then pure (.inr done)
        else
          let node ← item
          gap
          if ← accept [','] then pure (.inl (node :: done))
          else
            expect [']']
            pure (.inr (node :: done)))
      []
  return .array items.reverse

/-- The rest of a table in braces, given how to read a value in it. -/
def braceFields (item : Scan Node) : Scan Node := do
  blanks
  if ← accept ['\x7d'] then return .table .closed []
  let values ←
    repeatUntil
      (fun (done : List (List String × Node)) => do
        let field ← keyValue item
        blanks
        if ← accept [','] then
          blanks
          pure (.inl (field :: done))
        else
          expect ['\x7d']
          pure (.inr (field :: done)))
      []
  match
    values.reverse.foldlM
      (fun (fields : Fields) (path, value) => fields.set? .closed path value)
      []
  with
  | some fields => return .table .closed fields
  | none => refuse

/-- A value that is neither an array nor a table. -/
def scalar (chars : List Char) : Option (Node × List Char) :=
  match chars with
  | '"' :: _ => (anyText chars).map fun (text, rest) => (.text (String.ofList text), rest)
  | '\'' :: _ => (anyText chars).map fun (text, rest) => (.text (String.ofList text), rest)
  | 't' :: 'r' :: 'u' :: 'e' :: rest => some (.boolean true, rest)
  | 'f' :: 'a' :: 'l' :: 's' :: 'e' :: rest => some (.boolean false, rest)
  | _ => if startsMoment chars then moment chars else number chars

def value : Nat → Scan Node
  | 0 => refuse
  | depth + 1 => do
      match ← peek? with
      | some '[' =>
          if depth = 0 then refuse
          else
            expect ['[']
            arrayItems (value depth)
      | some '\x7b' =>
          if depth = 0 then refuse
          else
            expect ['\x7b']
            braceFields (value depth)
      | _ => ofRead scalar

def header : Scan Section := do
  expect ['[']
  let repeated ← accept ['[']
  let path ← dottedKey
  expect (if repeated then [']', ']'] else [']'])
  lineEnd
  return ⟨path, repeated, []⟩

/-- One line: a header, a value under its key, or nothing that counts. -/
def line : Scan (Option (Section ⊕ (List String × Node))) := do
  blanks
  match ← peek? with
  | none => return none
  | some '[' => return some (.inl (← header))
  | some '#' =>
      lineEnd
      return none
  | some '\n' =>
      lineEnd
      return none
  | some '\r' =>
      lineEnd
      return none
  | some _ =>
      let field ← keyValue (value nestingLimit)
      lineEnd
      return some (.inr field)

def Section.withValue (field : List String × Node) (part : Section) : Section :=
  { part with values := field :: part.values }

/--
All parts of a text; the values before the first header, the last one first,
stand alone.
-/
def sections : Scan (List (List String × Node) × List Section) := do
  let (values, parts) ←
    repeatUntil
      (fun (state : List (List String × Node) × List Section) => do
        match ← peek? with
        | none => return .inr state
        | some _ =>
            match ← line, state with
            | none, _ => return .inl state
            | some (.inl part), (values, parts) =>
                return .inl (values, part :: parts)
            | some (.inr field), (values, []) =>
                return .inl (field :: values, [])
            | some (.inr field), (values, part :: parts) =>
                return .inl (values, Section.withValue field part :: parts))
      ([], [])
  return (values, parts.reverse)

end Scan

/-- A text without the mark that may stand before its first character. -/
def withoutMark : List Char → List Char
  | '\uFEFF' :: rest => rest
  | chars => chars

/-- The fields of a configuration text. -/
def parse? (text : String) : Option Fields := do
  let ((values, parts), _) ← Scan.sections (withoutMark text.toList)
  let root ← Section.fill? values []
  parts.foldlM (fun root part => part.addTo? root) root

end FileTransfer.Toml
