import FileTransfer.Decimal.Digits

namespace FileTransfer.Toml

/-!
# What a configuration text holds

A configuration text is a table of named values.  A table remembers how it came
to be, because that decides what may still be added to it.
-/

/-- A number with a fraction. -/
inductive Fraction where
  | finite (negative : Bool) (size : Binary64)
  | infinite (negative : Bool)
  | notANumber
  deriving Repr, DecidableEq

/--
The text of a number with a fraction: the fewest digits, never with an
exponent.  A tie goes away from zero.
-/
def Fraction.text : Fraction → String
  | .finite negative size =>
      (if negative then "-" else "") ++
        Decimal.positional (Decimal.shortest .upward size)
  | .infinite negative => if negative then "-inf" else "inf"
  | .notANumber => "NaN"

/-- How a table came to be. -/
inductive TableStyle where
  /-- By a header of its own, or as the whole text. -/
  | explicit
  /-- On the way to a table with a header. -/
  | implied
  /-- On the way to a value with a dotted key. -/
  | dotted
  /-- As a value in braces, which is complete. -/
  | closed
  deriving Repr, DecidableEq

/-- A value of a configuration text. -/
inductive Node where
  | text (value : String)
  | integer (value : Int)
  | fraction (value : Fraction)
  | boolean (value : Bool)
  /-- A date, a time of day, or both; only its being well-formed counts. -/
  | moment
  | array (items : List Node)
  | table (style : TableStyle) (fields : List (String × Node))
  /-- Tables that share a header in double brackets: the last one and those before it. -/
  | tables (last : List (String × Node)) (earlier : List (List (String × Node)))

abbrev Fields := List (String × Node)

namespace Fields

/-- The value with a key, if there is one. -/
def get? (key : String) (fields : Fields) : Option Node :=
  (fields.find? (·.1 = key)).map (·.2)

/-- The fields with the value of an existing key replaced. -/
def replace (key : String) (value : Node) (fields : Fields) : Fields :=
  fields.map fun field => if field.1 = key then (key, value) else field

/-- The fields with a new one at the end. -/
def add (key : String) (value : Node) (fields : Fields) : Fields :=
  fields ++ [(key, value)]

/-- The fields without one. -/
def remove (key : String) (fields : Fields) : Fields :=
  fields.filter (·.1 ≠ key)

/--
Change the table at the end of a path of keys, and bring something back from
there.  Missing tables on the way are made in the given style.  Braces complete
a table, and dotted keys do not reach into a table with a header.
-/
def descend
    {α : Type}
    (made : TableStyle)
    (change : TableStyle → Fields → Option (α × Fields)) :
    List String → TableStyle → Fields → Option (α × Fields)
  | [], style, fields => change style fields
  | key :: more, _, fields =>
      match fields.get? key with
      | none => do
          let (result, inner) ← descend made change more made []
          return (result, fields.add key (.table made inner))
      | some (.table style inner) =>
          if style = .closed ∨ (made = .dotted ∧ style = .explicit) then none
          else do
            let (result, changed) ← descend made change more style inner
            return (result, fields.replace key (.table style changed))
      | some (.tables last earlier) => do
          let (result, changed) ← descend made change more .explicit last
          return (result, fields.replace key (.tables changed earlier))
      | some _ => none

def splitPath? (path : List String) : Option (List String × String) :=
  path.getLast?.map fun key => (path.dropLast, key)

/-- Set a value under a path of keys, none of which may be set already. -/
def set?
    (style : TableStyle)
    (path : List String)
    (value : Node)
    (fields : Fields) :
    Option Fields := do
  let (front, key) ← splitPath? path
  let place (style : TableStyle) (inner : Fields) : Option (Unit × Fields) :=
    if (style = .dotted) = (front = []) then none
    else if (inner.get? key).isSome then none
    else some ((), inner.add key value)
  let (_, changed) ← descend .dotted place front style fields
  return changed

end Fields

/-- A part of a configuration text under one header. -/
structure Section where
  path : List String
  /-- Whether the header stands in double brackets. -/
  repeated : Bool
  /-- The values below the header, the last one first, each under a path of keys. -/
  values : List (List String × Node)

namespace Section

/-- Set values in a table, the last one of a list first. -/
def fill?
    (values : List (List String × Node))
    (fields : Fields) :
    Option Fields :=
  values.reverse.foldlM
    (fun fields (path, value) => fields.set? .explicit path value)
    fields

/-- Take a table away that only exists because of tables below it. -/
def takeImplied
    (key : String)
    (_ : TableStyle)
    (fields : Fields) :
    Option (Fields × Fields) :=
  match fields.get? key with
  | none => some ([], fields)
  | some (.table .implied inner) => some (inner, fields.remove key)
  | some _ => none

/-- Put one more table under a header in double brackets. -/
def pushTable
    (key : String)
    (table : Fields)
    (_ : TableStyle)
    (fields : Fields) :
    Option (Unit × Fields) :=
  match fields.get? key with
  | none => some ((), fields.add key (.tables table []))
  | some (.tables last earlier) =>
      some ((), fields.replace key (.tables table (last :: earlier)))
  | some _ => none

def putTable
    (key : String)
    (table : Fields)
    (_ : TableStyle)
    (fields : Fields) :
    Option (Unit × Fields) :=
  match fields.get? key with
  | none => some ((), fields.add key (.table .explicit table))
  | some _ => none

/-- Add a part of a text to the table of the whole. -/
def addTo? (part : Section) (root : Fields) : Option Fields := do
  let (front, key) ← Fields.splitPath? part.path
  if part.repeated then
    let table ← fill? part.values []
    let (_, changed) ←
      Fields.descend .implied (pushTable key table) front .explicit root
    return changed
  else
    let (known, rest) ←
      Fields.descend .implied (takeImplied key) front .explicit root
    let table ← fill? part.values known
    let (_, changed) ←
      Fields.descend .implied (putTable key table) front .explicit rest
    return changed

end Section

end FileTransfer.Toml
