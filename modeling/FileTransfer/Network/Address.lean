import FileTransfer.HostError
import FileTransfer.Limits
import FileTransfer.Text.Natural

namespace FileTransfer

/-!
# Addresses

An address is a host and a port with a colon between them.  The last colon
counts, since a host can hold colons of its own between brackets.
-/

/-- Where a server listens. -/
structure Address where
  host : String
  port : Nat
  deriving Repr, DecidableEq

namespace Address

/-- What stands before and after the last occurrence of a character. -/
def splitLast? (separator : Char) (chars : List Char) : Option (List Char × List Char) :=
  let reversed := chars.reverse
  if separator ∈ chars then
    some (((reversed.dropWhile (· ≠ separator)).drop 1).reverse,
      (reversed.takeWhile (· ≠ separator)).reverse)
  else none

/-- A host without the brackets around it. -/
def unbracketed (host : List Char) : List Char :=
  if host.head? = some '[' ∧ host.getLast? = some ']' then
    (host.drop 1).dropLast
  else host

/-- The failure of a text without a colon. -/
def unseparated : HostError :=
  .described .invalidInput "invalid socket address"

/-- The failure of a port that is none. -/
def badPort : HostError :=
  .described .invalidInput "invalid port value"

def port? (text : String) : Option Nat :=
  (Text.natural? text).filter (· ≤ Limits.maxPort)

/-- The address that a text shows. -/
def ofText (text : String) : Except HostError Address :=
  match splitLast? ':' text.toList with
  | none => .error unseparated
  | some (host, port) =>
      match port? (String.ofList port) with
      | none => .error badPort
      | some number => .ok ⟨String.ofList (unbracketed host), number⟩

end Address

end FileTransfer
