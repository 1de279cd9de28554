import FileTransfer.Digest.Blake3
import FileTransfer.Session

namespace FileTransfer

/-!
# Counting a transfer

Both sides keep a tally of the content they have moved: how many octets, and
what they were, so that a digest can be given at the end.
-/

/-- The content that was moved so far. -/
structure Tally where
  digesting : Bool
  /-- The number of octets. -/
  bytes : Nat
  /-- The pieces in which they were moved, the latest first. -/
  pieces : List Bytes
  deriving Repr, DecidableEq

namespace Tally

/-- Nothing was moved yet. -/
def start (digesting : Bool) : Tally :=
  ⟨digesting, 0, []⟩

/-- One more piece was moved. -/
def record (piece : Bytes) (tally : Tally) : Tally :=
  { tally with
    bytes := tally.bytes + piece.length
    pieces := piece :: tally.pieces }

/-- All octets that were moved, in order. -/
def content (tally : Tally) : Bytes :=
  tally.pieces.reverse.flatten

/-- Nothing was moved in the beginning. -/
theorem content_start (digesting : Bool) : (start digesting).content = [] := rfl

/-- A piece comes after all that was moved before. -/
theorem content_record (piece : Bytes) (tally : Tally) :
    (tally.record piece).content = tally.content ++ piece := by
  simp [content, record]

/-- The account of a transfer that has moved its whole content. -/
def finish
    (role : Role)
    (name : String)
    (path : Path)
    (elapsed : Elapsed)
    (tally : Tally) :
    Receipt where
  role := role
  name := name
  path := path
  bytes := tally.bytes
  elapsed := elapsed
  digest := if tally.digesting then some (Blake3.hexDigest tally.content) else none

end Tally

end FileTransfer
