import FileTransfer.FileTree.Open
import FileTransfer.Limits
import FileTransfer.Tally

namespace FileTransfer

/-!
# What a transfer can be asked for
-/

/-- How the content of a transfer is moved. -/
structure TransferOptions where
  /-- The octets that are moved at a time; none counts as one. -/
  chunkSize : Nat
  digesting : Bool
  deriving Repr, DecidableEq

namespace TransferOptions

/-- The options of a transfer that asks for nothing. -/
def standard : TransferOptions :=
  ⟨Limits.defaultChunkSize, false⟩

def room (options : TransferOptions) : Nat :=
  Limits.room options.chunkSize

end TransferOptions

end FileTransfer
