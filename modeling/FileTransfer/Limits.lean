namespace FileTransfer.Limits

/-!
# Sizes and deadlines

The bounds on names and chunks that both peers share, and the time that an
operation may take.  A deadline is a base and a fixed surcharge for every
started mebibyte, so a longer payload never has a shorter deadline.
-/

/-- The octets of a header that hold the length of the name. -/
def lengthFieldSize : Nat := 2

/-- The longest name that a header carries, in octets. -/
def maxNameLength : Nat := 255

def mebibyte : Nat := 1048576

/-- The chunk size of a transfer that asks for none. -/
def defaultChunkSize : Nat := mebibyte

/-- The least configurable chunk size. -/
def minChunkSize : Nat := 4096

/-- The greatest configurable chunk size. -/
def maxChunkSize : Nat := 16 * mebibyte

/-- The port of a server that asks for none. -/
def defaultPort : Nat := 9000

/-- The greatest port. -/
def maxPort : Nat := 65535

/-- The greatest number of sixty-four bits. -/
def maxWord : Nat := 18446744073709551615

/-- The address of the server that a client dials when it names none. -/
def defaultHost : String := "127.0.0.1"

/-- The nearest chunk size within the supported range. -/
def clampChunkSize (size : Nat) : Nat :=
  max minChunkSize (min size maxChunkSize)

/-- A clamped chunk size lies within the supported range. -/
theorem clampChunkSize_bounds (size : Nat) :
    minChunkSize ≤ clampChunkSize size ∧ clampChunkSize size ≤ maxChunkSize := by
  simp only [clampChunkSize, minChunkSize, maxChunkSize, mebibyte]
  omega

/-- The room of a read or of a body buffer: never less than one octet. -/
def room (chunkSize : Nat) : Nat :=
  max chunkSize 1

/-- A buffer has room for at least one octet. -/
theorem room_pos (chunkSize : Nat) : 0 < room chunkSize := by
  simp only [room]
  omega

/-- The milliseconds that the header or the name of a transfer may take. -/
def headerDeadline : Nat := 5000

/-- The milliseconds that connecting may take. -/
def connectDeadline : Nat := 5000

/-- A base and a surcharge of 100 ms for every started mebibyte. -/
def deadline (base length : Nat) : Nat :=
  base + (length + (mebibyte - 1)) / mebibyte * 100

/-- The milliseconds that writing one buffer of the given length may take. -/
def writeDeadline (length : Nat) : Nat :=
  deadline 5000 length

/-- The milliseconds that one read into a buffer of the given length may take. -/
def readDeadline (length : Nat) : Nat :=
  deadline 30000 length

/-- A longer payload never has a shorter deadline. -/
theorem deadline_mono
    (base : Nat)
    {shorter longer : Nat}
    (ordered : shorter ≤ longer) :
    deadline base shorter ≤ deadline base longer := by
  have quotients :
      (shorter + (mebibyte - 1)) / mebibyte ≤
        (longer + (mebibyte - 1)) / mebibyte :=
    Nat.div_le_div_right (by omega)
  simp only [deadline]
  omega

end FileTransfer.Limits
