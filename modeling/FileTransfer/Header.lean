import FileTransfer.Fault
import FileTransfer.Limits
import FileTransfer.Bytes

namespace FileTransfer

/-!
# The header of a transfer

A connection carries the length of the name in two octets, the name, and then
the content up to the end of the stream.  The length is checked before the name
is read, so reading a header takes two steps.
-/

namespace Header

/-- The header that announces a name. -/
def encode (name : String) : Except Fault Bytes :=
  let octets := Bytes.ofText name
  if octets = [] then .error (.invalidPath name)
  else if octets.length > Limits.maxNameLength then
    .error (.nameTooLong octets.length)
  else .ok (Bytes.ofNat16 octets.length ++ octets)

/-- The length of the name that a length field announces. -/
def nameLength (field : Bytes) : Except Fault Nat :=
  let length := field.toNat
  if 1 ≤ length ∧ length ≤ Limits.maxNameLength then .ok length
  else .error (.malformedFrame length)

end Header

end FileTransfer
