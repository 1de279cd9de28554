import FileTransfer.Tally

namespace FileTransfer

/-!
# The account of a whole content

A tally is kept piece by piece, but the account that it yields depends on the
content alone: `finish_of_extended` says that it is `Receipt.ofContent`, however
the content was cut into pieces.
-/

/-- The account of a transfer that moved some content. -/
def Receipt.ofContent
    (role : Role)
    (digesting : Bool)
    (name : String)
    (path : Path)
    (elapsed : Elapsed)
    (content : Bytes) :
    Receipt where
  role := role
  name := name
  path := path
  bytes := content.length
  elapsed := elapsed
  digest := if digesting then some (Blake3.hexDigest content) else none

/-- The same account of a transfer, without the time that it took. -/
def Receipt.untimed (receipt : Receipt) : Receipt :=
  { receipt with elapsed := ⟨0, 0⟩ }

/-- An account that is one of some content, up to its time, is one with its own time. -/
theorem Receipt.eq_ofContent
    {receipt : Receipt}
    {role : Role}
    {digesting : Bool}
    {name : String}
    {path : Path}
    {content : Bytes}
    (same :
      receipt.untimed = .ofContent role digesting name path ⟨0, 0⟩ content) :
    receipt = .ofContent role digesting name path receipt.elapsed content := by
  cases receipt
  simpa [untimed, ofContent] using same

namespace Tally

/-- A tally to which some further content was added, in pieces of any size. -/
structure Extended (tally : Tally) (content : Bytes) (later : Tally) : Prop where
  digesting : later.digesting = tally.digesting
  bytes : later.bytes = tally.bytes + content.length
  content : later.content = tally.content ++ content

namespace Extended

theorem refl (tally : Tally) : Extended tally [] tally :=
  ⟨rfl, rfl, by simp⟩

theorem record (piece : Bytes) (tally : Tally) :
    Extended tally piece (tally.record piece) :=
  ⟨rfl, rfl, content_record piece tally⟩

theorem trans
    {first second third : Tally}
    {front back : Bytes}
    (earlier : Extended first front second)
    (later : Extended second back third) :
    Extended first (front ++ back) third where
  digesting := later.digesting.trans earlier.digesting
  bytes := by
    rw [later.bytes, earlier.bytes, List.length_append]
    omega
  content := by rw [later.content, earlier.content, List.append_assoc]

/-- The content that led from one tally to another is determined by them. -/
theorem unique
    {tally later : Tally}
    {content others : Bytes}
    (extended : Extended tally content later)
    (extendedToo : Extended tally others later) :
    content = others :=
  List.append_cancel_left (extended.content.symm.trans extendedToo.content)

end Extended

/-- The account at the end tells only what was moved altogether. -/
theorem finish_of_extended
    {digesting : Bool}
    {content : Bytes}
    {later : Tally}
    (extended : Extended (start digesting) content later)
    (role : Role)
    (name : String)
    (path : Path)
    (elapsed : Elapsed) :
    later.finish role name path elapsed =
      Receipt.ofContent role digesting name path elapsed content := by
  have counted : later.bytes = content.length := by
    simpa [start] using extended.bytes
  have gathered : later.content = content := by
    simpa [content_start] using extended.content
  simp [finish, Receipt.ofContent, counted, gathered, extended.digesting, start]

end Tally

end FileTransfer
