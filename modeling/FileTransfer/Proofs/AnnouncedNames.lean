import FileTransfer.Proofs.LastNames
import FileTransfer.Proofs.Sources

namespace FileTransfer

/-!
# Names that a receiver takes

A sender announces the last name of its source path as it stands, and a receiver
takes plain names only.  A last name is never empty and never holds a slash or
NUL, and where every entry stands in a directory a file that can be read is not
called `.` or `..`.  Of the rules of a receiver this leaves one, against the
octets of the backslash and the colon: a file that was sent is received exactly
if its name is portable (`receive_of_sent`).
-/

namespace FileTree

/-- Whether every entry of a tree stands in a directory. -/
def Grounded (tree : FileTree) : Prop :=
  ∀ location name,
    (tree.lookup? (location ++ [name])).isSome →
      tree.lookup? location = some .directory

theorem grounded_bare (current : Location) : (bare current).Grounded := by
  intro location name stands
  cases location <;> simp [bare, lookup?, Listing.find?] at stands

/-- Putting an entry in a directory keeps a tree grounded, unless it replaces a directory. -/
theorem Grounded.put
    {tree : FileTree}
    {place : Location}
    {name : Bytes}
    (grounded : tree.Grounded)
    (isOpen : tree.lookup? place = some .directory)
    (free : tree.lookup? (place ++ [name]) ≠ some .directory)
    (entry : Entry) :
    (tree.put (place ++ [name]) entry).Grounded := by
  have kept
      {location : Location}
      (stands : tree.lookup? location = some .directory) :
      (tree.put (place ++ [name]) entry).lookup? location = some .directory := by
    rw [lookup?_put_of_ne _ tree, stands]
    rintro rfl
    exact free stands
  intro location inner stands
  by_cases same : location ++ [inner] = place ++ [name]
  · obtain ⟨rfl, -⟩ := List.append_inj' same rfl
    exact kept isOpen
  · rw [lookup?_put_of_ne _ tree same] at stands
    exact kept (grounded location inner stands)

/-- The way up from a directory leads to a directory. -/
theorem Grounded.dropLast
    {tree : FileTree}
    {location : Location}
    (grounded : tree.Grounded)
    (stands : tree.lookup? location = some .directory) :
    tree.lookup? location.dropLast = some .directory := by
  cases location using List.reverseRecOn with
  | nil => exact stands
  | append_singleton place name =>
      rw [List.dropLast_concat]
      exact grounded place name (by rw [stands]; rfl)

/-- A last move that enters no name leads to a directory. -/
theorem Leads.directory_of_last
    {tree : FileTree}
    {creating : Bool}
    {links : Nat}
    {location : Location}
    {last : Path.Move}
    {spot : Spot}
    (grounded : tree.Grounded)
    (leads : tree.Leads creating links location [last] spot)
    (idle : ∀ name, last ≠ .enter name) :
    tree.lookup? spot.location = some .directory := by
  cases leads with
  | here isOpen further =>
      cases further
      exact isOpen
  | insist isOpen further =>
      cases further
      exact isOpen
  | up isOpen further =>
      cases further
      exact grounded.dropLast isOpen
  | vacant => exact absurd rfl (idle _)
  | link => exact absurd rfl (idle _)
  | enter => exact absurd rfl (idle _)

/-- A path whose last part is one of the two special names stands for a directory. -/
theorem directory_of_lastPart
    {tree : FileTree}
    {path : Path}
    {location : Location}
    {entry : Entry}
    (grounded : tree.Grounded)
    (stands : tree.find path = .ok (location, entry))
    (special :
      Path.lastPart path = Path.selfName ∨ Path.lastPart path = Path.parentName) :
    entry = .directory := by
  obtain ⟨spot, resolved, rfl, holds⟩ := find_eq_ok_iff.mp stands
  obtain ⟨-, leads⟩ := resolve_eq_ok_iff.mp resolved
  have nonempty : Path.lastPart path ≠ [] := by
    rcases special with same | same <;> rw [same] <;> decide
  have idle : ∀ name, Path.moveOf (Path.lastPart path) ≠ .enter name := by
    intro name
    rcases special with same | same <;>
      simp [same, Path.moveOf, Path.selfName, Path.parentName]
  obtain ⟨fewer, middle, last⟩ := leads.last_move _ (Path.moves_lastPart nonempty)
  have isOpen := last.directory_of_last grounded idle
  rw [holds] at isOpen
  exact Option.some.inj isOpen

/-- What has a content exists, and is no directory. -/
theorem find_of_contentOf
    {tree : FileTree}
    {path : Path}
    {content : Bytes}
    (reads : tree.contentOf path = .ok content) :
    ∃ location entry, tree.find path = .ok (location, entry) ∧ entry ≠ .directory := by
  cases found : tree.find path with
  | error error => simp [contentOf, found] at reads
  | ok stands =>
      refine ⟨stands.1, stands.2, rfl, fun isDirectory => ?_⟩
      have here : tree.find path = .ok (stands.1, .directory) := by
        rw [found, ← isDirectory]
      simp [contentOf, here] at reads

/-- What is found by a path is found by one without NUL. -/
theorem no_nul_of_find
    {tree : FileTree}
    {path : Path}
    {found : Location × Entry}
    (stands : tree.find path = .ok found) :
    0 ∉ path := by
  obtain ⟨spot, resolved, -⟩ := find_eq_ok_iff.mp stands
  obtain ⟨checked, -⟩ := resolve_eq_ok_iff.mp resolved
  intro inside
  simp [checkPath, inside] at checked

end FileTree

namespace Filename

/-- A name without a backslash and without a colon. -/
def Portable (name : Bytes) : Prop :=
  0x5C ∉ name ∧ 0x3A ∉ name

theorem Announces.unique
    {path : Path}
    {name other : String}
    (first : Announces path name)
    (second : Announces path other) :
    name = other :=
  Bytes.ofText_injective (first.octets.trans second.octets.symm)

/-- The name of a file that can be read is plain exactly if it is portable. -/
theorem isPlain_iff_portable
    {tree : FileTree}
    {path : Path}
    {name : String}
    {content : Bytes}
    (grounded : tree.Grounded)
    (announces : Announces path name)
    (reads : tree.contentOf path = .ok content) :
    isPlain (Bytes.ofText name) ↔ Portable (Bytes.ofText name) := by
  obtain ⟨location, entry, stands, notDirectory⟩ := FileTree.find_of_contentOf reads
  have nonempty := announces.nonempty
  rw [announces.octets] at nonempty ⊢
  have single := Path.slash_notMem_lastPart path
  have noNul : 0 ∉ Path.lastPart path := fun inside =>
    FileTree.no_nul_of_find stands
      ((List.rtakeWhile_suffix _ path).mem inside)
  have plainest :
      Path.lastPart path ≠ Path.selfName ∧ Path.lastPart path ≠ Path.parentName := by
    constructor <;> intro special
    · exact notDirectory (FileTree.directory_of_lastPart grounded stands (.inl special))
    · exact notDirectory (FileTree.directory_of_lastPart grounded stands (.inr special))
  rw [isPlain_iff]
  constructor
  · rintro ⟨-, allowed, -⟩
    exact ⟨fun inside => allowed _ inside (by decide),
      fun inside => allowed _ inside (by decide)⟩
  · rintro ⟨noBackslash, noColon⟩
    refine ⟨nonempty, fun octet inside breaks => ?_, plainest⟩
    simp only [forbidden, List.mem_cons, List.not_mem_nil, or_false] at breaks
    rcases breaks with rfl | rfl | rfl | rfl
    · exact single inside
    · exact noBackslash inside
    · exact noColon inside
    · exact noNul inside

end Filename

/-- What follows the header of a name is carried under that name. -/
theorem Wire.carries_announcement
    {wire : Wire}
    {path : Path}
    {name : String}
    {content : Bytes}
    (announces : Filename.Announces path name)
    (bytes : wire.bytes = Header.announcement name ++ content) :
    wire.Carries (Bytes.ofText name) content :=
  ⟨bytes, announces.nonempty, announces.short⟩

/--
A receiver that is given what a successful sender passed on stores the whole
content if the name is portable and its output opens as a regular file.  If the name
is not portable, the receiver refuses it.
-/
theorem receive_of_sent
    {source : FileTree}
    {path : Path}
    {sending : TransferOptions}
    {sender : Sender}
    {receipt : Receipt}
    (grounded : source.Grounded)
    (sent : (sender.send sending source path).1 = .ok receipt) :
    let name := Bytes.ofText receipt.name
    (Filename.validate name = .ok receipt.name ↔ Filename.Portable name) ∧
      ∀ (receiving : TransferOptions) (directory : Path) (tree : FileTree)
        (receiver : Receiver),
        (sender.send sending source path).2.accepted =
            sender.accepted ++ receiver.wire.bytes →
          receiver.wire.stop = .ended →
          receiver.InTime receiving directory tree →
          let reception := receiver.receive receiving directory tree
          (Filename.Portable name → tree.OpensFile (Path.join directory name) →
              (∃ received, reception.outcome = .ok received ∧
                received.name = receipt.name ∧ received.bytes = receipt.bytes) ∧
              reception.tree.contentOf (Path.join directory name) =
                source.contentOf path) ∧
            (¬Filename.Portable name →
              reception =
                ⟨.error ⟨.validateFilename, .invalidFilename receipt.name⟩, tree⟩) := by
  intro name
  obtain ⟨content, reads, announces, accepted, account⟩ := Sender.sent_of_send sent
  have plain : Filename.isPlain name ↔ Filename.Portable name :=
    Filename.isPlain_iff_portable grounded announces reads
  refine ⟨(Filename.validate_ofText_iff receipt.name).trans plain, ?_⟩
  intro receiving directory tree receiver joined ends inTime reception
  have wire : receiver.wire.bytes = Header.announcement receipt.name ++ content :=
    List.append_cancel_left (joined.symm.trans accepted)
  constructor
  · intro portable opensFile
    have valid : Filename.validate name = .ok receipt.name :=
      (Filename.validate_ofText_iff receipt.name).mpr (plain.mpr portable)
    obtain ⟨holds, elapsed, outcome⟩ :=
      Receiver.receive_whole valid announces.short opensFile wire ends inTime
    refine ⟨⟨_, outcome, rfl, ?_⟩, by rw [reads]; exact holds⟩
    rw [Receipt.eq_ofContent account]
    rfl
  · intro unportable
    have refused :
        Output.open? directory tree name =
          .error ⟨.validateFilename, .invalidFilename receipt.name⟩ := by
      simp [Output.open?, Filename.place, Filename.validate, name, Bytes.text?_ofText,
        mt plain.mp unportable, Except.map]
    exact Receiver.receive_of_refused (Wire.carries_announcement announces wire) refused
      inTime

/-- A file with a name of one letter is sent, and received. -/
theorem receive_of_sent_one_letter :
    let source := (FileTree.bare []).put [[0x61]] (.file [7])
    let sender := Sender.blocking (.ofSteps [] none none none)
    let receiver := Receiver.blocking (.ofBytes [0, 1, 0x61, 7] none)
    let reception := receiver.receive .standard [Path.slash] (.bare [])
    source.Grounded ∧
      (∃ receipt, (sender.send .standard source [0x61]).1 = .ok receipt) ∧
      reception.tree.contentOf [Path.slash, 0x61] = .ok [7] := by
  intro source sender receiver reception
  have free : (FileTree.bare []).lookup? ([] ++ [[0x61]]) ≠ some .directory := by
    decide
  have grounded : source.Grounded :=
    (FileTree.grounded_bare []).put rfl free (.file [7])
  have sendable : source.Sendable [0x61] "a" [7] :=
    ⟨⟨[[0x61]], by cbv⟩, ⟨"a", by cbv, by cbv⟩, by cbv, by cbv⟩
  have willing : sender.Willing := Outlet.willing_unscripted none
  obtain ⟨receipt, sent⟩ :
      ∃ receipt, (sender.send .standard source [0x61]).1 = .ok receipt :=
    Sender.send_of_willing sendable willing trivial
  obtain ⟨content, reads, named, accepted, -⟩ := Sender.sent_of_send sent
  have isA : receipt.name = "a" := named.unique sendable.announces
  have whole : source.contentOf [0x61] = .ok [7] := by cbv
  obtain rfl : content = [7] := Except.ok.inj (reads.symm.trans whole)
  have joined :
      (sender.send .standard source [0x61]).2.accepted =
        sender.accepted ++ receiver.wire.bytes := by
    rw [accepted, isA]
    cbv
  have opensFile :
      (FileTree.bare []).OpensFile (Path.join [Path.slash] (Bytes.ofText receipt.name)) := by
    rw [isA]
    exact FileTree.create_of_takes (by cbv) (by cbv)
      ⟨[], by cbv, .inl ⟨by cbv, by cbv⟩⟩
  have portable : Filename.Portable (Bytes.ofText receipt.name) := by
    rw [isA]
    exact ⟨by decide, by decide⟩
  obtain ⟨-, received⟩ := receive_of_sent grounded sent
  obtain ⟨stores, -⟩ :=
    received .standard [Path.slash] (.bare []) receiver joined (by cbv) trivial
  have holds := (stores portable opensFile).2
  rw [whole, isA] at holds
  exact ⟨grounded, ⟨receipt, sent⟩, holds⟩

/-- A name with a backslash is announced by a sender that succeeds, and then refused. -/
theorem backslash_is_refused :
    let source := (FileTree.bare []).put [[0x61, 0x5C, 0x62]] (.file [7])
    let tree := FileTree.bare []
    let sender := Sender.blocking (.ofSteps [] none none none)
    let receiver := Receiver.blocking (.ofBytes [0, 3, 0x61, 0x5C, 0x62, 7] none)
    let run := sender.send .standard source [0x61, 0x5C, 0x62]
    (∃ receipt, run.1 = .ok receipt) ∧
      run.2.accepted = [0, 3, 0x61, 0x5C, 0x62, 7] ∧
      tree.find [Path.slash] = .ok ([], .directory) ∧
      receiver.receive .standard [Path.slash] tree =
        ⟨.error ⟨.validateFilename, .invalidFilename "a\\b"⟩, tree⟩ := by
  intro source tree sender receiver run
  have announces : Filename.Announces [0x61, 0x5C, 0x62] "a\\b" :=
    ⟨⟨"a\\b", by cbv, by cbv⟩, by decide, by cbv⟩
  have stands :
      source.find [0x61, 0x5C, 0x62] = .ok ([[0x61, 0x5C, 0x62]], .file [7]) := by
    cbv
  have willing : sender.Willing := Outlet.willing_unscripted none
  have opens := Source.open?_of_announced announces stands sender.sourceLimit
  obtain ⟨receipt, sent⟩ : ∃ receipt, run.1 = .ok receipt :=
    (Sender.send_opened_of_willing opens willing trivial).2 (by cbv)
  obtain ⟨content, reads, named, accepted, -⟩ := Sender.sent_of_send sent
  have whole : source.contentOf [0x61, 0x5C, 0x62] = .ok [7] := by cbv
  obtain rfl : content = [7] := Except.ok.inj (reads.symm.trans whole)
  refine ⟨⟨receipt, sent⟩, ?_, by cbv, ?_⟩
  · rw [accepted, named.unique announces]
    cbv
  · have carries : receiver.wire.Carries (Bytes.ofText "a\\b") [7] :=
      ⟨by cbv, announces.nonempty, by cbv⟩
    exact Receiver.receive_of_refused carries (by cbv) trivial

end FileTransfer
