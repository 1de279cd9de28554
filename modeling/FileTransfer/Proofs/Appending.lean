import FileTransfer.Journal.Basic
import FileTransfer.Proofs.Outputs

namespace FileTransfer

/-!
# What a journal adds to its file

Recording an event adds its entry to the end of the file of the journal, and changes
nothing else.  So a journal that was called several times has added the entries of
these calls, in their order (`Journal.recordAll_writing`).
-/

namespace Journal

/-- The octets that some calls of a journal add to its file. -/
def entries (format : JournalFormat) (calls : List (String × Event)) : Bytes :=
  calls.flatMap fun (stamp, event) => Bytes.ofText (format.entry stamp event)

/-- One file has content added to its end, and everything else is as it was. -/
structure Adds (log : Location) (added : Bytes) (before after : FileTree) : Prop where
  current : after.current = before.current
  grown :
    ∀ content, before.lookup? log = some (.file content) →
      after.lookup? log = some (.file (content ++ added))
  elsewhere : ∀ other, other ≠ log → after.lookup? other = before.lookup? other

theorem Adds.trans
    {log : Location}
    {first second : Bytes}
    {before between after : FileTree}
    (adds : Adds log first before between)
    (more : Adds log second between after) :
    Adds log (first ++ second) before after where
  current := more.current.trans adds.current
  grown content stands := by
    rw [← List.append_assoc]
    exact more.grown _ (adds.grown content stands)
  elsewhere other apart := (more.elsewhere other apart).trans (adds.elsewhere other apart)

variable
  {log : Location}
  {tree : FileTree}
  {content : Bytes}

theorem record_writing
    (stands : tree.lookup? log = some (.file content))
    (format : JournalFormat)
    (stamp : String)
    (event : Event) :
    Adds log (Bytes.ofText (format.entry stamp event)) tree
      ((Journal.writing format (.file log)).record stamp event tree) := by
  have below : log ≠ [] := tree.ne_root_of_not_directory (by simp [stands])
  simp only [record, FileTree.append, stands]
  refine ⟨rfl, ?_, ?_⟩
  · intro found same
    rw [stands, Option.some.injEq, Entry.file.injEq] at same
    rw [same, FileTree.lookup?_put_self _ _ below]
  · intro other apart
    exact FileTree.lookup?_put_of_ne _ _ apart

/-- Some calls add their entries, in their order. -/
theorem recordAll_writing
    (stands : tree.lookup? log = some (.file content))
    (format : JournalFormat)
    (calls : List (String × Event)) :
    Adds log (entries format calls) tree
      ((Journal.writing format (.file log)).recordAll calls tree) := by
  induction calls generalizing tree content with
  | nil =>
      refine ⟨rfl, fun found same => ?_, fun _ _ => rfl⟩
      rw [entries, List.flatMap_nil, List.append_nil]
      exact same
  | cons call more ih =>
      obtain ⟨stamp, event⟩ := call
      have adds := record_writing stands format stamp event
      exact adds.trans (ih (adds.grown content stands))

end Journal

end FileTransfer
