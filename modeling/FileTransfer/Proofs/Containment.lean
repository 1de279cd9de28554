import FileTransfer.Proofs.Aftermath

namespace FileTransfer

/-!
# What a run of sessions can change

A peer chooses every octet of the name and of the content that it sends, and it
can stop or fail at any point.  Still, in a directory that holds nothing but
directories and regular files, one session writes at most one file directly in
that directory, under the valid name that its stream carried
(`Session.run_cases`).  `Contained` says what this comes to over a whole run: one
more session keeps it (`Contained.step`), so every run has it
(`contained_of_sessions`).
-/

namespace FileTree

/-- A directory exists, and holds nothing but directories and regular files. -/
structure Hosts (tree : FileTree) (directory : Path) (place : Location) : Prop where
  stands : tree.find directory = .ok (place, .directory)
  plain :
    ∀ name entry, tree.lookup? (place ++ [name]) = some entry →
      entry = .directory ∨ ∃ content, entry = .file content

namespace Hosts

variable
  {tree : FileTree}
  {directory : Path}
  {place : Location}
  {raw : Bytes}

/-- Without links in a directory, a plain name in it leads to its own location. -/
theorem leads
    (hosts : tree.Hosts directory place)
    (short : raw.length ≤ nameLimit) :
    ∃ last : Spot, last.location = place ++ [raw] ∧
      ∀ links, tree.Leads true links place [.enter raw] last := by
  obtain ⟨spot, -, rfl, isOpen⟩ := find_eq_ok_iff.mp hosts.stands
  cases held : tree.lookup? (spot.location ++ [raw]) with
  | none => exact ⟨.vacant spot.location raw, rfl, fun _ => .vacant isOpen short held⟩
  | some entry =>
      have notLink : ∀ target, entry ≠ .link target := by
        rintro target rfl
        rcases hosts.plain raw _ held with same | ⟨content, same⟩ <;> cases same
      exact ⟨.entry (spot.location ++ [raw]), rfl,
        fun _ => .enter isOpen (by simp) short held notLink (.stay _ _)⟩

/-- An output under a plain name is the file that has this name in the directory. -/
theorem create
    {sink : Sink}
    {opened : FileTree}
    (hosts : tree.Hosts directory place)
    (plain : Filename.isPlain raw)
    (short : raw.length ≤ nameLimit)
    (opens : tree.create (Path.join directory raw) = .ok (sink, opened)) :
    sink = .file (place ++ [raw]) ∧
      (tree.lookup? (place ++ [raw]) = none ∨
        ∃ old, tree.lookup? (place ++ [raw]) = some (.file old)) := by
  obtain ⟨last, there, enters⟩ := hosts.leads short
  obtain ⟨spot, resolved, output⟩ := create_cases opens
  obtain ⟨checked, -⟩ := resolve_eq_ok_iff.mp resolved
  have resolves : tree.resolve true (Path.join directory raw) = .ok last :=
    resolve_eq_ok_iff.mpr ⟨checked, leads_join hosts.stands plain enters⟩
  obtain rfl : last = spot := Except.ok.inj (resolves.symm.trans resolved)
  rw [there] at output
  obtain ⟨-, isFile, -, free⟩ | ⟨device, held, -⟩ := output
  · exact ⟨isFile, free⟩
  · rcases hosts.plain raw _ held with same | ⟨content, same⟩ <;> cases same

/-- Writing a file in a directory leaves it a directory of directories and files. -/
theorem put
    (hosts : tree.Hosts directory place)
    (free :
      tree.lookup? (place ++ [raw]) = none ∨
        ∃ old, tree.lookup? (place ++ [raw]) = some (.file old))
    (content : Bytes) :
    (tree.put (place ++ [raw]) (.file content)).Hosts directory place where
  stands := find_directory_put hosts.stands free _
  plain := by
    intro name entry held
    by_cases same : place ++ [name] = place ++ [raw]
    · rw [same, lookup?_put_self _ tree (by simp)] at held
      exact .inr ⟨content, (Option.some.inj held).symm⟩
    · rw [lookup?_put_of_ne _ tree same] at held
      exact hosts.plain name entry held

end Hosts

end FileTree

/-- Whether a session came so far as to receive content. -/
def Reception.ReachedBody (reception : Reception) : Prop :=
  ∀ aborted, reception.outcome = .error aborted → aborted.phase = .receiveBody

/-- A session that is to be run, with or without a clock. -/
structure Session where
  options : TransferOptions
  receiver : Receiver

namespace Session

/-- Run a session on the files that it finds. -/
def run (directory : Path) (tree : FileTree) (session : Session) : Reception :=
  session.receiver.receive session.options directory tree

/-- A session received content under a name, and wrote a front of it to the file of that name. -/
structure Writes
    (directory : Path)
    (place : Location)
    (tree : FileTree)
    (session : Session)
    (raw content : Bytes) :
    Prop where
  reached : (session.run directory tree).ReachedBody
  carries : ∃ following, session.receiver.wire.Carries raw following
  valid : ∃ name, Filename.validate raw = .ok name
  short : raw.length ≤ 255
  free :
    tree.lookup? (place ++ [raw]) = none ∨
      ∃ old, tree.lookup? (place ++ [raw]) = some (.file old)
  written : (session.run directory tree).tree = tree.put (place ++ [raw]) (.file content)

/-- A session changes nothing, or writes the file of the name that it carried. -/
theorem run_cases
    {directory : Path}
    {place : Location}
    {tree : FileTree}
    (hosts : tree.Hosts directory place)
    (session : Session) :
    (session.run directory tree).tree = tree ∨
      ∃ raw content, session.Writes directory place tree raw content := by
  obtain refused | ⟨raw, name, sink, content, opened⟩ :=
    session.receiver.receive_cases session.options directory tree
  · exact .inl refused.unchanged
  · obtain ⟨missed, carries⟩ := opened.carries
    obtain ⟨emptied, opens⟩ := opened.opens
    obtain ⟨rfl, free⟩ :=
      hosts.create (Filename.isPlain_of_validate opened.valid) carries.short opens
    exact .inr ⟨raw, content, opened.aborted, ⟨_, carries⟩, ⟨name, opened.valid⟩,
      carries.short, free, opened.stored⟩

/-- A session that never came to its content changes nothing, wherever it is run. -/
theorem run_of_aborted
    {directory : Path}
    {tree : FileTree}
    {session : Session}
    {aborted : Abort}
    (fails : (session.run directory tree).outcome = .error aborted)
    (early : aborted.phase ≠ .receiveBody) :
    (session.run directory tree).tree = tree := by
  obtain refused | ⟨raw, name, sink, content, opened⟩ :=
    session.receiver.receive_cases session.options directory tree
  · exact refused.unchanged
  · exact absurd (opened.aborted aborted fails) early

end Session

/-!
## Runs
-/

/-- The files after some sessions, each of which finds what the one before it left. -/
def FileTree.afterSessions
    (directory : Path)
    (tree : FileTree)
    (sessions : List Session) :
    FileTree :=
  sessions.foldl (fun files session => (session.run directory files).tree) tree

theorem FileTree.afterSessions_concat
    (directory : Path)
    (tree : FileTree)
    (sessions : List Session)
    (session : Session) :
    tree.afterSessions directory (sessions ++ [session]) =
      (session.run directory (tree.afterSessions directory sessions)).tree := by
  simp [afterSessions]

/-- A session of a run that received content carried a name. -/
def Carried
    (directory : Path)
    (tree : FileTree)
    (sessions : List Session)
    (raw : Bytes) :
    Prop :=
  ∃ earlier session later, sessions = earlier ++ session :: later ∧
    (session.run directory (tree.afterSessions directory earlier)).ReachedBody ∧
    ∃ content, session.receiver.wire.Carries raw content

theorem Carried.concat
    {directory : Path}
    {tree : FileTree}
    {sessions : List Session}
    {raw : Bytes}
    (carried : Carried directory tree sessions raw)
    (session : Session) :
    Carried directory tree (sessions ++ [session]) raw := by
  obtain ⟨earlier, carrier, later, rfl, reached⟩ := carried
  exact ⟨earlier, carrier, later ++ [session], by simp, reached⟩

/-- What a name in the directory stands for after a run that wrote a file under it. -/
structure Rewritten
    (directory : Path)
    (place : Location)
    (tree : FileTree)
    (sessions : List Session)
    (raw : Bytes) :
    Prop where
  before :
    tree.lookup? (place ++ [raw]) = none ∨
      ∃ old, tree.lookup? (place ++ [raw]) = some (.file old)
  after :
    ∃ content,
      (tree.afterSessions directory sessions).lookup? (place ++ [raw]) =
        some (.file content)
  valid : ∃ name, Filename.validate raw = .ok name
  short : raw.length ≤ 255
  carried : Carried directory tree sessions raw

/-- What was rewritten remains so after a session that left it alone. -/
theorem Rewritten.concat
    {directory : Path}
    {place : Location}
    {tree : FileTree}
    {sessions : List Session}
    {raw : Bytes}
    {session : Session}
    (rewritten : Rewritten directory place tree sessions raw)
    (held :
      (tree.afterSessions directory (sessions ++ [session])).lookup? (place ++ [raw]) =
        (tree.afterSessions directory sessions).lookup? (place ++ [raw])) :
    Rewritten directory place tree (sessions ++ [session]) raw where
  before := rewritten.before
  after := by
    rw [held]
    exact rewritten.after
  valid := rewritten.valid
  short := rewritten.short
  carried := rewritten.carried.concat session

/--
What a run of sessions comes to: at most files directly in the directory were
written, under valid names that were carried.
-/
structure Contained
    (directory : Path)
    (place : Location)
    (tree : FileTree)
    (sessions : List Session) :
    Prop where
  hosts : (tree.afterSessions directory sessions).Hosts directory place
  current : (tree.afterSessions directory sessions).current = tree.current
  elsewhere :
    ∀ location, (∀ name, location ≠ place ++ [name]) →
      (tree.afterSessions directory sessions).lookup? location = tree.lookup? location
  inside :
    ∀ name,
      (tree.afterSessions directory sessions).lookup? (place ++ [name]) =
          tree.lookup? (place ++ [name]) ∨
        Rewritten directory place tree sessions name

namespace Contained

variable
  {directory : Path}
  {place : Location}
  {tree : FileTree}
  {sessions : List Session}

theorem nothing (hosts : tree.Hosts directory place) :
    Contained directory place tree [] :=
  ⟨hosts, rfl, fun _ _ => rfl, fun _ => .inl rfl⟩

/-- One more session leaves a run contained. -/
theorem step
    (contained : Contained directory place tree sessions)
    (session : Session) :
    Contained directory place tree (sessions ++ [session]) := by
  have files := tree.afterSessions_concat directory sessions session
  obtain unchanged | ⟨raw, content, writes⟩ := session.run_cases contained.hosts
  · rw [unchanged] at files
    refine ⟨by rw [files]; exact contained.hosts, by rw [files]; exact contained.current,
      by rw [files]; exact contained.elsewhere, fun name => ?_⟩
    obtain kept | rewritten := contained.inside name
    · exact .inl (by rw [files]; exact kept)
    · exact .inr (rewritten.concat (by rw [files]))
  · rw [writes.written] at files
    refine ⟨by rw [files]; exact contained.hosts.put writes.free content,
      by rw [files]; exact contained.current, fun location apart => ?_, fun name => ?_⟩
    · rw [files, FileTree.lookup?_put_of_ne _ _ (apart raw)]
      exact contained.elsewhere location apart
    by_cases same : name = raw
    · subst same
      have carried : Carried directory tree (sessions ++ [session]) name :=
        ⟨sessions, session, [], rfl, writes.reached, writes.carries⟩
      refine .inr ⟨?_, ⟨content, ?_⟩, writes.valid, writes.short, carried⟩
      · obtain kept | rewritten := contained.inside name
        · rw [← kept]
          exact writes.free
        · exact rewritten.before
      · rw [files, FileTree.lookup?_put_self _ _ (by simp)]
    · have held :
          (tree.afterSessions directory (sessions ++ [session])).lookup?
              (place ++ [name]) =
            (tree.afterSessions directory sessions).lookup? (place ++ [name]) := by
        rw [files, FileTree.lookup?_put_of_ne _ _ (by simpa using same)]
      obtain kept | rewritten := contained.inside name
      · exact .inl (held.trans kept)
      · exact .inr (rewritten.concat held)

/-- Each location of a tree is what it was, or a file that was rewritten. -/
theorem lookup?_cases
    (contained : Contained directory place tree sessions)
    (location : Location) :
    (tree.afterSessions directory sessions).lookup? location = tree.lookup? location ∨
      ∃ name, location = place ++ [name] ∧
        Rewritten directory place tree sessions name := by
  by_cases direct : ∃ name, location = place ++ [name]
  · obtain ⟨name, rfl⟩ := direct
    obtain kept | rewritten := contained.inside name
    · exact .inl kept
    · exact .inr ⟨name, rfl, rewritten⟩
  · exact .inl (contained.elsewhere location (not_exists.mp direct))

/-- Nothing is removed. -/
theorem still_there
    {location : Location}
    (contained : Contained directory place tree sessions)
    (stood : (tree.lookup? location).isSome) :
    ((tree.afterSessions directory sessions).lookup? location).isSome := by
  obtain kept | ⟨name, rfl, rewritten⟩ := contained.lookup?_cases location
  · rw [kept]
    exact stood
  · obtain ⟨content, stands⟩ := rewritten.after
    rw [stands]
    rfl

/-- No directory is made. -/
theorem directory_before
    {location : Location}
    (contained : Contained directory place tree sessions)
    (stands :
      (tree.afterSessions directory sessions).lookup? location = some .directory) :
    tree.lookup? location = some .directory := by
  obtain kept | ⟨name, rfl, rewritten⟩ := contained.lookup?_cases location
  · rw [← kept]
    exact stands
  · obtain ⟨content, isFile⟩ := rewritten.after
    rw [isFile] at stands
    cases stands

/-- What is new in the directory is a file with a valid name. -/
theorem fresh
    {name : Bytes}
    {entry : Entry}
    (contained : Contained directory place tree sessions)
    (free : tree.lookup? (place ++ [name]) = none)
    (stands :
      (tree.afterSessions directory sessions).lookup? (place ++ [name]) = some entry) :
    (∃ content, entry = .file content) ∧
      (∃ text, Filename.validate name = .ok text) ∧ name.length ≤ 255 := by
  obtain kept | rewritten := contained.inside name
  · rw [kept, free] at stands
    cases stands
  · obtain ⟨content, isFile⟩ := rewritten.after
    rw [isFile] at stands
    exact ⟨⟨content, (Option.some.inj stands).symm⟩, rewritten.valid, rewritten.short⟩

/-- What was in the directory is unchanged, or a file whose name was carried. -/
theorem original
    {name : Bytes}
    {entry : Entry}
    (contained : Contained directory place tree sessions)
    (stood : tree.lookup? (place ++ [name]) = some entry) :
    (tree.afterSessions directory sessions).lookup? (place ++ [name]) = some entry ∨
      (∃ old, entry = .file old) ∧ Carried directory tree sessions name := by
  obtain kept | rewritten := contained.inside name
  · exact .inl (kept.trans stood)
  · obtain free | ⟨old, isFile⟩ := rewritten.before
    · rw [free] at stood
      cases stood
    · rw [isFile] at stood
      exact .inr ⟨⟨old, (Option.some.inj stood).symm⟩, rewritten.carried⟩

/-- Every run of sessions is contained. -/
theorem of_sessions
    (hosts : tree.Hosts directory place)
    (sessions : List Session) :
    Contained directory place tree sessions := by
  induction sessions using List.reverseRecOn with
  | nil => exact nothing hosts
  | append_singleton sessions session ih => exact ih.step session

end Contained

/--
Whatever sessions are run on a directory of directories and regular files, only
files directly in it are written.  Nothing is removed, and no directory is made.
What is new in the directory is a file with a valid name, and what was there
before is unchanged unless it is a file whose name was carried by a session that
received content.  A session that received none changes nothing.
-/
theorem contained_of_sessions
    {directory : Path}
    {place : Location}
    {tree : FileTree}
    (hosts : tree.Hosts directory place)
    (sessions : List Session) :
    let later := tree.afterSessions directory sessions
    later.current = tree.current ∧
      (∀ location, (∀ name, location ≠ place ++ [name]) →
        later.lookup? location = tree.lookup? location) ∧
      (∀ location, (tree.lookup? location).isSome →
        (later.lookup? location).isSome) ∧
      (∀ location, later.lookup? location = some .directory →
        tree.lookup? location = some .directory) ∧
      (∀ name entry, tree.lookup? (place ++ [name]) = none →
        later.lookup? (place ++ [name]) = some entry →
          (∃ content, entry = .file content) ∧
            (∃ text, Filename.validate name = .ok text) ∧ name.length ≤ 255) ∧
      (∀ name entry, tree.lookup? (place ++ [name]) = some entry →
        later.lookup? (place ++ [name]) = some entry ∨
          (∃ old, entry = .file old) ∧ Carried directory tree sessions name) ∧
      ∀ (session : Session) (files : FileTree) (aborted : Abort),
        (session.run directory files).outcome = .error aborted →
          aborted.phase ≠ .receiveBody →
            (session.run directory files).tree = files := by
  intro later
  have contained := Contained.of_sessions hosts sessions
  refine ⟨contained.current, contained.elsewhere, ?_, ?_, ?_, ?_, ?_⟩
  · intro location stood
    exact contained.still_there stood
  · intro location stands
    exact contained.directory_before stands
  · intro name entry free stands
    exact contained.fresh free stands
  · intro name entry stood
    exact contained.original stood
  · intro session files aborted fails early
    exact Session.run_of_aborted fails early

/-- A name that leads out of the directory does not reach the file that stands there. -/
theorem contained_of_sessions_parent_name :
    let tree := ((FileTree.bare []).put [[0x64]] .directory).put [[0x65]] (.file [9])
    let leaving : Session :=
      ⟨.standard, .blocking (.ofBytes [0, 4, 0x2E, 0x2E, 0x2F, 0x65, 7] none)⟩
    let plain : Session := ⟨.standard, .blocking (.ofBytes [0, 1, 0x65, 7] none)⟩
    let later := tree.afterSessions [0x64] [leaving, plain]
    tree.Hosts [0x64] [[0x64]] ∧ later.lookup? [[0x65]] = some (.file [9]) := by
  intro tree leaving plain later
  have hosts : tree.Hosts [0x64] [[0x64]] := by
    refine ⟨by cbv, fun name entry stands => ?_⟩
    have nothing : tree.lookup? ([[0x64]] ++ [name]) = none := rfl
    rw [nothing] at stands
    cases stands
  obtain ⟨-, elsewhere, -⟩ := contained_of_sessions hosts [leaving, plain]
  exact ⟨hosts, elsewhere [[0x65]] (by simp)⟩

end FileTransfer
