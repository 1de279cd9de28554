import FileTransfer.Proofs.Containment
import FileTransfer.Proofs.Landing

namespace FileTransfer

/-!
# Sessions keep apart

Sessions that are run one after another into one directory share its files.  In a
tree without symbolic links this is all that they share: each session ends as if it
were alone, and each file holds what the last session that got as far as its content
received under the name of the file.

`Session.delivery?` is what a session received, and `Session.Received` says what that
is in terms of its stream and of the delays in it.  `FileTree.latest?` is the last
delivery under a name, of sessions that are each run alone.  `Settled` says that the
files after some sessions are those of the beginning with these contents written over
them; one more session keeps this (`Settled.concat`), so every run has it
(`Settled.of_sessions`).
-/

/-- Two trees hold the same entries and start relative paths at the same location. -/
structure FileTree.Alike (first second : FileTree) : Prop where
  current : first.current = second.current
  lookup : ∀ location, first.lookup? location = second.lookup? location

/-!
## What a session owes to the files that it finds
-/

/-- Answers that agree in their first parts both fail alike, or both succeed. -/
theorem answers_of_same_first
    {ε α β : Type}
    {one other : Except ε (α × β)}
    (same : one.map Prod.fst = other.map Prod.fst) :
    (∃ error, one = .error error ∧ other = .error error) ∨
      ∃ first second third, one = .ok (first, second) ∧ other = .ok (first, third) := by
  cases one with
  | error error =>
      cases other with
      | error twin =>
          cases same
          exact .inl ⟨_, rfl, rfl⟩
      | ok answer => cases same
  | ok answer =>
      cases other with
      | error twin => cases same
      | ok twin =>
          obtain ⟨first, second⟩ := answer
          obtain ⟨copy, third⟩ := twin
          cases same
          exact .inr ⟨_, _, _, rfl, rfl⟩

/-- Whether an output opens, and what it is, hangs on nothing but what its path opens. -/
theorem Output.open?_congr
    {directory : Path}
    {first second : FileTree}
    (same :
      ∀ raw, Filename.isPlain raw →
        (first.create (Path.join directory raw)).map Prod.fst =
          (second.create (Path.join directory raw)).map Prod.fst)
    (raw : Bytes) :
    (Output.open? directory first raw).map Prod.fst =
      (Output.open? directory second raw).map Prod.fst := by
  unfold Output.open? Filename.place
  cases validated : Filename.validate raw with
  | error fault => rfl
  | ok name =>
      obtain ⟨error, fails, failsToo⟩ | ⟨sink, opened, emptied, opens, opensToo⟩ :=
        answers_of_same_first (same raw (Filename.isPlain_of_validate validated))
      · simp only [Except.map, fails, failsToo]
      · simp only [Except.map, opens, opensToo]

/-- A session ends in the same way where the same outputs open. -/
theorem Receiver.receive_congr
    {options : TransferOptions}
    {directory : Path}
    {first second : FileTree}
    (same :
      ∀ raw,
        (Output.open? directory first raw).map Prod.fst =
          (Output.open? directory second raw).map Prod.fst)
    (receiver : Receiver) :
    (receiver.receive options directory first).outcome =
        (receiver.receive options directory second).outcome ∧
      receiver.remainder options directory first =
        receiver.remainder options directory second := by
  cases receiver with
  | blocking inlet =>
      simp only [receive, remainder, receiveFile]
      rcases inlet.readName with ⟨aborted | raw, rest⟩
      · exact ⟨rfl, rfl⟩
      · rcases answers_of_same_first (same raw) with
          ⟨aborted, fails, failsToo⟩ | ⟨output, opened, emptied, opens, opensToo⟩
        · simp only [fails, failsToo, and_self]
        · simp only [opens, opensToo, and_true]
          rfl
  | timed readDeadline inlet =>
      simp only [receive, remainder, receiveFileTimed]
      rcases inlet.readName (headerAllowance readDeadline) with ⟨aborted | raw, rest⟩
      · exact ⟨rfl, rfl⟩
      · rcases answers_of_same_first (same raw) with
          ⟨aborted, fails, failsToo⟩ | ⟨output, opened, emptied, opens, opensToo⟩
        · simp only [fails, failsToo, and_self]
        · simp only [opens, opensToo, and_true]
          rfl

/-!
## What a session received
-/

/-- Whether a session got as far as its content can be told from its end. -/
instance Reception.decidableReachedBody (reception : Reception) :
    Decidable reception.ReachedBody :=
  decidable_of_iff
    ((match reception.outcome with
      | .ok _ => true
      | .error aborted => decide (aborted.phase = .receiveBody)) = true)
    (by cases ended : reception.outcome <;> simp [ReachedBody, ended])

/-- The name and the content in octets that begin with a header. -/
def Header.parted (octets : Bytes) : Bytes × Bytes :=
  let length := Bytes.toNat (octets.take 2)
  ((octets.drop 2).take length, octets.drop (2 + length))

theorem Header.parted_of_short
    {raw : Bytes}
    (short : raw.length ≤ 255)
    (content : Bytes) :
    parted (Bytes.ofNat16 raw.length ++ (raw ++ content)) = (raw, content) := by
  have field : (Bytes.ofNat16 raw.length).length = 2 := rfl
  have announced :
      Bytes.toNat ((Bytes.ofNat16 raw.length ++ (raw ++ content)).take 2) =
        raw.length := by
    rw [← field, List.take_left, Bytes.toNat_ofNat16 (by omega)]
  have behind : (Bytes.ofNat16 raw.length ++ (raw ++ content)).drop 2 = raw ++ content := by
    rw [← field, List.drop_left]
  simp only [parted, announced, ← List.drop_drop, behind, List.take_left, List.drop_left]

/-- A stream carries one content, under one name. -/
theorem Wire.Carries.unique
    {wire : Wire}
    {raw other content others : Bytes}
    (carries : wire.Carries raw content)
    (carriesToo : wire.Carries other others) :
    raw = other ∧ content = others := by
  have first := Header.parted_of_short carries.short content
  have second := Header.parted_of_short carriesToo.short others
  rw [← List.append_assoc, ← carries.bytes] at first
  rw [← List.append_assoc, ← carriesToo.bytes] at second
  exact Prod.mk.inj (first.symm.trans second)

namespace Session

/-- The number of octets that a session takes from its stream. -/
def consumed (directory : Path) (tree : FileTree) (session : Session) : Nat :=
  (session.receiver.remainder session.options directory tree).consumed -
    session.receiver.consumed

/-- The octets that a session takes from its stream. -/
def octets (directory : Path) (tree : FileTree) (session : Session) : Bytes :=
  session.receiver.wire.bytes.take (session.consumed directory tree)

/--
The name and the content in what a session takes from its stream, if it gets as far
as its content.
-/
def delivery?
    (directory : Path)
    (tree : FileTree)
    (session : Session) :
    Option (Bytes × Bytes) :=
  if (session.run directory tree).ReachedBody then
    some (Header.parted (session.octets directory tree))
  else none

variable
  {directory : Path}
  {tree : FileTree}
  {session : Session}

theorem delivery?_congr
    {found : FileTree}
    (outcome :
      (session.run directory found).outcome = (session.run directory tree).outcome)
    (consumed : session.consumed directory found = session.consumed directory tree) :
    session.delivery? directory found = session.delivery? directory tree := by
  have reached :
      (session.run directory found).ReachedBody ↔
        (session.run directory tree).ReachedBody := by
    rw [Reception.ReachedBody, Reception.ReachedBody, outcome]
  have octets : session.octets directory found = session.octets directory tree := by
    rw [Session.octets, Session.octets, consumed]
  simp only [delivery?, reached, octets]

theorem delivery?_of_refused
    (refused : (session.run directory tree).Refused tree) :
    session.delivery? directory tree = none := by
  obtain ⟨aborted, ended, early, -⟩ := refused.outcome
  exact if_neg fun reached => early (reached aborted ended)

/-- A session that filled a regular file received what the file holds. -/
theorem delivery?_of_opened
    {raw content : Bytes}
    {name : String}
    {sink : Sink}
    (opened :
      (session.run directory tree).Opened session.options.digesting directory tree
        session.receiver.wire raw name sink content)
    (counted :
      (session.receiver.remainder session.options directory tree).consumed =
        session.receiver.consumed + (2 + raw.length + content.length)) :
    session.delivery? directory tree = some (raw, content) := by
  obtain ⟨missed, carries⟩ := opened.carries
  have taken :
      session.octets directory tree = Bytes.ofNat16 raw.length ++ (raw ++ content) := by
    have size :
        session.consumed directory tree =
          (Bytes.ofNat16 raw.length ++ (raw ++ content)).length := by
      have field : (Bytes.ofNat16 raw.length).length = 2 := rfl
      rw [consumed, counted, List.length_append, List.length_append, field]
      omega
    have stream :
        session.receiver.wire.bytes =
          Bytes.ofNat16 raw.length ++ (raw ++ content) ++ missed := by
      rw [carries.bytes]
      simp only [List.append_assoc]
    rw [octets, stream, size, List.take_left]
  have reached : (session.run directory tree).ReachedBody := opened.aborted
  rw [delivery?, if_pos reached, taken, Header.parted_of_short carries.short]

/--
What a session received under the name that its stream carries: all content of the
stream, if the session keeps its deadlines or gives an account, and otherwise what
came before an operation missed its deadline.
-/
structure Received
    (directory : Path)
    (tree : FileTree)
    (session : Session)
    (raw content : Bytes) :
    Prop where
  carries : ∃ missed, session.receiver.wire.Carries raw (content ++ missed)
  entire :
    session.receiver.InTime session.options directory tree →
      session.receiver.wire.Carries raw content
  completed :
    ∀ receipt, (session.run directory tree).outcome = .ok receipt →
      session.receiver.wire.Carries raw content
  cutShort :
    ¬session.receiver.InTime session.options directory tree →
      session.receiver.CutShort session.options directory tree content

/-- A session opens no output, or fills a regular file with what it received. -/
theorem run_delivers
    (regular : tree.OffersFiles directory)
    (session : Session) :
    ((session.run directory tree).Refused tree ∧
        session.delivery? directory tree = none) ∨
      ∃ raw name location content,
        (session.run directory tree).Opened session.options.digesting directory tree
            session.receiver.wire raw name (.file location) content ∧
          session.delivery? directory tree = some (raw, content) ∧
          session.Received directory tree raw content := by
  obtain refused | ⟨raw, name, sink, content, opened, taken⟩ :=
    session.receiver.receive_taken session.options directory tree
  · exact .inl ⟨refused, delivery?_of_refused refused⟩
  · obtain ⟨emptied, creates⟩ := opened.opens
    obtain ⟨location, rfl⟩ := regular raw name opened.valid sink emptied creates
    obtain ⟨counted, entire, cutShort⟩ := taken location rfl
    exact .inr ⟨raw, name, location, content, opened, delivery?_of_opened opened counted,
      opened.carries, entire, fun receipt ended => (opened.completed receipt ended).1,
      cutShort⟩

/-- A delivery is what a session received. -/
theorem received_of_delivery?
    {raw content : Bytes}
    (regular : tree.OffersFiles directory)
    (delivers : session.delivery? directory tree = some (raw, content)) :
    session.Received directory tree raw content := by
  obtain ⟨-, nothing⟩ | ⟨carried, name, location, filling, -, delivered, received⟩ :=
    session.run_delivers regular
  · rw [nothing] at delivers
    cases delivers
  · rw [delivered] at delivers
    cases delivers
    exact received

/-- There is a delivery exactly if a session got as far as its content. -/
theorem delivery?_eq_none_iff :
    session.delivery? directory tree = none ↔
      ¬(session.run directory tree).ReachedBody := by
  unfold delivery?
  split <;> simp [*]

/-- What a session in time delivers can be read off its stream. -/
theorem delivery?_of_carries
    {raw content : Bytes}
    (regular : tree.OffersFiles directory)
    (inTime : session.receiver.InTime session.options directory tree)
    (carries : session.receiver.wire.Carries raw content)
    (reached :
      (session.receiver.wire.session session.options.digesting directory
        tree).reception.ReachedBody) :
    session.delivery? directory tree = some (raw, content) := by
  obtain ⟨outcome, -⟩ :=
    session.receiver.receive_eq_session session.options directory tree
      (fun _ name => regular _ name) inTime
  have reachedAlone : (session.run directory tree).ReachedBody := by
    intro aborted ended
    apply reached aborted
    rw [← outcome]
    change (session.run directory tree).outcome.map Receipt.untimed = _
    rw [ended]
    rfl
  rcases delivers : session.delivery? directory tree with _ | ⟨carried, received⟩
  · exact absurd reachedAlone (delivery?_eq_none_iff.mp delivers)
  · obtain ⟨rfl, rfl⟩ :=
      ((received_of_delivery? regular delivers).entire inTime).unique carries
    rfl

/-- What a session delivers that runs out of time is what came before. -/
theorem delivery?_of_late
    (regular : tree.OffersFiles directory)
    (options : TransferOptions)
    {readDeadline : Option Nat}
    {inlet : TimedInlet}
    {field name late : Operation}
    {pieces after : List Operation}
    (shape :
      inlet.operations options.room directory tree =
        field :: name :: pieces ++ late :: after)
    (early :
      ∀ operation ∈ field :: name :: pieces,
        operation.InTime readDeadline options.room)
    (isLate : ¬late.InTime readDeadline options.room)
    (awaits : late.awaited = .content) :
    delivery? directory tree ⟨options, .timed readDeadline inlet⟩ =
      some (name.moved, Operation.delivered pieces) := by
  obtain ⟨outcome, -⟩ := receiveFileTimed_late options regular shape early isLate
  have reached :
      (run directory tree ⟨options, .timed readDeadline inlet⟩).ReachedBody := by
    intro aborted ended
    obtain rfl := Except.error.inj (outcome.symm.trans ended)
    simp only [awaits]
    rfl
  rcases delivers : delivery? directory tree ⟨options, .timed readDeadline inlet⟩ with
    _ | ⟨raw, content⟩
  · exact absurd reached (delivery?_eq_none_iff.mp delivers)
  · obtain ⟨⟨missed, carries⟩, -, -, cutShort⟩ := received_of_delivery? regular delivers
    obtain ⟨_, _, others, _, _, cut, earlyToo, isLateToo, rfl⟩ :=
      cutShort fun inTime => isLate (inTime late (by rw [shape]; simp))
    obtain ⟨same, -⟩ :=
      first_without_unique (shape.symm.trans cut) early isLate earlyToo isLateToo
    cases same
    obtain ⟨isHeader, -⟩ | ⟨_, _, _, rest, split, named, -⟩ :=
      TimedInlet.readName_late shape early isLate
    · exact absurd awaits isHeader
    · cases split
      obtain ⟨named, -⟩ := Inlet.readName_carries (TimedInlet.readName_untimed named)
      obtain ⟨rfl, -⟩ := carries.unique named
      rfl

end Session

/-!
## The last content under each name
-/

namespace FileTree

/-- The content that the last of some sessions received under a name, each run alone. -/
def latest?
    (directory : Path)
    (tree : FileTree)
    (sessions : List Session)
    (raw : Bytes) :
    Option Bytes :=
  ((sessions.filterMap (Session.delivery? directory tree)).filter
    (·.1 = raw)).getLast?.map Prod.snd

variable
  {directory : Path}
  {tree : FileTree}
  {sessions : List Session}
  {session : Session}

theorem latest?_concat_of_none
    (nothing : session.delivery? directory tree = none)
    (raw : Bytes) :
    tree.latest? directory (sessions ++ [session]) raw =
      tree.latest? directory sessions raw := by
  simp [latest?, List.filterMap_append, nothing]

theorem latest?_concat_self
    {raw content : Bytes}
    (delivers : session.delivery? directory tree = some (raw, content)) :
    tree.latest? directory (sessions ++ [session]) raw = some content := by
  simp [latest?, List.filterMap_append, delivers]

theorem latest?_concat_of_ne
    {raw other content : Bytes}
    (delivers : session.delivery? directory tree = some (other, content))
    (apart : other ≠ raw) :
    tree.latest? directory (sessions ++ [session]) raw =
      tree.latest? directory sessions raw := by
  simp [latest?, List.filterMap_append, delivers, apart]

/-- The order of two neighbours does not matter, if one name is not in both. -/
theorem latest?_swap
    {first second : Session}
    (earlier following : List Session)
    (apart :
      ∀ raw one other,
        first.delivery? directory tree = some (raw, one) →
          second.delivery? directory tree ≠ some (raw, other))
    (raw : Bytes) :
    tree.latest? directory (earlier ++ first :: second :: following) raw =
      tree.latest? directory (earlier ++ second :: first :: following) raw := by
  have commute :
      ([first, second].filterMap (Session.delivery? directory tree)).filter
          (·.1 = raw) =
        ([second, first].filterMap (Session.delivery? directory tree)).filter
          (·.1 = raw) := by
    cases delivers : first.delivery? directory tree with
    | none => simp [delivers, List.filterMap_cons]
    | some one =>
        cases delivered : second.delivery? directory tree with
        | none => simp [delivers, delivered]
        | some other =>
            by_cases same : one.1 = raw
            · have differs : other.1 ≠ raw := by
                rintro rfl
                exact apart other.1 one.2 other.2 (by rw [delivers, ← same])
                  (by rw [delivered])
              simp [delivers, delivered, differs, List.filter_cons]
            · simp [delivers, delivered, same, List.filter_cons]
  have unfolded (pair : List Session) :
      ((earlier ++ (pair ++ following)).filterMap
          (Session.delivery? directory tree)).filter (·.1 = raw) =
        (earlier.filterMap (Session.delivery? directory tree)).filter (·.1 = raw) ++
          ((pair.filterMap (Session.delivery? directory tree)).filter (·.1 = raw) ++
            (following.filterMap (Session.delivery? directory tree)).filter
              (·.1 = raw)) := by
    simp only [List.filterMap_append, List.filter_append]
  have exchanged := unfolded [first, second]
  rw [commute, ← unfolded] at exchanged
  exact congrArg (fun received => received.getLast?.map Prod.snd) exchanged

end FileTree

/-!
## Runs
-/

/--
What some sessions leave in the directory that they are run in: the files of before,
with the content that came last under each name written over them.
-/
structure Settled
    (directory : Path)
    (place : Location)
    (tree : FileTree)
    (sessions : List Session) :
    Prop where
  lands : (tree.afterSessions directory sessions).Lands directory place
  linkFree : (tree.afterSessions directory sessions).LinkFree
  current : (tree.afterSessions directory sessions).current = tree.current
  elsewhere :
    ∀ location, (∀ raw, location ≠ place ++ [raw]) →
      (tree.afterSessions directory sessions).lookup? location = tree.lookup? location
  inside :
    ∀ raw,
      (tree.afterSessions directory sessions).lookup? (place ++ [raw]) =
        ((tree.latest? directory sessions raw).map Entry.file).or
          (tree.lookup? (place ++ [raw]))
  opens :
    ∀ raw content, tree.latest? directory sessions raw = some content →
      Filename.isPlain raw ∧
        (tree.create (Path.join directory raw)).map Prod.fst =
          .ok (.file (place ++ [raw]))

namespace Settled

variable
  {directory : Path}
  {place : Location}
  {tree : FileTree}
  {sessions : List Session}

theorem nothing
    (lands : tree.Lands directory place)
    (linkFree : tree.LinkFree) :
    Settled directory place tree [] :=
  ⟨lands, linkFree, rfl, fun _ _ => rfl, fun _ => rfl, fun _ _ found => nomatch found⟩

/-- The same outputs open before and after the sessions. -/
theorem sinks
    (settled : Settled directory place tree sessions)
    (lands : tree.Lands directory place)
    (linkFree : tree.LinkFree)
    {raw : Bytes}
    (plain : Filename.isPlain raw) :
    ((tree.afterSessions directory sessions).create (Path.join directory raw)).map
        Prod.fst =
      (tree.create (Path.join directory raw)).map Prod.fst := by
  have inside := settled.inside raw
  cases latest : tree.latest? directory sessions raw with
  | none =>
      rw [latest] at inside
      rw [settled.lands.sink settled.linkFree plain, lands.sink linkFree plain, inside]
      rfl
  | some content =>
      rw [latest] at inside
      obtain ⟨-, opens⟩ := settled.opens raw content latest
      obtain ⟨checked, short, -⟩ := lands.of_sink linkFree plain opens
      rw [opens, settled.lands.sink settled.linkFree plain, checked, inside]
      exact if_neg (Nat.not_lt.mpr short)

/-- After the sessions, one more session ends as it would have ended before them. -/
theorem receive
    (settled : Settled directory place tree sessions)
    (lands : tree.Lands directory place)
    (linkFree : tree.LinkFree)
    (session : Session) :
    (session.run directory (tree.afterSessions directory sessions)).outcome =
        (session.run directory tree).outcome ∧
      session.consumed directory (tree.afterSessions directory sessions) =
        session.consumed directory tree := by
  obtain ⟨outcome, remainder⟩ :=
    @Receiver.receive_congr session.options directory _ _
      (Output.open?_congr fun raw plain => settled.sinks lands linkFree plain)
      session.receiver
  exact ⟨outcome, by rw [Session.consumed, Session.consumed, remainder]⟩

/-- The outputs that open after the sessions are regular files, too. -/
theorem offersFiles
    (settled : Settled directory place tree sessions)
    (lands : tree.Lands directory place)
    (linkFree : tree.LinkFree)
    (regular : tree.OffersFiles directory) :
    (tree.afterSessions directory sessions).OffersFiles directory := by
  intro raw name valid sink opened creates
  have same := settled.sinks lands linkFree (Filename.isPlain_of_validate valid)
  obtain ⟨error, fails, -⟩ | ⟨first, found, before, finds, createsFirst⟩ :=
    answers_of_same_first same
  · rw [creates] at fails
    cases fails
  · obtain ⟨rfl, -⟩ := Prod.mk.inj (Except.ok.inj (creates.symm.trans finds))
    exact regular raw name valid sink before createsFirst

/-- One more session keeps what the sessions before it left. -/
theorem concat
    (settled : Settled directory place tree sessions)
    (lands : tree.Lands directory place)
    (linkFree : tree.LinkFree)
    (regular : tree.OffersFiles directory)
    (session : Session) :
    Settled directory place tree (sessions ++ [session]) := by
  obtain ⟨outcome, consumed⟩ := settled.receive lands linkFree session
  have alone := Session.delivery?_congr outcome consumed
  have files := tree.afterSessions_concat directory sessions session
  obtain ⟨refused, nothing⟩ | ⟨raw, name, location, content, opened, delivers, -⟩ :=
    session.run_delivers (settled.offersFiles lands linkFree regular)
  · rw [alone] at nothing
    rw [refused.unchanged] at files
    have latest (raw : Bytes) :
        tree.latest? directory (sessions ++ [session]) raw =
          tree.latest? directory sessions raw :=
      FileTree.latest?_concat_of_none nothing raw
    refine ⟨?_, ?_, ?_, ?_, ?_, ?_⟩
    · rw [files]
      exact settled.lands
    · rw [files]
      exact settled.linkFree
    · rw [files]
      exact settled.current
    · rw [files]
      exact settled.elsewhere
    · simp only [files, latest]
      exact settled.inside
    · simp only [latest]
      exact settled.opens
  · rw [alone] at delivers
    have plain := Filename.isPlain_of_validate opened.valid
    obtain ⟨emptied, creates⟩ := opened.opens
    have opensLater := congrArg (Except.map Prod.fst) creates
    have opensBefore := (settled.sinks lands linkFree plain).symm.trans opensLater
    obtain ⟨-, -, rfl, free⟩ := settled.lands.of_sink settled.linkFree plain opensLater
    rw [opened.stored, FileTree.store] at files
    refine ⟨?_, ?_, ?_, ?_, ?_, ?_⟩
    · rw [files]
      exact settled.lands.put free content
    · rw [files]
      exact settled.linkFree.put _ (by simp)
    · rw [files]
      exact settled.current
    · intro location apart
      rw [files, FileTree.lookup?_put_of_ne _ _ (apart raw)]
      exact settled.elsewhere location apart
    · intro other
      by_cases same : other = raw
      · subst same
        rw [files, FileTree.lookup?_put_self _ _ (by simp),
          FileTree.latest?_concat_self delivers]
        rfl
      · rw [files, FileTree.lookup?_put_of_ne _ _ (by simpa using same),
          FileTree.latest?_concat_of_ne delivers (Ne.symm same)]
        exact settled.inside other
    · intro other last latest
      by_cases same : other = raw
      · subst same
        exact ⟨plain, opensBefore⟩
      · rw [FileTree.latest?_concat_of_ne delivers (Ne.symm same)] at latest
        exact settled.opens other last latest

/-- Every run of sessions is settled. -/
theorem of_sessions
    (lands : tree.Lands directory place)
    (linkFree : tree.LinkFree)
    (regular : tree.OffersFiles directory)
    (sessions : List Session) :
    Settled directory place tree sessions := by
  induction sessions using List.reverseRecOn with
  | nil => exact nothing lands linkFree
  | append_singleton sessions session ih => exact ih.concat lands linkFree regular session

/-- What is found under a name is what came last, or else what was there before. -/
theorem find
    (settled : Settled directory place tree sessions)
    (lands : tree.Lands directory place)
    (linkFree : tree.LinkFree)
    {raw : Bytes}
    (plain : Filename.isPlain raw) :
    match tree.latest? directory sessions raw with
    | some content =>
        (tree.afterSessions directory sessions).contentOf (Path.join directory raw) =
          .ok content
    | none =>
        (tree.afterSessions directory sessions).find (Path.join directory raw) =
          tree.find (Path.join directory raw) := by
  have inside := settled.inside raw
  cases latest : tree.latest? directory sessions raw with
  | none =>
      rw [latest] at inside
      simp only
      rw [settled.lands.find settled.linkFree plain, lands.find linkFree plain, inside]
      rfl
  | some content =>
      rw [latest] at inside
      obtain ⟨-, opens⟩ := settled.opens raw content latest
      obtain ⟨checked, short, -⟩ := lands.of_sink linkFree plain opens
      simp only [FileTree.contentOf]
      rw [settled.lands.find settled.linkFree plain, checked, inside]
      simp [Nat.not_lt.mpr short]

/-- Sessions with the same last contents leave the same files. -/
theorem alike
    {others : List Session}
    (settled : Settled directory place tree sessions)
    (resettled : Settled directory place tree others)
    (latest :
      ∀ raw, tree.latest? directory sessions raw = tree.latest? directory others raw) :
    (tree.afterSessions directory sessions).Alike
      (tree.afterSessions directory others) where
  current := settled.current.trans resettled.current.symm
  lookup := by
    intro location
    by_cases direct : ∃ raw, location = place ++ [raw]
    · obtain ⟨raw, rfl⟩ := direct
      rw [settled.inside, resettled.inside, latest]
    · rw [settled.elsewhere location (not_exists.mp direct),
        resettled.elsewhere location (not_exists.mp direct)]

end Settled

/-- Sessions change nothing in a directory that takes no outputs. -/
theorem FileTree.afterSessions_of_nowhere
    {directory : Path}
    {tree : FileTree}
    (linkFree : tree.LinkFree)
    (nowhere : ¬∃ place, tree.Lands directory place)
    (sessions : List Session) :
    tree.afterSessions directory sessions = tree ∧
      ∀ raw, tree.latest? directory sessions raw = none := by
  induction sessions using List.reverseRecOn with
  | nil => exact ⟨rfl, fun _ => rfl⟩
  | append_singleton sessions session ih =>
      obtain ⟨unchanged, nothing⟩ := ih
      have refused : (session.run directory tree).Refused tree := by
        obtain refused | ⟨raw, name, sink, content, opened⟩ :=
          session.receiver.receive_cases session.options directory tree
        · exact refused
        · obtain ⟨emptied, creates⟩ := opened.opens
          have plain := Filename.isPlain_of_validate opened.valid
          exact absurd (Lands.of_create linkFree plain creates) nowhere
      refine ⟨?_, fun raw => ?_⟩
      · rw [afterSessions_concat, unchanged]
        exact refused.unchanged
      · rw [latest?_concat_of_none (Session.delivery?_of_refused refused)]
        exact nothing raw

/--
Sessions that are run one after another, in a tree without links where the outputs
that open are regular files, have only those files in common.  Each session ends as
if it were alone, and takes the same octets from its stream.  A session that gets as
far as its content delivers what its stream carries, or what of it came in time.
Under each name then stands what the last such session delivered under it, and
nothing else; a name without such a session stands for what it stood for before.
Neighbours that carry no common name can trade places.
-/
theorem sessions_keep_apart
    {directory : Path}
    {tree : FileTree}
    (linkFree : tree.LinkFree)
    (regular : tree.OffersFiles directory)
    (sessions : List Session) :
    let later := tree.afterSessions directory sessions
    (∀ earlier session following, sessions = earlier ++ session :: following →
      let found := tree.afterSessions directory earlier
      (session.run directory found).outcome = (session.run directory tree).outcome ∧
        session.consumed directory found = session.consumed directory tree) ∧
      (∀ session ∈ sessions,
        (session.delivery? directory tree = none ↔
            ¬(session.run directory tree).ReachedBody) ∧
          ∀ raw content, session.delivery? directory tree = some (raw, content) →
            session.Received directory tree raw content) ∧
      (∀ raw name, Filename.validate raw = .ok name →
        match tree.latest? directory sessions raw with
        | some content => later.contentOf (Path.join directory raw) = .ok content
        | none =>
            later.find (Path.join directory raw) =
              tree.find (Path.join directory raw)) ∧
      ∀ earlier first second following,
        sessions = earlier ++ first :: second :: following →
          (∀ raw front back, first.receiver.wire.Carries raw front →
            ¬second.receiver.wire.Carries raw back) →
            later.Alike
              (tree.afterSessions directory
                (earlier ++ second :: first :: following)) := by
  intro later
  have delivered (session : Session) :
      (session.delivery? directory tree = none ↔
          ¬(session.run directory tree).ReachedBody) ∧
        ∀ raw content, session.delivery? directory tree = some (raw, content) →
          session.Received directory tree raw content :=
    ⟨Session.delivery?_eq_none_iff,
      fun raw content => Session.received_of_delivery? regular⟩
  by_cases landing : ∃ place, tree.Lands directory place
  · obtain ⟨place, lands⟩ := landing
    have settled := Settled.of_sessions lands linkFree regular
    refine ⟨?_, fun session _ => delivered session, ?_, ?_⟩
    · intro earlier session following split
      exact (settled earlier).receive lands linkFree session
    · intro raw name valid
      exact (settled sessions).find lands linkFree (Filename.isPlain_of_validate valid)
    · intro earlier first second following split apart
      subst split
      refine (settled _).alike (settled _) (FileTree.latest?_swap earlier following ?_)
      intro raw one other delivers deliversToo
      obtain ⟨missed, carries⟩ :=
        (Session.received_of_delivery? regular delivers).carries
      obtain ⟨missedToo, carriesToo⟩ :=
        (Session.received_of_delivery? regular deliversToo).carries
      exact apart raw _ _ carries carriesToo
  · have unchanged := FileTree.afterSessions_of_nowhere linkFree landing
    have same : later = tree := (unchanged sessions).1
    refine ⟨?_, fun session _ => delivered session, ?_, ?_⟩
    · intro earlier session following split
      simp only [(unchanged earlier).1, and_self]
    · intro raw name valid
      simp only [(unchanged sessions).2 raw, same]
    · intro earlier first second following split apart
      rw [same, (unchanged _).1]
      exact ⟨rfl, fun _ => rfl⟩

/--
A session that stalls after one octet of its content leaves that octet where more had
been before.
-/
theorem sessions_keep_apart_cut_short :
    let tree := FileTree.bare []
    let session (octets : Bytes) : Session :=
      ⟨.standard, .blocking (.ofBytes octets (some 1))⟩
    let stalling : Session :=
      ⟨⟨1, false⟩, .timed (some 30)
        (.ofSteps [.delay 20, .now (.data [0, 1, 0x61, 9]), .stall] none)⟩
    let sessions : List Session :=
      [session [0, 1, 0x61, 1, 2, 3], session [0, 1, 0x62, 7], stalling]
    let later := tree.afterSessions [Path.dot] sessions
    tree.LinkFree ∧ tree.OffersFiles [Path.dot] ∧
      stalling.Received [Path.dot] tree [0x61] [9] ∧
      later.contentOf [Path.dot, Path.slash, 0x61] = .ok [9] ∧
      later.contentOf [Path.dot, Path.slash, 0x62] = .ok [7] := by
  intro tree session stalling sessions later
  have linkFree : tree.LinkFree := FileTree.linkFree_bare []
  have regular : tree.OffersFiles [Path.dot] := FileTree.offersFiles_bare [] [Path.dot]
  obtain ⟨-, delivered, names, -⟩ := sessions_keep_apart linkFree regular sessions
  have first :
      (session [0, 1, 0x61, 1, 2, 3]).delivery? [Path.dot] tree =
        some ([0x61], [1, 2, 3]) :=
    Session.delivery?_of_carries regular trivial ⟨by cbv, by decide, by decide⟩
      (of_decide_eq_true (by cbv))
  have second :
      (session [0, 1, 0x62, 7]).delivery? [Path.dot] tree = some ([0x62], [7]) :=
    Session.delivery?_of_carries regular trivial ⟨by cbv, by decide, by decide⟩
      (of_decide_eq_true (by cbv))
  have third : stalling.delivery? [Path.dot] tree = some ([0x61], [9]) := by
    have operations :
        TimedInlet.operations 1 [Path.dot] tree
            (.ofSteps [.delay 20, .now (.data [0, 1, 0x61, 9]), .stall] none) =
          ⟨.lengthField, some 20, [0, 1]⟩ :: ⟨.name, some 0, [0x61]⟩ ::
            [⟨.content, some 0, [9]⟩] ++ [⟨.content, none, []⟩] := by
      have field :
          TimedInlet.readExact? none 2
              (.ofSteps [.delay 20, .now (.data [0, 1, 0x61, 9]), .stall] none) =
            (some (.ok [0, 1]), ⟨[.now (.data [0x61, 9]), .stall], none, 1, 2, 20⟩) := by
        cbv
      have name :
          TimedInlet.readExact? none 1
              ⟨[.now (.data [0x61, 9]), .stall], none, 1, 2, 20⟩ =
            (some (.ok [0x61]), ⟨[.now (.data [9]), .stall], none, 2, 3, 20⟩) := by
        cbv
      have opens :
          Output.open? [Path.dot] tree [0x61] =
            .ok (⟨"a", [Path.dot, Path.slash, 0x61], .file [[0x61]]⟩,
              tree.put [[0x61]] (.file [])) := by
        cbv
      refine (TimedInlet.operations_of_header field (by cbv) name opens).trans ?_
      simp +decide [TimedInlet.contentOperations_eq, TimedInlet.readSome?,
        TimedInlet.read?, TimedInlet.readSteps?, capped, TimedInlet.operation]
    exact Session.delivery?_of_late regular ⟨1, false⟩ operations (by decide)
      (by decide) rfl
  have received :
      sessions.filterMap (Session.delivery? [Path.dot] tree) =
        [([0x61], [1, 2, 3]), ([0x62], [7]), ([0x61], [9])] := by
    simp only [sessions, List.filterMap_cons, List.filterMap_nil, first, second, third]
  have lastOfA : tree.latest? [Path.dot] sessions [0x61] = some [9] := by
    rw [FileTree.latest?, received]
    rfl
  have lastOfB : tree.latest? [Path.dot] sessions [0x62] = some [7] := by
    rw [FileTree.latest?, received]
    rfl
  have foundA := names [0x61] "a" (by cbv)
  have foundB := names [0x62] "b" (by cbv)
  rw [lastOfA] at foundA
  rw [lastOfB] at foundB
  have isLast : stalling ∈ sessions :=
    List.mem_cons_of_mem _ (List.mem_cons_of_mem _ (List.mem_singleton_self _))
  exact ⟨linkFree, regular, (delivered stalling isLast).2 _ _ third, foundA, foundB⟩

end FileTransfer
