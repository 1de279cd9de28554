import FileTransfer.Proofs.JsonGrammar

namespace FileTransfer.Json

/-!
# Reading JSON

A reader takes the tokens of a text one by one, and keeps the lists and objects that
are still open on a stack.  What a state of it can still lead to is said by the grammar
(`State.Leads`), and each step keeps to that (`State.leads_cons_iff`).  So the reader
accepts exactly the texts that spell a value, and gives this value
(`parse?_eq_some_iff`); in particular no text spells two.
-/

/-- A text that spells a value and nothing else. -/
def Spells (text : List Char) (document : Document) : Prop :=
  ∃ tokens, scan text = some tokens ∧ Reads tokens document []

/-!
## Numbers
-/

instance (run : List Char) : Decidable (Digits run) :=
  inferInstanceAs (Decidable (_ ∧ _))

instance (run : List Char) : Decidable (WholePart run) :=
  inferInstanceAs (Decidable (_ ∨ _))

/-- The power of ten without its sign. -/
def unsigned : List Char → List Char
  | '+' :: digits => digits
  | '-' :: digits => digits
  | digits => digits

/-- A number without a minus in front. -/
def magnitude : List Char → List Char
  | '-' :: rest => rest
  | run => run

/-- Digits have no sign in front. -/
theorem Digits.unsigned
    {run : List Char}
    (digits : Digits run) :
    unsigned run = run := by
  unfold Json.unsigned
  split
  case h_1 => exact absurd (digits.2 '+' List.mem_cons_self) (by decide)
  case h_2 => exact absurd (digits.2 '-' List.mem_cons_self) (by decide)
  case h_3 => rfl

theorem exponent_cons_iff (mark : Char) (rest : List Char) :
    Exponent (mark :: rest) ↔
      (mark = 'e' ∨ mark = 'E') ∧ Digits (unsigned rest) := by
  constructor
  · rintro (nothing | ⟨_, sign, digits, shape, marked, signed, isRun⟩)
    · cases nothing
    · cases shape
      refine ⟨marked, ?_⟩
      rcases signed with rfl | rfl | rfl
      · rwa [List.nil_append, isRun.unsigned]
      · exact isRun
      · exact isRun
  · rintro ⟨marked, isRun⟩
    unfold unsigned at isRun
    split at isRun
    case h_1 digits =>
      exact .inr ⟨mark, ['+'], digits, rfl, marked, .inr (.inl rfl), isRun⟩
    case h_2 digits =>
      exact .inr ⟨mark, ['-'], digits, rfl, marked, .inr (.inr rfl), isRun⟩
    case h_3 =>
      exact .inr ⟨mark, [], rest, rfl, marked, .inl rfl, isRun⟩

instance : (run : List Char) → Decidable (Exponent run)
  | [] => isTrue (.inl rfl)
  | mark :: rest => decidable_of_iff _ (exponent_cons_iff mark rest).symm

/-- Some characters do not go on with digits. -/
def Stops (rest : List Char) : Prop :=
  ∀ char, rest.head? = some char → char.isDigit = false

theorem Exponent.stops
    {run : List Char}
    (exponent : Exponent run) :
    Stops run := by
  rintro char first
  rcases exponent with rfl | ⟨mark, sign, digits, rfl, rfl | rfl, -, -⟩
  · cases first
  · cases first
    rfl
  · cases first
    rfl

/-- Digits end where something else begins. -/
theorem span_digits
    {digits rest : List Char}
    (isRun : ∀ char ∈ digits, char.isDigit)
    (stops : Stops rest) :
    (digits ++ rest).takeWhile Char.isDigit = digits ∧
      (digits ++ rest).dropWhile Char.isDigit = rest := by
  rw [List.takeWhile_append_of_pos isRun, List.dropWhile_append_of_pos isRun]
  cases rest with
  | nil => simp
  | cons char more => simp [stops char rfl]

/-- What can follow the whole part of a number. -/
def Ending (run : List Char) : Prop :=
  ∃ fraction exponent, run = fraction ++ exponent ∧ Fraction fraction ∧
    Exponent exponent

theorem ending_iff (run : List Char) :
    Ending run ↔
      Exponent run ∨
        ∃ rest, run = '.' :: rest ∧ Digits (rest.takeWhile Char.isDigit) ∧
          Exponent (rest.dropWhile Char.isDigit) := by
  constructor
  · rintro ⟨fraction, exponent, rfl, rfl | ⟨digits, rfl, isRun⟩, raised⟩
    · exact .inl raised
    · obtain ⟨front, back⟩ := span_digits isRun.2 raised.stops
      exact .inr ⟨digits ++ exponent, rfl, by rwa [front], by rwa [back]⟩
  · rintro (raised | ⟨rest, rfl, isRun, raised⟩)
    · exact ⟨[], run, rfl, .inl rfl, raised⟩
    · refine ⟨'.' :: rest.takeWhile Char.isDigit, rest.dropWhile Char.isDigit, ?_,
        .inr ⟨_, rfl, isRun⟩, raised⟩
      rw [List.cons_append, List.takeWhile_append_dropWhile]

theorem Ending.stops
    {run : List Char}
    (ending : Ending run) :
    Stops run := by
  rcases (ending_iff run).mp ending with raised | ⟨rest, rfl, -, -⟩
  · exact raised.stops
  · rintro char ⟨⟩
    rfl

instance (run : List Char) : Decidable (Ending run) :=
  decidable_of_iff
    (Exponent run ∨
      run.head? = some '.' ∧ Digits (run.tail.takeWhile Char.isDigit) ∧
        Exponent (run.tail.dropWhile Char.isDigit))
    (by
      rw [ending_iff]
      cases run with
      | nil => simp
      | cons char rest => simp)

theorem WholePart.digits
    {run : List Char}
    (whole : WholePart run) :
    Digits run := by
  rcases whole with rfl | ⟨digits, -⟩
  · exact ⟨by simp, List.forall_mem_singleton.mpr rfl⟩
  · exact digits

/-- A number is a whole part and an ending, after a minus perhaps. -/
theorem numeral_iff (run : List Char) :
    Numeral run ↔
      WholePart ((magnitude run).takeWhile Char.isDigit) ∧
        Ending ((magnitude run).dropWhile Char.isDigit) := by
  constructor
  · rintro ⟨sign, whole, fraction, exponent, rfl, signed, isWhole, fractional, raised⟩
    have ending : Ending (fraction ++ exponent) :=
      ⟨fraction, exponent, rfl, fractional, raised⟩
    have bare :
        magnitude (sign ++ (whole ++ (fraction ++ exponent))) =
          whole ++ (fraction ++ exponent) := by
      rcases signed with rfl | rfl
      · obtain ⟨nonempty, isRun⟩ := isWhole.digits
        obtain ⟨first, others, rfl⟩ := List.exists_cons_of_ne_nil nonempty
        have digit := isRun first List.mem_cons_self
        simp only [List.nil_append, List.cons_append]
        unfold magnitude
        split
        case h_1 same =>
          cases same
          exact absurd digit (by decide)
        case h_2 => rfl
      · rfl
    obtain ⟨front, back⟩ := span_digits isWhole.digits.2 ending.stops
    rw [bare, front, back]
    exact ⟨isWhole, ending⟩
  · rintro ⟨isWhole, fraction, exponent, rest, fractional, raised⟩
    have shape : ∃ sign, (sign = [] ∨ sign = ['-']) ∧ run = sign ++ magnitude run := by
      unfold magnitude
      split
      case h_1 more => exact ⟨['-'], .inr rfl, rfl⟩
      case h_2 => exact ⟨[], .inl rfl, rfl⟩
    obtain ⟨sign, signed, parted⟩ := shape
    refine ⟨sign, _, fraction, exponent, ?_, signed, isWhole, fractional, raised⟩
    rw [← rest, List.takeWhile_append_dropWhile]
    exact parted

instance (run : List Char) : Decidable (Numeral run) :=
  decidable_of_iff _ (numeral_iff run).symm

/-- What a number or a literal spells, if it spells anything. -/
def word? (written : List Char) : Option Document :=
  if written = "null".toList then some .null
  else if written = "true".toList then some (.boolean true)
  else if written = "false".toList then some (.boolean false)
  else if Numeral written then some (.number written)
  else none

theorem reads_word_iff
    {written : List Char}
    {rest after : List Token}
    {document : Document} :
    Reads (.word written :: rest) document after ↔
      word? written = some document ∧ after = rest := by
  constructor
  · intro reads
    cases reads with
    | null => exact ⟨rfl, rfl⟩
    | yes => exact ⟨rfl, rfl⟩
    | no => exact ⟨rfl, rfl⟩
    | number numeral =>
        have other (literal : List Char) (none : ¬Numeral literal) :
            written ≠ literal := by
          rintro rfl
          exact none numeral
        refine ⟨?_, rfl⟩
        simp only [word?, other "null".toList (by decide),
          other "true".toList (by decide), other "false".toList (by decide), numeral,
          if_true, if_false]
  · rintro ⟨spells, rfl⟩
    unfold word? at spells
    split_ifs at spells with null yes no numeral <;> cases spells
    · rw [null]
      exact .null _
    · rw [yes]
      exact .yes _
    · rw [no]
      exact .no _
    · exact .number numeral _

/-!
## The reader
-/

/-- A list or an object that is still open, with what it has so far. -/
inductive Frame where
  | list (items : List Document)
  /-- An object whose last key still has no value. -/
  | object (fields : List (List Char × Document)) (key : List Char)

/-- Where a reader stands; the innermost open list or object comes first. -/
inductive State where
  | value (frames : List Frame)
  /-- At the beginning of a list. -/
  | firstItem (frames : List Frame)
  /-- At the beginning of an object. -/
  | firstKey (frames : List Frame)
  | nextKey (fields : List (List Char × Document)) (frames : List Frame)
  /-- Behind a key. -/
  | colon
      (fields : List (List Char × Document))
      (key : List Char)
      (frames : List Frame)
  /-- Behind a value. -/
  | behind (value : Document) (frames : List Frame)

namespace State

/-- Where a reader stands after a token with which a value begins. -/
def begin? (frames : List Frame) : Token → Option State
  | .word written => (word? written).map (behind · frames)
  | .text written => some (behind (.text written) frames)
  | .opening => some (firstKey frames)
  | .listOpening => some (firstItem frames)
  | _ => none

/-- Where a reader stands after a token, if it can be there. -/
def step? (token : Token) : State → Option State
  | value frames => begin? frames token
  | firstItem frames =>
      if token = .listClosing then some (behind (.list []) frames)
      else begin? (.list [] :: frames) token
  | firstKey frames =>
      match token with
      | .closing => some (behind (.object []) frames)
      | .text key => some (colon [] key frames)
      | _ => none
  | nextKey fields frames =>
      match token with
      | .text key => some (colon fields key frames)
      | _ => none
  | colon fields key frames =>
      if token = .colon then some (value (.object fields key :: frames)) else none
  | behind _ [] => none
  | behind item (.list items :: frames) =>
      match token with
      | .comma => some (value (.list (items ++ [item]) :: frames))
      | .listClosing => some (behind (.list (items ++ [item])) frames)
      | _ => none
  | behind item (.object fields key :: frames) =>
      match token with
      | .comma => some (nextKey (fields ++ [(key, item)]) frames)
      | .closing => some (behind (.object (fields ++ [(key, item)])) frames)
      | _ => none

/-- What a reader has read at the end of the tokens. -/
def end? : State → Option Document
  | behind item [] => some item
  | _ => none

end State

/-- What the rest of some tokens makes of the state of a reader. -/
def readFrom (state : State) : List Token → Option Document
  | [] => state.end?
  | token :: rest =>
      match state.step? token with
      | none => none
      | some next => readFrom next rest

/-- What a text spells, if it spells a value. -/
def parse? (text : List Char) : Option Document :=
  (scan text).bind (readFrom (.value []))

/-!
## What a state leads to
-/

/-- After a value some tokens complete what is open around it, and that is all. -/
def Closes (document : Document) : List Frame → Document → List Token → Prop
  | [], item, tokens => tokens = [] ∧ item = document
  | .list items :: frames, item, tokens =>
      (∃ rest, tokens = .listClosing :: rest ∧
          Closes document frames (.list (items ++ [item])) rest) ∨
        ∃ between more rest, tokens = .comma :: between ∧
          ReadsItems between more rest ∧
          Closes document frames (.list (items ++ item :: more)) rest
  | .object fields key :: frames, item, tokens =>
      (∃ rest, tokens = .closing :: rest ∧
          Closes document frames (.object (fields ++ [(key, item)])) rest) ∨
        ∃ between more rest, tokens = .comma :: between ∧
          ReadsFields between more rest ∧
          Closes document frames (.object (fields ++ (key, item) :: more)) rest

/-- Some tokens spell what a state still lacks of a value. -/
def State.Leads (document : Document) (tokens : List Token) : State → Prop
  | value frames => ∃ item rest, Reads tokens item rest ∧ Closes document frames item rest
  | firstItem frames =>
      (∃ rest, tokens = .listClosing :: rest ∧ Closes document frames (.list []) rest) ∨
        ∃ items rest, ReadsItems tokens items rest ∧
          Closes document frames (.list items) rest
  | firstKey frames =>
      (∃ rest, tokens = .closing :: rest ∧ Closes document frames (.object []) rest) ∨
        ∃ fields rest, ReadsFields tokens fields rest ∧
          Closes document frames (.object fields) rest
  | nextKey fields frames =>
      ∃ more rest, ReadsFields tokens more rest ∧
        Closes document frames (.object (fields ++ more)) rest
  | colon fields key frames =>
      ∃ more rest, ReadsFields (.text key :: tokens) more rest ∧
        Closes document frames (.object (fields ++ more)) rest
  | behind item frames => Closes document frames item tokens

section

variable
  {document : Document}
  {tokens : List Token}
  {frames : List Frame}

/-- The items of a list are a first one and what then completes the list. -/
theorem leads_items_iff
    (document : Document)
    (tokens : List Token)
    (items : List Document)
    (frames : List Frame) :
    (∃ more rest, ReadsItems tokens more rest ∧
        Closes document frames (.list (items ++ more)) rest) ↔
      State.Leads document tokens (.value (.list items :: frames)) := by
  constructor
  · rintro ⟨more, rest, reads, closes⟩
    cases reads with
    | last reads => exact ⟨_, _, reads, .inl ⟨_, rfl, closes⟩⟩
    | more reads further => exact ⟨_, _, reads, .inr ⟨_, _, _, rfl, further, closes⟩⟩
  · rintro ⟨item, rest, reads, closed | goesOn⟩
    · obtain ⟨after, rfl, closes⟩ := closed
      exact ⟨_, _, .last reads, closes⟩
    · obtain ⟨between, more, after, rfl, further, closes⟩ := goesOn
      exact ⟨_, _, .more reads further, closes⟩

/-- The fields of an object are a key with its value and what then completes the object. -/
theorem leads_fields_iff
    (fields : List (List Char × Document))
    (key : List Char) :
    State.Leads document (.colon :: tokens) (.colon fields key frames) ↔
      State.Leads document tokens (.value (.object fields key :: frames)) := by
  constructor
  · rintro ⟨more, rest, reads, closes⟩
    cases reads with
    | last reads => exact ⟨_, _, reads, .inl ⟨_, rfl, closes⟩⟩
    | more reads further => exact ⟨_, _, reads, .inr ⟨_, _, _, rfl, further, closes⟩⟩
  · rintro ⟨item, rest, reads, closed | goesOn⟩
    · obtain ⟨after, rfl, closes⟩ := closed
      exact ⟨_, _, .last reads, closes⟩
    · obtain ⟨between, more, after, rfl, further, closes⟩ := goesOn
      exact ⟨_, _, .more reads further, closes⟩

/-- Where a value is expected, a token begins one or none. -/
theorem leads_begin_iff (token : Token) (rest : List Token) :
    State.Leads document (token :: rest) (.value frames) ↔
      ∃ next, State.begin? frames token = some next ∧
        State.Leads document rest next := by
  cases token with
  | word written =>
      simp only [State.Leads, reads_word_iff, State.begin?, Option.map_eq_some_iff]
      constructor
      · rintro ⟨item, after, ⟨spells, rfl⟩, closes⟩
        exact ⟨_, ⟨item, spells, rfl⟩, closes⟩
      · rintro ⟨next, ⟨item, spells, rfl⟩, closes⟩
        exact ⟨item, rest, ⟨spells, rfl⟩, closes⟩
  | text written =>
      constructor
      · rintro ⟨item, after, reads, closes⟩
        cases reads
        exact ⟨_, rfl, closes⟩
      · rintro ⟨next, ⟨⟩, closes⟩
        exact ⟨_, _, .text _ _, closes⟩
  | opening =>
      constructor
      · rintro ⟨item, after, reads, closes⟩
        cases reads with
        | emptyObject => exact ⟨_, rfl, .inl ⟨_, rfl, closes⟩⟩
        | object reads => exact ⟨_, rfl, .inr ⟨_, _, reads, closes⟩⟩
      · rintro ⟨next, ⟨⟩, ⟨after, rfl, closes⟩ | ⟨fields, after, reads, closes⟩⟩
        · exact ⟨_, _, .emptyObject _, closes⟩
        · exact ⟨_, _, .object reads, closes⟩
  | listOpening =>
      constructor
      · rintro ⟨item, after, reads, closes⟩
        cases reads with
        | emptyList => exact ⟨_, rfl, .inl ⟨_, rfl, closes⟩⟩
        | list reads => exact ⟨_, rfl, .inr ⟨_, _, reads, closes⟩⟩
      · rintro ⟨next, ⟨⟩, ⟨after, rfl, closes⟩ | ⟨items, after, reads, closes⟩⟩
        · exact ⟨_, _, .emptyList _, closes⟩
        · exact ⟨_, _, .list reads, closes⟩
  | closing | listClosing | colon | comma =>
      refine iff_of_false ?_ (by simp [State.begin?])
      rintro ⟨item, after, reads, -⟩
      cases reads

theorem not_readsItems_listClosing
    {items : List Document}
    {rest after : List Token} :
    ¬ReadsItems (.listClosing :: rest) items after := by
  intro reads
  cases reads with
  | last reads => cases reads
  | more reads further => cases reads

theorem ReadsFields.shape
    {fields : List (List Char × Document)}
    {rest : List Token}
    (reads : ReadsFields tokens fields rest) :
    ∃ key tail, tokens = .text key :: .colon :: tail := by
  cases reads with
  | last reads => exact ⟨_, _, rfl⟩
  | more reads further => exact ⟨_, _, rfl⟩

/--
A state leads to what the state after the next token leads to.  What is open around a
value is part of `Closes`, so one step of the grammar is enough for one token.
-/
theorem State.leads_cons_iff
    (token : Token)
    (rest : List Token)
    (state : State) :
    Leads document (token :: rest) state ↔
      ∃ next, step? token state = some next ∧ Leads document rest next := by
  match state with
  | value frames => exact leads_begin_iff token rest
  | firstItem frames =>
      by_cases closes : token = .listClosing
      · subst closes
        constructor
        · rintro (⟨after, ⟨⟩, ends⟩ | ⟨items, after, reads, ends⟩)
          · exact ⟨_, rfl, ends⟩
          · exact absurd reads not_readsItems_listClosing
        · rintro ⟨next, ⟨⟩, ends⟩
          exact .inl ⟨_, rfl, ends⟩
      · have first := leads_items_iff document (token :: rest) [] frames
        simp only [List.nil_append] at first
        simp only [step?, closes, if_false]
        rw [← leads_begin_iff, ← first]
        constructor
        · rintro (⟨after, same, -⟩ | found)
          · exact absurd (List.cons.inj same).1 closes
          · exact found
        · exact .inr
  | firstKey frames =>
      cases token with
      | closing =>
          constructor
          · rintro (⟨after, ⟨⟩, ends⟩ | ⟨fields, after, reads, ends⟩)
            · exact ⟨_, rfl, ends⟩
            · obtain ⟨key, tail, ⟨⟩⟩ := reads.shape
          · rintro ⟨next, ⟨⟩, ends⟩
            exact .inl ⟨_, rfl, ends⟩
      | text key =>
          constructor
          · rintro (⟨after, ⟨⟩, ends⟩ | ⟨fields, after, reads, ends⟩)
            exact ⟨_, rfl, _, _, reads, ends⟩
          · rintro ⟨next, ⟨⟩, fields, after, reads, ends⟩
            exact .inr ⟨_, _, reads, ends⟩
      | opening | listOpening | listClosing | colon | comma | word written =>
          refine iff_of_false ?_ (by simp [step?])
          rintro (⟨after, ⟨⟩, ends⟩ | ⟨fields, after, reads, ends⟩)
          obtain ⟨key, tail, ⟨⟩⟩ := reads.shape
  | nextKey fields frames =>
      cases token with
      | text key =>
          constructor
          · rintro ⟨more, after, reads, ends⟩
            exact ⟨_, rfl, _, _, reads, ends⟩
          · rintro ⟨next, ⟨⟩, more, after, reads, ends⟩
            exact ⟨_, _, reads, ends⟩
      | opening | closing | listOpening | listClosing | colon | comma | word written =>
          refine iff_of_false ?_ (by simp [step?])
          rintro ⟨more, after, reads, ends⟩
          obtain ⟨key, tail, ⟨⟩⟩ := reads.shape
  | colon fields key frames =>
      by_cases follows : token = .colon
      · subst follows
        simp only [step?, if_true, Option.some.injEq, exists_eq_left']
        exact leads_fields_iff fields key
      · refine iff_of_false ?_ (by simp [step?, follows])
        rintro ⟨more, after, reads, ends⟩
        obtain ⟨key, tail, ⟨⟩⟩ := reads.shape
        exact follows rfl
  | behind item [] =>
      refine iff_of_false ?_ (by simp [step?])
      rintro ⟨⟨⟩, -⟩
  | behind item (.list items :: frames) =>
      cases token with
      | comma =>
          have further := leads_items_iff document rest (items ++ [item]) frames
          simp only [List.append_assoc, List.singleton_append] at further
          simp only [step?, Option.some.injEq, exists_eq_left', ← further]
          constructor
          · rintro (⟨after, ⟨⟩, ends⟩ | ⟨between, more, after, ⟨⟩, reads, ends⟩)
            exact ⟨_, _, reads, ends⟩
          · rintro ⟨more, after, reads, ends⟩
            exact .inr ⟨_, _, _, rfl, reads, ends⟩
      | listClosing =>
          constructor
          · rintro (⟨after, ⟨⟩, ends⟩ | ⟨between, more, after, ⟨⟩, reads, ends⟩)
            exact ⟨_, rfl, ends⟩
          · rintro ⟨next, ⟨⟩, ends⟩
            exact .inl ⟨_, rfl, ends⟩
      | opening | closing | listOpening | colon | text written | word written =>
          refine iff_of_false ?_ (by simp [step?])
          rintro (⟨after, ⟨⟩, ends⟩ | ⟨between, more, after, ⟨⟩, reads, ends⟩)
  | behind item (.object fields key :: frames) =>
      cases token with
      | comma =>
          simp only [step?, Option.some.injEq, exists_eq_left', Leads,
            List.append_assoc, List.singleton_append]
          constructor
          · rintro (⟨after, ⟨⟩, ends⟩ | ⟨between, more, after, ⟨⟩, reads, ends⟩)
            exact ⟨_, _, reads, ends⟩
          · rintro ⟨more, after, reads, ends⟩
            exact .inr ⟨_, _, _, rfl, reads, ends⟩
      | closing =>
          constructor
          · rintro (⟨after, ⟨⟩, ends⟩ | ⟨between, more, after, ⟨⟩, reads, ends⟩)
            exact ⟨_, rfl, ends⟩
          · rintro ⟨next, ⟨⟩, ends⟩
            exact .inl ⟨_, rfl, ends⟩
      | opening | listOpening | listClosing | colon | text written | word written =>
          refine iff_of_false ?_ (by simp [step?])
          rintro (⟨after, ⟨⟩, ends⟩ | ⟨between, more, after, ⟨⟩, reads, ends⟩)

/-- At the end of the tokens only a value with nothing open around it is complete. -/
theorem State.leads_nil_iff (state : State) :
    Leads document [] state ↔ state.end? = some document := by
  match state with
  | behind item [] => simp [end?, Leads, Closes]
  | behind item (.list items :: frames) => simp [end?, Leads, Closes]
  | behind item (.object fields key :: frames) => simp [end?, Leads, Closes]
  | value frames =>
      refine iff_of_false ?_ (by simp [end?])
      rintro ⟨item, rest, reads, -⟩
      cases reads
  | firstItem frames =>
      refine iff_of_false ?_ (by simp [end?])
      rintro (⟨after, ⟨⟩, -⟩ | ⟨items, after, reads, -⟩)
      cases reads with
      | last reads => cases reads
      | more reads further => cases reads
  | firstKey frames =>
      refine iff_of_false ?_ (by simp [end?])
      rintro (⟨after, ⟨⟩, -⟩ | ⟨fields, after, reads, -⟩)
      obtain ⟨key, tail, ⟨⟩⟩ := reads.shape
  | nextKey fields frames =>
      refine iff_of_false ?_ (by simp [end?])
      rintro ⟨more, after, reads, -⟩
      obtain ⟨key, tail, ⟨⟩⟩ := reads.shape
  | colon fields key frames =>
      refine iff_of_false ?_ (by simp [end?])
      rintro ⟨more, after, reads, -⟩
      obtain ⟨key, tail, ⟨⟩⟩ := reads.shape

/-- A reader reads what its state leads to. -/
theorem readFrom_eq_some_iff (tokens : List Token) (state : State) :
    readFrom state tokens = some document ↔ state.Leads document tokens := by
  induction tokens generalizing state with
  | nil => exact (State.leads_nil_iff state).symm
  | cons token rest ih =>
      rw [State.leads_cons_iff, readFrom]
      cases state.step? token with
      | none => simp
      | some next => simp [ih]

end

/-- The reader accepts what spells a value, and nothing else. -/
theorem parse?_eq_some_iff (text : List Char) (document : Document) :
    parse? text = some document ↔ Spells text document := by
  rw [parse?, Option.bind_eq_some_iff, Spells]
  refine exists_congr fun tokens => and_congr_right fun scanned => ?_
  rw [readFrom_eq_some_iff]
  constructor
  · rintro ⟨item, rest, reads, rfl, rfl⟩
    exact reads
  · intro reads
    exact ⟨document, [], reads, rfl, rfl⟩

end FileTransfer.Json
