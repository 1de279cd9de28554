namespace FileTransfer

/-!
# The time of an entry

Entries carry the moment of their event in universal time, as a calendar day
and a time of day.  A fraction of a second has as few groups of three digits as
hold it.
-/

/-- A day of the Gregorian calendar. -/
structure CalendarDay where
  year : Nat
  month : Nat
  day : Nat
  deriving Repr, DecidableEq

namespace CalendarDay

/--
The day so many days after the first of January 1970.  Years are counted from
March, so that a leap day is the last day of its year, in eras of 400 years.
-/
def ofDays (days : Nat) : CalendarDay :=
  let shifted := days + 719468
  let ofEra := shifted % 146097
  let yearOfEra :=
    (ofEra - ofEra / 1460 + ofEra / 36524 - ofEra / 146096) / 365
  let ofYear := ofEra - (365 * yearOfEra + yearOfEra / 4 - yearOfEra / 100)
  let fromMarch := (5 * ofYear + 2) / 153
  let month := if fromMarch < 10 then fromMarch + 3 else fromMarch - 9
  { year :=
      yearOfEra + shifted / 146097 * 400 + (if month ≤ 2 then 1 else 0)
    month := month
    day := ofYear - (153 * fromMarch + 2) / 5 + 1 }

end CalendarDay

namespace Stamp

/-- A number with zeros in front up to a width. -/
def padded (width value : Nat) : String :=
  let digits := toString value
  String.ofList (List.replicate (width - digits.length) '0') ++ digits

def fraction (nanos : Nat) : String :=
  if nanos = 0 then ""
  else if nanos % 1000000 = 0 then "." ++ padded 3 (nanos / 1000000)
  else if nanos % 1000 = 0 then "." ++ padded 6 (nanos / 1000)
  else "." ++ padded 9 nanos

/-- The moment so many seconds and nanoseconds after the beginning of 1970. -/
def ofMoment (seconds nanos : Nat) : String :=
  let day := CalendarDay.ofDays (seconds / 86400)
  let time := seconds % 86400
  s!"{padded 4 day.year}-{padded 2 day.month}-{padded 2 day.day}T" ++
    s!"{padded 2 (time / 3600)}:{padded 2 (time / 60 % 60)}:" ++
    s!"{padded 2 (time % 60)}{fraction nanos}+00:00"

end Stamp

end FileTransfer
