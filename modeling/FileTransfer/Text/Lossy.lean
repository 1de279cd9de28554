import FileTransfer.Bytes

namespace FileTransfer.Text

/-!
# Text of octets that need not be UTF-8

Messages show file names that a peer sent and paths that a user typed, and
neither has to be UTF-8.  Every maximal part of a run that begins a sequence
without completing it is shown as one replacement character.
-/

/--
What a leading octet announces: the number of octets that follow it, and the
bounds of the first of them.  An octet that leads nothing announces nothing.
-/
def announced? (octet : UInt8) : Option (Nat × UInt8 × UInt8) :=
  if octet < 0x80 then some (0, 0x80, 0xBF)
  else if octet < 0xC2 then none
  else if octet < 0xE0 then some (1, 0x80, 0xBF)
  else if octet = 0xE0 then some (2, 0xA0, 0xBF)
  else if octet = 0xED then some (2, 0x80, 0x9F)
  else if octet < 0xF0 then some (2, 0x80, 0xBF)
  else if octet = 0xF0 then some (3, 0x90, 0xBF)
  else if octet < 0xF4 then some (3, 0x80, 0xBF)
  else if octet = 0xF4 then some (3, 0x80, 0x8F)
  else none

/--
The longest front of a run that continues a sequence: at most `count` octets,
the first within the given bounds and the others within `0x80` and `0xBF`.
-/
def continued (count : Nat) (low high : UInt8) : Bytes → Bytes
  | [] => []
  | octet :: rest =>
      match count with
      | 0 => []
      | more + 1 =>
          if low ≤ octet ∧ octet ≤ high then
            octet :: continued more 0x80 0xBF rest
          else
            []

/-- The character that a leading octet and its continuation encode. -/
def assemble (lead : UInt8) (tail : Bytes) : Char :=
  let own :=
    match tail.length with
    | 0 => lead.toNat
    | 1 => lead.toNat % 32
    | 2 => lead.toNat % 16
    | _ => lead.toNat % 8
  Char.ofNat (tail.foldl (fun value octet => value * 64 + octet.toNat % 64) own)

/-- The character that a run begins with, if it begins with one. -/
def leading? : Bytes → Option Char
  | [] => none
  | lead :: rest =>
      match announced? lead with
      | none => none
      | some (count, low, high) =>
          let tail := continued count low high rest
          if tail.length = count then some (assemble lead tail) else none

/-- The character that stands for octets without a text. -/
def replacement : Char := '\uFFFD'

/-- The characters of a run, with replacements for what is not UTF-8. -/
def lossyChars : Bytes → List Char
  | [] => []
  | lead :: rest =>
      match announced? lead with
      | none => replacement :: lossyChars rest
      | some (count, low, high) =>
          let tail := continued count low high rest
          let char :=
            if tail.length = count then assemble lead tail else replacement
          char :: lossyChars (rest.drop tail.length)
termination_by bytes => bytes.length
decreasing_by
  all_goals simp only [List.length_cons, List.length_drop]; omega

/-- The text of a run, with replacements for what is not UTF-8. -/
def lossy (bytes : Bytes) : String :=
  String.ofList (lossyChars bytes)

end FileTransfer.Text
