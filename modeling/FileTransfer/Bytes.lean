namespace FileTransfer

/-!
# Bytes and their text

Everything that crosses a connection or rests in a file is a finite run of
octets.  A run has a text exactly when it is well-formed UTF-8, and then it has
only one: `text?_eq_some_iff` says that reading a text from a run and writing a
text as a run undo each other.
-/

/-- A finite run of octets, in order. -/
abbrev Bytes := List UInt8

namespace Bytes

def ofText (text : String) : Bytes :=
  text.toUTF8.data.toList

/-- The text that a run of octets encodes, if it is well-formed UTF-8. -/
def text? (bytes : Bytes) : Option String :=
  String.fromUTF8? bytes.toByteArray

/-- The octets of a text, packed again, are the text's own storage. -/
theorem toByteArray_ofText (text : String) :
    (ofText text).toByteArray = text.toUTF8 := by
  simp [ofText, ByteArray.ext_iff]

/-- Reading back the encoding of a text gives the text. -/
theorem text?_ofText (text : String) : text? (ofText text) = some text := by
  unfold text? String.fromUTF8?
  rw [toByteArray_ofText, String.toUTF8_eq_toByteArray,
    dif_pos text.isValidUTF8]
  rfl

/-- A text that was read from a run of octets encodes to that run. -/
theorem ofText_of_text?
    {bytes : Bytes}
    {text : String}
    (reads : text? bytes = some text) :
    ofText text = bytes := by
  unfold text? String.fromUTF8? at reads
  split at reads
  · cases reads
    simp [ofText, String.toUTF8, String.fromUTF8]
  · cases reads

/-- A run of octets reads as a text exactly when it is the text's encoding. -/
theorem text?_eq_some_iff
    {bytes : Bytes}
    {text : String} :
    text? bytes = some text ↔ ofText text = bytes :=
  ⟨ofText_of_text?, fun encodes => encodes ▸ text?_ofText text⟩

/-- Two texts with the same encoding are equal. -/
theorem ofText_injective
    {first second : String}
    (same : ofText first = ofText second) :
    first = second := by
  have reads := text?_ofText first
  rw [same, text?_ofText] at reads
  exact (Option.some.inj reads).symm

/-- The encoding of a concatenation is the concatenation of the encodings. -/
theorem ofText_append (first second : String) :
    ofText (first ++ second) = ofText first ++ ofText second := by
  simp [ofText, String.toUTF8]

/-- The empty text has the empty encoding. -/
theorem ofText_empty : ofText "" = [] := rfl

/-- The lower-case hexadecimal digit of a number below sixteen. -/
def hexDigit (value : Nat) : Char :=
  Char.ofNat (if value < 10 then 48 + value else 87 + value)

/-- Two lower-case hexadecimal digits per octet, high half first. -/
def toHex (bytes : Bytes) : String :=
  String.ofList
    (bytes.flatMap fun octet =>
      [hexDigit (octet.toNat / 16), hexDigit (octet.toNat % 16)])

/-- Two octets that hold a number below `65536`, high octet first. -/
def ofNat16 (value : Nat) : Bytes :=
  [UInt8.ofNat (value / 256), UInt8.ofNat (value % 256)]

/-- The number that some octets hold, highest octet first. -/
def toNat (bytes : Bytes) : Nat :=
  bytes.foldl (fun value octet => value * 256 + octet.toNat) 0

/-- A number below `65536` is read back from its two octets. -/
theorem toNat_ofNat16
    {value : Nat}
    (small : value < 65536) :
    toNat (ofNat16 value) = value := by
  simp only [toNat, ofNat16, List.foldl_cons, List.foldl_nil, UInt8.toNat_ofNat']
  omega

end Bytes

end FileTransfer
