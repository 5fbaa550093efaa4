import AskTable.Text.Blank
import AskTable.Text.Utf8
/-!
# Certificates

A certificate to trust is given in a file, in base 64 between a line that begins it and one that
ends it. Only its frame is checked: a sequence of the body, the algorithm and the signature.

## Main definitions

* `Certificate.decode64?` - the bytes that a text in base 64 writes
* `Certificate.readElement?` - one element of the binary form
* `Certificate.inFile` - does a file hold a certificate?
-/

namespace AskTable.Certificate

/-- The value of a digit in base 64. -/
def digit64? (c : Char) : Option Nat :=
  if 'A' ≤ c ∧ c ≤ 'Z' then some (c.toNat - 'A'.toNat)
  else if 'a' ≤ c ∧ c ≤ 'z' then some (c.toNat - 'a'.toNat + 26)
  else if '0' ≤ c ∧ c ≤ '9' then some (c.toNat - '0'.toNat + 52)
  else if c = '+' then some 62
  else if c = '/' then some 63
  else none

/-- The bytes that a text in base 64 writes. Four digits write three bytes; at the end one or two
digits may be replaced by equality signs. -/
def decode64? : Text → Option Bytes
  | [] => some []
  | [a, b, '=', '='] => do
    let a ← digit64? a
    let b ← digit64? b
    return [UInt8.ofNat (a * 4 + b / 16)]
  | [a, b, c, '='] => do
    let a ← digit64? a
    let b ← digit64? b
    let c ← digit64? c
    return [UInt8.ofNat (a * 4 + b / 16), UInt8.ofNat (b % 16 * 16 + c / 4)]
  | a :: b :: c :: d :: t => do
    let a ← digit64? a
    let b ← digit64? b
    let c ← digit64? c
    let d ← digit64? d
    let rest ← decode64? t
    return UInt8.ofNat (a * 4 + b / 16) :: UInt8.ofNat (b % 16 * 16 + c / 4)
      :: UInt8.ofNat (c % 4 * 64 + d) :: rest
  | _ => none

/-- The length of an element and what follows it: one byte below 128, or the number of the bytes
that write it and these bytes. -/
def readLength? : Bytes → Option (Nat × Bytes)
  | [] => none
  | b :: rest =>
    if b < 0x80 then some (b.toNat, rest)
    else
      let count := b.toNat - 0x80
      if count = 0 ∨ 4 < count ∨ rest.length < count then none
      else some ((rest.take count).foldl (fun n x => n * 256 + x.toNat) 0, rest.drop count)

/-- The tag and the content of the first element, and what follows it. -/
def readElement? : Bytes → Option (UInt8 × Bytes × Bytes)
  | [] => none
  | tag :: rest => do
    let (length, rest) ← readLength? rest
    if rest.length < length then none
    else some (tag, rest.take length, rest.drop length)

/-- The tag of a sequence. -/
def sequenceTag : UInt8 := 0x30

/-- The tag of a string of bits. -/
def bitStringTag : UInt8 := 0x03

/-- Do the bytes begin with a certificate? -/
def isFramed (bytes : Bytes) : Bool :=
  let frame : Option Bool := do
    let (tag, content, _) ← readElement? bytes
    let (bodyTag, _, rest) ← readElement? content
    let (algorithmTag, _, rest) ← readElement? rest
    let (signatureTag, _, rest) ← readElement? rest
    return tag = sequenceTag && bodyTag = sequenceTag && algorithmTag = sequenceTag
      && signatureTag = bitStringTag && rest.isEmpty
  frame.getD false

/-- The line that begins a certificate. -/
def beginLine : Text := "-----BEGIN CERTIFICATE-----"

/-- The line that ends a certificate. -/
def endLine : Text := "-----END CERTIFICATE-----"

/-- Does a file hold a certificate? The first one counts. -/
def inFile (content : Bytes) : Bool :=
  let lines := (Text.lines (Text.ofUtf8 content)).map Text.trimEnd
  match lines.dropWhile (· ≠ beginLine) with
  | [] => false
  | _ :: lines =>
    let (body, rest) := lines.span (· ≠ endLine)
    !rest.isEmpty && ((decode64? body.flatten).map isFramed).getD false

end AskTable.Certificate
