import AskTable.Error
import AskTable.Text.Utf8
/-!
# Files

The files that a program can read are a function from paths to contents, so that what is read is
part of the input.

## Main definitions

* `Files` - contents by path
* `Files.readText` - the content of a file as a text
-/

namespace AskTable

/-- What reading the file at a path gives. -/
abbrev Files := (path : Text) → Except FileFault Bytes

namespace Files

/-- The text of some file content. -/
def decode (content : Bytes) : Except FileFault Text :=
  match Text.ofUtf8? content with
  | some t => .ok t
  | none => .error .notUtf8

/-- The text of the file at a path. -/
def readText (files : Files) (path : Text) : Except Error Text :=
  match files path >>= decode with
  | .ok t => .ok t
  | .error fault => .error (.io fault.message)

end Files

end AskTable
