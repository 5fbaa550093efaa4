import AskTable.Json.Printer
/-!
# Result rows

## Main definitions

* `ResultSet` - rows of named values, in order
* `ResultSet.toJson` - rows as JSON
-/

namespace AskTable

/-- Rows of named values. A row keeps its columns in order. -/
abbrev ResultSet := List Fields

/-- Rows as a JSON array of objects. -/
def ResultSet.toJson (rows : ResultSet) : Json := .arr (rows.map .obj)

end AskTable
