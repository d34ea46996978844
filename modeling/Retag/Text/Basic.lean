/-!
# Text

Templates, markers and expressions are taken apart from the left, one character
at a time, so they are kept as lists of characters. Names, log messages and
values that are only carried along are strings; `String.toList` and
`String.ofList` lead from one to the other.
-/

namespace Retag

/-- A text, as the list of its characters. -/
abbrev Text := List Char

end Retag
