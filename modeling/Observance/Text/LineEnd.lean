import Observance.Text.Basic

/-! # Line ends

Files are read with any of the three line ends, a line feed, a carriage return, or both together;
each counts as one line feed.
-/

namespace Observance.Text

/-- Characters with every line end as a line feed. -/
def normalizeLineEnds : Text → Text
  | [] => []
  | '\r' :: '\n' :: rest => '\n' :: normalizeLineEnds rest
  | '\r' :: rest => '\n' :: normalizeLineEnds rest
  | c :: rest => c :: normalizeLineEnds rest

end Observance.Text
