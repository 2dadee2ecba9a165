import Observance.Feed.Line

/-! # Folded lines

A line of a feed may be folded anywhere: a line end and a space or a tab are put into it, also
several times and at one place. The lines of a text that was folded in any way are those that were
folded, and an empty one after the last line end.
-/

namespace Observance.Feed

variable {chunk : Text}

/-- Whether a text has no line end, nor the first half of one. -/
def IsSingleLine (text : Text) : Prop := .char '\r' ∉ text ∧ .char '\n' ∉ text

instance (text : Text) : Decidable (IsSingleLine text) := inferInstanceAs (Decidable (_ ∧ _))

/-- An end of a line. -/
inductive LineEnd where
  | lineFeed
  | returnAndLineFeed
deriving Repr, DecidableEq

def LineEnd.text : LineEnd → Text
  | .lineFeed => ['\n']
  | .returnAndLineFeed => ['\r', '\n']

/-- Where a line is folded, and how it continues. -/
structure Fold where
  lineEnd : LineEnd
  indent : CodePoint
  added : Text
  isIndent : indent = ' ' ∨ indent = '\t'
  single : IsSingleLine added

def Fold.line (fold : Fold) : Text := fold.indent :: fold.added

/-- The characters that a fold puts into a line, and those that follow them. -/
def Fold.text (fold : Fold) : Text := fold.lineEnd.text ++ fold.line

/-- A line that is folded any number of times. -/
structure FoldedLine where
  first : Text
  folds : List Fold
  lineEnd : LineEnd
  begins : isContinuation first = false
  single : IsSingleLine first

namespace FoldedLine

def content (line : FoldedLine) : Text := line.first ++ line.folds.flatMap Fold.added

def text (line : FoldedLine) : Text :=
  line.first ++ (line.folds.flatMap Fold.text ++ line.lineEnd.text)

end FoldedLine

section Splitting

/-- Characters without a line end belong to the first line of what follows them. -/
theorem splitLines_prepend (single : IsSingleLine chunk) {text line : Text}
    {lines : List Text} (split : splitLines text = line :: lines) :
    splitLines (chunk ++ text) = (chunk ++ line) :: lines := by
  induction chunk with
  | nil => exact split
  | cons c chunk ih =>
    obtain ⟨noReturn, noFeed⟩ := single
    rw [List.mem_cons, not_or] at noReturn noFeed
    rw [List.cons_append, splitLines, ih ⟨noReturn.2, noFeed.2⟩]
    · rfl
    · exact fun _ isReturn => absurd isReturn.symm noReturn.1
    · exact fun isFeed => noFeed.1 isFeed.symm

theorem splitLines_lineEnd (lineEnd : LineEnd) (rest : Text) :
    splitLines (lineEnd.text ++ rest) = [] :: splitLines rest := by
  cases lineEnd <;> simp [LineEnd.text, splitLines]

theorem Fold.single_line (fold : Fold) : IsSingleLine fold.line := by
  obtain ⟨noReturn, noFeed⟩ := fold.single
  rcases fold.isIndent with space | tab
  · simp [IsSingleLine, Fold.line, space, noReturn, noFeed]
  · simp [IsSingleLine, Fold.line, tab, noReturn, noFeed]

theorem Fold.isContinuation_line (fold : Fold) : isContinuation fold.line = true := by
  rcases fold.isIndent with space | tab
  · rw [Fold.line, space, isContinuation]
  · rw [Fold.line, tab, isContinuation]

/-- Each fold begins a line. -/
theorem splitLines_folds (single : IsSingleLine chunk) (folds : List Fold) {rest : Text}
    {lines : List Text} (split : splitLines rest = [] :: lines) :
    splitLines (chunk ++ (folds.flatMap Fold.text ++ rest)) =
      chunk :: (folds.map Fold.line ++ lines) := by
  -- What a fold begins is the chunk before the next one.
  induction folds generalizing chunk with
  | nil =>
    have whole := splitLines_prepend single split
    rwa [List.append_nil] at whole
  | cons fold folds ih =>
    have ended := splitLines_prepend single (splitLines_lineEnd fold.lineEnd
      (fold.line ++ (folds.flatMap Fold.text ++ rest)))
    rw [ih fold.single_line, List.append_nil] at ended
    rw [List.flatMap_cons, Fold.text, List.append_assoc, List.append_assoc, ended]
    rfl

end Splitting

section Joining

/-- The lines that folds begin are joined to the line before them. -/
theorem joinLines_folds (folds : List Fold) (lines : List Text) :
    joinLines (folds.map Fold.line ++ lines) =
      (folds.flatMap Fold.added ++ (joinLines lines).1, (joinLines lines).2) := by
  induction folds with
  | nil => rfl
  | cons fold folds ih =>
    rw [List.map_cons, List.cons_append, joinLines, ih]
    simp only [fold.isContinuation_line, if_true, List.flatMap_cons, List.append_assoc]
    rfl

/-- A folded line is had back from a text; what follows it may continue it. -/
theorem joinLines_splitLines_text (line : FoldedLine) (rest : Text) :
    joinLines (splitLines (line.text ++ rest)) =
      ([], (line.content ++ (joinLines (splitLines rest)).1) ::
        (joinLines (splitLines rest)).2) := by
  have ended := splitLines_lineEnd line.lineEnd rest
  rw [FoldedLine.text, List.append_assoc, List.append_assoc,
    splitLines_folds line.single line.folds ended, joinLines, joinLines_folds]
  simp only [line.begins, Bool.false_eq_true, if_false, FoldedLine.content, List.append_assoc]

theorem joinLines_splitLines_texts (lines : List FoldedLine) :
    joinLines (splitLines (lines.flatMap FoldedLine.text)) =
      ([], lines.map FoldedLine.content ++ [[]]) := by
  induction lines with
  | nil => rfl
  | cons line lines ih =>
    rw [List.flatMap_cons, joinLines_splitLines_text, ih, List.append_nil]
    rfl

/-- The logical lines of a text are those that were folded, and an empty one at the end. -/
theorem unfoldLines_texts (lines : List FoldedLine) :
    unfoldLines (lines.flatMap FoldedLine.text) = lines.map FoldedLine.content ++ [[]] := by
  rw [unfoldLines, joinLines_splitLines_texts]

end Joining

end Observance.Feed
