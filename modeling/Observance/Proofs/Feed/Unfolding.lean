import Observance.Proofs.Feed.Insertion

/-! # Unfolding

Lines can be folded anywhere and put together with any line ends between them: unfolding gives the
lines back. The line end that a folded line has is not written after the last of them, because it
would begin an empty line. Continuations above the first line continue nothing, and are dropped.
-/

namespace Observance.Feed

def FoldedLine.body (line : FoldedLine) : Text := line.first ++ line.folds.flatMap Fold.text

/-- Folded lines with line ends between them. -/
def joined : List FoldedLine → Text
  | [] => []
  | [line] => line.body
  | line :: next :: lines => line.text ++ joined (next :: lines)

/-- A line that continues another, where there is no other. It may have returns in it. -/
structure Orphan where
  indent : CodePoint
  added : Text
  lineEnd : LineEnd
  isIndent : indent = ' ' ∨ indent = '\t'
  single : .char '\n' ∉ added

def Orphan.text (orphan : Orphan) : Text :=
  orphan.indent :: (orphan.added ++ orphan.lineEnd.text)

section Lines

theorem joinLines_splitLines_body (line : FoldedLine) :
    joinLines (splitLines line.body) = ([], [line.content]) := by
  have split := splitLines_folds line.single line.folds (show splitLines [] = [] :: [] from rfl)
  have joins := joinLines_folds line.folds []
  rw [List.append_nil] at split joins
  rw [FoldedLine.body, split, List.append_nil, joinLines, joins]
  simp only [line.begins, Bool.false_eq_true, if_false, joinLines, List.append_nil,
    FoldedLine.content]

/-- Lines with line ends between them are had back. -/
theorem joinLines_splitLines_joined {lines : List FoldedLine} (nonempty : lines ≠ []) :
    joinLines (splitLines (joined lines)) = ([], lines.map FoldedLine.content) := by
  fun_induction joined lines with
  | case1 => exact absurd rfl nonempty
  | case2 line => exact joinLines_splitLines_body line
  | case3 line next lines ih =>
    rw [joinLines_splitLines_text, ih (List.cons_ne_nil next lines), List.append_nil]
    rfl

end Lines

section Orphans

/-- A line feed ends a line with no line feed before it. -/
theorem exists_splitLines_lineEnd {added : Text} (single : .char '\n' ∉ added) (lineEnd : LineEnd) :
    ∃ line, ∀ rest, splitLines (added ++ lineEnd.text ++ rest) = line :: splitLines rest := by
  have ended : ∃ before, .char '\n' ∉ before ∧ added ++ lineEnd.text = before ++ [.char '\n'] := by
    cases lineEnd with
    | lineFeed => exact ⟨added, single, rfl⟩
    | returnAndLineFeed => exact ⟨added ++ [.char '\r'], by simp [single], by simp [LineEnd.text]⟩
  obtain ⟨before, unbroken, isBefore⟩ := ended
  obtain ⟨line, lines, length, split⟩ := exists_splitLines_append before
  rw [List.count_eq_zero.mpr unbroken, List.length_eq_zero_iff] at length
  subst length
  refine ⟨line, fun rest => ?_⟩
  rw [isBefore, List.append_assoc]
  exact split rest

/-- A continuation above all lines is dropped. -/
theorem unfoldLines_orphan (orphan : Orphan) (text : Text) :
    unfoldLines (orphan.text ++ text) = unfoldLines text := by
  obtain ⟨line, split⟩ := exists_splitLines_lineEnd orphan.single orphan.lineEnd
  have first : splitLines (orphan.text ++ text) = (orphan.indent :: line) :: splitLines text := by
    rw [Orphan.text, List.cons_append, splitLines, split text]
    all_goals rcases orphan.isIndent with space | tab <;> simp [*]
  have continues : isContinuation (orphan.indent :: line) = true := by
    rw [isContinuation_cons]
    rcases orphan.isIndent with space | tab <;> simp [*]
  rw [unfoldLines, first, joinLines]
  simp only [continues, if_true]
  rfl

theorem unfoldLines_orphans (orphans : List Orphan) (text : Text) :
    unfoldLines (orphans.flatMap Orphan.text ++ text) = unfoldLines text := by
  induction orphans with
  | nil => rfl
  | cons orphan orphans ih => rw [List.flatMap_cons, List.append_assoc, unfoldLines_orphan, ih]

end Orphans

/-- Lines are had back however they are folded and whatever line ends are between them, also below
continuations that continue nothing. -/
theorem unfoldLines_joined (lines : List FoldedLine) (nonempty : lines ≠ []) :
    unfoldLines (joined lines) = lines.map FoldedLine.content ∧
      ∀ orphans : List Orphan, unfoldLines (orphans.flatMap Orphan.text ++ joined lines) =
        lines.map FoldedLine.content := by
  have whole : unfoldLines (joined lines) = lines.map FoldedLine.content := by
    rw [unfoldLines, joinLines_splitLines_joined nonempty]
  exact ⟨whole, fun orphans => (unfoldLines_orphans orphans _).trans whole⟩

section Tangled

theorem isIndent_space : CodePoint.char ' ' = ' ' ∨ CodePoint.char ' ' = '\t' := .inl rfl

theorem isIndent_tab : CodePoint.char '\t' = ' ' ∨ CodePoint.char '\t' = '\t' := .inr rfl

/-- A line that begins with a space, and is folded before it; a line that is folded in the middle
and at its end; and a line without characters. -/
def tangledLines : List FoldedLine := [
  { first := [], folds := [⟨.lineFeed, ' ', " a", isIndent_space, by decide⟩],
    lineEnd := .returnAndLineFeed, begins := rfl, single := by decide },
  { first := "b", folds := [⟨.returnAndLineFeed, '\t', "c", isIndent_tab, by decide⟩,
      ⟨.lineFeed, '\t', [], isIndent_tab, by decide⟩],
    lineEnd := .lineFeed, begins := by decide, single := by decide },
  { first := [], folds := [], lineEnd := .lineFeed, begins := rfl, single := by decide }]

/-- Two lines that continue nothing; the first has a return before its line end. -/
def tangledOrphans : List Orphan := [
  ⟨'\t', "lost\r", .returnAndLineFeed, isIndent_tab, by decide⟩,
  ⟨' ', [], .lineFeed, isIndent_space, by decide⟩]

theorem unfoldLines_joined_tangled :
    unfoldLines "\tlost\r\r\n \n\n  a\r\nb\r\n\tc\n\t\n" = [(" a" : Text), "bc", ""] :=
  (unfoldLines_joined tangledLines (by decide)).2 tangledOrphans

end Tangled

end Observance.Feed
