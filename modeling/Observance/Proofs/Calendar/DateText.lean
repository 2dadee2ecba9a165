import Observance.Calendar.Shape
import Observance.Proofs.Text.Digits
import Observance.Schedule.Reader

/-! # Published dates

A published date is read from a text exactly if the text is the one that the date is written in:
the shape of a date leaves no other form, and a text that has digits of another script or a line
feed after it has too many bytes to be read.
-/

namespace Observance

open Text

namespace Text.Utf8

theorem length_encodePoint_pos (point : CodePoint) : 0 < (encodePoint point).length := by
  cases point with
  | char c => exact String.length_utf8EncodeChar c ▸ c.utf8Size_pos
  | half index => exact Nat.succ_pos _

theorem length_encode_cons (point : CodePoint) (rest : Text) :
    (encode (point :: rest)).length = (encodePoint point).length + (encode rest).length := by
  rw [encode, List.flatMap_cons, List.length_append, encode]

theorem length_le_length_encode (text : Text) : text.length ≤ (encode text).length := by
  induction text with
  | nil => exact Nat.le_refl _
  | cons point rest ih =>
    have := length_encodePoint_pos point
    rw [length_encode_cons, List.length_cons]
    omega

/-- Code points with no more bytes than there are of them have one byte each. -/
theorem length_encodePoint_of_narrow {text : Text}
    (narrow : (encode text).length ≤ text.length) :
    ∀ point ∈ text, (encodePoint point).length = 1 := by
  induction text with
  | nil => exact List.forall_mem_nil _
  | cons point rest ih =>
    have := length_encodePoint_pos point
    have := length_le_length_encode rest
    rw [length_encode_cons, List.length_cons] at narrow
    exact List.forall_mem_cons.mpr ⟨by omega, ih (by omega)⟩

/-- Of the digits of all scripts, those of one byte are the digits of ASCII. -/
theorem isAsciiDigit_of_narrow {point : CodePoint} (digit : isDigit point = true)
    (narrow : (encodePoint point).length = 1) : isAsciiDigit point = true := by
  have table : ∀ code < 128, (digitValueOfCode? code).isSome = true →
      isAsciiDigit (CodePoint.ofNat code) = true := by decide
  cases point with
  | char c =>
    rw [encodePoint, String.length_utf8EncodeChar] at narrow
    have small := UInt32.le_iff_toNat_le.mp (Char.utf8Size_eq_one_iff.mp narrow)
    have found := table c.toNat (Nat.lt_succ_of_le small) digit
    rwa [← CodePoint.toNat_char, CodePoint.ofNat_toNat] at found
  | half index => cases narrow

theorem length_encodePoint_of_isAsciiDigit {point : CodePoint}
    (digit : isAsciiDigit point = true) : (encodePoint point).length = 1 := by
  obtain ⟨d, bound, rfl⟩ := (isAsciiDigit_iff point).mp digit
  have table : ∀ d < 10, (encodePoint (Nat.digitChar d)).length = 1 := by decide
  exact table d bound

end Text.Utf8

theorem Text.isWhole_of_isAsciiDigit {digits : Text}
    (ascii : ∀ c ∈ digits, isAsciiDigit c = true) : digits.isWhole = true := by
  refine List.all_eq_true.mpr fun c member => ?_
  obtain ⟨d, -, rfl⟩ := (isAsciiDigit_iff c).mp (ascii c member)
  rfl

theorem Calendar.daysInMonth_le (year month : Nat) : daysInMonth year month ≤ 31 := by
  unfold daysInMonth
  split
  · split <;> decide
  all_goals decide

namespace Date

open Calendar

theorem ofCheckedParts_eq_ok_iff (year month day : Nat) (date : Date) :
    ofCheckedParts year month day = .ok date ↔
      date.year = year ∧ date.month = month ∧ date.day = day := by
  constructor
  · intro success
    unfold ofCheckedParts at success
    split at success
    · cases success
    split at success
    · cases success
    split at success
    next made =>
      cases success
      simp only [Int.toNat_natCast, ofParts?] at made
      split at made
      · cases made
        exact ⟨rfl, rfl, rfl⟩
      · cases made
    · cases success
  · rintro ⟨rfl, rfl, rfl⟩
    have valid := date.valid
    have made : ofParts? date.year date.month date.day = some date := dif_pos valid
    simp only [IsDate, firstYear, lastYear] at valid
    rw [ofCheckedParts, if_neg (by simp only [firstYear, lastYear]; omega), if_neg (by omega)]
    simp only [Int.toNat_natCast, made]

/-- A text of two hyphens between digits is read by its digits. -/
theorem ofText_digits (y₁ y₂ y₃ y₄ m₁ m₂ d₁ d₂ : CodePoint)
    (ascii : ∀ c ∈ [y₁, y₂, y₃, y₄, m₁, m₂, d₁, d₂], isAsciiDigit c = true) :
    ofText [y₁, y₂, y₃, y₄, .char '-', m₁, m₂, .char '-', d₁, d₂] =
      ofCheckedParts (digitsValue [y₁, y₂, y₃, y₄]) (digitsValue [m₁, m₂])
        (digitsValue [d₁, d₂]) := by
  simp only [List.mem_cons, List.not_mem_nil, or_false, forall_eq_or_imp, forall_eq] at ascii
  obtain ⟨a₁, a₂, a₃, a₄, b₁, b₂, c₁, c₂⟩ := ascii
  have size : hasDateSize [y₁, y₂, y₃, y₄, .char '-', m₁, m₂, .char '-', d₁, d₂] = true := by
    have hyphen : (Utf8.encodePoint '-').length = 1 := rfl
    have whole : isWhole ([y₁, y₂, y₃, y₄] ++ [m₁, m₂] ++ [d₁, d₂]) = true :=
      isWhole_of_isAsciiDigit (by simpa using ⟨a₁, a₂, a₃, a₄, b₁, b₂, c₁, c₂⟩)
    have bytes : (Utf8.encode [y₁, y₂, y₃, y₄, .char '-', m₁, m₂, .char '-', d₁, d₂]).length =
        10 := by
      simp only [Utf8.length_encode_cons, Utf8.length_encodePoint_of_isAsciiDigit, hyphen,
        a₁, a₂, a₃, a₄, b₁, b₂, c₁, c₂]
      rfl
    simp only [isWhole, List.cons_append, List.nil_append, List.all_cons, List.all_nil,
      Bool.and_true, Bool.and_eq_true] at whole
    have hyphenWhole : (CodePoint.char '-').char?.isSome = true := rfl
    simp [hasDateSize, bytes, isWhole, whole, hyphenWhole]
  have notWeek : m₁ ≠ 'W' := by
    rintro rfl
    exact absurd b₁ (by decide)
  have year : readDigits? 4 [y₁, y₂, y₃, y₄, .char '-', m₁, m₂, .char '-', d₁, d₂] =
      some (digitsValue [y₁, y₂, y₃, y₄], [.char '-', m₁, m₂, .char '-', d₁, d₂]) := by
    simp [readDigits?, a₁, a₂, a₃, a₄]
  have month : readDigits? 2 [m₁, m₂, .char '-', d₁, d₂] =
      some (digitsValue [m₁, m₂], [.char '-', d₁, d₂]) := by
    simp [readDigits?, b₁, b₂]
  have day : readDigits? 2 [d₁, d₂] = some (digitsValue [d₁, d₂], []) := by
    simp [readDigits?, c₁, c₂]
  have monthAndDay : readMonthAndDay? true [m₁, m₂, .char '-', d₁, d₂] =
      some (digitsValue [m₁, m₂], digitsValue [d₁, d₂]) := by
    simp [readMonthAndDay?, month, readHyphen?, day]
  simp only [ofText, size, year]
  simp [notWeek, monthAndDay]

private theorem exists_of_length_eq_two {digits : Text} (length : digits.length = 2) :
    ∃ a b, digits = [a, b] := by
  match digits, length with
  | [a, b], _ => exact ⟨a, b, rfl⟩

private theorem exists_of_length_eq_four {digits : Text} (length : digits.length = 4) :
    ∃ a b c d, digits = [a, b, c, d] := by
  match digits, length with
  | [a, b, c, d], _ => exact ⟨a, b, c, d, rfl⟩

/-- The parts of a date have no more digits than they are written with. -/
theorem parts_lt (date : Date) : date.year < 10 ^ 4 ∧ date.month < 10 ^ 2 ∧ date.day < 10 ^ 2 := by
  obtain ⟨⟨-, years⟩, ⟨-, months⟩, -, days⟩ := date.valid
  have short := daysInMonth_le date.year date.month
  rw [lastYear] at years
  omega

/-- How many digits the parts of a date have. -/
theorem length_parts (date : Date) : (paddedDecimal 4 date.year).length = 4 ∧
    (paddedDecimal 2 date.month).length = 2 ∧ (paddedDecimal 2 date.day).length = 2 := by
  obtain ⟨years, months, days⟩ := date.parts_lt
  exact ⟨length_paddedDecimal (by decide) years, length_paddedDecimal (by decide) months,
    length_paddedDecimal (by decide) days⟩

/-- The text of a date has eight digits and two hyphens. -/
theorem text_eq (date : Date) : ∃ y₁ y₂ y₃ y₄ m₁ m₂ d₁ d₂,
    date.text = [y₁, y₂, y₃, y₄, .char '-', m₁, m₂, .char '-', d₁, d₂] ∧
      (∀ c ∈ [y₁, y₂, y₃, y₄, m₁, m₂, d₁, d₂], isAsciiDigit c = true) ∧
        digitsValue [y₁, y₂, y₃, y₄] = date.year ∧ digitsValue [m₁, m₂] = date.month ∧
          digitsValue [d₁, d₂] = date.day := by
  obtain ⟨years, months, days⟩ := date.length_parts
  obtain ⟨y₁, y₂, y₃, y₄, year⟩ := exists_of_length_eq_four years
  obtain ⟨m₁, m₂, month⟩ := exists_of_length_eq_two months
  obtain ⟨d₁, d₂, day⟩ := exists_of_length_eq_two days
  refine ⟨y₁, y₂, y₃, y₄, m₁, m₂, d₁, d₂, ?_, ?_, ?_, ?_, ?_⟩
  · simp [text, year, month, day]
  · intro c member
    have member : c ∈ [y₁, y₂, y₃, y₄] ++ [m₁, m₂] ++ [d₁, d₂] := by simpa using member
    rw [← year, ← month, ← day, List.mem_append, List.mem_append] at member
    rcases member with (member | member) | member
    all_goals exact isAsciiDigit_of_mem_paddedDecimal member
  · rw [← year, digitsValue_paddedDecimal]
  · rw [← month, digitsValue_paddedDecimal]
  · rw [← day, digitsValue_paddedDecimal]

theorem text_ne_nil (date : Date) : date.text ≠ [] := by
  obtain ⟨y₁, y₂, y₃, y₄, m₁, m₂, d₁, d₂, characters, -⟩ := text_eq date
  simp [characters]

/-- A date is read from its text. -/
theorem ofText_text (date : Date) : ofText date.text = .ok date := by
  obtain ⟨y₁, y₂, y₃, y₄, m₁, m₂, d₁, d₂, characters, ascii, year, month, day⟩ := text_eq date
  rw [characters, ofText_digits _ _ _ _ _ _ _ _ ascii, year, month, day]
  exact (ofCheckedParts_eq_ok_iff _ _ _ date).mpr ⟨rfl, rfl, rfl⟩

/-- No two dates have the same text. -/
theorem text_injective {first second : Date} (same : first.text = second.text) :
    first = second := by
  have read := ofText_text first
  rw [same, ofText_text] at read
  cases read
  rfl

/-- The text of a date has the shape of one. -/
theorem hasDateShape_text (date : Date) : hasDateShape date.text = true := by
  obtain ⟨y₁, y₂, y₃, y₄, m₁, m₂, d₁, d₂, characters, ascii, -⟩ := text_eq date
  simp only [List.mem_cons, List.not_mem_nil, or_false, forall_eq_or_imp, forall_eq] at ascii
  simp [hasDateShape, characters, isDateShape, isDigit_of_isAsciiDigit, ascii]

/-- Digits of a date's shape that are read as a date are those that it is written with. -/
theorem text_of_ofText_digits {y₁ y₂ y₃ y₄ m₁ m₂ d₁ d₂ : CodePoint} {date : Date}
    (ascii : ∀ c ∈ [y₁, y₂, y₃, y₄, m₁, m₂, d₁, d₂], isAsciiDigit c = true)
    (success : ofText [y₁, y₂, y₃, y₄, .char '-', m₁, m₂, .char '-', d₁, d₂] = .ok date) :
    [y₁, y₂, y₃, y₄, .char '-', m₁, m₂, .char '-', d₁, d₂] = date.text := by
  rw [ofText_digits _ _ _ _ _ _ _ _ ascii, ofCheckedParts_eq_ok_iff] at success
  obtain ⟨year, month, day⟩ := success
  have years := paddedDecimal_digitsValue [y₁, y₂, y₃, y₄] (by simp)
    fun c member => ascii c (by grind)
  have months := paddedDecimal_digitsValue [m₁, m₂] (by simp)
    fun c member => ascii c (by grind)
  have days := paddedDecimal_digitsValue [d₁, d₂] (by simp)
    fun c member => ascii c (by grind)
  simp only [List.length_cons, List.length_nil, Nat.zero_add, Nat.reduceAdd] at years months days
  rw [text, year, month, day, years, months, days]
  rfl

theorem exists_of_isDateShape {characters : Text} (shape : isDateShape characters = true) :
    ∃ y₁ y₂ y₃ y₄ m₁ m₂ d₁ d₂, characters = [y₁, y₂, y₃, y₄, .char '-', m₁, m₂, .char '-', d₁, d₂] ∧
      ∀ c ∈ [y₁, y₂, y₃, y₄, m₁, m₂, d₁, d₂], isDigit c = true := by
  unfold isDateShape at shape
  split at shape
  next y₁ y₂ y₃ y₄ m₁ m₂ d₁ d₂ =>
    exact ⟨y₁, y₂, y₃, y₄, m₁, m₂, d₁, d₂, rfl, by simpa using shape⟩
  · cases shape

/-- A text with the shape of a date is read as a date only if it is the text of that date. -/
theorem text_of_ofText {value : Text} {date : Date} (shape : hasDateShape value = true)
    (success : ofText value = .ok date) : value = date.text := by
  have size : (Utf8.encode value).length ≤ 10 := by
    rw [ofText] at success
    split at success
    · cases success
    next hasSize =>
      simp only [hasDateSize, Bool.not_eq_true', Bool.not_eq_false, Bool.and_eq_true,
        decide_eq_true_eq] at hasSize
      omega
  have bytes := Utf8.length_le_length_encode value
  rw [hasDateShape, Bool.or_eq_true, Bool.and_eq_true] at shape
  rcases shape with shape | ⟨lineFeed, shape⟩
  · obtain ⟨y₁, y₂, y₃, y₄, m₁, m₂, d₁, d₂, rfl, digits⟩ := exists_of_isDateShape shape
    have narrow := Utf8.length_encodePoint_of_narrow size
    refine text_of_ofText_digits (fun c member => ?_) success
    exact Utf8.isAsciiDigit_of_narrow (digits c member) (narrow c (by grind))
  · obtain ⟨y₁, y₂, y₃, y₄, m₁, m₂, d₁, d₂, characters, -⟩ := exists_of_isDateShape shape
    have length := congrArg List.length characters
    rw [List.length_dropLast] at length
    simp only [List.length_cons, List.length_nil] at length
    omega

end Date

/-- A published date is read exactly from the text that it is written in. -/
theorem Schedule.readDate?_eq_some_iff (value : Text) (date : Date) :
    readDate? value = some date ↔ value = date.text := by
  constructor
  · intro success
    unfold readDate? at success
    split at success
    next shape =>
      rw [Date.ofText?] at success
      cases read : Date.ofText value with
      | ok found =>
        rw [read] at success
        cases success
        exact Date.text_of_ofText shape read
      | error error =>
        rw [read] at success
        cases success
    · cases success
  · rintro rfl
    rw [readDate?, if_pos (Date.hasDateShape_text date), Date.ofText?, Date.ofText_text]
    rfl

end Observance
