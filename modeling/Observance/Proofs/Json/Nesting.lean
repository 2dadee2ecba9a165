import Observance.Json.Reader

/-! # Nesting and room

A limited room for nesting matters only by running out: a text that is read in it is read as it is
without a limit, and the same faults are found in it. And every room runs out, for arrays can lie
deeper in one another than it allows.
-/

namespace Observance.Json

/-- What is read in some room is what is read without a limit, unless the room runs out. -/
def ReadsAlike {α : Type} (limited unlimited : Except ReadError α) : Prop :=
  limited = unlimited ∨ ∃ container, limited = .error (.tooDeep container)

mutual

theorem readValue_room (room : Room) (fuel : Nat) (input : Text) :
    ReadsAlike (readValue room fuel input) (readValue none fuel input) := by
  cases fuel with
  | zero => exact .inl rfl
  | succ fuel =>
    simp only [readValue, Room.enter?_none]
    split
    · exact .inl rfl
    · exact .inl rfl
    next rest =>
      cases room.enter? 1 with
      | none => exact .inr ⟨.object, rfl⟩
      | some inside =>
        simp only
        split
        · exact .inl rfl
        next =>
          obtain same | ⟨container, tooDeep⟩ := readFields_room inside fuel [] (skipSpace rest)
          · rw [same]
            exact .inl rfl
          · rw [tooDeep]
            exact .inr ⟨container, rfl⟩
    next rest =>
      cases room.enter? 1 with
      | none => exact .inr ⟨.array, rfl⟩
      | some inside =>
        simp only
        split
        · exact .inl rfl
        next =>
          obtain same | ⟨container, tooDeep⟩ := readElements_room inside fuel (skipSpace rest)
          · rw [same]
            exact .inl rfl
          · rw [tooDeep]
            exact .inr ⟨container, rfl⟩
    · exact .inl rfl

theorem readFields_room (room : Room) (fuel : Nat) (fields : Fields) (input : Text) :
    ReadsAlike (readFields room fuel fields input) (readFields none fuel fields input) := by
  cases fuel with
  | zero => exact .inl rfl
  | succ fuel =>
    simp only [readFields]
    split
    next rest =>
      split
      · exact .inl rfl
      next name afterName _ =>
        split
        next afterColon _ =>
          obtain same | ⟨container, tooDeep⟩ := readValue_room room fuel (skipSpace afterColon)
          · rw [same]
            split
            · exact .inl rfl
            next value afterValue _ =>
              split
              · exact .inl rfl
              next after _ =>
                exact readFields_room room fuel (fields.put name value) (skipSpace after)
              · exact .inl rfl
          · rw [tooDeep]
            exact .inr ⟨container, rfl⟩
        · exact .inl rfl
    · exact .inl rfl

theorem readElements_room (room : Room) (fuel : Nat) (input : Text) :
    ReadsAlike (readElements room fuel input) (readElements none fuel input) := by
  cases fuel with
  | zero => exact .inl rfl
  | succ fuel =>
    simp only [readElements]
    obtain same | ⟨container, tooDeep⟩ := readValue_room room fuel input
    · rw [same]
      split
      · exact .inl rfl
      next element afterElement _ =>
        split
        · exact .inl rfl
        next after _ =>
          obtain same | ⟨container, tooDeep⟩ := readElements_room room fuel (skipSpace after)
          · rw [same]
            exact .inl rfl
          · rw [tooDeep]
            exact .inr ⟨container, rfl⟩
        · exact .inl rfl
    · rw [tooDeep]
      exact .inr ⟨container, rfl⟩

end

/-- Room changes nothing about a text but whether it can be read to its end. -/
theorem read_room (input : Text) (room : Room) : ReadsAlike (read input room) (read input) := by
  unfold read
  split
  · exact .inl rfl
  · unfold readDocument
    simp only
    obtain same | ⟨container, tooDeep⟩ :=
      readValue_room room (2 * (skipSpace input).length + 2) (skipSpace input)
    · rw [same]
      exact .inl rfl
    · rw [tooDeep]
      exact .inr ⟨container, rfl⟩

/-- An array whose first element is an array fails as its elements do. -/
theorem readValue_opened {room inside : Room} {fuel : Nat} {rest : Text} {error : ReadError}
    (entered : room.enter? 1 = some inside)
    (failure : readElements inside fuel (.char '[' :: rest) = .error error) :
    readValue room (fuel + 1) (.char '[' :: .char '[' :: rest) = .error error := by
  have front : skipSpace (.char '[' :: rest) = .char '[' :: rest := rfl
  rw [readValue, entered]
  simp only [front]
  split
  next closed => cases closed
  next => rw [failure]

/-- Arrays that are opened without end are read until the room runs out. -/
theorem readValue_brackets (levels fuel : Nat) (rest : Text) :
    readValue (some levels) (2 * levels + 1 + fuel)
      (List.replicate (levels + 1) (.char '[') ++ rest) = .error (.tooDeep .array) := by
  induction levels with
  | zero =>
    rw [Nat.add_comm]
    rfl
  | succ levels ih =>
    have inside : readElements (some levels) (2 * levels + 1 + fuel + 1)
        (List.replicate (levels + 1) (.char '[') ++ rest) = .error (.tooDeep .array) := by
      rw [readElements, ih]
    rw [show 2 * (levels + 1) + 1 + fuel = 2 * levels + 1 + fuel + 1 + 1 by omega,
      List.replicate_succ, List.cons_append]
    exact readValue_opened rfl inside

/-- No room is enough for every text. -/
theorem read_brackets (levels : Nat) (rest : Text) :
    read (List.replicate (levels + 1) (.char '[') ++ rest) (some levels) =
      .error (.tooDeep .array) := by
  have size : 2 * (List.replicate (levels + 1) (CodePoint.char '[') ++ rest).length + 2 =
      2 * levels + 1 + (2 * rest.length + 3) := by
    rw [List.length_append, List.length_replicate]
    omega
  have document : read (List.replicate (levels + 1) (.char '[') ++ rest) (some levels) =
      readDocument (some levels) (List.replicate (levels + 1) (.char '[') ++ rest) := rfl
  have front : skipSpace (List.replicate (levels + 1) (.char '[') ++ rest) =
      List.replicate (levels + 1) (.char '[') ++ rest := rfl
  simp only [document, readDocument, front, size, readValue_brackets]

end Observance.Json
