import Observance.Pattern.Width
import Observance.Text.Case
import Observance.Text.CharacterName
import Observance.Text.Identifier
import Observance.Text.Letter

/-! # Reading search patterns

A pattern is read from left to right. The first fault met is the one reported, which is why the
steps below keep to the order in which the text presents its parts.
-/

namespace Observance.Pattern

open Observance.Text Reading

/-- What an escape stands for inside a set or as an item. -/
inductive Escape where
  | code (value : Nat)
  | category (kind : Category) (negated : Bool)
  | anchor (kind : Anchor)
  | backreference (index : Nat)
deriving Repr, DecidableEq

def isHexDigit (c : CodePoint) : Bool :=
  isAsciiDigit c || ('a' ≤ c && c ≤ 'f') || ('A' ≤ c && c ≤ 'F')

def isOctalDigit (c : CodePoint) : Bool := '0' ≤ c && c ≤ '7'

def hexDigitValue (c : CodePoint) : Nat :=
  if isAsciiDigit c then c.toNat - 48 else c.toNat % 32 + 9

def numberInBase (base : Nat) (digits : Text) : Nat :=
  digits.foldl (fun value c => value * base + hexDigitValue c) 0

/-- The character escapes that work everywhere. -/
def controlEscape? : CodePoint → Option Nat
  | 'a' => some 7
  | 'b' => some 8
  | 'f' => some 12
  | 'n' => some 10
  | 'r' => some 13
  | 't' => some 9
  | 'v' => some 11
  | '\\' => some 92
  | _ => none

def categoryEscape? : CodePoint → Option Escape
  | 'd' => some (.category .digit false)
  | 'D' => some (.category .digit true)
  | 's' => some (.category .space false)
  | 'S' => some (.category .space true)
  | 'w' => some (.category .word false)
  | 'W' => some (.category .word true)
  | _ => none

/-- The escapes of zero-width tests. -/
def anchorEscape? : CodePoint → Option Escape
  | 'A' => some (.anchor .textStart)
  | 'b' => some (.anchor .wordEdge)
  | 'B' => some (.anchor .notWordEdge)
  | 'Z' => some (.anchor .textEnd)
  | _ => none

def failEscape (problem : Text → Problem) (escape : Text) : Reading α :=
  failBack (problem escape) escape.length

/-- An escape with a fixed number of hexadecimal digits. -/
def readHexEscape (c : CodePoint) (count : Nat) : Reading Escape := do
  let digits ← takeUpTo count isHexDigit
  let escape := .char '\\' :: c :: digits
  if digits.length != count then failEscape .incompleteEscape escape
  else
    let code := numberInBase 16 digits
    if code > 0x10FFFF then failEscape .badEscape escape else return .code code

def readNameEscape : Reading Escape := do
  if !(← accept '\x7b') then failBack .missingBrace
  else
    let name ← takeUntil '\x7d' "character name"
    -- A name that cannot be encoded is not looked up, and the escape is taken for a letter.
    match name.chars? with
    | none => failEscape .badEscape "\\N"
    | some characters =>
      match codeOfName? characters with
      | some code => return .code code
      | none => failBack (.undefinedCharacterName name) (name.length + 4)

/-- An escape of up to three octal digits, the first of which is given. -/
def readOctalEscape (first : CodePoint) (rest : Text) : Reading Escape := do
  let digits := first :: rest
  let code := numberInBase 8 digits
  if code > 0o377 then failEscape .octalTooLarge ('\\' :: digits) else return .code code

/-- The escapes that mean the same inside and outside a set: hexadecimal codes, names, and
characters that stand for themselves. -/
def readCommonEscape (c : CodePoint) : Reading Escape := do
  match c with
  | 'x' => readHexEscape c 2
  | 'u' => readHexEscape c 4
  | 'U' => readHexEscape c 8
  | 'N' => readNameEscape
  | _ =>
    if isAsciiLetter c || isAsciiDigit c then failEscape .badEscape ['\\', c]
    else return .code c.toNat

def readSetEscape (c : CodePoint) : Reading Escape := do
  match controlEscape? c, categoryEscape? c with
  | some code, _ => return .code code
  | none, some category => return category
  | none, none =>
    if isOctalDigit c then readOctalEscape c (← takeUpTo 2 isOctalDigit)
    else readCommonEscape c

/-- Fails if a group may not be referred to from here: inside a look-behind only groups that were
closed before it can be. -/
def checkLookbehindGroup (index : Nat) : Reading Unit := do
  let state ← get
  match state.lookbehindGroups with
  | none => return
  | some before =>
    if (state.closed.lookup index).isNone then failBack .openGroup
    else if index ≥ before then failBack .groupInSameLookbehind
    else return

/-- A reference to a group by number; `escape` is its text. -/
def readGroupNumber (escape : Text) : Reading Escape := do
  let index := numberInBase 10 (escape.drop 1)
  let state ← get
  if index < state.groups then
    if (state.closed.lookup index).isNone then failBack .openGroup escape.length
    else
      checkLookbehindGroup index
      return .backreference index
  else failBack (.invalidGroup index) (escape.length - 1)

/-- An escape that begins with a digit other than zero: a group reference, or an octal code if
three octal digits stand together. -/
def readDigitEscape (first : CodePoint) : Reading Escape := do
  match ← takeUpTo 1 isAsciiDigit with
  | [second] =>
    let third ←
      if isOctalDigit first && isOctalDigit second then takeUpTo 1 isOctalDigit else pure []
    if third.isEmpty then readGroupNumber ['\\', first, second]
    else readOctalEscape first (second :: third)
  | _ => readGroupNumber ['\\', first]

def readItemEscape (c : CodePoint) : Reading Escape := do
  match (categoryEscape? c).or (anchorEscape? c), controlEscape? c with
  | some escape, _ => return escape
  | none, some code => return .code code
  | none, none =>
    if c == '0' then
      return .code (numberInBase 8 (← takeUpTo 2 isOctalDigit))
    else if isAsciiDigit c then readDigitEscape c
    else readCommonEscape c

def Escape.toItem : Escape → Item
  | .code value => .literal value
  | .category kind negated => .set false [.category kind negated]
  | .anchor kind => .anchor kind
  | .backreference index => .backreference index

/-- The set member that an escape stands for; escapes inside a set are codes and classes. -/
def Escape.toMember : Escape → Member
  | .code value => .code value
  | .category kind negated => .category kind negated
  | .anchor _ | .backreference _ => .code 0

/-- One end of a range, or a single member of a set. -/
def readSetToken : Token → Reading Escape
  | .plain c => return .code c.toNat
  | .escaped c => readSetEscape c

/-- The members of a set up to its closing bracket; the set began at offset `start`. -/
def readMembers (start : Nat) : Nat → List Member → Reading (List Member)
  | 0, _ => failAt .unterminatedSet start
  | fuel + 1, members => do
    match ← next with
    | none => failAt .unterminatedSet start
    | some token =>
      if token == .plain ']' && !members.isEmpty then return members
      else
        let low ← readSetToken token
        if ← accept '-' then
          match ← next with
          | none => failAt .unterminatedSet start
          | some (.plain ']') => return members ++ [low.toMember, .code '-'.toNat]
          | some last =>
            let high ← readSetToken last
            let badRange : Problem :=
              .badRange token.text last.text
            match low, high with
            | .code a, .code b =>
              if b < a then failBack badRange (token.width + 1 + last.width)
              else readMembers start fuel (members ++ [.range a b])
            | _, _ => failBack badRange (token.width + 1 + last.width)
        else readMembers start fuel (members ++ [low.toMember])

/-- A set, whose opening bracket has just been taken; a set of one character is that character. -/
def readSet : Reading Item := do
  let start := (← position) - 1
  let negated ← accept '^'
  let members := distinct (← readMembers start ((← get).tokens.length + 1) [])
  match members, negated with
  | [.code code], false => return .literal code
  | [.code code], true => return .notLiteral code
  | _, _ => return .set negated members

def readCount (digits : Text) : Reading Nat := do
  match digitsToNat digits with
  | .error error => throw (.number error)
  | .ok count => if count ≥ Nat.pow 2 32 - 1 then throw .repetitionTooLarge else return count

/-- The bounds of a repetition whose opening brace has just been taken; `none` if the brace turns
out to be an ordinary character, and then nothing further has been taken. -/
def readBounds? : Reading (Option (Nat × Option Nat)) := do
  if (← peek) == some (.plain '\x7d') then return none
  else
    let before ← get
    let start := before.position
    let low ← takeAll isAsciiDigit
    let high ← if ← accept ',' then takeAll isAsciiDigit else pure low
    if !(← accept '\x7d') then
      set before
      return none
    else
      let least ← if low.isEmpty then pure 0 else readCount low
      if high.isEmpty then return some (least, none)
      else
        let most ← readCount high
        if most < least then failAt .leastAboveMost start
        else return some (least, some most)

/-- The bounds of a repetition whose sign has just been taken. -/
def readRepeat? : CodePoint → Reading (Option (Nat × Option Nat))
  | '?' => return some (0, some 1)
  | '*' => return some (0, none)
  | '+' => return some (1, none)
  | _ => readBounds?

/-- How a repetition goes about its work, by the sign that follows it. -/
def readMode : Reading RepeatMode := do
  if ← accept '?' then return .lazy
  else if ← accept '+' then return .possessive
  else return .greedy

/-- Puts a repetition in place of the item before it; the sequence is given last item first, and
the sign of the repetition stands at offset `sign`. -/
def applyRepeat (sign : Nat) (least : Nat) (most : Option Nat) (items : List Item) :
    Reading (List Item) := do
  match items with
  | [] => failAt .nothingToRepeat sign
  | item :: before =>
    if item.isAnchor then failAt .nothingToRepeat sign
    else if item.isRepeated then failAt .multipleRepeat sign
    else
      let mode ← readMode
      return .repeated mode least most (item.plainGroup?.getD [item]) :: before

/-- Skips a comment up to its closing parenthesis; the comment's group began at `start`. -/
def skipComment (start : Nat) : Nat → Reading Unit
  | 0 => failAt .unterminatedComment start
  | fuel + 1 => do
    if (← peek).isNone then failAt .unterminatedComment start
    else if (← next) == some (.plain ')') then return
    else skipComment start fuel

/-- Skips the rest of a line, in a pattern that allows comments. -/
def skipLine : Nat → Reading Unit
  | 0 => return
  | fuel + 1 => do
    match ← next with
    | none => return
    | some token => if token == .plain '\n' then return else skipLine fuel

def flagOf? : Token → Option Flags
  | .plain 'i' => some { ignoreCase := true }
  | .plain 'm' => some { multiline := true }
  | .plain 's' => some { dotAll := true }
  | .plain 'x' => some { verbose := true }
  | .plain 'a' => some { ascii := true }
  | .plain 't' => some { template := true }
  | .plain 'u' => some { unicode := true }
  | _ => none

/-- A character where only flags or the end of the flags may stand. -/
def failFlag (token : Token) (otherwise : Problem) : Reading α := do
  match token with
  | .plain c => failBack (if isLetter c then .unknownFlag else otherwise) 1
  | .escaped _ => failBack otherwise 2

/-- The flags to switch on, the first of which is `token`, and the character that ends them. -/
def readFlagsOn : Nat → Token → Flags → Reading (Flags × CodePoint)
  | 0, token, _ => failFlag token .flagsUnterminated
  | fuel + 1, token, flags => do
    if token == .plain 'L' then failBack .localeFlag
    else match flagOf? token with
      | none => failFlag token .flagsUnterminated
      | some flag =>
        let flags := flags.union flag
        if (flag.ascii || flag.unicode) && flags.ascii && flags.unicode then
          failBack .incompatibleFlags
        else match ← next with
          | none => failBack .flagsUnterminated
          | some (.plain ')') => return (flags, ')')
          | some (.plain '-') => return (flags, '-')
          | some (.plain ':') => return (flags, ':')
          | some following => readFlagsOn fuel following flags

/-- The flags to switch off, the first of which is `token`. -/
def readFlagsOff : Nat → Token → Flags → Problem → Reading Flags
  | 0, token, _, otherwise => failFlag token otherwise
  | fuel + 1, token, flags, otherwise => do
    if token == .plain 'L' then failBack .alphabetFlagOff
    else match flagOf? token with
      | none => failFlag token otherwise
      | some flag =>
        if flag.ascii || flag.unicode then failBack .alphabetFlagOff
        else
          let flags := flags.union flag
          match ← next with
          | none => failBack .missingColon
          | some (.plain ':') => return flags
          | some following => readFlagsOff fuel following flags .missingColon

/-- The flags after a question mark, the first character of which is `token`; `none` if they were
for the whole pattern and have been taken over. -/
def readFlags (token : Token) : Reading (Option (Flags × Flags)) := do
  let fuel := (← get).tokens.length + 1
  let (add, stop) ← if token == .plain '-' then pure ({}, .char '-') else readFlagsOn fuel token {}
  if stop == ')' then
    modify fun state => { state with flags := state.flags.union add }
    return none
  else if add.template then failBack .globalFlagOn 1
  else
    let remove ←
      if stop == '-' then
        match ← next with
        | none => failBack .missingFlag
        | some first => readFlagsOff fuel first {} .missingFlag
      else pure {}
    if remove.template then failBack .globalFlagOff 1
    else if add.meets remove then failBack .flagOnAndOff 1
    else return some (add, remove)

/-- What the characters after an opening parenthesis announce. -/
inductive GroupKind where
  | capture (name : Option Text)
  | plain (add remove : Flags)
  | atomic
  | look (behind negative : Bool)
  | conditional (index : Nat)
  | backreference (index : Nat)
  | nothing
  | globalFlags

def readGroupName (terminator : CodePoint) : Reading Text := do
  let name ← takeUntil terminator "group name"
  if isIdentifier name then return name
  else failBack (.badGroupName name) (name.length + 1)

def readNamedReference : Reading GroupKind := do
  let name ← readGroupName ')'
  match (← get).names.lookup name with
  | none => failBack (.unknownGroupName name) (name.length + 1)
  | some index =>
    if ((← get).closed.lookup index).isNone then failBack .openGroup (name.length + 1)
    else
      checkLookbehindGroup index
      return .backreference index

/-- The greatest number of groups that a pattern may have. -/
def maxGroups : Nat := Nat.pow 2 30 - 1

/-- The group of a condition, by name or number. -/
def readConditionGroup : Reading Nat := do
  let name ← takeUntil ')' "group name"
  let back := name.length + 1
  let index ←
    if isIdentifier name then
      match (← get).names.lookup name with
      | none => failBack (.unknownGroupName name) back
      | some index => pure index
    else match readInteger name with
      | .ok (.ofNat 0) => failBack .badGroupNumber back
      | .ok (.ofNat index) =>
        if index ≥ maxGroups then failBack (.invalidGroup index) back
        else
          let mention := (← position) - back
          modify fun state =>
            if state.conditions.any (·.1 == index) then state
            else { state with conditions := (index, mention) :: state.conditions }
          pure index
      | _ => failBack (.badGroupName name) back
  checkLookbehindGroup index
  return index

/-- What follows `(?P`. -/
def readNamedGroup : Reading GroupKind := do
  if ← accept '<' then return .capture (some (← readGroupName '>'))
  else if ← accept '=' then readNamedReference
  else match ← next with
    | none => failBack .unexpectedEnd
    | some token =>
      failBack (.unknownExtension ('P' :: token.text)) (token.width + 2)

/-- What follows `(?<`. -/
def readLookbehind : Reading GroupKind := do
  match ← next with
  | none => failBack .unexpectedEnd
  | some (.plain '=') => return .look true false
  | some (.plain '!') => return .look true true
  | some token =>
    failBack (.unknownExtension ('<' :: token.text)) (token.width + 2)

/-- What the characters after an opening parenthesis at `start` announce. -/
def readGroupKind (start : Nat) : Reading GroupKind := do
  if !(← accept '?') then return .capture none
  else match ← next with
    | none => failBack .unexpectedEnd
    | some (.plain 'P') => readNamedGroup
    | some (.plain ':') => return .plain {} {}
    | some (.plain '#') =>
      skipComment start ((← get).tokens.length + 1)
      return .nothing
    | some (.plain '=') => return .look false false
    | some (.plain '!') => return .look false true
    | some (.plain '<') => readLookbehind
    | some (.plain '(') => return .conditional (← readConditionGroup)
    | some (.plain '>') => return .atomic
    | some token =>
      if token == .plain '-' || token == .plain 'L' || (flagOf? token).isSome then
        match ← readFlags token with
        | some (add, remove) => return .plain add remove
        | none => return .globalFlags
      else failBack (.unknownExtension token.text) (token.width + 1)

def openGroup (name : Option Text) : Reading Nat := do
  let state ← get
  let index := state.groups
  match name with
  | none => set { state with groups := index + 1 }
  | some name =>
    match state.names.lookup name with
    | some earlier => failBack (.redefinedGroup name index earlier) (name.length + 1)
    | none => set { state with groups := index + 1, names := (name, index) :: state.names }
  return index

def closeGroup (index : Nat) (body : List Item) : Reading Unit :=
  modify fun state =>
    { state with closed := (index, sequenceWidth state.closed body) :: state.closed }

/-- Takes the parenthesis that closes the group begun at `start`. -/
def expectClose (start : Nat) : Reading Unit := do
  if !(← accept ')') then failAt .unterminatedGroup start

/-- Blanks between the items of a verbose pattern. -/
def isPatternBlank (c : CodePoint) : Bool := (" \t\n\r\x0b\x0c" : Text).contains c

mutual

/-- Alternatives up to the end of the pattern or of the group. The alternatives of the whole
pattern follow its flags, which the first of them may still set. -/
def readAlternatives : Nat → (verbose outermost : Bool) → Reading (List Item)
  | 0, _, _ => return []
  | fuel + 1, verbose, outermost => do
    let first ← readSequence fuel verbose outermost []
    let others ← readFurtherAlternatives fuel verbose outermost
    return alternation (first :: others)

/-- The alternatives after the first, each behind a bar. -/
def readFurtherAlternatives : Nat → (verbose outermost : Bool) → Reading (List (List Item))
  | 0, _, _ => return []
  | fuel + 1, verbose, outermost => do
    if ← accept '|' then
      let flags := (← get).flags
      let verbose := if outermost then flags.verbose else verbose
      let alternative ← readSequence fuel verbose false []
      return alternative :: (← readFurtherAlternatives fuel verbose outermost)
    else return []

/-- Items up to a bar, a closing parenthesis or the end; `items` are those read so far, last
first, and `first` says whether flags for the whole pattern may stand here. -/
def readSequence : Nat → (verbose first : Bool) → List Item → Reading (List Item)
  | 0, _, _, items => return inlinePlainGroups items.reverse
  | fuel + 1, verbose, first, items => do
    match ← peek with
    | none | some (.plain '|') | some (.plain ')') => return inlinePlainGroups items.reverse
    | some (.escaped c) =>
      discard next
      readSequence fuel verbose first ((← readItemEscape c).toItem :: items)
    | some (.plain c) =>
      let start ← position
      discard next
      if verbose && isPatternBlank c then readSequence fuel verbose first items
      else if verbose && c == '#' then
        skipLine ((← get).tokens.length + 1)
        readSequence fuel verbose first items
      else match c with
        | '[' => readSequence fuel verbose first ((← readSet) :: items)
        | '.' => readSequence fuel verbose first (.any :: items)
        | '^' => readSequence fuel verbose first (.anchor .lineStart :: items)
        | '$' => readSequence fuel verbose first (.anchor .lineEnd :: items)
        | '*' | '+' | '?' | '\x7b' =>
          match ← readRepeat? c with
          | none => readSequence fuel verbose first (.literal c.toNat :: items)
          | some (least, most) =>
            readSequence fuel verbose first (← applyRepeat start least most items)
        | '(' =>
          match ← readGroupKind start with
          | .nothing => readSequence fuel verbose first items
          | .globalFlags =>
            if !first || !items.isEmpty then failAt .flagsNotAtStart start
            else readSequence fuel (← get).flags.verbose first items
          | kind => readSequence fuel verbose first ((← readGroup fuel verbose start kind) :: items)
        | _ => readSequence fuel verbose first (.literal c.toNat :: items)

/-- The rest of a group begun at `start`. A part of a conditional group is read directly, the body
of another group as its alternatives, which takes up twice the room. -/
def readGroup : Nat → (verbose : Bool) → (start : Nat) → GroupKind → Reading Item
  | 0, _, start, _ => failAt .unterminatedGroup start
  | fuel + 1, verbose, start, kind => do
    match kind with
    | .capture name =>
      let index ← openGroup name
      let body ← nested 2 (readAlternatives fuel verbose false)
      expectClose start
      closeGroup index body
      return .group (some index) {} {} body
    | .plain add remove =>
      let body ← nested 2
        (readAlternatives fuel ((verbose || add.verbose) && !remove.verbose) false)
      expectClose start
      return .group none add remove body
    | .atomic =>
      let body ← nested 2 (readAlternatives fuel verbose false)
      expectClose start
      return .atomic body
    | .look behind negative =>
      let outer := (← get).lookbehindGroups
      if behind && outer.isNone then
        modify fun state => { state with lookbehindGroups := some state.groups }
      let body ← nested 2 (readAlternatives fuel verbose false)
      if behind then modify fun state => { state with lookbehindGroups := outer }
      expectClose start
      return .look behind negative body
    | .conditional index =>
      let whenSet ← nested 1 (readSequence fuel verbose false [])
      let whenUnset ←
        if ← accept '|' then
          let other ← nested 1 (readSequence fuel verbose false [])
          if (← peek) == some (.plain '|') then failBack .tooManyBranches else pure other
        else pure []
      expectClose start
      return .conditional index whenSet whenUnset
    | .backreference index => return .backreference index
    | .nothing | .globalFlags => return .group none {} {} []

end

/-- A pattern that has been read: its items, its flags and the widths of its groups. -/
structure Parsed where
  items : List Item
  flags : Flags
  groups : Nat
  widths : List (Nat × Width)
deriving Inhabited

def readPattern : Reading Parsed := do
  checkDangling
  let fuel := 2 * (← get).tokens.length + 4
  let items ← readAlternatives fuel (← get).flags.verbose true
  let state ← get
  if state.flags.ascii && state.flags.unicode then throw .alphabetConflict
  if (← peek).isSome then failBack .unbalancedParenthesis
  match state.conditions.reverse.find? (·.1 ≥ state.groups) with
  | some (index, mention) => failAt (.invalidGroup index) mention
  | none =>
    return { items, flags := state.flags, groups := state.groups, widths := state.closed }

def parse (pattern : Text) (flags : Flags) (room : Room) : Except Fault Parsed := do
  let (tokens, dangling) := Token.ofText pattern
  let start : ReadState :=
    { tokens, flags, room, position := 0
      dangling := if dangling then some (pattern.length - 1) else none }
  let (parsed, _) ← readPattern.run start
  return parsed

end Observance.Pattern
