import Observance.Pattern.Token

/-! # Widths of pattern items

The width of a sequence bounds the number of characters it can match. It is exact for what a
look-behind may contain: such a pattern must have one single width. Widths stop growing at the
number that also stands for repetition without end, a least width just short of it, so what reaches
that far has no single width.
-/

namespace Observance.Pattern

namespace Width

/-- The bound at which greatest widths stop growing. -/
def limit : Nat := Nat.pow 2 32 - 1

/-- The bound at which least widths stop growing. -/
def leastLimit : Nat := limit - 1

def zero : Width := ⟨0, 0⟩

def one : Width := ⟨1, 1⟩

def add (first second : Width) : Width := ⟨first.least + second.least, first.most + second.most⟩

def either (left right : Width) : Width := ⟨min left.least right.least, max left.most right.most⟩

/-- A width no greater than the bounds. -/
def capped (width : Width) : Width := ⟨min width.least leastLimit, min width.most limit⟩

def times (body : Width) (least : Nat) (most : Option Nat) : Width where
  least := body.least * least
  most := body.most * most.getD limit

end Width

mutual

/-- The width of an item; `closed` holds the widths of the groups. -/
def Item.width (closed : List (Nat × Width)) : Item → Width
  | .literal _ | .notLiteral _ | .any | .set .. => .one
  | .anchor _ | .look .. => .zero
  | .branch alternatives => alternativesWidth closed alternatives
  | .group _ _ _ body => sequenceWidth closed body
  | .atomic body => sequenceWidth closed body
  | .repeated _ least most body => (sequenceWidth closed body).times least most
  | .backreference index => (closed.lookup index).getD .zero
  | .conditional _ whenSet whenUnset =>
    (sequenceWidth closed whenSet).either (sequenceWidth closed whenUnset)

def sequenceWidth (closed : List (Nat × Width)) : List Item → Width
  | [] => .zero
  | item :: rest => ((item.width closed).add (sequenceWidth closed rest)).capped

/-- The width of whichever of several alternatives matches. -/
def alternativesWidth (closed : List (Nat × Width)) : List (List Item) → Width
  | [] => ⟨Width.leastLimit, 0⟩
  | alternative :: rest =>
    (sequenceWidth closed alternative).either (alternativesWidth closed rest)

end

end Observance.Pattern
