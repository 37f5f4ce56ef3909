/-!
# Places in a text

Places in a text are byte offsets of its UTF-8 form; the ones between two characters are its
boundaries.

* `charAt?`: the character that starts at a place.
* `isBoundary`: whether a place lies between two characters or at an end of the text.
* `slice?`: the text between two boundaries.
* `remainder`: the text from a place on.
* `skip`, `skipExactly?`: the place some characters further on.
* `runAt`: the characters of a class that follow a place.
-/

namespace Packrat.Text

/-- The character that starts at byte offset `pos`. There is none at the end of the text, past it,
or inside a character. -/
def charAt? (text : String) (pos : Nat) : Option Char :=
  String.Pos.Raw.get? text ⟨pos⟩

/-- Whether byte offset `pos` lies between two characters or at an end of the text. -/
def isBoundary (text : String) (pos : Nat) : Bool :=
  String.Pos.Raw.isValid text ⟨pos⟩

/-- The text between two boundaries, the first of which does not come after the second. -/
def slice? (text : String) (start stop : Nat) : Option String :=
  if start ≤ stop && isBoundary text start && isBoundary text stop then
    some (String.Pos.Raw.extract text ⟨start⟩ ⟨stop⟩)
  else none

/-- The text from a boundary on; from another place on there is none. -/
def remainder (text : String) (pos : Nat) : String :=
  (slice? text pos text.utf8ByteSize).getD ""

/-- The place up to `count` characters after `pos`; fewer where the text ends. -/
def skip (text : String) (pos : Nat) : (count : Nat) → Nat
  | 0 => pos
  | count + 1 =>
    match charAt? text pos with
    | none => pos
    | some c => skip text (pos + c.utf8Size) count

/-- The place exactly `count` characters after `pos`, if that many follow. -/
def skipExactly? (text : String) (pos : Nat) : (count : Nat) → Option Nat
  | 0 => some pos
  | count + 1 =>
    match charAt? text pos with
    | none => none
    | some c => skipExactly? text (pos + c.utf8Size) count

/-- Continue `runAt` after the characters `found`, given in reverse order. At most as many
characters follow as there are bytes left. -/
def runFrom (p : Char → Bool) (text : String) : (bytes : Nat) → List Char → Nat → List Char
  | 0, found, _ => found.reverse
  | bytes + 1, found, pos =>
    match charAt? text pos with
    | none => found.reverse
    | some c =>
      if p c then runFrom p text bytes (c :: found) (pos + c.utf8Size) else found.reverse

/-- The characters from `pos` on, up to the first that does not satisfy `p`. -/
def runAt (p : Char → Bool) (text : String) (pos : Nat) : List Char :=
  runFrom p text (text.utf8ByteSize - pos) [] pos

end Packrat.Text
