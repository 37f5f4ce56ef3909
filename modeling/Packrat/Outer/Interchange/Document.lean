import Packrat.Outer.Interchange.Numeral
import Packrat.Text.Hexadecimal

/-!
# Documents

JSON texts as trees. Reading follows the grammar of JSON strictly: white space is space, tab, line
feed and carriage return, strings hold no control characters, and nothing may follow the document.

Part of the outer layer, see `Packrat.Outer.Interchange.Tagged`.

* `Document`: the trees.
* `Document.read?`: the tree of a text.
* `quoted`: a string as it is written.
-/

namespace Packrat.Outer.Interchange

open Packrat.Text (hexDigits hexValue?)

/-- A JSON text as a tree. -/
inductive Document where
  /-- The word `null`. -/
  | null
  /-- A truth value. -/
  | bool (b : Bool)
  /-- A number. -/
  | number (n : Numeral)
  /-- A string; none if it holds half of a surrogate pair. -/
  | string (s : Option String)
  /-- An array. -/
  | array (items : List Document)
  /-- An object; names may be repeated. -/
  | object (members : List (Option String × Document))

/-! ## Strings -/

/-- The code unit that four hexadecimal digits give. -/
def codeUnit? (a b c d : Char) : Option Nat := do
  let a ← hexValue? a
  let b ← hexValue? b
  let c ← hexValue? c
  let d ← hexValue? d
  return ((a * 16 + b) * 16 + c) * 16 + d

/-- The character that a backslash and one more character stand for. -/
def simpleEscape? : Char → Option Char
  | '"' => some '"'
  | '\\' => some '\\'
  | '/' => some '/'
  | 'b' => some '\x08'
  | 'f' => some '\x0c'
  | 'n' => some '\n'
  | 'r' => some '\r'
  | 't' => some '\t'
  | _ => none

/-- A unit of a string: a character, or a code unit written as an escape. -/
inductive TextUnit where
  /-- A character. -/
  | char (c : Char)
  /-- An escaped code unit. -/
  | code (n : Nat)

/-- The units of a string up to its closing quote, last one first, and what follows the quote. -/
def takeUnits? (done : List TextUnit) : List Char → Option (List TextUnit × List Char)
  | [] => none
  | '"' :: rest => some (done, rest)
  | '\\' :: 'u' :: a :: b :: c :: d :: rest =>
    match codeUnit? a b c d with
    | some n => takeUnits? (.code n :: done) rest
    | none => none
  | ['\\'] => none
  | '\\' :: c :: rest =>
    match simpleEscape? c with
    | some c => takeUnits? (.char c :: done) rest
    | none => none
  | c :: rest => if c.toNat < 32 then none else takeUnits? (.char c :: done) rest

/-- The text that units form, put in front of `tail`; none if a surrogate stands alone. The units
come last one first. -/
def unitsText? (tail : List Char) : List TextUnit → Option (List Char)
  | [] => some tail
  | .char c :: rest => unitsText? (c :: tail) rest
  | .code low :: .code high :: rest =>
    if 0xDC00 ≤ low && low ≤ 0xDFFF then
      if 0xD800 ≤ high && high ≤ 0xDBFF then
        let code := 0x10000 + (high - 0xD800) * 0x400 + (low - 0xDC00)
        unitsText? (Char.ofNat code :: tail) rest
      else none
    else if 0xD800 ≤ low && low ≤ 0xDBFF then none
    else unitsText? (Char.ofNat low :: tail) (.code high :: rest)
  | .code n :: rest =>
    if 0xD800 ≤ n && n ≤ 0xDFFF then none else unitsText? (Char.ofNat n :: tail) rest

/-- The string whose opening quote has been read, and what follows it. -/
def takeString? (text : List Char) : Option (Option String × List Char) := do
  let (units, rest) ← takeUnits? [] text
  return ((unitsText? [] units).map String.ofList, rest)

/-- A character inside a string as it is written. -/
def escaped (c : Char) : String :=
  match c with
  | '"' => "\\\""
  | '\\' => "\\\\"
  | '\x08' => "\\b"
  | '\x0c' => "\\f"
  | '\n' => "\\n"
  | '\r' => "\\r"
  | '\t' => "\\t"
  | c =>
    if c.toNat < 16 then "\\u000" ++ String.ofList (hexDigits c.toNat)
    else if c.toNat < 32 then "\\u00" ++ String.ofList (hexDigits c.toNat)
    else String.singleton c

/-- A string as it is written. -/
def quoted (s : String) : String :=
  s.foldl (fun out c => out ++ escaped c) "\"" ++ "\""

/-! ## Trees -/

namespace Document

/-- Whether a character is white space between tokens. -/
def isGap (c : Char) : Bool :=
  c = ' ' || c = '\t' || c = '\n' || c = '\r'

/-- What follows a word at the front of a text. -/
def afterWord? (word : String) (text : List Char) : Option (List Char) :=
  word.toList.isPrefixOf? text

mutual

/-- The tree at the front of a text, and what follows it. -/
def take? : (fuel : Nat) → List Char → Option (Document × List Char)
  | 0, _ => none
  | fuel + 1, text =>
    match text.dropWhile isGap with
    | [] => none
    | '"' :: rest => (takeString? rest).map fun (s, rest) => (.string s, rest)
    | '[' :: rest =>
      match rest.dropWhile isGap with
      | ']' :: rest => some (.array [], rest)
      | rest => takeItems? fuel [] rest
    | '\x7b' :: rest =>
      match rest.dropWhile isGap with
      | '\x7d' :: rest => some (.object [], rest)
      | rest => takeMembers? fuel [] rest
    | 'n' :: rest => (afterWord? "ull" rest).map fun rest => (.null, rest)
    | 't' :: rest => (afterWord? "rue" rest).map fun rest => (.bool true, rest)
    | 'f' :: rest => (afterWord? "alse" rest).map fun rest => (.bool false, rest)
    | text => (Numeral.take? text).map fun (n, rest) => (.number n, rest)

/-- The array whose items so far are given last one first, and what follows it. -/
def takeItems? : (fuel : Nat) → List Document → List Char → Option (Document × List Char)
  | 0, _, _ => none
  | fuel + 1, done, text =>
    match take? fuel text with
    | none => none
    | some (item, rest) =>
      match rest.dropWhile isGap with
      | ',' :: rest => takeItems? fuel (item :: done) rest
      | ']' :: rest => some (.array (item :: done).reverse, rest)
      | _ => none

/-- The object whose members so far are given last one first, and what follows it. -/
def takeMembers? : (fuel : Nat) → List (Option String × Document) → List Char →
    Option (Document × List Char)
  | 0, _, _ => none
  | fuel + 1, done, text =>
    match text.dropWhile isGap with
    | '"' :: rest =>
      match takeString? rest with
      | none => none
      | some (name, rest) =>
        match rest.dropWhile isGap with
        | ':' :: rest =>
          match take? fuel rest with
          | none => none
          | some (item, rest) =>
            match rest.dropWhile isGap with
            | ',' :: rest => takeMembers? fuel ((name, item) :: done) rest
            | '\x7d' :: rest => some (.object ((name, item) :: done).reverse, rest)
            | _ => none
        | _ => none
    | _ => none

end

/-- The tree of a text. Reading a character takes two steps at most. -/
def read? (text : String) : Option Document :=
  let chars := text.toList
  match take? (2 * chars.length + 2) chars with
  | some (d, rest) => if rest.all isGap then some d else none
  | none => none

end Document

end Packrat.Outer.Interchange
