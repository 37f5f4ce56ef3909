import Packrat.Outer.Pattern.Syntax
import Packrat.Text.Blank
import Packrat.Text.Hexadecimal

/-!
# Reading patterns

The written form of regular expressions: alternatives, groups with and without names, repetition
operators, bracketed classes with set operations, escapes, and flags that hold to the end of the
group they stand in.

Part of the outer layer, see `Packrat.Outer.Pattern.Engine`.

* `Flags`: the flags in force.
* `Scan`: what is left to read, the flags, and the group names used so far.
* `readPattern?`: the pattern that a text denotes; none if it is not a pattern.

Readers that call each other take fuel; every call consumes a character or ends the recursion, so
the length of the text is enough.
-/

namespace Packrat.Outer.Pattern

open Packrat.Text

/-! ## State of reading -/

/-- The flags in force. -/
structure Flags where
  /-- Letters match in any case. -/
  ignoreCase : Bool := false
  /-- `^` and `$` also match at line ends. -/
  multiLine : Bool := false
  /-- The point also matches line ends. -/
  dotAll : Bool := false
  /-- Repetitions prefer few, and a question mark makes them prefer many. -/
  swapGreed : Bool := false
  /-- Classes and case are those of Unicode. -/
  unicode : Bool := true
  /-- Spaces and comments between tokens are skipped. -/
  spaced : Bool := false
  /-- Carriage returns end lines as well. -/
  crlf : Bool := false
  deriving Repr, DecidableEq

/-- What is left of the text, the flags in force, and the group names used. -/
structure Scan where
  /-- The rest of the text. -/
  rest : List Char
  /-- The flags in force. -/
  flags : Flags
  /-- Names of groups read so far. -/
  names : List (List Char)
  deriving Repr

/-- A reader of some part of a pattern; it fails on texts that are not patterns. -/
abbrev Reader := StateT Scan Option

/-- The text left after white space and comments. -/
def withoutSpace : (fuel : Nat) → List Char → List Char
  | 0, text => text
  | _ + 1, [] => []
  | fuel + 1, c :: rest =>
    if isBlank c then withoutSpace fuel rest
    else if c = '#' then withoutSpace fuel (rest.dropWhile (fun d => d != '\n'))
    else c :: rest

/-- Skip white space and comments where the flags allow them. -/
def skipSpace : Reader Unit :=
  modify fun s =>
    if s.flags.spaced then { s with rest := withoutSpace (s.rest.length + 1) s.rest } else s

/-- The next character, without consuming it. -/
def peek : Reader (Option Char) := do
  return (← get).rest.head?

/-- Consume one character if there is one. -/
def bump : Reader Unit :=
  modify fun s => { s with rest := s.rest.tail }

/-- Consume one character, and the space after it. -/
def bumpSpace : Reader Unit := do
  bump
  skipSpace

/-- The next character; fails at the end of the text. -/
def need : Reader Char := do
  match ← peek with
  | some c => return c
  | none => failure

/-- Consume a text if it comes next; tells whether it did. -/
def bumpIf (text : String) : Reader Bool := do
  let s ← get
  if text.toList.isPrefixOf s.rest then
    set { s with rest := s.rest.drop text.length }
    return true
  else return false

/-! ## Numbers -/

/-- Digits of a count, each followed by skipped space. -/
def readDigits : (fuel : Nat) → List Char → Reader (List Char)
  | 0, found => return found.reverse
  | fuel + 1, found => do
    match ← peek with
    | some c =>
      if c.isDigit then
        bumpSpace
        readDigits fuel (c :: found)
      else return found.reverse
    | none => return found.reverse

/-- Skip white space whatever the flags. -/
def skipBlank : Reader Unit :=
  modify fun s => { s with rest := s.rest.dropWhile isBlank }

/-- A repetition count: at least one digit, below `2^32`, white space around it skipped. -/
def readCount : Reader Nat := do
  skipBlank
  let digits ← readDigits (← get).rest.length []
  skipBlank
  skipSpace
  let value := digits.foldl (fun n c => 10 * n + (c.toNat - '0'.toNat)) 0
  if digits.isEmpty || UInt32.size ≤ value then failure
  return value

/-- The character with a code point, if there is one. -/
def charOf? (n : Nat) : Option Char :=
  if h : n.isValidChar then some (Char.ofNatAux n h) else none

/-- Exactly `count` hexadecimal digits, continuing the number `n`. -/
def readHex : (count n : Nat) → Reader Nat
  | 0, n => return n
  | count + 1, n => do
    match hexValue? (← need) with
    | some d =>
      bumpSpace
      readHex count (16 * n + d)
    | none => failure

/-- Hexadecimal digits up to a closing brace, continuing the number `n`. -/
def readHexBrace : (fuel : Nat) → (found : Bool) → (n : Nat) → Reader Nat
  | 0, _, _ => failure
  | fuel + 1, found, n => do
    let c ← need
    if c = '\x7d' then
      if !found then failure
      bumpSpace
      return n
    else match hexValue? c with
      | some d =>
        bumpSpace
        readHexBrace fuel true (16 * n + d)
      | none => failure

/-- The character written after `\x`, `\u` or `\U`: in braces, or with a fixed number of digits. -/
def readHexChar (digits : Nat) : Reader Char := do
  bumpSpace
  let value ← if (← need) = '\x7b' then do
      bumpSpace
      readHexBrace (← get).rest.length.succ false 0
    else readHex digits 0
  match charOf? value with
  | some c => return c
  | none => failure

/-! ## Escapes -/

/-- What a single item outside or inside brackets denotes. -/
inductive Primitive where
  /-- One character. -/
  | char (c : Char)
  /-- A named set of characters. -/
  | set (s : CharSet)
  /-- A condition on the place. -/
  | look (l : Look)
  deriving Repr

/-- Characters with a meaning of their own in patterns. -/
def isMeta (c : Char) : Bool :=
  "\\.+*?()|[]\x7b\x7d^$#&-~".toList.contains c

/-- Characters that a backslash leaves as they are: ASCII characters other than letters, digits
and angle brackets. -/
def isEscapable (c : Char) : Bool :=
  isMeta c || (c.toNat < 128 && !c.isAlphanum && c != '<' && c != '>')

/-- A set that may be taken in its complement. Without Unicode, a complement would hold parts of
characters and is refused. -/
def setOf (negated : Bool) (s : CharSet) : Reader CharSet := do
  if negated && !(← get).flags.unicode then failure
  return s.complementIf negated

/-- A property name in its loose form: spaces, hyphens and underscores dropped, in lower case. -/
def looseName (name : List Char) : String :=
  String.ofList ((name.filter (fun c => c != ' ' && c != '-' && c != '_')).map Char.toLower)

/-- The characters up to a closing brace. -/
def readName : (fuel : Nat) → List Char → Reader (List Char)
  | 0, _ => failure
  | fuel + 1, found => do
    bumpSpace
    let c ← need
    if c = '\x7d' then
      bump
      return found.reverse
    else readName fuel (c :: found)

/-- The set that a property escape denotes. -/
def readProperty (negated : Bool) : Reader CharSet := do
  let flags := (← get).flags
  if !flags.unicode then failure
  bumpSpace
  let c ← need
  let name ← if c = '\x7b' then readName (← get).rest.length.succ []
    else do
      if c = '\\' then failure
      bumpSpace
      pure [c]
  match CharSet.property? (looseName name) with
  | some s => return (s.closeIf flags.ignoreCase).complementIf negated
  | none => failure

/-- The letters of a special word boundary, up to the closing brace. -/
def readBoundaryName : (fuel : Nat) → List Char → Reader (List Char)
  | 0, _ => failure
  | fuel + 1, found => do
    let c ← need
    if c = '\x7d' then
      bump
      return found.reverse
    else if c.isAlpha || c = '-' then
      bumpSpace
      readBoundaryName fuel (c :: found)
    else failure

/-- The condition after `\b`: plain, or one of the special ones in braces. Braces that do not
hold letters are left for a repetition. -/
def readBoundary : Reader Look := do
  let s ← get
  let u := s.flags.unicode
  if (← peek) != some '\x7b' then return .wordBoundary u
  bumpSpace
  let c ← need
  if !(c.isAlpha || c = '-') then
    set s
    return .wordBoundary u
  match String.ofList (← readBoundaryName s.rest.length []) with
  | "start" => return .wordStart u
  | "end" => return .wordEnd u
  | "start-half" => return .wordStartHalf u
  | "end-half" => return .wordEndHalf u
  | _ => failure

/-- What stands after a backslash. -/
def readEscape : Reader Primitive := do
  bump
  let c ← need
  let u := (← get).flags.unicode
  match c with
  | 'x' => .char <$> readHexChar 2
  | 'u' => .char <$> readHexChar 4
  | 'U' => .char <$> readHexChar 8
  | 'p' => .set <$> readProperty false
  | 'P' => .set <$> readProperty true
  | 'd' | 's' | 'w' | 'D' | 'S' | 'W' =>
    bump
    let plain := if c.toLower = 'd' then CharSet.digit u
      else if c.toLower = 's' then CharSet.space u
      else CharSet.word u
    .set <$> setOf c.isUpper plain
  | _ =>
    bump
    if isEscapable c then return .char c
    match c with
    | 'a' => return .char '\x07'
    | 'f' => return .char '\x0c'
    | 't' => return .char '\t'
    | 'n' => return .char '\n'
    | 'r' => return .char '\r'
    | 'v' => return .char '\x0b'
    | 'A' => return .look .start
    | 'z' => return .look .stop
    | 'b' => .look <$> readBoundary
    | 'B' => return .look (.notWordBoundary u)
    | '<' => return .look (.wordStart u)
    | '>' => return .look (.wordEnd u)
    | _ => failure

/-! ## Bracketed classes -/

/-- The binary operations on bracketed sets. -/
inductive SetOp where
  /-- Both. -/
  | inter
  /-- The first without the second. -/
  | diff
  /-- Exactly one. -/
  | symmDiff
  deriving Repr, DecidableEq

/-- The result of an operation; operands are closed under case folding first. -/
def SetOp.apply (op : SetOp) (fold : Bool) (a b : CharSet) : CharSet :=
  let a := a.closeIf fold
  let b := b.closeIf fold
  match op with
  | .inter => .inter a b
  | .diff => .diff a b
  | .symmDiff => .symmDiff a b

/-- The operands read so far: the items of the current one, and the operation waiting for it. -/
structure Operands where
  /-- The union of the current items. -/
  current : CharSet
  /-- The left operand and its operation. -/
  waiting : Option (CharSet × SetOp)

/-- The value of all operands read. -/
def Operands.value (o : Operands) (fold : Bool) : CharSet :=
  match o.waiting with
  | none => o.current
  | some (left, op) => op.apply fold left o.current

/-- The operands with one more item. -/
def Operands.add (o : Operands) (s : CharSet) : Operands :=
  { o with current := .union o.current s }

/-- The operands once an operator is read. -/
def Operands.operator (o : Operands) (fold : Bool) (op : SetOp) : Operands :=
  ⟨CharSet.none, some (o.value fold, op)⟩

/-- A named ASCII class such as `[:alpha:]`, if one comes next; otherwise nothing is consumed. -/
def readAsciiClass? : Reader (Option CharSet) := do
  let s ← get
  if !(← bumpIf "[:") then return none
  let negated ← bumpIf "^"
  let name := (← get).rest.takeWhile (fun c => c != ':')
  modify fun s => { s with rest := s.rest.drop name.length }
  let closed ← bumpIf ":]"
  match CharSet.ascii? (String.ofList name), closed with
  | some set, true =>
    let flags := (← get).flags
    if negated && !flags.unicode then failure
    return some ((set.closeIf flags.ignoreCase).complementIf negated)
  | _, _ =>
    set s
    return none

/-- A character that may stand alone in a class. Without Unicode it has to be ASCII. -/
def classChar (c : Char) : Reader Char := do
  if !(← get).flags.unicode && 127 < c.toNat then failure
  return c

/-- One character or escape inside brackets. -/
def readClassPrimitive : Reader Primitive := do
  let c ← need
  if c = '\\' then readEscape
  else
    bump
    return .char c

/-- The character that comes next once one is consumed and space skipped. -/
def peekSecond : Reader (Option Char) := do
  let s ← get
  bumpSpace
  let c ← peek
  set s
  return c

/-- A character, an escape for a set, or a range of characters. -/
def readClassItem : Reader CharSet := do
  let first ← readClassPrimitive
  skipSpace
  let c ← need
  let second ← peekSecond
  if c != '-' || second == some ']' || second == some '-' then
    match first with
    | .char c => return .single (← classChar c)
    | .set s => return s
    | .look _ => failure
  else
    bumpSpace
    let _ ← need
    match first, ← readClassPrimitive with
    | .char lo, .char hi =>
      if hi < lo then failure
      return .range (← classChar lo) (← classChar hi)
    | _, _ => failure

/-- Hyphens at the start of a class stand for themselves. -/
def readHyphens : (fuel : Nat) → Operands → Reader Operands
  | 0, o => return o
  | fuel + 1, o => do
    if (← need) = '-' then
      bumpSpace
      readHyphens fuel (o.add (.single '-'))
    else return o

mutual

/-- A bracketed class whose opening bracket comes next. -/
def readClass : (fuel : Nat) → Reader CharSet
  | 0 => failure
  | fuel + 1 => do
    bumpSpace
    let negated := (← need) = '^'
    if negated then bumpSpace
    let empty : Operands := ⟨CharSet.none, none⟩
    let hyphens ← readHyphens (← get).rest.length empty
    let start ← if hyphens.current == CharSet.none && (← need) = ']' then do
        bumpSpace
        pure (empty.add (.single ']'))
      else pure hyphens
    let _ ← need
    let fold := (← get).flags.ignoreCase
    setOf negated ((← readClassItems fuel start).closeIf fold)

/-- The items of a class up to its closing bracket. -/
def readClassItems : (fuel : Nat) → Operands → Reader CharSet
  | 0, _ => failure
  | fuel + 1, o => do
    skipSpace
    let fold := (← get).flags.ignoreCase
    match ← need with
    | '[' =>
      match ← readAsciiClass? with
      | some s => readClassItems fuel (o.add s)
      | none => readClassItems fuel (o.add (← readClass fuel))
    | ']' =>
      bump
      return o.value fold
    | _ =>
      if ← bumpIf "&&" then readClassItems fuel (o.operator fold .inter)
      else if ← bumpIf "--" then readClassItems fuel (o.operator fold .diff)
      else if ← bumpIf "~~" then readClassItems fuel (o.operator fold .symmDiff)
      else readClassItems fuel (o.add (← readClassItem))

end

/-! ## Flags and groups -/

/-- One flag, switched on or off. -/
def Flags.with? (flags : Flags) (c : Char) (on : Bool) : Option Flags :=
  match c with
  | 'i' => some { flags with ignoreCase := on }
  | 'm' => some { flags with multiLine := on }
  | 's' => some { flags with dotAll := on }
  | 'U' => some { flags with swapGreed := on }
  | 'u' => some { flags with unicode := on }
  | 'x' => some { flags with spaced := on }
  | 'R' => some { flags with crlf := on }
  | _ => none

/-- The flags of a group up to the colon or parenthesis that ends them, which is not consumed.
`seen` holds the flags already named and `afterMinus` tells whether a minus came last. -/
def readFlags : (fuel : Nat) → (seen : List Char) → (on afterMinus : Bool) → Flags →
    Reader (List Char × Flags)
  | 0, _, _, _, _ => failure
  | fuel + 1, seen, on, afterMinus, flags => do
    let c ← need
    if c = ':' || c = ')' then
      if afterMinus then failure
      return (seen, flags)
    else if seen.contains c then failure
    else
      bump
      if c = '-' then readFlags fuel (c :: seen) false true flags
      else match flags.with? c on with
        | some flags => readFlags fuel (c :: seen) on false flags
        | none => failure

/-- Whether a character may stand in a group name. -/
def isNameChar (first : Bool) (c : Char) : Bool :=
  let letter := c.isAlpha || (127 < c.toNat && wordCharacter.has c && !decimalNumber.has c)
  if first then c = '_' || letter
  else c = '_' || c = '.' || c = '[' || c = ']' || letter || decimalNumber.has c

/-- A group name up to the closing angle bracket; each name is used once. -/
def readGroupName : Reader Unit := do
  let s ← get
  let name := s.rest.takeWhile (fun c => c != '>')
  let ok := match name with
    | [] => false
    | c :: rest => isNameChar true c && rest.all (isNameChar false)
  if !ok || s.names.contains name then failure
  set { s with rest := s.rest.drop name.length, names := name :: s.names }
  if !(← bumpIf ">") then failure

/-! ## Expressions -/

/-- One item of a concatenation: a pattern, or flags, which cannot be repeated. -/
inductive Item where
  /-- A pattern. -/
  | pattern (p : Pattern)
  /-- Flags set for the rest of the group. -/
  | flags

/-- The concatenation of items given in reverse order. -/
def concatReverse (items : List Item) : Pattern :=
  items.foldl (fun tail item =>
    match item, tail with
    | .pattern p, .empty => p
    | .pattern p, tail => .seq p tail
    | .flags, tail => tail) .empty

/-- A repetition of the last item. -/
def repeatLast (items : List Item) (min : Nat) (max : Option Nat) (lazy : Bool) :
    Reader (List Item) := do
  match items with
  | .pattern p :: rest =>
    let greedy := lazy == (← get).flags.swapGreed
    return .pattern (.rep p min max greedy) :: rest
  | _ => failure

/-- Whether a question mark comes next, which is consumed. -/
def readLazy : Reader Bool :=
  bumpIf "?"

/-- The bounds of a counted repetition whose opening brace comes next. -/
def readBounds : Reader (Nat × Option Nat) := do
  bumpSpace
  let _ ← need
  let min ← readCount
  let max ← if (← need) = ',' then do
      bumpSpace
      if (← need) = '\x7d' then pure none
      else some <$> readCount
    else pure (some min)
  if (← need) != '\x7d' then failure
  bumpSpace
  if max.any (· < min) then failure
  return (min, max)

/-- The pattern of one literal character under the current flags. -/
def literal (c : Char) : Reader Pattern := do
  let flags := (← get).flags
  if !flags.unicode && 127 < c.toNat then failure
  let plain := CharSet.single c
  if !flags.ignoreCase then return .one plain
  else if flags.unicode then return .one (.folded plain)
  else return .one (.union (.single c.toLower) (.single c.toUpper))

/-- The pattern of the point. -/
def anyChar : Reader Pattern := do
  let flags := (← get).flags
  if !flags.unicode then failure
  if flags.dotAll then return .one CharSet.all
  else if flags.crlf then return .one (.compl (.table [(0x0a, 0x0a), (0x0d, 0x0d)]))
  else return .one (.compl (.single '\n'))

/-- The pattern of an escape or of a character that stands for itself. -/
def ofPrimitive : Primitive → Reader Pattern
  | .char c => literal c
  | .set s => return .one s
  | .look l => return .look l

mutual

/-- Alternatives up to the end of the text or a closing parenthesis. -/
def readAlternatives : (fuel : Nat) → Reader Pattern
  | 0 => failure
  | fuel + 1 => do
    let first ← readItems fuel []
    match ← peek with
    | some '|' =>
      bump
      return .alt first (← readAlternatives fuel)
    | _ => return first

/-- Items up to the end of the text, a bar or a closing parenthesis; those read so far are given
in reverse order. -/
def readItems : (fuel : Nat) → List Item → Reader Pattern
  | 0, _ => failure
  | fuel + 1, items => do
    skipSpace
    match ← peek with
    | none | some '|' | some ')' => return concatReverse items
    | some '(' => readItems fuel ((← readGroup fuel) :: items)
    | some '[' => readItems fuel (.pattern (.one (← readClass fuel)) :: items)
    | some '?' =>
      bump
      readItems fuel (← repeatLast items 0 (some 1) (← readLazy))
    | some '*' =>
      bump
      readItems fuel (← repeatLast items 0 none (← readLazy))
    | some '+' =>
      bump
      readItems fuel (← repeatLast items 1 none (← readLazy))
    | some '\x7b' =>
      let (min, max) ← readBounds
      readItems fuel (← repeatLast items min max (← readLazy))
    | some '\\' => readItems fuel (.pattern (← ofPrimitive (← readEscape)) :: items)
    | some '.' =>
      bump
      readItems fuel (.pattern (← anyChar) :: items)
    | some '^' =>
      bump
      let flags := (← get).flags
      let l := if flags.multiLine then Look.lineStart flags.crlf else .start
      readItems fuel (.pattern (.look l) :: items)
    | some '$' =>
      bump
      let flags := (← get).flags
      let l := if flags.multiLine then Look.lineEnd flags.crlf else .stop
      readItems fuel (.pattern (.look l) :: items)
    | some c =>
      bump
      readItems fuel (.pattern (← literal c) :: items)

/-- A group whose opening parenthesis comes next. -/
def readGroup : (fuel : Nat) → Reader Item
  | 0 => failure
  | fuel + 1 => do
    bumpSpace
    for lookaround in ["?=", "?!", "?<=", "?<!"] do
      if lookaround.toList.isPrefixOf (← get).rest then failure
    let outer := (← get).flags
    if (← bumpIf "?P<") || (← bumpIf "?<") then
      readGroupName
      readGroupBody fuel outer
    else if ← bumpIf "?" then
      let (seen, flags) ← readFlags (← get).rest.length.succ [] true false outer
      if (← need) = ')' then
        bump
        if seen.isEmpty then failure
        modify fun s => { s with flags }
        return .flags
      else
        bump
        modify fun s => { s with flags }
        readGroupBody fuel outer
    else readGroupBody fuel outer

/-- The inside of a group and its closing parenthesis, after which the flags `outer` hold again. -/
def readGroupBody : (fuel : Nat) → (outer : Flags) → Reader Item
  | 0, _ => failure
  | fuel + 1, outer => do
    let p ← readAlternatives fuel
    if (← need) != ')' then failure
    bump
    modify fun s => { s with flags := outer }
    return .pattern p

end

/-- The pattern that a text denotes. -/
def readPattern? (text : String) : Option Pattern :=
  let chars := text.toList
  match (readAlternatives (4 * chars.length + 4)).run ⟨chars, {}, []⟩ with
  | some (p, s) => if s.rest.isEmpty then some p else none
  | none => none

end Packrat.Outer.Pattern
