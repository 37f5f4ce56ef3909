/-!
# Rules

A rule describes one construct of a grammar. Its children are given by their identities, so the
graph of rules may contain cycles.

* `RuleId`: the identity of a rule within its grammar.
* `Rule`: the constructs.
* `Rule.children`: the rules a rule refers to, in the order they are declared.
* `Rule.isConcrete`: whether outcomes of the rule are remembered on their own.
-/

namespace Packrat

/-- The identity of a rule: its place in the grammar. -/
structure RuleId where
  /-- The place, counted from zero. -/
  index : Nat
  deriving Repr, DecidableEq, Hashable

/-- Rule identities are written with a number sign. -/
instance : ToString RuleId := ⟨fun id => "#" ++ toString id.index⟩

/-- Which number literals a rule reads. -/
inductive NumberKind where
  /-- A sign and digits. -/
  | integer
  /-- Digits with a fraction and an exponent; always a float. -/
  | float
  /-- Either; an integer unless there is a fraction or an exponent. -/
  | any
  deriving Repr, DecidableEq

/-- How a repetition gathers its elements. -/
inductive Collect where
  /-- As a list of values. -/
  | list
  /-- As one text. -/
  | text
  deriving Repr, DecidableEq

/-- One part of a sequence. A named part writes its value into the slot of that name. -/
structure Part where
  /-- The slot to write, if any. -/
  name : Option String
  /-- The rule to match. -/
  rule : RuleId
  deriving Repr, DecidableEq

/-- One construct of a grammar. -/
inductive Rule where
  /-- Exactly this text, or this text in any case. -/
  | literal (text : String) (ignoreCase : Bool)
  /-- One character inside one of the ranges, or outside all of them. -/
  | charRange (ranges : List (Char × Char)) (negated : Bool)
  /-- One of these characters, or none of them. -/
  | charSet (chars : List Char) (negated : Bool)
  /-- A regular expression, matched at the current position. -/
  | regex (pattern : String)
  /-- Parts in order, with a separator between them; an object of type `ty` if one is given. -/
  | sequence (ty : Option String) (parts : List Part) (separator : Option RuleId)
  /-- The first candidate that matches; with a base, an object that implements it. -/
  | alternative (base : Option String) (candidates : List RuleId)
  /-- An element again and again, with a separator between repetitions. -/
  | repetition (element : RuleId) (separator : Option RuleId) (min : Nat) (max : Option Nat)
      (collect : Collect)
  /-- The child or nothing. -/
  | optional (child : RuleId)
  /-- That the child matches here, without consuming anything. -/
  | lookAhead (child : RuleId)
  /-- That the child does not match here. -/
  | not (child : RuleId)
  /-- An opening rule, an inner one, and a closing one; the opening one closes too if no other
  does. -/
  | surround (opening inner : RuleId) (closing : Option RuleId)
  /-- The text that the child consumes. -/
  | capture (child : RuleId)
  /-- A number literal. -/
  | number (kind : NumberKind)
  /-- Any number of spaces, tabs, carriage returns and line feeds. -/
  | whitespace
  /-- A line end of any kind, or the end of input. -/
  | eol
  /-- The end of input. -/
  | eoi
  /-- The object that the caller of the parse supplies. -/
  | userObject
  /-- The current byte offset. -/
  | location
  deriving Repr, DecidableEq

namespace Rule

/-- The rule with a separator, if it is one that can have a separator. -/
def withSeparator (rule : Rule) (separator : RuleId) : Rule :=
  match rule with
  | .sequence ty parts _ => .sequence ty parts (some separator)
  | .repetition element _ min max collect => .repetition element (some separator) min max collect
  | other => other

/-- The rule gathering text, if it is a repetition. -/
def collectText (rule : Rule) : Rule :=
  match rule with
  | .repetition element separator min max _ => .repetition element separator min max .text
  | other => other

/-- The separator of the rule, if it has one. -/
def separator? : Rule → Option RuleId
  | .sequence _ _ separator => separator
  | .repetition _ separator _ _ _ => separator
  | _ => none

/-- Whether the rule is a repetition that gathers text. -/
def collectsText : Rule → Bool
  | .repetition _ _ _ _ collect => collect = .text
  | _ => false

/-- The name of the construct, as messages give it. -/
def kindName : Rule → String
  | .literal _ _ => "literal"
  | .charRange _ _ => "char-range"
  | .charSet _ _ => "char-set"
  | .regex _ => "regex"
  | .sequence _ _ _ => "sequence"
  | .alternative _ _ => "alternative"
  | .repetition _ _ _ _ _ => "repeat"
  | .optional _ => "optional"
  | .lookAhead _ => "look-ahead"
  | .not _ => "not"
  | .surround _ _ _ => "surround"
  | .capture _ => "capture"
  | .number _ => "number"
  | .whitespace => "whitespace"
  | .eol => "eol"
  | .eoi => "eoi"
  | .userObject => "user-object"
  | .location => "location"

/-- The rules a rule refers to, in the order they are declared; a separator comes last. -/
def children : Rule → List RuleId
  | .sequence _ parts separator => parts.map Part.rule ++ separator.toList
  | .alternative _ candidates => candidates
  | .repetition element separator _ _ _ => element :: separator.toList
  | .optional child | .lookAhead child | .not child | .capture child => [child]
  | .surround opening inner closing => opening :: inner :: closing.toList
  | _ => []

/-- Whether outcomes of the rule are remembered on their own. Rules that only relay the outcome
of a child are not: the child's outcome is remembered already. -/
def isConcrete : Rule → Bool
  | .optional _ | .alternative _ _ | .lookAhead _ | .not _ => false
  | _ => true

end Rule

end Packrat
