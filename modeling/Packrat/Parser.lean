import Packrat.Cache
import Packrat.Machine.Run
import Packrat.Value.Conversion

/-!
# Parsers

A parser is a grammar compiled from one entry rule. It can be used for any number of texts; each
parse has a state of its own.

* `ParseError`, `Error`: why a parse gives no value, and their wording.
* `Parser.build`: the parser of an entry rule.
* `Parser.parse`, `Parser.parseWith`: the value of a text.
* `Parser.tryParse`, `Parser.tryParseWith`: the same, where a text that does not match is no error.
* `Parser.parseAs`, `Parser.tryParseAs`: the same, followed by a conversion.
-/

namespace Packrat

/-! ## Errors -/

/-- A text that the entry rule does not accept. -/
inductive ParseError where
  /-- Nothing matches at the start of the text. -/
  | noMatch (rule : String) (furthest : Nat)
  /-- The rule matches only a part of a text that is to be consumed as a whole. -/
  | trailingInput (rule : String) (stop : Nat)
  deriving Repr, DecidableEq

/-- The wording of a text that is not accepted. -/
def ParseError.message : ParseError → String
  | .noMatch rule furthest =>
    s!"input does not match `{rule}` (furthest position examined: {furthest})"
  | .trailingInput rule stop => s!"`{rule}` matched up to byte {stop}, but the input continues"

/-- Why a parse gives no value. -/
inductive Error where
  /-- A rule is malformed. -/
  | grammar (error : GrammarError)
  /-- A promise inside the compiler or the machine is broken. -/
  | fault (fault : EngineFault)
  /-- The text is not accepted. -/
  | parse (error : ParseError)
  /-- The value does not have the shape asked for. -/
  | conversion (error : ConversionError)
  /-- The machine was stopped before it came to an end. -/
  | stopped
  deriving Repr, DecidableEq

namespace Error

/-- The wording of an error. -/
def message : Error → String
  | .grammar e => e.message
  | .fault f => f.message
  | .parse e => e.message
  | .conversion e => e.message
  | .stopped => "the machine was stopped before it came to an end"

/-- An error of the compiler as an error of a parse. -/
def ofCompile : CompileError → Error
  | .grammar e => .grammar e
  | .fault f => .fault f

end Error

/-! ## Parsers -/

/-- How a parser treats texts. -/
structure ParserOptions where
  /-- How outcomes are remembered. -/
  memoMode : MemoMode
  /-- Whether a text must be consumed as a whole. -/
  requireEnd : Bool
  deriving Repr, DecidableEq

/-- Outcomes are remembered as usual, and a part of a text is enough. -/
def ParserOptions.standard : ParserOptions := ⟨.standard, false⟩

/-- A grammar compiled from one entry rule. -/
structure Parser where
  /-- The compiled rules. -/
  cache : RuleCache
  /-- The entry rule. -/
  entry : RuleId
  /-- Its matcher. -/
  handle : Handle
  /-- How it treats texts. -/
  options : ParserOptions

/-- How a parse went. -/
structure ParseReport where
  /-- The value and the counters, or why there are none. -/
  result : Except Error (Value × Stats)
  /-- The events recorded, if a trace was asked for. -/
  trace : Option (Array Event)

namespace Parser

/-- The parser of an entry rule. -/
def build [RegexEngine] (g : Grammar) (model : ObjectModel) (entry : RuleId)
    (options : ParserOptions) : Except CompileError Parser :=
  match (RuleCache.empty g model).get entry with
  | (.ok h, cache) => .ok ⟨cache, entry, h, options⟩
  | (.error e, _) => .error e

/-- How many rules are compiled for the parser. -/
def compiledRules (p : Parser) : Nat :=
  p.cache.size

/-- How messages call the entry rule. -/
def name (p : Parser) : String :=
  p.cache.grammar.displayName p.entry

/-- What stays fixed while a text is parsed. -/
def environment (p : Parser) (text : String) (user : Value) : Environment :=
  ⟨text, p.cache.model, user, p.options.memoMode, p.cache.arena⟩

/-- The value of a match, unless the text goes on although it must not. -/
def accept (p : Parser) (size : Nat) (state : ParseState) : Option Value → Except ParseError Value
  | none => .error (.noMatch p.name state.cursor.furthest)
  | some v =>
    if p.options.requireEnd && state.cursor.pos < size then
      .error (.trailingInput p.name state.cursor.pos)
    else .ok v

/-- Parse a text from its start, with the value that rules for user objects produce. -/
def parseWith (p : Parser) (text : String) (user : Value) (traced : Bool) : ParseReport :=
  match Machine.matchRule (p.environment text user) Machine.plenty p.handle (.initial traced) with
  | none => ⟨.error .stopped, none⟩
  | some (.error fault, state) => ⟨.error (.fault fault), state.book.trace⟩
  | some (.ok outcome, state) =>
    match p.accept text.utf8ByteSize state outcome with
    | .error e => ⟨.error (.parse e), state.book.trace⟩
    | .ok v => ⟨.ok (v, state.book.stats), state.book.trace⟩

/-- A result where a text that is not accepted is no error. -/
def tolerant : Except Error α → Except Error (Option α)
  | .ok a => .ok (some a)
  | .error (.parse _) => .ok none
  | .error e => .error e

/-- The value of a text. -/
def parse (p : Parser) (text : String) : Except Error Value :=
  (p.parseWith text .null false).result.map Prod.fst

/-- The value of a text, if the text is accepted. -/
def tryParse (p : Parser) (text : String) : Except Error (Option Value) :=
  tolerant (p.parse text)

/-- The value of a text with the counters of the parse, if the text is accepted. -/
def tryParseWith (p : Parser) (text : String) (user : Value) (traced : Bool) :
    Except Error (Option (Value × Stats)) :=
  tolerant (p.parseWith text user traced).result

/-- A conversion as a step of a parse. -/
def converted (convert : Value → Except ConversionError α) (v : Value) : Except Error α :=
  (convert v).mapError .conversion

/-- The value of a text, converted. -/
def parseAs (p : Parser) (convert : Value → Except ConversionError α) (text : String) :
    Except Error α :=
  (p.parse text).bind (converted convert)

/-- The value of a text, converted, if the text is accepted. -/
def tryParseAs (p : Parser) (convert : Value → Except ConversionError α) (text : String) :
    Except Error (Option α) :=
  (p.tryParse text).bind fun
    | some v => (converted convert v).map some
    | none => .ok none

end Parser

end Packrat
