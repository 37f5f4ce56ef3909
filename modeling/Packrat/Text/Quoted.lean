import Packrat.Text.Hexadecimal
import Packrat.Text.Table.GraphemeExtend
import Packrat.Text.Table.Printable

/-!
# Quoted characters and texts

The written form of a character or text inside quotes. Tab, carriage return, line feed, the
backslash and the zero character have short escapes; the quote that delimits the form is escaped
and the other one is not; a character that is not printable, or that would join the character
before it, is written by its hexadecimal code point.

* `quotedChar`, `quotedText`: the two written forms.
-/

namespace Packrat.Text

/-- A character written by its code point. -/
def codePointEscape (c : Char) : List Char :=
  ['\\', 'u', '\x7b'] ++ hexDigits c.toNat ++ ['\x7d']

/-- A character as written between the quotes `quote`. -/
def escaped (quote : Char) (c : Char) : List Char :=
  if c = '\x00' then ['\\', '0']
  else if c = '\t' then ['\\', 't']
  else if c = '\r' then ['\\', 'r']
  else if c = '\n' then ['\\', 'n']
  else if c = '\\' then ['\\', '\\']
  else if c = quote then ['\\', quote]
  else if printable.has c && !graphemeExtend.has c then [c]
  else codePointEscape c

/-- A character in single quotes. -/
def quotedChar (c : Char) : String :=
  String.ofList ('\x27' :: escaped '\x27' c ++ ['\x27'])

/-- A text in double quotes. -/
def quotedText (text : String) : String :=
  String.ofList ('"' :: text.toList.flatMap (escaped '"') ++ ['"'])

end Packrat.Text
