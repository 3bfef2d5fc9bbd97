import RpgSymbols.Text.Hex
import RpgSymbols.Text.Printable

/-!
Texts quoted for a message. The quote is single unless the text has single quotes and no double
ones; a backslash stands before a backslash and before the quote itself, and characters without
a printed form are written as escapes.
-/

namespace RpgSymbols.Text

def quotedChar (quote c : Char) : List Char :=
  let code := c.toNat
  if c == quote || c == '\\' then ['\\', c]
  else if c == '\n' then ['\\', 'n']
  else if c == '\r' then ['\\', 'r']
  else if c == '\t' then ['\\', 't']
  else if isPrintable c then [c]
  else if code < 0x100 then '\\' :: 'x' :: hexDigits 2 code
  else if code < 0x10000 then '\\' :: 'u' :: hexDigits 4 code
  else '\\' :: 'U' :: hexDigits 8 code

/-- The quote a text is shown in. -/
def quoteFor (chars : List Char) : Char :=
  if chars.contains '\'' && !chars.contains '"' then '"' else '\''

def quoted (text : String) : String :=
  let chars := text.toList
  let quote := quoteFor chars
  String.ofList (quote :: chars.flatMap (quotedChar quote) ++ [quote])

end RpgSymbols.Text
