/-!
Blank characters, and the cutting of a text into words, parts and lines.
Every function is stated on characters first and lifted to strings afterwards, so that lemmas
never meet the byte encoding of a string.
-/

namespace RpgSymbols.Text

/-- Blank characters are the Unicode white space together with the four information separators. -/
def isBlank (c : Char) : Bool :=
  let code := c.toNat
  (0x09 ≤ code && code ≤ 0x0D) || (0x1C ≤ code && code ≤ 0x20) || code == 0x85 || code == 0xA0 ||
    code == 0x1680 || (0x2000 ≤ code && code ≤ 0x200A) || code == 0x2028 || code == 0x2029 ||
    code == 0x202F || code == 0x205F || code == 0x3000

def isWhiteSpace (c : Char) : Bool := isBlank c && !(0x1C ≤ c.toNat && c.toNat ≤ 0x1F)

/-- Cuts at every character that satisfies `cut`; the cutting characters are dropped and empty
pieces are kept, so a text with `n` cuts has `n + 1` pieces. -/
def pieces (cut : Char → Bool) : List Char → List (List Char)
  | [] => [[]]
  | c :: rest =>
      if cut c then [] :: pieces cut rest
      else match pieces cut rest with
        | [] => [[c]]
        | piece :: more => (c :: piece) :: more

def trimLeftChars (chars : List Char) : List Char := chars.dropWhile isBlank

def trimRightChars (chars : List Char) : List Char := (chars.reverse.dropWhile isBlank).reverse

def trimChars (chars : List Char) : List Char := trimRightChars (trimLeftChars chars)

/-- Words are the longest runs without a blank. -/
def wordsChars (chars : List Char) : List (List Char) :=
  (pieces isBlank chars).filter fun word => !word.isEmpty

def trim (text : String) : String := String.ofList (trimChars text.toList)

def words (text : String) : List String := (wordsChars text.toList).map String.ofList

def split (separator : Char) (text : String) : List String :=
  (pieces (· == separator) text.toList).map String.ofList

/-- What stands before the first `separator`; the whole text when there is none. -/
def before (separator : Char) (text : String) : String :=
  String.ofList (text.toList.takeWhile (· != separator))

/-- What stands after the first `separator`; empty when there is none. -/
def after (separator : Char) (text : String) : String :=
  String.ofList ((text.toList.dropWhile (· != separator)).drop 1)

/-- The text up to its last dot; the whole text when it has none. -/
def withoutExtension (text : String) : String :=
  let chars := text.toList
  if chars.contains '.' then
    String.ofList ((chars.reverse.dropWhile (· != '.')).drop 1).reverse
  else text

def join (separator : String) : List String → String
  | [] => ""
  | [text] => text
  | text :: rest => text ++ separator ++ join separator rest

def startsWith (text start : String) : Bool := start.toList.isPrefixOf text.toList

def endsWith (text ending : String) : Bool := ending.toList.isSuffixOf text.toList

def containsChars (part : List Char) : List Char → Bool
  | [] => part.isEmpty
  | c :: rest => part.isPrefixOf (c :: rest) || containsChars part rest

def contains (text part : String) : Bool := containsChars part.toList text.toList

/-- Lines end at a line feed; carriage returns are dropped wherever they stand. -/
def lines (text : String) : List String :=
  (pieces (· == '\n') (text.toList.filter (· != '\r'))).map String.ofList

end RpgSymbols.Text
