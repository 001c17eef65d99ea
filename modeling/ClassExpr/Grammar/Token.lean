/-
Class expressions as tokens: words, quoted literals and single punctuation
characters.  Blanks and carets separate tokens and are dropped, except inside
quotes.
-/
import ClassExpr.Text.Blank

namespace ClassExpr

/-- A token is the text it covers. -/
abbrev Token := Text

namespace Token

/-- The characters that are tokens by themselves. -/
def isPunctuation (c : Char) : Bool :=
  c == '(' || c == ')' || c == '\x7b' || c == '\x7d' || c == ',' || c == '[' || c == ']'

/-- The characters that only separate tokens. -/
def isGap (c : Char) : Bool :=
  Text.isBlank c || c == '^'

/-- The pending characters, kept in reverse, as a token if there are any. -/
def flush (pending : Text) (tokens : List Token) : List Token :=
  if pending.isEmpty then tokens else pending.reverse :: tokens

/-- Reads tokens with some characters pending, inside or outside quotes. -/
def scan (quoted : Bool) (pending : Text) : Text → List Token
  | [] => flush pending []
  | c :: rest =>
    if quoted then
      if c = '"' then (c :: pending).reverse :: scan false [] rest
      else scan true (c :: pending) rest
    else if c = '"' then flush pending (scan true [c] rest)
    else if isPunctuation c then flush pending ([c] :: scan false [] rest)
    else if isGap c then flush pending (scan false [] rest)
    else scan false (c :: pending) rest

/-- The tokens of a text.  A quote that is never closed reaches to the end. -/
def ofText (text : Text) : List Token :=
  scan false [] text

end Token

end ClassExpr
