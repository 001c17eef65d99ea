/-
Reading the scalars of YAML: plain, quoted and block scalars, each of which
may go on over several lines.
-/
import ClassExpr.File.Json
import ClassExpr.File.Yaml.Cursor

namespace ClassExpr
namespace Yaml

/-- Blanks and line breaks that are read but not yet part of a value. -/
inductive Pending where
  | nothing
  /-- Blanks inside a line, in reverse. -/
  | blanks (chars : Text)
  /-- A first line break, unless it was escaped, and those after it in
  reverse. -/
  | breaks (first : Option Char) (more : Text)

namespace Pending

/-- One more blank.  Blanks at the start of a line do not count. -/
def addBlank (c : Char) : Pending → Pending
  | .nothing => .blanks [c]
  | .blanks chars => .blanks (c :: chars)
  | .breaks first more => .breaks first more

/-- One more line break.  Blanks at the end of a line do not count. -/
def addBreak (c : Char) : Pending → Pending
  | .nothing | .blanks _ => .breaks (some (breakChar c)) []
  | .breaks first more => .breaks first (breakChar c :: more)

/-- What the blanks and breaks contribute to the value, in reverse.  A single
line break folds into a space. -/
def folded : Pending → Text
  | .nothing => []
  | .blanks chars => chars
  | .breaks none more => more
  | .breaks (some first) more =>
    if first = '\n' then if more.isEmpty then [' '] else more else more ++ [first]

def hasBreak : Pending → Bool
  | .breaks _ _ => true
  | _ => false

def isNone : Pending → Bool
  | .nothing => true
  | _ => false

end Pending

/-- A scalar with the place behind it, and whether that place is on a new
line. -/
structure Scanned where
  text : Text
  cursor : Cursor
  newLine : Bool := false

/-- Whether a plain scalar ends before these characters. -/
def endsPlain (flow : Bool) : Text → Bool
  | ':' :: rest => endsWord rest
  | c :: _ => flow && (c == ',' || c == '[' || c == ']' || c == '\x7b' || c == '\x7d')
  | [] => true

/-- Whether a colon stands where a flow collection cannot have it. -/
def misplacedColon (flow : Bool) : Text → Bool
  | ':' :: c :: _ =>
    flow && (c == ',' || c == '?' || c == '[' || c == ']' || c == '\x7b' || c == '\x7d')
  | _ => false

/-- A plain scalar read in reverse that ends here; blanks and breaks behind it
are not part of it. -/
def plainEnd (pending : Pending) (read : Text) (cursor : Cursor) : Scanned :=
  ⟨read.reverse, cursor, pending.hasBreak⟩

/-- Reads a plain scalar.  Outside flow collections its lines have to be
indented by `indent` columns. -/
def plain? (flow : Bool) (indent : Nat) : Nat → Pending → Text → Cursor → Option Scanned
  | 0, _, _, _ => none
  | fuel + 1, pending, read, cursor =>
    match cursor.rest with
    | [] => some (plainEnd pending read cursor)
    | c :: _ =>
      if isBlank c then
        if pending.hasBreak && c == '\t' && cursor.col < indent then none
        else plain? flow indent fuel (pending.addBlank c) read (cursor.skip 1)
      else if isBreak c then
        plain? flow indent fuel (pending.addBreak c) read cursor.skipBreak
      else if !pending.isNone && ((!flow && cursor.col < indent) || c == '#') then
        some (plainEnd pending read cursor)
      else if cursor.atDocumentMarker then some (plainEnd pending read cursor)
      else if misplacedColon flow cursor.rest then none
      else if endsPlain flow cursor.rest then some (plainEnd pending read cursor)
      else plain? flow indent fuel .nothing (c :: (pending.folded ++ read)) (cursor.skip 1)

/-- The character of an escape letter in double quotes. -/
def escaped? : Char → Option Char
  | '0' => some '\x00'
  | 'a' => some '\x07'
  | 'b' => some '\x08'
  | 't' => some '\t'
  | '\t' => some '\t'
  | 'n' => some '\n'
  | 'v' => some '\x0b'
  | 'f' => some '\x0c'
  | 'r' => some '\r'
  | 'e' => some '\x1b'
  | ' ' => some ' '
  | '"' => some '"'
  | '/' => some '/'
  | '\\' => some '\\'
  | 'N' => some '\u0085'
  | '_' => some '\u00a0'
  | 'L' => some '\u2028'
  | 'P' => some '\u2029'
  | _ => none

/-- The number of hexadecimal digits behind an escape letter. -/
def escapeDigits? : Char → Option Nat
  | 'x' => some 2
  | 'u' => some 4
  | 'U' => some 8
  | _ => none

/-- The character behind a backslash, and the number of characters that
write it. -/
def escape? (text : Text) : Option (Char × Nat) :=
  match text with
  | [] => none
  | letter :: rest =>
    match escapeDigits? letter with
    | none => (escaped? letter).map fun c => (c, 1)
    | some count =>
      if rest.length < count then none
      else
        match Json.hex? (rest.take count) with
        | none => none
        | some code =>
          if (0xD800 ≤ code ∧ code < 0xE000) ∨ 0x10FFFF < code then none
          else some (Char.ofNat code, count + 1)

/-- Reads a quoted scalar behind its opening quote. -/
def quoted? (quote : Char) : Nat → Pending → Text → Cursor → Option Scanned
  | 0, _, _, _ => none
  | fuel + 1, pending, read, cursor =>
    match cursor.rest with
    | [] => none
    | c :: rest =>
      if cursor.atDocumentMarker then none
      else if isBlank c then quoted? quote fuel (pending.addBlank c) read (cursor.skip 1)
      else if isBreak c then quoted? quote fuel (pending.addBreak c) read cursor.skipBreak
      else
        let read := pending.folded ++ read
        if c == quote then
          if quote == '\'' && rest.head? == some '\'' then
            quoted? quote fuel .nothing (c :: read) (cursor.skip 2)
          else some { text := read.reverse, cursor := cursor.skip 1 }
        else if quote == '"' && c == '\\' then
          if (rest.head?.map isBreak).getD false then
            quoted? quote fuel (.breaks none []) read (cursor.skip 1).skipBreak
          else
            match escape? rest with
            | some (written, count) =>
              quoted? quote fuel .nothing (written :: read) (cursor.skip (count + 1))
            | none => none
        else quoted? quote fuel .nothing (c :: read) (cursor.skip 1)

/-- What happens to the line breaks at the end of a block scalar. -/
inductive Chomping where
  | strip
  | clip
  | keep
  deriving DecidableEq

/-- Reads the signs behind the mark of a block scalar: how its end is
chomped and by how much it is indented, in either order. -/
def blockHeader (cursor : Cursor) : Chomping × Option Nat × Cursor :=
  let sign? : Char → Option Chomping := fun c =>
    if c == '+' then some .keep else if c == '-' then some .strip else none
  let digit? : Char → Option Nat := fun c => Text.digit? c
  match cursor.rest with
  | a :: b :: _ =>
    match sign? a, digit? a with
    | some chomping, _ =>
      match digit? b with
      | some n => (chomping, some n, cursor.skip 2)
      | none => (chomping, none, cursor.skip 1)
    | none, some n =>
      match sign? b with
      | some chomping => (chomping, some n, cursor.skip 2)
      | none => (.clip, some n, cursor.skip 1)
    | none, none => (.clip, none, cursor)
  | [a] =>
    match sign? a, digit? a with
    | some chomping, _ => (chomping, none, cursor.skip 1)
    | none, some n => (.clip, some n, cursor.skip 1)
    | none, none => (.clip, none, cursor)
  | [] => (.clip, none, cursor)

/-- Reads the empty lines of a block scalar.  Gives the line breaks in
reverse, the largest indentation seen and the place behind. -/
def blockBreaks? (indent : Nat) : Nat → Text → Nat → Cursor → Option (Text × Nat × Cursor)
  | 0, _, _, _ => none
  | fuel + 1, breaks, widest, cursor =>
    let inIndent := indent == 0 || cursor.col < indent
    match cursor.rest with
    | [] => some (breaks, max widest cursor.col, cursor)
    | c :: _ =>
      if inIndent && c == ' ' then blockBreaks? indent fuel breaks widest (cursor.skip 1)
      else if inIndent && c == '\t' then none
      else if isBreak c then
        blockBreaks? indent fuel (breakChar c :: breaks) (max widest cursor.col)
          cursor.skipBreak
      else some (breaks, max widest cursor.col, cursor)

/-- Reads the lines of a block scalar.  The text read so far, the last line
break and the empty lines after it are kept in reverse. -/
def blockLines? (literal : Bool) (indent : Nat) :
    Nat → Text → Text → Text → Bool → Cursor → Option (Text × Text × Text × Cursor)
  | 0, _, _, _, _, _ => none
  | fuel + 1, read, lastBreak, breaks, wasBlank, cursor =>
    match cursor.rest with
    | [] => some (read, lastBreak, breaks, cursor)
    | c :: _ =>
      if cursor.col != indent then some (read, lastBreak, breaks, cursor)
      else
        let isBlankLine := isBlank c
        let joint :=
          if !literal && lastBreak == ['\n'] && !wasBlank && !isBlankLine then
            if breaks.isEmpty then [' '] else []
          else lastBreak
        let content := cursor.rest.takeWhile fun c => !isBreak c
        let read := content.reverse ++ breaks ++ joint ++ read
        let cursor := cursor.skip content.length
        match cursor.rest with
        | [] => some (read, [], [], cursor)
        | ending :: _ =>
          let cursor := cursor.skipBreak
          match blockBreaks? indent (cursor.rest.length + 1) [] 0 cursor with
          | none => none
          | some (breaks, _, cursor) =>
            blockLines? literal indent fuel read [breakChar ending] breaks isBlankLine cursor

/-- Reads a block scalar behind its mark.  `parent` is the indentation of the
collection around it, counted from one. -/
def block? (literal : Bool) (parent : Nat) (cursor : Cursor) : Option Scanned :=
  let (chomping, increment, cursor) := blockHeader cursor
  if increment = some 0 then none
  else
    let cursor := cursor.skip (cursor.rest.takeWhile isBlank).length
    let cursor := if cursor.rest.head? = some '#' then cursor.skipLine else cursor
    if !(cursor.rest.head?.map isBreak).getD true then none
    else
      let cursor := if cursor.rest.isEmpty then cursor else cursor.skipBreak
      let fixed :=
        match increment with
        | some n => (parent - 1) + n
        | none => 0
      match blockBreaks? fixed (cursor.rest.length + 1) [] 0 cursor with
      | none => none
      | some (breaks, widest, cursor) =>
        let indent := if fixed = 0 then max (max widest parent) 1 else fixed
        match blockLines? literal indent (cursor.rest.length + 1) [] [] breaks false cursor with
        | none => none
        | some (read, lastBreak, breaks, cursor) =>
          let read := if chomping = .strip then read else lastBreak ++ read
          let read := if chomping = .keep then breaks ++ read else read
          some { text := read.reverse, cursor, newLine := true }

end Yaml
end ClassExpr
