/-
YAML as a list of tokens.  Indentation becomes explicit marks for the start
and end of block collections.  A word turns out to be a key only when its
colon is met; the marks in front of it are put in place then.
-/
import ClassExpr.File.Yaml.Scalar
import ClassExpr.File.Yaml.Tag

namespace ClassExpr
namespace Yaml

/-- The ways to write a scalar that are told apart. -/
inductive Style where
  | plain
  /-- A block scalar that keeps its line breaks. -/
  | literal
  /-- A quoted scalar, or a block scalar whose lines are folded. -/
  | other
  deriving DecidableEq

inductive Token where
  | version
  | handle (name : Text) (start : Octets)
  | documentStart
  | documentEnd
  | blockSequenceStart
  | blockMappingStart
  | blockEnd
  | flowSequenceStart
  | flowSequenceEnd
  | flowMappingStart
  | flowMappingEnd
  | blockEntry
  | flowEntry
  | key
  | value
  | reference (name : Text)
  | anchor (name : Text)
  | tag (tag : WrittenTag)
  | scalar (style : Style) (text : Text)
  deriving DecidableEq

/-- A place that may turn out to be the start of a key. -/
structure KeyStart where
  /-- The number of tokens in front of it. -/
  position : Nat
  /-- Whether the place can be nothing else. -/
  required : Bool
  index : Nat
  line : Nat
  col : Nat

/-- The state of the scan.  There is one possible key for the block level and
one for each open flow collection, innermost first. -/
structure Scan where
  cursor : Cursor
  tokens : Array Token := #[]
  /-- The columns of the open block collections, innermost first. -/
  indents : List Nat := []
  keyAllowed : Bool := true
  keys : List (Option KeyStart) := [none]

namespace Scan

def inFlow (scan : Scan) : Bool :=
  1 < scan.keys.length

/-- The column from which the innermost block collection allows content. -/
def contentIndent (scan : Scan) : Nat :=
  match scan.indents with
  | [] => 0
  | indent :: _ => indent + 1

def emit (scan : Scan) (token : Token) : Scan :=
  { scan with tokens := scan.tokens.push token }

/-- Puts a token in front of those from a position on. -/
def emitAt (scan : Scan) (position : Nat) (token : Token) : Scan :=
  { scan with
    tokens := scan.tokens.extract 0 position ++ #[token] ++
      scan.tokens.extract position scan.tokens.size }

def skip (scan : Scan) (count : Nat) : Scan :=
  { scan with cursor := scan.cursor.skip count }

/-- Passes over blanks, comments, line breaks and a byte order mark at the
start of a line.  A new line outside flow collections may begin with a key. -/
def skipGaps : Nat → Scan → Scan
  | 0, scan => scan
  | fuel + 1, scan =>
    match scan.cursor.rest with
    | [] => scan
    | c :: _ =>
      if c == ' ' || (c == '\t' && (scan.inFlow || !scan.keyAllowed)) ||
          (isByteOrderMark c && scan.cursor.col == 0) then
        skipGaps fuel (scan.skip 1)
      else if c == '#' then skipGaps fuel { scan with cursor := scan.cursor.skipLine }
      else if isBreak c then
        skipGaps fuel
          { scan with
            cursor := scan.cursor.skipBreak
            keyAllowed := scan.keyAllowed || !scan.inFlow }
      else scan

/-- The longest key in bytes. -/
def maxKeyLength : Nat := 1024

/-- Gives up the possible keys that can no longer get their colon. -/
def dropStaleKeys? (scan : Scan) : Option Scan :=
  let isStale : KeyStart → Bool := fun key =>
    key.line < scan.cursor.line || key.index + maxKeyLength < scan.cursor.index
  if scan.keys.any fun key? => (key?.map fun key => isStale key && key.required).getD false
  then none
  else some { scan with keys := scan.keys.map fun key? => key?.filter fun key => !isStale key }

/-- Gives up the possible key of the innermost level. -/
def dropKey? (scan : Scan) : Option Scan :=
  match scan.keys with
  | [] => some scan
  | key? :: outer =>
    if (key?.map KeyStart.required).getD false then none
    else some { scan with keys := none :: outer }

/-- Notes that a key may start here. -/
def noteKey? (scan : Scan) : Option Scan :=
  if !scan.keyAllowed then some scan
  else
    match scan.dropKey? with
    | none => none
    | some scan =>
      let key : KeyStart :=
        { position := scan.tokens.size
          required := !scan.inFlow && scan.indents.head? == some scan.cursor.col
          index := scan.cursor.index
          line := scan.cursor.line
          col := scan.cursor.col }
      some { scan with keys := some key :: scan.keys.drop 1 }

/-- Closes the block collections that are indented further than a column, or
all of them. -/
def closeBlocks (scan : Scan) (col? : Option Nat) : Scan :=
  if scan.inFlow then scan
  else
    let isOpen : Nat → Bool := fun indent =>
      match col? with
      | some col => indent ≤ col
      | none => false
    let closed := scan.indents.takeWhile fun indent => !isOpen indent
    { scan with
      tokens := scan.tokens ++ (closed.map fun _ => Token.blockEnd).toArray
      indents := scan.indents.drop closed.length }

/-- Opens a block collection at a column unless one is open there. -/
def openBlock (scan : Scan) (col position : Nat) (token : Token) : Scan :=
  if scan.inFlow || !(scan.indents.head?.map fun indent => decide (indent < col)).getD true then
    scan
  else { scan.emitAt position token with indents := col :: scan.indents }

/-- The start or end of a document. -/
def document? (scan : Scan) (token : Token) : Option Scan :=
  ((scan.closeBlocks none).dropKey?).map fun scan =>
    { (scan.skip 3).emit token with keyAllowed := false }

/-- Reads a number of a version, which has at most nine digits. -/
def versionNumber? (text : Text) : Option (Nat × Text) :=
  let digits := text.takeWhile Char.isDigit
  if 9 < digits.length then none
  else (Text.decimal? digits).map fun number => (number, text.drop digits.length)

/-- Reads a version of YAML that is supported. -/
def version? (text : Text) : Option (Token × Text) :=
  match versionNumber? (text.dropWhile isBlank) with
  | some (1, '.' :: text) =>
    match versionNumber? text with
    | some (minor, text) =>
      if minor == 1 || minor == 2 then some (.version, text) else none
    | none => none
  | _ => none

/-- Reads a handle and what it stands for. -/
def handle? (text : Text) : Option (Token × Text) :=
  let text := text.dropWhile isBlank
  let name := handleAt text
  let text := text.drop name.length
  let start := (text.dropWhile isBlank).takeWhile isVerbatimChar
  let after := (text.dropWhile isBlank).drop start.length
  if !isHandle name || !(text.head?.map isBlank).getD false || start.isEmpty ||
      !endsWord after then none
  else (octets? start).map fun start => (.handle name start, after)

/-- Reads the directive of a line without its mark. -/
def directiveOf? (line : Text) : Option Token :=
  let name := line.takeWhile isNameChar
  let text := line.drop name.length
  let read? :=
    if !endsWord text then none
    else if name == "YAML".toList then version? text
    else if name == "TAG".toList then handle? text
    else none
  match read? with
  | none => none
  | some (token, text) =>
    match text.dropWhile isBlank with
    | [] => some token
    | c :: _ => if c == '#' then some token else none

/-- A directive takes its whole line. -/
def directive? (scan : Scan) : Option Scan :=
  match directiveOf? ((scan.cursor.rest.drop 1).takeWhile fun c => !isBreak c) with
  | none => none
  | some token =>
    ((scan.closeBlocks none).dropKey?).map fun scan =>
      { scan.emit token with cursor := scan.cursor.skipLine, keyAllowed := false }

/-- The opening bracket of a flow collection. -/
def openFlow? (scan : Scan) (token : Token) : Option Scan :=
  scan.noteKey?.map fun scan =>
    { (scan.skip 1).emit token with keys := none :: scan.keys, keyAllowed := true }

/-- The closing bracket of a flow collection. -/
def closeFlow? (scan : Scan) (token : Token) : Option Scan :=
  scan.dropKey?.map fun scan =>
    { (scan.skip 1).emit token with
      keys := if scan.inFlow then scan.keys.drop 1 else scan.keys
      keyAllowed := false }

/-- The comma between the items of a flow collection. -/
def flowEntry? (scan : Scan) : Option Scan :=
  scan.dropKey?.map fun scan => { (scan.skip 1).emit .flowEntry with keyAllowed := true }

/-- The dash in front of an item of a block sequence. -/
def blockEntry? (scan : Scan) : Option Scan :=
  if !scan.inFlow && !scan.keyAllowed then none
  else
    let scan := scan.openBlock scan.cursor.col scan.tokens.size .blockSequenceStart
    scan.dropKey?.map fun scan => { (scan.skip 1).emit .blockEntry with keyAllowed := true }

/-- The mark of a key that is written out. -/
def key? (scan : Scan) : Option Scan :=
  if !scan.inFlow && !scan.keyAllowed then none
  else
    let scan := scan.openBlock scan.cursor.col scan.tokens.size .blockMappingStart
    scan.dropKey?.map fun scan => { (scan.skip 1).emit .key with keyAllowed := !scan.inFlow }

/-- The colon between a key and its value. -/
def value? (scan : Scan) : Option Scan :=
  match scan.keys.head?.join with
  | some key =>
    let scan := scan.emitAt key.position .key
    let scan := scan.openBlock key.col key.position .blockMappingStart
    some
      { (scan.skip 1).emit .value with
        keys := none :: scan.keys.drop 1
        keyAllowed := false }
  | none =>
    if !scan.inFlow && !scan.keyAllowed then none
    else
      let scan := scan.openBlock scan.cursor.col scan.tokens.size .blockMappingStart
      some { (scan.skip 1).emit .value with keyAllowed := !scan.inFlow }

/-- The name of an anchor behind its mark. -/
def anchor? (scan : Scan) (token : Text → Token) : Option Scan :=
  match scan.noteKey? with
  | none => none
  | some scan =>
    let name := (scan.cursor.rest.drop 1).takeWhile isNameChar
    let after := (scan.cursor.rest.drop 1).drop name.length
    let ends :=
      endsWord after ||
        (after.head?.map fun c => "?:,]\x7d%@\x60".toList.contains c).getD false
    if name.isEmpty || !ends then none
    else some { (scan.skip (name.length + 1)).emit (token name) with keyAllowed := false }

def tag? (scan : Scan) : Option Scan :=
  match scan.noteKey? with
  | none => none
  | some scan =>
    match WrittenTag.read? scan.cursor.rest with
    | none => none
    | some (tag, length) =>
      let after := scan.cursor.rest.drop length
      if endsWord after || (scan.inFlow && after.head? == some ',') then
        some { (scan.skip length).emit (.tag tag) with keyAllowed := false }
      else none

/-- A scalar that may be a key. -/
def scalar? (scan : Scan) (style : Style) (read : Scan → Option Scanned) : Option Scan :=
  match scan.noteKey? with
  | none => none
  | some scan =>
    match read scan with
    | none => none
    | some scanned =>
      some
        { scan.emit (.scalar style scanned.text) with
          cursor := scanned.cursor
          keyAllowed := scanned.newLine }

/-- A block scalar, which is never a key. -/
def blockScalar? (scan : Scan) (literal : Bool) : Option Scan :=
  match scan.dropKey? with
  | none => none
  | some scan =>
    match block? literal scan.contentIndent (scan.cursor.skip 1) with
    | none => none
    | some scanned =>
      some
        { scan.emit (.scalar (if literal then .literal else .other) scanned.text) with
          cursor := scanned.cursor
          keyAllowed := true }

def quotedScalar? (scan : Scan) (quote : Char) : Option Scan :=
  scan.scalar? .other fun scan =>
    quoted? quote (scan.cursor.rest.length + 1) .nothing [] (scan.cursor.skip 1)

def plainScalar? (scan : Scan) : Option Scan :=
  scan.scalar? .plain fun scan =>
    plain? scan.inFlow scan.contentIndent (scan.cursor.rest.length + 1) .nothing [] scan.cursor

def next? (scan : Scan) : Option Scan :=
  if scan.cursor.atMarker '-' then scan.document? .documentStart
  else if scan.cursor.atMarker '.' then scan.document? .documentEnd
  else
    match scan.cursor.rest with
    | [] => some scan
    | c :: rest =>
      let wordEnds := scan.inFlow || endsWord rest
      match c with
      | '%' => if scan.cursor.col == 0 then scan.directive? else none
      | '[' => scan.openFlow? .flowSequenceStart
      | '\x7b' => scan.openFlow? .flowMappingStart
      | ']' => scan.closeFlow? .flowSequenceEnd
      | '\x7d' => scan.closeFlow? .flowMappingEnd
      | ',' => scan.flowEntry?
      | '-' => if endsWord rest then scan.blockEntry? else scan.plainScalar?
      | '?' => if wordEnds then scan.key? else scan.plainScalar?
      | ':' => if wordEnds then scan.value? else scan.plainScalar?
      | '*' => scan.anchor? .reference
      | '&' => scan.anchor? .anchor
      | '!' => scan.tag?
      | '|' => if scan.inFlow then none else scan.blockScalar? true
      | '>' => if scan.inFlow then none else scan.blockScalar? false
      | '\'' => scan.quotedScalar? '\''
      | '"' => scan.quotedScalar? '"'
      | '@' => none
      | '\x60' => none
      | _ => if isBlank c then none else scan.plainScalar?

/-- Reads all tokens.  Each round takes a character away. -/
def run? : Nat → Scan → Option (List Token)
  | 0, _ => none
  | fuel + 1, scan =>
    match (skipGaps (scan.cursor.rest.length + 1) scan).dropStaleKeys? with
    | none => none
    | some scan =>
      if scan.cursor.rest.isEmpty then
        ((scan.closeBlocks none).dropKey?).map fun scan => scan.tokens.toList
      else
        match (scan.closeBlocks (some scan.cursor.col)).next? with
        | none => none
        | some scan => run? fuel scan

end Scan

def tokens? (text : Text) : Option (List Token) :=
  if text.all isAllowed then Scan.run? (text.length + 1) { cursor := { rest := text } }
  else none

end Yaml
end ClassExpr
