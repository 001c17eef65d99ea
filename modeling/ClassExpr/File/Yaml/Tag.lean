/-
The tags of YAML.  A tag is a sequence of octets.  It is written behind a
handle that stands for its first octets, or between angle brackets.
-/
import ClassExpr.File.Json
import ClassExpr.File.Yaml.Cursor

namespace ClassExpr
namespace Yaml

abbrev Octets := List UInt8

/-- The octets of a text of ASCII characters. -/
def octets (text : Text) : Octets :=
  text.map fun c => c.toNat.toUInt8

/-- The text that octets encode. -/
def textOf? (octets : Octets) : Option Text :=
  (String.fromUTF8? ⟨octets.toArray⟩).map String.toList

def isNameChar (c : Char) : Bool :=
  c.isAlphanum || c == '_' || c == '-'

/-- The characters of a tag behind its handle. -/
def isTagChar (c : Char) : Bool :=
  isNameChar c || ";/?:@&=+$.%!~*'()".toList.contains c

/-- The characters of a tag between angle brackets. -/
def isVerbatimChar (c : Char) : Bool :=
  isTagChar c || c == ',' || c == '[' || c == ']'

/-- The number of octets that follow the first octet of a character. -/
def followers? (octet : Nat) : Option Nat :=
  if octet < 0x80 then some 0
  else if octet < 0xC0 then none
  else if octet < 0xE0 then some 1
  else if octet < 0xF0 then some 2
  else if octet < 0xF8 then some 3
  else none

/-- Whether an octet is one that follows the first octet of a character. -/
def isFollower (octet : Nat) : Bool :=
  0x80 ≤ octet && octet < 0xC0

/-- The octets that a text writes, some of them as a percent sign and two
digits.  The first `pending` octets have to follow one in front. -/
def escapedOctets? (pending : Nat) : Text → Option Octets
  | [] => if pending = 0 then some [] else none
  | '%' :: a :: b :: rest =>
    match Json.hex? [a, b], pending with
    | none, _ => none
    | some octet, 0 =>
      match followers? octet with
      | none => none
      | some count => (escapedOctets? count rest).map (octet.toUInt8 :: ·)
    | some octet, count + 1 =>
      if isFollower octet then (escapedOctets? count rest).map (octet.toUInt8 :: ·) else none
  | c :: rest =>
    if c == '%' || pending != 0 then none
    else (escapedOctets? 0 rest).map (c.toNat.toUInt8 :: ·)

/-- The octets that a text writes, up to an octet of zero. -/
def octets? (text : Text) : Option Octets :=
  (escapedOctets? 0 text).map fun octets => octets.takeWhile (· != 0)

/-- The mark, a name and perhaps a second mark, at the start of a text. -/
def handleAt : Text → Text
  | '!' :: rest =>
    let name := rest.takeWhile isNameChar
    if (rest.drop name.length).head? == some '!' then '!' :: name ++ ['!'] else '!' :: name
  | _ => []

/-- Whether a text is a handle: one mark, or a name between two. -/
def isHandle (text : Text) : Bool :=
  text == ['!'] || (1 < text.length && text.getLast? == some '!')

/-- A tag as it is written.  The empty handle stands for nothing. -/
structure WrittenTag where
  handle : Text
  suffix : Octets
  deriving DecidableEq

namespace WrittenTag

/-- The tag that a text begins with, and the number of characters that write
it.  A mark alone is a tag of its own. -/
def read? (text : Text) : Option (WrittenTag × Nat) :=
  match text with
  | '!' :: '<' :: rest =>
    let name := rest.takeWhile isVerbatimChar
    if name.isEmpty || (rest.drop name.length).head? != some '>' then none
    else (octets? name).map fun suffix => (⟨[], suffix⟩, name.length + 3)
  | text =>
    let handle := handleAt text
    if 1 < handle.length && isHandle handle then
      let name := (text.drop handle.length).takeWhile isTagChar
      if name.isEmpty then none
      else (octets? name).map fun suffix => (⟨handle, suffix⟩, handle.length + name.length)
    else
      let name := (text.drop 1).takeWhile isTagChar
      (octets? name).map fun suffix =>
        (if suffix.isEmpty then ⟨[], octets ['!']⟩ else ⟨['!'], suffix⟩, name.length + 1)

/-- The octets that a handle stands for, among those that are given and the
two that are always there. -/
def start? (handles : List (Text × Octets)) (handle : Text) : Option Octets :=
  if handle.isEmpty then some []
  else
    (handles ++ [(['!'], octets ['!']), (['!', '!'], octets "tag:yaml.org,2002:".toList)]).lookup
      handle

/-- The octets of a tag with its handle. -/
def resolve? (handles : List (Text × Octets)) (tag : WrittenTag) : Option Octets :=
  (start? handles tag.handle).map (· ++ tag.suffix)

end WrittenTag

end Yaml
end ClassExpr
