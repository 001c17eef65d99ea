/-
Reading JSON.  Numbers keep their notation, because only numbers without
fraction and exponent are natural numbers here.  A string with half a
character in it is well-formed, but it has no text.
-/
import ClassExpr.File.Value
import ClassExpr.Text.Numeral

namespace ClassExpr

/-- A number as it is written. -/
structure JsonNumber where
  negative : Bool
  whole : Text
  fraction : Text
  exponent : Option Int
  deriving DecidableEq, Repr

/-- A JSON value.  Objects keep the order of their members and repeated
keys. -/
inductive Json where
  | null
  | bool (value : Bool)
  | number (value : JsonNumber)
  | string (text? : Option Text)
  | array (items : List Json)
  | object (members : List (Option Text × Json))

namespace Json

def skipBlanks (text : Text) : Text :=
  text.dropWhile fun c => c == ' ' || c == '\n' || c == '\r' || c == '\t'

def hexDigit? (c : Char) : Option Nat :=
  if c.isDigit then some (c.toNat - '0'.toNat)
  else if 'a' ≤ c ∧ c ≤ 'f' then some (c.toNat - 'a'.toNat + 10)
  else if 'A' ≤ c ∧ c ≤ 'F' then some (c.toNat - 'A'.toNat + 10)
  else none

/-- The number that hexadecimal digits write. -/
def hex? (digits : Text) : Option Nat :=
  digits.foldl (fun value? c =>
    match value?, hexDigit? c with
    | some value, some digit => some (16 * value + digit)
    | _, _ => none) (some 0)

def escaped? : Char → Option Char
  | '"' => some '"'
  | '\\' => some '\\'
  | '/' => some '/'
  | 'b' => some '\x08'
  | 'f' => some '\x0c'
  | 'n' => some '\n'
  | 'r' => some '\r'
  | 't' => some '\t'
  | _ => none

/-- The character that two halves write together. -/
def pair (high low : Nat) : Char :=
  Char.ofNat (0x10000 + (high - 0xD800) * 0x400 + (low - 0xDC00))

/-- Whether a code is half of a character. -/
def isHalf (code : Nat) : Bool :=
  0xD800 ≤ code && code < 0xE000

/-- Whether two codes are the halves of a character. -/
def arePair (high low : Nat) : Bool :=
  0xD800 ≤ high && high < 0xDC00 && 0xDC00 ≤ low && low < 0xE000

/-- The characters read so far, in reverse, and one more.  Half a character
has no text. -/
def push (read? : Option Text) (code : Nat) : Option Text :=
  if isHalf code then none else read?.map (Char.ofNat code :: ·)

/-- Reads a string behind its opening quote, with the characters read so far
in reverse. -/
def string? (read? : Option Text) : Text → Option (Option Text × Text)
  | [] => none
  | '"' :: rest => some (read?.map List.reverse, rest)
  | '\\' :: 'u' :: a :: b :: c :: d :: '\\' :: 'u' :: e :: f :: g :: h :: rest =>
    match hex? [a, b, c, d], hex? [e, f, g, h] with
    | some code, some next =>
      if arePair code next then string? (read?.map (pair code next :: ·)) rest
      else string? (push read? code) ('\\' :: 'u' :: e :: f :: g :: h :: rest)
    | _, _ => none
  | '\\' :: 'u' :: a :: b :: c :: d :: rest =>
    match hex? [a, b, c, d] with
    | some code => string? (push read? code) rest
    | none => none
  | '\\' :: c :: rest =>
    match escaped? c with
    | some c => string? (read?.map (c :: ·)) rest
    | none => none
  | c :: rest => if c.toNat < 0x20 then none else string? (read?.map (c :: ·)) rest

/-- Reads the digits of an exponent behind its mark. -/
def exponent? (text : Text) : Option (Int × Text) :=
  let (negative, digits) :=
    match text with
    | '+' :: rest => (false, rest)
    | '-' :: rest => (true, rest)
    | other => (false, other)
  match Text.decimal? (digits.takeWhile Char.isDigit) with
  | none => none
  | some value =>
    let signed : Int := if negative then -value else value
    some (signed, digits.dropWhile Char.isDigit)

/-- Reads a number.  A leading zero stands alone. -/
def number? (text : Text) : Option (JsonNumber × Text) :=
  let (negative, text) :=
    match text with
    | '-' :: rest => (true, rest)
    | other => (false, other)
  let (whole, rest) :=
    match text with
    | '0' :: rest => (['0'], rest)
    | other => (other.takeWhile Char.isDigit, other.dropWhile Char.isDigit)
  if whole.isEmpty then none
  else
    let fraction? : Option (Text × Text) :=
      match rest with
      | '.' :: tail =>
        if (tail.takeWhile Char.isDigit).isEmpty then none
        else some (tail.takeWhile Char.isDigit, tail.dropWhile Char.isDigit)
      | other => some ([], other)
    match fraction? with
    | none => none
    | some (fraction, rest) =>
      let exponent? : Option (Option Int × Text) :=
        match rest with
        | 'e' :: tail | 'E' :: tail => (exponent? tail).map fun read => (some read.1, read.2)
        | other => some (none, other)
      match exponent? with
      | none => none
      | some (exponent, rest) => some (⟨negative, whole, fraction, exponent⟩, rest)

/-- What is being read inside the brackets that are open. -/
inductive Frame where
  /-- An array with the items read so far, in reverse. -/
  | array (items : List Json)
  /-- An object with the members read so far, in reverse, and a key that
  waits for its value. -/
  | object (members : List (Option Text × Json)) (key? : Option Text)

/-- Reads the key of a member and the colon behind it. -/
def key? (text : Text) : Option (Option Text × Text) :=
  match skipBlanks text with
  | '"' :: rest =>
    match string? (some []) rest with
    | none => none
    | some (key, rest) =>
      match skipBlanks rest with
      | ':' :: rest => some (key, rest)
      | _ => none
  | _ => none

/-- Reads a value without parts. -/
def scalar? (text : Text) : Option (Json × Text) :=
  match text with
  | 'n' :: 'u' :: 'l' :: 'l' :: rest => some (.null, rest)
  | 't' :: 'r' :: 'u' :: 'e' :: rest => some (.bool true, rest)
  | 'f' :: 'a' :: 'l' :: 's' :: 'e' :: rest => some (.bool false, rest)
  | '"' :: rest => (string? (some []) rest).map fun read => (.string read.1, read.2)
  | other => (number? other).map fun read => (.number read.1, read.2)

mutual

/-- Reads a value inside open brackets, and all that follows it. -/
def value? : Nat → List Frame → Text → Option Json
  | 0, _, _ => none
  | fuel + 1, frames, text =>
    match skipBlanks text with
    | '[' :: rest =>
      match skipBlanks rest with
      | ']' :: rest => close? fuel frames (.array []) rest
      | _ => value? fuel (.array [] :: frames) rest
    | '\x7b' :: rest =>
      match skipBlanks rest with
      | '\x7d' :: rest => close? fuel frames (.object []) rest
      | _ =>
        match key? rest with
        | some (key, rest) => value? fuel (.object [] key :: frames) rest
        | none => none
    | other =>
      match scalar? other with
      | some (value, rest) => close? fuel frames value rest
      | none => none

/-- Goes on behind a complete value. -/
def close? : Nat → List Frame → Json → Text → Option Json
  | 0, _, _, _ => none
  | fuel + 1, frames, value, text =>
    match frames with
    | [] => if (skipBlanks text).isEmpty then some value else none
    | .array items :: outer =>
      match skipBlanks text with
      | ',' :: rest => value? fuel (.array (value :: items) :: outer) rest
      | ']' :: rest => close? fuel outer (.array (value :: items).reverse) rest
      | _ => none
    | .object members key :: outer =>
      match skipBlanks text with
      | ',' :: rest =>
        match key? rest with
        | some (next, rest) => value? fuel (.object ((key, value) :: members) next :: outer) rest
        | none => none
      | '\x7d' :: rest => close? fuel outer (.object ((key, value) :: members).reverse) rest
      | _ => none

end

/-- Reads a text that holds one value and nothing else.  Every step but one
takes a character away. -/
def parse? (text : Text) : Option Json :=
  value? (2 * text.length + 2) [] text

/-- A number without sign, fraction and exponent of at most 64 bits. -/
def natural? : Json → Option Nat
  | .number written =>
    if written.negative || !written.fraction.isEmpty || written.exponent.isSome then none
    else (Text.decimal? written.whole).filter (· ≤ Text.max64)
  | _ => none

/-- The fields of an object, or of an array that lists them in order. -/
def fields? (names : List Text) : Json → Option (List (Text × Json))
  | .object members => members.mapM fun member => member.1.map fun name => (name, member.2)
  | .array items => if names.length < items.length then none else some (names.zip items)
  | _ => none

/-- A choice is a string, or an object that gives it the value null. -/
def choice? : Json → Option Text
  | .string text? => text?
  | .object [(key?, .null)] => key?
  | _ => none

instance : FileValue Json where
  fields? := fields?
  items?
    | .array items => some items
    | _ => none
  natural? := natural?
  flag?
    | .bool value => some value
    | _ => none
  text?
    | .string text? => text?
    | _ => none
  choice? := choice?

end Json

end ClassExpr
