/-
What settings and vocabularies need from a file format.  A record is read as
a list of named fields, so that repeated and unknown names can be told.
-/
import ClassExpr.Text.Basic

namespace ClassExpr

/-- The views of a value in a file. -/
class FileValue (ν : Type) where
  /-- The fields of a record whose field names are known in order. -/
  fields? : List Text → ν → Option (List (Text × ν))
  /-- The items of a sequence. -/
  items? : ν → Option (List ν)
  /-- A natural number of at most 64 bits. -/
  natural? : ν → Option Nat
  /-- A truth value. -/
  flag? : ν → Option Bool
  /-- A text. -/
  text? : ν → Option Text
  /-- The name of one of several choices. -/
  choice? : ν → Option Text

namespace FileValue

variable {ν : Type} {α : Type}

/-- The value of a field that may be missing.  A field that is there twice
cannot be read. -/
def optional? (fields : List (Text × ν)) (name : Text) (missing : α) (read : ν → Option α) :
    Option α :=
  match fields.filter (·.1 == name) with
  | [] => some missing
  | [field] => read field.2
  | _ => none

/-- The value of a field that has to be there once. -/
def required? (fields : List (Text × ν)) (name : Text) (read : ν → Option α) : Option α :=
  match fields.filter (·.1 == name) with
  | [field] => read field.2
  | _ => none

end FileValue

end ClassExpr
