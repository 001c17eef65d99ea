/-
Settings and vocabularies read from files.  The format of a settings file
follows from the extension of its name.
-/
import ClassExpr.Completion.Settings
import ClassExpr.Entity.Basic
import ClassExpr.File.Json
import ClassExpr.File.Yaml.Node

namespace ClassExpr

inductive FileFormat where
  | yaml
  | json
  deriving DecidableEq, Repr

inductive LoadError where
  /-- There is no such file. -/
  | missing
  /-- The file does not hold text. -/
  | notText
  /-- The text does not fit the format, or its values do not fit the record. -/
  | malformed (format : FileFormat)
  /-- The values were read and refused. -/
  | refused (fault : Fault)
  deriving DecidableEq, Repr

/-- The bytes of a file, if it exists. -/
abbrev FileContents := Option ByteArray

namespace EntityKind

def fileName : EntityKind → Text
  | .cls => "class".toList
  | .objectProperty => "object_property".toList
  | .dataProperty => "data_property".toList
  | .individual => "individual".toList
  | .datatype => "datatype".toList

def ofFileName? (name : Text) : Option EntityKind :=
  all.find? fun kind => kind.fileName == name

end EntityKind

section Decoding

variable {ν : Type} [FileValue ν]

/-- A natural number of at most 32 bits. -/
def decodeSize? (value : ν) : Option Nat :=
  (FileValue.natural? value).filter (· ≤ Text.max32)

/-- A text of exactly one character. -/
def decodeChar? (value : ν) : Option Char :=
  match FileValue.text? value with
  | some [c] => some c
  | _ => none

/-- A sequence whose items are all of one sort. -/
def decodeList? {α : Type} (item? : ν → Option α) (value : ν) : Option (List α) :=
  match FileValue.items? value with
  | some items => items.mapM item?
  | none => none

def settingsFields : List Text :=
  ["max_entries".toList, "popup_width".toList, "popup_height".toList, "sentinel".toList,
   "extra_delimiters".toList, "dismiss_on_empty_refresh".toList]

/-- Settings; fields that are missing have their default value. -/
def decodeSettings? (value : ν) : Option Settings := do
  let fields ← FileValue.fields? settingsFields value
  let standard : Settings := {}
  let maxEntries ← FileValue.optional? fields "max_entries".toList standard.maxEntries
    FileValue.natural?
  let popupWidth ← FileValue.optional? fields "popup_width".toList standard.popupWidth decodeSize?
  let popupHeight ← FileValue.optional? fields "popup_height".toList standard.popupHeight
    decodeSize?
  let sentinel ← FileValue.optional? fields "sentinel".toList standard.sentinel FileValue.text?
  let extraDelimiters ← FileValue.optional? fields "extra_delimiters".toList
    standard.extraDelimiters (decodeList? decodeChar?)
  let dismissWhenEmpty ← FileValue.optional? fields "dismiss_on_empty_refresh".toList
    standard.dismissWhenEmpty FileValue.flag?
  return { maxEntries, popupWidth, popupHeight, sentinel, extraDelimiters, dismissWhenEmpty }

def decodeKind? (value : ν) : Option EntityKind :=
  (FileValue.choice? value).bind EntityKind.ofFileName?

/-- An entity; both of its fields are needed. -/
def decodeEntity? (value : ν) : Option Entity := do
  let fields ← FileValue.fields? ["kind".toList, "iri".toList] value
  let kind ← FileValue.required? fields "kind".toList decodeKind?
  let iri ← FileValue.required? fields "iri".toList FileValue.text?
  return ⟨kind, iri⟩

/-- A vocabulary; without its field it is empty. -/
def decodeVocabulary? (value : ν) : Option Vocabulary := do
  let fields ← FileValue.fields? ["entities".toList] value
  FileValue.optional? fields "entities".toList [] (decodeList? decodeEntity?)

end Decoding

def decodeText {α : Type} (format : FileFormat) (json? : Json → Option α)
    (yaml? : Yaml.Value → Option α) (text : Text) : Except LoadError α :=
  let value? :=
    match format with
    | .json => (Json.parse? text).bind json?
    | .yaml => (Yaml.parse? text).bind yaml?
  match value? with
  | some value => .ok value
  | none => .error (.malformed format)

def readText : FileContents → Except LoadError Text
  | none => .error .missing
  | some bytes =>
    match String.fromUTF8? bytes with
    | some text => .ok text.toList
    | none => .error .notText

/-- Reads settings from a text and validates them. -/
def Settings.ofText (format : FileFormat) (text : Text) : Except LoadError Settings :=
  match decodeText format decodeSettings? decodeSettings? text with
  | .error error => .error error
  | .ok settings =>
    match settings.validate with
    | .ok settings => .ok settings
    | .error fault => .error (.refused fault)

/-- The last component of a path.  Components that stay in place do not
count. -/
def lastComponent (path : Text) : Text :=
  let components := path.splitOnP (· == '/')
  (components.filter fun name => name != [] && name != ['.']).getLast?.getD []

/-- The part of a file name after its last dot.  A dot in front does not
count. -/
def extension? (path : Text) : Option Text :=
  let name := lastComponent path
  let after := (name.reverse.takeWhile (· != '.')).reverse
  let before := name.take (name.length - after.length - 1)
  if name == ['.', '.'] || !name.contains '.' || before.isEmpty then none else some after

/-- The format of settings that a file name asks for. -/
def FileFormat.ofPath? (path : Text) : Option FileFormat :=
  match extension? path with
  | none => none
  | some extension =>
    if extension == "yaml".toList || extension == "yml".toList then some .yaml
    else if extension == "json".toList then some .json
    else none

/-- Loads settings from a file.  A name without a known extension is refused
before the file is read. -/
def Settings.load (path : Text) (contents : FileContents) : Except LoadError Settings :=
  match FileFormat.ofPath? path with
  | none =>
    .error (.refused (.badSettings ("Unsupported configuration file: ".toList ++ path)))
  | some format =>
    match readText contents with
    | .ok text => Settings.ofText format text
    | .error error => .error error

def Vocabulary.load (format : FileFormat) (contents : FileContents) :
    Except LoadError Vocabulary :=
  match readText contents with
  | .ok text => decodeText format decodeVocabulary? decodeVocabulary? text
  | .error error => .error error

end ClassExpr
