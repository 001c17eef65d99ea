/-
Grapheme clusters: the pieces of a text that a reader sees as one character,
such as a letter with its accents.
-/
import ClassExpr.Text.ClusterTable
import ClassExpr.Text.Width

namespace ClassExpr
namespace Text

def isFormat (c : Char) : Bool :=
  inRanges formatRanges c.toNat

def isExtender (c : Char) : Bool :=
  inRanges extenderRanges c.toNat

def isSpacingMark (c : Char) : Bool :=
  inRanges spacingMarkRanges c.toNat

def isLeading (c : Char) : Bool :=
  inRanges leadingRanges c.toNat

def isLinker (c : Char) : Bool :=
  inRanges linkerRanges c.toNat

def isConsonant (c : Char) : Bool :=
  inRanges consonantRanges c.toNat

def isPictograph (c : Char) : Bool :=
  inRanges pictographRanges c.toNat

/-- The parts of a Hangul syllable. -/
inductive Jamo where
  | lead
  | vowel
  | tail
  | leadVowel
  | leadVowelTail
  deriving DecidableEq

/-- The part of a Hangul syllable that a character writes. -/
def jamo? (c : Char) : Option Jamo :=
  let code := c.toNat
  if (0x1100 ≤ code && code ≤ 0x115F) || (0xA960 ≤ code && code ≤ 0xA97C) then some .lead
  else if (0x1160 ≤ code && code ≤ 0x11A7) || (0xD7B0 ≤ code && code ≤ 0xD7C6) then some .vowel
  else if (0x11A8 ≤ code && code ≤ 0x11FF) || (0xD7CB ≤ code && code ≤ 0xD7FB) then some .tail
  else if 0xAC00 ≤ code && code ≤ 0xD7A3 then
    if (code - 0xAC00) % 28 == 0 then some .leadVowel else some .leadVowelTail
  else none

def Jamo.joins : Jamo → Jamo → Bool
  | .lead, .tail => false
  | .lead, _ => true
  | .vowel, .vowel | .vowel, .tail => true
  | .leadVowel, .vowel | .leadVowel, .tail => true
  | .tail, .tail | .leadVowelTail, .tail => true
  | _, _ => false

/-- Whether a cluster, given in reverse, ends in a pictograph and a joiner. -/
def endsJoined (cluster : Text) : Bool :=
  match cluster with
  | [] => false
  | last :: earlier =>
    last == joiner && ((earlier.dropWhile isExtender).head?.map isPictograph).getD false

/-- The marks that may stand between linked consonants. -/
def isLinkMark (c : Char) : Bool :=
  c == joiner || (isExtender c && c.toNat != 0x200C)

/-- Whether a cluster, given in reverse, ends in a consonant and marks of
which one is a linker. -/
def endsLinked (cluster : Text) : Bool :=
  (cluster.takeWhile isLinkMark).any isLinker &&
    ((cluster.dropWhile isLinkMark).head?.map isConsonant).getD false

/-- Whether a character continues a cluster, given in reverse. -/
def continues (cluster : Text) (c : Char) : Bool :=
  match cluster with
  | [] => false
  | last :: _ =>
    if last = '\r' && c = '\n' then true
    else if isFormat last || isFormat c then false
    else if isExtender c || c = joiner || isSpacingMark c || isLeading last then true
    else if isConsonant c && endsLinked cluster then true
    else if isPictograph c && endsJoined cluster then true
    else if isFlagLetter c then (cluster.takeWhile isFlagLetter).length % 2 == 1
    else
      match jamo? last, jamo? c with
      | some left, some right => left.joins right
      | _, _ => false

/-- Clusters of the text read so far, last one first and each in reverse. -/
def addToClusters (clusters : List Text) (c : Char) : List Text :=
  match clusters with
  | [] => [[c]]
  | cluster :: rest =>
    if continues cluster c then (c :: cluster) :: rest else [c] :: cluster :: rest

def clusters (text : Text) : List Text :=
  ((text.foldl addToClusters []).map List.reverse).reverse

end Text
end ClassExpr
