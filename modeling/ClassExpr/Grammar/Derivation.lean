/-
The grammar of class expressions as rules that build lists of tokens.  It says
what a class expression is without saying how one is recognised.
-/
import ClassExpr.Grammar.Recogniser

namespace ClassExpr

namespace Token

/-- The keywords that quantify over the values of a property. -/
def isQuantifier (token : Token) : Bool :=
  token == Keyword.some.word || token == Keyword.only.word

/-- The keywords that bound the number of values of a property. -/
def isBound (token : Token) : Bool :=
  token == Keyword.min.word || token == Keyword.max.word || token == Keyword.exactly.word

/-- Whether a token writes a cardinality. -/
def isCardinality (token : Token) : Bool :=
  (Text.cardinality? token).isSome

end Token

/-- The kinds of phrases in a class expression. -/
inductive Phrase where
  | expression
  | conjunction
  | primary
  | objectRestriction
  | dataRestriction
  /-- Individuals between commas. -/
  | individuals
  deriving DecidableEq, Repr

/-- The tokens of a phrase, over a table of names. -/
inductive Derives (names : NameTable) : Phrase → List Token → Prop where
  | ofConjunction {tokens : List Token} :
      Derives names .conjunction tokens → Derives names .expression tokens
  | or {left right : List Token} :
      Derives names .expression left → Derives names .conjunction right →
        Derives names .expression (left ++ Keyword.or.word :: right)
  | ofPrimary {tokens : List Token} :
      Derives names .primary tokens → Derives names .conjunction tokens
  | and {left right : List Token} :
      Derives names .conjunction left → Derives names .primary right →
        Derives names .conjunction (left ++ Keyword.and.word :: right)
  | not {tokens : List Token} :
      Derives names .primary tokens → Derives names .primary (Keyword.not.word :: tokens)
  | group {tokens : List Token} :
      Derives names .expression tokens →
        Derives names .primary (Token.openGroup :: (tokens ++ [Token.closeGroup]))
  | enumeration {tokens : List Token} :
      Derives names .individuals tokens →
        Derives names .primary (Token.openSet :: (tokens ++ [Token.closeSet]))
  | cls {name : Token} :
      names.kind? name = some .cls → Derives names .primary [name]
  | objectProperty {name : Token} {tokens : List Token} :
      names.kind? name = some .objectProperty → Derives names .objectRestriction tokens →
        Derives names .primary (name :: tokens)
  | dataProperty {name : Token} {tokens : List Token} :
      names.kind? name = some .dataProperty → Derives names .dataRestriction tokens →
        Derives names .primary (name :: tokens)
  | individual {name : Token} :
      names.kind? name = some .individual → Derives names .individuals [name]
  | comma {tokens : List Token} {name : Token} :
      Derives names .individuals tokens → names.kind? name = some .individual →
        Derives names .individuals (tokens ++ [Token.comma, name])
  | objectQuantifier {quantifier : Token} {tokens : List Token} :
      quantifier.isQuantifier = true → Derives names .primary tokens →
        Derives names .objectRestriction (quantifier :: tokens)
  | objectValue {name : Token} :
      names.kind? name = some .individual →
        Derives names .objectRestriction [Keyword.value.word, name]
  | objectBound {bound cardinality : Token} :
      bound.isBound = true → cardinality.isCardinality = true →
        Derives names .objectRestriction [bound, cardinality]
  | objectBoundFiller {bound cardinality : Token} {tokens : List Token} :
      bound.isBound = true → cardinality.isCardinality = true → Derives names .primary tokens →
        Derives names .objectRestriction (bound :: cardinality :: tokens)
  | dataQuantifier {quantifier name : Token} :
      quantifier.isQuantifier = true → names.kind? name = some .datatype →
        Derives names .dataRestriction [quantifier, name]
  | dataValue {literal : Token} :
      literal.isLiteral = true → Derives names .dataRestriction [Keyword.value.word, literal]
  | dataBound {bound cardinality : Token} :
      bound.isBound = true → cardinality.isCardinality = true →
        Derives names .dataRestriction [bound, cardinality]
  | dataBoundFiller {bound cardinality name : Token} :
      bound.isBound = true → cardinality.isCardinality = true →
        names.kind? name = some .datatype →
          Derives names .dataRestriction [bound, cardinality, name]

end ClassExpr
