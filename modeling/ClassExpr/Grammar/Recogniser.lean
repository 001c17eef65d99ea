/-
A recogniser of class expressions that reads one token after another.  Its
state says what has to come next and how many groups are open.  A token that
cannot come next is refused together with everything that could have stood
in its place.

    expression  := conjunction ("or" conjunction)*
    conjunction := primary ("and" primary)*
    primary     := "not" primary
                 | "(" expression ")"
                 | "{" individual ("," individual)* "}"
                 | object-property object-restriction
                 | data-property data-restriction
                 | class
    object-restriction := ("some" | "only") primary
                        | "value" individual
                        | ("min" | "max" | "exactly") cardinality primary?
    data-restriction   := ("some" | "only") datatype
                        | "value" literal
                        | ("min" | "max" | "exactly") cardinality datatype?
-/
import ClassExpr.Grammar.Expectations
import ClassExpr.Grammar.Keyword
import ClassExpr.Grammar.Names
import ClassExpr.Text.Numeral

namespace ClassExpr

namespace Token

/-- A quoted token that is closed, a real number or a truth value. -/
def isLiteral (token : Token) : Bool :=
  (2 ≤ token.length && token.head? == some '"' && token.getLast? == some '"') ||
    Text.isReal token || token == Keyword.true.word || token == Keyword.false.word

/-- The tokens that can only follow a complete operand. -/
def endsOperand (token : Token) : Bool :=
  token == Keyword.and.word || token == Keyword.or.word || token == closeGroup

end Token

/-- What has to come next in a class expression. -/
inductive Phase where
  /-- An operand has to begin. -/
  | operand
  /-- An operand is complete. -/
  | complete
  /-- An object property waits for its restriction. -/
  | objectRestriction
  /-- A data property waits for its restriction. -/
  | dataRestriction
  /-- The cardinality of an object restriction. -/
  | objectCount
  /-- The cardinality of a data restriction. -/
  | dataCount
  /-- The optional operand after a cardinality. -/
  | objectFiller
  /-- The optional datatype after a cardinality. -/
  | dataFiller
  /-- The individual of a value restriction. -/
  | individual
  /-- The datatype of a data restriction. -/
  | datatype
  /-- The literal of a value restriction. -/
  | literal
  /-- An individual of an enumeration. -/
  | member
  /-- An individual of an enumeration is complete. -/
  | memberEnd
  deriving DecidableEq, Repr

def Phase.expectations : Phase → Expectations
  | .operand | .objectFiller =>
    { kinds := { classes := true, objectProperties := true, dataProperties := true }
      keywords := [Keyword.not.word] }
  | .complete | .memberEnd => { keywords := [Keyword.and.word, Keyword.or.word] }
  | .objectRestriction | .dataRestriction =>
    { keywords :=
        [Keyword.some.word, Keyword.only.word, Keyword.value.word, Keyword.min.word,
         Keyword.max.word, Keyword.exactly.word] }
  | .objectCount | .dataCount => {}
  | .dataFiller | .datatype => { kinds := { datatypes := true } }
  | .individual | .member => { kinds := { individuals := true } }
  | .literal => { keywords := [Keyword.true.word, Keyword.false.word] }

/-- A phase together with the number of groups that are still open. -/
structure ParseState where
  phase : Phase
  depth : Nat
  deriving DecidableEq, Repr

namespace ParseState

def start : ParseState := ⟨.operand, 0⟩

def beginOperand (names : NameTable) (depth : Nat) (token : Token) :
    Except Expectations ParseState :=
  if token = Keyword.not.word then .ok ⟨.operand, depth⟩
  else if token = Token.openGroup then .ok ⟨.operand, depth + 1⟩
  else if token = Token.openSet then .ok ⟨.member, depth⟩
  else
    match names.kind? token with
    | some .cls => .ok ⟨.complete, depth⟩
    | some .objectProperty => .ok ⟨.objectRestriction, depth⟩
    | some .dataProperty => .ok ⟨.dataRestriction, depth⟩
    | _ => .error Phase.operand.expectations

def afterOperand (depth : Nat) (token : Token) : Except Expectations ParseState :=
  if token = Keyword.and.word ∨ token = Keyword.or.word then .ok ⟨.operand, depth⟩
  else if token = Token.closeGroup then
    match depth with
    | 0 => .error Phase.complete.expectations
    | outer + 1 => .ok ⟨.complete, outer⟩
  else .error Phase.complete.expectations

/-- The keyword of a restriction, which leads on to a filler, a value or a
cardinality. -/
def restriction (phase filler value count : Phase) (depth : Nat) (token : Token) :
    Except Expectations ParseState :=
  if token = Keyword.some.word ∨ token = Keyword.only.word then .ok ⟨filler, depth⟩
  else if token = Keyword.value.word then .ok ⟨value, depth⟩
  else if token = Keyword.min.word ∨ token = Keyword.max.word ∨ token = Keyword.exactly.word then
    .ok ⟨count, depth⟩
  else .error phase.expectations

def count (phase filler : Phase) (depth : Nat) (token : Token) :
    Except Expectations ParseState :=
  if (Text.cardinality? token).isSome then .ok ⟨filler, depth⟩ else .error phase.expectations

def name (names : NameTable) (kind : EntityKind) (phase next : Phase) (depth : Nat)
    (token : Token) : Except Expectations ParseState :=
  if names.kind? token = some kind then .ok ⟨next, depth⟩ else .error phase.expectations

/-- One token leads to the next state or is refused. -/
def step (names : NameTable) (state : ParseState) (token : Token) :
    Except Expectations ParseState :=
  match state.phase with
  | .operand => beginOperand names state.depth token
  | .complete => afterOperand state.depth token
  | .objectRestriction =>
    restriction .objectRestriction .operand .individual .objectCount state.depth token
  | .dataRestriction =>
    restriction .dataRestriction .datatype .literal .dataCount state.depth token
  | .objectCount => count .objectCount .objectFiller state.depth token
  | .dataCount => count .dataCount .dataFiller state.depth token
  | .objectFiller =>
    if token.endsOperand then afterOperand state.depth token
    else beginOperand names state.depth token
  | .dataFiller =>
    if token.endsOperand then afterOperand state.depth token
    else name names .datatype .dataFiller .complete state.depth token
  | .individual => name names .individual .individual .complete state.depth token
  | .datatype => name names .datatype .datatype .complete state.depth token
  | .literal =>
    if token.isLiteral then .ok ⟨.complete, state.depth⟩ else .error Phase.literal.expectations
  | .member => name names .individual .member .memberEnd state.depth token
  | .memberEnd =>
    if token = Token.comma then .ok ⟨.member, state.depth⟩
    else if token = Token.closeSet then .ok ⟨.complete, state.depth⟩
    else .error Phase.memberEnd.expectations

/-- The end of the text is right after a complete operand outside all
groups. -/
def finish (state : ParseState) : Except Expectations Unit :=
  match state.phase with
  | .complete | .objectFiller | .dataFiller =>
    if state.depth = 0 then .ok () else .error Phase.complete.expectations
  | phase => .error phase.expectations

def run (names : NameTable) : ParseState → List Token → Except Expectations Unit
  | state, [] => state.finish
  | state, token :: rest =>
    match state.step names token with
    | .error expectations => .error expectations
    | .ok next => run names next rest

end ParseState

/-- Whether tokens form a class expression, or what was expected at the first
token that does not fit. -/
def recognise (names : NameTable) (tokens : List Token) : Except Expectations Unit :=
  ParseState.start.run names tokens

/-- The checker of class expressions over a table of names. -/
def NameTable.check (names : NameTable) : Checker := fun text =>
  match recognise names (Token.ofText text) with
  | .ok _ => .accepted
  | .error expectations => .expected expectations

end ClassExpr
