/-
YAML as a tree of nodes, read from its tokens.  A node may have a name, and a
reference stands for the node of that name, which need not be complete yet.
References are followed only when a value is read.
-/
import ClassExpr.File.Value
import ClassExpr.File.Yaml.Token

namespace ClassExpr
namespace Yaml

/-- A node.  A scalar keeps how it was written, and its tag. -/
inductive Node where
  | scalar (style : Style) (tag : Option Octets) (text : Text)
  | sequence (items : List Node)
  | mapping (members : List (Node × Node))
  /-- The node whose name has a number. -/
  | reference (number : Nat)

/-- A node that is left out. -/
def Node.blank : Node := .scalar .plain none []

/-- The nodes that were given a name.  A name gets the number of names that
were known before; names given again leave gaps, so two names can share a
number, and the node that began last has it. -/
structure Anchors where
  names : List (Text × Nat) := []
  /-- The numbers in the order in which their nodes began, last one first. -/
  numbers : List Nat := []
  /-- The complete nodes by their place in that order. -/
  nodes : List (Nat × Node) := []

namespace Anchors

/-- A node with a name begins. -/
def start (anchors : Anchors) (name : Text) : Anchors :=
  let number := anchors.names.length
  { anchors with
    names := (name, number) :: anchors.names.filter fun known => known.1 != name
    numbers := number :: anchors.numbers }

/-- The node that began at a place is complete. -/
def finish (anchors : Anchors) (place : Nat) (node : Node) : Anchors :=
  { anchors with nodes := (place, node) :: anchors.nodes }

def node? (anchors : Anchors) (number : Nat) : Option Node :=
  anchors.nodes.lookup (anchors.numbers.length - 1 - anchors.numbers.idxOf number)

end Anchors

/-- What is left after a node is read. -/
structure Parsed where
  node : Node
  anchors : Anchors
  rest : List Token

/-- The anchor and tag in front of a node. -/
structure Properties where
  anchor : Option Text := none
  tag : Option Octets := none

/-- Reads an anchor and a tag in either order. -/
def properties (tokens : List Token) : Properties × List Token :=
  match tokens with
  | .anchor anchor :: .tag tag :: rest => (⟨some anchor, some tag.suffix⟩, rest)
  | .tag tag :: .anchor anchor :: rest => (⟨some anchor, some tag.suffix⟩, rest)
  | .anchor anchor :: rest => (⟨some anchor, none⟩, rest)
  | .tag tag :: rest => (⟨none, some tag.suffix⟩, rest)
  | rest => ({}, rest)

namespace Properties

/-- The anchors when a node begins. -/
def start (properties : Properties) (anchors : Anchors) : Anchors :=
  match properties.anchor with
  | some name => anchors.start name
  | none => anchors

/-- A node that is complete, with the anchors before it began. -/
def finish (properties : Properties) (before : Anchors) (parsed : Parsed) : Parsed :=
  match properties.anchor with
  | some _ =>
    { parsed with anchors := parsed.anchors.finish before.numbers.length parsed.node }
  | none => parsed

/-- The tag of a scalar that is not left out; the mark alone is none. -/
def scalarTag (properties : Properties) : Option Octets :=
  properties.tag.filter (· != octets ['!'])

end Properties

/-- Whether the next token is one of those that leave a node out. -/
def nextIs (stops : List Token) : List Token → Bool
  | [] => true
  | token :: _ => stops.contains token

mutual

/-- Reads a node.  Block collections stand only in block nodes, and a
sequence that is not indented only as the value of a key. -/
def node? : Nat → Bool → Bool → Anchors → List Token → Option Parsed
  | 0, _, _, _, _ => none
  | _ + 1, _, _, anchors, .reference name :: rest =>
    (anchors.names.lookup name).map fun number => ⟨.reference number, anchors, rest⟩
  | fuel + 1, isBlock, isValue, before, tokens =>
    let (given, tokens) := properties tokens
    let anchors := given.start before
    let content? : Option Parsed :=
      match tokens, isBlock, isValue with
      | .blockEntry :: _, _, true => looseItems? fuel [] anchors tokens
      | .scalar style text :: rest, _, _ =>
        some ⟨.scalar style given.scalarTag text, anchors, rest⟩
      | .flowSequenceStart :: rest, _, _ => flowItems? fuel true [] anchors rest
      | .flowMappingStart :: rest, _, _ => flowMembers? fuel true [] anchors rest
      | .blockSequenceStart :: rest, true, _ => blockItems? fuel [] anchors rest
      | .blockMappingStart :: rest, true, _ => blockMembers? fuel [] anchors rest
      | rest, _, _ =>
        if given.anchor.isSome || given.tag.isSome then
          some ⟨.scalar .plain given.tag [], anchors, rest⟩
        else none
    content?.map fun parsed => given.finish before parsed

/-- Reads a node unless it is left out before one of the given tokens. -/
def optionalNode? : Nat → Bool → Bool → List Token → Anchors → List Token → Option Parsed
  | 0, _, _, _, _, _ => none
  | fuel + 1, isBlock, isValue, stops, anchors, tokens =>
    if nextIs stops tokens then some ⟨Node.blank, anchors, tokens⟩
    else node? fuel isBlock isValue anchors tokens

/-- Reads the items of a block sequence, with those read so far in
reverse. -/
def blockItems? : Nat → List Node → Anchors → List Token → Option Parsed
  | 0, _, _, _ => none
  | fuel + 1, items, anchors, tokens =>
    match tokens with
    | .blockEntry :: rest =>
      match optionalNode? fuel true false [.blockEntry, .blockEnd] anchors rest with
      | none => none
      | some parsed => blockItems? fuel (parsed.node :: items) parsed.anchors parsed.rest
    | .blockEnd :: rest => some ⟨.sequence items.reverse, anchors, rest⟩
    | _ => none

/-- Reads the items of a sequence that is not indented. -/
def looseItems? : Nat → List Node → Anchors → List Token → Option Parsed
  | 0, _, _, _ => none
  | fuel + 1, items, anchors, tokens =>
    match tokens with
    | .blockEntry :: rest =>
      match optionalNode? fuel true false [.blockEntry, .key, .value, .blockEnd] anchors rest with
      | none => none
      | some parsed => looseItems? fuel (parsed.node :: items) parsed.anchors parsed.rest
    | rest => some ⟨.sequence items.reverse, anchors, rest⟩

def blockMembers? : Nat → List (Node × Node) → Anchors → List Token → Option Parsed
  | 0, _, _, _ => none
  | fuel + 1, members, anchors, tokens =>
    match tokens with
    | .blockEnd :: rest => some ⟨.mapping members.reverse, anchors, rest⟩
    | .key :: rest =>
      match optionalNode? fuel true true [.key, .value, .blockEnd] anchors rest with
      | none => none
      | some key =>
        match key.rest with
        | .value :: rest =>
          match optionalNode? fuel true true [.key, .value, .blockEnd] key.anchors rest with
          | none => none
          | some value =>
            blockMembers? fuel ((key.node, value.node) :: members) value.anchors value.rest
        | rest => blockMembers? fuel ((key.node, Node.blank) :: members) key.anchors rest
    | _ => none

/-- Reads the items of a flow sequence.  An item may be a single member of a
mapping; if its key is left out then so is the token in its place. -/
def flowItems? : Nat → Bool → List Node → Anchors → List Token → Option Parsed
  | 0, _, _, _, _ => none
  | fuel + 1, isFirst, items, anchors, tokens =>
    let item? : List Token → Option Parsed := fun tokens =>
      match tokens with
      | .flowSequenceEnd :: rest => some ⟨.sequence items.reverse, anchors, rest⟩
      | .key :: rest =>
        let key? : Option Parsed :=
          match rest with
          | .value :: rest | .flowEntry :: rest | .flowSequenceEnd :: rest =>
            some ⟨Node.blank, anchors, rest⟩
          | rest => node? fuel false false anchors rest
        match key? with
        | none => none
        | some key =>
          let value? :=
            match key.rest with
            | .value :: rest =>
              optionalNode? fuel false false [.flowEntry, .flowSequenceEnd] key.anchors rest
            | rest => some ⟨Node.blank, key.anchors, rest⟩
          match value? with
          | none => none
          | some value =>
            flowItems? fuel false (.mapping [(key.node, value.node)] :: items) value.anchors
              value.rest
      | rest =>
        match node? fuel false false anchors rest with
        | none => none
        | some parsed => flowItems? fuel false (parsed.node :: items) parsed.anchors parsed.rest
    match tokens, isFirst with
    | .flowSequenceEnd :: _, _ => item? tokens
    | _, true => item? tokens
    | .flowEntry :: rest, false => item? rest
    | _, false => none

def flowMembers? : Nat → Bool → List (Node × Node) → Anchors → List Token → Option Parsed
  | 0, _, _, _, _ => none
  | fuel + 1, isFirst, members, anchors, tokens =>
    let member? : List Token → Option Parsed := fun tokens =>
      match tokens with
      | .flowMappingEnd :: rest => some ⟨.mapping members.reverse, anchors, rest⟩
      | .key :: rest =>
        match
          optionalNode? fuel false false [.value, .flowEntry, .flowMappingEnd] anchors rest with
        | none => none
        | some key =>
          let value? :=
            match key.rest with
            | .value :: rest =>
              optionalNode? fuel false false [.flowEntry, .flowMappingEnd] key.anchors rest
            | rest => some ⟨Node.blank, key.anchors, rest⟩
          match value? with
          | none => none
          | some value =>
            flowMembers? fuel false ((key.node, value.node) :: members) value.anchors value.rest
      | rest =>
        match node? fuel false false anchors rest with
        | none => none
        | some key =>
          flowMembers? fuel false ((key.node, Node.blank) :: members) key.anchors key.rest
    match tokens, isFirst with
    | .flowMappingEnd :: _, _ => member? tokens
    | _, true => member? tokens
    | .flowEntry :: rest, false => member? rest
    | _, false => none

end

/-- A node with the names that its references use. -/
structure Value where
  node : Node
  anchors : Anchors := {}

/-- The node of a value; a reference stands for another node. -/
def Value.target (value : Value) : Node :=
  match value.node with
  | .reference number => (value.anchors.node? number).getD Node.blank
  | node => node

/-- Whether only ends of documents are left. -/
def isOver (tokens : List Token) : Bool :=
  tokens.all (· == .documentEnd)

/-- Replaces the handles of all tags by what they stand for. -/
def resolveTags? (handles : List (Text × Octets)) (tokens : List Token) : Option (List Token) :=
  tokens.mapM fun token =>
    match token with
    | .tag tag => (tag.resolve? handles).map fun tag => .tag ⟨[], tag⟩
    | token => some token

/-- Reads the content of the only document. -/
def content? (handles : List (Text × Octets)) (tokens : List Token) : Option Value :=
  if isOver tokens then some { node := Node.blank }
  else
    match resolveTags? handles tokens with
    | none => none
    | some tokens =>
      match node? (4 * tokens.length + 8) true false {} tokens with
      | some parsed =>
        if isOver parsed.rest then some ⟨parsed.node, parsed.anchors⟩ else none
      | none => none

def isDirective : Token → Bool
  | .version | .handle _ _ => true
  | _ => false

/-- The handles that directives define.  There is at most one version, and a
handle is defined once. -/
def handles? (directives : List Token) : Option (List (Text × Octets)) :=
  let handles := directives.filterMap fun token =>
    match token with
    | .handle name start => some (name, start)
    | _ => none
  let names := handles.map Prod.fst
  if 1 < directives.count .version || names.any fun name => 1 < names.count name then none
  else some handles

/-- Reads a text that holds at most one document.  Without content it is a
blank node. -/
def parse? (text : Text) : Option Value :=
  match tokens? text with
  | none => none
  | some [] => some { node := Node.blank }
  | some tokens =>
    let directives := tokens.takeWhile isDirective
    match handles? directives, tokens.drop directives.length with
    | none, _ => none
    | some handles, .documentStart :: rest => content? handles rest
    | some _, rest =>
      if !directives.isEmpty || rest.head? == some .documentEnd then none
      else content? [] rest

/-- A number in one of the notations for natural numbers. -/
def natural? (text : Text) : Option Nat :=
  let unsigned :=
    match text with
    | '+' :: rest => rest
    | other => other
  let radix? : Nat → Text → Option Nat := fun radix digits =>
    if digits.isEmpty then none
    else
      digits.foldl (fun value? c =>
        match value?, Json.hexDigit? c with
        | some value, some digit => if digit < radix then some (radix * value + digit) else none
        | _, _ => none) (some 0)
  let value? :=
    match unsigned with
    | '0' :: 'x' :: digits => radix? 16 digits
    | '0' :: 'o' :: digits => radix? 8 digits
    | '0' :: 'b' :: digits => radix? 2 digits
    | ['0'] => some 0
    | '0' :: _ => none
    | digits => Text.decimal? digits
  value?.filter (· ≤ Text.max64)

/-- A truth value in one of its three spellings. -/
def flag? (text : Text) : Option Bool :=
  if ["true".toList, "True".toList, "TRUE".toList].contains text then some true
  else if ["false".toList, "False".toList, "FALSE".toList].contains text then some false
  else none

/-- Whether a plain scalar stands for no value. -/
def isNull (text : Text) : Bool :=
  ["".toList, "~".toList, "null".toList, "Null".toList, "NULL".toList].contains text

/-- Whether a scalar can be a value of the type with a standard tag: plain
scalars can, and literal ones with this tag. -/
def isTyped (style : Style) (tag : Option Octets) (name : Text) : Bool :=
  match style with
  | .plain => true
  | .literal => tag == some (octets ("tag:yaml.org,2002:".toList ++ name))
  | .other => false

def localName? (tag : Option Octets) : Option Text :=
  match tag.bind textOf? with
  | some ('!' :: name) => some name
  | _ => none

namespace Value

def text? (value : Value) : Option Text :=
  match value.target with
  | .scalar _ _ text => some text
  | _ => none

/-- The members of a mapping whose keys are texts; a blank has none. -/
def members? (value : Value) : Option (List (Text × Value)) :=
  match value.target with
  | .mapping members =>
    members.mapM fun member =>
      (text? ⟨member.1, value.anchors⟩).map fun key => (key, ⟨member.2, value.anchors⟩)
  | .scalar .plain _ [] => some []
  | _ => none

/-- The items of a sequence; a blank has none. -/
def items? (value : Value) : Option (List Value) :=
  match value.target with
  | .sequence items => some (items.map fun item => ⟨item, value.anchors⟩)
  | .scalar .plain _ [] => some []
  | _ => none

def natural? (value : Value) : Option Nat :=
  match value.target with
  | .scalar style tag text =>
    if isTyped style tag "int".toList then Yaml.natural? text else none
  | _ => none

def flag? (value : Value) : Option Bool :=
  match value.target with
  | .scalar style tag text => if isTyped style tag "bool".toList then Yaml.flag? text else none
  | _ => none

/-- The choice that a scalar names, by its local tag if it has one. -/
def choice? (value : Value) : Option Text :=
  match value.target with
  | .scalar style tag text =>
    match localName? tag with
    | some name => if style = .plain && isNull text then some name else none
    | none => some text
  | _ => none

end Value

instance : FileValue Value where
  fields? _ := Value.members?
  items? := Value.items?
  natural? := Value.natural?
  flag? := Value.flag?
  text? := Value.text?
  choice? := Value.choice?

end Yaml
end ClassExpr
