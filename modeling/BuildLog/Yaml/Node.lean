import BuildLog.Yaml.Token

/-!
# Nodes — the tree that a YAML text stands for

A document is a tree of scalars, sequences and mappings, each with a tag if one is written.  A
mapping keeps its pairs in order, and a key may occur twice.  An alias keeps the number of the
anchor that it names; a document knows which node has a number, for an alias may lie within the
node that it stands for.
-/

namespace BuildLog.Yaml

/-- What a tag says of its node. -/
inductive Tag
  | null
  | boolean
  | integer
  | float
  /-- A tag of the document's own; the sign alone is its own name. -/
  | own (name : String)
  /-- A tag of the document's own whose bytes are no text. -/
  | illegible
  | other
deriving Repr, DecidableEq

inductive Node
  | scalar (text : String) (style : Style) (tag : Option Tag)
  | sequence (items : List Node) (tag : Option Tag)
  | mapping (pairs : List (Node × Node)) (tag : Option Tag)
  | alias (anchor : Nat)
  /-- What a text without any node stands for. -/
  | nothing
deriving Repr, Inhabited

def Tag.ofName (name : String) : Tag :=
  match name with
  | "tag:yaml.org,2002:null" => .null
  | "tag:yaml.org,2002:bool" => .boolean
  | "tag:yaml.org,2002:int" => .integer
  | "tag:yaml.org,2002:float" => .float
  | _ =>
    match name.toList with
    | ['!'] => .own "!"
    | '!' :: rest => .own (String.ofList rest)
    | _ => .other

def Tag.ofBytes (bytes : List UInt8) : Tag :=
  match String.fromUTF8? ⟨bytes.toArray⟩ with
  | some name => ofName name
  | none => if Token.signAlone.isPrefixOf bytes then .illegible else .other

namespace Node

/-- The node that is meant where none is written. -/
def blank : Node := .scalar "" .plain none

/-! ## 1. Size -/

mutual

/-- The number of marks that a node is told by: one for a scalar or an alias, and one at each end
of a sequence or a mapping. -/
def marks : Node → Nat
  | .scalar .. | .alias _ | .nothing => 1
  | .sequence items _ => itemMarks items + 2
  | .mapping pairs _ => pairMarks pairs + 2

def itemMarks : List Node → Nat
  | [] => 0
  | n :: ns => n.marks + itemMarks ns

def pairMarks : List (Node × Node) → Nat
  | [] => 0
  | (k, v) :: ps => k.marks + v.marks + pairMarks ps

end

/-! ## 2. Reading tokens -/

/-- The tokens to come, and what is known from those before. -/
structure Source where
  rest : List Token
  /-- What the handles of tags stand for. -/
  handles : List (String × List UInt8) :=
    [("!", Token.signAlone), ("!!", "tag:yaml.org,2002:".toUTF8.toList)]
  /-- The names of anchors, each once, with the number of the one that was last. -/
  names : List (String × Nat) := []
  /-- The nodes with anchors, in the order of their beginnings, each with its number. -/
  anchored : Array (Nat × Node) := #[]

abbrev Builder := StateT Source (Except Fault)

def peek : Builder (Option Token) := do return (← get).rest.head?

def advance : Builder Unit := modify fun s => { s with rest := s.rest.drop 1 }

/-- Takes a token if it comes next. -/
def take? (t : Token) : Builder Bool := do
  if (← peek) = some t then
    advance
    return true
  return false

/-- Takes a token that must come next. -/
def expect (t : Token) : Builder Unit := do
  if !(← take? t) then throw .unexpectedToken

/-- Whether one of the tokens comes next, or none at all. -/
def nextIn (ts : List Token) : Builder Bool := do
  match ← peek with
  | none => return true
  | some t => return ts.contains t

/-- The bytes of a tag's full name; its handle must be known. -/
def tagBytes (handle : String) (rest : List UInt8) : Builder (List UInt8) := do
  if handle = "" then return rest
  match (← get).handles.lookup handle with
  | some meaning => return meaning ++ rest
  | none => throw .badName

/-- The anchor of a node and its tag, in either order. -/
def readProperties : (fuel : Nat) → (anchor : Option String) → (tag : Option Tag) →
    Builder (Option String × Option Tag)
  | 0, anchor, tag => return (anchor, tag)
  | fuel + 1, anchor, tag => do
    match ← peek with
    | some (.anchor name) =>
      if anchor.isSome then return (anchor, tag)
      advance
      readProperties fuel (some name) tag
    | some (.tag handle rest) =>
      if tag.isSome then return (anchor, tag)
      advance
      readProperties fuel anchor (some (Tag.ofBytes (← tagBytes handle rest)))
    | _ => return (anchor, tag)

/-- Numbers an anchor where its node begins, and answers the place of the node.  The number is that
of the names known before, so a name that is used again takes the number of the next new name. -/
def openAnchor (name : String) : Builder Nat := do
  let s ← get
  let number := s.names.length
  set { s with
    names := (name, number) :: s.names.filter (·.1 ≠ name)
    anchored := s.anchored.push (number, blank) }
  return s.anchored.size

/-- Notes the node with the anchor in a place. -/
def closeAnchor (place : Nat) (n : Node) : Builder Unit :=
  modify fun s => { s with anchored := s.anchored.modify place fun a => (a.1, n) }

/-! ## 3. Building -/

mutual

/-- A node.  `block` says whether it may be a block, and `entries` whether it may be a sequence
whose signs stand in the column of its key. -/
def build (block entries : Bool) : (fuel : Nat) → Builder Node
  | 0 => throw .unexpectedToken
  | fuel + 1 => do
    match ← peek with
    | some (.alias name) =>
      advance
      match (← get).names.lookup name with
      | some number => return .alias number
      | none => throw .unknownAnchor
    | _ =>
      let (anchor, tag) ← readProperties 2 none none
      match anchor with
      | none => buildContent block entries tag.isSome tag fuel
      | some name =>
        let place ← openAnchor name
        let n ← buildContent block entries true tag fuel
        closeAnchor place n
        return n

/-- A node after its anchor and tag.  After either of them the content may be missing. -/
def buildContent (block entries optional : Bool) (tag : Option Tag) : (fuel : Nat) → Builder Node
  | 0 => throw .unexpectedToken
  | fuel + 1 => do
    match ← peek, entries, block with
    | some (.scalar text style), _, _ =>
      advance
      return .scalar text style tag
    | some .openBracket, _, _ =>
      advance
      return .sequence (← buildFlowItems true fuel) tag
    | some .openBrace, _, _ =>
      advance
      return .mapping (← buildFlowPairs true fuel) tag
    | some .entry, true, _ => return .sequence (← buildEntries fuel) tag
    | some .blockSequence, _, true =>
      advance
      return .sequence (← buildItems fuel) tag
    | some .blockMapping, _, true =>
      advance
      return .mapping (← buildPairs fuel) tag
    | _, _, _ => if optional then return .scalar "" .plain tag else throw .unexpectedToken

/-- The items of a block sequence, and its end. -/
def buildItems : (fuel : Nat) → Builder (List Node)
  | 0 => throw .unexpectedToken
  | fuel + 1 => do
    if ← take? .blockEnd then return []
    expect .entry
    let n ← if ← nextIn [.entry, .blockEnd] then pure blank else build true false fuel
    return n :: (← buildItems fuel)

/-- The items of a sequence in the column of its key, which ends with the last sign. -/
def buildEntries : (fuel : Nat) → Builder (List Node)
  | 0 => throw .unexpectedToken
  | fuel + 1 => do
    if !(← take? .entry) then return []
    let n ← if ← nextIn [.entry, .key, .value, .blockEnd] then pure blank else build true false fuel
    return n :: (← buildEntries fuel)

/-- The pairs of a block mapping, and its end. -/
def buildPairs : (fuel : Nat) → Builder (List (Node × Node))
  | 0 => throw .unexpectedToken
  | fuel + 1 => do
    if ← take? .blockEnd then return []
    expect .key
    let k ← if ← nextIn [.key, .value, .blockEnd] then pure blank else build true true fuel
    let v ←
      if ← take? .value then
        if ← nextIn [.key, .value, .blockEnd] then pure blank else build true true fuel
      else pure blank
    return (k, v) :: (← buildPairs fuel)

/-- The items of a sequence in brackets, and its end.  Where a sign for a key has no key, the token
after it counts for nothing. -/
def buildFlowItems (first : Bool) : (fuel : Nat) → Builder (List Node)
  | 0 => throw .unexpectedToken
  | fuel + 1 => do
    if ← take? .closeBracket then return []
    if !first then expect .comma
    if ← take? .closeBracket then return []
    let n ←
      if ← take? .key then
        let k ←
          if ← nextIn [.value, .comma, .closeBracket] then do
            advance
            pure blank
          else build false false fuel
        let v ← buildFlowValue [.comma, .closeBracket] fuel
        pure (.mapping [(k, v)] none)
      else build false false fuel
    return n :: (← buildFlowItems false fuel)

/-- The pairs of a mapping in braces, and its end. -/
def buildFlowPairs (first : Bool) : (fuel : Nat) → Builder (List (Node × Node))
  | 0 => throw .unexpectedToken
  | fuel + 1 => do
    if ← take? .closeBrace then return []
    if !first then expect .comma
    if ← take? .closeBrace then return []
    let pair ←
      if ← take? .key then
        let k ←
          if ← nextIn [.value, .comma, .closeBrace] then pure blank else build false false fuel
        let v ← buildFlowValue [.comma, .closeBrace] fuel
        pure (k, v)
      else
        let k ← build false false fuel
        pure (k, blank)
    return pair :: (← buildFlowPairs false fuel)

/-- The value after a key in brackets or braces, if there is one before the given ends. -/
def buildFlowValue (ends : List Token) : (fuel : Nat) → Builder Node
  | 0 => throw .unexpectedToken
  | fuel + 1 => do
    if ← take? .value then
      if ← nextIn ends then pure blank else build false false fuel
    else pure blank

end

/-! ## 4. Documents -/

/-- The node of a document, after the mark that starts it if there is one. -/
def buildDocument (marked : Bool) (fuel : Nat) : Builder Node := do
  match ← peek with
  | none => if marked then return blank else return .nothing
  | some .documentEnd | some .documentStart | some .version | some (.handle ..) =>
    if marked then return blank else throw .unexpectedToken
  | some _ => build true false fuel

def skipEnds : (fuel : Nat) → Builder Unit
  | 0 => return ()
  | fuel + 1 => do
    if ← take? .documentEnd then skipEnds fuel

/-- Takes the directives, and notes what they say of handles; answers whether there were any.  No
directive may occur twice. -/
def readDirectives (version : Bool) (names : List String) : (fuel : Nat) → Builder Bool
  | 0 => return version || !names.isEmpty
  | fuel + 1 => do
    match ← peek with
    | some .version =>
      if version then throw .badDirective
      advance
      readDirectives true names fuel
    | some (.handle name meaning) =>
      if names.contains name then throw .badDirective
      advance
      modify fun s => { s with handles := (name, meaning) :: s.handles }
      readDirectives version (name :: names) fuel
    | _ => return version || !names.isEmpty

/-- The only document of the tokens. -/
def buildOnly (fuel : Nat) : Builder Node := do
  let directives ← readDirectives false [] fuel
  let marked ← take? .documentStart
  if directives && !marked then throw .unexpectedToken
  let n ← buildDocument marked fuel
  skipEnds fuel
  if (← peek).isSome then throw .severalDocuments
  return n

end Node

/-- A tree, and the nodes that its aliases stand for. -/
structure Document where
  root : Node
  /-- The nodes with anchors and their numbers, the one that begins last first. -/
  anchored : List (Nat × Node)

namespace Document

/-- The node that an alias with a number stands for: the last one that has it. -/
def node? (d : Document) (number : Nat) : Option Node := d.anchored.lookup number

/-- The only document of a text. -/
def ofText (text : String) : Except Fault Document :=
  match tokens text.toList with
  | .error e => .error e
  | .ok ts =>
    match (Node.buildOnly (4 * ts.length + 8)).run { rest := ts } with
    | .error e => .error e
    | .ok (n, s) => .ok ⟨n, s.anchored.toList.reverse⟩

end Document

end BuildLog.Yaml
