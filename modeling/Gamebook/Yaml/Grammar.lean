/-
# The grammar of documents

`Graph.ofTokens?` builds the nodes of a document from its tokens.  A missing content counts as an
empty scalar; an entry of a list between brackets that has a key is a mapping of its own.
-/
import Gamebook.Yaml.Assembly

namespace Gamebook.Yaml
namespace Assemble

/-! ## 1. The ends of things -/

/-- Whether a token ends a block collection, or begins its next entry. -/
def endsEntry : Option Token → Bool
  | some .dash | some .blockEnd => true
  | _ => false

/-- Whether a token ends what stands behind a key or a value in a block mapping. -/
def endsPart : Option Token → Bool
  | some .key | some .value | some .blockEnd => true
  | _ => false

/-- Whether a token ends what stands behind a key between brackets. -/
def endsFlowKey (closing : Token → Bool) : Option Token → Bool
  | some .value | some .comma => true
  | some token => closing token
  | none => false

/-- Whether a token ends what stands behind a value between brackets. -/
def endsFlowValue (closing : Token → Bool) : Option Token → Bool
  | some .comma => true
  | some token => closing token
  | none => false

/-- The bracket that closes a list. -/
def isCloseList : Token → Bool
  | .closeList => true
  | _ => false

/-- The bracket that closes a mapping. -/
def isCloseMap : Token → Bool
  | .closeMap => true
  | _ => false

/-- A comma. -/
def isComma : Token → Bool
  | .comma => true
  | _ => false

/-- The token that closes a block. -/
def isBlockEnd : Token → Bool
  | .blockEnd => true
  | _ => false

/-- Where a node stands, which decides what collections it may be. -/
inductive Position where
  /-- Between brackets. -/
  | flow
  /-- In a block. -/
  | block
  /-- In a block mapping, where the dashes of a list may stand as far left as the keys. -/
  | entry
deriving DecidableEq

/-! ## 2. Nodes -/

/-- A scalar; its token is given. -/
def scalar (p : Properties) (text : Text) (plain : Bool) : Assemble Nat :=
  begin? p.anchor ⟨p.scalarTag text plain, .scalar text⟩

/-- A sequence, whose items are read by `read`. -/
def sequence (p : Properties) (read : Assemble (List Nat)) : Assemble Nat := do
  let place ← begin? p.anchor ⟨p.collectionTag .seq, .sequence []⟩
  complete place (.sequence (← read))
  return place

/-- A mapping, whose entries are read by `read`. -/
def mapping (p : Properties) (read : Assemble (List (Nat × Nat))) : Assemble Nat := do
  let place ← begin? p.anchor ⟨p.collectionTag .map, .mapping []⟩
  complete place (.mapping (← read))
  return place

/-- The node of a missing content, behind an anchor or a tag. -/
def emptyNode (p : Properties) : Assemble Nat :=
  if p.isEmpty then throw .unreadable else scalar p [] true

mutual

/-- Reads a node that may have `depth` levels. -/
def node (position : Position) (depth : Nat) : Nat → Assemble Nat
  | 0 => throw .unreadable
  | fuel + 1 => do
    if depth = 0 then throw (.fault .tooDeep)
    let inner := depth - 1
    match ← peek with
    | some (.alias name) => skip; resolve name
    | _ =>
      let p ← properties
      match ← peek with
      | some (.scalar text plain) => skip; scalar p text plain
      | some .openList => skip; sequence p (flowItems true inner fuel)
      | some .openMap => skip; mapping p (flowEntries true inner fuel)
      | some .blockSequence =>
        if position = .flow then emptyNode p
        else skip; sequence p (blockItems inner fuel)
      | some .blockMapping =>
        if position = .flow then emptyNode p
        else skip; mapping p (blockEntries inner fuel)
      | some .dash =>
        if position = .entry then sequence p (looseItems inner fuel) else emptyNode p
      | _ => emptyNode p
termination_by structural fuel => fuel

/-- Reads a node, unless a token stands here that ends it. -/
def nodeUnless (ends : Option Token → Bool) (position : Position) (depth : Nat) :
    Nat → Assemble Nat
  | 0 => throw .unreadable
  | fuel + 1 => do
    if ends (← peek) then missing else node position depth fuel
termination_by structural fuel => fuel

/-- Reads the entries of a list in a block, up to its end. -/
def blockItems (depth : Nat) : Nat → Assemble (List Nat)
  | 0 => throw .unreadable
  | fuel + 1 => do
    match ← peek with
    | some .dash =>
      skip
      let item ← nodeUnless endsEntry .block depth fuel
      return item :: (← blockItems depth fuel)
    | _ => expect isBlockEnd; return []
termination_by structural fuel => fuel

/-- Reads the entries of a list that has no block of its own. -/
def looseItems (depth : Nat) : Nat → Assemble (List Nat)
  | 0 => throw .unreadable
  | fuel + 1 => do
    match ← peek with
    | some .dash =>
      skip
      let item ← nodeUnless (fun t => endsEntry t || endsPart t) .block depth fuel
      return item :: (← looseItems depth fuel)
    | _ => return []
termination_by structural fuel => fuel

/-- Reads the entries of a mapping in a block, up to its end. -/
def blockEntries (depth : Nat) : Nat → Assemble (List (Nat × Nat))
  | 0 => throw .unreadable
  | fuel + 1 => do
    match ← peek with
    | some .key =>
      skip
      let key ← nodeUnless endsPart .entry depth fuel
      let value ← blockValue depth fuel
      return (key, value) :: (← blockEntries depth fuel)
    | _ => expect isBlockEnd; return []
termination_by structural fuel => fuel

/-- Reads the value behind a key in a block; it may be missing. -/
def blockValue (depth : Nat) : Nat → Assemble Nat
  | 0 => throw .unreadable
  | fuel + 1 => do
    match ← peek with
    | some .value => skip; nodeUnless endsPart .entry depth fuel
    | _ => missing
termination_by structural fuel => fuel

/-- Reads the value behind a key between brackets; it may be missing. -/
def flowValue (closing : Token → Bool) (depth : Nat) : Nat → Assemble Nat
  | 0 => throw .unreadable
  | fuel + 1 => do
    match ← peek with
    | some .value => skip; nodeUnless (endsFlowValue closing) .flow depth fuel
    | _ => missing
termination_by structural fuel => fuel

/-- Reads a key between brackets, whose mark was read, and the value behind it. -/
def flowEntry (closing : Token → Bool) (depth : Nat) : Nat → Assemble (Nat × Nat)
  | 0 => throw .unreadable
  | fuel + 1 => do
    let key ← nodeUnless (endsFlowKey closing) .flow depth fuel
    return (key, ← flowValue closing depth fuel)
termination_by structural fuel => fuel

/-- Reads the entries of a list between brackets, up to its end.  An entry with a key is a
mapping of its own. -/
def flowItems (first : Bool) (depth : Nat) : Nat → Assemble (List Nat)
  | 0 => throw .unreadable
  | fuel + 1 => do
    if (← peek).any isCloseList then skip; return []
    if !first then expect isComma
    match ← peek with
    | some .key =>
      skip
      if depth = 0 then throw (.fault .tooDeep)
      let item ← mapping {} (do return [← flowEntry isCloseList (depth - 1) fuel])
      return item :: (← flowItems false depth fuel)
    | some .closeList => skip; return []
    | _ =>
      let item ← node .flow depth fuel
      return item :: (← flowItems false depth fuel)
termination_by structural fuel => fuel

/-- Reads the entries of a mapping between brackets, up to its end.  A node without a key in
front of it is a key without a value. -/
def flowEntries (first : Bool) (depth : Nat) : Nat → Assemble (List (Nat × Nat))
  | 0 => throw .unreadable
  | fuel + 1 => do
    if (← peek).any isCloseMap then skip; return []
    if !first then expect isComma
    match ← peek with
    | some .key =>
      skip
      let entry ← flowEntry isCloseMap depth fuel
      return entry :: (← flowEntries false depth fuel)
    | some .closeMap => skip; return []
    | _ =>
      let key ← node .flow depth fuel
      let value ← missing
      return (key, value) :: (← flowEntries false depth fuel)

termination_by structural fuel => fuel

end

/-! ## 3. Documents -/

/-- Reads the directives of a document: what its handles stand for. -/
def directives (versioned : Bool) : Nat → Assemble Unit
  | 0 => throw .unreadable
  | fuel + 1 => do
    match ← peek with
    | some (.directive (.version major)) =>
      if versioned || major ≠ 1 then throw .unreadable
      skip
      directives true fuel
    | some (.directive (.handle name meaning)) =>
      if ((← get).handles.lookup name).isSome then throw .unreadable
      skip
      modify fun a => { a with handles := (name, meaning) :: a.handles }
      directives versioned fuel
    | some (.directive .other) => skip; directives versioned fuel
    | _ => return

/-- Whether a token begins the head of a document. -/
def startsHead : Token → Bool
  | .directive _ | .documentStart => true
  | _ => false

/-- The token behind a document. -/
def isDocumentEnd : Token → Bool
  | .documentEnd => true
  | _ => false

/-- The token that begins the content of a document with a head. -/
def isStart : Token → Bool
  | .documentStart => true
  | _ => false

/-- Reads the head of a document, if it has one; true if it has. -/
def head (fuel : Nat) : Assemble Bool := do
  let headed := (← peek).any startsHead
  if headed then
    directives false fuel
    expect isStart
  modify fun a => { a with handles := a.handles ++ commonHandles }
  return headed

/-- Makes sure that no further document follows. -/
def noMore (fuel : Nat) : Assemble Unit := do
  modify fun a => { a with tokens := a.tokens.dropWhile isDocumentEnd, handles := [] }
  if (← peek).isSome then
    directives false fuel
    throw .unreadable

/-- Reads the only document of a text; an empty text has none. -/
def document (fuel : Nat) : Assemble (Option Nat) := do
  if (← peek).isNone then return none
  let headed ← head fuel
  let next ← peek
  let isEmpty := headed && next.all fun t => startsHead t || isDocumentEnd t
  let root ← if isEmpty then missing else node .block depthLimit fuel
  noMore fuel
  return some root

end Assemble

/-- **Builds the nodes of a text from its tokens.** -/
def Graph.ofTokens? (tokens : List Token) : Reading (Option Graph) := do
  let (root, assembly) ← (Assemble.document (4 * tokens.length + 8)).run { tokens }
  return root.map fun root => ⟨assembly.nodes, root⟩

end Gamebook.Yaml
