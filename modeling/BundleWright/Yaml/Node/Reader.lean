import BundleWright.Yaml.Node
import BundleWright.Yaml.Token.Lexer
/-!
From the words of a YAML document to its node. A stream holds one document at most.
-/
namespace BundleWright.Yaml

structure Reader where
  tokens : List Token
  handles : List (String × String)
  /-- The anchors so far; one of a collection that is being read names an empty one of its kind. -/
  anchors : List (String × Node)

abbrev Read := StateT Reader Reading

namespace Read

def fail {α : Type} (fault : Fault) : Read α := StateT.lift (.error fault)

def peek : Read Token := do
  match (← get).tokens with
  | [] => fail .malformed
  | .broken fault :: _ => fail fault
  | t :: _ => return t

def skip : Read Unit := modify fun r => { r with tokens := r.tokens.tail }

def meets (ts : List Token) : Read Bool := return ts.contains (← peek)

def passes (t : Token) : Read Bool := do
  if (← peek) = t then
    skip
    return true
  return false

end Read

structure Properties where
  anchor : Option String := none
  tag : Option (Option String × String) := none

def Properties.isEmpty (p : Properties) : Bool := p.anchor.isNone && p.tag.isNone

/-- The anchor and the tag in front of a node, in any order; each at most once. -/
def properties : Read Properties := do
  match ← Read.peek with
  | .anchor name => do
    Read.skip
    match ← Read.peek with
    | .tag handle suffix => do
      Read.skip
      return ⟨some name, some (handle, suffix)⟩
    | _ => return ⟨some name, none⟩
  | .tag handle suffix => do
    Read.skip
    match ← Read.peek with
    | .anchor name => do
      Read.skip
      return ⟨some name, some (handle, suffix)⟩
    | _ => return ⟨none, some (handle, suffix)⟩
  | _ => return {}

/-- The whole text of a tag; its handle has to be known. -/
def Properties.uri? (p : Properties) : Read (Option String) := do
  match p.tag with
  | none => return none
  | some (none, suffix) => return some suffix
  | some (some handle, suffix) =>
    match (← get).handles.lookup handle with
    | some front => return some (front ++ suffix)
    | none => Read.fail .malformed

/-- The kind that a tag gives, none if it leaves it to the form of the node. -/
def givenTag (uri : Option String) : Option Tag :=
  (uri.filter (· ≠ "!")).map Tag.ofUri

def setAnchor (anchor : Option String) (node : Node) : Read Unit :=
  match anchor with
  | none => pure ()
  | some name => modify fun r => { r with anchors := (name, node) :: r.anchors }

def checkAnchor (anchor : Option String) : Read Unit := do
  if let some name := anchor then
    if ((← get).anchors.lookup name).isSome then Read.fail .malformed

/-- The node that an alias stands for. Inside its own collection that is an empty one, so that each
node is finite. -/
def aliased (name : String) : Read Node := do
  match (← get).anchors.lookup name with
  | some node => return node
  | none => Read.fail .malformed

inductive Opening where
  | scalar (codes : List Nat) (plain : Bool)
  | nothing
  | indentless
  | sequence (block : Bool)
  | mapping (block : Bool)

/-- What a node begins with. A sequence of a mapping need not be deeper than its key, if the reader
is `indentless`; block collections do not stand inside brackets. -/
def opening (block indentless hasProperties : Bool) : Read Opening := do
  match ← Read.peek, block, indentless with
  | .blockEntry, _, true => return .indentless
  | .scalar codes plain, _, _ => do
    Read.skip
    return .scalar codes plain
  | .flowSequence, _, _ => do
    Read.skip
    return .sequence false
  | .flowMapping, _, _ => do
    Read.skip
    return .mapping false
  | .blockSequence, true, _ => do
    Read.skip
    return .sequence true
  | .blockMapping, true, _ => do
    Read.skip
    return .mapping true
  | _, _, _ => if hasProperties then return .nothing else Read.fail .malformed

def separator (first : Bool) : Read Unit := do
  if !first then
    if !(← Read.passes .flowEntry) then Read.fail .malformed

mutual

/-- One node; `fuel` bounds the number of steps. -/
def node : (fuel : Nat) → (block indentless : Bool) → Read Node
  | 0, _, _ => Read.fail .malformed
  | fuel + 1, block, indentless => do
    if let .alias name := ← Read.peek then
      Read.skip
      return ← aliased name
    let p ← properties
    let uri ← p.uri?
    let opening ← opening block indentless (!p.isEmpty)
    checkAnchor p.anchor
    let given := givenTag uri
    let node ← match opening with
      | .scalar codes plain =>
        pure (match given with
          | some tag => Node.scalar tag codes
          | none => Node.untagged (plain || uri.isSome) codes)
      | .nothing => pure (Node.scalar (given.getD .null) [])
      | .indentless => do
        let tag := given.getD .seq
        setAnchor p.anchor (.sequence tag [])
        pure (Node.sequence tag (← indentlessItems fuel))
      | .sequence block => do
        let tag := given.getD .seq
        setAnchor p.anchor (.sequence tag [])
        pure (Node.sequence tag (← if block then blockItems fuel else flowItems fuel true))
      | .mapping block => do
        let tag := given.getD .map
        setAnchor p.anchor (.mapping tag [])
        pure (Node.mapping tag (← if block then blockEntries fuel else flowEntries fuel true))
    setAnchor p.anchor node
    return node

def nodeUnless (enders : List Token) (block indentless : Bool) : (fuel : Nat) → Read Node
  | 0 => Read.fail .malformed
  | fuel + 1 => do
    if ← Read.meets enders then return Node.empty else node fuel block indentless

def valueUnless (enders : List Token) (block : Bool) : (fuel : Nat) → Read Node
  | 0 => Read.fail .malformed
  | fuel + 1 => do
    if ← Read.passes .value then nodeUnless enders block block fuel else return Node.empty

def blockItems : (fuel : Nat) → Read (List Node)
  | 0 => Read.fail .malformed
  | fuel + 1 => do
    if ← Read.passes .blockEntry then
      let item ← nodeUnless [.blockEntry, .blockEnd] true false fuel
      return item :: (← blockItems fuel)
    if ← Read.passes .blockEnd then return []
    Read.fail .malformed

def indentlessItems : (fuel : Nat) → Read (List Node)
  | 0 => Read.fail .malformed
  | fuel + 1 => do
    if ← Read.passes .blockEntry then
      let item ← nodeUnless [.blockEntry, .key, .value, .blockEnd] true false fuel
      return item :: (← indentlessItems fuel)
    return []

def blockEntries : (fuel : Nat) → Read (List (Node × Node))
  | 0 => Read.fail .malformed
  | fuel + 1 => do
    if ← Read.passes .key then
      let enders := [.key, .value, .blockEnd]
      let key ← nodeUnless enders true true fuel
      let value ← valueUnless enders true fuel
      return (key, value) :: (← blockEntries fuel)
    if ← Read.passes .blockEnd then return []
    Read.fail .malformed

/-- The items up to a closing bracket. A key among them makes a mapping of one entry. -/
def flowItems : (fuel : Nat) → (first : Bool) → Read (List Node)
  | 0, _ => Read.fail .malformed
  | fuel + 1, first => do
    if ← Read.passes .flowSequenceEnd then return []
    separator first
    if ← Read.passes .key then
      let key ← nodeUnless [.value, .flowEntry, .flowSequenceEnd] false false fuel
      let value ← valueUnless [.flowEntry, .flowSequenceEnd] false fuel
      return .mapping .map [(key, value)] :: (← flowItems fuel false)
    if ← Read.passes .flowSequenceEnd then return []
    let item ← node fuel false false
    return item :: (← flowItems fuel false)

/-- The entries up to a closing brace. One without a key's mark has no value. -/
def flowEntries : (fuel : Nat) → (first : Bool) → Read (List (Node × Node))
  | 0, _ => Read.fail .malformed
  | fuel + 1, first => do
    if ← Read.passes .flowMappingEnd then return []
    separator first
    if ← Read.passes .key then
      let key ← nodeUnless [.value, .flowEntry, .flowMappingEnd] false false fuel
      let value ← valueUnless [.flowEntry, .flowMappingEnd] false fuel
      return (key, value) :: (← flowEntries fuel false)
    if ← Read.passes .flowMappingEnd then return []
    let key ← node fuel false false
    return (key, Node.empty) :: (← flowEntries fuel false)

end

def commonHandles : List (String × String) := [("!", "!"), ("!!", Tag.front)]

/-- The directives in front of a document; each may be there once. -/
def directives : (fuel : Nat) → (versioned : Bool) → List (String × String) → Read Unit
  | 0, _, _ => Read.fail .malformed
  | fuel + 1, versioned, handles => do
    match ← Read.peek with
    | .version major =>
      if versioned || major ≠ 1 then Read.fail .malformed
      Read.skip
      directives fuel true handles
    | .handle name uri =>
      if (handles.lookup name).isSome then Read.fail .malformed
      Read.skip
      directives fuel versioned ((name, uri) :: handles)
    | .directive =>
      Read.skip
      directives fuel versioned handles
    | _ => modify fun r => { r with handles := handles ++ commonHandles }

def skipDocumentEnds : Read Unit :=
  modify fun r => { r with tokens := r.tokens.dropWhile (· = .documentEnd) }

def startsDirective : Token → Bool
  | .version _ | .handle _ _ | .directive => true
  | _ => false

def document (fuel : Nat) : Read Node := do
  let t ← Read.peek
  if startsDirective t || t = .documentStart then
    directives fuel false []
    if !(← Read.passes .documentStart) then Read.fail .malformed
    let t ← Read.peek
    if startsDirective t || [.documentStart, .documentEnd, .streamEnd].contains t then
      return Node.empty
  node fuel true false

def stream (fuel : Nat) : Read (Option Node) := do
  if ← Read.meets [.streamEnd] then return none
  let root ← document fuel
  skipDocumentEnds
  if ← Read.meets [.streamEnd] then return some root
  directives fuel false []
  Read.fail .malformed

/-- The node of a text. Two steps of the reader take a word at least. -/
def node? (cs : List Char) : Reading (Option Node) := do
  let tokens := tokens cs
  let (node, _) ← (stream (4 * tokens.length + 8)).run ⟨tokens, commonHandles, []⟩
  return node

end BundleWright.Yaml
