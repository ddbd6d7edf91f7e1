import PromptTemplate.Table
import PromptTemplate.Yaml.Graph
import PromptTemplate.Yaml.TokenStream

/-!
# Reading a graph

The tokens of a stream are read from left to right, and no further than the next decision needs: what
comes first counts, be it a mistake in the order of tokens or the fault of the stream after the last
token. A stream holds one document at most.
-/

namespace PromptTemplate.Yaml

/-- What is known while a document is read. -/
structure ReaderState where
  tokens : List Token
  /-- What is met after the last token. -/
  fault : Fault
  graph : Graph := {}
  /-- The numbers of the named nodes. -/
  anchors : Table Nat := []
  /-- The meaning of tag handles. -/
  handles : Table Text := []
  /-- How many collections are open. -/
  depth : Nat := 0

abbrev Reader := StateT ReaderState (Except Fault)

namespace Reader

/-- How many collections may stand inside one another. This is no rule of YAML but what the stack of one
runtime holds, the one that the service and the command line run on, when it is called from there. -/
def maxDepth : Nat := 475

def malformed {α : Type} : Reader α := throw .malformed

/-- The next token. -/
def peek : Reader Token := do
  let s ← get
  match s.tokens with
  | tok :: _ => return tok
  | [] => throw s.fault

/-- Go past the next token. -/
def skip : Reader Unit := modify fun s => { s with tokens := s.tokens.drop 1 }

/-- A node with a number of its own. -/
def add (n : Node) : Reader Nat :=
  modifyGet fun s => (s.graph.size, { s with graph := s.graph.push n })

/-- The number for a node that is still to be read, under its name if it has one. A name may be given
once. -/
def reserve (anchor : Option Text) : Reader Nat := do
  let i ← add .empty
  match anchor with
  | none => return i
  | some name =>
    if (Table.get? (← get).anchors name).isSome then malformed
    else
      modify fun s => { s with anchors := Table.set s.anchors name i }
      return i

def fill (i : Nat) (n : Node) : Reader Unit := modify fun s => { s with graph := s.graph.set i n }

/-- Read inside a collection. -/
def inside {α : Type} (read : Reader α) : Reader α := do
  if maxDepth ≤ (← get).depth then throw (.value .tooDeep)
  else
    modify fun s => { s with depth := s.depth + 1 }
    let a ← read
    modify fun s => { s with depth := s.depth - 1 }
    return a

/-- The full text of a tag. -/
def expand : Option Text → Text → Reader Text
  | none, suffix => return suffix
  | some handle, suffix => do
    match Table.get? (← get).handles handle with
    | some start => return start ++ suffix
    | none => malformed

/-- The anchor and the tag in front of a node, in either order. -/
def properties : Reader (Option Text × Option Text) := do
  match ← peek with
  | .anchor a =>
    skip
    match ← peek with
    | .tag h t =>
      skip
      return (some a, some (← expand h t))
    | _ => return (some a, none)
  | .tag h t =>
    skip
    match ← peek with
    | .anchor a =>
      skip
      return (some a, some (← expand h t))
    | _ => return (none, some (← expand h t))
  | _ => return (none, none)

/-- The tag of a collection. -/
def collectionTag (default : Tag) (tag : Option Text) : Tag :=
  match tag.filter (· ≠ [.char '!']) with
  | some t => Tag.ofText t
  | none => default

/-- The tag of a scalar: its own, or the one that its text suggests. -/
def scalarTag (tag : Option Text) (plain : Bool) (text : Text) : Tag :=
  match tag with
  | none => if plain then Tag.ofPlain text else .str
  | some t => if t = [.char '!'] then Tag.ofPlain text else Tag.ofText t

mutual
/-- A node. Block collections, and sequences without indentation of their own, are read only where
they may stand. -/
def node : Nat → Bool → Bool → Reader Nat
  | 0, _, _ => malformed
  | fuel + 1, block, indentless => do
    match ← peek with
    | .alias name =>
      skip
      match Table.get? (← get).anchors name with
      | some i => return i
      | none => malformed
    | _ =>
      let (anchor, tag) ← properties
      let tok ← peek
      let i ← reserve anchor
      let sequence (items : Reader (List Nat)) : Reader Unit := do
        fill i ⟨collectionTag .seq tag, .sequence (← inside items)⟩
      let mapping (entries : Reader (List (Nat × Nat))) : Reader Unit := do
        fill i ⟨collectionTag .map tag, .mapping (← inside entries)⟩
      match tok with
      | .scalar t plain =>
        skip
        fill i ⟨scalarTag tag plain t, .scalar t⟩
      | .flowSequenceStart =>
        skip
        sequence (flowItems fuel true)
      | .flowMappingStart =>
        skip
        mapping (flowEntries fuel true)
      | _ =>
        if tok = .blockEntry ∧ indentless then sequence (indentlessItems fuel)
        else if tok = .blockSequenceStart ∧ block then
          skip
          sequence (blockItems fuel)
        else if tok = .blockMappingStart ∧ block then
          skip
          mapping (blockEntries fuel)
        else if anchor.isSome ∨ tag.isSome then fill i ⟨scalarTag tag true [], .scalar []⟩
        else malformed
      return i

/-- A node, or an empty one where one of the given tokens follows. -/
def nodeOrEmpty : Nat → Bool → Bool → List Token → Reader Nat
  | 0, _, _, _ => malformed
  | fuel + 1, block, indentless, ends => do
    if ends.contains (← peek) then add .empty else node fuel block indentless

/-- The items of a block sequence up to its end. -/
def blockItems : Nat → Reader (List Nat)
  | 0 => malformed
  | fuel + 1 => do
    match ← peek with
    | .blockEntry =>
      skip
      let i ← nodeOrEmpty fuel true false [.blockEntry, .blockEnd]
      return i :: (← blockItems fuel)
    | .blockEnd =>
      skip
      return []
    | _ => malformed

/-- The items of a sequence that has no indentation of its own. -/
def indentlessItems : Nat → Reader (List Nat)
  | 0 => malformed
  | fuel + 1 => do
    match ← peek with
    | .blockEntry =>
      skip
      let i ← nodeOrEmpty fuel true false [.blockEntry, .key, .value, .blockEnd]
      return i :: (← indentlessItems fuel)
    | _ => return []

/-- The entries of a block mapping up to its end. -/
def blockEntries : Nat → Reader (List (Nat × Nat))
  | 0 => malformed
  | fuel + 1 => do
    match ← peek with
    | .key =>
      skip
      let k ← nodeOrEmpty fuel true true [.key, .value, .blockEnd]
      let v ← blockValue fuel
      return (k, v) :: (← blockEntries fuel)
    | .blockEnd =>
      skip
      return []
    | _ => malformed

/-- The value of an entry of a block mapping; it may be missing. -/
def blockValue : Nat → Reader Nat
  | 0 => malformed
  | fuel + 1 => do
    match ← peek with
    | .value =>
      skip
      nodeOrEmpty fuel true true [.key, .value, .blockEnd]
    | _ => add .empty

/-- The items of a flow sequence up to its end; all but the first follow a comma. -/
def flowItems : Nat → Bool → Reader (List Nat)
  | 0, _ => malformed
  | fuel + 1, first => do
    match first, ← peek with
    | _, .flowSequenceEnd =>
      skip
      return []
    | false, .flowEntry =>
      skip
      flowItem fuel
    | false, _ => malformed
    | true, _ => flowItem fuel

/-- An item of a flow sequence and those after it. A key begins a mapping of one entry. -/
def flowItem : Nat → Reader (List Nat)
  | 0 => malformed
  | fuel + 1 => do
    match ← peek with
    | .flowSequenceEnd =>
      skip
      return []
    | .key =>
      skip
      let i ← reserve none
      let entry ← inside do
        let k ← nodeOrEmpty fuel false false [.value, .flowEntry, .flowSequenceEnd]
        return (k, ← flowValue fuel .flowSequenceEnd)
      fill i ⟨.map, .mapping [entry]⟩
      return i :: (← flowItems fuel false)
    | _ =>
      let i ← node fuel false false
      return i :: (← flowItems fuel false)

/-- The value of an entry in a flow collection with the given end; it may be missing. -/
def flowValue : Nat → Token → Reader Nat
  | 0, _ => malformed
  | fuel + 1, closing => do
    match ← peek with
    | .value =>
      skip
      nodeOrEmpty fuel false false [.flowEntry, closing]
    | _ => add .empty

/-- The entries of a flow mapping up to its end; all but the first follow a comma. -/
def flowEntries : Nat → Bool → Reader (List (Nat × Nat))
  | 0, _ => malformed
  | fuel + 1, first => do
    match first, ← peek with
    | _, .flowMappingEnd =>
      skip
      return []
    | false, .flowEntry =>
      skip
      flowEntry fuel
    | false, _ => malformed
    | true, _ => flowEntry fuel

/-- An entry of a flow mapping and those after it. A node without the mark of a key has no value. -/
def flowEntry : Nat → Reader (List (Nat × Nat))
  | 0 => malformed
  | fuel + 1 => do
    match ← peek with
    | .flowMappingEnd =>
      skip
      return []
    | .key =>
      skip
      let k ← nodeOrEmpty fuel false false [.value, .flowEntry, .flowMappingEnd]
      let v ← flowValue fuel .flowMappingEnd
      return (k, v) :: (← flowEntries fuel false)
    | _ =>
      let k ← node fuel false false
      let v ← add .empty
      return (k, v) :: (← flowEntries fuel false)
end

/-! ### Documents -/

/-- The handles that need no directive. -/
def defaultHandles : Table Text := [("!", "!"), ("!!", Tag.coreStart)]

/-- The directives at the head of a list of tokens: the handles they define, and the tokens after
them. A version is given once and must be 1, a handle is defined once. -/
def directivesOf : Bool → Table Text → List Token → Except Fault (Table Text × List Token)
  | seen, handles, .versionDirective major :: r =>
    if seen ∨ major ≠ 1 then .error .malformed else directivesOf true handles r
  | seen, handles, .tagDirective handle start :: r =>
    if (Table.get? handles handle).isSome then .error .malformed
    else directivesOf seen (Table.set handles handle start) r
  | seen, handles, .otherDirective :: r => directivesOf seen handles r
  | _, handles, r => .ok (defaultHandles.foldl (fun t e => Table.setNew t e.1 e.2) handles, r)

/-- The directives of a document, and the mark of its start if they or it are there. -/
def directives : Reader Unit := do
  let s ← get
  let (handles, tokens) ← directivesOf false [] s.tokens
  set { s with tokens, handles }

/-- Whether nothing of a document can follow before a token. -/
def endsDocument (tok : Token) : Bool :=
  tok.isDirective || [.documentStart, .documentEnd, .streamEnd].contains tok

/-- A document that begins with directives or a mark. -/
def markedDocument (fuel : Nat) : Reader Unit := do
  directives
  if (← peek) = .documentStart then
    skip
    if endsDocument (← peek) then discard (add .empty) else discard (node fuel true false)
  else malformed

/-- A document that begins with its root. -/
def bareDocument (fuel : Nat) : Reader Unit := do
  modify fun s => { s with handles := defaultHandles }
  discard (node fuel true false)

/-- The end of a stream after a document. The directives of another document are still read. -/
def finish : Reader Unit := do
  modify fun s => { s with tokens := s.tokens.dropWhile (· = .documentEnd) }
  if (← peek) ≠ .streamEnd then
    directives
    discard peek
    malformed

/-- The only document of a stream, nothing if the stream is empty. -/
def document (fuel : Nat) : Reader (Option Graph) := do
  let tok ← peek
  if tok = .streamEnd then return none
  else
    if tok.isDirective ∨ tok = .documentStart then markedDocument fuel else bareDocument fuel
    finish
    return some (← get).graph

end Reader

/-- The document of a text, nothing if the text is empty. -/
def Graph.ofText (t : Text) : Except Fault (Option Graph) :=
  if t.all isPrintable then
    let (tokens, fault) := tokens t
    Prod.fst <$> (Reader.document (4 * tokens.length + 4)).run { tokens, fault }
  else .error .malformed

end PromptTemplate.Yaml
