import PromptTemplate.Yaml.Lexeme

/-!
# The tokens of a stream

The layout of a stream becomes tokens: a block begins where a first entry or key stands further to
the right than the block around it, and ends where a line begins further to the left. Whether a
token begins a key shows only at the colon after it, so the places of possible keys are kept and the
mark for the key is put in afterwards.
-/

namespace PromptTemplate.Yaml

/-- A place where a key may have begun. -/
structure PossibleKey where
  /-- The number of tokens before it. -/
  position : Nat
  /-- Only a key can stand there. -/
  required : Bool
  index : Nat
  line : Nat
  column : Nat

/-- The state between two tokens. -/
structure Layout where
  cursor : Cursor
  /-- The tokens so far, the latest first, and their number. -/
  tokens : List Token := []
  count : Nat := 0
  flowLevel : Nat := 0
  /-- The columns of the blocks, the innermost first. -/
  blocks : List Int := []
  /-- Whether a key may begin here. -/
  allowKey : Bool := true
  /-- Possible keys by flow level, the innermost first. -/
  keys : List (Nat × PossibleKey) := []
  finished : Bool := false

namespace Layout

/-- The column of the innermost block. -/
def indent (s : Layout) : Int := s.blocks.headD (-1)

def push (s : Layout) (tok : Token) : Layout :=
  { s with tokens := tok :: s.tokens, count := s.count + 1 }

/-- Add a token of one character and go past it. -/
def pushIndicator (s : Layout) (tok : Token) : Layout :=
  { s.push tok with cursor := s.cursor.next }

/-- Whether a place is too far back for a key: on another line, or more than 1024 characters. -/
def isStale (s : Layout) (k : PossibleKey) : Bool :=
  k.line ≠ s.cursor.line || k.index + 1024 < s.cursor.index

/-- Forget places that are too far back. -/
def dropStale (s : Layout) : Except Fault Layout :=
  if s.keys.any fun k => s.isStale k.2 && k.2.required then .error .malformed
  else .ok { s with keys := s.keys.filter fun k => !s.isStale k.2 }

/-- Forget the possible key at this flow level. -/
def dropKey (s : Layout) : Except Fault Layout :=
  if s.keys.any fun k => k.1 = s.flowLevel && k.2.required then .error .malformed
  else .ok { s with keys := s.keys.filter fun k => k.1 ≠ s.flowLevel }

/-- Note that a key may begin here. -/
def saveKey (s : Layout) : Except Fault Layout :=
  if s.allowKey then do
    let c := s.cursor
    let required := s.flowLevel = 0 && s.indent = c.column
    let s ← s.dropKey
    .ok { s with
      keys := (s.flowLevel, ⟨s.count, required, c.index, c.line, c.column⟩) :: s.keys }
  else .ok s

/-- End the blocks that reach further to the right than a column. -/
def unwindTo (column : Int) (s : Layout) : Layout :=
  if s.flowLevel = 0 then
    let ended := (s.blocks.takeWhile fun b => column < b).length
    { s with
      tokens := List.replicate ended .blockEnd ++ s.tokens
      count := s.count + ended
      blocks := s.blocks.drop ended }
  else s

/-- Begin a block at a column if it lies further to the right; the flag says whether it does. -/
def addIndent (s : Layout) (column : Nat) : Bool × Layout :=
  if s.indent < column then (true, { s with blocks := column :: s.blocks }) else (false, s)

/-- Begin a block here if need be. -/
def openBlock (s : Layout) (tok : Token) : Layout :=
  let (isNew, s) := s.addIndent s.cursor.column
  if isNew then s.push tok else s

/-- Past blanks, comments and line breaks up to the next token. -/
def skipToToken : Nat → Layout → Layout
  | 0, s => s
  | fuel + 1, s =>
    let c := s.cursor.skipSpaces.skipComment
    if (c.peek.map isBreak).getD false then
      skipToToken fuel
        { s with cursor := c.takeBreak.2, allowKey := s.allowKey || s.flowLevel = 0 }
    else { s with cursor := c }

/-- A marker or a directive ends all blocks. -/
def atDocumentLevel (s : Layout) : Except Fault Layout := do
  let s ← (s.unwindTo (-1)).dropKey
  .ok { s with allowKey := false }

def marker (s : Layout) (tok : Token) : Except Fault Layout := do
  let s ← s.atDocumentLevel
  .ok { s.push tok with cursor := Cursor.advance 3 s.cursor }

def flowStart (s : Layout) (tok : Token) : Except Fault Layout := do
  let s ← s.saveKey
  .ok { s.pushIndicator tok with flowLevel := s.flowLevel + 1, allowKey := true }

def flowEnd (s : Layout) (tok : Token) : Except Fault Layout := do
  let s ← s.dropKey
  .ok { s.pushIndicator tok with flowLevel := s.flowLevel - 1, allowKey := false }

def flowEntry (s : Layout) : Except Fault Layout := do
  let s ← s.dropKey
  .ok { s.pushIndicator .flowEntry with allowKey := true }

def blockEntry (s : Layout) : Except Fault Layout := do
  if s.flowLevel = 0 && !s.allowKey then .error .malformed
  else
    let s := if s.flowLevel = 0 then s.openBlock .blockSequenceStart else s
    let s ← s.dropKey
    .ok { s.pushIndicator .blockEntry with allowKey := true }

def key (s : Layout) : Except Fault Layout := do
  if s.flowLevel = 0 && !s.allowKey then .error .malformed
  else
    let s := if s.flowLevel = 0 then s.openBlock .blockMappingStart else s
    let s ← s.dropKey
    .ok { s.pushIndicator .key with allowKey := s.flowLevel = 0 }

/-- Put tokens in before the token at a position. -/
def insertAt (s : Layout) (position : Nat) (toks : List Token) : Layout :=
  let after := s.count - position
  { s with
    tokens := s.tokens.take after ++ toks.reverse ++ s.tokens.drop after
    count := s.count + toks.length }

def value (s : Layout) : Except Fault Layout := do
  match s.keys.find? fun k => k.1 = s.flowLevel with
  | some (_, k) =>
    let s := { s with keys := s.keys.filter fun k => k.1 ≠ s.flowLevel }
    let (isNew, s) := if s.flowLevel = 0 then s.addIndent k.column else (false, s)
    let s := s.insertAt k.position (if isNew then [.blockMappingStart, .key] else [.key])
    .ok { s.pushIndicator .value with allowKey := false }
  | none =>
    if s.flowLevel = 0 && !s.allowKey then .error .malformed
    else
      let s := if s.flowLevel = 0 then s.openBlock .blockMappingStart else s
      let s ← { s with allowKey := s.flowLevel = 0 }.dropKey
      .ok (s.pushIndicator .value)

/-- A lexeme that may be a key. -/
def keyLexeme (s : Layout) (read : Cursor → Except Fault (Token × Cursor)) :
    Except Fault Layout := do
  let s ← s.saveKey
  let (tok, c) ← read s.cursor
  .ok { s.push tok with cursor := c, allowKey := false }

def readAlias (c : Cursor) : Except Fault (Token × Cursor) :=
  (Lexeme.anchorName c).map fun r => (.alias r.1, r.2)

def readAnchor (c : Cursor) : Except Fault (Token × Cursor) :=
  (Lexeme.anchorName c).map fun r => (.anchor r.1, r.2)

def blockScalar (s : Layout) (folded : Bool) : Except Fault Layout := do
  let s ← s.dropKey
  let (tok, c) ← Lexeme.blockScalar folded s.indent s.cursor
  .ok { s.push tok with cursor := c, allowKey := true }

def plainScalar (s : Layout) : Except Fault Layout := do
  let s ← s.saveKey
  let (tok, broken, c) := Lexeme.plainScalar (0 < s.flowLevel) s.indent s.cursor
  .ok { s.push tok with cursor := c, allowKey := broken }

/-- The end of the stream ends all blocks. -/
def finish (s : Layout) : Except Fault Layout := do
  let s ← (s.unwindTo (-1)).dropKey
  .ok { s.push .streamEnd with finished := true }

/-- Whether a plain scalar can begin with a character, given what follows it. -/
def beginsPlain (s : Layout) (x : CodePoint) (after : Option CodePoint) : Bool :=
  let reserved := (Text.ofString "-?:,[]\x7b\x7d#&*!|>'\"%@\x60").contains x
  (!isGap x && !reserved) ||
    (!isEdge after && (x = .char '-' || (s.flowLevel = 0 && (x = .char '?' || x = .char ':'))))

/-- The token that begins with a character at the cursor. -/
def tokenAt (s : Layout) (x : CodePoint) : Except Fault Layout :=
  let c := s.cursor
  let after := c.peekAt 1
  let inFlow : Bool := 0 < s.flowLevel
  if x = .char '%' && c.column = 0 then do
    let s ← s.atDocumentLevel
    let (tok, c) ← Lexeme.directive s.cursor
    .ok { s.push tok with cursor := c }
  else if c.column = 0 && c.atMarker '-' then s.marker .documentStart
  else if c.column = 0 && c.atMarker '.' then s.marker .documentEnd
  else if x = .char '[' then s.flowStart .flowSequenceStart
  else if x = .char '{' then s.flowStart .flowMappingStart
  else if x = .char ']' then s.flowEnd .flowSequenceEnd
  else if x = .char '}' then s.flowEnd .flowMappingEnd
  else if x = .char ',' then s.flowEntry
  else if x = .char '-' && isEdge after then s.blockEntry
  else if x = .char '?' && (inFlow || isEdge after) then s.key
  else if x = .char ':' && (inFlow || isEdge after) then s.value
  else if x = .char '*' then s.keyLexeme readAlias
  else if x = .char '&' then s.keyLexeme readAnchor
  else if x = .char '!' then s.keyLexeme Lexeme.tag
  else if x = .char '|' && !inFlow then s.blockScalar false
  else if x = .char '>' && !inFlow then s.blockScalar true
  else if x = .char '\'' then s.keyLexeme (Lexeme.quotedScalar false)
  else if x = .char '"' then s.keyLexeme (Lexeme.quotedScalar true)
  else if s.beginsPlain x after then s.plainScalar
  else .error .malformed

/-- The next token, with the ends of blocks before it. -/
def step (s : Layout) : Except Fault Layout := do
  let s := skipToToken s.cursor.fuel s
  let s ← s.dropStale
  let s := s.unwindTo s.cursor.column
  match s.cursor.peek with
  | none => s.finish
  | some x => s.tokenAt x

/-- The tokens that are settled: those before the first place where a key may have begun. -/
def settled (s : Layout) : List Token :=
  let first := s.keys.foldl (fun n k => min n k.2.position) s.count
  (s.tokens.drop (s.count - first)).reverse

/-- The tokens from a state on. A fault leaves the tokens that were settled before it, and nothing
else if a place before it is too far back for the key that must stand there. -/
def run : Nat → Layout → List Token × Fault
  | 0, s => (s.settled, .malformed)
  | fuel + 1, s =>
    match s.step with
    | .ok next => if next.finished then (next.tokens.reverse, .malformed) else run fuel next
    | .error f =>
      match s.dropStale with
      | .ok s => (s.settled, f)
      | .error f => ([], f)

end Layout

/-- The tokens of a text, and the fault that is met by asking for one more. A token is told only
when it is settled whether a key begins with it, so a fault holds back the tokens from the first
possible key on. -/
def tokens (t : Text) : List Token × Fault :=
  let t := match t with
    | .char '\uFEFF' :: u => u
    | _ => t
  Layout.run (t.length + 1) { cursor := { rest := t } }

end PromptTemplate.Yaml
