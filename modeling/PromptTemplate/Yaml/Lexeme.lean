import PromptTemplate.Text.Utf8
import PromptTemplate.Yaml.Cursor
import PromptTemplate.Yaml.Fault
import PromptTemplate.Yaml.Token

/-!
# Single lexemes

Readers for one directive, anchor, tag or scalar at a cursor. A scalar folds its line breaks: a
single break becomes a space, and of several the first is dropped.
-/

namespace PromptTemplate.Yaml.Lexeme

def fail {α : Type} : Except Fault α := .error .malformed

/-- Go on only if the head satisfies a condition. -/
def guardHead {α : Type} (ok : Option CodePoint → Bool) (a : α) (c : Cursor) :
    Except Fault (α × Cursor) :=
  if ok c.peek then .ok (a, c) else fail

/-! ### Names, anchors and tags -/

/-- A non-empty name. -/
def name (c : Cursor) : Except Fault (Text × Cursor) :=
  let (t, c) := c.span isNameChar
  if t.isEmpty then fail else .ok (t, c)

/-- What may follow an anchor. -/
def endsAnchor (o : Option CodePoint) : Bool :=
  isEdge o || (o.map fun c => (Text.ofString "?:,]\x7d%@\x60").contains c).getD false

/-- The name of an anchor or an alias after its indicator. -/
def anchorName (c : Cursor) : Except Fault (Text × Cursor) := do
  let (t, c) ← name c.next
  guardHead endsAnchor t c

/-- The bytes of percent escapes, as text. -/
def uriEscapes : Nat → List UInt8 → Cursor → Except Fault ((List UInt8) × Cursor)
  | 0, bs, c => .ok (bs, c)
  | fuel + 1, bs, c =>
    if c.at? '%' then
      match Numeral.toNat? 16 (c.next.rest.take 2) with
      | some n =>
        if (c.next.rest.take 2).length = 2 then
          uriEscapes fuel (bs ++ [UInt8.ofNat n]) (Cursor.advance 3 c)
        else fail
      | none => fail
    else .ok (bs, c)

def isUriChar (c : CodePoint) : Bool :=
  c.isLetter || c.isDigit || (Text.ofString "-;/?:@&=+$,_.!~*'()[]").contains c

/-- The part of a tag that is written like an address; it may be empty. -/
def uriParts : Nat → Cursor → Except Fault (Text × Cursor)
  | 0, c => .ok ([], c)
  | fuel + 1, c =>
    if c.at? '%' then do
      let (bs, c) ← uriEscapes fuel [] c
      match Utf8.decode bs with
      | .error _ => fail
      | .ok t =>
        let (rest, c) ← uriParts fuel c
        .ok (t ++ rest, c)
    else
      let (t, c) := c.span isUriChar
      if t.isEmpty then .ok ([], c)
      else do
        let (rest, c) ← uriParts fuel c
        .ok (t ++ rest, c)

def uri (c : Cursor) : Except Fault (Text × Cursor) := do
  let start := c
  let (t, c) ← uriParts c.fuel c
  if start.index = c.index then fail else .ok (t, c)

/-- A tag handle: one exclamation mark, two, or a name between two. -/
def tagHandle (c : Cursor) : Except Fault (Text × Cursor) :=
  if !c.at? '!' then fail
  else if c.peekAt 1 = some (.char ' ') then .ok ([.char '!'], c.next)
  else
    let (t, d) := c.next.span isNameChar
    if d.at? '!' then .ok (.char '!' :: t ++ [.char '!'], d.next) else fail

/-- A tag at its exclamation mark. -/
def tag (c : Cursor) : Except Fault (Token × Cursor) := do
  let (tok, c) ← (do
    if c.peekAt 1 = some (.char '<') then
      let (suffix, d) ← uri c.next.next
      if d.at? '>' then .ok (Token.tag none suffix, d.next) else fail
    else if isEdge (c.peekAt 1) then .ok (.tag none [.char '!'], c.next)
    else
      let word := c.next.rest.takeWhile fun x => !isSpaceOrEnd (some x)
      if word.contains (.char '!') then
        let (handle, d) ← tagHandle c
        let (suffix, d) ← uri d
        .ok (.tag (some handle) suffix, d)
      else
        let (suffix, d) ← uri c.next
        .ok (.tag (some [.char '!']) suffix, d) : Except Fault (Token × Cursor))
  guardHead isSpaceOrEnd tok c

/-! ### Directives -/

/-- The rest of a line that may hold a comment and nothing else. -/
def restOfLine {α : Type} (a : α) (c : Cursor) : Except Fault (α × Cursor) := do
  let (a, c) ← guardHead isLineEnd a c.skipSpaces.skipComment
  .ok (a, c.takeBreak.2)

/-- A number of a version. -/
def versionNumber (c : Cursor) : Except Fault (Nat × Cursor) :=
  let (t, c) := c.span (·.isDigit)
  if Numeral.maxDigits < t.length then .error (.value (.tooLong t.length))
  else
    match Numeral.toNat? 10 t with
    | some n => .ok (n, c)
    | none => fail

/-- A directive at its percent sign. -/
def directive (c : Cursor) : Except Fault (Token × Cursor) := do
  let (word, c) ← name c.next
  let (_, c) ← guardHead isSpaceOrEnd () c
  if word = "YAML" then
    let (major, c) ← versionNumber c.skipSpaces
    if !c.at? '.' then fail
    else
      let (_, c) ← versionNumber c.next
      let (_, c) ← guardHead isSpaceOrEnd () c
      restOfLine (.versionDirective major) c
  else if word = "TAG" then
    let (handle, c) ← tagHandle c.skipSpaces
    if !c.at? ' ' then fail
    else
      let (start, c) ← uri c.skipSpaces
      let (_, c) ← guardHead isSpaceOrEnd () c
      restOfLine (.tagDirective handle start) c
  else restOfLine .otherDirective (c.skip (!isBreak ·))

/-! ### Block scalars -/

/-- What becomes of the line breaks at the end of a block scalar. -/
inductive Chomp where
  | strip
  | clip
  | keep
deriving DecidableEq

/-- The indicator of a chomping, if one stands here. -/
def chomp? (c : Cursor) : Option Chomp :=
  if c.at? '+' then some .keep else if c.at? '-' then some .strip else none

/-- The indicator of an indentation, if one stands here. -/
def indentIndicator? (c : Cursor) : Option Nat :=
  (c.peek.filter (·.isDigit)).map fun x => x.toNat - 48

/-- The indicators after the mark of a block scalar, in either order. -/
def blockHeader (c : Cursor) : Except Fault ((Chomp × Option Nat) × Cursor) := do
  let ((chomp, indent), c) := (match chomp? c with
    | some ch =>
      match indentIndicator? c.next with
      | some n => ((ch, some n), c.next.next)
      | none => ((ch, none), c.next)
    | none =>
      match indentIndicator? c with
      | some n =>
        match chomp? c.next with
        | some ch => ((ch, some n), c.next.next)
        | none => ((.clip, some n), c.next)
      | none => ((.clip, none), c) : (Chomp × Option Nat) × Cursor)
  if indent = some 0 then fail
  else
    let (a, c) ← guardHead isSpaceOrEnd (chomp, indent) c
    restOfLine a c

/-- The lines of a block scalar at its indentation, `before` being the breaks above the first: the
text up to the last line, the break that ends it and the breaks after it. -/
def blockLines (folded : Bool) (indent : Nat) :
    Nat → Text → Cursor → Text × Text × Text × Cursor
  | 0, before, c => ([], [], before, c)
  | fuel + 1, before, c =>
    if c.column = indent && c.peek.isSome then
      let flush := !(c.peek.map isGap).getD false
      let (line, c) := c.span (!isBreak ·)
      let (ending, c) := c.takeBreak
      let (after, c) := c.breaks indent c.fuel
      if c.column = indent && c.peek.isSome then
        let joint :=
          if folded && ending = [.char '\n'] && flush && !(c.peek.map isGap).getD false then
            if after.isEmpty then [CodePoint.char ' '] else []
          else ending
        let (rest, last, trailing, c) := blockLines folded indent fuel after c
        (before ++ line ++ joint ++ rest, last, trailing, c)
      else (before ++ line, ending, after, c)
    else ([], [], before, c)

/-- A block scalar at its mark, inside a block of the given indentation. -/
def blockScalar (folded : Bool) (parent : Int) (c : Cursor) : Except Fault (Token × Cursor) := do
  let ((chomp, indent), c) ← blockHeader c.next
  let least : Nat := max 1 (parent + 1).toNat
  let (indent, before, c) := match indent with
    | some n =>
      let indent := least + n - 1
      let (bs, c) := c.breaks indent c.fuel
      (indent, bs, c)
    | none =>
      let (bs, widest, c) := c.leadingBreaks c.fuel 0
      (max least widest, bs, c)
  let (text, last, trailing, c) := blockLines folded indent c.fuel before c
  let text := if chomp = .strip then text else text ++ last
  let text := if chomp = .keep then text ++ trailing else text
  .ok (.scalar text false, c)

/-! ### Quoted scalars -/

/-- The escapes of one character. -/
def escapes : List (Char × Char) := [
  ('0', '\x00'), ('a', '\x07'), ('b', '\x08'), ('t', '\t'), ('\t', '\t'), ('n', '\n'),
  ('v', '\x0b'), ('f', '\x0c'), ('r', '\r'), ('e', '\x1b'), (' ', ' '), ('"', '"'),
  ('\\', '\\'), ('/', '/'), ('N', '\u0085'), ('_', '\u00a0'), ('L', '\u2028'), ('P', '\u2029')]

/-- How many hexadecimal digits follow the letter of a numeric escape. -/
def escapeWidth? (c : CodePoint) : Option Nat :=
  if c = .char 'x' then some 2 else if c = .char 'u' then some 4
  else if c = .char 'U' then some 8 else none

/-- The code point of a numeric escape. -/
def numericEscape (n : Nat) : Except Fault CodePoint :=
  match CodePoint.ofNat? n with
  | some x => .ok x
  | none => .error (.value (.escape n))

/-- Line breaks inside quotes, with the gaps at the start of each line. -/
def quotedBreaks : Nat → Cursor → Except Fault (Text × Cursor)
  | 0, c => .ok ([], c)
  | fuel + 1, c =>
    if c.atSeparator then fail
    else
      let c := c.skip isGap
      if (c.peek.map isBreak).getD false then do
        let (b, c) := c.takeBreak
        let (bs, c) ← quotedBreaks fuel c
        .ok (b ++ bs, c)
      else .ok ([], c)

/-- A gap inside quotes: blanks as they are, or folded line breaks. -/
def quotedGap (c : Cursor) : Except Fault (Text × Cursor) :=
  let (blanks, c) := c.span isGap
  match c.peek with
  | none => fail
  | some x =>
    if isBreak x then do
      let (b, c) := c.takeBreak
      let (bs, c) ← quotedBreaks c.fuel c
      if b ≠ [.char '\n'] then .ok (b ++ bs, c)
      else if bs.isEmpty then .ok ([.char ' '], c)
      else .ok (bs, c)
    else .ok (blanks, c)

/-- An escape inside double quotes, at its backslash. -/
def doubleEscape (c : Cursor) : Except Fault (Text × Cursor) := do
  let c := c.next
  match c.peek with
  | none => fail
  | some x =>
    match escapes.find? fun e => .char e.1 = x with
    | some e => .ok ([.char e.2], c.next)
    | none =>
      match escapeWidth? x with
      | some width =>
        let digits := c.next.rest.take width
        match Numeral.toNat? 16 digits with
        | some n =>
          if digits.length = width then
            let p ← numericEscape n
            .ok ([p], Cursor.advance (width + 1) c)
          else fail
        | none => fail
      | none =>
        if isBreak x then
          let (_, c) := c.takeBreak
          quotedBreaks c.fuel c
        else fail

/-- Whether a code point is ordinary inside both kinds of quotes. -/
def isQuotable (c : CodePoint) : Bool :=
  !(c = .char '\'' || c = .char '"' || c = .char '\\' || isGap c || isBreak c)

/-- A quoted scalar after its opening quote, up to and past the closing one. -/
def quotedText (double : Bool) : Nat → Cursor → Except Fault (Text × Cursor)
  | 0, _ => fail
  | fuel + 1, c =>
    let followedBy (r : Except Fault (Text × Cursor)) : Except Fault (Text × Cursor) := do
      let (t, c) ← r
      let (rest, c) ← quotedText double fuel c
      .ok (t ++ rest, c)
    match c.peek with
    | none => fail
    | some x =>
      if isQuotable x then followedBy (.ok (c.span isQuotable))
      else if isGap x || isBreak x then followedBy (quotedGap c)
      else if double && x = .char '"' then .ok ([], c.next)
      else if double && x = .char '\\' then followedBy (doubleEscape c)
      else if !double && x = .char '\'' then
        if c.peekAt 1 = some (.char '\'') then followedBy (.ok ([.char '\''], c.next.next))
        else .ok ([], c.next)
      else followedBy (.ok ([x], c.next))

def quotedScalar (double : Bool) (c : Cursor) : Except Fault (Token × Cursor) := do
  let (t, c) ← quotedText double c.fuel c.next
  .ok (.scalar t false, c)

/-! ### Plain scalars -/

/-- An indicator of flow collections. -/
def isFlowIndicator (c : CodePoint) : Bool := (Text.ofString ",[]\x7b\x7d").contains c

/-- Whether a plain scalar stops before a code point, given what follows it. -/
def stopsPlain (flow : Bool) (c : CodePoint) (after : Option CodePoint) : Bool :=
  isGap c || isBreak c ||
    (c = .char ':' && (isEdge after || (flow && (after.map isFlowIndicator).getD false))) ||
    (flow && (isFlowIndicator c || c = .char '?'))

/-- The length of the part of a plain scalar up to a gap or an indicator. -/
def plainLength (flow : Bool) : Text → Nat
  | [] => 0
  | c :: t => if stopsPlain flow c t.head? then 0 else 1 + plainLength flow t

/-- Further breaks inside a plain scalar; nothing if a document marker stands at a line's start. -/
def plainBreaks : Nat → Cursor → Option Text × Cursor
  | 0, c => (some [], c)
  | fuel + 1, c =>
    if c.at? ' ' then plainBreaks fuel c.next
    else if (c.peek.map isBreak).getD false then
      let (b, c) := c.takeBreak
      if c.atSeparator then (none, c)
      else
        let (bs, c) := plainBreaks fuel c
        (bs.map (b ++ ·), c)
    else (some [], c)

/-- The gap after a part of a plain scalar, and whether it holds a line break. Nothing if the scalar
ends at a document marker. -/
def plainGap (c : Cursor) : Option Text × Bool × Cursor :=
  let (blanks, c) := c.span (· = .char ' ')
  if (c.peek.map isBreak).getD false then
    let (b, c) := c.takeBreak
    if c.atSeparator then (none, true, c)
    else
      let (bs, c) := plainBreaks c.fuel c
      let folded := bs.map fun bs =>
        if b ≠ [.char '\n'] then b ++ bs else if bs.isEmpty then [.char ' '] else bs
      (folded, true, c)
  else (some blanks, false, c)

/-- The parts of a plain scalar after the gap before it. The flag says whether the last thing read
is a line break. -/
def plainParts (flow : Bool) (indent : Int) : Nat → Text → Bool → Cursor → Text × Bool × Cursor
  | 0, _, broken, c => ([], broken, c)
  | fuel + 1, gap, broken, c =>
    let length := if c.at? '#' then 0 else plainLength flow c.rest
    if length = 0 then ([], broken, c)
    else
      let part := c.rest.take length
      let (after, broken, c) := plainGap (Cursor.advance length c)
      let text := gap ++ part
      match after with
      | none => (text, broken, c)
      | some after =>
        if after.isEmpty || c.at? '#' || (!flow && (c.column : Int) < indent) then
          (text, broken, c)
        else
          let (rest, broken, c) := plainParts flow indent fuel after broken c
          (text ++ rest, broken, c)

/-- A plain scalar inside a block of the given indentation, and whether a line break ended it. -/
def plainScalar (flow : Bool) (parent : Int) (c : Cursor) : Token × Bool × Cursor :=
  let (t, broken, c) := plainParts flow (parent + 1) c.fuel [] false c
  (.scalar t true, broken, c)

end PromptTemplate.Yaml.Lexeme
