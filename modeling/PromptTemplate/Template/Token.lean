import PromptTemplate.Text.Cut

/-!
# Tokens

A token stands between two opening and two closing braces. It names a field, a section or the notes
of a section by a key, or it asks for all fields or all notes at once. A bare key counts as a field
token only where bare tokens are allowed. `Token.at?` reads the token at the head of a text.
-/

namespace PromptTemplate

def openBraces : Text := [.char '{', .char '{']

def closeBraces : Text := [.char '}', .char '}']

/-- What a token asks for. -/
inductive TokenKind where
  | field
  | sectionFields
  | sectionNotes
  | allFields
  | allNotes
deriving DecidableEq, Inhabited

namespace TokenKind

def all : List TokenKind := [field, sectionFields, sectionNotes, allFields, allNotes]

/-- The name of a kind in reports. -/
def name : TokenKind → Text
  | field => "field"
  | sectionFields => "section"
  | sectionNotes => "notes"
  | allFields => "legacy-fields-json"
  | allNotes => "legacy-notes-json"

/-- The kind with a name. -/
def named? (t : Text) : Option TokenKind := all.find? fun k => k.name = t

/-- The kind that a word before a colon selects, in any ASCII case. -/
def ofKeyword? (w : Text) : Option TokenKind :=
  [field, sectionFields, sectionNotes].find? fun k => k.name = w.toLowerAscii

/-- The kind that a whole-snapshot word selects, in any ASCII case. -/
def ofWord? (w : Text) : Option TokenKind :=
  if w.toLowerAscii = "fields_json" then some allFields
  else if w.toLowerAscii = "notes_json" then some allNotes
  else none

end TokenKind

/-- An explicit token from the name of its kind and a key. -/
def explicitToken (name key : Text) : Text := openBraces ++ name ++ [.char ':'] ++ key ++ closeBraces

/-- The canonical token of a kind. The whole-snapshot kinds have no key. -/
def TokenKind.token (kind : TokenKind) (key : Text) : Text :=
  match kind with
  | .allFields => openBraces ++ "fields_json" ++ closeBraces
  | .allNotes => openBraces ++ "notes_json" ++ closeBraces
  | kind => explicitToken kind.name key

/-- The canonical token for the name of a kind; an unknown name is written as it is. -/
def tokenNamed (name key : Text) : Text :=
  match TokenKind.named? name with
  | some kind => kind.token key
  | none => explicitToken name key

/-- The code points of a key: ASCII letters and digits, the underscore and the hyphen. -/
def CodePoint.isKeyChar (c : CodePoint) : Bool :=
  c.isLetter || c.isDigit || c = .char '_' || c = .char '-'

/-- A token as it stands in a template. -/
structure Token where
  kind : TokenKind
  key : Text
  raw : Text
deriving DecidableEq

/-- A key: non-empty, and every code point is a key character. -/
def IsKey (t : Text) : Prop := t ≠ [] ∧ ∀ c ∈ t, c.isKeyChar = true

instance (t : Text) : Decidable (IsKey t) := by unfold IsKey; infer_instance

namespace Token

/-- The token between the braces for a word that has no colon after it. The whole-snapshot words
come before the bare form, and their key is the name of their kind. -/
def ofWord? (bare : Bool) (w : Text) : Option Token :=
  match TokenKind.ofWord? w with
  | some kind => some ⟨kind, kind.name, openBraces ++ w ++ closeBraces⟩
  | none =>
    if bare && !w.isEmpty then some ⟨.field, w, openBraces ++ w ++ closeBraces⟩ else none

/-- The token at the head of a text. -/
def at? (bare : Bool) : Text → Option Token
  | .char '{' :: .char '{' :: t =>
    let word := t.takeWhile CodePoint.isKeyChar
    match t.dropWhile CodePoint.isKeyChar with
    | .char '}' :: .char '}' :: _ => ofWord? bare word
    | .char ':' :: u =>
      let key := u.takeWhile CodePoint.isKeyChar
      match TokenKind.ofKeyword? word, u.dropWhile CodePoint.isKeyChar with
      | some kind, .char '}' :: .char '}' :: _ =>
        if key.isEmpty then none
        else some ⟨kind, key, openBraces ++ word ++ [.char ':'] ++ key ++ closeBraces⟩
      | _, _ => none
    | _ => none
  | _ => none

/-- The canonical form of a token. -/
def canonical (t : Token) : Text := t.kind.token t.key

end Token

/-- A token at its place in a template, `stop` not included. -/
structure Occurrence where
  token : Token
  start : Nat
  stop : Nat
deriving DecidableEq

namespace Template

/-- The template cut at its tokens. -/
def cut (bare : Bool) (t : Text) : Cut Token := t.cut (Token.at? bare) Token.raw

/-- The places of the matches of a cut whose literal text so far ends at `start`. -/
def occurrencesFrom (start : Nat) : List (Token × Text) → List Occurrence
  | [] => []
  | (tok, lit) :: rest =>
    let stop := start + tok.raw.length
    ⟨tok, start, stop⟩ :: occurrencesFrom (stop + lit.length) rest

/-- The tokens of a template with their places. -/
def occurrences (bare : Bool) (t : Text) : List Occurrence :=
  let c := cut bare t
  occurrencesFrom c.lead.length c.rest

/-- Whether a token begins anywhere in the template. -/
def hasTokens (bare : Bool) : Text → Bool
  | [] => false
  | c :: t => (Token.at? bare (c :: t)).isSome || hasTokens bare t

/-- Note a key under its kind, unless it is there already. -/
def addKey (groups : List (TokenKind × List Text)) (tok : Token) : List (TokenKind × List Text) :=
  groups.map fun g =>
    if g.1 = tok.kind ∧ tok.key ∉ g.2 then (g.1, g.2 ++ [tok.key]) else g

/-- The keys of each kind in the order they are first seen. -/
def keysByKind (bare : Bool) (t : Text) : List (TokenKind × List Text) :=
  ((occurrences bare t).map Occurrence.token).foldl addKey (TokenKind.all.map fun k => (k, []))

end Template

end PromptTemplate
