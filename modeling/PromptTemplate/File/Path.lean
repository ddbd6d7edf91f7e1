import PromptTemplate.Text.Utf8

/-!
# Paths

A path is a list of names, from the working directory or from a root. Empty names and single dots
are left out. Two dots are a name like any other, which `normal` takes to mean the directory above.
Exactly two slashes at the start are a root of their own; any other number is the usual root.

A file system knows a name by its bytes. In a text, a byte that is no part of UTF-8 is a lone
surrogate, so two texts can be one name, and a text with other lone surrogates is none. Names and
whole paths are limited in length.
-/

namespace PromptTemplate

structure Path where
  /-- The slashes at the start: none, one or two. -/
  root : Text
  names : List Text
deriving DecidableEq

/-- Why a text is no path, whatever files there are. -/
inductive PathFault where
  | loneSurrogate (f : Utf8.EncodeFault)
  /-- A zero byte, with which a path would end. -/
  | null
  | tooLong
deriving DecidableEq

namespace Path

/-- The slashes that count of those at the start of a text. -/
def rootOf (t : Text) : Text :=
  let slashes := t.takeWhile (· = .char '/')
  if slashes.length = 2 then slashes else slashes.take 1

def ofText (t : Text) : Path where
  root := rootOf t
  names := (t.splitOn (.char '/')).filter fun n => n ≠ [] ∧ n ≠ [.char '.']

def toText (p : Path) : Text :=
  if p.root.isEmpty && p.names.isEmpty then "." else p.root ++ Text.joinWith "/" p.names

/-- The last name, empty for a starting point. -/
def name (p : Path) : Text := p.names.getLast?.getD []

def parent (p : Path) : Path := { p with names := p.names.dropLast }

/-- The path with another last name. -/
def withName (p : Path) (name : Text) : Path := { p with names := p.names.dropLast ++ [name] }

/-- The paths on the way to a path, itself left out, the starting point first. -/
def ancestors (p : Path) : List Path :=
  (List.range p.names.length).map fun n => { p with names := p.names.take n }

/-! ### Names as bytes -/

/-- The lone surrogate for a byte that is no part of UTF-8. -/
def strayPoint (b : UInt8) : CodePoint :=
  .surrogate ⟨0x400 + b.toNat, by have := b.toNat_lt; omega⟩

/-- The byte that a lone surrogate stands for, if it stands for one. -/
def strayByte? : CodePoint → Option UInt8
  | .char _ => none
  | .surrogate n => if 0x480 ≤ n.val ∧ n.val < 0x500 then some (UInt8.ofNat (n - 0x400)) else none

/-- The bytes of a text in a path. -/
def bytesOf (t : Text) : List UInt8 :=
  t.flatMap fun c => match strayByte? c with
    | some b => [b]
    | none => Utf8.encodePoint c

/-- The text of a name in bytes after the first `skip`. -/
def nameFrom : Nat → List UInt8 → Text
  | _, [] => []
  | skip + 1, _ :: bs => nameFrom skip bs
  | 0, b :: bs =>
    match Utf8.decodePoint false b bs with
    | .ok (c, n) => c :: nameFrom n bs
    | .error _ => strayPoint b :: nameFrom 0 bs

/-- A name as the file system gives it back. -/
def asFound (name : Text) : Text := nameFrom 0 (bytesOf name)

/-- The longest name in bytes. -/
def maxNameBytes : Nat := 255

/-- The longest path in bytes. -/
def maxBytes : Nat := 4095

def isLongName (name : Text) : Bool := maxNameBytes < (bytesOf name).length

/-- The first lone surrogate of a text that stands for no byte, as a fault of the text. -/
def encodeFault? (t : Text) : Option Utf8.EncodeFault :=
  match t.dropWhile fun c => !c.isSurrogate || (strayByte? c).isSome with
  | [] => none
  | c :: rest =>
    some ⟨t.length - (rest.length + 1), c.toNat,
      1 + (rest.takeWhile CodePoint.isSurrogate).length⟩

/-- Why a text is no path. This is found before anything is looked up. -/
def textFault? (t : Text) : Option PathFault :=
  match encodeFault? t with
  | some f => some (.loneSurrogate f)
  | none =>
    if t.contains (.char '\x00') then some .null
    else if maxBytes < (bytesOf t).length then some .tooLong
    else none

def fault? (p : Path) : Option PathFault := textFault? p.toText

/-! ### Places -/

/-- The name of the directory above. -/
def above : Text := [.char '.', .char '.']

/-- One more step on a way, which is given reversed. At a root there is no directory above. -/
def step (root : Text) (way : List Text) (name : Text) : List Text :=
  match way with
  | last :: rest => if name = above ∧ last ≠ above then rest else name :: way
  | [] => if name = above ∧ root ≠ [] then [] else [name]

/-- The path without steps up, as far as they cancel steps down. -/
def straight (p : Path) : Path := { p with names := (p.names.foldl (step p.root) []).reverse }

/-- The place that a path leads to. Paths to one place have one normal form. -/
def normal (p : Path) : Path := straight { p with names := p.names.map asFound }

/-- Whether a path leads to its starting point or to a directory above it. -/
def isStart (p : Path) : Bool := p.normal.names.all (· = above)

/-- The path from a root, given the working directory. -/
def absolute (p home : Path) : Path :=
  straight (if p.root.isEmpty then { home with names := home.names ++ p.names } else p)

/-! ### Suffixes -/

/-- The part of a name from its last dot on, unless the dot is its first or its last character. -/
def suffixOf (name : Text) : Text :=
  let ending := (name.reverse.takeWhile (· ≠ .char '.')).reverse
  let stem := name.dropLast.take (name.length - ending.length - 1)
  if ending.isEmpty || stem.isEmpty || !name.contains (.char '.') then []
  else .char '.' :: ending

def suffix (p : Path) : Text := suffixOf p.name

end Path

end PromptTemplate
