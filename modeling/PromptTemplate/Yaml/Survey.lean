import PromptTemplate.Yaml.Merge

/-!
# The order of faults

The values of a graph are looked for level by level, beginning at the root: a scalar has its value as
soon as it is reached, a collection is looked into with the next level. A mapping resolves its merges
first. So of several faults in a document the one nearest to the root counts, and the first of those.
-/

namespace PromptTemplate.Yaml

/-- What is known of a node that has been reached. -/
inductive Reached where
  | scalar (value : Data)
  | collection

namespace Tag

/-- Whether the values of a type hold other values. -/
def isCollection : Tag → Bool
  | seq | map | set | omap | pairs => true
  | _ => false

/-- Whether a type has values that are written as text. -/
def isScalar : Tag → Bool
  | null | bool | int | float | str | binary | timestamp => true
  | _ => false

end Tag

namespace Graph

/-- The text of a node where a scalar is asked for: a mapping may name one with an equals sign. -/
def scalarText : Nat → Nat → Graph → Except Fault Text
  | 0, _, _ => .error (.value .tooDeep)
  | fuel + 1, i, g =>
    match (g.node i).content with
    | .scalar t => .ok t
    | .mapping es =>
      match es.find? fun e => g.tag e.1 = .value with
      | some (_, v) => scalarText fuel v g
      | none => .error .malformed
    | .sequence _ => .error .malformed

/-- The value of a node with the tag of a scalar. A point in time must be written as text itself. -/
def scalarValue (g : Graph) (i : Nat) : Except Fault Data := do
  let n := g.node i
  if n.tag.isScalar then
    let t ← scalarText (g.size + 1) i g
    if n.tag = .timestamp ∧ n.isMapping then .error (.value .notText) else Scalar.toData n.tag t
  else .error .malformed

end Graph

/-- The nodes reached so far. -/
structure Survey where
  graph : Graph
  /-- How many merges the graph had at first. -/
  merges : Nat
  reached : Array (Option Reached)
  /-- The collections that have been reached and not looked into, the latest first. -/
  waiting : List Nat := []

namespace Survey

/-- A graph of which nothing has been reached. -/
def ofGraph (g : Graph) : Survey :=
  { graph := g, merges := g.mergeCount, reached := Array.replicate g.size none }

/-- What is known of a node. -/
def get? (s : Survey) (i : Nat) : Option Reached := s.reached.getD i none

def mark (s : Survey) (i : Nat) (r : Reached) : Survey :=
  { s with reached := s.reached.setIfInBounds i (some r) }

/-- Reach a node. -/
def reach (s : Survey) (i : Nat) : Except Fault Survey :=
  match s.get? i with
  | some _ => .ok s
  | none =>
    if (s.graph.tag i).isCollection then
      .ok { s.mark i .collection with waiting := i :: s.waiting }
    else (s.graph.scalarValue i).map fun d => s.mark i (.scalar d)

/-- Reach the key and the value of an entry. A collection cannot be a key. -/
def reachEntry (s : Survey) (e : Nat × Nat) : Except Fault Survey := do
  let s ← s.reach e.1
  if (s.graph.tag e.1).isCollection then .error .malformed else s.reach e.2

/-- Reach the key and the value of a mapping with one entry. -/
def reachPair (s : Survey) (i : Nat) : Except Fault Survey :=
  match s.graph.entries i with
  | [(k, v)] => do (← s.reach k).reach v
  | _ => .error .malformed

/-- Look into a collection, which must be written as its tag says. -/
def lookInto (s : Survey) (i : Nat) : Except Fault Survey :=
  let n := s.graph.node i
  match n.tag, n.content with
  | .seq, .sequence items => items.foldlM reach s
  | .omap, .sequence items | .pairs, .sequence items => items.foldlM reachPair s
  | .map, .mapping _ | .set, .mapping _ => do
    let g ← s.graph.withMerged (s.merges + 1) i
    (g.entries i).foldlM reachEntry { s with graph := g }
  | _, _ => .error .malformed

/-- Look into the collections that wait, level by level. -/
def descend : Nat → Survey → Except Fault Survey
  | 0, s => .ok s
  | fuel + 1, s =>
    if s.waiting.isEmpty then .ok s
    else do descend fuel (← s.waiting.reverse.foldlM lookInto { s with waiting := [] })

/-- All nodes that the root leads to. -/
def ofRoot (g : Graph) : Except Fault Survey := do
  descend (g.size + 1) (← (ofGraph g).reach 0)

end Survey

end PromptTemplate.Yaml
