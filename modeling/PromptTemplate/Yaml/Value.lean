import PromptTemplate.Table
import PromptTemplate.Yaml.Survey
import PromptTemplate.Yaml.Reader

/-!
# The data of a document

Where a survey of the graph finds no fault, every node has a value. Of entries with one key the last
one counts. A node that occurs many times has its value computed once, and what stands for a node
inside itself is no value of use.
-/

namespace PromptTemplate.Yaml

/-- The entries of a mapping as far as they have text for a key. -/
structure Members where
  known : Table Data := []
  /-- Whether there are keys that are not text. -/
  mixed : Bool := false

namespace Members

def add (m : Members) (key value : Data) : Members :=
  match key with
  | .text k => { m with known := Table.set m.known k value }
  | _ => { m with mixed := true }

def ofEntries (es : List (Data × Data)) : Members := es.foldl (fun m e => m.add e.1 e.2) {}

def toData (m : Members) : Data := if m.mixed then .other true else .map m.known

/-- The keys alone. -/
def toSet (m : Members) : Data :=
  .list (if m.mixed then [.null] else m.known.map fun e => .text e.1)

end Members

namespace Survey

/-- What stands for a node that is a part of itself: a list that no schema admits. -/
def endless : Data := .list [.null]

/-- The values of the nodes that have been computed or begun. -/
abbrev Values := Array (Option Data)

/-- The value of a collection, given how to find the values of what it holds. -/
def contents (g : Graph) (i : Nat) (value : Nat → StateM Values Data) : StateM Values Data :=
  let entry (e : Nat × Nat) : StateM Values (Data × Data) := do
    return (← value e.1, ← value e.2)
  match g.tag i, (g.node i).content with
  | .map, .mapping es => do return (Members.ofEntries (← es.mapM entry)).toData
  | .set, .mapping es => do return (Members.ofEntries (← es.mapM entry)).toSet
  | .seq, .sequence items => do return .list (← items.mapM value)
  | _, .sequence items => do
    let pairs ← (items.flatMap g.entries).mapM entry
    return .list (pairs.map fun e => .list [e.1, e.2])
  | _, _ => return .null

/-- The value of a node. One that is met again before its value is complete is endless. -/
def dataOf (g : Graph) : Nat → Nat → StateM Values Data
  | 0, _ => return endless
  | fuel + 1, i => do
    match (← get).getD i none with
    | some d => return d
    | none =>
      modify fun values => values.setIfInBounds i (some endless)
      let d ← contents g i (dataOf g fuel)
      modify fun values => values.setIfInBounds i (some d)
      return d

/-- The value of the root. -/
def toData (s : Survey) : Data :=
  let scalars := s.reached.map fun r =>
    match r with
    | some (.scalar d) => some d
    | _ => none
  ((dataOf s.graph (s.graph.size + 1) 0).run scalars).1

end Survey

/-- The data of a text; an empty stream is null. -/
def read (t : Text) : Except Fault Data := do
  match ← Graph.ofText t with
  | none => .ok .null
  | some g => Survey.toData <$> Survey.ofRoot g

end PromptTemplate.Yaml
