import PromptTemplate.Yaml.Scalar

/-!
# Graphs of nodes

A document is a graph. Its nodes have numbers, and a collection gives the numbers of the nodes inside
it. An alias is one more use of a number, so a node may occur many times, and inside itself too. The
root has the number zero.
-/

namespace PromptTemplate.Yaml

inductive Content where
  | scalar (text : Text)
  | sequence (items : List Nat)
  | mapping (entries : List (Nat × Nat))
deriving DecidableEq, Inhabited

structure Node where
  tag : Tag
  content : Content
deriving DecidableEq, Inhabited

namespace Node

/-- What stands where nothing is written. -/
def empty : Node := ⟨Tag.ofPlain [], .scalar []⟩

def isMapping (n : Node) : Bool :=
  match n.content with
  | .mapping _ => true
  | _ => false

def entries (n : Node) : List (Nat × Nat) :=
  match n.content with
  | .mapping es => es
  | _ => []

end Node

structure Graph where
  nodes : Array Node := #[]

namespace Graph

def size (g : Graph) : Nat := g.nodes.size

/-- The node with a number; an empty one where the number is not given out. -/
def node (g : Graph) (i : Nat) : Node := g.nodes.getD i .empty

/-- The tag of the node with a number. -/
def tag (g : Graph) (i : Nat) : Tag := (g.node i).tag

/-- The entries of a mapping. -/
def entries (g : Graph) (i : Nat) : List (Nat × Nat) := (g.node i).entries

def push (g : Graph) (n : Node) : Graph := ⟨g.nodes.push n⟩

def set (g : Graph) (i : Nat) (n : Node) : Graph := ⟨g.nodes.setIfInBounds i n⟩

def setEntries (g : Graph) (i : Nat) (es : List (Nat × Nat)) : Graph :=
  g.set i ⟨g.tag i, .mapping es⟩

end Graph

end PromptTemplate.Yaml
