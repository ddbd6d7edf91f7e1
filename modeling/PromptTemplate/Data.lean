import PromptTemplate.Number.Binary64
import PromptTemplate.Table

/-!
# Data

The values that JSON and YAML files hold before any schema is laid over them. YAML knows more than
this library reads: dates, and mappings with keys that are not text. Those become `other`, which no
schema admits; only whether it was a mapping is kept.
-/

namespace PromptTemplate

inductive Data where
  | null
  | bool (b : Bool)
  | int (n : Int)
  | real (x : Binary64)
  | text (t : Text)
  | bytes (bs : List UInt8)
  | list (items : List Data)
  /-- A mapping with text keys, each key once. -/
  | map (members : List (Text × Data))
  | other (isMapping : Bool)
deriving Inhabited

namespace Data

/-- Whether the value is a mapping. -/
def isMapping : Data → Bool
  | map _ => true
  | other b => b
  | _ => false

/-- The member of a mapping. -/
def get? (key : Text) : Data → Option Data
  | map members => Table.get? members key
  | _ => none

mutual
/-- The members of all mappings in the order of their keys. -/
def sortKeys : Data → Data
  | list items => list (sortKeysList items)
  | map members => map ((sortKeysMembers members).mergeSort fun a b => Text.le a.1 b.1)
  | d => d

def sortKeysList : List Data → List Data
  | [] => []
  | d :: ds => sortKeys d :: sortKeysList ds

def sortKeysMembers : List (Text × Data) → List (Text × Data)
  | [] => []
  | (k, d) :: ds => (k, sortKeys d) :: sortKeysMembers ds
end

/-- Text, or null where there is none. -/
def ofText? : Option Text → Data
  | some t => text t
  | none => null

def texts (ts : List Text) : Data := list (ts.map text)

/-- A mapping with members named by strings. -/
def object (members : List (String × Data)) : Data :=
  map (members.map fun m => (Text.ofString m.1, m.2))

end Data

end PromptTemplate
