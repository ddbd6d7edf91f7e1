import PromptTemplate.Yaml.Graph

/-!
# Merged entries

A mapping may ask for the entries of others under a merge key. They come before its own entries, and
of several mappings the last one named comes first, so that its own entries and the mappings named
earlier have the last word.
-/

namespace PromptTemplate.Yaml.Graph

/-- Whether an entry asks for the entries of other mappings. -/
def isMerge (g : Graph) (e : Nat × Nat) : Bool := g.tag e.1 = .merge

/-- How many entries of a graph are merges. -/
def mergeCount (g : Graph) : Nat :=
  g.nodes.foldl (fun n x => n + x.entries.countP g.isMerge) 0

/-- An equals sign as a key of a mapping is text. -/
def nameKeys (g : Graph) (i : Nat) : Graph :=
  (g.entries i).foldl
    (fun g e => if g.tag e.1 = .value then g.set e.1 ⟨.str, (g.node e.1).content⟩ else g) g

/-- The numbers of the mappings that a merge names. -/
def mergedNodes (g : Graph) (i : Nat) : Except Fault (List Nat) :=
  match (g.node i).content with
  | .mapping _ => .ok [i]
  | .sequence items =>
    if items.all fun j => (g.node j).isMapping then .ok items else .error .malformed
  | .scalar _ => .error .malformed

/-- Put the entries of all merged mappings into a mapping, `merged` being those found already. Every
merge is taken out before it is followed, so a mapping that merges itself comes to an end, and the
number of merges is fuel enough. -/
def resolve : Nat → Nat → List (Nat × Nat) → Graph → Except Fault Graph
  | 0, _, _, _ => .error .malformed
  | fuel + 1, i, merged, g =>
    let own := (g.entries i).takeWhile (!g.isMerge ·)
    match (g.entries i).dropWhile (!g.isMerge ·) with
    | [] => .ok (if merged.isEmpty then g else g.setEntries i (merged ++ own))
    | (_, source) :: rest => do
      let g := g.setEntries i (own ++ rest)
      let parts ← g.mergedNodes source
      let (g, found) ← parts.foldlM (fun (g, found) j => do
        let g ← resolve fuel j [] (g.nameKeys j)
        return (g, g.entries j ++ found)) (g, [])
      resolve fuel i (merged ++ found) g

/-- A graph in which a mapping has the entries of all that it merges. -/
def withMerged (g : Graph) (fuel i : Nat) : Except Fault Graph := resolve fuel i [] (g.nameKeys i)

end PromptTemplate.Yaml.Graph
