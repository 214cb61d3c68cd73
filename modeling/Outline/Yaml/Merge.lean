import Outline.Yaml.Fault
import Outline.Yaml.Node

/-!
# Merging mappings

A mapping may take over the entries of others: those that stand under a **merge key**, one mapping
or a sequence of them.  The entries are put in front of those that the mapping has itself, and those
of the first of several mappings last, so that of equal keys the last one is in force.  What a
mapping takes over is settled once for all its places in the document.

* `Graph.merge`: the graph after a mapping has taken over what it merges.
-/

namespace Outline.Yaml.Graph

/-- The value under the first merge key among entries, and the other entries. -/
def takeMerge (g : Graph) : List Entry → Option (NodeId × List Entry)
  | [] => none
  | (k, v) :: rest =>
    if g.tag k = .merge then some (v, rest)
    else (takeMerge g rest).map fun p => (p.1, (k, v) :: p.2)

def mergeCount (g : Graph) : Nat :=
  g.nodes.foldl
    (fun n node =>
      match node.content with
      | .mapping es => n + (es.filter fun e => g.tag e.1 = .merge).length
      | _ => n) 0

/-- The graph where the keys among entries that only mean a value elsewhere are texts. -/
def plainKeys (g : Graph) (es : List Entry) : Graph :=
  es.foldl (fun g e => if g.tag e.1 = .value then g.setTag e.1 .str else g) g

/-- The graph after a mapping has put what it has taken over in front of its own entries. -/
def putInFront (g : Graph) (merged : List Entry) (n : NodeId) : Graph :=
  let own := g.entries n
  let g := g.plainKeys own
  if merged = [] then g else g.setContent n (.mapping (merged ++ own))

/-- The graph after a mapping has taken over what it merges, besides what it has taken over
already.  Each merge key is removed when it is met, so that `fuel` need not exceed their number. -/
def mergeWithin : Nat → List Entry → NodeId → Graph → Except Fault Graph
  | 0, _, _, _ => .error .malformed
  | fuel + 1, merged, n, g =>
    match g.takeMerge (g.entries n) with
    | none => .ok (g.putInFront merged n)
    | some (v, others) => do
      let g := g.setContent n (.mapping others)
      let (more, g) ←
        match g.content v with
        | .mapping _ => do
          let g ← mergeWithin fuel [] v g
          pure (g.entries v, g)
        | .sequence items =>
          let step := fun (acc : List Entry × Graph) (i : NodeId) => do
            if acc.2.isMapping i then
              let g ← mergeWithin fuel [] i acc.2
              pure (g.entries i ++ acc.1, g)
            else .error .malformed
          items.foldlM step ([], g)
        | .scalar _ => .error .malformed
      mergeWithin fuel (merged ++ more) n g

def merge (g : Graph) (n : NodeId) : Except Fault Graph := mergeWithin (g.mergeCount + 1) [] n g

end Outline.Yaml.Graph
