import Outline.Data
import Outline.Yaml.Merge
import Outline.Yaml.Number
import Outline.Yaml.Reading
import Outline.Text.Base64

/-!
# The value of a document

The nodes of a document stand for values.  Scalars are read by their tags, mappings take over what
they merge, and keys may not be collections.  Each node is looked at once, and those in a collection
only after all collections that were met before it: this settles which fault is met first, and what
a mapping holds when it is asked for the scalar that it stands for.

* `Survey.ofDocument`: what the nodes of a document stand for, or the first fault.
* `Survey.value`: the value of a node, put together from those of its parts.
* `Data.ofYaml`: the value of a document.
-/

namespace Outline.Yaml

/-! ## Scalars -/

/-- The value of a scalar of a type. -/
def scalarValue (tag : Tag) (t : Text) : Except Fault Data :=
  let lift {α : Type} (make : α → Data) : Except ScalarFault α → Except Fault Data
    | .ok a => .ok (make a)
    | .error f => .error (.scalar f)
  match tag with
  | .null => .ok .null
  | .str => .ok (.text t)
  | .bool =>
    let word := Text.lowerCase t
    lift Data.bool <|
      match Tag.truthWords.lookup (String.ofList word) with
      | some b => .ok b
      | none => .error (.notTruthValue word)
  | .int => lift Data.int (Number.readInt t)
  | .float => lift Data.double (Number.readDouble t)
  | .timestamp =>
    lift Data.moment <|
      match Moment.read (Text.dropLastFeed t) with
      | some m => m.check.map fun _ => m.instant
      | none => .error .notMoment
  | .binary =>
    if t.all fun c => c.toNat < 128 then
      match Text.ofBase64 t with
      | some bs => .ok (.bytes bs)
      | none => .error .malformed
    else .error .malformed
  | _ => .error .malformed

def Tag.isCollection : Tag → Bool
  | .seq | .map | .set | .omap | .pairs => true
  | _ => false

namespace Graph

/-- The value among entries that stands for a mapping where a scalar is wanted. -/
def standIn (g : Graph) : List Entry → Option NodeId
  | [] => none
  | (k, v) :: rest => if g.tag k = .value then some v else standIn g rest

/-- The text of a node that is read as a scalar; `fuel` bounds the mappings on the way to it.  More
mappings than there are nodes come round to one of them. -/
def scalarText (g : Graph) : Nat → NodeId → Except Fault Text
  | 0, _ => .error (.scalar .endlessMapping)
  | fuel + 1, n =>
    match g.content n with
    | .scalar t => .ok t
    | .mapping es =>
      match g.standIn es with
      | some v => scalarText g fuel v
      | none => .error .malformed
    | .sequence _ => .error .malformed

/-- The value of a node that is read as a scalar.  A date has to be written as one. -/
def scalar (g : Graph) (n : NodeId) : Except Fault Data := do
  let t ← g.scalarText (g.size + 1) n
  if g.tag n = .timestamp && g.isMapping n then .error (.scalar .mappedMoment)
  else scalarValue (g.tag n) t

end Graph

/-! ## Looking over the nodes -/

/-- What a node stands for: a value, or a collection of what other nodes stand for. -/
inductive Shape where
  | value (d : Data)
  | list (items : List NodeId)
  | set (items : List NodeId)
  | dict (entries : List Entry)
  | pairs (entries : List Entry)
deriving Repr

/-- What is known while the nodes of a document are looked over. -/
structure Survey where
  graph : Graph
  /-- What the nodes met so far stand for; a collection is empty until it is looked into. -/
  shapes : Array (Option Shape)
  /-- The collections met that are still to be looked into, the last one first. -/
  pending : List NodeId := []
deriving Repr

namespace Survey

def setShape (s : Survey) (n : NodeId) (shape : Shape) : Survey :=
  { s with shapes := s.shapes.setIfInBounds n (some shape) }

/-- The survey after a node is met, which nothing comes of the second time. -/
def meet (s : Survey) (n : NodeId) : Except Fault Survey :=
  match s.shapes[n]? with
  | some (some _) => .ok s
  | _ =>
    if (s.graph.tag n).isCollection then
      .ok { s.setShape n (.list []) with pending := n :: s.pending }
    else (s.graph.scalar n).map fun d => s.setShape n (.value d)

def meetEntry (s : Survey) (e : Entry) : Except Fault Survey := do
  let s ← s.meet e.1
  if (s.graph.tag e.1).isCollection then .error .malformed else s.meet e.2

def pairOf (g : Graph) (n : NodeId) : Except Fault Entry :=
  match g.content n with
  | .mapping [e] => .ok e
  | _ => .error .malformed

def lookAtPairs : List NodeId → List Entry → Survey → Except Fault (List Entry × Survey)
  | [], es, s => .ok (es.reverse, s)
  | n :: rest, es, s => do
    let e ← pairOf s.graph n
    let s ← s.meet e.1
    let s ← s.meet e.2
    lookAtPairs rest (e :: es) s

/-- The survey after a mapping is looked into, and its entries with those merged into it. -/
def lookAtMapping (s : Survey) (n : NodeId) : Except Fault (List Entry × Survey) :=
  if s.graph.isMapping n then do
    let g ← s.graph.merge n
    let es := g.entries n
    let s ← es.foldlM meetEntry { s with graph := g }
    pure (es, s)
  else .error .malformed

def look (s : Survey) (n : NodeId) : Except Fault Survey :=
  match s.graph.tag n, s.graph.content n with
  | .seq, .sequence items => (items.foldlM meet s).map fun s => s.setShape n (.list items)
  | .omap, .sequence items
  | .pairs, .sequence items => (lookAtPairs items [] s).map fun p => p.2.setShape n (.pairs p.1)
  | .map, _ => (s.lookAtMapping n).map fun p => p.2.setShape n (.dict p.1)
  | .set, _ => (s.lookAtMapping n).map fun p => p.2.setShape n (.set (p.1.map Prod.fst))
  | _, _ => .error .malformed

/-- The survey after all collections met so far are looked into, and then those that are met in
them, for at most `fuel` rounds. -/
def lookAll : Nat → Survey → Except Fault Survey
  | 0, s => .ok s
  | fuel + 1, s => do
    if s.pending = [] then .ok s
    else
      let s ← s.pending.reverse.foldlM look { s with pending := [] }
      lookAll fuel s

/-- What the nodes of a document stand for, or the first fault.  Each round meets a node that was
not met before. -/
def ofDocument (d : Document) : Except Fault Survey := do
  let s : Survey := { graph := d.graph, shapes := Array.replicate d.graph.size none }
  lookAll (d.graph.size + 1) (← s.meet d.root)

/-! ## Values -/

abbrev Values := Array (Option Data)

abbrev Assemble := StateM Values

/-- A value is put together once.  While that is done, a collection that contains itself is known to
be a collection that is not empty, and `enclosing` stands for it. -/
def once (n : NodeId) (enclosing : Data) (make : Assemble Data) : Assemble Data := do
  modify fun vs => vs.setIfInBounds n (some enclosing)
  let d ← make
  modify fun vs => vs.setIfInBounds n (some d)
  pure d

/-- The value of a node, whose parts are nested in at most `fuel` levels. -/
def assemble (s : Survey) : Nat → NodeId → Assemble Data
  | 0, _ => pure .null
  | fuel + 1, n => do
    match (← get)[n]? with
    | some (some d) => pure d
    | _ =>
      let items (ns : List NodeId) : Assemble (List Data) := ns.mapM (assemble s fuel)
      let entry (e : Entry) : Assemble (Data × Data) := do
        let k ← assemble s fuel e.1
        let v ← assemble s fuel e.2
        pure (k, v)
      match s.shapes[n]? with
      | some (some (.value d)) => pure d
      | some (some (.list ns)) => once n (.list [.null]) (Data.list <$> items ns)
      | some (some (.set ns)) => once n (.set [.null]) (Data.set <$> items ns)
      | some (some (.dict es)) => once n (.dict [(.null, .null)]) (Data.dict <$> es.mapM entry)
      | some (some (.pairs es)) =>
        once n (.list [.null])
          ((fun ps => Data.list (ps.map fun p => .list [p.1, p.2])) <$> es.mapM entry)
      | _ => pure .null

def value (s : Survey) (n : NodeId) : Data :=
  (s.assemble (s.graph.size + 1) n |>.run (Array.replicate s.graph.size none)).1

end Survey

end Outline.Yaml

namespace Outline

def Data.ofYaml (t : Text) : Except Yaml.Fault Data := do
  match ← Yaml.Document.ofText t with
  | none => pure .null
  | some d =>
    let s ← Yaml.Survey.ofDocument d
    pure (s.value d.root)

end Outline
