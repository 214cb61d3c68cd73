import Outline.Proofs.Dom.Element
import Outline.Proofs.Dom.Generation
import Outline.Proofs.Dom.Handles
import Outline.Proofs.Dom.Run
import Outline.Proofs.Tree.Alignment

/-!
# The protocol of building

Whoever makes the steps of a forest gets them in an order that can be relied on.  Elements are made
depth first, no step is about an element that is not made yet, and an element is finished when it is
attached.

* `Scoped`: steps that are about elements made before.
* `stepsOn`: the steps that are made on one element.
* `Building.Follows`: the protocol that steps follow.
* `Building.run_protocol`: the run of a forest follows the protocol.
-/

namespace Outline.Dom

namespace Step

/-- The elements that a step is about, apart from one that it makes. -/
def mentions : Step → List Nat
  | create _ => []
  | applyClass n _ | setId n _ | setAttribute n _ _ | appendText n _ | bind n _ => [n]
  | addChild p c => [p, c]

def tag? : Step → Option Text
  | create tag => some tag
  | _ => none

/-- The element that a step is made on; the next one made has the number `k`. -/
def target (k : Nat) : Step → Nat
  | create _ => k
  | applyClass n _ | setId n _ | setAttribute n _ _ | appendText n _ | bind n _ => n
  | addChild p _ => p

def advance (k : Nat) (step : Step) : Nat := k + if step.creates then 1 else 0

theorem le_advance (k : Nat) (step : Step) : k ≤ step.advance k := Nat.le_add_right k _

theorem target_eq_or_mem (k : Nat) (step : Step) :
    (step.creates = true ∧ step.target k = k) ∨ step.target k ∈ step.mentions := by
  cases step with
  | create tag => exact .inl ⟨rfl, rfl⟩
  | addChild p c => exact .inr List.mem_cons_self
  | applyClass n | setId n | setAttribute n | appendText n | bind n =>
    exact .inr (List.mem_singleton.mpr rfl)

end Step

/-! ### Steps in scope -/

/-- Each step is about elements that are made before it, `k` of them before all. -/
def Scoped : Nat → List Step → Prop
  | _, [] => True
  | k, step :: steps => (∀ r ∈ step.mentions, r < k) ∧ Scoped (step.advance k) steps

theorem advance_countP (k : Nat) (step : Step) (steps : List Step) :
    step.advance k + steps.countP Step.creates = k + (step :: steps).countP Step.creates := by
  rw [List.countP_cons, Step.advance]
  omega

theorem scoped_append {k : Nat} {l l' : List Step} :
    Scoped k (l ++ l') ↔ Scoped k l ∧ Scoped (k + l.countP Step.creates) l' := by
  induction l generalizing k with
  | nil => exact ⟨fun h => ⟨trivial, h⟩, And.right⟩
  | cons step l ih => rw [List.cons_append, Scoped, ih, advance_countP, Scoped, and_assoc]

theorem scoped_of_forall {k : Nat} {l : List Step}
    (h : ∀ step ∈ l, ∀ r ∈ step.mentions, r < k) : Scoped k l := by
  induction l generalizing k with
  | nil => trivial
  | cons step l ih =>
    obtain ⟨hstep, hl⟩ := List.forall_mem_cons.mp h
    exact ⟨hstep, ih fun s hs r hr => Nat.lt_of_lt_of_le (hl s hs r hr) (step.le_advance k)⟩

theorem lt_of_mem_scoped {k : Nat} {l : List Step} (h : Scoped k l) {step : Step}
    (hstep : step ∈ l) {r : Nat} (hr : r ∈ step.mentions) : r < k + l.countP Step.creates := by
  induction l generalizing k with
  | nil => exact absurd hstep List.not_mem_nil
  | cons s l ih =>
    rcases List.mem_cons.mp hstep with rfl | hstep
    · exact Nat.lt_add_right _ (h.1 r hr)
    · rw [← advance_countP]
      exact ih h.2 hstep

/-! ### The steps on one element -/

/-- The steps that are made on the element `r`, when `k` elements are made before. -/
def stepsOn (r : Nat) : Nat → List Step → List Step
  | _, [] => []
  | k, step :: steps =>
    if step.target k = r then step :: stepsOn r (step.advance k) steps
    else stepsOn r (step.advance k) steps

variable {r k : Nat} {l l' : List Step}

theorem stepsOn_append (r k : Nat) (l l' : List Step) :
    stepsOn r k (l ++ l') = stepsOn r k l ++ stepsOn r (k + l.countP Step.creates) l' := by
  induction l generalizing k with
  | nil => rfl
  | cons step l ih =>
    rw [List.cons_append, stepsOn, stepsOn, ih, advance_countP]
    split <;> rfl

theorem stepsOn_eq_nil_of_scoped (h : Scoped k l) (hr : k + l.countP Step.creates ≤ r) :
    stepsOn r k l = [] := by
  induction l generalizing k with
  | nil => rfl
  | cons step l ih =>
    rw [← advance_countP] at hr
    have hne : step.target k ≠ r := by
      rcases step.target_eq_or_mem k with ⟨hcreates, htarget⟩ | hmem
      · rw [Step.advance, if_pos hcreates] at hr
        omega
      · have := h.1 _ hmem
        rw [Step.advance] at hr
        omega
    rw [stepsOn, if_neg hne, ih h.2 hr]

theorem stepsOn_eq_nil_of_not_mem (h : ∀ step ∈ l, r ∉ step.mentions) (hr : r < k) :
    stepsOn r k l = [] := by
  induction l generalizing k with
  | nil => rfl
  | cons step l ih =>
    obtain ⟨hstep, hl⟩ := List.forall_mem_cons.mp h
    have hne : step.target k ≠ r := by
      rcases step.target_eq_or_mem k with ⟨-, htarget⟩ | hmem
      · omega
      · exact fun heq => hstep (heq ▸ hmem)
    rw [stepsOn, if_neg hne, ih hl (Nat.lt_of_lt_of_le hr (step.le_advance k))]

theorem stepsOn_eq_self (h : ∀ step ∈ l, ∀ k, step.target k = r) : stepsOn r k l = l := by
  induction l generalizing k with
  | nil => rfl
  | cons step l ih =>
    obtain ⟨hstep, hl⟩ := List.forall_mem_cons.mp h
    rw [stepsOn, if_pos (hstep k), ih hl]

namespace Building

variable {ε : Type} {m : Means ε} {n : Nat} {above : Option Nat}

/-! ### The steps of a node -/

/-- **A node starts with the making of its element**, and its other steps are on that element. -/
theorem ownSteps_cons (m : Means ε) (n : Nat) (d : Node) :
    ∃ rest, ownSteps m n d = .create d.tag :: rest ∧
      ∀ step ∈ rest, step.mentions = [n] ∧ step.tag? = none ∧ ∀ k, step.target k = n := by
  refine ⟨d.classes.map (.applyClass n) ++ idSteps n d.id
    ++ d.attributes.map (fun a => .setAttribute n a.name a.value)
    ++ contentSteps m n d ++ (d.events.filterMap m.lookup).map (.bind n), rfl, ?_⟩
  intro step hstep
  simp only [idSteps, contentSteps_eq, List.mem_append, List.mem_map] at hstep
  rcases hstep with (((⟨_, -, rfl⟩ | ⟨_, -, rfl⟩) | ⟨_, -, rfl⟩) | ⟨_, -, rfl⟩) | ⟨_, -, rfl⟩ <;>
    exact ⟨rfl, rfl, fun _ => rfl⟩

theorem mentions_ownSteps {d : Node} {step : Step} {r : Nat} (hstep : step ∈ ownSteps m n d)
    (hr : r ∈ step.mentions) : r = n := by
  obtain ⟨rest, hown, hrest⟩ := ownSteps_cons m n d
  rw [hown] at hstep
  rcases List.mem_cons.mp hstep with rfl | hstep
  · exact absurd hr List.not_mem_nil
  · rw [(hrest step hstep).1] at hr
    exact List.mem_singleton.mp hr

theorem scoped_ownSteps (m : Means ε) (n : Nat) (d : Node) : Scoped n (ownSteps m n d) := by
  obtain ⟨rest, hown, hrest⟩ := ownSteps_cons m n d
  rw [hown]
  refine ⟨nofun, scoped_of_forall fun step hstep r hr => ?_⟩
  rw [(hrest step hstep).1, List.mem_singleton] at hr
  subst hr
  exact Nat.lt_succ_self r

theorem tags_ownSteps (m : Means ε) (n : Nat) (d : Node) :
    (ownSteps m n d).filterMap Step.tag? = [d.tag] := by
  obtain ⟨rest, hown, hrest⟩ := ownSteps_cons m n d
  have hnone : rest.filterMap Step.tag? = [] :=
    List.filterMap_eq_nil_iff.mpr fun step hstep => (hrest step hstep).2.1
  rw [hown]
  exact congrArg (d.tag :: ·) hnone

theorem stepsOn_ownSteps (m : Means ε) (n : Nat) (d : Node) :
    stepsOn n n (ownSteps m n d) = ownSteps m n d := by
  obtain ⟨rest, hown, hrest⟩ := ownSteps_cons m n d
  have htarget : (Step.create d.tag).target n = n := rfl
  rw [hown, stepsOn, if_pos htarget, stepsOn_eq_self fun step hstep => (hrest step hstep).2.2]

/-! ### The steps of several trees -/

def attachSteps : Option Nat → Nat → List Step
  | none, _ => []
  | some p, n => [.addChild p n]

def forestSteps (m : Means ε) (above : Option Nat) : Nat → List (Tree Item) → List Step
  | _, [] => []
  | n, t :: ts => treeSteps m n t ++ (attachSteps above n ++ forestSteps m above (n + count t) ts)

theorem childSteps_eq (m : Means ε) (p n : Nat) (ts : List (Tree Item)) :
    childSteps m p n ts = forestSteps m (some p) n ts := by
  induction ts generalizing n with
  | nil => rfl
  | cons t ts ih => rw [childSteps, ih]; rfl

theorem stepsFrom_eq (m : Means ε) (n : Nat) (ts : Forest) :
    (stepsFrom m n ts).1 = forestSteps m none n ts := by
  induction ts generalizing n with
  | nil => rfl
  | cons t ts ih => rw [stepsFrom_cons, ih]; rfl

theorem treeSteps_eq (m : Means ε) (n : Nat) (i : Item) (ts : List (Tree Item)) :
    treeSteps m n (.node i ts) = ownSteps m n i.node ++ forestSteps m (some n) (n + 1) ts := by
  rw [treeSteps, childSteps_eq]

theorem countP_attachSteps (above : Option Nat) (n : Nat) :
    (attachSteps above n).countP Step.creates = 0 := by
  cases above <;> rfl

theorem mentions_attachSteps {step : Step} {r : Nat} (hstep : step ∈ attachSteps above n)
    (hr : r ∈ step.mentions) : above = some r ∨ r = n := by
  cases above with
  | none => exact absurd hstep List.not_mem_nil
  | some p =>
    obtain rfl := List.mem_singleton.mp hstep
    rcases List.mem_pair.mp hr with rfl | rfl
    · exact .inl rfl
    · exact .inr rfl

mutual

/-- **A tree is about its own elements.** -/
theorem mentions_treeSteps {m : Means ε} {n : Nat} : ∀ {t : Tree Item} {step : Step} {r : Nat},
    step ∈ treeSteps m n t → r ∈ step.mentions → n ≤ r ∧ r < n + count t
  | .node i ts, step, r, hstep, hr => by
    rw [treeSteps_eq, List.mem_append] at hstep
    rw [count]
    rcases hstep with hstep | hstep
    · rw [mentions_ownSteps hstep hr]
      omega
    · rcases mentions_forestSteps hstep hr with habove | hrange
      · obtain rfl := Option.some.inj habove
        omega
      · omega

theorem mentions_forestSteps {m : Means ε} {above : Option Nat} {n : Nat} :
    ∀ {ts : List (Tree Item)} {step : Step} {r : Nat}, step ∈ forestSteps m above n ts →
      r ∈ step.mentions → above = some r ∨ (n ≤ r ∧ r < n + countAll ts)
  | [], _, _, hstep, _ => absurd hstep List.not_mem_nil
  | t :: ts, step, r, hstep, hr => by
    have hpos := count_pos t
    rw [forestSteps, List.mem_append, List.mem_append] at hstep
    rw [countAll]
    rcases hstep with hstep | hstep | hstep
    · have := mentions_treeSteps hstep hr
      omega
    · rcases mentions_attachSteps hstep hr with habove | rfl
      · exact .inl habove
      · omega
    · rcases mentions_forestSteps hstep hr with habove | hrange
      · exact .inl habove
      · omega

end

mutual

/-- **A tree is in scope** when as many elements are made before it as its root's number says. -/
theorem scoped_treeSteps (m : Means ε) (n : Nat) : ∀ t : Tree Item, Scoped n (treeSteps m n t)
  | .node i ts => by
    rw [treeSteps_eq, scoped_append, countP_ownSteps]
    exact ⟨scoped_ownSteps m n i.node, scoped_forestSteps m (some n) (n + 1) (by simp) ts⟩

theorem scoped_forestSteps (m : Means ε) (above : Option Nat) (n : Nat)
    (habove : ∀ p ∈ above, p < n) :
    ∀ ts : List (Tree Item), Scoped n (forestSteps m above n ts)
  | [] => trivial
  | t :: ts => by
    have hpos := count_pos t
    have hattach : Scoped (n + count t) (attachSteps above n) := by
      refine scoped_of_forall fun step hstep r hr => ?_
      rcases mentions_attachSteps hstep hr with hr | rfl
      · have := habove r hr
        omega
      · omega
    have hrest := scoped_forestSteps m above (n + count t)
      (fun p hp => Nat.lt_add_right _ (habove p hp)) ts
    rw [forestSteps, scoped_append, scoped_append, countP_treeSteps, countP_attachSteps]
    exact ⟨scoped_treeSteps m n t, hattach, hrest⟩

end

mutual

theorem lt_of_addChild_mem_treeSteps {m : Means ε} {n : Nat} : ∀ {t : Tree Item} {p c : Nat},
    .addChild p c ∈ treeSteps m n t → n < c
  | .node i ts, p, c, h => by
    rw [treeSteps_eq, List.mem_append] at h
    rcases h with h | h
    · obtain ⟨rest, hown, hrest⟩ := ownSteps_cons m n i.node
      rw [hown, List.mem_cons] at h
      rcases h with h | h
      · exact absurd h nofun
      · exact absurd (hrest _ h).1 (by simp [Step.mentions])
    · exact le_of_addChild_mem_forestSteps h

theorem le_of_addChild_mem_forestSteps {m : Means ε} {above : Option Nat} {n : Nat} :
    ∀ {ts : List (Tree Item)} {p c : Nat}, .addChild p c ∈ forestSteps m above n ts → n ≤ c
  | [], _, _, h => absurd h List.not_mem_nil
  | t :: ts, p, c, h => by
    rw [forestSteps, List.mem_append, List.mem_append] at h
    rcases h with h | h | h
    · exact Nat.le_of_lt (lt_of_addChild_mem_treeSteps h)
    · cases above with
      | none => exact absurd h List.not_mem_nil
      | some q =>
        obtain ⟨-, rfl⟩ := Step.addChild.inj (List.mem_singleton.mp h)
        exact Nat.le_refl c
    · exact Nat.le_trans (Nat.le_add_right n _) (le_of_addChild_mem_forestSteps h)

end

mutual

theorem tags_treeSteps (m : Means ε) (n : Nat) : ∀ t : Tree Item,
    (treeSteps m n t).filterMap Step.tag? = t.walk.map fun i => i.node.tag
  | .node i ts => by
    rw [treeSteps_eq, List.filterMap_append, tags_ownSteps, tags_forestSteps m (some n) (n + 1) ts]
    rfl

theorem tags_forestSteps (m : Means ε) (above : Option Nat) (n : Nat) :
    ∀ ts : List (Tree Item), (forestSteps m above n ts).filterMap Step.tag? =
      (Tree.walkAll ts).map fun i => i.node.tag
  | [] => rfl
  | t :: ts => by
    have hattach : (attachSteps above n).filterMap Step.tag? = [] := by
      cases above <;> rfl
    rw [forestSteps, List.filterMap_append, List.filterMap_append, hattach, tags_treeSteps m n t,
      tags_forestSteps m above (n + count t) ts, Tree.walkAll, List.map_append]
    rfl

end

/-- **An element gets its children in order**, and nothing else is done on it meanwhile. -/
theorem stepsOn_forestSteps (m : Means ε) {p n : Nat} (hp : p < n) (ts : List (Tree Item)) :
    stepsOn p n (forestSteps m (some p) n ts) =
      ((handlesAll n ts).map Tree.label).map (.addChild p) := by
  induction ts generalizing n with
  | nil => rfl
  | cons t ts ih =>
    have htree : stepsOn p n (treeSteps m n t) = [] := by
      refine stepsOn_eq_nil_of_not_mem (fun step hstep hmem => ?_) hp
      have := mentions_treeSteps hstep hmem
      omega
    have hattach : stepsOn p (n + count t) (attachSteps (some p) n) = [.addChild p n] :=
      stepsOn_eq_self fun step hstep k => by rw [List.mem_singleton.mp hstep]; rfl
    rw [forestSteps, stepsOn_append, stepsOn_append, htree, countP_treeSteps, hattach,
      countP_attachSteps, Nat.add_zero, ih (Nat.lt_add_right _ hp), handlesAll, List.map_cons,
      label_handles]
    rfl

/-! ### One element among the others -/

/-- What the steps `calls` do to the element `n` of an item, below the element `above`, if there is
one, and above others. -/
structure Served (m : Means ε) (calls : List Step) (above : Option Nat) (i : Item) (n : Nat)
    (below : List Nat) : Prop where
  /-- The element is made, described and given its children, in this order. -/
  order : stepsOn n 0 calls = ownSteps m n i.node ++ below.map (.addChild n)
  /-- The element is attached once, below the right one, and then left alone. -/
  attached : ∀ p ∈ above, ∃ before after, calls = before ++ .addChild p n :: after ∧
    (∀ q, .addChild q n ∉ before) ∧ ∀ step ∈ after, n ∉ step.mentions
  /-- The element of a root is not attached. -/
  detached : above = none → ∀ q, .addChild q n ∉ calls

/-- **The root of a tree**, whose steps stand between others. -/
theorem served_root (m : Means ε) {A B : List Step} (hA : Scoped 0 A)
    (hn : A.countP Step.creates = n) (habove : ∀ p ∈ above, p < n) {i : Item}
    {ts : List (Tree Item)} (hB : ∀ step ∈ B, n ∉ step.mentions) :
    Served m (A ++ (treeSteps m n (.node i ts) ++ (attachSteps above n ++ B))) above i n
      ((handlesAll (n + 1) ts).map Tree.label) := by
  have hbefore : ∀ q, .addChild q n ∉ A := by
    intro q hmem
    have := lt_of_mem_scoped hA hmem (List.mem_cons_of_mem q List.mem_cons_self)
    omega
  have hinside : ∀ q, .addChild q n ∉ treeSteps m n (.node i ts) := fun q hmem =>
    Nat.lt_irrefl n (lt_of_addChild_mem_treeSteps hmem)
  have hafter : ∀ q, .addChild q n ∉ B := fun q hmem =>
    hB _ hmem (List.mem_cons_of_mem q List.mem_cons_self)
  constructor
  · -- nothing is done on the root before its own steps, nor behind those of its children
    have hlast : ∀ k, n < k → stepsOn n k (attachSteps above n ++ B) = [] := by
      intro k hk
      have hattach : stepsOn n k (attachSteps above n) = [] := by
        cases above with
        | none => rfl
        | some p => exact if_neg (Nat.ne_of_lt (habove p rfl))
      rw [stepsOn_append, hattach, countP_attachSteps, Nat.add_zero,
        stepsOn_eq_nil_of_not_mem hB hk]
      rfl
    have hfirst : stepsOn n 0 A = [] := stepsOn_eq_nil_of_scoped hA (by omega)
    rw [stepsOn_append, hfirst, Nat.zero_add, hn, stepsOn_append, treeSteps_eq, stepsOn_append,
      stepsOn_ownSteps, countP_ownSteps, stepsOn_forestSteps m (Nat.lt_succ_self n),
      hlast _ (by rw [List.countP_append, countP_ownSteps]; omega), List.append_nil]
    rfl
  · intro p hp
    refine ⟨A ++ treeSteps m n (.node i ts), B, ?_, fun q hmem => ?_, hB⟩
    · rw [Option.mem_def.mp hp, attachSteps, List.append_assoc]
      rfl
    · rcases List.mem_append.mp hmem with h | h
      · exact hbefore q h
      · exact hinside q h
  · intro hnone q hmem
    rw [hnone, attachSteps, List.nil_append, List.mem_append, List.mem_append] at hmem
    rcases hmem with h | h | h
    · exact hbefore q h
    · exact hinside q h
    · exact hafter q h

mutual

/-- **The elements of a tree**, whose steps stand between others. -/
theorem served_tree (m : Means ε) {A B : List Step} {above : Option Nat} {n : Nat}
    (hA : Scoped 0 A) (hn : A.countP Step.creates = n) (habove : ∀ p ∈ above, p < n) :
    ∀ t : Tree Item, (∀ step ∈ B, ∀ r ∈ step.mentions, n ≤ r → n + count t ≤ r) →
      Tree.Aligned (Served m (A ++ (treeSteps m n t ++ (attachSteps above n ++ B)))) above t
        (handles n t)
  | .node i ts, hB => by
    rw [count] at hB
    have hroot : ∀ step ∈ B, n ∉ step.mentions := by
      intro step hstep hmem
      have := hB step hstep n hmem (Nat.le_refl n)
      omega
    -- for the trees below, the steps of the node come before and its attaching behind
    have hA' : Scoped 0 (A ++ ownSteps m n i.node) := by
      rw [scoped_append, Nat.zero_add, hn]
      exact ⟨hA, scoped_ownSteps m n i.node⟩
    have hn' : (A ++ ownSteps m n i.node).countP Step.creates = n + 1 := by
      rw [List.countP_append, hn, countP_ownSteps]
    have hB' : ∀ step ∈ attachSteps above n ++ B, ∀ r ∈ step.mentions,
        n + 1 ≤ r → n + 1 + countAll ts ≤ r := by
      intro step hstep r hr hle
      rcases List.mem_append.mp hstep with hstep | hstep
      · rcases mentions_attachSteps hstep hr with hr | rfl
        · have := habove r hr
          omega
        · omega
      · have := hB step hstep r hr (Nat.le_of_succ_le hle)
        omega
    have hlt : ∀ p ∈ some n, p < n + 1 := by
      intro p hp
      rw [← Option.mem_some.mp hp]
      exact Nat.lt_succ_self n
    have hbelow := served_forest m hA' hn' hlt ts hB'
    have hcalls : A ++ ownSteps m n i.node ++
        (forestSteps m (some n) (n + 1) ts ++ (attachSteps above n ++ B)) =
        A ++ (treeSteps m n (.node i ts) ++ (attachSteps above n ++ B)) := by
      rw [treeSteps_eq, List.append_assoc, List.append_assoc]
    rw [hcalls] at hbelow
    rw [handles]
    exact ⟨served_root m hA hn habove hroot, hbelow⟩

theorem served_forest (m : Means ε) {A B : List Step} {above : Option Nat} {n : Nat}
    (hA : Scoped 0 A) (hn : A.countP Step.creates = n) (habove : ∀ p ∈ above, p < n) :
    ∀ ts : List (Tree Item), (∀ step ∈ B, ∀ r ∈ step.mentions, n ≤ r → n + countAll ts ≤ r) →
      Tree.AlignedAll (Served m (A ++ (forestSteps m above n ts ++ B))) above ts (handlesAll n ts)
  | [], _ => trivial
  | t :: ts, hB => by
    rw [countAll] at hB
    have hfirst : ∀ step ∈ forestSteps m above (n + count t) ts ++ B, ∀ r ∈ step.mentions,
        n ≤ r → n + count t ≤ r := by
      intro step hstep r hr hle
      rcases List.mem_append.mp hstep with hstep | hstep
      · rcases mentions_forestSteps hstep hr with hr | hr
        · have := habove r hr
          omega
        · omega
      · have := hB step hstep r hr hle
        omega
    have hrest : ∀ step ∈ B, ∀ r ∈ step.mentions,
        n + count t ≤ r → n + count t + countAll ts ≤ r := by
      intro step hstep r hr hle
      have := hB step hstep r hr (by omega)
      omega
    -- for the trees behind, the first tree and its attaching come before
    have hscoped := scoped_forestSteps m above n habove [t]
    have hone : forestSteps m above n [t] = treeSteps m n t ++ attachSteps above n := by
      rw [forestSteps, forestSteps, List.append_nil]
    rw [hone] at hscoped
    have hA' : Scoped 0 (A ++ (treeSteps m n t ++ attachSteps above n)) := by
      rw [scoped_append, Nat.zero_add, hn]
      exact ⟨hA, hscoped⟩
    have hn' : (A ++ (treeSteps m n t ++ attachSteps above n)).countP Step.creates =
        n + count t := by
      rw [List.countP_append, hn, List.countP_append, countP_treeSteps, countP_attachSteps]
      rfl
    have htree := served_tree m hA hn habove t hfirst
    have hothers := served_forest m hA' hn' (fun p hp => Nat.lt_add_right _ (habove p hp)) ts hrest
    have hcalls : A ++ (treeSteps m n t ++ attachSteps above n) ++
        (forestSteps m above (n + count t) ts ++ B) =
        A ++ (treeSteps m n t ++
          (attachSteps above n ++ (forestSteps m above (n + count t) ts ++ B))) := by
      simp only [List.append_assoc]
    have hcons : A ++ (forestSteps m above n (t :: ts) ++ B) =
        A ++ (treeSteps m n t ++
          (attachSteps above n ++ (forestSteps m above (n + count t) ts ++ B))) := by
      simp only [forestSteps, List.append_assoc]
    rw [hcalls] at hothers
    rw [hcons, handlesAll]
    exact ⟨htree, hothers⟩

end

/-! ### The protocol -/

/-- **The protocol** of the steps that make a forest, and of the elements of its roots. -/
structure Follows (m : Means ε) (f : Forest) (calls : List Step) (roots : List Nat) : Prop where
  /-- Elements are made depth first, one for each node. -/
  depthFirst : calls.filterMap Step.tag? = (Tree.walkAll f).map fun i => i.node.tag
  /-- Steps are about elements that are made before. -/
  inScope : Scoped 0 calls
  /-- Each element is served in order, and the roots are the elements of the trees in order. -/
  served : ∃ hs, Tree.AlignedAll (Served m calls) none f hs ∧
    Tree.walkAll hs = List.range (Tree.walkAll f).length ∧ roots = hs.map Tree.label

theorem stepsFrom_follows (m : Means ε) (f : Forest) :
    Follows m f (stepsFrom m 0 f).1 (stepsFrom m 0 f).2 := by
  have hcalls := stepsFrom_eq m 0 f
  have htags : (stepsFrom m 0 f).1.filterMap Step.tag? =
      (Tree.walkAll f).map fun i => i.node.tag := by
    rw [hcalls, tags_forestSteps]
  refine ⟨htags, ?_, handlesAll 0 f, ?_, ?_, stepsFrom_roots m 0 f⟩
  · rw [hcalls]
    exact scoped_forestSteps m none 0 nofun f
  · have habove : ∀ p ∈ (none : Option Nat), p < 0 := nofun
    have hserved := served_forest m (A := []) (B := []) (n := 0) trivial rfl habove f nofun
    rw [List.nil_append, List.append_nil, ← hcalls] at hserved
    exact hserved
  · rw [walkAll_handlesAll, List.range_eq_range', countAll_eq_length]

/-- **The run of a forest follows the protocol** as far as it gets, and gets to the end exactly when
all content can be decoded. -/
theorem run_protocol (m : Means ε) (f : Forest) :
    ((∃ o, steps m f = .error o) ↔ ∃ i ∈ Tree.walkAll f, isDecodable m i = false) ∧
    (∃ calls roots, (run m f).steps <+: calls ∧ Follows m f calls roots) ∧
    ((∀ i ∈ Tree.walkAll f, isDecodable m i = true) →
      ∃ roots, steps m f = .ok ((run m f).steps, roots) ∧ Follows m f (run m f).steps roots) := by
  have hfollows := stepsFrom_follows m f
  have hbegins := run_begins m f
  have houtcome : (run m f).outcome = check m f := outcome_runFrom m 0 f
  refine ⟨?_, ⟨_, _, hbegins.first, hfollows⟩, fun hall => ?_⟩
  · rw [steps_eq_run, houtcome, ← check_eq_error_iff]
    cases check m f with
    | error o => exact iff_of_true ⟨o, rfl⟩ ⟨o, rfl⟩
    | ok _ => exact iff_of_false nofun nofun
  · rw [check_eq_ok_iff.mpr hall] at houtcome
    have hsteps := hbegins.all (Run.fault_of_outcome houtcome)
    refine ⟨(stepsFrom m 0 f).2, ?_, ?_⟩
    · rw [steps_eq_run, houtcome]
      rfl
    · rw [hsteps]
      exact hfollows

/-- Each element is described before the elements below it are made, and attached behind them. -/
theorem run_protocol_of_nested :
    let m := Means.of {} {}
    let f : Forest := [.node ⟨Node.ofContent 'p' ['c'], some 1⟩
      [.node ⟨Node.ofContent 'q' [], some 2⟩ [.node ⟨Node.ofContent 'r' [], some 3⟩ []]],
      .node ⟨Node.ofContent 's' [], some 4⟩ []]
    (∀ i ∈ Tree.walkAll f, isDecodable m i = true) ∧
      ∃ roots, steps m f = .ok ((run m f).steps, roots) ∧ Follows m f (run m f).steps roots ∧
        (run m f).steps.filterMap Step.tag? = [['p'], ['q'], ['r'], ['s']] ∧
        ((run m f).steps.drop 3).take 3 = [.create ['r'], .addChild 1 2, .addChild 0 1] := by
  intro m f
  have hall : ∀ i ∈ Tree.walkAll f, isDecodable m i = true := by decide
  obtain ⟨roots, hsteps, hfollows⟩ := (run_protocol m f).2.2 hall
  exact ⟨hall, roots, hsteps, hfollows, hfollows.depthFirst, rfl⟩

/-- **A decoder of a host that refuses some content ends a run**, before the elements of all nodes
are made. -/
theorem run_ends_early_of_refusing :
    let m : Means Unit := { decode := fun _ => .error (), lookup := fun _ => none }
    let f : Forest := [.node ⟨Node.ofContent 'p' ['c'], some 1⟩
      [.node ⟨Node.ofContent 'q' [], some 2⟩ []]]
    (run m f).steps = [.create ['p']] ∧
      (run m f).steps.filterMap Step.tag? ≠ (Tree.walkAll f).map fun i => i.node.tag := by
  intro m f
  have hown : ownRun m 0 (Node.ofContent 'p' ['c']) = ⟨[.create ['p']], some ()⟩ := rfl
  have hrun : run m f = ⟨[.create ['p']], some ()⟩ := by
    rw [run, runFrom, treeRun, hown]
    rfl
  rw [hrun]
  exact ⟨rfl, by decide⟩

end Building

end Outline.Dom
