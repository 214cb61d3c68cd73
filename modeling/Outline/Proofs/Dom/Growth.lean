import Outline.Proofs.Dom.Attempt
import Outline.Proofs.Dom.Lineage

/-!
# Stores that grow

Templates are generated one after the other, each into an element that was there at first, into one
that an earlier template made, or into a new one.  So elements get children at arbitrary places, and
they stay a forest that grows out of the elements that there were at first.  A template that is
refused may leave elements as well, those made before the refusal, but they hang together with no
others.

* `Growth`, `Growth.after`: a store with the origins of its elements, and what a template adds.
* `Grown`: the stores that templates come to.
* `Grown.forest`: how the elements of such a store hang together.
* `Grown.not_forest_of_overlong`: why what a refused template leaves is no part of it.
-/

namespace Outline.Dom

/-! ### One template -/

namespace Store

open Building

variable {ε : Type} {m : Means ε} {s : Store} {f : Forest} {steps : List Step} {container : Ref}

/-- **A later store**: parents and children agree, parents come first, and the elements that were
there have the parents that they had. -/
structure Later (s s' : Store) : Prop where
  linked : s'.Linked
  first : s'.ParentsFirst
  le : s.next ≤ s'.next
  old : ∀ r < s.next, (s'.get r).parent = (s.get r).parent

/-- **The first steps of a forest** lead to a later store, whose new elements are below new ones. -/
theorem later_performAll (hlinked : s.Linked) (hfirst : s.ParentsFirst)
    (hsteps : steps <+: (stepsFrom m 0 f).1) :
    s.Later (s.performAll steps) ∧
      ∀ r p, s.next ≤ r → ((s.performAll steps).get r).parent = some p → s.next ≤ p := by
  obtain ⟨rest, hrest⟩ := hsteps
  have hforest := stepsFrom_eq m 0 f
  have hscoped : Scoped 0 steps := by
    have habove : ∀ p ∈ (none : Option Nat), p < 0 := fun p hp => absurd hp (Option.not_mem_none p)
    have hall := scoped_forestSteps m none 0 habove f
    rw [← hforest, ← hrest, scoped_append] at hall
    exact hall.1
  have honce : (attached steps).Nodup := by
    have hall := nodup_attached_forestSteps m none 0 f
    rw [← hforest, ← hrest, attached_append, List.nodup_append] at hall
    exact hall.1
  have hlt : ∀ p c, .addChild p c ∈ steps → p < c := by
    intro p c h
    have hmem : .addChild p c ∈ forestSteps m none 0 f := by
      rw [← hforest, ← hrest]
      exact List.mem_append_left rest h
    exact lt_of_mem_forestSteps (fun q hq => absurd hq (Option.not_mem_none q)) hmem
  have hparent := parent_foldl_perform s.next steps s
  refine ⟨⟨?_, fun r p hp => ?_, ?_, fun r hr => congrArg _ (get_performAll hr steps)⟩, ?_⟩
  · refine linked_foldl_perform hscoped rfl honce (fun c _ => ?_) hlinked
    rw [get_of_le (Nat.le_add_right _ _)]
    rfl
  · rcases hparent r with hsame | ⟨q, c, hmem, rfl, hnew⟩
    · exact hfirst r p (hsame.symm.trans hp)
    · rw [← Option.some.inj (hnew.symm.trans hp)]
      exact Nat.add_lt_add_left (hlt q c hmem) s.next
  · rw [performAll, next_foldl_perform]
    exact Nat.le_add_right _ _
  · intro r p hr hp
    rcases hparent r with hsame | ⟨q, c, -, -, hnew⟩
    · rw [get_of_le hr] at hsame
      cases hp.symm.trans hsame
    · rw [← Option.some.inj (hnew.symm.trans hp)]
      exact Nat.le_add_right _ _

/-- **All steps of a forest and the mounting of its roots** lead to a later store, whose new
elements are below the container and below new ones. -/
theorem later_mount (hlinked : s.Linked) (hfirst : s.ParentsFirst) (hc : container < s.next)
    (m : Means ε) (f : Forest) :
    let s' := (s.performAll (stepsFrom m 0 f).1).mount container
      ((stepsFrom m 0 f).2.map (s.next + ·))
    s.Later s' ∧ ∀ r, s.next ≤ r → r < s'.next →
      ∃ p, (s'.get r).parent = some p ∧ (p = container ∨ s.next ≤ p ∧ p < s'.next) := by
  intro s'
  let built := s.performAll (stepsFrom m 0 f).1
  let roots := (stepsFrom m 0 f).2.map (s.next + ·)
  have hnext : built.next = s.next + countAll f := next_performAll_stepsFrom s m 0 f
  have hlabels : roots = (handlesAll s.next f).map Tree.label := roots_stepsFrom m s.next f
  have hsub : roots.Sublist (List.range' s.next (countAll f)) := by
    rw [hlabels, ← walkAll_handlesAll]
    exact Tree.map_label_sublist _
  have hrange : ∀ r ∈ roots, s.next ≤ r ∧ r < built.next := by
    intro r hr
    rw [hnext]
    exact List.mem_range'_1.mp (hsub.subset hr)
  obtain ⟨hbuilt, -⟩ := later_performAll hlinked hfirst (List.prefix_refl (stepsFrom m 0 f).1)
  have hfree : ∀ r ∈ roots, (built.get r).parent = none := by
    have haligned := alignedAll_elements m none s.next s.elements [] rfl f
    rw [List.append_nil, ← performAll_stepsFrom] at haligned
    intro r hr
    obtain ⟨u, hu, rfl⟩ := List.mem_map.mp (hlabels ▸ hr)
    obtain ⟨i, below, hmirror⟩ := haligned.of_mem hu
    rw [hmirror, element]
  have hparent : ∀ r, (s'.get r).parent =
      if r ∈ roots then some container else (built.get r).parent :=
    parent_mount fun r hr => (hrange r hr).2
  have hmounted := mountedIn_stepsFrom hc m f
  have hnext' : s'.next = s.next + countAll f := (next_mount _ _ _).trans hnext
  refine ⟨⟨?_, fun r p hp => ?_, ?_, fun r hr => ?_⟩, fun r hr hlt => ?_⟩
  · refine hbuilt.linked.mount ?_ (hsub.nodup List.nodup_range') fun r hr =>
      ⟨(hrange r hr).2, hfree r hr⟩
    exact Nat.lt_of_lt_of_le hc hbuilt.le
  · rw [hparent r] at hp
    split at hp
    next hr =>
      rw [← Option.some.inj hp]
      exact Nat.lt_of_lt_of_le hc (hrange r hr).1
    next => exact hbuilt.first r p hp
  · rw [hnext']
    exact Nat.le_add_right _ _
  · have hnot : r ∉ roots := fun h => Nat.not_le_of_lt hr (hrange r h).1
    rw [hparent r, if_neg hnot]
    exact hbuilt.old r hr
  · obtain ⟨hs, haligned, -, hwalk⟩ := hmounted.mirrored
    rw [hnext', countAll_eq_length] at hlt
    have hmem : r ∈ Tree.walkAll hs := by
      rw [hwalk]
      exact List.mem_range'_1.mpr ⟨hr, hlt⟩
    obtain ⟨up, i, below, hmirror, hup⟩ := Tree.AlignedAll.exists_above f haligned r hmem
    have hup' : (s'.get r).parent = up := by
      rw [hmirror, element]
    rcases hup with rfl | ⟨y, hy, rfl⟩
    · exact ⟨container, hup', .inl rfl⟩
    · rw [hwalk, ← countAll_eq_length] at hy
      rw [hnext']
      exact ⟨y, hup', .inr (List.mem_range'_1.mp hy)⟩

theorem Later.refl (hlinked : s.Linked) (hfirst : s.ParentsFirst) : s.Later s :=
  ⟨hlinked, hfirst, Nat.le_refl _, fun _ _ => rfl⟩

def newIn (s later : Store) : List Ref := List.range' s.next (later.next - s.next)

theorem mem_newIn {later : Store} (hle : s.next ≤ later.next) {r : Ref} :
    r ∈ s.newIn later ↔ s.next ≤ r ∧ r < later.next := by
  have hnext : s.next + (later.next - s.next) = later.next := Nat.add_sub_cancel' hle
  rw [newIn, List.mem_range'_1, hnext]

theorem perm_newIn {later : Store} (hle : s.next ≤ later.next) {l : List Ref}
    (h : l.Perm (List.range s.next)) : (l ++ s.newIn later).Perm (List.range later.next) := by
  have hrange : List.range later.next = List.range s.next ++ s.newIn later := by
    have happend := List.range'_append_1 (s := 0) (m := s.next) (n := later.next - s.next)
    rw [Nat.zero_add, Nat.add_sub_cancel' hle] at happend
    rw [List.range_eq_range', List.range_eq_range', newIn, happend]
  rw [hrange]
  exact h.append_right _

end Store

/-! ### Template after template -/

structure Request where
  settings : Settings := {}
  registry : Registry := {}
  template : Text
  container : Option Ref

/-- A store with the origins of its elements. -/
structure Growth where
  store : Store
  /-- The elements that there were at first, and the containers made for templates. -/
  starting : List Ref
  /-- The elements of the lines of templates. -/
  made : List Ref := []
  /-- The elements that refused templates left. -/
  left : List Ref := []

namespace Growth

def enter (g : Growth) (q : Request) : Growth :=
  let s := (g.store.withContainer q.settings q.container).1
  { g with store := s, starting := g.starting ++ g.store.newIn s }

def after (g : Growth) (q : Request) : Growth :=
  let entered := g.enter q
  match (g.store.generate q.settings q.registry q.template q.container).2 with
  | .ok (later, _) =>
    { entered with store := later, made := g.made ++ entered.store.newIn later }
  | .error _ =>
    let later := g.store.attempted q.settings q.registry q.template q.container
    { entered with store := later, left := g.left ++ entered.store.newIn later }

/-- **How the elements of a growth hang together**: elements of templates are below starting ones
and such of templates, and what refused templates left is by itself. -/
structure Rooted (g : Growth) : Prop where
  linked : g.store.Linked
  first : g.store.ParentsFirst
  all : (g.starting ++ g.made ++ g.left).Perm (List.range g.store.next)
  starting : ∀ r ∈ g.starting, (g.store.get r).parent = none
  made : ∀ r ∈ g.made, ∃ p, (g.store.get r).parent = some p ∧ (p ∈ g.starting ∨ p ∈ g.made)
  left : ∀ r ∈ g.left, ∀ p, (g.store.get r).parent = some p → p ∈ g.left

variable {g : Growth} {q : Request} {later : Store} {r p : Ref}

theorem Rooted.lt_next (h : g.Rooted) (hr : r ∈ g.starting ++ g.made ++ g.left) :
    r < g.store.next := List.mem_range.mp (h.all.subset hr)

theorem Rooted.lt_of_starting (h : g.Rooted) (hr : r ∈ g.starting) : r < g.store.next :=
  h.lt_next (List.mem_append_left _ (List.mem_append_left _ hr))

theorem Rooted.lt_of_made (h : g.Rooted) (hr : r ∈ g.made) : r < g.store.next :=
  h.lt_next (List.mem_append_left _ (List.mem_append_right _ hr))

theorem Rooted.lt_of_left (h : g.Rooted) (hr : r ∈ g.left) : r < g.store.next :=
  h.lt_next (List.mem_append_right _ hr)

/-! ### What a request adds -/

theorem Rooted.enter (h : g.Rooted) (q : Request) : (g.enter q).Rooted := by
  rcases q with ⟨settings, registry, template, _ | c⟩
  · have hle : g.store.next ≤ (g.store.create settings.container).next := by
      rw [Store.next_create]
      exact Nat.le_succ _
    have hparent := Store.parent_create g.store settings.container
    refine ⟨h.linked.create _, fun r p hp => h.first r p ((hparent r).symm.trans hp), ?_,
      fun r hr => ?_, fun r hr => ?_, fun r hr p hp => h.left r hr p ((hparent r).symm.trans hp)⟩
    · refine List.Perm.trans ?_ (Store.perm_newIn hle h.all)
      show (g.starting ++ g.store.newIn (g.store.create settings.container) ++ g.made ++
        g.left).Perm _
      simp only [List.append_assoc]
      refine List.Perm.append_left g.starting (List.perm_append_comm.trans ?_)
      rw [List.append_assoc]
    · refine (hparent r).trans ?_
      rcases List.mem_append.mp hr with hr | hr
      · exact h.starting r hr
      · rw [Store.get_of_le ((Store.mem_newIn hle).mp hr).1]
        rfl
    · obtain ⟨p, hp, hup⟩ := h.made r hr
      exact ⟨p, (hparent r).trans hp, hup.imp_left (List.mem_append_left _)⟩
  · have hnew : g.enter ⟨settings, registry, template, some c⟩ = g := by
      simp [Growth.enter, Store.withContainer, Store.newIn]
    rw [hnew]
    exact h

/-- **Elements of a template** are below what there was, or below each other. -/
theorem Rooted.grow (h : g.Rooted) (hlater : g.store.Later later)
    (hnew : ∀ r, g.store.next ≤ r → r < later.next → ∃ p, (later.get r).parent = some p ∧
      ((p ∈ g.starting ∨ p ∈ g.made) ∨ g.store.next ≤ p ∧ p < later.next)) :
    Rooted { g with store := later, made := g.made ++ g.store.newIn later } := by
  refine ⟨hlater.linked, hlater.first, ?_, fun r hr => ?_, fun r hr => ?_, fun r hr p hp => ?_⟩
  · refine List.Perm.trans ?_ (Store.perm_newIn hlater.le h.all)
    simp only [List.append_assoc]
    exact ((List.perm_append_comm).append_left g.made).append_left g.starting
  · exact (hlater.old r (h.lt_of_starting hr)).trans (h.starting r hr)
  · rcases List.mem_append.mp hr with hr | hr
    · obtain ⟨p, hp, hup⟩ := h.made r hr
      exact ⟨p, (hlater.old r (h.lt_of_made hr)).trans hp, hup.imp_right (List.mem_append_left _)⟩
    · obtain ⟨hle, hlt⟩ := (Store.mem_newIn hlater.le).mp hr
      obtain ⟨p, hp, hup⟩ := hnew r hle hlt
      refine ⟨p, hp, ?_⟩
      rcases hup with (hup | hup) | hup
      · exact .inl hup
      · exact .inr (List.mem_append_left _ hup)
      · exact .inr (List.mem_append_right _ ((Store.mem_newIn hlater.le).mpr hup))
  · exact h.left r hr p ((hlater.old r (h.lt_of_left hr)).symm.trans hp)

/-- **Elements that a refused template leaves** are below each other. -/
theorem Rooted.leave (h : g.Rooted) (hlater : g.store.Later later)
    (hnew : ∀ r p, g.store.next ≤ r → (later.get r).parent = some p → g.store.next ≤ p) :
    Rooted { g with store := later, left := g.left ++ g.store.newIn later } := by
  refine ⟨hlater.linked, hlater.first, ?_, fun r hr => ?_, fun r hr => ?_, fun r hr p hp => ?_⟩
  · rw [← List.append_assoc]
    exact Store.perm_newIn hlater.le h.all
  · exact (hlater.old r (h.lt_of_starting hr)).trans (h.starting r hr)
  · obtain ⟨p, hp, hup⟩ := h.made r hr
    exact ⟨p, (hlater.old r (h.lt_of_made hr)).trans hp, hup⟩
  · rcases List.mem_append.mp hr with hr | hr
    · refine List.mem_append_left _ (h.left r hr p ?_)
      exact (hlater.old r (h.lt_of_left hr)).symm.trans hp
    · refine List.mem_append_right _ ((Store.mem_newIn hlater.le).mpr ⟨?_, ?_⟩)
      · exact hnew r p ((Store.mem_newIn hlater.le).mp hr).1 hp
      · exact hlater.linked.lt_of_parent hp

theorem container_of_enter (hq : ∀ c ∈ q.container, c ∈ g.starting ∨ c ∈ g.made) :
    let c := (g.store.withContainer q.settings q.container).2
    c ∈ (g.enter q).starting ∨ c ∈ (g.enter q).made := by
  rcases q with ⟨settings, registry, template, _ | c⟩
  · refine .inl (List.mem_append_right _ ?_)
    have hle : g.store.next ≤ (g.store.create settings.container).next := by
      rw [Store.next_create]
      exact Nat.le_succ _
    refine (Store.mem_newIn hle).mpr ⟨Nat.le_refl _, ?_⟩
    rw [Store.next_create]
    exact Nat.lt_succ_self _
  · exact (hq c rfl).imp_left (List.mem_append_left _)

/-- **A request keeps the elements together.** -/
theorem Rooted.after (h : g.Rooted) (hq : ∀ c ∈ q.container, c ∈ g.starting ∨ c ∈ g.made) :
    (g.after q).Rooted := by
  have henter := h.enter q
  have hc := container_of_enter hq
  have hlt : (g.store.withContainer q.settings q.container).2 < (g.enter q).store.next :=
    hc.elim henter.lt_of_starting henter.lt_of_made
  rw [Growth.after, Store.generate_eq_attempted]
  rcases Generation.attempt_cases q.settings q.registry q.template with
    ⟨r, hattempt⟩ | ⟨o, steps, hattempt⟩ | ⟨f, -, hattempt⟩
  · simp only [hattempt, Except.map, Store.attempted]
    refine henter.leave (Store.Later.refl henter.linked henter.first) fun r p hr hp => ?_
    exact absurd (hp.symm.trans (congrArg Element.parent (Store.get_of_le hr))) nofun
  · obtain ⟨f, steps', hfirst, hcalls⟩ := Generation.attempt_of_content (by rw [hattempt])
    rw [hattempt] at hcalls
    simp only [hattempt, hcalls, Except.map, Store.attempted, Store.after_steps]
    obtain ⟨hlater, hnew⟩ := Store.later_performAll henter.linked henter.first hfirst
    exact henter.leave hlater hnew
  · simp only [hattempt, Except.map, Store.attempted, Store.after_steps_mount]
    obtain ⟨hlater, hnew⟩ := Store.later_mount henter.linked henter.first hlt
      (Building.Means.of q.settings q.registry) f
    refine henter.grow hlater fun r hr hlt => ?_
    obtain ⟨p, hp, rfl | hup⟩ := hnew r hr hlt
    · exact ⟨_, hp, .inl hc⟩
    · exact ⟨p, hp, .inr hup⟩

end Growth

/-! ### Any number of templates -/

/-- **What templates come to**, each put into a starting element, an element of a template before,
or a new container. -/
inductive Grown (s : Store) : Growth → Prop
  | start : Grown s { store := s, starting := List.range s.next }
  | call {g : Growth} (h : Grown s g) (q : Request)
    (hq : ∀ c ∈ q.container, c ∈ g.starting ∨ c ∈ g.made) : Grown s (g.after q)

namespace Grown

variable {s : Store} {g : Growth}

theorem rooted_start (hs : ∀ e ∈ s.elements, e.children = [] ∧ e.parent = none) :
    Growth.Rooted { store := s, starting := List.range s.next } := by
  have hfresh : ∀ r, (s.get r).children = [] ∧ (s.get r).parent = none := by
    intro r
    by_cases hr : r < s.elements.length
    · have hget : s.get r = s.elements[r] := by
        rw [Store.get, List.getD_eq_getElem?_getD, List.getElem?_eq_getElem hr]
        rfl
      rw [hget]
      exact hs _ (List.getElem_mem hr)
    · rw [Store.get_of_le (Nat.le_of_not_lt hr)]
      exact ⟨rfl, rfl⟩
  refine ⟨fun p c => ?_, fun r p hp => ?_, ?_, fun r _ => (hfresh r).2,
    fun r hr => absurd hr List.not_mem_nil, fun r hr => absurd hr List.not_mem_nil⟩
  · rw [Store.listings, (hfresh p).1, (hfresh c).2]
    rfl
  · cases hp.symm.trans (hfresh r).2
  · rw [List.append_nil, List.append_nil]

theorem rooted (hs : ∀ e ∈ s.elements, e.children = [] ∧ e.parent = none) (h : Grown s g) :
    g.Rooted := by
  induction h with
  | start => exact rooted_start hs
  | call _ q hq ih => exact ih.after hq

/-- **Generated elements stay a forest.**  There are elements without parents and children at first,
and templates are generated in any number, under any settings and with any registries, into these,
into elements of templates before, or into new containers; some of them are refused.  Then every
element of a template is listed exactly once among the children of all elements, by the element
that is its parent, and from parent to parent one gets to an element that was there at first or to a
new container.  Those are listed nowhere and have no parents.  What refused templates left is listed
only by what they left. -/
theorem forest (hs : ∀ e ∈ s.elements, e.children = [] ∧ e.parent = none) (h : Grown s g) :
    (g.starting ++ g.made ++ g.left).Perm (List.range g.store.next) ∧
    (∀ r ∈ g.made,
      (g.store.elements.flatMap Element.children).count (.element r) = 1 ∧
      (∃ p, (g.store.get r).parent = some p ∧
        ∀ q, .element r ∈ (g.store.get q).children ↔ q = p) ∧
      ∃ n a, g.store.ancestor n r = some a ∧ a ∈ g.starting) ∧
    (∀ r ∈ g.starting, (g.store.get r).parent = none ∧
      ∀ q, .element r ∉ (g.store.get q).children) ∧
    ∀ r ∈ g.left, ∀ q, .element r ∈ (g.store.get q).children → q ∈ g.left := by
  have hrooted := h.rooted hs
  refine ⟨hrooted.all, fun r hr => ?_, fun r hr => ?_, fun r hr q hlisted => ?_⟩
  · obtain ⟨p, hp, -⟩ := hrooted.made r hr
    refine ⟨?_, ⟨p, hp, fun q => ?_⟩, hrooted.first.exists_ancestor hrooted.made hr⟩
    · rw [hrooted.linked.count_children, hp]
      rfl
    · rw [hrooted.linked.mem_children_iff, hp, Option.some.injEq, eq_comm]
  · have hnone := hrooted.starting r hr
    refine ⟨hnone, fun q hlisted => ?_⟩
    exact absurd (hnone.symm.trans (hrooted.linked.mem_children_iff.mp hlisted)) nofun
  · exact hrooted.left r hr q (hrooted.linked.mem_children_iff.mp hlisted)

/-- Two lines are put into an element, then one into a new container, one into the element of the
second line, and one without a tag into that of the last. -/
theorem forest_of_mounted_inside :
    let s : Store := ⟨[{ tag := ['d'] }]⟩
    let first : Request := { template := ['a', '\n', '>', 'b'], container := some 0 }
    let second : Request := { template := ['e'], container := none }
    let third : Request := { template := ['c'], container := some 2 }
    let last : Request := { template := ['.'], container := some 5 }
    let start : Growth := { store := s, starting := [0] }
    let g := (((start.after first).after second).after third).after last
    (∀ e ∈ s.elements, e.children = [] ∧ e.parent = none) ∧ Grown s g ∧
      g.starting = [0, 3] ∧ g.made = [1, 2, 4, 5] ∧ (g.store.get 5).parent = some 2 ∧
      (g.store.elements.flatMap Element.children).count (.element 5) = 1 ∧
      ∃ n a, g.store.ancestor n 5 = some a ∧ a ∈ g.starting := by
  intro s first second third last start g
  have hs : ∀ e ∈ s.elements, e.children = [] ∧ e.parent = none := by simp [s]
  have hg : Grown s g := by
    refine .call (.call (.call (.call .start first ?_) second ?_) third ?_) last ?_
    · exact fun c hc => .inl (Option.some.inj hc ▸ List.mem_singleton_self 0)
    · exact nofun
    · exact fun c hc => .inr (Option.some.inj hc ▸ by decide)
    · exact fun c hc => .inr (Option.some.inj hc ▸ by decide)
  obtain ⟨-, hmade, -⟩ := forest hs hg
  obtain ⟨hcount, -, hancestor⟩ := hmade 5 (by decide)
  exact ⟨hs, hg, by decide, by decide, by decide, hcount, hancestor⟩

/-! ### Elements that are left -/

theorem eq_of_walkAll_eq {f : Forest} {n : Node} (h : (Tree.walkAll f).map Item.node = [n]) :
    ∃ i, f = [.node i []] ∧ i.node = n := by
  have hempty : ∀ ts : Forest, Tree.walkAll ts = [] → ts = [] := by
    rintro (_ | ⟨⟨i, us⟩, ts⟩) hts
    · rfl
    · exact absurd hts (List.cons_ne_nil _ _)
  rcases f with _ | ⟨⟨i, us⟩, ts⟩
  · exact absurd h nofun
  · obtain ⟨hnode, hrest⟩ := List.cons.inj h
    obtain ⟨hus, hts⟩ := List.append_eq_nil_iff.mp (List.map_eq_nil_iff.mp hrest)
    exact ⟨i, by rw [hempty us hus, hempty ts hts], hnode⟩

/-- **A line with content that is refused** makes its element before the refusal. -/
theorem attempt_of_overlong {tag : Char} {c : Text} {o : Reference.Overlong}
    (htag : Text.isWord tag = true ∧ tag ≠ '>')
    (hc : ∀ x ∈ c, Text.isBreak x = false ∧ x ≠ '(' ∧ x ≠ ')')
    (ho : Reference.decode c = .error o) :
    Generation.attempt {} {} (tag :: '(' :: (c ++ [')'])) =
      ⟨[.step (.create [tag])], .error (.content o)⟩ := by
  obtain ⟨-, f, hf, hnodes⟩ := Store.compile_of_content tag htag hc
  obtain ⟨i, rfl, hnode⟩ := eq_of_walkAll_eq hnodes
  have hown : Building.ownRun (Building.Means.of {} {}) 0 i.node =
      ⟨[.create [tag]], some o⟩ := by
    rw [hnode, Building.ownRun, Store.content_of_content ho]
    rfl
  have hrun : Building.run (Building.Means.of {} {}) [.node i []] =
      ⟨[.create [tag]], some o⟩ := by
    rw [Building.run, Building.runFrom, Building.treeRun, hown]
    rfl
  rw [Generation.attempt, hf]
  simp only [hrun]
  rfl

/-- **The element of a line that is refused for its content** is listed nowhere. -/
theorem not_forest_of_overlong :
    let s : Store := ⟨[{ tag := ['d'] }]⟩
    let t : Text := 'p' :: '(' :: ('&' :: '#' :: (List.replicate 4301 '1' ++ [';']) ++ [')'])
    (∀ e ∈ s.elements, e.children = [] ∧ e.parent = none) ∧
      ∃ g, Grown s g ∧ g = Growth.after { store := s, starting := [0] }
          { template := t, container := some 0 } ∧
        ∃ r ∈ g.made ++ g.left, (g.store.get r).tag = ['p'] ∧
          (g.store.elements.flatMap Element.children).count (.element r) ≠ 1 := by
  intro s t
  have hattempt : Generation.attempt {} {} t =
      ⟨[.step (.create ['p'])], .error (.content ⟨4301⟩)⟩ :=
    attempt_of_overlong (by decide) (Reference.inline_of_replicate 4301)
      (Reference.decode_of_replicate (by decide))
  have hg : Growth.after { store := s, starting := [0] } { template := t, container := some 0 } =
      { store := ⟨[{ tag := ['d'] }, { tag := ['p'] }]⟩, starting := [0], left := [1] } := by
    rw [Growth.after, Store.generate_eq_attempted]
    simp only [Store.attempted, hattempt]
    rfl
  have hgrown : Grown s (Growth.after { store := s, starting := [0] }
      { template := t, container := some 0 }) :=
    .call .start _ fun c hc => .inl (Option.some.inj hc ▸ List.mem_singleton_self 0)
  refine ⟨by simp [s], _, hgrown, rfl, ?_⟩
  rw [hg]
  exact ⟨1, by decide, rfl, by decide⟩

end Grown

end Outline.Dom
