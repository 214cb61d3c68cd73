import Outline.Proofs.Dom.Element
import Outline.Proofs.Dom.Generation
import Outline.Proofs.Dom.Handles
import Outline.Proofs.Tree.Alignment

/-!
# What a forest is built into

Building a forest puts its elements behind those of the store, depth first, and the element of each
node is the one that the node describes, below the element of the node above and above the elements
of the nodes below.
-/

namespace Outline.Dom

namespace Building

variable {ε : Type} {m : Means ε} {base n p : Nat} {L : List Element}

mutual

/-- The elements of a tree depth first, when its root has the position `n`. -/
def elements (m : Means ε) (parent : Option Ref) (n : Ref) : Tree Item → List Element
  | .node i ts =>
    element m parent i.node ((handlesAll (n + 1) ts).map Tree.label)
      :: elementsAll m (some n) (n + 1) ts

def elementsAll (m : Means ε) (parent : Option Ref) (n : Ref) : List (Tree Item) → List Element
  | [] => []
  | t :: ts => elements m parent n t ++ elementsAll m parent (n + count t) ts

end

mutual

theorem length_elements (m : Means ε) (parent : Option Ref) (n : Ref) :
    ∀ t : Tree Item, (elements m parent n t).length = count t
  | .node i ts => by
    rw [elements, List.length_cons, length_elementsAll m (some n) (n + 1) ts, count, Nat.add_comm]

theorem length_elementsAll (m : Means ε) (parent : Option Ref) (n : Ref) :
    ∀ ts : List (Tree Item), (elementsAll m parent n ts).length = countAll ts
  | [] => rfl
  | t :: ts => by
    rw [elementsAll, List.length_append, length_elements m parent n t,
      length_elementsAll m parent (n + count t) ts, countAll]

end

/-! ### One element -/

open Store

theorem foldl_perform_map {α : Type} {f : α → Step} {g : Element → α → Element}
    (h : ∀ s x, perform base s (f x) = s.update (base + n) (g · x)) (hL : L.length = base + n)
    (xs : List α) (e : Element) :
    (xs.map f).foldl (perform base) ⟨L ++ [e]⟩ = ⟨L ++ [xs.foldl g e]⟩ := by
  induction xs generalizing e with
  | nil => rfl
  | cons x xs ih =>
    rw [List.map_cons, List.foldl_cons, h, update_middle hL.symm, ih, List.foldl_cons]

/-- **The steps of a node make its element.** -/
theorem foldl_perform_ownSteps (m : Means ε) (hL : L.length = base + n) (d : Node) :
    (ownSteps m n d).foldl (perform base) ⟨L⟩ = ⟨L ++ [element m none d []]⟩ := by
  have hcreate : perform base ⟨L⟩ (.create d.tag) = ⟨L ++ [{ tag := d.tag }]⟩ := rfl
  rw [ownSteps, contentSteps_eq, idSteps, List.foldl_append, List.foldl_append, List.foldl_append,
    List.foldl_append, List.foldl_cons, hcreate,
    foldl_perform_map (g := Element.addClass) (fun _ _ => rfl) hL,
    foldl_perform_map (g := fun e i => e.setId (some i)) (fun _ _ => rfl) hL,
    foldl_perform_map (g := fun e a => e.setAttribute a.name a.value) (fun _ _ => rfl) hL,
    foldl_perform_map (g := Element.addText) (fun _ _ => rfl) hL,
    foldl_perform_map (g := Element.addListener) (fun _ _ => rfl) hL, foldl_own]

/-! ### Elements that get children -/

def addChildren (rs : List Ref) (e : Element) : Element :=
  { e with children := e.children ++ rs.map .element }

theorem addChildren_element (parent : Option Ref) (d : Node) (rs : List Ref) :
    addChildren rs (element m parent d []) = element m parent d rs := by
  simp [addChildren, element]

def adopt (L : List Element) (p : Nat) (rs : List Ref) : List Element := L.modify p (addChildren rs)

@[simp] theorem length_adopt (L : List Element) (p : Nat) (rs : List Ref) :
    (adopt L p rs).length = L.length :=
  List.length_modify _ L p

theorem adopt_nil (L : List Element) (p : Nat) : adopt L p [] = L := by
  have hid : addChildren [] = id := by
    funext e
    simp [addChildren]
  rw [adopt, hid, List.modify_id]

theorem adopt_cons (L : List Element) (p : Nat) (r : Ref) (rs : List Ref) :
    adopt (adopt L p [r]) p rs = adopt L p (r :: rs) := by
  have hcomp : addChildren rs ∘ addChildren [r] = addChildren (r :: rs) := by
    funext e
    simp [addChildren]
  rw [adopt, adopt, List.modify_modify_eq, hcomp, adopt]

theorem adopt_left (h : p < L.length) (M : List Element) (rs : List Ref) :
    adopt (L ++ M) p rs = adopt L p rs ++ M :=
  modify_append h (addChildren rs) M

theorem adopt_concat (h : p = L.length) (e : Element) (rs : List Ref) :
    adopt (L ++ [e]) p rs = L ++ [addChildren rs e] :=
  congrArg Store.elements (update_middle h (addChildren rs))

/-- **A tree that is attached** is below the element that it is attached to. -/
theorem append_elements (hL : L.length = n) (hp : p < n) (t : Tree Item) (M : List Element) :
    append ⟨L ++ (elements m none n t ++ M)⟩ p n =
      ⟨adopt L p [n] ++ (elements m (some p) n t ++ M)⟩ := by
  cases t with
  | node i ts =>
    have hlt : p < L.length := hL ▸ hp
    rw [elements, List.cons_append, append_eq, update_middle hL.symm, update_left hlt, elements]
    rfl

/-- **Trees that are mounted** are below the element that they are mounted in. -/
theorem mount_elements (hL : L.length = n) (hp : p < n) (ts : List (Tree Item)) :
    mount ⟨L ++ elementsAll m none n ts⟩ p ((handlesAll n ts).map Tree.label) =
      ⟨adopt L p ((handlesAll n ts).map Tree.label) ++ elementsAll m (some p) n ts⟩ := by
  induction ts generalizing L n with
  | nil => rw [elementsAll, handlesAll, List.map_nil, adopt_nil, elementsAll]; rfl
  | cons t ts ih =>
    let L' := adopt L p [n] ++ elements m (some p) n t
    have hlen : L'.length = n + count t := by
      rw [List.length_append, length_adopt, length_elements, hL]
    have hp' : p < (adopt L p [n]).length := by
      rw [length_adopt, hL]
      exact hp
    have hrest := ih hlen (Nat.lt_add_right _ hp)
    rw [adopt_left hp', adopt_cons, List.append_assoc, List.append_assoc] at hrest
    rw [elementsAll, elementsAll, handlesAll, List.map_cons, label_handles, mount, List.foldl_cons,
      append_elements hL hp]
    exact hrest

/-! ### Steps and elements -/

mutual

/-- **The steps of a tree make its elements.** -/
theorem foldl_perform_treeSteps (m : Means ε) {base n : Nat} {L : List Element}
    (hL : L.length = base + n) : ∀ t : Tree Item,
      (treeSteps m n t).foldl (perform base) ⟨L⟩ = ⟨L ++ elements m none (base + n) t⟩
  | .node i ts => by
    have hlen : (L ++ [element m none i.node []]).length = base + (n + 1) := by
      rw [List.length_append, hL]
      rfl
    rw [treeSteps, List.foldl_append, foldl_perform_ownSteps m hL,
      foldl_perform_childSteps m hlen (Nat.lt_succ_self n) ts, adopt_concat hL.symm,
      addChildren_element, elements, List.append_assoc]
    rfl

theorem foldl_perform_childSteps (m : Means ε) {base p n : Nat} {L : List Element}
    (hL : L.length = base + n) (hp : p < n) : ∀ ts : List (Tree Item),
      (childSteps m p n ts).foldl (perform base) ⟨L⟩ =
        ⟨adopt L (base + p) ((handlesAll (base + n) ts).map Tree.label) ++
          elementsAll m (some (base + p)) (base + n) ts⟩
  | [] => by
    rw [childSteps, List.foldl_nil, handlesAll, List.map_nil, adopt_nil, elementsAll,
      List.append_nil]
  | t :: ts => by
    have hlt : base + p < base + n := Nat.add_lt_add_left hp base
    let L' := adopt L (base + p) [base + n]
    have hL' : L'.length = base + n := (length_adopt L _ _).trans hL
    have hp' : base + p < L'.length := hL' ▸ hlt
    have hlen : (L' ++ elements m (some (base + p)) (base + n) t).length =
        base + (n + count t) := by
      rw [List.length_append, length_elements, hL', Nat.add_assoc]
    have hattach : perform base ⟨L ++ elements m none (base + n) t⟩ (.addChild p n) =
        ⟨L' ++ elements m (some (base + p)) (base + n) t⟩ := by
      have happend := append_elements (m := m) hL hlt t []
      rw [List.append_nil, List.append_nil] at happend
      exact happend
    rw [childSteps, List.foldl_append, foldl_perform_treeSteps m hL t, List.foldl_cons, hattach,
      foldl_perform_childSteps m hlen (Nat.lt_add_right _ hp) ts, adopt_left hp', adopt_cons,
      handlesAll, List.map_cons, label_handles, elementsAll, List.append_assoc, Nat.add_assoc]

end

/-- **The steps of a forest make its elements.** -/
theorem foldl_perform_stepsFrom (m : Means ε) (hL : L.length = base + n) (f : Forest) :
    (stepsFrom m n f).1.foldl (perform base) ⟨L⟩ = ⟨L ++ elementsAll m none (base + n) f⟩ := by
  induction f generalizing n L with
  | nil => rw [elementsAll, List.append_nil]; rfl
  | cons t f ih =>
    have hlen : (L ++ elements m none (base + n) t).length = base + (n + count t) := by
      rw [List.length_append, length_elements, hL, Nat.add_assoc]
    rw [stepsFrom_cons, List.foldl_append, foldl_perform_treeSteps m hL t, ih hlen, elementsAll,
      List.append_assoc, Nat.add_assoc]

/-! ### Elements at their places -/

/-- The element `r` is the one of the item, below the element `above` and above others. -/
def Mirrors (m : Means ε) (s : Store) (above : Option Ref) (i : Item) (r : Ref)
    (below : List Ref) : Prop :=
  s.get r = element m above i.node below

mutual

theorem aligned_elements (m : Means ε) (above : Option Ref) (n : Ref) (L M : List Element)
    (hL : L.length = n) : ∀ t : Tree Item,
      Tree.Aligned (Mirrors m ⟨L ++ (elements m above n t ++ M)⟩) above t (handles n t)
  | .node i ts => by
    let e := element m above i.node ((handlesAll (n + 1) ts).map Tree.label)
    have hlen : (L ++ [e]).length = n + 1 := by rw [List.length_append, hL]; rfl
    have hrest := alignedAll_elements m (some n) (n + 1) (L ++ [e]) M hlen ts
    rw [List.append_assoc] at hrest
    rw [elements, handles]
    exact ⟨get_middle hL.symm, hrest⟩

theorem alignedAll_elements (m : Means ε) (above : Option Ref) (n : Ref) (L M : List Element)
    (hL : L.length = n) : ∀ ts : List (Tree Item),
      Tree.AlignedAll (Mirrors m ⟨L ++ (elementsAll m above n ts ++ M)⟩) above ts
        (handlesAll n ts)
  | [] => trivial
  | t :: ts => by
    have hlen : (L ++ elements m above n t).length = n + count t := by
      rw [List.length_append, length_elements, hL]
    have hfirst := aligned_elements m above n L (elementsAll m above (n + count t) ts ++ M) hL t
    have hrest := alignedAll_elements m above (n + count t) (L ++ elements m above n t) M hlen ts
    rw [List.append_assoc] at hrest
    rw [elementsAll, handlesAll, List.append_assoc]
    exact ⟨hfirst, hrest⟩

end

end Building

/-! ### What is built -/

namespace Store

variable {ε : Type} {s : Store} {m : Building.Means ε} {f : Forest}

open Building

theorem performAll_stepsFrom (s : Store) (m : Building.Means ε) (f : Forest) :
    s.performAll (stepsFrom m 0 f).1 = ⟨s.elements ++ elementsAll m none s.next f⟩ :=
  foldl_perform_stepsFrom m rfl f

theorem roots_stepsFrom (m : Building.Means ε) (n : Nat) (f : Forest) :
    (stepsFrom m 0 f).2.map (n + ·) = (handlesAll n f).map Tree.label := by
  have hshift := stepsFrom_shift m 0 n f
  rw [Nat.zero_add] at hshift
  rw [← stepsFrom_roots m n f, hshift]
  exact List.map_congr_left fun r _ => Nat.add_comm n r

theorem build_elements (s : Store) (m : Building.Means ε) (f : Forest) :
    s.build m f = (check m f).map fun _ =>
      (⟨s.elements ++ elementsAll m none s.next f⟩, (handlesAll s.next f).map Tree.label) := by
  rw [build_eq, performAll_stepsFrom, roots_stepsFrom]

/-- **What a forest is built into.**  Building fails exactly when some content cannot be decoded.
Otherwise there is one root for each tree, in order; the new elements have the shape of the forest
and mirror its nodes, and they are numbered depth first behind those that were there before, which
are as they were. -/
theorem build_mirrors (s : Store) (m : Building.Means ε) (f : Forest) :
    ((∃ o, s.build m f = .error o) ↔ ∃ i ∈ Tree.walkAll f, isDecodable m i = false) ∧
    ((∀ i ∈ Tree.walkAll f, isDecodable m i = true) →
      ∃ (s' : Store) (hs : List (Tree Ref)),
        s.build m f = .ok (s', hs.map Tree.label) ∧
        Tree.AlignedAll (Mirrors m s') none f hs ∧
        Tree.walkAll hs = List.range' s.next (countAll f) ∧
        s'.next = s.next + countAll f ∧ ∀ r < s.next, s'.get r = s.get r) := by
  constructor
  · rw [build_elements, ← check_eq_error_iff]
    cases check m f with
    | error o => exact iff_of_true ⟨o, rfl⟩ ⟨o, rfl⟩
    | ok _ => exact iff_of_false nofun nofun
  · intro hall
    refine ⟨⟨s.elements ++ elementsAll m none s.next f⟩, handlesAll s.next f, ?_, ?_,
      walkAll_handlesAll s.next f, ?_, fun r hr => get_left hr⟩
    · rw [build_elements, check_eq_ok_iff.mpr hall]
      rfl
    · have haligned := alignedAll_elements m none s.next s.elements [] rfl f
      rw [List.append_nil] at haligned
      exact haligned
    · rw [next, List.length_append, length_elementsAll]
      rfl

/-- Attributes overrule an id and classes, and the last value of an attribute counts. -/
theorem build_mirrors_of_overruled :
    let m := Means.of {} ⟨[⟨['e'], ['t'], ['c'], []⟩]⟩
    let d : Node := ⟨['p'], [['a']], some ['x'], some ['c'],
      [⟨['i', 'd'], some ['y']⟩, ⟨['k'], none⟩,
        ⟨['c', 'l', 'a', 's', 's'], some ['u', ' ', 'v', ' ', 'u']⟩, ⟨['k'], some ['1']⟩],
      [['e'], ['o'], ['e']], List.cons_ne_nil _ _⟩
    let f : Forest := [.node ⟨d, some 1⟩ [.node ⟨Node.ofContent 'q' [], some 2⟩ []]]
    (∀ i ∈ Tree.walkAll f, isDecodable m i = true) ∧
      ∃ (s' : Store) (hs : List (Tree Ref)),
        build {} m f = .ok (s', hs.map Tree.label) ∧ Tree.AlignedAll (Mirrors m s') none f hs ∧
        s'.elements = [
          { tag := ['p'], id := some ['y'], classes := [['u'], ['v']],
            attributes := [⟨['k'], some ['1']⟩], children := [.text ['c'], .element 1],
            listeners := [⟨['e'], ['t'], ['c'], []⟩, ⟨['e'], ['t'], ['c'], []⟩] },
          { tag := ['q'], parent := some 0 }] := by
  intro m d f
  have hall : ∀ i ∈ Tree.walkAll f, isDecodable m i = true := by decide
  obtain ⟨s', hs, hbuild, haligned, -⟩ := (build_mirrors {} m f).2 hall
  refine ⟨hall, s', hs, hbuild, haligned, ?_⟩
  have hrun : build {} m f = .ok (_, [0]) := rfl
  rw [hrun] at hbuild
  rw [← (Prod.mk.inj (Except.ok.inj hbuild)).1]
  rfl

/-- **Nothing is built when the decoder of a host refuses some content.** -/
theorem not_build_of_refusing :
    let m : Means Unit := { decode := fun _ => .error (), lookup := fun _ => none }
    ¬ ∃ p, build {} m [.node ⟨Node.ofContent 'p' ['c'], some 1⟩ []] = .ok p := by
  rintro m ⟨p, hp⟩
  have hcheck : check m [.node ⟨Node.ofContent 'p' ['c'], some 1⟩ []] = .error () := rfl
  rw [build_eq, hcheck] at hp
  exact absurd hp nofun

end Store

end Outline.Dom
