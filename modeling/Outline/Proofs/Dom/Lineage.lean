import Mathlib.Data.List.Basic
import Outline.Proofs.Dom.Attaching
import Outline.Proofs.Dom.Store

/-!
# Parents and children

An element lists its children, and a child knows its parent.  Attaching changes both and takes
nothing away, so the two agree as long as what is attached has no parent yet.

* `Store.Linked`: stores in which parents and children agree.
* `Store.linked_foldl_perform`: steps that attach no element twice keep it so.
* `Store.Linked.count_children`: how often an element is listed in all.
* `Store.ancestor`: the parent of the parent, and so on.
* `Store.linked_attached_iff`: what becomes of an element that is attached again.
-/

namespace Outline.Dom.Store

variable {s : Store} {base k p q c r : Nat}

/-- How often an element is among the children of another. -/
def listings (s : Store) (p c : Ref) : Nat := (s.get p).children.count (.element c)

/-- **Parents and children agree**: an element is listed once by its parent, and by no other. -/
def Linked (s : Store) : Prop :=
  ∀ p c, s.listings p c = if (s.get c).parent = some p then 1 else 0

/-- **Parents come first** in a store. -/
def ParentsFirst (s : Store) : Prop := ∀ r p, (s.get r).parent = some p → p < r

/-! ### Elements after changes -/

theorem get_create (s : Store) (tag : Text) (r : Ref) :
    (s.create tag).get r = if r = s.next then { tag := tag } else s.get r := by
  rcases Nat.lt_trichotomy r s.next with hr | rfl | hr
  · rw [if_neg (Nat.ne_of_lt hr)]
    exact get_left hr
  · rw [if_pos rfl]
    exact get_middle rfl
  · have hnext : (s.create tag).next ≤ r := by
      rw [next_create]
      exact hr
    rw [if_neg (Nat.ne_of_gt hr), get_of_le hnext, get_of_le (Nat.le_of_lt hr)]

theorem parent_append (hc : c < s.next) (p r : Ref) :
    ((s.append p c).get r).parent = if r = c then some p else (s.get r).parent := by
  have hchild : ((s.update c fun e => { e with parent := some p }).get r).parent =
      if r = c then some p else (s.get r).parent := by
    rw [get_update]
    by_cases hr : r = c
    · rw [if_pos ⟨hr, hc⟩, if_pos hr]
    · rw [if_neg fun h => hr h.1, if_neg hr]
  rw [append_eq, get_update]
  split <;> exact hchild

theorem children_append (hp : p < s.next) (c q : Ref) :
    ((s.append p c).get q).children =
      (s.get q).children ++ if q = p then [.element c] else [] := by
  have hsame : ((s.update c fun e => { e with parent := some p }).get q).children =
      (s.get q).children := by
    rw [get_update]
    split <;> rfl
  rw [append_eq, get_update, next_update]
  by_cases hq : q = p
  · rw [if_pos ⟨hq, hp⟩, if_pos hq, hsame]
  · rw [if_neg fun h => hq h.1, if_neg hq, List.append_nil, hsame]

theorem listings_append (hp : p < s.next) (c q r : Ref) :
    (s.append p c).listings q r = s.listings q r + if q = p ∧ r = c then 1 else 0 := by
  rw [listings, children_append hp, List.count_append, listings]
  by_cases hq : q = p
  · by_cases hr : r = c
    · subst hr
      simp [hq]
    · simp [hq, hr, Ne.symm hr]
  · simp [hq]

/-! ### Parents and children that agree -/

theorem Linked.lt_of_parent (h : s.Linked) (hp : (s.get c).parent = some p) : p < s.next := by
  by_contra hle
  have hone := h p c
  rw [if_pos hp, listings, get_of_le (Nat.le_of_not_lt hle)] at hone
  exact absurd hone nofun

theorem Linked.mem_children_iff (h : s.Linked) :
    .element c ∈ (s.get p).children ↔ (s.get c).parent = some p := by
  have hcount := h p c
  rw [listings] at hcount
  rw [← List.count_pos_iff, hcount]
  split <;> simp [*]

/-- **Attaching an element without a parent** keeps parents and children in agreement. -/
theorem Linked.append (h : s.Linked) (hp : p < s.next) (hc : c < s.next)
    (hfree : (s.get c).parent = none) : (s.append p c).Linked := by
  intro q r
  rw [listings_append hp, parent_append hc, h q r]
  by_cases hr : r = c
  · subst hr
    by_cases hq : q = p
    · simp [hq, hfree]
    · simp [hq, Ne.symm hq, hfree]
  · simp [hr]

theorem Linked.of_same {s' : Store} (h : s.Linked)
    (hparent : ∀ r, (s'.get r).parent = (s.get r).parent)
    (hlistings : ∀ p c, s'.listings p c = s.listings p c) : s'.Linked := by
  intro p c
  rw [hlistings, hparent, h p c]

theorem count_flatMap_children (s : Store) (r : Ref) :
    (s.elements.flatMap Element.children).count (.element r) =
      ((List.range s.next).map (s.listings · r)).sum := by
  have hget : s.elements = (List.range s.next).map s.get := by
    refine List.ext_getElem (by simp [next]) fun i hi hi' => ?_
    rw [List.getElem_map, List.getElem_range, get, List.getD_eq_getElem?_getD,
      List.getElem?_eq_getElem hi]
    rfl
  rw [List.count_flatMap]
  conv_lhs => rw [hget, List.map_map]
  rfl

theorem sum_map_ite_eq (l : List Nat) (a : Nat) :
    (l.map fun x => if some a = some x then 1 else 0).sum = l.count a := by
  induction l with
  | nil => rfl
  | cons x l ih =>
    rw [List.map_cons, List.sum_cons, ih, List.count_cons, Nat.add_comm]
    by_cases hx : x = a
    · simp [hx]
    · simp [hx, Ne.symm hx]

/-- **An element with a parent is listed exactly once**, and any other is not listed. -/
theorem Linked.count_children (h : s.Linked) (r : Ref) :
    (s.elements.flatMap Element.children).count (.element r) =
      if (s.get r).parent.isSome then 1 else 0 := by
  simp only [count_flatMap_children, h _ r]
  cases hparent : (s.get r).parent with
  | none => simp
  | some p =>
    rw [sum_map_ite_eq, List.count_range, if_pos (h.lt_of_parent hparent)]
    rfl

/-! ### Parents and children after steps -/

theorem parent_create (s : Store) (tag : Text) (r : Ref) :
    ((s.create tag).get r).parent = (s.get r).parent := by
  rw [get_create]
  split
  next hr =>
    rw [hr, get_of_le (Nat.le_refl _)]
    rfl
  next => rfl

theorem listings_create (s : Store) (tag : Text) (p c : Ref) :
    (s.create tag).listings p c = s.listings p c := by
  rw [listings, listings, get_create]
  split
  next hr =>
    rw [hr, get_of_le (Nat.le_refl _)]
    rfl
  next => rfl

theorem Linked.create (h : s.Linked) (tag : Text) : (s.create tag).Linked :=
  h.of_same (parent_create s tag) (listings_create s tag)

/-- The element with a change that concerns neither its parent nor elements below it. -/
def KeepsLinks (f : Element → Element) : Prop :=
  ∀ e, (f e).parent = e.parent ∧
    ∀ c, (f e).children.count (.element c) = e.children.count (.element c)

theorem parent_update {f : Element → Element} (hf : KeepsLinks f) (s : Store) (i r : Ref) :
    ((s.update i f).get r).parent = (s.get r).parent := by
  rw [get_update]
  split
  · exact (hf _).1
  · rfl

theorem listings_update {f : Element → Element} (hf : KeepsLinks f) (s : Store) (i p c : Ref) :
    (s.update i f).listings p c = s.listings p c := by
  rw [listings, listings, get_update]
  split
  · exact (hf _).2 c
  · rfl

theorem keepsLinks_addText (data : Text) : KeepsLinks (·.addText data) := by
  refine fun e => ⟨rfl, fun c => ?_⟩
  show (e.children ++ [Child.text data]).count (Child.element c) = _
  rw [List.count_append]
  rfl

theorem keepsLinks_setAttribute (name : Text) (value : Option Text) :
    KeepsLinks (·.setAttribute name value) := by
  intro e
  simp only [Element.setAttribute]
  split
  · exact ⟨rfl, fun _ => rfl⟩
  · split <;> exact ⟨rfl, fun _ => rfl⟩

/-- **A step that attaches nothing** leaves parents and children as they are. -/
theorem perform_of_child_none {step : Step} (h : step.child? = none) (base : Ref) (s : Store) :
    (∀ r, ((s.perform base step).get r).parent = (s.get r).parent) ∧
      ∀ p c, (s.perform base step).listings p c = s.listings p c := by
  have hupdate {f : Element → Element} (hf : KeepsLinks f) (i : Ref) :=
    And.intro (parent_update hf s i) (listings_update hf s i)
  cases step with
  | create tag => exact ⟨parent_create s tag, listings_create s tag⟩
  | applyClass | setId | bind =>
    refine hupdate ?_ _
    exact fun _ => ⟨rfl, fun _ => rfl⟩
  | setAttribute n name value => exact hupdate (keepsLinks_setAttribute name value) _
  | appendText n data => exact hupdate (keepsLinks_addText data) _
  | addChild => exact absurd h nofun

/-- **Steps that attach no element twice**, and none that has a parent, keep parents and children
in agreement. -/
theorem linked_foldl_perform {steps : List Step} (hscoped : Scoped k steps)
    (hnext : s.next = base + k) (honce : (attached steps).Nodup)
    (hfree : ∀ c ∈ attached steps, (s.get (base + c)).parent = none)
    (h : s.Linked) : (steps.foldl (perform base) s).Linked := by
  induction steps generalizing s k with
  | nil => exact h
  | cons step steps ih =>
    obtain ⟨hmentions, hscoped⟩ := hscoped
    have hnext' : (s.perform base step).next = base + step.advance k := by
      rw [next_perform, hnext, Step.advance, Nat.add_assoc]
    rw [List.foldl_cons]
    cases hchild : step.child? with
    | none =>
      obtain ⟨hparent, hlistings⟩ := perform_of_child_none hchild base s
      rw [attached_cons_of_none hchild] at honce hfree
      refine ih hscoped hnext' honce (fun c hc => ?_) (h.of_same hparent hlistings)
      rw [hparent]
      exact hfree c hc
    | some c =>
      rw [attached_cons_of_some hchild] at honce hfree
      obtain ⟨hnot, hothers⟩ := List.nodup_cons.mp honce
      obtain ⟨hfirst, hrest⟩ := List.forall_mem_cons.mp hfree
      cases step with
      | addChild p c' =>
        obtain rfl := Option.some.inj hchild
        have hlt : ∀ r ∈ [p, c'], base + r < s.next := by
          intro r hr
          rw [hnext]
          exact Nat.add_lt_add_left (hmentions r hr) base
        have hp := hlt p List.mem_cons_self
        have hc := hlt c' (List.mem_cons_of_mem p List.mem_cons_self)
        refine ih hscoped hnext' hothers (fun c hmem => ?_) (h.append hp hc hfirst)
        -- what is attached later is another element
        have hne : base + c ≠ base + c' := fun heq => hnot (Nat.add_left_cancel heq ▸ hmem)
        rw [perform, parent_append hc, if_neg hne]
        exact hrest c hmem
      | create | applyClass | setId | setAttribute | appendText | bind => cases hchild

/-- **A parent that is new** comes of a step that attaches. -/
theorem parent_foldl_perform (base : Ref) (steps : List Step) (s : Store) (r : Ref) :
    ((steps.foldl (perform base) s).get r).parent = (s.get r).parent ∨
      ∃ p c, .addChild p c ∈ steps ∧ r = base + c ∧
        ((steps.foldl (perform base) s).get r).parent = some (base + p) := by
  induction steps generalizing s with
  | nil => exact .inl rfl
  | cons step steps ih =>
    rw [List.foldl_cons]
    rcases ih (s.perform base step) with hsame | ⟨p, c, hmem, hr, hparent⟩
    · cases hchild : step.child? with
      | none => exact .inl (hsame.trans ((perform_of_child_none hchild base s).1 r))
      | some c =>
        cases step with
        | addChild p c =>
          rw [hsame, perform]
          by_cases hc : base + c < s.next
          · rw [parent_append hc]
            split
            next hr => exact .inr ⟨p, c, List.mem_cons_self, hr, rfl⟩
            next => exact .inl rfl
          · -- an element that is not there yet cannot be attached
            left
            rw [append_eq, get_update, get_update, if_neg (c := r = base + c ∧ _) fun h => hc h.2]
            split <;> rfl
        | create | applyClass | setId | setAttribute | appendText | bind => cases hchild
    · exact .inr ⟨p, c, List.mem_cons_of_mem step hmem, hr, hparent⟩

/-! ### Elements that are mounted -/

theorem parent_mount {container : Ref} {roots : List Ref} (hroots : ∀ r ∈ roots, r < s.next)
    (r : Ref) :
    ((s.mount container roots).get r).parent =
      if r ∈ roots then some container else (s.get r).parent := by
  induction roots generalizing s with
  | nil => simp [mount]
  | cons x roots ih =>
    obtain ⟨hx, hroots⟩ := List.forall_mem_cons.mp hroots
    have hrest := ih (s := s.append container x) (by simpa using hroots)
    rw [parent_append hx] at hrest
    rw [mount, List.foldl_cons, ← mount, hrest]
    by_cases hr : r ∈ roots
    · simp [hr]
    · simp [hr]

theorem listings_mount {container : Ref} (hcontainer : container < s.next) (roots : List Ref)
    (q r : Ref) :
    (s.mount container roots).listings q r =
      s.listings q r + if q = container then roots.count r else 0 := by
  induction roots generalizing s with
  | nil => simp [mount]
  | cons x roots ih =>
    have hrest := ih (s := s.append container x) (by simpa using hcontainer)
    rw [listings_append hcontainer] at hrest
    rw [mount, List.foldl_cons, ← mount, hrest, List.count_cons]
    by_cases hq : q = container
    · by_cases hr : r = x
      · simp [hq, hr]
        omega
      · simp [hq, hr, Ne.symm hr]
    · simp [hq]

/-- **Elements without parents that are mounted**, each once, keep parents and children in
agreement. -/
theorem Linked.mount {container : Ref} {roots : List Ref} (h : s.Linked)
    (hcontainer : container < s.next) (honce : roots.Nodup)
    (hfree : ∀ r ∈ roots, r < s.next ∧ (s.get r).parent = none) :
    (s.mount container roots).Linked := by
  induction roots generalizing s with
  | nil => exact h
  | cons x roots ih =>
    obtain ⟨hnot, honce⟩ := List.nodup_cons.mp honce
    obtain ⟨⟨hx, hparent⟩, hfree⟩ := List.forall_mem_cons.mp hfree
    refine ih (h.append hcontainer hx hparent) (by simpa using hcontainer) honce fun r hr => ?_
    have hne : r ≠ x := fun heq => hnot (heq ▸ hr)
    rw [next_append, parent_append hx, if_neg hne]
    exact hfree r hr

/-- **No other elements can be mounted** if parents and children are to stay in agreement. -/
theorem linked_mount_iff {container : Ref} {roots : List Ref} (h : s.Linked)
    (hcontainer : container < s.next) (hroots : ∀ r ∈ roots, r < s.next) :
    (s.mount container roots).Linked ↔ roots.Nodup ∧ ∀ r ∈ roots, (s.get r).parent = none := by
  constructor
  · intro hmounted
    have hlisted : ∀ r ∈ roots, ∀ q,
        s.listings q r + (if q = container then roots.count r else 0) =
          if q = container then 1 else 0 := by
      intro r hr q
      have hq := hmounted q r
      rw [listings_mount hcontainer, parent_mount hroots, if_pos hr] at hq
      rw [hq]
      simp [eq_comm]
    constructor
    · rw [List.nodup_iff_count_le_one]
      intro r
      by_cases hr : r ∈ roots
      · have hcount := hlisted r hr container
        rw [if_pos rfl, if_pos rfl] at hcount
        omega
      · rw [List.count_eq_zero_of_not_mem hr]
        omega
    · intro r hr
      cases hparent : (s.get r).parent with
      | none => rfl
      | some q =>
        -- the old parent still lists it, next to the container or twice
        have hold := h q r
        have hnew := hlisted r hr q
        have hpos : 0 < roots.count r := List.count_pos_iff.mpr hr
        rw [hparent, if_pos rfl] at hold
        by_cases hq : q = container
        · rw [if_pos hq, if_pos hq] at hnew
          omega
        · rw [if_neg hq, if_neg hq] at hnew
          omega
  · rintro ⟨honce, hfree⟩
    exact h.mount hcontainer honce fun r hr => ⟨hroots r hr, hfree r hr⟩

/-! ### Ancestors -/

/-- The element that is so many parents above another. -/
def ancestor (s : Store) : Nat → Ref → Option Ref
  | 0, r => some r
  | n + 1, r => (s.get r).parent.bind (s.ancestor n)

/-- **Above an element of a set that parents leave only for a base** there is an element of the
base. -/
theorem ParentsFirst.exists_ancestor (h : s.ParentsFirst) {top made : Ref → Prop}
    (hmade : ∀ r, made r → ∃ p, (s.get r).parent = some p ∧ (top p ∨ made p)) {r : Ref}
    (hr : made r) : ∃ n a, s.ancestor n r = some a ∧ top a := by
  induction r using Nat.strong_induction_on with
  | _ r ih =>
    obtain ⟨p, hparent, hp⟩ := hmade r hr
    rcases hp with hp | hp
    · exact ⟨1, p, by rw [ancestor, hparent]; rfl, hp⟩
    · obtain ⟨n, a, ha, htop⟩ := ih p (h r p hparent) hp
      exact ⟨n + 1, a, by rw [ancestor, hparent]; exact ha, htop⟩

/-! ### Elements that are attached again -/

/-- Parents and children **agree about an element**. -/
def LinkedAt (s : Store) (c : Ref) : Prop :=
  ∀ p, s.listings p c = if (s.get c).parent = some p then 1 else 0

/-- **When attaching keeps parents and children in agreement.**  An element is attached to another.
The two agree afterwards exactly when it had no parent before.  In any case they agree about all
other elements, it has the new parent, and it is listed by the new parent and by the old one.  The
same goes for elements that are mounted: they must be different and without parents. -/
theorem linked_attached_iff (h : s.Linked) (hp : p < s.next) :
    (∀ c < s.next, ((s.append p c).Linked ↔ (s.get c).parent = none) ∧
      (∀ r, r ≠ c → (s.append p c).LinkedAt r) ∧ ((s.append p c).get c).parent = some p ∧
      ∀ q, .element c ∈ ((s.append p c).get q).children ↔ q = p ∨ (s.get c).parent = some q) ∧
    ∀ roots : List Ref, (∀ r ∈ roots, r < s.next) →
      ((s.mount p roots).Linked ↔ roots.Nodup ∧ ∀ r ∈ roots, (s.get r).parent = none) := by
  refine ⟨fun c hc => ⟨?_, ?_, ?_, ?_⟩, fun roots hroots => linked_mount_iff h hp hroots⟩
  · -- what is attached is the only element mounted
    have hmount : (s.mount p [c]).Linked ↔ _ := linked_mount_iff h hp (by simpa using hc)
    simpa [mount] using hmount
  · intro r hr q
    rw [listings_append hp, parent_append hc, if_neg fun h => hr h.2, if_neg hr]
    exact h q r
  · rw [parent_append hc, if_pos rfl]
  · intro q
    rw [children_append hp, List.mem_append, h.mem_children_iff, or_comm]
    by_cases hq : q = p
    · simp [hq]
    · simp [hq]

def nestedStore : Store :=
  ⟨[{ tag := ['a'], children := [.element 1] }, { tag := ['b'], parent := some 0 },
    { tag := ['c'] }, { tag := ['d'] }]⟩

theorem linked_nestedStore : nestedStore.Linked := by
  intro p c
  rcases p with _ | _ | _ | _ | p <;> rcases c with _ | _ | _ | _ | c <;> rfl

/-- The element below another cannot be attached to a free one, a free element can be attached to
it, and several can be mounted only once each. -/
theorem linked_attached_of_nested :
    nestedStore.Linked ∧ 2 < nestedStore.next ∧ ¬ (nestedStore.append 2 1).Linked ∧
      .element 1 ∈ ((nestedStore.append 2 1).get 0).children ∧ (nestedStore.append 1 2).Linked ∧
      (nestedStore.mount 2 [3, 0]).Linked ∧ ¬ (nestedStore.mount 2 [3, 0, 3]).Linked := by
  have htwo : 2 < nestedStore.next := by decide
  have hone : 1 < nestedStore.next := by decide
  obtain ⟨happend, hmount⟩ := linked_attached_iff linked_nestedStore htwo
  obtain ⟨hattached, -, -, hlisted⟩ := happend 1 hone
  have hfree := ((linked_attached_iff linked_nestedStore hone).1 2 htwo).1
  refine ⟨linked_nestedStore, htwo, ?_, (hlisted 0).mpr (.inr rfl), hfree.mpr rfl, ?_, ?_⟩
  · rw [hattached]
    exact Option.some_ne_none 0
  · rw [hmount [3, 0] (by decide)]
    exact ⟨by decide, by decide⟩
  · rw [hmount [3, 0, 3] (by decide)]
    exact fun h => absurd h.1 (by decide)

/-- **An element that is attached elsewhere** is listed twice afterwards, although it is neither the
new parent nor above it. -/
theorem not_linked_append_of_nested :
    ¬ ∀ (s : Store) (p c : Ref), s.Linked → p < s.next → c < s.next → c ≠ p →
      (∀ n, s.ancestor n p ≠ some c) → (s.append p c).Linked := by
  intro hlinked
  have habove : ∀ n, nestedStore.ancestor n 2 ≠ some 1 := by
    intro n
    cases n with
    | zero => decide
    | succ n => exact nofun
  have happend : (nestedStore.append 2 1).Linked :=
    hlinked nestedStore 2 1 linked_nestedStore (by decide) (by decide) (by decide) habove
  exact absurd (happend 0 1) (by decide)

end Outline.Dom.Store
