import Outline.Dom.Building
import Outline.Proofs.Dom.Store
import Outline.Proofs.Tree.Subtrees

/-!
# Building forests one behind the other

The steps that build a forest name the elements that they make by counting.  A forest behind
another one is built by the same steps with **shifted** numbers, and shifting the numbers is the
same as starting at a later position of the store.

* `Building.stepsFrom_shift`, `Building.stepsFrom_append`: the steps of forests put together.
* `Store.next_performAll_stepsFrom`: how many elements a forest makes.
* `Store.performAll_mount`: elements that are there already can be mounted before or after
  building.
* `Store.build_append`: two forests are built one behind the other.
-/

namespace Outline.Dom

/-! ### Steps -/

namespace Step

def creates : Step → Bool
  | create _ => true
  | _ => false

/-- The step for elements that are made later. -/
def shift (k : Nat) : Step → Step
  | create tag => create tag
  | applyClass n name => applyClass (n + k) name
  | setId n id => setId (n + k) id
  | setAttribute n name value => setAttribute (n + k) name value
  | appendText n data => appendText (n + k) data
  | bind n b => bind (n + k) b
  | addChild p c => addChild (p + k) (c + k)

end Step

namespace Store

variable {s : Store} {base i : Ref}

theorem perform_shift (base k : Nat) (s : Store) (step : Step) :
    perform base s (step.shift k) = perform (base + k) s step := by
  have hadd : ∀ n, base + (n + k) = base + k + n := fun n => by
    rw [Nat.add_comm n k, Nat.add_assoc]
  cases step <;> simp only [Step.shift, perform, hadd]

theorem next_perform (base : Ref) (s : Store) (step : Step) :
    (perform base s step).next = s.next + if step.creates then 1 else 0 := by
  cases step <;> simp [perform, Step.creates]

theorem next_foldl_perform (base : Ref) (s : Store) (steps : List Step) :
    (steps.foldl (perform base) s).next = s.next + steps.countP Step.creates := by
  induction steps generalizing s with
  | nil => rfl
  | cons step steps ih =>
    rw [List.foldl_cons, ih, next_perform, List.countP_cons, Nat.add_right_comm, Nat.add_assoc]

/-- **Steps leave alone what was there before them**, so it can be changed before or after. -/
theorem perform_update (hi : i < base) (hbase : base ≤ s.next) (f : Element → Element)
    (step : Step) : perform base (s.update i f) step = (perform base s step).update i f := by
  have hne : ∀ n, i ≠ base + n := fun n => Nat.ne_of_lt (Nat.lt_add_right n hi)
  cases step with
  | create tag => exact update_create (Nat.lt_of_lt_of_le hi hbase) f tag
  | addChild p c =>
    simp only [perform, append_eq]
    rw [update_comm (hne c), update_comm (hne p)]
  | applyClass n | setId n | setAttribute n | appendText n | bind n =>
    exact update_comm (hne n) s f _

theorem foldl_perform_update (hi : i < base) (hbase : base ≤ s.next) (f : Element → Element)
    (steps : List Step) :
    steps.foldl (perform base) (s.update i f) = (steps.foldl (perform base) s).update i f := by
  induction steps generalizing s with
  | nil => rfl
  | cons step steps ih =>
    have hnext : base ≤ (perform base s step).next := by
      rw [next_perform]
      exact Nat.le_add_right_of_le hbase
    rw [List.foldl_cons, perform_update hi hbase, ih hnext, List.foldl_cons]

theorem get_perform (hi : i < base) (hbase : base ≤ s.next) (step : Step) :
    (perform base s step).get i = s.get i := by
  have hne : ∀ n, base + n ≠ i := fun n => Ne.symm (Nat.ne_of_lt (Nat.lt_add_right n hi))
  cases step with
  | create tag => exact get_left (Nat.lt_of_lt_of_le hi hbase)
  | addChild p c =>
    rw [perform, append_eq, get_update_of_ne (hne p), get_update_of_ne (hne c)]
  | applyClass n | setId n | setAttribute n | appendText n | bind n =>
    exact get_update_of_ne (hne n) s _

theorem get_performAll (hi : i < s.next) (steps : List Step) :
    (s.performAll steps).get i = s.get i := by
  have hrun : ∀ (s' : Store), s.next ≤ s'.next →
      (steps.foldl (perform s.next) s').get i = s'.get i := by
    induction steps with
    | nil => exact fun _ _ => rfl
    | cons step steps ih =>
      intro s' hs
      have hnext : s.next ≤ (perform s.next s' step).next := by
        rw [next_perform]
        exact Nat.le_add_right_of_le hs
      rw [List.foldl_cons, ih _ hnext, get_perform hi hs]
  exact hrun s (Nat.le_refl _)

theorem performAll_update (hi : i < s.next) (f : Element → Element) (steps : List Step) :
    (s.update i f).performAll steps = (s.performAll steps).update i f := by
  rw [performAll, next_update]
  exact foldl_perform_update hi (Nat.le_refl _) f steps

theorem performAll_append {parent child : Ref} (hp : parent < s.next) (hc : child < s.next)
    (steps : List Step) :
    (s.append parent child).performAll steps = (s.performAll steps).append parent child := by
  rw [append_eq, append_eq, performAll_update (by rw [next_update]; exact hp),
    performAll_update hc]

/-- **Elements that are there already can be mounted before or after building.** -/
theorem performAll_mount {container : Ref} {roots : List Ref} (hc : container < s.next)
    (hroots : ∀ r ∈ roots, r < s.next) (steps : List Step) :
    (s.mount container roots).performAll steps = (s.performAll steps).mount container roots := by
  induction roots generalizing s with
  | nil => rfl
  | cons r roots ih =>
    obtain ⟨hr, hrest⟩ := List.forall_mem_cons.mp hroots
    have hnext := next_append s container r
    have := ih (s := s.append container r) (by rwa [hnext]) (by rwa [hnext])
    rw [performAll_append hc hr] at this
    exact this

end Store

namespace Building

variable {ε : Type} {m : Means ε} {f : Item → Item}

/-! ### The steps of one tree -/

theorem countP_ownSteps (m : Means ε) (n : Nat) (d : Node) :
    (ownSteps m n d).countP Step.creates = 1 := by
  have hcontent : (contentSteps m n d).countP Step.creates = 0 := by
    rw [contentSteps]
    split <;> rfl
  simp [ownSteps, idSteps, List.countP_cons, List.countP_append, List.countP_map,
    Function.comp_def, hcontent, Step.creates]

theorem ownSteps_shift (m : Means ε) (n k : Nat) (d : Node) :
    ownSteps m (n + k) d = (ownSteps m n d).map (Step.shift k) := by
  have hcontent : contentSteps m (n + k) d = (contentSteps m n d).map (Step.shift k) := by
    rw [contentSteps, contentSteps]
    split <;> rfl
  simp only [ownSteps, idSteps, hcontent, List.map_append, List.map_cons, List.map_map]
  rfl

mutual

theorem countP_treeSteps (m : Means ε) (n : Nat) :
    ∀ t : Tree Item, (treeSteps m n t).countP Step.creates = count t
  | .node i ts => by
    rw [treeSteps, List.countP_append, countP_ownSteps, countP_childSteps m n (n + 1) ts, count]

theorem countP_childSteps (m : Means ε) (p n : Nat) :
    ∀ ts : List (Tree Item), (childSteps m p n ts).countP Step.creates = countAll ts
  | [] => rfl
  | t :: ts => by
    rw [childSteps, List.countP_append, countP_treeSteps m n t, List.countP_cons,
      countP_childSteps m p (n + count t) ts, countAll]
    rfl

end

mutual

theorem treeSteps_shift (m : Means ε) (n k : Nat) :
    ∀ t : Tree Item, treeSteps m (n + k) t = (treeSteps m n t).map (Step.shift k)
  | .node i ts => by
    rw [treeSteps, treeSteps, ownSteps_shift, List.map_append, Nat.add_right_comm,
      childSteps_shift m n (n + 1) k ts]

theorem childSteps_shift (m : Means ε) (p n k : Nat) :
    ∀ ts : List (Tree Item),
      childSteps m (p + k) (n + k) ts = (childSteps m p n ts).map (Step.shift k)
  | [] => rfl
  | t :: ts => by
    rw [childSteps, childSteps, treeSteps_shift m n k t, List.map_append, List.map_cons,
      Nat.add_right_comm, childSteps_shift m p (n + count t) k ts]
    rfl

end

/-! ### The steps of a forest -/

theorem stepsFrom_cons (m : Means ε) (n : Nat) (t : Tree Item) (ts : Forest) :
    stepsFrom m n (t :: ts) =
      (treeSteps m n t ++ (stepsFrom m (n + count t) ts).1,
        n :: (stepsFrom m (n + count t) ts).2) := rfl

theorem countP_stepsFrom (m : Means ε) (n : Nat) (ts : Forest) :
    (stepsFrom m n ts).1.countP Step.creates = countAll ts := by
  induction ts generalizing n with
  | nil => rfl
  | cons t ts ih => rw [stepsFrom_cons, List.countP_append, countP_treeSteps, ih, countAll]

theorem count_pos (t : Tree Item) : 0 < count t := by
  cases t
  rw [count]
  omega

mutual

theorem count_eq_length : ∀ t : Tree Item, count t = t.walk.length
  | .node i ts => by
    rw [count, Tree.walk, List.length_cons, countAll_eq_length ts, Nat.add_comm]

/-- **As many elements are made as there are nodes.** -/
theorem countAll_eq_length : ∀ ts : List (Tree Item), countAll ts = (Tree.walkAll ts).length
  | [] => rfl
  | t :: ts => by
    rw [countAll, Tree.walkAll, List.length_append, count_eq_length t, countAll_eq_length ts]

end

theorem lt_of_mem_roots {n r : Nat} {ts : Forest} (hr : r ∈ (stepsFrom m n ts).2) :
    r < n + countAll ts := by
  induction ts generalizing n with
  | nil => exact absurd hr List.not_mem_nil
  | cons t ts ih =>
    have hpos := count_pos t
    rw [countAll]
    rcases List.mem_cons.mp hr with rfl | hr
    · omega
    · have := ih hr
      omega

/-- **A forest behind another one has the same steps**, with shifted numbers. -/
theorem stepsFrom_shift (m : Means ε) (n k : Nat) (ts : Forest) :
    stepsFrom m (n + k) ts =
      ((stepsFrom m n ts).1.map (Step.shift k), (stepsFrom m n ts).2.map (· + k)) := by
  induction ts generalizing n with
  | nil => rfl
  | cons t ts ih =>
    rw [stepsFrom_cons, stepsFrom_cons, treeSteps_shift, Nat.add_right_comm, ih, List.map_append,
      List.map_cons]

/-- **The steps of two forests are those of one and of the other behind it.** -/
theorem stepsFrom_append (m : Means ε) (n : Nat) (ts us : Forest) :
    stepsFrom m n (ts ++ us) =
      ((stepsFrom m n ts).1 ++ (stepsFrom m (n + countAll ts) us).1,
        (stepsFrom m n ts).2 ++ (stepsFrom m (n + countAll ts) us).2) := by
  induction ts generalizing n with
  | nil => rfl
  | cons t ts ih =>
    rw [List.cons_append, stepsFrom_cons, ih, stepsFrom_cons, countAll, Nat.add_assoc,
      List.append_assoc, List.cons_append]

theorem check_eq (m : Means ε) (ts : Forest) :
    check m ts = ((Tree.walkAll ts).map Item.node).forM fun d => (m.content d).map fun _ => () := by
  rw [check, List.forM_eq_forM, List.forM_eq_forM, List.forM_map]

/-- **A forest is refused for content that cannot be decoded**, and for nothing else. -/
theorem check_eq_ok_iff {ts : Forest} :
    check m ts = .ok () ↔ ∀ i ∈ Tree.walkAll ts, isDecodable m i = true := by
  rw [check, List.forM_eq_forM]
  induction Tree.walkAll ts with
  | nil => exact iff_of_true rfl nofun
  | cons i is ih =>
    rw [List.forM_cons, List.forall_mem_cons, isDecodable]
    cases m.content i.node with
    | error o => exact iff_of_false nofun fun h => absurd h.1 nofun
    | ok c => exact ih.trans ⟨fun h => ⟨rfl, h⟩, And.right⟩

theorem check_eq_error_iff {ts : Forest} :
    (∃ o, check m ts = .error o) ↔ ∃ i ∈ Tree.walkAll ts, isDecodable m i = false := by
  have hok : check m ts = .ok () ↔ ∀ i ∈ Tree.walkAll ts, isDecodable m i = true :=
    check_eq_ok_iff
  cases hcheck : check m ts with
  | error o =>
    have hnot : ¬ ∀ i ∈ Tree.walkAll ts, isDecodable m i = true := fun hall =>
      absurd (hcheck.symm.trans (hok.mpr hall)) nofun
    simpa using hnot
  | ok _ =>
    have hall := hok.mp hcheck
    refine iff_of_false nofun fun ⟨i, hi, hno⟩ => ?_
    exact Bool.false_ne_true (hno.symm.trans (hall i hi))

theorem check_append (m : Means ε) (ts us : Forest) :
    check m (ts ++ us) = (check m ts).bind fun _ => check m us := by
  rw [check, check, check, Tree.walkAll_eq_flatMap, List.flatMap_append, ← Tree.walkAll_eq_flatMap,
    ← Tree.walkAll_eq_flatMap]
  exact List.forM_append

/-! ### Labels -/

mutual

theorem count_map (f : Item → Item) : ∀ t : Tree Item, count (t.map f) = count t
  | .node i ts => by rw [Tree.map, count, count, countAll_mapAll f ts]

theorem countAll_mapAll (f : Item → Item) :
    ∀ ts : List (Tree Item), countAll (Tree.mapAll f ts) = countAll ts
  | [] => rfl
  | t :: ts => by rw [Tree.mapAll, countAll, countAll, count_map f t, countAll_mapAll f ts]

end

mutual

/-- **Building looks at the nodes alone**, not at the lines they come from. -/
theorem treeSteps_map (m : Means ε) (hf : ∀ i, (f i).node = i.node) (n : Nat) :
    ∀ t : Tree Item, treeSteps m n (t.map f) = treeSteps m n t
  | .node i ts => by rw [Tree.map, treeSteps, treeSteps, hf, childSteps_mapAll m hf n (n + 1) ts]

theorem childSteps_mapAll (m : Means ε) (hf : ∀ i, (f i).node = i.node) (p n : Nat) :
    ∀ ts : List (Tree Item), childSteps m p n (Tree.mapAll f ts) = childSteps m p n ts
  | [] => rfl
  | t :: ts => by
    rw [Tree.mapAll, childSteps, childSteps, treeSteps_map m hf n t, count_map,
      childSteps_mapAll m hf p (n + count t) ts]

end

theorem stepsFrom_map (m : Means ε) (hf : ∀ i, (f i).node = i.node) (n : Nat) (ts : Forest) :
    stepsFrom m n (ts.map (Tree.map f)) = stepsFrom m n ts := by
  induction ts generalizing n with
  | nil => rfl
  | cons t ts ih =>
    rw [List.map_cons, stepsFrom_cons, stepsFrom_cons, treeSteps_map m hf, count_map, ih]

theorem check_map (m : Means ε) (hf : ∀ i, (f i).node = i.node) (ts : Forest) :
    check m (ts.map (Tree.map f)) = check m ts := by
  have hnode : Item.node ∘ f = Item.node := funext hf
  rw [check_eq, check_eq, Tree.walkAll_map, List.map_map, hnode]

end Building

namespace Store

variable {ε : Type} {s : Store} {m : Building.Means ε}

open Building

theorem next_performAll_stepsFrom (s : Store) (m : Means ε) (n : Nat) (ts : Forest) :
    (s.performAll (stepsFrom m n ts).1).next = s.next + countAll ts := by
  rw [performAll, next_foldl_perform, countP_stepsFrom]

theorem build_eq (s : Store) (m : Means ε) (ts : Forest) :
    s.build m ts = (check m ts).map fun _ =>
      (s.performAll (stepsFrom m 0 ts).1, (stepsFrom m 0 ts).2.map (s.next + ·)) := by
  rw [build, steps]
  cases check m ts <;> rfl

/-- **Two forests are built one behind the other.** -/
theorem build_append (s : Store) (m : Means ε) (ts us : Forest) :
    s.build m (ts ++ us) =
      (s.build m ts).bind fun p => (p.1.build m us).map fun q => (q.1, p.2 ++ q.2) := by
  have hnext := next_performAll_stepsFrom s m 0 ts
  have hsteps : stepsFrom m (0 + countAll ts) us =
      ((stepsFrom m 0 us).1.map (Step.shift (countAll ts)),
        (stepsFrom m 0 us).2.map (· + countAll ts)) := stepsFrom_shift m 0 (countAll ts) us
  -- the second forest starts where the first one ends
  have hrun : s.performAll (stepsFrom m 0 (ts ++ us)).1 =
      (s.performAll (stepsFrom m 0 ts).1).performAll (stepsFrom m 0 us).1 := by
    rw [stepsFrom_append, hsteps, performAll, List.foldl_append, List.foldl_map,
      performAll.eq_def (s.performAll _), hnext]
    simp only [perform_shift]
    rfl
  have hroots : (stepsFrom m 0 (ts ++ us)).2.map (s.next + ·) =
      (stepsFrom m 0 ts).2.map (s.next + ·) ++
        (stepsFrom m 0 us).2.map ((s.performAll (stepsFrom m 0 ts).1).next + ·) := by
    rw [stepsFrom_append, hsteps, hnext, List.map_append, List.map_map]
    congr 1
    refine List.map_congr_left fun r _ => ?_
    rw [Function.comp_apply, Nat.add_comm r, Nat.add_assoc]
  rw [build_eq, build_eq, check_append, hrun, hroots]
  cases check m ts with
  | error o => rfl
  | ok _ =>
    simp only [Except.bind, Except.map, build_eq]
    cases check m us <;> rfl

/-- **A forest can be built before or after elements are mounted.** -/
theorem build_mount {container : Ref} {roots : List Ref} (hc : container < s.next)
    (hroots : ∀ r ∈ roots, r < s.next) (m : Means ε) (ts : Forest) :
    (s.mount container roots).build m ts =
      (s.build m ts).map fun q => (q.1.mount container roots, q.2) := by
  rw [build_eq, build_eq, performAll_mount hc hroots, next_mount]
  cases check m ts <;> rfl

theorem next_of_build {ts : Forest} {p : Store × List Ref} (h : s.build m ts = .ok p) :
    s.next ≤ p.1.next ∧ ∀ r ∈ p.2, r < p.1.next := by
  rw [build_eq] at h
  cases hcheck : check m ts with
  | error o =>
    rw [hcheck] at h
    exact absurd h nofun
  | ok _ =>
    rw [hcheck] at h
    obtain rfl := Except.ok.inj h
    simp only [next_performAll_stepsFrom]
    refine ⟨Nat.le_add_right s.next (countAll ts), fun r hr => ?_⟩
    obtain ⟨n, hn, rfl⟩ := List.mem_map.mp hr
    have := lt_of_mem_roots hn
    exact Nat.add_lt_add_left (by omega) s.next

theorem build_map (s : Store) (m : Means ε) {f : Item → Item} (hf : ∀ i, (f i).node = i.node)
    (ts : Forest) : s.build m (ts.map (Tree.map f)) = s.build m ts := by
  rw [build_eq, build_eq, check_map m hf, stepsFrom_map m hf]

end Store

end Outline.Dom
