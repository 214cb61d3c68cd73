import Mathlib.Data.List.Lex
import Outline.Proofs.Text.Basic
import Outline.Proofs.Tree.Stack
import Outline.Tree.Listing

/-!
# Reading a listing

A line of a listing shows a guide for each level and then the label.  The guides are told by the
**route** to the node: the one that leads to it bends for a last sibling, and the ones above run on
beside the later siblings of the nodes on the way.  Though they depend on all these nodes, a line
can be read without them: only the last guide is a branch.

* `Tree.placedAll`: the labels of a forest depth first, each with its route.
* `Tree.guides`: the guides in front of a node.
* `Tree.listing_eq`: the lines of a forest, told one by one.
* `Tree.readRow`, `Tree.ofListing`: a line read, and a forest read back from its listing.
* `Tree.ofListing_listing`: a listing tells the labels and the shape of a forest.
-/

namespace Outline.Tree

variable {α : Type}

/-! ### Routes in a forest -/

/-- The node at the end of a route, which starts with the position of a root. -/
def nodeAt (ts : List (Tree α)) : Route → Option (Tree α)
  | [] => none
  | i :: r => ts[i]?.bind fun t => t.subtreeAt r

def nextSibling : Route → Route
  | [] => []
  | [i] => [i + 1]
  | i :: j :: r => i :: nextSibling (j :: r)

/-- No sibling comes after the node at the end of a route. -/
def isLast (ts : List (Tree α)) (r : Route) : Bool := (nodeAt ts (nextSibling r)).isNone

theorem subtreeAt_node_cons (a : α) (us : List (Tree α)) (i : Nat) (r : Route) :
    (node a us).subtreeAt (i :: r) = nodeAt us (i :: r) := rfl

theorem isLast_singleton (ts : List (Tree α)) (i : Nat) :
    isLast ts [i] = decide (ts.length ≤ i + 1) := by
  rw [isLast, nextSibling, nodeAt]
  by_cases h : ts.length ≤ i + 1
  · simp [h]
  · have hi : i + 1 < ts.length := Nat.lt_of_not_le h
    simp [h, List.getElem?_eq_getElem hi, subtreeAt]

theorem isLast_cons {ts us : List (Tree α)} {a : α} {i : Nat} (h : ts[i]? = some (node a us))
    (j : Nat) (r : Route) : isLast ts (i :: j :: r) = isLast us (j :: r) := by
  have hnext : ∃ k r', nextSibling (j :: r) = k :: r' := by
    cases r with
    | nil => exact ⟨j + 1, [], rfl⟩
    | cons k r => exact ⟨j, nextSibling (k :: r), rfl⟩
  obtain ⟨k, r', hnext⟩ := hnext
  rw [isLast, isLast, nextSibling, hnext, nodeAt, h, Option.bind_some, subtreeAt_node_cons]

theorem exists_siblings (ts : List (Tree α)) (r : Route) :
    ∃ us : List (Tree α), ∀ k, nodeAt ts (r ++ [k]) = us[k]? := by
  induction r generalizing ts with
  | nil =>
    refine ⟨ts, fun k => ?_⟩
    show (ts[k]?.bind fun t => t.subtreeAt []) = ts[k]?
    cases ts[k]? <;> simp [subtreeAt]
  | cons i r ih =>
    cases hget : ts[i]? with
    | none => exact ⟨[], fun k => by simp [nodeAt, hget]⟩
    | some t =>
      obtain ⟨a, us⟩ := t
      obtain ⟨vs, hvs⟩ := ih us
      refine ⟨vs, fun k => ?_⟩
      rw [← hvs k, List.cons_append, nodeAt, hget, Option.bind_some]
      cases r <;> rfl

theorem nextSibling_concat (r : Route) (i : Nat) : nextSibling (r ++ [i]) = r ++ [i + 1] := by
  induction r with
  | nil => rfl
  | cons j r ih =>
    cases r with
    | nil => rfl
    | cons k r =>
      rw [List.cons_append, List.cons_append, nextSibling, ← List.cons_append, ih]
      rfl

/-- **A last sibling** is one that no sibling comes after. -/
theorem isLast_concat_iff {ts : List (Tree α)} {r : Route} {i : Nat} :
    isLast ts (r ++ [i]) = true ↔ ∀ k, i < k → nodeAt ts (r ++ [k]) = none := by
  obtain ⟨us, hus⟩ := exists_siblings ts r
  rw [isLast, nextSibling_concat, hus, Option.isNone_iff_eq_none, List.getElem?_eq_none_iff]
  constructor
  · intro hle k hk
    rw [hus, List.getElem?_eq_none_iff]
    omega
  · intro h
    rw [← List.getElem?_eq_none_iff, ← hus]
    exact h (i + 1) (Nat.lt_succ_self i)

/-! ### Labels with their routes -/

mutual

def placed : Tree α → List (Route × α)
  | node a ts => ([], a) :: placedAll 0 ts

/-- The labels of several trees depth first, each with its route, when the first of them stands at
the position `k`. -/
def placedAll (k : Nat) : List (Tree α) → List (Route × α)
  | [] => []
  | t :: ts => (placed t).map (Prod.map (k :: ·) id) ++ placedAll (k + 1) ts

end

theorem placed_node (a : α) (ts : List (Tree α)) :
    (node a ts).placed = ([], a) :: placedAll 0 ts := by
  rw [placed]

theorem placedAll_eq_flatMap (k : Nat) (ts : List (Tree α)) :
    placedAll k ts = (ts.zipIdx k).flatMap fun q => q.1.placed.map (Prod.map (q.2 :: ·) id) := by
  induction ts generalizing k with
  | nil => rfl
  | cons t ts ih => rw [placedAll, ih, List.zipIdx_cons, List.flatMap_cons]

theorem mem_placedAll_iff {k : Nat} {ts : List (Tree α)} {r : Route} {a : α} :
    (r, a) ∈ placedAll k ts ↔
      ∃ i t r', r = (k + i) :: r' ∧ ts[i]? = some t ∧ (r', a) ∈ t.placed := by
  rw [placedAll_eq_flatMap, List.mem_flatMap]
  constructor
  · rintro ⟨⟨t, m⟩, htm, hmem⟩
    obtain ⟨⟨r', b⟩, hr', hra⟩ := List.mem_map.mp hmem
    obtain ⟨rfl, rfl⟩ := Prod.mk.inj hra
    obtain ⟨hle, hget⟩ := List.mk_mem_zipIdx_iff_le_and_getElem?_sub.mp htm
    refine ⟨m - k, t, r', ?_, hget, hr'⟩
    show m :: r' = _
    rw [Nat.add_sub_cancel' hle]
  · rintro ⟨i, t, r', rfl, hget, hr'⟩
    refine ⟨(t, k + i), ?_, List.mem_map.mpr ⟨(r', a), hr', rfl⟩⟩
    rw [List.mk_mem_zipIdx_iff_le_and_getElem?_sub]
    exact ⟨Nat.le_add_right k i, by rwa [Nat.add_sub_cancel_left]⟩

/-- **The labels of a tree** stand at the ends of their routes. -/
theorem mem_placed_iff {t : Tree α} {r : Route} {a : α} :
    (r, a) ∈ t.placed ↔ ∃ us, t.subtreeAt r = some (node a us) := by
  induction t using induct generalizing r with
  | step b ts ih =>
    rw [placed_node, List.mem_cons, mem_placedAll_iff]
    cases r with
    | nil => simp [subtreeAt, eq_comm]
    | cons j r =>
      have hnil : ¬(j :: r, a) = (([] : Route), b) := by simp
      rw [subtreeAt_node_cons, nodeAt]
      constructor
      · rintro (h | ⟨i, t, r', hr, hget, hmem⟩)
        · exact absurd h hnil
        · obtain ⟨rfl, rfl⟩ := List.cons.inj hr
          rw [Nat.zero_add, hget]
          exact (ih t (List.mem_of_getElem? hget)).mp hmem
      · rintro ⟨us, h⟩
        obtain ⟨t, hget, hus⟩ := Option.bind_eq_some_iff.mp h
        exact .inr ⟨j, t, r, by rw [Nat.zero_add], hget,
          (ih t (List.mem_of_getElem? hget)).mpr ⟨us, hus⟩⟩

theorem mem_placedAll_zero_iff {ts : List (Tree α)} {q : Route × α} :
    q ∈ placedAll 0 ts ↔ ∃ us, nodeAt ts q.1 = some (node q.2 us) := by
  obtain ⟨r, a⟩ := q
  rw [mem_placedAll_iff]
  cases r with
  | nil => simp [nodeAt]
  | cons j r =>
    simp only [nodeAt, Option.bind_eq_some_iff]
    constructor
    · rintro ⟨i, t, r', hr, hget, hmem⟩
      obtain ⟨rfl, rfl⟩ := List.cons.inj hr
      obtain ⟨us, hus⟩ := mem_placed_iff.mp hmem
      exact ⟨us, t, by rwa [Nat.zero_add], hus⟩
    · rintro ⟨us, t, hget, hus⟩
      exact ⟨j, t, r, by rw [Nat.zero_add], hget, mem_placed_iff.mpr ⟨us, hus⟩⟩

theorem pairwise_placedAll_of {k : Nat} {ts : List (Tree α)}
    (h : ∀ t ∈ ts, t.placed.Pairwise fun p q => p.1 < q.1) :
    (placedAll k ts).Pairwise fun p q => p.1 < q.1 := by
  induction ts generalizing k with
  | nil => exact List.Pairwise.nil
  | cons t ts ih =>
    rw [List.forall_mem_cons] at h
    rw [placedAll, List.pairwise_append]
    refine ⟨?_, ih h.2, ?_⟩
    · rw [List.pairwise_map]
      exact h.1.imp fun hlt => List.cons_lt_cons_iff.mpr (.inr ⟨rfl, hlt⟩)
    · rintro p hp ⟨r, a⟩ hq
      obtain ⟨q, -, rfl⟩ := List.mem_map.mp hp
      obtain ⟨i, t', r', rfl, -, -⟩ := mem_placedAll_iff.mp hq
      exact List.cons_lt_cons_iff.mpr (.inl (by omega))

/-- **Depth first is the order of the routes.** -/
theorem pairwise_placed (t : Tree α) : t.placed.Pairwise fun p q => p.1 < q.1 := by
  induction t using induct with
  | step a ts ih =>
    rw [placed_node, List.pairwise_cons]
    refine ⟨?_, pairwise_placedAll_of ih⟩
    rintro ⟨r, b⟩ hq
    obtain ⟨i, t, r', rfl, -, -⟩ := mem_placedAll_iff.mp hq
    exact List.nil_lt_cons _ _

theorem pairwise_placedAll (k : Nat) (ts : List (Tree α)) :
    (placedAll k ts).Pairwise fun p q => p.1 < q.1 :=
  pairwise_placedAll_of fun t _ => pairwise_placed t

theorem map_length_placedAll_of {level k : Nat} {ts : List (Tree α)}
    (h : ∀ t ∈ ts, t.placed.map (fun q => (q.2, level + 1 + q.1.length)) = t.levels (level + 1)) :
    (placedAll k ts).map (fun q => (q.2, level + q.1.length)) = levelsAll (level + 1) ts := by
  induction ts generalizing k with
  | nil => rfl
  | cons t ts ih =>
    rw [List.forall_mem_cons] at h
    rw [placedAll, levelsAll, List.map_append, ih h.2, ← h.1, List.map_map]
    congr 1
    refine List.map_congr_left fun q _ => ?_
    show (q.2, level + (q.1.length + 1)) = (q.2, level + 1 + q.1.length)
    rw [Nat.add_assoc, Nat.add_comm 1]

/-- **The length of a route is a level.** -/
theorem map_length_placed (level : Nat) (t : Tree α) :
    t.placed.map (fun q => (q.2, level + q.1.length)) = t.levels level := by
  induction t using induct generalizing level with
  | step a ts ih =>
    rw [placed_node, levels_node, List.map_cons,
      map_length_placedAll_of fun t ht => ih t ht (level + 1)]
    rfl

theorem map_length_placedAll (k level : Nat) (ts : List (Tree α)) :
    (placedAll k ts).map (fun q => (q.2, level + q.1.length)) = levelsAll (level + 1) ts :=
  map_length_placedAll_of fun t _ => map_length_placed (level + 1) t

theorem map_snd_placedAll (k : Nat) (ts : List (Tree α)) :
    (placedAll k ts).map Prod.snd = walkAll ts := by
  rw [← map_fst_levelsAll 1 ts, ← map_length_placedAll k 0 ts, List.map_map]
  rfl

/-! ### Guides -/

/-- **The guides in front of a node**, one for each level: the last one leads to the node, those
above run beside what is below the nodes on the way. -/
def guides (ts : List (Tree α)) (r : Route) : List Text :=
  (List.range (r.length - 1)).map (fun j => beside (isLast ts (r.take (j + 1))))
    ++ [branch (isLast ts r)]

theorem length_guides {r : Route} (hr : r ≠ []) (ts : List (Tree α)) :
    (guides ts r).length = r.length := by
  have := List.length_pos_iff.mpr hr
  simp [guides]
  omega

theorem getElem?_guides {r : Route} {j : Nat} (hj : j < r.length) (ts : List (Tree α)) :
    (guides ts r)[j]? = some (if j + 1 = r.length then branch (isLast ts r)
      else beside (isLast ts (r.take (j + 1)))) := by
  have hlen : ((List.range (r.length - 1)).map
      fun j => beside (isLast ts (r.take (j + 1)))).length = r.length - 1 := by simp
  rw [guides]
  split_ifs with h
  · have hr : r.length - 1 = j := by omega
    rw [List.getElem?_append_right (by omega), hlen, hr, Nat.sub_self]
    rfl
  · rw [List.getElem?_append_left (by omega), List.getElem?_map,
      List.getElem?_range (by omega)]
    rfl

theorem guides_cons {ts us : List (Tree α)} {a : α} {i : Nat} (h : ts[i]? = some (node a us))
    (j : Nat) (r : Route) :
    guides ts (i :: j :: r) = beside (isLast ts [i]) :: guides us (j :: r) := by
  have hrange : (List.range ((i :: j :: r).length - 1)).map
        (fun n => beside (isLast ts ((i :: j :: r).take (n + 1)))) =
      beside (isLast ts [i]) :: (List.range ((j :: r).length - 1)).map
        fun n => beside (isLast us ((j :: r).take (n + 1))) := by
    rw [List.length_cons, List.length_cons, Nat.add_sub_cancel, List.range_succ_eq_map,
      List.map_cons, List.map_map]
    refine congrArg (_ :: ·) (List.map_congr_left fun n _ => ?_)
    show beside (isLast ts (i :: j :: r.take n)) = _
    rw [isLast_cons h]
    rfl
  rw [guides, hrange, isLast_cons h, guides, List.cons_append]

def row (label : α → Text) (above : Text) (ts : List (Tree α)) (q : Route × α) : Text :=
  above ++ (guides ts q.1).flatten ++ label q.2

theorem listingBehind_eq_of {label : α → Text} {above : Text} {ts rest : List (Tree α)}
    (before : List (Tree α))
    (h : ∀ t ∈ rest, ∀ i, ts[i]? = some t → lines label above (isLast ts [i]) t =
      t.placed.map fun q => row label above ts (i :: q.1, q.2))
    (hts : ts = before ++ rest) :
    listingBehind label above rest = (placedAll before.length rest).map (row label above ts) := by
  induction rest generalizing before with
  | nil => rfl
  | cons t rest ih =>
    rw [List.forall_mem_cons] at h
    have hget : ts[before.length]? = some t := by simp [hts]
    have hlast : isLast ts [before.length] = rest.isEmpty := by
      rw [isLast_singleton, hts]
      cases rest <;> simp
    have hrest := ih (before ++ [t]) h.2 (by rw [hts, List.append_assoc]; rfl)
    rw [List.length_append, List.length_singleton] at hrest
    rw [listingBehind, placedAll, List.map_append, hrest, ← hlast, h.1 _ hget, List.map_map]
    rfl

theorem lines_eq {label : α → Text} {t : Tree α} {ts : List (Tree α)} {i : Nat}
    (hget : ts[i]? = some t) (above : Text) : lines label above (isLast ts [i]) t =
      t.placed.map fun q => row label above ts (i :: q.1, q.2) := by
  induction t using induct generalizing ts i above with
  | step a us ih =>
    have hbelow : listingBehind label (above ++ beside (isLast ts [i])) us =
        (placedAll 0 us).map (row label (above ++ beside (isLast ts [i])) us) :=
      listingBehind_eq_of [] (fun t ht j hj => ih t ht hj _) rfl
    have hown : above ++ branch (isLast ts [i]) ++ label a = row label above ts ([i], a) := by
      simp [row, guides]
    rw [lines, hbelow, hown, placed_node, List.map_cons]
    refine congrArg (_ :: ·) (List.map_congr_left ?_)
    rintro ⟨r, b⟩ hq
    obtain ⟨j, t, r', rfl, -, -⟩ := mem_placedAll_iff.mp hq
    rw [row, row, guides_cons hget, List.flatten_cons]
    simp only [List.append_assoc]

/-- **The lines of a forest, told one by one**: the guides in front of a node, and its label. -/
theorem listing_eq (label : α → Text) (ts : List (Tree α)) :
    listing label ts = (placedAll 0 ts).map fun q => (guides ts q.1).flatten ++ label q.2 :=
  listingBehind_eq_of [] (fun _ _ _ hget => lines_eq hget []) rfl

theorem listing_congr {label label' : α → Text} {ts : List (Tree α)}
    (h : ∀ a ∈ walkAll ts, label a = label' a) : listing label ts = listing label' ts := by
  rw [listing_eq, listing_eq]
  refine List.map_congr_left fun q hq => ?_
  rw [h q.2]
  rw [← map_snd_placedAll 0]
  exact List.mem_map_of_mem hq

/-! ### Reading a listing -/

def readRow : Text → Option (Nat × Text)
  | '│' :: ' ' :: ' ' :: ' ' :: rest => (readRow rest).map (Prod.map (· + 1) id)
  | ' ' :: ' ' :: ' ' :: ' ' :: rest => (readRow rest).map (Prod.map (· + 1) id)
  | '├' :: '─' :: '─' :: ' ' :: rest => some (1, rest)
  | '└' :: '─' :: '─' :: ' ' :: rest => some (1, rest)
  | _ => none

theorem readRow_beside (isLast : Bool) (t : Text) :
    readRow (beside isLast ++ t) = (readRow t).map (Prod.map (· + 1) id) := by
  cases isLast <;> rfl

theorem readRow_branch (isLast : Bool) (t : Text) :
    readRow (branch isLast ++ t) = some (1, t) := by
  cases isLast <;> rfl

/-- **A line tells its level and its label**, whatever the guides depend on. -/
theorem readRow_guides {r : Route} (hr : r ≠ []) (ts : List (Tree α)) (t : Text) :
    readRow ((guides ts r).flatten ++ t) = some (r.length, t) := by
  have habove : ∀ l : List Nat, readRow ((l.map fun j =>
      beside (isLast ts (r.take (j + 1)))).flatten ++ (branch (isLast ts r) ++ t)) =
        some (l.length + 1, t) := by
    intro l
    induction l with
    | nil => exact readRow_branch _ t
    | cons j l ih =>
      rw [List.map_cons, List.flatten_cons, List.append_assoc, readRow_beside, ih]
      rfl
  have hlen := List.length_pos_iff.mpr hr
  rw [guides, List.flatten_append, List.flatten_singleton, List.append_assoc, habove,
    List.length_range, Nat.sub_add_cancel hlen]

/-- The forest that a listing shows: its lines are read, and put together by their levels. -/
def ofListing (t : Text) : Option (List (Tree Text)) :=
  ((t.splitOn '\n').dropLast.mapM readRow).map fun rows =>
    forest (rows.map fun p => (p.2, (p.1 : Int) - 1))

theorem splitOn_flatMap_feed {ls : List Text} (h : ∀ l ∈ ls, '\n' ∉ l) :
    (ls.flatMap (· ++ ['\n'])).splitOn '\n' = ls ++ [[]] := by
  induction ls with
  | nil => rfl
  | cons l ls ih =>
    rw [List.forall_mem_cons] at h
    have hl : ∀ c ∈ l, (c == '\n') = false := by
      rintro c hc
      rw [beq_eq_false_iff_ne]
      rintro rfl
      exact h.1 hc
    rw [List.flatMap_cons, List.append_assoc, List.splitOn_eq_splitOnP, List.singleton_append,
      List.splitOnP_append_cons_of_forall_mem hl _ (beq_self_eq_true _),
      ← List.splitOn_eq_splitOnP, ih h.2, List.cons_append]

theorem feed_notMem_guides (ts : List (Tree α)) (r : Route) : '\n' ∉ (guides ts r).flatten := by
  have hbranch : ∀ b, '\n' ∉ branch b := by decide
  have hbeside : ∀ b, '\n' ∉ beside b := by decide
  simp only [guides, List.flatten_append, List.flatten_singleton, List.mem_append,
    List.mem_flatten, List.mem_map, not_or]
  refine ⟨?_, hbranch _⟩
  rintro ⟨t, ⟨j, -, rfl⟩, ht⟩
  exact hbeside _ ht

theorem mapM_eq_some {β γ : Type} {f : β → Option γ} {g : β → γ} {l : List β}
    (h : ∀ x ∈ l, f x = some (g x)) : l.mapM f = some (l.map g) := by
  induction l with
  | nil => rfl
  | cons x l ih =>
    obtain ⟨hx, hl⟩ := List.forall_mem_cons.mp h
    rw [List.mapM_cons, hx, ih hl]
    rfl

theorem ne_nil_of_mem_placedAll {k : Nat} {ts : List (Tree α)} {q : Route × α}
    (hq : q ∈ placedAll k ts) : q.1 ≠ [] := by
  obtain ⟨r, a⟩ := q
  obtain ⟨i, t, r', rfl, -, -⟩ := mem_placedAll_iff.mp hq
  exact List.cons_ne_nil _ _

theorem splitOn_listing {label : α → Text} {ts : List (Tree α)}
    (h : ∀ a ∈ walkAll ts, '\n' ∉ label a) :
    ((listing label ts).flatMap (· ++ ['\n'])).splitOn '\n' = listing label ts ++ [[]] := by
  refine splitOn_flatMap_feed ?_
  rw [listing_eq, List.forall_mem_map]
  intro q hq
  rw [List.mem_append, not_or]
  refine ⟨feed_notMem_guides ts q.1, h q.2 ?_⟩
  rw [← map_snd_placedAll 0]
  exact List.mem_map_of_mem hq

/-- **A listing tells the labels and the shape of a forest**, when no label holds a line feed. -/
theorem ofListing_listing {label : α → Text} {ts : List (Tree α)}
    (h : ∀ a ∈ walkAll ts, '\n' ∉ label a) :
    ofListing ((listing label ts).flatMap (· ++ ['\n'])) = some (ts.map (map label)) := by
  have hrows : (listing label ts).mapM readRow =
      some ((placedAll 0 ts).map fun q => (q.1.length, label q.2)) := by
    rw [listing_eq, List.mapM_map]
    exact mapM_eq_some fun q hq => readRow_guides (ne_nil_of_mem_placedAll hq) ts (label q.2)
  have hentries : (((placedAll 0 ts).map fun q => (q.1.length, label q.2)).map
      fun p => (p.2, (p.1 : Int) - 1)) =
        ((levelsAll 0 ts).map atDepth).map (Prod.map label id) := by
    have hlevels := map_length_placedAll 0 0 ts
    rw [levelsAll_succ] at hlevels
    have hshifted := congrArg (List.map fun p : α × Nat => (label p.1, (p.2 : Int) - 1)) hlevels
    rw [List.map_map, List.map_map] at hshifted
    rw [List.map_map, List.map_map]
    refine Eq.trans (List.map_congr_left fun q _ => ?_) (hshifted.trans ?_)
    · show _ = (label q.2, ((0 + q.1.length : Nat) : Int) - 1)
      rw [Nat.zero_add]
      rfl
    · refine List.map_congr_left fun p _ => ?_
      show (label p.1, ((p.2 + 1 : Nat) : Int) - 1) = (label p.1, (p.2 : Int))
      rw [Int.natCast_succ, Int.add_sub_cancel]
  rw [ofListing, splitOn_listing h, List.dropLast_concat, hrows, Option.map_some, hentries,
    ← forest_map, forest_levels]

end Outline.Tree
