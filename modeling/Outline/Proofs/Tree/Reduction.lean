import Mathlib.Data.List.Basic
import Outline.Proofs.Tree.Subtrees

/-!
# Assembling by reduction

The same tree comes from a loop over the **pending** trees.  Each round takes the last of the
deepest ones, puts it in front of the children of its parent, or of the root when it has none,
and drops it from the list.

* `Pending.step`: one round, by `Assembly.deepest` and `Assembly.parent`.
* `Pending.step_eq_none_iff`: the loop ends when nothing is pending, and only then.
* `Pending.settled`: what the loop comes to, told without it; `Pending.settled_step`: a round keeps
  it.
* `Tree.reduce_eq_assemble`: the loop makes the tree that is assembled.
-/

namespace Outline

universe u

variable {α : Type u}

/-! ### Positions in a list of depths -/

namespace Assembly

/-- **The last of the deepest entries**: none before it is deeper, and all behind it are less
deep. -/
theorem greatest_split {ds : List Int} (h : ds ≠ []) :
    ∃ A m B, ds = A ++ m :: B ∧ greatest ds = some (m, A.length) ∧ (∀ a ∈ A, a ≤ m) ∧
      ∀ b ∈ B, b < m := by
  induction ds with
  | nil => exact absurd rfl h
  | cons d ds ih =>
    by_cases hds : ds = []
    · subst hds
      exact ⟨[], d, [], rfl, rfl, nofun, nofun⟩
    · obtain ⟨A, m, B, rfl, hm, hA, hB⟩ := ih hds
      by_cases hlt : m < d
      · refine ⟨[], d, A ++ m :: B, rfl, ?_, nofun, fun b hb => ?_⟩
        · rw [greatest, hm]
          exact if_pos hlt
        · rcases List.mem_append.mp hb with hb | hb
          · have := hA b hb; omega
          · rcases List.mem_cons.mp hb with rfl | hb
            · exact hlt
            · have := hB b hb; omega
      · refine ⟨d :: A, m, B, rfl, ?_, fun a ha => ?_, hB⟩
        · rw [greatest, hm]
          exact if_neg hlt
        · rcases List.mem_cons.mp ha with rfl | ha
          · omega
          · exact hA a ha

/-- **The last position of a depth**, unless the depth does not occur. -/
theorem lastAt_cases (w : Int) (ds : List Int) :
    (w ∉ ds ∧ lastAt w ds = none) ∨
      ∃ A B, ds = A ++ w :: B ∧ w ∉ B ∧ lastAt w ds = some A.length := by
  induction ds with
  | nil => exact Or.inl ⟨List.not_mem_nil, rfl⟩
  | cons d ds ih =>
    rcases ih with ⟨hw, hl⟩ | ⟨A, B, rfl, hw, hl⟩
    · by_cases hd : d = w
      · subst hd
        exact Or.inr ⟨[], ds, rfl, hw, by rw [lastAt, hl]; exact if_pos rfl⟩
      · refine Or.inl ⟨fun h => (List.mem_cons.mp h).elim (fun he => hd he.symm) hw, ?_⟩
        rw [lastAt, hl]
        exact if_neg hd
    · exact Or.inr ⟨d :: A, B, rfl, hw, by rw [lastAt, hl]; rfl⟩

end Assembly

/-! ### Rounds -/

def Tree.adopt : Tree α → Tree α → Tree α
  | node a ts, t => node a (t :: ts)

/-- The tree of the root as far as it is built, and the pending trees with their depths. -/
structure Pending (α : Type u) where
  tree : Tree α
  waiting : List (Tree α × Int)

namespace Pending

/-- **One round of the reduction**; there is none when nothing is pending. -/
def step (p : Pending α) : Option (Pending α) :=
  match Assembly.deepest (p.waiting.map Prod.snd) with
  | .error _ => none
  | .ok i =>
    match p.waiting[i]?, Assembly.parent (p.waiting.map Prod.snd) i with
    | some t, .ok (some j) =>
      some ⟨p.tree, (p.waiting.modify j fun s => (s.1.adopt t.1, s.2)).eraseIdx i⟩
    | some t, .ok none => some ⟨p.tree.adopt t.1, p.waiting.eraseIdx i⟩
    | _, _ => none

theorem modify_append {β : Type u} (f : β → β) (A : List β) (s : β) (B : List β) :
    (A ++ s :: B).modify A.length f = A ++ f s :: B := by
  induction A with
  | nil => rfl
  | cons a A ih => exact congrArg (a :: ·) ih

/-- The round that a split at the last of the deepest trees leads to. -/
theorem step_of_split {r t : Tree α} {m : Int} {A B : List (Tree α × Int)}
    (hd : Assembly.greatest ((A ++ (t, m) :: B).map Prod.snd) = some (m, A.length)) :
    step ⟨r, A ++ (t, m) :: B⟩ =
      match Assembly.lastAt (m - 1) (A.map Prod.snd) with
      | some j => some ⟨r, (A ++ (t, m) :: B).modify j (fun s => (s.1.adopt t, s.2)) |>.eraseIdx
          A.length⟩
      | none => some ⟨r.adopt t, A ++ B⟩ := by
  have hget : (A ++ (t, m) :: B)[A.length]? = some (t, m) := by
    rw [List.getElem?_append_right (Nat.le_refl _), Nat.sub_self]
    rfl
  have hparent : Assembly.parent ((A ++ (t, m) :: B).map Prod.snd) A.length =
      .ok (Assembly.lastAt (m - 1) (A.map Prod.snd)) := by
    have hdepth : ((A ++ (t, m) :: B).map Prod.snd)[A.length]? = some m := by
      rw [List.getElem?_map, hget]
      rfl
    have htake : ((A ++ (t, m) :: B).map Prod.snd).take A.length = A.map Prod.snd := by
      rw [← List.map_take, List.take_left]
    have hpos : ¬(A.length : Int) < 0 := by omega
    rw [Assembly.parent, if_neg hpos, if_neg hpos, Int.toNat_natCast, hdepth]
    exact congrArg (fun ds => Except.ok (Assembly.lastAt (m - 1) ds)) htake
  rw [step]
  simp only [Assembly.deepest, hd, hget, hparent]
  cases Assembly.lastAt (m - 1) (A.map Prod.snd) with
  | some j => rfl
  | none =>
    have herase : (A ++ (t, m) :: B).eraseIdx A.length = A ++ B := by
      rw [List.eraseIdx_append_of_length_le (Nat.le_refl _), Nat.sub_self, List.eraseIdx_cons_zero]
    exact congrArg (fun l => some (Pending.mk (r.adopt t) l)) herase

/-- **What a round does.**  The last of the deepest trees goes in front of the children of the last
tree before it that is one level up, or of the root when there is none. -/
theorem step_cases {r : Tree α} {ts : List (Tree α × Int)} (h : ts ≠ []) :
    ∃ A t m B, ts = A ++ (t, m) :: B ∧ (∀ a ∈ A, a.2 ≤ m) ∧ (∀ b ∈ B, b.2 < m) ∧
      (((∀ a ∈ A, a.2 ≠ m - 1) ∧ step ⟨r, ts⟩ = some ⟨r.adopt t, A ++ B⟩) ∨
        ∃ A₁ s A₂, A = A₁ ++ (s, m - 1) :: A₂ ∧ (∀ a ∈ A₂, a.2 ≠ m - 1) ∧
          step ⟨r, ts⟩ = some ⟨r, A₁ ++ (s.adopt t, m - 1) :: (A₂ ++ B)⟩) := by
  obtain ⟨_, m, _, hsplit, hm, hA, hB⟩ :=
    Assembly.greatest_split (by simpa using h : ts.map Prod.snd ≠ [])
  obtain ⟨A, C, rfl, rfl, hC⟩ := List.map_eq_append_iff.mp hsplit
  obtain ⟨⟨t, m'⟩, B, rfl, rfl, rfl⟩ := List.map_eq_cons_iff.mp hC
  rw [List.length_map] at hm
  refine ⟨A, t, m', B, rfl, fun a ha => hA a.2 (List.mem_map_of_mem ha),
    fun b hb => hB b.2 (List.mem_map_of_mem hb), ?_⟩
  have hstep := step_of_split (r := r) hm
  rcases Assembly.lastAt_cases (m' - 1) (A.map Prod.snd) with ⟨hw, hl⟩ | ⟨_, _, hA', hw, hl⟩
  · rw [hl] at hstep
    exact Or.inl ⟨fun a ha he => hw (he ▸ List.mem_map_of_mem ha), hstep⟩
  · obtain ⟨A₁, C, rfl, rfl, hC⟩ := List.map_eq_append_iff.mp hA'
    obtain ⟨⟨s, _⟩, A₂, rfl, hs, rfl⟩ := List.map_eq_cons_iff.mp hC
    obtain rfl := hs
    rw [hl, List.length_map] at hstep
    refine Or.inr ⟨A₁, s, A₂, rfl, fun a ha he => hw (he ▸ List.mem_map_of_mem ha), ?_⟩
    refine hstep.trans (congrArg (fun l => some (Pending.mk r l)) ?_)
    rw [List.append_assoc, List.cons_append, modify_append, ← List.cons_append,
      ← List.append_assoc]
    rw [List.eraseIdx_append_of_length_le (by simp)]
    simp

/-- **The loop ends when nothing is pending, and only then.** -/
theorem step_eq_none_iff {p : Pending α} : p.step = none ↔ p.waiting = [] := by
  obtain ⟨r, ts⟩ := p
  constructor
  · intro h
    by_contra hts
    obtain ⟨A, t, m, B, -, -, -, ⟨-, hs⟩ | ⟨A₁, s, A₂, -, -, hs⟩⟩ := step_cases (r := r) hts
    · exact absurd (h.symm.trans hs) nofun
    · exact absurd (h.symm.trans hs) nofun
  · rintro rfl
    rfl

theorem length_step {p q : Pending α} (h : p.step = some q) :
    p.waiting.length = q.waiting.length + 1 := by
  obtain ⟨r, ts⟩ := p
  have hts : ts ≠ [] := by
    rintro rfl
    exact absurd h nofun
  obtain ⟨A, t, m, B, rfl, -, -, ⟨-, hs⟩ | ⟨A₁, s, A₂, rfl, -, hs⟩⟩ := step_cases (r := r) hts
  · obtain rfl := Option.some.inj (h.symm.trans hs)
    simp only [List.length_append, List.length_cons]
    omega
  · obtain rfl := Option.some.inj (h.symm.trans hs)
    simp only [List.length_append, List.length_cons]
    omega

end Pending

/-- **The reduction**: rounds until nothing is pending. -/
def Tree.reduce (p : Pending α) : Tree α :=
  match _h : p.step with
  | none => p.tree
  | some q => Tree.reduce q
termination_by p.waiting.length
decreasing_by
  have := Pending.length_step _h
  omega

namespace Tree

/-! ### What the loop comes to -/

def extend : Tree α → List (Tree α) → Tree α
  | node a ts, cs => node a (cs ++ ts)

/-- A tree in front of those that wait behind it takes the ones that are one level deeper. -/
def collect (t : Tree α × Int) (waiting : List (Tree α × Int)) : List (Tree α × Int) :=
  (t.1.extend ((waiting.filter fun c => c.2 = t.2 + 1).map Prod.fst), t.2)
    :: waiting.filter fun c => c.2 ≠ t.2 + 1

/-- The trees that have no parent among the pending ones, after those that have one went there. -/
def settle (ts : List (Tree α × Int)) : List (Tree α × Int) := ts.foldr collect []

theorem gather_eq_settle (entries : List (α × Int)) :
    gather entries = settle (entries.map fun e => (node e.1 [], e.2)) := by
  induction entries with
  | nil => rfl
  | cons e rest ih =>
    rw [List.map_cons, settle, List.foldr_cons, ← settle, ← ih, gather, collect, extend,
      List.append_nil]

theorem forall_collect {P : Int → Prop} {t : Tree α × Int} {W : List (Tree α × Int)}
    (ht : P t.2) (hW : ∀ w ∈ W, P w.2) : ∀ w ∈ collect t W, P w.2 := by
  intro w hw
  rcases List.mem_cons.mp hw with rfl | hw
  · exact ht
  · exact hW w (List.mem_of_mem_filter hw)

theorem forall_settle {P : Int → Prop} {ts : List (Tree α × Int)} (h : ∀ t ∈ ts, P t.2) :
    ∀ w ∈ settle ts, P w.2 := by
  induction ts with
  | nil => exact nofun
  | cons t ts ih =>
    exact forall_collect (h t List.mem_cons_self)
      (ih fun s hs => h s (List.mem_cons_of_mem _ hs))

variable {t : Tree α} {m : Int} {W : List (Tree α × Int)}

theorem filter_eq_nil_of_lt (hW : ∀ w ∈ W, w.2 < m) : (W.filter fun c => c.2 = m) = [] := by
  rw [List.filter_eq_nil_iff]
  intro w hw
  have := hW w hw
  simp only [decide_eq_true_eq]
  omega

theorem collect_of_lt (hW : ∀ w ∈ W, w.2 < m) : collect (t, m) W = (t, m) :: W := by
  have hne : (W.filter fun c => c.2 ≠ m + 1) = W := by
    rw [List.filter_eq_self]
    intro w hw
    have := hW w hw
    simp only [decide_eq_true_eq, ne_eq]
    omega
  rw [collect, filter_eq_nil_of_lt (fun w hw => by have := hW w hw; omega), hne]
  cases t
  rfl

/-- **Trees that are not one level up leave a deepest tree where it is.**  They treat those around
it as if it were not there. -/
theorem foldr_collect_of_ne {A : List (Tree α × Int)} (hA : ∀ a ∈ A, a.2 ≤ m ∧ a.2 ≠ m - 1)
    (hW : ∀ w ∈ W, w.2 < m) :
    ∃ U V, A.foldr collect ((t, m) :: W) = U ++ (t, m) :: V ∧ A.foldr collect W = U ++ V ∧
      (∀ u ∈ U, u.2 ≤ m) ∧ ∀ v ∈ V, v.2 < m := by
  induction A with
  | nil => exact ⟨[], W, rfl, rfl, nofun, hW⟩
  | cons a A ih =>
    obtain ⟨U, V, h1, h2, hU, hV⟩ := ih fun x hx => hA x (List.mem_cons_of_mem _ hx)
    obtain ⟨ham, hane⟩ := hA a List.mem_cons_self
    have hm : m ≠ a.2 + 1 := by omega
    refine ⟨(a.1.extend (((U ++ V).filter fun c => c.2 = a.2 + 1).map Prod.fst), a.2)
      :: U.filter (fun c => c.2 ≠ a.2 + 1), V.filter (fun c => c.2 ≠ a.2 + 1), ?_, ?_, ?_, ?_⟩
    · rw [List.foldr_cons, h1, collect, List.filter_append, List.filter_append,
        List.filter_cons_of_neg (by simpa using hm), List.filter_cons_of_pos (by simpa using hm),
        ← List.filter_append]
      rfl
    · rw [List.foldr_cons, h2, collect, List.cons_append, ← List.filter_append]
    · intro u hu
      rcases List.mem_cons.mp hu with rfl | hu
      · exact ham
      · exact hU u (List.mem_of_mem_filter hu)
    · exact fun v hv => hV v (List.mem_of_mem_filter hv)

/-- A tree one level up takes the deepest tree as the last of those it takes, so it may as well
have it in front of its children. -/
theorem collect_adopt {s : Tree α} {U V : List (Tree α × Int)} (hV : ∀ v ∈ V, v.2 < m) :
    collect (s, m - 1) (U ++ (t, m) :: V) = collect (s.adopt t, m - 1) (U ++ V) := by
  have hm : m = m - 1 + 1 := by omega
  rw [collect, collect, List.filter_append, List.filter_append, List.filter_append,
    List.filter_append, List.filter_cons_of_pos (by simp), List.filter_cons_of_neg (by simp)]
  rw [show (V.filter fun c => c.2 = m - 1 + 1) = [] from hm ▸ filter_eq_nil_of_lt hV]
  cases s
  simp [extend, adopt]

/-! ### The deepest tree below the root -/

theorem insertByDepth_append {s x : Tree α × Int} {L : List (Tree α × Int)} (h : s.2 ≤ x.2) :
    insertByDepth s (L ++ [x]) = insertByDepth s L ++ [x] := by
  induction L with
  | nil => exact if_neg (by omega)
  | cons y L ih =>
    rw [List.cons_append, insertByDepth, insertByDepth]
    split
    · rw [ih, List.cons_append]
    · rfl

theorem insertByDepth_of_lt {s : Tree α × Int} {L : List (Tree α × Int)}
    (h : ∀ x ∈ L, x.2 < s.2) : insertByDepth s L = L ++ [s] := by
  induction L with
  | nil => rfl
  | cons y L ih =>
    rw [insertByDepth, if_pos (h y List.mem_cons_self),
      ih fun x hx => h x (List.mem_cons_of_mem _ hx), List.cons_append]

/-- **The last of the deepest trees is sorted behind all others.** -/
theorem sortByDepth_append {U V : List (Tree α × Int)} (hU : ∀ u ∈ U, u.2 ≤ m)
    (hV : ∀ v ∈ V, v.2 < m) :
    sortByDepth (U ++ (t, m) :: V) = sortByDepth (U ++ V) ++ [(t, m)] := by
  induction U with
  | nil =>
    exact insertByDepth_of_lt fun x hx => hV x ((sortByDepth_perm V).mem_iff.mp hx)
  | cons u U ih =>
    show insertByDepth u (sortByDepth (U ++ (t, m) :: V)) =
      insertByDepth u (sortByDepth (U ++ V)) ++ [(t, m)]
    rw [ih fun x hx => hU x (List.mem_cons_of_mem _ hx)]
    exact insertByDepth_append (hU u List.mem_cons_self)

end Tree

namespace Pending

open Outline.Tree

/-- **What the loop comes to**: the pending trees settle among themselves, and those without a
parent go in front of the children of the root, sorted by depth. -/
def settled (p : Pending α) : Tree α :=
  p.tree.extend ((sortByDepth (settle p.waiting)).map Prod.fst)

/-- **A round keeps what the loop comes to.** -/
theorem settled_step {p q : Pending α} (h : p.step = some q) : q.settled = p.settled := by
  obtain ⟨r, ts⟩ := p
  have hts : ts ≠ [] := by
    rintro rfl
    exact absurd h nofun
  obtain ⟨A, t, m, B, rfl, hA, hB, hcase⟩ := step_cases (r := r) hts
  have hW : ∀ w ∈ settle B, w.2 < m := forall_settle (P := (· < m)) hB
  have hsettle : settle (A ++ (t, m) :: B) = A.foldr collect ((t, m) :: settle B) := by
    rw [settle, List.foldr_append, List.foldr_cons, ← settle, collect_of_lt hW]
  rcases hcase with ⟨hne, hs⟩ | ⟨A₁, s, A₂, rfl, hne, hs⟩
  · -- the deepest tree has no parent, and stands last below the root
    obtain rfl := Option.some.inj (h.symm.trans hs)
    obtain ⟨U, V, h1, h2, hU, hV⟩ := foldr_collect_of_ne (t := t)
      (fun a ha => ⟨hA a ha, hne a ha⟩) hW
    have hrest : settle (A ++ B) = U ++ V := by
      rw [settle, List.foldr_append, ← settle, h2]
    rw [settled, settled, hsettle, hrest, h1, sortByDepth_append hU hV]
    cases r
    simp [extend, adopt]
  · -- its parent takes it, now or when the trees settle
    obtain rfl := Option.some.inj (h.symm.trans hs)
    obtain ⟨U, V, h1, h2, -, hV⟩ := foldr_collect_of_ne (A := A₂) (t := t)
      (fun a ha => ⟨hA a (by simp [ha]), hne a ha⟩) hW
    have hrest : settle (A₁ ++ (s.adopt t, m - 1) :: (A₂ ++ B)) =
        settle (A₁ ++ (s, m - 1) :: A₂ ++ (t, m) :: B) := by
      rw [hsettle, settle, List.foldr_append, List.foldr_cons, List.foldr_append, ← settle, h2,
        List.foldr_append, List.foldr_cons, h1, collect_adopt hV]
    exact congrArg (fun l => r.extend ((sortByDepth l).map Prod.fst)) hrest

theorem reduce_eq_settled (p : Pending α) : reduce p = p.settled := by
  induction hn : p.waiting.length using Nat.strongRecOn generalizing p with
  | ind n ih =>
    rw [reduce]
    split
    next h =>
      obtain ⟨r, ts⟩ := p
      obtain rfl : ts = [] := step_eq_none_iff.mp h
      cases r
      rfl
    next q h =>
      rw [ih q.waiting.length (by have := length_step h; omega) q rfl, settled_step h]

end Pending

/-- **The reduction makes the tree that is assembled.** -/
theorem Tree.reduce_eq_assemble (root : α) (entries : List (α × Int)) :
    reduce ⟨node root [], entries.map fun e => (node e.1 [], e.2)⟩ = assemble root entries := by
  rw [Pending.reduce_eq_settled, Pending.settled, ← gather_eq_settle, extend, assemble,
    List.append_nil]

end Outline
