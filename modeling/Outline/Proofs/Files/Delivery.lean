import Mathlib.Data.List.Basic
import Outline.Command.Reach

/-!
# Files that are delivered

A file is **delivered** when the directories on the way to it are made as far as they are missing,
and it is written then.  Everything else stays as it was.

* `FileTree.resolve_eq_ok_iff`: where a path leads, and what has to stand on the way.
* `FileTree.makeDirectories_spec`: directories that are made, and nothing else.
* `FileTree.delivered_of_write`: a file that is written into directories just made.
-/

namespace Outline

open Command

/-! ### Places on the way -/

namespace FileTree

variable {t t' : FileTree} {cwd place q : Place} {p : Path} {parts : List Text} {text : Text}
  {e : FileEntry}

@[simp] theorem entry_root (t : FileTree) : t.entry [] = some .directory := if_pos rfl

theorem entry_put (hplace : place ≠ []) :
    (t.put place e).entry q = if q = place then some e else t.entry q := by
  rw [entry, put, entry]
  by_cases hq : q = place
  · subst hq
    rw [if_neg hplace, if_pos rfl, List.lookup_cons_self]
  · rw [if_neg hq, List.lookup_cons, beq_false_of_ne hq]

theorem placesFrom_ne_nil (start : Place) (parts : List Text) : placesFrom start parts ≠ [] := by
  cases parts <;> exact List.cons_ne_nil _ _

/-- **Where the parts of a path lead**: to the last of the places on the way, if directories stand
at all others and no part is too long. -/
theorem walk_eq_ok_iff {start : Place} : t.walk start parts = .ok place ↔
    (∀ q ∈ (placesFrom start parts).dropLast, t.entry q = some .directory) ∧
      (∀ part ∈ parts, byteCount part ≤ nameLimit) ∧
      (placesFrom start parts).getLast? = some place := by
  induction parts generalizing start with
  | nil => simp [walk, placesFrom]
  | cons part rest ih =>
    have hne := placesFrom_ne_nil (if part = Path.up then start.dropLast else start ++ [part]) rest
    rw [walk, placesFrom, List.dropLast_cons_of_ne_nil hne, List.getLast?_cons_of_ne_nil hne]
    simp only [List.forall_mem_cons]
    cases hstart : t.entry start with
    | none => exact ⟨nofun, fun h => absurd h.1.1 nofun⟩
    | some e =>
      cases e with
      | file text => exact ⟨nofun, fun h => absurd h.1.1 nofun⟩
      | directory =>
        dsimp only
        by_cases hlong : nameLimit < byteCount part
        · rw [if_pos hlong]
          exact ⟨nofun, fun h => absurd h.2.1.1 (Nat.not_le.mpr hlong)⟩
        · rw [if_neg hlong, ih]
          simp [Nat.le_of_not_lt hlong]

/-- **Where a path leads.** -/
theorem resolve_eq_ok_iff : t.resolve cwd p = .ok place ↔ byteCount p.text ≤ pathLimit ∧
    (∀ q ∈ (placesOf cwd p).dropLast, t.entry q = some .directory) ∧
      (∀ part ∈ p.parts, byteCount part ≤ nameLimit) ∧
      (placesOf cwd p).getLast? = some place := by
  rw [resolve, placesOf]
  by_cases hlong : pathLimit < byteCount p.text
  · rw [if_pos hlong]
    exact ⟨nofun, fun h => absurd h.1 (Nat.not_le.mpr hlong)⟩
  · rw [if_neg hlong, walk_eq_ok_iff]
    simp [Nat.le_of_not_lt hlong]

theorem mem_placesOf_of_resolve (h : t.resolve cwd p = .ok place) : place ∈ placesOf cwd p :=
  List.mem_of_getLast? (resolve_eq_ok_iff.mp h).2.2.2

theorem resolve_congr (h : t.resolve cwd p = .ok place)
    (hdir : ∀ q, t.entry q = some .directory → t'.entry q = some .directory) :
    t'.resolve cwd p = .ok place := by
  obtain ⟨htext, hway, hparts, hlast⟩ := resolve_eq_ok_iff.mp h
  exact resolve_eq_ok_iff.mpr ⟨htext, fun q hq => hdir q (hway q hq), hparts, hlast⟩

theorem placesOf_parent_subset (cwd : Place) (p : Path) :
    placesOf cwd p.parent ⊆ placesOf cwd p := by
  have hprefix : ∀ (parts : List Text) start,
      placesFrom start parts.dropLast ⊆ placesFrom start parts := by
    intro parts
    induction parts with
    | nil => exact fun start => List.Subset.refl _
    | cons part rest ih =>
      intro start
      cases rest with
      | nil => simp [placesFrom]
      | cons part' rest =>
        rw [List.dropLast_cons_of_ne_nil (List.cons_ne_nil part' rest), placesFrom, placesFrom]
        exact List.cons_subset_cons start (ih _)
  exact hprefix p.parts _

/-! ### Making directories -/

def HoldsDirectory (t : FileTree) (cwd : Place) (p : Path) : Prop :=
  ∃ place, t.resolve cwd p = .ok place ∧ t.entry place = some .directory

theorem HoldsDirectory.entry_eq (h : t.HoldsDirectory cwd p) (hq : q ∈ placesOf cwd p) :
    t.entry q = some .directory := by
  obtain ⟨place, hresolve, hplace⟩ := h
  obtain ⟨-, hway, -, hlast⟩ := resolve_eq_ok_iff.mp hresolve
  rw [← List.dropLast_append_getLast? place hlast, List.mem_append, List.mem_singleton] at hq
  rcases hq with hq | rfl
  · exact hway q hq
  · exact hplace

/-- Directories have been made at some of the places, where nothing stood. -/
def Grown (ways : List Place) (before after : FileTree) : Prop := ∀ q,
  after.entry q = before.entry q ∨
    (q ∈ ways ∧ before.entry q = none ∧ after.entry q = some .directory)

namespace Grown

variable {ways ways' : List Place} {t'' : FileTree}

theorem refl (ways : List Place) (t : FileTree) : Grown ways t t := fun _ => .inl rfl

theorem mono (h : Grown ways t t') (hsub : ways ⊆ ways') : Grown ways' t t' := fun q =>
  (h q).imp_right fun hq => ⟨hsub hq.1, hq.2⟩

theorem isDirectory (h : Grown ways t t') (hq : t.entry q = some .directory) :
    t'.entry q = some .directory := by
  rcases h q with hsame | ⟨-, -, hmade⟩
  · rw [hsame, hq]
  · exact hmade

theorem trans (h : Grown ways t t') (h' : Grown ways t' t'') : Grown ways t t'' := by
  intro q
  rcases h' q with hsame | ⟨hq, hnone, hmade⟩
  · rw [hsame]
    exact h q
  · rcases h q with hsame | ⟨-, -, hdir⟩
    · exact .inr ⟨hq, hsame ▸ hnone, hmade⟩
    · exact absurd (hnone.symm.trans hdir) nofun

end Grown

theorem makeDirectory_spec (h : t.makeDirectory cwd p = .ok t') :
    Grown (placesOf cwd p) t t' ∧ t'.HoldsDirectory cwd p := by
  rw [makeDirectory] at h
  cases hresolve : t.resolve cwd p with
  | error f => rw [hresolve] at h; exact absurd h nofun
  | ok place =>
    rw [hresolve] at h
    dsimp only at h
    split at h
    · exact absurd h nofun
    · next hnone =>
      obtain rfl := Except.ok.inj h
      rw [Option.not_isSome_iff_eq_none] at hnone
      have hplace : place ≠ [] := fun hroot => by
        rw [hroot, entry_root] at hnone
        exact absurd hnone nofun
      have hgrown : Grown (placesOf cwd p) t (t.put place .directory) := by
        intro q
        rw [entry_put hplace]
        by_cases hq : q = place
        · subst hq
          exact .inr ⟨mem_placesOf_of_resolve hresolve, hnone, if_pos rfl⟩
        · exact .inl (if_neg hq)
      refine ⟨hgrown, place, resolve_congr hresolve fun q => hgrown.isDirectory, ?_⟩
      rw [entry_put hplace, if_pos rfl]

theorem allowExisting_spec
    (h : allowExisting t cwd p (t.makeDirectory cwd p) = .ok t') :
    Grown (placesOf cwd p) t t' ∧ t'.HoldsDirectory cwd p := by
  cases hmake : t.makeDirectory cwd p with
  | ok made =>
    rw [hmake] at h
    obtain rfl := Except.ok.inj h
    exact makeDirectory_spec hmake
  | error f =>
    rw [hmake, allowExisting, look] at h
    cases hresolve : t.resolve cwd p with
    | error f =>
      rw [hresolve] at h
      cases f <;> exact absurd h nofun
    | ok place =>
      rw [hresolve] at h
      dsimp only at h
      split at h
      · next hentry =>
        obtain rfl := Except.ok.inj h
        exact ⟨.refl _ _, place, hresolve, Except.ok.inj hentry⟩
      · exact absurd h nofun

theorem makeDirectoriesWithin_spec {fuel : Nat}
    (h : makeDirectoriesWithin cwd fuel t p = .ok t') :
    Grown (placesOf cwd p) t t' ∧ t'.HoldsDirectory cwd p := by
  induction fuel generalizing p t' with
  | zero => exact allowExisting_spec h
  | succ fuel ih =>
    rw [makeDirectoriesWithin] at h
    split at h
    · split at h
      · exact absurd h nofun
      · split at h
        · exact absurd h nofun
        · next above habove =>
          obtain ⟨hparent, -⟩ := ih habove
          obtain ⟨hself, hdir⟩ := allowExisting_spec h
          exact ⟨(hparent.mono (placesOf_parent_subset cwd p)).trans hself, hdir⟩
    · exact allowExisting_spec h

/-- **Directories that are made**: they stand on the way to the path, where nothing stood, and
lead to a directory then. -/
theorem makeDirectories_spec (h : t.makeDirectories cwd p = .ok t') :
    Grown (placesOf cwd p) t t' ∧ t'.HoldsDirectory cwd p :=
  makeDirectoriesWithin_spec h

/-! ### Writing a file -/

/-- A file has been put at a place, and directories at those of the places where nothing stood. -/
structure Delivered (ways : List Place) (place : Place) (text : Text)
    (before after : FileTree) : Prop where
  file : after.entry place = some (.file text)
  file_before : before.entry place ≠ some .directory
  way : ∀ q ∈ ways, after.entry q = some .directory
  way_before : ∀ q ∈ ways, before.entry q = none ∨ before.entry q = some .directory
  other : ∀ q, q ≠ place → q ∉ ways → after.entry q = before.entry q

theorem write_eq_ok_iff : t.write cwd p text = .ok t' ↔ ∃ place, t.resolve cwd p = .ok place ∧
    t.entry place ≠ some .directory ∧ t.entry place.dropLast = some .directory ∧
      t' = t.put place (.file text) := by
  rw [write]
  cases hresolve : t.resolve cwd p with
  | error f => exact ⟨nofun, fun ⟨_, h, _⟩ => absurd h nofun⟩
  | ok place =>
    dsimp only
    simp only [isDirectory, decide_eq_true_eq, Except.ok.injEq, exists_eq_left']
    by_cases hplace : t.entry place = some .directory
    · simp [hplace]
    · by_cases hparent : t.entry place.dropLast = some .directory
      · simp [hplace, hparent, eq_comm]
      · simp [hplace, hparent]

/-- **A file that is delivered**: it can be read where it was written to, and nothing has changed
but the file and the directories on the way to it. -/
theorem delivered_of_write {made : FileTree} (hmake : t.makeDirectories cwd p.parent = .ok made)
    (hwrite : made.write cwd p text = .ok t') : ∃ place, t'.resolve cwd p = .ok place ∧
      t'.read cwd p = .ok text ∧ Delivered (placesOf cwd p.parent) place text t t' := by
  obtain ⟨hgrown, hdir⟩ := makeDirectories_spec hmake
  obtain ⟨place, hresolve, hplace, -, rfl⟩ := write_eq_ok_iff.mp hwrite
  have hne : place ≠ [] := fun hroot => hplace (hroot ▸ entry_root made)
  have hentry : ∀ q, (made.put place (.file text)).entry q =
      if q = place then some (.file text) else made.entry q := fun q => entry_put hne
  -- no directory is in the way of the file, so all that there were are still there
  have hkept : ∀ q, made.entry q = some .directory →
      (made.put place (.file text)).entry q = some .directory := by
    intro q hq
    have hother : q ≠ place := fun h => hplace (h ▸ hq)
    rw [hentry, if_neg hother, hq]
  have hfile : (made.put place (.file text)).entry place = some (.file text) := by
    rw [hentry, if_pos rfl]
  have hresolve' := resolve_congr hresolve hkept
  refine ⟨place, hresolve', ?_, hfile, ?_, ?_, ?_, ?_⟩
  · rw [read, hresolve']
    simp only [hfile]
  · exact fun h => hplace (hgrown.isDirectory h)
  · exact fun q hq => hkept q (hdir.entry_eq hq)
  · intro q hq
    rcases hgrown q with hsame | ⟨-, hnone, -⟩
    · exact .inr (hsame ▸ hdir.entry_eq hq)
    · exact .inl hnone
  · intro q hq hway
    rw [hentry, if_neg hq]
    exact (hgrown q).resolve_right fun h => hway h.1

end FileTree

end Outline
