import Outline.Command.Invocation
import Outline.Proofs.Text.Basic

/-!
# Options written out

What the arguments of a command were parsed to can be **written out** as arguments again: every
option with its long name and its value behind a blank, then two hyphens, then the others.  So
options that share an argument can be left out one by one.

* `Options.fits_of_parse`: what options are parsed to.
* `Options.parse_arguments`: arguments that are written out are parsed to what they stand for.
* `Parsed.without`: what is left when an option is left out.
* `Invocation.exists_arguments`: a job that renders to a file can be asked for without the file.
-/

namespace Outline.Command

open Text

variable {κ : Type}

/-- An option as it is met: of one that takes no value, the value is empty. -/
def OptionSpec.Fits (s : OptionSpec κ) (o : κ × Text) : Prop :=
  s.key = o.1 ∧ (s.takesValue = false → o.2 = [])

theorem OptionSpec.fits_value {s : OptionSpec κ} (hs : s.takesValue = true) (v : Text) :
    s.Fits (s.key, v) :=
  ⟨rfl, fun hno => absurd (hs.symm.trans hno) nofun⟩

theorem OptionSpec.fits_flag (s : OptionSpec κ) : s.Fits (s.key, []) := ⟨rfl, fun _ => rfl⟩

namespace Options

variable {specs : List (OptionSpec κ)} {mixed : Bool} {p : Parsed κ} {args : List Text}

/-! ### What options are parsed to -/

structure Group.Fits (specs : List (OptionSpec κ)) (g : Group κ) : Prop where
  complete : ∀ o ∈ g.complete, ∃ s ∈ specs, s.Fits o
  waiting : ∀ k, g.waiting = some k → ∃ s ∈ specs, s.key = k ∧ s.takesValue = true

theorem fits_shortGroup {t : Text} {g : Group κ} (h : shortGroup specs t = some g) :
    g.Fits specs := by
  induction t generalizing g with
  | nil =>
    obtain rfl := Option.some.inj h
    exact ⟨nofun, nofun⟩
  | cons c rest ih =>
    rw [shortGroup] at h
    cases hfind : specs.find? fun s => s.short == some c with
    | none => rw [hfind] at h; exact absurd h nofun
    | some s =>
      have hs := List.mem_of_find?_eq_some hfind
      rw [hfind] at h
      dsimp only at h
      by_cases hvalue : s.takesValue = true
      · rw [if_pos hvalue] at h
        by_cases hrest : rest = []
        · rw [if_pos hrest] at h
          obtain rfl := Option.some.inj h
          exact ⟨nofun, fun k hk => ⟨s, hs, Option.some.inj hk, hvalue⟩⟩
        · rw [if_neg hrest] at h
          obtain rfl := Option.some.inj h
          refine ⟨fun o ho => ?_, nofun⟩
          obtain rfl := List.mem_singleton.mp ho
          exact ⟨s, hs, s.fits_value hvalue rest⟩
      · rw [if_neg hvalue] at h
        obtain ⟨g', hg', rfl⟩ := Option.map_eq_some_iff.mp h
        obtain ⟨hcomplete, hwaiting⟩ := ih hg'
        exact ⟨List.forall_mem_cons.mpr ⟨⟨s, hs, s.fits_flag⟩, hcomplete⟩, hwaiting⟩

theorem fits_longGroup {t : Text} {g : Group κ} (h : longGroup specs t = some g) :
    g.Fits specs := by
  rw [longGroup] at h
  dsimp only at h
  split at h
  · exact absurd h nofun
  · next s hfind =>
    have hs := List.mem_of_find?_eq_some hfind
    split at h
    · next v hvalue _ =>
      obtain rfl := Option.some.inj h
      refine ⟨fun o ho => ?_, nofun⟩
      obtain rfl := List.mem_singleton.mp ho
      exact ⟨s, hs, s.fits_value hvalue v⟩
    · next hvalue _ =>
      obtain rfl := Option.some.inj h
      exact ⟨nofun, fun k hk => ⟨s, hs, Option.some.inj hk, hvalue⟩⟩
    · exact absurd h nofun
    · obtain rfl := Option.some.inj h
      refine ⟨fun o ho => ?_, nofun⟩
      obtain rfl := List.mem_singleton.mp ho
      exact ⟨s, hs, s.fits_flag⟩

theorem fits_group {t : Text} {g : Group κ} (h : group specs t = some g) : g.Fits specs := by
  rw [group.eq_def] at h
  split at h
  · exact fits_longGroup h
  · exact fits_shortGroup h
  · exact absurd h nofun

theorem fits_of_parseFrom {waiting : Option κ} (h : parseFrom specs mixed waiting args = some p)
    (hw : ∀ k, waiting = some k → ∃ s ∈ specs, s.key = k ∧ s.takesValue = true) :
    ∀ o ∈ p.options, ∃ s ∈ specs, s.Fits o := by
  induction args generalizing waiting p with
  | nil =>
    cases waiting with
    | some k => exact absurd h nofun
    | none =>
      obtain rfl := Option.some.inj h
      exact nofun
  | cons arg rest ih =>
    cases waiting with
    | some k =>
      obtain ⟨p', hp', rfl⟩ := Option.map_eq_some_iff.mp h
      obtain ⟨s, hs, rfl, hvalue⟩ := hw k rfl
      exact List.forall_mem_cons.mpr ⟨⟨s, hs, s.fits_value hvalue arg⟩, ih hp' nofun⟩
    | none =>
      rw [parseFrom] at h
      split at h
      · obtain rfl := Option.some.inj h
        exact nofun
      · split at h
        · split at h
          · exact absurd h nofun
          · next g hg =>
            obtain ⟨p', hp', rfl⟩ := Option.map_eq_some_iff.mp h
            obtain ⟨hcomplete, hwaiting⟩ := fits_group hg
            intro o ho
            exact (List.mem_append.mp ho).elim (hcomplete o) (ih hp' hwaiting o)
        · split at h
          · obtain ⟨p', hp', rfl⟩ := Option.map_eq_some_iff.mp h
            exact fun o ho => ih hp' nofun o ho
          · obtain rfl := Option.some.inj h
            exact nofun

/-- **The options that are met** are among those that are specified. -/
theorem fits_of_parse (h : parse specs mixed args = some p) :
    ∀ o ∈ p.options, ∃ s ∈ specs, s.Fits o :=
  fits_of_parseFrom h nofun

/-! ### Options written out -/

variable [DecidableEq κ]

/-- The options can be told apart by their keys and by their long names, which can be written. -/
structure Distinct (specs : List (OptionSpec κ)) : Prop where
  key : ∀ s ∈ specs, specs.find? (fun x => x.key = s.key) = some s
  long : ∀ s ∈ specs, specs.find? (fun x => x.long == s.long) = some s
  long_ne_nil : ∀ s ∈ specs, s.long ≠ []
  equals_not_mem : ∀ s ∈ specs, '=' ∉ s.long

def written (specs : List (OptionSpec κ)) (o : κ × Text) : List Text :=
  match specs.find? fun s => s.key = o.1 with
  | none => []
  | some s => ('-' :: '-' :: s.long) :: if s.takesValue then [o.2] else []

/-- Arguments **written out** for what they are to be parsed to. -/
def arguments (specs : List (OptionSpec κ)) (p : Parsed κ) : List Text :=
  p.options.flatMap (written specs) ++ ['-', '-'] :: p.others

theorem parseFrom_written (hd : Distinct specs) {o : κ × Text} (ho : ∃ s ∈ specs, s.Fits o)
    (rest : List Text) : parseFrom specs mixed none (written specs o ++ rest) =
      (parseFrom specs mixed none rest).map fun p => { p with options := o :: p.options } := by
  obtain ⟨s, hs, hkey, hvalue⟩ := ho
  obtain ⟨k, v⟩ := o
  dsimp only at hkey hvalue
  subst hkey
  have hend : '-' :: '-' :: s.long ≠ ['-', '-'] := by simp [hd.long_ne_nil s hs]
  have hoption : isOption ('-' :: '-' :: s.long) = true := rfl
  have hcut : cut '=' s.long = none := cut_eq_none_iff.mpr (hd.equals_not_mem s hs)
  rw [written, hd.key s hs]
  dsimp only
  rw [List.cons_append, parseFrom, if_neg hend, if_pos hoption, group, longGroup, hcut]
  dsimp only
  rw [hd.long s hs]
  dsimp only
  by_cases htakes : s.takesValue = true
  · rw [htakes, if_pos rfl]
    -- the value is the next argument
    show Option.map _ (Option.map _ (parseFrom specs mixed none rest)) = _
    rw [Option.map_map]
    rfl
  · rw [Bool.not_eq_true] at htakes
    rw [htakes, hvalue htakes]
    rfl

/-- **Arguments that are written out** are parsed to what they were written for. -/
theorem parse_arguments (hd : Distinct specs) (hp : ∀ o ∈ p.options, ∃ s ∈ specs, s.Fits o) :
    parse specs mixed (arguments specs p) = some p := by
  obtain ⟨options, others⟩ := p
  rw [parse, arguments]
  dsimp only at hp ⊢
  induction options with
  | nil => rfl
  | cons o options ih =>
    obtain ⟨ho, hoptions⟩ := List.forall_mem_cons.mp hp
    rw [List.flatMap_cons, List.append_assoc, parseFrom_written hd ho, ih hoptions]
    rfl

end Options

/-! ### Options left out -/

namespace Parsed

variable [DecidableEq κ] {k key : κ} (p : Parsed κ)

def without (k : κ) : Parsed κ := { p with options := p.options.filter fun o => o.1 ≠ k }

theorem lookup_filter (l : List (κ × Text)) (key : κ) :
    (l.filter fun o => o.1 ≠ k).lookup key = if key = k then none else l.lookup key := by
  induction l with
  | nil => simp
  | cons o l ih =>
    obtain ⟨k', v⟩ := o
    by_cases hk : k' = k
    · rw [List.filter_cons_of_neg (by simpa using hk), ih, List.lookup_cons]
      by_cases hkey : key = k
      · rw [if_pos hkey, if_pos hkey]
      · rw [if_neg hkey, if_neg hkey, beq_false_of_ne fun h => hkey (h.trans hk)]
    · rw [List.filter_cons_of_pos (by simpa using hk), List.lookup_cons, List.lookup_cons, ih]
      by_cases hkey : key = k
      · rw [if_pos hkey, if_pos hkey, beq_false_of_ne fun h => hk (h.symm.trans hkey)]
      · rw [if_neg hkey, if_neg hkey]

theorem value_without : (p.without k).value key = if key = k then none else p.value key := by
  rw [value, without, ← List.filter_reverse, lookup_filter]
  rfl

theorem has_without (hne : key ≠ k) : (p.without k).has key = p.has key := by
  rw [has, without, has, List.any_filter]
  congr 1
  funext o
  by_cases ho : o.1 = key
  · simp [ho, hne]
  · simp [ho]

end Parsed

/-! ### Jobs asked for without their output -/

namespace Invocation

open Options

variable {args : List Text} {j : Job} {output : Option Path} {page : Bool} {title : Text}

theorem job?_eq_some_iff {specs : List (OptionSpec Key)} {task : Parsed Key → Option Task} :
    job? specs task args = some (.job j) ↔ ∃ p name, parse specs true args = some p ∧
      p.others = [name] ∧ path? name = some j.template ∧ optionPath? p .config = some j.config ∧
      task p = some j.task ∧ p.has .verbose = j.verbose := by
  simp only [job?, Option.bind_eq_bind, Option.bind_eq_some_iff]
  constructor
  · rintro ⟨p, hp, h⟩
    split at h
    · next name hothers =>
      simp only [Option.bind_eq_some_iff] at h
      obtain ⟨template, htemplate, config, hconfig, t, ht, hjob⟩ := h
      obtain rfl := Invocation.job.inj (Option.some.inj hjob)
      exact ⟨p, name, hp, hothers, htemplate, hconfig, ht, rfl⟩
    · exact absurd h nofun
  · rintro ⟨p, name, hp, hothers, htemplate, hconfig, ht, hverbose⟩
    refine ⟨p, hp, ?_⟩
    rw [hothers]
    simp only [htemplate, hconfig, ht, hverbose, Option.bind_some]

theorem exists_ofCommand (h : ofArguments args = some (.job j)) :
    ∃ name rest, ofCommand name rest = some (.job j) := by
  rw [ofArguments] at h
  split at h
  · exact absurd h nofun
  · split at h
    · exact absurd h nofun
    · split at h
      · exact absurd h nofun
      · next name rest _ =>
        split at h
        · next i hi => exact ⟨name, rest, hi.trans h⟩
        · split at h <;> exact absurd h nofun

theorem exists_job?_of_render (h : ofArguments args = some (.job j))
    (hj : j.task = .render output page title) :
    ∃ rest, job? renderOptions renderTask rest = some (.job j) := by
  obtain ⟨name, rest, hcommand⟩ := exists_ofCommand h
  rw [ofCommand] at hcommand
  split at hcommand
  · exact ⟨rest, hcommand⟩
  · split at hcommand
    · obtain ⟨p, -, -, -, -, -, htask, -⟩ := job?_eq_some_iff.mp hcommand
      rw [hj] at htask
      exact absurd htask nofun
    · exact absurd hcommand nofun

/-- The command is told from its name, which is no option. -/
theorem ofArguments_render (rest : List Text) : ofArguments ("render".toList :: rest) =
    job? renderOptions renderTask rest := by
  have hparse : parse globalOptions false ("render".toList :: rest) =
      some ⟨[], "render".toList :: rest⟩ := rfl
  have hname : isOption "render".toList = false := rfl
  rw [ofArguments, hparse]
  dsimp only
  rw [if_neg nofun]
  rw [ofCommand, if_pos rfl, hname]
  cases job? renderOptions renderTask rest <;> rfl

theorem distinct_renderOptions : Distinct renderOptions := by
  have hfind : ∀ s ∈ renderOptions, renderOptions.find? (fun x => x.key = s.key) = some s ∧
      renderOptions.find? (fun x => x.long == s.long) = some s := by
    intro s hs
    simp only [renderOptions, sharedOptions, List.cons_append, List.nil_append, List.mem_cons,
      List.not_mem_nil, or_false] at hs
    rcases hs with rfl | rfl | rfl | rfl | rfl <;> exact ⟨rfl, rfl⟩
  exact ⟨fun s hs => (hfind s hs).1, fun s hs => (hfind s hs).2, by decide, by decide⟩

/-- **A job that renders to a file can be asked for without the file.** -/
theorem exists_arguments (h : ofArguments args = some (.job j))
    (hj : j.task = .render output page title) :
    ∃ args', ofArguments args' = some (.job { j with task := .render none page title }) := by
  obtain ⟨rest, hjob⟩ := exists_job?_of_render h hj
  obtain ⟨p, name, hp, hothers, htemplate, hconfig, htask, hverbose⟩ := job?_eq_some_iff.mp hjob
  have hwithout : ∀ o ∈ (p.without .output).options, ∃ s ∈ renderOptions, s.Fits o :=
    fun o ho => fits_of_parse hp o (List.mem_of_mem_filter ho)
  refine ⟨"render".toList :: Options.arguments renderOptions (p.without .output), ?_⟩
  rw [ofArguments_render]
  refine job?_eq_some_iff.mpr ⟨p.without .output, name,
    parse_arguments distinct_renderOptions hwithout, hothers, htemplate, ?_, ?_, ?_⟩
  · rw [← hconfig, optionPath?, optionPath?, p.value_without]
    rfl
  · rw [hj, renderTask, Option.map_eq_some_iff] at htask
    obtain ⟨output', -, htask⟩ := htask
    obtain ⟨-, rfl, rfl⟩ := Task.render.inj htask
    have hpage : (p.without .output).has .page = p.has .page := p.has_without nofun
    rw [renderTask, optionPath?, p.value_without, p.value_without, hpage]
    rfl
  · rw [← hverbose]
    exact p.has_without nofun

end Invocation

end Outline.Command
