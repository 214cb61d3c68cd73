import Outline.Proofs.Command.Options
import Outline.Proofs.Files.Delivery
import Outline.Proofs.Text.Terminal

/-!
# What rendering leaves behind

Rendering makes its markup before it looks at where the markup goes, and writes nothing until then.
So a run that is refused leaves the files as they were, and one that is not has delivered one file,
or printed what would have been in it.

* `Command.Harmless`: steps that leave the files alone when they are refused.
* `Command.perform_render`: the markup is made first, and then it is put where it goes.
* `Command.render_all_or_nothing`: what a run that renders leaves behind.
-/

namespace Outline.Command

open FileTree

variable {α β : Type} {s : Setting} {j : Job} {output : Option Path} {page : Bool} {title : Text}

/-! ### Steps that are refused -/

/-- When the attempt is refused it reports a problem, and the files are as they were. -/
def Harmless (s : Setting) (x : Attempt α) : Prop :=
  ∀ r, x = .error (.inr r) → r.problem.isSome = true ∧ r.files = s.files

namespace Harmless

theorem pure (a : α) : Harmless s (Pure.pure a : Attempt α) := nofun

theorem crash (c : Crash) : Harmless s (.error (.inl c) : Attempt α) := nofun

theorem system (x : Except FileFault α) : Harmless s (Command.system x) := by
  cases x <;> exact nofun

theorem refuse (notices : List Notice) (p : Problem) :
    Harmless s (Command.refuse s notices p : Attempt α) := by
  intro r h
  obtain rfl := Sum.inr.inj (Except.error.inj h)
  exact ⟨rfl, rfl⟩

theorem bind {x : Attempt α} {f : α → Attempt β} (hx : Harmless s x)
    (hf : ∀ a, Harmless s (f a)) : Harmless s (x >>= f) := by
  cases x with
  | ok a => exact hf a
  | error e =>
    intro r h
    exact hx r (congrArg Except.error (Except.error.inj h))

theorem map {x : Attempt α} (f : α → β) (hx : Harmless s x) : Harmless s (x.map f) := by
  cases x with
  | ok a => exact nofun
  | error e =>
    intro r h
    exact hx r (congrArg Except.error (Except.error.inj h))

theorem readTemplate (path : Path) : Harmless s (Command.readTemplate s path) := by
  refine .bind (.system _) fun found => ?_
  cases found with
  | none => exact .refuse _ _
  | some e => exact .map _ (.system _)

theorem settingsPath (named : Option Path) : Harmless s (Command.settingsPath s named) := by
  cases named with
  | some path => exact nofun
  | none => exact .system _

theorem readSettings (named : Option Path) : Harmless s (Command.readSettings s named) := by
  refine .bind (.settingsPath named) fun found => ?_
  cases found with
  | none => exact .pure _
  | some path =>
    refine .bind (.system _) fun entry => ?_
    cases entry with
    | none => exact .pure _
    | some e =>
      refine .bind (.system _) fun text => ?_
      split
      · exact .pure _
      · exact .crash _
      · exact .refuse _ _

theorem markupOf (settings : Settings) (template : Text) :
    Harmless s (Command.markupOf s settings template) := by
  rw [Command.markupOf]
  split
  · exact .refuse _ _
  · exact .crash _
  · exact .pure _

theorem deliver (path : Path) (markup : Text) : Harmless s (Command.deliver s path markup) :=
  .bind (.system _) fun _ => .system _

end Harmless

/-! ### Rendering in two steps -/

def markupFor (s : Setting) (template : Path) (config : Option Path) (page : Bool) (title : Text) :
    Attempt (Text × List Notice) := do
  let template ← readTemplate s template
  let settings ← readSettings s config
  let (markup, notices) ← markupOf s settings template
  pure (if page then Markup.page "en".toList title markup else markup, notices)

/-- Markup put where it goes. -/
def emit (s : Setting) (output : Option Path) (made : Text × List Notice) : Attempt Report :=
  match output with
  | some path => do
    let files ← deliver s path made.1
    pure
      { stdout := Text.withoutSequences (line ("Wrote ".toList ++ path.text))
        notices := made.2
        files := files }
  | none =>
    pure
      { stdout := Text.withoutSequences (line made.1)
        notices := made.2
        files := s.files }

/-- **The markup is made first**, and nothing that it is made of depends on where it goes. -/
theorem perform_render (hj : j.task = .render output page title) :
    perform s j = markupFor s j.template j.config page title >>= emit s output := by
  rw [perform, markupFor, hj]
  cases readTemplate s j.template with
  | error e => rfl
  | ok template =>
    cases readSettings s j.config with
    | error e => rfl
    | ok settings =>
      cases hmarkup : markupOf s settings template with
      | error e => simp only [bind, Except.bind, hmarkup]
      | ok made =>
        simp only [bind, Except.bind, hmarkup, pure, Except.pure]
        cases output <;> rfl

theorem harmless_perform (hj : j.task = .render output page title) : Harmless s (perform s j) := by
  rw [perform_render hj]
  refine .bind (.bind (.readTemplate _) fun _ => .bind (.readSettings _) fun _ =>
    .bind (.markupOf _ _) fun _ => .pure _) fun made => ?_
  cases output with
  | none => exact .pure _
  | some path => exact .bind (.deliver path made.1) fun _ => .pure _

theorem delivered_of_deliver {path : Path} {markup : Text} {files : FileTree}
    (h : deliver s path markup = .ok files) : ∃ place,
      files.resolve s.cwd path = .ok place ∧ files.read s.cwd path = .ok (line markup) ∧
        Delivered (placesOf s.cwd path.parent) place (line markup) s.files files := by
  rw [deliver] at h
  cases hmade : s.files.makeDirectories s.cwd path.parent with
  | error f => rw [hmade] at h; exact absurd h nofun
  | ok between =>
    rw [hmade] at h
    have hwritten : system (between.write s.cwd path (line markup)) = .ok files := h
    cases hwrite : between.write s.cwd path (line markup) with
    | error f => rw [hwrite] at hwritten; exact absurd hwritten nofun
    | ok files' =>
      rw [hwrite] at hwritten
      obtain rfl := Except.ok.inj hwritten
      exact delivered_of_write hmade hwrite

theorem emit_some_eq_ok_iff {path : Path} {made : Text × List Notice} {report : Report} :
    emit s (some path) made = .ok report ↔ ∃ files, deliver s path made.1 = .ok files ∧
      report = { stdout := Text.withoutSequences (line ("Wrote ".toList ++ path.text))
                 notices := made.2
                 files := files } := by
  rw [emit]
  cases deliver s path made.1 with
  | error e => exact ⟨nofun, fun ⟨_, h, _⟩ => absurd h nofun⟩
  | ok files =>
    constructor
    · intro h
      exact ⟨files, rfl, (Except.ok.inj h).symm⟩
    · rintro ⟨files', h, rfl⟩
      rw [Except.ok.inj h]
      rfl

theorem status_of_emit {made : Text × List Notice} {report : Report}
    (h : emit s output made = .ok report) : report.status = 0 := by
  cases output with
  | none =>
    obtain rfl := Except.ok.inj h
    rfl
  | some path =>
    obtain ⟨files, -, rfl⟩ := emit_some_eq_ok_iff.mp h
    rfl

/-- **The file that markup is put into**, and the directories on the way to it. -/
theorem delivered_of_emit {path : Path} {made : Text × List Notice} {report : Report}
    (h : emit s (some path) made = .ok report) : ∃ place,
      report.files.resolve s.cwd path = .ok place ∧
        report.files.read s.cwd path = .ok (line made.1) ∧
        Delivered (placesOf s.cwd path.parent) place (line made.1) s.files report.files := by
  obtain ⟨files, hdeliver, rfl⟩ := emit_some_eq_ok_iff.mp h
  exact delivered_of_deliver hdeliver

/-! ### Runs that render -/

def printed (s : Setting) (made : Text × List Notice) : Report :=
  { stdout := Text.withoutSequences (line made.1), notices := made.2, files := s.files }

section

variable {args : List Text} {th : Level} {report : Report}

/-- **A run that renders** is refused and leaves the files as they were, or has made its markup and
put it where it goes. -/
theorem run_render_cases (hargs : Invocation.ofArguments args = some (.job j))
    (hj : j.task = .render output page title) (h : run s args = .finished th report) :
    th = threshold s j ∧ ((report.status = 1 ∧ report.files = s.files) ∨
      (report.status = 0 ∧ ∃ made, markupFor s j.template j.config page title = .ok made ∧
        emit s output made = .ok report)) := by
  rw [run, hargs] at h
  dsimp only at h
  cases hperform : perform s j with
  | error e =>
    rw [hperform] at h
    cases e with
    | inl c => exact absurd h nofun
    | inr r =>
      obtain ⟨hproblem, hfiles⟩ := harmless_perform hj r hperform
      obtain ⟨hth, rfl⟩ := Outcome.finished.inj h
      exact ⟨hth.symm, .inl ⟨by rw [Report.status, if_pos hproblem], hfiles⟩⟩
  | ok r =>
    rw [hperform] at h
    obtain ⟨hth, rfl⟩ := Outcome.finished.inj h
    refine ⟨hth.symm, .inr ?_⟩
    rw [perform_render hj] at hperform
    cases hmade : markupFor s j.template j.config page title with
    | error e => rw [hmade] at hperform; exact absurd hperform nofun
    | ok made =>
      rw [hmade] at hperform
      have hemit : emit s output made = .ok r := hperform
      exact ⟨status_of_emit hemit, made, rfl, hemit⟩

theorem run_of_markupFor {made : Text × List Notice}
    (hargs : Invocation.ofArguments args = some (.job j)) (hj : j.task = .render none page title)
    (hmade : markupFor s j.template j.config page title = .ok made) :
    run s args = .finished (threshold s j) (printed s made) := by
  have hperform : perform s j = .ok (printed s made) := by
    rw [perform_render hj, hmade]
    rfl
  rw [run, hargs]
  simp only [hperform]

/-- **Rendering is all or nothing.**  A run that is refused, and one that prints its markup, leave
the files as they were.  A run that writes its markup to a file delivers that file and nothing else,
and the file holds what is printed when the same is asked for without it. -/
theorem render_all_or_nothing (hargs : Invocation.ofArguments args = some (.job j))
    (hj : j.task = .render output page title) (h : run s args = .finished th report) :
    (report.status = 1 → report.files = s.files) ∧
    (report.status = 0 → output = none → report.files = s.files) ∧
    (report.status = 0 → ∀ path, output = some path → ∃ place text,
      report.files.resolve s.cwd path = .ok place ∧ report.files.read s.cwd path = .ok text ∧
      Delivered (placesOf s.cwd path.parent) place text s.files report.files ∧
      (∃ args', Invocation.ofArguments args' =
        some (.job { j with task := .render none page title })) ∧
      ∀ args', Invocation.ofArguments args' =
          some (.job { j with task := .render none page title }) →
        ∃ report', run s args' = .finished th report' ∧ report'.status = 0 ∧
          report'.files = s.files ∧ report'.stdout = Text.withoutSequences text ∧
          (Text.Sequenceless text → report'.stdout = text)) := by
  obtain ⟨rfl, ⟨hstatus, hfiles⟩ | ⟨hstatus, made, hmade, hemit⟩⟩ := run_render_cases hargs hj h
  · refine ⟨fun _ => hfiles, fun h0 => ?_, fun h0 => ?_⟩ <;>
      exact absurd (hstatus.symm.trans h0) nofun
  · refine ⟨fun h1 => absurd (hstatus.symm.trans h1) nofun, fun _ hnone => ?_, ?_⟩
    · subst hnone
      obtain rfl := Except.ok.inj hemit
      rfl
    · rintro _ path rfl
      obtain ⟨place, hplace, hread, hdelivered⟩ := delivered_of_emit hemit
      refine ⟨place, line made.1, hplace, hread, hdelivered,
        Invocation.exists_arguments hargs hj, fun args' hargs' => ?_⟩
      let printing : Job := { j with task := .render none page title }
      have hrun : run s args' = .finished (threshold s j) (printed s made) :=
        run_of_markupFor (j := printing) hargs' rfl hmade
      exact ⟨printed s made, hrun, rfl, rfl, rfl, Text.withoutSequences_eq_self_iff.mpr⟩

/-- A file that is delivered into a directory that is not there. -/
theorem render_all_or_nothing_of_missing_directory :
    let s : Setting :=
      { files := ⟨[([['w']], .directory), ([['w'], ['t']], .file "a(b)".toList)]⟩, cwd := [['w']] }
    ∃ report, run s ["render".toList, ['t'], "-vo".toList, "d/e".toList] = .finished .info report ∧
      Delivered [[['w']], [['w'], ['d']]] [['w'], ['d'], ['e']] "<a>b</a>\n".toList s.files
        report.files := by
  intro s
  let path : Path := ⟨[], [['d'], ['e']]⟩
  let j : Job := ⟨.render (some path) false [], ⟨[], [['t']]⟩, none, true⟩
  let report : Report :=
    { stdout := "Wrote d/e\n".toList
      notices := [.compiled 1]
      files := (s.files.put [['w'], ['d']] .directory).put [['w'], ['d'], ['e']]
        (.file "<a>b</a>\n".toList) }
  have hargs : Invocation.ofArguments ["render".toList, ['t'], "-vo".toList, "d/e".toList] =
      some (.job j) := rfl
  have hrun : run s ["render".toList, ['t'], "-vo".toList, "d/e".toList] =
      .finished .info report := rfl
  obtain ⟨-, -, hwritten⟩ := render_all_or_nothing hargs rfl hrun
  obtain ⟨place, text, hplace, htext, hdelivered, -⟩ := hwritten rfl path rfl
  have hplace' : report.files.resolve s.cwd path = .ok [['w'], ['d'], ['e']] := rfl
  have htext' : report.files.read s.cwd path = .ok "<a>b</a>\n".toList := rfl
  obtain rfl := Except.ok.inj (hplace.symm.trans hplace')
  obtain rfl := Except.ok.inj (htext.symm.trans htext')
  exact ⟨report, hrun, hdelivered⟩

end

end Outline.Command
