import Mathlib.Data.List.Basic
import PackageRollup.CommandLine.Basic
import PackageRollup.Proofs.Files.Unavailable

/-!
# What the program says of its input

An input that is said to be unavailable ends the program with its message and with status one. A
refusal that goes out as it is ends it without either. Nothing is written in both cases.
-/

namespace PackageRollup

/-- No line of the source keeps a run from going on. -/
def Run.ReadsOn (settings : Settings) (source : Source) : Prop :=
  ((Session.start settings.libraries (NameSet.ofList settings.roots)).ingestLines
    source.lines).stop = none

namespace CommandLine

open Source (ofAnswered)

variable {source : Source} {settings : Settings} {t : Tree} {failure : SourceFailure}
  {events : List Event}

/-- The outcome has what was shown before and then the failure of the input as an error, with status
one; a refusal of the path is not caught. The tree is left as it was. -/
def Conveys (failure : SourceFailure) (shown : Text) (t : Tree) (outcome : Outcome) : Prop :=
  match failure with
  | .unavailable e =>
    outcome = ⟨.exit 1, [], shown ++ (Utf8.escapeSurrogates ("Error: " ++ e.message) ++ "\n"), t⟩
  | .path refusal => outcome = ⟨.escaped (.run (.input (.path refusal))), [], shown, t⟩

theorem shownEvents_failed (verbose : Bool) (events : List Event) (message : Text) :
    shownEvents verbose (events ++ [.failed message]) =
      shownEvents verbose events ++ (Utf8.escapeSurrogates ("Error: " ++ message) ++ "\n") := by
  have hshown : isShown verbose (.failed message) = true := by
    rw [isShown, Bool.or_eq_true]
    exact Or.inr rfl
  rw [shownEvents, List.filter_append, List.flatMap_append, List.filter_cons_of_pos hshown,
    List.filter_nil, List.flatMap_singleton]
  rfl

theorem report_of_failure (hfailure : source.failure = some failure)
    (hreads : Run.ReadsOn settings source) :
    (Run.analyzeSource settings source).report = .error (.input failure) := by
  simp only [Run.ReadsOn] at hreads
  simp only [Run.analyzeSource, hreads, hfailure]

theorem conveys_outcomeOf (hfailure : source.failure = some failure)
    (hreads : Run.ReadsOn settings source) (verbose : Bool) (before : List Event) :
    Conveys failure (shownEvents verbose (before ++ events)) t
      (outcomeOf verbose before
        (Run.conclude settings t ⟨(Run.analyzeSource settings source).report, events⟩)) := by
  rw [report_of_failure hfailure hreads]
  cases failure with
  | unavailable e =>
      rw [Conveys, ← shownEvents_failed]
      rfl
  | path refusal => rfl

/-- Whatever an input gives, it is read to its end or said to be unavailable after the lines before
the failure, unless one of the two questions about its path is refused; and the program ends with
what is said of it. In a tree only a path that is too long is refused so. -/
theorem input_reported_iff (stdin : StandardInput) (first second : Except PathFailure Entry)
    (opened : Except FileFault StandardInput) (argument : Text) :
    ((ofAnswered stdin first second opened argument).Reports ↔
      argument = ("-" : Text) ∨ Settles first second) ∧
    (ofAnswered stdin first second opened argument).Gives (Path.ofText argument)
      (argument = ("-" : Text) ∨ Admits first second)
      (if argument = ("-" : Text) then .ok stdin else opened) ∧
    (∀ settings t verbose before events failure,
      (ofAnswered stdin first second opened argument).failure = some failure →
      Run.ReadsOn settings (ofAnswered stdin first second opened argument) →
      Conveys failure (shownEvents verbose (before ++ events)) t
        (outcomeOf verbose before (Run.conclude settings t
          ⟨(Run.analyzeSource settings
            (ofAnswered stdin first second opened argument)).report, events⟩))) ∧
    ∀ t : Tree,
      ((Source.ofArgument t stdin argument).Reports ↔
        argument = ("-" : Text) ∨ ¬ t.IsTooLong (Path.ofText argument)) ∧
      ∀ argv directory o settings failure, readOptions argv = .ok o → o.input = some argument →
        (Settings.load t ⟨0, []⟩ directory).fault = none →
        settings = o.override (Settings.load t ⟨0, []⟩ directory).settings →
        (Source.ofArgument t stdin argument).failure = some failure →
        Run.ReadsOn settings (Source.ofArgument t stdin argument) →
        Conveys failure
          (shownEvents o.verbose ((Settings.load t ⟨0, []⟩ directory).events ++
            (Run.analyze settings t stdin argument).events)) t
          (execute argv directory t stdin) := by
  refine ⟨Source.reports_ofAnswered_iff, Source.gives_ofAnswered, ?_, ?_⟩
  · intro settings t verbose before events failure hfailure hreads
    exact conveys_outcomeOf hfailure hreads verbose before
  · intro t
    refine ⟨Source.reports_ofArgument_iff t, ?_⟩
    rintro argv directory o settings failure hoptions hinput hloaded rfl hfailure hreads
    simp only [execute, hoptions, hloaded, hinput, Option.getD_some]
    exact conveys_outcomeOf hfailure hreads o.verbose _

/-- Two lines come from standard input before it breaks off. -/
theorem input_reported_broken_stream :
    ∃ stderr, Utf8.escapeSurrogates
        "Error: Input file '-' is unavailable: read failed\n" <:+ stderr ∧
      execute ["-"] "d" .empty (.broken ["", "x\n"] "read failed") =
        ⟨.exit 1, [], stderr, .empty⟩ := by
  have hoptions : readOptions ["-"] = .ok ⟨some "-", none, none, false, none, none, false, []⟩ := by
    decide +kernel
  have hloaded : (Settings.load .empty ⟨0, []⟩ "d").fault = none := by decide +kernel
  have hreads : Run.ReadsOn
      (Options.override ⟨some "-", none, none, false, none, none, false, []⟩
        (Settings.load .empty ⟨0, []⟩ "d").settings)
      (Source.ofArgument .empty (.broken ["", "x\n"] "read failed") "-") := by
    unfold Run.ReadsOn
    decide +kernel
  have hconveys := ((input_reported_iff (.broken ["", "x\n"] "read failed")
    (.error .nullCharacter) (.error .nullCharacter) (.error .missing) "-").2.2.2 .empty).2
    ["-"] "d" _ _ _ hoptions rfl hloaded rfl rfl hreads
  exact ⟨_, List.suffix_append _ _, hconveys⟩

/-- A name of 256 letters. -/
def overlong : Text := List.replicate 256 (CodePoint.ofChar 'a')

/-- A name that is too long is not said to be unavailable and does not end the program with status
one. Nor is a path below a directory that must not be searched said to be unavailable. -/
theorem overlong_name_escapes :
    ¬ (Source.ofArgument .empty (.bytes []) overlong).Reports ∧
    (execute [overlong] "d" .empty (.bytes [])).ending =
      .escaped (.run (.input (.path (.refused .nameTooLong (Path.ofText overlong))))) ∧
    ∀ stdin second opened,
      ¬ (ofAnswered stdin (.error (.refused (.other 13 "Permission denied") ⟨0, ["a", "b"]⟩))
        second opened "a/b").Reports := by
  refine ⟨?_, by decide +kernel, ?_⟩
  · intro hreports
    have hfailure : (Source.ofArgument .empty (.bytes []) overlong).failure =
        some (.path (.refused .nameTooLong (Path.ofText overlong))) := by decide +kernel
    obtain ⟨e, he⟩ := hreports _ hfailure
    cases he
  · intro stdin second opened
    rw [Source.reports_ofAnswered_iff]
    rintro (hdash | hsettles)
    · exact absurd hdash (by decide)
    · exact hsettles.1 ⟨_, _, rfl, by decide⟩

end CommandLine

end PackageRollup
