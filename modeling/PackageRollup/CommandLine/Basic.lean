import PackageRollup.CommandLine.Options
import PackageRollup.Run

/-!
# The command line

What the program does with its words, as a function: it answers what is written to the two output
streams, the file tree afterwards, and how the program ends. Settings come from the files in the
current directory, and the options take the place of what they mention.
-/

namespace PackageRollup.CommandLine

/-- How the program is called, in one paragraph. -/
def usage : Text :=
  "usage: pkgdeps [-h] [-o OUTPUT] [-l LIBRARIES] [--no-libraries]\n"
    ++ "               [--two-segment-roots TWO_SEGMENT_ROOTS]\n"
    ++ "               [--format \x7bmarkdown,json\x7d] [-v]\n"
    ++ "               input\n"

/-- How the program is called, at length. -/
def helpText : Text :=
  usage ++ "\n"
    ++ "Summarize Java class-level dependencies (JSONL) as a base-package Markdown\n"
    ++ "report.\n\n"
    ++ "positional arguments:\n"
    ++ "  input                 Path to the JSONL dependency file ('-' for stdin)\n\n"
    ++ "options:\n"
    ++ "  -h, --help            show this help message and exit\n"
    ++ "  -o OUTPUT, --output OUTPUT\n"
    ++ "                        Output file path (default: package-dependencies.md)\n"
    ++ "  -l LIBRARIES, --libraries LIBRARIES\n"
    ++ "                        Comma-separated library keywords to count (default:\n"
    ++ "                        struts,commons,log4j,cryptix)\n"
    ++ "  --no-libraries        Disable library usage counting\n"
    ++ "  --two-segment-roots TWO_SEGMENT_ROOTS\n"
    ++ "                        Comma-separated top-level names whose base package is\n"
    ++ "                        two segments deep (default: java,javax,org,net)\n"
    ++ "  --format \x7bmarkdown,json\x7d\n"
    ++ "                        Output format (default: markdown)\n"
    ++ "  -v, --verbose         Enable verbose (debug) output\n"

/-- What is said of a command line that is refused. -/
def usageText (e : UsageError) : Text :=
  usage ++ "pkgdeps: error: " ++ Utf8.escapeSurrogates e.message ++ "\n"

/-- A value that is given as a list of names. -/
def givenNames : Given → List Text
  | some t => NameList.ofText t
  | none => []

/-- The settings after the options. -/
def Options.override (o : Options) (s : Settings) : Settings where
  libraries :=
    if o.noLibraries then []
    else match o.libraries with
      | some given => givenNames given
      | none => s.libraries
  roots :=
    match o.roots with
    | some given => givenNames given
    | none => s.roots
  output :=
    match o.output with
    | some given => given.map Path.ofText
    | none => s.output
  format :=
    match o.format with
    | some given => given
    | none => s.format

/-- Whether an event is shown. -/
def isShown (verbose : Bool) (e : Event) : Bool := verbose || decide (e.level ≠ .debug)

/-- Events as they are shown, one on a line, with escapes for surrogates. -/
def shownEvents (verbose : Bool) (events : List Event) : Text :=
  (events.filter (isShown verbose)).flatMap fun e ↦ Utf8.escapeSurrogates e.message ++ "\n"

/-- A failure that the program does not expect. -/
inductive Escape where
  | settings (fault : SettingsFault)
  | run (failure : Failure)
deriving DecidableEq

/-- How the program ends. -/
inductive Ending where
  | exit (code : Nat)
  | escaped (e : Escape)
deriving DecidableEq

/-- What the program does. -/
structure Outcome where
  ending : Ending
  stdout : Text
  stderr : Text
  tree : Tree

/-- Whether a failure is expected: an input that is unavailable, or an output that cannot be
written. -/
def isExpected : Failure → Bool
  | .input (.unavailable _) | .output .. => true
  | _ => false

/-- The outcome of a run. -/
def outcomeOf (verbose : Bool) (before : List Event) (ran : Run.Ran) : Outcome :=
  let events := before ++ ran.events
  match ran.failure with
  | none => ⟨.exit 0, [], shownEvents verbose events, ran.tree⟩
  | some failure =>
    if isExpected failure then
      ⟨.exit 1, [], shownEvents verbose (events ++ [.failed failure.message]), ran.tree⟩
    else ⟨.escaped (.run failure), [], shownEvents verbose events, ran.tree⟩

/-- The settings files in the current directory. -/
def settingsPaths : List Path := [Path.ofText ".pkgdeps.toml", Path.ofText "pyproject.toml"]

/-- The paths that a command line leads to when the settings files are in the tree. -/
def pathsOf (argv : List Text) (t : Tree) : List Path :=
  match readOptions argv with
  | .error _ => []
  | .ok o =>
    let settings := o.override (Settings.load t ⟨0, []⟩ []).settings
    [Path.ofText (o.input.getD []), settings.outputPath]

/-- Whether a command line asks for standard input. -/
def readsStandardInput (argv : List Text) : Bool :=
  match readOptions argv with
  | .error _ => false
  | .ok o => o.input == some ("-" : Text)

/-- Do what a command line asks for. The current directory is shown under the given name. -/
def execute (argv : List Text) (directory : Text) (t : Tree) (stdin : StandardInput) : Outcome :=
  match readOptions argv with
  | .error .help => ⟨.exit 0, helpText, [], t⟩
  | .error (.usage e) => ⟨.exit 2, [], usageText e, t⟩
  | .ok o =>
    let loaded := Settings.load t ⟨0, []⟩ directory
    match loaded.fault with
    | some fault => ⟨.escaped (.settings fault), [], shownEvents o.verbose loaded.events, t⟩
    | none =>
      let input := o.input.getD []
      outcomeOf o.verbose loaded.events (Run.run (o.override loaded.settings) t stdin input)

/-- What is said of an unexpected failure. -/
def Escape.message : Escape → Text
  | settings fault => fault.message
  | run failure => failure.message

end PackageRollup.CommandLine
