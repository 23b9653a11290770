import PackageRollup.Files.Tree
import PackageRollup.Text.Utf8

/-!
# Input

Lines are read from a file, or from standard input if the path is a single dash. A source is the
lines that can be read and, if reading fails, the failure after them.
-/

namespace PackageRollup

/-- What a stream such as standard input gives: bytes, or some lines and then a failure with a
reason. -/
inductive StandardInput where
  | bytes (content : Bytes)
  | broken (lines : List Text) (reason : Text)

inductive InputProblem where
  | missing
  | directory
  | failed (reason : Text)
deriving DecidableEq

structure InputError where
  path : Text
  problem : InputProblem
deriving DecidableEq

def InputError.message (e : InputError) : Text :=
  let reason : Text := match e.problem with
    | .missing => "file does not exist"
    | .directory => "is a directory"
    | .failed reason => reason
  "Input file '" ++ e.path ++ "' is unavailable: " ++ reason

inductive SourceFailure where
  | unavailable (e : InputError)
  /-- The file system refuses the path as such. -/
  | path (failure : PathFailure)
deriving DecidableEq

/-- The lines of an input and why there are no more, if that is a failure. -/
structure Source where
  lines : List Text
  failure : Option SourceFailure
deriving DecidableEq

/-- What a file system answers about a path: whether there is an entry, what it is, and what comes
of opening it. It is asked three times, and need not be in the same state. -/
structure Answers where
  found : Except PathFailure (Option Entry)
  kind : Except PathFailure (Option Entry)
  opened : Except FileFault StandardInput

/-- The answers of a file system that stays as it is. -/
abbrev Answers.ofEntry (entry : Except PathFailure (Option Entry)) : Answers where
  found := entry
  kind := entry
  opened :=
    match entry with
    | .ok (some (.file content)) => .ok (.bytes content)
    | .ok (some .directory) => .error .isDirectory
    | _ => .error .missing

namespace Source

def ofStandardInput : StandardInput → Source
  | .bytes content => ⟨Text.linesOfBytes content, none⟩
  | .broken lines reason =>
    ⟨lines.map Text.withoutLineBreak, some (.unavailable ⟨"-", .failed reason⟩)⟩

/-- The lines of a file. What the first two answers fail with is not turned into an input error;
what opening and reading the file fail with is. -/
abbrev ofAnswers (p : Path) (a : Answers) : Source :=
  match a.found with
  | .error failure => ⟨[], some (.path failure)⟩
  | .ok none => ⟨[], some (.unavailable ⟨p.text, .missing⟩)⟩
  | .ok (some _) =>
    match a.kind with
    | .error failure => ⟨[], some (.path failure)⟩
    | .ok (some .directory) => ⟨[], some (.unavailable ⟨p.text, .directory⟩)⟩
    | .ok _ =>
      match a.opened with
      | .error fault =>
        ⟨[], some (.unavailable ⟨p.text, .failed (PathFailure.refused fault p).message⟩)⟩
      | .ok (.bytes content) => ⟨Text.linesOfBytes content, none⟩
      | .ok (.broken lines reason) =>
        ⟨lines.map Text.withoutLineBreak, some (.unavailable ⟨p.text, .failed reason⟩)⟩

def ofFile (t : Tree) (p : Path) : Source := ofAnswers p (.ofEntry (t.entryIfAny p))

/-- The input that an argument names. -/
def ofArgument (t : Tree) (stdin : StandardInput) (argument : Text) : Source :=
  if argument = ("-" : Text) then ofStandardInput stdin else ofFile t (Path.ofText argument)

end Source

def SourceFailure.message : SourceFailure → Text
  | unavailable e => e.message
  | path failure => failure.message

end PackageRollup
