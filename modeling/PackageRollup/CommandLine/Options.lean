import PackageRollup.Text.CharacterClass
import PackageRollup.Text.Quoted

/-!
# Options

The words of a command line are options and operands; there is one operand, the input. An option has
a long name after two dashes, which may be shortened as long as no other name begins the same way,
or a short one of a single letter after one dash. A value follows an option as the next word, after
an equals sign, or, after a short name, right away. Short names without a value may share a dash.
Two dashes alone end the options; two dashes that are written into the same word as an option stand
for no value. A word that looks like a negative number or holds a space is an operand, even with a
dash in front.

These are the rules of the early releases of version 3.11. Later ones take two dashes that are
written into the same word as an option for its value, leave out an equals sign behind an option
that is not the first of its word, and say of a letter there that is no option that it is not
recognized.
-/

namespace PackageRollup.CommandLine

inductive Switch where
  | help
  | output
  | libraries
  | noLibraries
  | twoSegmentRoots
  | format
  | verbose
deriving DecidableEq

def Switch.takesValue : Switch → Bool
  | output | libraries | twoSegmentRoots | format => true
  | help | noLibraries | verbose => false

def switchNames : List (Text × Switch) := [
  ("-h", .help), ("--help", .help), ("-o", .output), ("--output", .output),
  ("-l", .libraries), ("--libraries", .libraries), ("--no-libraries", .noLibraries),
  ("--two-segment-roots", .twoSegmentRoots), ("--format", .format),
  ("-v", .verbose), ("--verbose", .verbose)]

/-- All the names of an option, as it is called in messages. -/
def Switch.label (s : Switch) : Text :=
  Text.join "/" ((switchNames.filter fun e ↦ decide (e.2 = s)).map Prod.fst)

def switchNamed? (name : Text) : Option Switch :=
  switchNames.findSome? fun (n, s) ↦ if n = name then some s else none

inductive UsageError where
  | ambiguous (word : Text) (names : List Text)
  | valueMissing (s : Switch)
  | valueIgnored (s : Switch) (value : Text)
  | unknownFormat (value : Text)
  | inputMissing
  | unrecognized (words : List Text)
deriving DecidableEq

def formatChoices : List Text := ["markdown", "json"]

def UsageError.message : UsageError → Text
  | ambiguous word names =>
    "ambiguous option: " ++ word ++ " could match " ++ Text.join ", " names
  | valueMissing s => "argument " ++ s.label ++ ": expected one argument"
  | valueIgnored s value =>
    "argument " ++ s.label ++ ": ignored explicit argument " ++ Text.quoted value
  | unknownFormat value =>
    "argument " ++ Switch.format.label ++ ": invalid choice: " ++ Text.quoted value
      ++ " (choose from " ++ Text.join ", " (formatChoices.map Text.quoted) ++ ")"
  | inputMissing => "the following arguments are required: input"
  | unrecognized words => "unrecognized arguments: " ++ Text.join " " words

/-! ### Words -/

/-- An option in a word: whether it stands behind a single dash, and what follows it in the word. -/
structure Mention where
  switch : Switch
  short : Bool
  attached : Option Text
deriving DecidableEq

inductive Word where
  | operand (t : Text)
  /-- The two dashes that end the options. -/
  | divider
  | mention (m : Mention)
  /-- A word that looks like an option and is none. -/
  | unknown (t : Text)
deriving DecidableEq

/-- What stands before and after the first equals sign. -/
def cutAtEquals (t : Text) : Text × Option Text :=
  let (name, rest) := t.span (fun c ↦ decide (c ≠ CodePoint.ofChar '='))
  if rest.isEmpty then (name, none) else (name, some (rest.drop 1))

/-- A word without the line feed that may end it. -/
def withoutLineFeed (t : Text) : Text :=
  if t.getLast? = some (CodePoint.ofChar '\n') then t.dropLast else t

def isNumeral (t : Text) : Bool := !t.isEmpty && t.all Text.isDecimalDigit

/-- Whether what follows a dash is a number: digits, or digits behind a point with or without digits
before it. -/
def isNumber (t : Text) : Bool :=
  let t := withoutLineFeed t
  let (whole, rest) := t.span Text.isDecimalDigit
  isNumeral t || (rest.head? == some (CodePoint.ofChar '.') && whole.all Text.isDecimalDigit
    && isNumeral (rest.drop 1))

/-- The names that a long option may be short for. -/
def completions (front : Text) : List (Text × Switch) :=
  switchNames.filter fun e ↦ front.isPrefixOf e.1

/-- A word that begins with two dashes and is no full name. -/
def longWord (t : Text) : Except UsageError Word :=
  let (front, attached) := cutAtEquals t
  match completions front with
  | [] => .ok (if t.contains (CodePoint.ofChar ' ') then .operand t else .unknown t)
  | [(_, s)] => .ok (.mention ⟨s, false, attached⟩)
  | several => .error (.ambiguous t (several.map Prod.fst))

/-- A word that begins with one dash and something else, and is no full name. -/
def shortWord (t : Text) : Word :=
  match switchNamed? (t.take 2) with
  | some s => .mention ⟨s, true, some (t.drop 2)⟩
  | none =>
    if isNumber (t.drop 1) || t.contains (CodePoint.ofChar ' ') then .operand t else .unknown t

def isShortName (name : Text) : Bool := name.length = 2

/-- Tell what a word before the divider is. -/
def classify (t : Text) : Except UsageError Word :=
  match t with
  | [] | [_] => .ok (.operand t)
  | first :: second :: _ =>
    if first ≠ '-' then .ok (.operand t)
    else match switchNamed? t with
      | some s => .ok (.mention ⟨s, isShortName t, none⟩)
      | none =>
        let (name, attached) := cutAtEquals t
        match attached, switchNamed? name with
        | some value, some s => .ok (.mention ⟨s, isShortName name, some value⟩)
        | _, _ => if second = '-' then longWord t else .ok (shortWord t)

/-- Tell what each word is. After the divider every word is an operand. -/
def classifyAll : List Text → Except UsageError (List Word)
  | [] => .ok []
  | t :: ts =>
    if t = ("--" : Text) then .ok (.divider :: ts.map .operand)
    else do
      let word ← classify t
      let words ← classifyAll ts
      return word :: words

/-! ### Reading -/

/-- A value that an option is given; two dashes are no value. -/
abbrev Given := Option Text

structure Setting where
  switch : Switch
  value : Given
deriving DecidableEq

/-- The value in the text attached to an option. In later releases it is always the text. -/
def attachedValue (t : Text) : Given := if t = ("--" : Text) then none else some t

/-- The options that a word mentions, and whether the next word is the value of the last one. -/
structure Gathered where
  settings : List Setting
  takesNext : Bool
deriving DecidableEq

/-- An option at the end of its word. -/
def gatherBare (next : Option Text) (s : Switch) : Except UsageError Gathered :=
  if s.takesValue then
    match next with
    | some value => .ok ⟨[⟨s, some value⟩], true⟩
    | none => .error (.valueMissing s)
  else .ok ⟨[⟨s, none⟩], false⟩

/-- An option with text attached to it, which is its value or more short options. An equals sign in
front of the value of a later short option belongs to the value, which it does not in later
releases. -/
def gatherAttached (next : Option Text) (short : Bool) (s : Switch) :
    Text → Except UsageError Gathered
  | [] => if s.takesValue then .ok ⟨[⟨s, some []⟩], false⟩ else .error (.valueIgnored s [])
  | c :: t =>
    if s.takesValue then .ok ⟨[⟨s, attachedValue (c :: t)⟩], false⟩
    else if !short then .error (.valueIgnored s (c :: t))
    else match switchNamed? [CodePoint.ofChar '-', c] with
      | none => .error (.valueIgnored s (c :: t))
      | some more => do
        let rest ← match t with
          | [] => gatherBare next more
          | d :: t' => gatherAttached next short more (d :: t')
        return { rest with settings := ⟨s, none⟩ :: rest.settings }

/-- The options that a mention stands for. -/
def gather (next : Option Text) (m : Mention) : Except UsageError Gathered :=
  match m.attached with
  | none => gatherBare next m.switch
  | some t => gatherAttached next m.short m.switch t

/-- What a command line asks for. A value is `none` where the option is not mentioned. -/
structure Options where
  input : Option Text
  output : Option Given
  libraries : Option Given
  noLibraries : Bool
  roots : Option Given
  format : Option Given
  verbose : Bool
  /-- The words that have no place, in order. -/
  extra : List Text
deriving DecidableEq

/-- The options before the first word. -/
def Options.initial : Options := ⟨none, none, none, false, none, none, false, []⟩

/-- Why a command line does not lead to a run. -/
inductive Halt where
  | help
  | usage (e : UsageError)
deriving DecidableEq

def Options.follow (o : Options) (s : Setting) : Except Halt Options :=
  match s.switch with
  | .help => .error .help
  | .output => .ok { o with output := some s.value }
  | .libraries => .ok { o with libraries := some s.value }
  | .noLibraries => .ok { o with noLibraries := true }
  | .twoSegmentRoots => .ok { o with roots := some s.value }
  | .verbose => .ok { o with verbose := true }
  | .format =>
    match s.value with
    | some name =>
      if name ∈ formatChoices then .ok { o with format := some s.value }
      else .error (.usage (.unknownFormat name))
    | none => .ok { o with format := some none }

def Options.followAll (o : Options) : List Setting → Except Halt Options
  | [] => .ok o
  | s :: ss =>
    match o.follow s with
    | .ok o => o.followAll ss
    | .error halt => .error halt

def Options.addExtra (o : Options) (t : Text) : Options := { o with extra := o.extra ++ [t] }

def Word.operand? : Word → Option Text
  | operand t => some t
  | _ => none

/-- Go through the words. The first operand is the input; the divider next to it is dropped. -/
def readWords (o : Options) : List Word → Except Halt Options
  | [] => .ok o
  | .unknown t :: ws => readWords (o.addExtra t) ws
  | .operand t :: ws =>
    if o.input.isSome then readWords (o.addExtra t) ws
    else
      let o := { o with input := some t }
      match ws with
      | .divider :: ws' => readWords o ws'
      | ws => readWords o ws
  | .divider :: ws =>
    match o.input, ws with
    | none, .operand t :: ws' => readWords { o with input := some t } ws'
    | _, ws => readWords (o.addExtra "--") ws
  | .mention m :: ws =>
    match gather (ws.head?.bind Word.operand?) m with
    | .error e => .error (.usage e)
    | .ok g =>
      match o.followAll g.settings with
      | .error halt => .error halt
      | .ok o =>
        match g.takesNext, ws with
        | true, _ :: ws' => readWords o ws'
        | _, ws => readWords o ws

def readOptions (argv : List Text) : Except Halt Options :=
  match classifyAll argv with
  | .error e => .error (.usage e)
  | .ok words =>
    match readWords .initial words with
    | .error halt => .error halt
    | .ok o =>
      if o.input.isNone then .error (.usage .inputMissing)
      else if o.extra.isEmpty then .ok o
      else .error (.usage (.unrecognized o.extra))

end PackageRollup.CommandLine
