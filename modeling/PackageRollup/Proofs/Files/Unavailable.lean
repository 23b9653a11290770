import PackageRollup.Files.Input

/-!
# Inputs that cannot be got at

Whether a path leads to anything, and whether to a directory, is asked before the file is opened.
What refuses these two questions goes out as it is, unless it counts as there being nothing; what
refuses the file itself, or breaks off its lines, is said of the input. In a tree only a name or a
path that is too long refuses the questions, and it does so where the path gets to it.
-/

namespace PackageRollup

/-- The answer is refused for a cause that does not count as there being nothing. -/
def Escapes (answer : Except PathFailure Entry) : Prop :=
  ∃ fault p, answer = .error (.refused fault p) ∧ fault.isAbsence = false

/-- Neither question about a path is refused for such a cause. The second one is only asked if there
is an entry. -/
def Settles (first second : Except PathFailure Entry) : Prop :=
  ¬ Escapes first ∧ ∀ e, first = .ok e → ¬ Escapes second

/-- The answers have the file opened. -/
def Admits (first second : Except PathFailure Entry) : Prop :=
  (∃ e, first = .ok e) ∧ ¬ Escapes second ∧ second ≠ .ok .directory

theorem Admits.settles {first second : Except PathFailure Entry} (h : Admits first second) :
    Settles first second := by
  obtain ⟨⟨e, rfl⟩, hsecond, -⟩ := h
  refine ⟨?_, fun _ _ ↦ hsecond⟩
  rintro ⟨fault, p, hrefused, -⟩
  cases hrefused

namespace Tree

variable {answer : Except PathFailure Entry} {t : Tree} {p : Path}

theorem escapes_iff : Escapes answer ↔ ∃ failure, ifAny answer = .error failure := by
  constructor
  · rintro ⟨fault, p, rfl, hfault⟩
    exact ⟨.refused fault p, if_neg (Bool.eq_false_iff.mp hfault)⟩
  · rintro ⟨failure, h⟩
    rw [ifAny.eq_def] at h
    split at h
    · cases h
    · split at h
      next => cases h
      next hfault => exact ⟨_, _, rfl, Bool.eq_false_iff.mpr hfault⟩
    · cases h

theorem not_escapes_of_ifAny {found : Option Entry} (h : ifAny answer = .ok found) :
    ¬ Escapes answer := by
  rw [escapes_iff, h]
  rintro ⟨failure, hfailure⟩
  cases hfailure

theorem ifAny_eq_some_iff {e : Entry} : ifAny answer = .ok (some e) ↔ answer = .ok e := by
  constructor
  · intro h
    rw [ifAny.eq_def] at h
    split at h
    · cases h
      rfl
    · split at h <;> cases h
    · cases h
  · rintro rfl
    rfl

/-! ## Trees -/

variable {root : Trie Bytes Entry} {w : Way} {name : Bytes} {names : List Bytes}

/-- A name that is longer than names can be, other than the one that leads back. -/
def IsLongName (name : Bytes) : Prop := name ≠ parentName ∧ maxNameBytes < name.length

/-- What the first name does to the way, whatever names come after it. -/
inductive FirstStep (root : Trie Bytes Entry) (w : Way) (name : Bytes) : Prop where
  | tooLong (hlong : IsLongName name)
      (h : ∀ names, follow root w (name :: names) = .error .nameTooLong)
  | onward (w' : Way) (hlong : ¬ IsLongName name)
      (h : ∀ names, follow root w (name :: names) = follow root w' names)
  | stops (hlong : ¬ IsLongName name)
      (hdirectory : ∀ names l, follow root w (name :: names) ≠ .ok (.found l .directory))
      (hfault : ∀ names fault, follow root w (name :: names) = .error fault →
        fault.isAbsence = true)

theorem FirstStep.of_end (place : Place) (fault : FileFault) (hlong : ¬ IsLongName name)
    (hplace : ∀ l, place ≠ .found l .directory) (hfault : fault.isAbsence = true)
    (h : ∀ names, follow root w (name :: names) =
      if names.isEmpty then .ok place else .error fault) : FirstStep root w name := by
  refine .stops hlong ?_ ?_
  · intro names l hfound
    rw [h] at hfound
    split at hfound
    · exact hplace l (Except.ok.inj hfound)
    · cases hfound
  · intro names fault' hrefused
    rw [h] at hrefused
    split at hrefused
    · cases hrefused
    · rwa [← Except.error.inj hrefused]

theorem firstStep (root : Trie Bytes Entry) (w : Way) (name : Bytes) : FirstStep root w name := by
  by_cases hparent : name = parentName
  · exact .onward w.tail (fun h ↦ h.1 hparent) fun names ↦ by rw [follow, if_pos hparent]
  by_cases hlength : maxNameBytes < name.length
  · refine .tooLong ⟨hparent, hlength⟩ fun names ↦ ?_
    rw [follow, if_neg hparent, if_pos hlength]
  have hlong : ¬ IsLongName name := fun h ↦ hlength h.2
  cases hhere : (Way.last root ((name, (w.last root).child name) :: w)).here with
  | none =>
      refine .of_end (.vacant (Way.location ((name, (w.last root).child name) :: w))) .missing hlong
        (by simp) rfl fun names ↦ ?_
      simp only [follow, if_neg hparent, if_neg hlength, hhere]
  | some e =>
  cases e with
  | directory =>
      refine .onward ((name, (w.last root).child name) :: w) hlong fun names ↦ ?_
      simp only [follow, if_neg hparent, if_neg hlength, hhere]
  | file content =>
      refine .of_end (.found (Way.location ((name, (w.last root).child name) :: w)) (.file content))
        .notDirectory hlong (by simp) rfl fun names ↦ ?_
      simp only [follow, if_neg hparent, if_neg hlength, hhere]

/-- A name that is too long stands where the names before it have led to a directory. -/
def MeetsLongName (root : Trie Bytes Entry) (w : Way) (names : List Bytes) : Prop :=
  ∃ before name after, names = before ++ name :: after ∧ IsLongName name ∧
    ∃ l, follow root w before = .ok (.found l .directory)

theorem meetsLongName_cons_iff :
    MeetsLongName root w (name :: names) ↔
      IsLongName name ∨ ∃ before long after, names = before ++ long :: after ∧ IsLongName long ∧
        ∃ l, follow root w (name :: before) = .ok (.found l .directory) := by
  constructor
  · rintro ⟨before, long, after, hnames, hlong, hway⟩
    cases before with
    | nil =>
        cases hnames
        exact Or.inl hlong
    | cons first before =>
        cases hnames
        exact Or.inr ⟨before, long, after, rfl, hlong, hway⟩
  · rintro (hlong | ⟨before, long, after, rfl, hlong, hway⟩)
    · exact ⟨[], name, names, rfl, hlong, _, rfl⟩
    · exact ⟨name :: before, long, after, rfl, hlong, hway⟩

theorem follow_eq_nameTooLong_iff :
    follow root w names = .error .nameTooLong ↔ MeetsLongName root w names := by
  induction names generalizing w with
  | nil =>
      refine iff_of_false (by simp [follow]) ?_
      rintro ⟨before, name, after, hnames, -⟩
      exact List.append_ne_nil_of_right_ne_nil before (List.cons_ne_nil name after) hnames.symm
  | cons name names ih =>
      -- a long name behind the first one is met from where the first one leads
      rw [meetsLongName_cons_iff]
      cases firstStep root w name with
      | tooLong hlong h => exact iff_of_true (h names) (Or.inl hlong)
      | onward w' hlong h =>
          simp only [h, hlong, false_or]
          exact ih
      | stops hlong hdirectory hfault =>
          refine iff_of_false ?_ ?_
          · intro h
            cases hfault names _ h
          · rintro (h | ⟨before, -, -, -, -, l, hway⟩)
            · exact hlong h
            · exact hdirectory before l hway

theorem isAbsence_of_follow {fault : FileFault} (h : follow root w names = .error fault)
    (hfault : fault ≠ .nameTooLong) : fault.isAbsence = true := by
  induction names generalizing w with
  | nil => cases h
  | cons name names ih =>
      cases firstStep root w name with
      | tooLong _ hstep =>
          rw [hstep] at h
          cases h
          exact absurd rfl hfault
      | onward w' _ hstep =>
          rw [hstep] at h
          exact ih h
      | stops _ _ hstep => exact hstep names fault h

/-- The path can be looked up, and is too long or gets to a name that is. -/
def IsTooLong (t : Tree) (p : Path) : Prop :=
  surrogatesOf p.text = none ∧ p.text.contains (CodePoint.ofNat 0) = false ∧
    (maxPathBytes < (Path.nameOf p.text).length ∨
      MeetsLongName t.root [] (t.startOf p ++ p.location))

theorem lookup_eq_nameTooLong_iff :
    t.lookup p = .error (.refused .nameTooLong p) ↔ t.IsTooLong p := by
  rw [IsTooLong, ← follow_eq_nameTooLong_iff, lookup]
  cases hsurrogates : surrogatesOf p.text with
  | some run => simp
  | none =>
  cases hnull : p.text.contains (CodePoint.ofNat 0) with
  | true => simp
  | false =>
  by_cases hlength : maxPathBytes < (Path.nameOf p.text).length
  · simp [hlength]
  · cases hfollow : follow t.root [] (t.startOf p ++ p.location) with
    | ok place => simp [hlength]
    | error fault => simp [hlength]

theorem refused_lookup {fault : FileFault} {q : Path}
    (h : t.lookup p = .error (.refused fault q)) :
    q = p ∧ (fault ≠ .nameTooLong → fault.isAbsence = true) := by
  rw [lookup] at h
  split at h
  · cases h
  split at h
  · cases h
  split at h
  · cases h
    exact ⟨rfl, fun hfault ↦ absurd rfl hfault⟩
  split at h
  next => cases h
  next hfollow =>
    cases h
    exact ⟨rfl, isAbsence_of_follow hfollow⟩

theorem escapes_entryAt_iff : Escapes (t.entryAt p) ↔ t.IsTooLong p := by
  rw [← lookup_eq_nameTooLong_iff]
  constructor
  · rintro ⟨fault, q, h, hfault⟩
    rw [entryAt] at h
    split at h
    next => cases h
    next =>
      cases h
      cases hfault
    next failure hlookup =>
      cases h
      obtain ⟨rfl, habsence⟩ := refused_lookup hlookup
      by_cases hlong : fault = .nameTooLong
      · rwa [hlong] at hlookup
      · rw [habsence hlong] at hfault
        cases hfault
  · intro h
    exact ⟨.nameTooLong, p, by rw [entryAt, h], rfl⟩

end Tree

/-! ## Sources -/

namespace Source

variable {p : Path} {first second : Except PathFailure Entry}
  {opened : Except FileFault StandardInput} {s : Source}

/-- The input is read to its end, or is said to be unavailable. -/
def Reports (s : Source) : Prop := ∀ f, s.failure = some f → ∃ e, f = .unavailable e

/-- The source gives all lines of a stream that ends, and the lines before the failure of one that
breaks off, if the stream is got at, and no lines otherwise. An error bears the name of the input,
and says why the stream was refused or broke off. -/
structure Gives (p : Path) (admitted : Prop) (opened : Except FileFault StandardInput)
    (s : Source) : Prop where
  whole : ∀ lines, s = ⟨lines, none⟩ ↔
    admitted ∧ ∃ content, opened = .ok (.bytes content) ∧ lines = Text.linesOfBytes content
  broken : admitted → ∀ lines reason, opened = .ok (.broken lines reason) →
    s = ⟨lines.map Text.withoutLineBreak, some (.unavailable ⟨p.text, .failed reason⟩)⟩
  refused : admitted → ∀ fault, opened = .error fault →
    s = ⟨[], some (.unavailable ⟨p.text, .failed (PathFailure.refused fault p).message⟩)⟩
  unread : s.lines ≠ [] → admitted ∧ ∃ stream, opened = .ok stream
  named : ∀ e, s.failure = some (.unavailable e) → e.path = p.text

variable {admitted : Prop}

theorem Gives.of_unread {f : SourceFailure} (h : ¬ admitted)
    (hname : ∀ e, f = .unavailable e → e.path = p.text) : Gives p admitted opened ⟨[], some f⟩ where
  whole lines := by simp [h]
  broken hadmitted := absurd hadmitted h
  refused hadmitted := absurd hadmitted h
  unread hlines := absurd rfl hlines
  named e he := hname e (Option.some.inj he)

theorem Gives.of_refused {fault : FileFault} :
    Gives p admitted (.error fault)
      ⟨[], some (.unavailable ⟨p.text, .failed (PathFailure.refused fault p).message⟩)⟩ where
  whole lines := by simp
  broken _ lines reason hlines := by cases hlines
  refused _ fault' hfault := by
    cases hfault
    rfl
  unread hlines := absurd rfl hlines
  named e he := by
    cases he
    rfl

theorem Gives.of_bytes {content : Bytes} (h : admitted) :
    Gives p admitted (.ok (.bytes content)) ⟨Text.linesOfBytes content, none⟩ where
  whole lines := by simp [h, eq_comm]
  broken _ lines reason hlines := by cases hlines
  refused _ fault hfault := by cases hfault
  unread _ := ⟨h, _, rfl⟩
  named e he := by cases he

theorem Gives.of_broken {lines : List Text} {reason : Text} (h : admitted) :
    Gives p admitted (.ok (.broken lines reason))
      ⟨lines.map Text.withoutLineBreak, some (.unavailable ⟨p.text, .failed reason⟩)⟩ where
  whole lines' := by simp
  broken _ lines' reason' hlines := by
    cases hlines
    rfl
  refused _ fault hfault := by cases hfault
  unread _ := ⟨h, _, rfl⟩
  named e he := by
    cases he
    rfl

theorem reports_ofStandardInput (stdin : StandardInput) : (ofStandardInput stdin).Reports := by
  cases stdin with
  | bytes content =>
      intro f hf
      cases hf
  | broken lines reason =>
      intro f hf
      exact ⟨_, (Option.some.inj hf).symm⟩

theorem gives_ofStandardInput (stdin : StandardInput) :
    Gives (Path.ofText "-") True (.ok stdin) (ofStandardInput stdin) := by
  have hname : (Path.ofText ("-" : Text)).text = ("-" : Text) := by decide
  cases stdin with
  | bytes content => exact .of_bytes trivial
  | broken lines reason =>
      rw [ofStandardInput, ← hname]
      exact .of_broken trivial

/-- What comes of the answers about a file. -/
inductive Answered (p : Path) (first second : Except PathFailure Entry)
    (opened : Except FileFault StandardInput) : Source → Prop where
  | escaped {failure : PathFailure} (h : ¬ Settles first second) :
      Answered p first second opened ⟨[], some (.path failure)⟩
  | unopened {problem : InputProblem} (h : Settles first second) (hnot : ¬ Admits first second) :
      Answered p first second opened ⟨[], some (.unavailable ⟨p.text, problem⟩)⟩
  | refused {fault : FileFault} (h : Admits first second) (hopened : opened = .error fault) :
      Answered p first second opened
        ⟨[], some (.unavailable ⟨p.text, .failed (PathFailure.refused fault p).message⟩)⟩
  | whole {content : Bytes} (h : Admits first second) (hopened : opened = .ok (.bytes content)) :
      Answered p first second opened ⟨Text.linesOfBytes content, none⟩
  | broken {lines : List Text} {reason : Text} (h : Admits first second)
      (hopened : opened = .ok (.broken lines reason)) :
      Answered p first second opened
        ⟨lines.map Text.withoutLineBreak, some (.unavailable ⟨p.text, .failed reason⟩)⟩

theorem answered_of_admits (h : Admits first second) (e : Entry) {kind : Option Entry}
    (hkind : kind ≠ some .directory) :
    Answered p first second opened (ofAnswers p ⟨.ok (some e), .ok kind, opened⟩) := by
  have hopens : ofAnswers p ⟨.ok (some e), .ok kind, opened⟩ =
      ofAnswers p ⟨.ok (some e), .ok none, opened⟩ := by
    match kind with
    | none => rfl
    | some (.file _) => rfl
    | some .directory => exact absurd rfl hkind
  rw [hopens]
  match hopened : opened with
  | .error fault => exact .refused h rfl
  | .ok (.bytes content) => exact .whole h rfl
  | .ok (.broken lines reason) => exact .broken h rfl

theorem answered_ofAnswers (p : Path) (first second : Except PathFailure Entry)
    (opened : Except FileFault StandardInput) :
    Answered p first second opened
      (ofAnswers p ⟨Tree.ifAny first, Tree.ifAny second, opened⟩) := by
  cases hfirst : Tree.ifAny first with
  | error failure => exact .escaped fun h ↦ h.1 (Tree.escapes_iff.mpr ⟨failure, hfirst⟩)
  | ok found =>
  have hsettled : ¬ Escapes first := Tree.not_escapes_of_ifAny hfirst
  cases found with
  | none =>
      have hnone : ∀ e, first ≠ .ok e := by
        rintro e rfl
        cases hfirst
      refine .unopened ⟨hsettled, fun e he ↦ absurd he (hnone e)⟩ ?_
      rintro ⟨⟨e, he⟩, -⟩
      exact hnone e he
  | some e =>
  have hentry : first = .ok e := Tree.ifAny_eq_some_iff.mp hfirst
  cases hsecond : Tree.ifAny second with
  | error failure =>
      exact .escaped fun h ↦ h.2 e hentry (Tree.escapes_iff.mpr ⟨failure, hsecond⟩)
  | ok kind =>
  have hkind : ¬ Escapes second := Tree.not_escapes_of_ifAny hsecond
  by_cases hdirectory : kind = some .directory
  · subst hdirectory
    refine .unopened ⟨hsettled, fun _ _ ↦ hkind⟩ fun h ↦ ?_
    exact h.2.2 (Tree.ifAny_eq_some_iff.mp hsecond)
  · refine answered_of_admits ⟨⟨e, hentry⟩, hkind, ?_⟩ e hdirectory
    rintro rfl
    exact hdirectory (Except.ok.inj hsecond).symm

theorem Answered.reports_iff (h : Answered p first second opened s) :
    s.Reports ↔ Settles first second := by
  cases h with
  | escaped h =>
      refine iff_of_false (fun hreports ↦ ?_) h
      obtain ⟨e, he⟩ := hreports _ rfl
      cases he
  | unopened h _ => exact iff_of_true (fun _ hf ↦ ⟨_, (Option.some.inj hf).symm⟩) h
  | refused h _ => exact iff_of_true (fun _ hf ↦ ⟨_, (Option.some.inj hf).symm⟩) h.settles
  | whole h _ => exact iff_of_true (fun _ hf ↦ by cases hf) h.settles
  | broken h _ => exact iff_of_true (fun _ hf ↦ ⟨_, (Option.some.inj hf).symm⟩) h.settles

theorem Answered.gives (h : Answered p first second opened s) :
    Gives p (Admits first second) opened s := by
  cases h with
  | escaped h =>
      apply Gives.of_unread
      · exact fun hadmits ↦ h hadmits.settles
      · rintro e ⟨⟩
  | unopened _ hnot =>
      apply Gives.of_unread hnot
      rintro e ⟨⟩
      rfl
  | refused h hopened =>
      rw [hopened]
      exact .of_refused
  | whole h hopened =>
      rw [hopened]
      exact .of_bytes h
  | broken h hopened =>
      rw [hopened]
      exact .of_broken h

/-! ## Arguments -/

/-- The source that an argument names, when the file system gives these answers about its path. -/
def ofAnswered (stdin : StandardInput) (first second : Except PathFailure Entry)
    (opened : Except FileFault StandardInput) (argument : Text) : Source :=
  if argument = ("-" : Text) then ofStandardInput stdin
  else ofAnswers (Path.ofText argument) ⟨Tree.ifAny first, Tree.ifAny second, opened⟩

variable {stdin : StandardInput} {argument : Text}

theorem reports_ofAnswered_iff :
    (ofAnswered stdin first second opened argument).Reports ↔
      argument = ("-" : Text) ∨ Settles first second := by
  by_cases hdash : argument = ("-" : Text)
  · rw [ofAnswered, if_pos hdash]
    exact iff_of_true (reports_ofStandardInput stdin) (Or.inl hdash)
  · rw [ofAnswered, if_neg hdash, or_iff_right hdash]
    exact (answered_ofAnswers ..).reports_iff

theorem gives_ofAnswered :
    Gives (Path.ofText argument) (argument = ("-" : Text) ∨ Admits first second)
      (if argument = ("-" : Text) then .ok stdin else opened)
      (ofAnswered stdin first second opened argument) := by
  by_cases hdash : argument = ("-" : Text)
  · simp only [ofAnswered, hdash, if_true, true_or]
    exact gives_ofStandardInput stdin
  · simp only [ofAnswered, hdash, if_false, false_or]
    exact (answered_ofAnswers ..).gives

theorem reports_ofArgument_iff (t : Tree) :
    (ofArgument t stdin argument).Reports ↔
      argument = ("-" : Text) ∨ ¬ t.IsTooLong (Path.ofText argument) := by
  have hsettles : Settles (t.entryAt (Path.ofText argument)) (t.entryAt (Path.ofText argument)) ↔
      ¬ t.IsTooLong (Path.ofText argument) := by
    rw [← Tree.escapes_entryAt_iff]
    exact and_iff_left_of_imp fun h _ _ ↦ h
  rw [← hsettles]
  exact reports_ofAnswered_iff

end Source

end PackageRollup
