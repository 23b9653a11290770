import PackageRollup.Proofs.Json.Outline
import PackageRollup.Proofs.Session.Skipped
import PackageRollup.Proofs.Text.Lines
import PackageRollup.Run

/-!
# Lines that are not UTF-8

Bytes that are not UTF-8 are replaced before a line is read. The line is then skipped if it is
rejected, and a skipped line is as good as a blank one for the report. It is rejected if a replaced
byte stands outside of the strings of the line; inside of a string the replacement is a code point
like any other, and the line may still hold a record.
-/

namespace PackageRollup

/-- Only the strings of a record may hold a replacement character. -/
theorem Record.isRejected_of_mem_outline {line : Text}
    (hmem : Utf8.replacement ∈ Json.outline line)
    (hlimit : ∀ l, ¬ Json.ExceedsLimit line l) : IsRejected line := by
  rcases decode_ok_or_rejected_iff.mpr hlimit with ⟨r, hr⟩ | hrejected
  · have hread : ∃ v, Json.read line = .ok v := by
      rw [decode] at hr
      cases hread : Json.read line with
      | error e => cases e <;> simp [hread] at hr
      | ok v => exact ⟨v, rfl⟩
    obtain ⟨v, hv⟩ := hread
    have hascii : Utf8.replacement.val < 128 := Json.isAscii_outline_of_read hv _ hmem
    exact absurd hascii (by decide)
  · exact hrejected

theorem Text.isBlankText_of_replacement_mem {t : Text} (h : Utf8.replacement ∈ t) :
    isBlankText t = false := by
  have hreplacement : isBlank Utf8.replacement = false := by decide
  rw [isBlankText, List.all_eq_false]
  exact ⟨Utf8.replacement, h, Bool.eq_false_iff.mp hreplacement⟩

namespace Run

/-- Whether the bytes of the input are one thing or the other makes no difference to the report, nor
to why there is none. -/
structure SameReports (content content' : Bytes) : Prop where
  standardInput : ∀ settings t,
    (analyze settings t (.bytes content) "-").report =
      (analyze settings t (.bytes content') "-").report
  file : ∀ settings t t' stdin argument, argument ≠ ("-" : Text) →
    t.entryIfAny (Path.ofText argument) = .ok (some (.file content)) →
    t'.entryIfAny (Path.ofText argument) = .ok (some (.file content')) →
    (analyze settings t stdin argument).report = (analyze settings t' stdin argument).report

theorem SameReports.of_lines {content content' : Bytes}
    (h : ∀ settings, (analyzeSource settings ⟨Text.linesOfBytes content, none⟩).report =
      (analyzeSource settings ⟨Text.linesOfBytes content', none⟩).report) :
    SameReports content content' := by
  refine ⟨fun settings t ↦ h settings, ?_⟩
  intro settings t t' stdin argument hdash hfile hfile'
  simp only [analyze, Source.ofArgument, if_neg hdash, Source.ofFile, hfile, hfile']
  exact h settings

theorem report_build_plus (s : Session) (d : Counts) :
    (s.plus d).build.report.report = s.build.report.report := rfl

/-- A line that is blank or rejected does not count for the report. -/
theorem report_analyzeSource_insert {settings : Settings} {line : Text}
    (h : Text.isBlankText line ∨ Record.IsRejected line) (xs ys : List Text)
    (failure : Option SourceFailure) :
    (analyzeSource settings ⟨xs ++ line :: ys, failure⟩).report =
      (analyzeSource settings ⟨xs ++ ys, failure⟩).report := by
  obtain ⟨d, hsession, hstop⟩ := Session.exists_ingestLines_insert h
    (.start settings.libraries (NameSet.ofList settings.roots)) xs ys
  simp only [analyzeSource, hstop, hsession]
  split
  · rfl
  · rfl
  · exact congrArg Except.ok (report_build_plus _ d)

variable {p : Text.LinePlace} {line blank : Bytes}

theorem report_analyzeSource_fill {settings : Settings}
    (hline : ∀ b ∈ line, Text.isBreakByte b = false)
    (h : Text.isBlankText (Utf8.decodeReplacing line) ∨
      Record.IsRejected (Utf8.decodeReplacing line)) (failure : Option SourceFailure) :
    (analyzeSource settings ⟨Text.linesOfBytes (p.fill line), failure⟩).report =
      (analyzeSource settings ⟨p.linesBefore ++ p.linesAfter, failure⟩).report := by
  rcases p.linesOfBytes_fill hline with hlines | ⟨-, hlines⟩
  · rw [hlines, report_analyzeSource_insert h]
  · rw [hlines]

theorem sameReports_fill (hline : ∀ b ∈ line, Text.isBreakByte b = false)
    (hrejected : Record.IsRejected (Utf8.decodeReplacing line))
    (hunbroken : ∀ b ∈ blank, Text.isBreakByte b = false)
    (hblank : Text.isBlankText (Utf8.decodeReplacing blank)) :
    SameReports (p.fill line) (p.fill blank) := by
  apply SameReports.of_lines
  intro settings
  rw [report_analyzeSource_fill hline (Or.inr hrejected),
    report_analyzeSource_fill hunbroken (Or.inl hblank)]

/-- A line that is not UTF-8 is read with replacement characters. It is skipped just when it is then
rejected, and so it is if one of them stands outside of its strings, unless the line goes beyond a
limit of the JSON reader. The report on a rejected line is the report on a blank one. -/
theorem undecodable_line_skipped_iff (hline : ∀ b ∈ line, Text.isBreakByte b = false)
    (hbad : Utf8.decode? line = none) :
    p.linesBefore ++ [Utf8.decodeReplacing line] <+: Text.linesOfBytes (p.fill line) ∧
    (∀ s : Session, s.finished = false → (s.ingestLines p.linesBefore).stop = none →
      (((s.ingestLines (p.linesBefore ++ [Utf8.decodeReplacing line])).stop = none ∧
          (s.ingestLines (p.linesBefore ++ [Utf8.decodeReplacing line])).session =
            (s.ingestLines p.linesBefore).session.countLine.countSkipped) ↔
        Record.IsRejected (Utf8.decodeReplacing line))) ∧
    (Utf8.replacement ∈ Json.outline (Utf8.decodeReplacing line) →
      (∀ l, ¬ Json.ExceedsLimit (Utf8.decodeReplacing line) l) →
        Record.IsRejected (Utf8.decodeReplacing line)) ∧
    (Record.IsRejected (Utf8.decodeReplacing line) →
      ∀ blank, (∀ b ∈ blank, Text.isBreakByte b = false) →
        Text.isBlankText (Utf8.decodeReplacing blank) →
          SameReports (p.fill line) (p.fill blank)) := by
  have hmem : Utf8.replacement ∈ Utf8.decodeReplacing line :=
    Utf8.replacement_mem_of_decode?_eq_none hbad
  refine ⟨?_, ?_, Record.isRejected_of_mem_outline, ?_⟩
  · rcases p.linesOfBytes_fill hline with hlines | ⟨hnil, -⟩
    · rw [hlines]
      exact ⟨p.linesAfter, by simp⟩
    · rw [hnil] at hmem
      cases hmem
  · intro s hs hstop
    exact Session.ingestLines_concat_skips_iff hs hstop (Text.isBlankText_of_replacement_mem hmem)
  · intro hrejected blank hunbroken hblank
    exact sameReports_fill hline hrejected hunbroken hblank

/-- A byte that no sequence holds, behind the string of a member. -/
def strayBehindString : Bytes :=
  ("\x7b\"sourceClass\":\"a.b.C\"" : Text).flatMap Utf8.encodeOne ++ [0xFF, 0x7D]

/-- The same byte in the package of a class, in a line that holds a record otherwise. -/
def strayInString : Bytes :=
  ("\x7b\"sourceClass\":\"a.b" : Text).flatMap Utf8.encodeOne ++ [0xFF] ++
    (".C\",\"targetClass\":\"x.y.Z\",\"artifactId\":\"m\",\"artifactGroup\":\"g\"\x7d" :
      Text).flatMap Utf8.encodeOne

/-- The second of three lines, between two blank ones. -/
def secondOfThree : Text.LinePlace where
  before := [32, 13, 10]
  behind := [10, 32]
  before_ends := by decide +kernel
  behind_begins := by decide +kernel

/-- A byte outside of the strings has its line skipped, and the line might as well be blank. -/
theorem undecodable_line_skipped_behind_string :
    (∀ b ∈ strayBehindString, Text.isBreakByte b = false) ∧
      Utf8.decode? strayBehindString = none ∧
      ((Session.start Session.defaultLibraries (.ofList BasePackage.defaultRoots)).ingestLines
        (secondOfThree.linesBefore ++
          [Utf8.decodeReplacing strayBehindString])).session.counts = ⟨2, 0, 1⟩ ∧
      (analyze .default .empty (.bytes (secondOfThree.fill strayBehindString)) "-").report =
        (analyze .default .empty (.bytes (secondOfThree.fill [9])) "-").report := by
  have hline : ∀ b ∈ strayBehindString, Text.isBreakByte b = false := by decide +kernel
  have hbad : Utf8.decode? strayBehindString = none := by decide +kernel
  have hfresh : (Session.start Session.defaultLibraries
    (.ofList BasePackage.defaultRoots)).finished = false := rfl
  have hlimit : ∀ l, ¬ Json.ExceedsLimit (Utf8.decodeReplacing strayBehindString) l :=
    (Session.stop_ingestFrom_iff hfresh).mp
      (show (Session.ingestFrom 1 _ [Utf8.decodeReplacing strayBehindString]).stop = none by
        decide +kernel) _ List.mem_cons_self (by decide +kernel)
  obtain ⟨-, hskips, hrejected, hreport⟩ :=
    undecodable_line_skipped_iff (p := secondOfThree) hline hbad
  have hline' := hrejected (by decide +kernel) hlimit
  have hskipped := (hskips _ hfresh (by decide +kernel)).mpr hline'
  refine ⟨hline, hbad, ?_, (hreport hline' [9] (by decide +kernel) (by decide +kernel)).1 _ _⟩
  rw [hskipped.2]
  decide +kernel

/-- A byte inside of a string does not keep its line from being a record: the line is not UTF-8, it
is counted as a record, and its package is in the report, where a blank line leaves none. -/
theorem undecodable_line_ingested :
    Utf8.decode? strayInString = none ∧
      ((Session.start Session.defaultLibraries (.ofList BasePackage.defaultRoots)).ingestLines
        (Text.linesOfBytes strayInString)).session.counts = ⟨1, 1, 0⟩ ∧
      (analyze .default .empty (.bytes strayInString) "-").report.toOption.map
        Report.basePackages = some [("a.b\ufffd" : Text), ("x.y" : Text)] ∧
      (analyze .default .empty (.bytes [32]) "-").report.toOption.map
        Report.basePackages = some [] := by
  refine ⟨by decide +kernel, by decide +kernel, by decide +kernel, by decide +kernel⟩

end Run

end PackageRollup
