import PackageRollup.Proofs.Report.Summary
import PackageRollup.Proofs.Session.Skipped
import PackageRollup.Proofs.Session.WellFormed

/-!
# Sessions that take no more records

Once its packages are grouped, a session is settled: what it holds would be grouped into what it
has. A settled session refuses every record, so lines can only be counted, and they are read up to
the first one that holds a record. Nothing that ingests or groups brings more about than that, and
so all reports from there on are the same.
-/

namespace PackageRollup.Session

/-! ## Operations that ingest and operations that group -/

namespace Operation

def ingests : Operation → Bool
  | ingest _ | ingestLines _ => true
  | _ => false

def groups : Operation → Bool
  | build | report => true
  | _ => false

end Operation

/-- The session is finished, and grouping its packages again would change nothing. -/
def Settled (s : Session) : Prop := s.grouping = some s.groupPackages

variable {s : Session} {line : Text} {lines : List Text}

/-! ## Lines that hold no record -/

/-- The session with lines counted, and those of them counted as skipped that are not blank. -/
def skipOver (s : Session) (lines : List Text) : Session :=
  { s with counts :=
    ⟨s.counts.lines + lines.length, s.counts.records,
      s.counts.skipped + lines.countP Record.isSkippedLine⟩ }

/-- Blank lines and rejected ones leave nothing but counts and warnings, in any session. -/
theorem ingestFrom_of_no_record (number : Nat) (s : Session)
    (h : ∀ line ∈ lines, Text.isBlankText line ∨ Record.IsRejected line) :
    ingestFrom number s lines =
      ⟨s.skipOver lines, (Record.rejectionsFrom number lines).map Event.skipped, none⟩ := by
  induction lines generalizing number s with
  | nil => rfl
  | cons line lines ih =>
      rw [List.forall_mem_cons] at h
      have hlength : s.counts.lines + 1 + lines.length = s.counts.lines + (lines.length + 1) := by
        omega
      rw [skipOver, Record.rejectionsFrom_cons, List.countP_cons, List.length_cons, ← hlength]
      cases hblank : Text.isBlankText line with
      | true =>
          have hrejection : Record.rejection? number line = none := by
            simp [Record.rejection?, hblank]
          have hskipped : Record.isSkippedLine line = false := by
            simp [Record.isSkippedLine, hblank]
          rw [ingestFrom_blank hblank, ih _ _ h.2, hrejection, hskipped]
          rfl
      | false =>
          have hline : Record.IsRejected line := by simpa [hblank] using h.1
          obtain ⟨e, he⟩ := (Record.isRejected_iff (some (number : Int))).mp hline
          have hrejection : Record.rejection? number line = some e := by
            simp [Record.rejection?, hblank, he]
          have hskipped : Record.isSkippedLine line = true := by
            simp [Record.isSkippedLine, hblank, Record.ofLine?_eq_none he]
          have hcount : s.counts.skipped + 1 + lines.countP Record.isSkippedLine =
              s.counts.skipped + (lines.countP Record.isSkippedLine + 1) := by omega
          rw [ingestFrom_rejected hblank he, ih _ _ h.2, hrejection, hskipped, if_pos rfl,
            ← hcount]
          rfl

theorem ingestLines_append_of_no_record {passed after : List Text} {stop : Stop}
    (h : ∀ line ∈ passed, Text.isBlankText line ∨ Record.IsRejected line)
    (hstop : ∀ number t, t.finished = s.finished →
      ingestFrom number t (line :: after) = ⟨t.countLine, [], some stop⟩) :
    s.ingestLines (passed ++ line :: after) =
      ⟨(s.skipOver passed).countLine, (Record.rejectionsFrom 1 passed).map Event.skipped,
        some stop⟩ := by
  have hcall := ingestFrom_of_no_record 1 s h
  rw [ingestLines, ingestFrom_append, Ingested.andThen_of_stop (by rw [hcall]), hcall]
  dsimp only
  rw [hstop _ (s.skipOver passed) rfl, List.append_nil]

theorem ingestLines_limit {passed after : List Text} {l : Json.Limit}
    (h : ∀ line ∈ passed, Text.isBlankText line ∨ Record.IsRejected line)
    (hblank : Text.isBlankText line = false)
    (hl : Record.decode line none = .error (.limit l)) :
    s.ingestLines (passed ++ line :: after) =
      ⟨(s.skipOver passed).countLine, (Record.rejectionsFrom 1 passed).map Event.skipped,
        some (.limit l)⟩ :=
  ingestLines_append_of_no_record h fun _ _ _ ↦
    ingestFrom_limit hblank (Record.decode_eq_limit_iff.mp hl)

/-- Lines are blank or rejected up to one that holds a record or goes beyond a limit. -/
theorem exists_append_of_no_record (lines : List Text) :
    ∃ passed rest, lines = passed ++ rest ∧
      (∀ line ∈ passed, Text.isBlankText line ∨ Record.IsRejected line) ∧
      ∀ line ∈ rest.head?, Text.isBlankText line = false ∧
        ((∃ r, Record.decode line none = .ok r) ∨
          ∃ l, Record.decode line none = .error (.limit l)) := by
  induction lines with
  | nil => exact ⟨[], [], rfl, by simp, by simp⟩
  | cons line lines ih =>
      obtain ⟨passed, rest, rfl, hpassed, hrest⟩ := ih
      have hgo : Text.isBlankText line ∨ Record.IsRejected line →
          ∃ passed' rest', line :: (passed ++ rest) = passed' ++ rest' ∧
            (∀ line ∈ passed', Text.isBlankText line ∨ Record.IsRejected line) ∧
            ∀ line ∈ rest'.head?, Text.isBlankText line = false ∧
              ((∃ r, Record.decode line none = .ok r) ∨
                ∃ l, Record.decode line none = .error (.limit l)) := fun hline ↦
        ⟨line :: passed, rest, rfl, List.forall_mem_cons.mpr ⟨hline, hpassed⟩, hrest⟩
      cases hblank : Text.isBlankText line with
      | true => exact hgo (Or.inl hblank)
      | false =>
          cases hd : Record.decode line none with
          | ok r => exact ⟨[], line :: (passed ++ rest), rfl, by simp, by simp [hblank, hd]⟩
          | error e =>
              cases e with
              | rejected e => exact hgo (Or.inr ⟨e, hd⟩)
              | limit l => exact ⟨[], line :: (passed ++ rest), rfl, by simp, by simp [hblank, hd]⟩

/-! ## Settled sessions -/

namespace Settled

theorem finished (h : s.Settled) : s.finished = true := by
  rw [Session.finished, h]
  rfl

theorem build_eq (h : s.Settled) : s.build = s := by
  rw [build, ← h]

theorem report_session_eq (h : s.Settled) : s.report.session = s := by
  simp [report, h.finished]

theorem report_report_eq (h : s.Settled) : s.report.report = s.summarize := by
  simp [report, h.finished]

theorem ingest_eq (h : s.Settled) (r : Record) : s.ingest r = .error .finished := by
  simp [ingest, h.finished]

theorem perform_ingest_eq (h : s.Settled) (r : Record) : s.perform (.ingest r) = s := by
  rw [perform, h.ingest_eq r]

theorem plus (h : s.Settled) (d : Counts) : (s.plus d).Settled := h

/-- The first line that holds a record is counted and ends the call. -/
theorem ingestLines_record {passed after : List Text} {r : Record} (h : s.Settled)
    (hpassed : ∀ line ∈ passed, Text.isBlankText line ∨ Record.IsRejected line)
    (hblank : Text.isBlankText line = false) (hd : Record.decode line none = .ok r) :
    s.ingestLines (passed ++ line :: after) =
      ⟨(s.skipOver passed).countLine, (Record.rejectionsFrom 1 passed).map Event.skipped,
        some .finished⟩ :=
  ingestLines_append_of_no_record hpassed fun _ _ ht ↦
    ingestFrom_finished (ht.trans h.finished) hblank (Record.decode_ok_iff_none.mpr hd)

/-- A call with lines comes to nothing but the counts of lines and of skipped lines. -/
theorem exists_ingestLines_session (h : s.Settled) (lines : List Text) :
    ∃ more skipped, (s.ingestLines lines).session = s.plus ⟨more, 0, skipped⟩ := by
  obtain ⟨passed, rest, rfl, hpassed, hrest⟩ := exists_append_of_no_record lines
  cases rest with
  | nil =>
      rw [List.append_nil, ingestLines, ingestFrom_of_no_record 1 s hpassed]
      exact ⟨_, _, rfl⟩
  | cons line after =>
      obtain ⟨hblank, ⟨r, hr⟩ | ⟨l, hl⟩⟩ := hrest line rfl
      · rw [h.ingestLines_record hpassed hblank hr]
        exact ⟨passed.length + 1, _, rfl⟩
      · rw [ingestLines_limit hpassed hblank hl]
        exact ⟨passed.length + 1, _, rfl⟩

/-- What ingests or groups leaves a settled session as it is, up to the counts. -/
theorem exists_perform (h : s.Settled) {op : Operation} (hop : op.ingests ∨ op.groups) :
    ∃ more skipped, s.perform op = s.plus ⟨more, 0, skipped⟩ := by
  cases op with
  | ingest r => exact ⟨0, 0, h.perform_ingest_eq r⟩
  | ingestLines lines => exact h.exists_ingestLines_session lines
  | build => exact ⟨0, 0, h.build_eq⟩
  | report => exact ⟨0, 0, h.report_session_eq⟩
  | addPackage name simple external => simp [Operation.ingests, Operation.groups] at hop
  | countLibraries target => simp [Operation.ingests, Operation.groups] at hop

theorem exists_performAll (h : s.Settled) {ops : List Operation}
    (hops : ∀ op ∈ ops, op.ingests ∨ op.groups) :
    ∃ more skipped, s.performAll ops = s.plus ⟨more, 0, skipped⟩ := by
  -- counting lines keeps a session settled, so the counts of the calls add up
  induction ops generalizing s with
  | nil => exact ⟨0, 0, rfl⟩
  | cons op ops ih =>
      rw [List.forall_mem_cons] at hops
      obtain ⟨more, skipped, hstep⟩ := h.exists_perform hops.1
      obtain ⟨more', skipped', hrest⟩ := ih (hstep ▸ h.plus _) hops.2
      refine ⟨more + more', skipped + skipped', ?_⟩
      rw [performAll, List.foldl_cons, ← performAll, hrest, hstep]
      simp only [Session.plus, Session.withCounts, Nat.add_assoc]

end Settled

/-! ## How sessions come to be settled -/

theorem settled_build (s : Session) : s.build.Settled := rfl

theorem finished_ingestFrom (number : Nat) (s : Session) (lines : List Text) :
    (ingestFrom number s lines).session.finished = s.finished := by
  fun_induction ingestFrom number s lines with
  | case1 => rfl
  | case2 _ _ _ _ _ _ ih => exact ih
  | case3 => rfl
  | case4 _ _ _ _ _ _ _ _ _ ih => exact ih
  | case5 => rfl
  | case6 _ _ _ _ s' _ r _ t ht ih =>
      rw [ingest] at ht
      split at ht
      · cases ht
      · cases ht
        exact ih.trans (finished_absorb r)

theorem finished_performAll_of_ingests {ops : List Operation} (hops : ∀ op ∈ ops, op.ingests) :
    (s.performAll ops).finished = s.finished := by
  induction ops generalizing s with
  | nil => rfl
  | cons op ops ih =>
      rw [List.forall_mem_cons] at hops
      have hstep : (s.perform op).finished = s.finished := by
        cases op with
        | ingest r =>
            rw [perform, ingest]
            cases hs : s.finished with
            | true => simp [hs]
            | false => simpa [hs] using finished_absorb (s := s) r
        | ingestLines lines => exact finished_ingestFrom 1 s lines
        | _ => simp [Operation.ingests] at hops
      exact (ih hops.2).trans hstep

theorem perform_eq_build {op : Operation} (hs : s.finished = false) (hop : op.groups) :
    s.perform op = s.build := by
  cases op with
  | build => rfl
  | report => simp [perform, report, hs]
  | _ => simp [Operation.groups] at hop

/-- After records and then a grouping, whatever ingests or groups leaves the session finished and
changes none of its parts but the counts of lines and of skipped lines. A record is refused. A call
with lines goes as far as the first line that holds a record, which is counted and nothing else,
unless a line before goes beyond a limit of the JSON reader. Grouping again changes nothing, and all
reports are one. -/
theorem settled_refuses_records (libraries : List Text) (roots : NameSet)
    {before later : List Operation} {grouping : Operation}
    (hbefore : ∀ op ∈ before, op.ingests) (hgrouping : grouping.groups)
    (hlater : ∀ op ∈ later, op.ingests ∨ op.groups) :
    ∃ u t s, (start libraries roots).performAll before = u ∧ u.perform grouping = t ∧
      t.performAll later = s ∧
      s.finished = true ∧
      (∃ more skipped, s = { t with counts :=
        ⟨t.counts.lines + more, t.counts.records, t.counts.skipped + skipped⟩ }) ∧
      (∀ r, s.ingest r = .error .finished ∧ s.perform (.ingest r) = s) ∧
      (∀ passed : List Text,
        (∀ line ∈ passed, Text.isBlankText line ∨ Record.IsRejected line) →
          s.ingestLines passed =
            ⟨s.skipOver passed, (Record.rejectionsFrom 1 passed).map Event.skipped, none⟩ ∧
          ∀ line after, Text.isBlankText line = false →
            (∀ r, Record.decode line none = .ok r →
              s.ingestLines (passed ++ line :: after) =
                ⟨(s.skipOver passed).countLine,
                  (Record.rejectionsFrom 1 passed).map Event.skipped, some .finished⟩) ∧
            ∀ l, Record.decode line none = .error (.limit l) →
              s.ingestLines (passed ++ line :: after) =
                ⟨(s.skipOver passed).countLine,
                  (Record.rejectionsFrom 1 passed).map Event.skipped, some (.limit l)⟩) ∧
      (∀ lines : List Text, ∃ passed rest, lines = passed ++ rest ∧
        (∀ line ∈ passed, Text.isBlankText line ∨ Record.IsRejected line) ∧
        ∀ line ∈ rest.head?, Text.isBlankText line = false ∧
          ((∃ r, Record.decode line none = .ok r) ∨
            ∃ l, Record.decode line none = .error (.limit l))) ∧
      s.build = s ∧ s.report.session = s ∧
      s.report.report = t.report.report ∧ s.report.report = u.report.report := by
  refine ⟨_, _, _, rfl, rfl, rfl, ?_⟩
  have hfresh : ((start libraries roots).performAll before).finished = false :=
    finished_performAll_of_ingests hbefore
  generalize (start libraries roots).performAll before = u at hfresh
  rw [perform_eq_build hfresh hgrouping]
  obtain ⟨more, skipped, hs⟩ := (settled_build u).exists_performAll hlater
  have hsettled : (u.build.performAll later).Settled := hs ▸ (settled_build u).plus _
  have hreport : (u.build.performAll later).report.report = u.build.summarize := by
    rw [hsettled.report_report_eq, hs]
    rfl
  refine ⟨hsettled.finished, ⟨more, skipped, hs⟩,
    fun r ↦ ⟨hsettled.ingest_eq r, hsettled.perform_ingest_eq r⟩, ?_, exists_append_of_no_record,
    hsettled.build_eq, hsettled.report_session_eq, ?_, ?_⟩
  · intro passed hpassed
    refine ⟨ingestFrom_of_no_record 1 _ hpassed, fun line after hblank ↦ ⟨?_, ?_⟩⟩
    · exact fun r hr ↦ hsettled.ingestLines_record hpassed hblank hr
    · exact fun l hl ↦ ingestLines_limit hpassed hblank hl
  · rw [hreport, (settled_build u).report_report_eq]
  · rw [hreport, report_eq hfresh]

/-- Behind a blank line and a rejected one, the record of the third line is refused, and the fourth
line is not looked at. -/
theorem settled_refuses_records_third_line :
    (∀ op ∈ [Operation.ingestLines [recordLine]], op.ingests) ∧ Operation.build.groups ∧
      (∀ op ∈ [Operation.ingestLines ["7"], .report], op.ingests ∨ op.groups) ∧
      ∃ t s, ((start defaultLibraries (.ofList BasePackage.defaultRoots)).performAll
          [.ingestLines [recordLine]]).perform .build = t ∧
        t.performAll [.ingestLines ["7"], .report] = s ∧
        s.counts = ⟨2, 1, 1⟩ ∧
        (s.ingestLines ["", "[]", recordLine, "8"]).stop = some .finished ∧
        (s.ingestLines ["", "[]", recordLine, "8"]).session.counts = ⟨5, 1, 2⟩ ∧
        s.report.report = t.report.report ∧ s.report.report.basePackages = ["a.b", "x.y"] := by
  have hbefore : ∀ op ∈ [Operation.ingestLines [recordLine]], op.ingests := by
    simp [Operation.ingests]
  have hgrouping : Operation.build.groups := rfl
  have hlater : ∀ op ∈ [Operation.ingestLines ["7"], .report], op.ingests ∨ op.groups := by
    simp [Operation.ingests, Operation.groups]
  have hempty : Record.decode "[]" none =
      .error (.rejected ⟨"[]", none, .notObject (.arr [])⟩) := rfl
  have hpassed : ∀ line ∈ [("" : Text), "[]"],
      Text.isBlankText line ∨ Record.IsRejected line := by
    simp only [List.forall_mem_cons]
    exact ⟨Or.inl rfl, Or.inr ⟨_, hempty⟩, by simp⟩
  have hrecord : ∃ r, Record.decode recordLine none = .ok r := by
    have hok : (Record.decode recordLine none).toOption.isSome = true := by decide +kernel
    cases hd : Record.decode recordLine none with
    | ok r => exact ⟨r, rfl⟩
    | error e => simp [hd, Except.toOption] at hok
  obtain ⟨r, hr⟩ := hrecord
  obtain ⟨u, t, s, hu, ht, hs, _, _, _, hlines, _, _, _, hsame, _⟩ :=
    settled_refuses_records defaultLibraries (.ofList BasePackage.defaultRoots) hbefore
      hgrouping hlater
  obtain rfl := hu
  have hcounts : s.counts = ⟨2, 1, 1⟩ := by
    rw [← hs, ← ht]
    decide +kernel
  have hcall : s.ingestLines ["", "[]", recordLine, "8"] = _ :=
    ((hlines _ hpassed).2 recordLine ["8"] rfl).1 r hr
  have hbases : s.report.report.basePackages = ["a.b", "x.y"] := by
    rw [← hs, ← ht]
    decide +kernel
  refine ⟨hbefore, hgrouping, hlater, t, s, ht, hs, hcounts, ?_, ?_, hsame, hbases⟩
  · rw [hcall]
  · rw [hcall]
    dsimp only [skipOver, countLine]
    rw [hcounts]
    decide +kernel

end PackageRollup.Session
