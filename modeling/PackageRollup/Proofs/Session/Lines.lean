import PackageRollup.Proofs.Json.Limits
import PackageRollup.Proofs.Session.Records

/-!
# Sessions that ingest lines

A line is blank, or holds a record, or is skipped, or goes beyond a limit of the JSON reader. Only
the last kind stops a session that takes records, and what comes after such a line is not looked at.
As long as there is none, every line that is not blank is counted once, as a record or as skipped.
-/

namespace PackageRollup

namespace Record

variable {line : Text} {number : Option Int} {l : Json.Limit}

theorem decode_eq_limit_iff :
    decode line number = .error (.limit l) ↔ Json.ExceedsLimit line l := by
  rw [← Json.read_eq_limit_iff, decode]
  cases Json.read line with
  | error e => cases e <;> simp
  | ok value =>
      dsimp only
      cases ofJson value <;> simp

theorem decode_ok_or_rejected_iff :
    ((∃ r, decode line number = .ok r) ∨ ∃ e, decode line number = .error (.rejected e)) ↔
      ∀ l, ¬ Json.ExceedsLimit line l := by
  have hlimit : ∀ l, Json.ExceedsLimit line l ↔ decode line number = .error (.limit l) :=
    fun l ↦ decode_eq_limit_iff.symm
  simp only [hlimit]
  cases decode line number with
  | ok r => simp
  | error e => cases e <;> simp

/-- A line is read as a record whatever its number is. -/
theorem decode_ok_iff_none {r : Record} :
    decode line number = .ok r ↔ decode line none = .ok r := by
  simp only [decode]
  cases Json.read line with
  | error e => cases e <;> simp
  | ok value =>
      dsimp only
      cases ofJson value <;> simp

/-- The record that a line holds. -/
def ofLine? (line : Text) : Option Record :=
  if Text.isBlankText line then none else (decode line none).toOption

/-- Whether a line is neither blank nor a record. -/
def isSkippedLine (line : Text) : Bool := !Text.isBlankText line && (ofLine? line).isNone

theorem ofLine?_eq_some {r : Record} (hblank : Text.isBlankText line = false)
    (h : decode line number = .ok r) : ofLine? line = some r := by
  simp [ofLine?, hblank, decode_ok_iff_none.mp h, Except.toOption]

theorem ofLine?_eq_none {e : Failure} (h : decode line number = .error e) :
    ofLine? line = none := by
  cases hd : decode line none with
  | ok r =>
      rw [decode_ok_iff_none.mpr hd] at h
      cases h
  | error e => simp [ofLine?, hd, Except.toOption]

/-- A line that is not blank holds a record or is skipped, and never both. -/
theorem countP_records_add_countP_skipped (lines : List Text) :
    lines.countP (fun line ↦ (ofLine? line).isSome) + lines.countP isSkippedLine =
      lines.countP fun line ↦ !Text.isBlankText line := by
  induction lines with
  | nil => rfl
  | cons line lines ih =>
      simp only [List.countP_cons, ← ih]
      by_cases hblank : Text.isBlankText line = true
      · simp [isSkippedLine, ofLine?, hblank]
      · cases hline : ofLine? line <;> simp [isSkippedLine, hline, hblank] <;> omega

/-- What the line with a number is to a session: nothing, a record, something to skip, or the
end. -/
inductive Reading (number : Nat) (line : Text) : Prop
  | blank (hblank : Text.isBlankText line)
  | record {r : Record} (hblank : Text.isBlankText line = false)
      (hd : decode line (some number) = .ok r)
  | rejected {e : Rejection} (hblank : Text.isBlankText line = false)
      (hd : decode line (some number) = .error (.rejected e))
  | limit {l : Json.Limit} (hblank : Text.isBlankText line = false)
      (hl : Json.ExceedsLimit line l)

theorem reading (number : Nat) (line : Text) : Reading number line := by
  cases hblank : Text.isBlankText line with
  | true => exact .blank hblank
  | false =>
      cases hd : decode line (some number) with
      | ok r => exact .record hblank hd
      | error e =>
          cases e with
          | rejected e => exact .rejected hblank hd
          | limit l => exact .limit hblank (decode_eq_limit_iff.mp hd)

end Record

namespace Session

variable {s : Session} {number : Nat} {line : Text} {lines : List Text}

/-! ## One line -/

theorem ingestFrom_blank (hblank : Text.isBlankText line) :
    ingestFrom number s (line :: lines) = ingestFrom (number + 1) s.countLine lines := by
  simp [ingestFrom, hblank]

theorem ingestFrom_limit {l : Json.Limit} (hblank : Text.isBlankText line = false)
    (h : Json.ExceedsLimit line l) :
    ingestFrom number s (line :: lines) = ⟨s.countLine, [], some (.limit l)⟩ := by
  have hdecode : Record.decode line (some number) = .error (.limit l) :=
    Record.decode_eq_limit_iff.mpr h
  simp [ingestFrom, hblank, hdecode]

theorem ingestFrom_rejected {e : Record.Rejection} (hblank : Text.isBlankText line = false)
    (h : Record.decode line (some number) = .error (.rejected e)) :
    ingestFrom number s (line :: lines) =
      { ingestFrom (number + 1) s.countLine.countSkipped lines with
        events := .skipped e ::
          (ingestFrom (number + 1) s.countLine.countSkipped lines).events } := by
  simp [ingestFrom, hblank, h]

theorem ingestFrom_record {r : Record} (hs : s.finished = false)
    (hblank : Text.isBlankText line = false)
    (h : Record.decode line (some number) = .ok r) :
    ingestFrom number s (line :: lines) = ingestFrom (number + 1) (s.countLine.absorb r) lines := by
  have hingest : s.countLine.ingest r = .ok (s.countLine.absorb r) := by
    have hline : s.countLine.finished = false := hs
    simp [ingest, hline]
  simp [ingestFrom, hblank, h, hingest]

/-! ## All lines -/

theorem stop_ingestFrom_iff (hs : s.finished = false) :
    (ingestFrom number s lines).stop = none ↔
      ∀ line ∈ lines, Text.isBlankText line = false → ∀ l, ¬ Json.ExceedsLimit line l := by
  induction lines generalizing number s with
  | nil => simp [ingestFrom]
  | cons line lines ih =>
      rw [List.forall_mem_cons]
      cases hblank : Text.isBlankText line with
      | true =>
          rw [ingestFrom_blank hblank, ih (s := s.countLine) hs]
          simp
      | false =>
          cases hd : Record.decode line (some number) with
          | ok r =>
              have hok := Record.decode_ok_or_rejected_iff.mp (Or.inl ⟨r, hd⟩)
              have habsorb : (s.countLine.absorb r).finished = false :=
                (finished_absorb r).trans hs
              rw [ingestFrom_record hs hblank hd, ih habsorb]
              simp [hok]
          | error e =>
              cases e with
              | rejected e =>
                  have hok := Record.decode_ok_or_rejected_iff.mp (Or.inr ⟨e, hd⟩)
                  rw [ingestFrom_rejected hblank hd, ih (s := s.countLine.countSkipped) hs]
                  simp [hok]
              | limit l =>
                  have hlimit : Json.ExceedsLimit line l := Record.decode_eq_limit_iff.mp hd
                  rw [ingestFrom_limit hblank hlimit]
                  refine iff_of_false (by simp) ?_
                  rintro ⟨hline, -⟩
                  exact hline rfl l hlimit

/-- Every line is counted, and every line that is not blank is counted as a record or as skipped. -/
theorem counts_ingestFrom (hs : s.finished = false)
    (hstop : (ingestFrom number s lines).stop = none) :
    (ingestFrom number s lines).session.counts =
      ⟨s.counts.lines + lines.length,
        s.counts.records + lines.countP fun line ↦ (Record.ofLine? line).isSome,
        s.counts.skipped + lines.countP Record.isSkippedLine⟩ := by
  induction lines generalizing number s with
  | nil => rfl
  | cons line lines ih =>
      rw [List.length_cons, List.countP_cons, List.countP_cons]
      cases hblank : Text.isBlankText line with
      | true =>
          rw [ingestFrom_blank hblank] at hstop ⊢
          rw [ih (s := s.countLine) hs hstop]
          simp [countLine, Record.isSkippedLine, Record.ofLine?, hblank]
          omega
      | false =>
          cases hd : Record.decode line (some number) with
          | ok r =>
              have habsorb : (s.countLine.absorb r).finished = false :=
                (finished_absorb r).trans hs
              rw [ingestFrom_record hs hblank hd] at hstop ⊢
              rw [ih habsorb hstop, counts_absorb]
              simp [countLine, Record.isSkippedLine, Record.ofLine?_eq_some hblank hd]
              omega
          | error e =>
              cases e with
              | rejected e =>
                  rw [ingestFrom_rejected hblank hd] at hstop ⊢
                  dsimp only at hstop ⊢
                  rw [ih (s := s.countLine.countSkipped) hs hstop]
                  simp [countLine, countSkipped, Record.isSkippedLine, Record.ofLine?_eq_none hd,
                    hblank]
                  omega
              | limit l =>
                  rw [ingestFrom_limit hblank (Record.decode_eq_limit_iff.mp hd)] at hstop
                  cases hstop

/-- A session that takes records reads all lines and counts each line that is not blank once, just
when none of those goes beyond a limit of the JSON reader; and a line on its own is a record or is
rejected just when it does not go beyond a limit. -/
theorem ingestLines_accounts_iff (hs : s.finished = false) :
    (((s.ingestLines lines).stop = none ∧
        (s.ingestLines lines).session.counts.records +
            (s.ingestLines lines).session.counts.skipped =
          s.counts.records + s.counts.skipped +
            lines.countP fun line ↦ !Text.isBlankText line) ↔
      ∀ line ∈ lines, Text.isBlankText line = false → ∀ l, ¬ Json.ExceedsLimit line l) ∧
    ∀ line number,
      ((∃ r, Record.decode line number = .ok r) ∨
          ∃ e, Record.decode line number = .error (.rejected e)) ↔
        ∀ l, ¬ Json.ExceedsLimit line l := by
  refine ⟨?_, fun line number ↦ Record.decode_ok_or_rejected_iff⟩
  constructor
  · rintro ⟨hstop, -⟩
    exact (stop_ingestFrom_iff hs).mp hstop
  · intro hlines
    have hstop : (s.ingestLines lines).stop = none := (stop_ingestFrom_iff hs).mpr hlines
    refine ⟨hstop, ?_⟩
    have hcounts := counts_ingestFrom hs hstop
    have hsplit := Record.countP_records_add_countP_skipped lines
    rw [ingestLines, hcounts, ← hsplit]
    dsimp only
    omega

/-- A line that holds a record. -/
def recordLine : Text :=
  "\x7b\"sourceClass\":\"a.b.C\",\"targetClass\":\"x.y.Z\","
    ++ "\"artifactId\":\"m\",\"artifactGroup\":\"g\"\x7d"

/-- A record between lines that are none. -/
theorem ingestLines_accounts_bad_lines :
    (start defaultLibraries (.ofList BasePackage.defaultRoots)).finished = false ∧
      ((start defaultLibraries (.ofList BasePackage.defaultRoots)).ingestLines
        ["not json", recordLine, "", "7"]).session.counts = ⟨4, 1, 2⟩ ∧
      ∀ line ∈ (["not json", recordLine, "", "7"] : List Text), Text.isBlankText line = false →
        ∀ l, ¬ Json.ExceedsLimit line l := by
  have hcounts : ((start defaultLibraries (.ofList BasePackage.defaultRoots)).ingestLines
      ["not json", recordLine, "", "7"]).session.counts = ⟨4, 1, 2⟩ := by decide +kernel
  have hstop : ((start defaultLibraries (.ofList BasePackage.defaultRoots)).ingestLines
      ["not json", recordLine, "", "7"]).stop = none := by decide +kernel
  refine ⟨rfl, hcounts, (ingestLines_accounts_iff rfl).1.mp ⟨hstop, ?_⟩⟩
  rw [hcounts]
  decide +kernel

/-- One digit more than the reader takes stops a session: the line is neither a record nor skipped,
and reading it on its own gives neither a record nor a rejection. -/
theorem ingestLines_long_integer_stops :
    ((start defaultLibraries (.ofList BasePackage.defaultRoots)).ingestLines
        [List.replicate 4301 (CodePoint.ofChar '1')]).stop = some (.limit (.digits 4301)) ∧
      ((start defaultLibraries (.ofList BasePackage.defaultRoots)).ingestLines
        [List.replicate 4301 (CodePoint.ofChar '1')]).session.counts = ⟨1, 0, 0⟩ ∧
      Text.isBlankText (List.replicate 4301 (CodePoint.ofChar '1')) = false ∧
      Record.decode (List.replicate 4301 (CodePoint.ofChar '1')) none =
        .error (.limit (.digits 4301)) := by
  have hexceeds : Json.ExceedsLimit (List.replicate 4301 (CodePoint.ofChar '1')) (.digits 4301) :=
    Json.exceedsLimit_replicate (by decide)
  have hblank : Text.isBlankText (List.replicate 4301 (CodePoint.ofChar '1')) = false := by
    rw [List.replicate_succ]
    rfl
  rw [ingestLines, ingestFrom_limit hblank hexceeds]
  exact ⟨rfl, rfl, hblank, Record.decode_eq_limit_iff.mpr hexceeds⟩

end Session

end PackageRollup
