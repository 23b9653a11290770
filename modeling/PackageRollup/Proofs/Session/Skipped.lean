import PackageRollup.Proofs.Session.Chunks

/-!
# Lines that are skipped

A line that is rejected is counted, and counted as skipped; a blank line is only counted. What the
lines behind it do does not depend on the counts or on the numbers of the lines, so either kind of
line leaves nothing but counts in the session in the end.
-/

namespace PackageRollup

namespace Record

variable {line : Text}

/-- The line does not hold a record, and no limit of the JSON reader is the reason. -/
def IsRejected (line : Text) : Prop := ∃ e, decode line none = .error (.rejected e)

theorem isRejected_iff (number : Option Int) :
    IsRejected line ↔ ∃ e, decode line number = .error (.rejected e) := by
  simp only [IsRejected, decode]
  cases Json.read line with
  | error e => cases e <;> simp
  | ok value =>
      dsimp only
      cases ofJson value <;> simp

end Record

namespace Session

variable {s : Session} {number : Nat} {line : Text} {lines : List Text}

/-! ## Counts apart -/

/-- The session with more counted. -/
def plus (s : Session) (d : Counts) : Session :=
  s.withCounts ⟨s.counts.lines + d.lines, s.counts.records + d.records,
    s.counts.skipped + d.skipped⟩

theorem countLine_plus (d : Counts) : (s.plus d).countLine = s.countLine.plus d := by
  simp only [plus, countLine, withCounts, Nat.add_right_comm]

theorem countSkipped_plus (d : Counts) : (s.plus d).countSkipped = s.countSkipped.plus d := by
  simp only [plus, countSkipped, withCounts, Nat.add_right_comm]

theorem absorb_plus (d : Counts) (r : Record) : (s.plus d).absorb r = (s.absorb r).plus d := by
  rw [plus, absorb_withCounts, plus, counts_absorb]
  simp only [withCounts, Nat.add_right_comm]

theorem ingestFrom_finished {r : Record} (hs : s.finished) (hblank : Text.isBlankText line = false)
    (hd : Record.decode line (some number) = .ok r) :
    ingestFrom number s (line :: lines) = ⟨s.countLine, [], some .finished⟩ := by
  have hline : s.countLine.finished = true := hs
  simp [ingestFrom, hblank, hd, ingest, hline]

/-- What lines do to a session depends neither on its counts nor on the numbers of the lines. -/
theorem ingestFrom_plus (number number' : Nat) (s : Session) (d : Counts) (lines : List Text) :
    (ingestFrom number' (s.plus d) lines).session =
        (ingestFrom number s lines).session.plus d ∧
      (ingestFrom number' (s.plus d) lines).stop = (ingestFrom number s lines).stop := by
  -- A number only shows in the rejection, so both runs take the same way at every line.
  induction lines generalizing number number' s with
  | nil => exact ⟨rfl, rfl⟩
  | cons line lines ih =>
      cases Record.reading number line with
      | blank hblank =>
          rw [ingestFrom_blank hblank, ingestFrom_blank hblank, countLine_plus]
          exact ih _ _ _
      | @record r hblank hd =>
          have hd' : Record.decode line (some number') = .ok r :=
            Record.decode_ok_iff_none.mpr (Record.decode_ok_iff_none.mp hd)
          cases hs : s.finished with
          | true =>
              have hplus : (s.plus d).finished := hs
              rw [ingestFrom_finished hs hblank hd, ingestFrom_finished hplus hblank hd',
                countLine_plus]
              exact ⟨rfl, rfl⟩
          | false =>
              have hplus : (s.plus d).finished = false := hs
              rw [ingestFrom_record hs hblank hd, ingestFrom_record hplus hblank hd',
                countLine_plus, absorb_plus]
              exact ih _ _ _
      | @rejected e hblank hd =>
          obtain ⟨e', hd'⟩ := (Record.isRejected_iff (some (number' : Int))).mp
            ((Record.isRejected_iff _).mpr ⟨e, hd⟩)
          rw [ingestFrom_rejected hblank hd, ingestFrom_rejected hblank hd', countLine_plus,
            countSkipped_plus]
          exact ih _ _ _
      | limit hblank hl =>
          rw [ingestFrom_limit hblank hl, ingestFrom_limit hblank hl, countLine_plus]
          exact ⟨rfl, rfl⟩

/-! ## Lines that leave nothing -/

/-- A line that is blank or rejected is only counted. -/
theorem exists_ingestFrom_cons (h : Text.isBlankText line ∨ Record.IsRejected line)
    (number : Nat) (s : Session) (lines : List Text) :
    ∃ d, (ingestFrom number s (line :: lines)).session =
        (ingestFrom number s lines).session.plus d ∧
      (ingestFrom number s (line :: lines)).stop = (ingestFrom number s lines).stop := by
  cases hblank : Text.isBlankText line with
  | true =>
      rw [ingestFrom_blank hblank]
      exact ⟨⟨1, 0, 0⟩, ingestFrom_plus number (number + 1) s ⟨1, 0, 0⟩ lines⟩
  | false =>
      have hrejected : Record.IsRejected line := by simpa [hblank] using h
      obtain ⟨e, he⟩ := (Record.isRejected_iff (some (number : Int))).mp hrejected
      rw [ingestFrom_rejected hblank he]
      exact ⟨⟨1, 0, 1⟩, ingestFrom_plus number (number + 1) s ⟨1, 0, 1⟩ lines⟩

theorem exists_ingestLines_insert (h : Text.isBlankText line ∨ Record.IsRejected line)
    (s : Session) (xs ys : List Text) :
    ∃ d, (s.ingestLines (xs ++ line :: ys)).session = (s.ingestLines (xs ++ ys)).session.plus d ∧
      (s.ingestLines (xs ++ line :: ys)).stop = (s.ingestLines (xs ++ ys)).stop := by
  simp only [ingestLines, ingestFrom_append]
  cases hstop : (ingestFrom 1 s xs).stop with
  | some stop => exact ⟨⟨0, 0, 0⟩, by simp [Ingested.andThen, hstop, plus, withCounts]⟩
  | none =>
      simp only [Ingested.andThen_of_stop hstop]
      exact exists_ingestFrom_cons h _ _ ys

/-- The line after some others is skipped just when it is rejected: it is counted, and nothing else
of the session changes. -/
theorem ingestLines_concat_skips_iff (hs : s.finished = false)
    (hlines : (s.ingestLines lines).stop = none) (hblank : Text.isBlankText line = false) :
    ((s.ingestLines (lines ++ [line])).stop = none ∧
        (s.ingestLines (lines ++ [line])).session =
          (s.ingestLines lines).session.countLine.countSkipped) ↔
      Record.IsRejected line := by
  have hfinished : (s.ingestLines lines).session.finished = false := by
    have hwithin : ∀ line ∈ lines, Record.WithinLimits line :=
      (stop_ingestFrom_eq_none_iff hs).mp hlines
    rw [ingestLines_eq hs hwithin]
    exact finished_absorbAll.trans hs
  rw [ingestLines, ingestFrom_append, ← ingestLines, Ingested.andThen_of_stop hlines]
  dsimp only
  rw [Record.isRejected_iff (some ((1 + lines.length : Nat) : Int))]
  cases Record.reading (1 + lines.length) line with
  | blank h => exact absurd (hblank.symm.trans h) Bool.false_ne_true
  | record _ hd =>
      rw [ingestFrom_record hfinished hblank hd, hd]
      refine iff_of_false ?_ (by simp)
      rintro ⟨-, hsession⟩
      have hskipped := congrArg (fun t ↦ t.counts.skipped) hsession
      simp only [ingestFrom, counts_absorb, countLine, countSkipped] at hskipped
      omega
  | rejected _ hd =>
      rw [ingestFrom_rejected hblank hd, hd]
      simp [ingestFrom]
  | limit _ hl =>
      rw [ingestFrom_limit hblank hl, Record.decode_eq_limit_iff.mpr hl]
      simp

end Session

end PackageRollup
