import PackageRollup.Proofs.Session.Lines

/-!
# Lines in several calls

Lines can be given to a session in any number of calls. Unless a line goes beyond a limit of the
JSON reader, the calls amount to absorbing the records that the lines hold, one after another,
wherever the calls are cut; only the numbers in the warnings begin anew with each call. A line that
goes beyond a limit is counted, and nothing else happens from there on.
-/

namespace PackageRollup

namespace Record

variable {number : Nat} {line : Text} {lines : List Text}

/-- The line is blank, or reading it as a record comes to no limit of the JSON reader. -/
def WithinLimits (line : Text) : Prop :=
  Text.isBlankText line = false → ∀ number l, decode line number ≠ .error (.limit l)

/-- Why a line with the given number is skipped, if it is. -/
def rejection? (number : Nat) (line : Text) : Option Rejection :=
  if Text.isBlankText line then none
  else match decode line (some number) with
    | .error (.rejected r) => some r
    | _ => none

/-- The rejections among lines, the first of which has the given number. -/
def rejectionsFrom (number : Nat) (lines : List Text) : List Rejection :=
  (lines.zipIdx number).filterMap fun (line, n) ↦ rejection? n line

/-- The skipped ones among lines, with their numbers. -/
def skippedFrom (number : Nat) (lines : List Text) : List (Text × Nat) :=
  (lines.zipIdx number).filter fun (line, _) ↦ isSkippedLine line

theorem rejectionsFrom_cons :
    rejectionsFrom number (line :: lines) =
      (rejection? number line).toList ++ rejectionsFrom (number + 1) lines := by
  cases h : rejection? number line <;> simp [rejectionsFrom, List.zipIdx_cons, h]

theorem skippedFrom_cons :
    skippedFrom number (line :: lines) =
      (if isSkippedLine line then [(line, number)] else []) ++ skippedFrom (number + 1) lines := by
  cases h : isSkippedLine line <;> simp [skippedFrom, List.zipIdx_cons, h]

theorem line_number_of_decode {n : Option Int} {r : Rejection}
    (h : decode line n = .error (.rejected r)) : r.line = line ∧ r.number = n := by
  rw [decode] at h
  split at h
  · cases h
    exact ⟨rfl, rfl⟩
  · cases h
  · split at h
    · cases h
    · cases h
      exact ⟨rfl, rfl⟩

theorem decode_of_mem_rejectionsFrom {r : Rejection} (h : r ∈ rejectionsFrom number lines) :
    decode r.line r.number = .error (.rejected r) := by
  obtain ⟨⟨line, n⟩, _, hr⟩ := List.mem_filterMap.mp h
  simp only [rejection?] at hr
  split at hr
  · cases hr
  · split at hr
    next hd =>
      cases hr
      obtain ⟨hline, hnumber⟩ := line_number_of_decode hd
      rw [hline, hnumber, hd]
    next => cases hr

theorem map_rejectionsFrom (h : ∀ line ∈ lines, WithinLimits line) :
    (rejectionsFrom number lines).map (fun r ↦ (r.line, r.number)) =
      (skippedFrom number lines).map fun (line, n) ↦ (line, some (n : Int)) := by
  induction lines generalizing number with
  | nil => rfl
  | cons line lines ih =>
      rw [List.forall_mem_cons] at h
      rw [rejectionsFrom_cons, skippedFrom_cons, List.map_append, List.map_append, ih h.2]
      congr 1
      cases reading number line with
      | blank hblank => simp [rejection?, isSkippedLine, hblank]
      | record hblank hd =>
          simp [rejection?, isSkippedLine, hblank, hd, ofLine?_eq_some hblank hd]
      | rejected hblank hd =>
          obtain ⟨hline, hnumber⟩ := line_number_of_decode hd
          simp [rejection?, isSkippedLine, hblank, hd, ofLine?_eq_none hd, hline, hnumber]
      | @limit l hblank hl =>
          exact absurd (decode_eq_limit_iff.mpr hl) (h.1 hblank none l)

end Record

namespace Session

variable {s : Session} {number : Nat} {line : Text} {lines : List Text}

/-! ## Counts -/

def withCounts (s : Session) (c : Counts) : Session := { s with counts := c }

theorem absorb_withCounts (c : Counts) (r : Record) :
    (s.withCounts c).absorb r =
      (s.absorb r).withCounts { c with records := c.records + 1 } := by
  simp only [withCounts, absorb, countLibraries, addToArtifact, addDependency, countRecord]
  split <;> rfl

/-- What a session absorbs does not depend on what it has counted. -/
theorem absorbAll_withCounts (c : Counts) (rs : List Record) :
    (s.withCounts c).absorbAll rs =
      (s.absorbAll rs).withCounts { c with records := c.records + rs.length } := by
  induction rs generalizing s c with
  | nil => rfl
  | cons r rs ih =>
      have hcount : c.records + 1 + rs.length = c.records + (rs.length + 1) := by omega
      rw [absorbAll_cons, absorb_withCounts, ih, absorbAll_cons, List.length_cons, ← hcount]

theorem withCounts_absorbAll_withCounts (c d : Counts) (rs : List Record) :
    ((s.withCounts c).absorbAll rs).withCounts d = (s.absorbAll rs).withCounts d := by
  rw [absorbAll_withCounts]
  rfl

/-! ## One call -/

theorem stop_ingestFrom_eq_none_iff (hs : s.finished = false) :
    (ingestFrom number s lines).stop = none ↔ ∀ line ∈ lines, Record.WithinLimits line := by
  rw [stop_ingestFrom_iff hs]
  apply forall₂_congr
  intro line _
  apply imp_congr_right
  intro _
  constructor
  · intro h n l hd
    exact h l (Record.decode_eq_limit_iff.mp hd)
  · intro h l hl
    exact h none l (Record.decode_eq_limit_iff.mpr hl)

/-- Up to the counts, a call absorbs the records that its lines hold; its events are the warnings
about the lines that it skips. -/
theorem session_events_ingestFrom (number : Nat) (hs : s.finished = false)
    (h : ∀ line ∈ lines, Record.WithinLimits line) :
    (ingestFrom number s lines).session =
        (s.absorbAll (lines.filterMap Record.ofLine?)).withCounts
          (ingestFrom number s lines).session.counts ∧
      (ingestFrom number s lines).events =
        (Record.rejectionsFrom number lines).map Event.skipped := by
  -- The counts on both sides are overwritten, so what a line adds to them is lost and each case is
  -- the induction hypothesis for the session behind its line.
  induction lines generalizing number s with
  | nil => exact ⟨rfl, rfl⟩
  | cons line lines ih =>
      rw [List.forall_mem_cons] at h
      rw [Record.rejectionsFrom_cons]
      cases Record.reading number line with
      | blank hblank =>
          obtain ⟨hsession, hevents⟩ := ih (number + 1) (s := s.countLine) hs h.2
          have hline : Record.ofLine? line = none := by simp [Record.ofLine?, hblank]
          have hrejection : Record.rejection? number line = none := by
            simp [Record.rejection?, hblank]
          rw [ingestFrom_blank hblank, List.filterMap_cons_none hline, hrejection]
          exact ⟨hsession.trans (withCounts_absorbAll_withCounts _ _ _), hevents⟩
      | @record r hblank hd =>
          have habsorb : (s.countLine.absorb r).finished = false := (finished_absorb r).trans hs
          obtain ⟨hsession, hevents⟩ := ih (number + 1) habsorb h.2
          have hrejection : Record.rejection? number line = none := by
            simp [Record.rejection?, hblank, hd]
          rw [ingestFrom_record hs hblank hd,
            List.filterMap_cons_some (Record.ofLine?_eq_some hblank hd), hrejection]
          exact ⟨hsession.trans (withCounts_absorbAll_withCounts _ _ (r :: _)), hevents⟩
      | @rejected e hblank hd =>
          obtain ⟨hsession, hevents⟩ := ih (number + 1) (s := s.countLine.countSkipped) hs h.2
          have hrejection : Record.rejection? number line = some e := by
            simp [Record.rejection?, hblank, hd]
          rw [ingestFrom_rejected hblank hd,
            List.filterMap_cons_none (Record.ofLine?_eq_none hd), hrejection]
          dsimp only
          rw [hevents]
          exact ⟨hsession.trans (withCounts_absorbAll_withCounts (s := s) _ _ _), rfl⟩
      | @limit l hblank hl =>
          have hd : Record.decode line none = .error (.limit l) :=
            Record.decode_eq_limit_iff.mpr hl
          exact absurd hd (h.1 hblank none l)

/-! ## Lines in two parts -/

/-- Go on with what comes next, unless it has stopped. -/
def Ingested.andThen (i : Ingested) (next : Session → Ingested) : Ingested :=
  match i.stop with
  | some _ => i
  | none => { next i.session with events := i.events ++ (next i.session).events }

def ingestChunks (s : Session) : List (List Text) → Ingested
  | [] => ⟨s, [], none⟩
  | lines :: chunks => (s.ingestLines lines).andThen fun t ↦ t.ingestChunks chunks

theorem Ingested.andThen_of_stop {i : Ingested} (h : i.stop = none) (next : Session → Ingested) :
    i.andThen next =
      { next i.session with events := i.events ++ (next i.session).events } := by
  simp [andThen, h]

theorem Ingested.cons_andThen (e : Event) (i : Ingested) (next : Session → Ingested) :
    ({ i with events := e :: i.events } : Ingested).andThen next =
      { i.andThen next with events := e :: (i.andThen next).events } := by
  obtain ⟨session, events, stop⟩ := i
  cases stop <;> rfl

/-- The second part of the lines is looked at if the first part did not stop the session. -/
theorem ingestFrom_append (number : Nat) (s : Session) (xs ys : List Text) :
    ingestFrom number s (xs ++ ys) =
      (ingestFrom number s xs).andThen fun t ↦ ingestFrom (number + xs.length) t ys := by
  have hnumber : ∀ (line : Text) (lines : List Text) (number : Nat),
      number + (line :: lines).length = number + 1 + lines.length := by
    intro line lines number
    rw [List.length_cons]
    omega
  fun_induction ingestFrom number s xs with
  | case1 => simp [Ingested.andThen]
  | case2 number s line lines s' hblank ih =>
      rw [hnumber, ← ih]
      simp [ingestFrom, hblank, s']
  | case3 number s line lines s' hblank l hd => simp [ingestFrom, hblank, hd, Ingested.andThen, s']
  | case4 number s line lines s' hblank r hd rest ih =>
      rw [hnumber, Ingested.cons_andThen, ← ih]
      simp [ingestFrom, hblank, hd, s']
  | case5 number s line lines s' hblank r hd stop ht =>
      simp [ingestFrom, hblank, hd, ht, Ingested.andThen, s']
  | case6 number s line lines s' hblank r hd t ht ih =>
      rw [hnumber, ← ih]
      simp [ingestFrom, hblank, hd, ht, s']

end Session

/-- The counts after lines that go beyond no limit. -/
def Counts.afterLines (c : Counts) (lines : List Text) : Counts where
  lines := c.lines + lines.length
  records := c.records + lines.countP fun line ↦ (Record.ofLine? line).isSome
  skipped := c.skipped + lines.countP Record.isSkippedLine

theorem Counts.afterLines_append (c : Counts) (xs ys : List Text) :
    c.afterLines (xs ++ ys) = (c.afterLines xs).afterLines ys := by
  simp only [afterLines, List.length_append, List.countP_append, Nat.add_assoc]

namespace Session

variable {s : Session} {line : Text} {lines : List Text}

/-! ## Several calls -/

theorem ingestLines_eq (hs : s.finished = false) (h : ∀ line ∈ lines, Record.WithinLimits line) :
    s.ingestLines lines =
      ⟨(s.absorbAll (lines.filterMap Record.ofLine?)).withCounts (s.counts.afterLines lines),
        (Record.rejectionsFrom 1 lines).map Event.skipped, none⟩ := by
  have hstop : (s.ingestLines lines).stop = none := (stop_ingestFrom_eq_none_iff hs).mpr h
  have hcounts : (s.ingestLines lines).session.counts = s.counts.afterLines lines :=
    counts_ingestFrom hs hstop
  obtain ⟨hsession, hevents⟩ := session_events_ingestFrom 1 hs h
  rw [← ingestLines] at hsession hevents
  rw [hcounts] at hsession
  rw [← hsession, ← hevents, ← hstop]

theorem ingestChunks_eq {chunks : List (List Text)} (hs : s.finished = false)
    (h : ∀ line ∈ chunks.flatten, Record.WithinLimits line) :
    s.ingestChunks chunks =
      ⟨(s.absorbAll (chunks.flatten.filterMap Record.ofLine?)).withCounts
          (s.counts.afterLines chunks.flatten),
        (chunks.flatMap (Record.rejectionsFrom 1)).map Event.skipped, none⟩ := by
  induction chunks generalizing s with
  | nil => rfl
  | cons lines chunks ih =>
      rw [List.flatten_cons, List.forall_mem_append] at h
      have hfinished : ((s.absorbAll (lines.filterMap Record.ofLine?)).withCounts
          (s.counts.afterLines lines)).finished = false :=
        finished_absorbAll.trans hs
      have habsorbed : s.absorbAll ((lines ++ chunks.flatten).filterMap Record.ofLine?) =
          (s.absorbAll (lines.filterMap Record.ofLine?)).absorbAll
            (chunks.flatten.filterMap Record.ofLine?) := by
        rw [List.filterMap_append, absorbAll, List.foldl_append]
        rfl
      rw [ingestChunks, ingestLines_eq hs h.1, Ingested.andThen_of_stop rfl]
      dsimp only
      rw [ih hfinished h.2, List.flatten_cons, habsorbed, Counts.afterLines_append,
        withCounts_absorbAll_withCounts, List.flatMap_cons, List.map_append]
      rfl

theorem ingestLines_append_limit {before after : List Text} {l : Json.Limit}
    (hbefore : (s.ingestLines before).stop = none) (hblank : Text.isBlankText line = false)
    (hl : Json.ExceedsLimit line l) :
    s.ingestLines (before ++ line :: after) =
      ⟨(s.ingestLines before).session.countLine, (s.ingestLines before).events,
        some (.limit l)⟩ := by
  rw [ingestLines, ingestFrom_append, ← ingestLines, Ingested.andThen_of_stop hbefore,
    ingestFrom_limit hblank hl, List.append_nil]

/-- Lines amount to the records that they hold, wherever the calls are cut. Every line is counted;
every skipped line is warned of once, in order and with its number in its call. The first line that
goes beyond a limit is counted and ends the call. -/
theorem ingestChunks_absorbs_records (hs : s.finished = false) :
    (∀ chunks : List (List Text), (∀ line ∈ chunks.flatten, Record.WithinLimits line) →
      (∃ t, s.ingestAll (chunks.flatten.filterMap Record.ofLine?) = .ok t ∧
        (s.ingestChunks chunks).session =
          { t with counts :=
            ⟨s.counts.lines + chunks.flatten.length,
              s.counts.records + chunks.flatten.countP fun line ↦ (Record.ofLine? line).isSome,
              s.counts.skipped + chunks.flatten.countP Record.isSkippedLine⟩ }) ∧
      (s.ingestChunks chunks).stop = none ∧
      (∀ e ∈ (s.ingestChunks chunks).events, e.level = .warning) ∧
      ∃ rs : List Record.Rejection,
        (s.ingestChunks chunks).events = rs.map Event.skipped ∧
        (rs.map fun r ↦ (r.line, r.number)) =
          ((chunks.flatMap (Record.skippedFrom 1)).map fun (line, n) ↦ (line, some (n : Int))) ∧
        ∀ r ∈ rs, Record.decode r.line r.number = .error (.rejected r)) ∧
    ∀ before line after l, (∀ b ∈ before, Record.WithinLimits b) →
      Text.isBlankText line = false →
      Record.decode line (some (before.length + 1 : Nat)) = .error (.limit l) →
      (s.ingestLines before).stop = none ∧
        s.ingestLines (before ++ line :: after) =
          ⟨(s.ingestLines before).session.countLine, (s.ingestLines before).events,
            some (.limit l)⟩ := by
  constructor
  · intro chunks h
    rw [ingestChunks_eq hs h]
    refine ⟨⟨_, ingestAll_eq hs, rfl⟩, rfl, ?_, _, rfl, ?_, ?_⟩
    · intro e he
      obtain ⟨r, _, rfl⟩ := List.mem_map.mp he
      rfl
    · rw [List.map_flatMap, List.map_flatMap]
      apply List.flatMap_congr
      intro lines hlines
      apply Record.map_rejectionsFrom
      intro line hline
      exact h line (List.mem_flatten.mpr ⟨lines, hlines, hline⟩)
    · intro r hr
      obtain ⟨lines, _, hr⟩ := List.mem_flatMap.mp hr
      exact Record.decode_of_mem_rejectionsFrom hr
  · intro before line after l hbefore hblank hl
    have hstop : (s.ingestLines before).stop = none :=
      (stop_ingestFrom_eq_none_iff hs).mpr hbefore
    exact ⟨hstop, ingestLines_append_limit hstop hblank (Record.decode_eq_limit_iff.mp hl)⟩

/-- In two calls with a record each, the numbers of the skipped lines begin anew and blank lines are
counted; a long integer ends a call before its record. -/
theorem ingestChunks_absorbs_records_two_calls :
    (start defaultLibraries (.ofList BasePackage.defaultRoots)).finished = false ∧
      (∃ rs : List Record.Rejection,
        ((start defaultLibraries (.ofList BasePackage.defaultRoots)).ingestChunks
          [["", recordLine, "7"], ["not json", " ", recordLine, "[]"]]).events =
            rs.map Event.skipped ∧
        (rs.map fun r ↦ (r.line, r.number)) =
          [(("7" : Text), some 3), (("not json" : Text), some 1), (("[]" : Text), some 4)]) ∧
      ((start defaultLibraries (.ofList BasePackage.defaultRoots)).ingestChunks
          [["", recordLine, "7"], ["not json", " ", recordLine, "[]"]]).session.counts =
        ⟨7, 2, 3⟩ ∧
      ((start defaultLibraries (.ofList BasePackage.defaultRoots)).ingestLines
          ([("7" : Text)] ++ List.replicate 4301 (CodePoint.ofChar '1') ::
            [recordLine])).session.counts =
        ⟨2, 0, 1⟩ := by
  have hfresh : (start defaultLibraries (.ofList BasePackage.defaultRoots)).finished = false := rfl
  have hlines : ∀ line ∈ [[("" : Text), recordLine, "7"],
      ["not json", " ", recordLine, "[]"]].flatten, Record.WithinLimits line :=
    (stop_ingestFrom_eq_none_iff hfresh).mp
      (show (ingestFrom 1 _ _).stop = none by decide +kernel)
  have hseven : ∀ line ∈ [("7" : Text)], Record.WithinLimits line :=
    (stop_ingestFrom_eq_none_iff hfresh).mp
      (show (ingestFrom 1 _ _).stop = none by decide +kernel)
  have hblank : Text.isBlankText (List.replicate 4301 (CodePoint.ofChar '1')) = false := by
    rw [List.replicate_succ]
    rfl
  obtain ⟨⟨t, _, hsession⟩, _, _, rs, hevents, hrs, _⟩ :=
    (ingestChunks_absorbs_records hfresh).1 _ hlines
  obtain ⟨_, hlong⟩ := (ingestChunks_absorbs_records hfresh).2 ["7"] _ [recordLine] _ hseven hblank
    (Record.decode_eq_limit_iff.mpr (Json.exceedsLimit_replicate (by decide)))
  refine ⟨hfresh, ⟨rs, hevents, hrs.trans (by decide +kernel)⟩, ?_, ?_⟩
  · rw [hsession]
    dsimp only
    decide +kernel
  · rw [hlong]
    decide +kernel

end Session

end PackageRollup
