import PackageRollup.Proofs.Report.Repetition
import PackageRollup.Proofs.Session.Latecomers
import PackageRollup.Proofs.Text.FinalSigma
import PackageRollup.Proofs.Text.Pieces

/-!
# Targets that a keyword occurs in

A target class is counted for a keyword when it is taken, and stays so whatever is done with the
session. It counts if the lower-case form of the keyword occurs in that of the class. Where the
keyword itself occurs in the class, this follows unless the keyword is exposed at a capital sigma,
whose lower-case form depends on what stands around the keyword.
-/

namespace PackageRollup.Session

variable {libraries : List Text} {roots : NameSet} {s t : Session} {op : Operation}
  {ops : List Operation} {r : Record} {rs : List Record} {keyword target : Text}

/-- The target class is in the set of the keyword. -/
def Counted (s : Session) (keyword target : Text) : Prop :=
  ∃ classes, (keyword, classes) ∈ s.matched ∧ target ∈ classes

theorem not_counted_start : ¬ (start libraries roots).Counted keyword target := by
  rintro ⟨classes, hmem, htarget⟩
  obtain ⟨_, _, heq⟩ := List.mem_map.mp hmem
  cases heq
  exact NameSet.not_mem_empty target htarget

/-! ## What operations count -/

/-- If every set takes the target just where its keyword occurs in it, the target is counted for
these keywords. -/
theorem counted_of_matched_eq {grow : Text × NameSet → Text × NameSet} {isNew : Prop}
    (h : t.matched = s.matched.map grow) (hkeyword : ∀ e, (grow e).1 = e.1)
    (hclasses : ∀ e, target ∈ (grow e).2 ↔
      target ∈ e.2 ∨ isNew ∧ e.1 <:+: Text.lower target) :
    t.Counted keyword target ↔ s.Counted keyword target ∨
      isNew ∧ keyword ∈ s.libraries ∧ keyword <:+: Text.lower target := by
  rw [Counted, Counted, libraries, h]
  constructor
  · rintro ⟨classes, hmem, htarget⟩
    obtain ⟨⟨old, oldClasses⟩, he, heq⟩ := List.mem_map.mp hmem
    obtain rfl : old = keyword := (hkeyword _).symm.trans (congrArg Prod.fst heq)
    have hgrown : (grow (old, oldClasses)).2 = classes := congrArg Prod.snd heq
    rw [← hgrown, hclasses] at htarget
    rcases htarget with hold | ⟨hnew, hmatch⟩
    · exact Or.inl ⟨oldClasses, he, hold⟩
    · exact Or.inr ⟨hnew, List.mem_map_of_mem he, hmatch⟩
  · have hgrown : ∀ e ∈ s.matched, (e.1, (grow e).2) ∈ s.matched.map grow := by
      intro e he
      rw [← hkeyword e]
      exact List.mem_map_of_mem he
    rintro (⟨classes, hmem, htarget⟩ | ⟨hnew, hkey, hmatch⟩)
    · exact ⟨_, hgrown _ hmem, (hclasses _).mpr (Or.inl htarget)⟩
    · obtain ⟨e, he, rfl⟩ := List.mem_map.mp hkey
      exact ⟨_, hgrown e he, (hclasses e).mpr (Or.inr ⟨hnew, hmatch⟩)⟩

theorem counted_absorbAll :
    (s.absorbAll rs).Counted keyword target ↔ s.Counted keyword target ∨
      (∃ r ∈ rs, r.targetClass = target) ∧ keyword ∈ s.libraries ∧
        keyword <:+: Text.lower target := by
  refine counted_of_matched_eq matched_absorbAll foldl_matchTarget_fst fun e ↦ ?_
  rw [mem_foldl_matchTarget, ← Text.occursIn_iff]
  constructor
  · rintro (hold | ⟨r, hr, htarget, hmatch⟩)
    · exact Or.inl hold
    · exact Or.inr ⟨⟨r, hr, htarget⟩, hmatch⟩
  · rintro (hold | ⟨⟨r, hr, htarget⟩, hmatch⟩)
    · exact Or.inl hold
    · exact Or.inr ⟨r, hr, htarget, hmatch⟩

theorem counted_countLibraries {new : Text} :
    (s.countLibraries new).Counted keyword target ↔ s.Counted keyword target ∨
      new = target ∧ keyword ∈ s.libraries ∧ keyword <:+: Text.lower target := by
  have hmatched : (s.countLibraries new).matched = s.matched.map (matchTarget new) := rfl
  refine counted_of_matched_eq hmatched (fun _ ↦ rfl) fun e ↦ ?_
  rw [mem_matchTarget, Text.occursIn_iff]

theorem Step.keeps_counted (h : Step s op t) (hcounted : s.Counted keyword target) :
    t.Counted keyword target := by
  cases h with
  | ingested rs => exact counted_absorbAll.mpr (Or.inl hcounted)
  | counted new => exact counted_countLibraries.mpr (Or.inl hcounted)
  | _ => exact hcounted

theorem Step.infix_of_counted (h : Step s op t) (hcounted : t.Counted keyword target) :
    s.Counted keyword target ∨ keyword <:+: Text.lower target := by
  cases h with
  | ingested rs => exact (counted_absorbAll.mp hcounted).imp_right fun hnew ↦ hnew.2.2
  | counted new => exact (counted_countLibraries.mp hcounted).imp_right fun hnew ↦ hnew.2.2
  | _ => exact Or.inl hcounted

theorem Counted.performAll (h : s.Counted keyword target) (ops : List Operation) :
    (s.performAll ops).Counted keyword target := by
  induction ops generalizing s with
  | nil => exact h
  | cons op ops ih => exact ih ((step_perform s op).keeps_counted h)

theorem infix_of_counted_performAll (h : (s.performAll ops).Counted keyword target) :
    s.Counted keyword target ∨ keyword <:+: Text.lower target := by
  induction ops generalizing s with
  | nil => exact Or.inl h
  | cons op ops ih =>
      rcases ih h with hstep | hmatch
      · exact (step_perform s op).infix_of_counted hstep
      · exact Or.inr hmatch

/-! ## Records that are taken -/

/-- The session takes the record: on its own, or in a line that it comes to. -/
inductive Takes (s : Session) : Operation → Record → Prop where
  | record (r : Record) (hs : s.finished = false) : Takes s (.ingest r) r
  | line {before after : List Text} {line : Text} {r : Record} (hs : s.finished = false)
      (hbefore : (s.ingestLines before).stop = none) (hblank : Text.isBlankText line = false)
      (hline : Record.decode line none = .ok r) :
      Takes s (.ingestLines (before ++ line :: after)) r

theorem Takes.counted (h : s.Takes op r) (hkeyword : keyword ∈ s.libraries)
    (hmatch : keyword <:+: Text.lower r.targetClass) :
    (s.perform op).Counted keyword r.targetClass := by
  have habsorb : ∀ t : Session, keyword ∈ t.libraries →
      (t.absorbAll [r]).Counted keyword r.targetClass := by
    intro t ht
    exact counted_absorbAll.mpr (Or.inr ⟨⟨r, List.mem_singleton_self r, rfl⟩, ht, hmatch⟩)
  cases h with
  | record _ hs =>
      rw [perform, ingest, hs]
      exact habsorb s hkeyword
  | @line before after line _ hs hbefore hblank hline =>
      -- the lines in front leave the keywords as they are, those behind keep what is counted
      obtain ⟨earlier, counts, hearlier, -⟩ := exists_ingestFrom_session 1 s before
      have hfinished : (ingestFrom 1 s before).session.finished = false :=
        (finished_ingestFrom 1 s before).trans hs
      have hlibraries : keyword ∈ (ingestFrom 1 s before).session.libraries := by
        rw [hearlier]
        exact libraries_absorbAll.symm ▸ hkeyword
      obtain ⟨later, counts', hlater, -⟩ := exists_ingestFrom_session (1 + before.length + 1)
        ((ingestFrom 1 s before).session.countLine.absorb r) after
      rw [ingestLines] at hbefore
      rw [perform, ingestLines, ingestFrom_append, Ingested.andThen_of_stop hbefore]
      dsimp only
      rw [ingestFrom_record hfinished hblank (Record.decode_ok_iff_none.mpr hline), hlater]
      exact counted_absorbAll.mpr (Or.inl (habsorb _ hlibraries))

/-- Some operation takes a record that calls the target class. -/
def TakesTarget (s : Session) (ops : List Operation) (target : Text) : Prop :=
  ∃ before op later r, ops = before ++ op :: later ∧ (s.performAll before).Takes op r ∧
    r.targetClass = target

theorem counted_performAll_iff (h : (start libraries roots).TakesTarget ops target)
    (hkeyword : keyword ∈ NameList.normalize libraries) :
    ((start libraries roots).performAll ops).Counted keyword target ↔
      keyword <:+: Text.lower target := by
  constructor
  · intro hcounted
    exact (infix_of_counted_performAll hcounted).resolve_left not_counted_start
  · intro hmatch
    obtain ⟨before, op, later, r, rfl, htakes, rfl⟩ := h
    have hlibraries : ((start libraries roots).performAll before).libraries =
        NameList.normalize libraries :=
      ((wellFormed_start roots).performAll before).libraries
    have hcounted := htakes.counted (hlibraries ▸ hkeyword) hmatch
    rw [performAll, List.foldl_append, List.foldl_cons]
    exact hcounted.performAll later

theorem takesTarget_ingest (libraries : List Text) (roots : NameSet) (r : Record) :
    (start libraries roots).TakesTarget [.ingest r] r.targetClass :=
  ⟨[], .ingest r, [], r, rfl, .record r rfl, rfl⟩

/-- A target class that is taken counts for a keyword if it has the keyword in it when both are in
lower case. All classes that have the keyword in them as it is written count, whatever stands around
it, if and only if it is not exposed at a capital sigma. -/
theorem occurrences_counted_iff (libraries : List Text) (roots : NameSet) {name : Text}
    (hname : name ∈ libraries) (hne : Text.trim name ≠ []) :
    (∀ ops target, (start libraries roots).TakesTarget ops target →
      (((start libraries roots).performAll ops).Counted (NameList.normal name) target ↔
        Text.lower (Text.trim name) <:+: Text.lower target)) ∧
      ((∀ ops target, (start libraries roots).TakesTarget ops target →
        Text.trim name <:+: target →
        ((start libraries roots).performAll ops).Counted (NameList.normal name) target) ↔
        ¬ Text.ExposesSigma (Text.trim name)) := by
  have hkeyword : NameList.normal name ∈ NameList.normalize libraries :=
    NameList.mem_normalize.mpr ⟨mt Text.lower_eq_nil_iff.mp hne, name, hname, rfl⟩
  refine ⟨fun ops target htakes ↦ counted_performAll_iff htakes hkeyword, ?_⟩
  rw [← Text.forall_lower_infix_iff]
  constructor
  · intro h before after
    have htakes := takesTarget_ingest libraries roots
      (.plain "a.b.C" (before ++ Text.trim name ++ after) "m" "g")
    have hcounted := h _ _ htakes (List.infix_append ..)
    exact (counted_performAll_iff htakes hkeyword).mp hcounted
  · rintro h ops _ htakes ⟨before, after, rfl⟩
    exact (counted_performAll_iff htakes hkeyword).mpr (h before after)

/-- A keyword with blanks around it, whose sigma has letters on both sides. -/
def innerSigma : Text := " ΚΟΣΜΕ "

def innerSigmaLibraries : List Text := ["log4j", innerSigma]

def innerSigmaRecord : Record := .plain "a.b.C" "gr.ΜΙΚΡΟΚΟΣΜΕΣ" "m" "g"

theorem inner_sigma_counted :
    innerSigma ∈ innerSigmaLibraries ∧ Text.trim innerSigma ≠ [] ∧
      ¬ Text.ExposesSigma (Text.trim innerSigma) ∧
      ((start innerSigmaLibraries .empty).performAll [.ingest innerSigmaRecord]).Counted
        (NameList.normal innerSigma) innerSigmaRecord.targetClass := by
  have hname : innerSigma ∈ innerSigmaLibraries := List.mem_cons_of_mem _ List.mem_cons_self
  have hne : Text.trim innerSigma ≠ [] := by decide +kernel
  have hexposed : ¬ Text.ExposesSigma (Text.trim innerSigma) := by decide +kernel
  have hinfix : Text.trim innerSigma <:+: innerSigmaRecord.targetClass :=
    ⟨"gr.ΜΙΚΡΟ", "Σ", by decide +kernel⟩
  have htakes := takesTarget_ingest innerSigmaLibraries .empty innerSigmaRecord
  have hcounted := (occurrences_counted_iff _ .empty hname hne).2.mpr hexposed _ _ htakes hinfix
  exact ⟨hname, hne, hexposed, hcounted⟩

def finalSigmaRecord : Record := .plain "a.b.C" "gr.ΟΔΟΣΗΜΑ" "m" "g"

/-- The sigma that ends the keyword is a final one, and the one in the class is not. -/
theorem final_sigma_not_counted :
    Text.trim "ΟΔΟΣ" ≠ [] ∧ Text.trim "ΟΔΟΣ" <:+: finalSigmaRecord.targetClass ∧
      (start ["ΟΔΟΣ"] .empty).TakesTarget [.ingest finalSigmaRecord]
        finalSigmaRecord.targetClass ∧
      ¬ ((start ["ΟΔΟΣ"] .empty).performAll [.ingest finalSigmaRecord]).Counted
        (NameList.normal "ΟΔΟΣ") finalSigmaRecord.targetClass := by
  have htakes := takesTarget_ingest ["ΟΔΟΣ"] .empty finalSigmaRecord
  have hkeyword : NameList.normal "ΟΔΟΣ" ∈ NameList.normalize ["ΟΔΟΣ"] := by decide +kernel
  have hmissed : ¬ NameList.normal "ΟΔΟΣ" <:+: Text.lower finalSigmaRecord.targetClass := by
    rw [← Text.occursIn_iff]
    decide +kernel
  refine ⟨by decide +kernel, ⟨"gr.", "ΗΜΑ", by decide +kernel⟩, htakes, ?_⟩
  rwa [counted_performAll_iff htakes hkeyword]

end PackageRollup.Session
