import PackageRollup.Proofs.Json.RoundTrip
import PackageRollup.Proofs.Report.Markdown
import PackageRollup.Proofs.Report.Sort
import PackageRollup.Report.Rendering

/-!
# The JSON of a report

Nothing of a report is lost in its JSON. The JSON reader gives back every list and every entry in
its place, so two reports with the same text are the same.
-/

namespace PackageRollup.Report

open Json

variable {depth : Nat}

/-- The texts that a report holds: those that its Markdown shows, and those of the artifacts. -/
def texts (r : Report) : List Text := r.shownTexts ++ entryTexts r.artifactPackages

/-- The numbers that a report holds. -/
def counts (r : Report) : List Int :=
  r.libraryUsage.map (·.count) ++ r.details.flatMap fun d ↦ [d.subPackageCount, d.classCount]

/-! ## What is printed can be read -/

theorem printable_namesToJson {names : List Text} (h : ∀ t ∈ names, Unpaired t) :
    Printable (depth + 1) (namesToJson names) := by
  refine Printable.arr fun v hv ↦ ?_
  obtain ⟨t, ht, rfl⟩ := List.mem_map.mp hv
  exact Printable.str (h t ht)

theorem printable_entriesToJson {es : List (Text × List Text)}
    (h : ∀ t ∈ entryTexts es, Unpaired t) : Printable (depth + 2) (entriesToJson es) := by
  have hentry : ∀ e ∈ es, Unpaired e.1 ∧ ∀ t ∈ e.2, Unpaired t := by
    intro e he
    have htexts : ∀ t ∈ e.1 :: e.2, Unpaired t := fun t ht ↦
      h t (List.mem_flatMap.mpr ⟨e, he, ht⟩)
    exact List.forall_mem_cons.mp htexts
  refine Printable.obj ?_ ?_
  · intro m hm
    obtain ⟨e, he, rfl⟩ := List.mem_map.mp hm
    exact (hentry e he).1
  · intro m hm
    obtain ⟨e, he, rfl⟩ := List.mem_map.mp hm
    exact printable_namesToJson (hentry e he).2

theorem printable_usageToJson {u : LibraryUsage} (hkeyword : Unpaired u.keyword)
    (hcount : u.count.natAbs < 10 ^ maxDigits) : Printable (depth + 1) (usageToJson u) := by
  refine Printable.obj ?_ ?_
  · simp only [List.forall_mem_cons]
    exact ⟨by decide, by decide, List.forall_mem_nil _⟩
  · simp only [List.forall_mem_cons]
    exact ⟨Printable.str hkeyword, Printable.int hcount, List.forall_mem_nil _⟩

theorem printable_detailToJson {d : BaseDetail}
    (htexts : ∀ t ∈ d.name :: (d.dependencies ++ d.subPackages), Unpaired t)
    (hcounts : ∀ n ∈ [d.subPackageCount, d.classCount], n.natAbs < 10 ^ maxDigits) :
    Printable (depth + 2) (detailToJson d) := by
  obtain ⟨hname, hnames⟩ := List.forall_mem_cons.mp htexts
  obtain ⟨hdependencies, hsub⟩ := List.forall_mem_append.mp hnames
  simp only [List.forall_mem_cons] at hcounts
  refine Printable.obj ?_ ?_
  · simp only [List.forall_mem_cons]
    exact ⟨by decide, by decide, by decide, by decide, by decide, by decide, List.forall_mem_nil _⟩
  · simp only [List.forall_mem_cons]
    exact ⟨Printable.str hname, Printable.bool _, Printable.int hcounts.1,
      Printable.int hcounts.2.1, printable_namesToJson hdependencies, printable_namesToJson hsub,
      List.forall_mem_nil _⟩

theorem printable_toJson {r : Report} (htexts : ∀ t ∈ r.texts, Unpaired t)
    (hcounts : ∀ n ∈ r.counts, n.natAbs < 10 ^ maxDigits) : Printable (depth + 4) r.toJson := by
  simp only [texts, shownTexts, List.forall_mem_append, List.forall_mem_map] at htexts
  simp only [counts, List.forall_mem_append, List.forall_mem_map] at hcounts
  obtain ⟨⟨⟨⟨⟨hkeywords, hexternal⟩, hinternal⟩, hdependencies⟩, hdetails⟩, hartifacts⟩ := htexts
  obtain ⟨husage, hdetailCounts⟩ := hcounts
  have hbases : ∀ t ∈ r.basePackages, Unpaired t := by
    intro t ht
    have hmem : t ∈ r.externalPackages ++ r.internalPackages :=
      (Text.sort_perm _).mem_iff.mp ht
    exact (List.mem_append.mp hmem).elim (hexternal t) (hinternal t)
  have hlibrary : Printable (depth + 3) (.arr (r.libraryUsage.map usageToJson)) := by
    refine Printable.arr fun v hv ↦ ?_
    obtain ⟨u, hu, rfl⟩ := List.mem_map.mp hv
    exact printable_usageToJson (hkeywords u hu) (husage u hu)
  have hdetail : Printable (depth + 3) (.arr (r.details.map detailToJson)) := by
    refine Printable.arr fun v hv ↦ ?_
    obtain ⟨d, hd, rfl⟩ := List.mem_map.mp hv
    exact printable_detailToJson (fun t ht ↦ hdetails t (List.mem_flatMap.mpr ⟨d, hd, ht⟩))
      (fun n hn ↦ hdetailCounts n (List.mem_flatMap.mpr ⟨d, hd, hn⟩))
  refine Printable.obj ?_ ?_
  · simp only [List.forall_mem_cons]
    exact ⟨by decide, by decide, by decide, by decide, by decide, by decide, by decide,
      List.forall_mem_nil _⟩
  · simp only [List.forall_mem_cons]
    exact ⟨hlibrary, printable_namesToJson hexternal, printable_namesToJson hinternal,
      printable_entriesToJson hdependencies, hdetail, printable_entriesToJson hartifacts,
      printable_namesToJson hbases, List.forall_mem_nil _⟩

theorem read_jsonText {r : Report} (htexts : ∀ t ∈ r.texts, Unpaired t)
    (hcounts : ∀ n ∈ r.counts, n.natAbs < 10 ^ maxDigits) : read r.jsonText = .ok r.toJson := by
  have hprintable : Printable (986 + 4) r.toJson := printable_toJson htexts hcounts
  exact read_print Layout.block_onlySpace hprintable (by decide)

theorem isAscii_jsonText (r : Report) : IsAscii r.jsonText := by
  rw [jsonText, isAscii_append]
  exact ⟨isAscii_printAt Layout.block_onlySpace 0 r.toJson, by decide⟩

/-! ## The object determines the report -/

theorem namesToJson_injective : Function.Injective namesToJson := by
  intro ns ms h
  exact (List.map_inj_right fun _ _ ↦ Json.str.inj).mp (Json.arr.inj h)

theorem entriesToJson_injective : Function.Injective entriesToJson := by
  intro es fs h
  refine (List.map_inj_right ?_).mp (Json.obj.inj h)
  rintro ⟨a, as⟩ ⟨b, bs⟩ hab
  obtain ⟨rfl, hnames⟩ := Prod.mk.inj hab
  rw [namesToJson_injective hnames]

theorem usageToJson_injective : Function.Injective usageToJson := by
  rintro ⟨k, m⟩ ⟨l, n⟩ h
  simpa [usageToJson] using h

theorem detailToJson_injective : Function.Injective detailToJson := by
  rintro ⟨_, _, _, _, ds, ss⟩ ⟨_, _, _, _, es, ts⟩ h
  simp only [detailToJson, Json.obj.injEq, List.cons.injEq, Prod.mk.injEq, Json.str.injEq,
    Json.bool.injEq, Json.int.injEq, namesToJson_injective.eq_iff] at h
  simpa using h

theorem toJson_injective : Function.Injective toJson := by
  rintro ⟨us, es, is, ds, bs, as⟩ ⟨us', es', is', ds', bs', as'⟩ h
  simp only [toJson, Json.obj.injEq, List.cons.injEq, Prod.mk.injEq, Json.arr.injEq, true_and,
    namesToJson_injective.eq_iff, entriesToJson_injective.eq_iff,
    List.map_inj_right fun _ _ ↦ @usageToJson_injective _ _,
    List.map_inj_right fun _ _ ↦ @detailToJson_injective _ _] at h
  obtain ⟨rfl, rfl, rfl, rfl, rfl, rfl, -⟩ := h
  rfl

/-- The JSON of a report is ASCII and is read as the object with the parts of the report, and no
other report has the same JSON. Without the condition on surrogates this would be wrong, by
`Json.escapeOne_pair`. -/
theorem jsonText_lossless (r : Report) (htexts : ∀ t ∈ r.texts, Unpaired t)
    (hcounts : ∀ n ∈ r.counts, n.natAbs < 10 ^ maxDigits) :
    IsAscii r.jsonText ∧
      (∃ bases : List Text, bases.Perm (r.externalPackages ++ r.internalPackages) ∧
        Text.InOrder bases ∧
        read r.jsonText = .ok (.obj [
          ("library_usage", .arr (r.libraryUsage.map fun u ↦
            .obj [("keyword", .str u.keyword), ("count", .int u.count)])),
          ("external_packages", .arr (r.externalPackages.map .str)),
          ("internal_packages", .arr (r.internalPackages.map .str)),
          ("dependencies", .obj (r.dependencies.map fun e ↦ (e.1, .arr (e.2.map .str)))),
          ("details", .arr (r.details.map fun d ↦ .obj [
            ("name", .str d.name), ("is_external", .bool d.external),
            ("sub_package_count", .int d.subPackageCount), ("class_count", .int d.classCount),
            ("dependencies", .arr (d.dependencies.map .str)),
            ("sub_packages", .arr (d.subPackages.map .str))])),
          ("artifact_packages", .obj (r.artifactPackages.map fun e ↦
            (e.1, .arr (e.2.map .str)))),
          ("base_packages", .arr (bases.map .str))])) ∧
      ∀ r' : Report, (∀ t ∈ r'.texts, Unpaired t) →
        (∀ n ∈ r'.counts, n.natAbs < 10 ^ maxDigits) → r ≠ r' → r.jsonText ≠ r'.jsonText := by
  refine ⟨isAscii_jsonText r, ⟨r.basePackages, Text.sort_perm _, Text.inOrder_sort _, ?_⟩, ?_⟩
  · exact read_jsonText htexts hcounts
  · intro r' htexts' hcounts' hne heq
    apply hne
    apply toJson_injective
    have hread := read_jsonText htexts hcounts
    rw [heq, read_jsonText htexts' hcounts'] at hread
    exact (Except.ok.inj hread).symm

/-- A report with what has to be escaped: quotes, backslashes, control characters, a code point
beyond sixteen bits, and surrogates, of which the low one stands before the high one. -/
def awkward : Report where
  libraryUsage := [⟨"say \"hi\"\\", -12⟩]
  externalPackages := [[CodePoint.ofNat 0x1F600], [CodePoint.ofNat 0xDC00, CodePoint.ofNat 0xD800]]
  internalPackages := [[CodePoint.ofNat 0, CodePoint.ofNat 0x7F, CodePoint.ofNat 0xA]]
  dependencies := [([CodePoint.ofNat 0x1F600], [[]])]
  details := [⟨[CodePoint.ofNat 0x1F600], true, 0, 7, [], [[CodePoint.ofNat 0xE9]]⟩]
  artifactPackages := []

theorem jsonText_lossless_awkward :
    IsAscii awkward.jsonText ∧
      awkward.jsonText ≠ ({ awkward with dependencies := [] } : Report).jsonText := by
  have hlimit : 10 ^ 3 ≤ 10 ^ maxDigits := Nat.pow_le_pow_right (by decide) (by decide)
  have hcounts : ∀ n ∈ awkward.counts, n.natAbs < 10 ^ maxDigits := by
    have hsmall : ∀ n ∈ awkward.counts, n.natAbs < 10 ^ 3 := by decide
    exact fun n hn ↦ Nat.lt_of_lt_of_le (hsmall n hn) hlimit
  obtain ⟨hascii, -, hdiffer⟩ := jsonText_lossless awkward (by decide) hcounts
  exact ⟨hascii, hdiffer { awkward with dependencies := [] } (by decide) hcounts (by decide)⟩

end PackageRollup.Report
