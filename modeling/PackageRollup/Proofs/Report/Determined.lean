import PackageRollup.Proofs.Report.Markdown
import PackageRollup.Proofs.Text.Delimited

/-!
# What can be told from the Markdown of a report

Names without backticks end where the next backtick is, whatever else they hold: line breaks,
dollars, headings. Numbers end where the digits end, and the parts that can be missing or repeated
begin with marks that what stands behind them does not begin with. So everything that is shown can
be told.
-/

namespace PackageRollup

namespace Report

open Text (Apart Delimited EndsDigits)

def Unquoted (t : Text) : Prop := CodePoint.ofChar '`' ∉ t

def AllUnquoted (names : List Text) : Prop := ∀ name ∈ names, Unquoted name

theorem delimited_code : Delimited Unquoted (fun _ ↦ True) code := by
  have hname : Delimited Unquoted (fun s ↦ s.head?.any (· != CodePoint.ofChar '`') = false) id := by
    intro a b ha hb s t hs ht h
    have hplain : ∀ {t : Text}, Unquoted t → ∀ c ∈ t, (c != CodePoint.ofChar '`') = true := by
      intro t ht c hc
      rw [bne_iff_ne]
      rintro rfl
      exact ht hc
    exact Text.append_inj_of_all (hplain ha) (hplain hb) hs ht h
  exact hname.between fun _ ↦ rfl

/-! ## Lists of names -/

theorem delimited_bullets (indent : Text) :
    Delimited AllUnquoted (fun s ↦ ¬ (indent ++ "- " : Text) <+: s) (bullets indent) := by
  have hbullet : Delimited Unquoted (fun _ ↦ True) (bullet indent) :=
    delimited_code.between fun _ ↦ trivial
  have hmark : ∀ name, (indent ++ "- " : Text) <+: bullet indent name := by
    intro name
    exact (List.prefix_append _ (code name)).trans (List.prefix_append _ _)
  exact hbullet.items hmark

theorem begins_namesUnder_append {heading s : Text} {names : List Text} (hnames : names ≠ []) :
    heading <+: namesUnder heading names ++ s := by
  simp only [namesUnder, List.isEmpty_iff, if_neg hnames, List.append_assoc]
  exact List.prefix_append heading _

theorem not_begins_namesUnder_append {u heading s : Text} {names : List Text}
    (hu : Apart u heading) (hs : ¬ u <+: s) : ¬ u <+: namesUnder heading names ++ s := by
  by_cases hnames : names = []
  · rw [hnames]
    exact hs
  · exact hu.not_begins_of_begins (begins_namesUnder_append hnames)

theorem delimited_namesUnder (heading : Text) :
    Delimited AllUnquoted (fun s ↦ ¬ heading <+: s) (namesUnder heading) := by
  have hlast : ∀ s, ¬ Text.ofString "- " <+: Text.ofString "\n" ++ s :=
    (by decide : Apart "- " "\n").not_begins_append
  apply ((delimited_bullets []).between hlast).orNothing
  intro names
  rw [List.append_assoc, List.append_assoc]
  exact List.prefix_append heading _

theorem delimited_dependencyText :
    Delimited AllUnquoted (fun s ↦ ¬ Text.ofString ", " <+: s) dependencyText := by
  have hitem : Delimited Unquoted (fun _ ↦ True) (fun name ↦ Text.ofString ", " ++ code name) := by
    intro a b ha hb s t _ _ h
    rw [List.append_assoc, List.append_assoc] at h
    exact delimited_code ha hb trivial trivial (List.append_cancel_left h)
  have hitems := hitem.items fun name ↦ List.prefix_append _ (code name)
  have hjoin : ∀ name names, Text.join ", " ((name :: names).map code) =
      code name ++ names.flatMap fun name ↦ Text.ofString ", " ++ code name := by
    intro name names
    rw [List.map_cons, Text.join_cons, List.flatMap_map]
  apply Delimited.orElse
  · rintro names names' ⟨hnames, hne⟩ ⟨hnames', hne'⟩ s t hs ht h
    obtain ⟨name, names, rfl⟩ := List.exists_cons_of_ne_nil hne
    obtain ⟨name', names', rfl⟩ := List.exists_cons_of_ne_nil hne'
    obtain ⟨hfirst, hothers⟩ := List.forall_mem_cons.mp hnames
    obtain ⟨hfirst', hothers'⟩ := List.forall_mem_cons.mp hnames'
    simp only [hjoin, List.append_assoc] at h
    obtain ⟨rfl, hrest⟩ := delimited_code hfirst hfirst' trivial trivial h
    obtain ⟨rfl, hst⟩ := hitems hothers hothers' hs ht hrest
    exact ⟨rfl, hst⟩
  · intro names s t hne _
    obtain ⟨name, names, rfl⟩ := List.exists_cons_of_ne_nil hne
    simp only [hjoin, code, List.append_assoc]
    exact (by decide : Apart "None" "`").append_ne_append _ _

/-! ## Sections -/

theorem delimited_librarySection :
    Delimited (fun us ↦ ∀ u ∈ us, Unquoted u.keyword)
      (fun s ↦ ¬ Text.ofString "## Library Usage" <+: s) librarySection := by
  have hrow : Delimited (fun u ↦ Unquoted u.keyword) (fun _ ↦ True) usageRow := by
    rintro ⟨keyword, count⟩ ⟨keyword', count'⟩ hu hu' s t _ _ h
    simp only [usageRow, List.append_assoc] at h
    obtain ⟨rfl, hcount⟩ := delimited_code hu hu' trivial trivial (List.append_cancel_left h)
    obtain ⟨rfl, hrest⟩ := Text.delimited_ofInt trivial trivial
      (Text.endsDigits_append (by decide) s) (Text.endsDigits_append (by decide) t)
      (List.append_cancel_left hcount)
    exact ⟨rfl, List.append_cancel_left hrest⟩
  have hmark : ∀ u, Text.ofString "| " <+: usageRow u := by
    intro u
    simp only [usageRow, List.append_assoc]
    exact List.prefix_append _ _
  have hlast : ∀ s, ¬ Text.ofString "| " <+: Text.ofString "\n" ++ s :=
    (by decide : Apart "| " "\n").not_begins_append
  have hheading : Text.ofString "## Library Usage" <+:
      Text.ofString "## Library Usage\n\n| Library | Classes |\n| --- | --- |\n" := by decide
  apply ((hrow.items hmark).between hlast).orNothing
  intro us
  rw [List.append_assoc]
  exact hheading.trans (List.prefix_append _ _)

theorem delimited_relationshipsSection :
    Delimited (fun es ↦ ∀ e ∈ es, AllUnquoted (e.1 :: e.2)) (fun s ↦ ¬ Text.ofString "- " <+: s)
      relationshipsSection := by
  have hlast : ∀ s, ¬ Text.ofString "  - " <+: Text.ofString "\n" ++ s :=
    (by decide : Apart "  - " "\n").not_begins_append
  have hrow : Delimited (fun e ↦ AllUnquoted (e.1 :: e.2)) (fun _ ↦ True) relationship := by
    rintro ⟨name, names⟩ ⟨name', names'⟩ he he' s t _ _ h
    obtain ⟨hname, hnames⟩ := List.forall_mem_cons.mp he
    obtain ⟨hname', hnames'⟩ := List.forall_mem_cons.mp he'
    simp only [relationship, List.append_assoc] at h
    obtain ⟨rfl, h₁⟩ := delimited_code hname hname' trivial trivial (List.append_cancel_left h)
    obtain ⟨rfl, h₂⟩ := delimited_bullets "  " hnames hnames' (hlast s) (hlast t)
      (List.append_cancel_left h₁)
    exact ⟨rfl, List.append_cancel_left h₂⟩
  have hmark : ∀ e, Text.ofString "- " <+: relationship e := by
    intro e
    simp only [relationship, List.append_assoc]
    exact List.prefix_append _ _
  apply Delimited.orElse
  · exact (hrow.items hmark).mono (fun _ hes ↦ hes.1) fun _ hs ↦ hs
  · intro es s t hne _
    obtain ⟨e, es, rfl⟩ := List.exists_cons_of_ne_nil hne
    simp only [List.flatMap_cons, relationship, List.append_assoc]
    exact (by decide : Apart "*No dependencies between base packages found.*\n\n"
      "- ").append_ne_append _ _

theorem delimited_kindText : Delimited (fun _ ↦ True) (fun _ ↦ True) kindText := by
  have hapart : Apart (kindText true) (kindText false) := by decide
  intro x y _ _ s t _ _ h
  cases x <;> cases y
  case false.false => exact ⟨rfl, List.append_cancel_left h⟩
  case false.true => exact absurd h.symm (hapart.append_ne_append t s)
  case true.false => exact absurd h (hapart.append_ne_append s t)
  case true.true => exact ⟨rfl, List.append_cancel_left h⟩

def UnquotedDetail (d : BaseDetail) : Prop :=
  AllUnquoted (d.name :: (d.dependencies ++ d.subPackages))

theorem delimited_detailBlock :
    Delimited UnquotedDetail (fun s ↦ ¬ Text.ofString "Includes these sub-packages:" <+: s)
      detailBlock := by
  have hcomma : ∀ s, ¬ Text.ofString ", " <+: Text.ofString "\n\n" ++ s :=
    (by decide : Apart ", " "\n\n").not_begins_append
  rintro ⟨name, external, subPackageCount, classCount, dependencies, subPackages⟩
    ⟨name', external', subPackageCount', classCount', dependencies', subPackages'⟩
    hd hd' s t hs ht h
  obtain ⟨hname, hlists⟩ := List.forall_mem_cons.mp hd
  obtain ⟨hname', hlists'⟩ := List.forall_mem_cons.mp hd'
  obtain ⟨hdependencies, hsub⟩ := List.forall_mem_append.mp hlists
  obtain ⟨hdependencies', hsub'⟩ := List.forall_mem_append.mp hlists'
  simp only [detailBlock_eq, List.append_assoc] at h
  obtain ⟨rfl, h₁⟩ := delimited_code hname hname' trivial trivial (List.append_cancel_left h)
  obtain ⟨rfl, h₂⟩ :=
    delimited_kindText trivial trivial trivial trivial (List.append_cancel_left h₁)
  obtain ⟨rfl, h₃⟩ := Text.delimited_ofInt trivial trivial (Text.endsDigits_append (by decide) _)
    (Text.endsDigits_append (by decide) _) (List.append_cancel_left h₂)
  obtain ⟨rfl, h₄⟩ := Text.delimited_ofInt trivial trivial (Text.endsDigits_append (by decide) _)
    (Text.endsDigits_append (by decide) _) (List.append_cancel_left h₃)
  obtain ⟨rfl, h₅⟩ := delimited_dependencyText hdependencies hdependencies' (hcomma _) (hcomma _)
    (List.append_cancel_left h₄)
  obtain ⟨rfl, hst⟩ := delimited_namesUnder _ hsub hsub' hs ht (List.append_cancel_left h₅)
  exact ⟨rfl, hst⟩

theorem delimited_details :
    Delimited (fun ds ↦ ∀ d ∈ ds, UnquotedDetail d)
      (fun s ↦ ¬ Text.ofString "Includes these sub-packages:" <+: s ∧ ¬ Text.ofString "### " <+: s)
      (List.flatMap detailBlock) := by
  apply delimited_detailBlock.flatMap
  · intro d
    rw [detailBlock_eq]
    exact List.prefix_append _ _
  · intro s
    exact (by decide : Apart "Includes these sub-packages:" "### ").not_begins_of_begins

/-! ## The document -/

structure SameShown (r r' : Report) : Prop where
  libraryUsage : r.libraryUsage = r'.libraryUsage
  externalPackages : r.externalPackages = r'.externalPackages
  internalPackages : r.internalPackages = r'.internalPackages
  dependencies : r.dependencies = r'.dependencies
  details : r.details = r'.details

structure UnquotedReport (r : Report) : Prop where
  libraryUsage : ∀ u ∈ r.libraryUsage, Unquoted u.keyword
  externalPackages : AllUnquoted r.externalPackages
  internalPackages : AllUnquoted r.internalPackages
  dependencies : ∀ e ∈ r.dependencies, AllUnquoted (e.1 :: e.2)
  details : ∀ d ∈ r.details, UnquotedDetail d

theorem unquotedReport_of_shownTexts {r : Report} (h : ∀ t ∈ r.shownTexts, Unquoted t) :
    UnquotedReport r := by
  simp only [shownTexts, List.forall_mem_append] at h
  obtain ⟨⟨⟨⟨husage, hexternal⟩, hinternal⟩, hdependencies⟩, hdetails⟩ := h
  refine ⟨?_, hexternal, hinternal, ?_, ?_⟩
  · exact fun u hu ↦ husage _ (List.mem_map_of_mem hu)
  · exact fun e he t ht ↦ hdependencies t (List.mem_flatMap.mpr ⟨e, he, ht⟩)
  · exact fun d hd t ht ↦ hdetails t (List.mem_flatMap.mpr ⟨d, hd, ht⟩)

theorem packages_eq_of_append_eq {r r' : Report} (hr : UnquotedReport r) (hr' : UnquotedReport r')
    {s t : Text}
    (h : packagesSection r.externalPackages r.internalPackages
        ++ ("## Dependency Relationships\n\n" ++ s) =
      packagesSection r'.externalPackages r'.internalPackages
        ++ ("## Dependency Relationships\n\n" ++ t)) :
    r.externalPackages = r'.externalPackages ∧ r.internalPackages = r'.internalPackages ∧
      s = t := by
  have hheadings : Apart "### External Dependencies" "### Internal Packages" := by decide
  have hexternal : Apart "### External Dependencies" "## Dependency Relationships\n\n" := by decide
  have hinternal : Apart "### Internal Packages" "## Dependency Relationships\n\n" := by decide
  simp only [packagesSection, List.append_assoc] at h
  obtain ⟨hnames, h⟩ := delimited_namesUnder _ hr.externalPackages hr'.externalPackages
    (not_begins_namesUnder_append hheadings (hexternal.not_begins_append s))
    (not_begins_namesUnder_append hheadings (hexternal.not_begins_append t)) h
  obtain ⟨hnames', h⟩ := delimited_namesUnder _ hr.internalPackages hr'.internalPackages
    (hinternal.not_begins_append s) (hinternal.not_begins_append t) h
  exact ⟨hnames, hnames', List.append_cancel_left h⟩

theorem sameShown_of_markdownText_eq {r r' : Report} (hr : UnquotedReport r)
    (hr' : UnquotedReport r') (h : r.markdownText = r'.markdownText) : SameShown r r' := by
  have hlibrary : Apart "## Library Usage" "## Base Packages\n\n" := by decide
  have hrelationship : Apart "- " "## Package Details\n\n" := by decide
  have hend : ¬ Text.ofString "Includes these sub-packages:" <+: Text.ofString "\n" ∧
      ¬ Text.ofString "### " <+: Text.ofString "\n" := by decide
  rw [markdownText_eq, markdownText_eq] at h
  -- from left to right: a section that is told is taken off on both sides, with the heading behind
  obtain ⟨husage, h₁⟩ := delimited_librarySection hr.libraryUsage hr'.libraryUsage
    (hlibrary.not_begins_append _) (hlibrary.not_begins_append _)
    (List.append_cancel_left (List.append_cancel_left h))
  obtain ⟨hexternal, hinternal, h₂⟩ :=
    packages_eq_of_append_eq hr hr' (List.append_cancel_left h₁)
  obtain ⟨hdependencies, h₃⟩ := delimited_relationshipsSection hr.dependencies hr'.dependencies
    (hrelationship.not_begins_append _) (hrelationship.not_begins_append _) h₂
  obtain ⟨hdetails, -⟩ := delimited_details hr.details hr'.details hend hend
    (List.append_cancel_left h₃)
  exact ⟨husage, hexternal, hinternal, hdependencies, hdetails⟩

/-- Two reports without backticks in what is shown have the same Markdown just when the same is
shown of them. -/
theorem markdownText_eq_iff {r r' : Report} (hr : ∀ t ∈ r.shownTexts, CodePoint.ofChar '`' ∉ t)
    (hr' : ∀ t ∈ r'.shownTexts, CodePoint.ofChar '`' ∉ t) :
    r.markdownText = r'.markdownText ↔ SameShown r r' := by
  constructor
  · intro h
    apply sameShown_of_markdownText_eq _ _ h
    · exact unquotedReport_of_shownTexts hr
    · exact unquotedReport_of_shownTexts hr'
  · rintro ⟨husage, hexternal, hinternal, hdependencies, hdetails⟩
    rw [markdownText_eq, markdownText_eq, husage, hexternal, hinternal, hdependencies, hdetails]

/-- A report whose names look like a place of the template, a row, a heading and an empty list. -/
def deceptive : Report where
  libraryUsage := [⟨" | 3 |\n| ", 10⟩]
  externalPackages := ["$\x7bDETAILS\x7d", "$$"]
  internalPackages := ["a\n\n## Package Details"]
  dependencies := [("a\n- b", []), ([], [[], "c"])]
  details := [⟨"x", true, 1, -12, ["None"], []⟩, ⟨"y", false, 0, 3, [], ["z"]⟩]
  artifactPackages := []

theorem markdownText_eq_iff_deceptive :
    (∀ t ∈ deceptive.shownTexts, CodePoint.ofChar '`' ∉ t) ∧
      (∀ t ∈ ({ deceptive with externalPackages := [] } : Report).shownTexts,
        CodePoint.ofChar '`' ∉ t) ∧
      deceptive.markdownText ≠
        ({ deceptive with externalPackages := [] } : Report).markdownText := by
  have hr : ∀ t ∈ deceptive.shownTexts, CodePoint.ofChar '`' ∉ t := by decide
  have hr' : ∀ t ∈ ({ deceptive with externalPackages := [] } : Report).shownTexts,
      CodePoint.ofChar '`' ∉ t := by decide
  refine ⟨hr, hr', fun h ↦ ?_⟩
  have hexternal := ((markdownText_eq_iff hr hr').mp h).externalPackages
  exact absurd hexternal (List.cons_ne_nil _ _)

end Report

end PackageRollup
