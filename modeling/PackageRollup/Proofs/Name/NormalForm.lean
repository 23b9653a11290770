import PackageRollup.Proofs.Name.List
import PackageRollup.Proofs.Text.Pieces
import PackageRollup.Session.Basic

/-!
# Names are read once

The names in a text with commas hold no comma, so that they can be joined and read again; and names
in normal form are their own normal forms, so that they come out as they went in. A session, which
normalises its keywords too, therefore has the very names that were read.
-/

namespace PackageRollup

namespace NameList

variable {t : Text} {names : List Text}

/-- What the names in a text with commas are. -/
structure NamesIn (t : Text) (names : List Text) : Prop where
  clean : Clean names
  comma : ∀ name ∈ names, CodePoint.ofChar ',' ∉ name
  first : FirstOccurrences ((Text.splitOn ',' t).map normal) names
  found : ∀ piece ∈ Text.splitOn ',' t, Text.isBlankText piece = false → normal piece ∈ names

/-- The names are the same when they are read again: from a list, from a text, or as the keywords of
a session. -/
structure ReadAgain (names : List Text) : Prop where
  list : normalize names = names
  text : ofText (Text.join "," names) = names
  keywords : ∀ roots, (Session.start names roots).libraries = names

theorem normal_eq_nil_iff {name : Text} : normal name = [] ↔ Text.isBlankText name = true := by
  rw [normal, Text.lower_eq_nil_iff, Text.trim_eq_nil_iff]

theorem mem_of_mem_normal {c : CodePoint} (hc : Text.IsCaseless c) {name : Text}
    (h : c ∈ normal name) : c ∈ name :=
  Text.mem_of_mem_trim (hc.mem_of_mem_lowerAfter h)

theorem comma_not_mem_of_mem_ofText {name : Text} (hname : name ∈ ofText t) :
    CodePoint.ofChar ',' ∉ name := by
  obtain ⟨-, piece, hpiece, rfl⟩ := mem_normalize.mp hname
  intro hcomma
  exact Text.not_mem_of_mem_splitOn hpiece (mem_of_mem_normal Text.isCaseless_comma hcomma)

theorem namesIn_ofText (t : Text) : NamesIn t (ofText t) where
  clean := clean_normalize _
  comma _ := comma_not_mem_of_mem_ofText
  first := firstOccurrences_normalize _
  found := by
    intro piece hpiece hblank
    refine mem_normalize.mpr ⟨?_, piece, hpiece, rfl⟩
    rw [Ne, normal_eq_nil_iff, hblank]
    exact Bool.false_ne_true

/-! ## Reading again -/

theorem eraseDups_eq_self (h : names.Nodup) : names.eraseDups = names := by
  induction names with
  | nil => exact List.eraseDups_nil
  | cons name names ih =>
      rw [List.nodup_cons] at h
      have hfilter : names.filter (fun other ↦ !other == name) = names := by
        rw [List.filter_eq_self]
        intro other hother
        have hne : other ≠ name := fun heq ↦ h.1 (heq ▸ hother)
        simp [hne]
      rw [List.eraseDups_cons, hfilter, ih h.2]

theorem Clean.normal_eq (h : Clean names) {name : Text} (hname : name ∈ names) :
    normal name = name := by
  rw [normal, h.trimmed name hname, h.lower name hname]

theorem Clean.normalize_eq (h : Clean names) : normalize names = names := by
  have hnormal : names.map normal = names :=
    (List.map_congr_left fun _ hname ↦ h.normal_eq hname).trans (List.map_id names)
  have hnonempty : names.filter (· ≠ []) = names := by
    rw [List.filter_eq_self]
    intro name hname
    exact decide_eq_true (h.nonempty name hname)
  rw [normalize, hnormal, hnonempty, eraseDups_eq_self h.nodup]

theorem Clean.ofText_join (h : Clean names)
    (hcomma : ∀ name ∈ names, CodePoint.ofChar ',' ∉ name) :
    ofText (Text.join "," names) = names := by
  cases names with
  | nil => rfl
  | cons name names =>
      have hpieces : Text.splitOn ',' (Text.join "," (name :: names)) = name :: names :=
        Text.splitOn_join (List.cons_ne_nil name names) hcomma
      rw [ofText, hpieces, h.normalize_eq]

theorem libraries_start (names : List Text) (roots : NameSet) :
    (Session.start names roots).libraries = normalize names := by
  simp [Session.libraries, Session.start, Function.comp_def]

/-- The names in a text are in normal form: each is there once, at its first occurrence, and stays
as it is when the names are read again or become the keywords of a session. So are the normal forms
of the names in a list. -/
theorem ofText_normal_form (t : Text) (given : List Text) :
    NamesIn t (ofText t) ∧ ReadAgain (ofText t) ∧
      Clean (normalize given) ∧ normalize (normalize given) = normalize given := by
  have hnames := namesIn_ofText t
  have hgiven := clean_normalize given
  refine ⟨hnames, ⟨?_, ?_, fun roots ↦ ?_⟩, hgiven, hgiven.normalize_eq⟩
  · exact hnames.clean.normalize_eq
  · exact hnames.clean.ofText_join hnames.comma
  · rw [libraries_start, hnames.clean.normalize_eq]

/-- The dotted capital I becomes two code points, the sigma at the end of a word is a final one, and
only then are two names seen to be the same. -/
example : ofText " İx ,,ΟΔΟΣ\u00a0, ΟΔΟς" = ["i\u0307x", "οδος"] := by decide +kernel

end NameList

end PackageRollup
