import Mathlib.Data.List.Nodup
import PackageRollup.Proofs.Json.RoundTrip
import PackageRollup.Record.Basic

/-!
# Records and the members of objects

Of the members with one name only the last one counts. A record is read off an object if the last
members with the four required names are texts; the others are kept if they are texts. No member
with another name and no earlier member with the same name has any effect, so a record can be read
back from every object that holds its fields, whatever else there is.
-/

namespace PackageRollup

namespace Json

variable {name t : Text} {v : Json} {members : List (Text × Json)}

/-- The value of the last one of the members with a name. -/
def lastValue? (name : Text) (members : List (Text × Json)) : Option Json :=
  (members.filter fun m ↦ decide (m.1 = name)).getLast?.map Prod.snd

theorem lastValue?_concat (name : Text) (members : List (Text × Json)) (m : Text × Json) :
    lastValue? name (members ++ [m]) =
      if m.1 = name then some m.2 else lastValue? name members := by
  rw [lastValue?, List.filter_append]
  by_cases hname : m.1 = name
  · rw [if_pos hname, List.filter_cons_of_pos (by simpa using hname), List.filter_nil,
      List.getLast?_concat]
    rfl
  · rw [if_neg hname, List.filter_cons_of_neg (by simpa using hname), List.filter_nil,
      List.append_nil, lastValue?]

theorem lookup_eq_lastValue? (name : Text) (members : List (Text × Json)) :
    lookup name members = lastValue? name members := by
  induction members using List.reverseRecOn with
  | nil => rfl
  | append_singleton members m ih =>
      rw [lookup_append, lookup_singleton, ih, lastValue?_concat]
      split <;> rfl

theorem mem_of_lastValue? (h : lastValue? name members = some v) : (name, v) ∈ members := by
  obtain ⟨m, hlast, rfl⟩ := Option.map_eq_some_iff.mp h
  obtain ⟨hm, hname⟩ := List.mem_filter.mp (List.mem_of_getLast? hlast)
  rwa [← of_decide_eq_true hname]

theorem lastValue?_ne_none (h : (name, v) ∈ members) : lastValue? name members ≠ none := by
  have hmem : (name, v) ∈ members.filter fun m ↦ decide (m.1 = name) :=
    List.mem_filter.mpr ⟨h, decide_eq_true rfl⟩
  intro hnone
  rw [lastValue?, Option.map_eq_none_iff, List.getLast?_eq_none_iff] at hnone
  exact List.ne_nil_of_mem hmem hnone

theorem text?_eq_some_iff : text? v = some t ↔ v = .str t := by
  cases v <;> simp [text?]

end Json

namespace Record

open Json (lastValue?)

variable {members : List (Text × Json)} {line : Text} {number : Option Int} {reason : Reason}
  {f : Field} {r : Record}

/-! ## The fields of a record -/

/-- The required members, in the order in which they are looked at. -/
def Field.all : List Field := [sourceClass, targetClass, artifactId, artifactGroup]

/-- The fields of a record with the names of their members. The first four always have a text. -/
def fields (r : Record) : List (Text × Option Text) := [
  ("sourceClass", some r.sourceClass),
  ("targetClass", some r.targetClass),
  ("artifactId", some r.artifactId),
  ("artifactGroup", some r.artifactGroup),
  ("appSetName", r.appSetName),
  ("applicationName", r.applicationName),
  ("artifactFileName", r.artifactFileName),
  ("artifactVersion", r.artifactVersion),
  ("sourceMethod", r.sourceMethod),
  ("targetMethod", r.targetMethod)]

def fieldNames : List Text := [
  "sourceClass", "targetClass", "artifactId", "artifactGroup", "appSetName", "applicationName",
  "artifactFileName", "artifactVersion", "sourceMethod", "targetMethod"]

theorem eq_of_mem_fields {name : Text} {o p : Option Text} (ho : (name, o) ∈ r.fields)
    (hp : (name, p) ∈ r.fields) : o = p := by
  have hnames : r.fields.map Prod.fst = fieldNames := rfl
  have hnodup : (r.fields.map Prod.fst).Nodup := by
    rw [hnames]
    decide +kernel
  exact congrArg Prod.snd (List.inj_on_of_nodup_map hnodup ho hp rfl)

/-! ## Reading the fields -/

theorem required_eq_ok_iff {t : Text} :
    required members f = .ok t ↔ lastValue? f.key members = some (.str t) := by
  rw [required, Json.lookup_eq_lastValue?]
  cases lastValue? f.key members with
  | none => simp
  | some v => cases v <;> simp

theorem bind_eq_ok_iff {ε α β : Type} {x : Except ε α} {g : α → Except ε β} {b : β} :
    x >>= g = .ok b ↔ ∃ a, x = .ok a ∧ g a = .ok b := by
  cases x <;> simp [bind, Except.bind]

theorem exists_str_of_eq_bind {name t : Text}
    (h : some t = (lastValue? name members).bind Json.text?) :
    lastValue? name members = some (.str t) := by
  obtain ⟨v, hv, ht⟩ := Option.bind_eq_some_iff.mp h.symm
  rw [hv, Json.text?_eq_some_iff.mp ht]

/-- Every field of the record that is read is the last member with its name, if that is a text. -/
theorem ofMembers_eq_ok_iff :
    ofMembers members = .ok r ↔
      ∀ f ∈ r.fields, f.2 = (lastValue? f.1 members).bind Json.text? := by
  simp only [ofMembers, bind_eq_ok_iff, required_eq_ok_iff, fields, List.forall_mem_cons]
  constructor
  · rintro ⟨s, hs, t, ht, a, ha, g, hg, hr⟩
    cases hr
    simp only [Field.key] at hs ht ha hg
    simp [optional, Json.lookup_eq_lastValue?, hs, ht, ha, hg, Json.text?]
  · rintro ⟨hs, ht, ha, hg, happ, hname, hfile, hversion, hsource, htarget, -⟩
    refine ⟨_, exists_str_of_eq_bind hs, _, exists_str_of_eq_bind ht, _, exists_str_of_eq_bind ha,
      _, exists_str_of_eq_bind hg, ?_⟩
    obtain ⟨s, t, a, g, app, applicationName, file, version, source, target⟩ := r
    dsimp only at *
    simp [optional, Json.lookup_eq_lastValue?, ← happ, ← hname, ← hfile, ← hversion, ← hsource,
      ← htarget]
    rfl

/-- What is wrong with a required member, and what is said of it. -/
inductive Blames (members : List (Text × Json)) (f : Field) (reason : Reason) : Prop where
  | missing (h : lastValue? f.key members = none ∨ lastValue? f.key members = some .null)
      (hreason : reason = .missing f)
      (hmessage : reason.message = "missing field '" ++ f.key ++ "'")
  | notText {v : Json} (h : lastValue? f.key members = some v) (hnull : v ≠ .null)
      (htext : ∀ t, v ≠ .str t) (hreason : reason = .notText f)
      (hmessage : reason.message = "field '" ++ f.key ++ "' must be a string")

theorem blames_of_required (h : required members f = .error reason) :
    Blames members f reason := by
  rw [required, Json.lookup_eq_lastValue?] at h
  cases hlast : lastValue? f.key members with
  | none =>
      rw [hlast] at h
      cases h
      exact .missing (Or.inl hlast) rfl rfl
  | some v =>
      rw [hlast] at h
      cases v with
      | null =>
          cases h
          exact .missing (Or.inr hlast) rfl rfl
      | str t => cases h
      | _ =>
          cases h
          exact .notText hlast Json.noConfusion (fun _ ↦ Json.noConfusion) rfl rfl

/-- The blamed member comes after required members that are texts. -/
def FirstBlamed (members : List (Text × Json)) (reason : Reason) : Prop :=
  ∃ before f after, Field.all = before ++ f :: after ∧
    (∀ g ∈ before, ∃ t, lastValue? g.key members = some (.str t)) ∧ Blames members f reason

theorem firstBlamed_of_required (before : List Field) {after : List Field}
    (hall : Field.all = before ++ f :: after)
    (hbefore : ∀ g ∈ before, ∃ t, required members g = .ok t)
    (h : required members f = .error reason) : FirstBlamed members reason := by
  refine ⟨before, f, after, hall, ?_, blames_of_required h⟩
  intro g hg
  obtain ⟨t, ht⟩ := hbefore g hg
  exact ⟨t, required_eq_ok_iff.mp ht⟩

theorem firstBlamed_of_ofMembers (h : ofMembers members = .error reason) :
    FirstBlamed members reason := by
  -- one case for each required member that can be the first to be refused
  rw [ofMembers] at h
  cases hsource : required members .sourceClass with
  | error e =>
      rw [hsource] at h
      cases h
      exact firstBlamed_of_required [] rfl (by simp) hsource
  | ok s =>
  cases htarget : required members .targetClass with
  | error e =>
      rw [hsource, htarget] at h
      cases h
      exact firstBlamed_of_required [.sourceClass] rfl (by simp [hsource]) htarget
  | ok t =>
  cases hartifact : required members .artifactId with
  | error e =>
      rw [hsource, htarget, hartifact] at h
      cases h
      exact firstBlamed_of_required [.sourceClass, .targetClass] rfl
        (by simp [hsource, htarget]) hartifact
  | ok a =>
  cases hgroup : required members .artifactGroup with
  | error e =>
      rw [hsource, htarget, hartifact, hgroup] at h
      cases h
      exact firstBlamed_of_required [.sourceClass, .targetClass, .artifactId] rfl
        (by simp [hsource, htarget, hartifact]) hgroup
  | ok g =>
      rw [hsource, htarget, hartifact, hgroup] at h
      cases h

/-! ## Lines that hold an object -/

/-- The members hold every text of the record, and nothing else under the names of its fields. They
stand in any order, and between any members with other names. -/
structure Encodes (members : List (Text × Json)) (r : Record) : Prop where
  texts : ∀ name t, (name, some t) ∈ r.fields → (name, .str t) ∈ members
  others : ∀ name v, (name, v) ∈ members → name ∈ fieldNames →
    ∃ o, (name, o) ∈ r.fields ∧ v = o.elim .null .str

theorem Encodes.field_eq (h : Encodes members r) {name : Text} {o : Option Text}
    (ho : (name, o) ∈ r.fields) : o = (lastValue? name members).bind Json.text? := by
  have hname : name ∈ fieldNames := List.mem_map_of_mem (f := Prod.fst) ho
  cases hlast : lastValue? name members with
  | none =>
      cases o with
      | none => rfl
      | some t => exact absurd hlast (Json.lastValue?_ne_none (h.texts name t ho))
  | some v =>
      obtain ⟨p, hp, rfl⟩ := h.others name v (Json.mem_of_lastValue? hlast) hname
      obtain rfl : o = p := eq_of_mem_fields ho hp
      cases o <;> rfl

theorem Encodes.ofMembers (h : Encodes members r) : ofMembers members = .ok r :=
  ofMembers_eq_ok_iff.mpr fun _ hf ↦ h.field_eq hf

/-- What comes of a line that holds the members. -/
structure Outcome (members : List (Text × Json)) (line : Text) (number : Option Int)
    (result : Except Failure Record) : Prop where
  succeeds_iff : (∃ r, result = .ok r) ↔
    ∀ f ∈ Field.all, ∃ t, lastValue? f.key members = some (.str t)
  reads_iff : ∀ r, result = .ok r ↔
    ∀ f ∈ r.fields, f.2 = (lastValue? f.1 members).bind Json.text?
  fails : ∀ failure, result = .error failure →
    ∃ reason, failure = .rejected ⟨line, number, reason⟩ ∧ FirstBlamed members reason
  inverts : ∀ r, Encodes members r → result = .ok r

theorem exists_ofMembers_eq_ok_iff :
    (∃ r, ofMembers members = .ok r) ↔
      ∀ f ∈ Field.all, ∃ t, lastValue? f.key members = some (.str t) := by
  simp only [ofMembers, bind_eq_ok_iff, required_eq_ok_iff, Field.all, List.forall_mem_cons]
  constructor
  · rintro ⟨r, s, hs, t, ht, a, ha, g, hg, -⟩
    exact ⟨⟨s, hs⟩, ⟨t, ht⟩, ⟨a, ha⟩, ⟨g, hg⟩, List.forall_mem_nil _⟩
  · rintro ⟨⟨s, hs⟩, ⟨t, ht⟩, ⟨a, ha⟩, ⟨g, hg⟩, -⟩
    exact ⟨_, s, hs, t, ht, a, ha, g, hg, rfl⟩

theorem decode_of_read (hread : Json.read line = .ok (.obj members)) :
    decode line number =
      (ofMembers members).mapError fun reason ↦ .rejected ⟨line, number, reason⟩ := by
  rw [decode, hread]
  simp only [ofJson]
  cases ofMembers members <;> rfl

theorem outcome_of_read (hread : Json.read line = .ok (.obj members)) :
    Outcome members line number (decode line number) := by
  have hok : ∀ r, decode line number = .ok r ↔ ofMembers members = .ok r := by
    intro r
    rw [decode_of_read hread]
    cases ofMembers members <;> simp [Except.mapError]
  refine ⟨?_, fun r ↦ (hok r).trans ofMembers_eq_ok_iff, ?_, fun r hr ↦ (hok r).mpr hr.ofMembers⟩
  · simp only [hok, exists_ofMembers_eq_ok_iff]
  · intro failure hfailure
    rw [decode_of_read hread] at hfailure
    cases hmembers : ofMembers members with
    | ok r =>
        rw [hmembers] at hfailure
        cases hfailure
    | error reason =>
        rw [hmembers] at hfailure
        cases hfailure
        exact ⟨reason, rfl, firstBlamed_of_ofMembers hmembers⟩

/-- A line with an object is read by the last members with the names of the fields: a line that the
object is printed to, in any layout and with white space after it, and every other line that the
object is read from. -/
theorem decode_object_line (members : List (Text × Json)) (number : Option Int) :
    (∀ layout : Json.Layout, layout.OnlySpace → Json.Printable Json.maxNesting (.obj members) →
      ∀ space : Text, (∀ c ∈ space, Json.isSpace c) →
        Outcome members (Json.print layout (.obj members) ++ space) number
          (decode (Json.print layout (.obj members) ++ space) number)) ∧
    ∀ line, Json.read line = .ok (.obj members) →
      Outcome members line number (decode line number) := by
  refine ⟨fun layout hlayout hmembers space hspace ↦ ?_, fun line ↦ outcome_of_read⟩
  exact outcome_of_read (Json.read_print hlayout hmembers hspace)

/-- Members out of order, with names that come twice, names that are no field, a quote, a lone
surrogate, and fields that are not texts. -/
def awkwardMembers : List (Text × Json) := [
  ("targetMethod", .bool true),
  ("sourceClass", .null),
  ("artifactGroup", .str ""),
  ("class", .arr [.int (-1), .obj [("targetClass", .infinite true)]]),
  ("targetClass", .str [CodePoint.ofNat 0xD800, CodePoint.ofChar '"']),
  ("sourceMethod", .str "run"),
  ("sourceClass", .str "a.B"),
  ("artifactId", .str "core"),
  ("appSetName", .str "tools"),
  ("sourceMethod", .real ⟨false, 15, -1⟩)]

theorem printable_awkwardMembers :
    Json.Printable Json.maxNesting (.obj awkwardMembers) := by
  have hone : (-1 : Int).natAbs < 10 ^ Json.maxDigits :=
    Nat.one_lt_pow (by decide) (by decide)
  refine .obj (by decide) ?_
  simp only [awkwardMembers, List.forall_mem_cons]
  refine ⟨.bool _, .null, .str (by decide), .arr ?_, .str (by decide), .str (by decide),
    .str (by decide), .str (by decide), .str (by decide), .real _, List.forall_mem_nil _⟩
  simp only [List.forall_mem_cons]
  refine ⟨.int hone, .obj (by decide) ?_, List.forall_mem_nil _⟩
  simp only [List.forall_mem_cons]
  exact ⟨.infinite _, List.forall_mem_nil _⟩

theorem decode_object_line_awkward :
    decode (Json.print .line (.obj awkwardMembers) ++ "\n") (some 7) = .ok {
      sourceClass := "a.B", targetClass := [CodePoint.ofNat 0xD800, CodePoint.ofChar '"']
      artifactId := "core", artifactGroup := "", appSetName := some "tools"
      applicationName := none, artifactFileName := none, artifactVersion := none
      sourceMethod := none, targetMethod := none } := by
  have houtcome := (decode_object_line awkwardMembers (some 7)).1 .line Json.Layout.line_onlySpace
    printable_awkwardMembers "\n" (by decide)
  apply (houtcome.reads_iff _).mpr
  decide

end Record

end PackageRollup
