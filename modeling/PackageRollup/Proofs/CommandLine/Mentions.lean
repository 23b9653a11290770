import Mathlib.Data.List.Basic
import PackageRollup.CommandLine.Options

/-!
# Options that a command line mentions

An option may be mentioned several times, between operands and with its value in the same word or in
the next. What is read is the value of the last mention; an option without a value is on if it is
mentioned at all. So each part of what is read depends on the mentions of one option.
-/

namespace PackageRollup.CommandLine

variable {o o' : Options} {ss : List Setting} {switch : Switch}

/-- The options that words mention, in their order. -/
def mentionsOf : List Word → List Setting
  | [] => []
  | .mention m :: ws =>
    match gather (ws.head?.bind Word.operand?) m with
    | .error _ => []
    | .ok g =>
      match g.takesNext, ws with
      | true, _ :: ws' => g.settings ++ mentionsOf ws'
      | _, ws => g.settings ++ mentionsOf ws
  | _ :: ws => mentionsOf ws

/-- The options that a command line mentions, in their order. -/
def mentioned (argv : List Text) : List Setting :=
  match classifyAll argv with
  | .error _ => []
  | .ok words => mentionsOf words

/-- The value of an option where it is mentioned last. -/
def lastValue (switch : Switch) (ss : List Setting) : Option Given :=
  ss.reverse.findSome? fun s ↦ if s.switch = switch then some s.value else none

theorem lastValue_append (ss ss' : List Setting) :
    lastValue switch (ss ++ ss') = (lastValue switch ss').or (lastValue switch ss) := by
  simp [lastValue, List.findSome?_append]

theorem lastValue_singleton (s : Setting) :
    lastValue switch [s] = if s.switch = switch then some s.value else none := by
  simp [lastValue]

/-- The later options are the earlier ones with the mentioned ones taken in. -/
structure Takes (o : Options) (ss : List Setting) (o' : Options) : Prop where
  output : o'.output = (lastValue .output ss).or o.output
  libraries : o'.libraries = (lastValue .libraries ss).or o.libraries
  noLibraries : o'.noLibraries = ((lastValue .noLibraries ss).isSome || o.noLibraries)
  roots : o'.roots = (lastValue .twoSegmentRoots ss).or o.roots
  format : o'.format = (lastValue .format ss).or o.format

theorem Takes.refl (o : Options) : Takes o [] o := ⟨rfl, rfl, rfl, rfl, rfl⟩

theorem Takes.trans {o'' : Options} {ss' : List Setting} (h : Takes o ss o')
    (k : Takes o' ss' o'') : Takes o (ss ++ ss') o'' where
  output := by rw [k.output, h.output, lastValue_append, Option.or_assoc]
  libraries := by rw [k.libraries, h.libraries, lastValue_append, Option.or_assoc]
  noLibraries := by
    rw [k.noLibraries, h.noLibraries, lastValue_append, Option.isSome_or, Bool.or_assoc]
  roots := by rw [k.roots, h.roots, lastValue_append, Option.or_assoc]
  format := by rw [k.format, h.format, lastValue_append, Option.or_assoc]

/-- Words that are no mentions change nothing but the input and what has no place. -/
theorem Takes.of_operand {input : Option Text} {extra : List Text}
    (h : Takes { o with input := input, extra := extra } ss o') : Takes o ss o' where
  output := h.output
  libraries := h.libraries
  noLibraries := h.noLibraries
  roots := h.roots
  format := h.format

theorem takes_follow {s : Setting} (h : o.follow s = .ok o') : Takes o [s] o' := by
  obtain ⟨switch, value⟩ := s
  cases switch with
  | help => cases h
  | format =>
      have hformat : o' = { o with format := some value } := by
        cases value with
        | none => exact (Except.ok.inj h).symm
        | some name =>
            simp only [Options.follow] at h
            split at h
            · exact (Except.ok.inj h).symm
            · cases h
      subst hformat
      constructor <;> simp [lastValue_singleton]
  | _ =>
      obtain rfl := Except.ok.inj h
      constructor <;> simp [lastValue_singleton]

theorem takes_followAll (h : o.followAll ss = .ok o') : Takes o ss o' := by
  induction ss generalizing o with
  | nil =>
      obtain rfl := Except.ok.inj h
      exact .refl o
  | cons s ss ih =>
      rw [Options.followAll] at h
      split at h
      next next hnext => exact (takes_follow hnext).trans (ih h)
      next => cases h

theorem takes_readWords {ws : List Word} (h : readWords o ws = .ok o') :
    Takes o (mentionsOf ws) o' := by
  fun_induction readWords o ws with
  | case1 o =>
      obtain rfl := Except.ok.inj h
      exact .refl o
  | case2 o t ws ih => exact (ih h).of_operand
  | case3 o t ws hinput ih => exact (ih h).of_operand
  | case4 o t hinput _ ws ih => exact (ih h).of_operand
  | case5 o t hinput _ ws _ ih => exact (ih h).of_operand
  | case6 o t ws hinput ih => exact (ih h).of_operand
  | case7 o ws _ ih => exact (ih h).of_operand
  | case8 => cases h
  | case9 => cases h
  | case10 o m g next hfollow word ws htakes hgather ih =>
      have hmentions : mentionsOf (.mention m :: word :: ws) = g.settings ++ mentionsOf ws := by
        simp only [mentionsOf, hgather, htakes]
      rw [hmentions]
      exact (takes_followAll hfollow).trans (ih h)
  | case11 o m g next hfollow ws hlast hgather ih =>
      have hmentions : mentionsOf (.mention m :: ws) = g.settings ++ mentionsOf ws := by
        simp only [mentionsOf, hgather]
      rw [hmentions]
      exact (takes_followAll hfollow).trans (ih h)

/-- What is read from a command line is what it mentions last. -/
theorem takes_readOptions {argv : List Text} (h : readOptions argv = .ok o) :
    Takes .initial (mentioned argv) o := by
  cases hwords : classifyAll argv with
  | error e =>
      simp only [readOptions, hwords] at h
      cases h
  | ok words =>
      simp only [readOptions, hwords] at h
      simp only [mentioned, hwords]
      split at h
      next => cases h
      next o' hread =>
        split at h
        · cases h
        split at h
        · obtain rfl := Except.ok.inj h
          exact takes_readWords hread
        · cases h

example : mentioned ["-l", "a", "in", "--no-lib", "--libraries=b"] =
    [⟨.libraries, some "a"⟩, ⟨.noLibraries, none⟩, ⟨.libraries, some "b"⟩] := by decide +kernel

end PackageRollup.CommandLine
