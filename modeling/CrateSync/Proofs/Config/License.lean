/-
# Which license is chosen

The license depends on the names that the command line and the environment give only as they are without
the blanks around them, and a blank name counts for as little as one that is not given.  Two kinds of license
are asked for exactly if both names of the command line are given; otherwise a name that is given decides.

* `Respelled` : a name with more blanks at its ends, or a blank one left out;
* `License.Choice` : what the names come to;
* `License.choose?_congr`, `License.choose?_eq_none_iff` : spellings, and when two licenses are asked for;
* `license_choice_normalised` : the choice, the owner, and the license of the settings.
-/
import Mathlib.Logic.Relation
import CrateSync.Config.Settings
import CrateSync.Proofs.Text.Blank

namespace CrateSync

open Text (allBlank isBlank)

/-! ## Names -/

/-- A name is given: it is there, and not blank. -/
def IsGiven (name : Option Text) : Prop :=
  ∃ t, name = some t ∧ allBlank t = false

/-- A name with blanks added at its ends, or a blank name left out. -/
inductive Respelled : Option Text → Option Text → Prop
  | blanks (front t back : Text) (hfront : allBlank front = true)
      (hback : allBlank back = true) : Respelled (some t) (some (front ++ t ++ back))
  | absent {t : Text} (h : allBlank t = true) : Respelled (some t) none

theorem nonBlank?_of_allBlank {t : Text} (h : allBlank t = true) : nonBlank? t = none := by
  simp [nonBlank?, Text.trim_eq_nil_iff.mpr h]

/-- What remains of a name is not empty, and neither begins nor ends with a blank. -/
theorem nonBlank?_eq_some {t owner : Text} (h : nonBlank? t = some owner) :
    owner ≠ [] ∧ (∀ c, owner.head? = some c → isBlank c = false)
      ∧ ∀ c, owner.getLast? = some c → isBlank c = false := by
  unfold nonBlank? at h
  split_ifs at h with hempty
  obtain rfl := Option.some.inj h
  exact ⟨by simpa using hempty, fun c => Text.head?_trim, fun c => Text.getLast?_trim⟩

theorem bind_nonBlank?_eq_none {name : Option Text} :
    name.bind nonBlank? = none ↔ ¬IsGiven name := by
  cases name with
  | none => simp [IsGiven]
  | some t =>
    have hblank : (Text.trim t).isEmpty = allBlank t := by
      rw [Bool.eq_iff_iff, List.isEmpty_iff, Text.trim_eq_nil_iff]
    simp [IsGiven, nonBlank?, hblank]

theorem isGiven_of_nonBlank? {name : Option Text} {t : Text} (h : name.bind nonBlank? = some t) :
    IsGiven name := by
  by_contra hnot
  rw [bind_nonBlank?_eq_none.mpr hnot] at h
  exact absurd h (by simp)

/-- A variable that is not set counts as a name that is not given. -/
theorem nonBlank?_value (env : Environment) (name : Text) :
    nonBlank? (env.value name) = (env.lookup name).bind nonBlank? := by
  unfold Environment.value
  cases env.lookup name with
  | none => exact nonBlank?_of_allBlank rfl
  | some t => rfl

/-- **However a name is spelled, the same remains of it.** -/
theorem bind_nonBlank?_congr {name name' : Option Text} (h : Relation.EqvGen Respelled name name') :
    name.bind nonBlank? = name'.bind nonBlank? := by
  induction h with
  | rel _ _ h =>
    cases h with
    | blanks _ t _ hfront hback =>
      show nonBlank? t = nonBlank? _
      rw [nonBlank?, nonBlank?, Text.trim_append hfront hback]
    | absent h => exact nonBlank?_of_allBlank h
  | refl => rfl
  | symm _ _ _ ih => exact ih.symm
  | trans _ _ _ _ _ ih ih' => exact ih.trans ih'

/-! ## The choice -/

namespace License

variable {proprietary permissive : Option Text} {env : Environment}

/-- What the names of the command line and the one of the environment come to. -/
inductive Choice (proprietary permissive owner : Option Text) : Option (Option License) → Prop
  | both (h : IsGiven proprietary) (h' : IsGiven permissive) : Choice proprietary permissive owner none
  | proprietary (t : Text) (h : proprietary.bind nonBlank? = some t) (h' : ¬IsGiven permissive) :
      Choice proprietary permissive owner (some (some ⟨.proprietary, t⟩))
  | permissive (t : Text) (h : ¬IsGiven proprietary) (h' : permissive.bind nonBlank? = some t) :
      Choice proprietary permissive owner (some (some ⟨.permissive, t⟩))
  | owner (t : Text) (h : ¬IsGiven proprietary) (h' : ¬IsGiven permissive)
      (howner : owner.bind nonBlank? = some t) :
      Choice proprietary permissive owner (some (some ⟨.permissive, t⟩))
  | nothing (h : ¬IsGiven proprietary) (h' : ¬IsGiven permissive) (howner : ¬IsGiven owner) :
      Choice proprietary permissive owner (some none)

/-- **How the license is chosen.** -/
theorem choose?_choice (proprietary permissive : Option Text) (env : Environment) :
    Choice proprietary permissive (env.lookup ownerVariable) (choose? proprietary permissive env) := by
  unfold choose?
  rcases hproprietary : proprietary.bind nonBlank? with _ | t
  · have hno := bind_nonBlank?_eq_none.mp hproprietary
    rcases hpermissive : permissive.bind nonBlank? with _ | u
    · have hno' := bind_nonBlank?_eq_none.mp hpermissive
      rcases howner : (env.lookup ownerVariable).bind nonBlank? with _ | v
      · simp only [nonBlank?_value, howner]
        exact .nothing hno hno' (bind_nonBlank?_eq_none.mp howner)
      · simp only [nonBlank?_value, howner]
        exact .owner v hno hno' howner
    · exact .permissive u hno hpermissive
  · rcases hpermissive : permissive.bind nonBlank? with _ | u
    · exact .proprietary t hproprietary (bind_nonBlank?_eq_none.mp hpermissive)
    · exact .both (isGiven_of_nonBlank? hproprietary) (isGiven_of_nonBlank? hpermissive)

/-- The choice does not depend on how names are spelled. -/
theorem choose?_congr {proprietary' permissive' : Option Text} {env' : Environment}
    (hproprietary : Relation.EqvGen Respelled proprietary proprietary')
    (hpermissive : Relation.EqvGen Respelled permissive permissive')
    (howner : Relation.EqvGen Respelled (env.lookup ownerVariable) (env'.lookup ownerVariable)) :
    choose? proprietary permissive env = choose? proprietary' permissive' env' := by
  simp only [choose?, nonBlank?_value, bind_nonBlank?_congr hproprietary,
    bind_nonBlank?_congr hpermissive, bind_nonBlank?_congr howner]

theorem choose?_eq_none_iff :
    choose? proprietary permissive env = none ↔ IsGiven proprietary ∧ IsGiven permissive := by
  have h := choose?_choice proprietary permissive env
  generalize choose? proprietary permissive env = chosen at h
  cases h with
  | both h h' => exact ⟨fun _ => ⟨h, h'⟩, fun _ => rfl⟩
  | proprietary _ _ h' => simp [h']
  | permissive _ h _ => simp [h]
  | owner _ h _ _ => simp [h]
  | nothing h _ _ => simp [h]

/-- The owner of a license that is chosen. -/
theorem owner_of_choose? {license : License}
    (h : choose? proprietary permissive env = some (some license)) :
    ∃ t owner : Text, license.owner = owner ∧ nonBlank? t = some owner := by
  have hchoice := choose?_choice proprietary permissive env
  rw [h] at hchoice
  cases hchoice with
  | proprietary owner ht _ =>
    obtain ⟨t, -, ht⟩ := Option.bind_eq_some_iff.mp ht
    exact ⟨t, owner, rfl, ht⟩
  | permissive owner _ ht =>
    obtain ⟨t, -, ht⟩ := Option.bind_eq_some_iff.mp ht
    exact ⟨t, owner, rfl, ht⟩
  | owner owner _ _ ht =>
    obtain ⟨t, -, ht⟩ := Option.bind_eq_some_iff.mp ht
    exact ⟨t, owner, rfl, ht⟩

/-- The kind of a license that is chosen. -/
theorem mode_of_choose? {license : Option License}
    (h : choose? proprietary permissive env = some license) :
    (license.map License.mode = some .proprietary ↔ IsGiven proprietary)
    ∧ (license = none
      ↔ ¬IsGiven proprietary ∧ ¬IsGiven permissive ∧ ¬IsGiven (env.lookup ownerVariable)) := by
  have hchoice := choose?_choice proprietary permissive env
  rw [h] at hchoice
  cases hchoice with
  | proprietary t ht _ => simp [isGiven_of_nonBlank? ht]
  | permissive t hno ht => simp [hno, isGiven_of_nonBlank? ht]
  | owner t hno _ ht => simp [hno, isGiven_of_nonBlank? ht]
  | nothing hno hno' howner => simp [hno, hno', howner]

end License

/-! ## The settings -/

theorem Settings.license_of_ofRequest {host : Host} {env : Environment} {target : Path}
    {request : Settings.Request} {s : Settings} (h : Settings.ofRequest host env target request = .ok s) :
    License.choose? request.proprietaryOwner request.permissiveOwner env = some s.license := by
  unfold Settings.ofRequest at h
  rcases hchoose : License.choose? request.proprietaryOwner request.permissiveOwner env with _ | license
  · rw [hchoose] at h
    exact absurd h (by simp)
  rw [hchoose] at h
  simp only [bind, Except.bind] at h
  rcases htarget : Settings.canonical host.fs target with e | directory
  · rw [htarget] at h
    exact absurd h (by simp)
  rw [htarget] at h
  rcases htemplate : Settings.templateDirectory host env request.template with e | template
  · simp only [htemplate] at h
    exact absurd h (by simp)
  · simp only [htemplate] at h
    rw [← Except.ok.inj h]

/-- **The choice of a license is normalised.**  It does not depend on how the names are spelled; two
licenses are asked for exactly if both names of the command line are given; an owner is not empty and
neither begins nor ends with a blank.  The license of settings, which has a kind and an owner, is there
exactly if a name is given, and is proprietary exactly if the name for that kind is. -/
theorem license_choice_normalised :
    (∀ proprietary proprietary' permissive permissive' (env env' : Environment),
      Relation.EqvGen Respelled proprietary proprietary' →
      Relation.EqvGen Respelled permissive permissive' →
      Relation.EqvGen Respelled (env.lookup ownerVariable) (env'.lookup ownerVariable) →
      License.choose? proprietary permissive env = License.choose? proprietary' permissive' env')
    ∧ (∀ proprietary permissive env, License.choose? proprietary permissive env = none
      ↔ IsGiven proprietary ∧ IsGiven permissive)
    ∧ (∀ proprietary permissive env license,
      License.choose? proprietary permissive env = some (some license) →
      ∃ owner : Text, license.owner = owner ∧ owner ≠ [] ∧ (∀ c, owner.head? = some c → isBlank c = false)
        ∧ ∀ c, owner.getLast? = some c → isBlank c = false)
    ∧ ∀ host env target (request : Settings.Request) s,
      Settings.ofRequest host env target request = .ok s →
      (s.license.map License.mode = some .proprietary ↔ IsGiven request.proprietaryOwner)
      ∧ (s.license = none ↔ ¬IsGiven request.proprietaryOwner ∧ ¬IsGiven request.permissiveOwner
        ∧ ¬IsGiven (env.lookup ownerVariable)) := by
  refine ⟨?_, ?_, ?_, ?_⟩
  · intro _ _ _ _ _ _ hproprietary hpermissive howner
    exact License.choose?_congr hproprietary hpermissive howner
  · intro _ _ _
    exact License.choose?_eq_none_iff
  · intro _ _ _ _ h
    obtain ⟨t, owner, howner, ht⟩ := License.owner_of_choose? h
    exact ⟨owner, howner, nonBlank?_eq_some ht⟩
  · intro _ _ _ _ _ h
    exact License.mode_of_choose? (Settings.license_of_ofRequest h)

/-- A name between blanks beside a blank one: the license is that for the name alone. -/
theorem license_of_padded_name :
    let env : Environment := [(ownerVariable, " B ")]
    let host : Host := ⟨⟨[(["crate"], .directory), (["t"], .directory)], ["crate"]⟩, "/", [], []⟩
    let request : Settings.Request := ⟨false, some "\t ", some "\u00a0A\n", some (.ofText "/t")⟩
    let s : Settings := ⟨.absolute ["crate"], .absolute ["t"], false, some ⟨.permissive, "A"⟩⟩
    License.choose? request.proprietaryOwner request.permissiveOwner env
        = License.choose? none (some "A") [(ownerVariable, "B")]
      ∧ License.choose? none (some "A") [(ownerVariable, "B")] = some (some ⟨.permissive, "A"⟩)
      ∧ (∀ c, (['A'] : Text).head? = some c → isBlank c = false)
      ∧ Settings.ofRequest host env (.ofText ".") request = .ok s
      ∧ ¬IsGiven request.proprietaryOwner := by
  intro env host request s
  obtain ⟨hspelling, -, howner, hsettings⟩ := license_choice_normalised
  have hblank : Respelled (some ("\t " : String).toList) none := .absent (by decide)
  have hname : Respelled (some ("A" : String).toList) (some ("\u00a0A\n" : String).toList) :=
    .blanks ['\u00a0'] ['A'] ['\n'] (by decide) (by decide)
  have hvariable : Respelled (some ("B" : String).toList) (some (" B " : String).toList) :=
    .blanks [' '] ['B'] [' '] (by decide) (by decide)
  have hchosen : License.choose? none (some "A") [(ownerVariable, "B")]
      = some (some ⟨.permissive, "A"⟩) := by decide
  have hs : Settings.ofRequest host env (.ofText ".") request = .ok s := by decide +kernel
  obtain ⟨owner, hsame, -, hfirst, -⟩ := howner _ _ _ _ hchosen
  obtain rfl := RawText.ofText_injective hsame
  refine ⟨?_, hchosen, hfirst, hs, ?_⟩
  · exact hspelling _ _ _ _ _ _ (.rel _ _ hblank) (.symm _ _ (.rel _ _ hname))
      (.symm _ _ (.rel _ _ hvariable))
  · exact fun hgiven => absurd ((hsettings _ _ _ _ _ hs).1.mpr hgiven) (by decide)

end CrateSync
