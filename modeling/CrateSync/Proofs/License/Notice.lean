/-
# What a notice says

A notice tells the kind of the license, who holds the rights and the year.  The owner may be any text, with
braces, line breaks, lone surrogates and words of the notice itself; nothing has to be found in it.  The year
ends at the first blank behind the fixed start, and the notice is as long as its owner makes it.

* `permissiveNotice_inj`, `proprietaryNotice_inj` : notices of one kind;
* `exists_surrogate_of_notice` : the octets that a notice lacks are those that its owner lacks;
* `notice_tells_license` : notices that are the same are about the same license and year.
-/
import Mathlib.Data.List.Basic
import CrateSync.License.Notice
import CrateSync.Proofs.Text.Numeral

namespace CrateSync.License

open RawText (ofText)

/-! ## The year -/

/-- The year stands in front of the first blank. -/
theorem takeWhile_year (year : Int) (rest : RawText) :
    (ofText (Text.ofInt year) ++ (ofText [' '] ++ rest)).takeWhile (· != .char ' ')
      = ofText (Text.ofInt year) := by
  have hnot : ∀ point ∈ ofText (Text.ofInt year), (point != .char ' ') = true := by
    intro point hpoint
    obtain ⟨c, hc, rfl⟩ := List.mem_map.mp hpoint
    rw [bne_iff_ne]
    rintro ⟨⟩
    rcases Text.isDigit_ofInt year ' ' hc with hc | hc <;> exact absurd hc (by decide)
  rw [List.takeWhile_append_of_pos hnot]
  simp [ofText]

/-- A year and what follows it can be told apart. -/
theorem year_append_inj {year year' : Int} {rest rest' : RawText}
    (h : ofText (Text.ofInt year) ++ (ofText [' '] ++ rest)
      = ofText (Text.ofInt year') ++ (ofText [' '] ++ rest')) :
    year = year' ∧ rest = rest' := by
  have hyear : ofText (Text.ofInt year) = ofText (Text.ofInt year') := by
    rw [← takeWhile_year year rest, h, takeWhile_year]
  rw [hyear] at h
  exact ⟨Text.ofInt_injective (RawText.ofText_injective hyear),
    List.append_cancel_left (List.append_cancel_left h)⟩

/-! ## Notices of one kind -/

variable {owner owner' : RawText} {year year' : Int}

theorem permissiveNotice_inj
    (h : permissiveNotice owner (Text.ofInt year) = permissiveNotice owner' (Text.ofInt year')) :
    owner = owner' ∧ year = year' := by
  simp only [permissiveNotice, RawText.ofText_append, List.append_assoc, List.append_cancel_left_eq] at h
  obtain ⟨hyear, hrest⟩ := year_append_inj h
  exact ⟨List.append_cancel_right hrest, hyear⟩

/-- **The owner of a proprietary notice**, which names it three times, is as long as the notice shows, and
stands first behind the year. -/
theorem proprietaryNotice_inj
    (h : proprietaryNotice owner (Text.ofInt year) = proprietaryNotice owner' (Text.ofInt year')) :
    owner = owner' ∧ year = year' := by
  simp only [proprietaryNotice, RawText.ofText_append, List.append_assoc, List.append_cancel_left_eq] at h
  obtain ⟨hyear, hrest⟩ := year_append_inj h
  have hlength : owner.length = owner'.length := by
    have hall := congrArg List.length hrest
    simp only [List.length_append] at hall
    omega
  exact ⟨(List.append_inj hrest hlength).1, hyear⟩

/-! ## Both kinds -/

/-- The two notices begin differently. -/
theorem permissiveNotice_ne_proprietaryNotice (owner owner' : RawText) (year year' : Text) :
    permissiveNotice owner year ≠ proprietaryNotice owner' year' := by
  intro h
  have hfirst : CodePoint.char 'M' = .char 'C' := (List.cons.inj h).1
  exact absurd hfirst (by decide)

/-- A notice for an owner without surrogates is a text. -/
theorem exists_text_of_notice (mode : LicenseMode) (owner : Text) (year : Int) :
    ∃ t : Text, notice ⟨mode, owner⟩ year = ofText t := by
  cases mode with
  | permissive =>
    refine ⟨permissiveStart ++ Text.ofInt year ++ [' '] ++ owner ++ permissiveTerms, ?_⟩
    simp only [notice, permissiveNotice, RawText.ofText_append]
  | proprietary =>
    refine ⟨proprietaryStart ++ Text.ofInt year ++ [' '] ++ owner ++ proprietaryTerms ++ owner
      ++ proprietaryDisclaimer ++ owner ++ proprietaryEnd, ?_⟩
    simp only [notice, proprietaryNotice, RawText.ofText_append]

/-- A notice that has no octets has an owner with a surrogate. -/
theorem exists_surrogate_of_notice {license : License} {u : RawText.Unencodable}
    (h : (license.notice year).encode = .error u) : ∃ n, .surrogate n ∈ license.owner := by
  obtain ⟨n, hn⟩ := RawText.exists_surrogate_of_encode h
  refine ⟨n, ?_⟩
  obtain ⟨mode, owner⟩ := license
  cases mode with
  | permissive => simpa [notice, permissiveNotice, RawText.surrogate_not_mem_ofText] using hn
  | proprietary => simpa [notice, proprietaryNotice, RawText.surrogate_not_mem_ofText] using hn

/-- Lines of which the last one is empty end in a line break. -/
theorem getLast?_joinWith {line : Text} {rest : List Text} (h : rest.getLast? = some []) :
    (Text.joinWith ['\n'] (line :: rest)).getLast? = some '\n' := by
  induction rest generalizing line with
  | nil => exact absurd h (by simp)
  | cons next rest ih =>
    rw [Text.joinWith]
    cases rest with
    | nil =>
      obtain rfl : next = [] := by simpa using h
      simp [Text.joinWith]
    | cons other rest => rw [List.getLast?_append, ih (by simpa using h), Option.some_or]

/-- What ends in a fixed text ends as that does. -/
theorem getLast?_append_ofText {t : RawText} {behind : Text} {c : Char} (h : behind.getLast? = some c) :
    (t ++ ofText behind).getLast? = some (.char c) := by
  rw [List.getLast?_append, ofText, List.getLast?_map, h]
  rfl

theorem getLast?_notice (mode : LicenseMode) (owner : RawText) (year : Int) :
    (notice ⟨mode, owner⟩ year).getLast? = some (.char '\n') := by
  cases mode with
  | permissive => exact getLast?_append_ofText (getLast?_joinWith rfl)
  | proprietary => exact getLast?_append_ofText (getLast?_joinWith rfl)

/-- **A notice tells the license and the year**, whatever text the owner is, and ends in a line break. -/
theorem notice_tells_license (mode mode' : LicenseMode) (owner owner' : RawText) (year year' : Int) :
    (notice ⟨mode, owner⟩ year = notice ⟨mode', owner'⟩ year'
      ↔ mode = mode' ∧ owner = owner' ∧ year = year')
    ∧ (notice ⟨mode, owner⟩ year).getLast? = some (.char '\n') := by
  constructor
  · constructor
    · intro h
      cases mode <;> cases mode'
      · exact ⟨rfl, permissiveNotice_inj h⟩
      · exact absurd h (permissiveNotice_ne_proprietaryNotice _ _ _ _)
      · exact absurd h.symm (permissiveNotice_ne_proprietaryNotice _ _ _ _)
      · exact ⟨rfl, proprietaryNotice_inj h⟩
    · rintro ⟨rfl, rfl, rfl⟩
      rfl
  · exact getLast?_notice mode owner year

end CrateSync.License
