/-
# Texts from outside

A text that comes from outside, such as a name on the command line, was made out of octets.  An octet that
belongs to no character is handed on as a lone surrogate, a code point that stands for no character and that
UTF-8 has no octets for.  Such a text can be put into other texts like any other; what it cannot be is written
to a file.

* `RawText.encode` : the octets of a text, or where its first lone surrogates stand.
-/
import CrateSync.Text.Utf8

namespace CrateSync

/-- A code point: a character, or a surrogate, by its place among all surrogates. -/
inductive CodePoint where
  | char (c : Char)
  | surrogate (n : Fin 0x800)
  deriving DecidableEq, Repr

/-- A text that may hold lone surrogates, code point by code point. -/
abbrev RawText := List CodePoint

namespace RawText

/-! ## Texts without surrogates -/

/-- The code points of a text. -/
def ofText (t : Text) : RawText :=
  t.map .char

/-- A text stands for its code points. -/
instance : Coe Text RawText := ⟨ofText⟩

/-- The characters of a text; surrogates are left out. -/
def characters (t : RawText) : Text :=
  t.filterMap fun
    | .char c => some c
    | .surrogate _ => none

@[simp] theorem characters_ofText (t : Text) : (ofText t).characters = t := by
  induction t with
  | nil => rfl
  | cons c rest ih => exact congrArg (c :: ·) ih

theorem ofText_injective {t t' : Text} (h : ofText t = ofText t') : t = t' := by
  rw [← characters_ofText t, h, characters_ofText]

theorem ofText_append (t t' : Text) : ofText (t ++ t') = ofText t ++ ofText t' :=
  List.map_append

theorem surrogate_not_mem_ofText (n : Fin 0x800) (t : Text) : .surrogate n ∉ ofText t := by
  simp [ofText]

/-! ## Encoding -/

/-- Why a text has no octets: where its first surrogate stands, which one it is, and how many more follow
it at once. -/
structure Unencodable where
  position : Nat
  surrogate : Fin 0x800
  more : Nat
  deriving DecidableEq, Repr

/-- How many surrogates a text begins with. -/
def surrogatesAhead : RawText → Nat
  | .surrogate _ :: rest => surrogatesAhead rest + 1
  | _ => 0

/-- The first surrogates of a text in front of which there are `position` code points. -/
def surrogatesFrom? (position : Nat) : RawText → Option Unencodable
  | [] => none
  | .char _ :: rest => surrogatesFrom? (position + 1) rest
  | .surrogate n :: rest => some ⟨position, n, surrogatesAhead rest⟩

/-- The octets of a text, which it has if it has no surrogates. -/
def encode (t : RawText) : Except Unencodable Octets :=
  match surrogatesFrom? 0 t with
  | none => .ok t.characters.encode
  | some u => .error u

/-- What is in a file that was to hold a text: its octets, or nothing if it has none. -/
def written (t : RawText) : Octets :=
  t.encode.toOption.getD []

/-- The number of the first surrogate among all code points. -/
def firstSurrogate : Nat := 0xD800

/-- Says which surrogates have no octets. -/
def Unencodable.message (u : Unencodable) : Text :=
  let subject : Text :=
    if u.more = 0 then
      "character '\\u" ++ Text.ofNatHex 4 (firstSurrogate + u.surrogate) ++ "' in position "
        ++ Text.ofNat u.position
    else
      "characters in position " ++ Text.ofNat u.position ++ "-" ++ Text.ofNat (u.position + u.more)
  "'utf-8' codec can't encode " ++ subject ++ ": surrogates not allowed"

theorem surrogatesFrom?_ofText (position : Nat) (t : Text) : surrogatesFrom? position (ofText t) = none := by
  induction t generalizing position with
  | nil => rfl
  | cons c rest ih => exact ih (position + 1)

/-- A text without surrogates has its octets. -/
@[simp] theorem encode_ofText (t : Text) : (ofText t).encode = .ok t.encode := by
  rw [encode, surrogatesFrom?_ofText, characters_ofText]

theorem written_of_ok {t : RawText} {octets : Octets} (h : t.encode = .ok octets) : t.written = octets := by
  rw [written, h]
  rfl

theorem written_of_error {t : RawText} {u : Unencodable} (h : t.encode = .error u) : t.written = [] := by
  rw [written, h]
  rfl

@[simp] theorem written_ofText (t : Text) : (ofText t).written = t.encode :=
  written_of_ok (encode_ofText t)

theorem exists_surrogate_of_surrogatesFrom? {t : RawText} {position : Nat} {u : Unencodable}
    (h : surrogatesFrom? position t = some u) : ∃ n, .surrogate n ∈ t := by
  induction t generalizing position with
  | nil => exact absurd h (by simp [surrogatesFrom?])
  | cons point rest ih =>
    cases point with
    | surrogate n => exact ⟨n, List.mem_cons_self⟩
    | char c => exact (ih h).imp fun n hn => List.mem_cons_of_mem _ hn

/-- **A text that has no octets holds a surrogate.** -/
theorem exists_surrogate_of_encode {t : RawText} {u : Unencodable} (h : t.encode = .error u) :
    ∃ n, .surrogate n ∈ t := by
  unfold encode at h
  rcases hfirst : surrogatesFrom? 0 t with _ | u'
  · rw [hfirst] at h
    exact absurd h (by simp)
  · exact exists_surrogate_of_surrogatesFrom? hfirst

/-- Three surrogates behind a character. -/
example :
    encode [.char 'A', .surrogate 0x4FF, .surrogate 0x4FE, .surrogate 0x4FD, .char 'B'] = .error ⟨1, 0x4FF, 2⟩
      ∧ Unencodable.message ⟨1, 0x4FF, 2⟩
        = ("'utf-8' codec can't encode characters in position 1-3: surrogates not allowed" : Text) := by
  constructor
  · rfl
  · decide

end RawText

end CrateSync
