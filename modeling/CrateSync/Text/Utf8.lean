/-
# UTF-8

Encoding texts as octets and reading octets back.  Reading is a scan by a small state machine: the
state is the sequence begun and not yet finished, and the output is a list of units, each a
character or an ill-formed part.  An ill-formed part is as long as it still is the beginning of
some character's encoding, so a scan never looks back.

* `Utf8.decode` is the strict reading: it stops at the first ill-formed part and says where it
  lies and what is wrong with it;
* `Utf8.decodeLossy` is the forgiving one: each ill-formed part becomes one replacement character.
-/
import CrateSync.Text.Basic

namespace CrateSync

/-- A sequence of octets. -/
abbrev Octets := List UInt8

/-- The octets of a text. -/
def Text.encode (t : Text) : Octets :=
  t.flatMap String.utf8EncodeChar

namespace Utf8

/-- What is wrong with an ill-formed part. -/
inductive Defect where
  /-- An octet that begins no character. -/
  | badStart
  /-- A sequence followed by an octet that cannot continue it. -/
  | badContinuation
  /-- A sequence cut off by the end of the octets. -/
  | cutOff
  deriving DecidableEq, Repr

/-- One step of the output of a scan. -/
inductive Piece where
  | char (c : Char)
  | illFormed (octets : Octets) (defect : Defect)
  deriving DecidableEq, Repr

/-- A sequence that has begun: its octets so far, the number they make, how many octets are
missing, and the bounds between which the next one has to lie. -/
structure Begun where
  seen : Octets
  value : Nat
  missing : Nat
  low : UInt8
  high : UInt8
  deriving DecidableEq, Repr

/-- What an octet means where no sequence has begun. -/
def start (b : UInt8) : Option Piece × Option Begun :=
  let begun (value missing : Nat) (low high : UInt8) : Option Piece × Option Begun :=
    (none, some ⟨[b], value, missing, low, high⟩)
  if b < 0x80 then (some (.char (Char.ofNat b.toNat)), none)
  else if b < 0xC2 then (some (.illFormed [b] .badStart), none)
  else if b < 0xE0 then begun (b.toNat - 0xC0) 1 0x80 0xBF
  else if b == 0xE0 then begun 0 2 0xA0 0xBF
  else if b == 0xED then begun 0xD 2 0x80 0x9F
  else if b < 0xF0 then begun (b.toNat - 0xE0) 2 0x80 0xBF
  else if b == 0xF0 then begun 0 3 0x90 0xBF
  else if b < 0xF4 then begun (b.toNat - 0xF0) 3 0x80 0xBF
  else if b == 0xF4 then begun 4 3 0x80 0x8F
  else (some (.illFormed [b] .badStart), none)

/-- What an octet that may continue a sequence makes of it. -/
def Begun.continue (s : Begun) (b : UInt8) : Option Piece × Option Begun :=
  let value := s.value * 64 + (b.toNat - 0x80)
  if s.missing ≤ 1 then (some (.char (Char.ofNat value)), none)
  else (none, some ⟨s.seen ++ [b], value, s.missing - 1, 0x80, 0xBF⟩)

/-- One step of the scan: the units that are complete once the octet is read, and the sequence
that is then open. -/
def step (state : Option Begun) (b : UInt8) : List Piece × Option Begun :=
  match state with
  | none =>
    let (piece, next) := start b
    (piece.toList, next)
  | some s =>
    if s.low ≤ b ∧ b ≤ s.high then
      let (piece, next) := s.continue b
      (piece.toList, next)
    else
      let (piece, next) := start b
      (.illFormed s.seen .badContinuation :: piece.toList, next)

/-- The units of the octets, read from a state. -/
def scan : Option Begun → Octets → List Piece
  | none, [] => []
  | some s, [] => [.illFormed s.seen .cutOff]
  | state, b :: rest => (step state b).1 ++ scan (step state b).2 rest

/-! ## The forgiving reading -/

/-- The character that a unit stands for in the forgiving reading. -/
def Piece.shown : Piece → Char
  | .char c => c
  | .illFormed _ _ => '\uFFFD'

/-- The text of any octets, with one replacement character for each ill-formed part. -/
def decodeLossy (octets : Octets) : Text :=
  (scan none octets).map Piece.shown

/-! ## The strict reading -/

/-- Why octets are no text: the first ill-formed part, how many octets lie before it, and what is
wrong with it. -/
structure Malformed where
  before : Nat
  octets : Octets
  defect : Defect
  deriving DecidableEq, Repr

/-- How many octets a unit was read from. -/
def Piece.size : Piece → Nat
  | .char c => (String.utf8EncodeChar c).length
  | .illFormed octets _ => octets.length

/-- The text of a list of units that begins after `before` octets, if all of them are
characters. -/
def charsOf (before : Nat) : List Piece → Except Malformed Text
  | [] => .ok []
  | .illFormed octets defect :: _ => .error ⟨before, octets, defect⟩
  | .char c :: rest => (charsOf (before + (Piece.char c).size) rest).map (c :: ·)

/-- The text of well-formed octets. -/
def decode (octets : Octets) : Except Malformed Text :=
  charsOf 0 (scan none octets)

/-- The name of a defect in messages. -/
def Defect.message : Defect → Text
  | .badStart => "invalid start byte"
  | .badContinuation => "invalid continuation byte"
  | .cutOff => "unexpected end of data"

/-- Says which octets are ill-formed and why. -/
def Malformed.message (m : Malformed) : Text :=
  let subject : Text :=
    match m.octets with
    | [b] => "byte 0x" ++ Text.ofNatHex 2 b.toNat ++ " in position " ++ Text.ofNat m.before
    | octets => "bytes in position " ++ Text.ofNat m.before ++ "-"
        ++ Text.ofNat (m.before + octets.length - 1)
  "'utf-8' codec can't decode " ++ subject ++ ": " ++ m.defect.message

end Utf8

end CrateSync
