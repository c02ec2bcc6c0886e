import Wayfinder.Text.Glyph

/-!
# Encodings

Bytes are read as UTF-8, UTF-16 or UTF-32, the latter two in either byte order. Which one it is shows in
the zero bytes of the first characters, of which the first two are taken to be ASCII. A byte order mark in
front counts in UTF-8 only, where it is dropped. Half of a surrogate pair is read as it stands.
-/

namespace Wayfinder.Text

/-- The order of the bytes in a unit: the most significant or the least significant one first. -/
inductive ByteOrder where
  | big
  | little
  deriving DecidableEq, Repr

/-- The number that the bytes of a unit write. -/
def ByteOrder.toNat (order : ByteOrder) (bytes : List UInt8) : Nat :=
  let ordered := match order with
    | .big => bytes
    | .little => bytes.reverse
  ordered.foldl (fun value byte => 0x100 * value + byte.toNat) 0

/-- An encoding of texts as bytes. -/
inductive Encoding where
  | utf8
  | utf16 (order : ByteOrder)
  | utf32 (order : ByteOrder)
  deriving DecidableEq, Repr

namespace Encoding

/-- The encoding of bytes, judged by the first of them. -/
def detect : List UInt8 → Encoding
  | [first, second] =>
    if first = 0 then .utf16 .big else if second = 0 then .utf16 .little else .utf8
  | first :: second :: third :: fourth :: _ =>
    if first = 0 then
      if second = 0 then .utf32 .big else .utf16 .big
    else if second = 0 then
      if third = 0 ∧ fourth = 0 then .utf32 .little else .utf16 .little
    else .utf8
  | _ => .utf8

/-- The units of two bytes that make up a sequence. -/
def units16? (order : ByteOrder) : List UInt8 → Option (List Nat)
  | [] => some []
  | first :: second :: rest => (units16? order rest).map (order.toNat [first, second] :: ·)
  | [_] => none

/-- The units of four bytes that make up a sequence. -/
def units32? (order : ByteOrder) : List UInt8 → Option (List Nat)
  | [] => some []
  | first :: second :: third :: fourth :: rest =>
    (units32? order rest).map (order.toNat [first, second, third, fourth] :: ·)
  | _ => none

/-- Units with each surrogate pair as one code. -/
def joinSurrogates : List Nat → List Nat
  | lead :: trail :: rest =>
    if isLeadSurrogate lead && isTrailSurrogate trail then
      ofSurrogates lead trail :: joinSurrogates rest
    else lead :: joinSurrogates (trail :: rest)
  | units => units

/-- The text that bytes write. -/
def decode? (encoding : Encoding) (bytes : List UInt8) : Option (List Glyph) :=
  match encoding with
  | .utf8 =>
    (String.fromUTF8? ⟨bytes.toArray⟩).map fun text =>
      let glyphs := Glyph.ofText text
      if glyphs.head? = some (.char (Char.ofNat 0xfeff)) then glyphs.drop 1 else glyphs
  | .utf16 order => (units16? order bytes).map fun units => (joinSurrogates units).map Glyph.ofCode
  | .utf32 order =>
    (units32? order bytes).bind fun codes =>
      if codes.all (· < 0x110000) then some (codes.map Glyph.ofCode) else none

end Encoding

end Wayfinder.Text
