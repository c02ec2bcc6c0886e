import Wayfinder.Text.Hex

/-!
# Percent-encoding

A character that may stand for itself is kept; any other is written as the bytes of its UTF-8
encoding, each a percent sign and two upper-case digits. Decoding reads the escapes back into bytes
and the bytes into characters.
-/

namespace Wayfinder.Text.Percent

/-- The characters that never need an escape: ASCII letters and digits and `_`, `.`, `-`, `~`. -/
def isUnreserved (c : Char) : Bool :=
  c.isAlphanum || c == '_' || c == '.' || c == '-' || c == '~'

/-- The escape of one byte. -/
def escapeByte (byte : UInt8) : List Char :=
  ['%', upperHexDigit (byte.toNat / 16), upperHexDigit (byte.toNat % 16)]

/-- The written form of one character. -/
def encodeChar (keep : Char → Bool) (c : Char) : List Char :=
  if keep c then [c] else (String.utf8EncodeChar c).flatMap escapeByte

/-- The written form of a text, with `keep` telling which characters stand for themselves. -/
def encodeWith (keep : Char → Bool) (text : String) : String :=
  String.ofList (text.toList.flatMap (encodeChar keep))

/-- The written form of a text in which only unreserved characters stand for themselves. -/
def encode (text : String) : String :=
  encodeWith isUnreserved text

/-- The bytes that a written form stands for. An escape gives one byte, any other character its own
bytes; a percent sign that starts no escape stands for itself. -/
def decodeBytes : List Char → List UInt8
  | [] => []
  | '%' :: high :: low :: rest =>
    match hexValue? high, hexValue? low with
    | some upper, some lower => UInt8.ofNat (16 * upper + lower) :: decodeBytes rest
    | _, _ => String.utf8EncodeChar '%' ++ decodeBytes (high :: low :: rest)
  | c :: rest => String.utf8EncodeChar c ++ decodeBytes rest

/-- The text that a written form stands for, if its bytes are UTF-8. -/
def decode? (written : String) : Option String :=
  String.fromUTF8? ⟨(decodeBytes written.toList).toArray⟩

end Wayfinder.Text.Percent
