import Wayfinder.Text.Percent

/-!
# Reading percent-encoded texts back

A percent-encoded text is read back wherever it stands, since an escape is complete in itself and no
plain character is a percent sign. So an address is read back piece by piece.
-/

namespace Wayfinder.Text

theorem hexValue?_upperHexDigit {value : Nat} (small : value < 16) :
    hexValue? (upperHexDigit value) = some value := by
  have all : ∀ value : Fin 16, hexValue? (upperHexDigit value) = some value.val := by decide
  exact all ⟨value, small⟩

namespace Percent

/-- Whether a written form stands for a text, whatever follows it. -/
def Spells (written text : List Char) : Prop :=
  ∀ rest, decodeBytes (written ++ rest) = text.flatMap String.utf8EncodeChar ++ decodeBytes rest

theorem Spells.append {written written' text text' : List Char} (first : Spells written text)
    (second : Spells written' text') : Spells (written ++ written') (text ++ text') := by
  intro rest
  rw [List.append_assoc, first, second, List.flatMap_append, List.append_assoc]

theorem spells_nil : Spells [] [] := fun _ => rfl

theorem decodeBytes_cons {c : Char} (plain : c ≠ '%') (rest : List Char) :
    decodeBytes (c :: rest) = String.utf8EncodeChar c ++ decodeBytes rest := by
  rw [decodeBytes.eq_def]
  split
  case h_1 written => cases written
  case h_2 written => exact absurd (List.cons.inj written).1 plain
  case h_3 written =>
    obtain ⟨rfl, rfl⟩ := List.cons.inj written
    rfl

/-- Characters other than the percent sign stand for themselves. -/
theorem spells_plain {text : List Char} (plain : '%' ∉ text) : Spells text text := by
  intro rest
  induction text with
  | nil => rfl
  | cons c text ih =>
      obtain ⟨other, below⟩ := not_or.mp (mt List.mem_cons.mpr plain)
      rw [List.cons_append, decodeBytes_cons (Ne.symm other), ih below, List.flatMap_cons,
        List.append_assoc]

theorem decodeBytes_escapeByte (byte : UInt8) (rest : List Char) :
    decodeBytes (escapeByte byte ++ rest) = byte :: decodeBytes rest := by
  have bound : byte.toNat < 256 := byte.toNat_lt
  have high : hexValue? (upperHexDigit (byte.toNat / 16)) = some (byte.toNat / 16) :=
    hexValue?_upperHexDigit (by omega)
  have low : hexValue? (upperHexDigit (byte.toNat % 16)) = some (byte.toNat % 16) :=
    hexValue?_upperHexDigit (by omega)
  have whole : 16 * (byte.toNat / 16) + byte.toNat % 16 = byte.toNat := by omega
  simp only [escapeByte, List.cons_append, List.nil_append, decodeBytes, high, low, whole,
    UInt8.ofNat_toNat]

theorem spells_encodeChar {keep : Char → Bool} (marked : keep '%' = false) (c : Char) :
    Spells (encodeChar keep c) [c] := by
  unfold encodeChar
  split
  case isTrue kept =>
    apply spells_plain
    intro member
    cases List.mem_singleton.mp member
    rw [marked] at kept
    cases kept
  case isFalse =>
    intro rest
    rw [List.flatMap_singleton]
    induction String.utf8EncodeChar c with
    | nil => rfl
    | cons byte bytes ih =>
        rw [List.flatMap_cons, List.append_assoc, decodeBytes_escapeByte, ih, List.cons_append]

/-- The written form of a text stands for it, if the percent sign does not stand for itself. -/
theorem spells_encodeWith {keep : Char → Bool} (marked : keep '%' = false) (text : String) :
    Spells (encodeWith keep text).toList text.toList := by
  rw [encodeWith, String.toList_ofList]
  induction text.toList with
  | nil => exact spells_nil
  | cons c rest ih => exact (spells_encodeChar marked c).append ih

theorem spells_encode (text : String) : Spells (encode text).toList text.toList :=
  spells_encodeWith rfl text

/-- What stands for a text is read as that text. -/
theorem decode?_of_spells {written text : String} (spells : Spells written.toList text.toList) :
    decode? written = some text := by
  have bytes : decodeBytes written.toList = text.toList.flatMap String.utf8EncodeChar := by
    simpa [decodeBytes] using spells []
  have encoded : (⟨(decodeBytes written.toList).toArray⟩ : ByteArray) = text.toByteArray := by
    rw [bytes, ← String.utf8Encode_toList, List.utf8Encode]
    exact ByteArray.ext List.data_toByteArray.symm
  rw [decode?, encoded, String.fromUTF8?, dif_pos text.isValidUTF8]
  rfl

/-- Every character of the written form of a text is unreserved or part of an escape. -/
theorem encode_chars {text : String} {c : Char} (member : c ∈ (encode text).toList) :
    isUnreserved c = true ∨ c = '%' := by
  have digit : ∀ value : Fin 16, isUnreserved (upperHexDigit value) = true := by decide
  rw [encode, encodeWith, String.toList_ofList] at member
  obtain ⟨source, -, written⟩ := List.mem_flatMap.mp member
  unfold encodeChar at written
  split at written
  case isTrue kept =>
    cases List.mem_singleton.mp written
    exact .inl kept
  case isFalse =>
    obtain ⟨byte, -, escaped⟩ := List.mem_flatMap.mp written
    have bound : byte.toNat < 256 := byte.toNat_lt
    simp only [escapeByte, List.mem_cons, List.not_mem_nil, or_false] at escaped
    rcases escaped with rfl | rfl | rfl
    · exact .inr rfl
    · exact .inl (digit ⟨byte.toNat / 16, by omega⟩)
    · exact .inl (digit ⟨byte.toNat % 16, by omega⟩)

/-- A text whose characters all stand for themselves is its own written form. -/
theorem encodeWith_of_kept {keep : Char → Bool} {text : String}
    (kept : ∀ c ∈ text.toList, keep c = true) : encodeWith keep text = text := by
  have same : ∀ chars : List Char, (∀ c ∈ chars, keep c = true) →
      chars.flatMap (encodeChar keep) = chars := by
    intro chars kept
    induction chars with
    | nil => rfl
    | cons c rest ih =>
        rw [List.flatMap_cons, encodeChar, if_pos (kept c (by simp)),
          ih fun other member => kept other (by simp [member])]
        rfl
  rw [encodeWith, same _ kept, String.ofList_toList]

end Percent

end Wayfinder.Text
