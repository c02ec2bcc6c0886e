import Wayfinder.Proofs.Path
import Wayfinder.Proofs.Text.PercentRoundTrip
import Wayfinder.Workspace.Fault

/-!
# Addresses as an encoding of locations

An address is made of segments between slashes, of which every second one is an encoded name. Since an
encoded name holds no slash, the segments show the names; since the escapes are read back, they show
them exactly; and since a name is not empty and no relative segment, neither is its written form.
-/

namespace Wayfinder

namespace Text.Percent

/-- The characters of an address: unreserved characters, slashes, and escapes of two digits. -/
inductive IsWritten : List Char → Prop where
  | nil : IsWritten []
  | kept {c : Char} {rest : List Char} (plain : isUnreserved c = true ∨ c = '/')
      (behind : IsWritten rest) : IsWritten (c :: rest)
  | escape {high low : Char} {rest : List Char} (upper : (hexValue? high).isSome)
      (lower : (hexValue? low).isSome) (behind : IsWritten rest) :
      IsWritten ('%' :: high :: low :: rest)

theorem IsWritten.append {left right : List Char} (first : IsWritten left) (second : IsWritten right) :
    IsWritten (left ++ right) := by
  induction first with
  | nil => exact second
  | kept plain _ ih => exact .kept plain ih
  | escape upper lower _ ih => exact .escape upper lower ih

theorem isWritten_of_kept {text : List Char}
    (plain : (text.all fun c => isUnreserved c || c == '/') = true) : IsWritten text := by
  induction text with
  | nil => exact .nil
  | cons c text ih =>
      rw [List.all_cons, Bool.and_eq_true, Bool.or_eq_true, beq_iff_eq] at plain
      exact .kept plain.1 (ih plain.2)

theorem isWritten_escapeByte (byte : UInt8) : IsWritten (escapeByte byte) := by
  have bound : byte.toNat < 256 := byte.toNat_lt
  apply IsWritten.escape
  · rw [hexValue?_upperHexDigit (by omega)]
    rfl
  · rw [hexValue?_upperHexDigit (by omega)]
    rfl
  · exact .nil

theorem isWritten_flatMap {α : Type} {written : α → List Char} {elements : List α}
    (each : ∀ element ∈ elements, IsWritten (written element)) :
    IsWritten (elements.flatMap written) := by
  induction elements with
  | nil => exact .nil
  | cons element elements ih =>
      exact (each element List.mem_cons_self).append
        (ih fun other later => each other (List.mem_cons_of_mem _ later))

theorem isWritten_encode (text : String) : IsWritten (encode text).toList := by
  rw [encode, encodeWith, String.toList_ofList]
  apply isWritten_flatMap
  intro c _
  unfold encodeChar
  split
  case isTrue plain => exact .kept (.inl plain) .nil
  case isFalse => exact isWritten_flatMap fun byte _ => isWritten_escapeByte byte

/-- The written form of a text is read as the text. -/
theorem decode?_encode (text : String) : decode? (encode text) = some text :=
  decode?_of_spells (spells_encode text)

theorem encode_inj {left right : String} : encode left = encode right ↔ left = right := by
  constructor
  · intro same
    have read := decode?_encode left
    rw [same, decode?_encode right] at read
    exact (Option.some.inj read).symm
  · rintro rfl
    rfl

theorem separator_not_mem_encode (text : String) : '/' ∉ (encode text).toList := by
  intro member
  rcases encode_chars member with plain | escape
  · cases plain
  · cases escape

theorem spells_slash : Spells "/".toList "/".toList :=
  spells_plain (by decide)

theorem spells_flatMap {α : Type} {written text : α → List Char} {elements : List α}
    (spells : ∀ element ∈ elements, Spells (written element) (text element)) :
    Spells (elements.flatMap written) (elements.flatMap text) := by
  induction elements with
  | nil => exact spells_nil
  | cons element elements ih =>
      exact (spells element List.mem_cons_self).append
        (ih fun other later => spells other (List.mem_cons_of_mem _ later))

/-- What follows a written form is read as what follows the text. -/
theorem Spells.behind {written text front : List Char} (spells : Spells front front)
    (whole : Spells (front ++ written) (front ++ text)) : Spells written text := by
  intro rest
  have read := whole rest
  rw [List.append_assoc, spells, List.flatMap_append, List.append_assoc] at read
  exact List.append_cancel_left read

end Text.Percent

namespace Path

open Text.Percent

/-- The segments of a text: what stands between its slashes. -/
def segments (text : String) : List String :=
  (split '/' text.toList).map String.ofList

theorem segments_append {front : String} (free : '/' ∉ front.toList) (rest : String) :
    segments (front ++ "/" ++ rest) = front :: segments rest := by
  have slash : "/".toList = ['/'] := rfl
  rw [segments, String.toList_append, String.toList_append, slash, List.append_assoc,
    List.singleton_append, split_append free, List.map_cons, String.ofList_toList]
  rfl

/-- The names of a location are the segments of its full name. -/
theorem segments_ofNames {names : List String} (nonempty : names ≠ [])
    (free : ∀ name ∈ names, IsSegment name) : segments (ofNames names) = names := by
  rw [segments, ofNames, toList_join,
    split_intercalate (by simpa using nonempty) (separator_not_mem_segments free), List.map_map]
  simp [Function.comp_def]

theorem itemAddress_cons (name : String) (names : List String) : itemAddress (name :: names) =
    "job" ++ "/" ++ (encode name ++ "/" ++ itemAddress names) := by
  apply String.toList_inj.mp
  simp [itemAddress, String.toList_join]

theorem toList_itemAddress (names : List String) : (itemAddress names).toList =
    names.flatMap fun name => "job/".toList ++ (encode name).toList ++ "/".toList := by
  simp [itemAddress, String.toList_join, List.flatMap_map]

theorem segments_itemAddress (names : List String) :
    segments (itemAddress names) = names.flatMap (fun name => ["job", encode name]) ++ [""] := by
  induction names with
  | nil => rfl
  | cons name names ih =>
      rw [itemAddress_cons, segments_append (by decide), segments_append (separator_not_mem_encode name),
        ih]
      rfl

theorem segments_viewAddress (name : String) :
    segments (viewAddress name) = ["view", encode name] ++ [""] := by
  have parts : viewAddress name = "view" ++ "/" ++ (encode name ++ "/" ++ "") := by
    apply String.toList_inj.mp
    simp [viewAddress]
  rw [parts, segments_append (by decide), segments_append (separator_not_mem_encode name)]
  rfl

/-- A text that stands for something other than nothing and the relative segments. -/
def IsPlain (segment : String) : Prop :=
  ∃ text, decode? segment = some text ∧ text ≠ "" ∧ text ≠ "." ∧ text ≠ ".."

/-- The segments that a reference leads to from given ones, of which the last is in front: a single
dot stands for nothing, and two dots take back the segment before them. A dot counts as one if it is
escaped, too. At the end of a reference they leave an empty segment. -/
def resolve (passed : List String) : List String → List String
  | [] => passed.reverse
  | segment :: rest =>
    if decode? segment = some "." then
      if rest = [] then ("" :: passed).reverse else resolve passed rest
    else if decode? segment = some ".." then
      if rest = [] then ("" :: passed.drop 1).reverse else resolve (passed.drop 1) rest
    else resolve (segment :: passed) rest

/-- Resolving a reference without relative segments leaves it as it is. -/
theorem resolve_of_plain {segments : List String} (passed : List String)
    (plain : ∀ segment ∈ segments, IsPlain segment) :
    resolve passed (segments ++ [""]) = passed.reverse ++ (segments ++ [""]) := by
  induction segments generalizing passed with
  | nil =>
      have nothing : decode? "" = some "" := decode?_encode ""
      simp [resolve, nothing]
  | cons segment segments ih =>
      obtain ⟨text, read, -, single, double⟩ := plain segment List.mem_cons_self
      rw [List.cons_append, resolve, read, if_neg (by simpa using single),
        if_neg (by simpa using double), ih _ fun other later => plain other (by simp [later])]
      simp

theorem isPlain_encode (name : Name) : IsPlain (encode name.text) := by
  have sound := name.sound
  refine ⟨name.text, decode?_encode name.text, name.text_ne_empty, ?_, ?_⟩ <;>
    intro relative <;> rw [relative] at sound <;> cases sound

theorem isPlain_of_kept {marker : String} (kept : encode marker = marker) (some : marker ≠ "")
    (single : marker ≠ ".") (double : marker ≠ "..") : IsPlain marker :=
  ⟨marker, by rw [← decode?_encode marker, kept], some, single, double⟩

/-- What an address is made of, so that a client neither changes it nor has to. -/
structure IsStable (address : String) : Prop where
  written : IsWritten address.toList
  segments : ∃ parts, segments address = parts ++ [""] ∧
    ∀ segment ∈ parts, IsPlain segment ∧ segment ≠ "" ∧ segment ≠ "." ∧ segment ≠ ".."
  resolved : ∀ base, resolve base (Path.segments address) = base.reverse ++ Path.segments address

theorem IsPlain.ne {segment : String} (plain : IsPlain segment) :
    segment ≠ "" ∧ segment ≠ "." ∧ segment ≠ ".." := by
  obtain ⟨text, read, some, single, double⟩ := plain
  have same {dots : String} (kept : encode dots = dots) (equal : segment = dots) : text = dots := by
    have read' := decode?_encode dots
    rw [kept, ← equal, read] at read'
    exact (Option.some.inj read').trans equal
  exact ⟨fun equal => some (same rfl equal), fun equal => single (same (by decide) equal),
    fun equal => double (same (by decide) equal)⟩

theorem isStable_of_segments {address : String} {parts : List String}
    (written : IsWritten address.toList) (split : segments address = parts ++ [""])
    (plain : ∀ segment ∈ parts, IsPlain segment) : IsStable address where
  written := written
  segments := ⟨parts, split, fun segment member => ⟨plain segment member, (plain segment member).ne⟩⟩
  resolved base := by rw [split, resolve_of_plain base plain]

theorem isStable_itemAddress (names : List Name) : IsStable (itemAddress (names.map Name.text)) := by
  have marker : IsWritten "job/".toList := isWritten_of_kept (by decide)
  have slash : IsWritten "/".toList := isWritten_of_kept (by decide)
  apply isStable_of_segments _ (segments_itemAddress _)
  · intro segment member
    obtain ⟨text, listed, here⟩ := List.mem_flatMap.mp member
    obtain ⟨name, -, rfl⟩ := List.mem_map.mp listed
    simp only [List.mem_cons, List.not_mem_nil, or_false] at here
    rcases here with rfl | rfl
    · exact isPlain_of_kept (by decide) (by decide) (by decide) (by decide)
    · exact isPlain_encode name
  · rw [toList_itemAddress]
    exact isWritten_flatMap fun name _ => (marker.append (isWritten_encode name)).append slash

theorem isStable_viewAddress (name : Name) : IsStable (viewAddress name.text) := by
  have marker : IsWritten "view/".toList := isWritten_of_kept (by decide)
  have slash : IsWritten "/".toList := isWritten_of_kept (by decide)
  apply isStable_of_segments _ (segments_viewAddress _)
  · intro segment member
    simp only [List.mem_cons, List.not_mem_nil, or_false] at member
    rcases member with rfl | rfl
    · exact isPlain_of_kept (by decide) (by decide) (by decide) (by decide)
    · exact isPlain_encode name
  · rw [viewAddress, String.toList_append, String.toList_append]
    exact (marker.append (isWritten_encode _)).append slash

theorem spells_job : Spells "job/".toList "job/".toList :=
  spells_plain (by decide)

/-- The address of an item is written for the path that is read as its full name. -/
theorem spells_itemAddress {names : List String} (nonempty : names ≠ []) :
    Spells (itemAddress names).toList ("job/".toList ++ (jobPath names).toList) := by
  rw [toList_itemAddress, toList_jobPath nonempty]
  exact spells_flatMap fun name _ => (spells_job.append (spells_encode name)).append spells_slash

theorem exists_jobPath {names : List String} (nonempty : names ≠ []) :
    ∃ rest, itemAddress names = "job/" ++ rest ∧ decode? rest = some (jobPath names) := by
  have whole := spells_itemAddress nonempty
  cases names with
  | nil => exact absurd rfl nonempty
  | cons name names =>
      have parts : itemAddress (name :: names) =
          "job/" ++ (encode name ++ "/" ++ itemAddress names) := by
        rw [itemAddress_cons]
        apply String.toList_inj.mp
        simp
      rw [parts, String.toList_append] at whole
      exact ⟨_, parts, decode?_of_spells (spells_job.behind whole)⟩

/-- An item's address leads back to the names along its location. -/
structure ReadsBack (names : List String) : Prop where
  decoded : ∃ rest path, itemAddress names = "job/" ++ rest ∧ decode? rest = some path ∧
    Workspace.fullNameOfJobPath path = .ok (ofNames names)
  listed : segments (ofNames names) = names

theorem readsBack {names : List String} (nonempty : names ≠ [])
    (free : ∀ name ∈ names, IsSegment name) : ReadsBack names where
  decoded := by
    obtain ⟨rest, address, decoded⟩ := exists_jobPath nonempty
    refine ⟨rest, jobPath names, address, decoded, ?_⟩
    rw [Workspace.fullNameOfJobPath, ofJobPath?_jobPath nonempty free]
  listed := segments_ofNames nonempty free

/-- So different locations have different addresses. -/
theorem ReadsBack.eq {left right : List String} (first : ReadsBack left) (second : ReadsBack right)
    (same : itemAddress left = itemAddress right) : left = right := by
  obtain ⟨rest, path, address, decoded, read⟩ := first.decoded
  obtain ⟨rest', path', address', decoded', read'⟩ := second.decoded
  have behind : rest = rest' := by
    rw [address, address'] at same
    exact (String.append_right_inj _).mp same
  rw [← behind, decoded] at decoded'
  cases decoded'
  rw [read] at read'
  rw [← first.listed, Except.ok.inj read', second.listed]

theorem viewAddress_inj {left right : String} : viewAddress left = viewAddress right ↔ left = right := by
  constructor
  · intro same
    have parts := congrArg segments same
    rw [segments_viewAddress, segments_viewAddress] at parts
    simpa [encode_inj] using parts
  · rintro rfl
    rfl

/-- The first segment tells what an address is of. -/
theorem itemAddress_ne_viewAddress (names : List String) (name : String) :
    itemAddress names ≠ viewAddress name := by
  intro same
  have parts := congrArg segments same
  rw [segments_itemAddress, segments_viewAddress] at parts
  cases names <;> simp at parts

end Path

end Wayfinder
