import Mathlib.Data.List.Basic
import Mathlib.Data.List.TakeWhile
import Wayfinder.Path

/-!
# Reading locations back

A list of names is read back from the full name that lists it, and from the part of an address behind
its first `job/`: names hold no slash, so the slashes show where they begin and end.
-/

namespace Wayfinder

namespace Text

/-- What stands between ends that are kept is kept, and what is behind it to be dropped is dropped. -/
theorem stripWhere_append {α : Type} {drop : α → Bool} {kept tail : List α}
    (head : ∀ element ∈ kept.head?, drop element = false)
    (last : ∀ element ∈ kept.getLast?, drop element = false)
    (dropped : ∀ element ∈ tail, drop element = true) : stripWhere drop (kept ++ tail) = kept := by
  cases kept with
  | nil =>
      have nothing : tail.dropWhile drop = [] := List.dropWhile_eq_nil_iff.mpr dropped
      simp [stripWhere, nothing]
  | cons first rest =>
      have front : (first :: rest ++ tail).dropWhile drop = first :: rest ++ tail := by
        rw [List.cons_append, List.dropWhile_cons_of_neg (by simpa using head)]
      have back : (tail.reverse ++ (first :: rest).reverse).dropWhile drop =
          (first :: rest).reverse := by
        rw [List.dropWhile_append_of_pos (by simpa using dropped)]
        cases reversed : (first :: rest).reverse with
        | nil => rfl
        | cons final others =>
            apply List.dropWhile_cons_of_neg
            have ends : (first :: rest).getLast? = some final := by
              rw [List.getLast?_eq_head?_reverse, reversed]
              rfl
            simpa using last final ends
      rw [stripWhere, front, List.reverse_append, back, List.reverse_reverse]

end Text

namespace Path

section Split

variable {α : Type} [DecidableEq α] {separator : α}

theorem split_of_not_mem {part : List α} (free : separator ∉ part) :
    split separator part = [part] := by
  induction part with
  | nil => rfl
  | cons c part ih =>
      rw [List.mem_cons, not_or] at free
      rw [split, if_neg (Ne.symm free.1), ih free.2]

theorem split_append {part : List α} (free : separator ∉ part) (rest : List α) :
    split separator (part ++ separator :: rest) = part :: split separator rest := by
  induction part with
  | nil => simp [split]
  | cons c part ih =>
      rw [List.mem_cons, not_or] at free
      rw [List.cons_append, split, if_neg (Ne.symm free.1), ih free.2]

/-- A separator splits what is before it from what is behind it. -/
theorem split_append_cons (left right : List α) :
    split separator (left ++ separator :: right) = split separator left ++ split separator right := by
  induction left with
  | nil => simp [split]
  | cons c left ih =>
      rw [List.cons_append, split, split, ih]
      by_cases ends : c = separator
      · rw [if_pos ends, if_pos ends, List.cons_append]
      · rw [if_neg ends, if_neg ends]
        cases parts : split separator left with
        | nil => exact absurd parts (split_ne_nil separator left)
        | cons part parts => rfl

omit [DecidableEq α] in
theorem intercalate_cons (first second : List α) (rest : List (List α)) :
    List.intercalate [separator] (first :: second :: rest) =
      first ++ separator :: List.intercalate [separator] (second :: rest) := by
  simp [List.intercalate]

/-- Parts without the separator are read back from the list that has it between them. -/
theorem split_intercalate {parts : List (List α)} (nonempty : parts ≠ [])
    (free : ∀ part ∈ parts, separator ∉ part) :
    split separator (List.intercalate [separator] parts) = parts := by
  induction parts with
  | nil => exact absurd rfl nonempty
  | cons first parts ih =>
      cases parts with
      | nil => simpa [List.intercalate] using split_of_not_mem (free first (by simp))
      | cons second rest =>
          rw [intercalate_cons, split_append (free first (by simp)),
            ih (by simp) fun part member => free part (by simp [member])]

/-- A list is made again of the parts between its separators. -/
theorem intercalate_split (elements : List α) :
    List.intercalate [separator] (split separator elements) = elements := by
  induction elements with
  | nil => rfl
  | cons c rest ih =>
      rw [split]
      cases parts : split separator rest with
      | nil => exact absurd parts (split_ne_nil separator rest)
      | cons part parts' =>
          rw [parts] at ih
          by_cases ends : c = separator
          · rw [if_pos ends, intercalate_cons, ih, List.nil_append, ends]
          · rw [if_neg ends]
            cases parts' with
            | nil => simpa [List.intercalate] using ih
            | cons second others =>
                rw [intercalate_cons] at ih ⊢
                rw [List.cons_append, ih]

omit [DecidableEq α] in
/-- Two lists of parts, one behind the other. -/
theorem intercalate_append {left right : List (List α)} (first : left ≠ []) (second : right ≠ []) :
    List.intercalate [separator] (left ++ right) =
      List.intercalate [separator] left ++ separator :: List.intercalate [separator] right := by
  induction left with
  | nil => exact absurd rfl first
  | cons part left ih =>
      cases left with
      | nil =>
          cases right with
          | nil => exact absurd rfl second
          | cons next right =>
              rw [List.singleton_append, intercalate_cons]
              simp [List.intercalate]
      | cons next left =>
          have rest := ih (by simp)
          rw [List.cons_append] at rest
          rw [List.cons_append, List.cons_append, intercalate_cons, rest, intercalate_cons,
            List.append_assoc, List.cons_append]

omit [DecidableEq α] in
/-- A list with separators between parts that are not empty does not begin with one. -/
theorem ne_of_mem_head? {parts : List (List α)} (full : ∀ part ∈ parts, part ≠ [])
    (free : ∀ part ∈ parts, separator ∉ part) {c : α}
    (head : c ∈ (List.intercalate [separator] parts).head?) : c ≠ separator := by
  rintro rfl
  cases parts with
  | nil => simp at head
  | cons first parts =>
      have inside : c ∈ first.head? := by
        cases parts with
        | nil => simpa [List.intercalate] using head
        | cons second rest =>
            rwa [intercalate_cons, List.head?_append_of_ne_nil _ (full first (by simp))] at head
      exact free first (by simp) (List.mem_of_mem_head? inside)

omit [DecidableEq α] in
/-- A list with separators between parts that are not empty does not end in one. -/
theorem ne_of_mem_getLast? {parts : List (List α)} (full : ∀ part ∈ parts, part ≠ [])
    (free : ∀ part ∈ parts, separator ∉ part) {c : α}
    (last : c ∈ (List.intercalate [separator] parts).getLast?) : c ≠ separator := by
  rintro rfl
  induction parts with
  | nil => simp at last
  | cons first parts ih =>
      cases parts with
      | nil =>
          have inside : c ∈ first.getLast? := by simpa [List.intercalate] using last
          exact free first (by simp) (List.mem_of_mem_getLast? inside)
      | cons second rest =>
          have some : List.intercalate [c] (second :: rest) ≠ [] := by
            have inside := full second (by simp)
            cases rest <;> simp [List.intercalate, inside]
          rw [intercalate_cons, List.getLast?_append_cons, List.getLast?_cons_of_ne_nil some] at last
          exact ih (fun part member => full part (by simp [member]))
            (fun part member => free part (by simp [member])) last

end Split

/-- A text that can stand between two slashes: not empty, and without a slash itself. -/
def IsSegment (text : String) : Prop :=
  text ≠ "" ∧ '/' ∉ text.toList

theorem IsSegment.toList_ne_nil {text : String} (segment : IsSegment text) : text.toList ≠ [] := by
  intro empty
  exact segment.1 (String.toList_inj.mp empty)

theorem toList_join (parts : List String) :
    (join "/" parts).toList = List.intercalate ['/'] (parts.map String.toList) := by
  rw [join, String.toList_ofList]
  rfl

section Join

variable {parts : List String} (segments : ∀ part ∈ parts, IsSegment part)

include segments

theorem separator_not_mem_segments : ∀ part ∈ parts.map String.toList, '/' ∉ part := by
  intro part member
  obtain ⟨text, listed, rfl⟩ := List.mem_map.mp member
  exact (segments text listed).2

/-- Slashes behind a location do not count. -/
theorem trim_join (tail : List Char) (slashes : ∀ c ∈ tail, c = '/') :
    trim (String.ofList ((join "/" parts).toList ++ tail)) = join "/" parts := by
  have full : ∀ part ∈ parts.map String.toList, part ≠ [] := by
    intro part member
    obtain ⟨text, listed, rfl⟩ := List.mem_map.mp member
    exact (segments text listed).toList_ne_nil
  have free := separator_not_mem_segments segments
  have stripped : Text.stripWhere (· == '/') ((join "/" parts).toList ++ tail) =
      (join "/" parts).toList := by
    refine Text.stripWhere_append ?_ ?_ ?_
    · intro c head
      rw [toList_join] at head
      simpa using ne_of_mem_head? full free head
    · intro c last
      rw [toList_join] at last
      simpa using ne_of_mem_getLast? full free last
    · intro c member
      simpa using slashes c member
  rw [trim, String.toList_ofList, stripped, String.ofList_toList]

/-- The names between slashes are read back, with or without slashes behind them. -/
theorem names_join (nonempty : parts ≠ []) (tail : List Char) (slashes : ∀ c ∈ tail, c = '/') :
    names (String.ofList ((join "/" parts).toList ++ tail)) = parts := by
  have free := separator_not_mem_segments segments
  rw [names, trim_join segments tail slashes, toList_join,
    split_intercalate (by simpa using nonempty) free, List.map_map]
  simp [Function.comp_def]

theorem names_ofNames (nonempty : parts ≠ []) : names (ofNames parts) = parts := by
  have read := names_join segments nonempty [] (by simp)
  rwa [List.append_nil, String.ofList_toList] at read

end Join

theorem ofNames_inj {left right : List String} (leftSegments : ∀ part ∈ left, IsSegment part)
    (rightSegments : ∀ part ∈ right, IsSegment part) (leftSome : left ≠ []) (rightSome : right ≠ [])
    (same : ofNames left = ofNames right) : left = right := by
  rw [← names_ofNames leftSegments leftSome, same, names_ofNames rightSegments rightSome]

/-- The names that a full name lists make it again, without the slashes at its ends. -/
theorem ofNames_names (fullName : String) : ofNames (names fullName) = trim fullName := by
  apply String.toList_inj.mp
  rw [ofNames, toList_join, names, List.map_map]
  have same : String.toList ∘ String.ofList = id := by
    funext chars
    exact String.toList_ofList
  rw [same, List.map_id, intercalate_split]

theorem names_ne_nil (fullName : String) : names fullName ≠ [] := by
  rw [names, ne_eq, List.map_eq_nil_iff]
  exact split_ne_nil _ _

theorem names_of_segment {name : String} (segment : IsSegment name) : names name = [name] := by
  have single : ofNames [name] = name :=
    String.toList_inj.mp (by simp [ofNames, join, List.intercalate])
  have read : names (ofNames [name]) = [name] := names_ofNames (by simpa using segment) (by simp)
  rwa [single] at read

/-- A name behind a full name is one more name. -/
theorem ofNames_child (fullName name : String) :
    ofNames (names fullName ++ [name]) = trim fullName ++ "/" ++ name := by
  apply String.toList_inj.mp
  rw [← ofNames_names, ofNames, ofNames, toList_join, List.map_append,
    intercalate_append (by simpa using names_ne_nil fullName) (by simp), ← toList_join]
  simp [List.intercalate]

/-- A name behind a full name is read as one more name. -/
theorem names_child {fullName name : String} (segments : ∀ part ∈ names fullName, IsSegment part)
    (segment : IsSegment name) : names (trim fullName ++ "/" ++ name) = names fullName ++ [name] := by
  have parts : ∀ part ∈ names fullName ++ [name], IsSegment part := by
    intro part member
    rcases List.mem_append.mp member with higher | lowest
    · exact segments part higher
    · rwa [List.mem_singleton.mp lowest]
  rw [← ofNames_child, names_ofNames parts (by simp)]

/-- Whether a full name is a given one, or begins with it and a slash. -/
def isWithin (outer inner : String) : Bool :=
  inner == outer || (outer ++ "/").toList.isPrefixOf inner.toList

/-- A full name is within another if and only if its names go on from those of the other. -/
theorem isWithin_ofNames {outer inner : List String} (outerSegments : ∀ part ∈ outer, IsSegment part)
    (innerSegments : ∀ part ∈ inner, IsSegment part) (outerSome : outer ≠ []) (innerSome : inner ≠ []) :
    isWithin (ofNames outer) (ofNames inner) = true ↔ outer <+: inner := by
  have outerFree := separator_not_mem_segments outerSegments
  have innerFree := separator_not_mem_segments innerSegments
  rw [isWithin, Bool.or_eq_true, beq_iff_eq, List.isPrefixOf_iff_prefix, String.toList_append]
  constructor
  · rintro (same | ⟨tail, same⟩)
    · cases ofNames_inj innerSegments outerSegments innerSome outerSome same
      exact List.prefix_rfl
    · have chars : (ofNames outer).toList ++ '/' :: tail = (ofNames inner).toList := by
        rw [← same, List.append_assoc]
        rfl
      have parts := congrArg (split '/') chars
      rw [split_append_cons, ofNames, ofNames, toList_join, toList_join,
        split_intercalate (by simpa using outerSome) outerFree,
        split_intercalate (by simpa using innerSome) innerFree] at parts
      exact (List.prefix_map_iff_of_injective fun _ _ same => String.toList_inj.mp same).mp ⟨_, parts⟩
  · rintro ⟨rest, rfl⟩
    cases rest with
    | nil => exact .inl (by rw [List.append_nil])
    | cons name rest =>
        right
        rw [ofNames, ofNames, toList_join, toList_join, List.map_append,
          intercalate_append (by simpa using outerSome) (by simp)]
        exact ⟨_, List.append_assoc ..⟩

/-- Names with a `job` marker between each two of them. -/
def marked : List String → List String
  | [] => []
  | [name] => [name]
  | name :: next :: rest => name :: "job" :: marked (next :: rest)

@[simp] theorem dropMarkers_marked {names : List String} (nonempty : names ≠ []) :
    dropMarkers (marked names) = some names := by
  induction names with
  | nil => exact absurd rfl nonempty
  | cons name rest ih =>
      cases rest with
      | nil => rfl
      | cons next rest => rw [marked, dropMarkers, if_pos rfl, ih (by simp), Option.map_some]

theorem mem_marked {names : List String} {part : String} (member : part ∈ marked names) :
    part ∈ names ∨ part = "job" := by
  induction names with
  | nil => cases member
  | cons name rest ih =>
      cases rest with
      | nil => exact .inl member
      | cons next rest =>
          rw [marked, List.mem_cons, List.mem_cons] at member
          rcases member with rfl | rfl | deeper
          · exact .inl (by simp)
          · exact .inr rfl
          · rcases ih deeper with below | marker
            · exact .inl (List.mem_cons_of_mem _ below)
            · exact .inr marker

/-- The part of an item's decoded address behind its first `job/`. -/
def jobPath (names : List String) : String :=
  join "/" (marked names) ++ "/"

/-- That part is read as the full name of the item. -/
theorem ofJobPath?_jobPath {names : List String} (nonempty : names ≠ [])
    (segments : ∀ name ∈ names, IsSegment name) :
    ofJobPath? (jobPath names) = some (ofNames names) := by
  have parts : ∀ part ∈ marked names, IsSegment part := by
    intro part member
    rcases mem_marked member with named | rfl
    · exact segments part named
    · exact ⟨by decide, by decide⟩
  have some : marked names ≠ [] := by
    cases names with
    | nil => exact absurd rfl nonempty
    | cons name rest => cases rest <;> simp [marked]
  have text : jobPath names = String.ofList ((join "/" (marked names)).toList ++ ['/']) :=
    String.toList_inj.mp (by simp [jobPath])
  have read : Path.names (jobPath names) = marked names := by
    rw [text, names_join parts some ['/'] (by simp)]
  rw [ofJobPath?, read]
  cases marks : marked names with
  | nil => exact absurd marks some
  | cons first rest =>
      have full : first ≠ "" := (parts first (by simp [marks])).1
      simp only [full, if_false]
      rw [← marks, dropMarkers_marked nonempty, Option.map_some]

/-- The texts in front of the names of an item's decoded address, the names, and what is behind them. -/
theorem toList_jobPath {names : List String} (nonempty : names ≠ []) :
    "job/".toList ++ (jobPath names).toList =
      names.flatMap fun name => "job/".toList ++ name.toList ++ "/".toList := by
  induction names with
  | nil => exact absurd rfl nonempty
  | cons name rest ih =>
      cases rest with
      | nil => simp [jobPath, marked, join, List.intercalate]
      | cons next rest =>
          have marker : "job".toList ++ ['/'] = "job/".toList := rfl
          rw [List.flatMap_cons, ← ih (by simp)]
          cases below : marked (next :: rest) with
          | nil => cases rest <;> simp [marked] at below
          | cons first others =>
              simp [jobPath, marked, join, below, ← marker]

end Path

end Wayfinder
