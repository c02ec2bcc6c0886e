import Wayfinder.Proofs.Path

/-!
# The grammar of item paths

What stands behind the first `job/` of an item's address are the names down to the item with `/job/`
between each two of them, and slashes at the ends do not count. A path is read if and only if it is of
this form, and it is in one way only, although a name may itself be `job` and a name in the middle may
be empty: names hold no slash, so the slashes tell where each of them ends, and every second part between
slashes is a marker.
-/

namespace Wayfinder

namespace Text

variable {α : Type} {drop : α → Bool}

/-- What surrounds a list and is to be dropped makes no difference. -/
theorem stripWhere_surrounded {front behind : List α} (before : ∀ element ∈ front, drop element = true)
    (after : ∀ element ∈ behind, drop element = true) (elements : List α) :
    stripWhere drop (front ++ elements ++ behind) = stripWhere drop elements := by
  rw [stripWhere, List.append_assoc, List.dropWhile_append_of_pos before, List.dropWhile_append]
  split
  case isTrue nothing =>
    rw [List.dropWhile_eq_nil_iff.mpr after, stripWhere, List.isEmpty_iff.mp nothing]
  case isFalse =>
    have reversed : ∀ element ∈ behind.reverse, drop element = true := by simpa using after
    rw [List.reverse_append, List.dropWhile_append_of_pos reversed, stripWhere]

/-- A list is what is left of it, surrounded by what is dropped. -/
theorem exists_surrounding (drop : α → Bool) (elements : List α) : ∃ front behind,
    elements = front ++ stripWhere drop elements ++ behind ∧
      (∀ element ∈ front, drop element = true) ∧ ∀ element ∈ behind, drop element = true := by
  let kept := elements.dropWhile drop
  refine ⟨elements.takeWhile drop, (kept.reverse.takeWhile drop).reverse, ?_, ?_, ?_⟩
  · have ends : stripWhere drop elements ++ (kept.reverse.takeWhile drop).reverse = kept := by
      rw [stripWhere, ← List.reverse_append, List.takeWhile_append_dropWhile, List.reverse_reverse]
    rw [List.append_assoc, ends, List.takeWhile_append_dropWhile]
  · exact fun element member => List.all_eq_true.mp List.all_takeWhile element member
  · intro element member
    exact List.all_eq_true.mp List.all_takeWhile element (List.mem_reverse.mp member)

/-- What is left does not end in something to be dropped. -/
theorem kept_of_mem_getLast? (drop : α → Bool) {elements : List α} {element : α}
    (last : element ∈ (stripWhere drop elements).getLast?) : drop element = false := by
  rw [stripWhere, List.getLast?_reverse] at last
  have first := List.head?_dropWhile_not drop (elements.dropWhile drop).reverse
  rw [last] at first
  exact first

/-- What is left does not begin with something to be dropped. -/
theorem kept_of_mem_head? (drop : α → Bool) {elements : List α} {element : α}
    (head : element ∈ (stripWhere drop elements).head?) : drop element = false := by
  have begins : stripWhere drop elements <+: elements.dropWhile drop := by
    rw [← List.reverse_suffix, stripWhere, List.reverse_reverse]
    exact List.dropWhile_suffix drop
  obtain ⟨rest, parts⟩ := begins
  have first := List.head?_dropWhile_not drop elements
  rw [← parts, List.head?_append, head] at first
  exact first

end Text

namespace Path

/-- A text with so many slashes before it and behind it. -/
def padded (before behind : Nat) (text : String) : String :=
  String.ofList (List.replicate before '/' ++ text.toList ++ List.replicate behind '/')

@[simp] theorem trim_padded (before behind : Nat) (text : String) :
    trim (padded before behind text) = trim text := by
  have slashes (count : Nat) : ∀ c ∈ List.replicate count '/', (c == '/') = true := by
    intro c member
    exact beq_iff_eq.mpr (List.eq_of_mem_replicate member)
  rw [trim, padded, String.toList_ofList,
    Text.stripWhere_surrounded (slashes before) (slashes behind), trim]

/-- A text is what it is without the slashes at its ends, and those slashes. -/
theorem exists_padded (text : String) : ∃ before behind, text = padded before behind (trim text) := by
  obtain ⟨front, tail, parts, slashes, slashes'⟩ := Text.exists_surrounding (· == '/') text.toList
  have replicated {chars : List Char} (only : ∀ c ∈ chars, (c == '/') = true) :
      chars = List.replicate chars.length '/' :=
    List.eq_replicate_iff.mpr ⟨rfl, fun c member => beq_iff_eq.mp (only c member)⟩
  refine ⟨front.length, tail.length, String.toList_inj.mp ?_⟩
  rw [padded, trim, String.toList_ofList, String.toList_ofList, ← replicated slashes,
    ← replicated slashes', ← parts]

/-- Texts that differ at most by the slashes at their ends. -/
def SameWithinSlashes (left right : String) : Prop :=
  ∃ text before behind before' behind', left = padded before behind text ∧
    right = padded before' behind' text

theorem sameWithinSlashes_iff {left right : String} :
    SameWithinSlashes left right ↔ trim left = trim right := by
  constructor
  · rintro ⟨text, before, behind, before', behind', rfl, rfl⟩
    rw [trim_padded, trim_padded]
  · intro same
    obtain ⟨before, behind, parts⟩ := exists_padded left
    obtain ⟨before', behind', parts'⟩ := exists_padded right
    exact ⟨trim left, before, behind, before', behind', parts, same ▸ parts'⟩

/-- A part between separators holds none. -/
theorem not_mem_of_mem_split {α : Type} [DecidableEq α] {separator : α} {elements part : List α}
    (member : part ∈ split separator elements) : separator ∉ part := by
  induction elements generalizing part with
  | nil =>
      rw [split, List.mem_singleton] at member
      simp [member]
  | cons c rest ih =>
      rw [split] at member
      split at member
      case isTrue =>
        rcases List.mem_cons.mp member with rfl | later
        · simp
        · exact ih later
      case isFalse other =>
        split at member
        case h_1 empty => exact absurd empty (split_ne_nil separator rest)
        case h_2 first parts found =>
          rw [found] at ih
          rcases List.mem_cons.mp member with rfl | later
          · have inside := ih (List.mem_cons_self)
            simp [inside, Ne.symm other]
          · exact ih (List.mem_cons_of_mem _ later)

section Names

variable {names others : List String} (nonempty : names ≠ [])
  (free : ∀ name ∈ names, '/' ∉ name.toList)

include nonempty free

/-- Names without a slash are read back from the text that has slashes between them. -/
theorem split_join : (split '/' (join "/" names).toList).map String.ofList = names := by
  have parts : ∀ part ∈ names.map String.toList, '/' ∉ part := by
    intro part member
    obtain ⟨name, listed, rfl⟩ := List.mem_map.mp member
    exact free name listed
  rw [toList_join, split_intercalate (by simpa using nonempty) parts, List.map_map]
  simp [Function.comp_def]

theorem join_inj (others_ne : others ≠ []) (others_free : ∀ name ∈ others, '/' ∉ name.toList)
    (same : join "/" names = join "/" others) : names = others := by
  rw [← split_join nonempty free, same, split_join others_ne others_free]

end Names

theorem marked_ne_nil {names : List String} (nonempty : names ≠ []) : marked names ≠ [] := by
  cases names with
  | nil => exact absurd rfl nonempty
  | cons name rest => cases rest <;> simp [marked]

theorem mem_marked_of_mem {names : List String} {name : String} (member : name ∈ names) :
    name ∈ marked names := by
  induction names with
  | nil => cases member
  | cons first rest ih =>
      cases rest with
      | nil => exact member
      | cons next rest =>
          rw [marked, List.mem_cons, List.mem_cons]
          rcases List.mem_cons.mp member with here | later
          · exact .inl here
          · exact .inr (.inr (ih later))

theorem free_marked {names : List String} (free : ∀ name ∈ names, '/' ∉ name.toList) :
    ∀ part ∈ marked names, '/' ∉ part.toList := by
  intro part member
  rcases mem_marked member with named | rfl
  · exact free part named
  · decide

/-- Names with a marker between each two of them, between slashes, are the names between markers that
have their slashes. -/
theorem join_marked (names : List String) : join "/" (marked names) = join "/job/" names := by
  have written (separator : String) (parts : List String) : (join separator parts).toList =
      List.intercalate separator.toList (parts.map String.toList) := String.toList_ofList
  apply String.toList_inj.mp
  rw [written, written]
  induction names with
  | nil => rfl
  | cons name rest ih =>
      cases rest with
      | nil => simp [marked]
      | cons next rest =>
          cases below : marked (next :: rest) with
          | nil => exact absurd below (marked_ne_nil (by simp))
          | cons first parts =>
              rw [below] at ih
              simp only [marked, below, List.map_cons, List.intercalate_cons_cons] at ih ⊢
              rw [ih]
              simp

/-- The names are read from a list if and only if it is the names with markers between them. -/
theorem dropMarkers_eq_some_iff {parts names : List String} :
    dropMarkers parts = some names ↔ names ≠ [] ∧ parts = marked names := by
  constructor
  · intro read
    fun_induction dropMarkers parts generalizing names with
    | case1 => cases read
    | case2 name =>
        cases read
        exact ⟨by simp, rfl⟩
    | case3 name rest ih =>
        obtain ⟨below, read', rfl⟩ := Option.map_eq_some_iff.mp read
        obtain ⟨nonempty, rfl⟩ := ih read'
        cases below with
        | nil => exact absurd rfl nonempty
        | cons next below => exact ⟨by simp, rfl⟩
    | case4 => cases read
  · rintro ⟨nonempty, rfl⟩
    exact dropMarkers_marked nonempty

/-- A path lists names: it is these, without slashes in them, with `/job/` between each two. Slashes at
its ends do not count. -/
structure Lists (path : String) (names : List String) : Prop where
  nonempty : names ≠ []
  free : ∀ name ∈ names, '/' ∉ name.toList
  spelled : trim path = join "/job/" names

/-- A path lists names if and only if its parts between slashes are the names with markers. -/
theorem lists_iff {path : String} {names : List String} :
    Lists path names ↔ names ≠ [] ∧ Path.names path = marked names := by
  constructor
  · rintro ⟨nonempty, free, spelled⟩
    refine ⟨nonempty, ?_⟩
    rw [Path.names, spelled, ← join_marked, split_join (marked_ne_nil nonempty) (free_marked free)]
  · rintro ⟨nonempty, parts⟩
    refine ⟨nonempty, fun name member => ?_, ?_⟩
    · have part : name ∈ Path.names path := parts ▸ mem_marked_of_mem member
      obtain ⟨chars, listed, rfl⟩ := List.mem_map.mp part
      rw [String.toList_ofList]
      exact not_mem_of_mem_split listed
    · rw [← join_marked, ← parts, ← ofNames_names, ofNames]

/-- A path lists names in one way only. -/
theorem Lists.unique {path : String} {names others : List String} (first : Lists path names)
    (second : Lists path others) : names = others := by
  obtain ⟨nonempty, parts⟩ := lists_iff.mp first
  obtain ⟨nonempty', parts'⟩ := lists_iff.mp second
  have same : marked names = marked others := parts.symm.trans parts'
  apply Option.some.inj
  rw [← dropMarkers_marked nonempty, same, dropMarkers_marked nonempty']

/-- Paths that list names make up one full name if and only if they differ at most by the slashes at
their ends. -/
theorem Lists.ofNames_eq_iff {left right : String} {names others : List String}
    (first : Lists left names) (second : Lists right others) :
    ofNames names = ofNames others ↔ SameWithinSlashes left right := by
  rw [sameWithinSlashes_iff]
  constructor
  · intro same
    rw [first.spelled, second.spelled,
      join_inj first.nonempty first.free second.nonempty second.free same]
  · intro same
    have again : Lists right names := ⟨first.nonempty, first.free, same ▸ first.spelled⟩
    rw [again.unique second]

section Ends

variable {α : Type} {c : α} {left right : List α}

theorem head?_intercalate (first : left.head? = some c) (second : right.head? = some c)
    (parts : List (List α)) :
    (List.intercalate left parts).head? = (List.intercalate right parts).head? := by
  cases parts with
  | nil => rfl
  | cons part parts =>
      cases parts with
      | nil => simp
      | cons next parts => simp [List.intercalate_cons_cons, first, second]

theorem getLast?_intercalate (first : left.getLast? = some c) (second : right.getLast? = some c)
    (parts : List (List α)) :
    (List.intercalate left parts).getLast? = (List.intercalate right parts).getLast? := by
  induction parts with
  | nil => rfl
  | cons part parts ih =>
      cases parts with
      | nil => simp
      | cons next parts =>
          simp only [List.intercalate_cons_cons, List.getLast?_append, ih, first, second]

end Ends

/-- The full name that a path makes up has no slashes at its ends, as the path has none without those at
its own ends. -/
theorem Lists.trim_ofNames {path : String} {names : List String} (lists : Lists path names) :
    trim (ofNames names) = ofNames names := by
  have chars : (trim path).toList = List.intercalate "/job/".toList (names.map String.toList) := by
    rw [lists.spelled, join, String.toList_ofList]
  have begins : (ofNames names).toList.head? = (trim path).toList.head? := by
    rw [ofNames, toList_join, chars]
    exact head?_intercalate (c := '/') rfl rfl _
  have ends : (ofNames names).toList.getLast? = (trim path).toList.getLast? := by
    rw [ofNames, toList_join, chars]
    exact getLast?_intercalate (c := '/') rfl rfl _
  have kept : Text.stripWhere (· == '/') ((ofNames names).toList ++ []) = (ofNames names).toList := by
    refine Text.stripWhere_append ?_ ?_ (by simp)
    · intro c first
      rw [begins, trim, String.toList_ofList] at first
      exact Text.kept_of_mem_head? (· == '/') first
    · intro c final
      rw [ends, trim, String.toList_ofList] at final
      exact Text.kept_of_mem_getLast? (· == '/') final
  rw [List.append_nil] at kept
  rw [trim, kept, String.ofList_toList]

theorem separator_mem_head? {α : Type} [DecidableEq α] {separator : α} {elements : List α}
    {parts : List (List α)} (begins : split separator elements = [] :: parts) :
    elements = [] ∨ separator ∈ elements.head? := by
  cases elements with
  | nil => exact .inl rfl
  | cons c rest =>
      rw [split] at begins
      split at begins
      case isTrue here => exact .inr (by simp [here])
      case isFalse =>
        split at begins <;> cases begins

/-- The first part of a path between slashes is empty only if nothing is left of the path. -/
theorem trim_eq_empty_iff {path first : String} {rest : List String}
    (parts : names path = first :: rest) : trim path = "" ↔ first = "" := by
  constructor
  · intro nothing
    rw [names, nothing] at parts
    exact (List.cons.inj parts).1.symm
  · rintro rfl
    rw [names] at parts
    obtain ⟨part, others, begins, empty, -⟩ := List.map_eq_cons_iff.mp parts
    have nothing : part = [] := by simpa using congrArg String.toList empty
    rw [nothing] at begins
    rcases separator_mem_head? begins with whole | first
    · exact String.toList_inj.mp whole
    · rw [trim, String.toList_ofList] at first
      have kept := Text.kept_of_mem_head? (· == '/') first
      cases kept

/-- A path is read if and only if something is left of it without the slashes at its ends and it lists
names, and it is read as the full name of these. -/
theorem ofJobPath?_eq_some_iff {path fullName : String} : ofJobPath? path = some fullName ↔
    trim path ≠ "" ∧ ∃ names, Lists path names ∧ fullName = ofNames names := by
  rw [ofJobPath?]
  cases parts : names path with
  | nil => exact absurd parts (names_ne_nil path)
  | cons first rest =>
      simp only [ne_eq, trim_eq_empty_iff parts]
      by_cases empty : first = ""
      · simp [empty]
      · simp only [empty, if_false, not_false_eq_true, true_and, Option.map_eq_some_iff,
          dropMarkers_eq_some_iff, lists_iff, parts]
        exact exists_congr fun names => and_congr_right fun _ => eq_comm

end Path

end Wayfinder
