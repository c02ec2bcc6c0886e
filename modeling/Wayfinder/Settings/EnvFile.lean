import Wayfinder.Text.Blank
import Wayfinder.Text.Quoted

/-!
# Environment files

An environment file binds names to values. A binding starts on a line of its own, perhaps with the word
`export`; a name or a value between quotes may run over several lines. A comment starts with a number
sign: at the start of a line, behind a blank, or behind a closing quote. Where something else is met the
binding is dropped, and reading goes on with the line behind that place.

The lines of a file end in line feeds here; `unifyBreaks` brings other line breaks to that form.
-/

namespace Wayfinder.Settings

/-- A name, and the value bound to it if the binding has one. -/
structure Binding where
  name : String
  value : Option String
  deriving DecidableEq, Repr

namespace EnvFile

open Text

/-- A text with every line break written as one line feed. -/
def unifyBreaks : List Char → List Char
  | '\r' :: '\n' :: rest => '\n' :: unifyBreaks rest
  | '\r' :: rest => '\n' :: unifyBreaks rest
  | c :: rest => c :: unifyBreaks rest
  | [] => []

/-- A text without a byte order mark in front. -/
def dropMark : List Char → List Char
  | c :: rest => if c = Char.ofNat 0xfeff then rest else c :: rest
  | [] => []

/-- A text from its first character that is no blank. -/
def dropBlanks (chars : List Char) : List Char :=
  chars.dropWhile isBlank

/-- A text from its first character that is no blank or ends a line. -/
def dropLineBlanks (chars : List Char) : List Char :=
  chars.dropWhile fun c => isBlank c && c != '\n'

/-- A text from its second line on. -/
def nextLine (chars : List Char) : List Char :=
  (chars.dropWhile (· != '\n')).drop 1

theorem dropBlanks_le (chars : List Char) : (dropBlanks chars).length ≤ chars.length :=
  (List.dropWhile_sublist _).length_le

theorem dropLineBlanks_le (chars : List Char) : (dropLineBlanks chars).length ≤ chars.length :=
  (List.dropWhile_sublist _).length_le

theorem nextLine_le (chars : List Char) : (nextLine chars).length ≤ chars.length - 1 := by
  have bound := (List.dropWhile_sublist (· != '\n') (l := chars)).length_le
  simp only [nextLine, List.length_drop]
  omega

/-- What stands before a closing quote, and what follows it. The character behind a backslash is part of
the content, even if it is a quote. -/
def untilQuote? (delimiter : Char) : List Char → Option (List Char × List Char)
  | [] => none
  | [c] => if c = delimiter then some ([], []) else none
  | c :: next :: rest =>
    if c = delimiter then some ([], next :: rest)
    else if c = backslash then
      (untilQuote? delimiter rest).map fun (content, behind) => (c :: next :: content, behind)
    else
      (untilQuote? delimiter (next :: rest)).map fun (content, behind) => (c :: content, behind)

theorem untilQuote?_lt {delimiter : Char} {chars content behind : List Char}
    (read : untilQuote? delimiter chars = some (content, behind)) : behind.length < chars.length := by
  fun_induction untilQuote? delimiter chars generalizing content with
  | case1 => cases read
  | case2 => cases read; simp
  | case3 => cases read
  | case4 => cases read; simp
  | case5 next rest _ ih =>
    obtain ⟨⟨inner, after⟩, found, parts⟩ := Option.map_eq_some_iff.mp read
    cases parts
    have := ih found
    simp
    omega
  | case6 c next rest _ _ ih =>
    obtain ⟨⟨inner, after⟩, found, parts⟩ := Option.map_eq_some_iff.mp read
    cases parts
    have := ih found
    simp at this ⊢
    omega

/-- Whether a character can belong to a name without quotes. -/
def isNameChar (c : Char) : Bool :=
  c != '=' && c != '#' && !isBlank c

/-- The name at the start of a text, and what follows it. A name between quotes knows no escapes. -/
def readName? : List Char → Option (String × List Char)
  | [] => none
  | c :: rest =>
    if c = singleQuote then
      let name := rest.takeWhile (· != singleQuote)
      let behind := rest.dropWhile (· != singleQuote)
      if name.isEmpty || behind.isEmpty then none else some (String.ofList name, behind.drop 1)
    else if isNameChar c then
      some (String.ofList (c :: rest.takeWhile isNameChar), rest.dropWhile isNameChar)
    else none

theorem readName?_lt {chars behind : List Char} {name : String}
    (read : readName? chars = some (name, behind)) : behind.length < chars.length := by
  cases chars with
  | nil => cases read
  | cons c rest =>
    simp only [readName?] at read
    split at read
    · have bound := (List.dropWhile_sublist (· != singleQuote) (l := rest)).length_le
      split at read
      · cases read
      · cases read
        simp
        omega
    · have bound := (List.dropWhile_sublist isNameChar (l := rest)).length_le
      split at read
      · cases read
        simp
        omega
      · cases read

/-- The character that a letter behind a backslash stands for between double quotes. -/
def escapeInDouble? (c : Char) : Option Char :=
  if c = backslash ∨ c = singleQuote ∨ c = doubleQuote then some c
  else if c = 'a' then some (Char.ofNat 7)
  else if c = 'b' then some (Char.ofNat 8)
  else if c = 'f' then some (Char.ofNat 12)
  else if c = 'n' then some '\n'
  else if c = 'r' then some '\r'
  else if c = 't' then some '\t'
  else if c = 'v' then some (Char.ofNat 11)
  else none

/-- The character that a character behind a backslash stands for between single quotes. -/
def escapeInSingle? (c : Char) : Option Char :=
  if c = backslash ∨ c = singleQuote then some c else none

/-- A text with its escapes replaced. A backslash that starts no escape stands for itself. -/
def unescape (escape? : Char → Option Char) : List Char → List Char
  | [] => []
  | [c] => [c]
  | c :: next :: rest =>
    if c = backslash then
      match escape? next with
      | some meant => meant :: unescape escape? rest
      | none => c :: unescape escape? (next :: rest)
    else c :: unescape escape? (next :: rest)

/-- A line up to the number sign that starts a comment: the first one behind a blank. -/
def dropComment (afterBlank : Bool) : List Char → List Char
  | [] => []
  | c :: rest => if afterBlank && c == '#' then [] else c :: dropComment (isBlank c) rest

/-- A value without quotes, from the rest of its line; `afterBlank` tells whether a blank precedes it. -/
def plainValue (afterBlank : Bool) (line : List Char) : List Char :=
  ((dropComment afterBlank line).reverse.dropWhile isBlank).reverse

/-- The value at the start of a text, and what follows it. -/
def readValue? (afterBlank : Bool) (chars : List Char) : Option (String × List Char) :=
  let between (delimiter : Char) (escape? : Char → Option Char) : Option (String × List Char) :=
    (untilQuote? delimiter (chars.drop 1)).map fun (content, behind) =>
      (String.ofList (unescape escape? content), behind)
  if chars.head? = some singleQuote then between singleQuote escapeInSingle?
  else if chars.head? = some doubleQuote then between doubleQuote escapeInDouble?
  else
    some (String.ofList (plainValue afterBlank (chars.takeWhile (· != '\n'))),
      chars.dropWhile (· != '\n'))

theorem readValue?_le {afterBlank : Bool} {chars behind : List Char} {value : String}
    (read : readValue? afterBlank chars = some (value, behind)) :
    behind.length ≤ chars.length := by
  have quoted {delimiter : Char} {content after : List Char}
      (found : untilQuote? delimiter (chars.drop 1) = some (content, after)) :
      after.length ≤ chars.length := by
    have := untilQuote?_lt found
    simp at this
    omega
  simp only [readValue?] at read
  split at read
  · obtain ⟨⟨content, after⟩, found, parts⟩ := Option.map_eq_some_iff.mp read
    cases parts
    exact quoted found
  · split at read
    · obtain ⟨⟨content, after⟩, found, parts⟩ := Option.map_eq_some_iff.mp read
      cases parts
      exact quoted found
    · cases read
      exact (List.dropWhile_sublist _).length_le

/-- Whether nothing but a comment stands at the end of a line. -/
def isLineEnd (chars : List Char) : Bool :=
  match dropLineBlanks chars with
  | [] => true
  | c :: _ => c == '#' || c == '\n'

/-- A line without the word that marks a binding for export. -/
def dropExport : List Char → List Char
  | 'e' :: 'x' :: 'p' :: 'o' :: 'r' :: 't' :: c :: rest =>
    if isBlank c && c != '\n' then dropLineBlanks rest
    else 'e' :: 'x' :: 'p' :: 'o' :: 'r' :: 't' :: c :: rest
  | chars => chars

theorem dropExport_le (chars : List Char) : (dropExport chars).length ≤ chars.length := by
  unfold dropExport
  split
  · rename_i rest
    have := dropLineBlanks_le rest
    split
    · simp
      omega
    · simp
  · exact Nat.le_refl _

/-- The binding at the start of a text, if one is found there, and the text from the line on that
follows it. -/
def readBinding (chars : List Char) : Option Binding × List Char :=
  let start := dropExport chars
  match readName? start with
  | none => (none, nextLine start)
  | some (name, behind) =>
    match dropLineBlanks behind with
    | '=' :: rest =>
      let source := dropLineBlanks rest
      match readValue? (source.length < rest.length) source with
      | none => (none, nextLine source)
      | some (value, behind) =>
        (if isLineEnd behind then some ⟨name, some value⟩ else none, nextLine behind)
    | rest => (if isLineEnd rest then some ⟨name, none⟩ else none, nextLine rest)

theorem readBinding_lt {chars : List Char} (nonempty : chars ≠ []) :
    (readBinding chars).2.length < chars.length := by
  have positive := List.length_pos_iff.mpr nonempty
  have start := dropExport_le chars
  unfold readBinding
  dsimp only
  split
  · have := nextLine_le (dropExport chars)
    simp only
    omega
  · rename_i name behind named
    have := readName?_lt named
    have blanks := dropLineBlanks_le behind
    split
    · rename_i rest found
      rw [found] at blanks
      have source := dropLineBlanks_le rest
      simp at blanks
      split
      · have := nextLine_le (dropLineBlanks rest)
        simp only
        omega
      · rename_i value after read
        have := readValue?_le read
        have := nextLine_le after
        simp only
        omega
    · have := nextLine_le (dropLineBlanks behind)
      simp only
      omega

/-- The bindings of a text, from its first character that is no blank on. -/
def readBindings (chars : List Char) : List Binding :=
  match found : dropBlanks chars with
  | [] => []
  | c :: rest =>
    let read := readBinding (c :: rest)
    have shorter : read.2.length < chars.length := by
      have bound := dropBlanks_le chars
      rw [found] at bound
      exact Nat.lt_of_lt_of_le (readBinding_lt (List.cons_ne_nil c rest)) bound
    read.1.toList ++ readBindings read.2
  termination_by chars.length

/-- The bindings of a file, in the order of its lines. -/
def bindings (text : String) : List Binding :=
  readBindings (unifyBreaks (dropMark text.toList))

end EnvFile

end Wayfinder.Settings
