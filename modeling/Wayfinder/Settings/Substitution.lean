import Wayfinder.Settings.EnvFile

/-!
# References in values

A value may refer to others: `$` before a name between braces stands for what the name is bound to, and
`:-` behind the name precedes what stands there if the name is not bound. A name without a value, and a
name that is not bound and has no such default, stand for nothing. What has no such form stands for
itself.

The bindings of a file are replaced one after another. A reference sees the bindings before it, already
replaced, and behind them the environment.
-/

namespace Wayfinder.Settings

/-- A reference to a name, with what stands for it if it is not bound. -/
structure Reference where
  name : String
  default : String := ""
  deriving DecidableEq, Repr

namespace Reference

/-- A character of the name in a reference. -/
def isNameChar (c : Char) : Bool :=
  c != '\x7d' && c != ':'

/-- The reference whose name starts a text, and what follows its closing brace. -/
def read? (chars : List Char) : Option (Reference × List Char) :=
  let name := String.ofList (chars.takeWhile isNameChar)
  match chars.dropWhile isNameChar with
  | '\x7d' :: behind => some (⟨name, ""⟩, behind)
  | ':' :: '-' :: rest =>
    match rest.dropWhile (· != '\x7d') with
    | _ :: behind => some (⟨name, String.ofList (rest.takeWhile (· != '\x7d'))⟩, behind)
    | [] => none
  | _ => none

theorem read?_lt {chars behind : List Char} {reference : Reference}
    (read : read? chars = some (reference, behind)) : behind.length < chars.length := by
  have bound := (List.dropWhile_sublist isNameChar (l := chars)).length_le
  simp only [read?] at read
  split at read
  · rename_i found
    cases read
    rw [found] at bound
    exact bound
  · rename_i rest found
    have more := (List.dropWhile_sublist (· != '\x7d') (l := rest)).length_le
    rw [found] at bound
    split at read
    · rename_i closed
      cases read
      rw [closed] at more
      simp at bound more
      omega
    · cases read
  · cases read

/-- What a reference stands for, given what names are bound to. -/
def resolve (reference : Reference) (lookup : String → Option (Option String)) : String :=
  match lookup reference.name with
  | some value => value.getD ""
  | none => reference.default

end Reference

/-- A text with its references replaced. -/
def substitute (lookup : String → Option (Option String)) (chars : List Char) : List Char :=
  match chars with
  | [] => []
  | '$' :: '\x7b' :: rest =>
    match read : Reference.read? rest with
    | some (reference, behind) =>
      have := Reference.read?_lt read
      (reference.resolve lookup).toList ++ substitute lookup behind
    | none => '$' :: substitute lookup ('\x7b' :: rest)
  | c :: rest => c :: substitute lookup rest
  termination_by chars.length

namespace Binding

/-- Bind a name anew: in the place of its earlier binding, or at the end. -/
def rebind (bindings : List Binding) (binding : Binding) : List Binding :=
  if bindings.any fun other => other.name == binding.name then
    bindings.map fun other => if other.name == binding.name then binding else other
  else bindings ++ [binding]

/-- What a name is bound to: by the bindings, or else in the environment. -/
def lookup (environment : List (String × String)) (bindings : List Binding) (name : String) :
    Option (Option String) :=
  match bindings.find? fun binding => binding.name == name with
  | some binding => some binding.value
  | none => (environment.lookup name).map some

/-- Add a binding to those before it, with the references in its value replaced. -/
def add (environment : List (String × String)) (earlier : List Binding) (binding : Binding) :
    List Binding :=
  rebind earlier ⟨binding.name, binding.value.map fun value =>
    String.ofList (substitute (lookup environment earlier) value.toList)⟩

/-- Bindings with the references in their values replaced, each name once. -/
def resolveAll (environment : List (String × String)) (bindings : List Binding) : List Binding :=
  bindings.foldl (add environment) []

end Binding

end Wayfinder.Settings
