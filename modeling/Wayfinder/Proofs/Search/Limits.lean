import Wayfinder.Proofs.Search.Outcomes

/-!
# Suggestions up to a limit

A limit ends the collection as soon as that many suggestions are there, and it is looked at only after one
was added. So a limited list is the beginning of the unlimited one, with one suggestion at least.
-/

namespace Wayfinder.Search

/-- The beginning of a list that a limit leaves. -/
def cut {α : Type} (limit : Option Int) (entries : List α) : List α :=
  match limit with
  | none => entries
  | some bound => entries.take (max 1 bound).toNat

theorem map_cut {α β : Type} (change : α → β) (limit : Option Int) (entries : List α) :
    (cut limit entries).map change = cut limit (entries.map change) := by
  cases limit with
  | none => rfl
  | some bound => exact List.map_take

theorem take_eq_of_begins {α : Type} {left right : List α} {size : Nat} (begins : left <+: right)
    (long : size ≤ left.length) : right.take size = left.take size := by
  obtain ⟨rest, rfl⟩ := begins
  exact List.take_append_of_le_length long

variable {κ : Type} [DecidableEq κ]

theorem prefix_collect (query : String) (limit : Option Int) (found items : List (SearchItem κ)) :
    found <+: (collect query limit found items).found := by
  induction items generalizing found with
  | nil => exact List.prefix_rfl
  | cons item items ih =>
      rw [collect]
      split
      case isFalse => exact ih found
      case isTrue =>
        dsimp only
        split
        · exact List.prefix_append _ _
        · exact (List.prefix_append _ _).trans (ih (found ++ [item]))

theorem full_collect (query : String) (found items : List (SearchItem κ)) :
    (collect query none found items).full = false := by
  induction items generalizing found with
  | nil => rfl
  | cons item items ih =>
      rw [collect]
      split
      · exact ih (found ++ [item])
      · exact ih found

/-- Collecting from one index up to a limit that was not reached before. -/
theorem collect_limited (query : String) {bound : Int} {found : List (SearchItem κ)}
    (short : found.length < (max 1 bound).toNat) (items : List (SearchItem κ)) :
    let whole := (collect query none found items).found
    collect query (some bound) found items =
      ⟨whole.take (max 1 bound).toNat, decide ((max 1 bound).toNat ≤ whole.length)⟩ := by
  induction items generalizing found with
  | nil =>
      dsimp only [collect]
      rw [List.take_of_length_le (Nat.le_of_lt short), decide_eq_false (Nat.not_le_of_lt short)]
  | cons item items ih =>
      have length : (found ++ [item]).length = found.length + 1 := List.length_append
      rw [collect, collect]
      split
      case isFalse => exact ih short
      case isTrue =>
        simp only [isFull, length, Bool.false_eq_true, if_false]
        split
        case isFalse more =>
          apply ih
          simp only [decide_eq_true_eq] at more
          omega
        case isTrue full =>
          simp only [decide_eq_true_eq] at full
          have size : (max 1 bound).toNat = (found ++ [item]).length := by omega
          have begins := prefix_collect query none (found ++ [item]) items
          rw [take_eq_of_begins begins (Nat.le_of_eq size), size, List.take_length,
            decide_eq_true begins.length_le]

/-- What stops add is put behind what was found before. -/
theorem prefix_collectStops {query : String} {limit : Option Int} {fault : Option IndexFault}
    {found entries : List (SearchItem κ)} {stops : List (Stop κ)}
    (collected : (collectStops query limit fault found stops).result = .ok entries) :
    found <+: entries := by
  induction stops generalizing found with
  | nil =>
      cases fault <;> cases collected
      exact List.prefix_rfl
  | cons stop stops ih =>
      have here := prefix_collect query limit found stop.visit.index.items
      rw [collectStops] at collected
      split at collected
      · cases collected
        exact here
      · exact here.trans (ih collected)

theorem collectStops_limited {query : String} {fault : Option IndexFault} {bound : Int}
    {found entries : List (SearchItem κ)} {stops : List (Stop κ)}
    (short : found.length < (max 1 bound).toNat)
    (collected : (collectStops query none fault found stops).result = .ok entries) :
    (collectStops query (some bound) fault found stops).result =
      .ok (entries.take (max 1 bound).toNat) := by
  induction stops generalizing found with
  | nil =>
      cases fault <;> cases collected
      rw [List.take_of_length_le (Nat.le_of_lt short)]
      rfl
  | cons stop stops ih =>
      rw [collectStops, full_collect] at collected
      rw [collectStops, collect_limited query short]
      dsimp only
      split
      case isTrue full =>
        have begins := prefix_collectStops collected
        rw [take_eq_of_begins begins (of_decide_eq_true full)]
        rfl
      case isFalse more =>
        have few := Nat.lt_of_not_le fun long => more (decide_eq_true long)
        rw [List.take_of_length_le (Nat.le_of_lt few)]
        exact ih few collected

/-- Suggestions up to a limit are the beginning of all suggestions. -/
theorem Catalog.suggest_limited {catalog : Catalog κ} {start : Visit κ} {query : String}
    {entries : List (SearchItem κ)} (collected : (catalog.suggest start query none).result = .ok entries)
    (limit : Option Int) : (catalog.suggest start query limit).result = .ok (cut limit entries) := by
  cases limit with
  | none => exact collected
  | some bound =>
      apply collectStops_limited _ collected
      rw [List.length_nil]
      omega

end Wayfinder.Search
