import Mathlib.Data.List.TakeWhile
import Wayfinder.Api.Route

/-!
# Where the paths of pages lead

A request for the path of an item or of a view comes to the endpoint that shows it. Only a line feed in
the path of an item is in the way: no route takes it, so such a path leads nowhere.
-/

namespace Wayfinder.Api

/-- A character that does not occur differs from all that do. -/
theorem bne_of_not_mem {chars : List Char} {other : Char} (free : other ∉ chars) :
    ∀ c ∈ chars, (c != other) = true := by
  intro c member
  apply bne_iff_ne.mpr
  rintro rfl
  exact free member

theorem fitting_of_unfit {routes : List Route} {path : String}
    (unfit : ∀ route ∈ routes, route.endpoint? path = none) : fitting routes path = [] := by
  apply List.filterMap_eq_nil_iff.mpr
  intro route member
  rw [unfit route member]
  rfl

/-- A request goes to the first route of its method that its path fits. -/
theorem dispatch_of_method {before after : List Route} (route : Route) {path : String}
    {endpoint : Endpoint}
    (unfit : ∀ other ∈ before, other.method = route.method → other.endpoint? path = none)
    (fits : route.endpoint? path = some endpoint) :
    dispatch (before ++ route :: after) route.method path = .endpoint endpoint := by
  have passed : ((fitting before path).find? fun entry => entry.1.method == route.method) =
      none := by
    apply List.find?_eq_none.mpr
    rintro ⟨other, there⟩ member same
    obtain ⟨listed, tried, found⟩ := List.mem_filterMap.mp member
    obtain ⟨_, fit, equal⟩ := Option.map_eq_some_iff.mp found
    cases equal
    rw [unfit other tried (eq_of_beq same)] at fit
    cases fit
  have found : fitting (before ++ route :: after) path =
      fitting before path ++ (route, endpoint) :: fitting after path := by
    rw [fitting, List.filterMap_append, List.filterMap_cons, fits]
    rfl
  simp [dispatch, found, List.find?_append, passed]

theorem dispatch_of_first {before after : List Route} (route : Route) {path : String}
    {endpoint : Endpoint} (unfit : ∀ other ∈ before, other.endpoint? path = none)
    (fits : route.endpoint? path = some endpoint) :
    dispatch (before ++ route :: after) route.method path = .endpoint endpoint :=
  dispatch_of_method route (fun other member _ => unfit other member) fits

theorem dispatch_of_unfit {routes : List Route} {method path : String}
    (unfit : ∀ route ∈ routes, route.endpoint? path = none) :
    dispatch routes method path = .nowhere := by
  simp [dispatch, fitting_of_unfit unfit]

theorem capture?_literal (text : String) (pieces : List Piece) (chars : List Char) :
    capture? (.literal text :: pieces) (text.toList ++ chars) = capture? pieces chars := by
  have front : text.toList.isPrefixOf (text.toList ++ chars) = true := by simp
  rw [capture?, if_pos front, ← String.length_toList, List.drop_left]

/-- A route does not fit a path that its literal does not begin. -/
theorem unfit_of_not_prefix {text path : String}
    (other : text.toList.isPrefixOf path.toList = false) (method : String) (pieces : List Piece)
    (endpoint : List String → Option Endpoint) :
    (Route.mk method (.literal text :: pieces) endpoint).endpoint? path = none := by
  simp [Route.endpoint?, capture?, other]

theorem isPrefixOf_below (base text other : String) :
    (base ++ text).toList.isPrefixOf (base ++ other).toList =
      text.toList.isPrefixOf other.toList := by
  rw [String.toList_append, String.toList_append]
  induction base.toList with
  | nil => rfl
  | cons c rest ih => simp [ih]

/-- A pattern below a base fits a path below it as the rest of the one fits the rest of the other. -/
theorem capture?_below (base text other : String) (pieces : List Piece) :
    capture? (.literal (base ++ text) :: pieces) (base ++ other).toList =
      capture? (.literal text :: pieces) other.toList := by
  have behind : (base ++ other).toList.drop (base ++ text).length =
      other.toList.drop text.length := by
    rw [String.toList_append, String.length_append, ← String.length_toList,
      List.drop_length_add_append]
  rw [capture?, capture?, isPrefixOf_below, behind]

theorem unfit_below {base text other : String} {pieces : List Piece}
    (unfit : capture? (.literal text :: pieces) other.toList = none) (method : String)
    (endpoint : List String → Option Endpoint) :
    (Route.mk method (.literal (base ++ text) :: pieces) endpoint).endpoint? (base ++ other) =
      none := by
  rw [Route.endpoint?, capture?_below, unfit]
  rfl

theorem endpoint?_plain (method path : String) (endpoint : Endpoint) :
    (Route.plain method path endpoint).endpoint? path = some endpoint := by
  have whole := capture?_literal path [] []
  rw [List.append_nil] at whole
  rw [Route.endpoint?, Route.plain, whole]
  rfl

theorem capture?_segment {segment : List Char} (nonempty : segment ≠ []) (free : '/' ∉ segment)
    (pieces : List Piece) (rest : List Char) :
    capture? (.segment :: pieces) (segment ++ '/' :: rest) =
      (capture? pieces ('/' :: rest)).map (String.ofList segment :: ·) := by
  have kept := bne_of_not_mem free
  have taken : (segment ++ '/' :: rest).takeWhile (· != '/') = segment := by
    rw [List.takeWhile_append_of_pos kept]
    simp
  have left : (segment ++ '/' :: rest).dropWhile (· != '/') = '/' :: rest := by
    rw [List.dropWhile_append_of_pos kept]
    simp
  rw [capture?, taken, left, if_neg nonempty]

theorem capture?_remainder {rest : List Char} (line : '\n' ∉ rest) :
    capture? [.remainder] rest = some [String.ofList rest] := by
  have kept := bne_of_not_mem line
  have taken : rest.takeWhile (· != '\n') = rest := List.takeWhile_eq_self_iff.mpr kept
  have left : rest.dropWhile (· != '\n') = [] := List.dropWhile_eq_nil_iff.mpr kept
  rw [capture?, taken, left]
  rfl

/-- A remainder does not reach over a line feed that something follows. -/
theorem capture?_remainder_broken {rest : List Char} (broken : '\n' ∈ rest) :
    capture? [.remainder] (rest ++ ['/']) = none := by
  obtain ⟨line, more, rfl, first⟩ := List.eq_append_cons_of_mem broken
  have kept := bne_of_not_mem first
  have left : (line ++ '\n' :: more ++ ['/']).dropWhile (· != '\n') = '\n' :: (more ++ ['/']) := by
    rw [List.append_assoc, List.dropWhile_append_of_pos kept]
    simp
  rw [capture?, left, capture?, if_neg (by simp)]
  rfl

section Below

variable (base : String)

theorem dispatch_search_below :
    dispatch (routes base) "GET" (base ++ "/search") = .endpoint .search := by
  have unfit : ∀ other ∈ (routes base).take 0, other.endpoint? (base ++ "/search") = none := by simp
  exact dispatch_of_first (.plain "GET" (base ++ "/search") .search) unfit (endpoint?_plain _ _ _)

theorem dispatch_suggest_below :
    dispatch (routes base) "GET" (base ++ "/search/suggest") = .endpoint .suggest := by
  have unfit : ∀ other ∈ (routes base).take 1, other.endpoint? (base ++ "/search/suggest") = none := by
    intro other member
    simp only [routes, List.take_succ_cons, List.take_zero, List.mem_cons, List.not_mem_nil,
      or_false] at member
    cases member
    exact unfit_below rfl _ _
  exact dispatch_of_first (.plain "GET" (base ++ "/search/suggest") .suggest) unfit
    (endpoint?_plain _ _ _)

theorem dispatch_lookup_below :
    dispatch (routes base) "GET" (base ++ "/search/lookup") = .endpoint .lookup := by
  have unfit : ∀ other ∈ (routes base).take 2, other.endpoint? (base ++ "/search/lookup") = none := by
    intro other member
    simp only [routes, List.take_succ_cons, List.take_zero, List.mem_cons, List.not_mem_nil,
      or_false] at member
    rcases member with rfl | rfl <;> exact unfit_below rfl _ _
  exact dispatch_of_first (.plain "GET" (base ++ "/search/lookup") .lookup) unfit
    (endpoint?_plain _ _ _)

/-- Whatever the base is, a request for the views below it comes to their list. -/
theorem dispatch_views :
    dispatch (routes base) "GET" (base ++ "/views") = .endpoint .listViews := by
  have unfit : ∀ other ∈ (routes base).take 8, other.method = "GET" →
      other.endpoint? (base ++ "/views") = none := by
    intro other member same
    simp only [routes, List.take_succ_cons, List.take_zero, List.mem_cons, List.not_mem_nil,
      or_false] at member
    rcases member with rfl | rfl | rfl | rfl | rfl | rfl | rfl | rfl <;>
      first
      | exact unfit_below rfl _ _
      | simp [Route.plain] at same
  exact dispatch_of_method (.plain "GET" (base ++ "/views") .listViews) unfit (endpoint?_plain _ _ _)

/-- A request to create a view comes to the endpoint that does. -/
theorem dispatch_createView :
    dispatch (routes base) "POST" (base ++ "/views") = .endpoint .createView := by
  have unfit : ∀ other ∈ (routes base).take 7, other.endpoint? (base ++ "/views") = none := by
    intro other member
    simp only [routes, List.take_succ_cons, List.take_zero, List.mem_cons, List.not_mem_nil,
      or_false] at member
    rcases member with rfl | rfl | rfl | rfl | rfl | rfl | rfl <;> exact unfit_below rfl _ _
  exact dispatch_of_first (.plain "POST" (base ++ "/views") .createView) unfit (endpoint?_plain _ _ _)

end Below

/-- The usual base of the interface. -/
def standardBase : String := "/api/v1"

theorem dispatch_search :
    dispatch (routes standardBase) "GET" (standardBase ++ "/search") = .endpoint .search :=
  dispatch_search_below standardBase

theorem dispatch_suggest :
    dispatch (routes standardBase) "GET" (standardBase ++ "/search/suggest") = .endpoint .suggest :=
  dispatch_suggest_below standardBase

theorem dispatch_lookup :
    dispatch (routes standardBase) "GET" (standardBase ++ "/search/lookup") = .endpoint .lookup :=
  dispatch_lookup_below standardBase

/-- The characters of the path of an item's page, with what is behind its first `job/`. -/
def itemChars (rest : List Char) : List Char :=
  (standardBase ++ "/job/").toList ++ rest

/-- The characters of the path of a view's page. -/
def viewChars (name : List Char) : List Char :=
  (standardBase ++ "/view/").toList ++ (name ++ ['/'])

/-- A request for the path of an item comes to its page, if the path is one line. -/
theorem dispatch_item {path : String} {rest : List Char} (chars : path.toList = itemChars rest)
    (line : '\n' ∉ rest) :
    dispatch (routes standardBase) "GET" path = .endpoint (.showItem (String.ofList rest)) := by
  have unfit : ∀ other ∈ (routes standardBase).take 4, other.endpoint? path = none := by
    intro other member
    simp only [routes, List.take_succ_cons, List.take_zero, List.mem_cons, List.not_mem_nil,
      or_false] at member
    rcases member with rfl | rfl | rfl | rfl <;>
      exact unfit_of_not_prefix (by rw [chars]; rfl) _ _ _
  apply dispatch_of_first (.open1 "GET" [.literal (standardBase ++ "/job/"), .remainder] .showItem)
    unfit
  rw [Route.endpoint?, Route.open1, chars, itemChars, capture?_literal, capture?_remainder line]
  rfl

/-- A request for the path of a view comes to its page. -/
theorem dispatch_view {path : String} {name : List Char} (chars : path.toList = viewChars name)
    (nonempty : name ≠ []) (free : '/' ∉ name) :
    dispatch (routes standardBase) "GET" path = .endpoint (.showView (String.ofList name)) := by
  have unfit : ∀ other ∈ (routes standardBase).take 9, other.endpoint? path = none := by
    intro other member
    simp only [routes, List.take_succ_cons, List.take_zero, List.mem_cons, List.not_mem_nil,
      or_false] at member
    rcases member with rfl | rfl | rfl | rfl | rfl | rfl | rfl | rfl | rfl <;>
      exact unfit_of_not_prefix (by rw [chars]; rfl) _ _ _
  apply dispatch_of_first
    (.open1 "GET" [.literal (standardBase ++ "/view/"), .segment, .literal "/"] .showView) unfit
  rw [Route.endpoint?, Route.open1, chars, viewChars, capture?_literal, capture?_segment nonempty free]
  rfl

/-- A request for the path of an item that is not one line goes nowhere. -/
theorem dispatch_broken {path : String} {rest : List Char}
    (chars : path.toList = itemChars (rest ++ ['/'])) (broken : '\n' ∈ rest) :
    dispatch (routes standardBase) "GET" path = .nowhere := by
  have job (method : String) (endpoint : String → Endpoint) :
      (Route.open1 method [.literal (standardBase ++ "/job/"), .remainder] endpoint).endpoint? path =
        none := by
    rw [Route.endpoint?, Route.open1, chars, itemChars, capture?_literal,
      capture?_remainder_broken broken]
    rfl
  have home : (Route.plain "GET" "/" .home).endpoint? path = none := by
    rw [Route.endpoint?, Route.plain, chars]
    rfl
  apply dispatch_of_unfit
  intro other member
  simp only [routes, List.mem_cons, List.not_mem_nil, or_false] at member
  rcases member with rfl | rfl | rfl | rfl | rfl | rfl | rfl | rfl | rfl | rfl | rfl | rfl | rfl |
    rfl | rfl <;>
    first
    | exact unfit_of_not_prefix (by rw [chars]; rfl) _ _ _
    | exact job _ _
    | exact home

end Wayfinder.Api
