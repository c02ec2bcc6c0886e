import Wayfinder.Proofs.Search.Reach

/-!
# Going through children

What one expansion adds to a search. `Covers` ties the children that were met to the visits that were
found, and is what every step of the search keeps; `Expands` says which visits an expansion queues.
-/

namespace Wayfinder.Search

variable {κ : Type}

namespace Catalog

theorem not_fails_index (catalog : Catalog κ) (id : Nat) : ¬catalog.Fails (.index id) := by
  rintro ⟨key, fault, same, -⟩
  cases same

theorem not_fails_fresh {catalog : Catalog κ} {key : κ} {index : SearchIndex κ}
    (opened : catalog.opening key = .fresh index) : ¬catalog.Fails (.container key) := by
  rintro ⟨other, fault, same, -, failed⟩
  cases same
  simp [opened] at failed

theorem not_fails_shared {catalog : Catalog κ} {key : κ} {id : Nat}
    (opened : catalog.opening key = .shared id) : ¬catalog.Fails (.container key) := by
  rintro ⟨other, fault, same, -, failed⟩
  cases same
  simp [opened] at failed

theorem not_owns_index {start : Visit κ} {id : Nat} : ¬start.Owns (.index id) := by
  rintro ⟨owner, -, same⟩
  cases same

variable [DecidableEq κ]

/-- The destinations of a child are among the given visits, and it does not fail. -/
structure LeadsInto (catalog : Catalog κ) (found : List (Visit κ))
    (child : Child κ) : Prop where
  found : ∀ visit, catalog.destination? child = some visit → visit ∈ found
  sound : ¬catalog.Fails child

/-- The children met so far are those that lead to the visits found so far, the container of the first
index apart, and every found visit has left its mark on them. -/
structure Covers (catalog : Catalog κ) (start : Visit κ) (seen : List (Child κ))
    (found : List (Visit κ)) : Prop where
  owned : ∀ child, start.Owns child → child ∈ seen
  led : ∀ child ∈ seen, ¬start.Owns child → catalog.LeadsInto found child
  marked : ∀ visit ∈ found, ∀ child, visit.MarkedBy child → child ∈ seen

theorem LeadsInto.mono {catalog : Catalog κ} {found more : List (Visit κ)} {child : Child κ}
    (leads : catalog.LeadsInto found child) (grown : found ⊆ more) :
    catalog.LeadsInto more child :=
  ⟨fun visit destination => grown (leads.found visit destination), leads.sound⟩

/-- More children were met and more visits were found. -/
theorem Covers.extend {catalog : Catalog κ} {start : Visit κ} {seen seen' : List (Child κ)}
    {found found' : List (Visit κ)} (covers : catalog.Covers start seen found)
    (seenGrown : seen ⊆ seen') (foundGrown : found ⊆ found')
    (led : ∀ child ∈ seen', child ∉ seen → catalog.LeadsInto found' child)
    (marked : ∀ visit ∈ found', visit ∉ found → ∀ child, visit.MarkedBy child → child ∈ seen') :
    catalog.Covers start seen' found' where
  owned child owns := seenGrown (covers.owned child owns)
  led child met free := by
    by_cases before : child ∈ seen
    · exact (covers.led child before free).mono foundGrown
    · exact led child met before
  marked visit member child mark := by
    by_cases before : visit ∈ found
    · exact seenGrown (covers.marked visit before child mark)
    · exact marked visit member before child mark

/-- A new child that leads to no new visit. -/
theorem Covers.meet {catalog : Catalog κ} {start : Visit κ} {seen : List (Child κ)}
    {found : List (Visit κ)} {child : Child κ} (covers : catalog.Covers start seen found)
    (leads : catalog.LeadsInto found child) : catalog.Covers start (child :: seen) found :=
  covers.extend (List.subset_cons_self _ _) (List.Subset.refl _)
    (fun other met fresh => by
      rcases List.mem_cons.mp met with rfl | before
      · exact leads
      · exact absurd before fresh)
    (fun _ member fresh => absurd member fresh)

/-- A new child that leads to a new visit, which marks it. -/
theorem Covers.find {catalog : Catalog κ} {start : Visit κ} {seen : List (Child κ)}
    {found : List (Visit κ)} (covers : catalog.Covers start seen found) (visit : Visit κ)
    (child : Child κ) (leads : catalog.LeadsInto (found ++ [visit]) child)
    (mark : ∀ other, visit.MarkedBy other → other = child) :
    catalog.Covers start (child :: seen) (found ++ [visit]) :=
  covers.extend (List.subset_cons_self _ _) (List.subset_append_left _ _)
    (fun other met fresh => by
      rcases List.mem_cons.mp met with rfl | before
      · exact leads
      · exact absurd before fresh)
    (fun other member fresh child mark' => by
      rcases List.mem_append.mp member with before | new
      · exact absurd before fresh
      · obtain rfl := List.mem_singleton.mp new
        simp [mark child mark'])

/-- A child with at most one destination leads into the visits that hold it. -/
theorem LeadsInto.of_destination? {catalog : Catalog κ} {found : List (Visit κ)} {child : Child κ}
    {destination : Option (Visit κ)} (leads : catalog.destination? child = destination)
    (member : ∀ visit ∈ destination, visit ∈ found) (sound : ¬catalog.Fails child) :
    catalog.LeadsInto found child :=
  ⟨fun visit leads' => member visit (leads ▸ leads'), sound⟩

theorem destination?_index (catalog : Catalog κ) (id : Nat) :
    catalog.destination? (.index id) =
      catalog.shared[id]?.map fun index => ⟨.shared id, index⟩ := rfl

theorem destination?_fresh {catalog : Catalog κ} {key : κ} {index : SearchIndex κ}
    (known : key ∈ catalog.containers) (opened : catalog.opening key = .fresh index) :
    catalog.destination? (.container key) = some ⟨.opened key, index⟩ := by
  simp [destination?, known, opened]

theorem destination?_shared {catalog : Catalog κ} {key : κ} {id : Nat}
    (known : key ∈ catalog.containers) (opened : catalog.opening key = .shared id) :
    catalog.destination? (.container key) =
      catalog.shared[id]?.map fun index => ⟨.shared id, index⟩ := by
  simp [destination?, known, opened]

theorem destination?_unknown {catalog : Catalog κ} {key : κ} (unknown : key ∉ catalog.containers) :
    catalog.destination? (.container key) = none := by
  simp [destination?, unknown]

/-- A new container that leads to a shared index not met so far. The mark of the visit is the index,
which is met before the container. -/
theorem Covers.findShared {catalog : Catalog κ} {start : Visit κ} {seen : List (Child κ)}
    {found : List (Visit κ)} {key : κ} {id : Nat} {index : SearchIndex κ}
    (covers : catalog.Covers start seen found) (held : catalog.shared[id]? = some index)
    (leads : catalog.destination? (.container key) = some ⟨.shared id, index⟩)
    (sound : ¬catalog.Fails (.container key)) :
    catalog.Covers start (.index id :: .container key :: seen) (found ++ [⟨.shared id, index⟩]) := by
  have leadsIndex : catalog.destination? (.index id) = some ⟨.shared id, index⟩ := by
    simp [destination?_index, held]
  refine covers.extend (fun _ member => by simp [member]) (List.subset_append_left _ _) ?_ ?_
  · intro child member before
    simp only [List.mem_cons] at member
    rcases member with rfl | rfl | member
    · exact .of_destination? leadsIndex (by simp) (not_fails_index catalog id)
    · exact .of_destination? leads (by simp) sound
    · exact absurd member before
  · intro visit member before child mark
    rcases List.mem_append.mp member with old | last
    · exact absurd old before
    · obtain rfl := List.mem_singleton.mp last
      obtain rfl : child = .index id := mark
      exact List.mem_cons_self

/-- A found visit that stands for a shared index is the visit of that index. -/
theorem Covers.shared_not_mem {catalog : Catalog κ} {start : Visit κ} {seen : List (Child κ)}
    {found : List (Visit κ)} {id : Nat} {index : SearchIndex κ}
    (covers : catalog.Covers start seen found) (fresh : .index id ∉ seen) :
    (⟨.shared id, index⟩ : Visit κ) ∉ found :=
  fun member => fresh (covers.marked _ member _ rfl)

theorem Covers.opened_not_mem {catalog : Catalog κ} {start : Visit κ} {seen : List (Child κ)}
    {found : List (Visit κ)} {key : κ} {index : SearchIndex κ}
    (covers : catalog.Covers start seen found) (fresh : .container key ∉ seen) :
    (⟨.opened key, index⟩ : Visit κ) ∉ found :=
  fun member => fresh (covers.marked _ member _ rfl)

/-- What going through children adds to the visits found before. -/
structure Expands (catalog : Catalog κ) (start : Visit κ) (found : List (Visit κ))
    (children : List (Child κ)) (expansion : Expansion κ) : Prop where
  fresh : ∀ visit ∈ expansion.queued, visit ∉ found
  listed : ∀ visit ∈ expansion.queued,
    ∃ child ∈ children, ¬start.Owns child ∧ catalog.destination? child = some visit
  nodup : expansion.queued.Nodup
  covers : expansion.fault = none →
    catalog.Covers start expansion.seen (found ++ expansion.queued)
  complete : expansion.fault = none → ∀ child ∈ children, ¬start.Owns child →
    catalog.LeadsInto (found ++ expansion.queued) child
  failing : expansion.fault ≠ none → ∃ child ∈ children, ¬start.Owns child ∧ catalog.Fails child

/-- The first child adds nothing. -/
theorem Expands.pass {catalog : Catalog κ} {start : Visit κ} {found : List (Visit κ)}
    {children : List (Child κ)} {expansion : Expansion κ} {child : Child κ}
    (expands : catalog.Expands start found children expansion)
    (leads : ¬start.Owns child → catalog.LeadsInto found child) (events : List (Event κ)) :
    catalog.Expands start found (child :: children) (expansion.after events []) where
  fresh := expands.fresh
  listed visit queued := by
    obtain ⟨other, member, rest⟩ := expands.listed visit queued
    exact ⟨other, List.mem_cons_of_mem _ member, rest⟩
  nodup := expands.nodup
  covers := expands.covers
  complete sound other member free := by
    rcases List.mem_cons.mp member with rfl | later
    · exact (leads free).mono (List.subset_append_left _ _)
    · exact expands.complete sound other later free
  failing fault := by
    obtain ⟨other, member, rest⟩ := expands.failing fault
    exact ⟨other, List.mem_cons_of_mem _ member, rest⟩

/-- The first child adds a visit. -/
theorem Expands.add {catalog : Catalog κ} {start visit : Visit κ} {found : List (Visit κ)}
    {children : List (Child κ)} {expansion : Expansion κ} {child : Child κ}
    (expands : catalog.Expands start (found ++ [visit]) children expansion)
    (new : visit ∉ found) (free : ¬start.Owns child) (sound : ¬catalog.Fails child)
    (leads : catalog.destination? child = some visit) (events : List (Event κ)) :
    catalog.Expands start found (child :: children) (expansion.after events [visit]) where
  fresh other queued member := by
    rcases List.mem_cons.mp queued with rfl | later
    · exact new member
    · exact expands.fresh other later (List.mem_append_left _ member)
  listed other queued := by
    rcases List.mem_cons.mp queued with rfl | later
    · exact ⟨child, List.mem_cons_self, free, leads⟩
    · obtain ⟨next, member, rest⟩ := expands.listed other later
      exact ⟨next, List.mem_cons_of_mem _ member, rest⟩
  nodup := by
    refine List.nodup_cons.mpr ⟨fun again => ?_, expands.nodup⟩
    exact expands.fresh visit again (by simp)
  covers whole := by simpa using expands.covers whole
  complete whole other member otherFree := by
    rcases List.mem_cons.mp member with rfl | later
    · refine ⟨fun destination leads' => ?_, sound⟩
      obtain rfl : visit = destination := Option.some.inj (leads.symm.trans leads')
      simp
    · simpa using expands.complete whole other later otherFree
  failing fault := by
    obtain ⟨other, member, rest⟩ := expands.failing fault
    exact ⟨other, List.mem_cons_of_mem _ member, rest⟩

/-- The first child fails. -/
theorem Expands.stop {catalog : Catalog κ} {start : Visit κ} {found : List (Visit κ)}
    {children : List (Child κ)} {child : Child κ} {seen : List (Child κ)} {fault : IndexFault}
    (free : ¬start.Owns child) (fails : catalog.Fails child) (events : List (Event κ)) :
    catalog.Expands start found (child :: children) ⟨seen, [], events, some fault⟩ where
  fresh visit queued := by cases queued
  listed visit queued := by cases queued
  nodup := List.nodup_nil
  covers whole := by cases whole
  complete whole := by cases whole
  failing _ := ⟨child, List.mem_cons_self, free, fails⟩

/-- Nothing happens at an empty list of children. -/
theorem Expands.nil {catalog : Catalog κ} {start : Visit κ} {seen : List (Child κ)}
    {found : List (Visit κ)} (covers : catalog.Covers start seen found) :
    catalog.Expands start found [] (.none seen) where
  fresh visit queued := by cases queued
  listed visit queued := by cases queued
  nodup := List.nodup_nil
  covers _ := by simpa [Expansion.none] using covers
  complete _ child member := by cases member
  failing fault := absurd rfl fault

/-- Every expansion keeps the bond between what was met and what was found. -/
theorem Covers.expands {catalog : Catalog κ} {start : Visit κ} {seen : List (Child κ)}
    {found : List (Visit κ)} (covers : catalog.Covers start seen found)
    (children : List (Child κ)) :
    catalog.Expands start found children (catalog.expand seen children) := by
  fun_induction catalog.expand seen children generalizing found with
  | case1 seen => exact .nil covers
  | case2 seen child rest met ih =>
      exact (ih covers).pass (covers.led child met) _
  | case3 seen rest id unknown fresh ih =>
      have leads : catalog.destination? (.index id) = none := by
        simp [destination?_index, unknown]
      exact (ih covers).pass
        (fun _ => .of_destination? leads (by simp) (not_fails_index catalog id)) []
  | case4 seen rest id index found' fresh ih =>
      have leads : catalog.destination? (.index id) = some ⟨.shared id, index⟩ := by
        simp [destination?_index, found']
      have sound := not_fails_index catalog id
      have step := covers.find ⟨.shared id, index⟩ (.index id)
        (.of_destination? leads (by simp) sound) (fun other mark => mark)
      exact (ih step).add (covers.shared_not_mem fresh)
        (fun owns => fresh (covers.owned _ owns)) sound leads []
  | case5 seen rest key known fault failed fresh =>
      exact .stop (fun owns => fresh (covers.owned _ owns)) ⟨key, fault, rfl, known, failed⟩ _
  | case6 seen rest key known index opened fresh ih =>
      have leads := destination?_fresh known opened
      have sound := not_fails_fresh opened
      have step := covers.find ⟨.opened key, index⟩ (.container key)
        (.of_destination? leads (by simp) sound) (fun other mark => mark)
      exact (ih step).add (covers.opened_not_mem fresh)
        (fun owns => fresh (covers.owned _ owns)) sound leads _
  | case7 seen rest key known id opened met fresh ih =>
      have sound := not_fails_shared opened
      have leads : catalog.LeadsInto found (.container key) := by
        have shared := (covers.led _ met not_owns_index).found
        rw [destination?_index, ← destination?_shared known opened] at shared
        exact ⟨shared, sound⟩
      exact (ih (covers.meet leads)).pass (fun _ => leads) _
  | case8 seen rest key known id opened new unknown fresh ih =>
      have sound := not_fails_shared opened
      have leads : catalog.LeadsInto found (.container key) :=
        .of_destination? (destination?_shared known opened) (by simp [unknown]) sound
      exact (ih (covers.meet leads)).pass (fun _ => leads) _
  | case9 seen rest key known id opened new index found' fresh ih =>
      have sound := not_fails_shared opened
      have leads : catalog.destination? (.container key) = some ⟨.shared id, index⟩ := by
        simp [destination?_shared known opened, found']
      have step := covers.findShared found' leads sound
      exact (ih step).add (covers.shared_not_mem new)
        (fun owns => fresh (covers.owned _ owns)) sound leads _
  | case10 seen rest key unknown fresh ih =>
      refine (ih covers).pass (fun _ => .of_destination? (destination?_unknown unknown) ?_ ?_) []
      · simp
      · rintro ⟨other, fault, same, known, -⟩
        cases same
        exact unknown known

/-- What counts as met before the walk begins. -/
theorem covers_marks {catalog : Catalog κ} {start : Visit κ} (begins : start.Begins catalog) :
    catalog.Covers start start.marks [start] where
  owned child owns := by
    obtain ⟨key, owner, rfl⟩ := owns
    simp [Visit.marks, owner]
  led child met free := by
    obtain ⟨id, index⟩ := start
    cases id with
    | start =>
        refine absurd ?_ free
        cases owner : index.owner with
        | none => simp [Visit.marks, owner] at met
        | some key => exact ⟨key, owner, by simpa [Visit.marks, owner] using met⟩
    | opened key => exact absurd begins id
    | shared id =>
        have leads : catalog.destination? (.index id) = some ⟨.shared id, index⟩ := by
          simpa [destination?_index, Visit.Begins] using begins
        cases owner : index.owner with
        | none =>
            obtain rfl : child = .index id := by simpa [Visit.marks, owner] using met
            exact .of_destination? leads (by simp) (not_fails_index catalog id)
        | some key =>
            have either : child = .index id ∨ child = .container key := by
              simpa [Visit.marks, owner] using met
            rcases either with rfl | rfl
            · exact .of_destination? leads (by simp) (not_fails_index catalog id)
            · exact absurd ⟨key, owner, rfl⟩ free
  marked visit member child mark := by
    obtain rfl := List.mem_singleton.mp member
    unfold Visit.MarkedBy at mark
    split at mark
    case h_1 => exact mark.elim
    case h_2 key opened => simp [Visit.Begins, opened] at begins
    case h_3 id shared => simp [Visit.marks, shared, mark]

end Catalog

end Wayfinder.Search
