import Criteria.Proofs.Schema.Walk

/-!
# Joins beside navigation

A chain of joins passes associations only, so it is also a path to be navigated. Where
both routes are open they lead to the same property; the references differ in how the
way is told, and not in its segments. `Schema.JoinsBesideNavigation` puts this together
with the errors of joining.
-/

namespace Criteria

/-- A path with several segments has parents. -/
theorem PropertyPath.parents_ne_nil {p : PropertyPath} (h : 1 < p.segments.length) :
    p.parents ≠ [] := by
  intro hparents
  rw [segments, hparents] at h
  exact Nat.lt_irrefl 1 h

namespace Schema

variable {ι : Type} {S : Schema ι} {route : Route} {start i j k : ι} {segments : List String}
  {p : PropertyPath} {joined navigated : Resolved ι} {path : String} {e : ResolveError}

/-- Where some route leads, navigation leads as well. -/
theorem leads_navigation (h : S.Leads route i segments k) : S.Leads .navigation i segments k := by
  induction h with
  | nil i => exact .nil i
  | cons hdeclares hadmits _ ih => exact .cons hdeclares hadmits.navigation ih

/-- Segments lead to one entity. -/
theorem eq_of_leads (h : S.Leads route i segments j) (h' : S.Leads route i segments k) :
    k = j := by
  induction h with
  | nil i =>
      cases h'
      rfl
  | cons hdeclares hadmits _ ih =>
      cases h' with
      | cons hdeclares' hadmits' hrest =>
          obtain rfl := eq_of_declares hdeclares hdeclares'
          rw [← Route.enter?_eq_some_iff] at hadmits hadmits'
          obtain rfl := Option.some.inj (hadmits.symm.trans hadmits')
          exact ih hrest

theorem resolveJoin_eq_map_walk (S : Schema ι) (start : ι) (hnested : p.parents ≠ []) :
    S.resolveJoin start p = (S.walk .joining start p).map fun found =>
      ⟨⟨p.parents, [p.leaf]⟩, found.1.kind, S.nameOf found.2⟩ := by
  rw [resolveJoin, if_neg (by simpa using hnested)]
  cases S.walk .joining start p <;> rfl

/-- A chain of joins resolves to the property that it leads to. -/
theorem resolveJoin_eq_ok_iff (hnested : p.parents ≠ []) :
    S.resolveJoin start p = .ok joined ↔
      ∃ owner property, S.Leads .joining start p.parents owner ∧
        (S.entity owner).Declares p.leaf property ∧
        joined = ⟨⟨p.parents, [p.leaf]⟩, property.kind, S.nameOf owner⟩ := by
  simp only [S.resolveJoin_eq_map_walk start hnested, map_eq_ok_iff, Prod.exists, walk_eq_ok_iff,
    and_assoc]
  exact exists_comm

/-- Joining is navigation through associations, told as a chain of joins. -/
theorem resolveJoin_eq_ok_iff_resolve (hnested : p.parents ≠ []) :
    S.resolveJoin start p = .ok joined ↔
      ∃ navigated, S.resolve start p = .ok navigated ∧
        (∃ owner, S.Leads .joining start p.parents owner) ∧
        joined = { navigated with reference := ⟨p.parents, [p.leaf]⟩ } := by
  rw [resolveJoin_eq_ok_iff hnested]
  constructor
  · rintro ⟨owner, property, hleads, hdeclares, rfl⟩
    exact ⟨⟨.navigate p.segments, property.kind, S.nameOf owner⟩,
      resolve_eq_ok_iff.mpr ⟨owner, property, leads_navigation hleads, hdeclares, rfl⟩,
      ⟨owner, hleads⟩, rfl⟩
  · rintro ⟨navigated, hresolve, ⟨owner, hleads⟩, rfl⟩
    obtain ⟨owner', property, hleads', hdeclares, rfl⟩ := resolve_eq_ok_iff.mp hresolve
    obtain rfl := eq_of_leads hleads' (leads_navigation hleads)
    exact ⟨owner, property, hleads, hdeclares, rfl⟩

theorem resolveJoin_eq_error_iff (hnested : p.parents ≠ []) :
    S.resolveJoin start p = .error e ↔ S.Blames .joining p.toText start p.segments e := by
  rw [S.resolveJoin_eq_map_walk start hnested, map_eq_error_iff, walk_eq_error_iff]

/-- Joining never complains that something cannot be navigated. -/
theorem ne_notNavigable_of_blames (h : S.Blames .joining path start segments e)
    (entity segment path' : String) : e ≠ .notNavigable entity segment path' := by
  obtain ⟨before, culprit, after, i, -, -, hstops⟩ := h
  cases hstops with
  | missing => exact nofun
  | impassable => exact nofun

/-- The two routes of a path with several segments. A join succeeds where navigation
does and all parents are associations, to the same kind and owner. Its reference has the
parents for joins, and both references have the text of the path for their dotted name.
An error is told of the leftmost segment that is missing or, being a parent, no
association. -/
structure JoinsBesideNavigation (S : Schema ι) (start : ι) (p : PropertyPath) : Prop where
  eq_ok_iff : ∀ joined, S.resolveJoin start p = .ok joined ↔
    ∃ navigated, S.resolve start p = .ok navigated ∧
      (∃ owner, S.Leads .joining start p.parents owner) ∧
      joined = { navigated with reference := ⟨p.parents, [p.leaf]⟩ }
  dotted_joined : ∀ joined, S.resolveJoin start p = .ok joined →
    joined.reference.dotted = p.toText
  dotted_navigated : ∀ navigated, S.resolve start p = .ok navigated →
    navigated.reference.dotted = p.toText
  eq_error_iff : ∀ e, S.resolveJoin start p = .error e ↔
    S.Blames .joining p.toText start p.segments e
  ne_notNavigable : ∀ entity segment path,
    S.resolveJoin start p ≠ .error (.notNavigable entity segment path)

theorem joinsBesideNavigation (S : Schema ι) (start : ι) (h : 1 < p.segments.length) :
    S.JoinsBesideNavigation start p where
  eq_ok_iff _ := resolveJoin_eq_ok_iff_resolve (p.parents_ne_nil h)
  dotted_joined joined hjoined := by
    obtain ⟨owner, property, -, -, rfl⟩ :=
      (resolveJoin_eq_ok_iff (p.parents_ne_nil h)).mp hjoined
    rfl
  dotted_navigated navigated hnavigated := by
    obtain ⟨owner, property, -, -, rfl⟩ := resolve_eq_ok_iff.mp hnavigated
    rfl
  eq_error_iff _ := resolveJoin_eq_error_iff (p.parents_ne_nil h)
  ne_notNavigable entity segment path herror := by
    have hblames := (resolveJoin_eq_error_iff (p.parents_ne_nil h)).mp herror
    exact ne_notNavigable_of_blames hblames entity segment path rfl

end Schema

end Criteria
