import Criteria.Proofs.Outcome
import Criteria.Schema.Resolution

/-!
# Where a walk leads

What a walk along a path does, said without walking. `Schema.Leads` follows the
segments from one entity to another, each by the first property of its name.
`Schema.Stops` says why an entity is not left by a segment, and `Schema.Blames` takes
the segment that is the first one not to be passed, for those before it lead up to it.
A walk finds the property that it is led to (`walk_eq_ok_iff`) or fails for the segment
that is to blame (`walk_eq_error_iff`), on either route and through circles as well.
-/

namespace Criteria

section Declares

variable {ι : Type} {e : Entity ι} {segment : String} {property : Property ι}

/-- The property is the first one of its name in the entity. -/
def Entity.Declares (e : Entity ι) (segment : String) (property : Property ι) : Prop :=
  ∃ before after, e.properties = before ++ property :: after ∧ property.name = segment ∧
    ∀ other ∈ before, other.name ≠ segment

theorem Entity.property?_eq_some_iff :
    e.property? segment = some property ↔ e.Declares segment property := by
  rw [Entity.property?, List.find?_eq_some_iff_append]
  constructor
  · rintro ⟨hname, before, after, hproperties, hbefore⟩
    exact ⟨before, after, hproperties, by simpa using hname, by simpa using hbefore⟩
  · rintro ⟨before, after, hproperties, hname, hbefore⟩
    exact ⟨by simpa using hname, before, after, hproperties, by simpa using hbefore⟩

theorem Entity.property?_eq_none_iff :
    e.property? segment = none ↔ ∀ property ∈ e.properties, property.name ≠ segment := by
  simp [Entity.property?]

end Declares

/-- The kinds of properties that may be passed on a route, with the entity behind
them. -/
inductive Route.Admits {ι : Type} : Route → PropertyKind ι → ι → Prop
  | relation (route : Route) (target : ι) : Admits route (.relation target) target
  | embedded (target : ι) : Admits .navigation (.embedded target) target

theorem Route.enter?_eq_some_iff {ι : Type} {route : Route} {kind : PropertyKind ι} {j : ι} :
    route.enter? kind = some j ↔ route.Admits kind j := by
  constructor
  · intro h
    cases route <;> cases kind <;> cases h <;> constructor
  · rintro (_ | _)
    · cases route <;> rfl
    · rfl

/-- What may be passed on some route may be navigated. -/
theorem Route.Admits.navigation {ι : Type} {route : Route} {kind : PropertyKind ι} {j : ι}
    (h : route.Admits kind j) : Route.navigation.Admits kind j := by
  cases h with
  | relation => exact .relation .navigation j
  | embedded => exact .embedded j

theorem Route.enter?_eq_none_iff {ι : Type} {route : Route} {kind : PropertyKind ι} :
    route.enter? kind = none ↔ ∀ j, ¬ route.Admits kind j := by
  simp only [Option.eq_none_iff_forall_ne_some, Ne, Route.enter?_eq_some_iff]

namespace Schema

variable {ι : Type}

/-- Passing the segments leads from one entity to another. -/
inductive Leads (S : Schema ι) (route : Route) : ι → List String → ι → Prop
  | nil (i : ι) : Leads S route i [] i
  | cons {i j k : ι} {segment : String} {property : Property ι} {rest : List String}
      (hdeclares : (S.entity i).Declares segment property)
      (hadmits : route.Admits property.kind j) (h : Leads S route j rest k) :
      Leads S route i (segment :: rest) k

/-- Why an entity is not left by a segment: it has no such property, or one that is not
to be passed though `after` would follow. -/
inductive Stops (S : Schema ι) (route : Route) (path : String) (i : ι) (segment : String)
    (after : List String) : ResolveError → Prop
  | missing (h : ∀ property ∈ (S.entity i).properties, property.name ≠ segment) :
      Stops S route path i segment after (.propertyNotFound (S.nameOf i) segment path)
  | impassable {property : Property ι} (hafter : after ≠ [])
      (hdeclares : (S.entity i).Declares segment property)
      (hadmits : ∀ j, ¬ route.Admits property.kind j) :
      Stops S route path i segment after (route.refusal (S.nameOf i) segment path)

/-- The leftmost segment that is not passed, and why. -/
def Blames (S : Schema ι) (route : Route) (path : String) (start : ι) (segments : List String)
    (e : ResolveError) : Prop :=
  ∃ before segment after i, segments = before ++ segment :: after ∧
    S.Leads route start before i ∧ S.Stops route path i segment after e

/-- A walk to the property `leaf` behind the segments, one segment at a time. -/
def walkFrom (S : Schema ι) (route : Route) (path leaf : String) :
    ι → List String → Except ResolveError (Property ι × ι)
  | i, [] => (S.lookUp path i leaf).map fun property => (property, i)
  | i, segment :: rest =>
      match S.lookUp path i segment with
      | .error e => .error e
      | .ok property =>
          match route.enter? property.kind with
          | some j => S.walkFrom route path leaf j rest
          | none => .error (route.refusal (S.nameOf i) segment path)

variable {S : Schema ι} {route : Route} {path leaf : String} {i j k : ι} {segment : String}
  {segments rest : List String} {property : Property ι} {e : ResolveError}

theorem walk_eq_walkFrom (S : Schema ι) (route : Route) (start : ι) (p : PropertyPath) :
    S.walk route start p = S.walkFrom route p.toText p.leaf start p.parents := by
  rw [walk]
  generalize p.toText = path
  induction p.parents generalizing start with
  | nil =>
      rw [walkFrom]
      change (S.lookUp path start p.leaf >>= _) = _
      cases S.lookUp path start p.leaf <;> rfl
  | cons segment rest ih =>
      rw [walkFrom, passThrough]
      cases S.lookUp path start segment with
      | error e => rfl
      | ok property =>
          cases henter : route.enter? property.kind with
          | none => simp only [bind, Except.bind, henter]
          | some j =>
              have hrest := ih j
              simpa only [bind, Except.bind, henter] using hrest

theorem lookUp_eq_ok_iff :
    S.lookUp path i segment = .ok property ↔ (S.entity i).Declares segment property := by
  rw [← Entity.property?_eq_some_iff, lookUp]
  cases (S.entity i).property? segment <;> simp

theorem lookUp_eq_error_iff :
    S.lookUp path i segment = .error e ↔
      (∀ property ∈ (S.entity i).properties, property.name ≠ segment) ∧
        e = .propertyNotFound (S.nameOf i) segment path := by
  rw [← Entity.property?_eq_none_iff, lookUp]
  cases (S.entity i).property? segment <;> simp [eq_comm]

/-- An entity declares one property under a name. -/
theorem eq_of_declares {other : Property ι} (h : (S.entity i).Declares segment property)
    (hother : (S.entity i).Declares segment other) : other = property := by
  rw [← Entity.property?_eq_some_iff] at h hother
  exact Option.some.inj (hother.symm.trans h)

/-- The first segment is to blame, or it is passed and a later one is to blame. -/
theorem blames_cons_iff :
    S.Blames route path i (segment :: rest) e ↔
      S.Stops route path i segment rest e ∨
        ∃ property j, (S.entity i).Declares segment property ∧ route.Admits property.kind j ∧
          S.Blames route path j rest e := by
  constructor
  · rintro ⟨before, culprit, after, k, hsegments, hleads, hstops⟩
    cases hleads with
    | nil =>
        obtain ⟨rfl, rfl⟩ := List.cons.inj hsegments
        exact Or.inl hstops
    | cons hdeclares hadmits hleads =>
        obtain ⟨rfl, rfl⟩ := List.cons.inj hsegments
        exact Or.inr ⟨_, _, hdeclares, hadmits, _, culprit, after, k, rfl, hleads, hstops⟩
  · rintro (hstops | ⟨property, j, hdeclares, hadmits, before, culprit, after, k, rfl, hleads,
      hstops⟩)
    · exact ⟨[], segment, rest, i, rfl, .nil i, hstops⟩
    · exact ⟨segment :: before, culprit, after, k, rfl, .cons hdeclares hadmits hleads, hstops⟩

theorem not_blames_nil : ¬ S.Blames route path i [] e := by
  rintro ⟨before, culprit, after, k, hsegments, -⟩
  simp at hsegments

/-- A property of the name is not missing. -/
theorem not_missing_of_declares (h : (S.entity i).Declares segment property) :
    ¬ ∀ property ∈ (S.entity i).properties, property.name ≠ segment := by
  rw [← Entity.property?_eq_none_iff, Entity.property?_eq_some_iff.mpr h]
  exact Option.some_ne_none property

/-- A segment that may be passed stops nothing. -/
theorem not_stops_of_admits {after : List String}
    (hdeclares : (S.entity i).Declares segment property) (hadmits : route.Admits property.kind j) :
    ¬ S.Stops route path i segment after e := by
  rintro (h | ⟨-, hother, hnone⟩)
  · exact not_missing_of_declares hdeclares h
  · obtain rfl := eq_of_declares hdeclares hother
    exact hnone j hadmits

/-- Where a walk may go on, it goes on in the one entity behind the property. -/
theorem walkFrom_cons_of_admits (hdeclares : (S.entity i).Declares segment property)
    (hadmits : route.Admits property.kind j) :
    S.walkFrom route path leaf i (segment :: rest) = S.walkFrom route path leaf j rest := by
  simp only [walkFrom, lookUp_eq_ok_iff.mpr hdeclares, Route.enter?_eq_some_iff.mpr hadmits]

/-- Where something stops a walk, it fails for that. -/
theorem walkFrom_cons_of_stops {after : List String} (h : S.Stops route path i segment after e) :
    S.walkFrom route path leaf i (segment :: rest) = .error e := by
  cases h with
  | missing hmissing => simp only [walkFrom, lookUp_eq_error_iff.mpr ⟨hmissing, rfl⟩]
  | impassable hafter hdeclares hadmits =>
      simp only [walkFrom, lookUp_eq_ok_iff.mpr hdeclares, Route.enter?_eq_none_iff.mpr hadmits]

/-- A segment in front of others is passed, or something stops the walk at it. -/
theorem admits_or_stops (S : Schema ι) (route : Route) (path : String) (i : ι) (segment : String)
    {after : List String} (hafter : after ≠ []) :
    (∃ property j, (S.entity i).Declares segment property ∧ route.Admits property.kind j) ∨
      ∃ e, S.Stops route path i segment after e := by
  cases hproperty : (S.entity i).property? segment with
  | none => exact Or.inr ⟨_, .missing (Entity.property?_eq_none_iff.mp hproperty)⟩
  | some property =>
      rw [Entity.property?_eq_some_iff] at hproperty
      cases henter : route.enter? property.kind with
      | none => exact Or.inr ⟨_, .impassable hafter hproperty (Route.enter?_eq_none_iff.mp henter)⟩
      | some j => exact Or.inl ⟨property, j, hproperty, Route.enter?_eq_some_iff.mp henter⟩

/-- A walk finds the property that it is led to. -/
theorem walkFrom_eq_ok_iff :
    S.walkFrom route path leaf i segments = .ok (property, k) ↔
      S.Leads route i segments k ∧ (S.entity k).Declares leaf property := by
  constructor
  · intro h
    induction segments generalizing i with
    | nil =>
        rw [walkFrom, map_eq_ok_iff] at h
        obtain ⟨found, hleaf, hfound⟩ := h
        cases hfound
        exact ⟨.nil _, lookUp_eq_ok_iff.mp hleaf⟩
    | cons segment rest ih =>
        rcases S.admits_or_stops route path i segment (List.cons_ne_nil leaf []) with
          ⟨found, j, hdeclares, hadmits⟩ | ⟨e, hstops⟩
        · rw [walkFrom_cons_of_admits hdeclares hadmits] at h
          obtain ⟨hleads, hleaf⟩ := ih h
          exact ⟨.cons hdeclares hadmits hleads, hleaf⟩
        · rw [walkFrom_cons_of_stops hstops] at h
          cases h
  · rintro ⟨hleads, hleaf⟩
    induction hleads with
    | nil i => rw [walkFrom, lookUp_eq_ok_iff.mpr hleaf]; rfl
    | cons hdeclares hadmits _ ih => rw [walkFrom_cons_of_admits hdeclares hadmits, ih hleaf]

/-- A walk fails for the segment that is to blame. -/
theorem walkFrom_eq_error_iff :
    S.walkFrom route path leaf i segments = .error e ↔
      S.Blames route path i (segments ++ [leaf]) e := by
  induction segments generalizing i with
  | nil =>
      rw [walkFrom, map_eq_error_iff, lookUp_eq_error_iff, List.nil_append, blames_cons_iff]
      constructor
      · rintro ⟨hmissing, rfl⟩
        exact Or.inl (.missing hmissing)
      · rintro ((hmissing | ⟨hafter, -, -⟩) | ⟨property, j, -, -, hrest⟩)
        · exact ⟨hmissing, rfl⟩
        · exact absurd rfl hafter
        · exact absurd hrest not_blames_nil
  | cons segment rest ih =>
      have hafter : rest ++ [leaf] ≠ [] := List.append_ne_nil_of_right_ne_nil rest (by simp)
      rw [List.cons_append, blames_cons_iff]
      rcases S.admits_or_stops route path i segment hafter with
        ⟨property, j, hdeclares, hadmits⟩ | ⟨e', hstops⟩
      · rw [walkFrom_cons_of_admits hdeclares hadmits, ih]
        constructor
        · intro h
          exact Or.inr ⟨property, j, hdeclares, hadmits, h⟩
        · rintro (hstops | ⟨other, j', hother, hadmits', h⟩)
          · exact absurd hstops (not_stops_of_admits hdeclares hadmits)
          · rw [← ih, ← walkFrom_cons_of_admits hother hadmits',
              walkFrom_cons_of_admits hdeclares hadmits] at h
            exact ih.mp h
      · rw [walkFrom_cons_of_stops hstops]
        constructor
        · rintro ⟨⟩
          exact Or.inl hstops
        · rintro (h | ⟨property, j, hdeclares, hadmits, -⟩)
          · have hfails : S.walkFrom route path leaf i (segment :: rest) = .error e :=
              walkFrom_cons_of_stops h
            rwa [walkFrom_cons_of_stops hstops] at hfails
          · exact absurd hstops (not_stops_of_admits hdeclares hadmits)

variable {start : ι} {p : PropertyPath}

theorem walk_eq_ok_iff :
    S.walk route start p = .ok (property, k) ↔
      S.Leads route start p.parents k ∧ (S.entity k).Declares p.leaf property := by
  rw [walk_eq_walkFrom, walkFrom_eq_ok_iff]

theorem walk_eq_error_iff :
    S.walk route start p = .error e ↔ S.Blames route p.toText start p.segments e := by
  rw [walk_eq_walkFrom, walkFrom_eq_error_iff]
  rfl

theorem resolve_eq_map_walk (S : Schema ι) (start : ι) (p : PropertyPath) :
    S.resolve start p = (S.walk .navigation start p).map fun found =>
      ⟨.navigate p.segments, found.1.kind, S.nameOf found.2⟩ := by
  rw [resolve]
  cases S.walk .navigation start p <;> rfl

/-- A path resolves to the property that its parents lead to. -/
theorem resolve_eq_ok_iff {resolved : Resolved ι} :
    S.resolve start p = .ok resolved ↔
      ∃ owner property, S.Leads .navigation start p.parents owner ∧
        (S.entity owner).Declares p.leaf property ∧
        resolved = ⟨.navigate p.segments, property.kind, S.nameOf owner⟩ := by
  simp only [resolve_eq_map_walk, map_eq_ok_iff, Prod.exists, walk_eq_ok_iff, and_assoc]
  exact exists_comm

theorem resolve_eq_error_iff :
    S.resolve start p = .error e ↔ S.Blames .navigation p.toText start p.segments e := by
  rw [resolve_eq_map_walk, map_eq_error_iff, walk_eq_error_iff]

end Schema

end Criteria
