import Criteria.Proofs.Schema.RoundTrip
import Criteria.Proofs.Schema.Walk

/-!
# Paths that go on

A path may go on with another one, a point standing between their texts. Where the
first ends at a nested entity, the whole path resolves as the second does from there:
to the same property of the same entity, or with the same segment to blame, only that
an error tells the text of the whole path.
-/

namespace Criteria

/-- Behind a point the pieces are those of what follows. -/
theorem dotSplit_append_point (cs ds : List Char) :
    dotSplit (cs ++ '.' :: ds) = dotSplit cs ++ dotSplit ds := by
  induction cs with
  | nil => rfl
  | cons c cs ih =>
      rw [List.cons_append, dotSplit, dotSplit, ih]
      by_cases hc : c = '.'
      · rw [if_pos hc, if_pos hc]
        rfl
      · rw [if_neg hc, if_neg hc]
        cases hpieces : dotSplit cs with
        | nil => exact absurd hpieces (dotSplit_ne_nil cs)
        | cons piece pieces => rfl

namespace PropertyPath

variable {p q : PropertyPath} {segments : List String} {text rest : String}

theorem ofSegments?_eq_some_iff :
    ofSegments? segments = some p ↔ p.segments = segments ∧ "" ∉ segments := by
  constructor
  · intro h
    refine ⟨segments_ofSegments? h, ?_⟩
    unfold ofSegments? at h
    split at h
    · cases h
    · split at h
      · cases h
      · rename_i hnonempty
        simpa using hnonempty
  · rintro ⟨rfl, hnonempty⟩
    have hany : ¬ p.segments.any String.isEmpty = true := by simpa using hnonempty
    have hlast : p.segments.getLast? = some p.leaf := List.getLast?_concat
    have hfront : p.segments.dropLast = p.parents := List.dropLast_concat
    simp only [ofSegments?, hlast, if_neg hany, hfront]

theorem parse_eq_ok_iff :
    parse text = .ok p ↔
      p.segments = (dotSplit text.toList).map String.ofList ∧ "" ∉ p.segments := by
  have hofText : parse text = .ok p ↔ ofText? text = some p := by
    rw [parse]
    cases ofText? text <;> simp
  rw [hofText, ofText?, ofSegments?_eq_some_iff]
  exact and_congr_right fun h => by rw [h]

/-- The path that goes on with another one. -/
def append (p q : PropertyPath) : PropertyPath := ⟨p.segments ++ q.parents, q.leaf⟩

theorem segments_append (p q : PropertyPath) :
    (p.append q).segments = p.segments ++ q.segments := by
  rw [segments, append, List.append_assoc]
  rfl

/-- Two texts of paths with a point between them are the text of the path that goes
on. -/
theorem parse_append (hp : parse text = .ok p) (hq : parse rest = .ok q) :
    parse (text ++ "." ++ rest) = .ok (p.append q) := by
  rw [parse_eq_ok_iff] at hp hq ⊢
  obtain ⟨hp, hpnonempty⟩ := hp
  obtain ⟨hq, hqnonempty⟩ := hq
  have htext : (text ++ "." ++ rest).toList = text.toList ++ '.' :: rest.toList := by
    rw [String.toList_append, String.toList_append, List.append_assoc]
    rfl
  constructor
  · rw [segments_append, htext, dotSplit_append_point, List.map_append, hp, hq]
  · rw [segments_append]
    exact List.not_mem_append hpnonempty hqnonempty

end PropertyPath

/-- The same error, told of another path. -/
def ResolveError.within (path : String) : ResolveError → ResolveError
  | propertyNotFound entity segment _ => propertyNotFound entity segment path
  | notNavigable entity segment _ => notNavigable entity segment path
  | notAnAssociation entity segment _ => notAnAssociation entity segment path
  | joinTooShort _ => joinTooShort path
  | emptySegment _ => emptySegment path

namespace Schema

variable {ι : Type} {S : Schema ι} {route : Route} {leaf : String} {i j k start : ι}
  {segments rest : List String}

theorem leads_append (h : S.Leads route i segments j) (hrest : S.Leads route j rest k) :
    S.Leads route i (segments ++ rest) k := by
  induction h with
  | nil i => exact hrest
  | cons hdeclares hadmits _ ih => exact .cons hdeclares hadmits (ih hrest)

/-- A walk goes on from where it is led to. -/
theorem walkFrom_append_of_leads (path : String) (h : S.Leads route i segments j) :
    S.walkFrom route path leaf i (segments ++ rest) = S.walkFrom route path leaf j rest := by
  induction h with
  | nil i => rfl
  | cons hdeclares hadmits _ ih =>
      rw [List.cons_append, walkFrom_cons_of_admits hdeclares hadmits, ih]

theorem lookUp_within (S : Schema ι) (path other : String) (i : ι) (segment : String) :
    S.lookUp path i segment = (S.lookUp other i segment).mapError (·.within path) := by
  rw [lookUp, lookUp]
  cases (S.entity i).property? segment <;> rfl

/-- A walk uses the text of its path for nothing but its errors. -/
theorem walkFrom_within (S : Schema ι) (route : Route) (path other leaf : String) (i : ι)
    (segments : List String) :
    S.walkFrom route path leaf i segments =
      (S.walkFrom route other leaf i segments).mapError (·.within path) := by
  induction segments generalizing i with
  | nil =>
      rw [walkFrom, walkFrom, S.lookUp_within path other]
      cases S.lookUp other i leaf <;> rfl
  | cons segment rest ih =>
      rw [walkFrom, walkFrom, lookUp, lookUp]
      cases (S.entity i).property? segment with
      | none => rfl
      | some property =>
          dsimp only
          cases route.enter? property.kind with
          | some j => exact ih j
          | none => cases route <;> rfl

/-- A path behind a nested entity resolves as it does from that entity. -/
theorem resolve_append {p : PropertyPath} {resolved : Resolved ι}
    (h : S.resolve start p = .ok resolved) (hnested : Route.navigation.Admits resolved.kind j)
    (q : PropertyPath) :
    S.resolve start (p.append q) =
      ((S.resolve j q).mapError (·.within (p.append q).toText)).map fun found =>
        { found with reference := .navigate (p.append q).segments } := by
  obtain ⟨owner, property, hleads, hdeclares, rfl⟩ := resolve_eq_ok_iff.mp h
  have hlast : S.Leads .navigation start p.segments j :=
    leads_append hleads (.cons hdeclares hnested (.nil j))
  rw [resolve_eq_map_walk, resolve_eq_map_walk, walk_eq_walkFrom, walk_eq_walkFrom]
  change (S.walkFrom _ _ q.leaf start (p.segments ++ q.parents)).map _ = _
  rw [walkFrom_append_of_leads _ hlast, S.walkFrom_within _ (p.append q).toText q.toText]
  cases S.walkFrom .navigation q.toText q.leaf j q.parents <;> rfl

/-- Navigation resolves a path exactly where each parent names a nested property of the
entity reached so far and the last segment names a property; it fails for the leftmost
segment at which this does not go on. Behind a nested entity it starts afresh: the
whole path resolves as what follows does from there. -/
theorem resolve_iff_leads (S : Schema ι) (start : ι) {text : String} {p : PropertyPath}
    (hp : PropertyPath.parse text = .ok p) :
    (∀ resolved, S.resolve start p = .ok resolved ↔
        ∃ owner property, S.Leads .navigation start p.parents owner ∧
          (S.entity owner).Declares p.leaf property ∧
          resolved = ⟨.navigate p.segments, property.kind, S.nameOf owner⟩) ∧
      (∀ e, S.resolve start p = .error e ↔ S.Blames .navigation text start p.segments e) ∧
      ∀ resolved j, S.resolve start p = .ok resolved →
        resolved.kind = .relation j ∨ resolved.kind = .embedded j →
        ∀ rest q, PropertyPath.parse rest = .ok q →
          ∃ whole, PropertyPath.parse (text ++ "." ++ rest) = .ok whole ∧
            S.resolve start whole =
              ((S.resolve j q).mapError (·.within (text ++ "." ++ rest))).map fun found =>
                { found with reference := .navigate whole.segments } := by
  refine ⟨fun resolved => resolve_eq_ok_iff, fun e => ?_, ?_⟩
  · rw [resolve_eq_error_iff, PropertyPath.toText_of_parse hp]
  · intro resolved j hresolved hkind rest q hq
    have hwhole := PropertyPath.parse_append hp hq
    have hnested : Route.navigation.Admits resolved.kind j := by
      rcases hkind with hkind | hkind
      · rw [hkind]
        exact .relation .navigation j
      · rw [hkind]
        exact .embedded j
    refine ⟨p.append q, hwhole, ?_⟩
    rw [resolve_append hresolved hnested, PropertyPath.toText_of_parse hwhole]

/-- Persons and their homes, each leading to the other. The second `home` of a person is
never seen. -/
def households : Schema Bool where
  entity isPerson :=
    if isPerson then
      ⟨"Person", [⟨"name", .text⟩, ⟨"home", .embedded false⟩, ⟨"home", .int⟩]⟩
    else ⟨"Home", [⟨"street", .text⟩, ⟨"owner", .relation true⟩]⟩

/-- From a person round the circle to the owner of the home and on to a name, which leads
nowhere. -/
theorem resolve_households :
    households.resolve true ⟨["home", "owner", "name"], "first"⟩ =
        .error (.notNavigable "Person" "name" "home.owner.name.first") ∧
      households.Blames .navigation "home.owner.name.first" true
        ["home", "owner", "name", "first"]
        (.notNavigable "Person" "name" "home.owner.name.first") := by
  have hp : PropertyPath.parse "home.owner" = .ok ⟨["home"], "owner"⟩ := by rfl
  have hq : PropertyPath.parse "name.first" = .ok ⟨["name"], "first"⟩ := by rfl
  have hwhole : PropertyPath.parse "home.owner.name.first" =
      .ok ⟨["home", "owner", "name"], "first"⟩ := by rfl
  obtain ⟨-, -, happend⟩ := resolve_iff_leads households true hp
  obtain ⟨-, hblames, -⟩ := resolve_iff_leads households true hwhole
  obtain ⟨whole, hparse, hresolve⟩ := happend _ true rfl (Or.inl rfl) _ _ hq
  obtain rfl : ⟨["home", "owner", "name"], "first"⟩ = whole :=
    Except.ok.inj (hwhole.symm.trans hparse)
  exact ⟨hresolve, (hblames _).mp hresolve⟩

end Schema

end Criteria
