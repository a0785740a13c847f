import Criteria.Proofs.Compilation.Emission
import Criteria.Proofs.Predicate.Tree

/-!
# Where predicates come from

Every node of a compiled predicate is either binary, added when siblings were
folded, or belongs to the predicate that one field made of its own input. The
field stands in the filter or in one nested in it (`Filter.Reads`), and
`Compiler.Makes` lists the three ways in which a field makes a predicate, each
with all that was checked before. Properties of compiled predicates are proved by
going through the three.
-/

namespace Criteria

/-- The field `d` reads as `input`, in the filter itself or in a filter that
stands in one of its groups. -/
inductive Filter.Reads : Filter → FieldDescriptor → FieldInput → Prop
  | own {f : Filter} {d : FieldDescriptor} {input : FieldInput} (hd : d ∈ f.fields)
      (hread : f.read d.name = .ok input) : f.Reads d input
  | nested {f g : Filter} {d e : FieldDescriptor} {operator : Operator} {input : FieldInput}
      (hd : d ∈ f.fields) (hrole : d.tags.role = .group operator)
      (hread : f.read d.name = .ok (.group (some g))) (hg : g.Reads e input) : f.Reads e input

namespace Compiler

variable {ι : Type} {T : Compiler ι}

/-- The predicates that a field makes of an input without a nested filter. -/
inductive Makes (T : Compiler ι) (m : FieldMetadata) : FieldInput → Predicate → Prop
  | leaf {v : Value} {ref : PropertyRef} {p : Predicate} (hempty : v.isEmptyList = false)
      (hnull : v.isNull = true → m.nullable = true) (hrole : m.role = .leaf ∨ m.role = .join)
      (htarget : T.target? m = some ref) (hleaf : T.dialect.leaf ref v m.operation = .ok p) :
      Makes T m (.value v) p
  | range {v : Value} {bounds : PropertyPair} {lower upper : PropertyRef}
      (hkind : (v.isNumeric || v.isTemporal) = true)
      (hlower : T.navigated? bounds.lower = some lower)
      (hupper : T.navigated? bounds.upper = some upper) :
      Makes T m (.value v) (.within v (.property lower) (.property upper))
  | period {bounds : PropertyPair} {start stop : Date} {lower upper : PropertyRef}
      (horder : compare start stop ≠ .gt)
      (hlower : T.navigated? bounds.lower = some lower)
      (hupper : T.navigated? bounds.upper = some upper) :
      Makes T m (.period (some ⟨some start, some stop⟩))
        (Operator.or.combine
          (.betweenLiterals lower (.date start) (.date stop))
          (.betweenLiterals upper (.date start) (.date stop)))

/-- A node of a predicate that a field made, in the filter or nested in it. -/
def Yields (T : Compiler ι) (f : Filter) (q : Predicate) : Prop :=
  ∃ d input r, f.Reads d input ∧ T.Makes d.metadata input r ∧ q ∈ r.nodes

theorem makes_of_target? {m : FieldMetadata} {v : Value} {p : Predicate}
    (hempty : v.isEmptyList = false) (hnull : v.isNull = true → m.nullable = true)
    (hrole : m.role = .leaf ∨ m.role = .join)
    (h : ((T.target? m).bind fun ref => (T.dialect.leaf ref v m.operation).toOption) = some p) :
    T.Makes m (.value v) p := by
  obtain ⟨ref, htarget, hleaf⟩ := Option.bind_eq_some_iff.mp h
  exact .leaf hempty hnull hrole htarget (eq_ok_of_toOption hleaf)

theorem makes_of_rangeEmission? {m : FieldMetadata} {bounds : PropertyPair} {v : Value}
    {p : Predicate} (h : T.rangeEmission? bounds v = some p) : T.Makes m (.value v) p := by
  unfold rangeEmission? at h
  split at h
  · rename_i hkind
    obtain ⟨lower, hlower, h⟩ := Option.bind_eq_some_iff.mp h
    obtain ⟨upper, hupper, rfl⟩ := Option.map_eq_some_iff.mp h
    exact .range hkind hlower hupper
  · cases h

theorem makes_of_periodEmission? {m : FieldMetadata} {bounds : PropertyPair} {start stop : Date}
    {p : Predicate} (h : T.periodEmission? bounds start stop = some p) :
    T.Makes m (.period (some ⟨some start, some stop⟩)) p := by
  unfold periodEmission? at h
  split at h
  · cases h
  · rename_i horder
    obtain ⟨lower, hlower, h⟩ := Option.bind_eq_some_iff.mp h
    obtain ⟨upper, hupper, rfl⟩ := Option.map_eq_some_iff.mp h
    exact .period horder hlower hupper

/-- An input emits what its field makes of it or what the filter nested in it
emits. -/
theorem makes_or_nested_of_inputEmission? {nested : Operator → Filter → Option Predicate}
    {m : FieldMetadata} {input : FieldInput} {p : Predicate}
    (h : T.inputEmission? nested m input = some p) :
    T.Makes m input p ∨
      ∃ operator g, m.role = .group operator ∧ input = .group (some g) ∧
        nested operator g = some p := by
  unfold inputEmission? at h
  split at h
  · rename_i v
    split at h
    · cases h
    · rename_i hset
      obtain ⟨hempty, hnull⟩ : v.isEmptyList = false ∧ (v.isNull = true → m.nullable = true) := by
        simpa using hset
      split at h
      · rename_i hrole
        exact Or.inl (makes_of_target? hempty hnull (Or.inl hrole) h)
      · rename_i hrole
        exact Or.inl (makes_of_target? hempty hnull (Or.inr hrole) h)
      · exact Or.inl (makes_of_rangeEmission? h)
      · cases h
  · rename_i g
    split at h
    · rename_i operator hrole
      exact Or.inr ⟨operator, g, hrole, rfl, h⟩
    · cases h
  · split at h
    · exact Or.inl (makes_of_periodEmission? h)
    · cases h
  · cases h

/-- A node of what a field emits is binary or yielded by the filter, if that holds
of the filters nested in it. -/
theorem isBinary_or_yields_of_emission? {nested : Operator → Filter → Option Predicate}
    (hnested : ∀ operator g p q, nested operator g = some p → q ∈ p.nodes →
      q.IsBinary ∨ T.Yields g q)
    {f : Filter} {d : FieldDescriptor} {p q : Predicate} (hd : d ∈ f.fields)
    (hp : T.emission? nested f d = some p) (hq : q ∈ p.nodes) : q.IsBinary ∨ T.Yields f q := by
  obtain ⟨input, hinput, hp⟩ := Option.bind_eq_some_iff.mp hp
  have hread := eq_ok_of_toOption hinput
  rcases makes_or_nested_of_inputEmission? hp with hmakes | ⟨operator, g, hrole, rfl, hg⟩
  · exact Or.inr ⟨d, input, p, .own hd hread, hmakes, hq⟩
  · rcases hnested operator g p q hg hq with hbinary | ⟨e, input, r, hreads, hmakes, hr⟩
    · exact Or.inl hbinary
    · exact Or.inr ⟨e, input, r, .nested hd hrole hread hreads, hmakes, hr⟩

theorem isBinary_or_yields_of_nestedEmission? {levels : Nat} {operator : Operator} {f : Filter}
    {p q : Predicate} (hp : T.nestedEmission? levels operator f = some p) (hq : q ∈ p.nodes) :
    q.IsBinary ∨ T.Yields f q := by
  induction levels generalizing operator f p q with
  | zero => cases hp
  | succ levels ih =>
      -- The groups of the fields that were folded have one level less to go.
      rcases Predicate.mem_nodes_of_fold hp hq with hbinary | ⟨r, hr, hq⟩
      · exact Or.inl hbinary
      · obtain ⟨d, hd, hr⟩ := List.mem_filterMap.mp hr
        exact isBinary_or_yields_of_emission? (fun _ _ _ _ => ih) hd hr hq

/-- A node of a compiled predicate is binary or yielded by the filter. -/
theorem isBinary_or_yields_of_compile {levels : Nat} {f : Filter} {p q : Predicate}
    (hp : p ∈ (T.compile levels f).predicates) (hq : q ∈ p.nodes) :
    q.IsBinary ∨ T.Yields f q := by
  rw [predicates_compile] at hp
  obtain ⟨d, hd, hp⟩ := List.mem_filterMap.mp hp
  exact isBinary_or_yields_of_emission?
    (fun _ _ _ _ => isBinary_or_yields_of_nestedEmission?) hd hp hq

end Compiler

end Criteria
