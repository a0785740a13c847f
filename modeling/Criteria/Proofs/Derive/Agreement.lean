import Criteria.Proofs.Compilation.Reason
import Criteria.Proofs.Derive.Table

/-!
# Compilation of derived filters

A derived filter answers to exactly the names of its declaration table, and reads
each field in the shape that its role expects. Filters that hold derived filters in
their groups are derived all the way down (`IsDerived`), so compilation never misreads
one of them: no record says that a field is unknown or of another shape
(`Item.agrees_expand`).
-/

namespace Criteria.Derive

/-- What is read through an arm, given what its field yields. -/
def Arm.input (a : Arm) (content : FieldContent) : FieldInput :=
  match a.shape with
  | .value => .value content.value
  | .group => .group content.nested
  | .period => .period content.period

theorem Arm.shape_input (a : Arm) (content : FieldContent) :
    (a.input content).shape = a.shape.name := by
  unfold input
  cases a.shape <;> rfl

section Accessor

variable {e : Expansion} {content : String → FieldContent} {f : Filter}

theorem filter?_eq_some_iff :
    e.filter? content = some f ↔ ∃ table, e.descriptors? = some table ∧
      .mk e.name table (e.arms.map fun a => (a.field, a.slot (content a.field))) = f :=
  Option.map_eq_some_iff

theorem read_of_mem_arms (hfilter : e.filter? content = some f)
    (hdistinct : (e.arms.map (·.field)).Nodup) {a : Arm} (ha : a ∈ e.arms) :
    f.read a.field = .ok (a.input (content a.field)) := by
  obtain ⟨table, -, rfl⟩ := filter?_eq_some_iff.mp hfilter
  have hlookup := lookup_map_of_nodup (fun a => a.slot (content a.field)) hdistinct ha
  unfold Filter.read
  rw [Filter.slots, hlookup, Arm.slot, Arm.input]
  cases a.shape <;> rfl

/-- A name without an arm is unknown, and no other. -/
theorem read_eq_unknownField_iff (hfilter : e.filter? content = some f)
    (hdistinct : (e.arms.map (·.field)).Nodup) {name : String} :
    f.read name = .error (.unknownField f.name name) ↔ name ∉ e.arms.map (·.field) := by
  constructor
  · intro h hname
    obtain ⟨a, ha, rfl⟩ := List.mem_map.mp hname
    rw [read_of_mem_arms hfilter hdistinct ha] at h
    cases h
  · intro hname
    obtain ⟨table, -, rfl⟩ := filter?_eq_some_iff.mp hfilter
    have hlookup : (e.arms.map fun a => (a.field, a.slot (content a.field))).lookup name = none := by
      rw [List.lookup_eq_none_iff]
      intro entry hentry
      obtain ⟨a, ha, rfl⟩ := List.mem_map.mp hentry
      have hne : name ≠ a.field := by
        rintro rfl
        exact hname (List.mem_map_of_mem ha)
      exact bne_iff_ne.mpr hne
    unfold Filter.read
    rw [Filter.slots, hlookup]

end Accessor

/-- A filter is derived, and so are the filters that it holds as groups. -/
inductive IsDerived : Filter → Prop
  | intro {i : Item} {e : Expansion} {content : String → FieldContent} {f : Filter}
      (hexpand : i.expand = .ok e) (hdistinct : i.HasDistinctNames)
      (hfilter : e.filter? content = some f)
      (hnested : ∀ name g, (content name).nested = some g → IsDerived g) : IsDerived f

/-- Persons of a name. -/
def Item.named : Item :=
  ⟨[], ⟨"Named", false⟩, [], [], some [⟨[], ⟨"name", false⟩, false⟩]⟩

def Expansion.named : Expansion :=
  ⟨"Named", Item.named.header, none, [⟨"name", {}⟩],
    [⟨"name", ⟨"name", false⟩, .value, false⟩]⟩

/-- Persons of the name Ann. -/
def namedAnn : Filter := .mk "Named" [⟨"name", {}⟩] [("name", .value (.text "Ann"))]

theorem isDerived_namedAnn : IsDerived namedAnn := by
  refine @IsDerived.intro Item.named Expansion.named (fun _ => ⟨.text "Ann", none, none⟩) namedAnn
    rfl ?_ rfl nofun
  intro fields hfields
  cases hfields
  decide

/-- The tables behind a derived filter. -/
theorem agrees_of_filter? {i : Item} {e : Expansion} {content : String → FieldContent} {f : Filter}
    (hexpand : i.expand = .ok e) (hdistinct : i.HasDistinctNames)
    (hfilter : e.filter? content = some f) :
    ∃ declared, Agrees declared e f.fields ∧ (e.arms.map (·.field)).Nodup := by
  obtain ⟨declared, hitem, -, hfields, harms⟩ := Item.of_expand hexpand
  obtain ⟨table, htable, rfl⟩ := filter?_eq_some_iff.mp hfilter
  have hagrees := agrees_of_descriptors? hfields harms htable
  exact ⟨declared, hagrees, hagrees.nodup_fields (hdistinct _ hitem)⟩

theorem IsDerived.readsAsDeclared {f : Filter} (h : IsDerived f) : f.ReadsAsDeclared := by
  obtain ⟨hexpand, hdistinct, hfilter, -⟩ := h
  obtain ⟨declared, hagrees, hnodup⟩ := agrees_of_filter? hexpand hdistinct hfilter
  intro d hd
  obtain ⟨a, ha, hfield, hshape⟩ := exists_of_forall₂ hagrees.arms d hd
  have hread := read_of_mem_arms hfilter hnodup ha
  rw [hfield] at hread
  exact ⟨_, hread, (a.shape_input _).trans hshape⟩

/-- The groups of a derived filter are derived. -/
theorem IsDerived.of_nested? {f : Filter} (h : IsDerived f) {d : FieldDescriptor}
    (hd : d ∈ f.fields) {operator : Operator} {g : Filter}
    (hgroup : f.nested? d = some (operator, g)) : IsDerived g := by
  obtain ⟨hexpand, hdistinct, hfilter, hnested⟩ := h
  obtain ⟨declared, hagrees, hnodup⟩ := agrees_of_filter? hexpand hdistinct hfilter
  obtain ⟨-, hread⟩ := Filter.nested?_eq_some_iff.mp hgroup
  obtain ⟨a, ha, hfield, -⟩ := exists_of_forall₂ hagrees.arms d hd
  rw [← hfield, read_of_mem_arms hfilter hnodup ha] at hread
  have hinput := Except.ok.inj hread
  unfold Arm.input at hinput
  split at hinput
  · cases hinput
  · exact hnested a.field g (FieldInput.group.inj hinput)
  · cases hinput

/-- A field that is declared as a group and as a join, a group of either, and a field
that is skipped. -/
def Item.search : Item :=
  let tagged (content : List Token) : List Attribute := [⟨true, .list content⟩]
  ⟨[], ⟨"Search", false⟩, [], [], some [
    ⟨tagged [.word ⟨"group", false⟩, .sign ',' false, .word ⟨"join", false⟩],
      ⟨"friend", false⟩, true⟩,
    ⟨tagged [.word ⟨"group", false⟩,
        .group .parenthesis [.word ⟨"operator", false⟩, .sign '=' false, .word ⟨"Or", false⟩]],
      ⟨"either", false⟩, true⟩,
    ⟨tagged [.word ⟨"skip", false⟩], ⟨"note", false⟩, false⟩]⟩

def Expansion.search : Expansion :=
  ⟨"Search", Item.search.header, none,
    [⟨"friend", { group := some ⟨"And", false⟩, join := true }⟩,
      ⟨"either", { group := some ⟨"Or", false⟩ }⟩],
    [⟨"friend", ⟨"friend", false⟩, .value, true⟩, ⟨"either", ⟨"either", false⟩, .group, true⟩]⟩

/-- An accepted item has a declaration table that says what the attributes of its kept
fields say, and next to it an arm for each entry, which reads the field in the shape
that compilation expects. Whatever its fields yield, with derived filters in its
groups, the derived filter answers to exactly the names of its table and is never
misread. -/
theorem Item.agrees_expand {ι : Type} (T : Compiler ι) {i : Item} {e : Expansion}
    (hexpand : i.expand = .ok e) (hdistinct : i.HasDistinctNames)
    (hnames : ∀ f ∈ e.fields, f.attributes.NamesExist) :
    ∃ declared table,
      i.fields? = some (declared.map Prod.fst) ∧
      (∀ p ∈ declared, FieldAttributes.read p.1.attributes = .ok p.2) ∧
      Agrees declared e table ∧
      ∀ content : String → FieldContent,
        (∀ name g, (content name).nested = some g → IsDerived g) →
        ∃ f, e.filter? content = some f ∧ f.fields = table ∧
          (∀ a ∈ e.arms, f.read a.field = .ok (a.input (content a.field))) ∧
          (∀ name, f.read name = .error (.unknownField f.name name) ↔
            name ∉ table.map (·.name)) ∧
          ∀ s ∈ ((Session.fresh T).add f).diagnostics, s.reason.isMisread = false := by
  obtain ⟨declared, hitem, hread, hfields, harms⟩ := Item.of_expand hexpand
  obtain ⟨table, htable⟩ := exists_descriptors? hnames
  have hagrees := agrees_of_descriptors? hfields harms htable
  have hnodup := hagrees.nodup_fields (hdistinct _ hitem)
  refine ⟨declared, table, hitem, hread, hagrees, fun content hnested => ?_⟩
  have hfilter : e.filter? content =
      some (.mk e.name table (e.arms.map fun a => (a.field, a.slot (content a.field)))) :=
    filter?_eq_some_iff.mpr ⟨table, htable, rfl⟩
  have hderived := IsDerived.intro hexpand hdistinct hfilter hnested
  refine ⟨_, hfilter, rfl, fun a ha => ?_, fun name => ?_, fun s hs => ?_⟩
  · exact read_of_mem_arms hfilter hnodup ha
  · rw [← hagrees.map_field_arms]
    exact read_eq_unknownField_iff hfilter hnodup
  · rw [Session.records_add_fresh] at hs
    exact T.isMisread_of_mem_skips (fun _ h => h.readsAsDeclared)
      (fun _ h _ hd _ _ hgroup => h.of_nested? hd hgroup) hderived hs

theorem Item.agrees_expand_search :
    ∃ f, Expansion.search.filter? (fun _ => ⟨.text "Kid", some namedAnn, none⟩) = some f ∧
      f.fields = [⟨"friend", { join := true, group := some .and }⟩,
        ⟨"either", { group := some .or }⟩] ∧
      f.read "friend" = .ok (.value (.text "Kid")) ∧
      f.read "either" = .ok (.group (some namedAnn)) ∧
      f.read "note" = .error (.unknownField "Search" "note") ∧
      ∀ s ∈ ((Session.fresh Compiler.friends).add f).diagnostics, s.reason.isMisread = false := by
  have hexpand : Item.search.expand = .ok Expansion.search := rfl
  have hdistinct : Item.search.HasDistinctNames := by
    intro fields hfields
    cases hfields
    decide
  have hnames : ∀ f ∈ Expansion.search.fields, f.attributes.NamesExist := by
    intro f hf
    rcases List.mem_cons.mp hf with rfl | hf
    · exact ⟨nofun, fun w hw => ⟨.and, by cases hw; rfl⟩⟩
    · rcases List.mem_singleton.mp hf with rfl
      exact ⟨nofun, fun w hw => ⟨.or, by cases hw; rfl⟩⟩
  obtain ⟨declared, table, -, -, hagrees, hfilters⟩ :=
    Item.agrees_expand Compiler.friends hexpand hdistinct hnames
  have hnested : ∀ (name : String) g,
      (FieldContent.mk (.text "Kid") (some namedAnn) none).nested = some g → IsDerived g := by
    rintro - g hg
    cases hg
    exact isDerived_namedAnn
  obtain ⟨f, hfilter, -, -, -, hrecords⟩ := hfilters (fun _ => ⟨.text "Kid", some namedAnn, none⟩)
    hnested
  cases hfilter
  exact ⟨_, rfl, rfl, rfl, rfl, rfl, hrecords⟩

end Criteria.Derive
