import Criteria.Derive.Expansion
import Criteria.Proofs.Compilation.Accounting
import Criteria.Proofs.Outcome

/-!
# Tables of a derivation

A derivation writes the declaration table of a filter and the arms of its accessor
next to each other, and both settle contradictory tags on their own: the arms by
`FieldAttributes.shape`, compilation by `FieldTags.role`. The orders of precedence
agree (`shape_name_of_carries`), so the tables stand side by side entry by entry
(`Agrees`).
-/

namespace Criteria

theorem find?_name_eq_some_iff {α : Type} {all : List α} {name : α → String}
    (hall : ∀ a, all.find? (name · == name a) = some a) {text : String} {a : α} :
    all.find? (name · == text) = some a ↔ name a = text := by
  constructor
  · intro h
    have hfound := List.find?_some h
    exact eq_of_beq hfound
  · rintro rfl
    exact hall a

theorem Operation.ofVariant?_eq_some_iff {text : String} {op : Operation} :
    ofVariant? text = some op ↔ op.variant = text :=
  find?_name_eq_some_iff ofVariant?_variant

theorem Operator.ofVariant?_eq_some_iff {text : String} {operator : Operator} :
    ofVariant? text = some operator ↔ operator.variant = text :=
  find?_name_eq_some_iff ofVariant?_variant

namespace Derive

section Lists

variable {α β κ : Type}

theorem mapM_eq_some_iff {f : α → Option β} {xs : List α} {ys : List β} :
    xs.mapM f = some ys ↔ List.Forall₂ (fun x y => f x = some y) xs ys := by
  induction xs generalizing ys with
  | nil => simp [eq_comm]
  | cons x xs ih =>
      simp only [List.mapM_cons, Option.bind_eq_bind, Option.bind_eq_some_iff, Option.pure_def,
        Option.some_inj, ih, List.forall₂_cons_left_iff]
      constructor
      · rintro ⟨y, hy, rest, hrest, rfl⟩
        exact ⟨y, rest, hy, hrest, rfl⟩
      · rintro ⟨y, rest, hy, hrest, rfl⟩
        exact ⟨y, hy, rest, hrest, rfl⟩

theorem exists_mapM_eq_some {f : α → Option β} {xs : List α} (h : ∀ x ∈ xs, ∃ y, f x = some y) :
    ∃ ys, xs.mapM f = some ys := by
  simp only [mapM_eq_some_iff]
  induction xs with
  | nil => exact ⟨[], .nil⟩
  | cons x xs ih =>
      obtain ⟨⟨y, hy⟩, hxs⟩ := List.forall_mem_cons.mp h
      obtain ⟨ys, hys⟩ := ih hxs
      exact ⟨y :: ys, .cons hy hys⟩

theorem exists_of_forall₂ {R : α → β → Prop} {xs : List α} {ys : List β}
    (h : List.Forall₂ R xs ys) : ∀ x ∈ xs, ∃ y ∈ ys, R x y := by
  induction h with
  | nil => nofun
  | cons hxy _ ih =>
      refine List.forall_mem_cons.mpr ⟨⟨_, List.mem_cons_self, hxy⟩, fun x hx => ?_⟩
      obtain ⟨y, hy, hR⟩ := ih x hx
      exact ⟨y, List.mem_cons_of_mem _ hy, hR⟩

/-- In a table without repeated keys every entry is found under its key. -/
theorem lookup_map_of_nodup [BEq κ] [LawfulBEq κ] {key : α → κ} (val : α → β) {xs : List α}
    (hkeys : (xs.map key).Nodup) {x : α} (hx : x ∈ xs) :
    (xs.map fun x => (key x, val x)).lookup (key x) = some (val x) := by
  induction xs with
  | nil => cases hx
  | cons y ys ih =>
      rw [List.map_cons, List.nodup_cons] at hkeys
      obtain ⟨hy, hys⟩ := hkeys
      rcases List.mem_cons.mp hx with rfl | hx
      · exact List.lookup_cons_self
      · have hne : key x ≠ key y := fun heq => hy (heq ▸ List.mem_map_of_mem hx)
        rw [List.map_cons, List.lookup_cons, beq_false_of_ne hne]
        exact ih hys hx

end Lists

/-- The words for operations and operators are names of them. -/
structure FieldAttributes.NamesExist (a : FieldAttributes) : Prop where
  operation : ∀ w ∈ a.operation, ∃ op : Operation, op.variant = w.text
  group : ∀ w ∈ a.group, ∃ operator : Operator, operator.variant = w.text

/-- The tags say what the attributes say, with names for words. -/
structure Carries (tags : FieldTags) (a : FieldAttributes) : Prop where
  property : tags.property = a.property
  operation : tags.operation.map Operation.variant = a.operation.map Word.text
  nullable : tags.nullable = a.nullable
  between : tags.between = a.between
  join : tags.join = a.join
  group : tags.group.map Operator.variant = a.group.map Word.text
  period : tags.period = a.period

/-- Reads an optional word as an optional name. -/
def named? {α : Type} (ofName? : String → Option α) : Option Word → Option (Option α)
  | some w => (ofName? w.text).map some
  | none => some none

theorem named?_eq_some_iff {α : Type} {ofName? : String → Option α} {name : α → String}
    (hname : ∀ {text a}, ofName? text = some a ↔ name a = text) {word : Option Word}
    {named : Option α} :
    named? ofName? word = some named ↔ named.map name = word.map Word.text := by
  cases word with
  | none => simp [named?, eq_comm]
  | some w =>
      cases named with
      | none => simp [named?]
      | some a => simp [named?, hname]

theorem tags?_eq_bind (a : FieldAttributes) :
    a.tags? =
      (named? Operation.ofVariant? a.operation).bind fun operation =>
        (named? Operator.ofVariant? a.group).bind fun group =>
          some ⟨a.property, operation, a.nullable, a.between, a.join, group, a.period⟩ := by
  unfold FieldAttributes.tags? named?
  cases a.operation <;> cases a.group <;> rfl

/-- Tags are read off exactly where they say what the attributes say. -/
theorem tags?_eq_some_iff {a : FieldAttributes} {tags : FieldTags} :
    a.tags? = some tags ↔ Carries tags a := by
  have hoperation := @named?_eq_some_iff _ _ _ Operation.ofVariant?_eq_some_iff a.operation
  have hgroup := @named?_eq_some_iff _ _ _ Operator.ofVariant?_eq_some_iff a.group
  simp only [tags?_eq_bind, Option.bind_eq_some_iff, Option.some_inj, hoperation, hgroup]
  constructor
  · rintro ⟨operation, hop, group, hgr, rfl⟩
    exact ⟨rfl, hop, rfl, rfl, rfl, hgr, rfl⟩
  · rintro ⟨hproperty, hop, hnullable, hbetween, hjoin, hgr, hperiod⟩
    refine ⟨tags.operation, hop, tags.group, hgr, ?_⟩
    rw [← hproperty, ← hnullable, ← hbetween, ← hjoin, ← hperiod]

theorem exists_named {α : Type} {name : α → String} {word : Option Word}
    (h : ∀ w ∈ word, ∃ a, name a = w.text) :
    ∃ named : Option α, named.map name = word.map Word.text := by
  cases word with
  | none => exact ⟨none, rfl⟩
  | some w =>
      obtain ⟨a, ha⟩ := h w rfl
      exact ⟨some a, congrArg some ha⟩

theorem FieldAttributes.NamesExist.exists_tags {a : FieldAttributes} (h : a.NamesExist) :
    ∃ tags, a.tags? = some tags := by
  obtain ⟨operation, hoperation⟩ := exists_named h.operation
  obtain ⟨group, hgroup⟩ := exists_named h.group
  exact ⟨⟨a.property, operation, a.nullable, a.between, a.join, group, a.period⟩,
    tags?_eq_some_iff.mpr ⟨rfl, hoperation, rfl, rfl, rfl, hgroup, rfl⟩⟩

/-- The order of precedence is the same for the shape and for the role. -/
theorem shape_name_of_carries {tags : FieldTags} {a : FieldAttributes} (h : Carries tags a) :
    a.shape.name = tags.role.expects := by
  have hgroup : a.group.isSome = tags.group.isSome := by
    rw [← Option.isSome_map (f := Word.text), ← h.group, Option.isSome_map]
  rw [FieldAttributes.shape, ← h.between, ← h.join, hgroup, ← h.period, FieldTags.role]
  cases tags.between with
  | some bounds => rfl
  | none =>
      cases tags.join with
      | true => rfl
      | false =>
          cases tags.group with
          | some operator => rfl
          | none => cases tags.period <;> rfl

/-- The fields have different names. -/
def Item.HasDistinctNames (i : Item) : Prop :=
  ∀ fields ∈ i.fields?, (fields.map fun f => f.name.text).Nodup

/-- The fields that are not skipped. -/
def kept (declared : List (FieldDeclaration × FieldAttributes)) :
    List (FieldDeclaration × FieldAttributes) :=
  declared.filter fun p => !p.2.skip

theorem of_readFieldAttributes {fields : List FieldDeclaration}
    {declared : List (FieldDeclaration × FieldAttributes)}
    (h : readFieldAttributes fields = .ok declared) :
    declared.map Prod.fst = fields ∧
      ∀ p ∈ declared, FieldAttributes.read p.1.attributes = .ok p.2 := by
  have hentries := forall₂_of_mapM_ok h
  clear h
  induction hentries with
  | nil => exact ⟨rfl, List.forall_mem_nil _⟩
  | cons hp _ ih =>
      obtain ⟨a, ha, hp⟩ := exists_of_bind_eq_ok hp
      cases hp
      obtain ⟨hfirst, hrest⟩ := ih
      refine ⟨?_, List.forall_mem_cons.mpr ⟨ha, hrest⟩⟩
      rw [List.map_cons, hfirst]

/-- What an accepted item is made of. -/
theorem Item.of_expand {i : Item} {e : Expansion} (h : i.expand = .ok e) :
    ∃ declared, i.fields? = some (declared.map Prod.fst) ∧
      (∀ p ∈ declared, FieldAttributes.read p.1.attributes = .ok p.2) ∧
      e.fields = (kept declared).map (fun p => ⟨p.1.name.text, p.2⟩) ∧
      e.arms = (kept declared).map fun p =>
        ⟨p.1.name.text, p.1.name, p.2.shape, p.1.isOptional⟩ := by
  unfold expand at h
  obtain ⟨entities, -, h⟩ := exists_of_bind_eq_ok h
  cases hfields : i.fields? with
  | none =>
      rw [hfields] at h
      cases h
  | some fields =>
      rw [hfields] at h
      obtain ⟨declared, hdeclared, h⟩ := exists_of_bind_eq_ok h
      cases h
      obtain ⟨hfirst, hattributes⟩ := of_readFieldAttributes hdeclared
      exact ⟨declared, congrArg some hfirst.symm, hattributes, rfl, rfl⟩

/-- The tables of a derivation stand side by side, one entry for each field that is
kept. -/
structure Agrees (declared : List (FieldDeclaration × FieldAttributes)) (e : Expansion)
    (table : List FieldDescriptor) : Prop where
  descriptors : e.descriptors? = some table
  entries : List.Forall₂ (fun p d => d.name = p.1.name.text ∧ Carries d.tags p.2)
    (kept declared) table
  accessors : List.Forall₂ (fun p a => a.identifier = p.1.name ∧ a.isOptional = p.1.isOptional)
    (kept declared) e.arms
  arms : List.Forall₂ (fun d a => a.field = d.name ∧ a.shape.name = d.metadata.role.expects)
    table e.arms

section Agreement

variable {declared : List (FieldDeclaration × FieldAttributes)} {e : Expansion}
  {table : List FieldDescriptor}

theorem agrees_of_descriptors?
    (hfields : e.fields = (kept declared).map fun p => ⟨p.1.name.text, p.2⟩)
    (harms : e.arms = (kept declared).map fun p =>
      ⟨p.1.name.text, p.1.name, p.2.shape, p.1.isOptional⟩)
    (htable : e.descriptors? = some table) : Agrees declared e table := by
  have hentries : List.Forall₂ (fun p d => d.name = p.1.name.text ∧ Carries d.tags p.2)
      (kept declared) table := by
    have h := mapM_eq_some_iff.mp htable
    rw [hfields, List.forall₂_map_left_iff] at h
    refine h.imp fun p d hd => ?_
    obtain ⟨tags, htags, rfl⟩ := Option.map_eq_some_iff.mp hd
    exact ⟨rfl, tags?_eq_some_iff.mp htags⟩
  constructor
  case descriptors => exact htable
  case entries => exact hentries
  case accessors =>
    rw [harms, List.forall₂_map_right_iff]
    exact List.forall₂_same.mpr fun _ _ => ⟨rfl, rfl⟩
  case arms =>
    rw [harms, List.forall₂_map_right_iff]
    refine hentries.flip.imp fun d p hd => ?_
    obtain ⟨hname, hcarries⟩ := hd
    exact ⟨hname.symm, shape_name_of_carries hcarries⟩

theorem exists_descriptors? (hnames : ∀ f ∈ e.fields, f.attributes.NamesExist) :
    ∃ table, e.descriptors? = some table := by
  refine exists_mapM_eq_some fun f hf => ?_
  obtain ⟨tags, htags⟩ := (hnames f hf).exists_tags
  exact ⟨⟨f.name, tags⟩, Option.map_eq_some_iff.mpr ⟨tags, htags, rfl⟩⟩

namespace Agrees

variable (h : Agrees declared e table)

include h

/-- There is an arm for exactly the names of the table. -/
theorem map_field_arms : e.arms.map (·.field) = table.map (·.name) := by
  rw [← List.forall₂_eq_eq_eq, List.forall₂_map_left_iff, List.forall₂_map_right_iff]
  exact h.arms.flip.imp fun _ _ hd => hd.1

theorem map_name_table : table.map (·.name) = (kept declared).map fun p => p.1.name.text := by
  rw [← List.forall₂_eq_eq_eq, List.forall₂_map_left_iff, List.forall₂_map_right_iff]
  exact h.entries.flip.imp fun _ _ hp => hp.1

theorem nodup_fields (hdistinct : ((declared.map Prod.fst).map fun f => f.name.text).Nodup) :
    (e.arms.map (·.field)).Nodup := by
  rw [h.map_field_arms, h.map_name_table]
  rw [List.map_map] at hdistinct
  exact (List.filter_sublist.map _).nodup hdistinct

end Agrees

end Agreement

end Derive

end Criteria
