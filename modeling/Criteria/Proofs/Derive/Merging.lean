import Criteria.Proofs.Derive.Spelling

/-!
# Entries merged

What the attributes of a field declare is settled key by key: of the entries with one key
the last one decides, whatever stands between them and however they are spread over
attributes. One entry that is not spelled right anywhere spoils the derivation as a whole,
also in a field that is skipped. The main statement is `merges_or_fails`.
-/

namespace Criteria.Derive

section Merged

/-- The key that an entry is written with. -/
def FieldEntry.key : FieldEntry → String
  | property _ => "property"
  | operation _ => "operation"
  | nullable => "nullable"
  | join => "join"
  | skip => "skip"
  | group _ => "group"
  | between _ => "between"
  | period _ => "period"

/-- What entries declare: of each key the last one, a pair as a whole, and every flag that
is among them. -/
def merged (entries : List FieldEntry) : FieldAttributes where
  property := last? (fun | .property path => some path | _ => none) entries
  operation := last? (fun | .operation name => some name | _ => none) entries
  nullable := decide (.nullable ∈ entries)
  between := last? (fun | .between bounds => some bounds | _ => none) entries
  join := decide (.join ∈ entries)
  group := last? (fun | .group operator => some operator | _ => none) entries
  period := last? (fun | .period bounds => some bounds | _ => none) entries
  skip := decide (.skip ∈ entries)

theorem merged_concat (entries : List FieldEntry) (e : FieldEntry) :
    merged (entries ++ [e]) = (merged entries).set e := by
  cases e <;> simp [merged, FieldAttributes.set, last?_concat]

/-- Taking entries over one by one comes to the same. -/
theorem ofEntries_eq_merged (entries : List FieldEntry) :
    FieldAttributes.ofEntries entries = merged entries := by
  induction entries using List.reverseRecOn with
  | nil => rfl
  | append_singleton entries e ih =>
      rw [FieldAttributes.ofEntries_append, ih, merged_concat]
      rfl

variable {entries others : List FieldEntry}

theorem last?_congr {β : Type} {f : FieldEntry → Option β} {key : String}
    (hf : ∀ e, f e = none ∨ e.key = key)
    (h : entries.filter (·.key == key) = others.filter (·.key == key)) :
    last? f entries = last? f others := by
  have hkey (e : FieldEntry) : (if e.key == key then f e else none) = f e := by
    rcases hf e with he | he <;> simp [he]
  have hfilter (es : List FieldEntry) : last? f es = last? f (es.filter (·.key == key)) := by
    simp only [last?, List.filterMap_filter, hkey]
  rw [hfilter entries, h, ← hfilter others]

theorem mem_congr {e : FieldEntry}
    (h : entries.filter (·.key == e.key) = others.filter (·.key == e.key)) :
    e ∈ entries ↔ e ∈ others := by
  have hfilter (es : List FieldEntry) : e ∈ es ↔ e ∈ es.filter (·.key == e.key) := by
    simp
  rw [hfilter entries, h, ← hfilter others]

/-- Only the order of entries with the same key makes a difference. -/
theorem merged_congr (h : ∀ key, entries.filter (·.key == key) = others.filter (·.key == key)) :
    merged entries = merged others := by
  unfold merged
  congr 1
  case e_property => exact last?_congr (by rintro ⟨⟩ <;> simp [FieldEntry.key]) (h "property")
  case e_operation => exact last?_congr (by rintro ⟨⟩ <;> simp [FieldEntry.key]) (h "operation")
  case e_nullable => exact decide_eq_decide.mpr (mem_congr (h "nullable"))
  case e_between => exact last?_congr (by rintro ⟨⟩ <;> simp [FieldEntry.key]) (h "between")
  case e_join => exact decide_eq_decide.mpr (mem_congr (h "join"))
  case e_group => exact last?_congr (by rintro ⟨⟩ <;> simp [FieldEntry.key]) (h "group")
  case e_period => exact last?_congr (by rintro ⟨⟩ <;> simp [FieldEntry.key]) (h "period")
  case e_skip => exact decide_eq_decide.mpr (mem_congr (h "skip"))

end Merged

section Rearranging

/-- The key that a piece starts with, if it starts with a plain word. -/
def headKey? : List Token → Option String
  | .word ⟨key, false⟩ :: _ => some key
  | _ => none

/-- The pieces are the same, those with one key in the same order. -/
def SameByKey (ps qs : List (List Token)) : Prop :=
  ∀ key : Option String, ps.filter (headKey? · == key) = qs.filter (headKey? · == key)

variable {ps qs : List (List Token)} {piece : List Token} {e : FieldEntry}
  {entries others : List FieldEntry}

/-- Pieces with different keys may change places. -/
theorem sameByKey_swap {p q : List Token} (h : headKey? p ≠ headKey? q)
    (before after : List (List Token)) :
    SameByKey (before ++ p :: q :: after) (before ++ q :: p :: after) := by
  intro key
  by_cases hp : headKey? p = key
  · have hq : headKey? q ≠ key := fun hq => h (hp.trans hq.symm)
    simp [hp, hq]
  · simp [List.filter_cons, hp]

theorem SameByKey.mem_iff (h : SameByKey ps qs) : piece ∈ ps ↔ piece ∈ qs := by
  have hfilter (xs : List (List Token)) :
      piece ∈ xs ↔ piece ∈ xs.filter (headKey? · == headKey? piece) := by
    simp
  rw [hfilter ps, h, ← hfilter qs]

theorem Spells.headKey?_eq (h : Spells piece e) : headKey? piece = some e.key := by
  cases h with
  | property h | operation h | group h | between h | period h => cases h <;> rfl
  | nullable | join | skip => rfl

/-- A piece spells one entry at most. -/
theorem rightUnique_spells : Relator.RightUnique Spells := by
  have hnil : IsBreak [] := nofun
  have hread {piece : List Token} {e : FieldEntry} (h : Spells piece e) :
      readEntry readFieldEntry piece = .ok (e, []) :=
    (isSpelling_field.readEntry_iff hnil).mpr ⟨piece, (List.append_nil piece).symm, h⟩
  intro piece e e' h h'
  have hsame := (hread h).symm.trans (hread h')
  exact congrArg Prod.fst (Except.ok.inj hsame)

theorem filter_eq_of_sameByKey (h : SameByKey ps qs) (hps : List.Forall₂ Spells ps entries)
    (hqs : List.Forall₂ Spells qs others) (key : String) :
    entries.filter (·.key == key) = others.filter (·.key == key) := by
  have hfilter {ps : List (List Token)} {es : List FieldEntry} (hes : List.Forall₂ Spells ps es) :
      List.Forall₂ Spells (ps.filter (headKey? · == some key)) (es.filter (·.key == key)) := by
    refine List.rel_filter (fun piece e hspells => ?_) hes
    simp [hspells.headKey?_eq]
  have hright := hfilter hqs
  rw [← h (some key)] at hright
  exact rightUnique_spells.forall₂ (hfilter hps) hright

theorem exists_forall₂_spells (h : ∀ piece ∈ ps, ∃ e, Spells piece e) :
    ∃ entries, List.Forall₂ Spells ps entries := by
  induction ps with
  | nil => exact ⟨[], .nil⟩
  | cons piece ps ih =>
      obtain ⟨⟨e, he⟩, hps⟩ := List.forall_mem_cons.mp h
      obtain ⟨entries, hentries⟩ := ih hps
      exact ⟨e :: entries, .cons he hentries⟩

end Rearranging

section Malformed

/-- Keys of entries. -/
def fieldKeys : List String :=
  ["property", "operation", "nullable", "join", "skip", "group", "between", "period"]

/-- Keys of the sides of a pair, by its own key. -/
def sideKeys? : String → Option (String × String)
  | "between" => some ("left", "right")
  | "period" => some ("start", "end")
  | _ => none

/-- What can be wrong with an entry: its key is none, its value is missing, a side of its
pair is missing or something else is among them, or something other than an operator is in
its group. -/
inductive Malformed : List Token → Prop
  | unknownKey {piece : List Token} (h : ∀ key ∈ headKey? piece, key ∉ fieldKeys) :
      Malformed piece
  | valueMissing {key : String} (h : key ∈ ["property", "operation", "between", "period"]) :
      Malformed [.word ⟨key, false⟩]
  | nothingAssigned (key : String) (isJoint : Bool) :
      Malformed [.word ⟨key, false⟩, .sign '=' isJoint]
  | sideMissing {key lower upper side : String} {content : List Token}
      (hkey : sideKeys? key = some (lower, upper)) (hside : side = lower ∨ side = upper)
      (h : ∀ piece ∈ pieces content, headKey? piece ≠ some side) :
      Malformed [.word ⟨key, false⟩, .group .parenthesis content]
  | otherSide {key lower upper : String} {content piece : List Token}
      (hkey : sideKeys? key = some (lower, upper)) (hpiece : piece ∈ pieces content)
      (h : headKey? piece ≠ some lower ∧ headKey? piece ≠ some upper) :
      Malformed [.word ⟨key, false⟩, .group .parenthesis content]
  | otherGroupKey {content piece : List Token} (hpiece : piece ∈ pieces content)
      (h : headKey? piece ≠ some "operator") :
      Malformed [.word ⟨"group", false⟩, .group .parenthesis content]

variable {key lower upper : String} {piece content : List Token} {e : FieldEntry}

theorem key_mem_fieldKeys (e : FieldEntry) : e.key ∈ fieldKeys := by
  cases e <;> simp [FieldEntry.key, fieldKeys]

theorem Spells.key_of_alone (h : Spells [.word ⟨key, false⟩] e) :
    key ∈ ["nullable", "join", "skip", "group"] := by
  cases h with
  | nullable | join | skip => decide
  | group h =>
      cases h with
      | alone => decide
  | property h | operation h | between h | period h => cases h

/-- Behind the key of a pair or a group stand its sides or its operators. -/
theorem Spells.of_nested (h : Spells [.word ⟨key, false⟩, .group .parenthesis content] e) :
    (key = "group" ∧ ∃ words, List.Forall₂ (Assigns "operator" IsName) (pieces content) words) ∨
      ∃ lower upper sides left right, sideKeys? key = some (lower, upper) ∧
        List.Forall₂ (SpellsSide lower upper) (pieces content) sides ∧
          last? Side.lower? sides = some left ∧ last? Side.upper? sides = some right := by
  cases h with
  | property h | operation h => cases h
  | group h =>
      cases h with
      | operator hwords hlast => exact Or.inl ⟨rfl, _, hwords⟩
  | between h =>
      cases h with
      | intro hsides hleft hright => exact Or.inr ⟨_, _, _, _, _, rfl, hsides, hleft, hright⟩
  | period h =>
      cases h with
      | intro hsides hleft hright => exact Or.inr ⟨_, _, _, _, _, rfl, hsides, hleft, hright⟩

theorem Assigns.headKey?_eq {α : Type} {Value : Token → α → Prop} {a : α}
    (h : Assigns key Value piece a) : headKey? piece = some key := by
  cases h
  rfl

theorem exists_of_last? {α β : Type} {f : α → Option β} {xs : List α} {b : β}
    (h : last? f xs = some b) : ∃ x ∈ xs, f x = some b :=
  List.mem_filterMap.mp (List.mem_of_getLast? h)

/-- Both sides of a pair are there, and nothing else. -/
theorem Spells.sides (hkey : sideKeys? key = some (lower, upper))
    (h : Spells [.word ⟨key, false⟩, .group .parenthesis content] e) :
    (∃ piece ∈ pieces content, headKey? piece = some lower) ∧
      (∃ piece ∈ pieces content, headKey? piece = some upper) ∧
      ∀ piece ∈ pieces content, headKey? piece = some lower ∨ headKey? piece = some upper := by
  rcases h.of_nested with ⟨rfl, -⟩ | ⟨_, _, sides, left, right, hkey', hsides, hleft, hright⟩
  · cases hkey
  obtain ⟨rfl, rfl⟩ := Prod.mk.inj (Option.some.inj (hkey.symm.trans hkey'))
  have hspelled := exists_of_forall₂ hsides.flip
  refine ⟨?_, ?_, ?_⟩
  · obtain ⟨side, hside, hyields⟩ := exists_of_last? hleft
    obtain ⟨piece, hpiece, hspells⟩ := hspelled side hside
    cases hspells with
    | lower h => exact ⟨piece, hpiece, h.headKey?_eq⟩
    | upper h => cases hyields
  · obtain ⟨side, hside, hyields⟩ := exists_of_last? hright
    obtain ⟨piece, hpiece, hspells⟩ := hspelled side hside
    cases hspells with
    | lower h => cases hyields
    | upper h => exact ⟨piece, hpiece, h.headKey?_eq⟩
  · intro piece hpiece
    obtain ⟨side, -, hspells⟩ := exists_of_forall₂ hsides piece hpiece
    cases hspells with
    | lower h => exact Or.inl h.headKey?_eq
    | upper h => exact Or.inr h.headKey?_eq

theorem Malformed.not_spells (h : Malformed piece) : ¬ Spells piece e := by
  intro hspells
  cases h with
  | unknownKey h => exact h e.key hspells.headKey?_eq (key_mem_fieldKeys e)
  | @valueMissing key h =>
      have hdisjoint : ∀ key ∈ ["property", "operation", "between", "period"],
          key ∉ ["nullable", "join", "skip", "group"] := by decide
      exact hdisjoint key h hspells.key_of_alone
  | nothingAssigned key isJoint =>
      cases hspells with
      | property h | operation h | group h | between h | period h => cases h
  | sideMissing hkey hside h =>
      obtain ⟨⟨p, hp, hlower⟩, ⟨q, hq, hupper⟩, -⟩ := hspells.sides hkey
      rcases hside with rfl | rfl
      · exact h p hp hlower
      · exact h q hq hupper
  | otherSide hkey hpiece h =>
      obtain ⟨-, -, hsides⟩ := hspells.sides hkey
      exact (hsides _ hpiece).elim h.1 h.2
  | otherGroupKey hpiece h =>
      rcases hspells.of_nested with ⟨-, words, hwords⟩ | ⟨_, _, _, _, _, hkey, -⟩
      · obtain ⟨w, -, hw⟩ := exists_of_forall₂ hwords _ hpiece
        exact h hw.headKey?_eq
      · cases hkey

end Malformed

section Reading

variable {attributes others : List Attribute} {entries : List FieldEntry} {a : FieldAttributes}

theorem read_eq_ok_iff : FieldAttributes.read attributes = .ok a ↔
    HaveLists attributes ∧
      ∃ entries, List.Forall₂ Spells (piecesOf attributes) entries ∧ a = merged entries := by
  rw [FieldAttributes.read, map_eq_ok_iff]
  simp only [entriesOf_eq_ok_iff isSpelling_field, ofEntries_eq_merged, and_assoc, exists_and_left]

theorem read_eq_of_sameByKey (hothers : HaveLists others)
    (hentries : List.Forall₂ Spells (piecesOf attributes) entries)
    (hsame : SameByKey (piecesOf attributes) (piecesOf others)) :
    FieldAttributes.read others = .ok (merged entries) := by
  obtain ⟨fs, hfs⟩ : ∃ fs, List.Forall₂ Spells (piecesOf others) fs := by
    refine exists_forall₂_spells fun piece hpiece => ?_
    obtain ⟨e, -, he⟩ := exists_of_forall₂ hentries piece (hsame.mem_iff.mpr hpiece)
    exact ⟨e, he⟩
  rw [merged_congr (filter_eq_of_sameByKey hsame hentries hfs)]
  exact read_eq_ok_iff.mpr ⟨hothers, fs, hfs, rfl⟩

/-- An entry that is not spelled right spoils the derivation, wherever it stands. -/
theorem exists_expand_eq_error {i : Item} {fields : List FieldDeclaration} {f : FieldDeclaration}
    {piece : List Token} (hfields : i.fields? = some fields) (hf : f ∈ fields)
    (hpiece : piece ∈ piecesOf f.attributes) (h : ¬ ∃ e, Spells piece e) :
    ∃ error, i.expand = .error error := by
  cases hexpand : i.expand with
  | error error => exact ⟨error, rfl⟩
  | ok expansion =>
      obtain ⟨declared, hdeclared, hread, -⟩ := Item.of_expand hexpand
      obtain rfl := Option.some.inj (hfields.symm.trans hdeclared)
      obtain ⟨p, hp, rfl⟩ := List.mem_map.mp hf
      obtain ⟨-, entries, hentries, -⟩ := read_eq_ok_iff.mp (hread p hp)
      obtain ⟨e, -, he⟩ := exists_of_forall₂ hentries piece hpiece
      exact absurd ⟨e, he⟩ h

end Reading

/-- Attributes whose entries are all spelled right are read as these entries merged, and
so are any others with the same entries, spread differently or with entries of different
keys in another order. If one entry is malformed, or not spelled right at all, no filter is
derived from an item that has a field with these attributes, even if the field is skipped. -/
theorem merges_or_fails (attributes : List Attribute) (hlists : HaveLists attributes) :
    ((∀ piece ∈ piecesOf attributes, ∃ e, Spells piece e) →
      ∃ entries, List.Forall₂ Spells (piecesOf attributes) entries ∧
        FieldAttributes.read attributes = .ok (merged entries) ∧
          ∀ others, HaveLists others → SameByKey (piecesOf attributes) (piecesOf others) →
            FieldAttributes.read others = .ok (merged entries)) ∧
    (∀ piece ∈ piecesOf attributes, (Malformed piece ∨ ¬ ∃ e, Spells piece e) →
      ∀ (i : Item) (fields : List FieldDeclaration), i.fields? = some fields →
        (∃ f ∈ fields, f.attributes = attributes) →
          (∃ error, i.expand = .error error) ∧
            ∀ text ts, tokens? text = some ts → readItem ts = .ok i →
              ∃ error, expand text = .error error) := by
  refine ⟨?_, ?_⟩
  · intro hspelled
    obtain ⟨entries, hentries⟩ := exists_forall₂_spells hspelled
    refine ⟨entries, hentries, read_eq_ok_iff.mpr ⟨hlists, entries, hentries, rfl⟩, ?_⟩
    exact fun others hothers hsame => read_eq_of_sameByKey hothers hentries hsame
  · rintro piece hpiece hwrong i fields hfields ⟨f, hf, rfl⟩
    have hunspelled : ¬ ∃ e, Spells piece e := by
      rcases hwrong with hmalformed | hunspelled
      · exact fun ⟨_, he⟩ => hmalformed.not_spells he
      · exact hunspelled
    obtain ⟨error, herror⟩ := exists_expand_eq_error hfields hf hpiece hunspelled
    refine ⟨⟨error, herror⟩, fun text ts htokens hitem => ⟨error, ?_⟩⟩
    simp only [expand, htokens, hitem]
    exact herror

/-- The group is set back by the second attribute, and a skipped field is read as well. -/
theorem merges_or_fails_group :
    let key (text : String) : Token := .word ⟨text, false⟩
    let comma : Token := .sign ',' false
    let operator : Token := .group .parenthesis [key "operator", .sign '=' false, key "Or"]
    let apart : List Attribute :=
      [⟨true, .list [key "group", operator, comma, key "join"]⟩, ⟨true, .list [key "group"]⟩]
    let together : List Attribute :=
      [⟨true, .list [key "join", comma, key "group", operator, comma, key "group", comma]⟩]
    let spoiled : List Attribute := [⟨true, .list [key "skip", comma, key "range"]⟩]
    let item : Item := ⟨[], ⟨"Search", false⟩, [], [], some [⟨spoiled, ⟨"age", false⟩, false⟩]⟩
    FieldAttributes.read apart = .ok { join := true, group := some defaultGroup } ∧
      FieldAttributes.read together = .ok { join := true, group := some defaultGroup } ∧
      ∃ error, item.expand = .error error := by
  intro key comma operator apart together spoiled item
  have hlists : HaveLists apart := List.forall_mem_cons.mpr
    ⟨fun _ => ⟨_, rfl⟩, List.forall_mem_singleton.mpr fun _ => ⟨_, rfl⟩⟩
  have hspelled : List.Forall₂ Spells (piecesOf apart)
      [.group ⟨"Or", false⟩, .join, .group defaultGroup] :=
    .cons (.group (.operator (.cons (.intro (.intro (by decide))) .nil) rfl))
      (.cons .join (.cons (.group .alone) .nil))
  have hsame : SameByKey (piecesOf apart) (piecesOf together) :=
    sameByKey_swap (by decide) [] [[key "group"]]
  have hrange : Malformed [key "range"] := .unknownKey (by rintro _ ⟨⟩; decide)
  obtain ⟨hmerges, -⟩ := merges_or_fails apart hlists
  obtain ⟨entries, hentries, hread, hothers⟩ := hmerges fun piece hpiece =>
    (exists_of_forall₂ hspelled piece hpiece).imp fun _ h => h.2
  obtain rfl := rightUnique_spells.forall₂ hspelled hentries
  obtain ⟨-, hfails⟩ := merges_or_fails spoiled (List.forall_mem_singleton.mpr fun _ => ⟨_, rfl⟩)
  obtain ⟨herror, -⟩ := hfails [key "range"] (List.mem_cons_of_mem _ List.mem_cons_self)
    (Or.inl hrange) item _ rfl ⟨_, List.mem_cons_self, rfl⟩
  exact ⟨hread, hothers together (List.forall_mem_singleton.mpr fun _ => ⟨_, rfl⟩) hsame, herror⟩

end Criteria.Derive
