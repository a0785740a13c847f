import Criteria.Proofs.Derive.Entry
import Mathlib.Data.List.Induction

/-!
# How entries are spelled

The entries of a field's attributes as a grammar, which knows neither readers nor what is
left behind them: a key alone, a key with a value, or a key with sides or an operator in
parentheses, the last one of each kind deciding. Reading accepts exactly what the grammar
spells (`isSpelling_field`).
-/

namespace Criteria.Derive

section Last

variable {α β : Type} {f : α → Option β}

/-- What the last member yields that yields anything. -/
def last? (f : α → Option β) (xs : List α) : Option β := (xs.filterMap f).getLast?

theorem last?_concat (f : α → Option β) (xs : List α) (x : α) :
    last? f (xs ++ [x]) = (f x).or (last? f xs) := by
  rw [last?, List.filterMap_append, List.getLast?_append]
  cases hx : f x <;> simp [last?, hx]

end Last

/-- A key is assigned a value. -/
inductive Assigns {α : Type} (key : String) (Value : Token → α → Prop) : List Token → α → Prop
  | intro {isJoint : Bool} {t : Token} {a : α} (hvalue : Value t a) :
      Assigns key Value [.word ⟨key, false⟩, .sign '=' isJoint, t] a

/-- A literal that stands for a text. -/
inductive IsText : Token → String → Prop
  | intro (written text : String) : IsText (.literal ⟨written, .text text⟩) text

/-- A word that may be a name. -/
inductive IsName : Token → Word → Prop
  | intro {w : Word} (hname : w.isName = true) : IsName (.word w) w

/-- A side of a pair of properties. -/
inductive SpellsSide (lower upper : String) : List Token → Side → Prop
  | lower {piece : List Token} {s : String} (h : Assigns lower IsText piece s) :
      SpellsSide lower upper piece (.lower s)
  | upper {piece : List Token} {s : String} (h : Assigns upper IsText piece s) :
      SpellsSide lower upper piece (.upper s)

def Side.lower? : Side → Option String
  | lower s => some s
  | upper _ => none

def Side.upper? : Side → Option String
  | lower _ => none
  | upper s => some s

/-- A pair in parentheses behind its key. Sides may be repeated, none may be missing. -/
inductive SpellsPair (key lower upper : String) : List Token → PropertyPair → Prop
  | intro {content : List Token} {sides : List Side} {left right : String}
      (hsides : List.Forall₂ (SpellsSide lower upper) (pieces content) sides)
      (hleft : last? Side.lower? sides = some left)
      (hright : last? Side.upper? sides = some right) :
      SpellsPair key lower upper [.word ⟨key, false⟩, .group .parenthesis content] ⟨left, right⟩

/-- A group, alone or with its operator in parentheses. -/
inductive SpellsGroup : List Token → Word → Prop
  | alone : SpellsGroup [.word ⟨"group", false⟩] ⟨"And", false⟩
  | operator {content : List Token} {words : List Word} {w : Word}
      (hwords : List.Forall₂ (Assigns "operator" IsName) (pieces content) words)
      (hlast : words.getLast? = some w) :
      SpellsGroup [.word ⟨"group", false⟩, .group .parenthesis content] w

/-- An entry of a field's attribute. -/
inductive Spells : List Token → FieldEntry → Prop
  | property {piece : List Token} {s : String} (h : Assigns "property" IsText piece s) :
      Spells piece (.property s)
  | operation {piece : List Token} {w : Word} (h : Assigns "operation" IsName piece w) :
      Spells piece (.operation w)
  | nullable : Spells [.word ⟨"nullable", false⟩] .nullable
  | join : Spells [.word ⟨"join", false⟩] .join
  | skip : Spells [.word ⟨"skip", false⟩] .skip
  | group {piece : List Token} {w : Word} (h : SpellsGroup piece w) : Spells piece (.group w)
  | between {piece : List Token} {bounds : PropertyPair}
      (h : SpellsPair "between" "left" "right" piece bounds) : Spells piece (.between bounds)
  | period {piece : List Token} {bounds : PropertyPair}
      (h : SpellsPair "period" "start" "end" piece bounds) : Spells piece (.period bounds)

section Shape

variable {α : Type} {read : Key → Reader α} {S : List Token → α → Prop}
  {piece rest : List Token} {a : α}

/-- A key, alone or with a value or a list of its own. -/
inductive IsKeyed : List Token → Prop
  | alone (key : String) : IsKeyed [.word ⟨key, false⟩]
  | assigned (key : String) (isJoint : Bool) {t : Token} (ht : t.isSign ',' = false) :
      IsKeyed [.word ⟨key, false⟩, .sign '=' isJoint, t]
  | nested (key : String) (content : List Token) :
      IsKeyed [.word ⟨key, false⟩, .group .parenthesis content]

theorem IsKeyed.isUnbroken (h : IsKeyed piece) : IsUnbroken piece := by
  cases h with
  | alone key => exact List.forall_mem_singleton.mpr rfl
  | assigned key isJoint ht =>
      exact List.forall_mem_cons.mpr ⟨rfl, List.forall_mem_cons.mpr
        ⟨rfl, List.forall_mem_singleton.mpr ht⟩⟩
  | nested key content =>
      exact List.forall_mem_cons.mpr ⟨rfl, List.forall_mem_singleton.mpr rfl⟩

/-- No path goes on from the key. -/
theorem IsKeyed.exists_key (h : IsKeyed piece) (hrest : IsBreak rest) :
    ∃ key body, piece = .word ⟨key, false⟩ :: body ∧ aheadColons (body ++ rest) = false := by
  cases h with
  | alone key => exact ⟨key, [], rfl, aheadColons_eq_false_of_isBreak hrest⟩
  | assigned key isJoint ht =>
      refine ⟨key, _, rfl, ?_⟩
      cases isJoint <;> rfl
  | nested key content => exact ⟨key, _, rfl, rfl⟩

/-- Behind the key a reader takes exactly what spells an entry together with it. -/
structure TakesBehind (key : String) (read : Reader α) (S : List Token → α → Prop) : Prop where
  ok_iff : ∀ {behind a rest}, IsBreak rest → (read behind = .ok (a, rest) ↔
    ∃ body, behind = body ++ rest ∧ S (.word ⟨key, false⟩ :: body) a)

theorem isSpelling_of_takesBehind (hother : ∀ ts taken, read .other ts ≠ .ok taken)
    (hkeyed : ∀ {piece a}, S piece a → IsKeyed piece)
    (hread : ∀ key, TakesBehind key (read (.name key)) S) : IsSpelling read S where
  isUnbroken h := (hkeyed h).isUnbroken
  readEntry_iff {ts a rest} hrest := by
    rw [readEntry_eq_ok_iff hother]
    constructor
    · rintro ⟨key, behind, rfl, -, h⟩
      obtain ⟨body, rfl, hspells⟩ := ((hread key).ok_iff hrest).mp h
      exact ⟨_, rfl, hspells⟩
    · rintro ⟨piece, rfl, hspells⟩
      obtain ⟨key, body, rfl, hcolons⟩ := (hkeyed hspells).exists_key hrest
      exact ⟨key, body ++ rest, rfl, hcolons, ((hread key).ok_iff hrest).mpr ⟨body, rfl, hspells⟩⟩

/-- What is taken may be wrapped. -/
theorem TakesBehind.map {β : Type} {key : String} {read : Reader α} (h : TakesBehind key read S)
    (f : α → β) {behind : List Token} {b : β} (hrest : IsBreak rest) :
    (read behind).map (fun taken => (f taken.1, taken.2)) = .ok (b, rest) ↔
      ∃ body a, behind = body ++ rest ∧ S (.word ⟨key, false⟩ :: body) a ∧ b = f a := by
  rw [map_eq_ok_iff]
  constructor
  · rintro ⟨⟨a, left⟩, hread, htaken⟩
    cases htaken
    obtain ⟨body, hbehind, hS⟩ := (h.ok_iff hrest).mp hread
    exact ⟨body, a, hbehind, hS, rfl⟩
  · rintro ⟨body, a, hbehind, hS, rfl⟩
    exact ⟨(a, rest), (h.ok_iff hrest).mpr ⟨body, hbehind, hS⟩, rfl⟩

end Shape

section Values

variable {α : Type} {key : String} {read : Reader α} {Value : Token → α → Prop}
  {ts rest piece : List Token} {a : α}

theorem readString_eq_ok_iff {s : String} :
    readString ts = .ok (s, rest) ↔ ∃ t, ts = t :: rest ∧ IsText t s := by
  constructor
  · intro h
    unfold readString at h
    split at h
    · cases h
      exact ⟨_, rfl, .intro _ _⟩
    · cases h
  · rintro ⟨t, rfl, ⟨⟩⟩
    rfl

theorem readName_eq_ok_iff {w : Word} :
    readName ts = .ok (w, rest) ↔ ∃ t, ts = t :: rest ∧ IsName t w := by
  constructor
  · intro h
    unfold readName at h
    split at h
    · split at h
      · next hname =>
          cases h
          exact ⟨_, rfl, .intro hname⟩
      · cases h
    · cases h
  · rintro ⟨t, rfl, hname⟩
    cases hname with
    | intro hname => exact if_pos hname

theorem Assigns.isKeyed (h : Assigns key Value piece a)
    (hcomma : ∀ {t a}, Value t a → t.isSign ',' = false) : IsKeyed piece := by
  cases h with
  | intro hvalue => exact .assigned key _ (hcomma hvalue)

theorem isSign_of_isText {t : Token} {s : String} (h : IsText t s) : t.isSign ',' = false := by
  cases h
  rfl

theorem isSign_of_isName {t : Token} {w : Word} (h : IsName t w) : t.isSign ',' = false := by
  cases h
  rfl

theorem isSign_eq_true_iff {t : Token} {c : Char} :
    t.isSign c = true ↔ ∃ isJoint, t = .sign c isJoint := by
  cases t <;> simp [Token.isSign]

theorem takesBehind_assigned
    (hread : ∀ {ts a rest}, read ts = .ok (a, rest) ↔ ∃ t, ts = t :: rest ∧ Value t a)
    (key : String) : TakesBehind key (readAssigned read) (Assigns key Value) := by
  refine ⟨fun {behind a rest} _ => ?_⟩
  have hbind : readAssigned read behind = readSign '=' behind >>= read := rfl
  rw [hbind, bind_eq_ok_iff]
  constructor
  · rintro ⟨left, hsign, h⟩
    obtain ⟨t, rfl, hvalue⟩ := hread.mp h
    cases behind with
    | nil => cases hsign
    | cons equality behind =>
        obtain ⟨hequality, rfl⟩ := readSign_cons_eq_ok_iff.mp hsign
        obtain ⟨isJoint, rfl⟩ := isSign_eq_true_iff.mp hequality
        exact ⟨[.sign '=' isJoint, t], rfl, .intro hvalue⟩
  · rintro ⟨body, rfl, ⟨hvalue⟩⟩
    exact ⟨_, rfl, hread.mpr ⟨_, rfl, hvalue⟩⟩

theorem takesBehind_text (key : String) :
    TakesBehind key (readAssigned readString) (Assigns key IsText) :=
  takesBehind_assigned readString_eq_ok_iff key

theorem takesBehind_name (key : String) :
    TakesBehind key (readAssigned readName) (Assigns key IsName) :=
  takesBehind_assigned readName_eq_ok_iff key

theorem Assigns.key_eq {first : String} {body : List Token}
    (h : Assigns key Value (.word ⟨first, false⟩ :: body) a) : first = key := by
  cases h
  rfl

end Values

section Sides

variable {key lower upper : String} {piece : List Token}

theorem isSpelling_side (hne : lower ≠ upper) :
    IsSpelling (readSide lower upper) (SpellsSide lower upper) := by
  apply isSpelling_of_takesBehind
  · intro ts taken h
    simp [readSide] at h
  · intro piece side hside
    cases hside with
    | lower h | upper h => exact h.isKeyed isSign_of_isText
  · refine fun key => ⟨fun {behind side rest} hrest => ?_⟩
    unfold readSide
    constructor
    · intro h
      split_ifs at h with hlower hupper
      · cases hlower
        obtain ⟨body, s, rfl, hbody, rfl⟩ := ((takesBehind_text _).map Side.lower hrest).mp h
        exact ⟨body, rfl, .lower hbody⟩
      · cases hupper
        obtain ⟨body, s, rfl, hbody, rfl⟩ := ((takesBehind_text _).map Side.upper hrest).mp h
        exact ⟨body, rfl, .upper hbody⟩
    · rintro ⟨body, rfl, hside⟩
      cases hside with
      | lower h =>
          obtain rfl := h.key_eq
          rw [if_pos rfl]
          exact ((takesBehind_text key).map Side.lower hrest).mpr ⟨body, _, rfl, h, rfl⟩
      | upper h =>
          obtain rfl := h.key_eq
          have hlower : Key.name key ≠ .name lower := fun heq => hne (Key.name.inj heq).symm
          rw [if_neg hlower, if_pos rfl]
          exact ((takesBehind_text key).map Side.upper hrest).mpr ⟨body, _, rfl, h, rfl⟩

theorem lastLower?_eq (sides : List Side) : lastLower? sides = last? Side.lower? sides := by
  induction sides using List.reverseRecOn with
  | nil => rfl
  | append_singleton sides side ih =>
      rw [last?_concat, ← ih, lastLower?, List.foldl_concat]
      cases side <;> rfl

theorem lastUpper?_eq (sides : List Side) : lastUpper? sides = last? Side.upper? sides := by
  induction sides using List.reverseRecOn with
  | nil => rfl
  | append_singleton sides side ih =>
      rw [last?_concat, ← ih, lastUpper?, List.foldl_concat]
      cases side <;> rfl

theorem takesBehind_pair (hne : lower ≠ upper) (key : String) :
    TakesBehind key (readPair lower upper) (SpellsPair key lower upper) := by
  refine ⟨fun {behind bounds rest} hrest => ?_⟩
  unfold readPair
  rw [bind_eq_ok_iff]
  constructor
  · rintro ⟨⟨sides, left⟩, hnested, h⟩
    obtain ⟨content, rfl, -, hsides⟩ := (readNested_eq_ok_iff (isSpelling_side hne)).mp hnested
    dsimp only at h
    split at h
    · next hleft hright =>
        cases h
        rw [lastLower?_eq] at hleft
        rw [lastUpper?_eq] at hright
        exact ⟨[.group .parenthesis content], rfl, .intro hsides hleft hright⟩
    · cases h
  · rintro ⟨body, rfl, hpair⟩
    cases hpair with
    | @intro content sides left right hsides hleft hright =>
        have hsome : sides ≠ [] := by
          rintro rfl
          cases hleft
        rw [← lastLower?_eq] at hleft
        rw [← lastUpper?_eq] at hright
        refine ⟨(sides, rest), (readNested_eq_ok_iff (isSpelling_side hne)).mpr
          ⟨content, rfl, hsome, hsides⟩, ?_⟩
        simp only [hleft, hright]
        rfl

end Sides

section Group

theorem isSpelling_operator : IsSpelling readGroupEntry (Assigns "operator" IsName) := by
  apply isSpelling_of_takesBehind
  · intro ts taken h
    simp [readGroupEntry] at h
  · exact fun h => h.isKeyed isSign_of_isName
  · refine fun key => ⟨fun {behind w rest} hrest => ?_⟩
    unfold readGroupEntry
    constructor
    · intro h
      split_ifs at h with hkey
      cases hkey
      exact ((takesBehind_name _).ok_iff hrest).mp h
    · rintro ⟨body, rfl, h⟩
      obtain rfl := h.key_eq
      rw [if_pos rfl]
      exact ((takesBehind_name _).ok_iff hrest).mpr ⟨body, rfl, h⟩

theorem readGroup_of_isBreak {rest : List Token} (hrest : IsBreak rest) :
    readGroup rest = .ok (defaultGroup, rest) := by
  unfold readGroup
  split
  · next content behind =>
      cases hrest _ rfl
  · rfl

theorem takesBehind_group : TakesBehind "group" readGroup SpellsGroup := by
  refine ⟨fun {behind w rest} hrest => ?_⟩
  constructor
  · intro h
    unfold readGroup at h
    split at h
    · obtain ⟨⟨words, left⟩, hnested, htaken⟩ := map_eq_ok_iff.mp h
      obtain ⟨content, hbehind, hne, hwords⟩ := (readNested_eq_ok_iff isSpelling_operator).mp hnested
      cases htaken
      refine ⟨[.group .parenthesis content], hbehind, ?_⟩
      refine .operator hwords ?_
      rw [List.getLast?_eq_some_getLast hne]
      rfl
    · cases h
      exact ⟨[], rfl, .alone⟩
  · rintro ⟨body, rfl, hgroup⟩
    cases hgroup with
    | alone => exact readGroup_of_isBreak hrest
    | @operator content words w hwords hlast =>
        have hsome : words ≠ [] := by
          rintro rfl
          cases hlast
        have hnested : readNested readGroupEntry (.group .parenthesis content :: rest) =
            .ok (words, rest) :=
          (readNested_eq_ok_iff isSpelling_operator).mpr ⟨content, rfl, hsome, hwords⟩
        rw [List.cons_append, List.nil_append, readGroup, hnested]
        exact congrArg (fun found => Except.ok (found.getD defaultGroup, rest)) hlast

end Group

section Fields

theorem SpellsPair.isKeyed {key lower upper : String} {piece : List Token}
    {bounds : PropertyPair} (h : SpellsPair key lower upper piece bounds) : IsKeyed piece := by
  cases h
  exact .nested key _

theorem Spells.isKeyed {piece : List Token} {e : FieldEntry} (h : Spells piece e) :
    IsKeyed piece := by
  cases h with
  | property h => exact h.isKeyed isSign_of_isText
  | operation h => exact h.isKeyed isSign_of_isName
  | nullable | join | skip => exact .alone _
  | group h =>
      cases h with
      | alone => exact .alone _
      | operator => exact .nested _ _
  | between h | period h => exact h.isKeyed

theorem SpellsPair.key_eq {first key lower upper : String} {body : List Token}
    {bounds : PropertyPair} (h : SpellsPair key lower upper (.word ⟨first, false⟩ :: body) bounds) :
    first = key := by
  cases h
  rfl

theorem SpellsGroup.key_eq {first : String} {body : List Token} {w : Word}
    (h : SpellsGroup (.word ⟨first, false⟩ :: body) w) : first = "group" := by
  cases h <;> rfl

theorem takesBehind_between :
    TakesBehind "between" (readPair "left" "right") (SpellsPair "between" "left" "right") :=
  takesBehind_pair (by decide) "between"

theorem takesBehind_period :
    TakesBehind "period" (readPair "start" "end") (SpellsPair "period" "start" "end") :=
  takesBehind_pair (by decide) "period"

theorem takesBehind_field (key : String) :
    TakesBehind key (readFieldEntry (.name key)) Spells := by
  -- the key is left open, so that either side settles which one it is
  refine ⟨fun {behind e rest} hrest => ?_⟩
  constructor
  · intro h
    unfold readFieldEntry at h
    split at h
    case h_1 hkey =>
      cases hkey
      obtain ⟨body, s, rfl, hs, rfl⟩ := ((takesBehind_text _).map FieldEntry.property hrest).mp h
      exact ⟨body, rfl, .property hs⟩
    case h_2 hkey =>
      cases hkey
      obtain ⟨body, w, rfl, hw, rfl⟩ := ((takesBehind_name _).map FieldEntry.operation hrest).mp h
      exact ⟨body, rfl, .operation hw⟩
    case h_3 hkey =>
      cases hkey
      cases h
      exact ⟨[], rfl, .nullable⟩
    case h_4 hkey =>
      cases hkey
      cases h
      exact ⟨[], rfl, .join⟩
    case h_5 hkey =>
      cases hkey
      cases h
      exact ⟨[], rfl, .skip⟩
    case h_6 hkey =>
      cases hkey
      obtain ⟨body, w, rfl, hw, rfl⟩ := (takesBehind_group.map FieldEntry.group hrest).mp h
      exact ⟨body, rfl, .group hw⟩
    case h_7 hkey =>
      cases hkey
      obtain ⟨body, bounds, rfl, hbounds, rfl⟩ :=
        (takesBehind_between.map FieldEntry.between hrest).mp h
      exact ⟨body, rfl, .between hbounds⟩
    case h_8 hkey =>
      cases hkey
      obtain ⟨body, bounds, rfl, hbounds, rfl⟩ :=
        (takesBehind_period.map FieldEntry.period hrest).mp h
      exact ⟨body, rfl, .period hbounds⟩
    case h_9 => cases h
  · rintro ⟨body, rfl, hspells⟩
    cases hspells with
    | property h =>
        obtain rfl := h.key_eq
        exact ((takesBehind_text _).map FieldEntry.property hrest).mpr ⟨body, _, rfl, h, rfl⟩
    | operation h =>
        obtain rfl := h.key_eq
        exact ((takesBehind_name _).map FieldEntry.operation hrest).mpr ⟨body, _, rfl, h, rfl⟩
    | nullable | join | skip => rfl
    | group h =>
        obtain rfl := h.key_eq
        exact (takesBehind_group.map FieldEntry.group hrest).mpr ⟨body, _, rfl, h, rfl⟩
    | between h =>
        obtain rfl := h.key_eq
        exact (takesBehind_between.map FieldEntry.between hrest).mpr ⟨body, _, rfl, h, rfl⟩
    | period h =>
        obtain rfl := h.key_eq
        exact (takesBehind_period.map FieldEntry.period hrest).mpr ⟨body, _, rfl, h, rfl⟩

/-- The entries of a field are read exactly where they are spelled. -/
theorem isSpelling_field : IsSpelling readFieldEntry Spells := by
  apply isSpelling_of_takesBehind
  · nofun
  · exact Spells.isKeyed
  · exact takesBehind_field

end Fields

end Criteria.Derive
