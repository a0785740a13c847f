import Criteria.Proofs.Derive.Table

/-!
# Entries between commas

The entries of an attribute are read from left to right, each as far as it goes. They may
as well be cut at the commas first and read piece by piece, as long as every entry is
spelled without a comma and reading it needs nothing behind it but the end or a comma
(`readEntries_eq_ok_iff`). A comma behind the last entry starts no further one.
-/

namespace Criteria.Derive

section Pieces

/-- What stands between the commas. Behind the last comma there may be nothing. -/
def pieces : List Token → List (List Token)
  | [] => []
  | t :: ts =>
      if t.isSign ',' then [] :: pieces ts
      else match pieces ts with
        | [] => [[t]]
        | piece :: more => (t :: piece) :: more

/-- There is no comma among the tokens, those inside of groups left out. -/
def IsUnbroken (ts : List Token) : Prop := ∀ t ∈ ts, t.isSign ',' = false

/-- Nothing is left, or a comma comes next. -/
def IsBreak (ts : List Token) : Prop := ∀ t ∈ ts.head?, t.isSign ',' = true

variable {piece rest ts : List Token} {c : Token}

theorem pieces_append_cons (h : IsUnbroken piece) (hc : c.isSign ',' = true)
    (rest : List Token) : pieces (piece ++ c :: rest) = piece :: pieces rest := by
  induction piece with
  | nil => rw [List.nil_append, pieces, if_pos hc]
  | cons t piece ih =>
      obtain ⟨ht, hpiece⟩ := List.forall_mem_cons.mp h
      rw [List.cons_append, pieces, ht, if_neg Bool.false_ne_true, ih hpiece]

theorem pieces_of_isUnbroken (h : IsUnbroken piece) (hne : piece ≠ []) :
    pieces piece = [piece] := by
  induction piece with
  | nil => exact absurd rfl hne
  | cons t piece ih =>
      obtain ⟨ht, hpiece⟩ := List.forall_mem_cons.mp h
      rw [pieces, ht, if_neg Bool.false_ne_true]
      cases piece with
      | nil => rfl
      | cons u piece => rw [ih hpiece (List.cons_ne_nil u piece)]

theorem pieces_append (h : IsUnbroken piece) (hrest : IsBreak rest) (hne : piece ++ rest ≠ []) :
    pieces (piece ++ rest) = piece :: pieces (rest.drop 1) := by
  cases rest with
  | nil =>
      rw [List.append_nil] at hne ⊢
      exact pieces_of_isUnbroken h hne
  | cons c rest => exact pieces_append_cons h (hrest c rfl) rest

/-- A first piece ends at a comma, or where the tokens do. -/
theorem exists_eq_append (ts : List Token) :
    ∃ piece rest, ts = piece ++ rest ∧ IsUnbroken piece ∧ IsBreak rest := by
  induction ts with
  | nil => exact ⟨[], [], rfl, List.forall_mem_nil _, nofun⟩
  | cons t ts ih =>
      cases ht : t.isSign ',' with
      | true =>
          refine ⟨[], t :: ts, rfl, List.forall_mem_nil _, ?_⟩
          rintro _ ⟨⟩
          exact ht
      | false =>
          obtain ⟨piece, rest, rfl, hpiece, hrest⟩ := ih
          exact ⟨t :: piece, rest, rfl, List.forall_mem_cons.mpr ⟨ht, hpiece⟩, hrest⟩

/-- There is only one such piece. -/
theorem append_inj_of_isBreak {piece' rest' : List Token} (hpiece : IsUnbroken piece)
    (hpiece' : IsUnbroken piece') (hrest : IsBreak rest) (hrest' : IsBreak rest')
    (h : piece ++ rest = piece' ++ rest') : piece = piece' ∧ rest = rest' := by
  rcases List.append_eq_append_iff.mp h with ⟨more, rfl, rfl⟩ | ⟨more, rfl, rfl⟩
  · cases more with
    | nil => exact ⟨(List.append_nil piece).symm, rfl⟩
    | cons t more =>
        have hsign := hpiece' t (List.mem_append_right piece List.mem_cons_self)
        rw [hrest t rfl] at hsign
        cases hsign
  · cases more with
    | nil => exact ⟨List.append_nil piece', rfl⟩
    | cons t more =>
        have hsign := hpiece t (List.mem_append_right piece' List.mem_cons_self)
        rw [hrest' t rfl] at hsign
        cases hsign

end Pieces

section Keys

variable {ts rest : List Token} {key : String}

theorem aheadColons_eq_false_of_isBreak (h : IsBreak ts) : aheadColons ts = false := by
  match ts with
  | [] => rfl
  | .sign c isJoint :: rest =>
      have hc : c = ',' := by simpa [Token.isSign] using h (.sign c isJoint) rfl
      rw [hc]
      cases isJoint <;> rfl
  | .word _ :: _ | .lifetime _ :: _ | .literal _ :: _ | .group _ _ :: _ => rfl

theorem dropKeySegments_of_aheadColons_eq_false (fuel : Nat) (h : aheadColons ts = false) :
    dropKeySegments fuel ts = .ok ts := by
  unfold dropKeySegments
  split
  · cases h
  · rfl

/-- A word is taken for a key unless it is written raw or belongs to a path. -/
theorem readKey_word (w : Word) (rest : List Token) :
    readKey (.word w :: rest) = dropKeySegments rest.length rest >>= fun behind =>
      .ok (if aheadColons rest || w.isRaw then .other else .name w.text, behind) :=
  rfl

theorem readKey_ne_of_aheadColons (h : aheadColons ts = true) :
    readKey ts ≠ .ok (.name key, rest) := by
  intro hread
  simp only [readKey, h, if_true, Bool.true_or] at hread
  split at hread
  · obtain ⟨behind, -, hkey⟩ := exists_of_bind_eq_ok hread
    cases hkey
  · cases hread
  · cases hread

/-- A known key is a plain word that no path goes on from. -/
theorem readKey_eq_name_iff : readKey ts = .ok (.name key, rest) ↔
    ts = .word ⟨key, false⟩ :: rest ∧ aheadColons rest = false := by
  constructor
  · intro h
    have hcolons : aheadColons ts = false := by
      by_contra hts
      exact readKey_ne_of_aheadColons (Bool.not_eq_false _ ▸ hts) h
    obtain ⟨w, behind, rfl⟩ : ∃ w behind, ts = .word w :: behind := by
      simp only [readKey, hcolons, Bool.false_eq_true, if_false] at h
      split at h
      · exact ⟨_, _, rfl⟩
      · cases h
      · cases h
    rw [readKey_word] at h
    obtain ⟨left, hleft, h⟩ := exists_of_bind_eq_ok h
    obtain ⟨hkey, rfl⟩ := Prod.mk.inj (Except.ok.inj h)
    have hplain : ¬ (aheadColons behind || w.isRaw) = true := by
      intro hother
      rw [if_pos hother] at hkey
      cases hkey
    rw [if_neg hplain] at hkey
    rw [Bool.or_eq_true, not_or, Bool.not_eq_true, Bool.not_eq_true] at hplain
    obtain ⟨hbehind, hraw⟩ := hplain
    rw [dropKeySegments_of_aheadColons_eq_false _ hbehind] at hleft
    cases hleft
    obtain ⟨text, isRaw⟩ := w
    cases hraw
    cases hkey
    exact ⟨rfl, hbehind⟩
  · rintro ⟨rfl, hrest⟩
    rw [readKey_word, dropKeySegments_of_aheadColons_eq_false _ hrest, hrest]
    rfl

variable {α : Type} {read : Key → Reader α} {a : α}

/-- Reads one entry. -/
def readEntry (read : Key → Reader α) (ts : List Token) : Except DeriveError (Taken α) := do
  let (key, rest) ← readKey ts
  read key rest

theorem readEntry_eq_ok_iff (hother : ∀ ts taken, read .other ts ≠ .ok taken) :
    readEntry read ts = .ok (a, rest) ↔
      ∃ key behind, ts = .word ⟨key, false⟩ :: behind ∧ aheadColons behind = false ∧
        read (.name key) behind = .ok (a, rest) := by
  rw [readEntry, bind_eq_ok_iff]
  constructor
  · rintro ⟨⟨key | -, behind⟩, hkey, hread⟩
    · obtain ⟨rfl, hbehind⟩ := readKey_eq_name_iff.mp hkey
      exact ⟨key, behind, rfl, hbehind, hread⟩
    · exact absurd hread (hother behind (a, rest))
  · rintro ⟨key, behind, rfl, hbehind, hread⟩
    exact ⟨(.name key, behind), readKey_eq_name_iff.mpr ⟨rfl, hbehind⟩, hread⟩

end Keys

section Entries

variable {α : Type}

/-- The entries that a reader accepts, each with the tokens that spell it: in front of the
end or a comma these are the tokens that it takes. -/
structure IsSpelling (read : Key → Reader α) (Spells : List Token → α → Prop) : Prop where
  isUnbroken : ∀ {piece a}, Spells piece a → IsUnbroken piece
  readEntry_iff : ∀ {ts a rest}, IsBreak rest →
    (readEntry read ts = .ok (a, rest) ↔ ∃ piece, ts = piece ++ rest ∧ Spells piece a)

variable {read : Key → Reader α} {Spells : List Token → α → Prop}
  {ts : List Token} {as : List α}

namespace IsSpelling

/-- Of the first piece an entry takes all or nothing. -/
theorem readEntry_append_iff (h : IsSpelling read Spells) {piece rest left : List Token} {a : α}
    (hpiece : IsUnbroken piece) (hrest : IsBreak rest) :
    readEntry read (piece ++ rest) = .ok (a, left) ∧ IsBreak left ↔
      Spells piece a ∧ left = rest := by
  constructor
  · rintro ⟨hread, hleft⟩
    obtain ⟨piece', happend, hspells⟩ := (h.readEntry_iff hleft).mp hread
    obtain ⟨rfl, rfl⟩ := append_inj_of_isBreak hpiece (h.isUnbroken hspells) hrest hleft happend
    exact ⟨hspells, rfl⟩
  · rintro ⟨hspells, rfl⟩
    exact ⟨(h.readEntry_iff hrest).mpr ⟨piece, rfl, hspells⟩, hrest⟩

end IsSpelling

/-- Goes on behind an entry. -/
def readMore (read : Key → Reader α) (fuel : Nat) (a : α) (left : List Token) :
    Except DeriveError (List α) :=
  match left with
  | [] => .ok [a]
  | _ => readSign ',' left >>= fun behind =>
      match behind with
      | [] => .ok [a]
      | _ => readEntries read fuel behind >>= fun as => .ok (a :: as)

theorem readEntries_succ (fuel : Nat) (ts : List Token) :
    readEntries read (fuel + 1) ts =
      readEntry read ts >>= fun taken => readMore read fuel taken.1 taken.2 := by
  rw [readEntries, readEntry, bind_assoc]
  rfl

variable {fuel : Nat} {a : α} {left : List Token}

theorem readSign_cons_eq_ok_iff {c : Char} {t : Token} {rest behind : List Token} :
    readSign c (t :: rest) = .ok behind ↔ t.isSign c = true ∧ behind = rest := by
  cases ht : t.isSign c <;> simp [readSign, ht, eq_comm]

theorem isBreak_of_readMore (h : readMore read fuel a left = .ok as) : IsBreak left := by
  cases left with
  | nil => nofun
  | cons c behind =>
      obtain ⟨_, hsign, -⟩ := exists_of_bind_eq_ok h
      rintro _ ⟨⟩
      exact (readSign_cons_eq_ok_iff.mp hsign).1

/-- Behind an entry and its comma nothing follows, or further entries. -/
theorem readMore_eq_ok_iff (hleft : IsBreak left)
    (hread : left.drop 1 ≠ [] → ∀ more, readEntries read fuel (left.drop 1) = .ok more ↔
      List.Forall₂ Spells (pieces (left.drop 1)) more) :
    readMore read fuel a left = .ok as ↔
      ∃ more, List.Forall₂ Spells (pieces (left.drop 1)) more ∧ as = a :: more := by
  match left, hleft, hread with
  | [], _, _ => simp [readMore, pieces, eq_comm]
  | [c], hleft, _ =>
      have hsign : readSign ',' [c] = .ok [] := readSign_cons_eq_ok_iff.mpr ⟨hleft c rfl, rfl⟩
      have hmore : readMore read fuel a [c] = .ok [a] := by
        rw [readMore, hsign]
        · rfl
        · exact List.cons_ne_nil c []
      simp [hmore, pieces, eq_comm]
  | c :: t :: behind, hleft, hread =>
      have hsign : readSign ',' (c :: t :: behind) = .ok (t :: behind) :=
        readSign_cons_eq_ok_iff.mpr ⟨hleft c rfl, rfl⟩
      have hmore : readMore read fuel a (c :: t :: behind) =
          readEntries read fuel (t :: behind) >>= fun as => .ok (a :: as) := by
        rw [readMore, hsign]
        · rfl
        · exact List.cons_ne_nil c (t :: behind)
      rw [hmore, bind_eq_ok_iff]
      refine exists_congr fun more => and_congr (hread (List.cons_ne_nil t behind) more) ?_
      rw [Except.ok.injEq, eq_comm]

/-- Entries are accepted exactly where the pieces between the commas spell them. -/
theorem readEntries_eq_ok_iff (h : IsSpelling read Spells) (hne : ts ≠ [])
    (hfuel : ts.length ≤ fuel) :
    readEntries read fuel ts = .ok as ↔ List.Forall₂ Spells (pieces ts) as := by
  -- every comma takes a token with it, so that the rounds last
  induction fuel generalizing ts as with
  | zero => exact absurd (List.length_eq_zero_iff.mp (Nat.le_zero.mp hfuel)) hne
  | succ fuel ih =>
      obtain ⟨piece, left, rfl, hpiece, hleft⟩ := exists_eq_append ts
      have hmore (a : α) : readMore read fuel a left = .ok as ↔
          ∃ more, List.Forall₂ Spells (pieces (left.drop 1)) more ∧ as = a :: more := by
        refine readMore_eq_ok_iff hleft fun hbehind more => ih hbehind ?_
        rw [List.length_append] at hfuel
        rw [List.length_drop]
        omega
      rw [readEntries_succ, bind_eq_ok_iff, pieces_append hpiece hleft hne,
        List.forall₂_cons_left_iff]
      constructor
      · rintro ⟨⟨a, left'⟩, hread, hrest⟩
        have hbreak := isBreak_of_readMore hrest
        obtain ⟨hspells, rfl⟩ := (h.readEntry_append_iff hpiece hleft).mp ⟨hread, hbreak⟩
        obtain ⟨more, hpieces, rfl⟩ := (hmore a).mp hrest
        exact ⟨a, more, hspells, hpieces, rfl⟩
      · rintro ⟨a, more, hspells, hpieces, rfl⟩
        obtain ⟨hread, -⟩ := (h.readEntry_append_iff hpiece hleft).mpr ⟨hspells, rfl⟩
        exact ⟨(a, left), hread, (hmore a).mpr ⟨more, hpieces, rfl⟩⟩

theorem not_readEntries_nil (fuel : Nat) : readEntries read fuel [] ≠ .ok as := by
  cases fuel <;> nofun

theorem pieces_ne_nil (hne : ts ≠ []) : pieces ts ≠ [] := by
  obtain ⟨piece, rest, rfl, hpiece, hrest⟩ := exists_eq_append ts
  rw [pieces_append hpiece hrest hne]
  exact List.cons_ne_nil piece _

theorem readNested_eq_ok_iff (h : IsSpelling read Spells) {rest : List Token} :
    readNested read ts = .ok (as, rest) ↔
      ∃ content, ts = .group .parenthesis content :: rest ∧ as ≠ [] ∧
        List.Forall₂ Spells (pieces content) as := by
  have hcontent (content : List Token) :
      readEntries read content.length.succ content = .ok as ↔
        as ≠ [] ∧ List.Forall₂ Spells (pieces content) as := by
    by_cases hne : content = []
    · rw [hne]
      refine iff_of_false (not_readEntries_nil _) ?_
      rintro ⟨has, hspells⟩
      exact has (List.forall₂_nil_left_iff.mp hspells)
    · rw [readEntries_eq_ok_iff h hne (Nat.le_succ _), iff_and_self]
      rintro hspells rfl
      exact pieces_ne_nil hne (List.forall₂_nil_right_iff.mp hspells)
  unfold readNested
  split
  · next content behind =>
      rw [bind_eq_ok_iff]
      constructor
      · rintro ⟨bs, hread, hpure⟩
        cases hpure
        exact ⟨content, rfl, (hcontent content).mp hread⟩
      · rintro ⟨_, ⟨rfl, rfl⟩, hspells⟩
        exact ⟨as, (hcontent content).mpr hspells, rfl⟩
  · next hother =>
      refine iff_of_false nofun ?_
      rintro ⟨content, rfl, -⟩
      exact hother content rest rfl

end Entries

section Attributes

variable {α : Type} {read : Key → Reader α} {Spells : List Token → α → Prop}
  {a : Attribute} {attributes : List Attribute} {as : List α}

/-- The tokens in the delimiters of a list. -/
def Arguments.content : Arguments → List Token
  | .list ts => ts
  | .none | .assigned => []

/-- What stands between the commas in the attributes that count, one after the other. -/
def piecesOf (attributes : List Attribute) : List (List Token) :=
  (attributes.filter (·.isFilter)).flatMap fun a => pieces a.arguments.content

/-- The attributes that count have lists. -/
def HaveLists (attributes : List Attribute) : Prop :=
  ∀ a ∈ attributes, a.isFilter = true → ∃ ts, a.arguments = .list ts

theorem entries_eq_ok_iff (h : IsSpelling read Spells) : a.entries read = .ok as ↔
    (∃ ts, a.arguments = .list ts) ∧ List.Forall₂ Spells (pieces a.arguments.content) as := by
  obtain ⟨isFilter, arguments⟩ := a
  cases arguments with
  | none | assigned => exact iff_of_false nofun (by simp)
  | list ts =>
      have hlist : ∃ content, Arguments.list ts = .list content := ⟨ts, rfl⟩
      rw [and_iff_right hlist]
      cases ts with
      | nil => simp [Attribute.entries, Arguments.content, pieces, eq_comm]
      | cons t ts => exact readEntries_eq_ok_iff h (List.cons_ne_nil t ts) (Nat.le_refl _)

theorem forall₂_append_left_iff {α β : Type} {R : α → β → Prop} {xs ys : List α} {zs : List β} :
    List.Forall₂ R (xs ++ ys) zs ↔
      ∃ us, List.Forall₂ R xs us ∧ ∃ vs, List.Forall₂ R ys vs ∧ us ++ vs = zs := by
  constructor
  · intro h
    induction xs generalizing zs with
    | nil => exact ⟨[], .nil, zs, h, rfl⟩
    | cons x xs ih =>
        obtain ⟨z, zs, hz, hzs, rfl⟩ := List.forall₂_cons_left_iff.mp h
        obtain ⟨us, hus, vs, hvs, rfl⟩ := ih hzs
        exact ⟨z :: us, .cons hz hus, vs, hvs, rfl⟩
  · rintro ⟨us, hus, vs, hvs, rfl⟩
    exact List.rel_append hus hvs

/-- Entries in several attributes are accepted exactly where their pieces spell them, one
by one. -/
theorem entriesOf_eq_ok_iff (h : IsSpelling read Spells) : entriesOf read attributes = .ok as ↔
    HaveLists attributes ∧ List.Forall₂ Spells (piecesOf attributes) as := by
  induction attributes generalizing as with
  | nil =>
      have hnil : HaveLists [] := nofun
      rw [and_iff_right hnil]
      simp [entriesOf, piecesOf, eq_comm]
  | cons a attributes ih =>
      have hlists : HaveLists (a :: attributes) ↔
          (a.isFilter = true → ∃ ts, a.arguments = .list ts) ∧ HaveLists attributes :=
        List.forall_mem_cons
      rw [entriesOf, hlists, piecesOf, List.filter_cons]
      cases ha : a.isFilter with
      | false => simp [ih, piecesOf]
      | true =>
          rw [if_pos rfl, if_pos rfl, List.flatMap_cons, forall₂_append_left_iff, bind_eq_ok_iff]
          simp only [bind_eq_ok_iff, entries_eq_ok_iff h, ih]
          constructor
          · rintro ⟨us, ⟨hlist, hus⟩, vs, ⟨hmore, hvs⟩, happend⟩
            exact ⟨⟨fun _ => hlist, hmore⟩, us, hus, vs, hvs, Except.ok.inj happend⟩
          · rintro ⟨⟨hlist, hmore⟩, us, hus, vs, hvs, happend⟩
            exact ⟨us, ⟨hlist trivial, hus⟩, vs, ⟨hmore, hvs⟩, congrArg Except.ok happend⟩

end Attributes

end Criteria.Derive
