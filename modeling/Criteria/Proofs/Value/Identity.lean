import Criteria.Proofs.Value.Family

/-!
# What agreeing values have in common

Values without doubles agree where they stand at one place, and lists where their
members agree one by one. So every such value has an identity, unless there is null in
it, and to agree is to have the same one (`Value.agrees_iff_identity?`). Whatever is
asked of a value by order or by agreement is asked of its identity: agreement is
transitive, and values that agree may stand for each other
(`Value.exact_of_isFloatFree`).
-/

namespace Criteria

/-- A value up to agreement. -/
inductive Identity where
  | single (standing : Standing)
  | list (members : List Identity)

/-- The place of an identity that is no list. -/
def Identity.standing? : Identity → Option Standing
  | single standing => some standing
  | list _ => none

namespace Value

mutual

/-- The identity of a value; null has none, and neither has a list with null in it. -/
def identity? : Value → Option Identity
  | list members => (identities? members).map .list
  | v => v.standing?.map .single

/-- The identities of the members of a list, if they all have one. -/
def identities? : List Value → Option (List Identity)
  | [] => some []
  | v :: vs => v.identity?.bind fun i => (identities? vs).map (i :: ·)

end

variable {a b c : Value}

theorem identity?_of_kind (h : a.kind ≠ .set) : a.identity? = a.standing?.map .single := by
  cases a with
  | list members => exact absurd rfl h
  | _ => rfl

/-- The place of a value is that of its identity. -/
theorem standing?_eq (a : Value) : a.standing? = a.identity?.bind Identity.standing? := by
  cases a with
  | list members =>
      rw [identity?]
      cases identities? members <;> rfl
  | _ => rfl

/-- A list has no identity in common with another value. -/
theorem not_identity?_list (hkind : b.kind ≠ .set) {members : List Value} {i : Identity}
    (hlist : (list members).identity? = some i) : b.identity? ≠ some i := by
  intro h
  have hstanding : b.standing? = (list members).standing? := by
    rw [standing?_eq, standing?_eq, h, hlist]
  rw [identity?_of_kind hkind, hstanding] at h
  cases h

/-- What agrees with a value that is no list has the identity of that value. -/
theorem agrees_iff_identity?_of_kind (hkind : b.kind ≠ .set) (ha : a.isFloatFree = true)
    (hb : b.isFloatFree = true) :
    a.agrees b = true ↔ ∃ i, a.identity? = some i ∧ b.identity? = some i := by
  rw [agrees_eq_order hkind, beq_iff_eq, order_eq_standing ha hb]
  by_cases hlist : a.kind = .set
  · obtain ⟨members, rfl⟩ : ∃ members, a = list members := by
      cases a with
      | list members => exact ⟨members, rfl⟩
      | _ => cases hlist
    exact iff_of_false nofun (fun ⟨i, hi, hi'⟩ => not_identity?_list hkind hi hi')
  · rw [identity?_of_kind hlist, identity?_of_kind hkind]
    cases a.standing? with
    | none => exact iff_of_false nofun nofun
    | some r =>
        cases b.standing? with
        | none => exact iff_of_false nofun nofun
        | some s =>
            rw [Option.bind_some, Option.bind_some, Standing.order_eq_level_iff]
            constructor
            · rintro rfl
              exact ⟨.single r, rfl, rfl⟩
            · rintro ⟨i, hr, hs⟩
              exact Identity.single.inj (Option.some.inj (hr.trans hs.symm))

theorem identities?_cons_eq_some_iff {v : Value} {vs : List Value} {is : List Identity} :
    identities? (v :: vs) = some is ↔
      ∃ i js, v.identity? = some i ∧ identities? vs = some js ∧ is = i :: js := by
  rw [identities?]
  cases v.identity? with
  | none => exact iff_of_false nofun nofun
  | some i =>
      cases identities? vs with
      | none => exact iff_of_false nofun nofun
      | some js =>
          constructor
          · intro h
            exact ⟨i, js, rfl, rfl, (Option.some.inj h).symm⟩
          · rintro ⟨i', js', hi, hjs, rfl⟩
            obtain rfl := Option.some.inj hi
            obtain rfl := Option.some.inj hjs
            rfl

mutual

/-- Values without doubles agree where they have one identity. -/
theorem agrees_iff_identity? : ∀ a b : Value, a.isFloatFree = true → b.isFloatFree = true →
    (a.agrees b = true ↔ ∃ i, a.identity? = some i ∧ b.identity? = some i)
  | a, list ys, ha, hb => by
      cases a with
      | list xs =>
          rw [agrees, agreeAll_iff_identities? xs ys ha hb, identity?, identity?]
          constructor
          · rintro ⟨is, hxs, hys⟩
            exact ⟨.list is, by rw [hxs]; rfl, by rw [hys]; rfl⟩
          · rintro ⟨i, hx, hy⟩
            obtain ⟨is, hxs, rfl⟩ := Option.map_eq_some_iff.mp hx
            obtain ⟨is', hys, his⟩ := Option.map_eq_some_iff.mp hy
            rw [Identity.list.inj his] at hys
            exact ⟨is, hxs, hys⟩
      | _ =>
          rw [agrees_comm, agrees_iff_identity?_of_kind (by simp [kind]) hb ha]
          exact exists_congr fun i => and_comm
  | a, null, ha, hb | a, text _, ha, hb | a, int _, ha, hb | a, uint _, ha, hb | a, float _, ha, hb
  | a, bool _, ha, hb | a, date _, ha, hb | a, timestamp _, ha, hb | a, enum _, ha, hb =>
      agrees_iff_identity?_of_kind (by simp [kind]) ha hb

theorem agreeAll_iff_identities? : ∀ xs ys : List Value, areFloatFree xs = true →
    areFloatFree ys = true →
    (agreeAll xs ys = true ↔ ∃ is, identities? xs = some is ∧ identities? ys = some is)
  | [], [], _, _ => iff_of_true rfl ⟨[], rfl, rfl⟩
  | [], y :: ys, _, _ => by
      refine iff_of_false nofun ?_
      rintro ⟨is, hnil, hcons⟩
      obtain rfl := Option.some.inj hnil
      obtain ⟨i, js, -, -, h⟩ := identities?_cons_eq_some_iff.mp hcons
      cases h
  | x :: xs, [], _, _ => by
      refine iff_of_false nofun ?_
      rintro ⟨is, hcons, hnil⟩
      obtain rfl := Option.some.inj hnil
      obtain ⟨i, js, -, -, h⟩ := identities?_cons_eq_some_iff.mp hcons
      cases h
  | x :: xs, y :: ys, hx, hy => by
      rw [areFloatFree, Bool.and_eq_true] at hx hy
      rw [agreeAll, Bool.and_eq_true, agrees_iff_identity? x y hx.1 hy.1,
        agreeAll_iff_identities? xs ys hx.2 hy.2]
      simp only [identities?_cons_eq_some_iff]
      constructor
      · rintro ⟨⟨i, hi, hi'⟩, js, hjs, hjs'⟩
        exact ⟨i :: js, ⟨i, js, hi, hjs, rfl⟩, i, js, hi', hjs', rfl⟩
      · rintro ⟨is, ⟨i, js, hi, hjs, rfl⟩, i', js', hi', hjs', h⟩
        obtain ⟨rfl, rfl⟩ := List.cons.inj h
        exact ⟨⟨i, hi, hi'⟩, js, hjs, hjs'⟩

end

/-- Values that agree have the same identity. -/
theorem identity?_eq_of_agrees (ha : a.isFloatFree = true) (hb : b.isFloatFree = true)
    (h : a.agrees b = true) : a.identity? = b.identity? := by
  obtain ⟨i, hi, hi'⟩ := (agrees_iff_identity? a b ha hb).mp h
  rw [hi, hi']

/-- Values that agree have the same order with a third one, and agree with it alike. -/
theorem congr_of_agrees (ha : a.isFloatFree = true) (hb : b.isFloatFree = true)
    (hc : c.isFloatFree = true) (h : a.agrees b = true) :
    a.order c = b.order c ∧ a.agrees c = b.agrees c := by
  have hidentity := identity?_eq_of_agrees ha hb h
  constructor
  · rw [order_eq_standing ha hc, order_eq_standing hb hc, standing?_eq a, standing?_eq b, hidentity]
  · rw [Bool.eq_iff_iff, agrees_iff_identity? a c ha hc, agrees_iff_identity? b c hb hc, hidentity]

theorem agrees_trans (ha : a.isFloatFree = true) (hb : b.isFloatFree = true)
    (hc : c.isFloatFree = true) (hab : a.agrees b = true) (hbc : b.agrees c = true) :
    a.agrees c = true := by
  rw [(congr_of_agrees ha hb hc hab).2]
  exact hbc

end Value

/-- The values of a family are totally preordered. -/
structure Family.IsPreordered (f : Family) : Prop where
  refl : ∀ a : Value, a.family? = some f → a.order a = some .eq
  total : ∀ a b : Value, a.family? = some f → b.family? = some f →
    (a.order b).any Ordering.isLE = true ∨ (b.order a).any Ordering.isLE = true
  trans : ∀ a b c : Value, a.family? = some f → b.family? = some f → c.family? = some f →
    (a.order b).any Ordering.isLE = true → (b.order c).any Ordering.isLE = true →
      (a.order c).any Ordering.isLE = true

namespace Value

variable {a b : Value}

/-- A value of a family has a place on its scale, and there is no double in it. -/
theorem exists_standing? {f : Family} (h : a.family? = some f) :
    a.isFloatFree = true ∧ ∃ r, a.standing? = some r ∧ r.family = f := by
  rw [← map_family_standing?] at h
  obtain ⟨r, hr, hf⟩ := Option.map_eq_some_iff.mp h
  refine ⟨?_, r, hr, hf⟩
  cases a with
  | float _ | list _ => cases hr
  | _ => rfl

theorem isPreordered (f : Family) : f.IsPreordered := by
  constructor
  · intro a ha
    obtain ⟨hfree, r, hr, -⟩ := exists_standing? ha
    rw [order_eq_standing hfree hfree, hr]
    exact Standing.order_eq_level_iff.mpr rfl
  · intro a b ha hb
    obtain ⟨hfree, r, hr, hf⟩ := exists_standing? ha
    obtain ⟨hfree', s, hs, hf'⟩ := exists_standing? hb
    rw [order_eq_standing hfree hfree', order_eq_standing hfree' hfree, hr, hs]
    exact Standing.any_isLE_total (hf.trans hf'.symm)
  · intro a b c ha hb hc hab hbc
    obtain ⟨hfree, r, hr, -⟩ := exists_standing? ha
    obtain ⟨hfree', s, hs, -⟩ := exists_standing? hb
    obtain ⟨hfree'', t, ht, -⟩ := exists_standing? hc
    rw [order_eq_standing hfree hfree', hr, hs] at hab
    rw [order_eq_standing hfree' hfree'', hs, ht] at hbc
    rw [order_eq_standing hfree hfree'', hr, ht]
    exact Standing.any_isLE_trans hab hbc

/-- Values have an order where they are of one family. -/
theorem isSome_order_iff (ha : a.isFloatFree = true) (hb : b.isFloatFree = true) :
    (a.order b).isSome = true ↔ ∃ f, a.family? = some f ∧ b.family? = some f := by
  rw [order_eq_standing ha hb, ← map_family_standing?, ← map_family_standing?]
  cases a.standing? with
  | none => exact iff_of_false nofun nofun
  | some r =>
      cases b.standing? with
      | none => exact iff_of_false nofun nofun
      | some s =>
          rw [Option.bind_some, Option.bind_some, Standing.isSome_order_iff]
          constructor
          · intro h
            exact ⟨r.family, rfl, congrArg some h.symm⟩
          · rintro ⟨f, hr, hs⟩
            exact (Option.some.inj hr).trans (Option.some.inj hs).symm

theorem family?_eq_none (h : a.isNull = true ∨ a.kind = .set) : a.family? = none := by
  cases a with
  | null | list _ => rfl
  | _ => rcases h with h | h <;> cases h

/-- Without doubles values are compared by their places on the scale of a family, on
which they are totally preordered; values of two families, lists and null have no order.
Agreement is symmetric and transitive, and values that agree may stand for each other in
every comparison. -/
theorem exact_of_isFloatFree (ha : a.isFloatFree = true) (hb : b.isFloatFree = true) :
    (a.order b = a.standing?.bind fun r => b.standing?.bind fun s => r.order s) ∧
    ((a.order b).isSome = true ↔ ∃ f, a.family? = some f ∧ b.family? = some f) ∧
    ((a.isNull = true ∨ a.kind = .set) ∨ (b.isNull = true ∨ b.kind = .set) → a.order b = none) ∧
    (∀ f : Family, f.IsPreordered) ∧
    a.agrees b = b.agrees a ∧
    ∀ c : Value, c.isFloatFree = true →
      (a.agrees b = true → b.agrees c = true → a.agrees c = true) ∧
      (a.agrees b = true → a.order c = b.order c ∧ a.agrees c = b.agrees c) := by
  refine ⟨order_eq_standing ha hb, isSome_order_iff ha hb, ?_, isPreordered, agrees_comm a b, ?_⟩
  · intro h
    rw [← Option.not_isSome_iff_eq_none, isSome_order_iff ha hb]
    rintro ⟨f, hf, hf'⟩
    rcases h with h | h
    · exact Option.some_ne_none f (hf.symm.trans (family?_eq_none h))
    · exact Option.some_ne_none f (hf'.symm.trans (family?_eq_none h))
  · intro c hc
    exact ⟨agrees_trans ha hb hc, congr_of_agrees ha hb hc⟩

/-- A list of a list and a text. -/
def stay (day nights : Value) : Value := list [list [day, nights], text "stay"]

def leapDay : Date := ⟨2024, 2, 29, by decide⟩

/-- A day and its midnight agree inside of lists, and so do integers of either kind. -/
theorem exact_of_nested_days :
    (stay (date leapDay) (int 7)).isFloatFree = true ∧
    (stay (timestamp leapDay.midnight) (uint 7)).isFloatFree = true ∧
    (stay (date leapDay) (uint 7)).isFloatFree = true ∧
    (stay (date leapDay) (int 7)).agrees (stay (timestamp leapDay.midnight) (uint 7)) = true ∧
    (stay (timestamp leapDay.midnight) (uint 7)).agrees (stay (date leapDay) (uint 7)) = true ∧
    (stay (date leapDay) (int 7)).agrees (stay (date leapDay) (uint 7)) = true := by
  have hab : (stay (date leapDay) (int 7)).agrees (stay (timestamp leapDay.midnight) (uint 7)) := by
    decide
  have hbc : (stay (timestamp leapDay.midnight) (uint 7)).agrees (stay (date leapDay) (uint 7)) := by
    decide
  have hexact := exact_of_isFloatFree (a := stay (date leapDay) (int 7))
    (b := stay (timestamp leapDay.midnight) (uint 7)) rfl rfl
  refine ⟨rfl, rfl, rfl, hab, hbc, ?_⟩
  exact (hexact.2.2.2.2.2 (stay (date leapDay) (uint 7)) rfl).1 hab hbc

end Value

end Criteria
