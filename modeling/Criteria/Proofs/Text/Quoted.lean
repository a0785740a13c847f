import Criteria.Text.Quoted
import Mathlib.Logic.Function.Defs

/-!
# Telling quoted texts apart

No two texts have the same quoted form (`quoted_injective`). Each character is written
as a word of its own, and there are three kinds of words (`Writes`): the character
itself, a letter behind a backslash, and a code point between braces. No word begins
another one, so that the words of a text can be told apart from the left.
-/

namespace Criteria.Text

theorem digitChar_inj {m n : Nat} (hm : m < 16) (hn : n < 16)
    (h : Nat.digitChar m = Nat.digitChar n) : m = n := by
  have hdigits : ∀ i < 16, ∀ j < 16, Nat.digitChar i = Nat.digitChar j → i = j := by decide
  exact hdigits m hm n hn h

theorem length_toDigits_le_one_iff {n : Nat} : (Nat.toDigits 16 n).length ≤ 1 ↔ n < 16 :=
  Nat.length_toDigits_le_iff (by decide) Nat.one_pos

/-- Hexadecimal digits are those of one number only. -/
theorem toDigits_inj {m n : Nat} (h : Nat.toDigits 16 m = Nat.toDigits 16 n) : m = n := by
  induction m using Nat.strongRecOn generalizing n with
  | ind m ih =>
      have hlt : m < 16 ↔ n < 16 := by
        rw [← length_toDigits_le_one_iff, ← length_toDigits_le_one_iff, h]
      by_cases hm : m < 16
      · have hn := hlt.mp hm
        rw [Nat.toDigits_of_lt_base hm, Nat.toDigits_of_lt_base hn] at h
        exact digitChar_inj hm hn (List.head_eq_of_cons_eq h)
      · have hn := mt hlt.mpr hm
        rw [Nat.toDigits_of_base_le (by decide) (Nat.le_of_not_lt hm),
          Nat.toDigits_of_base_le (by decide) (Nat.le_of_not_lt hn)] at h
        obtain ⟨hfront, hlast⟩ := List.append_inj' h rfl
        have hquotient : m / 16 = n / 16 := ih (m / 16) (by omega) hfront
        have hremainder : m % 16 = n % 16 :=
          digitChar_inj (Nat.mod_lt m (by decide)) (Nat.mod_lt n (by decide))
            (List.head_eq_of_cons_eq hlast)
        omega

theorem brace_notMem_toDigits (n : Nat) : '\x7d' ∉ Nat.toDigits 16 n := by
  induction n using Nat.strongRecOn with
  | ind n ih =>
      have hdigit : ∀ d : Nat, '\x7d' ≠ d.digitChar := fun d =>
        (Nat.digitChar_ne '\x7d' (by decide)).symm
      rw [Nat.toDigits_eq_if (by decide)]
      split
      · simp [hdigit]
      · simp [hdigit, ih (n / 16) (by omega)]

theorem takeWhile_append_cons {a : Char} {xs : List Char} (h : a ∉ xs) (ys : List Char) :
    (xs ++ a :: ys).takeWhile (· ≠ a) = xs := by
  rw [List.takeWhile_append_of_pos, List.takeWhile_cons_of_neg (by simp), List.append_nil]
  intro x hx
  simpa using ne_of_mem_of_not_mem hx h

/-- What stands in front of the first `a` is settled by the whole text. -/
theorem append_cons_inj {a : Char} {xs ys xs' ys' : List Char} (hxs : a ∉ xs) (hxs' : a ∉ xs')
    (h : xs ++ a :: ys = xs' ++ a :: ys') : xs = xs' ∧ ys = ys' := by
  obtain rfl : xs = xs' := by
    rw [← takeWhile_append_cons hxs ys, h, takeWhile_append_cons hxs']
  exact ⟨rfl, List.tail_eq_of_cons_eq (List.append_cancel_left h)⟩

/-- The characters that have a letter of their own, each with its letter. -/
def letterEscapes : List (Char × Char) :=
  [('\x00', '0'), ('\t', 't'), ('\r', 'r'), ('\n', 'n'), ('\\', '\\'), ('"', '"')]

theorem eq_of_mem_letterEscapes {c d e : Char} (hc : (c, e) ∈ letterEscapes)
    (hd : (d, e) ∈ letterEscapes) : c = d := by
  have htable : ∀ p ∈ letterEscapes, ∀ q ∈ letterEscapes, p.2 = q.2 → p.1 = q.1 := by decide
  exact htable _ hc _ hd rfl

theorem ne_u_of_mem_letterEscapes {c e : Char} (h : (c, e) ∈ letterEscapes) : e ≠ 'u' := by
  have htable : ∀ p ∈ letterEscapes, p.2 ≠ 'u' := by decide
  exact htable _ h

/-- The words in which a character can be written between quotation marks. -/
inductive Writes (c : Char) : List Char → Prop
  | self (hslash : c ≠ '\\') : Writes c [c]
  | letter {e : Char} (h : (c, e) ∈ letterEscapes) : Writes c ['\\', e]
  | codePoint : Writes c (codePointEscape c)

theorem writes_escapeChar (c : Char) : Writes c (escapeChar '"' c) := by
  unfold escapeChar
  split
  · next h => exact .letter (by simp [letterEscapes, h])
  split
  · next h => exact .letter (by simp [letterEscapes, h])
  split
  · next h => exact .letter (by simp [letterEscapes, h])
  split
  · next h => exact .letter (by simp [letterEscapes, h])
  split
  · next h =>
      rw [Bool.or_eq_true, decide_eq_true_eq, decide_eq_true_eq] at h
      rcases h with rfl | rfl <;> exact .letter (by decide)
  · next h =>
      have hslash : c ≠ '\\' := fun hc => h (by simp [hc])
      split
      · exact .self hslash
      · exact .codePoint

theorem Writes.ne_nil {c : Char} {word : List Char} (h : Writes c word) : word ≠ [] := by
  cases h <;> exact List.cons_ne_nil _ _

theorem codePointEscape_append (c : Char) (rest : List Char) :
    codePointEscape c ++ rest =
      '\\' :: 'u' :: '\x7b' :: (Nat.toDigits 16 c.toNat ++ '\x7d' :: rest) := by
  simp [codePointEscape]

/-- No word begins another one. -/
theorem Writes.append_inj {c d : Char} {word word' rest rest' : List Char} (hc : Writes c word)
    (hd : Writes d word') (h : word ++ rest = word' ++ rest') : c = d ∧ rest = rest' := by
  cases hc with
  | self hslash =>
      cases hd with
      | self => exact List.cons.inj h
      | letter | codePoint => exact absurd (List.head_eq_of_cons_eq h) hslash
  | letter he =>
      cases hd with
      | self hslash => exact absurd (List.head_eq_of_cons_eq h).symm hslash
      | letter he' =>
          obtain ⟨rfl, hrest⟩ := List.cons.inj (List.tail_eq_of_cons_eq h)
          exact ⟨eq_of_mem_letterEscapes he he', hrest⟩
      | codePoint =>
          rw [codePointEscape_append] at h
          exact absurd (List.head_eq_of_cons_eq (List.tail_eq_of_cons_eq h))
            (ne_u_of_mem_letterEscapes he)
  | codePoint =>
      rw [codePointEscape_append] at h
      cases hd with
      | self hslash => exact absurd (List.head_eq_of_cons_eq h).symm hslash
      | letter he' =>
          exact absurd (List.head_eq_of_cons_eq (List.tail_eq_of_cons_eq h)).symm
            (ne_u_of_mem_letterEscapes he')
      | codePoint =>
          rw [codePointEscape_append] at h
          obtain ⟨hdigits, hrest⟩ := append_cons_inj (brace_notMem_toDigits _)
            (brace_notMem_toDigits _) (List.cons.inj (List.cons.inj (List.cons.inj h).2).2).2
          exact ⟨Char.toNat_inj.mp (toDigits_inj hdigits), hrest⟩

theorem flatMap_escapeChar_inj {cs ds : List Char}
    (h : cs.flatMap (escapeChar '"') = ds.flatMap (escapeChar '"')) : cs = ds := by
  induction cs generalizing ds with
  | nil =>
      cases ds with
      | nil => rfl
      | cons d ds =>
          rw [List.flatMap_nil, List.flatMap_cons] at h
          exact absurd (List.append_eq_nil_iff.mp h.symm).1 (writes_escapeChar d).ne_nil
  | cons c cs ih =>
      rw [List.flatMap_cons] at h
      cases ds with
      | nil => exact absurd (List.append_eq_nil_iff.mp h).1 (writes_escapeChar c).ne_nil
      | cons d ds =>
          rw [List.flatMap_cons] at h
          obtain ⟨rfl, hrest⟩ := (writes_escapeChar c).append_inj (writes_escapeChar d) h
          rw [ih hrest]

theorem quoted_injective : Function.Injective quoted := by
  intro s t h
  have hquoted := String.ofList_inj.mp h
  rw [List.append_cancel_right_eq, List.append_cancel_left_eq] at hquoted
  exact String.toList_inj.mp (flatMap_escapeChar_inj hquoted)

end Criteria.Text
