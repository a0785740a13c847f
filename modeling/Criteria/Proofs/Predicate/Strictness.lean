import Criteria.Proofs.Pattern.Words
import Criteria.Proofs.Predicate.Answer

/-!
# Text operations by strictness

An operation on texts prepares the literal and the stored text alike and then asks for
equality or for a search. Equal texts stay equal however both are prepared, and a text is
found in itself. So whatever an operation finds is also found by one that prepares more,
and by the search with the same preparation (`finds_of_stricter`). Nothing is asked of
the wildcard or of the removal of accents.
-/

namespace Criteria.Dialect

/-- The row meets a literal text in a stored expression under an operation. -/
def Finds (d : Dialect) (row : Row) (expr : FieldExpr) (literal : String) (op : Operation) :
    Prop :=
  (d.textPredicate expr literal op).holds d row = true

section

variable {d : Dialect} {row : Row} {expr : FieldExpr} {literal stored : String} {op : Operation}

/-- Nothing but a stored text meets a text. -/
theorem finds_iff : d.Finds row expr literal op ↔
    ∃ stored, expr.read d row = some (.text stored) ∧ d.textMeets op literal stored = true := by
  rw [Finds, holds_textPredicate, Option.any_eq_true]
  constructor
  · rintro ⟨v, hv, hmeets⟩
    cases v with
    | text stored => exact ⟨stored, hv, hmeets⟩
    | _ => cases hmeets
  · rintro ⟨stored, hread, hmeets⟩
    exact ⟨.text stored, hread, hmeets⟩

theorem textMeets_equal_iff : d.textMeets .equal literal stored = true ↔ stored = literal :=
  beq_iff_eq

theorem textMeets_equalIgnoreCase_iff : d.textMeets .equalIgnoreCase literal stored = true ↔
    Text.lowercase stored = Text.lowercase literal :=
  beq_iff_eq

theorem textMeets_equalIgnoreCaseUnaccent_iff :
    d.textMeets .equalIgnoreCaseUnaccent literal stored = true ↔
      d.unaccent (Text.lowercase stored) = d.unaccent (Text.lowercase literal) :=
  beq_iff_eq

/-- Texts that have become equal are found in each other. -/
theorem accepts_searchPattern_of_eq {query text : String} (h : text = query) :
    Pattern.accepts d.wildcard (d.searchPattern query) text = true := by
  rw [h]
  exact Pattern.accepts_ofQuery_self d.wildcard query

/-- Every operation finds the literal itself. -/
theorem textMeets_self (d : Dialect) (op : Operation) (literal : String) :
    d.textMeets op literal literal = true := by
  cases op with
  | like | likeIgnoreCase | likeIgnoreCaseUnaccent => exact accepts_searchPattern_of_eq rfl
  | _ => exact beq_iff_eq.mpr rfl

theorem textMeets_of_equalIgnoreCase (h : d.textMeets .equalIgnoreCase literal stored = true) :
    d.textMeets .equalIgnoreCaseUnaccent literal stored = true ∧
      d.textMeets .likeIgnoreCase literal stored = true := by
  rw [textMeets_equalIgnoreCase_iff] at h
  exact ⟨textMeets_equalIgnoreCaseUnaccent_iff.mpr (congrArg d.unaccent h),
    accepts_searchPattern_of_eq h⟩

theorem textMeets_of_equalIgnoreCaseUnaccent
    (h : d.textMeets .equalIgnoreCaseUnaccent literal stored = true) :
    d.textMeets .likeIgnoreCaseUnaccent literal stored = true :=
  accepts_searchPattern_of_eq (textMeets_equalIgnoreCaseUnaccent_iff.mp h)

/-- What is so of two operations on texts is so of what they find. -/
theorem Finds.imp {loose : Operation}
    (h : ∀ stored, d.textMeets op literal stored = true → d.textMeets loose literal stored = true)
    (hfinds : d.Finds row expr literal op) : d.Finds row expr literal loose := by
  obtain ⟨stored, hread, hmeets⟩ := finds_iff.mp hfinds
  exact finds_iff.mpr ⟨stored, hread, h stored hmeets⟩

theorem finds_of_finds_equal (h : d.Finds row expr literal .equal) (op : Operation) :
    d.Finds row expr literal op := by
  refine h.imp fun stored hstored => ?_
  rw [textMeets_equal_iff.mp hstored]
  exact d.textMeets_self op literal

end

/-- What equality finds is found by equality under any preparation and by the search; what
equality of lower-case texts finds, also by equality of those without accents and by the
search in lower case; and what the latter equality finds, by the search without accents.
The literal itself is found by every search. -/
theorem finds_of_stricter (d : Dialect) (row : Row) (expr : FieldExpr) (literal : String) :
    (d.Finds row expr literal .equal →
      d.Finds row expr literal .equalIgnoreCase ∧
        d.Finds row expr literal .equalIgnoreCaseUnaccent ∧ d.Finds row expr literal .like) ∧
    (d.Finds row expr literal .equalIgnoreCase →
      d.Finds row expr literal .equalIgnoreCaseUnaccent ∧
        d.Finds row expr literal .likeIgnoreCase) ∧
    (d.Finds row expr literal .equalIgnoreCaseUnaccent →
      d.Finds row expr literal .likeIgnoreCaseUnaccent) ∧
    (expr.read d row = some (.text literal) →
      d.Finds row expr literal .like ∧ d.Finds row expr literal .likeIgnoreCase ∧
        d.Finds row expr literal .likeIgnoreCaseUnaccent) := by
  refine ⟨?_, ?_, ?_, ?_⟩
  · intro h
    exact ⟨finds_of_finds_equal h _, finds_of_finds_equal h _, finds_of_finds_equal h _⟩
  · intro h
    exact ⟨h.imp fun _ hstored => (textMeets_of_equalIgnoreCase hstored).1,
      h.imp fun _ hstored => (textMeets_of_equalIgnoreCase hstored).2⟩
  · intro h
    exact h.imp fun _ hstored => textMeets_of_equalIgnoreCaseUnaccent hstored
  · intro hread
    have hself (op : Operation) : d.Finds row expr literal op :=
      finds_iff.mpr ⟨literal, hread, d.textMeets_self op literal⟩
    exact ⟨hself _, hself _, hself _⟩

/-- The wildcard is a letter here, and the literal holds it, an underscore and white
space; accents are kept. -/
theorem finds_of_stricter_noon :
    let d : Dialect := ⟨id, 'n'⟩
    let row : Row := fun _ => some (.text "NOON _")
    let expr : FieldExpr := .property ⟨[], ["name"]⟩
    d.Finds row expr "Noon _" .equalIgnoreCase ∧
      d.Finds row expr "Noon _" .equalIgnoreCaseUnaccent ∧
      d.Finds row expr "Noon _" .likeIgnoreCase := by
  intro d row expr
  have hread : expr.read d row = some (.text "NOON _") := rfl
  have hlower : Text.lowercase "NOON _" = Text.lowercase "Noon _" := by decide +kernel
  have hequal : d.Finds row expr "Noon _" .equalIgnoreCase :=
    finds_iff.mpr ⟨"NOON _", hread, textMeets_equalIgnoreCase_iff.mpr hlower⟩
  obtain ⟨-, hignoreCase, -, -⟩ := d.finds_of_stricter row expr "Noon _"
  exact ⟨hequal, hignoreCase hequal⟩

end Criteria.Dialect
