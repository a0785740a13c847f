import Criteria.Proofs.Calendar.Days
import Criteria.Proofs.Compilation.Emission
import Criteria.Proofs.Compilation.Visit
import Criteria.Proofs.Predicate.Truth
import Criteria.Proofs.Value.Order

/-!
# Periods that meet

A requested period is compared with the one that is stored in two properties, its
first day in one and its last day in the other. The predicate asks whether one of
the two lies in the requested period. A stored period that meets the requested one is
found in this way, unless it begins earlier and ends later: then it has both its ends
outside.
-/

namespace Criteria

/-- The days as a period with both ends. -/
def Days.toPeriod (days : Days) : DatePeriod := ⟨some days.first, some days.last⟩

/-- One of two stored ends lies in a span of days. -/
def Predicate.endWithin (lower upper : PropertyRef) (days : Days) : Predicate :=
  Operator.or.combine
    (.betweenLiterals lower (.date days.first) (.date days.last))
    (.betweenLiterals upper (.date days.first) (.date days.last))

namespace Predicate

variable (d : Dialect) {row : Row}

/-- A stored date lies between two others when it is one of their days. -/
theorem holds_betweenLiterals_date {ref : PropertyRef} {day : Date} (days : Days)
    (h : row.get ref = some (.date day)) :
    (betweenLiterals ref (.date days.first) (.date days.last)).holds d row = true ↔
      day ∈ days := by
  simp only [betweenLiterals, holds, FieldExpr.read, h, Option.any_some]
  rw [Value.isWithin_iff_of_instant rfl rfl rfl, Timestamp.midnight_le_iff,
    Timestamp.midnight_le_iff]
  exact Days.mem_def.symm

/-- Of the periods that meet the days, those are found that do not surround them. -/
theorem holds_endWithin {lower upper : PropertyRef} (days stored : Days)
    (hlower : row.get lower = some (.date stored.first))
    (hupper : row.get upper = some (.date stored.last)) :
    (endWithin lower upper days).holds d row = true ↔
      stored.Meets days ∧ ¬ stored.Surrounds days := by
  rw [endWithin, holds_combine, ← stored.mem_ends_iff days]
  simp only [Operator.value, List.any_cons, List.any_nil, id, Bool.or_false, Bool.or_eq_true]
  rw [holds_betweenLiterals_date d days hlower, holds_betweenLiterals_date d days hupper]

end Predicate

namespace Compiler

variable {ι : Type} (T : Compiler ι)

theorem periodPredicate_of_resolveProperty {bounds : PropertyPair} {lower upper : PropertyRef}
    (days : Days) (hlower : T.resolveProperty bounds.lower = .ok lower)
    (hupper : T.resolveProperty bounds.upper = .ok upper) :
    T.periodPredicate bounds days.toPeriod = .ok (.endWithin lower upper days) := by
  have horder : compare days.first days.last ≠ .gt := by
    rw [Ne, Date.compare_eq_gt_iff, Date.lt_iff, Int.not_lt]
    exact days.first_le_last
  simp only [periodPredicate, Days.toPeriod, if_neg horder, hlower, hupper]
  rfl

/-- A period field contributes one predicate and no record, if its properties are
there. -/
theorem visit_of_period {v : Visit} {bounds : PropertyPair} {lower upper : PropertyRef}
    {days : Days} (hrole : v.field.tags.role = .period bounds)
    (hread : v.filter.read v.field.name = .ok (.period (some days.toPeriod)))
    (hlower : T.resolveProperty bounds.lower = .ok lower)
    (hupper : T.resolveProperty bounds.upper = .ok upper) :
    T.visit v = ⟨[.endWithin lower upper days], []⟩ := by
  have hnested : v.filter.nested? v.field = none := by
    rw [Filter.nested?, hrole]
  have hmetadata : v.field.metadata.role = .period bounds := hrole
  have hconstraint : T.constraint v.field.metadata (.period (some days.toPeriod)) =
      .ok (some (.endWithin lower upper days)) := by
    simp only [constraint, hmetadata, T.periodPredicate_of_resolveProperty days hlower hupper]
    rfl
  rw [visit, T.compileField_of_read _ hread hnested, hconstraint]
  rfl

/-- The predicate of a period field finds the stored periods that meet the requested
one and do not surround it. -/
theorem exists_visit_eq_of_period {v : Visit} {bounds : PropertyPair} {lower upper : PropertyRef}
    {days : Days} (hrole : v.field.tags.role = .period bounds)
    (hread : v.filter.read v.field.name = .ok (.period (some days.toPeriod)))
    (hlower : T.resolveProperty bounds.lower = .ok lower)
    (hupper : T.resolveProperty bounds.upper = .ok upper) :
    ∃ p, T.visit v = ⟨[p], []⟩ ∧
      ∀ (d : Dialect) (row : Row) (stored : Days),
        row.get lower = some (.date stored.first) → row.get upper = some (.date stored.last) →
          (p.holds d row = true ↔ stored.Meets days ∧ ¬ stored.Surrounds days) := by
  refine ⟨_, T.visit_of_period hrole hread hlower hupper, ?_⟩
  intro d row stored hfirst hlast
  exact Predicate.holds_endWithin d days stored hfirst hlast

end Compiler

/-- Contracts, each with the first and the last day on which it is in force. -/
def Compiler.contracts : Compiler Unit :=
  ⟨⟨fun _ => ⟨"Contract", [⟨"begin", .date⟩, ⟨"finish", .date⟩]⟩⟩, (), {}, id⟩

/-- Asks for the contracts that are in force on some of the days. -/
def Visit.inForce (days : Days) : Visit where
  groups := []
  filter := .mk "Contracts" [⟨"force", { period := some ⟨"begin", "finish"⟩ }⟩]
    [("force", .period (some days.toPeriod))]
  field := ⟨"force", { period := some ⟨"begin", "finish"⟩ }⟩
  levels := 0

/-- A contract that is in force on the days. -/
def Row.contract (days : Days) : Row := Row.ofDotted fun column =>
  [("begin", .date days.first), ("finish", .date days.last)].lookup column

/-- From the tenth to the twentieth of January 2024. -/
def Days.midJanuary : Days := ⟨⟨2024, 1, 10, by decide⟩, ⟨2024, 1, 20, by decide⟩, by decide⟩

/-- From the twentieth of January 2024 on. -/
def Days.lateJanuary : Days := ⟨⟨2024, 1, 20, by decide⟩, ⟨2024, 1, 31, by decide⟩, by decide⟩

def Days.january : Days := ⟨⟨2024, 1, 1, by decide⟩, ⟨2024, 1, 31, by decide⟩, by decide⟩

namespace Compiler

/-- A contract that begins on the last day asked for is found. -/
theorem exists_visit_lateJanuary :
    ∃ p, contracts.visit (.inForce .midJanuary) = ⟨[p], []⟩ ∧
      p.holds ⟨id, '%'⟩ (.contract .lateJanuary) = true := by
  obtain ⟨p, hvisit, hholds⟩ :=
    contracts.exists_visit_eq_of_period (v := .inForce .midJanuary) rfl rfl rfl rfl
  have hstored := hholds ⟨id, '%'⟩ (.contract .lateJanuary) .lateJanuary rfl rfl
  exact ⟨p, hvisit, hstored.mpr (by decide)⟩

/-- A contract of the whole month is in force on the days asked for and not found. -/
theorem exists_visit_january :
    ∃ p, contracts.visit (.inForce .midJanuary) = ⟨[p], []⟩ ∧
      Days.january.Meets .midJanuary ∧ p.holds ⟨id, '%'⟩ (.contract .january) = false := by
  have hvisit : contracts.visit (.inForce .midJanuary) =
      ⟨[.endWithin (.navigate ["begin"]) (.navigate ["finish"]) .midJanuary], []⟩ :=
    contracts.visit_of_period rfl rfl rfl rfl
  have hfound : (Predicate.endWithin (.navigate ["begin"]) (.navigate ["finish"])
      .midJanuary).holds ⟨id, '%'⟩ (.contract .january) = true ↔
        Days.january.Meets .midJanuary ∧ ¬ Days.january.Surrounds .midJanuary :=
    Predicate.holds_endWithin ⟨id, '%'⟩ .midJanuary .january rfl rfl
  refine ⟨_, hvisit, by decide, ?_⟩
  rw [Bool.eq_false_iff, Ne, hfound]
  decide

end Compiler

end Criteria
