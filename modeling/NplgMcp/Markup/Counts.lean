import Mathlib.Algebra.GroupWithZero.Nat
import Mathlib.Data.Int.Notation
import Mathlib.Order.Nat
import NplgMcp.Errors

/-!
# Markup limits and counts

What the preflight of `parsers.py` and the recount of the constructed tree have in common: the
limits, the counters, and the comparison of the two counts.
-/

namespace NplgMcp

/-- `ParserLimits`: every field has one admissible value. -/
structure ParserLimits where
  markupBytes : ℕ := 2097152
  maxDepth : ℕ := 64
  maxNodes : ℕ := 50000
  maxAttributesPerNode : ℕ := 64
  maxTotalAttributes : ℕ := 100000
  maxFieldCodePoints : ℕ := 65536
  maxTotalTextCodePoints : ℕ := 1048576
  maxMetadataFields : ℕ := 2048
  maxRecords : ℕ := 1000
  parseDeadlineMs : ℕ := 2000
  deriving DecidableEq, Repr

/-- `PARSER_LIMITS`. -/
def parserLimits : ParserLimits := {}

/-- `_MarkupCounts`. -/
structure MarkupCounts where
  nodes : ℕ
  totalAttributes : ℕ
  totalTextCodePoints : ℕ
  semanticTotalTextCodePoints : ℕ
  metadataFields : ℕ
  records : ℕ
  maxFieldCodePoints : ℕ
  semanticMaxFieldCodePoints : ℕ
  deriving DecidableEq, Repr

/-- `_upstream_failure`, without the cause that is only logged. -/
def upstreamFailure (message : String) (sourceUrl : Option String := none) : AppError where
  code := .upstreamFailure
  message := message
  httpStatus := 502
  safeDetails := sourceUrl.bind fun url => if url = "" then none else some [("source_url", url)]

/-- `_saturating_increment`. -/
def saturatingIncrement (current increment maximum : ℕ) : ℕ :=
  if (increment : ℤ) > maximum - current then maximum + 1 else current + increment

/-- `_validate_text_budget`. -/
def validateTextBudget (current : ℕ) (value : String) (sourceUrl : Option String := none) :
    Except AppError ℕ :=
  if current + value.length > parserLimits.maxTotalTextCodePoints then
    .error (upstreamFailure "The repository response exceeded the aggregate text limit." sourceUrl)
  else .ok (current + value.length)

/-- The comparison of `_require_preflight_agreement`. -/
def preflightAgrees (preflight constructed : MarkupCounts) (compareNodes : Bool) : Bool :=
  preflight.totalAttributes == constructed.totalAttributes &&
    constructed.totalTextCodePoints ≤ preflight.totalTextCodePoints &&
    preflight.semanticTotalTextCodePoints == constructed.semanticTotalTextCodePoints &&
    preflight.metadataFields == constructed.metadataFields &&
    preflight.records == constructed.records &&
    constructed.maxFieldCodePoints ≤ preflight.maxFieldCodePoints &&
    preflight.semanticMaxFieldCodePoints == constructed.semanticMaxFieldCodePoints &&
    (!compareNodes || preflight.nodes == constructed.nodes)

/-- What `_require_preflight_agreement` raises. -/
def preflightDisagreement (sourceUrl : Option String := none) : AppError :=
  upstreamFailure "The repository parser detected a preflight disagreement." sourceUrl

/-- `_require_preflight_agreement`. -/
def requirePreflightAgreement (preflight constructed : MarkupCounts) (compareNodes : Bool)
    (sourceUrl : Option String := none) : Except AppError Unit :=
  if preflightAgrees preflight constructed compareNodes then .ok ()
  else .error (preflightDisagreement sourceUrl)

/-- Below its ceiling a counter is incremented exactly. -/
theorem saturatingIncrement_eq {current increment maximum : ℕ}
    (h : current + increment ≤ maximum) :
    saturatingIncrement current increment maximum = current + increment := by
  unfold saturatingIncrement
  rw [if_neg (by omega)]

/-- A counter that is incremented in some cases. -/
theorem incrementIf_eq {p : Bool} {current maximum : ℕ}
    (h : current + (if p then 1 else 0) ≤ maximum) :
    (if p then saturatingIncrement current 1 maximum else current) =
      current + if p then 1 else 0 := by
  cases p with
  | false => rfl
  | true => exact saturatingIncrement_eq h

theorem validateTextBudget_eq {current : ℕ} {value : String} {sourceUrl : Option String}
    (h : current + value.length ≤ parserLimits.maxTotalTextCodePoints) :
    validateTextBudget current value sourceUrl = .ok (current + value.length) := by
  unfold validateTextBudget
  rw [if_neg (by omega)]

end NplgMcp
