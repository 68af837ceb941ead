/-
The ranking of response options (`services/analysis/ranking.py`).

* `comparators` — the eight comparators with their thresholds;
* `rankStage`, `rankStages` — one elimination and the loop over them;
* `rankOptions` — feasibility, elimination, tie-break.
-/
import SupplyResponse.Analysis.Options

namespace SupplyResponse

/-- `RANKING_POLICY_VERSION`. -/
def rankingPolicyVersion : String := "thresholded-lexicographic-v1"

structure Comparator where
  name : String
  threshold : ℚ
  lowerIsBetter : Bool
  deriving DecidableEq

/-- `COMPARATORS`, but for the last. -/
def numericComparators : List Comparator :=
  [⟨"uncovered_part_demand", 500, true⟩, ⟨"otif_loss_percentage", 10, true⟩,
    ⟨"revenue_at_risk", 50000, true⟩, ⟨"margin_at_risk", 25000, true⟩,
    ⟨"response_cost", 10000, true⟩, ⟨"approval_burden", 0, true⟩, ⟨"execution_risk", 0, true⟩]

/-- The tie-break. -/
def optionIdComparator : Comparator := ⟨"option_id", 0, true⟩

/-- `COMPARATORS`. -/
def comparators : List Comparator := numericComparators ++ [optionIdComparator]

/-- The value of a comparator for an option; `none` where it asks for a
predicted outcome that the option does not have. -/
def comparatorValue (option : ResponseOption) (comparator : Comparator) : Option ℚ :=
  if comparator.name = "approval_burden" then some option.approvalBurden
  else if comparator.name = "execution_risk" then some option.executionRisk
  else option.predicted.map fun predicted =>
    if comparator.name = "uncovered_part_demand" then predicted.uncoveredPartDemand
    else if comparator.name = "otif_loss_percentage" then predicted.otifLossPercentage
    else if comparator.name = "revenue_at_risk" then predicted.revenueAtRisk
    else if comparator.name = "margin_at_risk" then predicted.marginAtRisk
    else predicted.responseCost

/-- `_numeric_value`. -/
def numericValue (option : ResponseOption) (comparator : Comparator) : Except AnalysisError ℚ :=
  match comparatorValue option comparator with
  | some value => .ok value
  | none => .error (.valueError s!"Response option {option.optionId} has no predicted outcome")

/-- `min(values)`. -/
def minimumOf : List ℚ → Except AnalysisError ℚ
  | [] => .error (.valueError "min() iterable argument is empty")
  | value :: values => .ok (values.foldl min value)

/-- `min(remaining, key=option_id)`: the first with the least id. -/
def leastId : List ResponseOption → Except AnalysisError ResponseOption
  | [] => .error (.valueError "min() iterable argument is empty")
  | option :: options =>
    .ok (options.foldl (fun best o => if o.optionId < best.optionId then o else best) option)

/-- The record of a stage. -/
def rankingStage (comparator : Comparator) (remaining retained : List ResponseOption)
    (values : List ComparatorValue) : RankingStage where
  comparator := comparator.name
  threshold := comparator.threshold
  lowerIsBetter := comparator.lowerIsBetter
  inputOptionIds := remaining.map ResponseOption.optionId
  values := values
  retainedOptionIds := retained.map ResponseOption.optionId
  eliminatedOptionIds :=
    (remaining.map ResponseOption.optionId).filter fun id =>
      id ∉ retained.map ResponseOption.optionId

/-- The body of the loop: the record and what is retained. -/
def rankStage (comparator : Comparator) (remaining : List ResponseOption) :
    Except AnalysisError (RankingStage × List ResponseOption) :=
  if comparator.name = "option_id" then do
    let best ← leastId remaining
    pure (rankingStage comparator remaining [best]
      (remaining.map fun o => ⟨o.optionId, .text o.optionId⟩), [best])
  else do
    let values ← remaining.mapM fun o => numericValue o comparator
    let best ← minimumOf values
    let cutoff ← decimalResult (decimalContext.add best comparator.threshold)
    let retained := ((remaining.zip values).filter fun p => p.2 ≤ cutoff).map Prod.fst
    pure (rankingStage comparator remaining retained
      ((remaining.zip values).map fun p => ⟨p.1.optionId, .decimal p.2⟩), retained)

/-- The loop, which stops when one option remains. -/
def rankStages : List Comparator → List ResponseOption →
    Except AnalysisError (List RankingStage × List ResponseOption)
  | [], remaining => .ok ([], remaining)
  | comparator :: rest, remaining => do
    let stage ← rankStage comparator remaining
    if stage.2.length = 1 then pure ([stage.1], stage.2)
    else do
      let later ← rankStages rest stage.2
      pure (stage.1 :: later.1, later.2)

/-- The option can be executed, and what it leads to is known. -/
def ResponseOption.isFeasible (o : ResponseOption) : Bool :=
  o.executable && o.predicted.isSome && o.blockingCodes.isEmpty

/-- The ids of the options with a property, sorted. -/
def sortedIds (options : List ResponseOption) (p : ResponseOption → Bool) : List String :=
  ((options.filter p).map ResponseOption.optionId).insertionSort (· ≤ ·)

/-- The feasible mitigations, by id. -/
def eligibleOptions (options : List ResponseOption) : List ResponseOption :=
  (options.filter fun o => o.activeMitigation && o.isFeasible).insertionSort
    fun a b => a.optionId ≤ b.optionId

/-- `rank_options`. -/
def rankOptions (options : List ResponseOption) : Except AnalysisError RankingResult :=
  if ¬ (options.map ResponseOption.optionId).Nodup then
    .error (.valueError "duplicate response option stable ID")
  else
    let baselines := sortedIds options fun o => !o.activeMitigation
    let infeasible := sortedIds options fun o => o.activeMitigation && !o.isFeasible
    let remaining := eligibleOptions options
    if remaining.isEmpty then
      .ok
        { policyVersion := rankingPolicyVersion
          eligibleOptionIds := []
          infeasibleOptionIds := infeasible
          excludedBaselineIds := baselines
          stages := []
          recommendedOptionId := none
          noFeasibleMitigation := true }
    else do
      let ranked ← rankStages comparators remaining
      pure
        { policyVersion := rankingPolicyVersion
          eligibleOptionIds := remaining.map ResponseOption.optionId
          infeasibleOptionIds := infeasible
          excludedBaselineIds := baselines
          stages := ranked.1
          recommendedOptionId := ranked.2.head?.map ResponseOption.optionId
          noFeasibleMitigation := false }

end SupplyResponse
