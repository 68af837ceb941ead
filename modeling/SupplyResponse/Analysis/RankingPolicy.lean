/-
The ranking follows the thresholded lexicographic policy.

* `criterion` — a numeric comparator as a criterion of an elimination;
* `FollowsStages` — a trace that is what the policy does, stage by stage;
* `FollowsPolicy` — a ranking result that the policy allows;
* `CutoffsExact` — in no round does rounding `best + threshold` to the digits of
  a `Decimal` move the cut-off past the value of an option;
* `followsPolicy_iff`, `rankOptions_followsPolicy` — the ranking follows the policy exactly then.
-/
import SupplyResponse.Analysis.Outcomes
import SupplyResponse.Analysis.Ranking
import SupplyResponse.Numbers.Elimination

namespace SupplyResponse

/-! ### The policy -/

/-- The value of a numeric comparator for a feasible option. -/
def valueOf (comparator : Comparator) (option : ResponseOption) : ℚ :=
  (comparatorValue option comparator).getD 0

/-- A numeric comparator as a criterion. -/
def criterion (comparator : Comparator) : Elimination.Criterion ResponseOption ℚ :=
  ⟨valueOf comparator, comparator.threshold⟩

/-- What a comparator keeps of the options still there: those within its
threshold of the best, and at the tie-break the one with the least id. -/
def policyKeep (comparator : Comparator) (options : List ResponseOption) : List ResponseOption :=
  if comparator.name = "option_id" then
    options.filter fun o => ∀ x ∈ options, o.optionId ≤ x.optionId
  else (criterion comparator).keep options

/-- The values a stage records. -/
def policyValues (comparator : Comparator) (options : List ResponseOption) : List ComparatorValue :=
  options.map fun o =>
    ⟨o.optionId, if comparator.name = "option_id" then .text o.optionId
      else .decimal (valueOf comparator o)⟩

/-- The trace of the policy from the given options: each stage takes what the
one before kept, keeps something, records what is left out, and is the last one
when a single option remains, which is then recommended. -/
def FollowsStages : List Comparator → List ResponseOption → List RankingStage → Option String → Prop
  | [], _, _, _ => False
  | comparator :: rest, options, stages, recommended =>
    let kept := policyKeep comparator options
    kept ≠ [] ∧ ∃ later,
      stages = rankingStage comparator options kept (policyValues comparator options) :: later ∧
      if kept.length = 1 then
        later = [] ∧ recommended = kept.head?.map ResponseOption.optionId
      else FollowsStages rest kept later recommended

/-- The result is what the policy allows. -/
structure FollowsPolicy (options : List ResponseOption) (result : RankingResult) : Prop where
  partition : (result.excludedBaselineIds ++ result.infeasibleOptionIds ++
    result.eligibleOptionIds).Perm (options.map ResponseOption.optionId)
  excludedBaselineIds : ∀ id, id ∈ result.excludedBaselineIds ↔
    ∃ o ∈ options, o.optionId = id ∧ o.activeMitigation = false
  infeasibleOptionIds : ∀ id, id ∈ result.infeasibleOptionIds ↔
    ∃ o ∈ options, o.optionId = id ∧ o.activeMitigation = true ∧ o.isFeasible = false
  eligibleOptionIds : result.eligibleOptionIds =
    (eligibleOptions options).map ResponseOption.optionId
  noFeasibleMitigation : eligibleOptions options = [] →
    result.stages = [] ∧ result.recommendedOptionId = none ∧ result.noFeasibleMitigation = true
  stages : eligibleOptions options ≠ [] →
    FollowsStages comparators (eligibleOptions options) result.stages result.recommendedOptionId
  dominance : ∀ best ∈ eligibleOptions options,
    result.recommendedOptionId = some best.optionId →
    ∀ o ∈ eligibleOptions options, o ≠ best →
    (∀ c ∈ numericComparators, valueOf c o ≤ valueOf c best) →
    (∀ c ∈ numericComparators, valueOf c best ≤ valueOf c o + c.threshold) ∧
      (∀ c ∈ numericComparators, c.threshold = 0 → valueOf c best = valueOf c o) ∧
      best.optionId < o.optionId

/-- Rounding the cut-off of a round changes nothing. -/
def CutoffExact (c : Elimination.Criterion ResponseOption ℚ) (options : List ResponseOption) :
    Prop :=
  ∃ best ∈ options, (∀ o ∈ options, c.value best ≤ c.value o) ∧
    ∃ cutoff, decimalContext.add (c.value best) c.slack = some cutoff ∧
      ∀ o ∈ options, c.value o ≤ cutoff ↔ c.value o ≤ c.value best + c.slack

/-- In every round of the elimination of the eligible options, if there are any. -/
def CutoffsExact (options : List ResponseOption) : Prop :=
  eligibleOptions options ≠ [] →
  ∀ round ∈ Elimination.rounds (numericComparators.map criterion) (eligibleOptions options),
    CutoffExact round.1 round.2

/-! ### A stage of the code -/

theorem minimumOf_eq_ok {values : List ℚ} {best : ℚ} :
    minimumOf values = .ok best ↔ best ∈ values ∧ ∀ v ∈ values, best ≤ v := by
  rw [← List.min?_eq_some_iff]
  cases values with
  | nil => simp [minimumOf]
  | cons v values => rw [minimumOf, List.min?_cons', Except.ok.injEq, Option.some.injEq]

theorem foldl_leastId (options : List ResponseOption) (first : ResponseOption) :
    let best := options.foldl (fun best o => if o.optionId < best.optionId then o else best) first
    best ∈ first :: options ∧ ∀ o ∈ first :: options, best.optionId ≤ o.optionId := by
  induction options generalizing first with
  | nil => simp
  | cons o options ih =>
    simp only [List.foldl_cons]
    by_cases hlt : o.optionId < first.optionId
    · obtain ⟨hmem, hmin⟩ := ih o
      rw [if_pos hlt]
      refine ⟨List.mem_cons_of_mem _ hmem, fun x hx => ?_⟩
      rcases List.mem_cons.mp hx with rfl | hx
      · exact (hmin o (List.mem_cons_self ..)).trans hlt.le
      · exact hmin x hx
    · obtain ⟨hmem, hmin⟩ := ih first
      rw [if_neg hlt]
      refine ⟨?_, fun x hx => ?_⟩
      · rcases List.mem_cons.mp hmem with h | h
        · rw [h]
          exact List.mem_cons_self ..
        · exact List.mem_cons_of_mem _ (List.mem_cons_of_mem _ h)
      · rcases List.mem_cons.mp hx with rfl | hx
        · exact hmin _ (List.mem_cons_self ..)
        · rcases List.mem_cons.mp hx with rfl | hx
          · exact (hmin first (List.mem_cons_self ..)).trans (not_lt.mp hlt)
          · exact hmin x (List.mem_cons_of_mem _ hx)

theorem leastId_eq_ok {options : List ResponseOption} (hne : options ≠ []) :
    ∃ best ∈ options, leastId options = .ok best ∧ ∀ o ∈ options, best.optionId ≤ o.optionId := by
  cases options with
  | nil => exact absurd rfl hne
  | cons first options =>
    obtain ⟨hmem, hmin⟩ := foldl_leastId options first
    exact ⟨_, hmem, rfl, hmin⟩

/-- Options with distinct ids. -/
def DistinctIds (options : List ResponseOption) : Prop :=
  (options.map ResponseOption.optionId).Nodup

theorem DistinctIds.eq {options : List ResponseOption} (h : DistinctIds options)
    {a b : ResponseOption} (ha : a ∈ options) (hb : b ∈ options) (hid : a.optionId = b.optionId) :
    a = b :=
  List.inj_on_of_nodup_map h ha hb hid

theorem DistinctIds.nodup {options : List ResponseOption} (h : DistinctIds options) :
    options.Nodup := List.Nodup.of_map _ h

theorem DistinctIds.sublist {options options' : List ResponseOption} (h : DistinctIds options)
    (hsub : options'.Sublist options) : DistinctIds options' := List.Nodup.sublist (hsub.map _) h

/-- Sublists of options with distinct ids are told apart by their ids. -/
theorem DistinctIds.eq_of_map_eq {options kept kept' : List ResponseOption}
    (h : DistinctIds options) (hkept : kept.Sublist options) (hkept' : kept'.Sublist options)
    (hids : kept.map ResponseOption.optionId = kept'.map ResponseOption.optionId) : kept = kept' := by
  refine List.ext_getElem (by simpa using congrArg List.length hids) fun k hk hk' => ?_
  have hget : (kept.map ResponseOption.optionId)[k]? = (kept'.map ResponseOption.optionId)[k]? := by
    rw [hids]
  rw [List.getElem?_map, List.getElem?_map, List.getElem?_eq_getElem hk,
    List.getElem?_eq_getElem hk'] at hget
  exact h.eq (hkept.subset (List.getElem_mem hk)) (hkept'.subset (List.getElem_mem hk'))
    (Option.some.inj hget)

/-- Every option has a prediction. -/
def AllPredicted (options : List ResponseOption) : Prop := ∀ o ∈ options, o.predicted.isSome = true

theorem numericValue_eq {comparator : Comparator} {o : ResponseOption}
    (h : o.predicted.isSome = true) : numericValue o comparator = .ok (valueOf comparator o) := by
  obtain ⟨p, hp⟩ := Option.isSome_iff_exists.mp h
  simp only [numericValue, valueOf, comparatorValue, hp]
  split_ifs <;> rfl

theorem mapM_numericValue {comparator : Comparator} {options : List ResponseOption}
    (h : AllPredicted options) :
    (options.mapM fun o => numericValue o comparator) = .ok (options.map (valueOf comparator)) := by
  induction options with
  | nil => rfl
  | cons o options ih =>
    rw [List.mapM_cons, numericValue_eq (h o (List.mem_cons_self ..)),
      ih fun x hx => h x (List.mem_cons_of_mem _ hx)]
    rfl

/-- A numeric stage keeps what is not above the rounded cut-off. -/
theorem rankStage_eq_ok {comparator : Comparator} (hname : comparator.name ≠ "option_id")
    {options : List ResponseOption} (hpredicted : AllPredicted options)
    {result : RankingStage × List ResponseOption} :
    rankStage comparator options = .ok result ↔
      ∃ best cutoff, best ∈ options ∧
        (∀ o ∈ options, valueOf comparator best ≤ valueOf comparator o) ∧
        decimalContext.add (valueOf comparator best) comparator.threshold = some cutoff ∧
        result.2 = options.filter (fun o => valueOf comparator o ≤ cutoff) ∧
        result.1 = rankingStage comparator options result.2 (policyValues comparator options) := by
  have hzip : options.zip (options.map (valueOf comparator)) =
      options.map fun o => (o, valueOf comparator o) := by
    induction options with
    | nil => rfl
    | cons o options ih => simp [ih fun x hx => hpredicted x (List.mem_cons_of_mem _ hx)]
  have hkept : ∀ cutoff : ℚ,
      (((options.map fun o => (o, valueOf comparator o)).filter fun p => p.2 ≤ cutoff).map Prod.fst) =
        options.filter fun o => valueOf comparator o ≤ cutoff := by
    intro cutoff
    rw [List.filter_map, List.map_map]
    exact List.map_id _
  have hvalues : (options.map fun o => (o, valueOf comparator o)).map
      (fun p => (⟨p.1.optionId, .decimal p.2⟩ : ComparatorValue)) =
        policyValues comparator options := by
    rw [List.map_map, policyValues]
    simp only [if_neg hname]
    rfl
  rw [rankStage, if_neg hname]
  simp only [bind_eq_ok, mapM_numericValue hpredicted, minimumOf_eq_ok, decimalResult_eq_ok,
    Except.ok.injEq, exists_eq_left', hzip, hkept, hvalues]
  constructor
  · rintro ⟨value, ⟨hmem, hmin⟩, cutoff, hcutoff, h⟩
    obtain ⟨best, hbest, rfl⟩ := List.mem_map.mp hmem
    obtain rfl := Except.ok.inj h
    exact ⟨best, cutoff, hbest, fun o ho => hmin _ (List.mem_map_of_mem ho), hcutoff, rfl, rfl⟩
  · rintro ⟨best, cutoff, hbest, hmin, hcutoff, hkept', hstage⟩
    refine ⟨_, ⟨List.mem_map_of_mem hbest, fun v hv => ?_⟩, cutoff, hcutoff, ?_⟩
    · obtain ⟨o, ho, rfl⟩ := List.mem_map.mp hv
      exact hmin o ho
    · rw [← hkept', ← hstage]
      rfl

/-- The tie-break keeps the option with the least id. -/
theorem rankStage_optionId {options : List ResponseOption} (hne : options ≠ [])
    (hids : DistinctIds options) :
    ∃ best ∈ options, (∀ o ∈ options, best.optionId ≤ o.optionId) ∧
      policyKeep optionIdComparator options = [best] ∧
      rankStage optionIdComparator options =
        .ok (rankingStage optionIdComparator options [best]
          (policyValues optionIdComparator options), [best]) := by
  obtain ⟨best, hbest, hleast, hmin⟩ := leastId_eq_ok hne
  refine ⟨best, hbest, hmin, ?_, ?_⟩
  · have hmem : ∀ o, o ∈ options.filter (fun o => ∀ x ∈ options, o.optionId ≤ x.optionId) ↔
        o ∈ [best] := by
      intro o
      simp only [List.mem_filter, decide_eq_true_eq, List.mem_singleton]
      constructor
      · rintro ⟨ho, hle⟩
        exact hids.eq ho hbest (le_antisymm (hle best hbest) (hmin o ho))
      · rintro rfl
        exact ⟨hbest, hmin⟩
    have hperm := (List.perm_ext_iff_of_nodup (hids.nodup.filter _) (List.nodup_singleton best)).mpr
      hmem
    rw [policyKeep, if_pos (show optionIdComparator.name = "option_id" from rfl)]
    exact List.perm_singleton.mp hperm
  · rw [rankStage, if_pos (show optionIdComparator.name = "option_id" from rfl), hleast]
    rfl

/-! ### The loop -/

section loop

variable {cs : List Comparator} {options : List ResponseOption}

theorem within_iff {c : Elimination.Criterion ResponseOption ℚ} {best : ResponseOption}
    (hbest : best ∈ options) (hmin : ∀ o ∈ options, c.value best ≤ c.value o) (o : ResponseOption) :
    c.Within options o ↔ c.value o ≤ c.value best + c.slack := by
  constructor
  · exact fun h => h best hbest
  · intro h x hx
    have := hmin x hx
    linarith

theorem policyKeep_eq {c : Comparator} (hname : c.name ≠ "option_id") :
    policyKeep c options = (criterion c).keep options := if_neg hname

/-- With exact cut-offs the loop returns what the policy does. -/
theorem exists_followsStages (hnames : ∀ c ∈ cs, c.name ≠ "option_id")
    (hthreshold : ∀ c ∈ cs, 0 ≤ c.threshold) (hne : options ≠ []) (hids : DistinctIds options)
    (hpredicted : AllPredicted options)
    (hexact : ∀ round ∈ Elimination.rounds (cs.map criterion) options,
      CutoffExact round.1 round.2) :
    ∃ stages best,
      rankStages (cs ++ [optionIdComparator]) options = .ok (stages, [best]) ∧
      FollowsStages (cs ++ [optionIdComparator]) options stages (some best.optionId) ∧
      best ∈ Elimination.survivors (cs.map criterion) options ∧
      ∀ o ∈ Elimination.survivors (cs.map criterion) options, best.optionId ≤ o.optionId := by
  induction cs generalizing options with
  | nil =>
    obtain ⟨best, hbest, hmin, hkeep, hstage⟩ := rankStage_optionId hne hids
    refine ⟨[rankingStage optionIdComparator options [best] (policyValues optionIdComparator options)],
      best, ?_, ?_, hbest, hmin⟩
    · rw [List.nil_append, rankStages, hstage]
      rfl
    · simp only [List.nil_append, FollowsStages, hkeep]
      exact ⟨List.cons_ne_nil _ _, [], rfl, by simp⟩
  | cons c cs ih =>
    have hname := hnames c (List.mem_cons_self ..)
    rw [List.map_cons, Elimination.rounds] at hexact
    obtain ⟨best₀, hbest₀, hmin₀, cutoff, hcutoff, hiff⟩ := hexact _ (List.mem_cons_self ..)
    -- the code keeps what the policy keeps
    have hkept : options.filter (fun o => valueOf c o ≤ cutoff) = (criterion c).keep options := by
      refine List.filter_congr fun o ho => ?_
      rw [decide_eq_decide, within_iff hbest₀ hmin₀]
      exact hiff o ho
    have hstage : rankStage c options = .ok (rankingStage c options ((criterion c).keep options)
        (policyValues c options), (criterion c).keep options) :=
      (rankStage_eq_ok hname hpredicted).mpr
        ⟨best₀, cutoff, hbest₀, hmin₀, hcutoff, hkept.symm, rfl⟩
    set stage := rankingStage c options ((criterion c).keep options) (policyValues c options)
    have hkeepNe : (criterion c).keep options ≠ [] :=
      Elimination.Criterion.keep_ne_nil (hthreshold c (List.mem_cons_self ..)) hne
    have hsub := (criterion c).keep_sublist options
    by_cases hone : ((criterion c).keep options).length = 1
    · obtain ⟨best, hbest⟩ := List.length_eq_one_iff.mp hone
      refine ⟨[stage], best, ?_, ?_, ?_, ?_⟩
      · rw [List.cons_append, rankStages, hstage]
        simp only [bind, Except.bind]
        rw [if_pos hone, hbest]
        rfl
      · simp only [List.cons_append, FollowsStages, policyKeep_eq hname]
        refine ⟨hkeepNe, [], rfl, ?_⟩
        rw [if_pos hone, hbest]
        exact ⟨rfl, rfl⟩
      · rw [List.map_cons, Elimination.survivors, if_pos hone, hbest]
        exact List.mem_singleton_self _
      · rw [List.map_cons, Elimination.survivors, if_pos hone, hbest]
        intro o ho
        rw [List.mem_singleton.mp ho]
    · rw [if_neg hone] at hexact
      obtain ⟨stages, best, hrank, hfollows, hmem, hmin⟩ :=
        ih (fun d hd => hnames d (List.mem_cons_of_mem _ hd))
          (fun d hd => hthreshold d (List.mem_cons_of_mem _ hd)) hkeepNe (hids.sublist hsub)
          (fun o ho => hpredicted o (hsub.subset ho))
          (fun round hround => hexact round (List.mem_cons_of_mem _ hround))
      refine ⟨stage :: stages, best, ?_, ?_, ?_, ?_⟩
      · rw [List.cons_append, rankStages, hstage]
        simp only [bind, Except.bind]
        rw [if_neg hone, hrank]
        rfl
      · simp only [List.cons_append, FollowsStages, policyKeep_eq hname]
        refine ⟨hkeepNe, stages, rfl, ?_⟩
        rw [if_neg hone]
        exact hfollows
      · rw [List.map_cons, Elimination.survivors, if_neg hone]
        exact hmem
      · rw [List.map_cons, Elimination.survivors, if_neg hone]
        exact hmin

/-- A loop that follows the policy had exact cut-offs. -/
theorem cutoffExact_of_followsStages (hnames : ∀ c ∈ cs, c.name ≠ "option_id")
    (hids : DistinctIds options) (hpredicted : AllPredicted options) {stages : List RankingStage}
    {final : List ResponseOption} {recommended : Option String}
    (hrank : rankStages (cs ++ [optionIdComparator]) options = .ok (stages, final))
    (hfollows : FollowsStages (cs ++ [optionIdComparator]) options stages recommended) :
    ∀ round ∈ Elimination.rounds (cs.map criterion) options, CutoffExact round.1 round.2 := by
  induction cs generalizing options stages with
  | nil => simp [Elimination.rounds]
  | cons c cs ih =>
    have hname := hnames c (List.mem_cons_self ..)
    rw [List.cons_append, rankStages, bind_eq_ok] at hrank
    obtain ⟨⟨stage, kept⟩, hstage, hrank⟩ := hrank
    obtain ⟨best, cutoff, hbest, hmin, hcutoff, hkept, hrecord⟩ :=
      (rankStage_eq_ok hname hpredicted).mp hstage
    simp only at hkept hrecord hrank
    simp only [List.cons_append, FollowsStages, policyKeep_eq hname] at hfollows
    obtain ⟨-, later, hstages, hlater⟩ := hfollows
    have hsub := (criterion c).keep_sublist options
    -- both records are the first of the trace, so both keep the same ids
    have hfirst : stages.head? = some stage := by
      split_ifs at hrank
      · obtain ⟨rfl, rfl⟩ := Prod.mk.inj (Except.ok.inj hrank)
        rfl
      · obtain ⟨⟨_, _⟩, -, hrank⟩ := bind_eq_ok.mp hrank
        obtain ⟨rfl, rfl⟩ := Prod.mk.inj (Except.ok.inj hrank)
        rfl
    have hsame : stage = rankingStage c options ((criterion c).keep options)
        (policyValues c options) := by
      rw [hstages] at hfirst
      exact (Option.some.inj hfirst).symm
    have hkeep : kept = (criterion c).keep options := by
      have hids' := congrArg RankingStage.retainedOptionIds (hrecord.symm.trans hsame)
      exact hids.eq_of_map_eq (hkept ▸ List.filter_sublist) hsub hids'
    have hiff : ∀ o ∈ options, valueOf c o ≤ cutoff ↔
        valueOf c o ≤ valueOf c best + c.threshold := by
      intro o ho
      have hmem : o ∈ kept ↔ o ∈ (criterion c).keep options := by rw [hkeep]
      rw [Elimination.Criterion.mem_keep, within_iff hbest hmin, hkept, List.mem_filter] at hmem
      simp only [ho, true_and, decide_eq_true_eq] at hmem
      exact hmem
    intro round hround
    rw [List.map_cons, Elimination.rounds] at hround
    rcases List.mem_cons.mp hround with rfl | hround
    · exact ⟨best, hbest, hmin, cutoff, hcutoff, hiff⟩
    · split_ifs at hround hlater with hone
      · exact absurd hround List.not_mem_nil
      · rw [if_neg (by rw [hkeep]; exact hone)] at hrank
        obtain ⟨⟨later', final'⟩, hrank', hrank⟩ := bind_eq_ok.mp hrank
        obtain ⟨hpair, rfl⟩ := Prod.mk.inj (Except.ok.inj hrank)
        obtain rfl : later' = later := (List.cons.inj (hpair.trans hstages)).2
        refine ih (fun d hd => hnames d (List.mem_cons_of_mem _ hd)) (hids.sublist hsub)
          (fun o ho => hpredicted o (hsub.subset ho)) ?_ hlater round hround
        rw [← hkeep, hrank']

end loop

/-! ### The ranking -/

section ranking

variable {options : List ResponseOption}

theorem eligibleOptions_perm (options : List ResponseOption) :
    (eligibleOptions options).Perm
      (options.filter fun o => o.activeMitigation && o.isFeasible) :=
  List.perm_insertionSort _ _

theorem mem_eligibleOptions {o : ResponseOption} :
    o ∈ eligibleOptions options ↔
      o ∈ options ∧ o.activeMitigation = true ∧ o.isFeasible = true := by
  rw [(eligibleOptions_perm options).mem_iff, List.mem_filter, Bool.and_eq_true]

theorem distinctIds_eligibleOptions (h : DistinctIds options) :
    DistinctIds (eligibleOptions options) :=
  (((eligibleOptions_perm options).map _).nodup_iff).mpr
    (List.Nodup.sublist (List.filter_sublist.map _) h)

theorem allPredicted_eligibleOptions : AllPredicted (eligibleOptions options) := by
  intro o ho
  obtain ⟨-, -, hfeasible⟩ := mem_eligibleOptions.mp ho
  simp only [ResponseOption.isFeasible, Bool.and_eq_true] at hfeasible
  exact hfeasible.1.2

theorem sortedIds_perm (p : ResponseOption → Bool) :
    (sortedIds options p).Perm ((options.filter p).map ResponseOption.optionId) :=
  List.perm_insertionSort _ _

theorem mem_sortedIds {p : ResponseOption → Bool} {id : String} :
    id ∈ sortedIds options p ↔ ∃ o ∈ options, o.optionId = id ∧ p o = true := by
  simp only [(sortedIds_perm p).mem_iff, List.mem_map, List.mem_filter]
  exact ⟨fun ⟨o, ⟨ho, hp⟩, hid⟩ => ⟨o, ho, hid, hp⟩, fun ⟨o, ho, hid, hp⟩ => ⟨o, ⟨ho, hp⟩, hid⟩⟩

/-- Baselines, infeasible and eligible options are all options, each once. -/
theorem partition_perm (options : List ResponseOption) :
    (sortedIds options (fun o => !o.activeMitigation) ++
      sortedIds options (fun o => o.activeMitigation && !o.isFeasible) ++
      (eligibleOptions options).map ResponseOption.optionId).Perm
        (options.map ResponseOption.optionId) := by
  have hactive := List.filter_append_perm (fun o => !o.activeMitigation) options
  have hfeasible := List.filter_append_perm (fun o => !o.isFeasible)
    (options.filter fun o => !(!o.activeMitigation))
  simp only [List.filter_filter, Bool.not_not] at hactive hfeasible
  have hpieces : (options.filter (fun o => !o.activeMitigation) ++
      options.filter (fun o => o.activeMitigation && !o.isFeasible) ++
      options.filter fun o => o.activeMitigation && o.isFeasible).Perm options := by
    simp only [Bool.and_comm] at hfeasible ⊢
    rw [List.append_assoc]
    exact (hfeasible.append_left _).trans hactive
  refine List.Perm.trans ?_ (hpieces.map ResponseOption.optionId)
  rw [List.map_append, List.map_append]
  exact ((sortedIds_perm _).append (sortedIds_perm _)).append ((eligibleOptions_perm options).map _)

theorem numericComparators_names : ∀ c ∈ numericComparators, c.name ≠ "option_id" := by decide

theorem numericComparators_thresholds : ∀ c ∈ numericComparators, 0 ≤ c.threshold := by
  decide +kernel

/-- The result of a ranking with the given stages and recommendation. -/
def rankingOf (options : List ResponseOption) (stages : List RankingStage)
    (recommended : Option String) : RankingResult where
  policyVersion := rankingPolicyVersion
  eligibleOptionIds := (eligibleOptions options).map ResponseOption.optionId
  infeasibleOptionIds := sortedIds options fun o => o.activeMitigation && !o.isFeasible
  excludedBaselineIds := sortedIds options fun o => !o.activeMitigation
  stages := stages
  recommendedOptionId := recommended
  noFeasibleMitigation := (eligibleOptions options).isEmpty

theorem rankOptions_of_eligible_nil (hids : DistinctIds options)
    (hnil : eligibleOptions options = []) :
    rankOptions options = .ok (rankingOf options [] none) := by
  rw [DistinctIds] at hids
  rw [rankOptions, if_neg (not_not.mpr hids)]
  simp only [hnil, List.isEmpty_nil, if_true, rankingOf, List.map_nil]

theorem rankOptions_eq_ok (hids : DistinctIds options) (hne : eligibleOptions options ≠ [])
    {result : RankingResult} :
    rankOptions options = .ok result ↔
      ∃ stages final, rankStages comparators (eligibleOptions options) = .ok (stages, final) ∧
        result = rankingOf options stages (final.head?.map ResponseOption.optionId) := by
  have hempty : (eligibleOptions options).isEmpty = false := by
    rw [List.isEmpty_eq_false_iff]
    exact hne
  rw [DistinctIds] at hids
  rw [rankOptions, if_neg (not_not.mpr hids)]
  simp only [hempty, Bool.false_eq_true, if_false, bind_eq_ok]
  constructor
  · rintro ⟨⟨stages, final⟩, hrank, h⟩
    refine ⟨stages, final, hrank, ?_⟩
    rw [← Except.ok.inj h, rankingOf, hempty]
  · rintro ⟨stages, final, hrank, rfl⟩
    refine ⟨(stages, final), hrank, ?_⟩
    rw [rankingOf, hempty]
    rfl

/-- What does not depend on the stages. -/
theorem followsPolicy_rankingOf {stages : List RankingStage} {recommended : Option String}
    (hnil : eligibleOptions options = [] → stages = [] ∧ recommended = none)
    (hstages : eligibleOptions options ≠ [] →
      FollowsStages comparators (eligibleOptions options) stages recommended)
    (hdominance : ∀ best ∈ eligibleOptions options, recommended = some best.optionId →
      ∀ o ∈ eligibleOptions options, o ≠ best →
      (∀ c ∈ numericComparators, valueOf c o ≤ valueOf c best) →
      (∀ c ∈ numericComparators, valueOf c best ≤ valueOf c o + c.threshold) ∧
        best.optionId < o.optionId) :
    FollowsPolicy options (rankingOf options stages recommended) where
  partition := partition_perm options
  excludedBaselineIds id := by
    simp only [rankingOf, mem_sortedIds, Bool.not_eq_eq_eq_not, Bool.not_true]
  infeasibleOptionIds id := by
    simp only [rankingOf, mem_sortedIds, Bool.and_eq_true, Bool.not_eq_eq_eq_not, Bool.not_true]
  eligibleOptionIds := rfl
  noFeasibleMitigation h := ⟨(hnil h).1, (hnil h).2, by simp [rankingOf, h]⟩
  stages := hstages
  dominance best hbest hrecommended o ho hne hle := by
    obtain ⟨hslack, hid⟩ := hdominance best hbest hrecommended o ho hne hle
    refine ⟨hslack, fun c hc hzero => ?_, hid⟩
    have := hslack c hc
    rw [hzero, add_zero] at this
    exact le_antisymm this (hle c hc)

/-- With distinct ids the ranking follows the policy exactly when rounding moves
no cut-off past an option. -/
theorem followsPolicy_iff (hids : DistinctIds options) :
    (∃ result, rankOptions options = .ok result ∧ FollowsPolicy options result) ↔
      CutoffsExact options := by
  have heligible := distinctIds_eligibleOptions hids
  by_cases hnil : eligibleOptions options = []
  · refine ⟨fun _ h => absurd hnil h, fun _ => ⟨_, rankOptions_of_eligible_nil hids hnil,
      followsPolicy_rankingOf (fun _ => ⟨rfl, rfl⟩) (fun h => absurd hnil h) ?_⟩⟩
    simp [hnil]
  · constructor
    · rintro ⟨result, hrank, hfollows⟩
      obtain ⟨stages, final, hstages, rfl⟩ := (rankOptions_eq_ok hids hnil).mp hrank
      exact fun _ => cutoffExact_of_followsStages numericComparators_names heligible
        allPredicted_eligibleOptions hstages (hfollows.stages hnil)
    · intro hexact
      obtain ⟨stages, best, hrank, hfollows, hbest, hmin⟩ :=
        exists_followsStages numericComparators_names numericComparators_thresholds hnil heligible
          allPredicted_eligibleOptions (hexact hnil)
      refine ⟨_, (rankOptions_eq_ok hids hnil).mpr ⟨stages, [best], hrank, rfl⟩,
        followsPolicy_rankingOf (fun h => absurd h hnil) (fun _ => hfollows) ?_⟩
      intro best' hbest' hrecommended o ho hne hle
      have hsub := Elimination.survivors_sublist (numericComparators.map criterion)
        (eligibleOptions options)
      obtain rfl : best' = best :=
        heligible.eq hbest' (hsub.subset hbest) (Option.some.inj hrecommended).symm
      obtain ⟨hsurvives, hslack⟩ := Elimination.mem_survivors_of_dominates hne ho hbest (by
        intro c hc
        obtain ⟨d, hd, rfl⟩ := List.mem_map.mp hc
        exact hle d hd)
      refine ⟨fun c hc => hslack _ (List.mem_map_of_mem hc), ?_⟩
      refine lt_of_le_of_ne (hmin o hsurvives) fun hid => hne ?_
      exact (heligible.eq hbest' ho hid).symm

/-! ### The order of the options -/

theorem sortedIds_congr {options' : List ResponseOption} (h : options'.Perm options)
    (p : ResponseOption → Bool) : sortedIds options' p = sortedIds options p := by
  have hperm : (sortedIds options' p).Perm (sortedIds options p) :=
    (sortedIds_perm p).trans (((h.filter p).map _).trans (sortedIds_perm p).symm)
  exact hperm.eq_of_pairwise (fun a b _ _ hab hba => le_antisymm hab hba)
    (List.pairwise_insertionSort _ _) (List.pairwise_insertionSort _ _)

theorem eligibleOptions_congr (hids : DistinctIds options) {options' : List ResponseOption}
    (h : options'.Perm options) : eligibleOptions options' = eligibleOptions options := by
  have hperm : (eligibleOptions options').Perm (eligibleOptions options) :=
    (eligibleOptions_perm options').trans ((h.filter _).trans (eligibleOptions_perm options).symm)
  have htotal : Std.Total fun a b : ResponseOption => a.optionId ≤ b.optionId :=
    ⟨fun a b => le_total a.optionId b.optionId⟩
  have htrans : IsTrans ResponseOption fun a b => a.optionId ≤ b.optionId :=
    ⟨fun _ _ _ hab hbc => hab.trans hbc⟩
  refine hperm.eq_of_pairwise (fun a b ha hb hab hba => ?_) (List.pairwise_insertionSort _ _)
    (List.pairwise_insertionSort _ _)
  exact hids.eq (h.subset (mem_eligibleOptions.mp ha).1) (mem_eligibleOptions.mp hb).1
    (le_antisymm hab hba)

/-- The ranking does not depend on the order of the options. -/
theorem rankOptions_congr (hids : DistinctIds options) {options' : List ResponseOption}
    (h : options'.Perm options) : rankOptions options' = rankOptions options := by
  have hids' : DistinctIds options' := (h.map _).nodup_iff.mpr hids
  rw [DistinctIds] at hids hids'
  rw [rankOptions, rankOptions, if_neg (not_not.mpr hids), if_neg (not_not.mpr hids'),
    eligibleOptions_congr hids h]
  simp only [sortedIds_congr h]

/-! ### Amounts of ordinary size -/

/-- Whole cents, below `10 ^ 25`. -/
def IsOrdinaryAmount (v : ℚ) : Prop := ∃ m : ℤ, v = m / 100 ∧ |v| < 10 ^ 25

theorem cutoffExact_of_ordinary {c : Elimination.Criterion ResponseOption ℚ} (hne : options ≠ [])
    (hvalue : ∀ o ∈ options, IsOrdinaryAmount (c.value o)) (hslack : IsOrdinaryAmount c.slack) :
    CutoffExact c options := by
  obtain ⟨best, hbest, hmin⟩ := Elimination.exists_least c.value hne
  obtain ⟨m, hm, hmlt⟩ := hvalue best hbest
  obtain ⟨n, hn, hnlt⟩ := hslack
  have hsum : c.value best + c.slack = ((m + n : ℤ) : ℚ) * 10 ^ (-2 : ℤ) := by
    rw [hm, hn]
    push_cast
    ring
  have hlt : |c.value best + c.slack| < 10 ^ ((25 : ℤ) + 1) := by
    refine (abs_add_le _ _).trans_lt ?_
    norm_num at hmlt hnlt ⊢
    linarith
  have hadd : decimalContext.add (c.value best) c.slack = some (c.value best + c.slack) :=
    decimalContext.fix_eq_self hsum hlt (by decide) (by decide) (by decide)
  exact ⟨best, hbest, hmin, _, hadd, fun _ _ => Iff.rfl⟩

theorem numericComparators_ordinary : ∀ c ∈ numericComparators, IsOrdinaryAmount c.threshold := by
  intro c hc
  simp only [numericComparators, List.mem_cons, List.not_mem_nil, or_false] at hc
  rcases hc with rfl | rfl | rfl | rfl | rfl | rfl | rfl
  · exact ⟨50000, by norm_num, by norm_num⟩
  · exact ⟨1000, by norm_num, by norm_num⟩
  · exact ⟨5000000, by norm_num, by norm_num⟩
  · exact ⟨2500000, by norm_num, by norm_num⟩
  · exact ⟨1000000, by norm_num, by norm_num⟩
  · exact ⟨0, by norm_num, by norm_num⟩
  · exact ⟨0, by norm_num, by norm_num⟩

/-- Comparator values in whole cents below `10 ^ 25` make all cut-offs exact. -/
theorem cutoffsExact_of_ordinary
    (h : ∀ o ∈ eligibleOptions options, ∀ c ∈ numericComparators, IsOrdinaryAmount (valueOf c o)) :
    CutoffsExact options := by
  intro hne round hround
  have hslack : ∀ c ∈ numericComparators.map criterion, 0 ≤ c.slack := by
    intro c hc
    obtain ⟨d, hd, rfl⟩ := List.mem_map.mp hc
    exact numericComparators_thresholds d hd
  obtain ⟨hmem, hsub, hrest⟩ := Elimination.of_mem_rounds hslack hne hround
  obtain ⟨d, hd, heq⟩ := List.mem_map.mp hmem
  rw [← heq]
  exact cutoffExact_of_ordinary hrest (fun o ho => h o (hsub.subset ho) d hd)
    (numericComparators_ordinary d hd)

end ranking

/-- The ranking of options with distinct ids: it follows the policy exactly when
no cut-off is rounded past an option, as for amounts of ordinary size; and it
does not depend on the order of the options. -/
theorem rankOptions_followsPolicy (options : List ResponseOption) (hids : DistinctIds options) :
    ((∃ result, rankOptions options = .ok result ∧ FollowsPolicy options result) ↔
      CutoffsExact options) ∧
    ((∀ o ∈ eligibleOptions options, ∀ c ∈ numericComparators, IsOrdinaryAmount (valueOf c o)) →
      CutoffsExact options) ∧
    ∀ options' : List ResponseOption, options'.Perm options →
      rankOptions options' = rankOptions options :=
  ⟨followsPolicy_iff hids, cutoffsExact_of_ordinary, fun _ h => rankOptions_congr hids h⟩

/-- A feasible mitigation with the given uncovered demand. -/
def rankedOption (id : String) (uncovered : ℤ) : ResponseOption where
  optionId := id
  optionKind := .transfer
  name := "Transfer inventory from Dallas"
  executable := true
  activeMitigation := true
  predicted := some
    { uncoveredPartDemand := uncovered
      otifLossPercentage := 50
      revenueAtRisk := 580000
      marginAtRisk := 203000
      responseCost := 2250
      protectedCustomerOrderIds := [] }

def rankedOptions : List ResponseOption :=
  [rankedOption "RL-OPTION-A" 5300, rankedOption "RL-OPTION-B" 3800]

/-- Whole amounts below `10 ^ 25` are ordinary. -/
theorem ordinaryAmount_of_whole {v : ℚ} (hden : v.den = 1) (hlt : |v.num| < 10 ^ 25) :
    IsOrdinaryAmount v := by
  have hv : v = v.num := (Rat.den_eq_one_iff v).mp hden |>.symm
  refine ⟨v.num * 100, ?_, ?_⟩
  · rw [Int.cast_mul, ← hv]
    ring
  · rw [hv]
    exact_mod_cast hlt

/-- The ranking of two ordinary options follows the policy, in either order. -/
theorem rankOptions_followsPolicy_sample :
    (∃ result, rankOptions rankedOptions = .ok result ∧ FollowsPolicy rankedOptions result) ∧
      rankOptions rankedOptions.reverse = rankOptions rankedOptions := by
  have hids : DistinctIds rankedOptions := by
    simp [DistinctIds, rankedOptions, rankedOption]
  obtain ⟨hiff, hexact, hperm⟩ := rankOptions_followsPolicy _ hids
  have hwhole : ∀ o ∈ eligibleOptions rankedOptions, ∀ c ∈ numericComparators,
      (valueOf c o).den = 1 ∧ |(valueOf c o).num| < 10 ^ 25 := by
    decide +kernel
  refine ⟨hiff.mpr (hexact fun o ho c hc => ?_), hperm _ (List.reverse_perm _)⟩
  exact ordinaryAmount_of_whole (hwhole o ho c hc).1 (hwhole o ho c hc).2

/-- Two options within 500 units of each other, of so many units that the sum
`best + 500` has 29 digits. -/
def hugeOptions : List ResponseOption :=
  [rankedOption "RL-OPTION-A" (10 ^ 28 + 1), rankedOption "RL-OPTION-B" (10 ^ 28 + 501)]

/-- The second one is eliminated although it is within the threshold. -/
theorem hugeOptions_not_followed :
    DistinctIds hugeOptions ∧
      (rankOptions hugeOptions).map (fun r => r.stages.map RankingStage.retainedOptionIds) =
        .ok [["RL-OPTION-A"]] ∧
      ¬ ∃ result, rankOptions hugeOptions = .ok result ∧ FollowsPolicy hugeOptions result := by
  have hstages : (rankOptions hugeOptions).map
      (fun r => r.stages.map RankingStage.retainedOptionIds) = .ok [["RL-OPTION-A"]] := by
    decide +kernel
  refine ⟨by simp [DistinctIds, hugeOptions, rankedOption], hstages, ?_⟩
  rintro ⟨result, hrank, hfollows⟩
  obtain ⟨-, later, hlater, -⟩ := hfollows.stages (by decide +kernel)
  rw [hrank] at hstages
  have hretained : result.stages.map RankingStage.retainedOptionIds = [["RL-OPTION-A"]] :=
    Except.ok.inj hstages
  rw [hlater, List.map_cons] at hretained
  have hkept : (policyKeep ⟨"uncovered_part_demand", 500, true⟩ (eligibleOptions hugeOptions)).map
      ResponseOption.optionId = ["RL-OPTION-A"] := (List.cons.inj hretained).1
  exact absurd hkept (by decide +kernel)

end SupplyResponse
