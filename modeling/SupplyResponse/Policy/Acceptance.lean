/-
Accepted evidence.

* `IsOpen` — a conflict that matters and that no resolution names;
* `resultsOf` — the results of the items, where the conflicted ids are given;
* `ConflictAccepted`, `ResolutionAccepted` — what a conflict and a resolution
  have to be like;
* `validateRequiredEvidence_spec` — an accepted bundle, and what its validation
  says: both passes are `resultsOf`, the second one with the open conflicts;
* `itemResult_authoritative` — when an item is authoritative.
-/
import SupplyResponse.Policy.Evidence

namespace SupplyResponse

/-! ### Loops and dictionaries -/

theorem forM_eq_ok {α ε : Type} {f : α → Except ε Unit} {l : List α} {u : Unit} :
    l.forM f = .ok u ↔ ∀ a ∈ l, f a = .ok () := by
  induction l with
  | nil => exact ⟨fun _ a ha => (nomatch ha), fun _ => rfl⟩
  | cons a l ih =>
    show (f a >>= fun _ => l.forM f) = .ok u ↔ _
    rw [bind_eq_ok, List.forall_mem_cons]
    constructor
    · rintro ⟨⟨⟩, ha, hl⟩
      exact ⟨ha, ih.mp hl⟩
    · rintro ⟨ha, hl⟩
      exact ⟨(), ha, ih.mpr hl⟩

/-- Where every value that comes back is given by `g`, so are all of them. -/
theorem mapM_eq_map {α β ε : Type} {f : α → Except ε β} {g : α → β} {l : List α} {l' : List β}
    (hf : ∀ a b, f a = .ok b → b = g a) (h : l.mapM f = .ok l') : l' = l.map g := by
  have hall := mapM_eq_ok h
  clear h
  induction hall with
  | nil => rfl
  | cons hb _ ih => rw [List.map_cons, hf _ _ hb, ih]

/-- Every entry has a value that comes back. -/
theorem exists_ok_of_mapM {α β ε : Type} {f : α → Except ε β} {l : List α} {l' : List β}
    (h : l.mapM f = .ok l') {a : α} (ha : a ∈ l) : ∃ b, f a = .ok b := by
  have hall := mapM_eq_ok h
  clear h
  induction hall with
  | nil => cases ha
  | cons hb _ ih =>
    rcases List.mem_cons.mp ha with rfl | ha
    · exact ⟨_, hb⟩
    · exact ih ha

/-- Where the keys differ, a search by key finds the entry, from either end. -/
theorem find?_reverse_key {α : Type} {key : α → String} {l : List α} (hkeys : (l.map key).Nodup)
    {k : String} {a : α} :
    (l.reverse.find? fun x => key x = k) = some a ↔ a ∈ l ∧ key a = k := by
  constructor
  · intro h
    have hkey := List.find?_some h
    rw [decide_eq_true_eq] at hkey
    exact ⟨List.mem_reverse.mp (List.mem_of_find?_eq_some h), hkey⟩
  · rintro ⟨ha, hkey⟩
    cases hfind : l.reverse.find? fun x => key x = k with
    | none =>
      exact absurd (decide_eq_true hkey)
        (List.find?_eq_none.mp hfind a (List.mem_reverse.mpr ha))
    | some b =>
      have hb := List.mem_reverse.mp (List.mem_of_find?_eq_some hfind)
      have hkey' := List.find?_some hfind
      rw [decide_eq_true_eq] at hkey'
      rw [List.inj_on_of_nodup_map hkeys hb ha (hkey'.trans hkey.symm)]

theorem requirePolicy_eq_ok {c : Prop} [Decidable c] {message : String} {u : Unit} :
    requirePolicy c message = .ok u ↔ c := by
  unfold requirePolicy
  split
  · simp [*]
  · simp [*]

/-! ### Actors -/

/-- Only the scopes matter, not how they are listed. -/
theorem actorIsAuthorized_congr {scopes scopes' : List AuthorityScope} {actor : ActorProvenance}
    (h : ∀ scope, scope ∈ scopes ↔ scope ∈ scopes') :
    ActorIsAuthorized scopes actor ↔ ActorIsAuthorized scopes' actor := by
  have hnil : scopes = [] ↔ scopes' = [] := by
    simp only [List.eq_nil_iff_forall_not_mem, h]
  unfold ActorIsAuthorized
  simp only [ne_eq, hnil, h]

/-! ### The results of the items -/

section

variable (unicode : Text.Unicode) (isIpv6 : String → Bool) (context : ValidationContext)

/-- The citation of the item can be followed; asked where it matters. -/
def cites (item : EvidenceItem) : Bool :=
  (citedItem unicode isIpv6 context item).toOption.getD false

/-- The results of the items. -/
def resultsOf (conflictedIds : List String) (items : List EvidenceItem) :
    List EvidenceItemValidation :=
  items.map fun item =>
    itemResult context conflictedIds item (cites unicode isIpv6 context item)

end

section

variable {unicode : Text.Unicode} {isIpv6 : String → Bool} {context : ValidationContext}
  {conflictedIds : List String} {items : List EvidenceItem}

theorem results_eq {results : List EvidenceItemValidation}
    (h : items.mapM (itemValidation unicode isIpv6 context conflictedIds) = .ok results) :
    results = resultsOf unicode isIpv6 context conflictedIds items := by
  refine mapM_eq_map (fun item result hresult => ?_) h
  obtain ⟨cited, hcited, hresult⟩ := bind_eq_ok.mp hresult
  rw [cites, hcited]
  exact (Except.ok.inj hresult).symm

theorem mem_resultsOf {result : EvidenceItemValidation} :
    result ∈ resultsOf unicode isIpv6 context conflictedIds items ↔
      ∃ item ∈ items,
        itemResult context conflictedIds item (cites unicode isIpv6 context item) = result := by
  rw [resultsOf, List.mem_map]

theorem validationFor_eq_some (hids : (items.map EvidenceItem.evidenceId).Nodup) {id : String}
    {result : EvidenceItemValidation} :
    validationFor (resultsOf unicode isIpv6 context conflictedIds items) id = some result ↔
      ∃ item ∈ items, item.evidenceId = id ∧
        itemResult context conflictedIds item (cites unicode isIpv6 context item) = result := by
  have hkeys : ((resultsOf unicode isIpv6 context conflictedIds items).map
      EvidenceItemValidation.evidenceId).Nodup := by
    have heq : (resultsOf unicode isIpv6 context conflictedIds items).map
        EvidenceItemValidation.evidenceId = items.map EvidenceItem.evidenceId := by
      rw [resultsOf, List.map_map]
      rfl
    rw [heq]
    exact hids
  rw [validationFor, find?_reverse_key hkeys, mem_resultsOf]
  constructor
  · rintro ⟨⟨item, hitem, rfl⟩, hid⟩
    exact ⟨item, hitem, hid, rfl⟩
  · rintro ⟨item, hitem, hid, rfl⟩
    exact ⟨⟨item, hitem, rfl⟩, hid⟩

theorem validationFor_eq_none {id : String} :
    validationFor (resultsOf unicode isIpv6 context conflictedIds items) id = none ↔
      ∀ item ∈ items, item.evidenceId ≠ id := by
  simp only [validationFor, List.find?_eq_none, List.mem_reverse, mem_resultsOf, decide_eq_true_eq]
  constructor
  · exact fun h item hitem => h _ ⟨item, hitem, rfl⟩
  · rintro h result ⟨item, hitem, rfl⟩
    exact h item hitem

/-! ### Conflicts and resolutions -/

/-- The conflict matters, and no resolution names it. -/
def EvidenceConflict.IsOpen (resolutions : List ConflictResolution) (conflict : EvidenceConflict) :
    Prop :=
  conflict.feasibilityRelevant = true ∧
    ∀ resolution ∈ resolutions, resolution.conflictId ≠ conflict.conflictId

instance (resolutions : List ConflictResolution) :
    DecidablePred (EvidenceConflict.IsOpen resolutions) :=
  fun _ => inferInstanceAs (Decidable (_ ∧ _))

/-- Every item of the conflict is there and speaks for all its scopes. -/
structure ConflictAccepted (runtimeMode : RuntimeMode) (items : List EvidenceItem)
    (conflict : EvidenceConflict) : Prop where
  evidenceIds : conflict.evidenceIds ≠ []
  authorityScope : conflict.authorityScope ≠ []
  validated : ∀ id ∈ conflict.evidenceIds, ∃ item ∈ items, item.evidenceId = id ∧
    ∀ scope ∈ conflict.authorityScope, scope ∈ validatedScope item runtimeMode

/-- The resolution is of a conflict, by one of its items and an actor for all its
scopes. -/
structure ResolutionAccepted (conflicts : List EvidenceConflict) (resolution : ConflictResolution) :
    Prop where
  conflict : ∃ conflict ∈ conflicts, conflict.conflictId = resolution.conflictId ∧
    resolution.governingEvidenceId ∈ conflict.evidenceIds ∧
    ActorIsAuthorized conflict.authorityScope resolution.actor

/-- What `validated_conflict_scopes` says of the conflict. -/
def scopeEntry (conflict : EvidenceConflict) : String × List AuthorityScope :=
  (conflict.conflictId, sortedSet AuthorityScope.value conflict.authorityScope)

theorem validatedConflictScope_eq_ok (hids : (items.map EvidenceItem.evidenceId).Nodup)
    {conflict : EvidenceConflict} {scope : List AuthorityScope} :
    validatedConflictScope (resultsOf unicode isIpv6 context conflictedIds items) conflict =
        .ok scope ↔
      ConflictAccepted context.runtimeMode items conflict ∧
        scope = sortedSet AuthorityScope.value conflict.authorityScope := by
  have haccepted : ¬ ConflictMismatch (resultsOf unicode isIpv6 context conflictedIds items)
      conflict ↔ ConflictAccepted context.runtimeMode items conflict := by
    unfold ConflictMismatch
    push Not
    constructor
    · rintro ⟨hne, hscope, hall⟩
      refine ⟨hne, hscope, fun id hid => ?_⟩
      obtain ⟨hsome, hvalidated⟩ := hall id hid
      obtain ⟨result, hresult⟩ := Option.ne_none_iff_exists'.mp hsome
      obtain ⟨item, hitem, hitemId, rfl⟩ := (validationFor_eq_some hids).mp hresult
      exact ⟨item, hitem, hitemId, hvalidated _ hresult⟩
    · rintro ⟨hne, hscope, hall⟩
      refine ⟨hne, hscope, fun id hid => ?_⟩
      obtain ⟨item, hitem, hitemId, hvalidated⟩ := hall id hid
      have hresult : validationFor (resultsOf unicode isIpv6 context conflictedIds items) id =
          some (itemResult context conflictedIds item (cites unicode isIpv6 context item)) :=
        (validationFor_eq_some hids).mpr ⟨item, hitem, hitemId, rfl⟩
      refine ⟨by simp [hresult], fun result hmem => ?_⟩
      rw [Option.mem_def, hresult] at hmem
      rw [← Option.some.inj hmem]
      exact hvalidated
  unfold validatedConflictScope
  split
  · next h => simp [← haccepted, h]
  · next h => simp [← haccepted, h, eq_comm]

theorem scopeOfConflict_map {conflicts : List EvidenceConflict}
    (hids : (conflicts.map EvidenceConflict.conflictId).Nodup) {conflict : EvidenceConflict}
    (h : conflict ∈ conflicts) :
    scopeOfConflict (conflicts.map scopeEntry) conflict.conflictId =
      sortedSet AuthorityScope.value conflict.authorityScope := by
  have hkeys : ((conflicts.map scopeEntry).map Prod.fst).Nodup := by
    rw [List.map_map]
    exact hids
  have hfind : ((conflicts.map scopeEntry).reverse.find? fun entry =>
      entry.1 = conflict.conflictId) = some (scopeEntry conflict) :=
    (find?_reverse_key hkeys).mpr ⟨List.mem_map_of_mem h, rfl⟩
  rw [scopeOfConflict, hfind]
  rfl

theorem checkResolution_eq_ok {conflicts : List EvidenceConflict}
    (hids : (conflicts.map EvidenceConflict.conflictId).Nodup) {resolution : ConflictResolution} :
    checkResolution conflicts (conflicts.map scopeEntry) resolution = .ok () ↔
      ResolutionAccepted conflicts resolution := by
  have hauthorized : ∀ conflict ∈ conflicts,
      ActorIsAuthorized (scopeOfConflict (conflicts.map scopeEntry) conflict.conflictId)
        resolution.actor ↔ ActorIsAuthorized conflict.authorityScope resolution.actor := by
    intro conflict h
    rw [scopeOfConflict_map hids h]
    exact actorIsAuthorized_congr fun scope => mem_sortedSet
  unfold checkResolution
  cases hfind : conflicts.find? fun c => c.conflictId = resolution.conflictId with
  | none =>
    refine ⟨fun h => (nomatch h), fun ⟨c, hc, hid, _⟩ => ?_⟩
    exact absurd (decide_eq_true hid) (List.find?_eq_none.mp hfind c hc)
  | some c =>
    have hc := List.mem_of_find?_eq_some hfind
    have hid := List.find?_some hfind
    rw [decide_eq_true_eq] at hid
    simp only [hauthorized c hc, resolution.nonblank, not_true, if_false]
    constructor
    · intro h
      split at h
      · cases h
      · next hgoverning =>
        split at h
        · cases h
        · next hactor => exact ⟨c, hc, hid, not_not.mp hgoverning, not_not.mp hactor⟩
    · rintro ⟨c', hc', hid', hgoverning, hactor⟩
      obtain rfl := List.inj_on_of_nodup_map hids hc' hc (hid'.trans hid.symm)
      rw [if_neg (not_not.mpr hgoverning), if_neg (not_not.mpr hactor)]

/-- Where all resolutions are accepted, a conflict is resolved when one names it. -/
theorem unresolvedConflicts_eq {conflicts : List EvidenceConflict}
    {resolutions : List ConflictResolution}
    (hids : (conflicts.map EvidenceConflict.conflictId).Nodup)
    (haccepted : ∀ resolution ∈ resolutions, ResolutionAccepted conflicts resolution) :
    unresolvedConflicts conflicts resolutions (conflicts.map scopeEntry) =
      conflicts.filter fun conflict => conflict.IsOpen resolutions := by
  refine List.filter_congr fun conflict hconflict => ?_
  rw [decide_eq_decide, EvidenceConflict.IsOpen, scopeOfConflict_map hids hconflict]
  refine and_congr_right fun _ => ?_
  push Not
  refine forall₂_congr fun resolution hresolution => not_congr ?_
  refine ⟨fun h => h.1, fun hid => ?_⟩
  obtain ⟨c, hc, hid', hgoverning, hactor⟩ := haccepted resolution hresolution
  obtain rfl := List.inj_on_of_nodup_map hids hc hconflict (hid'.trans hid)
  exact ⟨hid, hgoverning, resolution.nonblank,
    (actorIsAuthorized_congr fun scope => mem_sortedSet).mpr hactor⟩

/-! ### Accepted bundles -/

/-- The ids of the items of open conflicts. -/
def openIds (conflicts : List EvidenceConflict) (resolutions : List ConflictResolution) :
    List String :=
  (conflicts.filter fun conflict => conflict.IsOpen resolutions).flatMap
    EvidenceConflict.evidenceIds

theorem mem_openIds {conflicts : List EvidenceConflict} {resolutions : List ConflictResolution}
    {id : String} :
    id ∈ openIds conflicts resolutions ↔
      ∃ conflict ∈ conflicts, conflict.IsOpen resolutions ∧ id ∈ conflict.evidenceIds := by
  simp only [openIds, List.mem_flatMap, List.mem_filter, decide_eq_true_eq, and_assoc]

/-- An accepted bundle and its validation. -/
structure EvidenceAccepted (unicode : Text.Unicode) (isIpv6 : String → Bool)
    (context : ValidationContext) (items : List EvidenceItem)
    (requiredScope : List AuthorityScope) (conflicts : List EvidenceConflict)
    (resolutions : List ConflictResolution) (validation : EvidenceValidation) : Prop where
  retrievedBefore : ∀ item ∈ items, ∀ retrieved ∈ item.retrievedAt,
    retrieved ≤ context.analysisRecordedAt
  conflictsAccepted : ∀ conflict ∈ conflicts, ConflictAccepted context.runtimeMode items conflict
  resolutionsAccepted : ∀ resolution ∈ resolutions, ResolutionAccepted conflicts resolution
  eq : validation = evidenceValidationOf
    (resultsOf unicode isIpv6 context (openIds conflicts resolutions) items) requiredScope
    (conflicts.filter fun conflict => conflict.IsOpen resolutions)

theorem mem_sortedEvidence {item : EvidenceItem} : item ∈ sortedEvidence items ↔ item ∈ items := by
  rw [sortedEvidence, List.mem_insertionSort]

theorem sortedEvidence_ids (hids : (items.map EvidenceItem.evidenceId).Nodup) :
    ((sortedEvidence items).map EvidenceItem.evidenceId).Nodup :=
  ((List.perm_insertionSort _ _).map _).nodup_iff.mpr hids

/-- What acceptance says, where items and conflicts have ids of their own. -/
theorem validateRequiredEvidence_spec {requiredScope : List AuthorityScope}
    {conflicts : List EvidenceConflict} {resolutions : List ConflictResolution}
    {validation : EvidenceValidation} (hids : (items.map EvidenceItem.evidenceId).Nodup)
    (hconflicts : (conflicts.map EvidenceConflict.conflictId).Nodup)
    (h : validateRequiredEvidence unicode isIpv6 context items requiredScope conflicts resolutions =
      .ok validation) :
    EvidenceAccepted unicode isIpv6 context (sortedEvidence items) requiredScope conflicts
      resolutions validation := by
  obtain ⟨_, -, h⟩ := bind_eq_ok.mp h
  obtain ⟨_, hretrieved, h⟩ := bind_eq_ok.mp h
  obtain ⟨base, hbase, h⟩ := bind_eq_ok.mp h
  obtain ⟨scopes, hscopes, h⟩ := bind_eq_ok.mp h
  obtain ⟨_, hresolutions, h⟩ := bind_eq_ok.mp h
  obtain ⟨results, hresults, h⟩ := bind_eq_ok.mp h
  have hsorted := sortedEvidence_ids hids
  obtain rfl := results_eq hbase
  obtain rfl := results_eq hresults
  have hentry : ∀ conflict entry,
      conflictScopeEntry (resultsOf unicode isIpv6 context [] (sortedEvidence items)) conflict =
        .ok entry →
      ConflictAccepted context.runtimeMode (sortedEvidence items) conflict ∧
        entry = scopeEntry conflict := by
    intro conflict entry hentry
    obtain ⟨scope, hscope, hentry⟩ := bind_eq_ok.mp hentry
    obtain ⟨haccepted, rfl⟩ := (validatedConflictScope_eq_ok hsorted).mp hscope
    exact ⟨haccepted, (Except.ok.inj hentry).symm⟩
  obtain rfl := mapM_eq_map (fun conflict entry hc => (hentry conflict entry hc).2) hscopes
  have haccepted : ∀ resolution ∈ resolutions, ResolutionAccepted conflicts resolution :=
    fun resolution hmem =>
      (checkResolution_eq_ok hconflicts).mp (forM_eq_ok.mp hresolutions resolution hmem)
  refine ⟨fun item hitem => ?_, fun conflict hconflict => ?_, haccepted, ?_⟩
  · exact requirePolicy_eq_ok.mp hretrieved item (mem_sortedEvidence.mp hitem)
  · obtain ⟨entry, hentry'⟩ := exists_ok_of_mapM hscopes hconflict
    exact (hentry conflict entry hentry').1
  · rw [← Except.ok.inj h, unresolvedConflicts_eq hconflicts haccepted]
    rfl

/-! ### Authoritative items -/

theorem codeIf_eq_nil {condition : Bool} {code : EvidenceBlockingCode} :
    codeIf condition code = [] ↔ condition = false := by
  cases condition <;> simp [codeIf]

/-- An item is authoritative when it is required, nothing is held against it and no
open conflict names it. -/
theorem itemResult_authoritative {item : EvidenceItem} {cited : Bool} :
    (itemResult context conflictedIds item cited).authoritative = true ↔
      item.isRequired = true ∧ itemCodes context item cited = [] ∧
        item.evidenceId ∉ conflictedIds ∧ item.uncertaintyState ≠ .conflicted := by
  have huncertain : uncertaintyOf item conflictedIds ≠ .conflicted ↔
      item.evidenceId ∉ conflictedIds ∧ item.uncertaintyState ≠ .conflicted := by
    unfold uncertaintyOf
    split <;> simp [*]
  simp only [itemResult, decide_eq_true_eq, huncertain]
  constructor
  · rintro ⟨hrequired, -, -, -, huncertain, hcodes⟩
    exact ⟨hrequired, hcodes, huncertain⟩
  · rintro ⟨hrequired, hcodes, huncertain⟩
    -- what freshness, validity and scope say follows, as each of them has a code
    have hcodes' := hcodes
    simp only [itemCodes, List.append_eq_nil_iff, codeIf_eq_nil, hrequired, Bool.true_and,
      Bool.not_eq_false', decide_eq_false_iff_not] at hcodes'
    obtain ⟨⟨⟨⟨⟨⟨⟨hscope, -⟩, -⟩, hordered⟩, hcurrent⟩, hwindow⟩, hearly⟩, hlate⟩ := hcodes'
    refine ⟨hrequired, hscope, ?_, ?_, huncertain, hcodes⟩
    · rw [freshness, if_pos ⟨hordered, hcurrent, hwindow⟩]
    · cases hvalid : businessValidity context item with
      | valid => rfl
      | notYetEffective => exact absurd hvalid hearly
      | expired => exact absurd hvalid hlate

end

end SupplyResponse
