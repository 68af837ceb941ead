/-
Stored records stay readable.

* `Keeps` — what every commit leaves in the database: the immutable rows, and
  the satisfactions and the planning event of every stored Decision;
* `stable_…` — the reads of immutable records, with all their checks, last;
* `Intact` — a stored Decision passes its integrity checks;
* `allIntact_of_run` — in a reachable database every stored Decision is intact.
-/
import SupplyResponse.Runs.Approvals
import SupplyResponse.Transact.Stability

namespace SupplyResponse

open Transact Transact.Prog
open Keyed (keys)

/-! ### What commits keep -/

/-- The planning event of a Decision is stored. -/
def hasEvent (s : Store) (decisionId : String) : Prop :=
  (s.outbox.get? (.outboxDecision decisionId)).isSome

/-- The immutable rows stay, and no satisfaction or event is added to a stored
Decision. -/
structure Keeps (s s' : Store) : Prop where
  grows : Grows s s'
  satisfactions : ∀ {d}, d ∈ s.decisions →
    boundSatisfactions s' d.decisionId = boundSatisfactions s d.decisionId
  events : ∀ {d}, d ∈ s.decisions → (hasEvent s' d.decisionId ↔ hasEvent s d.decisionId)

namespace Keeps

theorem refl (s : Store) : Keeps s s := ⟨.refl s, fun _ => rfl, fun _ => Iff.rfl⟩

theorem decision {s s' : Store} (h : Keeps s s') {d : Decision} (hd : d ∈ s.decisions) :
    d ∈ s'.decisions :=
  Table.mem_of_get? (h.grows.decisions (Table.get?_of_mem hd (List.mem_cons_self ..)))

theorem trans {a b c : Store} (h : Keeps a b) (h' : Keeps b c) : Keeps a c :=
  ⟨h.grows.trans h'.grows,
    fun hd => (h'.satisfactions (h.decision hd)).trans (h.satisfactions hd),
    fun hd => (h'.events (h.decision hd)).trans (h.events hd)⟩

end Keeps

namespace Writing

variable {kind : WriteKind} {v : Store} {l : List Key} {u : Store → Store}

theorem satisfactions_eq (h : Writing kind v l u) (hk : kind ≠ .newSatisfaction) (s : Store) :
    (u s).satisfactions = s.satisfactions := by
  cases h <;> first | rfl | exact absurd rfl hk

/-- Events are inserted by one kind of statement only. -/
theorem event_iff (h : Writing kind v l u) (hk : kind ≠ .newEvent) (s : Store)
    (decisionId : String) : hasEvent (u s) decisionId ↔ hasEvent s decisionId := by
  have modified : ∀ {eventId : String} {f : OutboxRow → OutboxRow}
      {hf : ∀ r, Key.outbox eventId ∈ keys r → keys (f r) = keys r},
      hasEvent (s.modifyOutbox eventId f hf) decisionId ↔ hasEvent s decisionId := by
    intro eventId f hf
    unfold hasEvent Store.modifyOutbox
    rw [Table.get?_modify, Option.isSome_map]
  cases h
  case newEvent => exact absurd rfl hk
  case claimEvent => exact modified
  case processEvent => exact modified
  case failEvent => exact modified
  all_goals exact Iff.rfl

theorem keeps (h : Writing kind v l u) (hsat : kind ≠ .newSatisfaction) (hevent : kind ≠ .newEvent)
    (s : Store) : Keeps s (u s) := by
  refine ⟨h.grows s, fun _ => ?_, fun _ => h.event_iff hevent s _⟩
  unfold boundSatisfactions
  rw [h.satisfactions_eq hsat]

end Writing

variable {env : Env} {s s' : Store}

/-- The statements outside of the rows of a Decision keep everything. -/
theorem keeps_of_kinds {t : Transaction} {u : Unit} (hsat : WriteKind.newSatisfaction ∉ t.kinds)
    (hevent : WriteKind.newEvent ∉ t.kinds) (hc : (t.program env).Commits s u s') : Keeps s s' :=
  relates_of_commits Keeps.refl Keeps.trans
    (fun hk hw => hw.keeps (fun he => hsat (he ▸ hk)) (fun he => hevent (he ▸ hk)) _) hc

/-- A free Decision has another id than every stored one. -/
theorem decisionId_ne {d decision : Decision} (hfree : s.decisions.Free decision)
    (hd : d ∈ s.decisions) : d.decisionId ≠ decision.decisionId := by
  intro hid
  have hnone := hfree (.decision decision.decisionId) (List.mem_cons_self ..)
  have hsome := Table.get?_of_mem hd (k := .decision d.decisionId) (List.mem_cons_self ..)
  rw [hid, hnone] at hsome
  cases hsome

/-- The rows of a new Decision do not touch those of the stored ones. -/
theorem Journals.others {decision : Decision} (h : Journals env s decision s') {id : String}
    (hid : id ≠ decision.decisionId) :
    boundSatisfactions s' id = boundSatisfactions s id ∧ (hasEvent s' id ↔ hasEvent s id) := by
  constructor
  · unfold boundSatisfactions
    rw [h.satisfactions, List.filter_append]
    have hnone : ((decision.approvalSatisfactions.map fun item =>
        (⟨decision.decisionId, item⟩ : SatisfactionRow)).filter
          fun row => row.decisionId = id) = [] := by
      rw [List.filter_eq_nil_iff]
      intro row hrow
      obtain ⟨item, -, rfl⟩ := List.mem_map.mp hrow
      simpa using hid.symm
    rw [hnone, List.append_nil]
  · obtain ⟨row, satisfactions, outbox, -, happroved, hrejected, rfl⟩ := h.stores.effect
    show (outbox.get? _).isSome ↔ (s.outbox.get? _).isSome
    rcases hk : decision.kind
    · obtain ⟨eventId, hfree, rfl⟩ := happroved hk
      rw [Table.get?_add hfree, if_neg]
      show Key.outboxDecision id ∉ [Key.outbox eventId, Key.outboxDecision decision.decisionId]
      simpa using hid
    · rw [hrejected hk]

theorem StoresDecision.grows {decision : Decision} (h : StoresDecision s decision s') :
    Grows s s' := by
  obtain ⟨row, satisfactions, outbox, -, -, -, rfl⟩ := h.effect
  exact ⟨id, id, id, id, id, Table.get?_add_of_some⟩

/-- The rows of a new Decision change nothing that is kept. -/
theorem Journals.keeps {decision : Decision} (h : Journals env s decision s') : Keeps s s' := by
  refine ⟨h.stores.grows, fun hd => ?_, fun hd => ?_⟩
  · exact (h.others (decisionId_ne h.stores.free hd)).1
  · exact (h.others (decisionId_ne h.stores.free hd)).2

theorem keeps_of_commits {t : Transaction} {u : Unit} (hc : (t.program env).Commits s u s') :
    Keeps s s' := by
  by_cases hk : WriteKind.newSatisfaction ∉ t.kinds ∧ WriteKind.newEvent ∉ t.kinds
  · exact keeps_of_kinds hk.1 hk.2 hc
  · have hgrows := grows_of_commits hc
    cases t
    case finalize command actor decisionUuid eventUuid clock =>
      obtain ⟨decision, hfinalize⟩ := commits_effect.mp hc
      have hf := returns_finalizeTransaction env hfinalize
      obtain ⟨s₁, hj, -, hsat, hout⟩ := hf.journals
      have hothers : ∀ {d}, d ∈ s.decisions → boundSatisfactions s' d.decisionId =
          boundSatisfactions s d.decisionId ∧ (hasEvent s' d.decisionId ↔
            hasEvent s d.decisionId) := by
        intro d hd
        obtain ⟨hb, he⟩ := hj.others (decisionId_ne (hf.free env) hd)
        unfold boundSatisfactions hasEvent at *
        rw [hsat] at hb
        rw [hout] at he
        exact ⟨hb, he⟩
      exact ⟨hgrows, fun hd => (hothers hd).1, fun hd => (hothers hd).2⟩
    case record command actor decisionUuid eventUuid decidedAt =>
      obtain ⟨decision, hrecord⟩ := commits_effect.mp hc
      exact (returns_recordTransaction env hrecord).journals.keeps
    all_goals exact absurd (by dsimp only [Transaction.kinds]; decide) hk

theorem keeps_of_run (h : Run (Transaction.program env) s s') : Keeps s s' :=
  h.relates Keeps.refl Keeps.trans fun ⟨_, _, hc⟩ => keeps_of_commits hc

/-! ### Lasting reads -/

/-- A read of immutable rows. -/
abbrev Lasting {α : Type} (p : Sql α) : Prop := Stable Grows p

theorem lasting_getRow {ρ : Type} [Keyed Key ρ] {table : Store → Table Key ρ} {k : Key}
    {missing : Raised}
    (h : ∀ {s s' r}, Grows s s' → (table s).get? k = some r → (table s').get? k = some r) :
    Lasting (getRow table k missing) :=
  ⟨readOnly_getRow _ _ _, fun hk hr =>
    returns_getRow.mpr ⟨h hk (returns_getRow.mp hr).1, rfl⟩⟩

theorem lasting_checkAll (checks : List (Bool × Raised)) : Lasting (checkAll checks) :=
  ⟨readOnly_checkAll _, fun _ h => returns_checkAll.mpr ⟨(returns_checkAll.mp h).1, rfl⟩⟩

theorem lasting_ofExcept {α : Type} (x : Except Raised α) : Lasting (ofExcept x) :=
  ⟨readOnly_ofExcept x, fun _ h => returns_ofExcept.mpr ⟨(returns_ofExcept.mp h).1, rfl⟩⟩

theorem lasting_mapError {α : Type} {p : Sql α} (hp : Lasting p) (caught : ExceptionClass → Bool)
    (replacement : Raised) : Lasting (mapError p caught replacement) :=
  ⟨readOnly_mapError hp.readOnly _ _, fun hk h =>
    returns_mapError.mpr (hp.lasts hk (returns_mapError.mp h))⟩

variable (env)

theorem lasting_storedCase (caseId : String) : Lasting (storedCase caseId) :=
  lasting_getRow fun h hr => h.cases hr

theorem lasting_requireAnalysisProvenance (analysis : AnalysisVersion) :
    Lasting (requireAnalysisProvenance env analysis) :=
  (stable_require _ _).bind fun _ =>
    ((stable_require _ _).bind fun _ => (lasting_storedCase _).bind fun _ =>
      (stable_require _ _).bind fun _ => stable_done _).bind fun _ =>
        (lasting_getRow fun h hr => h.snapshots hr).bind fun _ => lasting_checkAll _

theorem lasting_getAnalysis (analysisId : String) : Lasting (getAnalysis env analysisId) :=
  (lasting_getRow fun h hr => h.analyses hr).bind fun _ =>
    (lasting_mapError (lasting_requireAnalysisProvenance env _) _ _).bind fun _ => stable_done _

theorem lasting_reviewFromRow (row : FinanceReviewRow) : Lasting (reviewFromRow env row) :=
  ((lasting_mapError (lasting_getAnalysis env _) _ _).bind fun _ => (stable_require _ _).bind
    fun _ => stable_require _ _).bind fun _ => stable_done _

theorem lasting_getRevision (reviewId : String) (revision : Nat) :
    Lasting (getRevision env reviewId revision) :=
  (stable_require _ _).bind fun _ => (lasting_getRow fun h hr => h.reviews hr).bind fun _ =>
    (lasting_reviewFromRow env _).bind fun _ => stable_done _

theorem lasting_validateBinding (receipt : SelectionReceipt) :
    Lasting (validateBinding env receipt) := by
  refine (lasting_storedCase _).bind fun _ => (stable_require _ _).bind fun _ =>
    (lasting_mapError (lasting_ofExcept _) _ _).bind fun _ => (lasting_getAnalysis env _).bind
      fun _ => (stable_require _ _).bind fun _ => (stable_require _ _).bind fun _ => ?_
  cases receipt.selection.financeReviewId with
  | none => exact stable_done ()
  | some reviewId =>
    exact (lasting_getRevision env reviewId 1).bind fun _ => stable_require _ _

theorem lasting_decodeReceipt (receipt : SelectionReceipt) : Lasting (decodeReceipt env receipt) :=
  (stable_require _ _).bind fun _ => (lasting_validateBinding env receipt).bind fun _ =>
    stable_done _

theorem lasting_getSelection (selectionId : String) : Lasting (getSelection env selectionId) :=
  (lasting_getRow fun h hr => h.selections hr).bind fun _ =>
    (lasting_decodeReceipt env _).bind fun _ => stable_done _

theorem lasting_requireProposalLineage (decision : Decision) :
    Lasting (requireProposalLineage env decision) := by
  refine (stable_require _ _).ite ((stable_require _ _).bind fun _ => ?_)
  cases decision.proposalApproval with
  | none => exact stable_done ()
  | some evidence =>
    refine (lasting_mapError (lasting_getSelection env _) _ _).bind fun _ =>
      (stable_require _ _).bind fun _ => ?_
    unfold requireRevisionLineage
    split
    · exact stable_done ()
    · exact stable_raise _
    · exact stable_raise _
    · exact (lasting_mapError (lasting_getRevision env _ _) _ _).bind fun _ => stable_require _ _

theorem lasting_requireAnalysisLineage (decision : Decision) :
    Lasting (requireAnalysisLineage env decision) :=
  (lasting_getAnalysis env _).bind fun _ => (stable_require _ _).bind fun _ =>
    (stable_require _ _).bind fun _ => (lasting_requireProposalLineage env decision).bind
      fun _ => (stable_done _).ite ((stable_orRaise _ _).bind fun _ =>
        (stable_require _ _).bind fun _ => lasting_checkAll _)

/-! ### Intact Decisions -/

/-- The Decision passes its integrity checks. -/
structure Intact (s : Store) (d : Decision) : Prop where
  mode : d.runtimeMode = env.runtimeMode
  lineage : (requireAnalysisLineage env d).Returns s () s
  satisfactions :
    boundSatisfactions s d.decisionId = d.approvalSatisfactions.insertionSort satisfactionBefore
  event : hasEvent s d.decisionId ↔ d.kind = .approved

variable {env}

theorem Intact.keeps {d : Decision} (h : Intact env s d) (hd : d ∈ s.decisions)
    (hk : Keeps s s') : Intact env s' d :=
  ⟨h.mode, (lasting_requireAnalysisLineage env d).lasts hk.grows h.lineage,
    (hk.satisfactions hd).trans h.satisfactions, (hk.events hd).trans h.event⟩

/-- An intact Decision is read back. -/
theorem Intact.returns {d : Decision} (h : Intact env s d) :
    (requireDecisionIntegrity env true d).Returns s () s := by
  have hcardinality : (requireOutboxCardinality d).Returns s () s := by
    rw [requireOutboxCardinality, returns_select_bind, returns_require_bind, returns_require]
    refine ⟨fun ha => h.event.mpr ha, fun hr => ?_, rfl⟩
    by_contra hsome
    have happroved := h.event.mp (Option.isSome_iff_ne_none.mpr hsome)
    rw [hr] at happroved
    cases happroved
  refine returns_bind.mpr ⟨(), s, returns_require.mpr ⟨h.mode, rfl⟩, ?_⟩
  refine returns_bind.mpr ⟨(), s, h.lineage, ?_⟩
  refine returns_bind.mpr ⟨(), s, ?_, hcardinality⟩
  exact returns_select_bind.mpr (returns_require.mpr ⟨h.satisfactions, rfl⟩)

/-- Satisfactions and events belong to stored Decisions. -/
structure Owned (s : Store) : Prop where
  satisfactions : ∀ row ∈ s.satisfactions, ∃ d ∈ s.decisions, d.decisionId = row.decisionId
  events : ∀ row ∈ s.outbox, ∃ d ∈ s.decisions, d.decisionId = row.event.decisionId

/-- Outside of the rows of a Decision, no new owner is needed. -/
theorem Owned.of_kinds {t : Transaction} {u : Unit} (h : Owned s)
    (hsat : WriteKind.newSatisfaction ∉ t.kinds) (hevent : WriteKind.newEvent ∉ t.kinds)
    (hc : (t.program env).Commits s u s') : Owned s' := by
  have hgrows := grows_of_commits hc
  have owner : ∀ {id}, (∃ d ∈ s.decisions, d.decisionId = id) →
      ∃ d ∈ s'.decisions, d.decisionId = id := by
    rintro _ ⟨d, hd, rfl⟩
    have hget := hgrows.decisions (Table.get?_of_mem hd (List.mem_cons_self ..))
    exact ⟨d, Table.mem_of_get? hget, rfl⟩
  have hrows : s'.satisfactions = s.satisfactions :=
    relates_of_commits (R := fun s s' => s'.satisfactions = s.satisfactions) (fun _ => rfl)
      (fun h h' => h'.trans h)
      (fun hk hw => hw.satisfactions_eq (fun he => hsat (he ▸ hk)) _) hc
  constructor
  · intro row hrow
    exact owner (h.satisfactions row (hrows ▸ hrow))
  · intro row hrow
    have hnew : hasEvent s' row.event.decisionId := by
      unfold hasEvent
      rw [Table.get?_of_mem hrow (k := .outboxDecision row.event.decisionId) (by simp)]
      rfl
    have hold : hasEvent s row.event.decisionId :=
      (relates_of_commits (R := fun s s' => ∀ id, hasEvent s' id ↔ hasEvent s id)
        (fun _ _ => Iff.rfl) (fun h h' id => (h' id).trans (h id))
        (fun hk hw id => hw.event_iff (fun he => hevent (he ▸ hk)) _ id) hc _).mp hnew
    obtain ⟨row₀, hrow₀⟩ := Option.isSome_iff_exists.mp hold
    obtain ⟨hmem, hkey⟩ := Table.get?_eq_some_iff.mp hrow₀
    obtain ⟨d, hd, hid⟩ := h.events row₀ hmem
    have hsame : row.event.decisionId = row₀.event.decisionId := by simpa using hkey
    exact owner ⟨d, hd, hid.trans hsame.symm⟩

/-- The rows of a new Decision have an owner, and the Decision is intact. -/
theorem Journals.intact {d : Decision} (h : Owned s) (hj : Journals env s d s') :
    Owned s' ∧ Intact env s' d := by
  have hkeeps := hj.keeps
  have hmem : d ∈ s'.decisions := by
    obtain ⟨row, satisfactions, outbox, -, -, -, rfl⟩ := hj.stores.effect
    exact Table.mem_add_self hj.stores.free
  have owner : ∀ {id}, (∃ d ∈ s.decisions, d.decisionId = id) →
      ∃ d ∈ s'.decisions, d.decisionId = id := by
    rintro _ ⟨d, hd, rfl⟩
    exact ⟨d, hkeeps.decision hd, rfl⟩
  have hnone : s.satisfactions.rows.filter (fun row => row.decisionId = d.decisionId) = [] := by
    rw [List.filter_eq_nil_iff]
    intro row hrow hid
    obtain ⟨d', hd', hid'⟩ := h.satisfactions row hrow
    exact decisionId_ne hj.stores.free hd' (hid'.trans (of_decide_eq_true hid))
  have hevents : ∀ row ∈ s'.outbox, row ∈ s.outbox ∨
      d.kind = .approved ∧ row.event.decisionId = d.decisionId := by
    obtain ⟨row, satisfactions, outbox, -, happroved, hrejected, rfl⟩ := hj.stores.effect
    intro x hx
    rcases hk : d.kind
    · obtain ⟨eventId, hfree, rfl⟩ := happroved hk
      rcases (Table.mem_add hfree).mp hx with hx | rfl
      · exact .inl hx
      · exact .inr ⟨rfl, rfl⟩
    · exact .inl (hrejected hk ▸ hx)
  refine ⟨⟨fun row hrow => ?_, fun row hrow => ?_⟩, hj.mode,
    (lasting_requireAnalysisLineage env d).lasts hkeeps.grows hj.lineage, ?_, fun hs => ?_, fun hk => ?_⟩
  · rw [Table.mem_def, hj.satisfactions, List.mem_append] at hrow
    rcases hrow with hrow | hrow
    · exact owner (h.satisfactions row hrow)
    · obtain ⟨item, -, rfl⟩ := List.mem_map.mp hrow
      exact ⟨d, hmem, rfl⟩
  · rcases hevents row hrow with hrow | ⟨-, hid⟩
    · exact owner (h.events row hrow)
    · exact ⟨d, hmem, hid.symm⟩
  · unfold boundSatisfactions
    rw [hj.satisfactions, List.filter_append, hnone, List.nil_append, List.filter_map]
    have hall : d.approvalSatisfactions.filter ((fun row : SatisfactionRow =>
        decide (row.decisionId = d.decisionId)) ∘ fun item => ⟨d.decisionId, item⟩) =
          d.approvalSatisfactions := by
      rw [List.filter_eq_self]
      intro item _
      exact decide_eq_true rfl
    rw [hall, List.map_map]
    exact congrArg _ (List.map_id _)
  · obtain ⟨row, hrow⟩ := Option.isSome_iff_exists.mp hs
    obtain ⟨hmem, hkey⟩ := Table.get?_eq_some_iff.mp hrow
    have hid : d.decisionId = row.event.decisionId := by simpa using hkey
    rcases hevents row hmem with hold | ⟨hk, -⟩
    · obtain ⟨d', hd', hid'⟩ := h.events row hold
      exact absurd (hid'.trans hid.symm) (decisionId_ne hj.stores.free hd')
    · exact hk
  · obtain ⟨row, satisfactions, outbox, -, happroved, -, rfl⟩ := hj.stores.effect
    obtain ⟨eventId, hfree, rfl⟩ := happroved hk
    unfold hasEvent
    rw [Table.get?_add hfree, if_pos (by
      show Key.outboxDecision d.decisionId ∈ [Key.outbox eventId, Key.outboxDecision d.decisionId]
      simp)]
    rfl

/-- Every stored Decision is intact. -/
structure AllIntact (env : Env) (s : Store) : Prop where
  owned : Owned s
  intact : ∀ d ∈ s.decisions, Intact env s d

theorem AllIntact.empty : AllIntact env Store.empty :=
  ⟨⟨fun _ h => absurd h (Table.notMem_empty _), fun _ h => absurd h (Table.notMem_empty _)⟩,
    fun _ h => absurd h (Table.notMem_empty _)⟩

/-- A stored Decision was stored before, or is the one of the transaction. -/
theorem AllIntact.stored {d : Decision} (h : AllIntact env s) (hkeeps : Keeps s s')
    (hnew : ∀ x ∈ s'.decisions, x ∈ s.decisions ∨ x = d) (howned : Owned s')
    (hd : Intact env s' d) : AllIntact env s' := by
  refine ⟨howned, fun x hx => ?_⟩
  rcases hnew x hx with hx | rfl
  · exact (h.intact x hx).keeps hx hkeeps
  · exact hd

theorem allIntact_step {t : Transaction} {u : Unit} (h : AllIntact env s)
    (hc : (t.program env).Commits s u s') : AllIntact env s' := by
  have hkeeps := keeps_of_commits hc
  by_cases hk : WriteKind.newDecision ∉ t.kinds
  · have hkinds : WriteKind.newSatisfaction ∉ t.kinds ∧ WriteKind.newEvent ∉ t.kinds := by
      cases t <;> dsimp only [Transaction.kinds] at hk ⊢ <;> revert hk <;> decide
    refine ⟨h.owned.of_kinds hkinds.1 hkinds.2 hc, fun d hd => ?_⟩
    have hd₀ : d ∈ s.decisions := decisions_of_commits hk hc ▸ hd
    exact (h.intact d hd₀).keeps hd₀ hkeeps
  · cases t
    case finalize command actor decisionUuid eventUuid clock =>
      obtain ⟨decision, hfinalize⟩ := commits_effect.mp hc
      obtain ⟨s₁, hj, hdecisions, hsat, hout⟩ := (returns_finalizeTransaction env hfinalize).journals
      have howned : Owned s₁ := ⟨by rw [hsat, hdecisions]; exact h.owned.satisfactions,
        by rw [hout, hdecisions]; exact h.owned.events⟩
      obtain ⟨howned', hintact⟩ := hj.intact howned
      exact h.stored hkeeps (fun _ hx => hdecisions ▸ hj.stores.mem hx) howned' hintact
    case record command actor decisionUuid eventUuid decidedAt =>
      obtain ⟨decision, hrecord⟩ := commits_effect.mp hc
      have hj := (returns_recordTransaction env hrecord).journals
      obtain ⟨howned, hintact⟩ := hj.intact h.owned
      exact h.stored hkeeps (fun _ hx => hj.stores.mem hx) howned hintact
    all_goals exact absurd (by dsimp only [Transaction.kinds]; decide) hk

theorem allIntact_of_run (h : Run (Transaction.program env) Store.empty s) : AllIntact env s :=
  h.invariant (fun hs ⟨_, _, hc⟩ => allIntact_step hs hc) AllIntact.empty

end SupplyResponse
