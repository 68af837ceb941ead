/-
Trust in the evidence of a Work IQ agent.

* `TrustedUrl`, `FullyCited` — what a fact has to carry;
* `EvidenceSource`, `sources` — the text parts and facts of a payload in order;
* `Adds` — what a stretch of the loops adds, with `Gathered.Sound` for the ids;
* `normalizeA2aEvidence_trusts` — which items are authoritative, that their ids differ,
  and that a source has one URL;
* `evidence_bounded_iff` — when a payload has at most 128 items.
-/
import SupplyResponse.Integrations.Normalizer
import Mathlib.Data.List.DropRight
import Mathlib.Data.List.Forall2

namespace SupplyResponse

open Text (Json SplitUrl)

variable {services : NormalizerServices} {request : NormalizerRequest} {tenantHost : String}

/-! ### Texts -/

theorem mem_dropWhile {α : Type} {p : α → Bool} {l : List α} {a : α} (h : a ∈ l)
    (ha : p a = false) : a ∈ l.dropWhile p := by
  rw [← @List.takeWhile_append_dropWhile _ p l, List.mem_append] at h
  rcases h with h | h
  · rw [List.mem_takeWhile_imp h] at ha
    cases ha
  · exact h

theorem strip_ne_empty {s : String} (h : Nonblank s) : strip s ≠ "" := by
  obtain ⟨c, hc, hspace⟩ := List.any_eq_true.mp h
  rw [Bool.not_eq_true'] at hspace
  have hmem : c ∈ (strip s).toList := by
    unfold strip
    rw [String.toList_ofList, List.mem_reverse]
    exact mem_dropWhile (List.mem_reverse.mpr (mem_dropWhile hc hspace)) hspace
  intro hempty
  rw [hempty] at hmem
  cases hmem

theorem boundedString_eq_ok {value : Json} {label s : String} :
    boundedString value label = .ok s ↔ ∃ text, value = .text text ∧
      text.length ≤ maxTextChars ∧ Nonblank text ∧ strip text = s := by
  unfold boundedString
  constructor
  · intro h
    split at h
    · rename_i text htext
      split at h
      · cases h
      · split at h
        · rename_i hlen hblank
          exact ⟨text, Json.text?_eq_some.mp htext, by omega, hblank, Except.ok.inj h⟩
        · cases h
    · cases h
  · rintro ⟨text, rfl, hlen, hblank, rfl⟩
    simp only [Json.text?]
    rw [if_neg (by omega), if_pos hblank]

theorem boundedOptional_eq_ok {value : Json} {label : String} {o : Option String} :
    boundedOptional value label = .ok o ↔ value = .null ∧ o = none ∨
      ∃ text, value = .text text ∧ text.length ≤ maxTextChars ∧ Nonblank text ∧
        o = some (strip text) := by
  unfold boundedOptional
  constructor
  · intro h
    split at h
    · rename_i hnull
      refine .inl ⟨?_, (Except.ok.inj h).symm⟩
      cases value <;> simp_all [Json.isNull]
    · cases hs : boundedString value label with
      | error e =>
        rw [hs] at h
        cases h
      | ok s =>
        rw [hs] at h
        obtain ⟨text, hvalue, hlen, hblank, rfl⟩ := boundedString_eq_ok.mp hs
        exact .inr ⟨text, hvalue, hlen, hblank, (Except.ok.inj h).symm⟩
  · rintro (⟨rfl, rfl⟩ | ⟨text, rfl, hlen, hblank, rfl⟩)
    · rfl
    · rw [if_neg (by simp [Json.isNull]),
        boundedString_eq_ok.mpr ⟨text, rfl, hlen, hblank, rfl⟩]
      rfl

/-- An optional text is present iff the value holds one. -/
theorem boundedOptional_eq_some {value : Json} {label : String} {o : Option String}
    (h : boundedOptional value label = .ok o) {s : String} :
    o = some s ↔ ∃ text, value = .text text ∧ Nonblank text ∧ strip text = s := by
  rcases boundedOptional_eq_ok.mp h with ⟨rfl, rfl⟩ | ⟨text, rfl, -, hblank, rfl⟩
  · simp
  · constructor
    · intro hs
      exact ⟨text, rfl, hblank, Option.some.inj hs⟩
    · rintro ⟨text', htext, -, rfl⟩
      rw [Json.text.inj htext]

theorem boundedOptional_ne_empty {value : Json} {label : String} {o : Option String}
    (h : boundedOptional value label = .ok o) : o.any (· ≠ "") = o.isSome := by
  rcases boundedOptional_eq_ok.mp h with ⟨-, rfl⟩ | ⟨text, -, -, hblank, rfl⟩
  · rfl
  · simp [strip_ne_empty hblank]

theorem rstripDots_rstripDots (s : String) : rstripDots (rstripDots s) = rstripDots s := by
  unfold rstripDots
  rw [String.toList_ofList, List.reverse_reverse, List.dropWhile_idempotent]

theorem rstripDots_normalizedHost (host : String) :
    rstripDots (normalizedHost services host) = normalizedHost services host :=
  rstripDots_rstripDots _

/-! ### URLs -/

/-- An `https` URL on an allowed host, of at most 4096 characters. -/
structure TrustedUrl (services : NormalizerServices) (tenantHost text : String) : Prop where
  length : text.length ≤ 4096
  parsed : ∃ url, Text.urlsplitText services.unicode services.isIpv6 text.toList = some url ∧
    url.scheme = "https".toList ∧
    services.unicode.lower (url.hostText services.unicode) ∈ tenantHost :: allowedExactHosts ∧
    url.path ≠ [] ∧ url.hasUserinfo = false ∧
    (url.portOf = some none ∨ url.portOf = some (some 443))

theorem allowedHost_iff {host hostname : String} (htenant : rstripDots host = host) :
    (hostname = rstripDots hostname ∧
      (rstripDots hostname ∈ allowedExactHosts ∨ rstripDots hostname = host)) ↔
      hostname ∈ host :: allowedExactHosts := by
  have hexact : ∀ name ∈ allowedExactHosts, rstripDots name = name := by decide
  constructor
  · rintro ⟨hdots, hallowed⟩
    rw [← hdots] at hallowed
    rcases hallowed with hallowed | rfl
    · exact List.mem_cons_of_mem _ hallowed
    · exact List.mem_cons_self ..
  · intro h
    rcases List.mem_cons.mp h with rfl | h
    · exact ⟨htenant.symm, .inr htenant⟩
    · rw [hexact hostname h]
      exact ⟨rfl, .inl h⟩

theorem trustedUrl_eq_some (htenant : rstripDots tenantHost = tenantHost) {value : Json}
    {text : String} : trustedUrl services tenantHost value = some text ↔
      value = .text text ∧ TrustedUrl services tenantHost text := by
  unfold trustedUrl
  simp only [Option.bind_eq_bind, Option.bind_eq_some_iff, Option.guard_eq_some', Json.text?_eq_some,
    Option.pure_def, Option.some.injEq]
  constructor
  · rintro ⟨text, rfl, -, hlen, url, hurl, port, hport, -, ⟨hscheme, hdots, hhost, hpath, huser,
      hports⟩, rfl⟩
    refine ⟨rfl, hlen, url, hurl, hscheme, (allowedHost_iff htenant).mp ⟨hdots, hhost⟩, hpath,
      huser, ?_⟩
    rcases hports with rfl | rfl
    · exact .inl hport
    · exact .inr hport
  · rintro ⟨rfl, hlen, url, hurl, hscheme, hhost, hpath, huser, hports⟩
    obtain ⟨hdots, hhost⟩ := (allowedHost_iff htenant).mpr hhost
    rcases hports with hport | hport
    · exact ⟨text, rfl, (), hlen, url, hurl, none, hport, (),
        ⟨hscheme, hdots, hhost, hpath, huser, .inl rfl⟩, rfl⟩
    · exact ⟨text, rfl, (), hlen, url, hurl, some 443, hport, (),
        ⟨hscheme, hdots, hhost, hpath, huser, .inr rfl⟩, rfl⟩

theorem TrustedUrl.ne_empty {text : String} (h : TrustedUrl services tenantHost text) :
    text ≠ "" := by
  rintro rfl
  obtain ⟨url, hurl, hscheme, -⟩ := h.parsed
  have hempty : Text.urlsplitText services.unicode services.isIpv6 "".toList =
      some ⟨[], [], [], [], []⟩ := rfl
  rw [hempty] at hurl
  rw [← Option.some.inj hurl] at hscheme
  cases hscheme

/-! ### Facts -/

/-- A fact with a citation of the expected source, a trusted URL, an excerpt, the
expected scope and a time. -/
structure FullyCited (services : NormalizerServices) (request : NormalizerRequest)
    (fact : Json) : Prop where
  citation : (citation? fact).isSome
  url : ∃ text, cited fact "url" = .text text ∧
    TrustedUrl services (normalizedHost services request.tenantSharepointHost) text
  source : ∃ text, cited fact "sourceId" = .text text ∧ Nonblank text ∧
    strip text = strip request.expectedSourceId
  excerpt : ∃ text, cited fact "excerpt" = .text text ∧ Nonblank text
  sourceType : cited fact "sourceType" = .text "microsoft365" ∨
    cited fact "sourceType" = .text "tenant"
  scope : fact.get "authorityScope" = .text request.expectedAuthorityScope.value
  sourceTime : ∃ text time, fact.get "sourceTimestamp" = .text text ∧
    services.fromisoformat text = some (some time)

/-- An item that nothing vouches for. -/
structure EvidenceItem.IsContextual (item : EvidenceItem) : Prop where
  requirement : item.requirement = .contextual
  kind : item.kind = .contextualEvidence
  scope : item.authorityScope = []
  excerpt : item.excerpt = none
  citation : item.citationUrl = none

theorem allowedScopes_lookup {name : String} {scope : AuthorityScope} :
    allowedScopes.lookup name = some scope ↔ name = scope.value ∧ scope ∈ statementScopes := by
  have hmem : ∀ scope, scope ∈ statementScopes → allowedScopes.lookup scope.value = some scope := by
    decide
  constructor
  · intro h
    obtain ⟨before, after, hlist, -⟩ := List.lookup_eq_some_iff.mp h
    have hpair : (name, scope) ∈ allowedScopes := by
      rw [hlist]
      exact List.mem_append_right _ (List.mem_cons_self ..)
    have hall : ∀ pair ∈ allowedScopes, pair.1 = pair.2.value ∧ pair.2 ∈ statementScopes := by
      decide
    exact hall _ hpair
  · rintro ⟨rfl, hscope⟩
    exact hmem scope hscope

theorem factScope_eq_some {fact : Json} {scope : AuthorityScope} :
    factScope fact = some scope ↔
      fact.get "authorityScope" = .text scope.value ∧ scope ∈ statementScopes := by
  unfold factScope
  rw [Option.bind_eq_some_iff]
  constructor
  · rintro ⟨name, hname, hlookup⟩
    obtain ⟨rfl, hscope⟩ := allowedScopes_lookup.mp hlookup
    exact ⟨Json.text?_eq_some.mp hname, hscope⟩
  · rintro ⟨hname, hscope⟩
    exact ⟨_, Json.text?_eq_some.mpr hname, allowedScopes_lookup.mpr ⟨rfl, hscope⟩⟩

theorem knownSourceType_eq_ok {value : Json} {b : Bool} (h : knownSourceType value = .ok b) :
    b = true ↔ value = .text "microsoft365" ∨ value = .text "tenant" := by
  unfold knownSourceType at h
  split at h
  · rw [← Except.ok.inj h]
    cases value <;> simp [Json.text?]
  · cases h

theorem timestamp_isSome {value : Json} : (timestamp services value).isSome ↔
    ∃ text time, value = .text text ∧ services.fromisoformat text = some (some time) := by
  unfold timestamp
  rw [Option.isSome_iff_exists]
  simp only [Option.bind_eq_some_iff, Json.text?_eq_some, Option.join_eq_some_iff]
  constructor
  · rintro ⟨time, text, rfl, htime⟩
    exact ⟨text, time, rfl, htime⟩
  · rintro ⟨text, time, rfl, htime⟩
    exact ⟨time, text, rfl, htime⟩

theorem citation?_isSome_of_cited {fact : Json} {key text : String}
    (h : cited fact key = .text text) : (citation? fact).isSome := by
  cases hc : citation? fact with
  | some citation => rfl
  | none =>
    unfold cited at h
    rw [hc] at h
    cases h

/-- What an item is made of. -/
inductive EvidenceSource
  | textPart
  | fact (fact : Json)

/-- What an item of a text part, and of a fact, says about its trust. -/
def Trusts (trusted : Json → Prop) : EvidenceSource → EvidenceItem → Prop
  | .textPart, item => item.IsContextual
  | .fact fact, item =>
    (item.requirement = .requiredAuthoritative ∧ item.authorityScope ≠ [] ↔ trusted fact) ∧
      (¬trusted fact → item.IsContextual)

/-- What the code trusts. -/
def Trusted (services : NormalizerServices) (request : NormalizerRequest) (fact : Json) : Prop :=
  FullyCited services request fact ∧ request.expectedAuthorityScope ∈ statementScopes

theorem factTrusted_iff {fact : Json} {sourceId excerpt : Option String} {trusted : Bool}
    (hsource : boundedOptional (cited fact "sourceId") "citation source ID" = .ok sourceId)
    (hexcerpt : boundedOptional (cited fact "excerpt") "citation excerpt" = .ok excerpt)
    (h : factTrusted services request fact
      (trustedUrl services (normalizedHost services request.tenantSharepointHost)
        (cited fact "url")) sourceId excerpt = .ok trusted) :
    trusted = true ↔ Trusted services request fact := by
  have hurl := @trustedUrl_eq_some services _ (@rstripDots_normalizedHost services
    request.tenantSharepointHost) (cited fact "url")
  unfold factTrusted at h
  split at h <;> rename_i hconditions <;>
    rw [boundedOptional_ne_empty hsource, boundedOptional_ne_empty hexcerpt, timestamp_isSome,
      factScope_eq_some, boundedOptional_eq_some hsource] at hconditions
  · obtain ⟨hany, -, hquoted, htime, hexpected, hscope, hstatement⟩ := hconditions
    rw [knownSourceType_eq_ok h]
    obtain ⟨text, htext, -⟩ := Option.any_eq_true _ _ |>.mp hany
    obtain ⟨quote, hquote⟩ := Option.isSome_iff_exists.mp hquoted
    obtain ⟨quoted, hvalue, hblank, -⟩ := (boundedOptional_eq_some hexcerpt).mp hquote
    constructor
    · intro htype
      exact ⟨⟨citation?_isSome_of_cited hvalue, ⟨text, hurl.mp htext⟩, hexpected,
        ⟨quoted, hvalue, hblank⟩, htype, hscope, htime⟩, hstatement⟩
    · intro htrusted
      exact htrusted.1.sourceType
  · obtain rfl := Except.ok.inj h
    constructor
    · intro hfalse
      cases hfalse
    · rintro ⟨hcited, hstatement⟩
      refine absurd ⟨?_, ?_, ?_, hcited.sourceTime, hcited.source, hcited.scope, hstatement⟩
        hconditions
      · obtain ⟨text, hvalue, htrusted⟩ := hcited.url
        rw [hurl.mpr ⟨hvalue, htrusted⟩]
        simp [htrusted.ne_empty]
      · obtain ⟨text, hvalue, hblank, -⟩ := hcited.source
        rw [(boundedOptional_eq_some hsource).mpr ⟨text, hvalue, hblank, rfl⟩]
        rfl
      · obtain ⟨text, hvalue, hblank⟩ := hcited.excerpt
        rw [(boundedOptional_eq_some hexcerpt).mpr ⟨text, hvalue, hblank, rfl⟩]
        rfl

theorem factItem_trusts {artifactId : String} {partIndex factIndex : ℕ} {fact : Json}
    {item : EvidenceItem} (h : factItem services request
      (normalizedHost services request.tenantSharepointHost) artifactId partIndex factIndex fact =
        .ok item) : Trusts (Trusted services request) (.fact fact) item := by
  unfold factItem at h
  obtain ⟨claim, -, h⟩ := bind_eq_ok.mp h
  obtain ⟨factId, -, h⟩ := bind_eq_ok.mp h
  obtain ⟨sourceId, hsource, h⟩ := bind_eq_ok.mp h
  obtain ⟨excerpt, hexcerpt, h⟩ := bind_eq_ok.mp h
  obtain ⟨trusted, htrusted, h⟩ := bind_eq_ok.mp h
  have hiff := factTrusted_iff hsource hexcerpt htrusted
  obtain rfl := Except.ok.inj h
  cases trusted with
  | true =>
    have hyes := hiff.mp rfl
    have hscope : factScope fact = some request.expectedAuthorityScope :=
      factScope_eq_some.mpr ⟨hyes.1.scope, hyes.2⟩
    refine ⟨?_, fun hno => absurd hyes hno⟩
    simp [hscope, hyes]
  | false =>
    have hno : ¬Trusted services request fact := fun hyes => nomatch hiff.mpr hyes
    refine ⟨?_, fun _ => ⟨rfl, rfl, rfl, rfl, rfl⟩⟩
    simp [hno]

/-! ### Sources -/

def textSources (text : Json) : List EvidenceSource := if text.isNull then [] else [.textPart]

def dataFacts (data : Json) : List Json := (data.get "facts").list?.getD []

/-- What the items of a part are made of, in order. -/
def partSources (part : Json) : List EvidenceSource :=
  textSources (part.get "text") ++ (dataFacts (part.get "data")).map .fact

def artifactParts (artifact : Json) : List Json := (artifact.get "parts").list?.getD []

/-- The parts of all artifacts, in order. -/
def payloadParts (payload : Json) : List Json :=
  ((((payload.get "result").get "task").get "artifacts").list?.getD []).flatMap artifactParts

def sources (payload : Json) : List EvidenceSource := (payloadParts payload).flatMap partSources

/-- A fact cites a source under a URL. -/
def Cites (fact : Json) (sourceId url : String) : Prop :=
  ∃ citation, citation? fact = some citation ∧
    (∃ text, citation.get "sourceId" = .text text ∧ strip text = sourceId) ∧
    citation.get "url" = .text url

/-! ### What the loops add -/

/-- The ids of the items are registered, and differ. -/
structure Gathered.Sound (gathered : Gathered) : Prop where
  ids : gathered.evidenceIds = gathered.items.map EvidenceItem.evidenceId
  nodup : gathered.evidenceIds.Nodup

/-- Items for a list of sources, in order, and the sources of their citations. -/
structure Adds (trusted : Json → Prop) (sources : List EvidenceSource) (g g' : Gathered) :
    Prop where
  items : ∃ new, g'.items = g.items ++ new ∧ List.Forall₂ (Trusts trusted) sources new
  sound : g.Sound → g'.Sound
  grows : ∀ sourceId url, g.citationSources.lookup sourceId = some url →
    g'.citationSources.lookup sourceId = some url
  cites : ∀ fact, .fact fact ∈ sources → ∀ sourceId url, Cites fact sourceId url →
    g'.citationSources.lookup sourceId = some url

variable {trusted : Json → Prop} {g g' : Gathered}

theorem Adds.refl (g : Gathered) : Adds trusted [] g g where
  items := ⟨[], (List.append_nil _).symm, .nil⟩
  sound h := h
  grows _ _ h := h
  cites _ h := nomatch h

theorem Adds.trans {sources sources' : List EvidenceSource} {g'' : Gathered}
    (h : Adds trusted sources g g') (h' : Adds trusted sources' g' g'') :
    Adds trusted (sources ++ sources') g g'' where
  items := by
    obtain ⟨new, hitems, htrusts⟩ := h.items
    obtain ⟨new', hitems', htrusts'⟩ := h'.items
    refine ⟨new ++ new', ?_, List.rel_append htrusts htrusts'⟩
    rw [hitems', hitems, List.append_assoc]
  sound hg := h'.sound (h.sound hg)
  grows sourceId url hlookup := h'.grows _ _ (h.grows _ _ hlookup)
  cites fact hfact sourceId url hcites := by
    rcases List.mem_append.mp hfact with hfact | hfact
    · exact h'.grows _ _ (h.cites fact hfact sourceId url hcites)
    · exact h'.cites fact hfact sourceId url hcites

/-- A loop relates its states by what its steps add up to. -/
theorem foldlM_relates {ι α : Type} {R : List ι → Gathered → Gathered → Prop}
    (hnil : ∀ g, R [] g g)
    (happend : ∀ {is js g g' g''}, R is g g' → R js g' g'' → R (is ++ js) g g'')
    {step : Gathered → α → Except WorkIqFailure Gathered} {added : α → List ι}
    (hstep : ∀ {g a g'}, step g a = .ok g' → R (added a) g g') {xs : List α}
    (h : xs.foldlM step g = .ok g') : R (xs.flatMap added) g g' := by
  induction xs generalizing g with
  | nil =>
    rw [List.foldlM_nil] at h
    rw [← Except.ok.inj h]
    exact hnil g
  | cons x xs ih =>
    rw [List.foldlM_cons] at h
    obtain ⟨g₁, hx, h⟩ := bind_eq_ok.mp h
    rw [List.flatMap_cons]
    exact happend (hstep hx) (ih h)

theorem flatMap_zipIdx {α β : Type} (f : α → List β) (xs : List α) :
    (xs.zipIdx.flatMap fun x => f x.1) = xs.flatMap f := by
  rw [← @List.flatMap_map _ _ _ Prod.fst f, List.zipIdx_map_fst]

/-- A new item under a free id. -/
theorem Gathered.add_adds {item : EvidenceItem} {source : EvidenceSource}
    (htrusts : Trusts trusted source item)
    (hcites : ∀ fact, source = .fact fact → ∀ sourceId url, Cites fact sourceId url →
      g.citationSources.lookup sourceId = some url)
    (h : g.add item = .ok g') : Adds trusted [source] g g' := by
  obtain ⟨_, hfree, h⟩ := bind_eq_ok.mp h
  have hfree := expect_eq_ok.mp hfree
  obtain rfl := Except.ok.inj h
  refine ⟨⟨[item], rfl, .cons htrusts .nil⟩, ?_, fun _ _ hlookup => hlookup, ?_⟩
  · rintro ⟨hids, hnodup⟩
    refine ⟨?_, ?_⟩
    · rw [List.map_append, ← hids]
      rfl
    · exact List.nodup_append'.mpr ⟨hnodup, List.nodup_singleton _,
        List.disjoint_singleton.mpr hfree⟩
  · intro fact hfact sourceId url hc
    exact hcites fact (List.mem_singleton.mp hfact).symm sourceId url hc

theorem Gathered.addFactId_adds {fact : Json} (h : g.addFactId fact = .ok g') :
    Adds trusted [] g g' := by
  unfold addFactId at h
  obtain ⟨factId, -, h⟩ := bind_eq_ok.mp h
  cases factId with
  | none =>
    obtain rfl := Except.ok.inj h
    exact .refl g
  | some factId =>
    obtain ⟨_, -, h⟩ := bind_eq_ok.mp h
    obtain rfl := Except.ok.inj h
    have hrefl := @Adds.refl trusted g
    exact ⟨hrefl.items, fun hg => ⟨hg.ids, hg.nodup⟩, hrefl.grows, hrefl.cites⟩

theorem Gathered.addSource_adds {sourceId url : String} (h : g.addSource sourceId url = .ok g') :
    Adds trusted [] g g' ∧ g'.citationSources.lookup sourceId = some url := by
  unfold addSource at h
  split at h
  · rename_i prior hprior
    split at h
    · rename_i heq
      subst heq
      obtain rfl := Except.ok.inj h
      exact ⟨.refl g, hprior⟩
    · cases h
  · rename_i hfree
    obtain rfl := Except.ok.inj h
    refine ⟨⟨⟨[], (List.append_nil _).symm, .nil⟩, fun hg => ⟨hg.ids, hg.nodup⟩, ?_, nofun⟩, ?_⟩
    · intro sourceId' url' hlookup
      -- the new source was not registered
      have hne : sourceId' ≠ sourceId := by
        rintro rfl
        rw [hfree] at hlookup
        cases hlookup
      show List.lookup sourceId' ((sourceId, url) :: g.citationSources) = some url'
      rw [List.lookup_cons, beq_false_of_ne hne]
      exact hlookup
    · simp

theorem Gathered.addCitation_adds {fact : Json} (h : g.addCitation fact = .ok g') :
    Adds trusted [] g g' ∧ ∀ sourceId url, Cites fact sourceId url →
      g'.citationSources.lookup sourceId = some url := by
  unfold addCitation at h
  split at h
  · rename_i hnone
    obtain rfl := Except.ok.inj h
    refine ⟨.refl g, ?_⟩
    rintro sourceId url ⟨citation, hcitation, -⟩
    rw [hnone] at hcitation
    cases hcitation
  · rename_i citation hcitation
    obtain ⟨sourceId, hsource, h⟩ := bind_eq_ok.mp h
    have hcites : ∀ id url, Cites fact id url →
        sourceId = some id ∧ (citation.get "url").text? = some url := by
      rintro id url ⟨citation', hcitation', ⟨text, htext, rfl⟩, hurl⟩
      obtain rfl : citation = citation' := Option.some.inj (hcitation.symm.trans hcitation')
      refine ⟨?_, Json.text?_eq_some.mpr hurl⟩
      rcases boundedOptional_eq_ok.mp hsource with ⟨hnull, -⟩ | ⟨text', htext', -, -, rfl⟩
      · rw [htext] at hnull
        cases hnull
      · rw [htext] at htext'
        rw [Json.text.inj htext']
    split at h
    · rename_i sourceId url hurl
      obtain ⟨hadds, hlookup⟩ := addSource_adds h
      refine ⟨hadds, fun id url' hc => ?_⟩
      obtain ⟨hid, hurl'⟩ := hcites id url' hc
      rw [← Option.some.inj hid, ← Option.some.inj (hurl.symm.trans hurl')]
      exact hlookup
    · rename_i hnone
      obtain rfl := Except.ok.inj h
      refine ⟨.refl g, fun id url hc => ?_⟩
      obtain ⟨hid, hurl⟩ := hcites id url hc
      exact (hnone id url hid hurl).elim

/-- One fact adds its item, with its citation registered. -/
theorem addFact_adds {artifactId : String} {partIndex : ℕ} {fact : Json × ℕ}
    (h : addFact services request (normalizedHost services request.tenantSharepointHost)
      artifactId partIndex g fact = .ok g') :
    Adds (Trusted services request) [.fact fact.1] g g' := by
  unfold addFact at h
  obtain ⟨_, -, h⟩ := bind_eq_ok.mp h
  obtain ⟨g₁, hid, h⟩ := bind_eq_ok.mp h
  obtain ⟨g₂, hcitation, h⟩ := bind_eq_ok.mp h
  obtain ⟨item, hitem, h⟩ := bind_eq_ok.mp h
  obtain ⟨hcitation, hcites⟩ := @Gathered.addCitation_adds (Trusted services request) _ _ _ hcitation
  have hitem : Adds (Trusted services request) [.fact fact.1] g₂ g' := by
    refine Gathered.add_adds (factItem_trusts hitem) ?_ h
    intro fact' hfact sourceId url hc
    rw [← EvidenceSource.fact.inj hfact] at hc
    exact hcites sourceId url hc
  exact (Gathered.addFactId_adds hid).trans (hcitation.trans hitem)

theorem addText_adds {artifactId : String} {partIndex : ℕ} {text : Json}
    (h : addText request artifactId partIndex g text = .ok g') :
    Adds trusted (textSources text) g g' := by
  unfold addText at h
  unfold textSources
  split at h
  · rename_i hnull
    obtain rfl := Except.ok.inj h
    rw [if_pos hnull]
    exact .refl g
  · rename_i hnull
    obtain ⟨bounded, -, h⟩ := bind_eq_ok.mp h
    rw [if_neg hnull]
    exact Gathered.add_adds ⟨rfl, rfl, rfl, rfl, rfl⟩ (fun _ hfact => nomatch hfact) h

/-- The facts of a data part fit in, with all items so far. -/
theorem addData_adds {artifactId : String} {partIndex : ℕ} {data : Json}
    (h : addData services request (normalizedHost services request.tenantSharepointHost)
      artifactId partIndex g data = .ok g') :
    Adds (Trusted services request) ((dataFacts data).map .fact) g g' ∧
      (data.isNull = false → g.items.length + (dataFacts data).length ≤ maxFacts) := by
  unfold addData at h
  split at h
  · rename_i hnull
    obtain rfl := Except.ok.inj h
    have hdata : data = .null := by
      cases data <;> simp_all [Json.isNull]
    subst hdata
    exact ⟨.refl g, fun hdata => nomatch hdata⟩
  · obtain ⟨_, -, h⟩ := bind_eq_ok.mp h
    split at h
    · cases h
    · rename_i facts hfacts
      obtain ⟨_, hroom, h⟩ := bind_eq_ok.mp h
      have hall := foldlM_relates Adds.refl Adds.trans (fun hstep => addFact_adds hstep) h
      rw [flatMap_zipIdx fun fact => [EvidenceSource.fact fact]] at hall
      unfold dataFacts
      rw [hfacts, Option.getD_some, List.map_eq_flatMap]
      exact ⟨hall, fun _ => expect_eq_ok.mp hroom⟩

theorem Adds.length {sources : List EvidenceSource} (h : Adds trusted sources g g') :
    g'.items.length = g.items.length + sources.length := by
  obtain ⟨new, hitems, htrusts⟩ := h.items
  rw [hitems, List.length_append, htrusts.length_eq]

theorem addPart_adds {artifactId : String} {part : Json × ℕ}
    (h : addPart services request (normalizedHost services request.tenantSharepointHost)
      artifactId g part = .ok g') :
    Adds (Trusted services request) (partSources part.1) g g' ∧
      ((part.1.get "data").isNull = false → g'.items.length ≤ maxFacts) := by
  unfold addPart at h
  obtain ⟨_, -, h⟩ := bind_eq_ok.mp h
  obtain ⟨g₁, htext, h⟩ := bind_eq_ok.mp h
  obtain ⟨hdata, hroom⟩ := addData_adds h
  refine ⟨(addText_adds htext).trans hdata, fun hnull => ?_⟩
  have hfits := hroom hnull
  rw [hdata.length, List.length_map]
  exact hfits

/-- The parts of an artifact, one after the other. -/
theorem addArtifact_relates {artifact : Json} {R : List Json → Gathered → Gathered → Prop}
    (hnil : ∀ g, R [] g g)
    (happend : ∀ {is js g g' g''}, R is g g' → R js g' g'' → R (is ++ js) g g'')
    (hartifact : ∀ g ids, R [] g { g with artifactIds := ids })
    (hpart : ∀ {artifactId part g g'}, addPart services request
      (normalizedHost services request.tenantSharepointHost) artifactId g part = .ok g' →
        R [part.1] g g')
    (h : addArtifact services request (normalizedHost services request.tenantSharepointHost)
      g artifact = .ok g') : R (artifactParts artifact) g g' := by
  unfold addArtifact at h
  obtain ⟨_, -, h⟩ := bind_eq_ok.mp h
  obtain ⟨artifactId, -, h⟩ := bind_eq_ok.mp h
  obtain ⟨_, -, h⟩ := bind_eq_ok.mp h
  dsimp only at h
  split at h
  · cases h
  · rename_i parts hparts
    obtain ⟨_, -, h⟩ := bind_eq_ok.mp h
    have hall := foldlM_relates hnil happend (fun hstep => hpart hstep) h
    rw [flatMap_zipIdx fun part => [part], List.flatMap_singleton'] at hall
    unfold artifactParts
    rw [hparts, Option.getD_some]
    exact happend (hartifact g _) hall

/-- What holds part by part holds of the whole payload. -/
theorem normalizeA2aEvidence_relates {payload : Json} {retrieval : WorkIqRetrieval}
    {R : List Json → Gathered → Gathered → Prop} (hnil : ∀ g, R [] g g)
    (happend : ∀ {is js g g' g''}, R is g g' → R js g' g'' → R (is ++ js) g g'')
    (hartifact : ∀ g ids, R [] g { g with artifactIds := ids })
    (hpart : ∀ {artifactId part g g'}, addPart services request
      (normalizedHost services request.tenantSharepointHost) artifactId g part = .ok g' →
        R [part.1] g g')
    (h : normalizeA2aEvidence services request payload = .ok retrieval) :
    ∃ gathered, retrieval.evidence = gathered.items ∧
      R (payloadParts payload) .empty gathered := by
  unfold normalizeA2aEvidence at h
  obtain ⟨_, -, h⟩ := bind_eq_ok.mp h
  obtain ⟨_, -, h⟩ := bind_eq_ok.mp h
  obtain ⟨_, -, h⟩ := bind_eq_ok.mp h
  obtain ⟨contextId, -, h⟩ := bind_eq_ok.mp h
  obtain ⟨taskId, -, h⟩ := bind_eq_ok.mp h
  obtain ⟨_, -, h⟩ := bind_eq_ok.mp h
  obtain ⟨_, -, h⟩ := bind_eq_ok.mp h
  split at h
  · cases h
  · rename_i artifacts hartifacts
    obtain ⟨_, -, h⟩ := bind_eq_ok.mp h
    obtain ⟨gathered, hloop, h⟩ := bind_eq_ok.mp h
    refine ⟨gathered, congrArg WorkIqRetrieval.evidence (Except.ok.inj h).symm, ?_⟩
    have hall := foldlM_relates hnil happend
      (fun hstep => addArtifact_relates hnil happend hartifact hpart hstep) hloop
    unfold payloadParts
    rw [hartifacts, Option.getD_some]
    exact hall

/-! ### What is trusted -/

/-- The items of a retrieval: their ids, what each is made of and trusted for, and the
URLs of the sources. -/
structure TrustedRetrieval (trusted : Json → Prop) (payload : Json)
    (evidence : List EvidenceItem) : Prop where
  distinct : (evidence.map EvidenceItem.evidenceId).Nodup
  items : List.Forall₂ (Trusts trusted) (sources payload) evidence
  urls : ∀ fact fact', .fact fact ∈ sources payload → .fact fact' ∈ sources payload →
    ∀ sourceId url url', Cites fact sourceId url → Cites fact' sourceId url' → url = url'

/-- The items of a payload that is accepted have different ids; they are authoritative
exactly for the fully cited facts, in a scope of statements; and no source is cited
under two URLs. -/
theorem normalizeA2aEvidence_trusts (services : NormalizerServices) (request : NormalizerRequest)
    (payload : Json) (retrieval : WorkIqRetrieval)
    (h : normalizeA2aEvidence services request payload = .ok retrieval) :
    TrustedRetrieval (Trusted services request) payload retrieval.evidence := by
  obtain ⟨gathered, hevidence, hall⟩ := @normalizeA2aEvidence_relates services request _ _
    (fun parts g g' => Adds (Trusted services request) (parts.flatMap partSources) g g')
    Adds.refl
    (fun h h' => by
      rw [List.flatMap_append]
      exact h.trans h')
    (fun g ids => ⟨⟨[], (List.append_nil _).symm, .nil⟩, fun hg => ⟨hg.ids, hg.nodup⟩,
      fun _ _ hlookup => hlookup, nofun⟩)
    (fun hstep => by
      rw [List.flatMap_singleton]
      exact (addPart_adds hstep).1) h
  have hsound := hall.sound ⟨rfl, List.nodup_nil⟩
  obtain ⟨new, hitems, htrusts⟩ := hall.items
  rw [hevidence]
  refine ⟨hsound.ids ▸ hsound.nodup, ?_, ?_⟩
  · rw [hitems]
    exact htrusts
  · intro fact fact' hfact hfact' sourceId url url' hcites hcites'
    have hlookup := hall.cites fact hfact sourceId url hcites
    rw [hall.cites fact' hfact' sourceId url' hcites'] at hlookup
    exact (Option.some.inj hlookup).symm

/-- An accepted payload with a property of its evidence, for evaluation. -/
def acceptedWith (services : NormalizerServices) (request : NormalizerRequest) (payload : Json)
    (check : List EvidenceItem → Bool) : Bool :=
  match normalizeA2aEvidence services request payload with
  | .ok retrieval => check retrieval.evidence
  | .error _ => false

theorem acceptedWith_eq_true {payload : Json} {check : List EvidenceItem → Bool}
    (h : acceptedWith services request payload check = true) :
    ∃ retrieval, normalizeA2aEvidence services request payload = .ok retrieval ∧
      check retrieval.evidence = true := by
  unfold acceptedWith at h
  split at h
  · rename_i retrieval hretrieval
    exact ⟨retrieval, hretrieval, h⟩
  · cases h

def sampleNormalizerServices : NormalizerServices where
  unicode := ⟨fun s => String.ofList (s.toList.map Char.toLower),
    fun s => String.ofList (s.toList.map Char.toLower), id⟩
  isIpv6 _ := false
  fromisoformat text := if text = "2026-08-30T14:00:00Z" then some (some 1788098400000000) else none

def sampleNormalizerRequest (scope : AuthorityScope) : NormalizerRequest where
  caseId := "case"
  analysisId := "analysis"
  retrievedAt := 1788199200000000
  expectedSourceId := "fixture-source-alpha"
  expectedAuthorityScope := scope
  tenantSharepointHost := "tenant.sharepoint.com"

/-- A payload with one artifact for each list of parts. -/
def samplePayload (artifacts : List (String × List Json)) : Json :=
  .dict [("result", .dict [("task", .dict [("contextId", .text "context"), ("id", .text "task"),
    ("status", .dict [("state", .text "TASK_STATE_COMPLETED")]),
    ("artifacts", .list (artifacts.map fun artifact =>
      .dict [("artifactId", .text artifact.1), ("parts", .list artifact.2)]))])])]

def sampleFact (scope : String) : Json :=
  .dict [("factId", .text "fact"), ("claim", .text "5,000 units have no confirmed date."),
    ("sourceTimestamp", .text "2026-08-30T14:00:00Z"), ("authorityScope", .text scope),
    ("citation", .dict [("sourceType", .text "microsoft365"),
      ("sourceId", .text "fixture-source-alpha"),
      ("url", .text "https://outlook.office.com/mail"),
      ("excerpt", .text "We cannot deliver the full 8,000 units.")])]

def sampleFactPayload (scope : String) : Json :=
  samplePayload [("artifact", [.dict [("data", .dict [("facts", .list [sampleFact scope])])]])]

theorem sampleUrl_trusted : TrustedUrl sampleNormalizerServices
    (normalizedHost sampleNormalizerServices "tenant.sharepoint.com")
    "https://outlook.office.com/mail" := by
  refine ⟨by decide +kernel, ⟨"https".toList, "outlook.office.com".toList,
    "/mail".toList, [], []⟩, ?_, rfl, ?_, ?_, ?_, .inl ?_⟩ <;>
    decide +kernel

theorem sampleFact_fullyCited (scope : AuthorityScope) :
    FullyCited sampleNormalizerServices (sampleNormalizerRequest scope)
      (sampleFact scope.value) where
  citation := rfl
  url := ⟨_, rfl, sampleUrl_trusted⟩
  source := ⟨_, rfl, by decide +kernel, rfl⟩
  excerpt := ⟨_, rfl, by decide +kernel⟩
  sourceType := .inl rfl
  scope := rfl
  sourceTime := ⟨_, 1788098400000000, rfl, by decide +kernel⟩

/-- Another fact of the same source. -/
def sampleOtherFact (factId scope : String) : Json :=
  .dict [("factId", .text factId), ("claim", .text "3,000 units arrive in time."),
    ("sourceTimestamp", .text "2026-08-30T14:00:00Z"), ("authorityScope", .text scope),
    ("citation", .dict [("sourceType", .text "microsoft365"),
      ("sourceId", .text "fixture-source-alpha"),
      ("url", .text "https://outlook.office.com/mail"),
      ("excerpt", .text "We can deliver 3,000 units.")])]

/-- Two artifacts with texts around their facts. -/
def sampleMixedPayload : Json :=
  samplePayload
    [("first", [.dict [("text", .text "Before the facts.")],
        .dict [("data", .dict [("facts", .list [sampleFact "supplier_statement",
          sampleOtherFact "quantity" "operational_quantity"])])]]),
      ("second", [.dict [("data", .dict [("facts", .list
          [sampleOtherFact "statement" "supplier_statement"])])],
        .dict [("text", .text "Behind the facts.")]])]

/-- Of the texts and facts of a payload, the supplier statements are trusted. -/
theorem normalizeA2aEvidence_trusts_sample :
    ∃ retrieval, normalizeA2aEvidence sampleNormalizerServices
        (sampleNormalizerRequest .supplierStatement) sampleMixedPayload = .ok retrieval ∧
      retrieval.evidence.map EvidenceItem.requirement =
        [.contextual, .requiredAuthoritative, .contextual, .requiredAuthoritative, .contextual] ∧
      TrustedRetrieval (Trusted sampleNormalizerServices
        (sampleNormalizerRequest .supplierStatement)) sampleMixedPayload retrieval.evidence := by
  obtain ⟨retrieval, hretrieval, hcheck⟩ := acceptedWith_eq_true (show
    acceptedWith sampleNormalizerServices (sampleNormalizerRequest .supplierStatement)
      sampleMixedPayload (fun evidence => evidence.map EvidenceItem.requirement ==
        [.contextual, .requiredAuthoritative, .contextual, .requiredAuthoritative, .contextual]) =
          true
    by decide +kernel)
  exact ⟨retrieval, hretrieval, beq_iff_eq.mp hcheck, normalizeA2aEvidence_trusts _ _ _ _ hretrieval⟩

/-- A fully cited fact in the expected scope is not trusted where the scope is not one of
statements. -/
theorem quantity_fact_not_trusted :
    ∃ retrieval, normalizeA2aEvidence sampleNormalizerServices
        (sampleNormalizerRequest .operationalQuantity) (sampleFactPayload "operational_quantity") =
          .ok retrieval ∧
      ¬TrustedRetrieval (FullyCited sampleNormalizerServices
        (sampleNormalizerRequest .operationalQuantity)) (sampleFactPayload "operational_quantity")
        retrieval.evidence := by
  obtain ⟨retrieval, hretrieval, hcheck⟩ := acceptedWith_eq_true (show
    acceptedWith sampleNormalizerServices (sampleNormalizerRequest .operationalQuantity)
      (sampleFactPayload "operational_quantity")
      (fun evidence => evidence.map EvidenceItem.requirement == [.contextual]) = true
    by decide +kernel)
  refine ⟨retrieval, hretrieval, fun htrusted => ?_⟩
  have hitems := htrusted.items
  have hsources : sources (sampleFactPayload "operational_quantity") =
      [.fact (sampleFact "operational_quantity")] := rfl
  rw [hsources] at hitems
  obtain ⟨item, rest, htrusts, hrest, hevidence⟩ := List.forall₂_cons_left_iff.mp hitems
  rw [hevidence, List.map_cons, beq_iff_eq] at hcheck
  obtain ⟨hrequirement, -⟩ := htrusts.1.mpr (sampleFact_fullyCited .operationalQuantity)
  rw [hrequirement] at hcheck
  cases (List.cons.inj hcheck).1

/-! ### How much is retrieved -/

/-- The parts behind the last one with data; in reverse. -/
def trailingParts (parts : List Json) : List Json :=
  parts.reverse.takeWhile fun part => (part.get "data").isNull

/-- The text parts behind the last part with data. -/
def trailingTexts (payload : Json) : ℕ :=
  (trailingParts (payloadParts payload)).countP fun part => !(part.get "text").isNull

/-- The texts and facts of the parts up to the last one with data. -/
def countedItems (parts : List Json) : ℕ :=
  ((parts.reverse.dropWhile fun part => (part.get "data").isNull).flatMap partSources).length

theorem partSources_length_of_isNull {part : Json} (h : (part.get "data").isNull = true) :
    (partSources part).length = if (part.get "text").isNull then 0 else 1 := by
  have hdata : part.get "data" = .null := by
    cases hget : part.get "data" <;> simp_all [Json.isNull]
  unfold partSources textSources
  rw [hdata]
  split <;> rfl

theorem sources_length_of_isNull {parts : List Json}
    (h : ∀ part ∈ parts, (part.get "data").isNull = true) :
    (parts.flatMap partSources).length = parts.countP fun part => !(part.get "text").isNull := by
  induction parts with
  | nil => rfl
  | cons part parts ih =>
    rw [List.flatMap_cons, List.length_append, List.countP_cons,
      partSources_length_of_isNull (h part (List.mem_cons_self ..)),
      ih fun p hp => h p (List.mem_cons_of_mem _ hp)]
    cases (part.get "text").isNull <;> simp [Nat.add_comm]

/-- Every item is counted with the last data part, or trails it. -/
theorem sources_length (payload : Json) : (sources payload).length =
    countedItems (payloadParts payload) + trailingTexts payload := by
  have hreverse : (sources payload).length =
      ((payloadParts payload).reverse.flatMap partSources).length := by
    unfold sources
    rw [List.length_flatMap, List.length_flatMap, List.map_reverse, List.sum_reverse]
  have htrailing := @sources_length_of_isNull (trailingParts (payloadParts payload))
    fun part hpart =>
      @List.mem_takeWhile_imp _ (fun part : Json => (part.get "data").isNull) _ _ hpart
  unfold trailingTexts countedItems
  rw [← htrailing, hreverse]
  conv_lhs => rw [← @List.takeWhile_append_dropWhile _ (fun part : Json => (part.get "data").isNull)
    (payloadParts payload).reverse]
  rw [List.flatMap_append, List.length_append, Nat.add_comm]
  rfl

theorem countedItems_append_singleton {parts : List Json} {part : Json} :
    countedItems (parts ++ [part]) =
      if (part.get "data").isNull then countedItems parts
      else ((parts ++ [part]).flatMap partSources).length := by
  unfold countedItems
  rw [List.reverse_append, List.reverse_singleton, List.singleton_append, List.dropWhile_cons]
  split
  · rfl
  · rw [List.length_flatMap, List.length_flatMap, ← List.reverse_reverse (part :: parts.reverse),
      List.reverse_cons, List.reverse_reverse, List.map_reverse, List.sum_reverse]

/-- Parts keep the count of the items exact, and the counted ones within the limit. -/
def Counts (parts : List Json) (g g' : Gathered) : Prop :=
  ∀ before, g.items.length = (before.flatMap partSources).length → countedItems before ≤ maxFacts →
    g'.items.length = ((before ++ parts).flatMap partSources).length ∧
      countedItems (before ++ parts) ≤ maxFacts

theorem Counts.refl (g : Gathered) : Counts [] g g := by
  intro before hlength hcounted
  rw [List.append_nil]
  exact ⟨hlength, hcounted⟩

theorem Counts.trans {parts parts' : List Json} {g'' : Gathered} (h : Counts parts g g')
    (h' : Counts parts' g' g'') : Counts (parts ++ parts') g g'' := by
  intro before hlength hcounted
  obtain ⟨hlength, hcounted⟩ := h before hlength hcounted
  rw [← List.append_assoc]
  exact h' _ hlength hcounted

theorem addPart_counts {artifactId : String} {part : Json × ℕ}
    (h : addPart services request (normalizedHost services request.tenantSharepointHost)
      artifactId g part = .ok g') : Counts [part.1] g g' := by
  obtain ⟨hadds, hroom⟩ := addPart_adds h
  intro before hlength hcounted
  have hlength' : g'.items.length = ((before ++ [part.1]).flatMap partSources).length := by
    rw [hadds.length, hlength, List.flatMap_append, List.flatMap_singleton, List.length_append]
  refine ⟨hlength', ?_⟩
  rw [countedItems_append_singleton]
  split
  · exact hcounted
  · rename_i hdata
    rw [← hlength']
    exact hroom (Bool.eq_false_iff.mpr hdata)

/-- The limit on items and facts bounds what comes up to the last data part; the texts
behind it decide whether all items are within the limit. -/
theorem evidence_bounded_iff (services : NormalizerServices) (request : NormalizerRequest)
    (payload : Json) (retrieval : WorkIqRetrieval)
    (h : normalizeA2aEvidence services request payload = .ok retrieval) :
    retrieval.evidence.length ≤ 128 ↔
      trailingTexts payload ≤ 128 - countedItems (payloadParts payload) := by
  obtain ⟨gathered, hevidence, hall⟩ := normalizeA2aEvidence_relates Counts.refl Counts.trans
    (fun g _ => Counts.refl g) (fun hstep => addPart_counts hstep) h
  obtain ⟨hlength, hcounted⟩ := hall [] rfl (Nat.zero_le _)
  rw [List.nil_append] at hlength hcounted
  have hsplit := sources_length payload
  unfold sources at hsplit
  unfold maxFacts at hcounted
  rw [hevidence, hlength, hsplit]
  omega

/-- Four artifacts of 32 texts each, and one of a single text. -/
def sampleTextPayload : Json :=
  samplePayload ([("a", 32), ("b", 32), ("c", 32), ("d", 32), ("e", 1)].map fun artifact =>
    (artifact.1, List.replicate artifact.2 (.dict [("text", .text "x")])))

/-- A fact behind 126 texts, and a text behind the fact. -/
def sampleFullPayload : Json :=
  samplePayload ([("a", 32), ("b", 32), ("c", 32)].map (fun artifact =>
    (artifact.1, List.replicate artifact.2 (.dict [("text", .text "x")]))) ++
    [("d", List.replicate 30 (.dict [("text", .text "x")]) ++
      [.dict [("data", .dict [("facts", .list [sampleFact "supplier_statement"])])],
        .dict [("text", .text "y")]])])

/-- A payload at the limit. -/
theorem evidence_bounded_iff_sample :
    ∃ retrieval, normalizeA2aEvidence sampleNormalizerServices
        (sampleNormalizerRequest .supplierStatement) sampleFullPayload = .ok retrieval ∧
      countedItems (payloadParts sampleFullPayload) = 127 ∧ trailingTexts sampleFullPayload = 1 ∧
      retrieval.evidence.length ≤ 128 := by
  have hcounted : countedItems (payloadParts sampleFullPayload) = 127 := by decide +kernel
  have htrailing : trailingTexts sampleFullPayload = 1 := by decide +kernel
  obtain ⟨retrieval, hretrieval, -⟩ := acceptedWith_eq_true (show
    acceptedWith sampleNormalizerServices (sampleNormalizerRequest .supplierStatement)
      sampleFullPayload (fun _ => true) = true by decide +kernel)
  refine ⟨retrieval, hretrieval, hcounted, htrailing,
    (evidence_bounded_iff _ _ _ _ hretrieval).mpr ?_⟩
  rw [hcounted, htrailing]

/-- Texts alone are not counted against the limit. -/
theorem texts_exceed_limit :
    ∃ retrieval, normalizeA2aEvidence sampleNormalizerServices
        (sampleNormalizerRequest .supplierStatement) sampleTextPayload = .ok retrieval ∧
      retrieval.evidence.length = 129 := by
  obtain ⟨retrieval, hretrieval, hcheck⟩ := acceptedWith_eq_true (show
    acceptedWith sampleNormalizerServices (sampleNormalizerRequest .supplierStatement)
      sampleTextPayload (fun evidence => evidence.length == 129) = true by decide +kernel)
  exact ⟨retrieval, hretrieval, beq_iff_eq.mp hcheck⟩

end SupplyResponse
