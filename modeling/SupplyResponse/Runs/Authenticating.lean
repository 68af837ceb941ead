/-
Calls of `authenticate`, one after the other.

* `IsKeySet`, `parseKeySet_eq_ok` — a wholly valid key document;
* `InForce` — the key set that was installed last, and when;
* `refreshKeys_cases`, `signingKey_spec` — what a refresh and a look-up do to it;
* `authenticate_trustworthy` — whom a call answers with, on what evidence, and
  what it fetches.
-/
import Mathlib.Data.List.Pairwise
import Mathlib.Tactic.Linarith
import SupplyResponse.Api.Auth

namespace SupplyResponse

open Text (Json)
open Transact

/-! ### Key documents -/

/-- A key that a document may list under an id. -/
def IsListedKey (entry : String × Json) : Prop :=
  entry.2.isDict = true ∧ (entry.2.get "kid").text? = some entry.1 ∧ entry.1 ≠ "" ∧
    IsRsaKey entry.2

/-- A wholly valid document, with its keys by id. -/
structure IsKeySet (document : Json) (keys : List (String × Json)) : Prop where
  listed : (document.get "keys").list? = some (keys.map Prod.snd)
  size : 1 ≤ keys.length ∧ keys.length ≤ maxSigningKeys
  distinct : (keys.map Prod.fst).Nodup
  valid : ∀ entry ∈ keys, IsListedKey entry

theorem parseKeys_cons_of_listed {parsed : List (String × Json)} {entry : String × Json}
    {raw : List Json} (hnew : entry.1 ∉ parsed.map Prod.fst) (hentry : IsListedKey entry) :
    parseKeys parsed (entry.2 :: raw) = parseKeys (parsed ++ [entry]) raw := by
  obtain ⟨hdict, hkid, hne, hrsa⟩ := hentry
  rw [parseKeys, if_pos hdict, hkid]
  simp only [if_neg hnew, if_pos (show entry.1 ≠ "" ∧ IsRsaKey entry.2 from ⟨hne, hrsa⟩)]

theorem parseKeys_cons_cases {parsed keys : List (String × Json)} {key : Json} {raw : List Json}
    (h : parseKeys parsed (key :: raw) = .ok keys) :
    ∃ keyId, keyId ∉ parsed.map Prod.fst ∧ IsListedKey (keyId, key) ∧
      parseKeys (parsed ++ [(keyId, key)]) raw = .ok keys := by
  rw [parseKeys] at h
  split at h
  · rename_i hdict
    split at h
    · cases h
    · rename_i keyId hkid
      split at h
      · cases h
      · rename_i hnew
        split at h
        · rename_i hvalid
          exact ⟨keyId, hnew, ⟨hdict, hkid, hvalid.1, hvalid.2⟩, h⟩
        · cases h
  · cases h

theorem parseKeys_eq_ok {parsed keys : List (String × Json)} {raw : List Json}
    (hparsed : (parsed.map Prod.fst).Nodup) :
    parseKeys parsed raw = .ok keys ↔
      ∃ new, keys = parsed ++ new ∧ raw = new.map Prod.snd ∧ (keys.map Prod.fst).Nodup ∧
        ∀ entry ∈ new, IsListedKey entry := by
  induction raw generalizing parsed with
  | nil =>
    constructor
    · intro h
      obtain rfl := Except.ok.inj h
      exact ⟨[], (List.append_nil _).symm, rfl, hparsed, fun _ h => absurd h List.not_mem_nil⟩
    · rintro ⟨new, rfl, hraw, -, -⟩
      obtain rfl := List.map_eq_nil_iff.mp hraw.symm
      rw [List.append_nil]
      rfl
  | cons key raw ih =>
    have hstep : ∀ {keyId : String}, keyId ∉ parsed.map Prod.fst →
        ((parsed ++ [(keyId, key)]).map Prod.fst).Nodup := by
      intro keyId hnew
      rw [List.map_append, List.map_cons, List.map_nil]
      refine List.nodup_append.mpr ⟨hparsed, List.nodup_singleton _, fun a ha b hb hab => ?_⟩
      obtain rfl := List.mem_singleton.mp hb
      exact hnew (hab ▸ ha)
    constructor
    · intro h
      obtain ⟨keyId, hnew, hentry, h⟩ := parseKeys_cons_cases h
      obtain ⟨new, rfl, rfl, hnodup, hvalid⟩ := (ih (hstep hnew)).mp h
      refine ⟨(keyId, key) :: new, by simp, rfl, by simpa using hnodup, fun entry he => ?_⟩
      rcases List.mem_cons.mp he with rfl | he
      · exact hentry
      · exact hvalid entry he
    · rintro ⟨new, rfl, hraw, hnodup, hvalid⟩
      obtain ⟨entry, new, rfl, rfl, rfl⟩ := List.map_eq_cons_iff.mp hraw.symm
      have hnew : entry.1 ∉ parsed.map Prod.fst := by
        rw [List.map_append, List.map_cons] at hnodup
        intro hmem
        exact (List.nodup_append.mp hnodup).2.2 _ hmem _ (List.mem_cons_self ..) rfl
      rw [parseKeys_cons_of_listed hnew (hvalid entry (List.mem_cons_self ..))]
      exact (ih (hstep hnew)).mpr ⟨new, by simp, rfl, hnodup, fun e he =>
        hvalid e (List.mem_cons_of_mem _ he)⟩

theorem parseKeySet_eq_ok {document : Json} {keys : List (String × Json)} :
    parseKeySet document = .ok keys ↔ IsKeySet document keys := by
  constructor
  · intro h
    rw [parseKeySet] at h
    split at h
    · cases h
    · rename_i raw hraw
      split at h
      · rename_i hsize
        obtain ⟨new, rfl, rfl, hnodup, hvalid⟩ := (@parseKeys_eq_ok [] _ _ List.nodup_nil).mp h
        rw [List.length_map] at hsize
        exact ⟨hraw, hsize, hnodup, hvalid⟩
      · cases h
  · rintro ⟨hlisted, hsize, hnodup, hvalid⟩
    rw [parseKeySet, hlisted]
    have hlength : 1 ≤ (keys.map Prod.snd).length ∧
        (keys.map Prod.snd).length ≤ maxSigningKeys := by rwa [List.length_map]
    show (if _ then _ else _) = _
    rw [if_pos hlength]
    exact (@parseKeys_eq_ok [] _ _ List.nodup_nil).mpr ⟨keys, rfl, rfl, hnodup, hvalid⟩

/-! ### Installations -/

/-- The URL of a request. -/
def AuthEvent.url? : AuthEvent → Option String
  | .read _ => none
  | .fetched url _ => some url

/-- The URLs that were requested, latest first. -/
def requested (log : List AuthEvent) : List String := log.filterMap AuthEvent.url?

@[simp] theorem requested_read (now : ℚ) (log : List AuthEvent) :
    requested (.read now :: log) = requested log := rfl

@[simp] theorem requested_fetched (url : String) (answer : FetchAnswer) (log : List AuthEvent) :
    requested (.fetched url answer :: log) = url :: requested log := rfl

@[simp] theorem requested_append (a b : List AuthEvent) :
    requested (a ++ b) = requested a ++ requested b := List.filterMap_append

/-- After one reading of the clock. -/
def AuthWorld.readNow (w : AuthWorld) (outside : Surroundings) : AuthWorld :=
  { w with log := .read (outside.now w.log.length) :: w.log }

namespace AuthService

variable (service : AuthService) (jwt : JwtLibrary) (outside : Surroundings)

/-- The endpoint answered with a wholly valid key document. -/
def Installs (e : AuthEvent) : Prop :=
  ∃ document keys, e = .fetched service.expectedJwksUrl (.value document) ∧
    IsKeySet document keys

/-- The keys of `w` are those of the latest valid document, and expire by the
reading of the clock after it. -/
structure InForce (w : AuthWorld) (document : Json) (installed : ℚ)
    (later earlier : List AuthEvent) : Prop where
  log : w.log =
    later ++ .read installed :: .fetched service.expectedJwksUrl (.value document) :: earlier
  last : ∀ e ∈ later, ¬service.Installs e
  keys : IsKeySet document w.keys
  expires : w.cacheExpiresAt = installed + service.cacheTtl

/-- No keys yet, or those of the latest valid document. -/
def CacheSound (w : AuthWorld) : Prop :=
  w.keys = [] ∨ ∃ document installed later earlier,
    service.InForce w document installed later earlier

variable {service jwt outside} {w w' : AuthWorld}

theorem cacheSound_initial : service.CacheSound AuthWorld.initial := .inl rfl

theorem InForce.later {document : Json} {installed : ℚ} {later earlier events : List AuthEvent}
    (h : service.InForce w document installed later earlier)
    (hevents : ∀ e ∈ events, ¬service.Installs e) :
    service.InForce { w with log := events ++ w.log } document installed (events ++ later)
      earlier where
  log := by rw [h.log, List.append_assoc]
  last := by
    intro e he
    rcases List.mem_append.mp he with he | he
    · exact hevents e he
    · exact h.last e he
  keys := h.keys
  expires := h.expires

theorem CacheSound.later {events : List AuthEvent} (h : service.CacheSound w)
    (hevents : ∀ e ∈ events, ¬service.Installs e) :
    service.CacheSound { w with log := events ++ w.log } := by
  rcases h with h | ⟨document, installed, later, earlier, h⟩
  · exact .inl h
  · exact .inr ⟨document, installed, events ++ later, earlier, h.later hevents⟩

theorem not_installs_read (now : ℚ) : ¬service.Installs (.read now) := by
  rintro ⟨_, _, h, -⟩
  cases h

theorem CacheSound.readNow (h : service.CacheSound w) :
    service.CacheSound (w.readNow outside) := by
  have hevents : ∀ e ∈ [AuthEvent.read (outside.now w.log.length)], ¬service.Installs e := by
    intro e he
    obtain rfl := List.mem_singleton.mp he
    exact not_installs_read _
  exact h.later hevents

theorem metadataUrl_ne : service.metadataUrl ≠ service.expectedJwksUrl := by
  -- behind the tenant the URLs differ
  have hne : "/v2.0" ++ "/.well-known/openid-configuration" ≠ "/discovery/v2.0/keys" := by simp
  intro h
  unfold metadataUrl issuer expectedJwksUrl at h
  rw [@String.append_assoc (_ ++ service.tenantId)] at h
  exact hne ((String.append_right_inj _).mp h)

theorem not_installs_metadata (answer : FetchAnswer) :
    ¬service.Installs (.fetched service.metadataUrl answer) := by
  rintro ⟨_, _, h, -⟩
  exact metadataUrl_ne (AuthEvent.fetched.inj h).1

theorem received_eq_ok {answer : FetchAnswer} {document : Json}
    (h : received answer = .ok document) : answer = .value document := by
  cases answer with
  | value v =>
    rw [received] at h
    split at h
    · rw [Except.ok.inj h]
    · cases h
  | authenticationError message => cases h
  | exception => cases h
  | baseException => cases h

theorem isDict_of_isKeySet {document : Json} {keys : List (String × Json)}
    (h : IsKeySet document keys) : document.isDict = true := by
  have hlisted := h.listed
  cases document with
  | dict fields => rfl
  | _ => cases hlisted

theorem not_installs_of_received {answer : FetchAnswer} {e : AuthFailure}
    (h : received answer = .error e) :
    ¬service.Installs (.fetched service.expectedJwksUrl answer) := by
  rintro ⟨document, keys, heq, hkeys⟩
  obtain ⟨-, rfl⟩ := AuthEvent.fetched.inj heq
  rw [received, if_pos (isDict_of_isKeySet hkeys)] at h
  cases h

theorem not_installs_of_parsed {document : Json} {e : AuthFailure}
    (h : parseKeySet document = .error e) :
    ¬service.Installs (.fetched service.expectedJwksUrl (.value document)) := by
  rintro ⟨document', keys, heq, hkeys⟩
  obtain ⟨-, heq⟩ := AuthEvent.fetched.inj heq
  obtain rfl := FetchAnswer.value.inj heq
  rw [parseKeySet_eq_ok.mpr hkeys] at h
  cases h

/-! ### One refresh -/

theorem fetch_run (url : String) :
    (fetch outside url).run w =
      (received (outside.httpGet w.log.length url),
        { w with log := .fetched url (outside.httpGet w.log.length url) :: w.log }) :=
  Process.run_ofExcept ..

theorem checkMetadata_cases {r : Except AuthFailure Unit}
    (h : (service.checkMetadata outside).run w = (r, w')) :
    ∃ answer, w' = { w with log := .fetched service.metadataUrl answer :: w.log } := by
  refine ⟨outside.httpGet w.log.length service.metadataUrl, ?_⟩
  rcases Process.run_bind_cases h with ⟨metadata, w₁, hfetch, hcheck⟩ | ⟨e, hfetch, -⟩
  · rw [fetch_run] at hfetch
    obtain rfl := (Prod.mk.inj hfetch).2
    rw [Process.check] at hcheck
    split at hcheck
    · exact (Prod.mk.inj hcheck).2.symm
    · exact (Prod.mk.inj hcheck).2.symm
  · rw [fetch_run] at hfetch
    exact (Prod.mk.inj hfetch).2.symm

/-- The requests of a refresh before the one for the keys. -/
def metadataRequests (service : AuthService) (refreshMetadata : Bool) : List String :=
  if refreshMetadata then [service.metadataUrl] else []

theorem firstHalf_cases {refreshMetadata : Bool} {r : Except AuthFailure Unit}
    (h : (if refreshMetadata then service.checkMetadata outside else pure ()).run w = (r, w')) :
    ∃ events, w' = { w with log := events ++ w.log } ∧ (∀ e ∈ events, ¬service.Installs e) ∧
      requested events = service.metadataRequests refreshMetadata ∧
      (refreshMetadata = false → r = .ok ()) := by
  cases refreshMetadata with
  | false =>
    obtain ⟨rfl, rfl⟩ := Prod.mk.inj h
    exact ⟨[], rfl, fun _ h => absurd h List.not_mem_nil, rfl, fun _ => rfl⟩
  | true =>
    obtain ⟨answer, rfl⟩ := checkMetadata_cases h
    refine ⟨[.fetched service.metadataUrl answer], rfl, fun e he => ?_, rfl, fun h => nomatch h⟩
    obtain rfl := List.mem_singleton.mp he
    exact not_installs_metadata answer

/-- A refresh that failed: nothing but requests and readings. -/
structure FailedRefresh (service : AuthService) (refreshMetadata : Bool) (w w' : AuthWorld)
    (events : List AuthEvent) : Prop where
  unchanged : w' = { w with log := events ++ w.log }
  silent : ∀ e ∈ events, ¬service.Installs e
  requests : requested events = service.expectedJwksUrl ::
      service.metadataRequests refreshMetadata ∨
    (refreshMetadata = true ∧ requested events = [service.metadataUrl])

/-- A refresh that installed the keys of a valid document, at a reading of the clock. -/
structure DoneRefresh (service : AuthService) (refreshMetadata : Bool) (w w' : AuthWorld)
    (document : Json) (installed : ℚ) (events : List AuthEvent) : Prop where
  keys : IsKeySet document w'.keys
  expires : w'.cacheExpiresAt = installed + service.cacheTtl
  log : w'.log = .read installed :: .fetched service.expectedJwksUrl (.value document) ::
    (events ++ w.log)
  requests : requested events = service.metadataRequests refreshMetadata

theorem refreshKeys_cases {refreshMetadata : Bool} {r : Except AuthFailure Unit}
    (h : (service.refreshKeys outside refreshMetadata).run w = (r, w')) :
    (∃ e events, r = .error e ∧ service.FailedRefresh refreshMetadata w w' events) ∨
      ∃ document installed events, r = .ok () ∧
        service.DoneRefresh refreshMetadata w w' document installed events := by
  rcases Process.run_bind_cases h with ⟨_, w₁, hfirst, h⟩ | ⟨e, hfirst, rfl⟩
  · obtain ⟨events, rfl, hsilent, hrequests, -⟩ := firstHalf_cases hfirst
    clear hfirst
    rcases Process.run_bind_cases h with ⟨document, w₂, hfetch, h⟩ | ⟨e, hfetch, rfl⟩
    · rw [fetch_run] at hfetch
      obtain ⟨hreceived, rfl⟩ := Prod.mk.inj hfetch
      have hanswer := received_eq_ok hreceived
      rw [hanswer] at h
      rcases Process.run_bind_cases h with ⟨keys, w₃, hparse, h⟩ | ⟨e, hparse, rfl⟩
      · -- the document is valid
        rw [Process.run_ofExcept] at hparse
        obtain ⟨hkeys, rfl⟩ := Prod.mk.inj hparse
        obtain ⟨rfl, rfl⟩ := Prod.mk.inj h
        exact .inr ⟨document, _, events, rfl, parseKeySet_eq_ok.mp hkeys, rfl, rfl, hrequests⟩
      · rw [Process.run_ofExcept] at hparse
        obtain ⟨hkeys, rfl⟩ := Prod.mk.inj hparse
        refine .inl ⟨e, .fetched service.expectedJwksUrl (.value document) :: events, rfl, rfl,
          fun e' he => ?_, .inl (by rw [requested_fetched, hrequests])⟩
        rcases List.mem_cons.mp he with rfl | he
        · exact not_installs_of_parsed hkeys
        · exact hsilent e' he
    · rw [fetch_run] at hfetch
      obtain ⟨hreceived, rfl⟩ := Prod.mk.inj hfetch
      refine .inl ⟨e, .fetched service.expectedJwksUrl _ :: events, rfl, rfl,
        fun e' he => ?_, .inl (by rw [requested_fetched, hrequests])⟩
      rcases List.mem_cons.mp he with rfl | he
      · exact not_installs_of_received hreceived
      · exact hsilent e' he
  · obtain ⟨events, rfl, hsilent, hrequests, hok⟩ := firstHalf_cases hfirst
    cases refreshMetadata with
    | false => cases hok rfl
    | true => exact .inl ⟨e, events, rfl, rfl, hsilent, .inr ⟨rfl, hrequests⟩⟩

theorem FailedRefresh.sound {refreshMetadata : Bool} {events : List AuthEvent}
    (h : service.FailedRefresh refreshMetadata w w' events) (hw : service.CacheSound w) :
    service.CacheSound w' := by
  rw [h.unchanged]
  exact hw.later h.silent

theorem DoneRefresh.inForce {refreshMetadata : Bool} {document : Json} {installed : ℚ}
    {events : List AuthEvent}
    (h : service.DoneRefresh refreshMetadata w w' document installed events) :
    service.InForce w' document installed [] (events ++ w.log) :=
  ⟨h.log, fun _ he => absurd he List.not_mem_nil, h.keys, h.expires⟩

/-! ### Looking a key up -/

/-- The keys in force were installed after the first `n` events, or less than the
time to live before `start`. -/
def Current (service : AuthService) (start : ℚ) (n : ℕ) (w : AuthWorld) : Prop :=
  w.keys = [] ∨ ∃ document installed later earlier,
    service.InForce w document installed later earlier ∧
      (start - installed < service.cacheTtl ∨ n ≤ earlier.length)

theorem Current.sound {start : ℚ} {n : ℕ} (h : service.Current start n w) :
    service.CacheSound w := by
  rcases h with h | ⟨document, installed, later, earlier, h, -⟩
  · exact .inl h
  · exact .inr ⟨document, installed, later, earlier, h⟩

theorem DoneRefresh.current {refreshMetadata : Bool} {document : Json} {installed start : ℚ}
    {events : List AuthEvent} {n : ℕ}
    (h : service.DoneRefresh refreshMetadata w w' document installed events)
    (hn : n ≤ w.log.length) : service.Current start n w' := by
  refine .inr ⟨document, installed, [], events ++ w.log, h.inForce, .inr ?_⟩
  rw [List.length_append]
  omega

theorem CacheSound.current {start : ℚ} {n : ℕ} (h : service.CacheSound w)
    (hstart : ¬w.cacheExpiresAt ≤ start) : service.Current start n w := by
  rcases h with h | ⟨document, installed, later, earlier, h⟩
  · exact .inl h
  · refine .inr ⟨document, installed, later, earlier, h, .inl ?_⟩
    rw [h.expires] at hstart
    linarith

/-- A part of a call that added `events` to the log and left the cache sound. -/
structure Extends (service : AuthService) (w w' : AuthWorld) (events : List AuthEvent) :
    Prop where
  log : w'.log = events ++ w.log
  sound : service.CacheSound w'

/-- The refresh of an expired cache. -/
theorem expired_cases {start : ℚ} {n : ℕ} {r : Except AuthFailure Unit}
    (hsound : service.CacheSound w) (hn : n ≤ w.log.length)
    (h : (if w.cacheExpiresAt ≤ start then service.refreshKeys outside true else pure ()).run w =
      (r, w')) :
    ∃ events, service.Extends w w' events ∧
      ((r = .ok () ∧ service.Current start n w' ∧
          (requested events = [] ∨
            requested events = [service.expectedJwksUrl, service.metadataUrl])) ∨
        (∃ e, r = .error e) ∧ (requested events = [service.metadataUrl] ∨
          requested events = [service.expectedJwksUrl, service.metadataUrl])) := by
  by_cases hexpired : w.cacheExpiresAt ≤ start
  · rw [if_pos hexpired] at h
    rcases refreshKeys_cases h with ⟨e, events, rfl, hfailed⟩ |
      ⟨document, installed, events, rfl, hdone⟩
    · refine ⟨events, ⟨by rw [hfailed.unchanged], hfailed.sound hsound⟩, .inr ⟨⟨e, rfl⟩, ?_⟩⟩
      rcases hfailed.requests with hrequests | ⟨-, hrequests⟩
      · exact .inr hrequests
      · exact .inl hrequests
    · have hcurrent : service.Current start n w' := hdone.current hn
      refine ⟨.read installed :: .fetched service.expectedJwksUrl (.value document) :: events,
        ⟨hdone.log, hcurrent.sound⟩, .inl ⟨rfl, hcurrent, .inr ?_⟩⟩
      rw [requested_read, requested_fetched, hdone.requests]
      rfl
  · rw [if_neg hexpired] at h
    obtain ⟨rfl, rfl⟩ := Prod.mk.inj h
    exact ⟨[], ⟨rfl, hsound⟩, .inl ⟨rfl, hsound.current hexpired, .inl rfl⟩⟩

/-- The keys may be looked up under this id, in the key set in force. -/
structure Found (service : AuthService) (start : ℚ) (n : ℕ) (w : AuthWorld) (keyId : String)
    (key document : Json) (installed : ℚ) (later earlier : List AuthEvent) : Prop where
  inForce : service.InForce w document installed later earlier
  key : w.keys.lookup keyId = some key
  fresh : start - installed < service.cacheTtl ∨ n ≤ earlier.length

theorem Current.found {start : ℚ} {n : ℕ} {keyId : String} {key : Json}
    (h : service.Current start n w) (hkey : w.keys.lookup keyId = some key) :
    ∃ document installed later earlier,
      service.Found start n w keyId key document installed later earlier := by
  rcases h with h | ⟨document, installed, later, earlier, hforce, hfresh⟩
  · rw [h] at hkey
    cases hkey
  · exact ⟨document, installed, later, earlier, hforce, hkey, hfresh⟩

/-- The requests of one call in their order: of the metadata, the keys and once more
the keys, up to some point; or of the keys alone. -/
def BoundedRequests (service : AuthService) (events : List AuthEvent) : Prop :=
  (requested events).reverse <+:
      [service.metadataUrl, service.expectedJwksUrl, service.expectedJwksUrl] ∨
    requested events = [service.expectedJwksUrl]

/-- The rotation refresh and the second look-up. -/
theorem rotation_cases {start : ℚ} {n : ℕ} {keyId : String} {r : Except AuthFailure Json}
    (hsound : service.CacheSound w) (hn : n ≤ w.log.length)
    (h : (service.rotatedKey outside keyId).run w = (r, w')) :
    ∃ events, service.Extends w w' events ∧ requested events = [service.expectedJwksUrl] ∧
      ∀ key, r = .ok key → service.Current start n w' ∧ w'.keys.lookup keyId = some key := by
  rcases Process.run_bind_cases h with ⟨_, w₁, hrefresh, h⟩ | ⟨e, hrefresh, rfl⟩
  · rcases refreshKeys_cases hrefresh with ⟨e, _, hr, -⟩ | ⟨document, installed, events, -, hdone⟩
    · cases hr
    · have hcurrent : service.Current start n w₁ := hdone.current hn
      have hrun : (Process.ofExcept ((w₁.keys.lookup keyId).elim
          (.error (.authentication "bearer token signing key was not found")) .ok) :
          AuthCall Json).run w₁ = (r, w') := h
      rw [Process.run_ofExcept] at hrun
      obtain ⟨hkey, rfl⟩ := Prod.mk.inj hrun
      refine ⟨.read installed :: .fetched service.expectedJwksUrl (.value document) :: events,
        ⟨hdone.log, hcurrent.sound⟩, ?_, fun key hr => ⟨hcurrent, ?_⟩⟩
      · rw [requested_read, requested_fetched, hdone.requests]
        rfl
      · rw [hr] at hkey
        cases hlookup : w₁.keys.lookup keyId with
        | none =>
          rw [hlookup] at hkey
          cases hkey
        | some found =>
          rw [hlookup] at hkey
          rw [Except.ok.inj hkey]
  · rcases refreshKeys_cases hrefresh with ⟨e', events, -, hfailed⟩ | ⟨_, _, _, hr, -⟩
    · refine ⟨events, ⟨by rw [hfailed.unchanged], hfailed.sound hsound⟩, ?_,
        fun _ hr => nomatch hr⟩
      rcases hfailed.requests with hrequests | ⟨hr, -⟩
      · exact hrequests
      · cases hr
    · cases hr

theorem signingKey_spec {keyId : String} {r : Except AuthFailure Json}
    (hsound : service.CacheSound w) (h : (service.signingKey outside keyId).run w = (r, w')) :
    ∃ events, service.Extends w w' events ∧ service.BoundedRequests events ∧
      ∀ key, r = .ok key → ∃ document installed later earlier,
        service.Found (outside.now w.log.length) w.log.length w' keyId key document installed
          later earlier := by
  have hread : service.CacheSound (w.readNow outside) := hsound.readNow
  have hn : w.log.length ≤ (w.readNow outside).log.length := Nat.le_succ _
  have hrequested : ∀ events, requested (events ++ [.read (outside.now w.log.length)]) =
      requested events := by
    intro events
    rw [requested_append]
    exact List.append_nil _
  rcases Process.run_bind_cases h with ⟨_, w₁, hfirst, hrest⟩ | ⟨e, hfirst, rfl⟩
  · obtain ⟨events, hext, hcases⟩ := expired_cases (w := w.readNow outside) hread hn hfirst
    have hlog : w₁.log = (events ++ [.read (outside.now w.log.length)]) ++ w.log := by
      rw [hext.log, List.append_assoc]
      rfl
    rcases hcases with ⟨-, hcurrent, hrequests⟩ | ⟨⟨e, hr⟩, -⟩
    · have hlooked : ((w₁.keys.lookup keyId).elim (service.rotatedKey outside keyId) pure).run w₁ =
          (r, w') := hrest
      cases hlookup : w₁.keys.lookup keyId with
      | some key =>
        rw [hlookup] at hlooked
        obtain ⟨rfl, rfl⟩ := Prod.mk.inj hlooked
        refine ⟨_, ⟨hlog, hext.sound⟩, .inl ?_, fun key' hr => ?_⟩
        · rw [hrequested]
          rcases hrequests with hrequests | hrequests <;> rw [hrequests]
          · exact List.nil_prefix
          · exact ⟨[service.expectedJwksUrl], rfl⟩
        · rw [Except.ok.inj hr] at hlookup
          exact hcurrent.found hlookup
      | none =>
        rw [hlookup] at hlooked
        have hn₁ : w.log.length ≤ w₁.log.length := by
          rw [hlog, List.length_append]
          omega
        obtain ⟨more, hmore, hrequests', hfound⟩ := rotation_cases hext.sound hn₁ hlooked
        refine ⟨more ++ (events ++ [.read (outside.now w.log.length)]),
          ⟨by rw [hmore.log, hlog]; exact (List.append_assoc ..).symm, hmore.sound⟩, ?_, fun key hr => ?_⟩
        · unfold BoundedRequests
          rw [requested_append, hrequested, hrequests']
          rcases hrequests with hrequests | hrequests <;> rw [hrequests]
          · exact .inr rfl
          · exact .inl (List.prefix_refl _)
        · obtain ⟨hcurrent', hkey⟩ := hfound key hr
          exact hcurrent'.found hkey
    · cases hr
  · obtain ⟨events, hext, hcases⟩ := expired_cases (w := w.readNow outside) hread hn hfirst
    rcases hcases with ⟨hr, -⟩ | ⟨-, hrequests⟩
    · cases hr
    · refine ⟨events ++ [.read (outside.now w.log.length)],
        ⟨by rw [hext.log, List.append_assoc]; rfl, hext.sound⟩, .inl ?_, fun _ hr => nomatch hr⟩
      rw [hrequested]
      rcases hrequests with hrequests | hrequests <;> rw [hrequests]
      · exact ⟨[service.expectedJwksUrl, service.expectedJwksUrl], rfl⟩
      · exact ⟨[service.expectedJwksUrl], rfl⟩

/-! ### Whom a call answers with -/

theorem apart_of_ne {b b' : PersonaBinding} (hb : b ∈ service.bindings)
    (hb' : b' ∈ service.bindings) (hne : b ≠ b') : b.Apart b' :=
  service.unambiguous.2.forall hb hb' hne

/-- The binding of an identity, and no other has it. -/
structure BindingOf (service : AuthService) (tenantId objectId : String)
    (binding : PersonaBinding) : Prop where
  mem : binding ∈ service.bindings
  tenant : binding.tenantId = tenantId
  object : binding.objectId = objectId
  single : ∀ b ∈ service.bindings, b.tenantId = tenantId → b.objectId = objectId → b = binding

theorem binding?_eq_some {tenantId objectId : String} {binding : PersonaBinding}
    (h : service.binding? tenantId objectId = some binding) :
    service.BindingOf tenantId objectId binding := by
  have hkey := List.find?_some h
  simp only [decide_eq_true_eq] at hkey
  refine ⟨List.mem_of_find?_eq_some h, hkey.1, hkey.2, fun b hb htenant hobject => ?_⟩
  by_contra hne
  exact (apart_of_ne hb (List.mem_of_find?_eq_some h) hne).1 (by rw [htenant, hobject, hkey.1, hkey.2])

/-- What an actor has of its token and its binding. -/
structure Authorized (service : AuthService) (token : String) (claims : Json) (now : ℚ)
    (binding : PersonaBinding) (actor : AuthenticatedActor) : Prop where
  lifetime : ValidLifetime claims now
  tenant : (claims.get "tid").text? = some service.tenantId ∧ actor.tenantId = service.tenantId
  scope : (claims.get "scp").text? = some "access_as_user" ∧
    actor.delegatedScopes = ["access_as_user"]
  object : ∃ oid, (claims.get "oid").text? = some oid ∧ uuid oid = some actor.objectId
  bound : service.BindingOf actor.tenantId actor.objectId binding
  persona : actor.personaId = binding.personaId
  source : actor.sourceId = binding.sourceId
  roles : actor.effectiveRoles.Nodup ∧
    ∀ role, role ∈ actor.effectiveRoles ↔ role ∈ binding.allowedRoles
  assertion : actor.downstreamUserAssertion = token

theorem elim_ok {ε α : Type} {x : Option α} {e : ε} {a : α}
    (h : x.elim (.error e) Except.ok = .ok a) : x = some a := by
  cases x with
  | none => cases h
  | some a' => rw [Except.ok.inj h]

theorem authorize_eq_ok {claims : Json} {token : String} {now : ℚ} {actor : AuthenticatedActor}
    (h : service.authorize claims token now = .ok actor) :
    ∃ binding, service.Authorized token claims now binding actor := by
  obtain ⟨_, hlifetime, h⟩ := bind_eq_ok.mp h
  obtain ⟨_, htenant, h⟩ := bind_eq_ok.mp h
  obtain ⟨objectId, hobject, h⟩ := bind_eq_ok.mp h
  obtain ⟨_, -, h⟩ := bind_eq_ok.mp h
  obtain ⟨binding, hbinding, h⟩ := bind_eq_ok.mp h
  obtain ⟨roles, hroles, h⟩ := bind_eq_ok.mp h
  obtain ⟨_, hexact, h⟩ := bind_eq_ok.mp h
  obtain ⟨_, hscope, h⟩ := bind_eq_ok.mp h
  obtain ⟨displayName, -, h⟩ := bind_eq_ok.mp h
  obtain ⟨upn, -, h⟩ := bind_eq_ok.mp h
  obtain rfl := Except.ok.inj h
  obtain ⟨htid, hoid⟩ := demand_eq_ok.mp htenant
  obtain ⟨oid, hoid⟩ := Option.isSome_iff_exists.mp hoid
  rw [hoid, Option.getD_some] at hobject
  obtain ⟨hsub, hsup⟩ := demand_eq_ok.mp hexact
  have hnodup : roles.Nodup := by
    have hfilter := (Option.filter_eq_some_iff.mp (elim_ok hroles)).2
    simp only [decide_eq_true_eq] at hfilter
    exact hfilter.2
  have hperm := List.perm_insertionSort (· ≤ ·) roles
  exact ⟨binding,
    { lifetime := demand_eq_ok.mp hlifetime
      tenant := ⟨htid, rfl⟩
      scope := ⟨demand_eq_ok.mp hscope, rfl⟩
      object := ⟨oid, hoid, elim_ok hobject⟩
      bound := binding?_eq_some (elim_ok hbinding)
      persona := rfl
      source := rfl
      roles := ⟨hperm.nodup_iff.mpr hnodup, fun role =>
        hperm.mem_iff.trans ⟨fun hrole => hsub hrole, fun hrole => hsup hrole⟩⟩
      assertion := rfl }⟩

/-- The evidence for an actor: the token names the key `kid` of the key set in force
after the call, is signed with it, and its claims are those of the actor. -/
structure Evidence (service : AuthService) (jwt : JwtLibrary) (Signed : String → Json → Prop)
    (outside : Surroundings) (w w' : AuthWorld) (token : String) (actor : AuthenticatedActor)
    (kid : String) (key document claims : Json) (installed now : ℚ)
    (later earlier : List AuthEvent) (binding : PersonaBinding) : Prop where
  named : ∃ header, jwt.getUnverifiedHeader token = .ok header ∧
    (header.get "alg").text? = some "RS256" ∧ (header.get "kid").text? = some kid
  inForce : service.InForce w' document installed later earlier
  found : w'.keys.lookup kid = some key
  fresh : outside.now w.log.length - installed < service.cacheTtl ∨
    w.log.length ≤ earlier.length
  signed : Signed token key
  issuer : claims.get "iss" = .text service.issuer
  audience : claims.get "aud" = .text service.audience
  required : ∀ name ∈ requiredClaims, claims.has name = true
  clock : w'.log.head? = some (.read now)
  authorized : service.Authorized token claims now binding actor

theorem Authorized.integer_lifetime {token : String} {claims : Json} {now : ℚ}
    {binding : PersonaBinding} {actor : AuthenticatedActor}
    (h : service.Authorized token claims now binding actor) {exp nbf : ℤ}
    (hexp : claims.get "exp" = .number exp) (hnbf : claims.get "nbf" = .number nbf) :
    nbf ≤ now ∧ now < exp := by
  obtain ⟨-, -, hle, hgt⟩ := h.lifetime
  rw [hexp] at hle
  rw [hnbf] at hgt
  exact ⟨not_lt.mp (of_decide_eq_false hgt), not_le.mp (of_decide_eq_false hle)⟩

theorem tokenKeyId_eq_ok {token kid : String} (h : tokenKeyId jwt token = .ok kid) :
    ∃ header, jwt.getUnverifiedHeader token = .ok header ∧
      (header.get "alg").text? = some "RS256" ∧ (header.get "kid").text? = some kid := by
  obtain ⟨_, -, h⟩ := bind_eq_ok.mp h
  obtain ⟨_, -, h⟩ := bind_eq_ok.mp h
  obtain ⟨header, hheader, h⟩ := bind_eq_ok.mp h
  obtain ⟨_, halg, h⟩ := bind_eq_ok.mp h
  obtain ⟨_, hkid, h⟩ := bind_eq_ok.mp h
  obtain rfl := Except.ok.inj h
  refine ⟨header, ?_, demand_eq_ok.mp halg, ?_⟩
  · rcases hread : jwt.getUnverifiedHeader token with e | header' <;> rw [hread] at hheader
    · cases e <;> cases hheader
    · rw [Except.ok.inj hheader]
  · have hblank := demand_eq_ok.mp hkid
    cases htext : (header.get "kid").text? with
    | none =>
      rw [htext] at hblank
      exact absurd hblank (by decide)
    | some kid => rfl

theorem verifiedClaims_eq_ok {token : String} {key claims : Json}
    (h : service.verifiedClaims jwt token key = .ok claims) :
    jwt.decode token key service.audience service.issuer = .ok claims := by
  obtain ⟨claims', hclaims, h⟩ := bind_eq_ok.mp h
  obtain ⟨_, -, h⟩ := bind_eq_ok.mp h
  obtain rfl := Except.ok.inj h
  rcases hdecode : jwt.decode token key service.audience service.issuer with e | claims'' <;>
    rw [hdecode] at hclaims
  · cases e <;> cases hclaims
  · rw [Except.ok.inj hclaims]

/-- One call. -/
theorem authenticate_spec {Signed : String → Json → Prop} (hjwt : jwt.Verifies Signed)
    {token : String} {r : Except AuthFailure AuthenticatedActor} (hsound : service.CacheSound w)
    (h : (service.authenticate jwt outside token).run w = (r, w')) :
    ∃ events, service.Extends w w' events ∧ service.BoundedRequests events ∧
      ∀ actor, r = .ok actor →
        ∃ kid key document claims installed now later earlier binding,
          service.Evidence jwt Signed outside w w' token actor kid key document claims installed now
            later earlier binding := by
  rcases Process.run_bind_cases h with ⟨kid, w₁, hkid, h₁⟩ | ⟨e, hkid, rfl⟩
  · rw [Process.run_ofExcept] at hkid
    obtain ⟨hname, rfl⟩ := Prod.mk.inj hkid
    rcases Process.run_bind_cases h₁ with ⟨key, w₂, hkey, h₂⟩ | ⟨e, hkey, rfl⟩
    · obtain ⟨events, hext, hrequests, hfound⟩ := signingKey_spec hsound hkey
      rcases Process.run_bind_cases h₂ with ⟨claims, w₃, hclaims, h₃⟩ | ⟨e, hclaims, rfl⟩
      · rw [Process.run_ofExcept] at hclaims
        obtain ⟨hdecode, rfl⟩ := Prod.mk.inj hclaims
        have hend : (Process.ofExcept (service.authorize claims token
            (outside.now w₂.log.length)) : AuthCall AuthenticatedActor).run (w₂.readNow outside) =
            (r, w') := h₃
        rw [Process.run_ofExcept] at hend
        obtain ⟨hauthorize, rfl⟩ := Prod.mk.inj hend
        refine ⟨.read (outside.now w₂.log.length) :: events,
          ⟨by show _ :: _ = _; rw [hext.log]; rfl, hext.sound.readNow⟩, hrequests,
          fun actor hr => ?_⟩
        obtain ⟨document, installed, later, earlier, hfound⟩ := hfound key rfl
        rw [hr] at hauthorize
        obtain ⟨binding, hauthorized⟩ := authorize_eq_ok hauthorize
        have hverified := verifiedClaims_eq_ok hdecode
        have hread : ∀ e ∈ [AuthEvent.read (outside.now w₂.log.length)],
            ¬service.Installs e := by
          intro e he
          obtain rfl := List.mem_singleton.mp he
          exact not_installs_read _
        exact ⟨kid, key, document, claims, installed, _, _ :: later, earlier, binding,
          { named := tokenKeyId_eq_ok hname
            inForce := hfound.inForce.later hread
            found := hfound.key
            fresh := hfound.fresh
            signed := hjwt.signed hverified
            issuer := hjwt.issuer hverified
            audience := hjwt.audience hverified
            required := hjwt.required hverified
            clock := rfl
            authorized := hauthorized }⟩
      · rw [Process.run_ofExcept] at hclaims
        obtain ⟨-, rfl⟩ := Prod.mk.inj hclaims
        exact ⟨events, hext, hrequests, fun _ hr => nomatch hr⟩
    · obtain ⟨events, hext, hrequests, -⟩ := signingKey_spec hsound hkey
      exact ⟨events, hext, hrequests, fun _ hr => nomatch hr⟩
  · rw [Process.run_ofExcept] at hkid
    obtain ⟨-, rfl⟩ := Prod.mk.inj hkid
    exact ⟨[], ⟨rfl, hsound⟩, .inl List.nil_prefix, fun _ hr => nomatch hr⟩

/-! ### Runs -/

/-- The state after the calls with `tokens`, in their order. -/
def after (service : AuthService) (jwt : JwtLibrary) (outside : Surroundings)
    (tokens : List String) : AuthWorld :=
  Pool.sequence (tokens.map (service.authenticate jwt outside)) AuthWorld.initial

/-- What the call with `token` answers after those with `tokens`. -/
def answer (service : AuthService) (jwt : JwtLibrary) (outside : Surroundings)
    (tokens : List String) (token : String) : Except AuthFailure AuthenticatedActor :=
  ((service.authenticate jwt outside token).run (service.after jwt outside tokens)).1

theorem sequence_sound {Signed : String → Json → Prop} (hjwt : jwt.Verifies Signed)
    (tokens : List String) (hw : service.CacheSound w) :
    service.CacheSound (Pool.sequence (tokens.map (service.authenticate jwt outside)) w) := by
  induction tokens generalizing w with
  | nil => exact hw
  | cons token tokens ih =>
    obtain ⟨events, hext, -, -⟩ := authenticate_spec hjwt hw (Prod.eta _).symm
    exact ih hext.sound

theorem after_sound {Signed : String → Json → Prop} (hjwt : jwt.Verifies Signed)
    (tokens : List String) : service.CacheSound (service.after jwt outside tokens) :=
  sequence_sound hjwt tokens cacheSound_initial

theorem after_append (tokens : List String) (token : String) :
    service.after jwt outside (tokens ++ [token]) =
      ((service.authenticate jwt outside token).run (service.after jwt outside tokens)).2 := by
  unfold after
  generalize AuthWorld.initial = w
  induction tokens generalizing w with
  | nil => rfl
  | cons t tokens ih => exact ih _

/-- A call of a run. -/
theorem answer_spec {Signed : String → Json → Prop} (hjwt : jwt.Verifies Signed)
    (tokens : List String) (token : String) :
    ∃ events, service.Extends (service.after jwt outside tokens)
        (service.after jwt outside (tokens ++ [token])) events ∧
      service.BoundedRequests events ∧
      ∀ actor, service.answer jwt outside tokens token = .ok actor →
        ∃ kid key document claims installed now later earlier binding,
          service.Evidence jwt Signed outside (service.after jwt outside tokens)
            (service.after jwt outside (tokens ++ [token])) token actor kid key document claims
            installed now later earlier binding := by
  rw [after_append]
  exact authenticate_spec hjwt (after_sound hjwt tokens) rfl

/-- The personas of two actors of a run, and their object ids. -/
theorem samePersona_iff {token token' : String} {claims claims' : Json} {now now' : ℚ}
    {binding binding' : PersonaBinding} {actor actor' : AuthenticatedActor}
    (h : service.Authorized token claims now binding actor)
    (h' : service.Authorized token' claims' now' binding' actor') :
    actor.objectId = actor'.objectId ↔ actor.personaId = actor'.personaId := by
  have htenant : actor.tenantId = actor'.tenantId := h.tenant.2.trans h'.tenant.2.symm
  constructor
  · intro hobject
    have hbinding : binding = binding' :=
      h'.bound.single binding h.bound.mem (h.bound.tenant.trans htenant)
        (h.bound.object.trans hobject)
    rw [h.persona, h'.persona, hbinding]
  · intro hpersona
    have hbinding : binding = binding' := by
      by_contra hne
      refine (apart_of_ne h.bound.mem h'.bound.mem hne).2.1 ?_
      rw [← h.persona, ← h'.persona, hpersona]
    rw [← h.bound.object, ← h'.bound.object, hbinding]

end AuthService

/-- Every call of a run: an actor has its evidence, with integer times around the
call, and shares its object id with exactly the actors of its persona; a failed
refresh changes neither keys nor expiry; at most three documents are fetched. -/
theorem authenticate_trustworthy (service : AuthService) (jwt : JwtLibrary)
    (Signed : String → Json → Prop) (hjwt : jwt.Verifies Signed) (outside : Surroundings)
    (tokens : List String) (token : String) :
    (∀ actor, service.answer jwt outside tokens token = .ok actor →
      (∃ kid key document claims installed now later earlier binding,
        service.Evidence jwt Signed outside (service.after jwt outside tokens)
          (service.after jwt outside (tokens ++ [token])) token actor kid key document claims
          installed now later earlier binding ∧
        ∀ exp nbf : ℤ, claims.get "exp" = .number exp → claims.get "nbf" = .number nbf →
          nbf ≤ now ∧ now < exp) ∧
      ∀ tokens' token' actor', service.answer jwt outside tokens' token' = .ok actor' →
        (actor.objectId = actor'.objectId ↔ actor.personaId = actor'.personaId)) ∧
    (∀ refreshMetadata e w w',
      (service.refreshKeys outside refreshMetadata).run w = (.error e, w') →
        w'.keys = w.keys ∧ w'.cacheExpiresAt = w.cacheExpiresAt) ∧
    ∃ events, (service.after jwt outside (tokens ++ [token])).log =
        events ++ (service.after jwt outside tokens).log ∧
      service.BoundedRequests events ∧ (requested events).length ≤ 3 := by
  refine ⟨fun actor hactor => ?_, fun refreshMetadata e w w' hrefresh => ?_, ?_⟩
  · obtain ⟨-, -, -, hevidence⟩ := AuthService.answer_spec hjwt tokens token
    obtain ⟨kid, key, document, claims, installed, now, later, earlier, binding, h⟩ :=
      hevidence actor hactor
    refine ⟨⟨kid, key, document, claims, installed, now, later, earlier, binding, h,
      fun exp nbf => h.authorized.integer_lifetime⟩, fun tokens' token' actor' hactor' => ?_⟩
    obtain ⟨-, -, -, hevidence'⟩ := AuthService.answer_spec hjwt tokens' token'
    obtain ⟨_, _, _, _, _, _, _, _, _, h'⟩ := hevidence' actor' hactor'
    exact AuthService.samePersona_iff h.authorized h'.authorized
  · rcases AuthService.refreshKeys_cases hrefresh with ⟨_, _, -, hfailed⟩ | ⟨_, _, _, hr, -⟩
    · rw [hfailed.unchanged]
      exact ⟨rfl, rfl⟩
    · cases hr
  · obtain ⟨events, hext, hrequests, -⟩ :=
      @AuthService.answer_spec service _ outside _ hjwt tokens token
    refine ⟨events, hext.log, hrequests, ?_⟩
    rcases hrequests with hprefix | hone
    · have hlength := hprefix.length_le
      rwa [List.length_reverse] at hlength
    · rw [hone]
      exact Nat.le_of_ble_eq_true rfl

/-! ### A sample -/

def sampleBinding : PersonaBinding where
  tenantId := "11111111-1111-1111-1111-111111111111"
  objectId := "22222222-2222-2222-2222-222222222222"
  personaId := "RL-PERSONA-TAYLOR"
  allowedRoles := ["finance_approver"]
  sourceId := "RL-ENTRA-TAYLOR"
  named := by decide
  roles := by decide

def sampleService : AuthService where
  tenantId := "11111111-1111-1111-1111-111111111111"
  audience := "33333333-3333-3333-3333-333333333333"
  bindings := [sampleBinding]
  cacheTtl := 300
  ttlBounds := by decide
  unambiguous := ⟨fun b hb => by rw [List.mem_singleton.mp hb]; rfl, List.pairwise_singleton _ _⟩

def sampleKey : Json :=
  .dict [("kid", .text "key-1"), ("kty", .text "RSA"), ("use", .text "sig")]

def sampleClaims : Json :=
  .dict [("iss", .text sampleService.issuer), ("aud", .text sampleService.audience),
    ("exp", .number 2000), ("nbf", .number 1000), ("tid", .text sampleService.tenantId),
    ("oid", .text "22222222-2222-2222-2222-222222222222"),
    ("roles", .list [.text "finance_approver"]), ("scp", .text "access_as_user")]

/-- The one token that is signed with the one key. -/
def SampleSigned (token : String) (key : Json) : Prop :=
  token = "header.payload.signature" ∧ (key.get "kid").text? = some "key-1"

def sampleJwt : JwtLibrary where
  getUnverifiedHeader _ := .ok (.dict [("alg", .text "RS256"), ("kid", .text "key-1")])
  decode token key audience issuer :=
    if (token = "header.payload.signature" ∧ (key.get "kid").text? = some "key-1") ∧
        issuer = sampleService.issuer ∧ audience = sampleService.audience then .ok sampleClaims
    else .error .invalidToken

theorem sampleJwt_decode {token : String} {key claims : Json} {audience issuer : String}
    (h : sampleJwt.decode token key audience issuer = .ok claims) :
    (SampleSigned token key ∧ issuer = sampleService.issuer ∧
      audience = sampleService.audience) ∧ claims = sampleClaims := by
  simp only [sampleJwt] at h
  split at h
  · rename_i hsigned
    exact ⟨hsigned, (Except.ok.inj h).symm⟩
  · cases h

theorem sampleJwt_verifies : sampleJwt.Verifies SampleSigned where
  signed h := (sampleJwt_decode h).1.1
  issuer h := by
    obtain ⟨⟨-, hissuer, -⟩, rfl⟩ := sampleJwt_decode h
    rw [hissuer]
    rfl
  audience h := by
    obtain ⟨⟨-, -, haudience⟩, rfl⟩ := sampleJwt_decode h
    rw [haudience]
    rfl
  required h := by
    obtain ⟨-, rfl⟩ := sampleJwt_decode h
    decide

/-- At 1500 seconds, with the two documents of the tenant. -/
def sampleSurroundings : Surroundings where
  now _ := 1500
  httpGet _ url :=
    if url = sampleService.metadataUrl then
      .value (.dict [("issuer", .text sampleService.issuer),
        ("jwks_uri", .text sampleService.expectedJwksUrl)])
    else .value (.dict [("keys", .list [sampleKey])])

def sampleActor : AuthenticatedActor where
  tenantId := sampleService.tenantId
  objectId := "22222222-2222-2222-2222-222222222222"
  personaId := "RL-PERSONA-TAYLOR"
  effectiveRoles := ["finance_approver"]
  displayName := none
  userPrincipalName := none
  sourceId := "RL-ENTRA-TAYLOR"
  delegatedScopes := ["access_as_user"]
  downstreamUserAssertion := "header.payload.signature"

theorem authenticate_trustworthy_sample :
    sampleService.answer sampleJwt sampleSurroundings [] "header.payload.signature" =
        .ok sampleActor ∧
      ∃ key claims now, SampleSigned "header.payload.signature" key ∧
        sampleService.Authorized "header.payload.signature" claims now sampleBinding
          sampleActor := by
  have hanswer : sampleService.answer sampleJwt sampleSurroundings [] "header.payload.signature" =
      .ok sampleActor := by decide +kernel
  obtain ⟨hactor, -⟩ := authenticate_trustworthy sampleService sampleJwt SampleSigned
    sampleJwt_verifies sampleSurroundings [] "header.payload.signature"
  obtain ⟨⟨_, key, _, claims, _, now, _, _, binding, h, -⟩, -⟩ := hactor sampleActor hanswer
  obtain rfl := List.mem_singleton.mp h.authorized.bound.mem
  exact ⟨hanswer, key, claims, now, h.signed, h.authorized⟩

end SupplyResponse
