/-
Bearer tokens: `AuthService` and its cache of signing keys.

* `PersonaBinding`, `AuthService` — the configuration, which only `new` builds,
  with the checks of the constructors as fields;
* `JwtLibrary`, `Surroundings` — the token library, the clock and the identity
  endpoint;
* `AuthService.authenticate` — one call, on the cache that the calls share.

An exception other than the two of this module is `uncaught`.
-/
import SupplyResponse.Domain.Common
import SupplyResponse.Text.Json
import SupplyResponse.Transact.Process

namespace SupplyResponse

open Text (Json)
open Transact

inductive AuthFailure
  | authentication (message : String)
  | authorization (message : String)
  | uncaught (exception : String)
  deriving DecidableEq, Repr

def maxTokenBytes : ℕ := 32768

def maxSigningKeys : ℕ := 16

def knownRoles : List String :=
  ["material_planner", "response_approver", "quality_approver", "finance_approver"]

/-- `str(UUID)`. -/
def Uuid.text (id : Uuid) : String :=
  let digits := (List.range 32).map fun i => Text.lowerHexDigit (id.int / 16 ^ (31 - i) % 16)
  String.ofList (digits.take 8 ++ '-' :: ((digits.drop 8).take 4 ++ '-' :: ((digits.drop 12).take 4
    ++ '-' :: ((digits.drop 16).take 4 ++ '-' :: digits.drop 20))))

/-- `_uuid`, without the label of its message. -/
def uuid (value : String) : Option String := (Uuid.parse value).map Uuid.text

/-! ### Persona bindings -/

structure PersonaBinding where
  tenantId : String
  objectId : String
  personaId : String
  allowedRoles : List String
  sourceId : String
  named : personaId ≠ "" ∧ sourceId ≠ ""
  roles : allowedRoles ≠ [] ∧ allowedRoles.Nodup ∧ allowedRoles ⊆ knownRoles

namespace PersonaBinding

def new (tenantId objectId personaId : String) (allowedRoles : List String) (sourceId : String) :
    Except String PersonaBinding :=
  match uuid tenantId, uuid objectId with
  | none, _ => .error "binding tenant ID must be a UUID"
  | _, none => .error "binding object ID must be a UUID"
  | some tenant, some object =>
    if hnamed : strip personaId ≠ "" ∧ strip sourceId ≠ "" then
      if hroles : allowedRoles ≠ [] ∧ allowedRoles.Nodup ∧ allowedRoles ⊆ knownRoles then
        .ok ⟨tenant, object, strip personaId, allowedRoles, strip sourceId, hnamed, hroles⟩
      else .error "binding roles must be unique configured app roles"
    else .error "binding persona and source IDs must be nonblank"

def alex (tenantId objectId : String) : Except String PersonaBinding :=
  new tenantId objectId "RL-PERSONA-ALEX" ["material_planner", "response_approver"]
    "RL-ENTRA-ALEX"

def taylor (tenantId objectId : String) : Except String PersonaBinding :=
  new tenantId objectId "RL-PERSONA-TAYLOR" ["finance_approver"] "RL-ENTRA-TAYLOR"

/-- No identity, persona or source in common. -/
def Apart (a b : PersonaBinding) : Prop :=
  (a.tenantId, a.objectId) ≠ (b.tenantId, b.objectId) ∧ a.personaId ≠ b.personaId ∧
    a.sourceId ≠ b.sourceId

instance (a b : PersonaBinding) : Decidable (a.Apart b) := inferInstanceAs (Decidable (_ ∧ _))

instance : Std.Symm Apart where
  symm _ _ h := ⟨h.1.symm, h.2.1.symm, h.2.2.symm⟩

end PersonaBinding

/-! ### The service -/

/-- The loop of the constructor over the bindings. -/
def admitBindings (tenantId : String) :
    List PersonaBinding → List PersonaBinding → Except String (List PersonaBinding)
  | admitted, [] => .ok admitted
  | admitted, binding :: bindings =>
    if binding.tenantId = tenantId ∧ ∀ a ∈ admitted, a.Apart binding then
      admitBindings tenantId (admitted ++ [binding]) bindings
    else .error "persona binding configuration is ambiguous"

/-- The bindings of a service: of its tenant, and pairwise apart. -/
def Unambiguous (tenantId : String) (bindings : List PersonaBinding) : Prop :=
  (∀ b ∈ bindings, b.tenantId = tenantId) ∧ bindings.Pairwise PersonaBinding.Apart

theorem admitBindings_unambiguous {tenantId : String} {admitted bindings all : List PersonaBinding}
    (hadmitted : Unambiguous tenantId admitted)
    (h : admitBindings tenantId admitted bindings = .ok all) : Unambiguous tenantId all := by
  induction bindings generalizing admitted with
  | nil =>
    obtain rfl := Except.ok.inj h
    exact hadmitted
  | cons binding bindings ih =>
    rw [admitBindings] at h
    split at h
    · rename_i hbinding
      obtain ⟨htenant, hpairs⟩ := hadmitted
      refine ih ⟨fun b hb => ?_, ?_⟩ h
      · rcases List.mem_append.mp hb with hb | hb
        · exact htenant b hb
        · obtain rfl := List.mem_singleton.mp hb
          exact hbinding.1
      · refine List.pairwise_append.mpr ⟨hpairs, List.pairwise_singleton _ _, fun a ha b hb => ?_⟩
        obtain rfl := List.mem_singleton.mp hb
        exact hbinding.2 a ha
    · cases h

theorem unambiguous_nil (tenantId : String) : Unambiguous tenantId [] :=
  ⟨fun _ h => absurd h List.not_mem_nil, List.Pairwise.nil⟩

structure AuthService where
  tenantId : String
  audience : String
  bindings : List PersonaBinding
  cacheTtl : ℤ
  ttlBounds : 30 ≤ cacheTtl ∧ cacheTtl ≤ 3600
  unambiguous : Unambiguous tenantId bindings

namespace AuthService

def new (tenantId audience : String) (bindings : List PersonaBinding) (cacheTtlSeconds : ℤ) :
    Except String AuthService :=
  match uuid tenantId, uuid audience with
  | none, _ => .error "tenant ID must be a UUID"
  | _, none => .error "audience must be a UUID"
  | some tenant, some audience =>
    if hbounds : 30 ≤ cacheTtlSeconds ∧ cacheTtlSeconds ≤ 3600 then
      if bindings = [] then .error "at least one persona binding is required"
      else
        match h : admitBindings tenant [] bindings with
        | .error message => .error message
        | .ok admitted =>
          .ok ⟨tenant, audience, admitted, cacheTtlSeconds, hbounds,
            admitBindings_unambiguous (unambiguous_nil tenant) h⟩
    else .error "cache TTL must be between 30 and 3600 seconds"

def issuer (service : AuthService) : String :=
  "https://login.microsoftonline.com/" ++ service.tenantId ++ "/v2.0"

def metadataUrl (service : AuthService) : String :=
  service.issuer ++ "/.well-known/openid-configuration"

def expectedJwksUrl (service : AuthService) : String :=
  "https://login.microsoftonline.com/" ++ service.tenantId ++ "/discovery/v2.0/keys"

/-- `self._bindings.get((tenant_id, object_id))`. -/
def binding? (service : AuthService) (tenantId objectId : String) : Option PersonaBinding :=
  service.bindings.find? fun b => b.tenantId = tenantId ∧ b.objectId = objectId

end AuthService

/-! ### The outside -/

/-- What the token library raises: `InvalidTokenError`, another `ValueError` or
`TypeError`, or anything else. -/
inductive JwtError
  | invalidToken
  | valueOrType
  | other
  deriving DecidableEq, Repr

/-- `jwt.get_unverified_header`, and `jwt.decode` with the key that `PyJWK` makes of
a JWK, for RS256 and the options of `authenticate`. -/
structure JwtLibrary where
  getUnverifiedHeader : String → Except JwtError Json
  decode (token : String) (key : Json) (audience issuer : String) : Except JwtError Json

/-- The claims of `options["require"]`. -/
def requiredClaims : List String := ["iss", "aud", "exp", "nbf", "tid", "oid", "roles", "scp"]

/-- What the library is relied on for: claims are those of a token that is signed
with the key, has the issuer and the one audience, and none of the required is missing. -/
structure JwtLibrary.Verifies (jwt : JwtLibrary) (Signed : String → Json → Prop) : Prop where
  signed {token key audience issuer claims} :
    jwt.decode token key audience issuer = .ok claims → Signed token key
  issuer {token key audience issuer claims} :
    jwt.decode token key audience issuer = .ok claims → claims.get "iss" = .text issuer
  audience {token key audience issuer claims} :
    jwt.decode token key audience issuer = .ok claims → claims.get "aud" = .text audience
  required {token key audience issuer claims} :
    jwt.decode token key audience issuer = .ok claims → ∀ name ∈ requiredClaims, claims.has name

inductive FetchAnswer
  | value (document : Json)
  | authenticationError (message : String)
  | exception
  | baseException

inductive AuthEvent
  | read (now : ℚ)
  | fetched (url : String) (answer : FetchAnswer)

/-- The clock and the endpoint.  What they answer may depend on the number of
readings and requests so far. -/
structure Surroundings where
  now : ℕ → ℚ
  httpGet : ℕ → String → FetchAnswer

/-- The attributes that calls change, and what they saw of the outside, latest first. -/
structure AuthWorld where
  keys : List (String × Json)
  cacheExpiresAt : ℚ
  log : List AuthEvent

/-- After the constructor. -/
def AuthWorld.initial : AuthWorld := ⟨[], 0, []⟩

abbrev AuthCall := Process AuthWorld AuthFailure

namespace AuthCall

def now (outside : Surroundings) : AuthCall ℚ :=
  .act (fun w =>
    (outside.now w.log.length, { w with log := .read (outside.now w.log.length) :: w.log })) .done

def cacheExpiresAt : AuthCall ℚ := .act (fun w => (w.cacheExpiresAt, w)) .done

/-- `self._keys.get(key_id)`. -/
def key? (keyId : String) : AuthCall (Option Json) :=
  .act (fun w => (w.keys.lookup keyId, w)) .done

def setKeys (keys : List (String × Json)) : AuthCall Unit :=
  .act (fun w => ((), { w with keys := keys })) .done

def setCacheExpiresAt (time : ℚ) : AuthCall Unit :=
  .act (fun w => ((), { w with cacheExpiresAt := time })) .done

def httpGet (outside : Surroundings) (url : String) : AuthCall FetchAnswer :=
  .act (fun w => (outside.httpGet w.log.length url,
    { w with log := .fetched url (outside.httpGet w.log.length url) :: w.log })) .done

end AuthCall

/-! ### Signing keys -/

/-- Type, use and algorithm of a JWK. -/
def IsRsaKey (key : Json) : Prop :=
  (key.get "kty").text? = some "RSA" ∧
    ((key.get "use").isNull = true ∨ (key.get "use").text? = some "sig") ∧
    ((key.get "alg").isNull = true ∨ (key.get "alg").text? = some "RS256")

instance (key : Json) : Decidable (IsRsaKey key) := inferInstanceAs (Decidable (_ ∧ _ ∧ _))

/-- `key_id in parsed` raises for a value that has no hash. -/
def malformedKeyId (keyId : Json) : AuthFailure :=
  if keyId.hashable then .authentication "identity signing key is malformed"
  else .uncaught "TypeError"

/-- The loop of `_refresh_keys` over the keys of the document. -/
def parseKeys : List (String × Json) → List Json → Except AuthFailure (List (String × Json))
  | parsed, [] => .ok parsed
  | parsed, key :: keys =>
    if key.isDict then
      match (key.get "kid").text? with
      | none => .error (malformedKeyId (key.get "kid"))
      | some keyId =>
        if keyId ∈ parsed.map Prod.fst then
          .error (.authentication "duplicate identity signing key")
        else if keyId ≠ "" ∧ IsRsaKey key then parseKeys (parsed ++ [(keyId, key)]) keys
        else .error (.authentication "identity signing key is malformed")
    else .error (.authentication "identity signing key is malformed")

def parseKeySet (document : Json) : Except AuthFailure (List (String × Json)) :=
  match (document.get "keys").list? with
  | none => .error (.authentication "identity signing key set has invalid size")
  | some rawKeys =>
    if 1 ≤ rawKeys.length ∧ rawKeys.length ≤ maxSigningKeys then parseKeys [] rawKeys
    else .error (.authentication "identity signing key set has invalid size")

namespace AuthService

variable (service : AuthService) (jwt : JwtLibrary) (outside : Surroundings)

/-- What `_fetch` makes of an answer. -/
def received : FetchAnswer → Except AuthFailure Json
  | .value document =>
    if document.isDict then .ok document
    else .error (.authentication "identity metadata response is malformed")
  | .authenticationError message => .error (.authentication message)
  | .exception => .error (.authentication "identity metadata fetch failed")
  | .baseException => .error (.uncaught "BaseException")

/-- `_fetch`. -/
def fetch (url : String) : AuthCall Json := do
  let answer ← AuthCall.httpGet outside url
  Process.ofExcept (received answer)

/-- The first half of `_refresh_keys`. -/
def checkMetadata : AuthCall Unit := do
  let metadata ← fetch outside service.metadataUrl
  Process.check ((metadata.get "issuer").text? = some service.issuer ∧
      (metadata.get "jwks_uri").text? = some service.expectedJwksUrl)
    (.authentication "identity metadata issuer is invalid")

/-- `_refresh_keys`. -/
def refreshKeys (refreshMetadata : Bool) : AuthCall Unit := do
  (if refreshMetadata then service.checkMetadata outside else pure () : AuthCall Unit)
  let document ← fetch outside service.expectedJwksUrl
  let keys ← Process.ofExcept (parseKeySet document)
  AuthCall.setKeys keys
  let now ← AuthCall.now outside
  AuthCall.setCacheExpiresAt (now + service.cacheTtl)

/-- A refresh if the cache has expired. -/
def refreshExpired : AuthCall Unit := do
  let now ← AuthCall.now outside
  let expiresAt ← AuthCall.cacheExpiresAt
  if expiresAt ≤ now then service.refreshKeys outside true else pure ()

/-- At most one further refresh, for a rotation of the keys. -/
def rotatedKey (keyId : String) : AuthCall Json := do
  service.refreshKeys outside false
  let key ← AuthCall.key? keyId
  Process.ofExcept (key.elim
    (.error (.authentication "bearer token signing key was not found")) .ok)

/-- `_signing_key`. -/
def signingKey (keyId : String) : AuthCall Json := do
  service.refreshExpired outside
  let key ← AuthCall.key? keyId
  key.elim (service.rotatedKey outside keyId) pure

end AuthService

/-! ### Tokens -/

structure AuthenticatedActor where
  tenantId : String
  objectId : String
  personaId : String
  effectiveRoles : List String
  displayName : Option String
  userPrincipalName : Option String
  sourceId : String
  delegatedScopes : List String
  downstreamUserAssertion : String
  deriving DecidableEq, Repr

/-- Go on if `c` holds, else raise. -/
def demand (c : Prop) [Decidable c] (e : AuthFailure) : Except AuthFailure Unit :=
  if c then .ok () else .error e

theorem demand_eq_ok {c : Prop} [Decidable c] {e : AuthFailure} {u : Unit} :
    demand c e = .ok u ↔ c := by
  unfold demand
  split
  · simp [*]
  · simp [*]

/-- Both times are numbers, and the token is neither expired nor early. -/
def ValidLifetime (claims : Json) (now : ℚ) : Prop :=
  (claims.get "exp").isNumeric = true ∧ (claims.get "nbf").isNumeric = true ∧
    (claims.get "exp").leNumber now = false ∧ (claims.get "nbf").gtNumber now = false

instance (claims : Json) (now : ℚ) : Decidable (ValidLifetime claims now) :=
  inferInstanceAs (Decidable (_ ∧ _ ∧ _ ∧ _))

/-- `_optional_string`. -/
def optionalString (claims : Json) (name : String) : Except AuthFailure (Option String) :=
  match claims.get name with
  | .null => .ok none
  | .text value =>
    if Nonblank value ∧ value.length ≤ 512 then .ok (some value)
    else .error (.authentication ("bearer token " ++ name ++ " claim is malformed"))
  | _ => .error (.authentication ("bearer token " ++ name ++ " claim is malformed"))

/-- The texts of a list of texts. -/
def texts? (values : List Json) : Option (List String) := values.mapM Json.text?

/-- The roles of a token, if they are distinct texts. -/
def tokenRoles? (claims : Json) : Option (List String) :=
  ((claims.get "roles").list?.bind texts?).filter fun roles => roles ≠ [] ∧ roles.Nodup

namespace AuthService

variable (service : AuthService) (jwt : JwtLibrary) (outside : Surroundings)

/-- The check of the claim `idp`; membership in a set raises for a value that has no
hash. -/
def checkIdentityProvider (provider : Json) : Except AuthFailure Unit :=
  if provider.hashable = false then .error (.uncaught "TypeError")
  else demand (provider.isNull = true ∨ provider.text? = some service.issuer ∨
      provider.text? = some ("https://sts.windows.net/" ++ service.tenantId ++ "/"))
    (.authentication "guest or cross-tenant identities are not allowed")

/-- `_authorize`, at a reading of the clock. -/
def authorize (claims : Json) (bearerAssertion : String) (now : ℚ) :
    Except AuthFailure AuthenticatedActor := do
  demand (ValidLifetime claims now) (.authentication "bearer token lifetime is invalid")
  demand ((claims.get "tid").text? = some service.tenantId ∧
      (claims.get "oid").text?.isSome = true)
    (.authentication "bearer token tenant or object ID is invalid")
  let objectId ← (uuid ((claims.get "oid").text?.getD "")).elim
    (.error (.authentication "bearer token object ID is invalid")) .ok
  service.checkIdentityProvider (claims.get "idp")
  let binding ← (service.binding? service.tenantId objectId).elim
    (.error (.authorization "no exact persona binding for token tenant/object ID")) .ok
  let roles ← (tokenRoles? claims).elim
    (.error (.authorization "token roles are missing or ambiguous")) .ok
  demand (roles ⊆ binding.allowedRoles ∧ binding.allowedRoles ⊆ roles)
    (.authorization "token roles do not exactly match persona binding")
  demand ((claims.get "scp").text? = some "access_as_user")
    (.authorization "token scope must be exactly access_as_user")
  let displayName ← optionalString claims "name"
  let upn ← optionalString claims "preferred_username"
  pure
    { tenantId := service.tenantId
      objectId := objectId
      personaId := binding.personaId
      effectiveRoles := roles.insertionSort (· ≤ ·)
      displayName := displayName
      userPrincipalName := upn
      sourceId := binding.sourceId
      delegatedScopes := ["access_as_user"]
      downstreamUserAssertion := bearerAssertion }

/-- The `except` clause around `get_unverified_header`. -/
def readHeader : Except JwtError Json → Except AuthFailure Json
  | .ok header => .ok header
  | .error .invalidToken => .error (.authentication "bearer token is malformed")
  | .error _ => .error (.uncaught "Exception")

/-- The `except` clause around `decode`. -/
def readClaims : Except JwtError Json → Except AuthFailure Json
  | .ok claims => .ok claims
  | .error .other => .error (.uncaught "Exception")
  | .error _ => .error (.authentication "bearer token validation failed")

/-- The checks of `authenticate` before the key is looked up; answers the key id. -/
def tokenKeyId (token : String) : Except AuthFailure String := do
  demand (token.utf8ByteSize ≤ maxTokenBytes) (.authentication "bearer token is too large")
  demand (token.toList.count '.' = 2) (.authentication "bearer token is malformed")
  let header ← readHeader (jwt.getUnverifiedHeader token)
  demand ((header.get "alg").text? = some "RS256")
    (.authentication "bearer token uses an unsupported algorithm")
  let keyId := (header.get "kid").text?.getD ""
  demand (Nonblank keyId) (.authentication "bearer token has no key identifier")
  pure keyId

/-- `jwt.decode`, with the audience checked once more. -/
def verifiedClaims (token : String) (key : Json) : Except AuthFailure Json := do
  let claims ← readClaims (jwt.decode token key service.audience service.issuer)
  demand ((claims.get "aud").text? = some service.audience)
    (.authentication "bearer token audience is invalid")
  pure claims

def authenticate (token : String) : AuthCall AuthenticatedActor := do
  let keyId ← Process.ofExcept (tokenKeyId jwt token)
  let key ← service.signingKey outside keyId
  let claims ← Process.ofExcept (service.verifiedClaims jwt token key)
  let now ← AuthCall.now outside
  Process.ofExcept (service.authorize claims token now)

end AuthService

end SupplyResponse
