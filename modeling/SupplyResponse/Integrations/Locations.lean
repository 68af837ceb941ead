/-
Locations of single messages (`integrations/workiq/locations.py`).

* `MessageLocation` — a mail or a Teams post, its `fetchPath`, `within` and `sameMessage`;
* `parseLocation` — the paths and links that locate one message;
* `identityLocation` — an identity put into a path (`structured_discovery.py`);
* `parseLocation_path` — how a path of quoted segments is read;
* `location_round_trip` — a location is read back from its fetch path.
-/
import Mathlib.Data.List.ReduceOption
import SupplyResponse.Domain.Common
import SupplyResponse.Text.Url

namespace SupplyResponse

open Text

/-! ### Locations -/

inductive SourceKind
  | supplier
  | quality
  deriving DecidableEq, Repr

/-- The fields of `SourceBinding` that a location is compared with. -/
structure SourceBinding where
  tenantId : String
  alexObjectId : String
  teamId : String
  channelId : String

structure MessageLocation where
  sourceKind : SourceKind
  messageId : String
  mailbox : Option String := none
  teamId : Option String := none
  channelId : Option String := none
  tenantId : Option String := none
  deriving DecidableEq

namespace MessageLocation

/-- The segments of the fetch path. -/
def parts (location : MessageLocation) : List String :=
  let parts := match location.sourceKind with
    | .supplier =>
      (if location.mailbox = some "me" then [some "me"] else [some "users", location.mailbox]) ++
        [some "messages", some location.messageId]
    | .quality =>
      [some "teams", location.teamId, some "channels", location.channelId, some "messages",
        some location.messageId]
  parts.reduceOption

/-- `fetch_path`. -/
def fetchPath (location : MessageLocation) : String :=
  "/" ++ "/".intercalate (location.parts.map quote)

/-- `within`. -/
def within (location : MessageLocation) (binding : SourceBinding) : Bool :=
  if location.tenantId.any (· ≠ binding.tenantId) then false
  else match location.sourceKind with
    | .supplier => location.mailbox = some "me" ∨ location.mailbox = some binding.alexObjectId
    | .quality =>
      location.teamId = some binding.teamId ∧ location.channelId = some binding.channelId

/-- `same_message`. -/
def sameMessage (location other : MessageLocation) (binding : SourceBinding) : Bool :=
  location.within binding && other.within binding &&
    location.sourceKind == other.sourceKind && location.messageId == other.messageId

end MessageLocation

/-! ### Identities -/

/-- `[A-Za-z0-9_+@=:.!~-]`. -/
def isIdentityChar (c : Char) : Bool :=
  isAsciiLetter c || isAsciiDigit c || c ∈ ['_', '+', '@', '=', ':', '.', '!', '~', '-']

/-- What `_identity` accepts. -/
def IsIdentity (value : String) : Prop :=
  (1 ≤ value.length ∧ value.length ≤ 2048 ∧ value.toList.all isIdentityChar = true) ∧
    value ∉ [".", ".."]

instance (value : String) : Decidable (IsIdentity value) :=
  inferInstanceAs (Decidable (_ ∧ _))

/-- `_identity`. -/
def identity (value : String) : Option String := if IsIdentity value then some value else none

/-- `[A-Za-z0-9+/]{1,2048}={0,2}`. -/
def isOwaIdentity (value : List Char) : Bool :=
  let body := value.takeWhile fun c => c != '='
  let padding := value.dropWhile fun c => c != '='
  decide (1 ≤ body.length ∧ body.length ≤ 2048 ∧ padding.length ≤ 2) &&
    body.all (fun c => isAsciiLetter c || isAsciiDigit c || c ∈ ['+', '/']) &&
    padding.all (· == '=')

/-- `_owa_message_id`. -/
def owaMessageId (value : String) : Option String :=
  if '/' ∈ value.toList ∨ '+' ∈ value.toList then
    if isOwaIdentity value.toList then
      identity (String.ofList (value.toList.map fun c =>
        if c = '/' then '-' else if c = '+' then '_' else c))
    else none
  else identity value

/-! ### Parsing -/

def startsHex : List Char → Bool
  | a :: b :: _ => (hexValue? a).isSome && (hexValue? b).isSome
  | _ => false

/-- A percent sign without two hexadecimal digits. -/
def hasBadEscape : List Char → Bool
  | [] => false
  | c :: rest => (c == '%' && !startsHex rest) || hasBadEscape rest

def hasDoubleSlash : List Char → Bool
  | [] => false
  | c :: rest => (c == '/' && rest.head? == some '/') || hasDoubleSlash rest

/-- The unquoted segments of a path. -/
def pathParts (path : List Char) : Option (List String) :=
  ((path.splitOn '/').tail.filter (· ≠ [])).mapM fun p => (unquote p).bind identity

/-- `[0-9a-fA-F]{8}(?:-[0-9a-fA-F]{4}){3}-[0-9a-fA-F]{12}`. -/
def isCitationId (value : String) : Bool :=
  let groups := value.toList.splitOn '-'
  groups.map List.length == [8, 4, 4, 4, 12] &&
    groups.all fun group => group.all fun c => (hexValue? c).isSome

/-- A location by its path. -/
def pathLocation : List String → Option MessageLocation
  | ["me", "messages", message] =>
    some { sourceKind := .supplier, messageId := message, mailbox := some "me" }
  | ["users", mailbox, "messages", message] =>
    some { sourceKind := .supplier, messageId := message, mailbox := some mailbox }
  | ["teams", team, "channels", channel, "messages", message] =>
    some { sourceKind := .quality, messageId := message, teamId := some team,
           channelId := some channel }
  | _ => none

/-- A mail by the item that a link names. -/
def owaLocation (query : List (String × String)) : Option MessageLocation := do
  guard ((query.lookup "EntityRepresentationId").all isCitationId = true)
  let message ← (query.lookup "ItemID").bind owaMessageId
  pure { sourceKind := .supplier, messageId := message, mailbox := some "me" }

/-- A link to Outlook. -/
def outlookLocation (parts : List String) (query : List (String × String)) :
    Option MessageLocation :=
  match parts with
  | ["mail", "deeplink", "read", message] =>
    if query = [] then
      some { sourceKind := .supplier, messageId := message, mailbox := some "me" }
    else none
  | ["owa"] =>
    if (∀ field ∈ query, field.1 ∈ ["ItemID", "exvsurl", "viewmodel", "EntityRepresentationId"]) ∧
        query.lookup "viewmodel" = some "ReadMessageItem" ∧
        (query.lookup "exvsurl").getD "1" = "1" then owaLocation query
    else none
  | _ => none

/-- A link to Teams. -/
def teamsLocation (parts : List String) (query : List (String × String)) :
    Option MessageLocation :=
  match parts with
  | ["l", "message", channel, message] => do
    guard (∀ field ∈ query, field.1 ∈ ["groupId", "tenantId", "parentMessageId", "createdTime"])
    let team ← (query.lookup "groupId").bind identity
    let tenant ← (query.lookup "tenantId").bind identity
    guard ((query.lookup "parentMessageId").getD message = message)
    guard ((query.lookup "createdTime").all (fun time =>
      decide (1 ≤ time.length ∧ time.length ≤ 20) && time.toList.all isAsciiDigit) = true)
    pure { sourceKind := .quality, messageId := message, teamId := some team,
           channelId := some channel, tenantId := some tenant }
  | _ => none

section

variable (unicode : Unicode) (isIpv6 : String → Bool)

/-- A location by its link. -/
def linkLocation (parsed : SplitUrl) (parts : List String) (query : List (String × String)) :
    Option MessageLocation :=
  if parsed.scheme ≠ "https".toList then none
  else if parsed.hostText unicode ∈ ["outlook.office.com", "outlook.office365.com"] then
    outlookLocation parts query
  else if parsed.hostText unicode = "teams.microsoft.com" then teamsLocation parts query
  else none

/-- The part of `parse_location` behind `urlsplit`. -/
def splitLocation (value : List Char) (parsed : SplitUrl) : Option MessageLocation := do
  let port ← parsed.portOf
  guard (parsed.fragment = [] ∧ parsed.hasUserinfo = false ∧ port ∈ [none, some 443])
  guard (hasBadEscape value = false)
  let parts ← pathParts parsed.path
  guard (hasDoubleSlash parsed.path = false ∧
    (parsed.path.getLast? = some '/' → parsed.path = "/owa/".toList))
  let query ← parseQslReplace parsed.query
  guard (query.map Prod.fst).Nodup
  if parsed.scheme = [] ∧ parsed.netloc = [] ∧ query = [] ∧ parsed.path.head? = some '/' then
    pathLocation parts
  else linkLocation unicode parsed parts query

/-- `parse_location`, of a text. -/
def parseLocation (value : String) : Option MessageLocation :=
  if 8192 < value.length ∨ value.toList.any (fun c => isSpace c || decide (c.toNat < 32)) then none
  else (urlsplitText unicode isIpv6 value.toList).bind
    (splitLocation unicode value.toList)

/-- `_identity` of the structured discovery: a text is quoted and put into a path. -/
def identityLocation (path : String → String) (sourceKind : SourceKind) (value : String) :
    Option MessageLocation :=
  (parseLocation unicode isIpv6 (path (quote value))).filter fun location =>
    location.sourceKind = sourceKind

end

/-- `/me/messages/{identity}`. -/
def mailPath (identity : String) : String := "/me/messages/" ++ identity

/-- `/teams/{team}/channels/{channel}/messages/{identity}`. -/
def postPath (team channel identity : String) : String :=
  "/teams/" ++ quote team ++ "/channels/" ++ quote channel ++ "/messages/" ++ identity

/-! ### Quoted paths -/

/-- The path of quoted segments. -/
def quotedPath (parts : List String) : List Char :=
  parts.flatMap fun part => '/' :: (quote part).toList

theorem intercalate_slash (first : List Char) (rest : List (List Char)) :
    ['/'].intercalate (first :: rest) = first ++ rest.flatMap fun part => '/' :: part := by
  induction rest generalizing first with
  | nil => simp [List.intercalate]
  | cons second rest ih =>
    have hstep : ['/'].intercalate (first :: second :: rest) =
        first ++ '/' :: ['/'].intercalate (second :: rest) := by
      simp [List.intercalate]
    rw [hstep, ih second, List.flatMap_cons]
    simp

theorem quotedPath_eq (parts : List String) :
    quotedPath parts = ['/'].intercalate ([] :: parts.map fun part => (quote part).toList) := by
  rw [intercalate_slash, List.nil_append, List.flatMap_map]
  rfl

theorem toList_joined {parts : List String} (h : parts ≠ []) :
    ("/" ++ "/".intercalate (parts.map quote)).toList = quotedPath parts := by
  cases parts with
  | nil => exact absurd rfl h
  | cons first rest =>
    rw [String.toList_append, String.toList_intercalate, List.map_map, List.map_cons,
      show "/".toList = ['/'] from rfl, intercalate_slash, List.flatMap_map]
    rfl

theorem fetchPath_toList (location : MessageLocation) :
    location.fetchPath.toList = quotedPath location.parts := by
  refine toList_joined ?_
  unfold MessageLocation.parts
  have hmessage : ∀ before : List (Option String),
      (before ++ [some "messages", some location.messageId]).reduceOption ≠ [] := by
    intro before
    rw [List.reduceOption_append]
    exact List.append_ne_nil_of_right_ne_nil _ (by simp [List.reduceOption])
  cases location.sourceKind
  · exact hmessage _
  · exact hmessage [some "teams", location.teamId, some "channels", location.channelId]

/-- What stands in a quoted segment. -/
theorem plain_of_mem_quote {part : String} {c : Char} (h : c ∈ (quote part).toList) :
    c ∉ ['/', ':', '?', '#'] ∧ isSpace c = false ∧ 0x20 < c.toNat := by
  have hquoted := isQuoted_of_mem_quote h
  have hbound : c.toNat < 128 := by
    have hle : ∀ {d : Char}, c ≤ d → c.toNat ≤ d.toNat := fun h => UInt32.le_iff_toNat_le.mp h
    unfold isQuoted isUnreserved at hquoted
    simp only [Bool.or_eq_true, decide_eq_true_eq, beq_iff_eq, List.mem_cons, List.not_mem_nil,
      or_false] at hquoted
    rcases hquoted with (⟨-, h⟩ | ⟨-, h⟩ | ⟨-, h⟩ | rfl | rfl | rfl | rfl) | rfl
    · exact (hle h).trans_lt (by decide)
    · exact (hle h).trans_lt (by decide)
    · exact (hle h).trans_lt (by decide)
    all_goals decide
  have hall : ∀ n < 128, isQuoted (Char.ofNat n) = true →
      Char.ofNat n ∉ ['/', ':', '?', '#'] ∧ isSpace (Char.ofNat n) = false ∧
        0x20 < (Char.ofNat n).toNat := by
    decide +kernel
  have hchar := hall c.toNat hbound
  rw [Char.ofNat_toNat] at hchar
  exact hchar hquoted

theorem quote_ne_empty {part : String} (h : part ≠ "") : (quote part).toList ≠ [] := by
  intro hempty
  have hread := unquote_quote part
  rw [hempty] at hread
  exact h (Option.some.inj hread).symm

theorem quote_empty : (quote "").toList = [] := rfl

/-! ### Reading quoted paths -/

theorem hasBadEscape_quoteByte (b : UInt8) (rest : List Char) :
    hasBadEscape (quoteByte b ++ rest) = hasBadEscape rest := by
  have hb : b.toNat < 256 := b.toNat_lt
  unfold quoteByte
  by_cases h : isUnreserved (Char.ofNat b.toNat) = true
  · obtain ⟨hne, -⟩ := utf8EncodeChar_of_isUnreserved b.toNat hb h
    simp [h, hasBadEscape, hne]
  · have hdigit : ∀ n < 16, (hexValue? (hexDigit n)).isSome = true ∧ hexDigit n ≠ '%' := by
      decide +kernel
    obtain ⟨hhigh, hhigh'⟩ := hdigit (b.toNat / 16) (by omega)
    obtain ⟨hlow, hlow'⟩ := hdigit (b.toNat % 16) (by omega)
    simp [h, hasBadEscape, startsHex, hhigh, hlow, beq_eq_false_iff_ne.mpr hhigh',
      beq_eq_false_iff_ne.mpr hlow']

theorem hasBadEscape_quotedPath (parts : List String) : hasBadEscape (quotedPath parts) = false := by
  have hquote : ∀ (bytes : List UInt8) (rest : List Char),
      hasBadEscape (bytes.flatMap quoteByte ++ rest) = hasBadEscape rest := by
    intro bytes rest
    induction bytes with
    | nil => rfl
    | cons b bytes ih =>
      rw [List.flatMap_cons, List.append_assoc, hasBadEscape_quoteByte, ih]
  induction parts with
  | nil => rfl
  | cons part parts ih =>
    have hsplit : quotedPath (part :: parts) =
        '/' :: ((utf8 part).flatMap quoteByte ++ quotedPath parts) := by
      unfold quotedPath quote
      rw [List.flatMap_cons, String.toList_ofList]
      rfl
    rw [hsplit, hasBadEscape, hquote, ih]
    rfl

theorem quotedPath_cons (part : String) (parts : List String) :
    quotedPath (part :: parts) = '/' :: ((quote part).toList ++ quotedPath parts) := rfl

/-- What stands in the path of quoted segments. -/
theorem plain_of_mem_quotedPath {parts : List String} {c : Char} (h : c ∈ quotedPath parts) :
    c ∉ [':', '?', '#'] ∧ isSpace c = false ∧ 0x20 < c.toNat := by
  obtain ⟨part, -, hc⟩ := List.mem_flatMap.mp h
  rcases List.mem_cons.mp hc with rfl | hc
  · decide
  · obtain ⟨hfree, hspace, hvisible⟩ := plain_of_mem_quote hc
    exact ⟨fun hmem => hfree (List.mem_cons_of_mem _ hmem), hspace, hvisible⟩

theorem hasDoubleSlash_append {text rest : List Char} (h : '/' ∉ text) :
    hasDoubleSlash (text ++ rest) = hasDoubleSlash rest := by
  induction text with
  | nil => rfl
  | cons c text ih =>
    have hc : c ≠ '/' := fun heq => h (heq ▸ List.mem_cons_self ..)
    rw [List.cons_append, hasDoubleSlash, ih fun hmem => h (List.mem_cons_of_mem _ hmem),
      beq_eq_false_iff_ne.mpr hc, Bool.false_and, Bool.false_or]

theorem slash_notMem_quote (part : String) : '/' ∉ (quote part).toList :=
  fun hmem => (plain_of_mem_quote hmem).1 (List.mem_cons_self ..)

/-- No segment is empty: no slash follows another one. -/
theorem hasDoubleSlash_quotedPath {parts : List String} (h : ∀ part ∈ parts, part ≠ "") :
    hasDoubleSlash (quotedPath parts) = false := by
  induction parts with
  | nil => rfl
  | cons part parts ih =>
    have hrest := ih fun part hpart => h part (List.mem_cons_of_mem _ hpart)
    have hnonempty := quote_ne_empty (h part (List.mem_cons_self ..))
    have hhead : ((quote part).toList ++ quotedPath parts).head? ≠ some '/' := by
      intro hslash
      obtain ⟨c, text, htext⟩ := List.exists_cons_of_ne_nil hnonempty
      rw [htext, List.cons_append, List.head?_cons] at hslash
      obtain rfl := Option.some.inj hslash
      exact slash_notMem_quote part (htext ▸ List.mem_cons_self ..)
    rw [quotedPath_cons, hasDoubleSlash, hasDoubleSlash_append (slash_notMem_quote part), hrest,
      beq_eq_false_iff_ne.mpr hhead]
    rfl

/-- The last segment is not empty: no slash is the last character. -/
theorem getLast?_quotedPath {parts : List String} (h : ∀ part ∈ parts, part ≠ "") :
    (quotedPath parts).getLast? ≠ some '/' := by
  rcases List.eq_nil_or_concat parts with rfl | ⟨before, last, rfl⟩
  · nofun
  · rw [List.concat_eq_append] at h ⊢
    have hnonempty := quote_ne_empty (h last (by simp))
    intro hslash
    have hsplit : quotedPath (before ++ [last]) =
        (quotedPath before ++ ['/']) ++ (quote last).toList := by
      simp [quotedPath]
    rw [hsplit, List.getLast?_append_of_ne_nil _ hnonempty] at hslash
    exact slash_notMem_quote last (List.mem_of_getLast? hslash)

theorem splitOn_quotedPath (parts : List String) :
    (quotedPath parts).splitOn '/' = [] :: parts.map fun part => (quote part).toList := by
  rw [quotedPath_eq]
  refine List.splitOn_intercalate '/' (fun text htext => ?_) (List.cons_ne_nil _ _)
  rcases List.mem_cons.mp htext with rfl | htext
  · exact List.not_mem_nil
  · obtain ⟨part, -, rfl⟩ := List.mem_map.mp htext
    exact slash_notMem_quote part

theorem pathParts_quotedPath {parts : List String} (h : ∀ part ∈ parts, part ≠ "") :
    pathParts (quotedPath parts) = parts.mapM identity := by
  have hfilter : (parts.map fun part => (quote part).toList).filter (fun p => decide (p ≠ [])) =
      parts.map fun part => (quote part).toList := by
    refine List.filter_eq_self.mpr fun text htext => ?_
    obtain ⟨part, hpart, rfl⟩ := List.mem_map.mp htext
    exact decide_eq_true (quote_ne_empty (h part hpart))
  unfold pathParts
  rw [splitOn_quotedPath, List.tail_cons, hfilter, List.mapM_map]
  refine congrArg (fun f => List.mapM f parts) (funext fun part => ?_)
  show (unquote (quote part).toList).bind identity = identity part
  rw [unquote_quote]
  rfl

section

variable (unicode : Unicode) (isIpv6 : String → Bool)

/-- The fetch path that segments are put together to is read segment by segment. -/
theorem parseLocation_path {parts : List String} (hne : parts ≠ [])
    (h : ∀ part ∈ parts, part ≠ "") (hlength : (quotedPath parts).length ≤ 8192) :
    parseLocation unicode isIpv6 (String.ofList (quotedPath parts)) =
      (parts.mapM identity).bind pathLocation := by
  obtain ⟨first, rest, rfl⟩ := List.exists_cons_of_ne_nil hne
  have hnonempty := quote_ne_empty (h first (List.mem_cons_self ..))
  obtain ⟨c, text, htext⟩ := List.exists_cons_of_ne_nil hnonempty
  have hpath : quotedPath (first :: rest) = '/' :: c :: (text ++ quotedPath rest) := by
    rw [quotedPath_cons, htext]
    rfl
  have hc : c ≠ '/' := fun heq => slash_notMem_quote first (by rw [htext, heq]; simp)
  have hsplit : urlsplitText unicode isIpv6 (quotedPath (first :: rest)) =
      some ⟨[], [], quotedPath (first :: rest), [], []⟩ := by
    have hplain : ∀ d ∈ c :: (text ++ quotedPath rest), d ∉ [':', '?', '#'] ∧ 0x20 < d.toNat := by
      intro d hd
      obtain ⟨hfree, -, hvisible⟩ := @plain_of_mem_quotedPath (first :: rest) d
        (by rw [hpath]; exact List.mem_cons_of_mem _ hd)
      exact ⟨hfree, hvisible⟩
    rw [hpath]
    exact urlsplitText_path unicode isIpv6 hc hplain
  have hguard : ¬(8192 < (String.ofList (quotedPath (first :: rest))).length ∨
      (String.ofList (quotedPath (first :: rest))).toList.any
        (fun c => isSpace c || decide (c.toNat < 32))) := by
    rw [String.toList_ofList, String.length_ofList]
    rintro (hlong | hany)
    · omega
    · obtain ⟨d, hd, hblank⟩ := List.any_eq_true.mp hany
      obtain ⟨-, hspace, hvisible⟩ := plain_of_mem_quotedPath hd
      rw [hspace, Bool.false_or, decide_eq_true_eq] at hblank
      omega
  unfold parseLocation
  rw [if_neg hguard, String.toList_ofList, hsplit, Option.bind_some]
  unfold splitLocation
  have hport : (⟨[], [], quotedPath (first :: rest), [], []⟩ : SplitUrl).portOf = some none := rfl
  have hhead : (quotedPath (first :: rest)).head? = some '/' := rfl
  simp only [hport, hasBadEscape_quotedPath, pathParts_quotedPath h, hasDoubleSlash_quotedPath h,
    hhead]
  generalize (first :: rest).mapM identity = read
  simp [SplitUrl.hasUserinfo, parseQslReplace, getLast?_quotedPath h]

end

/-! ### What is located -/

theorem identity_eq_some {value part : String} :
    identity value = some part ↔ part = value ∧ IsIdentity value := by
  unfold identity
  split
  · rename_i hvalue
    exact ⟨fun h => ⟨(Option.some.inj h).symm, hvalue⟩, fun h => congrArg some h.1.symm⟩
  · rename_i hvalue
    exact ⟨fun h => (nomatch h), fun h => absurd h.2 hvalue⟩

/-- What is read is read from a member. -/
theorem exists_of_mapM_eq_some {α β : Type} {f : α → Option β} {texts : List α} {parts : List β}
    (h : texts.mapM f = some parts) : ∀ part ∈ parts, ∃ text ∈ texts, f text = some part := by
  induction texts generalizing parts with
  | nil =>
    rw [List.mapM_nil] at h
    obtain rfl := Option.some.inj h
    nofun
  | cons text texts ih =>
    rw [List.mapM_cons] at h
    obtain ⟨first, hfirst, h⟩ := Option.bind_eq_some_iff.mp h
    obtain ⟨rest, hrest, h⟩ := Option.bind_eq_some_iff.mp h
    obtain rfl := Option.some.inj h
    intro part hpart
    rcases List.mem_cons.mp hpart with rfl | hpart
    · exact ⟨text, List.mem_cons_self .., hfirst⟩
    · obtain ⟨text', hmem, htext⟩ := ih hrest part hpart
      exact ⟨text', List.mem_cons_of_mem _ hmem, htext⟩

theorem mapM_identity {parts : List String} (h : ∀ part ∈ parts, IsIdentity part) :
    parts.mapM identity = some parts := by
  induction parts with
  | nil => rfl
  | cons part parts ih =>
    rw [List.mapM_cons, identity_eq_some.mpr ⟨rfl, h part (List.mem_cons_self ..)⟩,
      ih fun part hpart => h part (List.mem_cons_of_mem _ hpart)]
    rfl

theorem IsIdentity.ne_empty {value : String} (h : IsIdentity value) : value ≠ "" := by
  rintro rfl
  exact absurd h.1.1 (by decide)

theorem pathParts_identity {path : List Char} {parts : List String}
    (h : pathParts path = some parts) : ∀ part ∈ parts, IsIdentity part := by
  intro part hpart
  obtain ⟨text, -, htext⟩ := exists_of_mapM_eq_some h part hpart
  obtain ⟨value, -, hvalue⟩ := Option.bind_eq_some_iff.mp htext
  obtain ⟨rfl, hidentity⟩ := identity_eq_some.mp hvalue
  exact hidentity

theorem owaMessageId_identity {value message : String} (h : owaMessageId value = some message) :
    IsIdentity message := by
  unfold owaMessageId at h
  split at h
  · split at h
    · obtain ⟨rfl, hidentity⟩ := identity_eq_some.mp h
      exact hidentity
    · cases h
  · obtain ⟨rfl, hidentity⟩ := identity_eq_some.mp h
    exact hidentity

/-- A mail in a mailbox, or a post in a channel. -/
inductive Located : MessageLocation → Prop
  | mail {mailbox message : String} (hmailbox : IsIdentity mailbox)
    (hmessage : IsIdentity message) :
      Located { sourceKind := .supplier, messageId := message, mailbox := some mailbox }
  | post {team channel message : String} (tenant : Option String) (hteam : IsIdentity team)
    (hchannel : IsIdentity channel) (hmessage : IsIdentity message) :
      Located { sourceKind := .quality, messageId := message, teamId := some team,
                channelId := some channel, tenantId := tenant }

theorem isIdentity_me : IsIdentity "me" := by decide

theorem pathLocation_located {parts : List String} {location : MessageLocation}
    (hparts : ∀ part ∈ parts, IsIdentity part) (h : pathLocation parts = some location) :
    Located location := by
  unfold pathLocation at h
  split at h
  · obtain rfl := Option.some.inj h
    exact .mail isIdentity_me (hparts _ (by simp))
  · obtain rfl := Option.some.inj h
    exact .mail (hparts _ (by simp)) (hparts _ (by simp))
  · obtain rfl := Option.some.inj h
    exact .post none (hparts _ (by simp)) (hparts _ (by simp)) (hparts _ (by simp))
  · cases h

theorem guard_bind_eq_some {α : Type} {c : Prop} [Decidable c] {f : Unit → Option α} {a : α} :
    (guard c >>= f) = some a ↔ c ∧ f () = some a := by
  by_cases hc : c
  · simp [hc, guard]
  · simp [hc, guard]

theorem outlookLocation_located {parts : List String} {query : List (String × String)}
    {location : MessageLocation} (hparts : ∀ part ∈ parts, IsIdentity part)
    (h : outlookLocation parts query = some location) : Located location := by
  unfold outlookLocation at h
  split at h
  · split at h
    · obtain rfl := Option.some.inj h
      exact .mail isIdentity_me (hparts _ (by simp))
    · cases h
  · split at h
    · unfold owaLocation at h
      obtain ⟨-, h⟩ := guard_bind_eq_some.mp h
      obtain ⟨message, hmessage, h⟩ := Option.bind_eq_some_iff.mp h
      obtain ⟨item, -, hitem⟩ := Option.bind_eq_some_iff.mp hmessage
      obtain rfl := Option.some.inj h
      exact .mail isIdentity_me (owaMessageId_identity hitem)
    · cases h
  · cases h

theorem teamsLocation_located {parts : List String} {query : List (String × String)}
    {location : MessageLocation} (hparts : ∀ part ∈ parts, IsIdentity part)
    (h : teamsLocation parts query = some location) : Located location := by
  unfold teamsLocation at h
  split at h
  · obtain ⟨-, h⟩ := guard_bind_eq_some.mp h
    obtain ⟨team, hteam, h⟩ := Option.bind_eq_some_iff.mp h
    obtain ⟨tenant, -, h⟩ := Option.bind_eq_some_iff.mp h
    obtain ⟨-, h⟩ := guard_bind_eq_some.mp h
    obtain ⟨-, h⟩ := guard_bind_eq_some.mp h
    obtain ⟨group, -, hgroup⟩ := Option.bind_eq_some_iff.mp hteam
    obtain ⟨rfl, hidentity⟩ := identity_eq_some.mp hgroup
    obtain rfl := Option.some.inj h
    exact .post (some tenant) hidentity (hparts _ (by simp)) (hparts _ (by simp))
  · cases h

section

variable {unicode : Unicode} {isIpv6 : String → Bool}

theorem linkLocation_located {parsed : SplitUrl} {parts : List String}
    {query : List (String × String)} {location : MessageLocation}
    (hparts : ∀ part ∈ parts, IsIdentity part)
    (h : linkLocation unicode parsed parts query = some location) : Located location := by
  unfold linkLocation at h
  split at h
  · cases h
  · split at h
    · exact outlookLocation_located hparts h
    · split at h
      · exact teamsLocation_located hparts h
      · cases h

/-- Everything that is located has identities only. -/
theorem parseLocation_located {value : String} {location : MessageLocation}
    (h : parseLocation unicode isIpv6 value = some location) : Located location := by
  unfold parseLocation at h
  split at h
  · cases h
  · obtain ⟨parsed, -, h⟩ := Option.bind_eq_some_iff.mp h
    unfold splitLocation at h
    obtain ⟨port, -, h⟩ := Option.bind_eq_some_iff.mp h
    obtain ⟨-, h⟩ := guard_bind_eq_some.mp h
    obtain ⟨-, h⟩ := guard_bind_eq_some.mp h
    obtain ⟨parts, hparts, h⟩ := Option.bind_eq_some_iff.mp h
    obtain ⟨-, h⟩ := guard_bind_eq_some.mp h
    obtain ⟨query, -, h⟩ := Option.bind_eq_some_iff.mp h
    obtain ⟨-, h⟩ := guard_bind_eq_some.mp h
    have hidentity := pathParts_identity hparts
    split at h
    · exact pathLocation_located hidentity h
    · exact linkLocation_located hidentity h

end

/-! ### Fetching -/

namespace MessageLocation

/-- The location without its tenant. -/
def withoutTenant (location : MessageLocation) : MessageLocation := { location with tenantId := none }

/-- The verdict on the tenant of a link. -/
theorem within_eq (location : MessageLocation) (binding : SourceBinding) :
    location.within binding = (!location.tenantId.any (· ≠ binding.tenantId) &&
      location.withoutTenant.within binding) := by
  unfold within withoutTenant
  cases location.tenantId.any (· ≠ binding.tenantId) <;> simp

end MessageLocation

theorem Located.parts_identity {location : MessageLocation} (h : Located location) :
    ∀ part ∈ location.parts, IsIdentity part := by
  have hnames : ∀ name ∈ ["me", "users", "messages", "teams", "channels"], IsIdentity name := by
    decide
  cases h with
  | @mail mailbox message hmailbox hmessage =>
    intro part hpart
    unfold MessageLocation.parts at hpart
    by_cases hme : mailbox = "me"
    · simp [hme, List.reduceOption] at hpart
      rcases hpart with rfl | rfl | rfl
      · exact isIdentity_me
      · exact hnames _ (by simp)
      · exact hmessage
    · simp [hme, List.reduceOption] at hpart
      rcases hpart with rfl | rfl | rfl | rfl
      · exact hnames _ (by simp)
      · exact hmailbox
      · exact hnames _ (by simp)
      · exact hmessage
  | post tenant hteam hchannel hmessage =>
    intro part hpart
    simp [MessageLocation.parts, List.reduceOption] at hpart
    rcases hpart with rfl | rfl | rfl | rfl | rfl | rfl
    · exact hnames _ (by simp)
    · exact hteam
    · exact hnames _ (by simp)
    · exact hchannel
    · exact hnames _ (by simp)
    · exact hmessage

/-- The segments of a fetch path locate the message again. -/
theorem Located.pathLocation_parts {location : MessageLocation} (h : Located location) :
    pathLocation location.parts = some location.withoutTenant := by
  cases h with
  | @mail mailbox message hmailbox hmessage =>
    unfold MessageLocation.parts
    by_cases hme : mailbox = "me"
    · simp [hme, List.reduceOption, pathLocation, MessageLocation.withoutTenant]
    · simp [hme, List.reduceOption, pathLocation, MessageLocation.withoutTenant]
  | post tenant hteam hchannel hmessage => rfl

section

variable (unicode : Unicode) (isIpv6 : String → Bool)

/-- The texts that name a location fetch it: the path holds the quoted segments and
nothing else, it is read as the location without a tenant, no other message has it, and
it is judged as the location is. -/
structure Refetched (location : MessageLocation) : Prop where
  located : parseLocation unicode isIpv6 location.fetchPath = some location.withoutTenant
  distinct : ∀ value other, parseLocation unicode isIpv6 value = some other →
    other.fetchPath = location.fetchPath → other.withoutTenant = location.withoutTenant
  segments : location.fetchPath.toList.splitOn '/' =
    [] :: location.parts.map fun part => (quote part).toList
  unquoted : ∀ part ∈ location.parts, unquote (quote part).toList = some part
  plain : ∀ c ∈ location.fetchPath.toList, c ∉ [':', '?', '#'] ∧ isSpace c = false
  judged : ∀ binding : SourceBinding, (∀ tenant ∈ location.tenantId, tenant = binding.tenantId) →
    location.within binding = location.withoutTenant.within binding ∧
      ∀ other : MessageLocation,
        location.sameMessage other binding = location.withoutTenant.sameMessage other binding ∧
        other.sameMessage location binding = other.sameMessage location.withoutTenant binding
  foreign : ∀ binding : SourceBinding, (∃ tenant ∈ location.tenantId, tenant ≠ binding.tenantId) →
    location.within binding = false ∧ ∀ other : MessageLocation,
      location.sameMessage other binding = false ∧ other.sameMessage location binding = false

variable {unicode isIpv6}

theorem Located.refetch {location : MessageLocation} (h : Located location)
    (hlength : location.fetchPath.length ≤ 8192) :
    parseLocation unicode isIpv6 location.fetchPath = some location.withoutTenant := by
  have hparts := h.parts_identity
  have hpath := fetchPath_toList location
  have hne : location.parts ≠ [] := by
    intro hnil
    have hlocated := h.pathLocation_parts
    rw [hnil] at hlocated
    cases hlocated
  have hread := parseLocation_path unicode isIpv6 hne (fun part hpart => (hparts part hpart).ne_empty)
    (by rw [← hpath, String.length_toList]; exact hlength)
  rw [← hpath, String.ofList_toList, mapM_identity hparts, Option.bind_some,
    h.pathLocation_parts] at hread
  exact hread

theorem Located.refetched {location : MessageLocation} (h : Located location)
    (hlength : location.fetchPath.length ≤ 8192) : Refetched unicode isIpv6 location where
  located := h.refetch hlength
  distinct value other hother hpath := by
    have hread := @Located.refetch unicode isIpv6 other (parseLocation_located hother)
      (by rw [hpath]; exact hlength)
    rw [hpath, h.refetch hlength] at hread
    exact (Option.some.inj hread).symm
  segments := by rw [fetchPath_toList, splitOn_quotedPath]
  unquoted part _ := unquote_quote part
  plain c hc := by
    rw [fetchPath_toList] at hc
    obtain ⟨hfree, hspace, -⟩ := plain_of_mem_quotedPath hc
    exact ⟨hfree, hspace⟩
  judged binding htenant := by
    have hany : location.tenantId.any (· ≠ binding.tenantId) = false := by
      rw [Option.any_eq_false]
      intro tenant hmem
      simpa using htenant tenant hmem
    have hwithin : location.within binding = location.withoutTenant.within binding := by
      rw [location.within_eq, hany]
      rfl
    refine ⟨hwithin, fun other => ⟨?_, ?_⟩⟩
    · unfold MessageLocation.sameMessage
      rw [hwithin]
      rfl
    · unfold MessageLocation.sameMessage
      rw [hwithin]
      rfl
  foreign binding htenant := by
    have hwithin : location.within binding = false := by
      obtain ⟨tenant, hmem, hne⟩ := htenant
      rw [location.within_eq, Option.mem_def.mp hmem]
      simp [hne]
    refine ⟨hwithin, fun other => ⟨?_, ?_⟩⟩
    · unfold MessageLocation.sameMessage
      rw [hwithin]
      rfl
    · unfold MessageLocation.sameMessage
      rw [hwithin, Bool.and_false]
      rfl

end

/-! ### Identities in paths -/

theorem IsIdentity.length_quote {value : String} (h : IsIdentity value) :
    (quote value).toList.length ≤ 6144 := by
  have hascii : ∀ c ∈ value.toList, c.toNat < 128 := by
    intro c hc
    have hchar := List.all_eq_true.mp h.1.2.2 c hc
    have hle : ∀ {d : Char}, c ≤ d → c.toNat ≤ d.toNat := fun h => UInt32.le_iff_toNat_le.mp h
    unfold isIdentityChar isAsciiLetter isAsciiDigit at hchar
    simp only [Bool.or_eq_true, decide_eq_true_eq, List.mem_cons, List.not_mem_nil, or_false] at hchar
    rcases hchar with ((⟨-, h⟩ | ⟨-, h⟩) | ⟨-, h⟩) | h
    · exact (hle h).trans_lt (by decide)
    · exact (hle h).trans_lt (by decide)
    · exact (hle h).trans_lt (by decide)
    · rcases h with rfl | rfl | rfl | rfl | rfl | rfl | rfl | rfl | rfl <;> decide
  have hbytes := length_utf8 hascii
  have hquote := length_quote_le value
  have hlength := h.1.2.1
  omega

theorem mailPath_eq (value : String) :
    mailPath (quote value) = String.ofList (quotedPath ["me", "messages", value]) := by
  rw [← String.toList_inj, String.toList_ofList]
  simp [mailPath, quotedPath, show (quote "me").toList = "me".toList by decide +kernel,
    show (quote "messages").toList = "messages".toList by decide +kernel]

theorem postPath_eq (team channel value : String) :
    postPath team channel (quote value) =
      String.ofList (quotedPath ["teams", team, "channels", channel, "messages", value]) := by
  rw [← String.toList_inj, String.toList_ofList]
  simp [postPath, quotedPath, show (quote "teams").toList = "teams".toList by decide +kernel,
    show (quote "channels").toList = "channels".toList by decide +kernel,
    show (quote "messages").toList = "messages".toList by decide +kernel]

section

variable {unicode : Unicode} {isIpv6 : String → Bool}

theorem parseLocation_mailPath {value : String} (h : IsIdentity value) :
    parseLocation unicode isIpv6 (mailPath (quote value)) =
      some { sourceKind := .supplier, messageId := value, mailbox := some "me" } := by
  have hparts : ∀ part ∈ ["me", "messages", value], IsIdentity part := by
    intro part hpart
    simp only [List.mem_cons, List.not_mem_nil, or_false] at hpart
    rcases hpart with rfl | rfl | rfl
    · exact isIdentity_me
    · decide
    · exact h
  have hlength : (quotedPath ["me", "messages", value]).length ≤ 8192 := by
    have hvalue := h.length_quote
    have hme : (quote "me").toList.length = 2 := by decide +kernel
    have hmessages : (quote "messages").toList.length = 8 := by decide +kernel
    simp only [quotedPath_cons, List.length_cons, List.length_append, hme, hmessages]
    have hnil : (quotedPath []).length = 0 := rfl
    omega
  rw [mailPath_eq, parseLocation_path unicode isIpv6 (List.cons_ne_nil _ _)
    (fun part hpart => (hparts part hpart).ne_empty) hlength, mapM_identity hparts]
  rfl

theorem parseLocation_postPath {team channel value : String} (hteam : IsIdentity team)
    (hchannel : IsIdentity channel) (h : IsIdentity value)
    (hlength : (postPath team channel (quote value)).length ≤ 8192) :
    parseLocation unicode isIpv6 (postPath team channel (quote value)) =
      some { sourceKind := .quality, messageId := value, teamId := some team,
             channelId := some channel } := by
  have hparts : ∀ part ∈ ["teams", team, "channels", channel, "messages", value],
      IsIdentity part := by
    intro part hpart
    simp only [List.mem_cons, List.not_mem_nil, or_false] at hpart
    rcases hpart with rfl | rfl | rfl | rfl | rfl | rfl
    · decide
    · exact hteam
    · decide
    · exact hchannel
    · decide
    · exact h
  rw [postPath_eq, String.length_ofList] at hlength
  rw [postPath_eq, parseLocation_path unicode isIpv6 (List.cons_ne_nil _ _)
    (fun part hpart => (hparts part hpart).ne_empty) hlength, mapM_identity hparts]
  rfl

/-- What a text is located as, put into a path. -/
theorem identityLocation_eq_some {path : String → String} {sourceKind : SourceKind}
    {value : String} {location : MessageLocation} :
    identityLocation unicode isIpv6 path sourceKind value = some location ↔
      parseLocation unicode isIpv6 (path (quote value)) = some location ∧
        location.sourceKind = sourceKind := by
  unfold identityLocation
  rw [Option.filter_eq_some_iff, decide_eq_true_eq]

/-- Every parsed location whose path is short enough is fetched and judged as itself, and
an identity put into a path is the message of that path. -/
theorem location_round_trip :
    (∀ value location, parseLocation unicode isIpv6 value = some location →
      location.fetchPath.length ≤ 8192 → Refetched unicode isIpv6 location) ∧
    ∀ value, IsIdentity value →
      identityLocation unicode isIpv6 mailPath .supplier value =
        some { sourceKind := .supplier, messageId := value, mailbox := some "me" } ∧
      ∀ team channel, IsIdentity team → IsIdentity channel →
        (postPath team channel (quote value)).length ≤ 8192 →
        identityLocation unicode isIpv6 (postPath team channel) .quality value =
          some { sourceKind := .quality, messageId := value, teamId := some team,
                 channelId := some channel } := by
  refine ⟨fun value location h hlength => (parseLocation_located h).refetched hlength,
    fun value h => ⟨?_, fun team channel hteam hchannel hlength => ?_⟩⟩
  · exact identityLocation_eq_some.mpr ⟨parseLocation_mailPath h, rfl⟩
  · exact identityLocation_eq_some.mpr ⟨parseLocation_postPath hteam hchannel h hlength, rfl⟩

end

/-! ### Samples -/

/-- Texts of ASCII in lower case are left alone. -/
def sampleUnicode : Unicode := ⟨id, id, id⟩

/-- A link to a post, of the tenant `t`. -/
def sampleLink : String :=
  "https://teams.microsoft.com/l/message/c%40d/m%3D1?groupId=g&tenantId=t"

def samplePost : MessageLocation :=
  { sourceKind := .quality, messageId := "m=1", teamId := some "g", channelId := some "c@d",
    tenantId := some "t" }

theorem sampleLink_located :
    parseLocation sampleUnicode (fun _ => false) sampleLink = some samplePost := by
  decide +kernel

theorem location_round_trip_sample :
    Refetched sampleUnicode (fun _ => false) samplePost ∧
      identityLocation sampleUnicode (fun _ => false) mailPath .supplier "m=1" =
        some { sourceKind := .supplier, messageId := "m=1", mailbox := some "me" } :=
  ⟨location_round_trip.1 sampleLink samplePost sampleLink_located (by decide +kernel),
    (location_round_trip.2 "m=1" (by decide)).1⟩

/-- A post of another tenant is not within the binding; what is fetched for it is. -/
theorem foreign_tenant_refetched :
    ∃ value location fetched, ∃ binding : SourceBinding,
      parseLocation sampleUnicode (fun _ => false) value = some location ∧
      location.fetchPath.length ≤ 8192 ∧
      parseLocation sampleUnicode (fun _ => false) location.fetchPath = some fetched ∧
      location.within binding = false ∧ fetched.within binding = true :=
  ⟨sampleLink, samplePost, samplePost.withoutTenant, ⟨"u", "a", "g", "c@d"⟩, sampleLink_located,
    by decide +kernel, by decide +kernel, by decide, by decide⟩

end SupplyResponse
