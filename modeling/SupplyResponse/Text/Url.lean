/-
Splitting URLs (`urllib.parse.urlsplit` and `parse_qsl`).

* `Unicode` — the tables that the texts of a network location go through;
* `urlsplit` — scheme, network location, path, query and fragment;
* `hostname`, `port`, `hasUserinfo` — what a network location consists of;
* `parseQsl`, `parseQslReplace` — the fields of a query, strictly;
* `cleanUrl`, `checkBrackets`, `hostPort` — texts with blanks, control characters and
  addresses in brackets;
* `urlsplit_path` — a plain absolute path is only a path.
-/
import Mathlib.Data.List.TakeWhile
import SupplyResponse.Text.Percent

namespace Text

/-- `str.lower`, `str.casefold` and `unicodedata.normalize("NFKC", ·)`. -/
structure Unicode where
  lower : String → String
  casefold : String → String
  nfkc : String → String

/-- The text before the first character that is a separator, and the text after
it if there is one. -/
def cutAt (isSep : Char → Bool) (s : List Char) : List Char × Option (List Char) :=
  (s.takeWhile fun c => !isSep c, (s.dropWhile fun c => !isSep c).tail?)

structure SplitUrl where
  scheme : List Char
  netloc : List Char
  path : List Char
  query : List Char
  fragment : List Char
  deriving DecidableEq

def isAsciiLetter (c : Char) : Bool := ('A' ≤ c ∧ c ≤ 'Z') ∨ ('a' ≤ c ∧ c ≤ 'z')

def isAsciiDigit (c : Char) : Bool := '0' ≤ c ∧ c ≤ '9'

/-- `scheme_chars`. -/
def isSchemeChar (c : Char) : Bool := isAsciiLetter c || isAsciiDigit c || c ∈ ['+', '-', '.']

/-- The scheme in lower case, and the rest. -/
def splitScheme (url : List Char) : List Char × List Char :=
  match cutAt (· == ':') url with
  | (c :: scheme, some rest) =>
    if isAsciiLetter c ∧ (c :: scheme).all isSchemeChar then ((c :: scheme).map Char.toLower, rest)
    else ([], url)
  | _ => ([], url)

/-- The network location after `//`, and the rest. -/
def splitNetloc (url : List Char) : List Char × List Char :=
  match url with
  | '/' :: '/' :: rest =>
    let isSep := fun c => c ∈ ['/', '?', '#']
    (rest.takeWhile fun c => !isSep c, rest.dropWhile fun c => !isSep c)
  | _ => ([], url)

/-- `_checknetloc`: no separator may come out of the normalization. -/
def checkNetloc (unicode : Unicode) (netloc : List Char) : Bool :=
  let plain := netloc.filter fun c => decide (c ∉ ['@', ':', '#', '?'])
  let normal := (unicode.nfkc (String.ofList plain)).toList
  netloc.all (fun c => decide (c.toNat < 128)) || normal == plain ||
    normal.all fun c => decide (c ∉ ['/', '?', '#', '@', ':'])

/-- `urlsplit`, of a text without blanks and control characters.  A literal address
in brackets is an error here, as it is no name of a host. -/
def urlsplit (unicode : Unicode) (url : List Char) : Option SplitUrl :=
  let (scheme, url) := splitScheme url
  let (netloc, url) := splitNetloc url
  let (url, fragment) := cutAt (· == '#') url
  let (path, query) := cutAt (· == '?') url
  if '[' ∈ netloc ∨ ']' ∈ netloc ∨ checkNetloc unicode netloc = false then none
  else some ⟨scheme, netloc, path, query.getD [], fragment.getD []⟩

namespace SplitUrl

/-- What follows the last `@`. -/
def hostinfo (url : SplitUrl) : List Char :=
  (url.netloc.reverse.takeWhile fun c => c != '@').reverse

/-- `username is not None`. -/
def hasUserinfo (url : SplitUrl) : Bool := '@' ∈ url.netloc

def hostname (unicode : Unicode) (url : SplitUrl) : String :=
  let (host, zone) := cutAt (· == '%') (cutAt (· == ':') url.hostinfo).1
  unicode.lower (String.ofList host) ++ (zone.elim "" fun z => String.ofList ('%' :: z))

/-- The port, if there is one; `none` is an invalid one. -/
def port (url : SplitUrl) : Option (Option ℕ) :=
  match (cutAt (· == ':') url.hostinfo).2 with
  | none | some [] => some none
  | some digits =>
    let number := digits.foldl (fun n c => 10 * n + (c.toNat - '0'.toNat)) 0
    if digits.all isAsciiDigit ∧ number ≤ 65535 then some (some number) else none

end SplitUrl

/-- `unquote` of a query text, where `+` is a blank. -/
def unquotePlus (s : List Char) : Option String :=
  unquote (s.map fun c => if c = '+' then ' ' else c)

/-- `parse_qsl(query, keep_blank_values=True, strict_parsing=True)`; a field that is
not UTF-8 is an error. -/
def parseQsl (query : List Char) : Option (List (String × String)) :=
  if query = [] then some []
  else (query.splitOn '&').mapM fun field =>
    match cutAt (· == '=') field with
    | (name, some value) => do
      let name ← unquotePlus name
      let value ← unquotePlus value
      pure (name, value)
    | (_, none) => none

/-- `parse_qsl(query, keep_blank_values=True, strict_parsing=True)`; bytes that are not
UTF-8 are replaced. -/
def parseQslReplace (query : List Char) : Option (List (String × String)) :=
  let unquotePlus := fun s : List Char => unquoteReplace (s.map fun c => if c = '+' then ' ' else c)
  if query = [] then some []
  else (query.splitOn '&').mapM fun field =>
    match cutAt (· == '=') field with
    | (name, some value) => some (unquotePlus name, unquotePlus value)
    | (_, none) => none

/-! ### Texts as they come -/

/-- What `urlsplit` splits: no blanks and control characters in front, and no tabs and
line breaks at all. -/
def cleanUrl (s : List Char) : List Char :=
  (s.dropWhile fun c => decide (c.toNat ≤ 0x20)).filter fun c => decide (c ∉ ['\t', '\n', '\r'])

/-- `re.match(r"\Av[a-fA-F0-9]+\..+\Z", hostname)`. -/
def isFutureAddress : List Char → Bool
  | 'v' :: rest =>
    match cutAt (· == '.') rest with
    | (digits, some (_ :: _)) => !digits.isEmpty && digits.all fun c => (hexValue? c).isSome
    | _ => false
  | _ => false

/-- `_check_bracketed_host`, where `isIpv6` is what `ipaddress` takes for an IPv6 address. -/
def checkBracketedHost (isIpv6 : String → Bool) (host : List Char) : Bool :=
  if host.head? = some 'v' then isFutureAddress host else isIpv6 (String.ofList host)

/-- `_check_bracketed_netloc`, on what follows the last `@`. -/
def checkBrackets (isIpv6 : String → Bool) (hostinfo : List Char) : Bool :=
  match cutAt (· == '[') hostinfo with
  | (before, some bracketed) =>
    let (host, after) := cutAt (· == ']') bracketed
    before.isEmpty && ((after.getD []).head?.getD ':' == ':') && checkBracketedHost isIpv6 host
  | (_, none) => checkBracketedHost isIpv6 (cutAt (· == ':') hostinfo).1

/-- Host and port of a network location: `_hostinfo`. -/
def hostPort (hostinfo : List Char) : List Char × List Char :=
  match cutAt (· == '[') hostinfo with
  | (_, some bracketed) =>
    let (host, after) := cutAt (· == ']') bracketed
    (host, ((cutAt (· == ':') (after.getD [])).2).getD [])
  | (_, none) =>
    let (host, port) := cutAt (· == ':') hostinfo
    (host, port.getD [])

/-- `urlsplit`, of any text. -/
def urlsplitText (unicode : Unicode) (isIpv6 : String → Bool) (s : List Char) :
    Option SplitUrl :=
  let (scheme, url) := splitScheme (cleanUrl s)
  let (netloc, url) := splitNetloc url
  let (url, fragment) := cutAt (· == '#') url
  let (path, query) := cutAt (· == '?') url
  let parts : SplitUrl := ⟨scheme, netloc, path, query.getD [], fragment.getD []⟩
  if ('[' ∈ netloc ∧ ']' ∉ netloc) ∨ ('[' ∉ netloc ∧ ']' ∈ netloc) then none
  else if '[' ∈ netloc ∧ checkBrackets isIpv6 parts.hostinfo = false then none
  else if checkNetloc unicode netloc = false then none
  else some parts

namespace SplitUrl

/-- `hostname`, with `""` for none. -/
def hostText (unicode : Unicode) (url : SplitUrl) : String :=
  let (host, zone) := cutAt (· == '%') (hostPort url.hostinfo).1
  unicode.lower (String.ofList host) ++ (zone.elim "" fun z => String.ofList ('%' :: z))

/-- `port`, as `SplitUrl.port`, also behind an address in brackets. -/
def portOf (url : SplitUrl) : Option (Option ℕ) :=
  match (hostPort url.hostinfo).2 with
  | [] => some none
  | digits =>
    let number := digits.foldl (fun n c => 10 * n + (c.toNat - '0'.toNat)) 0
    if digits.all isAsciiDigit ∧ number ≤ 65535 then some (some number) else none

end SplitUrl

/-! ### Plain paths -/

theorem cutAt_of_forall {isSep : Char → Bool} {s : List Char} (h : ∀ c ∈ s, isSep c = false) :
    cutAt isSep s = (s, none) := by
  have htake : s.takeWhile (fun c => !isSep c) = s :=
    List.takeWhile_eq_self_iff.mpr fun c hc => by simp [h c hc]
  have hdrop : s.dropWhile (fun c => !isSep c) = [] :=
    List.dropWhile_eq_nil_iff.mpr fun c hc => by simp [h c hc]
  unfold cutAt
  rw [htake, hdrop]
  rfl

/-- An absolute path without `:`, `?` and `#` has nothing to split off. -/
theorem split_path {c : Char} {rest : List Char} (hc : c ≠ '/')
    (hplain : ∀ d ∈ c :: rest, d ∉ [':', '?', '#']) :
    splitScheme ('/' :: c :: rest) = ([], '/' :: c :: rest) ∧
      splitNetloc ('/' :: c :: rest) = ([], '/' :: c :: rest) ∧
      ∀ sep ∈ ['?', '#'], cutAt (· == sep) ('/' :: c :: rest) = ('/' :: c :: rest, none) := by
  have hnone : ∀ sep ∈ [':', '?', '#'], ∀ d ∈ '/' :: c :: rest, (d == sep) = false := by
    intro sep hsep d hd
    refine beq_eq_false_iff_ne.mpr ?_
    rintro rfl
    rcases List.mem_cons.mp hd with rfl | hd
    · exact absurd hsep (by decide)
    · exact hplain d hd hsep
  refine ⟨?_, ?_, fun sep hsep => cutAt_of_forall (hnone sep (List.mem_cons_of_mem _ hsep))⟩
  · unfold splitScheme
    rw [cutAt_of_forall (hnone ':' (by decide))]
  · unfold splitNetloc
    split
    · next heq => exact absurd (List.cons.inj (List.cons.inj heq).2).1 hc
    · rfl

/-- An absolute path without `:`, `?` and `#`. -/
theorem urlsplit_path (unicode : Unicode) {c : Char} {rest : List Char} (hc : c ≠ '/')
    (hplain : ∀ d ∈ c :: rest, d ∉ [':', '?', '#']) :
    urlsplit unicode ('/' :: c :: rest) = some ⟨[], [], '/' :: c :: rest, [], []⟩ := by
  obtain ⟨hscheme, hnetloc, hcut⟩ := split_path hc hplain
  unfold urlsplit
  simp only [hscheme, hnetloc, hcut '#' (by decide), hcut '?' (by decide)]
  rfl

/-- An absolute path without `:`, `?`, `#` and blanks, as a text. -/
theorem urlsplitText_path (unicode : Unicode) (isIpv6 : String → Bool) {c : Char}
    {rest : List Char} (hc : c ≠ '/')
    (hplain : ∀ d ∈ c :: rest, d ∉ [':', '?', '#'] ∧ 0x20 < d.toNat) :
    urlsplitText unicode isIpv6 ('/' :: c :: rest) = some ⟨[], [], '/' :: c :: rest, [], []⟩ := by
  obtain ⟨hscheme, hnetloc, hcut⟩ := split_path hc fun d hd => (hplain d hd).1
  have hclean : cleanUrl ('/' :: c :: rest) = '/' :: c :: rest := by
    unfold cleanUrl
    rw [List.dropWhile_cons_of_neg (by decide)]
    refine List.filter_eq_self.mpr fun d hd => ?_
    rw [decide_eq_true_eq]
    have hvisible : 0x20 < d.toNat := by
      rcases List.mem_cons.mp hd with rfl | hd
      · decide
      · exact (hplain d hd).2
    intro hmem
    simp only [List.mem_cons, List.not_mem_nil, or_false] at hmem
    rcases hmem with rfl | rfl | rfl <;> exact absurd hvisible (by decide)
  unfold urlsplitText
  simp only [hclean, hscheme, hnetloc, hcut '#' (by decide), hcut '?' (by decide)]
  rfl

end Text
