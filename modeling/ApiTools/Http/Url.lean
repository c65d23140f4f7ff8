/-
  ApiTools.Http.Url
  ─────────────────
  **URLS IN NORMAL FORM.**

  `Url.parse` cuts a text into scheme, user, host, port, path, query and
  fragment and brings each part into its normal form: scheme and host in lower
  case, no port that the scheme implies, no dot segments, and percent escapes
  for the characters that the part does not admit.  `Url.text` puts the parts
  together again.
-/
import ApiTools.Http.UrlProblem
import ApiTools.Http.Address
import ApiTools.Http.HostName
import ApiTools.Http.Form
import ApiTools.Number.Reader

namespace ApiTools.Http

/-- A URL in normal form; parts that are absent are empty or `none`. -/
structure Url where
  scheme : List Char
  user : List Char
  host : List Char
  port : Option Int
  path : List Char
  query : Option (List Char)
  fragment : Option (List Char)
  deriving DecidableEq

namespace Url

/-! ## §1. Cutting. -/

/-- The text in front of the first character of a class, and what follows from there on. -/
def before (stop : Char → Bool) (cs : List Char) : List Char × List Char :=
  (cs.takeWhile fun c => !stop c, cs.dropWhile fun c => !stop c)

def isSchemeChar (c : Char) : Bool := c.isAlphanum || c == '+' || c == '.' || c == '-'

/-- The scheme, and what follows its colon.  A colon may also stand without a scheme. -/
def splitScheme (cs : List Char) : List Char × List Char :=
  let (scheme, rest) := before (fun c => !isSchemeChar c) cs
  match rest with
  | ':' :: rest =>
    if scheme.isEmpty || scheme.head?.any Char.isAlpha then (scheme, rest) else ([], cs)
  | _ => ([], cs)

/-- What stands behind two slashes, and what follows it. -/
def splitAuthority : List Char → List Char × List Char
  | '/' :: '/' :: rest => before (fun c => c == '/' || c == '?' || c == '#') rest
  | cs => ([], cs)

/-- The path, the query behind a question mark, and the fragment behind a number sign. -/
def splitPath (cs : List Char) : List Char × Option (List Char) × Option (List Char) :=
  let (path, rest) := before (fun c => c == '?' || c == '#') cs
  match rest with
  | '?' :: rest =>
    let (query, rest) := before (· == '#') rest
    (path, some query, rest.tail?)
  | rest => (path, none, rest.tail?)

/-- The user in front of the last at sign, and what follows it. -/
def splitUser (cs : List Char) : List Char × List Char :=
  if cs.contains '@' then
    let (host, user) := before (· == '@') cs.reverse
    (user.tail.reverse, host.reverse)
  else ([], cs)

/-- The host, in brackets or up to a colon, and the port behind it. -/
def splitHost (cs : List Char) : List Char × List Char :=
  let (host, rest) :=
    if cs.head? == some '[' && cs.contains ']' then
      let after := cs.reverse.takeWhile (· != ']')
      (cs.take (cs.length - after.length), after.reverse)
    else before (fun c => c == ':' || c == '@') cs
  (host, if rest.head? == some ':' then rest.tail else rest)

/-! ## §2. Escapes. -/

/-- The characters that any part of a URL escapes. -/
def isEscaped (c : Char) : Bool :=
  c.toNat < 33 || 126 < c.toNat || c == '"' || c == '<' || c == '>'

/-- The characters that a path escapes. -/
def isEscapedInPath (c : Char) : Bool :=
  isEscaped c || ['#', '?', '`', '{', '}'].contains c

def isEscapedInQuery (c : Char) : Bool := isEscaped c || c == '#'

def isEscapedInFragment (c : Char) : Bool := isEscaped c || c == '`'

def isEscapedInUser (c : Char) : Bool :=
  isEscapedInPath c || ['/', ';', '=', '@', '[', '\\', ']', '^', '|'].contains c

/-- The characters that a host name escapes. -/
def isEscapedInHost (c : Char) : Bool :=
  c.toNat < 33 || ['#', '/', '<', '>', '?', '@', '[', ']', '^', ':'].contains c

/-- Writes percent escapes for the characters of a class; escapes that are there stay. -/
def escape (escaped : Char → Bool) (cs : List Char) : List Char :=
  cs.flatMap fun c =>
    if escaped c then (Text.encodeCharUtf8 c).flatMap Form.percentEncoded else [c]

/-! ## §3. Normal forms. -/

/-- A host in normal form. -/
def normalHost (host : List Char) : Except UrlProblem (List Char) :=
  if host.isEmpty then .ok []
  else if Address.looksLikeFour host then
    if Address.isFour host then .ok host else .error .address4
  else if host.head? == some '[' && host.getLast? == some ']' then
    let inner := host.tail.dropLast
    if Address.isSix inner then .ok inner else .error .address6
  else if host.all (fun c => c.toNat < 128) then
    .ok (escape isEscapedInHost (Text.lower host))
  else
    match HostName.encode? host with
    | some name => .ok name
    | none => .error .hostName

/-- The port that a scheme implies. -/
def impliedPort? (scheme : List Char) : Option Int :=
  match String.ofList scheme with
  | "ftp" => some 21
  | "http" => some 80
  | "https" => some 443
  | "ws" => some 80
  | "wss" => some 443
  | _ => none

/-- A port in normal form: absent if it is empty or the one that the scheme implies. -/
def normalPort (scheme port : List Char) : Except UrlProblem (Option Int) :=
  if port.isEmpty then .ok none
  else
    match Number.readInt 10 port with
    | .ok n => .ok (if impliedPort? scheme = some n then none else some n)
    | .error _ => .error .port

/-- Takes one segment of a path onto the segments before it, the last of these first. -/
def takeSegment (segments : List (List Char)) (segment : List Char) : List (List Char) :=
  if segment = ['.'] then segments
  else if segment = ['.', '.'] then (if segments = [[]] then segments else segments.tail)
  else segment :: segments

/-- A path without the segments that lead to where they stand or to where one came from. -/
def withoutDots (path : List Char) : List Char :=
  ['/'].intercalate ((Address.splitAt '/' path).foldl takeSegment []).reverse

/-- Is the path one that may follow what stands before it? -/
def checkPath (hasScheme hasAuthority : Bool) (path : List Char) : Except UrlProblem Unit :=
  if hasAuthority && !path.isEmpty && path.head? != some '/' then .error .pathAfterHost
  else if !hasScheme && !hasAuthority
      && (['/', '/'].isPrefixOf path || path.head? == some ':') then .error .pathAlone
  else .ok ()

/-- The most characters that a URL may have. -/
def maxLength : Nat := 65536

def isControl (c : Char) : Bool := c.toNat < 32 || c.toNat = 127

/-- The parts of a text in normal form. -/
def ofParts (text : List Char) : Except UrlProblem Url := do
  let (scheme, rest) := splitScheme text
  let (authority, rest) := splitAuthority rest
  let (path, query, fragment) := splitPath rest
  let (user, hostAndPort) := splitUser authority
  let (givenHost, givenPort) := splitHost hostAndPort
  let user := escape isEscapedInUser user
  let host ← normalHost givenHost
  let port ← normalPort scheme givenPort
  let hasAuthority := !user.isEmpty || !host.isEmpty || port.isSome
  checkPath (!scheme.isEmpty) hasAuthority path
  let path := if !scheme.isEmpty || hasAuthority then withoutDots path else path
  .ok { scheme := Text.lower scheme, user, host, port
        path := escape isEscapedInPath path
        query := query.map (escape isEscapedInQuery)
        fragment := fragment.map (escape isEscapedInFragment) }

/-- Reads a URL and brings it into normal form. -/
def parse (text : String) : Except UrlProblem Url :=
  let cs := text.toList
  if maxLength < cs.length then .error .tooLong
  else if cs.any isControl then
    .error (.controlCharacter (cs.takeWhile fun c => !isControl c).length)
  else ofParts cs

/-! ## §4. Text. -/

/-- Host and port, as a request names them. -/
def hostText (u : Url) : String :=
  String.ofList (if u.host.contains ':' then '[' :: (u.host ++ [']']) else u.host)
    ++ (match u.port with
      | none => ""
      | some n => ":" ++ toString n)

/-- User, host and port. -/
def authority (u : Url) : String :=
  (if u.user.isEmpty then "" else String.ofList (u.user ++ ['@'])) ++ u.hostText

/-- The text of a URL. -/
def text (u : Url) : String :=
  let authority := u.authority
  String.ofList (if u.scheme.isEmpty then [] else u.scheme ++ [':'])
    ++ (if authority = "" then "" else "//" ++ authority)
    ++ String.ofList u.path
    ++ (match u.query with
      | none => ""
      | some q => String.ofList ('?' :: q))
    ++ (match u.fragment with
      | none => ""
      | some f => String.ofList ('#' :: f))

end Url

end ApiTools.Http
