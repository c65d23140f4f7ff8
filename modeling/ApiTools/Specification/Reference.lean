/-
  ApiTools.Specification.Reference
  ────────────────────────────────
  **WHERE REFERENCES POINT.**

  A reference is a URL: a file, or nothing for the document it stands in, and
  behind a number sign the path of an object, its steps separated by slashes.
  In a step, `~1` is a slash and `~0` a tilde.  A relative file starts from
  the folder of the document that the reference stands in.
-/
import ApiTools.Files
import ApiTools.Http.Form
import ApiTools.Text.Search

namespace ApiTools.Specification

/-- The parts of a URL, each as it is written. -/
structure Link where
  scheme : String
  host : String
  path : String
  parameters : String
  query : String
  fragment : String
  deriving DecidableEq

/-- A document, as far as references tell one from another. -/
structure Resource where
  host : String
  path : String
  deriving DecidableEq

namespace Link

/-! ## §1. Cutting. -/

/-- The text in front of a character, and what follows it if it is there. -/
def cut (c : Char) (cs : List Char) : List Char × Option (List Char) :=
  (cs.takeWhile (· != c), (cs.dropWhile (· != c)).tail?)

def isSchemeChar (c : Char) : Bool := c.isAlphanum || c == '+' || c == '-' || c == '.'

/-- The scheme in lower case, and what follows its colon. -/
def splitScheme (cs : List Char) : List Char × List Char :=
  match cut ':' cs with
  | (scheme, some rest) =>
    if scheme.head?.any Char.isAlpha && scheme.all isSchemeChar then
      (scheme.map Char.toLower, rest)
    else ([], cs)
  | (_, none) => ([], cs)

/-- The host behind two slashes, and what follows it. -/
def splitHost : List Char → List Char × List Char
  | '/' :: '/' :: rest =>
    let stops (c : Char) : Bool := c == '/' || c == '?' || c == '#'
    (rest.takeWhile fun c => !stops c, rest.dropWhile fun c => !stops c)
  | cs => ([], cs)

/-- The schemes whose paths may end in parameters behind a semicolon. -/
def withParameters : List String :=
  ["", "ftp", "hdl", "prospero", "http", "https", "shttp", "rtsp", "rtspu", "sip", "sips", "mms",
    "sftp", "tel"]

/-- The parameters behind the first semicolon of the last step of a path. -/
def splitParameters (cs : List Char) : List Char × List Char :=
  let final := (cs.reverse.takeWhile (· != '/')).reverse
  match cut ';' final with
  | (name, some parameters) => (cs.take (cs.length - final.length) ++ name, parameters)
  | (_, none) => (cs, [])

/-- Is a character one that a URL may not start with: a control character or a blank? -/
def isLeadingJunk (c : Char) : Bool := c.toNat ≤ 32

/-- Is a character one that a URL loses: a tab or the end of a line? -/
def isLost (c : Char) : Bool := c == '\t' || c == '\n' || c == '\r'

/-- Do brackets in a host come in pairs? -/
def hasFitBrackets (host : List Char) : Bool := host.contains '[' == host.contains ']'

/-- The parts of a text; `none` if brackets in its host do not fit. -/
def parse? (text : String) : Option Link :=
  let cs := (text.toList.dropWhile isLeadingJunk).filter fun c => !isLost c
  let (scheme, rest) := splitScheme cs
  let (host, rest) := splitHost rest
  let (rest, fragment) := cut '#' rest
  let (path, query) := cut '?' rest
  let (path, parameters) :=
    if withParameters.contains (String.ofList scheme) then splitParameters path else (path, [])
  if hasFitBrackets host then
    some { scheme := String.ofList scheme, host := String.ofList host
           path := String.ofList path, parameters := String.ofList parameters
           query := String.ofList (query.getD []), fragment := String.ofList (fragment.getD []) }
  else none

/-! ## §2. Text. -/

/-- The schemes whose URLs name a host. -/
def withHost : List String :=
  ["", "ftp", "http", "gopher", "nntp", "telnet", "imap", "wais", "file", "mms", "https", "shttp",
    "snews", "prospero", "rtsp", "rtspu", "rsync", "svn", "svn+ssh", "sftp", "nfs", "git",
    "git+ssh", "ws", "wss"]

/-- The text of a URL; parts that are empty leave no mark. -/
def text (l : Link) : String :=
  let path := if l.parameters = "" then l.path else l.path ++ ";" ++ l.parameters
  let namesHost := l.scheme ≠ "" ∧ withHost.contains l.scheme ∧ ¬ Text.startsWith "//" path
  let path :=
    if l.host ≠ "" ∨ namesHost then
      "//" ++ l.host
        ++ (if path ≠ "" ∧ ¬ Text.startsWith "/" path then "/" ++ path else path)
    else path
  (if l.scheme = "" then "" else l.scheme ++ ":") ++ path
    ++ (if l.query = "" then "" else "?" ++ l.query)
    ++ (if l.fragment = "" then "" else "#" ++ l.fragment)

/-! ## §3. Files. -/

/-- The document of a URL. -/
def resource (l : Link) : Resource := ⟨l.host, l.path⟩

/-- Takes one name of a path onto the names before it, the last of these first.  Two points take
one away. -/
def takeName (names : List String) (name : String) : List String :=
  if name = ".." then names.tail else name :: names

/-- A path without two points. -/
def normalNames (names : List String) : List String := (names.foldl takeName []).reverse

/-- The folder of a document. -/
def folder (r : Resource) : List String := (Files.pathNames r.path).dropLast

/-- A path with a percent escape for every octet that is not plain. -/
def escapedPath (path : String) : String :=
  String.ofList (path.toList.flatMap fun c =>
    if Http.Form.isUnreserved c || c == '/' then [c]
    else (Text.encodeCharUtf8 c).flatMap Http.Form.percentEncoded)

/-- The path from the root along names. -/
def fromRoot (names : List String) : String := "/" ++ "/".intercalate names

/-- The URL of a file. -/
def ofFile (files : Files) (path : String) : Link :=
  { scheme := "file", host := "", path := escapedPath (fromRoot (normalNames (files.fullNames path)))
    parameters := "", query := "", fragment := "" }

/-- A URL as it is meant in a document: without a path it is the document's own, a relative path
starts from the document's folder.  Only files are meant by where they stand. -/
def inDocument (base : Link) (l : Link) : Link :=
  if l.scheme ≠ "" ∧ l.scheme ≠ "file" then l
  else if l.path = "" then { base with fragment := l.fragment }
  else if Files.isAbsolute l.path then { l with scheme := "file" }
  else
    { l with
      scheme := "file"
      path := fromRoot (normalNames (folder base.resource ++ Files.pathNames l.path)) }

/-! ## §4. Objects. -/

/-- A step of an object's path without its escapes. -/
def unescapeStep (step : String) : String :=
  Text.replaceAll "~0" "~" (Text.replaceAll "~1" "/" step)

/-- The steps of the path of an object; empty ones in front do not count. -/
def steps (l : Link) : List String :=
  (((Files.slashParts l.fragment.toList).map String.ofList).dropWhile (· == "")).map unescapeStep

end Link

/-- Where a reference leads: a document, and the path of an object in it. -/
structure Target where
  resource : Resource
  steps : List String
  deriving DecidableEq

def Link.target (l : Link) : Target := ⟨l.resource, l.steps⟩

end ApiTools.Specification
