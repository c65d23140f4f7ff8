/-
  ApiTools.Http.Message
  ─────────────────────
  **REQUEST MESSAGES.**

  A message is built from a method, a URL, headers and a body that is a value
  or absent.  The body is written as JSON; the headers are completed by the
  host and the length of the body unless they name these.  The checks come in
  this order: the URL, the headers, the body.

  How a URL is read, which host is named for it, and what is changed in a
  message when it leaves, is up to the `Client` that is used; `Client.standard`
  reads URLs into their normal form and lets the user of a URL take the place of
  the authorization.
-/
import ApiTools.Http.Url
import ApiTools.Fault
import ApiTools.Text.Base64

namespace ApiTools.Http

/-- A request as it is sent. -/
structure Message where
  method : String
  url : Url
  headers : List (String × String)
  content : String

/-- What sends messages. -/
structure Client where
  /-- reads a URL -/
  parse : String → Except UrlProblem Url
  /-- the host that a message to a URL names in its headers, if it names one -/
  host : Url → Option String
  /-- how many levels a body may nest that is written -/
  writing : Nat
  /-- how many levels an answer may nest that is read -/
  reading : Nat
  /-- a message as it leaves -/
  leaving : Message → Message

namespace Message

/-! ## §1. Headers. -/

/-- Are two header names the same name? -/
def sameName (a b : String) : Bool := Text.lower a.toList == Text.lower b.toList

/-- Do headers name something? -/
def names (name : String) (headers : List (String × String)) : Bool :=
  headers.any fun h => sameName name h.1

/-- A text that has to be ASCII. -/
def checkAscii (s : String) : Except Fault Unit :=
  match Text.notAscii? s.toList with
  | some p => .error (.unencodable p)
  | none => .ok ()

/-- Names and values of headers have to be ASCII. -/
def checkHeaders : List (String × String) → Except Fault Unit
  | [] => .ok ()
  | (name, value) :: rest => do
    checkAscii name
    checkAscii value
    checkHeaders rest

/-- The headers with one more, unless they have it. -/
def withDefault (name value : String) (headers : List (String × String)) :
    List (String × String) :=
  if names name headers then headers else headers ++ [(name, value)]

/-! ## §2. The body. -/

/-- A body as JSON; an absent body is empty.  The JSON has to have octets. -/
def bodyText (nesting : Nat) : Option Value → Except Fault String
  | none => .ok ""
  | some v =>
    match Json.write (Json.compact nesting) v with
    | .ok s => if v.isWhole then .ok s else .error .torn
    | .error p => .error p.fault

/-! ## §3. Messages. -/

/-- Builds a message for a client. -/
def build (client : Client) (method url : String) (headers : List (String × String))
    (body : Option Value) : Except Fault Message := do
  let url ←
    match client.parse url with
    | .ok u => .ok u
    | .error p => .error (.unusableUrl p)
  checkHeaders headers
  let content ← bodyText client.writing body
  let sized :=
    if body.isNone then headers
    else withDefault "Content-Length" (toString (Text.encodeUtf8 content.toList).length) headers
  let addressed :=
    if names "Host" sized then sized
    else (client.host url).toList.map (fun host => ("Host", host)) ++ sized
  .ok { method, url, headers := addressed, content }

/-! ## §4. Users in URLs. -/

/-- Reads percent escapes. -/
def unescape : List Char → List UInt8
  | '%' :: a :: b :: rest =>
    if Address.isHexDigit a && Address.isHexDigit b then
      match Number.digitOf a, Number.digitOf b with
      | some x, some y => UInt8.ofNat (x * 16 + y) :: unescape rest
      | _, _ => Text.encodeCharUtf8 '%' ++ unescape (a :: b :: rest)
    else Text.encodeCharUtf8 '%' ++ unescape (a :: b :: rest)
  | c :: rest => Text.encodeCharUtf8 c ++ unescape rest
  | [] => []

/-- Octets that are UTF-8: those at fault become replacement characters. -/
def repaired : Nat → List UInt8 → List UInt8
  | 0, _ => []
  | fuel + 1, octets =>
    if octets.isEmpty then []
    else
      match Text.readUtf8 false octets with
      | .char _ size => octets.take size ++ repaired fuel (octets.drop size)
      | .fault size _ =>
        Text.encodeCharUtf8 (Char.ofNat 0xFFFD) ++ repaired fuel (octets.drop size)

/-- One part of a user, without its escapes. -/
def userPart (cs : List Char) : List UInt8 :=
  let octets := unescape cs
  repaired (octets.length + 1) octets

/-- The credential that the user of a URL makes up. -/
def userCredential (user : List Char) : String :=
  let (name, rest) := Url.before (· == ':') user
  "Basic " ++ String.ofList (Text.Base64.encode
    (userPart name ++ Text.encodeCharUtf8 ':' ++ userPart rest.tail))

/-- Is a header the one that authorizes? -/
def authorizes (h : String × String) : Bool := sameName "Authorization" h.1

/-- The message as a client sends it: the user of the URL takes the place of the authorization. -/
def authorized (m : Message) : Message :=
  if m.url.user.all (· == ':') && m.url.user.length ≤ 1 then m
  else
    { m with headers :=
        m.headers.takeWhile (fun h => !authorizes h)
          ++ ("Authorization", userCredential m.url.user)
          :: (m.headers.dropWhile (fun h => !authorizes h)).filter (fun h => !authorizes h) }

end Message

/-! ## §5. The client that is used. -/

/-- The client reads URLs into their normal form, and the user of a URL authorizes. -/
def Client.standard : Client where
  parse := Url.parse
  host := fun u => if u.host.isEmpty then none else some u.hostText
  writing := 900
  reading := 900
  leaving := Message.authorized

end ApiTools.Http
