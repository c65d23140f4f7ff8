/-
  ApiTools.Http.UrlProblem
  ────────────────────────
  **WHY A TEXT IS NO URL.**
-/

namespace ApiTools.Http

inductive UrlProblem where
  | tooLong
  | controlCharacter (position : Nat)
  | address4
  | address6
  | hostName
  | port
  /-- the path behind a host does not start with a slash -/
  | pathAfterHost
  /-- the path of a URL without scheme and host starts with a colon or two slashes -/
  | pathAlone
  deriving DecidableEq

def UrlProblem.message : UrlProblem → String
  | tooLong => "URL too long"
  | controlCharacter n =>
    "Invalid non-printable ASCII character in URL at position " ++ toString n ++ "."
  | address4 => "Invalid IPv4 address"
  | address6 => "Invalid IPv6 address"
  | hostName => "Invalid IDNA hostname"
  | port => "Invalid port"
  | pathAfterHost => "For absolute URLs, path must be empty or begin with '/'"
  | pathAlone => "Relative URLs cannot have a path starting with '//' or ':'"

end ApiTools.Http
