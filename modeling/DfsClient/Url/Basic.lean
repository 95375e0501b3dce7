import DfsClient.Url.Host

/-! URLs in parts. The parts are in their written form: encoded, and with a
port only where it differs from the usual one of its scheme. -/

namespace DfsClient

structure Authority where
  username : String := ""
  password : String := ""
  host : String
  port : Option UInt16 := none
deriving DecidableEq, Repr

structure Url where
  scheme : String
  authority : Option Authority
  path : String
  query : Option String := none
  fragment : Option String := none
deriving DecidableEq, Repr

namespace Url

def isSchemeChar (c : Char) : Bool := c.isAlphanum || c == '+' || c == '-' || c == '.'

def usualPort? (scheme : String) : Option UInt16 :=
  if scheme = "http" ∨ scheme = "ws" then some 80
  else if scheme = "https" ∨ scheme = "wss" then some 443
  else if scheme = "ftp" then some 21
  else none

def host? (url : Url) : Option String :=
  match url.authority with
  | some authority => if authority.host = "" then none else some authority.host
  | none => none

def port? (url : Url) : Option UInt16 := url.authority.bind Authority.port

end Url

def Authority.render (authority : Authority) : String :=
  let password := if authority.password = "" then "" else ":" ++ authority.password
  let credentials := authority.username ++ password
  let port := match authority.port with
    | some port => ":" ++ toString port.toNat
    | none => ""
  (if credentials = "" then "" else credentials ++ "@") ++ authority.host ++ port

/-- A path that starts with two slashes is kept apart from an authority. -/
def Url.render (url : Url) : String :=
  let middle := match url.authority with
    | some authority => "//" ++ authority.render
    | none => if ['/', '/'].isPrefixOf url.path.toList then "/." else ""
  url.scheme ++ ":" ++ middle ++ url.path
    ++ (match url.query with | some query => "?" ++ query | none => "")
    ++ (match url.fragment with | some fragment => "#" ++ fragment | none => "")

end DfsClient
