import DfsClient.Text.Quoted

/-! Where a session connects to. -/

namespace DfsClient.Boundary

def defaultPort : UInt16 := 8020

inductive Endpoint where
  | defaultFs
  | explicit (host : String) (port : UInt16)
deriving DecidableEq, Repr

namespace Endpoint

/-- Without host and port the configured default is meant. Either one selects
an explicit endpoint, where a missing host is empty and a missing port is the
default one. -/
def resolve : Option String → Option UInt16 → Endpoint
  | none, none => .defaultFs
  | host, port => .explicit (host.getD "") (port.getD defaultPort)

def describe : Endpoint → String
  | .defaultFs => "DefaultFs"
  | .explicit host port =>
    "Explicit \x7b host: " ++ Text.quoted host ++ ", port: " ++ toString port.toNat ++ " \x7d"

end Endpoint

/-- Port 0 asks for no port in particular. -/
def portOverride (port : UInt16) : Option UInt16 := if port = 0 then none else some port

end DfsClient.Boundary
