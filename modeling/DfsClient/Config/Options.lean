import DfsClient.Config.Snapshot

/-! Connection options read from a snapshot. Each option has one key; a value
that is missing or not well formed leaves the option at its default. -/

namespace DfsClient

inductive Authentication where
  | simple
  | kerberos
deriving DecidableEq, Repr

/-- Times are in milliseconds, sizes in bytes. -/
structure Options where
  rpcTimeout : Nat := 30000
  rpcConnectTimeout : Nat := 30000
  rpcRetries : Nat := 0
  rpcRetryDelay : Nat := 10000
  failoverRetries : Nat := 4
  failoverConnectionRetries : Nat := 0
  authentication : Authentication := .simple
  blockSize : Nat := 134217728
  defaultFs : Option Url := none
deriving DecidableEq, Repr

namespace Options

def defaultFsKey : String := "fs.defaultFS"
def rpcTimeoutKey : String := "dfs.client.socket-timeout"
def rpcConnectTimeoutKey : String := "ipc.client.connect.timeout"
def rpcRetriesKey : String := "ipc.client.connect.max.retries"
def rpcRetryDelayKey : String := "ipc.client.connect.retry.interval"
def failoverRetriesKey : String := "dfs.client.failover.max.attempts"
def failoverConnectionRetriesKey : String := "dfs.client.failover.connection.retries"
def authenticationKey : String := "hadoop.security.authentication"
def blockSizeKey : String := "dfs.blocksize"

def keys : List String :=
  [defaultFsKey, rpcTimeoutKey, rpcConnectTimeoutKey, rpcRetriesKey, rpcRetryDelayKey,
    failoverRetriesKey, failoverConnectionRetriesKey, authenticationKey, blockSizeKey]

def numberUpTo? (bound : Int) (text : String) : Option Nat :=
  ((Snapshot.integerOf? text).bind fun n => Text.within? 0 bound n.toInt).map Int.toNat

def amount (snapshot : Snapshot) (key : String) (default : Nat) : Nat :=
  ((snapshot.get? key).bind (numberUpTo? Text.greatest64)).getD default

def count (snapshot : Snapshot) (key : String) (default : Nat) : Nat :=
  ((snapshot.get? key).bind (numberUpTo? 4294967295)).getD default

def authenticationOf (text : String) : Authentication :=
  if Text.sameFolded (Text.trim text) "kerberos" then .kerberos else .simple

def ofSnapshot [Formats] (snapshot : Snapshot) : Options :=
  let default : Options := {}
  { rpcTimeout := amount snapshot rpcTimeoutKey default.rpcTimeout
    rpcConnectTimeout := amount snapshot rpcConnectTimeoutKey default.rpcConnectTimeout
    rpcRetries := count snapshot rpcRetriesKey default.rpcRetries
    rpcRetryDelay := amount snapshot rpcRetryDelayKey default.rpcRetryDelay
    failoverRetries := count snapshot failoverRetriesKey default.failoverRetries
    failoverConnectionRetries :=
      count snapshot failoverConnectionRetriesKey default.failoverConnectionRetries
    authentication := ((snapshot.get? authenticationKey).map authenticationOf).getD .simple
    blockSize := amount snapshot blockSizeKey default.blockSize
    defaultFs := snapshot.getUrl? defaultFsKey }

/-- Why the default file system of a snapshot is ignored, with the text at fault. -/
def defaultFsProblem? [Formats] (snapshot : Snapshot) : Option (String × String) :=
  match snapshot.get? defaultFsKey with
  | none => none
  | some text =>
    match Formats.url (Text.trim text) with
    | .ok _ => none
    | .error message => some (text, message)

end Options
end DfsClient
