import PanelQuery.Config.Endpoint
import PanelQuery.Json.Value
import PanelQuery.Text.Lowercase

/-!
The settings of the service, taken from environment variables. Names are read without regard to
case; a variable given twice that way is refused, and unknown ones are ignored. Amounts are at least
one.
-/

namespace PanelQuery

structure Settings where
  listen : Endpoint
  apiKey : Option String
  progressBuffer : Nat
  features : List String
  defaultListLimit : Nat
  pushTimeoutSecs : Nat
  requestTimeoutSecs : Nat

/-- Why there are no settings. -/
inductive SettingsFault where
  | unreadable
  | listenAddress
  | hostAndPort
  deriving DecidableEq, Repr

def SettingsFault.message : SettingsFault → String
  | .unreadable => "failed to parse CHQUERY_* environment variables"
  | .listenAddress => "invalid CHQUERY_LISTEN_ADDR value"
  | .hostAndPort => "invalid listen host/port combination"

namespace Settings

/-- The variables by lower-case name. -/
abbrev Environment := List (String × String)

/-- The names of the variables that are read, in lower case. -/
def names : List String :=
  ["chquery_listen_addr", "chquery_listen_host", "chquery_listen_port", "chquery_api_key",
   "chquery_progress_buffer", "chquery_features", "chquery_default_list_limit",
   "chquery_config_push_timeout_secs", "chquery_request_timeout_secs"]

/-- The variables that are read, each at most once. -/
def environment? (given : List (String × String)) : Option Environment :=
  let known := (given.map fun (name, value) => (Text.lowercase name, value)).filter
    fun v => names.contains v.1
  if (known.map (·.1)).Nodup then some known else none

/-- An amount, or `default` for an absent variable. -/
def amount? (env : Environment) (name : String) (default : Nat) : Option Nat :=
  match env.lookup name with
  | none => some default
  | some text => (Decimal.uint64OfText? text).map UInt64.toNat

/-- The entries of a list with commas, without the white space around them. -/
def entries (text : String) : List String :=
  ((Text.splitOnChar ',' text.toList).map fun e => Text.trim (String.ofList e)).filter (· ≠ "")

/-- The address to listen on: given whole, or by host and port. -/
def listenOf (address host : Option String) (port : Nat) : Except SettingsFault Endpoint :=
  match address with
  | some address => match Endpoint.ofText? address with
    | some endpoint => .ok endpoint
    | none => .error .listenAddress
  | none => match Endpoint.ofText? (host.getD "0.0.0.0" ++ ":" ++ toString port) with
    | some endpoint => .ok endpoint
    | none => .error .hostAndPort

/-- The amounts in the variables: port, buffer, list limit and the two timeouts. -/
def amounts? (env : Environment) : Option (Nat × Nat × Nat × Nat × Nat) := do
  let port ← amount? env "chquery_listen_port" 8481
  if 65536 ≤ port then none
  return (port, ← amount? env "chquery_progress_buffer" 1000,
    ← amount? env "chquery_default_list_limit" 100,
    ← amount? env "chquery_config_push_timeout_secs" 60,
    ← amount? env "chquery_request_timeout_secs" 30)

def ofVariables (given : List (String × String)) : Except SettingsFault Settings :=
  match environment? given with
  | none => .error .unreadable
  | some env => match amounts? env with
    | none => .error .unreadable
    | some (port, buffer, limit, push, request) => do
      let listen ← listenOf (env.lookup "chquery_listen_addr") (env.lookup "chquery_listen_host")
        port
      return { listen
               apiKey := (env.lookup "chquery_api_key").filter (· ≠ "")
               progressBuffer := max buffer 1
               features := ((env.lookup "chquery_features").map entries).getD []
               defaultListLimit := max limit 1
               pushTimeoutSecs := max push 1
               requestTimeoutSecs := max request 1 }

def toJson (s : Settings) : Json := .obj
  [("listenAddr", .str s.listen.text),
   ("apiKey", Json.ofText? s.apiKey),
   ("progressBuffer", .int s.progressBuffer),
   ("features", .arr (s.features.map .str)),
   ("defaultListLimit", .int s.defaultListLimit),
   ("configPushTimeoutSecs", .int s.pushTimeoutSecs),
   ("requestTimeoutSecs", .int s.requestTimeoutSecs)]

end Settings

end PanelQuery
