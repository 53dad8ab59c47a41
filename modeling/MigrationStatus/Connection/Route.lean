import MigrationStatus.Connection.Address
/-!
Where an address leads: which host or socket a connection is made to, and what keeps it from being
tried.

The parameters in the query of an address come after the address itself and count more. One that is
not known is passed over; the first that is known and wrong ends the reading.
-/

namespace MigrationStatus.Connection

/-- Why an address leads nowhere. -/
inductive RouteError where
  | address (error : AddressError)
  /-- A part of the address is no text once its percent signs are read. -/
  | notText (fault : Text.Utf8.Fault)
  /-- A word for how the connection is to be encrypted that is not known. -/
  | encryption (word : String)
  | number (fault : Text.NumberFault)
  | hostAddress
  deriving DecidableEq, Repr

def RouteError.message : RouteError → String
  | .address error => error.message
  | .notText fault => fault.message
  | .encryption word =>
    s!"error with configuration: unknown value {Text.quoted word} for " ++ "\x60ssl_mode\x60"
  | .number fault => fault.message
  | .hostAddress => "invalid IP address syntax"

/-- Where a connection is made to. -/
structure Route where
  /-- The folder of a socket, which counts more than a host. -/
  socket : Option String
  host : Option String
  port : UInt16
  deriving DecidableEq, Repr

namespace Route

/-- The port of a database. -/
def defaultPort : UInt16 := 5432

/-! ### The address itself -/

/-- The text that a part of an address stands for. -/
def partText (written : List Char) : Except RouteError String :=
  let bytes := Text.percentDecoded written
  match Text.Utf8.fault? bytes with
  | some fault => .error (.notText fault)
  | none => .ok (String.ofList (Text.Utf8.decodeLossy bytes))

/-- The route to a host; one that begins with a slash is the folder of a socket. -/
def withHost (route : Route) (host : String) : Route :=
  if host.toList.head? = some '/' then { route with socket := some host }
  else { route with host := some host }

/-- The route to the host of an address. -/
def ofHost (port : UInt16) (host : Option (List Char)) : Except RouteError Route := do
  let start : Route := { socket := none, host := none, port }
  match host with
  | none => return start
  | some host =>
    if (Text.percentDecoded host).head? = some '/'.toUInt8 then
      return start.withHost (← partText host)
    else return start.withHost (String.ofList host)

/-- The route of an address without its parameters. The user, the password and the name of the
database have to be texts, in this order. -/
def ofAddress (address : Address) : Except RouteError Route := do
  let route ← ofHost (address.port.getD defaultPort) address.host
  discard <| partText address.user
  discard <| partText (address.password.getD [])
  discard <| partText (address.path.dropWhile (· == '/'))
  return route

/-! ### Parameters -/

/-- The text that one side of a parameter stands for. A plus sign is a space, and what is no text is
replaced. -/
def sideText (written : List Char) : String :=
  String.ofList (Text.Utf8.decodeLossy (Text.percentDecoded (Text.replace '+' ' ' written)))

/-- The parameters of a query, each with its value. -/
def parameters (query : List Char) : List (String × String) :=
  ((query.splitOn '&').filter (!·.isEmpty)).map fun part =>
    let (name, value) := (Text.cut? ['='] part).getD (part, [])
    (sideText name, sideText value)

/-- The words for how a connection is to be encrypted. -/
def encryptionWords : List String :=
  ["disable", "allow", "prefer", "require", "verify-ca", "verify-full"]

/-- The number of a parameter. -/
def parameterNumber (limit : Nat) (value : String) : Except RouteError Nat :=
  (Text.number limit value.toList).mapError .number

/-- What a parameter does. -/
inductive Role where
  | encryption
  | cacheSize
  | host
  | hostAddress
  | port
  /-- It does not matter for where the connection leads. -/
  | other
  deriving DecidableEq, Repr

/-- The parameters with names of their own. -/
def roles : List (String × Role) :=
  [("sslmode", .encryption), ("ssl-mode", .encryption), ("statement-cache-capacity", .cacheSize),
    ("host", .host), ("hostaddr", .hostAddress), ("port", .port), ("sslrootcert", .other),
    ("ssl-root-cert", .other), ("ssl-ca", .other), ("sslcert", .other), ("ssl-cert", .other),
    ("sslkey", .other), ("ssl-key", .other), ("dbname", .other), ("user", .other),
    ("password", .other), ("application_name", .other), ("options", .other)]

/-- The beginning of the names that set one option each. -/
def optionStart : String := "options["

/-- What the parameter with a name does; nothing for a name that is not known. -/
def role? (name : String) : Option Role :=
  match roles.lookup name with
  | some role => some role
  | none => if (Text.after? optionStart.toList name.toList).isSome then some .other else none

/-- The route with a parameter. -/
def withParameter (route : Route) (role : Role) (value : String) : Except RouteError Route :=
  match role with
  | .encryption =>
    if encryptionWords.any fun word => Text.sameIgnoringCase word.toList value.toList then .ok route
    else .error (.encryption value)
  | .cacheSize => (parameterNumber UInt64.size value).map fun _ => route
  | .host => .ok (route.withHost value)
  | .hostAddress =>
    if Host.isIPv4 value.toList || Host.isIPv6 value.toList then
      .ok { route with host := some value }
    else .error .hostAddress
  | .port => (parameterNumber UInt16.size value).map fun n => { route with port := UInt16.ofNat n }
  | .other => .ok route

/-- Reads parameters up to the first that is wrong. The result holds those that were passed over,
and the route. -/
def readParameters (route : Route) :
    List (String × String) → List (String × String) × Except RouteError Route
  | [] => ([], .ok route)
  | (name, value) :: rest =>
    match role? name with
    | none =>
      let (ignored, result) := readParameters route rest
      ((name, value) :: ignored, result)
    | some role =>
      match route.withParameter role value with
      | .ok next => readParameters next rest
      | .error error => ([], .error error)

/-! ### The whole -/

/-- Reads an address: the parameters that are passed over, and the route. -/
def read (url : String) : List (String × String) × Except RouteError Route :=
  match Address.parse url with
  | .error error => ([], .error (.address error))
  | .ok address =>
    match ofAddress address with
    | .error error => ([], .error error)
    | .ok route => readParameters route (parameters address.query)

/-- Where an address leads. -/
def parse (url : String) : Except RouteError Route := (read url).2

/-- The parameters of an address that are passed over. -/
def ignored (url : String) : List (String × String) := (read url).1

end Route

end MigrationStatus.Connection
