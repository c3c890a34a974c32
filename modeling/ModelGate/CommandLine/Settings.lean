import ModelGate.CommandLine.Flag
import ModelGate.Json.Basic

/-!
# Settings of the program

The settings that a command line gives. Options are taken one after the other: a value may be
attached by an equals sign or follow as the next argument, and nothing else may be there.
-/

namespace ModelGate.CommandLine

inductive LogFormat where
  | plain
  | json
  deriving DecidableEq, Repr

def LogFormat.name : LogFormat → String
  | .plain => "plain"
  | .json => "json"

structure Settings where
  logLevel : String
  logFormat : LogFormat
  cluster : Option String
  context : Option String
  user : Option String
  kubeconfig : Option String
  impersonateUser : Option String
  impersonateGroup : Option String
  adminAddr : Net.SocketAddress
  decisionAddr : Net.SocketAddress
  decisionTimeoutMs : Nat
  tierCacheTtlSecs : Nat
  tierMappingName : String
  tierMappingNamespace : String
  gatewayName : String
  gatewayNamespace : String
  controllerDeploymentName : String
  controllerNamespace : String
  requestTimeoutMs : Nat
  reconcileConcurrency : Nat
  deriving DecidableEq, Repr

/-- The options taken so far, and the last one while its value is not checked yet. -/
structure Taken where
  given : List (Flag × String)
  pending : Option (Flag × Option String)

namespace Taken

/-- Takes an option with its value. -/
def accept (taken : Taken) (flag : Flag) (value : Option String) : Except ArgumentError Taken :=
  match value with
  | none => .error .invalidValue
  | some value =>
    if taken.given.any (·.1 == flag) then .error .argumentConflict
    else
      match flag.fault? value with
      | some error => .error error
      | none => .ok ⟨taken.given ++ [(flag, value)], none⟩

/-- Takes the last option. -/
def settle (taken : Taken) : Except ArgumentError Taken :=
  match taken.pending with
  | none => .ok taken
  | some (flag, value) => { taken with pending := none }.accept flag value

/-- The name and the attached value of an argument behind its two hyphens. -/
def splitAttached (cs : List Char) : String × Option String :=
  let name := String.ofList (cs.takeWhile (· != '='))
  match cs.dropWhile (· != '=') with
  | [] => (name, none)
  | _ :: value => (name, some (String.ofList value))

/-- Takes an argument that starts with two hyphens. -/
def takeLong (taken : Taken) (cs : List Char) : Except ArgumentError Taken :=
  let (name, attached) := splitAttached cs
  match Flag.ofName? name with
  | none => .error .unknownArgument
  | some flag => do
    let taken ← taken.settle
    match attached with
    | some value => taken.accept flag (some value)
    | none => .ok { taken with pending := some (flag, none) }

/-- Takes an argument that may be the value of the option before it. -/
def takeValue (taken : Taken) (argument : String) : Except ArgumentError Taken :=
  match taken.pending with
  | some (flag, none) => .ok { taken with pending := some (flag, some argument) }
  | _ => .error .unknownArgument

/-- Takes all arguments. Behind two hyphens alone nothing may follow. -/
def takeAll (taken : Taken) : List String → Except ArgumentError Taken
  | [] => taken.settle
  | argument :: rest =>
    match argument.toList with
    | ['-', '-'] => if rest.isEmpty then taken.settle else .error .unknownArgument
    | '-' :: '-' :: cs => do (← taken.takeLong cs).takeAll rest
    | '-' :: _ :: _ => .error .unknownArgument
    | _ => do (← taken.takeValue argument).takeAll rest

/-- Takes the environment variable of an option that is not given. -/
def takeVariable (environment : List (String × String)) (taken : Taken) (flag : Flag) :
    Except ArgumentError Taken :=
  match flag.envName?.bind fun name => environment.lookup name with
  | some value =>
    if taken.given.any (·.1 == flag) then .ok taken else taken.accept flag (some value)
  | none => .ok taken

def value? (taken : Taken) (flag : Flag) : Option String :=
  (taken.given.lookup flag).or flag.default?

def text (taken : Taken) (flag : Flag) : String :=
  (taken.value? flag).getD ""

def address (taken : Taken) (flag : Flag) : Net.SocketAddress :=
  (Net.SocketAddress.parse? (taken.text flag)).getD (.v4 [0, 0, 0, 0] 0)

def number (taken : Taken) (flag : Flag) : Nat :=
  (Flag.unsigned? UInt64.size (taken.text flag)).getD 0

def settings (taken : Taken) : Settings where
  logLevel := taken.text .logLevel
  logFormat := if taken.text .logFormat = "json" then .json else .plain
  cluster := taken.value? .cluster
  context := taken.value? .context
  user := taken.value? .user
  kubeconfig := taken.value? .kubeconfig
  impersonateUser := taken.value? .impersonateUser
  impersonateGroup := taken.value? .impersonateGroup
  adminAddr := taken.address .adminAddr
  decisionAddr := taken.address .decisionAddr
  decisionTimeoutMs := taken.number .decisionTimeoutMs
  tierCacheTtlSecs := taken.number .tierCacheTtlSecs
  tierMappingName := taken.text .tierMappingName
  tierMappingNamespace := taken.text .tierMappingNamespace
  gatewayName := taken.text .gatewayName
  gatewayNamespace := taken.text .gatewayNamespace
  controllerDeploymentName := taken.text .controllerDeploymentName
  controllerNamespace := taken.text .controllerNamespace
  requestTimeoutMs := taken.number .requestTimeoutMs
  reconcileConcurrency := taken.number .reconcileConcurrency

end Taken

def parse (arguments : List String) (environment : List (String × String)) :
    Except ArgumentError Settings := do
  let taken ← Taken.takeAll ⟨[], none⟩ arguments
  return (← Flag.all.foldlM (Taken.takeVariable environment) taken).settings

def Settings.toJson (s : Settings) : Json :=
  .obj [("logFormat", .str s.logFormat.name), ("cluster", Json.ofString? s.cluster),
    ("context", Json.ofString? s.context), ("user", Json.ofString? s.user),
    ("kubeconfig", Json.ofString? s.kubeconfig),
    ("impersonateUser", Json.ofString? s.impersonateUser),
    ("impersonateGroup", Json.ofString? s.impersonateGroup),
    ("adminAddr", .str s.adminAddr.text), ("decisionAddr", .str s.decisionAddr.text),
    ("decisionTimeoutMs", .int s.decisionTimeoutMs),
    ("tierCacheTtlSecs", .int s.tierCacheTtlSecs),
    ("tierMappingName", .str s.tierMappingName),
    ("tierMappingNamespace", .str s.tierMappingNamespace),
    ("gatewayName", .str s.gatewayName), ("gatewayNamespace", .str s.gatewayNamespace),
    ("controllerDeploymentName", .str s.controllerDeploymentName),
    ("controllerNamespace", .str s.controllerNamespace),
    ("requestTimeoutMs", .int s.requestTimeoutMs),
    ("reconcileConcurrency", .int s.reconcileConcurrency)]

end ModelGate.CommandLine
