import ModelGate.Log.Filter
import ModelGate.Net.SocketAddress

/-!
# Options of the command line

Every option has a name, a default or none, and a check of its values. Two can also be given by
environment variables.
-/

namespace ModelGate.CommandLine

/-- Why a command line is refused. -/
inductive ArgumentError where
  | unknownArgument
  /-- A value is missing, or empty where it must not be. -/
  | invalidValue
  | valueValidation
  /-- An option is given twice. -/
  | argumentConflict
  deriving DecidableEq, Repr

/-- An option of the command line. -/
inductive Flag where
  | logLevel
  | logFormat
  | cluster
  | context
  | user
  | kubeconfig
  | impersonateUser
  | impersonateGroup
  | adminAddr
  | decisionAddr
  | decisionTimeoutMs
  | tierCacheTtlSecs
  | tierMappingName
  | tierMappingNamespace
  | gatewayName
  | gatewayNamespace
  | controllerDeploymentName
  | controllerNamespace
  | requestTimeoutMs
  | reconcileConcurrency
  deriving DecidableEq, Repr

namespace Flag

def all : List Flag :=
  [logLevel, logFormat, cluster, context, user, kubeconfig, impersonateUser, impersonateGroup,
    adminAddr, decisionAddr, decisionTimeoutMs, tierCacheTtlSecs, tierMappingName,
    tierMappingNamespace, gatewayName, gatewayNamespace, controllerDeploymentName,
    controllerNamespace, requestTimeoutMs, reconcileConcurrency]

/-- The name of an option, without its hyphens. -/
def name : Flag → String
  | logLevel => "log-level"
  | logFormat => "log-format"
  | cluster => "cluster"
  | context => "context"
  | user => "user"
  | kubeconfig => "kubeconfig"
  | impersonateUser => "as"
  | impersonateGroup => "as-group"
  | adminAddr => "admin-addr"
  | decisionAddr => "decision-addr"
  | decisionTimeoutMs => "decision-timeout-ms"
  | tierCacheTtlSecs => "tier-cache-ttl-secs"
  | tierMappingName => "tier-mapping-name"
  | tierMappingNamespace => "tier-mapping-namespace"
  | gatewayName => "gateway-name"
  | gatewayNamespace => "gateway-namespace"
  | controllerDeploymentName => "controller-deployment-name"
  | controllerNamespace => "controller-namespace"
  | requestTimeoutMs => "request-timeout-ms"
  | reconcileConcurrency => "reconcile-concurrency"

def ofName? (name : String) : Option Flag :=
  all.find? (·.name == name)

/-- The environment variable that counts when an option is not given. -/
def envName? : Flag → Option String
  | logLevel => some "MAAS_CONTROLLER_LOG"
  | controllerNamespace => some "POD_NAMESPACE"
  | _ => none

/-- The value of an option that is not given at all. -/
def default? : Flag → Option String
  | logLevel => some "maas=info,warn"
  | logFormat => some "plain"
  | adminAddr => some "0.0.0.0:8080"
  | decisionAddr => some "0.0.0.0:8080"
  | decisionTimeoutMs => some "2000"
  | tierCacheTtlSecs => some "300"
  | tierMappingName => some "tier-to-group-mapping"
  | tierMappingNamespace => some "maas-api"
  | gatewayName => some "maas-default-gateway"
  | gatewayNamespace => some "openshift-ingress"
  | controllerDeploymentName => some "maas-controller"
  | controllerNamespace => some "opendatahub"
  | requestTimeoutMs => some "5000"
  | reconcileConcurrency => some "8"
  | _ => none

/-- The value of a run of decimal digits. -/
def digits? (cs : List Char) : Option Nat :=
  if !cs.isEmpty && cs.all Char.isDigit then
    some (cs.foldl (fun n c => n * 10 + (c.toNat - 48)) 0)
  else none

/-- The value of a number below a bound; a plus sign may stand in front. -/
def unsigned? (bound : Nat) (text : String) : Option Nat :=
  let digits := match text.toList with
    | '+' :: rest => rest
    | cs => cs
  (digits? digits).filter fun n => decide (n < bound)

/-- The value of a 16-bit number that may also be written as a negative zero. -/
def small? (text : String) : Option Nat :=
  match text.toList with
  | '-' :: rest => (digits? rest).filter (· == 0)
  | _ => unsigned? UInt16.size text

/-- What is wrong with the value of an option. -/
def fault? (flag : Flag) (value : String) : Option ArgumentError :=
  let valid (ok : Bool) : Option ArgumentError := if ok then none else some .valueValidation
  match flag with
  | logLevel => valid (Log.isFilter value)
  | logFormat => valid (value == "plain" || value == "json")
  | kubeconfig => if value.isEmpty then some .invalidValue else none
  | adminAddr | decisionAddr => valid (Net.SocketAddress.parse? value).isSome
  | decisionTimeoutMs | tierCacheTtlSecs | requestTimeoutMs =>
    valid (unsigned? UInt64.size value).isSome
  | reconcileConcurrency => valid (small? value).isSome
  | _ => none

end Flag

end ModelGate.CommandLine
