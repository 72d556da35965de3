import ClaimOperator.Cluster.BaseAddress
import ClaimOperator.Number.Reading
import ClaimOperator.Settings.Variables

/-! Settings of the client that speaks to the API server. -/

set_option autoImplicit false

namespace ClaimOperator

/-- How often, and after what, the connection repeats a call. A conflict is never repeated here. -/
structure Retries where
  total : Int := 3
  backoffFactor : Number.Binary64 := .ofDecimal false 5 (-1)
  greatestWait : Number.Binary64 := .ofDecimal false 10 0
  heedsRetryAfter : Bool := true
  methods : List String := ["DELETE", "GET", "PUT"]
  statuses : List Nat := [429, 502, 503, 504]
  jitter : Number.Binary64 := .ofDecimal false 1 0
  deriving DecidableEq, Repr

structure ClusterSettings where
  apiUrl : String
  token : String
  authorityFile : Option String := none
  verifiesTls : Bool := true
  timeoutSeconds : Number.Binary64
  retry : Retries := {}
  deriving DecidableEq, Repr

namespace ClusterSettings

def defaultTimeout : Number.Binary64 := .ofDecimal false 10 0

def timeout (env : Environment) : Except SettingError Number.Binary64 :=
  match env.trimmed? "KUBE_TIMEOUT_SECONDS" with
  | none => .ok defaultTimeout
  | some text =>
    match Number.Binary64.ofText? text with
    | some seconds => .ok seconds
    | none => .error (.notNumber "KUBE_TIMEOUT_SECONDS" text)

def load (env : Environment) (retry : Retries) : Except SettingError ClusterSettings := do
  discard <| env.require ["KUBE_API_URL", "KUBE_TOKEN"]
  let timeout ← timeout env
  let skipsVerification ← env.flag "KUBE_INSECURE_SKIP_TLS_VERIFY" false
  return {
    apiUrl := Text.withoutFinal '/' ((env.get? "KUBE_API_URL").getD "")
    token := (env.get? "KUBE_TOKEN").getD ""
    authorityFile := env.trimmed? "KUBE_CA_CERT"
    verifiesTls := !skipsVerification
    timeoutSeconds := timeout
    retry := retry }

end ClusterSettings

inductive ClientError where
  | authorityFileMissing
  | invalidAddress
  | tokenNotAscii
  deriving DecidableEq, Repr

structure ClientProfile where
  base : Cluster.BaseAddress
  timeoutSeconds : Number.Binary64
  authorization : String
  accept : String
  retry : Retries

namespace ClientProfile

/-- The certificate file is looked at only if certificates are verified. -/
def of (config : ClusterSettings) (fileExists : String → Bool) : Except ClientError ClientProfile :=
  let missing := config.verifiesTls && (config.authorityFile.map fun path => !fileExists path).getD false
  if missing then .error .authorityFileMissing
  else
    match Cluster.BaseAddress.ofText? config.apiUrl with
    | none => .error .invalidAddress
    | some base =>
      if config.token.toList.all (·.toNat < 0x80) then .ok
        { base := base
          timeoutSeconds := config.timeoutSeconds
          authorization := "Bearer " ++ config.token
          accept := "application/json"
          retry := config.retry }
      else .error .tokenNotAscii

end ClientProfile

end ClaimOperator
