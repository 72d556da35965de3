import ClaimOperator.Json.Overlay
import ClaimOperator.Manifest.Document

/-! Objects and their manifests.

`encode` writes every field of an object but the ones that are absent, and an
unset phase as empty text. `decode` reads the document and then resolves the
names in it; a phase that does not exist is reported before a condition status.
-/

set_option autoImplicit false

namespace ClaimOperator.Manifest

inductive Error where
  | invalid (issues : List Issue)
  | unknownClaimState (state : String)
  | unknownReferenceState (state : String)
  | unknownConditionStatus (type status : String)
  | unsupportedKind (name : String)
  deriving DecidableEq, Repr

def Error.message : Error → String
  | invalid _ => ""
  | unknownClaimState state => "Unknown ProjectClaim state: " ++ Text.quote state
  | unknownReferenceState state => "Unknown ProjectReference state: " ++ Text.quote state
  | unknownConditionStatus type status => "Unknown condition " ++ type ++ "=" ++ status
  | unsupportedKind name => "Unsupported record type: " ++ name

def resolveClaimPhase (state : String) : Except Error (Option ClaimPhase) :=
  if state = "" then .ok none
  else
    match ClaimPhase.ofText? state with
    | some phase => .ok (some phase)
    | none => .error (.unknownClaimState state)

def resolveReferencePhase (state : String) : Except Error (Option ReferencePhase) :=
  if state = "" then .ok none
  else
    match ReferencePhase.ofText? state with
    | some phase => .ok (some phase)
    | none => .error (.unknownReferenceState state)

/-- A time that was never recorded is the epoch. -/
def resolveCondition (document : ConditionDocument) : Except Error Condition :=
  match ConditionStatus.ofText? document.status with
  | some status => .ok
    { type := document.type
      status := status
      reason := document.reason
      message := document.message
      transitionTime := document.transitionTime.getD .epoch
      probeTime := document.probeTime.getD .epoch }
  | none => .error (.unknownConditionStatus document.type document.status)

def resolveConditions : List ConditionDocument → Except Error (List Condition)
  | [] => .ok []
  | document :: rest => do
    let condition ← resolveCondition document
    let conditions ← resolveConditions rest
    return condition :: conditions

def resolveClaimStatus (document : ClaimStatusDocument) : Except Error ClaimStatus := do
  let phase ← resolveClaimPhase document.state
  match document.conditions with
  | none => return ⟨phase, none⟩
  | some documents =>
    let conditions ← resolveConditions documents
    return ⟨phase, some conditions⟩

def resolveReferenceStatus (document : ReferenceStatusDocument) : Except Error ReferenceStatus := do
  let phase ← resolveReferencePhase document.state
  return ⟨phase⟩

def resolveStatus : {kind : Kind} → StatusDocument kind → Except Error kind.Status
  | .claim, document => resolveClaimStatus document
  | .reference, document => resolveReferenceStatus document

def decode (kind : Kind) (manifest : Json) : Except Error (Object kind) :=
  match readDocument kind manifest with
  | .invalid issues => .error (.invalid issues)
  | .valid document => do
    let status ← resolveStatus document.status
    return ⟨document.metadata, document.spec, status⟩

/-- Reading under a kind's name; there are objects only of the two kinds. -/
def decodeNamed (name : String) (manifest : Json) : Except Error AnyObject :=
  match Kind.ofText? name with
  | some kind => (decode kind manifest).map (AnyObject.mk kind)
  | none => .error (.unsupportedKind name)

def encodeLink (link : ObjectKey) : Json :=
  .object [("name", .string link.name), ("namespace", .string link.space)]

def encodeLegalEntity (entity : LegalEntity) : Json :=
  .object [("name", .string entity.name), ("id", .string entity.id)]

def encodeTimestamp (stamp : Timestamp) : Json := .string (stamp.write .zulu)

def present (key : String) (value : Option Json) : Json.Fields :=
  match value with
  | some value => [(key, value)]
  | none => []

def encodeMetadata (metadata : Metadata) : Json :=
  .object <|
    [("name", .string metadata.key.name), ("namespace", .string metadata.key.space),
      ("finalizers", .array (metadata.finalizers.map .string))] ++
    present "deletionTimestamp" (metadata.deletionTime.map encodeTimestamp) ++
    present "resourceVersion" (metadata.version.map .string)

def encodeClaimSpec (spec : ClaimSpec) : Json :=
  .object
    [("legalEntity", encodeLegalEntity spec.legalEntity), ("region", .string spec.region),
      ("gcpCredentialSecret", encodeLink spec.credentialSecret), ("gcpProjectID", .string spec.projectId),
      ("projectReferenceCRLink", encodeLink spec.referenceLink)]

def encodeReferenceSpec (spec : ReferenceSpec) : Json :=
  .object
    [("gcpProjectID", .string spec.projectId), ("projectClaimCRLink", encodeLink spec.claimLink),
      ("legalEntity", encodeLegalEntity spec.legalEntity)]

def encodeCondition (condition : Condition) : Json :=
  .object
    [("type", .string condition.type), ("status", .string condition.status.text),
      ("reason", .string condition.reason), ("message", .string condition.message),
      ("lastTransitionTime", encodeTimestamp condition.transitionTime),
      ("lastProbeTime", encodeTimestamp condition.probeTime)]

def encodeClaimStatus (status : ClaimStatus) : Json :=
  .object <|
    [("state", .string ((status.phase.map ClaimPhase.text).getD ""))] ++
    present "conditions" (status.conditions.map fun conditions => .array (conditions.map encodeCondition))

def encodeReferenceStatus (status : ReferenceStatus) : Json :=
  .object [("state", .string ((status.phase.map ReferencePhase.text).getD ""))]

def encodeSpec : {kind : Kind} → kind.Spec → Json
  | .claim, spec => encodeClaimSpec spec
  | .reference, spec => encodeReferenceSpec spec

def encodeStatus : {kind : Kind} → kind.Status → Json
  | .claim, status => encodeClaimStatus status
  | .reference, status => encodeReferenceStatus status

def encodeFields {kind : Kind} (object : Object kind) : Json.Fields :=
  [("apiVersion", .string apiVersion), ("kind", .string kind.text),
    ("metadata", encodeMetadata object.metadata), ("spec", encodeSpec object.spec),
    ("status", encodeStatus object.status)]

def encode {kind : Kind} (object : Object kind) : Json := .object (encodeFields object)

end ClaimOperator.Manifest
