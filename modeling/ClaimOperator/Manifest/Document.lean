import ClaimOperator.Manifest.Checked
import ClaimOperator.Resource.Object

/-! Manifests as documents: the shape of both kinds, before phases and statuses are resolved.

Names of phases and of condition statuses are still text here, because a
document may have the right shape and still name a phase that does not exist.
-/

set_option autoImplicit false

namespace ClaimOperator.Manifest

def apiVersion : String := "gcp.managed.openshift.io/v1alpha1"

structure ConditionDocument where
  type : String
  status : String
  reason : String
  message : String
  transitionTime : Option Timestamp
  probeTime : Option Timestamp

structure ClaimStatusDocument where
  state : String := ""
  conditions : Option (List ConditionDocument) := none

structure ReferenceStatusDocument where
  state : String := ""

@[reducible] def StatusDocument : Kind → Type
  | .claim => ClaimStatusDocument
  | .reference => ReferenceStatusDocument

structure Document (kind : Kind) where
  metadata : Metadata
  spec : kind.Spec
  status : StatusDocument kind

namespace Labels

def apiVersion : Label := ⟨"apiVersion", "api_version"⟩
def kind : Label := { written := "kind" }
def metadata : Label := { written := "metadata" }
def spec : Label := { written := "spec" }
def status : Label := { written := "status" }
def name : Label := { written := "name" }
def space : Label := { written := "namespace" }
def id : Label := { written := "id" }
def finalizers : Label := { written := "finalizers" }
def deletionTime : Label := ⟨"deletionTimestamp", "deletion_timestamp"⟩
def version : Label := ⟨"resourceVersion", "resource_version"⟩
def legalEntity : Label := ⟨"legalEntity", "legal_entity"⟩
def region : Label := { written := "region" }
def credentialSecret : Label := ⟨"gcpCredentialSecret", "gcp_credential_secret"⟩
def projectId : Label := ⟨"gcpProjectID", "gcp_project_id"⟩
def referenceLink : Label := ⟨"projectReferenceCRLink", "project_reference_link"⟩
def claimLink : Label := ⟨"projectClaimCRLink", "project_claim_link"⟩
def state : Label := { written := "state" }
def conditions : Label := { written := "conditions" }
def type : Label := { written := "type" }
def reason : Label := { written := "reason" }
def message : Label := { written := "message" }
def transitionTime : Label := ⟨"lastTransitionTime", "last_transition_time"⟩
def probeTime : Label := ⟨"lastProbeTime", "last_probe_time"⟩

attribute [scoped simp] apiVersion kind metadata spec status name space id finalizers deletionTime version
  legalEntity region credentialSecret projectId referenceLink claimLink state conditions type reason message
  transitionTime probeTime

end Labels

open Reader

def readLink : Reader ObjectKey := object fun fields =>
  (fun name space => ⟨space, name⟩)
    <$> Labels.name.optional string "" fields
    <*> Labels.space.optional string "" fields

def readLegalEntity : Reader LegalEntity := object fun fields =>
  LegalEntity.mk
    <$> Labels.name.optional string "" fields
    <*> Labels.id.optional string "" fields

def readMetadata : Reader Metadata := object fun fields =>
  (fun name space => Metadata.mk ⟨space, name⟩)
    <$> Labels.name.required string fields
    <*> Labels.space.optional string "" fields
    <*> Labels.finalizers.optional (list string) [] fields
    <*> Labels.deletionTime.optional (nullable timestamp) none fields
    <*> Labels.version.optional (nullable string) none fields

def readClaimSpec : Reader ClaimSpec := object fun fields =>
  ClaimSpec.mk
    <$> Labels.legalEntity.required readLegalEntity fields
    <*> Labels.region.optional string "" fields
    <*> Labels.credentialSecret.optional readLink {} fields
    <*> Labels.projectId.optional string "" fields
    <*> Labels.referenceLink.optional readLink {} fields

def readReferenceSpec : Reader ReferenceSpec := object fun fields =>
  (fun projectId claimLink legalEntity => ReferenceSpec.mk legalEntity projectId claimLink)
    <$> Labels.projectId.optional string "" fields
    <*> Labels.claimLink.optional readLink {} fields
    <*> Labels.legalEntity.required readLegalEntity fields

def readCondition : Reader ConditionDocument := object fun fields =>
  ConditionDocument.mk
    <$> Labels.type.required string fields
    <*> Labels.status.required string fields
    <*> Labels.reason.optional string "" fields
    <*> Labels.message.optional string "" fields
    <*> Labels.transitionTime.optional (nullable timestamp) none fields
    <*> Labels.probeTime.optional (nullable timestamp) none fields

def readClaimStatus : Reader ClaimStatusDocument := object fun fields =>
  ClaimStatusDocument.mk
    <$> Labels.state.optional string "" fields
    <*> Labels.conditions.optional (nullable (list readCondition)) none fields

def readReferenceStatus : Reader ReferenceStatusDocument := object fun fields =>
  ReferenceStatusDocument.mk <$> Labels.state.optional string "" fields

def readSpec : (kind : Kind) → Reader kind.Spec
  | .claim => readClaimSpec
  | .reference => readReferenceSpec

def readStatus : (kind : Kind) → Reader (StatusDocument kind)
  | .claim => readClaimStatus
  | .reference => readReferenceStatus

def absentStatus : (kind : Kind) → StatusDocument kind
  | .claim => {}
  | .reference => {}

def readDocument (kind : Kind) : Reader (Document kind) := object fun fields =>
  (fun _ _ => Document.mk)
    <$> Labels.apiVersion.optional string apiVersion fields
    <*> Labels.kind.optional (literal kind.text) () fields
    <*> Labels.metadata.required readMetadata fields
    <*> Labels.spec.required (readSpec kind) fields
    <*> Labels.status.optional (readStatus kind) (absentStatus kind) fields

end ClaimOperator.Manifest
