/-
# Completion responses and runtime observations

A release ends with a response that repeats, field by field, the rows of its fleet run:
the release, its activation intent and the prepared tenants. The original writer brings
the response. A recovery does not: the database builds it from the rows and from a
runtime observation, so that a claimant can only report what it saw.

A comparison with a missing value is neither true nor false in SQL. Where a function
returns on a comparison, a missing value passes it, and the definitions below say so with
`differs`.
-/

import ControlPlane.Releases.Identity

namespace ControlPlane.Releases

open Domain Driver Math Persistence
open Routes Publications

/-! ## Fields -/

/-- The field is there, is not null, and has another text. -/
def differs (field : Option Json) (expected : String) : Bool :=
  match field with
  | none | some .null => false
  | some value => !Json.textIs (some value) expected

/-- A field of a field. -/
def nested (value : Json) (key inner : String) : Option Json :=
  (value.get key).bind fun field => field.get inner

variable (env : DatabaseEnvironment)

/-- The value that the extracted text of a field is stored as. -/
def extracted : Option Json → Json
  | none | some .null => .null
  | some (.string text) => .string text
  | some (.number value) => .string (toString value)
  | some (.bool value) => .string (toString value)
  | some value => .string (env.jsonbText value)

def isObject : Option Json → Bool
  | some (.object _) => true
  | _ => false

def isNumber : Option Json → Bool
  | some (.number _) => true
  | _ => false

def isString : Option Json → Bool
  | some (.string _) => true
  | _ => false

/-- The length of an array; other values have none. -/
def arrayLength : Json → Option Nat
  | .array items => some items.length
  | _ => none

/-- The sixteen digits of a digest that names are built from. -/
def digestPart (digest : String) : String :=
  String.ofList ((digest.toList.drop 7).take 16)

/-- `^mb-(control-|dev[1-4]-)?ext-<manifest>-<payload>$`. -/
def extensionVolumeFor (manifestDigest payloadDigest volume : String) : Bool :=
  ["", "control-", "dev1-", "dev2-", "dev3-", "dev4-"].any fun scope =>
    decide (volume = "mb-" ++ scope ++ "ext-" ++ digestPart manifestDigest ++ "-" ++
      digestPart payloadDigest)

/-- `^[a-z0-9][a-z0-9-]{0,110}-odoo-<slot>$`. -/
def runtimeContainerFor (slot : Slot) (container : String) : Bool :=
  let chars := container.toList
  let ending := ("-odoo-" ++ slot.asStr).toList
  let name := chars.take (chars.length - ending.length)
  decide (chars.drop (chars.length - ending.length) = ending) && decide (1 ≤ name.length) &&
    decide (name.length ≤ 111) && name.head?.any isLowerAlphanumeric &&
    name.all fun c => isLowerAlphanumeric c || decide (c = '-')

/-! ## The rows of a fleet run -/

/-- The intent that a release activates its slot with. -/
def FleetRun.intent (run : FleetRun) (identity : ReleaseIdentity) : List ActivationIntent :=
  run.intents.filter fun intent =>
    decide (intent.releaseId = run.releaseId) && decide (intent.runtimeKey = "shared-odoo") &&
      decide (intent.targetSlot = identity.targetSlot) &&
      decide (intent.driverFence = some identity.globalFence) &&
      decide (intent.gatewayIdentityVersion = some 1) && !intent.abandoned

/-- The gateway shows the configuration that the intent asked for. -/
def ActivationIntent.observed (intent : ActivationIntent) : Bool :=
  decide (intent.observedConfigurationDigest = some intent.gatewayConfigurationDigest) &&
    intent.activated

/-- The adoptions that are ready for the release. -/
def FleetRun.preparedAdoptions (run : FleetRun) (operation : Uuid) : List Adoption :=
  run.adoptions.filter fun adoption =>
    decide (adoption.operation = operation) && decide (adoption.releaseId = run.releaseId) &&
      adoption.prepared

def Adoption.toJson (adoption : Adoption) : Json :=
  .object [ ("adoption_id", .string adoption.id.toText),
    ("database_id", .string adoption.database.toText),
    ("database_ref", .string adoption.databaseRef),
    ("public_hostname", (adoption.publicHostname.map Json.string).getD .null),
    ("workshop_id", .string adoption.workshop.toText)]

def FleetRun.prepared (run : FleetRun) (operation : Uuid) : Json :=
  .array ((run.preparedAdoptions operation).map Adoption.toJson)

/-! ## Completion responses -/

/-- The keys of a completion's evidence. -/
def evidenceKeys : List String :=
  ["release_id", "odoo_subject_digest", "extension_subject_digest", "odoo_manifest_digest",
    "odoo_config_digest", "extension_manifest_digest", "extension_config_digest",
    "payload_digest", "extension_volume", "pair_qualification_digest", "bridge_contract_digest",
    "installed_addon_versions", "runtime_key", "target_slot", "runtime_container",
    "runtime_role", "runtime_deployment_ref", "runtime_config_digest", "prepared_tenants",
    "fleet_generation", "tenant_snapshot", "gateway_configuration_digest", "driver_action_id",
    "driver_operation_id", "driver_fence_token", "old_runtime_database_access_revoked",
    "tenant_recovery_verified", "candidate_smoke_verified", "candidate_restart_policy",
    "retained_restart_policy"]

/-- The keys whose values are strings. -/
def evidenceTexts : List String :=
  ["release_id", "odoo_subject_digest", "extension_subject_digest", "odoo_manifest_digest",
    "odoo_config_digest", "extension_manifest_digest", "extension_config_digest",
    "payload_digest", "extension_volume", "pair_qualification_digest", "bridge_contract_digest",
    "runtime_key", "target_slot", "runtime_container", "runtime_role",
    "runtime_deployment_ref", "runtime_config_digest", "gateway_configuration_digest",
    "candidate_restart_policy", "retained_restart_policy"]

/-- The evidence of a response that has the form of a completion. -/
def completionEvidence (response : Json) : Option Json :=
  match response with
  | .object [("evidence", .object fields)] =>
    if env.columnSize response ≤ 1048576 ∧ hasExactly fields evidenceKeys ∧
        (evidenceTexts.all fun key => isString (Json.get (.object fields) key)) ∧
        isNumber (Json.get (.object fields) "fleet_generation") ∧
        isString (Json.get (.object fields) "driver_action_id") ∧
        isString (Json.get (.object fields) "driver_operation_id") ∧
        isNumber (Json.get (.object fields) "driver_fence_token") then
      some (.object fields)
    else none
  | _ => none

/-- The evidence repeats the rows of the run, its release and its intent. -/
def evidenceMatches (id : Uuid) (identity : ReleaseIdentity) (run : FleetRun)
    (release : ApplicationRelease) (intent : ActivationIntent) (evidence : Json) : Bool :=
  let prepared := run.prepared identity.controlOperation.id
  let text := textField evidence
  decide (intent.preparedTenants = prepared) &&
    decide (arrayLength prepared = arrayLength run.tenantSnapshot) &&
    (arrayLength prepared).any (fun count => decide (1 ≤ count) && decide (count ≤ 500)) &&
    decide (release.odooSubjectDigest = intent.odooSubjectDigest) &&
    decide (release.extensionSubjectDigest = intent.extensionSubjectDigest) &&
    decide (text "release_id" = some run.releaseId) &&
    decide (text "runtime_key" = some "shared-odoo") &&
    decide (text "target_slot" = some identity.targetSlot.asStr) &&
    decide (text "odoo_subject_digest" = some intent.odooSubjectDigest) &&
    decide (text "extension_subject_digest" = some intent.extensionSubjectDigest) &&
    decide (text "pair_qualification_digest" = some intent.pairQualificationDigest) &&
    decide (evidence.get "prepared_tenants" = some prepared) &&
    decide (evidence.get "tenant_snapshot" = some run.tenantSnapshot) &&
    decide (evidence.get "fleet_generation" = some (.number run.fleetGeneration)) &&
    decide (text "gateway_configuration_digest" = some intent.gatewayConfigurationDigest) &&
    decide (text "driver_action_id" = some intent.driverActionId.toText) &&
    decide (text "driver_operation_id" = some id.toText) &&
    decide (evidence.get "driver_fence_token" = some (.number identity.globalFence)) &&
    decide (evidence.get "old_runtime_database_access_revoked" = some (.bool true)) &&
    decide (evidence.get "tenant_recovery_verified" = some (.bool true)) &&
    decide (evidence.get "candidate_smoke_verified" = some (.bool true)) &&
    decide (text "candidate_restart_policy" = some "unless-stopped") &&
    decide (text "retained_restart_policy" = some "no") &&
    isObject (evidence.get "installed_addon_versions") &&
    (["odoo_manifest_digest", "odoo_config_digest", "extension_manifest_digest",
        "extension_config_digest", "payload_digest", "bridge_contract_digest",
        "runtime_config_digest"].all fun key => stringField evidence key sqlDigest) &&
    (match text "extension_manifest_digest", text "payload_digest" with
      | some manifestDigest, some payloadDigest =>
        stringField evidence "extension_volume" (extensionVolumeFor manifestDigest payloadDigest)
      | _, _ => false) &&
    stringField evidence "runtime_container" (runtimeContainerFor identity.targetSlot) &&
    decide (text "runtime_role" = some ("mb_runtime_" ++ digestPart intent.odooSubjectDigest)) &&
    (match nested release.manifest "odoo_runtime" "deployment_ref" with
      | some (.string deploymentRef) =>
        decide (text "runtime_deployment_ref" = some deploymentRef)
      | _ => false)

/-- `valid_immutable_release_route_completion_response` over the rows of the run. -/
def validCompletionResponse (id : Uuid) (identity : ReleaseIdentity)
    (run : Option FleetRun) (response : Json) : Bool :=
  match completionEvidence env response, run with
  | some evidence, some run =>
    match run.release, run.intent identity with
    | some release, intent :: _ =>
      intent.observed && evidenceMatches id identity run release intent evidence
    | _, _ => false
  | _, _ => false

/-! ## Runtime observations -/

/-- What the database knows about the runtime of an interrupted release. -/
structure RuntimeExpectation where
  run : FleetRun
  release : ApplicationRelease
  intent : ActivationIntent
  prepared : Json
  deriving DecidableEq

/-- The keys of a runtime observation. -/
def observationKeys : List String :=
  ["protocol_version", "odoo_manifest_digest", "odoo_config_digest",
    "extension_manifest_digest", "extension_config_digest", "payload_digest",
    "extension_volume", "runtime_container", "runtime_config_digest",
    "external_executor_quiescent", "candidate_runtime_verified", "gateway_identity_verified",
    "target_database_access_verified", "old_runtime_retired", "tenant_recovery_verified",
    "candidate_smoke_verified", "candidate_restart_policy", "retained_restart_policy",
    "observed_gateway_configuration_digest", "observed_target_slot"]

/-- An observation of the expected form, in which every fact was verified. -/
def observationValid (observation : Json) : Bool :=
  match observation with
  | .object fields =>
    decide (env.columnSize observation ≤ 16384) && hasExactly fields observationKeys &&
      decide (observation.get "protocol_version" = some (.number 1)) &&
      (["odoo_manifest_digest", "odoo_config_digest", "extension_manifest_digest",
          "extension_config_digest", "payload_digest", "runtime_config_digest",
          "observed_gateway_configuration_digest"].all fun key =>
        stringField observation key sqlDigest) &&
      (["external_executor_quiescent", "candidate_runtime_verified",
          "gateway_identity_verified", "target_database_access_verified",
          "old_runtime_retired", "tenant_recovery_verified",
          "candidate_smoke_verified"].all fun key =>
        decide (observation.get key = some (.bool true))) &&
      !differs (observation.get "candidate_restart_policy") "unless-stopped" &&
      !differs (observation.get "retained_restart_policy") "no" &&
      isString (observation.get "extension_volume") &&
      isString (observation.get "runtime_container") &&
      isString (observation.get "observed_target_slot")
  | _ => false

def itemsAt (value : Json) (key inner : String) : List Json :=
  match nested value key inner with
  | some (.array items) => items
  | _ => []

/-- The two texts are both there and equal. -/
def sameText (first second : Option Json) : Bool :=
  match first, second with
  | some (.string one), some (.string other) => decide (one = other)
  | _, _ => false

/-- The observed digests are those of one qualified pair of the release's platforms. -/
def qualifiedPair (manifest : Json) (pairDigest : String) (observation : Json) : Bool :=
  (itemsAt manifest "odoo_runtime" "platforms").any fun runtime =>
    (itemsAt manifest "extension_bundle" "platforms").any fun extension =>
    decide (extension.get "platform" = runtime.get "platform") && (runtime.get "platform").isSome &&
      (match manifest.get "pair_qualifications" with
        | some (.array pairs) => pairs.any fun pair =>
          decide (pair.get "platform" = runtime.get "platform") &&
            sameText (pair.get "odoo_manifest_digest") (runtime.get "manifest_digest") &&
            sameText (pair.get "extension_manifest_digest") (extension.get "manifest_digest") &&
            sameText (pair.get "payload_digest") (extension.get "payload_digest") &&
            Json.textIs (pair.get "qualification_digest") pairDigest &&
            Json.textIs (pair.get "qualification_result") "passed"
        | _ => false) &&
      sameText (runtime.get "manifest_digest") (observation.get "odoo_manifest_digest") &&
      sameText (runtime.get "config_digest") (observation.get "odoo_config_digest") &&
      sameText (extension.get "manifest_digest") (observation.get "extension_manifest_digest") &&
      sameText (extension.get "config_digest") (observation.get "extension_config_digest") &&
      sameText (extension.get "payload_digest") (observation.get "payload_digest")

/-- The observation agrees with what the database expects of the runtime. -/
def observationMatches (identity : ReleaseIdentity) (expectation : RuntimeExpectation)
    (observation : Json) : Bool :=
  let manifest := expectation.release.manifest
  let text := textField observation
  decide (text "observed_target_slot" = some identity.targetSlot.asStr) &&
    decide (text "observed_gateway_configuration_digest" =
      some expectation.intent.gatewayConfigurationDigest) &&
    stringField observation "runtime_container" (runtimeContainerFor identity.targetSlot) &&
    (match text "extension_manifest_digest", text "payload_digest" with
      | some manifestDigest, some payloadDigest =>
        stringField observation "extension_volume" (extensionVolumeFor manifestDigest payloadDigest)
      | _, _ => false) &&
    !differs (manifest.get "release_id") expectation.run.releaseId &&
    !differs (nested manifest "odoo_runtime" "subject_digest")
      expectation.intent.odooSubjectDigest &&
    !differs (nested manifest "extension_bundle" "subject_digest")
      expectation.intent.extensionSubjectDigest &&
    isObject (manifest.get "addons") && stringField manifest "bridge_contract_digest" sqlDigest &&
    qualifiedPair manifest expectation.intent.pairQualificationDigest observation

/-- The recovery points of the prepared tenants that can be restored. -/
def verifiedAdoptions (now : Timestamp) (run : FleetRun) (operation : Uuid) : List Adoption :=
  (run.preparedAdoptions operation).filter fun adoption =>
    adoption.verified && adoption.recoveryReady &&
      adoption.recoveryExpiresAt.all fun expiresAt => decide (now < expiresAt)

/-- The response that the database builds from the rows and the observation. -/
def completionResponse (id : Uuid) (identity : ReleaseIdentity)
    (expectation : RuntimeExpectation) (observation : Json) : Json :=
  let manifest := expectation.release.manifest
  let observed := fun key => extracted env (observation.get key)
  .object [("evidence", .object [
    ("bridge_contract_digest", extracted env (manifest.get "bridge_contract_digest")),
    ("candidate_restart_policy", .string "unless-stopped"),
    ("candidate_smoke_verified", .bool true),
    ("driver_action_id", .string expectation.intent.driverActionId.toText),
    ("driver_fence_token", .number identity.globalFence),
    ("driver_operation_id", .string id.toText),
    ("extension_config_digest", observed "extension_config_digest"),
    ("extension_manifest_digest", observed "extension_manifest_digest"),
    ("extension_subject_digest", .string expectation.intent.extensionSubjectDigest),
    ("extension_volume", observed "extension_volume"),
    ("fleet_generation", .number expectation.run.fleetGeneration),
    ("gateway_configuration_digest", .string expectation.intent.gatewayConfigurationDigest),
    ("installed_addon_versions", (manifest.get "addons").getD .null),
    ("odoo_config_digest", observed "odoo_config_digest"),
    ("odoo_manifest_digest", observed "odoo_manifest_digest"),
    ("odoo_subject_digest", .string expectation.intent.odooSubjectDigest),
    ("old_runtime_database_access_revoked", .bool true),
    ("pair_qualification_digest", .string expectation.intent.pairQualificationDigest),
    ("payload_digest", observed "payload_digest"),
    ("prepared_tenants", expectation.prepared),
    ("release_id", .string expectation.run.releaseId),
    ("retained_restart_policy", .string "no"),
    ("runtime_config_digest", observed "runtime_config_digest"),
    ("runtime_container", observed "runtime_container"),
    ("runtime_deployment_ref", extracted env (nested manifest "odoo_runtime" "deployment_ref")),
    ("runtime_key", .string "shared-odoo"),
    ("runtime_role", .string ("mb_runtime_" ++ digestPart expectation.intent.odooSubjectDigest)),
    ("target_slot", .string identity.targetSlot.asStr),
    ("tenant_recovery_verified", .bool true),
    ("tenant_snapshot", expectation.run.tenantSnapshot)])]

/-! ## Digests of the evidence -/

def hashedText (text : String) : String :=
  "sha256:" ++ hexDigest (env.sha256 (utf8 text))

/-- The text of a value that may be missing. -/
def optionalJsonText (value : Option Json) : String :=
  (value.map env.jsonbText).getD "null"

def recoveryTokenDigest (token : Uuid) : String :=
  hashedText env ("mb-release-route-recovery-token-v1:" ++ token.toText)

def recoveryDecisionDigest (id fleetRun : Uuid) (fence : Nat)
    (kind : ReleaseResolutionKind) (evidence : Json) (response : Option Json) : String :=
  hashedText env ("mb-release-route-recovery-terminal-v1:" ++ id.toText ++ ":" ++
    fleetRun.toText ++ ":" ++ toString fence ++ ":" ++ kind.asStr ++ ":" ++
    env.jsonbText evidence ++ ":" ++ optionalJsonText env response)

def runtimeObservationDigest (id fleetRun : Uuid) (fence : Nat)
    (observation response : Json) : String :=
  hashedText env ("mb-release-route-runtime-observation-v1:" ++ id.toText ++ ":" ++
    fleetRun.toText ++ ":" ++ toString fence ++ ":" ++ env.jsonbText observation ++ ":" ++
    env.jsonbText response)

def recoveryReviewDigest (id fleetRun : Uuid) (fence : Nat)
    (observationDigest resolutionDigest : String) (operation : ControlOperationLease)
    (decision : ReviewDecision) : String :=
  hashedText env ("mb-release-route-recovery-review-v1:" ++ id.toText ++ ":" ++
    fleetRun.toText ++ ":" ++ toString fence ++ ":" ++ observationDigest ++ ":" ++
    resolutionDigest ++ ":" ++ operation.id.toText ++ ":" ++ toString operation.attempt ++ ":" ++
    operation.owner ++ ":" ++ decision.asStr)

end ControlPlane.Releases
