/-
# The generation before a release

A release records the generation that is selected before it, so that recovery can restore
it. The driver checks the generation with `validate_prior` and then calls
`record_immutable_release_route_prior`. The function accepts the identities of legacy
startups and of releases only. Migration 0036 widened the table check to the identities of
route sets, and its comment says that a release can start from any writer's generation, but
the function was not changed with it.
-/

import ControlPlane.Releases.Writer
import ControlPlane.Publications.Decisions

namespace ControlPlane.Releases

open Domain Driver Math Persistence
open Routes Publications RouteSetPriorLoadedIdentity

/-- The database stores every identity that the driver accepts within the bound of the
column: the fields are few and their texts short. -/
def StoresIdentities (env : DatabaseEnvironment) : Prop :=
  ∀ (found : RouteSetPriorLoadedIdentity) (selector : String),
    found.expectedSelector = .ok selector → env.columnSize found.toJson ≤ 4096

/-- An identifier of version 4. -/
def Uuid.IsVersion4 (id : Uuid) : Prop := id.isRfc4122 = true ∧ id.version = 4

instance (id : Uuid) : Decidable (Uuid.IsVersion4 id) :=
  inferInstanceAs (Decidable (_ ∧ _))

theorem Uuid.IsVersion4.sqlUuid {id : Uuid} (h : Uuid.IsVersion4 id) : sqlUuid id.toText = true :=
  sqlUuid_toText h.1 (by rw [h.2]; decide) (by rw [h.2]; decide)

/-! ## What the function accepts -/

section Accepted

variable {env : DatabaseEnvironment} {selector : String}

theorem recordable_startup {identity : GatewayGenerationIdentity} (hstored : StoresIdentities env)
    (hexpected : (startup identity).expectedSelector = .ok selector)
    (hid : Uuid.IsVersion4 identity.effectRunId) :
    recordablePrior env selector (some (startup identity).toJson) =
      true := by
  have hsize := hstored _ _ hexpected
  simp only [expectedSelector] at hexpected
  split at hexpected
  · cases hexpected
  rename_i hvalid
  cases hexpected
  rw [not_or, Bool.not_eq_false] at hvalid
  have hrun := hid.sqlUuid
  have hdigest := sqlDigest_of_validSha256 hvalid.2
  have hselector := sqlSelector_startup identity.effectRunId
  simp only [toJson] at hsize ⊢
  generalize identity.effectRunId.toText = run at hrun hselector hsize ⊢
  simp [recordablePrior, validReleaseLoadedIdentity, hasExactly, stringField, Json.get,
    startupSelectorOf, textField, Json.asStr, hrun, hdigest, hselector, hsize]

/-- An identity with the fields of a release overlay is valid when its texts are. -/
theorem validReleaseLoadedIdentity_overlay {operation run overlay digest slot : String}
    {fence : Int} {identity : Json}
    (hidentity : identity = .object [("driver_operation_id", .string operation),
      ("fleet_run_id", .string run), ("original_global_fence_token", .number fence),
      ("overlay_kind", .string overlay), ("protocol_version", .number 1),
      ("route_set_digest", .string digest), ("target_slot", .string slot)])
    (hsize : env.columnSize identity ≤ 4096) (hrun : sqlUuid run = true)
    (hoperation : sqlUuid operation = true) (hpositive : 0 < fence)
    (hbound : fence ≤ 9223372036854775807)
    (hoverlay : oneOf ["maintenance", "candidate"] overlay = true)
    (hdigest : sqlDigest digest = true) (hslot : oneOf ["blue", "green"] slot = true) :
    validReleaseLoadedIdentity env identity = true := by
  subst hidentity
  simp [validReleaseLoadedIdentity, hasExactly, stringField, positiveField, versionOne, Json.get,
    hsize, hrun, hoperation, hpositive, hbound, hoverlay, hdigest, hslot]

theorem releaseSelectorOf_overlay (operation run overlay digest slot : String) (fence : Int) :
    releaseSelectorOf (.object [("driver_operation_id", .string operation),
      ("fleet_run_id", .string run), ("original_global_fence_token", .number fence),
      ("overlay_kind", .string overlay), ("protocol_version", .number 1),
      ("route_set_digest", .string digest), ("target_slot", .string slot)]) =
      some ("generations/release-" ++ withoutHyphens run ++ "-" ++ overlay) := rfl

theorem recordable_release {identity : ReleaseOverlayGenerationIdentity}
    (hstored : StoresIdentities env)
    (hexpected : (release identity).expectedSelector = .ok selector)
    (hrun : Uuid.IsVersion4 identity.fleetRunId)
    (hoperation : Uuid.IsVersion4 identity.driverOperationId) :
    recordablePrior env selector (some (release identity).toJson) =
      true := by
  have hsize := hstored _ _ hexpected
  obtain ⟨hvalid, hselector⟩ := expectedSelector_release hexpected
  obtain ⟨hversion, hpositive, hbound, hsealed⟩ := identity.validate_ok hvalid
  have hjson : (release identity).toJson = .object [
      ("driver_operation_id", .string identity.driverOperationId.toText),
      ("fleet_run_id", .string identity.fleetRunId.toText),
      ("original_global_fence_token", .number identity.originalGlobalFenceToken.toInt),
      ("overlay_kind", .string identity.overlayKind.asStr), ("protocol_version", .number 1),
      ("route_set_digest", .string identity.routeSetDigest),
      ("target_slot", .string identity.targetSlot.asStr)] := by
    simp only [toJson, hversion]
    rfl
  have hloaded := validReleaseLoadedIdentity_overlay hjson hsize hrun.sqlUuid hoperation.sqlUuid
    hpositive hbound (by cases identity.overlayKind <;> decide)
    (sqlDigest_of_validSha256 hsealed) (by cases identity.targetSlot <;> decide)
  have hnamed : releaseSelectorOf (release identity).toJson = some selector := by
    rw [hjson, releaseSelectorOf_overlay, withoutHyphens_toText, hselector]
    exact Eq.refl _
  rw [recordablePrior, hloaded, hnamed, hselector, sqlSelector_overlay]
  simp

/-- The identity of a route set is not one of the two forms that the function knows. -/
theorem not_recordable_routeSet (identity : RouteSetGenerationIdentity) :
    recordablePrior env selector (some (routeSet identity).toJson) =
      false := by
  cases hscope : identity.scope <;>
    simp [recordablePrior, validReleaseLoadedIdentity, hasExactly, toJson, hscope]

/-- Of the generations that the driver accepts, the function accepts all but the route
sets. -/
theorem recordable_iff (hstored : StoresIdentities env) {encodedLength : Json → Nat}
    {loaded : Option RouteSetPriorLoadedIdentity} {identity : Option Json}
    (haccepted : validatePrior encodedLength selector loaded = .ok identity)
    (hids : ∀ found ∈ loaded, ∀ id ∈ found.ids, Uuid.IsVersion4 id) :
    recordablePrior env selector identity = true ↔ loaded.any isRouteSet = false := by
  obtain ⟨rfl, rfl, rfl⟩ | ⟨found, rfl, hexpected, rfl⟩ := validatePrior_cases haccepted
  · have hboot : sqlSelector "generations/boot-live" = true := by decide
    simp only [recordablePrior, hboot, decide_true, Bool.and_self, Option.any_none]
  have hids := hids found rfl
  cases found with
  | startup generation =>
    simp only [ids, List.mem_singleton, forall_eq] at hids
    simp only [recordable_startup hstored hexpected hids, Option.any_some, isRouteSet]
  | release generation =>
    simp only [ids, List.mem_cons, List.not_mem_nil, or_false, forall_eq_or_imp, forall_eq] at hids
    simp only [recordable_release hstored hexpected hids.1 hids.2, Option.any_some, isRouteSet]
  | routeSet generation =>
    simp only [not_recordable_routeSet, Option.any_some,
      isRouteSet, Bool.false_eq_true, Bool.true_eq_false]

end Accepted

/-! ## What the call answers -/

section Calls

variable {env : DatabaseEnvironment} {s : ReleaseState} {lease : ReleaseLease}
  {prior : PriorRoutes}

variable {publication : ReleasePublication} {records : OverlayRecords}

section

variable (hauthority : s.hasAuthority lease = true)
  (hrow : s.publications.lookup lease.driverOperation = some publication)
  (hphase : publication.phase = .live (.maintenanceStaging none records))

include hauthority hrow hphase

/-- The first call of an authorized driver is answered by the checks on the pair. -/
theorem recordPrior_first (hdirectory : prior.directory.valid = true) :
    (s.recordPrior env lease prior).2 = .recorded ↔
      recordablePrior env prior.selector prior.loadedIdentity = true ∧
        ∀ overlay, prior.selector ≠ publication.identity.selector overlay := by
  have hauthorized : s.authorized lease = some publication := by
    rw [ReleaseState.authorized, if_pos hauthority, hrow]
  simp only [ReleaseState.recordPrior, hauthorized, hphase]
  split
  · rename_i hrefused
    simp only [reduceCtorEq, false_iff, not_and]
    intro hrecordable hother
    rcases hrefused with hrefused | hrefused | hrefused | hrefused
    · rw [hrecordable] at hrefused
      cases hrefused
    · rw [hdirectory] at hrefused
      cases hrefused
    · exact hother _ hrefused
    · exact hother _ hrefused
  · rename_i haccepted
    simp only [not_or, Bool.not_eq_false] at haccepted
    obtain ⟨hrecordable, -, hmaintenance, hcandidate⟩ := haccepted
    simp only [true_iff]
    refine ⟨hrecordable, fun overlay => ?_⟩
    cases overlay with
    | maintenance => exact hmaintenance
    | candidate => exact hcandidate

theorem recordPrior_of_not_recordable
    (hrefused : recordablePrior env prior.selector prior.loadedIdentity = false) :
    s.recordPrior env lease prior = (s, .invalid) := by
  have hauthorized : s.authorized lease = some publication := by
    rw [ReleaseState.authorized, if_pos hauthority, hrow]
  simp only [ReleaseState.recordPrior, hauthorized, hphase, hrefused, true_or, if_true]

end

theorem recordable_of_recorded (h : (s.recordPrior env lease prior).2 = .recorded) :
    recordablePrior env prior.selector prior.loadedIdentity = true := by
  unfold ReleaseState.recordPrior at h
  split at h
  · cases h
  split at h
  · split at h <;> cases h
  · split at h
    · cases h
    · rename_i haccepted
      simp only [not_or, Bool.not_eq_false] at haccepted
      exact haccepted.1
  · cases h

end Calls

/-- **The function refuses the route sets of other writers.** For a prior that the driver
accepts, the first call with authority records it exactly when the identity is not a route
set's and the selector is not one of the release's own overlays; and no call records a pair
that the table check rejects. -/
theorem recordPrior_recorded_iff {env : DatabaseEnvironment} (hstored : StoresIdentities env)
    (encodedLength : Json → Nat) (s : ReleaseState) (lease : ReleaseLease) :
    (∀ publication records selector directory loaded identity, s.hasAuthority lease = true →
      s.publications.lookup lease.driverOperation = some publication →
      publication.phase = .live (.maintenanceStaging none records) →
      directory.valid = true →
      validatePrior encodedLength selector loaded = .ok identity →
      (∀ found ∈ loaded, ∀ id ∈ found.ids, Uuid.IsVersion4 id) →
      ((s.recordPrior env lease ⟨selector, directory, identity⟩).2 = .recorded ↔
        loaded.any isRouteSet = false ∧
          ∀ overlay, selector ≠ publication.identity.selector overlay)) ∧
      ∀ prior, (s.recordPrior env lease prior).2 = .recorded →
        validRouteSetPriorSelectorIdentity env prior.selector prior.loadedIdentity = true := by
  refine ⟨?_, fun prior hrecorded =>
    validRouteSetPriorSelectorIdentity_of_recordable (recordable_of_recorded hrecorded)⟩
  intro publication records selector directory loaded identity hauthority hrow hphase hdirectory
    haccepted hids
  rw [recordPrior_first hauthority hrow hphase hdirectory, recordable_iff hstored haccepted hids]

theorem exists_admitted : ∃ publication,
    admitted.publications.lookup sampleLease.driverOperation = some publication ∧
      publication.phase = .live (.maintenanceStaging none ∅) := by
  exact ⟨_, rfl, rfl⟩

theorem admitted_hasAuthority : admitted.hasAuthority sampleLease = true := by
  decide +kernel

def projectedId : Uuid := 0x00000000000040008000000000000009

/-- A projection that another writer published. -/
def projected : RouteSetGenerationIdentity where
  protocolVersion := 1
  publicationId := projectedId
  publicationKind := .projection
  globalFenceToken := 4
  routeSetDigest := "sha256:" ++ zeroDigest
  scope := .workshop projectedId 2

/-- The driver accepts a projection under its own selector as the prior of a release, and
the function answers that it is invalid. -/
theorem recordPrior_projection_invalid :
    (∃ publication, admitted.publications.lookup sampleLease.driverOperation = some publication ∧
        publication.phase = .live (.maintenanceStaging none ∅)) ∧
      admitted.hasAuthority sampleLease = true ∧
      (∀ id ∈ (routeSet projected).ids, Uuid.IsVersion4 id) ∧
      ∃ selector, validatePrior (fun _ => 0) selector (some (.routeSet projected)) =
          .ok (some (routeSet projected).toJson) ∧
        (admitted.recordPrior PublicationState.zeroHash sampleLease ⟨selector, ⟨1, 2⟩,
          some (routeSet projected).toJson⟩).2 = .invalid := by
  obtain ⟨publication, hrow, hphase⟩ := exists_admitted
  have hversion : Uuid.IsVersion4 projectedId := by decide +kernel
  have hids : ∀ id ∈ (routeSet projected).ids, Uuid.IsVersion4 id := by
    intro id hid
    simp only [ids, projected, List.mem_cons, List.not_mem_nil, or_false, or_self] at hid
    exact hid ▸ hversion
  have hvalid : projected.validate = .ok () := by decide +kernel
  have hselector : (routeSet projected).expectedSelector =
      .ok ("generations/route-" ++ projectedId.simple ++ "-projection") := by
    rw [expectedSelector, hvalid]
    exact Eq.refl _
  refine ⟨⟨publication, hrow, hphase⟩, admitted_hasAuthority, hids, _,
    validatePrior_of_expected hselector ?_ (Nat.zero_le 4096), ?_⟩
  · rw [String.append_assoc]
    exact append_ne_of_take (by decide) (by decide)
  · exact congrArg Prod.snd (recordPrior_of_not_recordable admitted_hasAuthority hrow hphase
      (not_recordable_routeSet projected))

/-- A generation that the driver started itself. -/
def startedGeneration : GatewayGenerationIdentity :=
  ⟨projectedId, "sha256:" ++ zeroDigest⟩

/-- The driver accepts the generation of a startup under its own selector, and the function
records it. -/
theorem recordPrior_startup_recorded :
    ∃ selector, validatePrior (fun _ => 0) selector (some (.startup startedGeneration)) =
        .ok (some (startup startedGeneration).toJson) ∧
      (∀ id ∈ (startup startedGeneration).ids, Uuid.IsVersion4 id) ∧
      (admitted.recordPrior PublicationState.zeroHash sampleLease ⟨selector, ⟨1, 2⟩,
        some (startup startedGeneration).toJson⟩).2 = .recorded := by
  obtain ⟨publication, hrow, hphase⟩ := exists_admitted
  have hstored : StoresIdentities PublicationState.zeroHash := fun found _ _ => by
    have hsize : PublicationState.zeroHash.columnSize found.toJson = 0 := rfl
    rw [hsize]
    exact Nat.zero_le 4096
  have hversion : Uuid.IsVersion4 projectedId := by decide +kernel
  have hids : ∀ found ∈ some (startup startedGeneration), ∀ id ∈ found.ids,
      Uuid.IsVersion4 id := by
    simp only [Option.mem_some_iff, forall_eq', ids, startedGeneration, List.mem_singleton,
      forall_eq]
    exact hversion
  have hselector : (startup startedGeneration).expectedSelector =
      .ok ("generations/startup-" ++ projectedId.toText) := by
    rw [expectedSelector, if_neg (by decide +kernel)]
    exact Eq.refl _
  have haccepted : validatePrior (fun _ => 0) _ (some (.startup startedGeneration)) =
      .ok (some (startup startedGeneration).toJson) :=
    validatePrior_of_expected hselector (append_ne_of_take (by decide) (by decide))
      (Nat.zero_le 4096)
  exact ⟨_, haccepted, hids _ rfl,
    ((recordPrior_recorded_iff hstored (fun _ => 0) admitted sampleLease).1 publication ∅ _
      ⟨1, 2⟩ _ _ admitted_hasAuthority hrow hphase (by decide) haccepted hids).mpr
      ⟨rfl, startup_ne_overlaySelector projectedId publication.identity.fleetRun⟩⟩

end ControlPlane.Releases
