/-
# Loaded identities of route generations

Three acceptors judge the generation that is selected before a release: the driver, which
has a typed identity; the function that records it, which was written when only legacy
startups and releases left identities behind; and the table check, which migration 0034
widened to the identities of route sets. The driver sends what it has as JSON, so the
acceptors meet on the serialised identity.
-/

import ControlPlane.Releases.Tables

namespace ControlPlane.Releases

open Domain Driver Math Persistence
open Routes Publications Uuid

/-! ## The database's acceptors -/

variable (identity : Json)

/-- The columns that every identity of a route set has. -/
def routeSetColumns : Bool :=
  versionOne identity && stringField identity "publication_id" sqlUuid &&
    positiveField identity "global_fence_token" &&
    stringField identity "route_set_digest" sqlDigest

/-- An identity of a route set with a target workshop. -/
def workshopScoped (fields : List (String × Json)) : Bool :=
  hasExactly fields ["protocol_version", "publication_id", "publication_kind",
      "global_fence_token", "target_workshop_id", "target_route_fence_token",
      "route_set_digest"] &&
    stringField (.object fields) "publication_kind"
      (oneOf ["projection", "recovery_maintenance", "recovery_restore"]) &&
    stringField (.object fields) "target_workshop_id" sqlUuid &&
    positiveField (.object fields) "target_route_fence_token"

/-- An identity of a route set of a startup. -/
def startupScoped (fields : List (String × Json)) : Bool :=
  hasExactly fields ["protocol_version", "publication_id", "publication_kind",
      "startup_effect_run_id", "global_fence_token", "route_set_digest"] &&
    stringField (.object fields) "publication_kind" (oneOf ["startup"]) &&
    stringField (.object fields) "startup_effect_run_id" sqlUuid

/-- `valid_route_set_loaded_identity` of migration 0034, for a value that is present. -/
def validRouteSetLoadedIdentity (env : DatabaseEnvironment) (identity : Json) : Bool :=
  validReleaseLoadedIdentity env identity ||
    match identity with
    | .object fields =>
      decide (env.columnSize identity ≤ 4096) && (workshopScoped fields || startupScoped fields) &&
        routeSetColumns identity
    | _ => false

/-- The text of a field, as the database extracts it from a string. -/
def textField (key : String) : Option String :=
  (identity.get key).bind Json.asStr

/-- The selector of a legacy startup with this identity. -/
def startupSelectorOf : Option String :=
  (textField identity "effect_run_id").map fun run => "generations/startup-" ++ run

/-- The selector of a release overlay with this identity. -/
def releaseSelectorOf : Option String :=
  match textField identity "fleet_run_id", textField identity "overlay_kind" with
  | some run, some overlay => some ("generations/release-" ++ withoutHyphens run ++ "-" ++ overlay)
  | _, _ => none

/-- The last part of a route set's selector. -/
def routeSetSuffix : String → Option String
  | "projection" => some "projection"
  | "recovery_maintenance" => some "recovery-maintenance"
  | "recovery_restore" => some "recovery-restore"
  | "startup" => some "startup"
  | _ => none

/-- The selector of a route set with this identity. -/
def routeSetSelectorOf : Option String :=
  match textField identity "publication_id",
      (textField identity "publication_kind").bind routeSetSuffix with
  | some publication, some suffix =>
    some ("generations/route-" ++ withoutHyphens publication ++ "-" ++ suffix)
  | _, _ => none

/-- `valid_route_set_prior_selector_identity` of migration 0034. -/
def validRouteSetPriorSelectorIdentity (env : DatabaseEnvironment) (selector : String)
    (identity : Option Json) : Bool :=
  sqlSelector selector &&
    match identity with
    | none => decide (selector = "generations/boot-live")
    | some identity =>
      validRouteSetLoadedIdentity env identity &&
        (decide (startupSelectorOf identity = some selector) ||
          decide (releaseSelectorOf identity = some selector) ||
          decide (routeSetSelectorOf identity = some selector))

/-- The checks of `record_immutable_release_route_prior` on the pair itself. -/
def recordablePrior (env : DatabaseEnvironment) (selector : String) (identity : Option Json) :
    Bool :=
  sqlSelector selector &&
    match identity with
    | none => decide (selector = "generations/boot-live")
    | some identity =>
      validReleaseLoadedIdentity env identity &&
        (decide (startupSelectorOf identity = some selector) ||
          decide (releaseSelectorOf identity = some selector))

variable {selector target text : String} {id : Uuid} {c : Char}

/-- What the function records, the table check accepts. -/
theorem validRouteSetPriorSelectorIdentity_of_recordable {env : DatabaseEnvironment}
    {identity : Option Json} (h : recordablePrior env selector identity = true) :
    validRouteSetPriorSelectorIdentity env selector identity = true := by
  unfold recordablePrior at h
  unfold validRouteSetPriorSelectorIdentity
  cases identity with
  | none => exact h
  | some identity =>
    simp only [Bool.and_eq_true, Bool.or_eq_true] at h ⊢
    obtain ⟨hselector, hvalid, hnamed⟩ := h
    refine ⟨hselector, ?_, Or.inl hnamed⟩
    simp only [validRouteSetLoadedIdentity, hvalid, Bool.true_or]

/-! ## The driver's identities -/

inductive RouteSetPublicationKind
  | projection
  | recoveryMaintenance
  | recoveryRestore
  | startup
  deriving DecidableEq

def RouteSetPublicationKind.asStr : RouteSetPublicationKind → String
  | .projection => "projection"
  | .recoveryMaintenance => "recovery_maintenance"
  | .recoveryRestore => "recovery_restore"
  | .startup => "startup"

def selectorSuffix : RouteSetPublicationKind → String
  | .projection => "projection"
  | .recoveryMaintenance => "recovery-maintenance"
  | .recoveryRestore => "recovery-restore"
  | .startup => "startup"

inductive RouteSetPublicationScope
  | fleet (startupEffectRunId : Uuid)
  | workshop (targetWorkshopId : Uuid) (targetRouteFenceToken : Int64)
  deriving DecidableEq

structure RouteSetGenerationIdentity where
  protocolVersion : UInt8
  publicationId : Uuid
  publicationKind : RouteSetPublicationKind
  globalFenceToken : Int64
  routeSetDigest : String
  scope : RouteSetPublicationScope
  deriving DecidableEq

structure GatewayGenerationIdentity where
  effectRunId : Uuid
  sealedDigest : String
  deriving DecidableEq

structure ReleaseOverlayGenerationIdentity where
  protocolVersion : UInt8
  (fleetRunId driverOperationId : Uuid)
  originalGlobalFenceToken : Int64
  overlayKind : OverlayKind
  routeSetDigest : String
  targetSlot : Slot
  deriving DecidableEq

inductive RouteSetPriorLoadedIdentity
  | startup (identity : GatewayGenerationIdentity)
  | release (identity : ReleaseOverlayGenerationIdentity)
  | routeSet (identity : RouteSetGenerationIdentity)
  deriving DecidableEq

def RouteSetPriorLoadedIdentity.isRouteSet : RouteSetPriorLoadedIdentity → Bool
  | .routeSet _ => true
  | _ => false

def ReleaseOverlayGenerationIdentity.validate (identity : ReleaseOverlayGenerationIdentity) :
    Except String Unit :=
  if identity.protocolVersion ≠ 1 ∨ identity.fleetRunId = nil ∨
      identity.driverOperationId = nil ∨ identity.originalGlobalFenceToken ≤ 0 then
    .error "release overlay generation identity is invalid"
  else if validSha256 identity.routeSetDigest then .ok ()
  else .error "gateway generation digest is invalid"

def RouteSetGenerationIdentity.scopeValid (identity : RouteSetGenerationIdentity) : Bool :=
  match identity.publicationKind, identity.scope with
  | .startup, .fleet startupEffectRunId => decide (startupEffectRunId ≠ nil)
  | .projection, .workshop workshop fence | .recoveryMaintenance, .workshop workshop fence
  | .recoveryRestore, .workshop workshop fence =>
    decide (workshop ≠ nil) && decide (0 < fence)
  | _, _ => false

def RouteSetGenerationIdentity.validate (identity : RouteSetGenerationIdentity) :
    Except String Unit :=
  if identity.protocolVersion ≠ 1 ∨ identity.publicationId = nil ∨
      identity.globalFenceToken ≤ 0 ∨ identity.scopeValid = false then
    .error "route-set generation identity is invalid"
  else if validSha256 identity.routeSetDigest then .ok ()
  else .error "gateway generation digest is invalid"

namespace RouteSetPriorLoadedIdentity

/-- The serialised identity, with its fields in the order of a sorted map. -/
def toJson : RouteSetPriorLoadedIdentity → Json
  | .startup identity => .object [ ("effect_run_id", .string identity.effectRunId.toText),
      ("sealed_digest", .string identity.sealedDigest)]
  | .release identity => .object [
      ("driver_operation_id", .string identity.driverOperationId.toText),
      ("fleet_run_id", .string identity.fleetRunId.toText),
      ("original_global_fence_token", .number identity.originalGlobalFenceToken.toInt),
      ("overlay_kind", .string identity.overlayKind.asStr),
      ("protocol_version", .number identity.protocolVersion.toNat),
      ("route_set_digest", .string identity.routeSetDigest),
      ("target_slot", .string identity.targetSlot.asStr)]
  | .routeSet identity =>
    match identity.scope with
    | .fleet startupEffectRunId => .object [
        ("global_fence_token", .number identity.globalFenceToken.toInt),
        ("protocol_version", .number identity.protocolVersion.toNat),
        ("publication_id", .string identity.publicationId.toText),
        ("publication_kind", .string identity.publicationKind.asStr),
        ("route_set_digest", .string identity.routeSetDigest),
        ("startup_effect_run_id", .string startupEffectRunId.toText)]
    | .workshop targetWorkshopId targetRouteFenceToken => .object [
        ("global_fence_token", .number identity.globalFenceToken.toInt),
        ("protocol_version", .number identity.protocolVersion.toNat),
        ("publication_id", .string identity.publicationId.toText),
        ("publication_kind", .string identity.publicationKind.asStr),
        ("route_set_digest", .string identity.routeSetDigest),
        ("target_route_fence_token", .number targetRouteFenceToken.toInt),
        ("target_workshop_id", .string targetWorkshopId.toText)]

/-- The selector that the identity belongs under, when the identity is valid. -/
def expectedSelector : RouteSetPriorLoadedIdentity → Except String String
  | .startup identity =>
    if identity.effectRunId = nil ∨ validSha256 identity.sealedDigest = false then
      .error "startup prior identity is invalid"
    else .ok ("generations/startup-" ++ identity.effectRunId.toText)
  | .release identity => do
    identity.validate
    pure (overlaySelector identity.fleetRunId identity.overlayKind)
  | .routeSet identity => do
    identity.validate
    pure ("generations/route-" ++ identity.publicationId.simple ++ "-" ++
      selectorSuffix identity.publicationKind)

/-- The identifiers that the identity names. -/
def ids : RouteSetPriorLoadedIdentity → List Uuid
  | .startup identity => [identity.effectRunId]
  | .release identity => [identity.fleetRunId, identity.driverOperationId]
  | .routeSet identity =>
    match identity.scope with
    | .fleet startupEffectRunId => [identity.publicationId, startupEffectRunId]
    | .workshop targetWorkshopId _ => [identity.publicationId, targetWorkshopId]

end RouteSetPriorLoadedIdentity

/-- What a valid overlay identity has: version 1, a positive fence of the `bigint` range and
a digest. -/
theorem ReleaseOverlayGenerationIdentity.validate_ok {identity : ReleaseOverlayGenerationIdentity}
    (h : identity.validate = .ok ()) :
    identity.protocolVersion = 1 ∧ 0 < identity.originalGlobalFenceToken.toInt ∧
      identity.originalGlobalFenceToken.toInt ≤ 9223372036854775807 ∧
      validSha256 identity.routeSetDigest = true := by
  unfold validate at h
  split at h
  · cases h
  rename_i hvalid
  simp only [not_or, not_not] at hvalid
  split at h
  · rename_i hdigest
    have hpositive : ¬ identity.originalGlobalFenceToken.toInt ≤ (0 : Int64).toInt := fun hle =>
      hvalid.2.2.2 (Int64.le_iff_toInt_le.mpr hle)
    have hbound := identity.originalGlobalFenceToken.toInt_lt
    refine ⟨hvalid.1, ?_, ?_, hdigest⟩
    · simpa using hpositive
    · omega
  · cases h

theorem RouteSetPriorLoadedIdentity.expectedSelector_release
    {identity : ReleaseOverlayGenerationIdentity}
    (h : (RouteSetPriorLoadedIdentity.release identity).expectedSelector = .ok selector) :
    identity.validate = .ok () ∧
      selector = overlaySelector identity.fleetRunId identity.overlayKind := by
  rw [expectedSelector] at h
  cases hvalid : identity.validate with
  | error message =>
    rw [hvalid] at h
    cases h
  | ok _ =>
    rw [hvalid] at h
    exact ⟨rfl, (Except.ok.inj h).symm⟩

/-- `validate_prior`. The length of the serialised identity is the library's. -/
def validatePrior (encodedLength : Json → Nat) (target : String)
    (loaded : Option RouteSetPriorLoadedIdentity) : Except String (Option Json) :=
  if target = "generations/boot-live" then
    match loaded with
    | none => .ok none
    | some _ => .error "BootLive identity is nonnull"
  else
    match loaded with
    | none => .error "release prior identity is absent"
    | some loaded => do
      let expected ← loaded.expectedSelector
      if target ≠ expected then .error "release prior selector differs from identity"
      else if 4096 < encodedLength loaded.toJson then
        .error "release prior identity exceeded its bound"
      else .ok (some loaded.toJson)

/-- What an accepted prior is: boot-live without an identity, or an identity under the
selector that belongs to it. -/
theorem validatePrior_cases {encodedLength : Json → Nat}
    {loaded : Option RouteSetPriorLoadedIdentity} {identity : Option Json}
    (h : validatePrior encodedLength target loaded = .ok identity) :
    (target = "generations/boot-live" ∧ loaded = none ∧ identity = none) ∨
      ∃ found, loaded = some found ∧ found.expectedSelector = .ok target ∧
        identity = some found.toJson := by
  unfold validatePrior at h
  split at h
  · rename_i hboot
    cases loaded with
    | none =>
      cases h
      exact Or.inl ⟨hboot, rfl, rfl⟩
    | some found => cases h
  · cases loaded with
    | none => cases h
    | some found =>
      cases hexpected : found.expectedSelector with
      | error message =>
        simp only [hexpected] at h
        cases h
      | ok expected =>
        simp only [hexpected, bind, Except.bind] at h
        split at h
        · cases h
        · rename_i htarget
          split at h
          · cases h
          · cases h
            exact Or.inr ⟨found, rfl, by rw [hexpected, not_not.mp htarget], rfl⟩

/-- A short valid identity is accepted under the selector that belongs to it. -/
theorem validatePrior_of_expected {encodedLength : Json → Nat} {found : RouteSetPriorLoadedIdentity}
    (hexpected : found.expectedSelector = .ok target) (hother : target ≠ "generations/boot-live")
    (hlength : encodedLength found.toJson ≤ 4096) :
    validatePrior encodedLength target (some found) = .ok (some found.toJson) := by
  rw [validatePrior, if_neg hother]
  simp only [hexpected, bind, Except.bind, ne_eq, not_true_eq_false, if_false,
    if_neg (Nat.not_lt.mpr hlength)]

/-! ## Texts of identifiers and digests -/

private theorem isLowerHex_digitChar : ∀ v < 16, isLowerHex (Nat.digitChar v) = true := by
  decide

private theorem versionDigit : ∀ v < 16, 1 ≤ v → v ≤ 5 →
    (decide ('1' ≤ Nat.digitChar v) && decide (Nat.digitChar v ≤ '5')) = true := by
  decide

private theorem variantDigit : ∀ v < 16, 8 ≤ v → v ≤ 11 →
    (Nat.digitChar v == '8' || Nat.digitChar v == '9' || Nat.digitChar v == 'a' ||
      Nat.digitChar v == 'b') = true := by
  decide

theorem isLowerHex_of_mem_hexDigits (h : c ∈ id.hexDigits) : isLowerHex c = true := by
  obtain ⟨position, -, rfl⟩ := List.mem_map.mp h
  exact isLowerHex_digitChar _ (Nat.mod_lt _ (by decide))

/-- The database accepts the text of every identifier of an ordinary version. -/
theorem sqlUuid_toText (hvariant : id.isRfc4122 = true) (hlow : 1 ≤ id.version)
    (hhigh : id.version ≤ 5) : sqlUuid id.toText = true := by
  have hdigit : ∀ position,
      isLowerHex (Nat.digitChar (id.toNat / 16 ^ position % 16)) = true := fun position =>
    isLowerHex_digitChar _ (Nat.mod_lt _ (by decide))
  have hfirst := versionDigit (id.toNat / 16 ^ 19 % 16) (Nat.mod_lt _ (by decide)) hlow hhigh
  simp only [isRfc4122, Bool.and_eq_true, decide_eq_true_eq] at hvariant
  have hsecond := variantDigit (id.toNat / 16 ^ 15 % 16) (Nat.mod_lt _ (by decide)) hvariant.1
    hvariant.2
  rw [sqlUuid, toText, String.toList_ofList, Bool.and_eq_true]
  refine ⟨rfl, ?_⟩
  simp only [hexDigits, uuidPattern, List.range, List.range.loop, List.map_cons, List.map_nil,
    List.replicate, List.take, List.drop, List.cons_append, List.nil_append, List.zip_cons_cons,
    List.zip_nil_left, List.all_cons, List.all_nil, Nat.reduceSub, hdigit, hfirst, hsecond,
    beq_self_eq_true, Bool.and_true]

theorem withoutHyphens_toText (id : Uuid) : withoutHyphens id.toText = id.simple := by
  rw [withoutHyphens, filter_toText, simple]

/-- A digest that the driver accepts, the database accepts. -/
theorem sqlDigest_of_validSha256 (h : validSha256 text = true) : sqlDigest text = true := by
  simp only [validSha256, Bool.and_eq_true, decide_eq_true_eq] at h
  obtain ⟨⟨hscheme, hlength⟩, hdigits⟩ := h
  have hhex : (text.toList.drop 7).all isLowerHex = true := hdigits
  have hascii : ∀ c ∈ text.toList.drop 7, c.utf8Size = 1 := fun c hc =>
    utf8Size_of_isLowerHex (List.all_eq_true.mp hhex c hc)
  rw [byteLength_of_ascii hascii, List.length_drop] at hlength
  simp only [sqlDigest, hscheme, hhex, decide_true, Bool.true_and, Bool.and_true, decide_eq_true_eq]
  omega

/-! ## Selectors -/

private theorem selectorChar_of_isLowerHex (h : isLowerHex c = true) :
    (c.isAlphanum || decide (c = '-')) = true := by
  simp only [isLowerHex, Bool.or_eq_true, Bool.and_eq_true, decide_eq_true_eq] at h
  change ((c.isUpper || (decide ('a' ≤ c) && decide (c ≤ 'z'))) ||
    (decide ('0' ≤ c) && decide (c ≤ '9')) || decide (c = '-')) = true
  simp only [Bool.or_eq_true, Bool.and_eq_true, decide_eq_true_eq]
  rcases h with ⟨hlow, hhigh⟩ | ⟨hlow, hhigh⟩
  · exact Or.inl (Or.inr ⟨hlow, hhigh⟩)
  · exact Or.inl (Or.inl (Or.inr ⟨hlow, le_trans hhigh (by decide)⟩))

/-- A directory name of letters, digits and hyphens that starts with a letter. -/
theorem sqlSelector_of_toList (first : Char) (name : List Char)
    (htext : text.toList = "generations/".toList ++ first :: name)
    (hfirst : first.isAlphanum = true) (hlength : name.length ≤ 63)
    (hname : name.all (fun c => c.isAlphanum || decide (c = '-')) = true) :
    sqlSelector text = true := by
  have htake : ("generations/".toList ++ first :: name).take 12 = "generations/".toList := rfl
  have hdrop : ("generations/".toList ++ first :: name).drop 12 = first :: name := rfl
  simp only [sqlSelector, htext, htake, hdrop, List.length_cons, List.head?_cons, List.all_cons,
    Option.any_some, hfirst, hname, decide_true, Bool.true_and, Bool.and_true, Bool.true_or,
    decide_eq_true_eq, Bool.and_eq_true]
  omega

@[simp]
theorem selectorChars_simple (id : Uuid) :
    id.simple.toList.all (fun c => c.isAlphanum || decide (c = '-')) = true := by
  rw [simple, String.toList_ofList, List.all_eq_true]
  intro c hc
  exact selectorChar_of_isLowerHex (isLowerHex_of_mem_hexDigits hc)

@[simp]
theorem selectorChars_toText (id : Uuid) :
    id.toText.toList.all (fun c => c.isAlphanum || decide (c = '-')) = true := by
  rw [List.all_eq_true]
  intro c hc
  by_cases hhyphen : c = '-'
  · simp [hhyphen]
  · have hkept : c ∈ id.toText.toList.filter (· != '-') :=
      List.mem_filter.mpr ⟨hc, by simpa using hhyphen⟩
    rw [filter_toText] at hkept
    exact selectorChar_of_isLowerHex (isLowerHex_of_mem_hexDigits hkept)

@[simp]
theorem length_simple (id : Uuid) : id.simple.toList.length = 32 := by
  simp [simple, hexDigits]

@[simp]
theorem length_toText (id : Uuid) : id.toText.toList.length = 36 := by
  simp [toText, hexDigits]

theorem sqlSelector_startup (run : Uuid) :
    sqlSelector ("generations/startup-" ++ run.toText) = true := by
  have hscheme : "generations/startup-".toList =
      "generations/".toList ++ 's' :: "tartup-".toList := by
    decide
  refine sqlSelector_of_toList 's' ("tartup-".toList ++ run.toText.toList) ?_ (by decide) ?_ ?_
  · simp only [String.toList_append, hscheme, List.append_assoc, List.cons_append]
  · rw [List.length_append, length_toText]
    decide
  · rw [List.all_append, selectorChars_toText, Bool.and_true]
    decide

theorem sqlSelector_overlay (run : Uuid) (overlay : OverlayKind) :
    sqlSelector (overlaySelector run overlay) = true := by
  have hscheme : "generations/release-".toList =
      "generations/".toList ++ 'r' :: "elease-".toList := by
    decide
  have hlength := length_simple run
  have hchars := selectorChars_simple run
  unfold overlaySelector
  generalize run.simple = digits at hlength hchars ⊢
  refine sqlSelector_of_toList 'r'
    ("elease-".toList ++ (digits.toList ++ ("-".toList ++ overlay.asStr.toList)))
    ?_ (by decide) ?_ ?_
  · simp only [String.toList_append, hscheme, List.append_assoc, List.cons_append]
  · rw [List.length_append, List.length_append, hlength]
    cases overlay <;> decide
  · rw [List.all_append, List.all_append, hchars, Bool.true_and]
    cases overlay <;> decide

/-- Texts that differ in their first characters differ. -/
theorem append_ne_of_take {scheme rest other : String} (hlength : 13 ≤ scheme.toList.length)
    (hother : scheme.toList.take 13 ≠ other.toList.take 13) : scheme ++ rest ≠ other := by
  intro heq
  have hchars := congrArg (fun text => text.toList.take 13) heq
  simp only [String.toList_append] at hchars
  rw [List.take_append_of_le_length hlength] at hchars
  exact hother hchars

theorem take_overlaySelector (run : Uuid) (overlay : OverlayKind) :
    (overlaySelector run overlay).toList.take 13 = "generations/r".toList := by
  unfold overlaySelector
  generalize run.simple = digits
  rw [String.append_assoc, String.append_assoc, String.toList_append,
    List.take_append_of_le_length (by decide)]
  decide

theorem startup_ne_overlaySelector (effectRun run : Uuid) (overlay : OverlayKind) :
    "generations/startup-" ++ effectRun.toText ≠ overlaySelector run overlay := by
  refine append_ne_of_take (by decide) ?_
  rw [take_overlaySelector]
  decide

end ControlPlane.Releases
