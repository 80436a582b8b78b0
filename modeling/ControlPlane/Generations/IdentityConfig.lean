/-
# Identities in the gateway's configuration

A generation carries its identity as the literal answer of a loopback server in its
nginx configuration, followed by a second server that tells the kind as well. The driver
reads an identity back by cutting the literal out of the first server, parsing it and
rendering the result again. There is one reader for each kind of identity, and each
listens on a port of its own.
-/

import ControlPlane.Math.Encoding
import ControlPlane.Releases.Identity

namespace ControlPlane.Generations

open Domain Math Releases Routes

/-! ## The records of route sets -/

structure StartupRouteSetGenerationIdentityWire where
  protocolVersion : UInt8
  publicationId : Uuid
  publicationKind : RouteSetPublicationKind
  startupEffectRunId : Uuid
  globalFenceToken : Int64
  routeSetDigest : String
  deriving DecidableEq

structure WorkshopRouteSetGenerationIdentityWire where
  protocolVersion : UInt8
  publicationId : Uuid
  publicationKind : RouteSetPublicationKind
  globalFenceToken : Int64
  targetWorkshopId : Uuid
  targetRouteFenceToken : Int64
  routeSetDigest : String
  deriving DecidableEq

inductive RouteSetGenerationIdentityWire
  | startup (wire : StartupRouteSetGenerationIdentityWire)
  | workshop (wire : WorkshopRouteSetGenerationIdentityWire)

/-- The record that `RouteSetGenerationIdentity::serialize` prints. -/
def toWire (identity : RouteSetGenerationIdentity) : RouteSetGenerationIdentityWire :=
  match identity.scope with
  | .fleet startupEffectRunId => .startup ⟨identity.protocolVersion, identity.publicationId,
      identity.publicationKind, startupEffectRunId, identity.globalFenceToken,
      identity.routeSetDigest⟩
  | .workshop targetWorkshopId targetRouteFenceToken => .workshop ⟨identity.protocolVersion,
      identity.publicationId, identity.publicationKind, identity.globalFenceToken,
      targetWorkshopId, targetRouteFenceToken, identity.routeSetDigest⟩

/-- The identity that `RouteSetGenerationIdentity::deserialize` makes of a record. -/
def ofWire : RouteSetGenerationIdentityWire → RouteSetGenerationIdentity
  | .startup wire => ⟨wire.protocolVersion, wire.publicationId, wire.publicationKind,
      wire.globalFenceToken, wire.routeSetDigest, .fleet wire.startupEffectRunId⟩
  | .workshop wire => ⟨wire.protocolVersion, wire.publicationId, wire.publicationKind,
      wire.globalFenceToken, wire.routeSetDigest,
      .workshop wire.targetWorkshopId wire.targetRouteFenceToken⟩

theorem ofWire_toWire (identity : RouteSetGenerationIdentity) :
    ofWire (toWire identity) = identity := by
  obtain ⟨version, id, kind, fence, digest, scope⟩ := identity
  cases scope <;> rfl

/-! ## Printed identities -/

/-- A printed text. The texts of a valid identity need no escapes. -/
def quoted (text : String) : String :=
  "\"" ++ text ++ "\""

def commaSeparated : List String → String
  | [] => ""
  | [text] => text
  | text :: rest => text ++ "," ++ commaSeparated rest

def printField (field : String × String) : String :=
  quoted field.1 ++ ":" ++ field.2

/-- `serde_json::to_string` of a record with printed values. -/
def printRecord (fields : List (String × String)) : String :=
  "\x7b" ++ commaSeparated (fields.map printField) ++ "\x7d"

/-- The fields in the order in which the source declares them. -/
def printedFields : RouteSetPriorLoadedIdentity → List (String × String)
  | .startup identity => [ ("effect_run_id", quoted identity.effectRunId.toText),
      ("sealed_digest", quoted identity.sealedDigest)]
  | .release identity => [ ("protocol_version", toString identity.protocolVersion.toNat),
      ("fleet_run_id", quoted identity.fleetRunId.toText),
      ("driver_operation_id", quoted identity.driverOperationId.toText),
      ("original_global_fence_token", toString identity.originalGlobalFenceToken.toInt),
      ("overlay_kind", quoted identity.overlayKind.asStr),
      ("route_set_digest", quoted identity.routeSetDigest),
      ("target_slot", quoted identity.targetSlot.asStr)]
  | .routeSet identity =>
    match toWire identity with
    | .startup wire => [ ("protocol_version", toString wire.protocolVersion.toNat),
        ("publication_id", quoted wire.publicationId.toText),
        ("publication_kind", quoted wire.publicationKind.asStr),
        ("startup_effect_run_id", quoted wire.startupEffectRunId.toText),
        ("global_fence_token", toString wire.globalFenceToken.toInt),
        ("route_set_digest", quoted wire.routeSetDigest)]
    | .workshop wire => [ ("protocol_version", toString wire.protocolVersion.toNat),
        ("publication_id", quoted wire.publicationId.toText),
        ("publication_kind", quoted wire.publicationKind.asStr),
        ("global_fence_token", toString wire.globalFenceToken.toInt),
        ("target_workshop_id", quoted wire.targetWorkshopId.toText),
        ("target_route_fence_token", toString wire.targetRouteFenceToken.toInt),
        ("route_set_digest", quoted wire.routeSetDigest)]

def printed (identity : RouteSetPriorLoadedIdentity) : String :=
  printRecord (printedFields identity)

/-! ## The configuration -/

inductive IdentityKind
  | startup
  | releaseOverlay
  | routeSet
  deriving DecidableEq

namespace IdentityKind

def asStr : IdentityKind → String
  | .startup => "startup"
  | .releaseOverlay => "release_overlay"
  | .routeSet => "route_set"

def port : IdentityKind → String
  | .startup => "8081"
  | .releaseOverlay => "8083"
  | .routeSet => "8084"

def path : IdentityKind → String
  | .startup => "generation"
  | .releaseOverlay => "release-overlay-generation"
  | .routeSet => "route-generation"

/-- What messages call a generation of this kind. -/
def generation : IdentityKind → String
  | .startup => "gateway generation"
  | .releaseOverlay => "release overlay generation"
  | .routeSet => "route-set generation"

/-- What messages call the identity of such a generation. -/
def description : IdentityKind → String
  | .releaseOverlay => "release overlay identity"
  | kind => kind.generation ++ " identity"

end IdentityKind

def kindOf : RouteSetPriorLoadedIdentity → IdentityKind
  | .startup _ => .startup
  | .release _ => .releaseOverlay
  | .routeSet _ => .routeSet

/-- `validate_running_route_worker_identity`. -/
def validateIdentity : RouteSetPriorLoadedIdentity → Except String Unit
  | .startup identity =>
    if identity.effectRunId = Uuid.nil then .error "gateway generation identity is invalid"
    else if validSha256 identity.sealedDigest then .ok ()
    else .error "gateway generation digest is invalid"
  | .release identity => identity.validate
  | .routeSet identity => identity.validate

def listenStart : String :=
  "server \x7b\n  listen 127.0.0.1:"

def answerStart (path : String) : String :=
  ";\n  server_name _;\n  location = /_mb/" ++ path ++
    " \x7b\n    default_type application/json;\n" ++
    "    add_header Cache-Control 'no-store' always;\n    return 200 '"

/-- A loopback server up to the literal that it answers. -/
def serverStart (port path : String) : String :=
  listenStart ++ port ++ answerStart path

/-- How the configurations of a kind start. -/
def IdentityKind.start (kind : IdentityKind) : String :=
  serverStart kind.port kind.path

def identityServerEnd : String :=
  "';\n  \x7d\n  location / \x7b return 404; \x7d\n\x7d\n"

/-- `running_route_worker_identity_config`, whose server answers the kind as well. -/
def runningRouteWorkerIdentityConfig (identity : RouteSetPriorLoadedIdentity) :
    Except String String := do
  validateIdentity identity
  let body := printRecord [("kind", quoted (kindOf identity).asStr), ("identity", printed identity)]
  if 2048 < (octets body).length then .error "route worker identity exceeded its bound"
  else .ok (serverStart "8085" "route-worker-identity" ++ body ++ identityServerEnd)

/-- `gateway_generation_config`, `release_overlay_generation_config` and
`route_set_generation_config`. The first of them sets no bound. -/
def generationConfig (identity : RouteSetPriorLoadedIdentity) : Except String String := do
  validateIdentity identity
  let kind := kindOf identity
  if kind ≠ .startup ∧ 1024 < (octets (printed identity)).length then
    .error (kind.generation ++ " identity exceeded its bound")
  else do
    let universal ← runningRouteWorkerIdentityConfig identity
    .ok (kind.start ++ printed identity ++ identityServerEnd ++ universal)

/-! ## The readers -/

/-- The bytes before the first place where `ending` stands. -/
def before (ending : List UInt8) : List UInt8 → Option (List UInt8)
  | [] => none
  | byte :: rest =>
    if ending.isPrefixOf (byte :: rest) then some []
    else (before ending rest).map (byte :: ·)

def primaryIdentityBody (bytes start : List UInt8) (description : String) :
    Except String (List UInt8) :=
  if start.isPrefixOf bytes then
    match before (octets identityServerEnd) (bytes.drop start.length) with
    | some body => .ok body
    | none => .error ("invalid " ++ description ++ " configuration")
  else .error ("invalid " ++ description ++ " configuration")

/-- `serde_json::from_slice` at each of the records that are derived. -/
structure RecordParser where
  gateway : List UInt8 → Option GatewayGenerationIdentity
  releaseOverlay : List UInt8 → Option ReleaseOverlayGenerationIdentity
  startupRouteSet : List UInt8 → Option StartupRouteSetGenerationIdentityWire
  workshopRouteSet : List UInt8 → Option WorkshopRouteSetGenerationIdentityWire

namespace RecordParser

variable (parser : RecordParser) (bytes : List UInt8)

/-- The untagged record: the first variant that can be read. -/
def routeSetWire : Option RouteSetGenerationIdentityWire :=
  match parser.startupRouteSet bytes with
  | some wire => some (.startup wire)
  | none => (parser.workshopRouteSet bytes).map .workshop

/-- `RouteSetGenerationIdentity::deserialize`. -/
def routeSet : Option RouteSetGenerationIdentity :=
  match parser.routeSetWire bytes with
  | none => none
  | some wire =>
    match (ofWire wire).validate with
    | .ok _ => some (ofWire wire)
    | .error _ => none

def fromSlice : IdentityKind → Option RouteSetPriorLoadedIdentity
  | .startup => (parser.gateway bytes).map .startup
  | .releaseOverlay => (parser.releaseOverlay bytes).map .release
  | .routeSet => (parser.routeSet bytes).map .routeSet

/-- The record of an identity is read back from what was printed, and no record of a startup
is read from that of a workshop. -/
def ReadsBack (identity : RouteSetPriorLoadedIdentity) : Prop :=
  let bytes := octets (printed identity)
  match identity with
  | .startup identity => parser.gateway bytes = some identity
  | .release identity => parser.releaseOverlay bytes = some identity
  | .routeSet identity =>
    match toWire identity with
    | .startup wire => parser.startupRouteSet bytes = some wire
    | .workshop wire =>
      parser.startupRouteSet bytes = none ∧ parser.workshopRouteSet bytes = some wire

end RecordParser

section Readers

variable (parser : RecordParser)

/-- `parse_gateway_generation`, `parse_release_overlay_generation` and
`parse_route_set_generation`. -/
def parseGeneration (kind : IdentityKind) (bytes : List UInt8) :
    Except String RouteSetPriorLoadedIdentity :=
  if 1024 < bytes.length then .error (kind.generation ++ " observation exceeded its bound")
  else
    match parser.fromSlice bytes kind with
    | none => .error ("invalid " ++ kind.generation ++ " observation")
    | some identity => do
      validateIdentity identity
      .ok identity

/-- `parse_gateway_generation_config`, `parse_release_overlay_generation_config` and
`parse_route_set_generation_config`. -/
def parseGenerationConfig (kind : IdentityKind) (bytes : List UInt8) :
    Except String RouteSetPriorLoadedIdentity :=
  if 65536 < bytes.length then .error (kind.generation ++ " configuration exceeded its bound")
  else do
    let body ← primaryIdentityBody bytes (octets kind.start) kind.description
    let identity ← parseGeneration parser kind body
    let config ← generationConfig identity
    if octets config ≠ bytes then .error (kind.description ++ " is not canonical")
    else .ok identity

end Readers

/-! ## Plain texts -/

/-- A seven-bit character other than the apostrophe, which would end the literal. -/
def isPlain (c : Char) : Bool :=
  decide (c.val ≤ 0x7f) && decide (c.val ≠ 39)

/-- A plain character other than the comma, which would end the field. -/
def isToken (c : Char) : Bool :=
  isPlain c && decide (c ≠ ',')

/-- A text of at most so many characters of a kind. -/
def Bounded (p : Char → Bool) (bound : Nat) (text : String) : Prop :=
  text.toList.length ≤ bound ∧ text.toList.all p = true

instance (p : Char → Bool) (bound : Nat) (text : String) : Decidable (Bounded p bound text) :=
  inferInstanceAs (Decidable (_ ∧ _))

abbrev Plain := Bounded isPlain

abbrev Token := Bounded isToken

private theorem isToken_of_le {c : Char} (hlow : '-' ≤ c) (hhigh : c ≤ 'z') : isToken c = true := by
  have hmin : 45 ≤ c.val.toNat := hlow
  have hmax : c.val.toNat ≤ 122 := hhigh
  simp only [isToken, isPlain, Bool.and_eq_true, decide_eq_true_eq]
  refine ⟨⟨UInt32.le_iff_toNat_le.mpr (hmax.trans (by decide)), ?_⟩, ?_⟩
  · intro heq
    rw [heq] at hmin
    exact absurd hmin (by decide)
  · rintro rfl
    exact absurd hmin (by decide)

variable {c : Char} {identity : RouteSetPriorLoadedIdentity}

private theorem isToken_of_isDigit (h : c.isDigit = true) : isToken c = true := by
  change (decide ('0' ≤ c) && decide (c ≤ '9')) = true at h
  simp only [Bool.and_eq_true, decide_eq_true_eq] at h
  exact isToken_of_le (le_trans (by decide) h.1) (le_trans h.2 (by decide))

private theorem isToken_of_isLowerHex (h : isLowerHex c = true) : isToken c = true := by
  simp only [isLowerHex, Bool.or_eq_true, Bool.and_eq_true, decide_eq_true_eq] at h
  rcases h with ⟨hlow, hhigh⟩ | ⟨hlow, hhigh⟩ <;>
    exact isToken_of_le (le_trans (by decide) hlow) (le_trans hhigh (by decide))

namespace Bounded

variable {p : Char → Bool} {m n : Nat} {a b : String}

theorem mono (h : Bounded p m a) (hle : m ≤ n) : Bounded p n a :=
  ⟨h.1.trans hle, h.2⟩

theorem append (ha : Bounded p m a) (hb : Bounded p n b) : Bounded p (m + n) (a ++ b) := by
  constructor
  · rw [String.toList_append, List.length_append]
    exact Nat.add_le_add ha.1 hb.1
  · rw [String.toList_append, List.all_append, ha.2, hb.2]
    rfl

theorem plain (h : Token m a) : Plain m a :=
  ⟨h.1, List.all_eq_true.mpr fun c hc =>
    (Bool.and_eq_true_iff.mp (List.all_eq_true.mp h.2 c hc)).1⟩

theorem comma_not_mem (h : Token m a) : ',' ∉ a.toList := fun hmem =>
  absurd (List.all_eq_true.mp h.2 ',' hmem) (by decide)

theorem quoted (h : Token m a) : Token (m + 2) (quoted a) :=
  (((show Token 1 "\"" by decide).append h).append (show Token 1 "\"" by decide)).mono (by omega)

theorem printField {key value : String} (hkey : Token 27 key) (hvalue : Token m value) :
    Token (m + 30) (printField (key, value)) :=
  ((hkey.quoted.append (show Token 1 ":" by decide)).append hvalue).mono (by omega)

theorem commaSeparated {texts : List String} (h : ∀ text ∈ texts, Plain m text) :
    Plain (texts.length * (m + 1)) (commaSeparated texts) := by
  induction texts with
  | nil => exact ⟨Nat.zero_le _, rfl⟩
  | cons text rest ih =>
    have hhead := h text List.mem_cons_self
    have htail := ih fun other hother => h other (List.mem_cons_of_mem _ hother)
    rw [List.length_cons, Nat.add_mul, Nat.one_mul]
    cases rest with
    | nil => exact hhead.mono (by omega)
    | cons next rest =>
      exact ((hhead.append (show Plain 1 "," by decide)).append htail).mono (by omega)

theorem printRecord {fields : List (String × String)}
    (h : ∀ field ∈ fields, Plain m (Generations.printField field)) :
    Plain (fields.length * (m + 1) + 2) (printRecord fields) := by
  have hall := commaSeparated (List.forall_mem_map.mpr h)
  rw [List.length_map] at hall
  exact (((show Plain 1 "\x7b" by decide).append hall).append
    (show Plain 1 "\x7d" by decide)).mono (by omega)

theorem val_of_mem {c : Char} (h : Plain m a) (hc : c ∈ a.toList) :
    c.utf8Size = 1 ∧ c.val ≤ 0x7f ∧ c.val ≠ 39 := by
  have hplain := List.all_eq_true.mp h.2 c hc
  simp only [isPlain, Bool.and_eq_true, decide_eq_true_eq] at hplain
  exact ⟨by simp [Char.utf8Size, hplain.1], hplain⟩

theorem length_octets (h : Plain m a) : (octets a).length ≤ m := by
  rw [Math.length_octets, byteLength_of_ascii fun c hc => (h.val_of_mem hc).1]
  exact h.1

theorem not_mem_octets (h : Plain m a) : 39 ∉ octets a := by
  intro hmem
  obtain ⟨c, hc, hbyte⟩ := List.mem_flatMap.mp hmem
  obtain ⟨hsize, hle, hne⟩ := h.val_of_mem hc
  rw [String.utf8EncodeChar_eq_singleton hsize, List.mem_singleton] at hbyte
  have hnat := congrArg UInt8.toNat hbyte
  rw [UInt32.toNat_toUInt8] at hnat
  have hbound : c.val.toNat ≤ 0x7f := hle
  refine hne (UInt32.toNat_inj.mp ?_)
  simp only [UInt8.reduceToNat, UInt32.reduceToNat] at hnat ⊢
  omega

theorem toText (id : Uuid) : Token 36 id.toText := by
  refine ⟨(length_toText id).le, List.all_eq_true.mpr fun c hc => ?_⟩
  by_cases hhyphen : c = '-'
  · rw [hhyphen]
    rfl
  · have hkept : c ∈ id.toText.toList.filter (· != '-') :=
      List.mem_filter.mpr ⟨hc, by simpa using hhyphen⟩
    rw [Uuid.filter_toText] at hkept
    exact isToken_of_isLowerHex (isLowerHex_of_mem_hexDigits hkept)

theorem of_validSha256 (h : validSha256 a = true) : Token 71 a := by
  have hdigest := sqlDigest_of_validSha256 h
  simp only [sqlDigest, Bool.and_eq_true, decide_eq_true_eq] at hdigest
  obtain ⟨⟨hscheme, hlength⟩, hhex⟩ := hdigest
  refine ⟨hlength.le, ?_⟩
  rw [← List.take_append_drop 7 a.toList, List.all_append, hscheme, Bool.and_eq_true]
  refine ⟨by decide, List.all_eq_true.mpr fun c hc => ?_⟩
  exact isToken_of_isLowerHex (List.all_eq_true.mp hhex c hc)

theorem nat {value : Nat} (h : value < 10 ^ 19) : Token 19 (toString value) := by
  constructor
  · exact (Nat.length_repr_le_iff (by decide)).mpr h
  · rw [Nat.toString_eq_repr, Nat.repr_eq_ofList_toDigits, String.toList_ofList, List.all_eq_true]
    intro c hc
    exact isToken_of_isDigit (Nat.isDigit_of_mem_toDigits (by decide) (by decide) hc)

theorem int64 (value : Int64) : Token 20 (toString value.toInt) := by
  have hlow := value.le_toInt
  have hhigh := value.toInt_lt
  generalize value.toInt = number at hlow hhigh ⊢
  cases number with
  | ofNat value =>
    rw [Int.ofNat_eq_natCast] at hhigh
    exact (nat (by omega)).mono (by decide)
  | negSucc value =>
    have hvalue : value + 1 < 10 ^ 19 := by omega
    exact ((show Token 1 "-" by decide).append (nat hvalue)).mono (by decide)

end Bounded

/-- A valid identity prints its fields as plain texts without commas, within the bounds of the
writers. -/
theorem token_printedFields (h : validateIdentity identity = .ok ()) :
    (printedFields identity).length ≤ 7 ∧
      ∀ field ∈ printedFields identity, Token 103 (printField field) := by
  have hid : ∀ {key : String} (id : Uuid), Token 27 key →
      Token 103 (printField (key, quoted id.toText)) := fun id hkey =>
    (hkey.printField (Bounded.toText id).quoted).mono (by decide)
  have hint : ∀ {key : String} (value : Int64), Token 27 key →
      Token 103 (printField (key, toString value.toInt)) := fun value hkey =>
    (hkey.printField (Bounded.int64 value)).mono (by decide)
  have hversion : ∀ value : UInt8,
      Token 103 (printField ("protocol_version", toString value.toNat)) := fun value =>
    (Bounded.printField (by decide) (Bounded.nat (value.toNat_lt.trans (by decide)))).mono
      (by decide)
  cases identity with
  | startup identity =>
    simp only [validateIdentity] at h
    split at h
    · cases h
    split at h
    · rename_i hdigest
      refine ⟨by simp [printedFields], ?_⟩
      simp only [printedFields, List.forall_mem_cons]
      exact ⟨hid _ (by decide), .printField (by decide) (Bounded.of_validSha256 hdigest).quoted,
        by simp⟩
    · cases h
  | release identity =>
    obtain ⟨-, -, -, hdigest⟩ := ReleaseOverlayGenerationIdentity.validate_ok h
    have hoverlay : Token 103 (printField ("overlay_kind", quoted identity.overlayKind.asStr)) := by
      cases identity.overlayKind <;> decide
    have hslot : Token 103 (printField ("target_slot", quoted identity.targetSlot.asStr)) := by
      cases identity.targetSlot <;> decide
    refine ⟨by simp [printedFields], ?_⟩
    simp only [printedFields, List.forall_mem_cons]
    exact ⟨hversion _, hid _ (by decide), hid _ (by decide), hint _ (by decide), hoverlay,
      .printField (by decide) (Bounded.of_validSha256 hdigest).quoted, hslot, by simp⟩
  | routeSet identity =>
    have hdigest : Token 103 (printField ("route_set_digest", quoted identity.routeSetDigest)) := by
      simp only [validateIdentity, RouteSetGenerationIdentity.validate] at h
      split at h
      · cases h
      split at h
      · rename_i hvalid
        exact .printField (by decide) (Bounded.of_validSha256 hvalid).quoted
      · cases h
    have hkind : Token 103 (printField ("publication_kind",
        quoted identity.publicationKind.asStr)) := by
      cases identity.publicationKind <;> decide
    cases hscope : identity.scope with
    | fleet startup =>
      simp only [printedFields, toWire, hscope, List.forall_mem_cons]
      exact ⟨by simp, hversion _, hid _ (by decide), hkind, hid _ (by decide), hint _ (by decide),
        hdigest, by simp⟩
    | workshop workshop fence =>
      simp only [printedFields, toWire, hscope, List.forall_mem_cons]
      exact ⟨by simp, hversion _, hid _ (by decide), hkind, hint _ (by decide), hid _ (by decide),
        hint _ (by decide), hdigest, by simp⟩

theorem plain_printed (h : validateIdentity identity = .ok ()) : Plain 730 (printed identity) := by
  obtain ⟨hlength, hfields⟩ := token_printedFields h
  exact (Bounded.printRecord fun field hfield => (hfields field hfield).plain).mono (by omega)

/-! ## Different identities print differently -/

theorem toList_commaSeparated (texts : List String) :
    (commaSeparated texts).toList = [','].intercalate (texts.map String.toList) := by
  fun_induction commaSeparated texts with
  | case1 => rfl
  | case2 text => simp
  | case3 text rest hrest ih =>
    cases rest with
    | nil => exact absurd rfl hrest
    | cons next rest => simp [ih]

/-- The fields are found again between the commas. -/
theorem map_printField_of_printRecord {fields fields' : List (String × String)} {m : Nat}
    (h : ∀ field ∈ fields, Token m (printField field)) (hne : fields ≠ [])
    (h' : ∀ field ∈ fields', Token m (printField field)) (hne' : fields' ≠ [])
    (heq : printRecord fields = printRecord fields') :
    fields.map printField = fields'.map printField := by
  have hsplit : ∀ {fields : List (String × String)},
      (∀ field ∈ fields, Token m (printField field)) → fields ≠ [] →
      (commaSeparated (fields.map printField)).toList.splitOn ',' =
        (fields.map printField).map String.toList := by
    intro fields h hne
    rw [toList_commaSeparated, List.splitOn_intercalate]
    · simp only [List.forall_mem_map]
      exact fun field hfield => (h field hfield).comma_not_mem
    · simpa using hne
  rw [printRecord, printRecord, String.append_left_inj, String.append_right_inj] at heq
  have hparts := (hsplit h hne).symm.trans ((heq ▸ rfl : _ = _).trans (hsplit h' hne'))
  exact List.map_injective_iff.mpr (fun _ _ => String.toList_injective) hparts

theorem printedFields_ne_nil (identity : RouteSetPriorLoadedIdentity) :
    printedFields identity ≠ [] := by
  cases identity with
  | startup identity | release identity => nofun
  | routeSet identity =>
    rw [printedFields]
    split <;> nofun

@[simp]
theorem repr_nat_inj {m n : Nat} : m.repr = n.repr ↔ m = n := by
  refine ⟨fun h => ?_, fun h => h ▸ rfl⟩
  have hdigits := congrArg (fun text => Nat.ofDigitChars 10 text.toList 0) h
  simpa [Nat.repr_eq_ofList_toDigits] using hdigits

@[simp]
theorem repr_int_inj {m n : Int} : m.repr = n.repr ↔ m = n := by
  refine ⟨fun h => ?_, fun h => h ▸ rfl⟩
  -- No digit is a sign.
  have hsign : ∀ a b : Nat, a.repr ≠ "-" ++ (b + 1).repr := by
    intro a b heq
    have hmem : '-' ∈ a.repr.toList := by simp [heq]
    rw [Nat.repr_eq_ofList_toDigits, String.toList_ofList] at hmem
    exact absurd (Nat.isDigit_of_mem_toDigits (by decide) (by decide) hmem) (by decide)
  cases m with
  | ofNat m =>
    cases n with
    | ofNat n => exact congrArg Int.ofNat (repr_nat_inj.mp h)
    | negSucc n => exact absurd h (hsign m n)
  | negSucc m =>
    cases n with
    | ofNat n => exact absurd h.symm (hsign n m)
    | negSucc n =>
      have hdigits := repr_nat_inj.mp ((String.append_right_inj "-").mp h)
      exact congrArg Int.negSucc (Nat.succ.inj hdigits)

@[simp]
theorem toText_inj {id id' : Uuid} : id.toText = id'.toText ↔ id = id' :=
  ⟨fun h => by rw [← Uuid.ofText_toText id, h, Uuid.ofText_toText], fun h => h ▸ rfl⟩

@[simp]
theorem quoted_inj {a b : String} : quoted a = quoted b ↔ a = b := by
  simp [quoted]

@[simp]
theorem printField_inj {key a b : String} : printField (key, a) = printField (key, b) ↔ a = b := by
  simp [printField]

@[simp]
theorem overlayKind_inj {a b : OverlayKind} : a.asStr = b.asStr ↔ a = b := by
  cases a <;> cases b <;> decide

@[simp]
theorem slot_inj {a b : Slot} : a.asStr = b.asStr ↔ a = b := by
  cases a <;> cases b <;> decide

@[simp]
theorem publicationKind_inj {a b : RouteSetPublicationKind} : a.asStr = b.asStr ↔ a = b := by
  cases a <;> cases b <;> decide

theorem printed_injective {identity' : RouteSetPriorLoadedIdentity}
    (h : validateIdentity identity = .ok ()) (h' : validateIdentity identity' = .ok ())
    (hkind : kindOf identity = kindOf identity') (heq : printed identity = printed identity') :
    identity = identity' := by
  have hfields := map_printField_of_printRecord (token_printedFields h).2 (printedFields_ne_nil _)
    (token_printedFields h').2 (printedFields_ne_nil _) heq
  cases identity with
  | startup identity =>
    cases identity' <;> cases hkind
    obtain ⟨run, digest⟩ := identity
    simp [printedFields] at hfields
    simp [hfields]
  | release identity =>
    cases identity' <;> cases hkind
    obtain ⟨version, run, operation, fence, overlay, digest, slot⟩ := identity
    simp [printedFields, UInt8.toNat_inj, Int64.toInt_inj] at hfields
    simp [hfields]
  | routeSet identity =>
    cases identity' <;> cases hkind
    obtain ⟨version, id, kind, fence, digest, scope⟩ := identity
    rename_i identity'
    obtain ⟨version', id', kind', fence', digest', scope'⟩ := identity'
    cases scope <;> cases scope' <;>
      simp [printedFields, toWire, UInt8.toNat_inj, Int64.toInt_inj] at hfields <;> simp [hfields]

/-! ## Writing and reading -/

theorem octets_append (a b : String) : octets (a ++ b) = octets a ++ octets b := by
  simp [octets]

/-- The ending is found where its first byte stands for the first time. -/
theorem before_append {first : UInt8} {body : List UInt8} (h : first ∉ body)
    (ending rest : List UInt8) :
    before (first :: ending) (body ++ (first :: ending ++ rest)) = some body := by
  induction body with
  | nil =>
    have hprefix : (first :: ending).isPrefixOf (first :: ending ++ rest) = true := by simp
    exact if_pos hprefix
  | cons byte body ih =>
    have hne : first ≠ byte := fun heq => h (heq ▸ List.mem_cons_self)
    rw [List.cons_append, before, ih fun hmem => h (List.mem_cons_of_mem _ hmem)]
    simp [List.isPrefixOf, hne]

theorem length_octets_append {a b : String} {m n : Nat} (ha : (octets a).length ≤ m)
    (hb : (octets b).length ≤ n) : (octets (a ++ b)).length ≤ m + n := by
  rw [octets_append, List.length_append]
  exact Nat.add_le_add ha hb

theorem length_serverStart {port path : String} (hport : Plain 4 port) (hpath : Plain 26 path) :
    (octets (serverStart port path)).length ≤ 200 := by
  have hlisten : (octets listenStart).length ≤ 28 := by decide +kernel
  have hname : (octets ";\n  server_name _;\n  location = /_mb/").length ≤ 38 := by decide +kernel
  have htype : (octets " \x7b\n    default_type application/json;\n").length ≤ 40 := by
    decide +kernel
  have hheader : (octets
      "    add_header Cache-Control 'no-store' always;\n    return 200 '").length ≤ 64 := by
    decide +kernel
  have hlocation := length_octets_append hname hpath.length_octets
  exact length_octets_append (length_octets_append hlisten hport.length_octets) <|
    length_octets_append (length_octets_append hlocation htype) hheader

theorem length_identityServerEnd : (octets identityServerEnd).length ≤ 64 := by
  decide +kernel

theorem runningRouteWorkerIdentityConfig_of_valid (h : validateIdentity identity = .ok ()) :
    ∃ universal, runningRouteWorkerIdentityConfig identity = .ok universal ∧
      (octets universal).length ≤ 2312 := by
  have hkind : Plain 760 (printField ("kind", quoted (kindOf identity).asStr)) := by
    cases kindOf identity <;> decide
  have hidentity : Plain 760 (printField ("identity", printed identity)) :=
    ((show Plain 30 (quoted "identity" ++ ":") by decide).append (plain_printed h)).mono (by decide)
  have hfields : ∀ field ∈ [("kind", quoted (kindOf identity).asStr),
      ("identity", printed identity)], Plain 760 (printField field) := by
    simp only [List.forall_mem_cons]
    exact ⟨hkind, hidentity, by simp⟩
  have hbody := ((Bounded.printRecord hfields).mono (by simp : _ ≤ 2048)).length_octets
  have hstart : (octets (serverStart "8085" "route-worker-identity")).length ≤ 200 :=
    length_serverStart (by decide) (by decide)
  simp only [runningRouteWorkerIdentityConfig, h, bind, Except.bind, if_neg (Nat.not_lt.mpr hbody)]
  exact ⟨_, rfl, length_octets_append (length_octets_append hstart hbody) length_identityServerEnd⟩

/-- The configuration of a valid identity: the first server with the printed identity,
then the server that tells the kind as well. -/
theorem generationConfig_of_valid (h : validateIdentity identity = .ok ()) :
    ∃ config rest, generationConfig identity = .ok config ∧ (octets config).length ≤ 65536 ∧
      octets config = octets (kindOf identity).start ++
        (octets (printed identity) ++ (octets identityServerEnd ++ rest)) := by
  have hprinted := (plain_printed h).length_octets
  obtain ⟨universal, huniversal, hlength⟩ := runningRouteWorkerIdentityConfig_of_valid h
  have hlong : ¬ (kindOf identity ≠ .startup ∧ 1024 < (octets (printed identity)).length) := by
    omega
  have hstart : (octets (kindOf identity).start).length ≤ 200 := by
    cases kindOf identity <;> exact length_serverStart (by decide) (by decide)
  simp only [generationConfig, huniversal, h, bind, Except.bind, if_neg hlong]
  refine ⟨_, octets universal, rfl, ?_, by simp only [octets_append, List.append_assoc]⟩
  exact (length_octets_append (length_octets_append (length_octets_append hstart hprinted)
    length_identityServerEnd) hlength).trans (by decide)

theorem isPrefixOf_generationConfig {config : String} (h : generationConfig identity = .ok config) :
    (octets (kindOf identity).start).isPrefixOf (octets config) = true := by
  cases hvalid : validateIdentity identity with
  | error message => simp [generationConfig, hvalid, bind, Except.bind] at h
  | ok _ =>
    obtain ⟨written, rest, hwritten, -, hbytes⟩ := generationConfig_of_valid hvalid
    cases h.symm.trans hwritten
    rw [hbytes]
    exact List.isPrefixOf_iff_prefix.mpr (List.prefix_append _ _)

theorem kind_of_isPrefixOf {kind kind' : IdentityKind} {bytes : List UInt8}
    (h : (octets kind.start).isPrefixOf bytes = true)
    (h' : (octets kind'.start).isPrefixOf bytes = true) : kind = kind' := by
  obtain ⟨rest, rfl⟩ := List.isPrefixOf_iff_prefix.mp h
  obtain ⟨rest', hbytes⟩ := List.isPrefixOf_iff_prefix.mp h'
  simp only [IdentityKind.start, serverStart, octets_append, List.append_assoc,
    List.append_cancel_left_eq] at hbytes
  have hlength : ∀ kind : IdentityKind, (octets kind.port).length = 4 := by
    intro kind
    cases kind <;> decide +kernel
  obtain ⟨hport, -⟩ := List.append_inj hbytes ((hlength kind').trans (hlength kind).symm)
  replace hport := octets_injective hport
  cases kind <;> cases kind' <;> first | rfl | exact absurd hport (by decide)

section Readers

variable {parser : RecordParser} {kind : IdentityKind} {bytes : List UInt8}

/-- What a reader accepts: a configuration that starts like those of its kind and is the
one written for the result. -/
theorem parseGenerationConfig_ok (h : parseGenerationConfig parser kind bytes = .ok identity) :
    (octets kind.start).isPrefixOf bytes = true ∧
      ∃ config, generationConfig identity = .ok config ∧ octets config = bytes := by
  unfold parseGenerationConfig at h
  split at h
  · cases h
  simp only [primaryIdentityBody] at h
  split at h
  swap
  · cases h
  rename_i hstart
  refine ⟨hstart, ?_⟩
  split at h
  swap
  · cases h
  rename_i body hbody
  cases hparsed : parseGeneration parser kind body with
  | error message => simp [hparsed, bind, Except.bind] at h
  | ok found =>
    cases hconfig : generationConfig found with
    | error message => simp [hparsed, hconfig, bind, Except.bind] at h
    | ok config =>
      simp only [hparsed, hconfig, bind, Except.bind] at h
      split at h
      · cases h
      · rename_i hcanonical
        cases h
        exact ⟨config, hconfig, not_not.mp hcanonical⟩

/-- The literal of the first server is cut out, because it has no apostrophe. -/
theorem primaryIdentityBody_of_plain {bound : Nat} {body : String} (hbody : Plain bound body)
    (start rest : List UInt8) (description : String) :
    primaryIdentityBody (start ++ (octets body ++ (octets identityServerEnd ++ rest))) start
      description = .ok (octets body) := by
  have hending : octets identityServerEnd = 39 :: (octets identityServerEnd).tail := by
    decide +kernel
  have hfound := before_append hbody.not_mem_octets (octets identityServerEnd).tail rest
  rw [← hending] at hfound
  rw [primaryIdentityBody, if_pos (List.isPrefixOf_iff_prefix.mpr (List.prefix_append _ _)),
    List.drop_left, hfound]

theorem fromSlice_of_readsBack (hvalid : validateIdentity identity = .ok ())
    (hread : parser.ReadsBack identity) :
    parser.fromSlice (octets (printed identity)) (kindOf identity) = some identity := by
  cases identity with
  | startup identity | release identity =>
    exact congrArg (Option.map _) hread
  | routeSet identity =>
    have hwire : parser.routeSetWire (octets (printed (.routeSet identity))) =
        some (toWire identity) := by
      simp only [RecordParser.ReadsBack] at hread
      split at hread
      · rename_i wire hwire
        rw [RecordParser.routeSetWire, hread, hwire]
      · rename_i wire hwire
        rw [RecordParser.routeSetWire, hread.1, hread.2, hwire]
        rfl
    have hidentity : identity.validate = .ok () := hvalid
    simp [RecordParser.fromSlice, kindOf, RecordParser.routeSet, hwire, ofWire_toWire, hidentity]

/-- A written configuration is read back, if the parser reads back what was printed. -/
theorem parseGenerationConfig_generationConfig (hvalid : validateIdentity identity = .ok ())
    (hread : parser.ReadsBack identity) :
    ∃ config, generationConfig identity = .ok config ∧
      parseGenerationConfig parser (kindOf identity) (octets config) = .ok identity := by
  obtain ⟨config, rest, hconfig, hlength, hbytes⟩ := generationConfig_of_valid hvalid
  have hprinted := plain_printed hvalid
  have hcut := primaryIdentityBody_of_plain hprinted (octets (kindOf identity).start) rest
    (kindOf identity).description
  rw [← hbytes] at hcut
  have hshort : ¬ 1024 < (octets (printed identity)).length :=
    Nat.not_lt.mpr (hprinted.length_octets.trans (by decide))
  refine ⟨config, hconfig, ?_⟩
  simp only [parseGenerationConfig, if_neg (Nat.not_lt.mpr hlength), hcut, parseGeneration,
    if_neg hshort, fromSlice_of_readsBack hvalid hread, hvalid, hconfig, bind, Except.bind,
    ne_eq, not_true_eq_false, if_false]

end Readers

/-- **Identities are read back from exactly the configurations written for them.** A valid
identity of any kind is written, and read back when the parser reads back what was
printed. Whatever a reader accepts is the configuration written for its result, which is
of the reader's kind. No two readers of different kinds accept the same bytes, and no two
identities of one kind print the same. -/
theorem identity_config_canonical (parser : RecordParser) :
    (∀ identity, validateIdentity identity = .ok () → parser.ReadsBack identity →
      ∃ config, generationConfig identity = .ok config ∧
        parseGenerationConfig parser (kindOf identity) (octets config) = .ok identity) ∧
    (∀ kind bytes identity, parseGenerationConfig parser kind bytes = .ok identity →
      kindOf identity = kind ∧
        ∃ config, generationConfig identity = .ok config ∧ octets config = bytes) ∧
    (∀ kind kind' bytes identity identity',
      parseGenerationConfig parser kind bytes = .ok identity →
      parseGenerationConfig parser kind' bytes = .ok identity' → kind = kind') ∧
    (∀ identity identity', validateIdentity identity = .ok () →
      validateIdentity identity' = .ok () → kindOf identity = kindOf identity' →
      printed identity = printed identity' → identity = identity') := by
  refine ⟨fun _ => parseGenerationConfig_generationConfig, ?_, ?_, fun _ _ => printed_injective⟩
  · intro kind bytes identity h
    obtain ⟨hstart, config, hconfig, hbytes⟩ := parseGenerationConfig_ok h
    refine ⟨?_, config, hconfig, hbytes⟩
    exact kind_of_isPrefixOf (hbytes ▸ isPrefixOf_generationConfig hconfig) hstart
  · intro kind kind' bytes identity identity' h h'
    exact kind_of_isPrefixOf (parseGenerationConfig_ok h).1 (parseGenerationConfig_ok h').1

def zeroSha256 : String := "sha256:" ++ String.ofList (List.replicate 64 '0')

def sampleGateway : GatewayGenerationIdentity := ⟨1, zeroSha256⟩

def sampleOverlay : ReleaseOverlayGenerationIdentity :=
  ⟨1, 2, 3, 4, .candidate, zeroSha256, .green⟩

def sampleStartup : StartupRouteSetGenerationIdentityWire := ⟨1, 5, .startup, 6, 7, zeroSha256⟩

def sampleWorkshop : WorkshopRouteSetGenerationIdentityWire :=
  ⟨1, 8, .projection, 9, 10, 11, zeroSha256⟩

/-- An identity of each kind and scope. -/
def sampleIdentities : List RouteSetPriorLoadedIdentity :=
  [.startup sampleGateway, .release sampleOverlay, .routeSet (ofWire (.startup sampleStartup)),
    .routeSet (ofWire (.workshop sampleWorkshop))]

/-- A parser that knows these four. -/
def sampleParser : RecordParser where
  gateway bytes :=
    if bytes = octets (printed (.startup sampleGateway)) then some sampleGateway else none
  releaseOverlay bytes :=
    if bytes = octets (printed (.release sampleOverlay)) then some sampleOverlay else none
  startupRouteSet bytes :=
    if bytes = octets (printed (.routeSet (ofWire (.startup sampleStartup)))) then
      some sampleStartup
    else none
  workshopRouteSet bytes :=
    if bytes = octets (printed (.routeSet (ofWire (.workshop sampleWorkshop)))) then
      some sampleWorkshop
    else none

theorem identity_config_canonical_samples : ∀ identity ∈ sampleIdentities,
    validateIdentity identity = .ok () ∧ sampleParser.ReadsBack identity ∧
      ∃ config, generationConfig identity = .ok config ∧
        parseGenerationConfig sampleParser (kindOf identity) (octets config) = .ok identity := by
  have hvalid : ∀ identity ∈ sampleIdentities, validateIdentity identity = .ok () := by
    decide +kernel
  have hread : ∀ identity ∈ sampleIdentities, sampleParser.ReadsBack identity := by
    have hne : octets (printed (.routeSet (ofWire (.workshop sampleWorkshop)))) ≠
        octets (printed (.routeSet (ofWire (.startup sampleStartup)))) :=
      fun heq => nomatch printed_injective (hvalid _ (by simp [sampleIdentities]))
        (hvalid _ (by simp [sampleIdentities])) (by rfl) (octets_injective heq)
    simp only [sampleIdentities, List.forall_mem_cons, RecordParser.ReadsBack, toWire, ofWire,
      sampleParser] at hne ⊢
    simp [hne]
  exact fun identity hmem => ⟨hvalid _ hmem, hread _ hmem,
    (identity_config_canonical sampleParser).1 _ (hvalid _ hmem) (hread _ hmem)⟩

end ControlPlane.Generations
