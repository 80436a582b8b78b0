/-
# Route projections and their three readers

A workshop's desired route is a JSON value that the reconciliation worker builds
from the workshop's rows, the database validates and stores, and the deployment
driver reads in two ways: the typed parser of stored projections and the field
readers of the live route request. The three validators are written separately
and are stated here as written.
-/

import ControlPlane.Math.Text
import ControlPlane.Driver.Ledger
import Mathlib.Data.List.Sort
import Mathlib.Data.String.Basic

namespace ControlPlane.Routes

open Domain Driver Math

/-- What the routes code takes from libraries and the database: the digest of a
projection's canonical form, the identifier parser, which reads back the usual
text, and the database's collation, some total order of texts. -/
structure RouteEnvironment where
  projectionDigest : Json → String
  parseUuid : String → Option Uuid
  parseUuid_toText : ∀ id : Uuid, parseUuid id.toText = some id
  collationLe : String → String → Bool
  collationLe_total : ∀ a b, collationLe a b = true ∨ collationLe b a = true
  collationLe_trans : ∀ a b c, collationLe a b = true → collationLe b c = true →
    collationLe a c = true
  collationLe_antisymm : ∀ a b, collationLe a b = true → collationLe b a = true → a = b

inductive RouteDisposition
  | present
  | absent
  deriving DecidableEq

inductive PaperlessRouteMode
  | absent
  | readWrite
  | readOnly
  deriving DecidableEq

def PaperlessRouteMode.asStr : PaperlessRouteMode → String
  | .absent => "absent"
  | .readWrite => "read_write"
  | .readOnly => "read_only"

structure CustomHostnameRoute where
  hostname : String
  canonical : Bool
  deriving DecidableEq

/-! ## The worker's projection -/

/-- The rows `materialize` reads for a workshop. Custom domains are the routed ones;
their hostnames are unique in the table. -/
structure RouteSource where
  databaseId : Uuid
  (databaseRef publicHostname slug tenantDomain : String)
  documents : Option ModuleState
  paperlessReady : Bool
  domains : List CustomHostnameRoute
  unique : (domains.map CustomHostnameRoute.hostname).Nodup

namespace RouteSource

def paperlessMode (source : RouteSource) : PaperlessRouteMode :=
  if source.paperlessReady then
    match source.documents with
    | some .installing | some .enabled => .readWrite
    | some .restricting | some .restricted => .readOnly
    | _ => .absent
  else .absent

def paperlessHostname (source : RouteSource) : Option String :=
  if source.paperlessMode = .absent then none
  else some ("docs-" ++ source.slug ++ "." ++ source.tenantDomain)

/-- The custom domains in the order of the database's collation. -/
def orderedDomains (environment : RouteEnvironment) (source : RouteSource) :
    List CustomHostnameRoute :=
  source.domains.insertionSort fun first second =>
    environment.collationLe first.hostname second.hostname = true

end RouteSource

def CustomHostnameRoute.toJson (route : CustomHostnameRoute) : Json :=
  .object [("canonical", .bool route.canonical), ("hostname", .string route.hostname)]

def optionalText : Option String → Json
  | some text => .string text
  | none => .null

variable (environment : RouteEnvironment) (projection : Json)

def buildProjection (source : RouteSource) : Json :=
  .object [ ("custom_hostnames",
      .array ((source.orderedDomains environment).map CustomHostnameRoute.toJson)),
    ("database_id", .string source.databaseId.toText),
    ("database_ref", .string source.databaseRef),
    ("paperless_hostname", optionalText source.paperlessHostname),
    ("paperless_mode", .string source.paperlessMode.asStr),
    ("public_hostname", .string source.publicHostname)]

/-- The request the worker sends for a stored projection. -/
def routePayload (generation : Nat) (projectionDigest : String) : Json :=
  (projection.insert "route_generation" (.number generation)).insert "route_projection_digest"
    (.string projectionDigest)

/-! ## The database's validation -/

def isHostChar (c : Char) : Bool :=
  isLowerAlphanumeric c || decide (c = '-') || decide (c = '.')

/-- `^[a-z0-9][a-z0-9.-]{1,251}[a-z0-9]$` and no `..`. -/
def sqlHostname (text : String) : Bool :=
  let chars := text.toList
  decide (3 ≤ chars.length) && decide (chars.length ≤ 253) && chars.all isHostChar &&
    chars.head?.any isLowerAlphanumeric && chars.getLast?.any isLowerAlphanumeric &&
    !hasDouble '.' chars

/-- `^sha256:[0-9a-f]{64}$`. -/
def sqlDigest (text : String) : Bool :=
  let chars := text.toList
  decide (chars.take 7 = "sha256:".toList) && decide (chars.length = 71) &&
    (chars.drop 7).all isLowerHex

/-- `^mb_[0-9a-f]{32}$`. -/
def sqlDatabaseRef (text : String) : Bool :=
  let chars := text.toList
  decide (chars.take 3 = "mb_".toList) && decide (chars.length = 35) &&
    (chars.drop 3).all isLowerHex

/-- The position classes of the identifier pattern. -/
def uuidPattern : List (Char → Bool) :=
  List.replicate 8 isLowerHex ++ [(· == '-')] ++ List.replicate 4 isLowerHex ++ [(· == '-')] ++
    [fun c => decide ('1' ≤ c) && decide (c ≤ '5')] ++ List.replicate 3 isLowerHex ++
    [(· == '-')] ++ [fun c => c == '8' || c == '9' || c == 'a' || c == 'b'] ++
    List.replicate 3 isLowerHex ++ [(· == '-')] ++ List.replicate 12 isLowerHex

/-- `^[0-9a-f]{8}-[0-9a-f]{4}-[1-5][0-9a-f]{3}-[89ab][0-9a-f]{3}-[0-9a-f]{12}$`. -/
def sqlUuid (text : String) : Bool :=
  decide (text.toList.length = uuidPattern.length) &&
    (text.toList.zip uuidPattern).all fun (c, allowed) => allowed c

def sqlPaperlessMode (text : String) : Bool :=
  text == "absent" || text == "read_write" || text == "read_only"

/-- The loop over the custom hostnames: strictly increasing in the collation, and
at most one of them canonical. -/
def sqlCustomHostnames (collationLe : String → String → Bool) :
    Option String → Nat → List Json → Bool
  | _, _, [] => true
  | previous, canonicalCount, custom :: rest =>
    match custom, custom.get "hostname", custom.get "canonical" with
    | .object fields, some (.string hostname), some (.bool canonical) =>
      let count := if canonical then canonicalCount + 1 else canonicalCount
      decide (fields.length = 2) && sqlHostname hostname &&
        !(previous.any fun last => collationLe hostname last) && decide (count ≤ 1) &&
        sqlCustomHostnames collationLe (some hostname) count rest
    | _, _, _ => false

def sqlPaperlessHostname (mode : String) : Json → Bool
  | .null => decide (mode = "absent")
  | .string hostname => decide (mode ≠ "absent") && sqlHostname hostname
  | _ => false

/-- The shape checks of `materialize_workshop_route_projection`. -/
def sqlProjection (collationLe : String → String → Bool) (projection : Json) : Bool :=
  match projection, projection.get "database_id", projection.get "database_ref",
      projection.get "public_hostname", projection.get "paperless_mode",
      projection.get "paperless_hostname", projection.get "custom_hostnames" with
  | .object fields, some (.string databaseId), some (.string databaseRef),
      some (.string publicHostname), some (.string mode), some paperlessHostname,
      some (.array customs) =>
    decide (fields.length = 6) && sqlUuid databaseId && sqlDatabaseRef databaseRef &&
      sqlHostname publicHostname && sqlPaperlessMode mode && decide (customs.length ≤ 64) &&
      sqlPaperlessHostname mode paperlessHostname &&
      sqlCustomHostnames collationLe none 0 customs
  | _, _, _, _, _, _, _ => false

/-! ## The typed parser -/

structure RouteProjection where
  disposition : RouteDisposition
  databaseId : Option Uuid
  (databaseRef publicHostname : Option String)
  paperlessMode : PaperlessRouteMode
  paperlessHostname : Option String
  customHostnames : List CustomHostnameRoute
  projectionDigest : String
  deriving DecidableEq

def validSha256 (value : String) : Bool :=
  let chars := value.toList
  decide (chars.take 7 = "sha256:".toList) && decide (byteLength (chars.drop 7) = 64) &&
    (chars.drop 7).all fun c =>
      (decide ('0' ≤ c) && decide (c ≤ '9')) || (decide ('a' ≤ c) && decide (c ≤ 'f'))

def hostnameIsValid (value : String) : Bool :=
  let chars := value.toList
  decide (3 ≤ byteLength chars) && decide (byteLength chars ≤ 253) &&
    chars.head?.any isLowerAlphanumeric && chars.getLast?.any isLowerAlphanumeric &&
    !hasDouble '.' chars && chars.all isHostChar

/-- Every failure of the typed parser is reported as an unavailable backend. -/
def requiredString (key : String) : Except DriverError String :=
  match (projection.get key).bind Json.asStr with
  | some value => .ok value
  | none => .error .internal

def projectionHostname (key : String) : Except DriverError String :=
  match requiredString projection key with
  | .ok value => if hostnameIsValid value then .ok value else .error .internal
  | .error error => .error error

/-- The object of one custom hostname, with exactly its two fields. -/
def customHostnameFields (value : Json) : Option Json :=
  match value with
  | .object fields =>
    if fields.length = 2 ∧ (value.get "hostname").isSome ∧ (value.get "canonical").isSome then
      some value
    else none
  | _ => none

/-- The loop of `parse_custom_hostnames`: strictly increasing bytes, and at most one
canonical name. -/
def parseCustomHostnames : Option String → Bool → List Json →
    Except DriverError (List CustomHostnameRoute)
  | _, _, [] => .ok []
  | previous, canonicalSeen, value :: rest =>
    match customHostnameFields value with
    | none => .error .internal
    | some object =>
      match projectionHostname object "hostname", (object.get "canonical").bind Json.asBool with
      | .ok hostname, some canonical =>
        if previous.any fun last => decide (hostname ≤ last) then .error .internal
        else if canonical && canonicalSeen then .error .internal
        else
          match parseCustomHostnames (some hostname) (canonicalSeen || canonical) rest with
          | .ok routes => .ok (⟨hostname, canonical⟩ :: routes)
          | .error error => .error error
      | _, _ => .error .internal

def PaperlessRouteMode.parse : String → Except DriverError PaperlessRouteMode
  | "absent" => .ok .absent
  | "read_write" => .ok .readWrite
  | "read_only" => .ok .readOnly
  | _ => .error .internal

def canonicalAbsentProjection : Json :=
  .object [("custom_hostnames", .array []), ("database_id", .null), ("database_ref", .null),
    ("paperless_hostname", .null), ("paperless_mode", .string "absent"),
    ("public_hostname", .null)]

/-- The identifier whose usual text is the field, if it is of a known version. -/
def projectionDatabaseId (projection : Json) : Except DriverError Uuid :=
  match requiredString projection "database_id" with
  | .error error => .error error
  | .ok text =>
    match environment.parseUuid text with
    | some id =>
      if id.toText = text ∧ id.isRfc4122 = true ∧ 1 ≤ id.version ∧ id.version ≤ 5 then .ok id
      else .error .internal
    | none => .error .internal

def projectionPaperlessHostname : PaperlessRouteMode → Except DriverError (Option String)
  | .absent =>
    if (projection.get "paperless_hostname").any Json.isNull then .ok none
    else .error .internal
  | .readWrite | .readOnly => (projectionHostname projection "paperless_hostname").map some

def projectionCustomHostnames : Except DriverError (List CustomHostnameRoute) :=
  match (projection.get "custom_hostnames").bind Json.asArray with
  | some values =>
    if values.length ≤ 64 then parseCustomHostnames none false values else .error .internal
  | none => .error .internal

/-- The fields of a present route. -/
def parsePresent (projection : Json)
    (expectedDigest : String) : Except DriverError RouteProjection := do
  let databaseId ← projectionDatabaseId environment projection
  let databaseRef ← requiredString projection "database_ref"
  if databaseRef ≠ opaqueDatabaseRef databaseId then .error .internal
  else
    let publicHostname ← projectionHostname projection "public_hostname"
    let modeText ← requiredString projection "paperless_mode"
    let paperlessMode ← PaperlessRouteMode.parse modeText
    let paperlessHostname ← projectionPaperlessHostname projection paperlessMode
    let customHostnames ← projectionCustomHostnames projection
    .ok {
      disposition := .present
      databaseId := some databaseId
      databaseRef := some databaseRef
      publicHostname := some publicHostname
      paperlessMode := paperlessMode
      paperlessHostname := paperlessHostname
      customHostnames := customHostnames
      projectionDigest := expectedDigest }

def projectionKeys : List String :=
  ["database_id", "database_ref", "public_hostname", "paperless_mode", "paperless_hostname",
    "custom_hostnames"]

def RouteProjection.parse (projection : Json)
    (expectedDigest : String) (disposition : RouteDisposition) :
    Except DriverError RouteProjection :=
  if validSha256 expectedDigest = false ∨ projection.asObject.map List.length ≠ some 6 then
    .error .internal
  else if environment.projectionDigest projection ≠ expectedDigest then .error .internal
  else if projectionKeys.any fun key => (projection.get key).isNone then .error .internal
  else
    match disposition with
    | .absent =>
      if projection ≠ canonicalAbsentProjection then .error .internal
      else
        .ok ⟨.absent, none, none, none, .absent, none, [], expectedDigest⟩
    | .present => parsePresent environment projection expectedDigest

/-! ## The live readers -/

structure RouteProjectionContract where
  generation : Nat
  digest : String
  disposition : RouteDisposition
  deriving DecidableEq

/-- The digest field of a live request. -/
def contractDigest (value : String) : Bool :=
  let chars := value.toList
  decide (byteLength chars = 71) && decide (chars.take 7 = "sha256:".toList) &&
    (chars.drop 7).all fun c =>
      ((decide ('0' ≤ c) && decide (c ≤ '9')) || (decide ('a' ≤ c) && decide (c ≤ 'f')) ||
        (decide ('A' ≤ c) && decide (c ≤ 'F'))) && !(decide ('A' ≤ c) && decide (c ≤ 'Z'))

def contractDisposition (payload : Json) : Except DriverError RouteDisposition :=
  match payload.get "route_disposition" with
  | none => .ok .present
  | some (.string "present") => .ok .present
  | some (.string "absent") => .ok .absent
  | some _ => .error (.bad "route projection disposition is invalid")

/-- The projection inside a request. -/
def withoutContract (payload : Json) : Json :=
  ((payload.remove "route_generation").remove "route_projection_digest").remove "route_disposition"

def contractGeneration (value : Option Json) : Except DriverError Nat :=
  match value.bind Json.asI64 with
  | some generation =>
    if generation ≤ 0 then .error (.bad "route projection generation is invalid")
    else .ok generation.toNat
  | none => .error (.bad "route projection generation is invalid")

/-- The contract of a request that has one of its two fields. -/
def requiredContract (payload : Json)
    (generation digest : Option Json) : Except DriverError RouteProjectionContract :=
  match contractGeneration generation with
  | .error error => .error error
  | .ok generation =>
    match digest.bind Json.asStr with
    | none => .error (.bad "route projection digest is invalid")
    | some digest =>
      if contractDigest digest = false then
        .error (.bad "route projection digest is invalid")
      else
        match contractDisposition payload with
        | .error error => .error error
        | .ok disposition =>
          if payload.asObject.isNone then
            .error (.bad "route projection must be an object")
          else if environment.projectionDigest (withoutContract payload) ≠ digest then
            .error ⟨.conflict, "route projection digest does not match its payload"⟩
          else .ok ⟨generation, digest, disposition⟩

def routeProjectionContract (payload : Json) :
    Except DriverError (Option RouteProjectionContract) :=
  match payload.get "route_generation", payload.get "route_projection_digest" with
  | none, none => .ok none
  | generation, digest => (requiredContract environment payload generation digest).map some

def hostname (payload : Json) (key : String) : Except DriverError String :=
  match (payload.get key).bind Json.asStr with
  | none => .error (.bad (key ++ " is required"))
  | some value =>
    let chars := value.toList
    if chars = [] ∨ 253 < byteLength chars ∨ chars.head? = some '.' ∨
        chars.getLast? = some '.' ∨ chars.all isHostChar = false then
      .error (.bad (key ++ " is invalid"))
    else .ok value

/-- The loop of `custom_hostname_routes`: no name twice, and at most one canonical. -/
def customHostnameLoop : List String → Bool → List Json →
    Except DriverError (List CustomHostnameRoute)
  | _, _, [] => .ok []
  | seen, canonicalSeen, value :: rest =>
    match customHostnameFields value with
    | none => .error (.bad "custom hostname route is invalid")
    | some object =>
      match hostname object "hostname" with
      | .error error => .error error
      | .ok name =>
        match (object.get "canonical").bind Json.asBool with
        | none => .error (.bad "custom hostname canonical flag is invalid")
        | some canonical =>
          if name ∈ seen ∨ (canonical && canonicalSeen) = true then
            .error (.bad "custom hostname routes conflict")
          else
            match customHostnameLoop (name :: seen) (canonicalSeen || canonical) rest with
            | .ok routes => .ok (⟨name, canonical⟩ :: routes)
            | .error error => .error error

def customHostnameRoutes (payload : Json) : Except DriverError (List CustomHostnameRoute) :=
  match payload.get "custom_hostnames" with
  | none => .ok []
  | some values =>
    match values.asArray with
    | some values =>
      if values.length ≤ 20 then customHostnameLoop [] false values
      else .error (.bad "custom_hostnames must be a bounded array")
    | none => .error (.bad "custom_hostnames must be a bounded array")

/-- What the live path reads from a request for a present route. -/
structure LiveRoute where
  contract : RouteProjectionContract
  databaseRef : Option String
  publicHostname : String
  customHostnames : List CustomHostnameRoute
  paperlessMode : String
  paperlessHostname : Option String
  deriving DecidableEq

def livePaperlessHostname (payload : Json) (mode : String) : Except DriverError (Option String) :=
  if mode = "absent" ∧ (payload.get "paperless_hostname").any Json.isNull = true then .ok none
  else if mode = "read_write" ∨ mode = "read_only" then
    (hostname payload "paperless_hostname").map some
  else .error (.bad "paperless route mode is invalid")

def liveRoute (payload : Json) : Except DriverError LiveRoute := do
  match ← routeProjectionContract environment payload with
  | none => .error (.bad "route projection authority is required")
  | some contract =>
    let publicHostname ← hostname payload "public_hostname"
    let customHostnames ← customHostnameRoutes payload
    match (payload.get "paperless_mode").bind Json.asStr with
    | none => .error (.bad "paperless route mode is required")
    | some mode =>
      let paperlessHostname ← livePaperlessHostname payload mode
      .ok ⟨contract, (payload.get "database_ref").bind Json.asStr, publicHostname,
        customHostnames, mode, paperlessHostname⟩

end ControlPlane.Routes
