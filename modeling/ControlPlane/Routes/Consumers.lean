/-
# The readers of one projection

Whether the two driver readers accept a projection that the database has stored,
and whether they read the same route from it. The database orders hostnames by its
collation and admits sixty-four of them; the typed parser compares bytes, and the
live path admits twenty.
-/

import ControlPlane.Routes.Projection
import Mathlib.Data.List.Chain
import Mathlib.Data.Prod.Lex

namespace ControlPlane.Routes

open Domain Driver Math

/-! ## Texts -/

theorem utf8Size_of_isHostChar {c : Char} (h : isHostChar c = true) : c.utf8Size = 1 := by
  simp only [isHostChar, Bool.or_eq_true, decide_eq_true_eq] at h
  rcases h with (h | rfl) | rfl
  · exact utf8Size_of_isLowerAlphanumeric h
  · rfl
  · rfl

/-- The database pattern and the typed parser define the same hostnames. -/
theorem hostnameIsValid_eq_sqlHostname (text : String) :
    hostnameIsValid text = sqlHostname text := by
  unfold hostnameIsValid sqlHostname
  cases hall : text.toList.all isHostChar with
  | false => simp [hall]
  | true =>
    have hbytes : byteLength text.toList = text.toList.length :=
      byteLength_of_ascii fun c hc => utf8Size_of_isHostChar (List.all_eq_true.mp hall c hc)
    simp only [hall, hbytes, Bool.and_true]

/-- The live reader accepts every hostname the database accepts. -/
theorem hostname_of_sqlHostname {payload : Json} {key value : String}
    (hfield : payload.get key = some (.string value)) (hvalid : sqlHostname value = true) :
    hostname payload key = .ok value := by
  simp only [sqlHostname, Bool.and_eq_true, decide_eq_true_eq] at hvalid
  obtain ⟨⟨⟨⟨⟨hshort, hlong⟩, hall⟩, hhead⟩, hlast⟩, -⟩ := hvalid
  have hbytes : byteLength value.toList = value.toList.length :=
    byteLength_of_ascii fun c hc => utf8Size_of_isHostChar (List.all_eq_true.mp hall c hc)
  have hne : value.toList ≠ [] := by
    intro hnil
    rw [hnil] at hshort
    simp at hshort
  have hdot : ∀ {c : Option Char}, c.any isLowerAlphanumeric = true → c ≠ some '.' := by
    rintro c hc rfl
    revert hc
    decide
  have hok : ¬ (value.toList = [] ∨ 253 < byteLength value.toList ∨
      value.toList.head? = some '.' ∨ value.toList.getLast? = some '.' ∨
      value.toList.all isHostChar = false) := by
    rw [hbytes, hall]
    simp [hne, hdot hhead, hdot hlast, hlong]
  simp only [hostname, hfield, Option.bind_some, Json.asStr, if_neg hok]

/-- A digest the database accepts has the form both readers ask for. -/
theorem digest_of_sqlDigest {text : String} (h : sqlDigest text = true) :
    validSha256 text = true ∧ contractDigest text = true := by
  simp only [sqlDigest, Bool.and_eq_true, decide_eq_true_eq] at h
  obtain ⟨⟨htake, hlength⟩, hhex⟩ := h
  have hsize : ∀ c ∈ text.toList.drop 7, c.utf8Size = 1 := fun c hc =>
    utf8Size_of_isLowerHex (List.all_eq_true.mp hhex c hc)
  have hrest : byteLength (text.toList.drop 7) = 64 := by
    rw [byteLength_of_ascii hsize, List.length_drop, hlength]
  have hscheme : ("sha256:".toList.all fun c => decide (c.utf8Size = 1)) = true := by decide
  have hwhole : byteLength text.toList = 71 := by
    rw [byteLength_of_ascii, hlength]
    intro c hc
    rw [← List.take_append_drop 7 text.toList, List.mem_append, htake] at hc
    rcases hc with hc | hc
    · exact of_decide_eq_true (List.all_eq_true.mp hscheme c hc)
    · exact hsize c hc
  have hlower : (text.toList.drop 7).all (fun c =>
      ((decide ('0' ≤ c) && decide (c ≤ '9')) || (decide ('a' ≤ c) && decide (c ≤ 'f')) ||
        (decide ('A' ≤ c) && decide (c ≤ 'F'))) &&
        !(decide ('A' ≤ c) && decide (c ≤ 'Z'))) = true := by
    rw [List.all_eq_true]
    intro c hc
    have hdigit := List.all_eq_true.mp hhex c hc
    have hcase : c < 'A' ∨ 'Z' < c := by
      simp only [isLowerHex, Bool.or_eq_true, Bool.and_eq_true, decide_eq_true_eq] at hdigit
      rcases hdigit with ⟨-, h⟩ | ⟨h, -⟩
      · exact Or.inl (lt_of_le_of_lt h (by decide))
      · exact Or.inr (lt_of_lt_of_le (by decide) h)
    simp only [isLowerHex] at hdigit
    simp [hdigit, hcase]
  refine ⟨?_, ?_⟩
  · simp only [validSha256, htake, hrest, decide_true, Bool.true_and]
    exact hhex
  · simp only [contractDigest, htake, hwhole, decide_true, Bool.true_and]
    exact hlower

/-! ## Identifiers -/

private theorem version_of_digitChar : ∀ v < 16,
    (decide ('1' ≤ Nat.digitChar v) && decide (Nat.digitChar v ≤ '5')) = true → 1 ≤ v ∧ v ≤ 5 := by
  decide

private theorem variant_of_digitChar : ∀ v < 16,
    (Nat.digitChar v == '8' || Nat.digitChar v == '9' || Nat.digitChar v == 'a' ||
      Nat.digitChar v == 'b') = true → 8 ≤ v ∧ v ≤ 11 := by
  decide

/-- The database's identifier pattern asks for the versions and the variant that the
typed parser asks for. -/
theorem version_of_sqlUuid {id : Uuid} (h : sqlUuid id.toText = true) :
    id.isRfc4122 = true ∧ 1 ≤ id.version ∧ id.version ≤ 5 := by
  have hmem := List.all_eq_true.mp (Bool.and_eq_true_iff.mp h).2
  rw [Uuid.toText, String.toList_ofList] at hmem
  have hversion := hmem (Nat.digitChar (id.toNat / 16 ^ 19 % 16),
    fun c => decide ('1' ≤ c) && decide (c ≤ '5')) (List.mem_of_getElem? (i := 14) rfl)
  have hvariant := hmem (Nat.digitChar (id.toNat / 16 ^ 15 % 16),
    fun c => c == '8' || c == '9' || c == 'a' || c == 'b') (List.mem_of_getElem? (i := 19) rfl)
  have hlow := version_of_digitChar _ (Nat.mod_lt _ (by decide)) hversion
  have hvar := variant_of_digitChar _ (Nat.mod_lt _ (by decide)) hvariant
  exact ⟨by simpa [Uuid.isRfc4122] using hvar, hlow⟩

/-! ## Custom hostnames -/

section

variable (route : CustomHostnameRoute)

@[simp]
theorem get_toJson_hostname : route.toJson.get "hostname" = some (.string route.hostname) := by
  simp [CustomHostnameRoute.toJson, Json.get]

@[simp]
theorem get_toJson_canonical : route.toJson.get "canonical" = some (.bool route.canonical) := by
  simp [CustomHostnameRoute.toJson, Json.get]

@[simp]
theorem customHostnameFields_toJson : customHostnameFields route.toJson = some route.toJson := by
  simp [CustomHostnameRoute.toJson, customHostnameFields, Json.get]

end

theorem sqlCustomHostnames_cons (collationLe : String → String → Bool)
    (previous : Option String) (count : Nat) (route : CustomHostnameRoute) (rest : List Json) :
    sqlCustomHostnames collationLe previous count (route.toJson :: rest) =
      (sqlHostname route.hostname && !(previous.any fun last => collationLe route.hostname last) &&
        decide ((if route.canonical then count + 1 else count) ≤ 1) &&
        sqlCustomHostnames collationLe (some route.hostname)
          (if route.canonical then count + 1 else count) rest) :=
  rfl

variable {routes : List CustomHostnameRoute} {previous : Option String} {count : Nat} {seen : Bool}

/-- What the database's loop establishes: every name is a hostname, and at most one
is canonical. -/
theorem sqlCustomHostnames_spec {collationLe : String → String → Bool}
    (h : sqlCustomHostnames collationLe previous count
      (routes.map CustomHostnameRoute.toJson) = true) (hcount : count ≤ 1) :
    (∀ route ∈ routes, sqlHostname route.hostname = true) ∧
      count + routes.countP CustomHostnameRoute.canonical ≤ 1 := by
  induction routes generalizing previous count with
  | nil => exact ⟨by simp, by simpa using hcount⟩
  | cons route rest ih =>
    rw [List.map_cons, sqlCustomHostnames_cons, Bool.and_eq_true, Bool.and_eq_true,
      Bool.and_eq_true, decide_eq_true_eq] at h
    obtain ⟨⟨⟨hvalid, -⟩, hone⟩, hrest⟩ := h
    obtain ⟨hall, htotal⟩ := ih hrest hone
    refine ⟨?_, ?_⟩
    · intro other hmem
      rcases List.mem_cons.mp hmem with rfl | hmem
      · exact hvalid
      · exact hall other hmem
    · rw [List.countP_cons]
      split at htotal <;> split <;> first | omega | contradiction

private theorem canonical_cons {canonical : Bool}
    (h : (if seen then 1 else 0) + (count + if canonical then 1 else 0) ≤ 1) :
    (canonical && seen) = false ∧ (if (seen || canonical) then 1 else 0) + count ≤ 1 := by
  cases seen <;> cases canonical <;> simp at h ⊢ <;> omega

/-- The neighbours of a list are strictly increasing in bytes. -/
def ByteOrdered (routes : List CustomHostnameRoute) : Prop :=
  routes.IsChain fun first second => first.hostname < second.hostname

instance (routes : List CustomHostnameRoute) : Decidable (ByteOrdered routes) :=
  inferInstanceAs (Decidable (List.IsChain _ _))

/-- The typed parser reads a list of valid names back exactly when it is ordered. -/
theorem parseCustomHostnames_eq (hvalid : ∀ route ∈ routes, sqlHostname route.hostname = true)
    (hcanonical : (if seen then 1 else 0) + routes.countP CustomHostnameRoute.canonical ≤ 1) :
    parseCustomHostnames previous seen (routes.map CustomHostnameRoute.toJson) =
      if (∀ last ∈ previous, ∀ route ∈ routes.head?, last < route.hostname) ∧
          ByteOrdered routes then .ok routes
      else .error .internal := by
  induction routes generalizing previous seen with
  | nil => simp [parseCustomHostnames, ByteOrdered]
  | cons route rest ih =>
    have hroute : projectionHostname route.toJson "hostname" = .ok route.hostname := by
      simp [projectionHostname, requiredString, Json.asStr, hostnameIsValid_eq_sqlHostname,
        hvalid route List.mem_cons_self]
    have hrest : ∀ other ∈ rest, sqlHostname other.hostname = true :=
      fun other hmem => hvalid other (List.mem_cons_of_mem route hmem)
    rw [List.countP_cons] at hcanonical
    obtain ⟨hflag, hcount⟩ := canonical_cons hcanonical
    have htail := @ih (some route.hostname) (seen || route.canonical) hrest hcount
    have hordered : ((∀ last ∈ some route.hostname, ∀ other ∈ rest.head?,
        last < other.hostname) ∧ ByteOrdered rest) ↔ ByteOrdered (route :: rest) := by
      rw [ByteOrdered, ByteOrdered, List.isChain_cons]
      simp
    simp only [hordered] at htail
    rw [List.map_cons, parseCustomHostnames]
    simp only [customHostnameFields_toJson, hroute, get_toJson_canonical, Option.bind_some,
      Json.asBool, hflag, htail]
    by_cases hchain : ByteOrdered (route :: rest)
    · cases previous with
      | none => simp [hchain]
      | some last =>
        have hfirst : (∀ last' ∈ some last, ∀ other ∈ (route :: rest).head?,
            last' < other.hostname) ↔ ¬ route.hostname ≤ last := by
          rw [not_le]
          exact ⟨fun h => h last rfl route rfl, fun h last' hlast other hother => by
            cases hlast
            cases hother
            exact h⟩
        rw [if_congr (and_congr hfirst Iff.rfl) rfl rfl]
        by_cases hle : route.hostname ≤ last <;> simp only [hle, hchain, Option.any_some,
          not_true_eq_false, not_false_eq_true, and_true, decide_true, decide_false,
          if_true, if_false, Bool.false_eq_true]
    · simp [hchain]

/-- The live reader reads any list of valid and distinct names back, in any order. -/
theorem customHostnameLoop_eq {seen : List String} {canonicalSeen : Bool}
    (hvalid : ∀ route ∈ routes, sqlHostname route.hostname = true)
    (hcanonical : (if canonicalSeen then 1 else 0) +
      routes.countP CustomHostnameRoute.canonical ≤ 1)
    (hdistinct : (routes.map CustomHostnameRoute.hostname).Nodup)
    (hfresh : ∀ route ∈ routes, route.hostname ∉ seen) :
    customHostnameLoop seen canonicalSeen (routes.map CustomHostnameRoute.toJson) = .ok routes := by
  induction routes generalizing seen canonicalSeen with
  | nil => rfl
  | cons route rest ih =>
    have hroute : hostname route.toJson "hostname" = .ok route.hostname :=
      hostname_of_sqlHostname (get_toJson_hostname route) (hvalid route List.mem_cons_self)
    rw [List.countP_cons] at hcanonical
    obtain ⟨hflag, hcount⟩ := canonical_cons hcanonical
    rw [List.map_cons, List.nodup_cons] at hdistinct
    obtain ⟨hnew, hdistinct⟩ := hdistinct
    have hrest : ∀ other ∈ rest, other.hostname ∉ route.hostname :: seen := by
      intro other hmem hseen
      rcases List.mem_cons.mp hseen with heq | hseen
      · exact hnew (heq ▸ List.mem_map_of_mem hmem)
      · exact hfresh other (List.mem_cons_of_mem route hmem) hseen
    have htail := ih (fun other hmem => hvalid other (List.mem_cons_of_mem route hmem))
      hcount hdistinct hrest
    rw [List.map_cons, customHostnameLoop]
    simp [hroute, Json.asBool, hflag, htail, hfresh route List.mem_cons_self]

/-! ## The order of the stored names -/

/-- The database's collation and the byte order agree on a workshop's own domains. -/
def RouteSource.CollationAgrees (environment : RouteEnvironment) (source : RouteSource) : Prop :=
  ∀ first ∈ source.domains, ∀ second ∈ source.domains,
    (environment.collationLe first.hostname second.hostname = true ↔
      first.hostname ≤ second.hostname)

section

variable (environment : RouteEnvironment) (source : RouteSource)

theorem orderedDomains_perm : (source.orderedDomains environment).Perm source.domains :=
  List.perm_insertionSort _ _

theorem orderedDomains_distinct :
    ((source.orderedDomains environment).map CustomHostnameRoute.hostname).Nodup :=
  ((orderedDomains_perm environment source).map _).nodup_iff.mpr source.unique

/-- The names leave the database in the order of its collation. -/
theorem orderedDomains_sorted : (source.orderedDomains environment).Pairwise fun first second =>
      environment.collationLe first.hostname second.hostname = true := by
  let le : CustomHostnameRoute → CustomHostnameRoute → Prop := fun first second =>
    environment.collationLe first.hostname second.hostname = true
  have htotal : Std.Total le := ⟨fun first second => environment.collationLe_total _ _⟩
  have htrans : IsTrans CustomHostnameRoute le :=
    ⟨fun first second third => environment.collationLe_trans _ _ _⟩
  exact List.pairwise_insertionSort le source.domains

/-- **The byte order of the stored names is the agreement of the two orders.** -/
theorem byteOrdered_iff_collationAgrees :
    ByteOrdered (source.orderedDomains environment) ↔ source.CollationAgrees environment := by
  have hperm := orderedDomains_perm environment source
  have hsorted := orderedDomains_sorted environment source
  constructor
  · intro hordered
    let lt : CustomHostnameRoute → CustomHostnameRoute → Prop := fun first second =>
      first.hostname < second.hostname
    have htrans : Trans lt lt lt := ⟨fun hfirst hsecond => String.lt_trans hfirst hsecond⟩
    have hbytes : (source.orderedDomains environment).Pairwise lt :=
      List.isChain_iff_pairwise.mp hordered
    -- a pair is settled in both directions at once, which makes the relation symmetric
    let agree : CustomHostnameRoute → CustomHostnameRoute → Prop := fun first second =>
      (environment.collationLe first.hostname second.hostname = true ↔
          first.hostname ≤ second.hostname) ∧
        (environment.collationLe second.hostname first.hostname = true ↔
          second.hostname ≤ first.hostname)
    have hsymm : Std.Symm agree := ⟨fun _ _ h => ⟨h.2, h.1⟩⟩
    have hself : ∀ route ∈ source.orderedDomains environment, agree route route := by
      intro route _
      have hle := (environment.collationLe_total route.hostname route.hostname).elim id id
      exact ⟨iff_of_true hle (String.le_refl _), iff_of_true hle (String.le_refl _)⟩
    have hpairs : (source.orderedDomains environment).Pairwise agree := by
      refine (hsorted.and hbytes).imp ?_
      rintro lower upper ⟨hle, hlt⟩
      have hback : ¬ environment.collationLe upper.hostname lower.hostname = true := by
        intro hge
        have heq := environment.collationLe_antisymm _ _ hle hge
        exact ne_of_lt hlt heq
      exact ⟨iff_of_true hle (le_of_lt hlt), iff_of_false hback (String.not_le.mpr hlt)⟩
    intro first hfirst second hsecond
    exact (List.Pairwise.forall_of_forall hself hpairs (hperm.mem_iff.mpr hfirst)
      (hperm.mem_iff.mpr hsecond)).1
  · intro hagrees
    have hdistinct := List.pairwise_map.mp (orderedDomains_distinct environment source)
    have hpairs := List.Pairwise.and_mem.mp (hsorted.and hdistinct)
    refine List.Pairwise.isChain (hpairs.imp ?_)
    rintro first second ⟨hfirst, hsecond, hle, hne⟩
    have hbytes := (hagrees first (hperm.mem_iff.mp hfirst) second
      (hperm.mem_iff.mp hsecond)).mp hle
    exact lt_of_le_of_ne hbytes hne

end

/-! ## Both readers on one stored projection -/

/-- The database accepts the worker's projection of these rows, and stores it. -/
structure RouteSource.Accepted (environment : RouteEnvironment) (source : RouteSource) :
    Prop where
  projection : sqlProjection environment.collationLe (buildProjection environment source) = true
  digest : sqlDigest (environment.projectionDigest (buildProjection environment source)) = true

section

variable (environment : RouteEnvironment) (source : RouteSource)

theorem sqlProjection_build :
    sqlProjection environment.collationLe (buildProjection environment source) =
      (sqlUuid source.databaseId.toText && sqlDatabaseRef source.databaseRef &&
        sqlHostname source.publicHostname && sqlPaperlessMode source.paperlessMode.asStr &&
        decide (((source.orderedDomains environment).map CustomHostnameRoute.toJson).length ≤ 64) &&
        sqlPaperlessHostname source.paperlessMode.asStr (optionalText source.paperlessHostname) &&
        sqlCustomHostnames environment.collationLe none 0
          ((source.orderedDomains environment).map CustomHostnameRoute.toJson)) := by
  simp [sqlProjection, buildProjection, Json.get]

theorem routePayload_build (generation : Nat) (digest : String) :
    routePayload (buildProjection environment source) generation digest = .object [
        ("custom_hostnames",
          .array ((source.orderedDomains environment).map CustomHostnameRoute.toJson)),
        ("database_id", .string source.databaseId.toText),
        ("database_ref", .string source.databaseRef),
        ("paperless_hostname", optionalText source.paperlessHostname),
        ("paperless_mode", .string source.paperlessMode.asStr),
        ("public_hostname", .string source.publicHostname),
        ("route_generation", .number generation),
        ("route_projection_digest", .string digest)] := by
  simp only [routePayload, buildProjection, Json.insert, Json.insertField, String.reduceLT,
    String.reduceEq, if_false]

theorem withoutContract_routePayload (generation : Nat) (digest : String) :
    withoutContract (routePayload (buildProjection environment source) generation digest) =
      buildProjection environment source := by
  rw [routePayload_build]
  rfl

end

section Readers

variable {environment : RouteEnvironment} {source : RouteSource}

/-- What acceptance says of the single fields. -/
structure RouteSource.ValidFields (environment : RouteEnvironment) (source : RouteSource) :
    Prop where
  databaseId : sqlUuid source.databaseId.toText = true
  publicHostname : sqlHostname source.publicHostname = true
  paperlessHostname : ∀ name ∈ source.paperlessHostname, sqlHostname name = true
  customCount : (source.orderedDomains environment).length ≤ 64
  customHostnames : ∀ route ∈ source.orderedDomains environment, sqlHostname route.hostname = true
  canonical : (source.orderedDomains environment).countP CustomHostnameRoute.canonical ≤ 1

theorem RouteSource.Accepted.validFields (h : source.Accepted environment) :
    source.ValidFields environment := by
  have hprojection := h.projection
  rw [sqlProjection_build] at hprojection
  simp only [Bool.and_eq_true, decide_eq_true_eq, List.length_map] at hprojection
  obtain ⟨⟨⟨⟨⟨⟨hid, -⟩, hpublic⟩, -⟩, hcount⟩, hpaperless⟩, hcustoms⟩ := hprojection
  obtain ⟨hvalid, hcanonical⟩ := sqlCustomHostnames_spec hcustoms (Nat.zero_le 1)
  refine ⟨hid, hpublic, ?_, hcount, hvalid, by simpa using hcanonical⟩
  intro name hname
  rw [Option.mem_def.mp hname, optionalText, sqlPaperlessHostname] at hpaperless
  exact (Bool.and_eq_true_iff.mp hpaperless).2

theorem parse_paperlessMode (mode : PaperlessRouteMode) :
    PaperlessRouteMode.parse mode.asStr = .ok mode := by
  cases mode <;> rfl

theorem paperlessHostname_eq_none_iff :
    source.paperlessHostname = none ↔ source.paperlessMode = .absent := by
  simp [RouteSource.paperlessHostname]

theorem projectionPaperlessHostname_build (h : source.ValidFields environment) :
    projectionPaperlessHostname (buildProjection environment source) source.paperlessMode =
      .ok source.paperlessHostname := by
  have hget : (buildProjection environment source).get "paperless_hostname" =
      some (optionalText source.paperlessHostname) := rfl
  cases hname : source.paperlessHostname with
  | none =>
    rw [paperlessHostname_eq_none_iff.mp hname, projectionPaperlessHostname, hget, hname]
    rfl
  | some name =>
    have hread : projectionHostname (buildProjection environment source) "paperless_hostname" =
        .ok name := by
      have hvalid := h.paperlessHostname name hname
      rw [← hostnameIsValid_eq_sqlHostname] at hvalid
      simp [projectionHostname, requiredString, hget, hname, optionalText, Json.asStr, hvalid]
    cases hmode : source.paperlessMode with
    | absent =>
      rw [paperlessHostname_eq_none_iff.mpr hmode] at hname
      contradiction
    | readWrite | readOnly => simp [projectionPaperlessHostname, hread, Except.map]

theorem livePaperlessHostname_build (h : source.ValidFields environment) (generation : Nat)
    (digest : String) :
    livePaperlessHostname (routePayload (buildProjection environment source) generation digest)
      source.paperlessMode.asStr = .ok source.paperlessHostname := by
  have hget : (routePayload (buildProjection environment source) generation digest).get
      "paperless_hostname" = some (optionalText source.paperlessHostname) := by
    rw [routePayload_build]
    rfl
  cases hname : source.paperlessHostname with
  | none =>
    rw [paperlessHostname_eq_none_iff.mp hname, livePaperlessHostname, hget, hname]
    rfl
  | some name =>
    have hread := hostname_of_sqlHostname (hget.trans (by rw [hname]; rfl))
      (h.paperlessHostname name hname)
    cases hmode : source.paperlessMode with
    | absent =>
      rw [paperlessHostname_eq_none_iff.mpr hmode] at hname
      contradiction
    | readWrite | readOnly =>
      simp [livePaperlessHostname, PaperlessRouteMode.asStr, hread, Except.map]

/-- The route the worker means by these rows. -/
def RouteSource.typedRoute (environment : RouteEnvironment) (source : RouteSource) :
    RouteProjection where
  disposition := .present
  databaseId := some source.databaseId
  databaseRef := some source.databaseRef
  publicHostname := some source.publicHostname
  paperlessMode := source.paperlessMode
  paperlessHostname := source.paperlessHostname
  customHostnames := source.orderedDomains environment
  projectionDigest := environment.projectionDigest (buildProjection environment source)

/-- The typed parser accepts a stored projection exactly when the database name belongs
to the identifier and the names are in byte order. -/
theorem parse_build (h : source.Accepted environment) :
    RouteProjection.parse environment (buildProjection environment source)
        (environment.projectionDigest (buildProjection environment source)) .present =
      if source.databaseRef = opaqueDatabaseRef source.databaseId ∧
          ByteOrdered (source.orderedDomains environment) then
        .ok (source.typedRoute environment)
      else .error .internal := by
  have hfields := h.validFields
  have hdigest := (digest_of_sqlDigest h.digest).1
  have hid : projectionDatabaseId environment (buildProjection environment source) =
      .ok source.databaseId := by
    have hread : requiredString (buildProjection environment source) "database_id" =
        .ok source.databaseId.toText := rfl
    rw [projectionDatabaseId, hread]
    simp only [environment.parseUuid_toText]
    rw [if_pos ⟨trivial, version_of_sqlUuid hfields.databaseId⟩]
  have hpublic : projectionHostname (buildProjection environment source) "public_hostname" =
      .ok source.publicHostname := by
    have hvalid := hfields.publicHostname
    rw [← hostnameIsValid_eq_sqlHostname] at hvalid
    simp [projectionHostname, requiredString, buildProjection, Json.get, Json.asStr, hvalid]
  have hcustoms : projectionCustomHostnames (buildProjection environment source) =
      if ByteOrdered (source.orderedDomains environment) then
        .ok (source.orderedDomains environment)
      else .error .internal := by
    have hparse := @parseCustomHostnames_eq (source.orderedDomains environment) none false
      hfields.customHostnames (by simpa using hfields.canonical)
    have hget : ((buildProjection environment source).get "custom_hostnames").bind Json.asArray =
        some ((source.orderedDomains environment).map CustomHostnameRoute.toJson) := rfl
    simp only [projectionCustomHostnames, hget, List.length_map, if_pos hfields.customCount, hparse]
    simp
  have hkeys : (projectionKeys.any fun key =>
      ((buildProjection environment source).get key).isNone) = false := rfl
  have hlength : (buildProjection environment source).asObject.map List.length = some 6 := rfl
  have href : requiredString (buildProjection environment source) "database_ref" =
      .ok source.databaseRef := rfl
  have hmode : requiredString (buildProjection environment source) "paperless_mode" =
      .ok source.paperlessMode.asStr := rfl
  have hpaperless := projectionPaperlessHostname_build hfields
  have hread : parsePresent environment (buildProjection environment source)
      (environment.projectionDigest (buildProjection environment source)) =
      if source.databaseRef = opaqueDatabaseRef source.databaseId ∧
          ByteOrdered (source.orderedDomains environment) then
        .ok (source.typedRoute environment)
      else .error .internal := by
    by_cases hname : source.databaseRef = opaqueDatabaseRef source.databaseId
    · by_cases hbytes : ByteOrdered (source.orderedDomains environment) <;>
        simp [parsePresent, hid, href, hpublic, hmode, parse_paperlessMode, hpaperless, hcustoms,
          hname, hbytes, bind, Except.bind, RouteSource.typedRoute]
    · simp [parsePresent, hid, href, hname, bind, Except.bind]
  simp [RouteProjection.parse, hdigest, hlength, hkeys, hread]

/-- What the live path means by a request for these rows. -/
def RouteSource.liveRoute (environment : RouteEnvironment) (source : RouteSource)
    (generation : Nat) : LiveRoute where
  contract := {
    generation := generation
    digest := environment.projectionDigest (buildProjection environment source)
    disposition := .present }
  databaseRef := some source.databaseRef
  publicHostname := source.publicHostname
  customHostnames := source.orderedDomains environment
  paperlessMode := source.paperlessMode.asStr
  paperlessHostname := source.paperlessHostname

variable {generation : Nat} {payload : Json} {contract : RouteProjectionContract}

/-- A generation within the database's `bigint` is read back. -/
theorem contractGeneration_natCast (hpositive : 0 < generation) (hbigint : generation < 2 ^ 63) :
    contractGeneration (some (.number generation)) = .ok generation := by
  have hrange : -2 ^ 63 ≤ (generation : Int) ∧ (generation : Int) < 2 ^ 63 := by
    constructor <;> omega
  have hread : (Json.number generation).asI64 = some (generation : Int) := by
    simp only [Json.asI64, if_pos hrange]
  have hnonzero : ¬ (generation : Int) ≤ 0 := by omega
  rw [contractGeneration, Option.bind_some, hread]
  exact if_neg hnonzero

theorem requiredContract_eq {generation digest : Option Json}
    (hgeneration : contractGeneration generation = .ok contract.generation)
    (hdigest : digest.bind Json.asStr = some contract.digest)
    (hform : contractDigest contract.digest = true)
    (hdisposition : contractDisposition payload = .ok contract.disposition)
    (hobject : payload.asObject.isNone = false)
    (hinner : environment.projectionDigest (withoutContract payload) = contract.digest) :
    requiredContract environment payload generation digest = .ok contract := by
  simp [requiredContract, hgeneration, hdigest, hform, hdisposition, hobject, hinner]

/-- The request states its own generation and digest, and the digest is the projection's. -/
theorem routeProjectionContract_build (h : source.Accepted environment) (hpositive : 0 < generation)
    (hbigint : generation < 2 ^ 63) :
    routeProjectionContract environment
        (routePayload (buildProjection environment source) generation
          (environment.projectionDigest (buildProjection environment source))) =
      .ok (some (source.liveRoute environment generation).contract) := by
  have hform := (digest_of_sqlDigest h.digest).2
  have hcontract : (source.liveRoute environment generation).contract =
      ⟨generation, environment.projectionDigest (buildProjection environment source), .present⟩ :=
    rfl
  have hinner := withoutContract_routePayload environment source generation
    (environment.projectionDigest (buildProjection environment source))
  rw [hcontract]
  have hprojection := congrArg environment.projectionDigest hinner
  generalize environment.projectionDigest (buildProjection environment source) = digest at *
  generalize hpayload : routePayload (buildProjection environment source) generation digest =
    payload at *
  rw [routePayload_build] at hpayload
  have hgeneration : payload.get "route_generation" = some (.number generation) := by
    rw [← hpayload]
    rfl
  have hdigest : payload.get "route_projection_digest" = some (.string digest) := by
    rw [← hpayload]
    rfl
  have hdisposition : contractDisposition payload = .ok .present := by
    simp [← hpayload, contractDisposition, Json.get]
  have hobject : payload.asObject.isNone = false := by
    rw [← hpayload]
    rfl
  have hrequired := @requiredContract_eq environment payload ⟨generation, digest, .present⟩
    (some (.number generation)) (some (.string digest))
    (contractGeneration_natCast hpositive hbigint) rfl hform hdisposition hobject hprojection
  rw [routeProjectionContract, hgeneration, hdigest]
  exact congrArg (Except.map some) hrequired

theorem customHostnameRoutes_build (h : source.Accepted environment) (generation : Nat)
    (digest : String) :
    customHostnameRoutes (routePayload (buildProjection environment source) generation digest) =
      if source.domains.length ≤ 20 then .ok (source.orderedDomains environment)
      else .error (.bad "custom_hostnames must be a bounded array") := by
  have hfields := h.validFields
  have hloop := @customHostnameLoop_eq (source.orderedDomains environment) [] false
    hfields.customHostnames (by simpa using hfields.canonical)
    (orderedDomains_distinct environment source) (by simp)
  rw [routePayload_build]
  simp [customHostnameRoutes, Json.get, Json.asArray, hloop,
    (orderedDomains_perm environment source).length_eq]

theorem liveRoute_eq {publicHostname mode : String}
    {customs : Except DriverError (List CustomHostnameRoute)} {paperlessHostname : Option String}
    (hcontract : routeProjectionContract environment payload = .ok (some contract))
    (hpublic : hostname payload "public_hostname" = .ok publicHostname)
    (hcustoms : customHostnameRoutes payload = customs)
    (hmode : (payload.get "paperless_mode").bind Json.asStr = some mode)
    (hpaperless : livePaperlessHostname payload mode = .ok paperlessHostname) :
    liveRoute environment payload = customs.map fun customs =>
      ⟨contract, (payload.get "database_ref").bind Json.asStr, publicHostname, customs, mode,
        paperlessHostname⟩ := by
  rw [Routes.liveRoute, hcontract]
  cases customs <;> simp [hpublic, hcustoms, hmode, hpaperless, bind, Except.bind, Except.map]

/-- The live path accepts the request for a stored projection exactly when it has at
most twenty custom names. -/
theorem liveRoute_build (h : source.Accepted environment) (hpositive : 0 < generation)
    (hbigint : generation < 2 ^ 63) :
    liveRoute environment (routePayload (buildProjection environment source) generation
        (environment.projectionDigest (buildProjection environment source))) =
      if source.domains.length ≤ 20 then .ok (source.liveRoute environment generation)
      else .error (.bad "custom_hostnames must be a bounded array") := by
  have hcontract := routeProjectionContract_build h hpositive hbigint
  have hcustoms := customHostnameRoutes_build h generation
    (environment.projectionDigest (buildProjection environment source))
  have hpaperless := livePaperlessHostname_build h.validFields generation
    (environment.projectionDigest (buildProjection environment source))
  generalize hpayload : routePayload (buildProjection environment source) generation
    (environment.projectionDigest (buildProjection environment source)) = payload at *
  rw [routePayload_build] at hpayload
  have hpublic : hostname payload "public_hostname" = .ok source.publicHostname := by
    apply hostname_of_sqlHostname _ h.validFields.publicHostname
    rw [← hpayload]
    rfl
  have hmode : (payload.get "paperless_mode").bind Json.asStr =
      some source.paperlessMode.asStr := by
    rw [← hpayload]
    rfl
  have href : (payload.get "database_ref").bind Json.asStr = some source.databaseRef := by
    rw [← hpayload]
    rfl
  rw [liveRoute_eq hcontract hpublic hcustoms hmode hpaperless, href]
  by_cases hcount : source.domains.length ≤ 20 <;>
    simp [hcount, Except.map, RouteSource.liveRoute]

/-- The two readers found the same route in one stored projection. -/
structure SameRoute (typed : RouteProjection) (live : LiveRoute) : Prop where
  digest : typed.projectionDigest = live.contract.digest
  disposition : typed.disposition = live.contract.disposition
  databaseRef : typed.databaseRef = live.databaseRef
  publicHostname : typed.publicHostname = some live.publicHostname
  paperlessMode : typed.paperlessMode.asStr = live.paperlessMode
  paperlessHostname : typed.paperlessHostname = live.paperlessHostname
  customHostnames : typed.customHostnames = live.customHostnames

/-- **Both readers accept what the database stored, and read the same route, exactly for
workshops with at most twenty custom domains, on which the collation is the byte order,
and whose database name belongs to the database's identifier.** -/
theorem readers_agree_iff (environment : RouteEnvironment) (source : RouteSource)
    (generation : Nat) (hpositive : 0 < generation) (hbigint : generation < 2 ^ 63)
    (haccepted : source.Accepted environment) :
    (∃ typed live, RouteProjection.parse environment (buildProjection environment source)
          (environment.projectionDigest (buildProjection environment source)) .present =
        .ok typed ∧
      liveRoute environment (routePayload (buildProjection environment source) generation
          (environment.projectionDigest (buildProjection environment source))) = .ok live ∧
      SameRoute typed live) ↔
    source.domains.length ≤ 20 ∧ source.CollationAgrees environment ∧
      source.databaseRef = opaqueDatabaseRef source.databaseId := by
  rw [parse_build haccepted, liveRoute_build haccepted hpositive hbigint,
    ← byteOrdered_iff_collationAgrees]
  constructor
  · rintro ⟨typed, live, htyped, hlive, -⟩
    split at htyped
    next hparsed =>
      split at hlive
      next hcount => exact ⟨hcount, hparsed.2, hparsed.1⟩
      next => contradiction
    next => contradiction
  · rintro ⟨hcount, hbytes, href⟩
    refine ⟨source.typedRoute environment, source.liveRoute environment generation, ?_, ?_, ?_⟩
    · exact if_pos ⟨href, hbytes⟩
    · exact if_pos hcount
    · exact ⟨rfl, rfl, rfl, rfl, rfl, rfl, rfl⟩

end Readers

/-! ## Two stored projections that a reader refuses -/

/-- The environment of one collation, with a digest of the right form. -/
private def environmentOf (key : String → String) : RouteEnvironment where
  projectionDigest _ := String.ofList ("sha256:".toList ++ List.replicate 64 'a')
  parseUuid text := some (Uuid.ofText text)
  parseUuid_toText id := congrArg some (Uuid.ofText_toText id)
  collationLe a b := decide (toLex (key a, a) ≤ toLex (key b, b))
  collationLe_total a b := by simpa using le_total (toLex (key a, a)) (toLex (key b, b))
  collationLe_trans a b c hab hbc := by
    exact decide_eq_true (le_trans (of_decide_eq_true hab) (of_decide_eq_true hbc))
  collationLe_antisymm a b hab hba := by
    have heq := le_antisymm (of_decide_eq_true hab) (of_decide_eq_true hba)
    exact congrArg (fun pair => (ofLex pair).2) heq

/-- The byte order. -/
private def byteCollation : RouteEnvironment := environmentOf fun _ => ""

/-- A collation that looks at hyphens last, as the usual locales do. -/
private def localeCollation : RouteEnvironment :=
  environmentOf fun text => String.ofList (text.toList.filter (· != '-'))

private def sourceOf (domains : List CustomHostnameRoute)
    (hunique : (domains.map CustomHostnameRoute.hostname).Nodup) : RouteSource where
  databaseId := 0x11111111222243338444555555555555
  databaseRef := opaqueDatabaseRef 0x11111111222243338444555555555555
  publicHostname := "shop.example"
  slug := "shop"
  tenantDomain := "example"
  documents := some .enabled
  paperlessReady := true
  domains := domains
  unique := hunique

/-- Two domains that the locale orders otherwise than their bytes. -/
private def hyphenatedSource : RouteSource :=
  sourceOf [⟨"aa.example", true⟩, ⟨"a-b.example", false⟩] (by decide)

/-- Twenty-one domains. -/
private def crowdedSource : RouteSource :=
  sourceOf ((List.range 21).map fun position =>
    ⟨String.ofList ('s' :: List.replicate (position + 2) 'x'), false⟩) (by decide)

/-- The database stores a projection of two domains in the order of a locale; the typed
parser refuses it, because that is not the order of their bytes. It stores a projection
of twenty-one domains as well; the live path refuses that one. -/
theorem stored_projections_refused : hyphenatedSource.Accepted localeCollation ∧
      RouteProjection.parse localeCollation (buildProjection localeCollation hyphenatedSource)
          (localeCollation.projectionDigest (buildProjection localeCollation hyphenatedSource))
          .present = .error .internal ∧
      crowdedSource.Accepted byteCollation ∧
      liveRoute byteCollation (routePayload (buildProjection byteCollation crowdedSource) 1
          (byteCollation.projectionDigest (buildProjection byteCollation crowdedSource))) =
        .error (.bad "custom_hostnames must be a bounded array") := by
  have hhyphenated : hyphenatedSource.Accepted localeCollation :=
    ⟨by decide +kernel, by decide +kernel⟩
  have hcrowded : crowdedSource.Accepted byteCollation :=
    ⟨by decide +kernel, by decide +kernel⟩
  refine ⟨hhyphenated, ?_, hcrowded, ?_⟩
  · rw [parse_build hhyphenated]
    exact if_neg fun h => absurd h.2 (by decide +kernel)
  · rw [liveRoute_build hcrowded (by decide) (by decide)]
    exact if_neg (by decide)

/-- Two domains in the order of both the locale and their bytes. -/
private def orderedSource : RouteSource :=
  sourceOf [⟨"aa.example", true⟩, ⟨"b-b.example", false⟩] (by decide)

/-- A workshop with such domains meets the conditions. -/
theorem readers_agree_on_ordered_domains : ∃ typed live, RouteProjection.parse localeCollation
          (buildProjection localeCollation orderedSource)
          (localeCollation.projectionDigest (buildProjection localeCollation orderedSource))
          .present = .ok typed ∧
      liveRoute localeCollation (routePayload (buildProjection localeCollation orderedSource) 1
          (localeCollation.projectionDigest (buildProjection localeCollation orderedSource))) =
        .ok live ∧
      SameRoute typed live := by
  apply (readers_agree_iff localeCollation orderedSource 1 (by decide) (by decide)
    ⟨by decide +kernel, by decide +kernel⟩).mpr
  refine ⟨by decide, ?_, rfl⟩
  unfold RouteSource.CollationAgrees
  decide +kernel

end ControlPlane.Routes
