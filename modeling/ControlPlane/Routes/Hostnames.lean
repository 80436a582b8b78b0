/-
# The hostnames of a fleet

Three kinds of names lead to a workshop: its public name, the name of its document
archive, and the custom names of its webshop. They are formed and checked in
different places. The public name is the slug under the tenant domain, the archive's
is the slug behind `docs-`, and a custom name may not lie under the tenant domain.

Custom names keep clear of all others. Names under the tenant domain are told apart
by their first label, and there the two forms meet: a slug may itself begin with
`docs-`. The slug's check also admits more bytes than a label may have.

The database keeps the constraints of its tables, so they are fields of the type of
its states; what the service adds is established by its statements.
-/

import ControlPlane.Domains.Tables
import ControlPlane.Routes.Projection

namespace ControlPlane.Routes

open Domain Domains Math Table

/-! ## Labels -/

def labels (hostname : String) : List (List Char) :=
  hostname.toList.splitOn '.'

/-- The name is the zone or lies under it. -/
def belongsTo (hostname zone : String) : Bool :=
  decide (hostname = zone) || ('.' :: zone.toList).isSuffixOf hostname.toList

/-- A label under a zone. -/
def under (label zone : String) : String :=
  label ++ "." ++ zone

theorem toList_under (label zone : String) :
    (under label zone).toList = label.toList ++ '.' :: zone.toList := by
  simp [under]

theorem belongsTo_under (label zone : String) : belongsTo (under label zone) zone = true := by
  unfold belongsTo
  rw [toList_under]
  simp

variable {first second zone slug : String}

theorem under_injective (h : under first zone = under second zone) : first = second := by
  have hchars := congrArg String.toList h
  rw [toList_under, toList_under] at hchars
  exact String.toList_inj.mp (List.append_cancel_right hchars)

/-- The labels of a name under a zone: its own, and those of the zone. -/
theorem labels_under {label : String} (hdot : ∀ c ∈ label.toList, c ≠ '.') :
    labels (under label zone) = label.toList :: labels zone := by
  unfold labels List.splitOn
  rw [toList_under]
  apply List.splitOnP_append_cons_of_forall_mem
  · intro c hc
    simpa using hdot c hc
  · simp

/-! ## Slugs -/

/-- The check of the slug column. -/
def slugCheck (slug : String) : Bool :=
  let chars := slug.toList
  decide (3 ≤ chars.length) && decide (chars.length ≤ 64) &&
    chars.all (fun c => isLowerAlphanumeric c || decide (c = '-')) &&
    chars.head?.any isLowerAlphanumeric && chars.getLast?.any isLowerAlphanumeric

theorem ne_dot_of_slugCheck (h : slugCheck slug = true) : ∀ c ∈ slug.toList, c ≠ '.' := by
  simp only [slugCheck, Bool.and_eq_true, List.all_eq_true] at h
  rintro c hc rfl
  have hallowed := h.1.1.2 '.' hc
  exact absurd hallowed (by decide)

/-- The label of a workshop's document archive. -/
def archiveLabel (slug : String) : String :=
  "docs-" ++ slug

theorem toList_archiveLabel (slug : String) :
    (archiveLabel slug).toList = ['d', 'o', 'c', 's', '-'] ++ slug.toList := by
  simp [archiveLabel]

theorem archiveLabel_injective (h : archiveLabel first = archiveLabel second) : first = second :=
  (String.append_right_inj _).mp h

theorem archiveLabel_ne (slug : String) : archiveLabel slug ≠ slug := by
  intro h
  have hlength := congrArg (fun text => text.toList.length) h
  simp only [toList_archiveLabel, List.length_append, List.length_cons] at hlength
  omega

theorem ne_dot_of_archiveLabel (h : slugCheck slug = true) :
    ∀ c ∈ (archiveLabel slug).toList, c ≠ '.' := by
  rw [toList_archiveLabel]
  intro c hc
  rcases List.mem_append.mp hc with hprefix | hslug
  · rintro rfl
    exact absurd hprefix (by decide)
  · exact ne_dot_of_slugCheck h c hslug

theorem byteLength_archiveLabel (slug : String) :
    byteLength (archiveLabel slug).toList = 5 + byteLength slug.toList := by
  rw [toList_archiveLabel]
  unfold byteLength
  rw [List.map_append, List.sum_append]
  rfl

/-! ## Custom hostnames -/

inductive ParsedHost
  | domain (text : String)
  | ipv4
  | ipv6

/-- What the normalization takes from libraries: the white space of a text, the URL
standard's host parser, and whether a name has a registrable domain. -/
structure HostnameLibrary where
  isWhitespace : Char → Bool
  parseHost : String → Option ParsedHost
  registrable : String → Bool

/-- Remove a prefix again and again, at most `fuel` times. -/
def stripRepeated (pattern : List Char) : Nat → List Char → List Char
  | 0, chars => chars
  | fuel + 1, chars =>
    match chars.dropPrefix? pattern with
    | some rest => stripRepeated pattern fuel rest
    | none => chars

def trimStartMatches (pattern : String) (chars : List Char) : List Char :=
  stripRepeated pattern.toList chars.length chars

def trimEndMatches (remove : Char → Bool) (chars : List Char) : List Char :=
  (chars.reverse.dropWhile remove).reverse

def trim (library : HostnameLibrary) (chars : List Char) : List Char :=
  trimEndMatches library.isWhitespace (chars.dropWhile library.isWhitespace)

def reservedSuffix (hostname : String) : Bool :=
  ["localhost", "local", "internal", "invalid", "example", "test", "onion", "home",
    "corp"].any (belongsTo hostname)

def labelIsInvalid (label : List Char) : Bool :=
  label.isEmpty || decide (63 < byteLength label) || decide (label.head? = some '-') ||
    decide (label.getLast? = some '-') ||
    !label.all fun c => isLowerAlphanumeric c || decide (c = '-')

def normalizeCustomHostname (library : HostnameLibrary) (tenantDomain value : String) :
    Except String String :=
  let candidate := trimStartMatches "http://" (trimStartMatches "https://"
    (trimEndMatches (fun c => decide (c = '.')) (trim library value.toList)))
  if candidate.contains '/' || candidate.contains ':' || decide (253 < byteLength candidate) then
    .error "enter a hostname without a path or port"
  else
    match library.parseHost (String.ofList candidate) with
    | none => .error "hostname is invalid"
    | some .ipv4 | some .ipv6 => .error "IP addresses cannot be connected"
    | some (.domain text) =>
      let normalized := String.ofList (text.toList.map Char.toLower)
      if !library.registrable normalized then
        .error "a registrable domain or subdomain is required"
      else if reservedSuffix normalized then
        .error "reserved hostnames cannot be connected"
      else if belongsTo normalized tenantDomain ||
          ["makersbrain.com", "makersbrain.app", "makersbrain.net",
            "makersbrain.org"].any (belongsTo normalized) then
        .error "MakersBrain-owned hostnames cannot be connected as custom domains"
      else if (labels normalized).any labelIsInvalid then
        .error "hostname labels are invalid"
      else .ok normalized

/-- An accepted name lies outside the tenant domain and has labels of legal length. -/
theorem normalizeCustomHostname_ok {library : HostnameLibrary}
    {tenantDomain value hostname : String}
    (h : normalizeCustomHostname library tenantDomain value = .ok hostname) :
    belongsTo hostname tenantDomain = false ∧ ∀ label ∈ labels hostname, byteLength label ≤ 63 := by
  simp only [normalizeCustomHostname] at h
  split at h
  · cases h
  split at h
  · cases h
  · cases h
  · cases h
  split at h
  · cases h
  split at h
  · cases h
  split at h
  · cases h
  rename_i hzones
  split at h
  · cases h
  rename_i hlabels
  cases h
  rw [Bool.not_eq_true, Bool.or_eq_false_iff] at hzones
  refine ⟨hzones.1, ?_⟩
  intro label hlabel
  by_contra hlong
  apply hlabels
  refine List.any_eq_true.mpr ⟨label, hlabel, ?_⟩
  simp [labelIsInvalid, Nat.lt_of_not_le hlong]

/-! ## The tables -/

structure PrimaryDatabase where
  id : Uuid
  (ref publicHostname : String)

/-- A workshop's slug, its primary database while it is not deleted, its documents
module and whether its archive service is ready. -/
structure WorkshopNames where
  slug : String
  primary : Option PrimaryDatabase
  documents : Option ModuleState
  paperlessReady : Bool

/-- The rows whose hostname the unique index covers. -/
def LiveUnique (domains : Table Uuid DomainRow) : Prop :=
  ∀ first second a b, domains.lookup first = some a → domains.lookup second = some b →
    a.state ≠ .disconnected → b.state ≠ .disconnected → a.hostname = b.hostname →
    first = second

/-- The tables with their constraints, and what the statements that write names
establish: a public name is made of the slug, a custom name was normalized. -/
structure HostTables (library : HostnameLibrary) (tenantDomain : String) where
  workshops : Table Uuid WorkshopNames
  domains : Table Uuid DomainRow
  slugChecked : ∀ id row, workshops.lookup id = some row → slugCheck row.slug = true
  slugUnique : ∀ first second a b, workshops.lookup first = some a →
    workshops.lookup second = some b → a.slug = b.slug → first = second
  named : ∀ id row primary, workshops.lookup id = some row → row.primary = some primary →
    primary.publicHostname = under row.slug tenantDomain
  normalized : ∀ id row, domains.lookup id = some row →
    ∃ value, normalizeCustomHostname library tenantDomain value = .ok row.hostname
  liveUnique : LiveUnique domains

/-- A domain that `materialize` routes. -/
def routed (workshop : Uuid) (row : DomainRow) : Option CustomHostnameRoute :=
  if row.workshopId = workshop ∧ (row.state = .testing ∨ row.state = .active) ∧
      row.desired = .active then
    some ⟨row.hostname, row.canonical⟩
  else none

theorem routed_eq_some {workshop : Uuid} {row : DomainRow} {route : CustomHostnameRoute}
    (h : routed workshop row = some route) :
    row.workshopId = workshop ∧ row.state ≠ .disconnected ∧ route.hostname = row.hostname := by
  unfold routed at h
  split at h
  · rename_i hrow
    cases h
    refine ⟨hrow.1, ?_, rfl⟩
    rcases hrow.2.1 with hstate | hstate <;> rw [hstate] <;> decide
  · cases h

namespace HostTables

variable {library : HostnameLibrary} {tenantDomain : String}

def customRoutes (tables : HostTables library tenantDomain) (workshop : Uuid) :
    List CustomHostnameRoute :=
  tables.domains.entries.filterMap fun entry => routed workshop entry.2

theorem mem_customRoutes {tables : HostTables library tenantDomain} {workshop : Uuid}
    {route : CustomHostnameRoute} :
    route ∈ tables.customRoutes workshop ↔
      ∃ id row, tables.domains.lookup id = some row ∧ routed workshop row = some route := by
  unfold customRoutes
  exact @mem_filterMap_entries _ _ _ _ _ (fun _ row => routed workshop row) _

theorem nodup_customRoutes (tables : HostTables library tenantDomain) (workshop : Uuid) :
    ((tables.customRoutes workshop).map CustomHostnameRoute.hostname).Nodup := by
  have hdistinct : tables.domains.entries.Pairwise fun first second => first.1 ≠ second.1 :=
    List.pairwise_map.mp tables.domains.nodupKeys
  have hrows := List.Pairwise.and_mem.mp hdistinct
  refine List.pairwise_map.mpr (hrows.filterMap _ ?_)
  rintro ⟨first, a⟩ ⟨second, b⟩ ⟨ha, hb, hne⟩ route hroute other hother hsame
  obtain ⟨-, haLive, haName⟩ := routed_eq_some hroute
  obtain ⟨-, hbLive, hbName⟩ := routed_eq_some hother
  exact hne (tables.liveUnique first second a b (AList.mem_lookup_iff.mpr ha)
    (AList.mem_lookup_iff.mpr hb) haLive hbLive (haName.symm.trans (hsame.trans hbName)))

/-- The rows that `materialize` reads for a workshop; without a primary database
there is no present route. -/
def routeSource (tables : HostTables library tenantDomain) (workshop : Uuid) : Option RouteSource :=
  match tables.workshops.lookup workshop with
  | none => none
  | some row =>
    match row.primary with
    | none => none
    | some primary => some
        { databaseId := primary.id
          databaseRef := primary.ref
          publicHostname := primary.publicHostname
          slug := row.slug
          tenantDomain := tenantDomain
          documents := row.documents
          paperlessReady := row.paperlessReady
          domains := tables.customRoutes workshop
          unique := tables.nodup_customRoutes workshop }

end HostTables

/-- The hostnames of a projection. -/
def RouteSource.hostnames (source : RouteSource) : List String :=
  source.publicHostname :: (source.paperlessHostname.toList ++
    source.domains.map CustomHostnameRoute.hostname)

/-! ## The statements that write names -/

namespace HostTables

variable {library : HostnameLibrary} {tenantDomain : String}

def empty : HostTables library tenantDomain where
  workshops := ∅
  domains := ∅
  slugChecked id row hrow := by cases hrow
  slugUnique first second a b ha := by cases ha
  named id row primary hrow := by cases hrow
  normalized id row hrow := by cases hrow
  liveUnique first second a b ha := by cases ha

variable (tables : HostTables library tenantDomain)

/-- `create_workshop` stores the slug and the public name it makes of it. -/
def createWorkshop (workshop database : Uuid)
    (slug : String) : Option (HostTables library tenantDomain) :=
  if h : tables.workshops.lookup workshop = none ∧ slugCheck slug = true ∧
      tables.workshops.allRows (fun _ row => decide (row.slug ≠ slug)) = true then
    some
      { tables with
        workshops := tables.workshops.insert workshop
          { slug := slug
            primary := some ⟨database, opaqueDatabaseRef database, under slug tenantDomain⟩
            documents := none
            paperlessReady := false }
        slugChecked := forall_insert tables.slugChecked h.2.1
        slugUnique := by
          have hfree : ∀ id row, tables.workshops.lookup id = some row → row.slug ≠ slug :=
            fun id row hrow => of_decide_eq_true (allRows_iff.mp h.2.2 id row hrow)
          intro first second a b ha hb hsame
          rcases lookup_insert_cases ha with ⟨rfl, rfl⟩ | ⟨-, haBefore⟩
          · rcases lookup_insert_cases hb with ⟨rfl, -⟩ | ⟨-, hbBefore⟩
            · rfl
            · exact absurd hsame.symm (hfree second b hbBefore)
          · rcases lookup_insert_cases hb with ⟨rfl, rfl⟩ | ⟨-, hbBefore⟩
            · exact absurd hsame (hfree first a haBefore)
            · exact tables.slugUnique first second a b haBefore hbBefore hsame
        named := by
          intro id row primary hrow hprimary
          rcases lookup_insert_cases hrow with ⟨-, rfl⟩ | ⟨-, hbefore⟩
          · cases hprimary
            rfl
          · exact tables.named id row primary hbefore hprimary }
  else none

/-- Other statements move the module and the archive service, or delete the primary
database; none writes a slug or a public name. -/
def changeWorkshop (workshop : Uuid)
    (documents : Option ModuleState) (paperlessReady keepsPrimary : Bool) :
    Option (HostTables library tenantDomain) :=
  match hrow : tables.workshops.lookup workshop with
  | none => none
  | some row =>
    let changed : WorkshopNames :=
      { slug := row.slug
        primary := if keepsPrimary then row.primary else none
        documents := documents
        paperlessReady := paperlessReady }
    have hslug : ∀ id found, (tables.workshops.insert workshop changed).lookup id = some found →
        ∃ before, tables.workshops.lookup id = some before ∧ found.slug = before.slug ∧
          ∀ primary, found.primary = some primary → before.primary = some primary := by
      intro id found hfound
      rcases lookup_insert_cases hfound with ⟨rfl, rfl⟩ | ⟨-, hbefore⟩
      · refine ⟨row, hrow, rfl, ?_⟩
        intro primary hprimary
        cases keepsPrimary with
        | true => exact hprimary
        | false => cases hprimary
      · exact ⟨found, hbefore, rfl, fun _ hsame => hsame⟩
    some
      { tables with
        workshops := tables.workshops.insert workshop changed
        slugChecked := by
          intro id found hfound
          obtain ⟨before, hbefore, hsame, -⟩ := hslug id found hfound
          exact hsame ▸ tables.slugChecked id before hbefore
        slugUnique := by
          intro first second a b ha hb hsame
          obtain ⟨aBefore, haBefore, haSlug, -⟩ := hslug first a ha
          obtain ⟨bBefore, hbBefore, hbSlug, -⟩ := hslug second b hb
          exact tables.slugUnique first second aBefore bBefore haBefore hbBefore
            (haSlug.symm.trans (hsame.trans hbSlug))
        named := by
          intro id found primary hfound hprimary
          obtain ⟨before, hbefore, hsame, hkept⟩ := hslug id found hfound
          exact hsame ▸ tables.named id before primary hbefore (hkept primary hprimary) }

/-- Write a domain row: its hostname was normalized, and the index finds no other live
row of that hostname. -/
def writeDomain (id : Uuid) (row : DomainRow)
    (hname : ∃ value, normalizeCustomHostname library tenantDomain value = .ok row.hostname) :
    Option (HostTables library tenantDomain) :=
  if h : row.state = .disconnected ∨
      tables.domains.allRows (fun other found => decide (other = id) ||
        decide (found.state = .disconnected) || decide (found.hostname ≠ row.hostname)) = true then
    some
      { tables with
        domains := tables.domains.insert id row
        normalized := forall_insert tables.normalized hname
        liveUnique := by
          have halone : ∀ other found, other ≠ id → tables.domains.lookup other = some found →
              found.state ≠ .disconnected → row.state ≠ .disconnected →
              found.hostname ≠ row.hostname := by
            intro other found hother hfound hlive hrowLive
            have hall := allRows_iff.mp (h.resolve_left hrowLive) other found hfound
            simpa [hother, hlive] using hall
          intro first second a b ha hb haLive hbLive hsame
          rcases lookup_insert_cases ha with ⟨rfl, rfl⟩ | ⟨hfirst, haBefore⟩
          · rcases lookup_insert_cases hb with ⟨rfl, -⟩ | ⟨hsecond, hbBefore⟩
            · rfl
            · exact absurd hsame.symm (halone second b hsecond hbBefore hbLive haLive)
          · rcases lookup_insert_cases hb with ⟨rfl, rfl⟩ | ⟨-, hbBefore⟩
            · exact absurd hsame (halone first a hfirst haBefore haLive hbLive)
            · exact tables.liveUnique first second a b haBefore hbBefore haLive hbLive hsame }
  else none

/-- `claim_webshop_domain` with the hostname that the API normalized. -/
def claimWebshopDomain (id workshop : Uuid)
    (value : String) : Option (HostTables library tenantDomain) :=
  match h : normalizeCustomHostname library tenantDomain value with
  | .error _ => none
  | .ok hostname =>
    if tables.domains.lookup id = none then
      tables.writeDomain id (.claimed workshop hostname) ⟨value, h⟩
    else none

/-- Every other statement on a domain keeps its workshop and its hostname. -/
def changeDomain (id : Uuid) (row : DomainRow) : Option (HostTables library tenantDomain) :=
  match h : tables.domains.lookup id with
  | none => none
  | some before =>
    if hsame : row.hostname = before.hostname ∧ row.workshopId = before.workshopId then
      tables.writeDomain id row (hsame.1 ▸ tables.normalized id before h)
    else none

/-! ## Separate hostnames -/

/-- Different workshops share no hostname, a projection names none twice, and every
label has a legal length. -/
structure Separate (tables : HostTables library tenantDomain) : Prop where
  disjoint : ∀ first second a b, first ≠ second → tables.routeSource first = some a →
    tables.routeSource second = some b → ∀ hostname ∈ a.hostnames, hostname ∉ b.hostnames
  distinct : ∀ workshop source, tables.routeSource workshop = some source → source.hostnames.Nodup
  legal : ∀ workshop source, tables.routeSource workshop = some source →
    ∀ hostname ∈ source.hostnames, ∀ label ∈ labels hostname, byteLength label ≤ 63

/-- No slug is the archive label of a workshop that has an archive, the slugs leave
room for their labels, and so do the labels of the tenant domain. -/
structure SlugsApart (tables : HostTables library tenantDomain) : Prop where
  apart : ∀ first second a b, tables.routeSource first = some a →
    tables.routeSource second = some b → a.paperlessMode ≠ .absent → b.slug ≠ archiveLabel a.slug
  short : ∀ workshop source, tables.routeSource workshop = some source →
    byteLength source.slug.toList ≤ 63 ∧
      (source.paperlessMode ≠ .absent → byteLength source.slug.toList ≤ 58)
  zone : ∀ workshop source, tables.routeSource workshop = some source →
    ∀ label ∈ labels tenantDomain, byteLength label ≤ 63

end HostTables

section Sources

variable {library : HostnameLibrary} {tenantDomain : String}
  {tables : HostTables library tenantDomain} {workshop : Uuid} {source : RouteSource}

section

variable (h : tables.routeSource workshop = some source)

include h

theorem HostTables.routeSource_spec :
    ∃ row, tables.workshops.lookup workshop = some row ∧ source.slug = row.slug ∧
      slugCheck source.slug = true ∧ source.tenantDomain = tenantDomain ∧
      source.publicHostname = under source.slug tenantDomain ∧
      source.domains = tables.customRoutes workshop := by
  unfold HostTables.routeSource at h
  split at h
  · cases h
  rename_i row hrow
  split at h
  · cases h
  · rename_i primary hprimary
    cases h
    exact ⟨row, hrow, rfl, tables.slugChecked workshop row hrow, rfl,
      tables.named workshop row primary hrow hprimary, rfl⟩

theorem paperlessHostname_eq : source.paperlessHostname =
      if source.paperlessMode = .absent then none
      else some (under (archiveLabel source.slug) tenantDomain) := by
  obtain ⟨row, -, -, -, hdomain, -⟩ := HostTables.routeSource_spec h
  unfold RouteSource.paperlessHostname
  rw [hdomain]
  rfl

theorem mem_hostnames {hostname : String} :
    hostname ∈ source.hostnames ↔ hostname = under source.slug tenantDomain ∨
      (source.paperlessMode ≠ .absent ∧ hostname = under (archiveLabel source.slug) tenantDomain) ∨
      ∃ id row route, tables.domains.lookup id = some row ∧
        routed workshop row = some route ∧ hostname = row.hostname := by
  obtain ⟨row, -, -, -, -, hpublic, hdomains⟩ := HostTables.routeSource_spec h
  unfold RouteSource.hostnames
  rw [List.mem_cons, List.mem_append, hpublic, paperlessHostname_eq h, hdomains]
  refine or_congr Iff.rfl (or_congr ?_ ?_)
  · by_cases habsent : source.paperlessMode = .absent
    · simp [habsent]
    · simp [habsent]
  · rw [List.mem_map]
    constructor
    · rintro ⟨route, hroute, rfl⟩
      obtain ⟨id, found, hfound, hrouted⟩ := HostTables.mem_customRoutes.mp hroute
      exact ⟨id, found, route, hfound, hrouted, (routed_eq_some hrouted).2.2⟩
    · rintro ⟨id, found, route, hfound, hrouted, rfl⟩
      exact ⟨route, HostTables.mem_customRoutes.mpr ⟨id, found, hfound, hrouted⟩,
        (routed_eq_some hrouted).2.2⟩

end

theorem customHostname_ne_under {id : Uuid} {row : DomainRow}
    (hrow : tables.domains.lookup id = some row) (label : String) :
    row.hostname ≠ under label tenantDomain := by
  obtain ⟨value, hvalue⟩ := tables.normalized id row hrow
  intro heq
  have houtside := (normalizeCustomHostname_ok hvalue).1
  rw [heq, belongsTo_under] at houtside
  cases houtside

end Sources

namespace HostTables

variable {library : HostnameLibrary} {tenantDomain : String}
  {tables : HostTables library tenantDomain}

theorem SlugsApart.disjoint (h : tables.SlugsApart) {first second : Uuid} {a b : RouteSource}
    (hne : first ≠ second) (ha : tables.routeSource first = some a)
    (hb : tables.routeSource second = some b) :
    ∀ hostname ∈ a.hostnames, hostname ∉ b.hostnames := by
  have hslugs : a.slug ≠ b.slug := by
    obtain ⟨rowA, hrowA, hslugA, -⟩ := routeSource_spec ha
    obtain ⟨rowB, hrowB, hslugB, -⟩ := routeSource_spec hb
    intro heq
    exact hne (tables.slugUnique first second rowA rowB hrowA hrowB
      (hslugA.symm.trans (heq.trans hslugB)))
  intro hostname hinA hinB
  rcases (mem_hostnames ha).mp hinA with rfl | ⟨harchive, rfl⟩ | ⟨id, row, route, hrow, hroute, rfl⟩
  · rcases (mem_hostnames hb).mp hinB with heq | ⟨hother, heq⟩ | ⟨id, row, route, hrow, -, heq⟩
    · exact hslugs (under_injective heq)
    · exact h.apart second first b a hb ha hother (under_injective heq)
    · exact customHostname_ne_under hrow _ heq.symm
  · rcases (mem_hostnames hb).mp hinB with heq | ⟨-, heq⟩ | ⟨id, row, route, hrow, -, heq⟩
    · exact h.apart first second a b ha hb harchive (under_injective heq).symm
    · exact hslugs (archiveLabel_injective (under_injective heq))
    · exact customHostname_ne_under hrow _ heq.symm
  · rcases (mem_hostnames hb).mp hinB with heq | ⟨-, heq⟩ | ⟨other, found, _, hfound, hfoundRoute,
      heq⟩
    · exact customHostname_ne_under hrow _ heq
    · exact customHostname_ne_under hrow _ heq
    · obtain ⟨hworkshop, hlive, -⟩ := routed_eq_some hroute
      obtain ⟨hother, hotherLive, -⟩ := routed_eq_some hfoundRoute
      cases tables.liveUnique id other row found hrow hfound hlive hotherLive heq
      cases hrow.symm.trans hfound
      exact hne (hworkshop.symm.trans hother)

variable {workshop : Uuid} {source : RouteSource}

theorem nodup_hostnames (h : tables.routeSource workshop = some source) :
    source.hostnames.Nodup := by
  obtain ⟨row, -, -, -, -, hpublic, hdomains⟩ := routeSource_spec h
  have hcustom : ∀ label, under label tenantDomain ∉
      source.domains.map CustomHostnameRoute.hostname := by
    intro label hmem
    rw [hdomains] at hmem
    obtain ⟨route, hroute, hname⟩ := List.mem_map.mp hmem
    obtain ⟨id, found, hfound, hrouted⟩ := mem_customRoutes.mp hroute
    exact customHostname_ne_under hfound label ((routed_eq_some hrouted).2.2.symm.trans hname)
  unfold RouteSource.hostnames
  rw [hpublic, paperlessHostname_eq h]
  by_cases habsent : source.paperlessMode = .absent
  · simp only [habsent, if_true, Option.toList_none, List.nil_append]
    exact List.nodup_cons.mpr ⟨hcustom _, source.unique⟩
  simp only [habsent, if_false, Option.toList_some, List.singleton_append]
  refine List.nodup_cons.mpr ⟨?_, List.nodup_cons.mpr ⟨hcustom _, source.unique⟩⟩
  intro hmem
  rcases List.mem_cons.mp hmem with heq | hmem
  · exact archiveLabel_ne _ (under_injective heq).symm
  · exact hcustom _ hmem

theorem SlugsApart.legal (h : tables.SlugsApart)
    (hsource : tables.routeSource workshop = some source) :
    ∀ hostname ∈ source.hostnames, ∀ label ∈ labels hostname, byteLength label ≤ 63 := by
  obtain ⟨-, -, -, hchecked, -⟩ := routeSource_spec hsource
  intro hostname hmem label hlabel
  rcases (mem_hostnames hsource).mp hmem with rfl | ⟨harchive, rfl⟩ | ⟨id, row, route, hrow, -, rfl⟩
  · rw [labels_under (ne_dot_of_slugCheck hchecked)] at hlabel
    rcases List.mem_cons.mp hlabel with rfl | hzone
    · exact (h.short workshop source hsource).1
    · exact h.zone workshop source hsource label hzone
  · rw [labels_under (ne_dot_of_archiveLabel hchecked)] at hlabel
    rcases List.mem_cons.mp hlabel with rfl | hzone
    · have hshort := (h.short workshop source hsource).2 harchive
      rw [byteLength_archiveLabel]
      omega
    · exact h.zone workshop source hsource label hzone
  · obtain ⟨value, hvalue⟩ := tables.normalized id row hrow
    exact (normalizeCustomHostname_ok hvalue).2 label hlabel

theorem Separate.slugsApart (h : tables.Separate) : tables.SlugsApart where
  apart first second a b ha hb harchive hslug := by
    have hinA : under (archiveLabel a.slug) tenantDomain ∈ a.hostnames :=
      (mem_hostnames ha).mpr (Or.inr (Or.inl ⟨harchive, rfl⟩))
    have hinB : under (archiveLabel a.slug) tenantDomain ∈ b.hostnames :=
      (mem_hostnames hb).mpr (Or.inl (by rw [hslug]))
    by_cases hsame : first = second
    · subst second
      cases ha.symm.trans hb
      exact archiveLabel_ne a.slug hslug.symm
    · exact h.disjoint first second a b hsame ha hb _ hinA hinB
  short workshop source hsource := by
    obtain ⟨-, -, -, hchecked, -⟩ := routeSource_spec hsource
    constructor
    · refine h.legal workshop source hsource _ ((mem_hostnames hsource).mpr (Or.inl rfl)) _ ?_
      rw [labels_under (ne_dot_of_slugCheck hchecked)]
      exact List.mem_cons_self
    · intro harchive
      have hlegal := h.legal workshop source hsource _
        ((mem_hostnames hsource).mpr (Or.inr (Or.inl ⟨harchive, rfl⟩)))
        (archiveLabel source.slug).toList
        (by rw [labels_under (ne_dot_of_archiveLabel hchecked)]; exact List.mem_cons_self)
      rw [byteLength_archiveLabel] at hlegal
      omega
  zone workshop source hsource label hlabel := by
    obtain ⟨-, -, -, hchecked, -⟩ := routeSource_spec hsource
    refine h.legal workshop source hsource _ ((mem_hostnames hsource).mpr (Or.inl rfl)) label ?_
    rw [labels_under (ne_dot_of_slugCheck hchecked)]
    exact List.mem_cons_of_mem _ hlabel

/-- **When the hostnames of a fleet are separate.** The projections of a database state
name disjoint sets of distinct, legal hostnames exactly when no slug is the archive
label of a workshop with an archive, and the slugs and the tenant domain's labels are
short enough. -/
theorem separate_iff (tables : HostTables library tenantDomain) :
    tables.Separate ↔ tables.SlugsApart := by
  refine ⟨Separate.slugsApart, fun h => ?_⟩
  exact {
    disjoint := fun _ _ _ _ hne ha hb => h.disjoint hne ha hb
    distinct := fun _ _ hsource => nodup_hostnames hsource
    legal := fun _ _ hsource => h.legal hsource }

/-- Two workshops, the second with the archive label of the first as its slug. -/
def sampleClash :
    Option (HostTables ⟨fun _ => false, fun _ => none, fun _ => false⟩ "makers.test") :=
  (empty.createWorkshop 1 11 "oak").bind fun tables =>
    (tables.changeWorkshop 1 (some .enabled) true true).bind fun tables =>
      tables.createWorkshop 2 12 "docs-oak"

/-- The archive of the first workshop and the second workshop have one name. -/
theorem hostnames_clash : ∃ tables, sampleClash = some tables ∧ ¬ tables.Separate := by
  have hend : sampleClash.any (fun tables =>
      ((tables.routeSource 1).any fun source =>
        decide ("docs-oak.makers.test" ∈ source.hostnames)) &&
      (tables.routeSource 2).any fun source =>
        decide ("docs-oak.makers.test" ∈ source.hostnames)) = true := by
    decide +kernel
  obtain ⟨tables, htables, hfacts⟩ := (Option.any_eq_true _ _).mp hend
  obtain ⟨hfirst, hsecond⟩ := Bool.and_eq_true_iff.mp hfacts
  obtain ⟨a, ha, hinA⟩ := (Option.any_eq_true _ _).mp hfirst
  obtain ⟨b, hb, hinB⟩ := (Option.any_eq_true _ _).mp hsecond
  refine ⟨tables, htables, fun hseparate => ?_⟩
  exact hseparate.disjoint 1 2 a b (by decide) ha hb _ (of_decide_eq_true hinA)
    (of_decide_eq_true hinB)

end HostTables

end ControlPlane.Routes
