/-
# The digest of a route set

The driver hashes the records of a route set while it stages them, the database
computes the digest again from its own rows, and a generation is sealed only when the
two agree. Both write the fields of a record one after the other, texts behind their
length and an absent digest as the length minus one. The driver writes bytes, the
database joins the hexadecimal texts of the records and decodes the whole. The numeric
order of identifiers is the order of their bytes.
-/

import ControlPlane.Math.Encoding
import ControlPlane.Routes.Projection
import Mathlib.Algebra.Order.BigOperators.Group.List
import Mathlib.Data.List.Sort

namespace ControlPlane.Generations

open Domain Math Routes

/-! ## Records -/

/-- A digest as the table's check and the driver's validation want it. -/
abbrev DigestText := { text : String // sqlDigest text = true }

def dispositionText : RouteDisposition → String
  | .present => "present"
  | .absent => "absent"

/-- `RouteSetSealEvidence`, and a row of the table of publication records. -/
structure RouteSetSealEvidence where
  workshopId : Uuid
  projectionGeneration : Int
  projectionDigest : DigestText
  disposition : RouteDisposition
  appliedRenderedDigest : Option DigestText
  renderedDigest : DigestText
  generation_pos : 0 < projectionGeneration
  generation_lt : projectionGeneration < 2 ^ 63
  deriving DecidableEq

/-- The records in the order in which the driver stages them and the database
aggregates them. -/
def inOrder (records : List RouteSetSealEvidence) : List RouteSetSealEvidence :=
  records.insertionSort fun a b => a.workshopId.toNat ≤ b.workshopId.toNat

/-! ## The driver -/

def digestDomain : List UInt8 := octets "mb-route-set-publication-v1" ++ [0]

/-- What the hasher has been given, or nothing if a text is too long for its length. -/
def updateField (hasher value : List UInt8) : Option (List UInt8) :=
  if value.length < 2 ^ 32 then some (hasher ++ lastBytes 4 value.length ++ value) else none

def updateOptionalField (hasher : List UInt8) : Option DigestText → Option (List UInt8)
  | some value => updateField hasher (octets value)
  | none => some (hasher ++ lastBytes 4 (BitVec.ofInt 32 (-1)).toNat)

def foldEvidence (hasher : List UInt8) (evidence : RouteSetSealEvidence) : Option (List UInt8) := do
  let hasher := hasher ++ lastBytes 16 evidence.workshopId.toNat ++
    lastBytes 8 (BitVec.ofInt 64 evidence.projectionGeneration).toNat
  let hasher ← updateField hasher (octets evidence.projectionDigest)
  let hasher ← updateField hasher (octets (dispositionText evidence.disposition))
  let hasher ← updateOptionalField hasher evidence.appliedRenderedDigest
  updateField hasher (octets evidence.renderedDigest)

/-- The bytes the driver hashes. -/
def hashedBytes (records : List RouteSetSealEvidence) : Option (List UInt8) :=
  records.foldlM foldEvidence digestDomain

/-- Two digits for each byte. -/
def hexEncode (bytes : List UInt8) : List Char :=
  bytes.flatMap fun byte => [Nat.digitChar (byte.toNat / 16), Nat.digitChar (byte.toNat % 16)]

/-- The digest of the driver, for the hash function `sha256`. -/
def routeSetDigest (sha256 : List UInt8 → List UInt8) (records : List RouteSetSealEvidence) :
    Option String :=
  (hashedBytes records).map fun bytes => "sha256:" ++ String.ofList (hexEncode (sha256 bytes))

/-! ## The database -/

def int4send (value : Int) : List UInt8 := lastBytes 4 (BitVec.ofInt 32 value).toNat

def int8send (value : Int) : List UInt8 := lastBytes 8 (BitVec.ofInt 64 value).toNat

def sqlField (text : String) : List UInt8 := int4send (octets text).length ++ octets text

/-- The record bytes since an applied digest may be absent. -/
def routeSetPublicationRecordBytes (record : RouteSetSealEvidence) : List UInt8 :=
  lastBytes 16 record.workshopId.toNat ++ int8send record.projectionGeneration ++
    sqlField record.projectionDigest ++ sqlField (dispositionText record.disposition) ++
    record.appliedRenderedDigest.elim (int4send (-1)) (fun digest => sqlField digest) ++
    sqlField record.renderedDigest

/-- `decode(…, 'hex')`. -/
def hexDecode : List Char → Option (List UInt8)
  | [] => some []
  | [_] => none
  | high :: low :: rest =>
    if isLowerHex high && isLowerHex low then
      (hexDecode rest).map (UInt8.ofNat (hexValue high * 16 + hexValue low) :: ·)
    else none

/-- The bytes the database hashes. -/
def publicationHashedBytes (rows : List RouteSetSealEvidence) : Option (List UInt8) :=
  let text := (inOrder rows).flatMap fun record =>
    hexEncode (routeSetPublicationRecordBytes record)
  (hexDecode text).map fun bytes => octets "mb-route-set-publication-v1" ++ [0] ++ bytes

def routeSetPublicationDigest (sha256 : List UInt8 → List UInt8)
    (rows : List RouteSetSealEvidence) : Option String :=
  (publicationHashedBytes rows).map fun bytes =>
    "sha256:" ++ String.ofList (hexEncode (sha256 bytes))

/-! ## The two digests agree -/

private theorem hexDigit : ∀ v < 16, isLowerHex (Nat.digitChar v) = true := by
  decide

theorem hexDecode_hexEncode (bytes : List UInt8) : hexDecode (hexEncode bytes) = some bytes := by
  induction bytes with
  | nil => rfl
  | cons byte rest ih =>
    have hhigh : byte.toNat / 16 < 16 := Nat.div_lt_of_lt_mul byte.toNat_lt
    have hlow : byte.toNat % 16 < 16 := Nat.mod_lt _ (by decide)
    have hbyte : UInt8.ofNat (byte.toNat / 16 * 16 + byte.toNat % 16) = byte := by
      rw [Nat.div_add_mod', UInt8.ofNat_toNat]
    rw [hexEncode] at ih ⊢
    simp [hexDecode, hexDigit _ hhigh, hexDigit _ hlow, hexValue_digitChar _ hhigh,
      hexValue_digitChar _ hlow, ih, hbyte]

theorem length_octets_digestText (digest : DigestText) : (octets digest).length < 2 ^ 31 := by
  obtain ⟨text, h⟩ := digest
  simp only [sqlDigest, Bool.and_eq_true, decide_eq_true_eq] at h
  have hbound : byteLength text.toList ≤ text.toList.length * 4 := by
    have hsize : ∀ size ∈ text.toList.map Char.utf8Size, size ≤ 4 := by
      intro size hmem
      obtain ⟨c, -, rfl⟩ := List.mem_map.mp hmem
      exact c.utf8Size_le_four
    simpa [byteLength] using List.sum_le_card_nsmul _ 4 hsize
  rw [length_octets]
  change byteLength text.toList < 2 ^ 31
  omega

theorem length_octets_disposition (disposition : RouteDisposition) :
    (octets (dispositionText disposition)).length < 2 ^ 31 := by
  cases disposition <;> decide

theorem int4send_length {length : Nat} (h : length < 2 ^ 31) :
    int4send length = lastBytes 4 length := by
  rw [int4send, BitVec.ofInt_natCast, BitVec.toNat_ofNat, Nat.mod_eq_of_lt (by omega)]

theorem updateField_eq (hasher : List UInt8) {text : String} (h : (octets text).length < 2 ^ 31) :
    updateField hasher (octets text) = some (hasher ++ sqlField text) := by
  rw [updateField, if_pos (by omega), sqlField, int4send_length h, List.append_assoc]

theorem foldEvidence_eq (hasher : List UInt8) (evidence : RouteSetSealEvidence) :
    foldEvidence hasher evidence = some (hasher ++ routeSetPublicationRecordBytes evidence) := by
  have happlied : ∀ before, updateOptionalField before evidence.appliedRenderedDigest =
      some (before ++ evidence.appliedRenderedDigest.elim (int4send (-1))
        (fun digest => sqlField digest)) := by
    intro before
    cases evidence.appliedRenderedDigest with
    | none => rfl
    | some digest => exact updateField_eq before (length_octets_digestText digest)
  simp only [foldEvidence, updateField_eq _ (length_octets_digestText _),
    updateField_eq _ (length_octets_disposition _), happlied, Option.bind_eq_bind, Option.bind_some]
  simp [routeSetPublicationRecordBytes, int8send]

theorem hashedBytes_eq (records : List RouteSetSealEvidence) :
    hashedBytes records = some (digestDomain ++ records.flatMap
      routeSetPublicationRecordBytes) := by
  suffices h : ∀ hasher, records.foldlM foldEvidence hasher =
      some (hasher ++ records.flatMap routeSetPublicationRecordBytes) from h digestDomain
  induction records with
  | nil => simp
  | cons record records ih => simp [foldEvidence_eq, ih]

/-! ## The bytes can be read back -/

theorem unambiguous_sqlField {α : Type} {text : α → String} (hinj : text.Injective)
    (hlength : ∀ a, (octets (text a)).length < 2 ^ 31) :
    Unambiguous fun a => sqlField (text a) := by
  refine Unambiguous.behind (fun length => int4send length) 4 (fun _ => length_lastBytes 4 _)
    (octets_injective.comp hinj) fun a b heq => ?_
  have hlengths : int4send (octets (text a)).length = int4send (octets (text b)).length := heq
  rw [int4send_length (hlength a), int4send_length (hlength b)] at hlengths
  have ha := hlength a
  have hb := hlength b
  exact lastBytes_inj (by omega) (by omega) hlengths

theorem unambiguous_digest : Unambiguous fun digest : DigestText => sqlField digest :=
  unambiguous_sqlField Subtype.val_injective length_octets_digestText

theorem unambiguous_applied : Unambiguous fun applied : Option DigestText =>
    applied.elim (int4send (-1)) (fun digest => sqlField digest) := by
  refine unambiguous_digest.option fun digest rest rest' heq => ?_
  have hlength := length_octets_digestText digest
  rw [sqlField, int4send_length hlength, int4send, List.append_assoc] at heq
  have hword := (List.append_inj heq (by simp)).1
  have hvalue := lastBytes_inj (by omega) (by decide) hword
  have hmarker : (BitVec.ofInt 32 (-1)).toNat = 2 ^ 32 - 1 := by decide
  omega

theorem unambiguous_generation :
    Unambiguous fun generation : { g : Int // 0 < g ∧ g < 2 ^ 63 } => int8send generation := by
  refine Unambiguous.of_length ?_ fun _ => length_lastBytes 8 _
  rintro ⟨g, hg⟩ ⟨g', hg'⟩ heq
  have hvalue := lastBytes_inj (BitVec.isLt _) (BitVec.isLt _) heq
  simp only [BitVec.toNat_ofInt] at hvalue
  refine Subtype.ext ?_
  change g = g'
  omega

theorem unambiguous_recordBytes : Unambiguous routeSetPublicationRecordBytes := by
  have hworkshop : Unambiguous fun workshop : Uuid => lastBytes 16 workshop.toNat :=
    .of_length (fun a b heq => BitVec.eq_of_toNat_eq (lastBytes_inj a.isLt b.isLt heq))
      fun _ => length_lastBytes 16 _
  have hdisposition : Unambiguous fun disposition => sqlField (dispositionText disposition) :=
    unambiguous_sqlField
      (fun a b h => by cases a <;> cases b <;> first | rfl | exact absurd h (by decide))
      length_octets_disposition
  have hfields := ((((hworkshop.append unambiguous_generation).append unambiguous_digest).append
    hdisposition).append unambiguous_applied).append unambiguous_digest
  refine hfields.comp (f := fun record : RouteSetSealEvidence =>
    (((((record.workshopId, ⟨record.projectionGeneration, record.generation_pos,
      record.generation_lt⟩), record.projectionDigest), record.disposition),
      record.appliedRenderedDigest), record.renderedDigest)) ?_
  rintro ⟨⟩ ⟨⟩ heq
  simp only [Prod.mk.injEq, Subtype.mk.injEq] at heq
  obtain ⟨⟨⟨⟨⟨rfl, rfl⟩, rfl⟩, rfl⟩, rfl⟩, rfl⟩ := heq
  rfl

theorem hashedBytes_injective {records others : List RouteSetSealEvidence}
    (h : hashedBytes records = hashedBytes others) : records = others := by
  rw [hashedBytes_eq, hashedBytes_eq] at h
  have hbytes := List.append_cancel_left (Option.some.inj h)
  refine unambiguous_recordBytes.flatMap_injective (fun record hnil => ?_) hbytes
  have hlength := congrArg List.length hnil
  simp [routeSetPublicationRecordBytes] at hlength

theorem perm_inOrder (records : List RouteSetSealEvidence) : (inOrder records).Perm records :=
  List.perm_insertionSort _ _

theorem pairwise_inOrder (records : List RouteSetSealEvidence) :
    (inOrder records).Pairwise fun a b => a.workshopId.toNat ≤ b.workshopId.toNat := by
  have htotal : Std.Total fun a b : RouteSetSealEvidence =>
      a.workshopId.toNat ≤ b.workshopId.toNat := ⟨fun _ _ => Nat.le_total _ _⟩
  have htrans : IsTrans RouteSetSealEvidence fun a b =>
      a.workshopId.toNat ≤ b.workshopId.toNat := ⟨fun _ _ _ => Nat.le_trans⟩
  exact List.pairwise_insertionSort _ records

/-- Records of different workshops have one order. -/
theorem inOrder_eq_of_perm {records rows : List RouteSetSealEvidence} (hsame : rows.Perm records)
    (hdistinct : (records.map (·.workshopId)).Nodup) : inOrder rows = inOrder records := by
  have hperm : (inOrder rows).Perm (inOrder records) :=
    ((perm_inOrder rows).trans hsame).trans (perm_inOrder records).symm
  refine hperm.eq_of_pairwise (fun a b ha hb hab hba => ?_) (pairwise_inOrder rows)
    (pairwise_inOrder records)
  have hmem : a ∈ records := hsame.subset ((perm_inOrder rows).subset ha)
  exact List.inj_on_of_nodup_map hdistinct hmem ((perm_inOrder records).subset hb)
    (BitVec.eq_of_toNat_eq (Nat.le_antisymm hab hba))

/-- **For a set of records of different workshops the driver, which stages them in order,
and the database, whose rows have no order, hash the same bytes and compute one digest; and
no two sets of records have the same hashed bytes.** -/
theorem routeSetDigest_agrees (sha256 : List UInt8 → List UInt8)
    {records rows : List RouteSetSealEvidence} (hsame : rows.Perm records)
    (hdistinct : (records.map (·.workshopId)).Nodup) :
    publicationHashedBytes rows = hashedBytes (inOrder records) ∧
    (∃ digest, routeSetDigest sha256 (inOrder records) = some digest ∧
      routeSetPublicationDigest sha256 rows = some digest) ∧
      ∀ others : List RouteSetSealEvidence,
        hashedBytes (inOrder records) = hashedBytes (inOrder others) → records.Perm others := by
  have hbytes : publicationHashedBytes rows = hashedBytes (inOrder records) := by
    have htext : ((inOrder records).flatMap fun record =>
        hexEncode (routeSetPublicationRecordBytes record)) =
        hexEncode ((inOrder records).flatMap routeSetPublicationRecordBytes) := by
      simp [hexEncode, List.flatMap_assoc]
    rw [publicationHashedBytes, inOrder_eq_of_perm hsame hdistinct, htext, hexDecode_hexEncode,
      hashedBytes_eq]
    rfl
  refine ⟨hbytes, ?_, ?_⟩
  · rw [routeSetDigest, routeSetPublicationDigest, hbytes, hashedBytes_eq]
    exact ⟨_, rfl, rfl⟩
  · intro others heq
    have hsorted := hashedBytes_injective heq
    exact (perm_inOrder records).symm.trans (hsorted ▸ perm_inOrder others)

/-- The digest of the empty text. -/
def emptyDigest : DigestText :=
  ⟨"sha256:e3b0c44298fc1c149afbf4c8996fb92427ae41e4649b934ca495991b7852b855", by decide⟩

def sampleEvidence (workshop : Uuid) (applied : Option DigestText) : RouteSetSealEvidence where
  workshopId := workshop
  projectionGeneration := 1
  projectionDigest := emptyDigest
  disposition := .absent
  appliedRenderedDigest := applied
  renderedDigest := emptyDigest
  generation_pos := by decide
  generation_lt := by decide

theorem routeSetDigest_agrees_of_two : ∃ digest, routeSetDigest id
        (inOrder [sampleEvidence 1 none, sampleEvidence 2 (some emptyDigest)]) = some digest ∧
      routeSetPublicationDigest id [sampleEvidence 2 (some emptyDigest), sampleEvidence 1 none] =
        some digest :=
  (routeSetDigest_agrees id (List.Perm.swap _ _ []) (by decide)).2.1

end ControlPlane.Generations
