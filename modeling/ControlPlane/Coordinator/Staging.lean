/-
# The rows of a published generation

The coordinator reads the frozen fleet in strictly increasing order of its workshops, but
it is the file system that hands the rows to the recorder. The coordinator only checks that
the target was among them. So that every row was recorded, in order, before a generation is
published holds for the file systems that offer the rows one after the other and seal only
after the last of them was accepted, as the local one does, and not for all.
-/

import ControlPlane.Coordinator.Safety

namespace ControlPlane.Coordinator

open Domain Driver Math Routes
open Math.Program hiding pure
open SnapshotItem Call

/-! ## Rows in a history -/

/-- The workshops that the database returned for the lease. -/
def readRows (lease : Lease) (history : List Occurrence) : List Uuid :=
  history.flatMap fun
    | .replied (.readSnapshot other _ _) (.ok batch) =>
      if other = lease then batch.map workshopId else []
    | _ => []

/-- The workshops whose rows the database accepted for the lease. -/
def recordedRows (lease : Lease) (history : List Occurrence) : List Uuid :=
  history.flatMap fun
    | .replied (.recordEntry other evidence) (.ok outcome) =>
      if other = lease ∧ outcome.accepted = true then [evidence.workshopId] else []
    | _ => []

/-- The whole snapshot was read, and recorded in strictly increasing order. -/
structure RowsComplete (lease : Lease) (history : List Occurrence) : Prop where
  recorded : recordedRows lease history = readRows lease history
  increasing : (readRows lease history).Pairwise (· < ·)
  counted : (readRows lease history).length = lease.snapshotCount

/-- Nothing is published before every row of the snapshot was recorded. -/
def RowsRecorded (history : List Occurrence) : Prop :=
  Preceded (fun o => o.isPublish = true)
    (fun before => ∃ lease, Admitted lease before ∧ RowsComplete lease before) history

section rows

variable {lease : Lease} {history : List Occurrence} {o : Occurrence}

theorem readRows_snoc (history : List Occurrence) (hrows : o.concernsRows = false) :
    readRows lease (history ++ [o]) = readRows lease history := by
  unfold readRows
  rw [List.flatMap_append, List.flatMap_singleton]
  split
  · cases hrows
  · exact List.append_nil _

theorem recordedRows_snoc (history : List Occurrence) (hrows : o.concernsRows = false) :
    recordedRows lease (history ++ [o]) = recordedRows lease history := by
  unfold recordedRows
  rw [List.flatMap_append, List.flatMap_singleton]
  split
  · cases hrows
  · exact List.append_nil _

theorem rows_of_fresh (hfresh : ∀ o ∈ history, o.concernsRows = false) :
    readRows lease history = [] ∧ recordedRows lease history = [] := by
  induction history using List.reverseRecOn with
  | nil => exact ⟨rfl, rfl⟩
  | append_singleton history o ih =>
    have hlast := hfresh o (List.mem_append_right _ (List.mem_singleton.mpr rfl))
    rw [readRows_snoc history hlast, recordedRows_snoc history hlast]
    exact ih fun other hmem => hfresh other (List.mem_append_left _ hmem)

end rows

/-! ## File systems that stage in order -/

/-- The implementation does not seal from here on. -/
def Refuses : Staging → Prop
  | .pure _ => False
  | .throw _ => True
  | .update _ next => Refuses next
  | .get next => Refuses (next ())
  | .call _ _ replied _ => ∀ reply, Refuses (replied reply)

/-- The implementation offers exactly these workshops, in this order, and does not seal
after one of them failed. -/
def Offers : List Uuid → Staging → Prop
  | rest, .pure _ => rest = []
  | _, .throw _ => True
  | rest, .update _ next => Offers rest next
  | rest, .get next => Offers rest (next ())
  | rest, .call (.record evidence) _ replied _ =>
    ∃ tail, rest = evidence.workshopId :: tail ∧ Offers tail (replied (.ok ())) ∧
      ∀ error, Refuses (replied (.error error))
  | rest, .call (.recordOrGiveUp evidence) _ replied _ =>
    ∃ tail, rest = evidence.workshopId :: tail ∧ Offers tail (replied (some (.ok ()))) ∧
      (∀ error, Refuses (replied (some (.error error)))) ∧ Refuses (replied none)
  | rest, .call .wait _ replied _ => Offers rest (replied ())
  | rest, .call .beginSeal _ replied _ => ∀ reply, Offers rest (replied reply)
  | rest, .call (.stageRow _) _ replied _ => ∀ reply, Offers rest (replied reply)
  | rest, .call .finishSeal _ replied _ => ∀ reply, Offers rest (replied reply)

/-- The file system stages the snapshot that it was given, row by row. -/
def Filesystem.StagesInOrder (fs : Filesystem) : Prop :=
  ∀ lease frozen snapshot, Offers (snapshot.map workshopId) (fs.stageAndSeal lease frozen snapshot)

/-! ## The local file system -/

/-- One row of `prepare_frozen_route_set`, with what the projection renders to. -/
def PreparedRow.ofItem (contents : Option String) (item : SnapshotItem) : PreparedRow where
  workshopId := item.workshopId
  projectionGeneration := item.projectionGeneration
  projectionDigest := item.projectionDigest
  appliedRenderedDigest := item.appliedRenderedDigest
  contents := contents

/-- The evidence of a row whose bytes were written with the given digest. -/
def PreparedRow.evidence (row : PreparedRow) (renderedDigest : String) : SealEvidence where
  workshopId := row.workshopId
  projectionGeneration := row.projectionGeneration
  projectionDigest := row.projectionDigest
  disposition := if row.contents.isSome then .present else .absent
  appliedRenderedDigest := some row.appliedRenderedDigest
  renderedDigest := renderedDigest

/-- The loop of `LocalPublicationFilesystem::stage_and_seal`, and the seal after it. -/
def stageRows : List PreparedRow → Staging
  | [] => do
    let sealed ← request .finishSeal
    ofExcept sealed
  | row :: rest => do
    let staged ← request (.stageRow row)
    let renderedDigest ← ofExcept staged
    let recorded ← request (.record (row.evidence renderedDigest))
    ofExcept recorded
    stageRows rest

/-- `LocalPublicationFilesystem`, for whatever its projections render to. -/
def localPublicationFilesystem (render : Lease → RuntimeContext → SnapshotItem → Option String) :
    Filesystem where
  stageAndSeal lease frozen snapshot := do
    let begun ← request .beginSeal
    ofExcept begun
    stageRows (snapshot.map fun item => .ofItem (render lease frozen item) item)

theorem offers_stageRows (rows : List PreparedRow) :
    Offers (rows.map PreparedRow.workshopId) (stageRows rows) := by
  induction rows with
  | nil =>
    intro reply
    cases reply with
    | ok sealed => rfl
    | error error => trivial
  | cons row rest ih =>
    intro staged
    cases staged with
    | ok renderedDigest => exact ⟨_, rfl, ih, fun _ => trivial⟩
    | error error => trivial

theorem localPublicationFilesystem_stagesInOrder
    (render : Lease → RuntimeContext → SnapshotItem → Option String) :
    (localPublicationFilesystem render).StagesInOrder := by
  intro lease frozen snapshot begun
  cases begun with
  | ok _ =>
    have h := offers_stageRows
      (snapshot.map fun item => PreparedRow.ofItem (render lease frozen item) item)
    rwa [List.map_map] at h
  | error error => trivial

/-! ## Reading in order -/

/-- The workshops go up, and none is above the last one. -/
structure Climbs (ids : List Uuid) (last : Option Uuid) : Prop where
  increasing : ids.Pairwise (· < ·)
  bounded : ∀ id ∈ ids, ∃ bound, last = some bound ∧ id ≤ bound

theorem Climbs.advance {ids : List Uuid} {after last : Option Uuid} {batch : List SnapshotItem}
    (h : Climbs ids after) (hadvance : advance after batch = some last) :
    Climbs (ids ++ batch.map workshopId) last := by
  induction batch generalizing ids after with
  | nil =>
    cases hadvance
    simpa using h
  | cons item rest ih =>
    unfold Coordinator.advance at hadvance
    split at hadvance
    · cases hadvance
    next hnot =>
  have habove : ∀ id ∈ ids, id < item.workshopId := by
    intro id hid
    obtain ⟨bound, rfl, hbound⟩ := h.bounded id hid
    have hlt : ¬ item.workshopId ≤ bound := by simpa using hnot
    rw [BitVec.le_def] at hbound hlt
    rw [BitVec.lt_def]
    omega
  have hnext : Climbs (ids ++ [item.workshopId]) (some item.workshopId) := by
    refine ⟨List.pairwise_append.mpr ⟨h.increasing, List.pairwise_singleton _ _, ?_⟩, ?_⟩
    · intro id hid other hother
      rw [List.mem_singleton.mp hother]
      exact habove id hid
    · intro id hid
      refine ⟨_, rfl, ?_⟩
      rcases List.mem_append.mp hid with hid | hid
      · exact BitVec.le_of_lt (habove id hid)
      · rw [List.mem_singleton.mp hid]
        exact BitVec.le_refl _
  simpa using ih hnext hadvance

/-! ## From the first row to the last -/

/-- With a lease and nothing attempted, these rows were read and these recorded. -/
structure RowState (lease : Lease) (rows recorded : List Uuid) (w : World) : Prop where
  reversible : Reversible lease w
  read : readRows lease w.history = rows
  accepted : recordedRows lease w.history = recorded

section staging

variable {w : World} {lease : Lease} {rows recorded : List Uuid}

theorem RowState.tolerant (lease : Lease) (rows recorded : List Uuid) :
    Tolerant (RowState lease rows recorded) where
  note := fun w _ h hharmless hrows => ⟨h.reversible.note hharmless,
    (readRows_snoc w.history hrows).trans h.read,
    (recordedRows_snoc w.history hrows).trans h.accepted⟩
  target := fun w target h =>
    ⟨(Reversible.indifferent lease).target w target h.reversible, h.read, h.accepted⟩

theorem RowState.readBatch (h : RowState lease rows recorded w) (after : Option Uuid)
    (limit : Nat) (batch : List SnapshotItem) :
    RowState lease (rows ++ batch.map workshopId) recorded
      ((w.note (.called (.readSnapshot lease after limit))).note
        (.replied (.readSnapshot lease after limit) (.ok batch))) := by
  have hcalled := (RowState.tolerant lease rows recorded).note w
    (.called (.readSnapshot lease after limit)) h rfl rfl
  refine ⟨hcalled.reversible.note rfl, ?_, ?_⟩
  · rw [← hcalled.read]
    simp [World.note, readRows]
  · rw [← hcalled.accepted]
    simp [World.note, recordedRows]

theorem RowState.recordRow (h : RowState lease rows recorded w) (evidence : SealEvidence)
    {outcome : RecordEntryOutcome} (haccepted : outcome.accepted = true) :
    RowState lease rows (recorded ++ [evidence.workshopId])
      ((w.note (.called (.recordEntry lease evidence))).note
        (.replied (.recordEntry lease evidence) (.ok outcome))) := by
  have hcalled := (RowState.tolerant lease rows recorded).note w
    (.called (.recordEntry lease evidence)) h rfl rfl
  refine ⟨hcalled.reversible.note rfl, ?_, ?_⟩
  · rw [← hcalled.read]
    simp [World.note, readRows]
  · rw [← hcalled.accepted]
    simp [World.note, recordedRows, haccepted]

theorem ensures_readBatches (batchSize passes : Nat) {snapshot : List SnapshotItem}
    {after : Option Uuid} (h : RowState lease (snapshot.map workshopId) [] w)
    (hclimbs : Climbs (snapshot.map workshopId) after) :
    (readBatches lease batchSize passes snapshot after).Ensures awaits
      ⟨Reversible lease, fun _ => Reversible lease, fun result w =>
        RowState lease (result.map workshopId) [] w ∧
          (result.map workshopId).Pairwise (· < ·)⟩ w := by
  induction passes generalizing snapshot after w with
  | zero => exact ⟨h, hclimbs.increasing⟩
  | succ passes ih =>
    unfold readBatches
    split
    swap
    · exact ⟨h, hclimbs.increasing⟩
    apply Ensures.bind
    refine ((RowState.tolerant lease _ _).keeps_requireRenewal lease .snapshotRead).ensures h
      (fun _ h => h.reversible) (fun _ _ h => h.reversible) fun _ w h => ?_
    apply Ensures.bind
    refine ensures_perform (fun _ => h.reversible.note rfl) (fun batch => ?_)
      fun _ => (h.reversible.note rfl).note rfl
    have hbatch := h.readBatch after (min batchSize (lease.snapshotCount - snapshot.length)) batch
    apply Ensures.bind
    refine ensures_ensure (fun _ => ?_) fun _ => hbatch.reversible
    apply Ensures.bind
    refine ensures_ofExcept (fun last hlast => ?_) fun _ _ => hbatch.reversible
    have hadvance : advance after batch = some last := by
      cases hvalue : advance after batch with
      | none => simp [hvalue] at hlast
      | some value => simpa [hvalue] using hlast
    refine ih ?_ ?_
    · rwa [List.map_append]
    · rw [List.map_append]
      exact hclimbs.advance hadvance

/-- The rows that are handed on are all that were read, in strictly increasing order. -/
theorem ensures_readCompleteSnapshot (batchSize : Nat) (h : RowState lease [] [] w) :
    (readCompleteSnapshot lease batchSize).Ensures awaits
      ⟨Reversible lease, fun _ => Reversible lease, fun snapshot w =>
        RowState lease (snapshot.map workshopId) [] w ∧ (snapshot.map workshopId).Pairwise (· < ·) ∧
          snapshot.length = lease.snapshotCount⟩ w := by
  apply Ensures.bind
  refine (ensures_readBatches batchSize lease.snapshotCount h
    ⟨.nil, fun _ hid => absurd hid List.not_mem_nil⟩).mono
    (fun _ h => h) (fun _ _ h => h) fun snapshot w h => ?_
  apply Ensures.bind
  refine ensures_ensure (fun hcount => ?_) fun _ => h.1.reversible
  exact ⟨h.1, h.2, by simpa using hcount⟩

theorem ensures_record (evidence : SealEvidence) (h : RowState lease rows recorded w) :
    (record lease evidence).Ensures awaits ⟨Reversible lease, fun _ => Reversible lease, fun _ =>
        RowState lease rows (recorded ++ [evidence.workshopId])⟩ w := by
  apply Ensures.bind
  refine ((RowState.tolerant lease _ _).keeps_keepTargetEvidence lease evidence).ensures h
    (fun _ h => h.reversible) (fun _ _ h => h.reversible) fun _ w h => ?_
  apply Ensures.bind
  refine ensures_perform (fun _ => h.reversible.note rfl) (fun outcome => ?_)
    fun _ => (h.reversible.note rfl).note rfl
  apply Ensures.bind
  refine ensures_ensure (fun haccepted => ?_) fun _ => (h.reversible.note rfl).note rfl
  exact ((RowState.tolerant lease _ _).keeps_requireRenewal lease .staging).ensures
    (h.recordRow evidence haccepted) (fun _ h => h.reversible) (fun _ _ h => h.reversible)
    fun _ _ h => h

variable {staging : Staging} {fs : Filesystem} {o : Occurrence}

theorem ensures_stageAndSeal_of_refuses (hrefuses : Refuses staging) (h : Reversible lease w) :
    (stageAndSeal lease staging).Ensures awaits
      ⟨Reversible lease, fun _ => Reversible lease, fun _ _ => False⟩ w := by
  have hi := Reversible.indifferent lease
  induction staging generalizing w with
  | pure sealed => exact hrefuses.elim
  | throw error => exact h
  | update change rest ih => exact ih hrefuses h
  | get rest ih => exact ih () hrefuses h
  | call request enabled replied interrupted ih _ =>
    cases request with
    | record evidence =>
      exact Ensures.bind <| (hi.keeps_record _ _).attempt.ensures h (fun _ h => h)
        (fun _ _ h => h) fun result _ h => ih result (hrefuses result) h
    | recordOrGiveUp evidence =>
      exact Ensures.bind <| (hi.keeps_recordOrGiveUp _ _).ensures h (fun _ h => h)
        (fun _ _ h => h) fun result _ h => ih result (hrefuses result) h
    | wait =>
      exact Ensures.bind <| (hi.keeps_ask rfl).ensures h (fun _ h => h)
        (fun _ _ h => h) fun _ _ h => ih () (hrefuses ()) h
    | beginSeal | stageRow row | finishSeal =>
      exact Ensures.bind <| (hi.keeps_ask rfl).ensures h (fun _ h => h)
        (fun _ _ h => h) fun reply _ h => ih reply (hrefuses reply) h

theorem ensures_recordOrGiveUp (evidence : SealEvidence) (h : RowState lease rows recorded w) :
    (recordOrGiveUp lease evidence).Ensures awaits
      ⟨Reversible lease, fun _ => Reversible lease, fun result w => Reversible lease w ∧
        (result = some (.ok ()) → RowState lease rows (recorded ++ [evidence.workshopId]) w)⟩
      w := by
  apply Ensures.race
  apply Ensures.bind
  apply Ensures.attempt
  refine (ensures_record evidence h).mono (fun w h => ⟨h, fun interrupt caught hcaught => ?_⟩)
    (fun _ _ h => ⟨h, nofun⟩) fun _ _ h => ⟨h.reversible, fun _ => h⟩
  cases interrupt with
  | heartbeat error => cases hcaught
  | abandoned =>
    cases hcaught
    exact ⟨h, nofun⟩

/-- A file system that offers the rest of the rows seals after all of them are recorded. -/
theorem ensures_stageAndSeal {rest : List Uuid} (hoffers : Offers rest staging)
    (hrows : recorded ++ rest = rows) (h : RowState lease rows recorded w) :
    (stageAndSeal lease staging).Ensures awaits
      ⟨Reversible lease, fun _ => Reversible lease, fun _ => RowState lease rows rows⟩ w := by
  induction staging generalizing w rest recorded with
  | pure sealed =>
    cases hoffers
    rw [List.append_nil] at hrows
    exact hrows ▸ h
  | throw error => exact h.reversible
  | update change next ih => exact ih hoffers hrows h
  | get next ih => exact ih () hoffers hrows h
  | call request enabled replied interrupted ih _ =>
    have hplain := RowState.tolerant lease rows recorded
    cases request with
    | record evidence =>
      obtain ⟨tail, rfl, hok, herror⟩ := hoffers
      apply Ensures.bind
      apply Ensures.attempt
      refine (ensures_record evidence h).mono (fun _ h => h) (fun error w h => ?_)
        fun _ w h => ?_
      · exact (ensures_stageAndSeal_of_refuses (herror error) h).mono (fun _ h => h)
          (fun _ _ h => h) fun _ _ h => h.elim
      · exact ih (.ok ()) hok (by rw [List.append_assoc]; exact hrows) h
    | recordOrGiveUp evidence =>
      obtain ⟨tail, rfl, hok, herror, hnone⟩ := hoffers
      apply Ensures.bind
      refine (ensures_recordOrGiveUp evidence h).mono (fun _ h => h) (fun _ _ h => h)
        fun result w h => ?_
      match result with
      | some (.ok ()) =>
        exact ih (some (.ok ())) hok (by rw [List.append_assoc]; exact hrows) (h.2 rfl)
      | some (.error error) =>
        exact (ensures_stageAndSeal_of_refuses (herror error) h.1).mono (fun _ h => h)
          (fun _ _ h => h) fun _ _ h => h.elim
      | none =>
        exact (ensures_stageAndSeal_of_refuses hnone h.1).mono (fun _ h => h)
          (fun _ _ h => h) fun _ _ h => h.elim
    | wait =>
      exact Ensures.bind <| (hplain.keeps_ask rfl fun _ => rfl).ensures h
        (fun _ h => h.reversible) (fun _ _ h => h.reversible) fun _ _ h => ih () hoffers hrows h
    | beginSeal | stageRow row | finishSeal =>
      exact Ensures.bind <| (hplain.keeps_ask rfl fun _ => rfl).ensures h
        (fun _ h => h.reversible) (fun _ _ h => h.reversible)
        fun reply _ h => ih reply (hoffers reply) hrows h

/-- Everything is read and recorded, and can still be undone. -/
def Staged (lease : Lease) (w : World) : Prop :=
  Reversible lease w ∧ RowsComplete lease w.history

theorem Staged.tolerant (lease : Lease) : Tolerant (Staged lease) where
  note := by
    rintro w o ⟨h, hrows⟩ hharmless hplain
    refine ⟨h.note hharmless, ?_, ?_, ?_⟩
    · rw [World.note, readRows_snoc _ hplain, recordedRows_snoc _ hplain, hrows.recorded]
    · rw [World.note, readRows_snoc _ hplain]
      exact hrows.increasing
    · rw [World.note, readRows_snoc _ hplain]
      exact hrows.counted
  target := fun w target h => ⟨(Reversible.indifferent lease).target w target h.1, h.2⟩

theorem ensures_stageGeneration (hfs : fs.StagesInOrder) (plan : Plan)
    (preflight : PriorSelector × PriorLoadedIdentity) (h : RowState lease [] [] w) :
    (stageGeneration fs plan lease preflight).Ensures awaits
      ⟨Reversible lease, fun _ => Reversible lease, fun _ => Staged lease⟩ w := by
  apply Ensures.bind
  refine ((RowState.tolerant lease _ _).keeps_recordBoundPrior lease preflight).ensures h
    (fun _ h => h.reversible) (fun _ _ h => h.reversible) fun _ w h => ?_
  apply Ensures.bind
  refine (ensures_readCompleteSnapshot plan.snapshotBatchSize h).mono (fun _ h => h)
    (fun _ _ h => h) fun snapshot w hsnapshot => ?_
  obtain ⟨h, hincreasing, hcount⟩ := hsnapshot
  apply Ensures.bind
  refine ((RowState.tolerant lease _ _).keeps_beginGeneration lease snapshot).ensures h
    (fun _ h => h.reversible) (fun _ _ h => h.reversible) fun frozen w h => ?_
  apply Ensures.bind
  refine (ensures_stageAndSeal (hfs lease frozen snapshot) (List.nil_append _) h).mono
    (fun _ h => h)
    (fun _ _ h => h) fun sealed w h => ?_
  have hstaged : Staged lease w := by
    refine ⟨h.reversible, h.accepted.trans h.read.symm, ?_, ?_⟩
    · rw [h.read]
      exact hincreasing
    · rw [h.read]
      simpa using hcount
  exact (Keeps.bind keeps_takeTargetEvidence fun _ => keeps_pure _).ensures
    hstaged (fun _ h => h.1) (fun _ _ h => h.1) fun _ _ h => h

/-! ## The publication -/

/-- The claim about rows holds of the history so far. -/
def RowsKept (w : World) : Prop := RowsRecorded w.history

theorem RowsKept.note (h : RowsKept w) (hpublish : o.isPublish = false) : RowsKept (w.note o) :=
  Preceded.snoc h fun htrue => by simp [hpublish] at htrue

theorem RowsKept.indifferent : Indifferent RowsKept := by
  have hnote : ∀ w o, RowsKept w → o.harmless = true → RowsKept (w.note o) := by
    intro w o h hharmless
    simp only [Occurrence.harmless, Bool.and_eq_true, Bool.not_eq_true'] at hharmless
    exact h.note hharmless.2
  exact ⟨⟨fun w o h hharmless _ => hnote w o h hharmless, fun _ _ h => h⟩, hnote⟩

theorem rowsKept_of_calm (hcalm : ∀ o ∈ w.history, o.isStart = false ∧ o.isPublish = false) :
    RowsKept w := by
  intro before o after heq hpublish
  have hmem : o ∈ w.history := heq ▸ List.mem_append_right _ (List.mem_cons_self ..)
  simp [(hcalm o hmem).2] at hpublish

/-- Everything is recorded, so that the generation may be published. -/
structure Publishable (lease : Lease) (w : World) : Prop where
  kept : RowsKept w
  admitted : Admitted lease w.history
  complete : RowsComplete lease w.history

theorem Staged.publishable (h : Staged lease w) : Publishable lease w.attemptStart :=
  ⟨rowsKept_of_calm h.1.calm, h.1.admitted, h.2⟩

theorem Publishable.note (h : Publishable lease w) (hpublish : o.isPublish = false)
    (hrows : o.concernsRows = false) : Publishable lease (w.note o) := by
  obtain ⟨request, hadmitted⟩ := h.admitted
  refine ⟨h.kept.note hpublish, ⟨request, List.mem_append_left _ hadmitted⟩, ?_, ?_, ?_⟩
  · rw [World.note, readRows_snoc _ hrows, recordedRows_snoc _ hrows, h.complete.recorded]
  · rw [World.note, readRows_snoc _ hrows]
    exact h.complete.increasing
  · rw [World.note, readRows_snoc _ hrows]
    exact h.complete.counted

theorem ensures_publishGeneration_rows (prior : PriorSelector) (sealed : SealedGeneration)
    (target : SealEvidence) (h : Staged lease w) :
    (publishGeneration lease prior sealed target).Ensures awaits
      ⟨RowsKept, fun _ => RowsKept, fun _ => RowsKept⟩ w := by
  have hcalled : Publishable lease (w.attemptStart.note (.called (.start lease))) :=
    h.publishable.note rfl rfl
  apply Ensures.bind
  apply Ensures.bind
  refine ensures_perform (fun _ => hcalled.kept) (fun outcome => ?_)
    fun _ => (hcalled.note rfl rfl).kept
  have hreplied : Publishable lease ((w.attemptStart.note (.called (.start lease))).note
      (.replied (.start lease) (.ok outcome))) := hcalled.note rfl rfl
  apply Ensures.bind
  refine ensures_ensure (fun _ => ?_) fun _ => hreplied.kept
  apply Ensures.bind
  have hpublish : RowsKept (((w.attemptStart.note (.called (.start lease))).note
      (.replied (.start lease) (.ok outcome))).note (.called (.publish prior))) :=
    Preceded.snoc hreplied.kept fun _ => ⟨lease, hreplied.admitted, hreplied.complete⟩
  refine ensures_perform (fun _ => hpublish) (fun _ => ?_) fun _ => hpublish.note rfl
  exact RowsKept.indifferent.keeps_observeGeneration lease prior sealed target _ (hpublish.note rfl)

theorem ensures_coordinateAcquired_rows (hfs : fs.StagesInOrder) (plan : Plan)
    (preflight : PriorSelector × PriorLoadedIdentity) (h : RowState lease [] [] w) :
    (coordinateAcquired fs plan lease preflight).Ensures awaits
      ⟨RowsKept, fun _ => RowsKept, fun _ => RowsKept⟩ w := by
  apply Ensures.bind
  refine (ensures_stageGeneration hfs plan preflight h).mono
    (fun _ h => rowsKept_of_calm h.calm) (fun _ _ h => rowsKept_of_calm h.calm)
    fun generation w h => ?_
  apply Ensures.bind
  refine ((Staged.tolerant lease).keeps_sealGeneration lease generation.1).ensures h
    (fun _ h => rowsKept_of_calm h.1.calm) (fun _ _ h => rowsKept_of_calm h.1.calm)
    fun _ w h => ?_
  exact ensures_publishGeneration_rows preflight.1 generation.1 generation.2 h

theorem keeps_concludeCoordination (plan : Plan) (lease : Lease)
    (result : Except DriverError ObservedEvidence) :
    (concludeCoordination plan lease result).Keeps awaits RowsKept := by
  cases result with
  | ok evidence =>
    exact Keeps.bind (keeps_modify fun _ h => h) fun _ => keeps_pure _
  | error error =>
    refine Keeps.bind ?_ fun _ => keeps_throw error
    refine Keeps.bind (fun _ h => h) fun w => ?_
    split
    · refine Keeps.bind (RowsKept.indifferent.keeps_ask rfl) fun reply => ?_
      match reply with
      | .ok true => exact keeps_modify fun _ h => h
      | .ok false => exact keeps_pure _
      | .error _ => exact keeps_pure _
    · exact keeps_pure _

theorem ensures_coordinateAdmitted_rows (hfs : fs.StagesInOrder) (plan : Plan)
    (preflight : PriorSelector × PriorLoadedIdentity) {admission : Admission}
    (h : Preliminary true true w)
    (hadmitted : ∀ lease, admission = .acquired lease → Admitted lease w.history) :
    (coordinateAdmitted fs plan preflight admission).Ensures awaits
      ⟨RowsKept, fun _ => RowsKept, fun _ => RowsKept⟩ w := by
  cases admission with
  | acquired lease =>
    have hrows : readRows lease w.history = [] ∧ recordedRows lease w.history = [] :=
      rows_of_fresh h.fresh
    have hheld : RowState lease [] [] (w.hold lease) :=
      ⟨⟨h.sound, hadmitted lease rfl, by rw [World.hold, h.retained], h.risk, h.calm⟩,
        hrows.1, hrows.2⟩
    have hconclude : ∀ result w, RowsKept w → (concludeCoordination plan lease result).Ensures
        awaits ⟨RowsKept, fun _ => RowsKept, fun _ => RowsKept⟩ w :=
      fun result => keeps_concludeCoordination plan lease result
    apply Ensures.bind
    apply Ensures.bind
    apply ensures_withPublicationHeartbeat
    apply Ensures.bind
    refine ((RowState.tolerant lease [] []).keeps_perform rfl fun _ => rfl).ensures hheld
      (fun w h => ?_) (fun _ w h => ?_) fun _ w h => ?_
    · have hkept := rowsKept_of_calm h.reversible.calm
      exact ⟨hkept, fun error => hconclude _ w hkept⟩
    · exact hconclude _ w (rowsKept_of_calm h.reversible.calm)
    · exact (ensures_coordinateAcquired_rows hfs plan preflight h).mono
        (fun w h => ⟨h, fun error => hconclude _ w h⟩) (fun _ w h => hconclude _ w h)
        fun _ w h => hconclude _ w h
  | replay lease | refused kind => exact rowsKept_of_calm h.calm

theorem keeps_finalize (pending : Pending) : (finalize pending).Keeps awaits RowsKept := by
  have hi := RowsKept.indifferent
  have hconclude : ∀ result, (concludeFinalization pending result).Keeps awaits RowsKept := by
    intro result
    cases result with
    | ok response =>
      exact Keeps.bind (keeps_modify fun _ h => h) fun _ => keeps_pure _
    | error error =>
      refine Keeps.bind (hi.keeps_ask rfl) fun reply => ?_
      match reply with
      | .ok (.completed _ _ _) =>
        exact Keeps.bind (keeps_modify fun _ h => h)
          fun _ => keeps_pure _
      | .ok .absent => exact keeps_throw error
      | .ok .conflict => exact keeps_throw error
      | .ok (.pending _ _) => exact keeps_throw error
      | .ok (.notApplied _) => exact keeps_throw error
      | .error _ => exact keeps_throw error
  have hconfirm : (confirmPublication pending).Keeps awaits RowsKept := by
    refine Keeps.bind (keeps_ensure _ _) fun _ => ?_
    refine Keeps.bind (hi.keeps_perform rfl) fun runtimeIdentity => ?_
    refine Keeps.bind (keeps_ensure _ _) fun _ => ?_
    refine Keeps.bind (hi.keeps_perform rfl) fun selected => ?_
    refine Keeps.bind (keeps_ensure _ _) fun _ => ?_
    exact Keeps.bind (hi.keeps_perform rfl) fun outcome => keeps_ofExcept _
  refine Keeps.bind (fun w h => ?_) hconclude
  apply ensures_withPublicationHeartbeat
  exact (Keeps.bind (hi.keeps_perform rfl) fun _ => hconfirm).ensures h
    (fun _ h => ⟨h, fun _ => h⟩) (fun _ _ h => h) fun _ _ h => h

end staging

/-- A file system that stages in order has every row recorded before it publishes. -/
theorem execute_rowsRecorded {fs : Filesystem} (hfs : fs.StagesInOrder) (plan : Plan)
    (env : Environment Call Reply Interrupt) :
    RowsRecorded (execute fs plan env).2.history := by
  have hpublication : (publication fs plan).Ensures awaits
      ⟨RowsKept, fun _ => RowsKept, fun _ => RowsKept⟩ .initial := by
    apply Ensures.bind
    refine ensures_coordinateRouteSetPublication (fun _ _ _ h => rowsKept_of_calm h.calm)
      (fun _ _ _ _ h => rowsKept_of_calm h.calm) fun preflight admission w h hadmitted => ?_
    exact (ensures_coordinateAdmitted_rows hfs plan preflight h hadmitted).mono (fun _ h => h)
      (fun _ _ h => h) fun pending w h => keeps_finalize pending w h
  have hended := hpublication.run env 0
  have hkept : RowsKept ((publication fs plan).run awaits env 0 .initial).2 := by
    generalize (publication fs plan).run awaits env 0 .initial = ended at hended ⊢
    obtain ⟨outcome, w⟩ := ended
    cases outcome <;> exact hended
  obtain ⟨rest, hhistory, hrest, -⟩ :=
    unwind_history ((publication fs plan).run awaits env 0 .initial).2
  show RowsRecorded ((publication fs plan).run awaits env 0 .initial).2.unwind.history
  rw [hhistory]
  exact Preceded.append hkept fun o ho => isPublish_of_not_isActivity (hrest o ho)

/-- **Cancellation safety.** Against arbitrary ports, and wherever the future is dropped, the
guard, the single publication, the response and the cleanup are as they should be. That every
row of the snapshot was recorded in order before the publication needs a file system that
stages in order, which the local one is. -/
theorem publication_cancellation_safety (plan : Plan) :
    (∀ fs env, Safe (execute fs plan env).1 (execute fs plan env).2.history) ∧
    (∀ fs : Filesystem, fs.StagesInOrder → ∀ env, RowsRecorded (execute fs plan env).2.history) ∧
    ∀ render, (localPublicationFilesystem render).StagesInOrder :=
  ⟨fun fs env => execute_safe fs plan env, fun _ hfs env => execute_rowsRecorded hfs plan env,
    localPublicationFilesystem_stagesInOrder⟩

/-! ## A fleet of two workshops -/

def sampleAdmission : AdmissionRequest :=
  ⟨1, 1, .projection, "key", "digest", 1, "digest", .present⟩

def samplePlan : Plan := ⟨sampleAdmission, 128⟩

def sampleLease : Lease := ⟨7, 1, .present, 2⟩

def sampleIdentity : GenerationIdentity := ⟨1, 7, .projection, 1, "digest", .workshop 1 1⟩

def sampleSealed : SealedGeneration := ⟨"route-7", sampleIdentity, 2, 2, ⟨"generations/7", 1, 2⟩⟩

/-- Every port answers with success. -/
def sampleReply : (request : Call) → request.Reply
  | .readResult _ => .ok .absent
  | .admission _ => .ok (.acquired sampleLease)
  | .renew _ | .quarantine _ => .ok true
  | .readSnapshot _ _ _ => .ok [⟨1, 1, "digest", .present, .null, "digest", true⟩,
      ⟨2, 1, "digest", .present, .null, "digest", false⟩]
  | .recordPrior _ _ _ => .ok .recorded
  | .recordEntry _ _ => .ok .recorded
  | .sealing _ _ => .ok .sealed
  | .start _ => .ok .started
  | .observe _ _ _ => .ok .observed
  | .finish _ _ _ => .ok (.completed ⟨"completed", 1, .null, .null⟩)
  | .filesystemObservePrior => .ok (⟨"generations/6", 1, 1⟩, .startup ⟨5, "digest"⟩)
  | .stageRow _ => .ok "digest"
  | .finishSeal => .ok sampleSealed
  | .filesystemObserveCandidate => .ok (sampleSealed.selector, sampleIdentity)
  | .freezeContext _ => .ok ⟨"odoo", []⟩
  | .runtimeObserveCandidate _ => .ok sampleIdentity
  | .acquire | .retain | .pollHeartbeat | .prepare _ _ _ | .begin _ | .stageWait
  | .beginSeal | .publish _ | .runtimeObservePrior _ | .reload _ => .ok ()

def sampleEnvironment : Environment Call Reply Interrupt :=
  fun _ request => ⟨sampleReply request, none, false⟩

/-- The local file system publishes the two rows after both are recorded. -/
theorem publication_cancellation_safety_local :
    (execute (localPublicationFilesystem fun _ _ _ => some "route") samplePlan
      sampleEnvironment).2.history.any Occurrence.isPublish = true ∧
    RowsRecorded (execute (localPublicationFilesystem fun _ _ _ => some "route") samplePlan
      sampleEnvironment).2.history :=
  ⟨by decide +kernel, (publication_cancellation_safety samplePlan).2.1 _
    ((publication_cancellation_safety samplePlan).2.2 _) sampleEnvironment⟩

/-- A file system that hands only the target's row to the recorder. -/
def targetOnlyFilesystem : Filesystem where
  stageAndSeal lease _ _ := do
    let recorded ← request
      (.record ⟨lease.targetWorkshopId, 1, "digest", .present, some "digest", "digest"⟩)
    ofExcept recorded
    pure sampleSealed

/-- The leases that were admitted. -/
def admittedLeases (history : List Occurrence) : List Lease :=
  history.flatMap fun
    | .replied (.admission _) (.ok (.acquired lease)) => [lease]
    | _ => []

theorem mem_admittedLeases {lease : Lease} {history : List Occurrence}
    (h : Admitted lease history) : lease ∈ admittedLeases history := by
  obtain ⟨request, hmem⟩ := h
  exact List.mem_flatMap.mpr ⟨_, hmem, List.mem_singleton.mpr rfl⟩

/-- What happened before the file system of the example publishes. -/
def targetOnlyHistory : List Occurrence :=
  (execute targetOnlyFilesystem samplePlan sampleEnvironment).2.history.takeWhile
    fun o => !o.isPublish

/-- The coordinator publishes although one of the two rows was never recorded. -/
theorem targetOnly_not_rowsRecorded :
    ¬ RowsRecorded (execute targetOnlyFilesystem samplePlan sampleEnvironment).2.history := by
  intro h
  obtain ⟨lease, hadmitted, hcomplete⟩ := Preceded.takeWhile h (by decide +kernel)
  have hmissing : ∀ lease ∈ admittedLeases targetOnlyHistory,
      recordedRows lease targetOnlyHistory ≠ readRows lease targetOnlyHistory := by
    decide +kernel
  exact hmissing lease (mem_admittedLeases hadmitted) hcomplete.recorded

end ControlPlane.Coordinator
