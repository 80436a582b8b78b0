/-
# What the provider's reports on a mail add up to

The provider reports on a mail several times, in any order and with repetitions. Each
report is recorded once. The outbox row follows the latest occurrence, but the suppression
of the recipient follows the last arrival and the test of an email domain the first one.
So the order matters exactly when two reports suppress, or when two are of a delivery and the
domain is still to be tested with the mail.
-/

import ControlPlane.Mail.Delivery
import Mathlib.Data.List.Sort

namespace ControlPlane.Mail

open Domain Math

inductive SuppressionReason
  | dropped
  | spam
  | mailboxNotFound
  | blocklisted
  deriving DecidableEq

def EventType.suppressionReason : EventType → Option SuppressionReason
  | .dropped => some .dropped
  | .spam => some .spam
  | .mailboxNotFound => some .mailboxNotFound
  | .blocklisted => some .blocklisted
  | _ => none

/-- The columns of an email domain that a report reads or writes. -/
structure TestedDomain where
  testOutboxId : Option Uuid
  workshopId : Uuid
  desiredActive : Bool
  testDeliveredAt : Option Timestamp
  version : Nat

/-- The rows a report touches: its mail, the reports, the suppression of the recipient with
the report it comes from, and any one of the email domains. -/
structure ReportTables where
  row : OutboxRow
  events : Table Uuid EventRow
  suppression : Option (SuppressionReason × Uuid)
  domain : TestedDomain

/-- What is known of a mail, of its recipient and of the domain. -/
structure Standing where
  deliveryState : DeliveryState
  lastEventAt : Option Timestamp
  state : MailState
  suppression : Option (SuppressionReason × Uuid)
  testDeliveredAt : Option Timestamp
  deriving DecidableEq

/-- No later report is known. -/
def MailDeliveryEvent.latest (event : MailDeliveryEvent) (known : Option Timestamp) : Bool :=
  known.all fun last => decide (last ≤ event.createdAt)

/-- What a new report changes, for a domain that is tested with the mail or not. -/
def Standing.report (tested : Bool) (known : Standing) (event : MailDeliveryEvent) : Standing :=
  let latest := event.latest known.lastEventAt
  { deliveryState := if latest then event.eventType.deliveryState else known.deliveryState
    lastEventAt := if latest then some event.createdAt else known.lastEventAt
    state := if latest ∧ known.state = .sending then .sent else known.state
    suppression := event.eventType.suppressionReason.map (·, event.eventId) <|> known.suppression
    testDeliveredAt := if event.eventType = .delivered ∧ tested then
      known.testDeliveredAt <|> some event.createdAt else known.testDeliveredAt }

namespace ReportTables

variable (s : ReportTables) (event : MailDeliveryEvent)

/-- The domain is tested with the mail. -/
def tested : Bool :=
  s.domain.testOutboxId = some s.row.id ∧ s.domain.workshopId = s.row.workshopId ∧
    s.domain.desiredActive

/-- What a new report writes to the suppression and to the domain. -/
def noted : ReportTables :=
  { s with
    suppression := event.eventType.suppressionReason.map (·, event.eventId) <|> s.suppression
    domain :=
      if event.eventType = .delivered ∧ s.tested then
        { s.domain with
          testDeliveredAt := s.domain.testDeliveredAt <|> some event.createdAt
          version := s.domain.version + 1 }
      else s.domain }

/-- `record_transactional_outbox_delivery_event` with all that it writes. -/
def record (now : Timestamp) : ReportTables :=
  let recorded := recordTransactionalOutboxDeliveryEvent s.row s.events now event
  { (if recorded.2.2 = .created then s.noted event else s) with
    row := recorded.1
    events := recorded.2.1 }

/-- Reports in the order of their arrival, each with the time of it. -/
def recordAll (arrivals : List (MailDeliveryEvent × Timestamp)) : ReportTables :=
  arrivals.foldl (fun s arrival => s.record arrival.1 arrival.2) s

def standing : Standing :=
  ⟨s.row.deliveryState, s.row.lastEventAt, s.row.state, s.suppression, s.domain.testDeliveredAt⟩

/-- All reports on a mail: none of them is recorded, the row is open to them, they name the
same message and differ in their ids and times. -/
structure Reports (events : List MailDeliveryEvent) : Prop where
  accepted : ∀ event ∈ events, s.row.matchesEvent event = true
  fresh : ∀ event ∈ events, s.events.lookup event.eventId = none
  same : ∀ event ∈ events, ∀ other ∈ events,
    event.emailId = other.emailId ∧ event.domainId = other.domainId
  ids : (events.map (·.eventId)).Nodup
  times : (events.map (·.createdAt)).Nodup

/-- The domain is tested with the mail, and no delivery is known of it. -/
def awaited : Bool := s.tested && s.domain.testDeliveredAt.isNone

/-- Not both reports suppress the recipient, and not both are of a delivery that the domain
waits for. -/
def Independent (other : MailDeliveryEvent) : Prop :=
  (event.eventType.suppressionReason = none ∨ other.eventType.suppressionReason = none) ∧
    (s.awaited = true → event.eventType ≠ .delivered ∨ other.eventType ≠ .delivered)

/-- The reports in the order of their occurrence. -/
def inOrder (events : List MailDeliveryEvent) : List MailDeliveryEvent :=
  events.insertionSort fun event other => event.createdAt ≤ other.createdAt

/-- In whatever order and how often the reports arrive, this is known in the end. -/
def Leaves (events : List MailDeliveryEvent) (known : Standing) : Prop :=
  ∀ arrivals : List (MailDeliveryEvent × Timestamp),
    (∀ event, event ∈ arrivals.map Prod.fst ↔ event ∈ events) →
      (s.recordAll arrivals).standing = known

/-- The tables after the reports `seen`, in this order and without repetitions. -/
structure After (events seen : List MailDeliveryEvent) (t : ReportTables) : Prop where
  nodup : seen.Nodup
  among : ∀ event ∈ seen, event ∈ events
  accepted : ∀ event ∈ events, t.row.matchesEvent event = true
  mail : t.row.id = s.row.id ∧ t.row.workshopId = s.row.workshopId
  recorded : ∀ event ∈ seen, t.events.lookup event.eventId = some (event.row s.row)
  others : ∀ id, (∀ event ∈ seen, event.eventId ≠ id) → t.events.lookup id = s.events.lookup id
  tested : t.tested = s.tested
  standing : t.standing = seen.foldl (Standing.report s.tested) s.standing

variable {s event} {t : ReportTables} {events seen : List MailDeliveryEvent}

theorem report_comm {other : MailDeliveryEvent} (htime : event.createdAt ≠ other.createdAt)
    (h : s.Independent event other) (known : Standing) :
    (known.report s.awaited event).report s.awaited other =
      (known.report s.awaited other).report s.awaited event := by
  obtain ⟨delivery, last, state, suppression, deliveredAt⟩ := known
  obtain ⟨hsuppress, hdelivered⟩ := h
  simp only [Standing.report, MailDeliveryEvent.latest, Standing.mk.injEq]
  refine ⟨?_, ?_, ?_, ?_, ?_⟩
  · cases last <;> grind
  · cases last <;> grind
  · cases last <;> grind
  · rcases hsuppress with hnone | hnone
    · simp [hnone]
    · simp [hnone]
  · grind

variable {known : Standing}

/-- A delivery that is known is not replaced, so the reports read like those on a mail that
tests nothing. -/
theorem foldl_report_of_known (h : known.testDeliveredAt.isSome = true)
    (tested : Bool) : seen.foldl (Standing.report tested) known =
      seen.foldl (Standing.report false) known := by
  induction seen generalizing known with
  | nil => rfl
  | cons event seen ih =>
    obtain ⟨time, htime⟩ := Option.isSome_iff_exists.mp h
    have hreport : known.report tested event = known.report false event := by
      simp [Standing.report, htime]
    rw [List.foldl_cons, List.foldl_cons, hreport]
    exact ih (by simpa [Standing.report] using h)

theorem foldl_report_awaited (s : ReportTables) (seen : List MailDeliveryEvent) :
    seen.foldl (Standing.report s.tested) s.standing =
      seen.foldl (Standing.report s.awaited) s.standing := by
  cases hknown : s.domain.testDeliveredAt with
  | none => simp [awaited, hknown]
  | some time =>
    have hdelivered : s.standing.testDeliveredAt.isSome = true := by simp [standing, hknown]
    simp [awaited, hknown, foldl_report_of_known hdelivered]

theorem record_of_recorded (hmatches : t.row.matchesEvent event = true)
    (hlookup : t.events.lookup event.eventId = some (event.row t.row)) (now : Timestamp) :
    t.record event now = t := by
  simp [record, recordTransactionalOutboxDeliveryEvent, hmatches, hlookup]

theorem record_of_fresh (hmatches : t.row.matchesEvent event = true)
    (hlookup : t.events.lookup event.eventId = none) (now : Timestamp) :
    t.record event now = { t.noted event with
      row := if event.latest t.row.lastEventAt then t.row.withEvent event now else t.row
      events := t.events.insert event.eventId (event.row t.row) } := by
  rw [record, recordTransactionalOutboxDeliveryEvent, if_pos hmatches, hlookup]
  rfl

/-- A row stays open to the reports that name the same message. -/
theorem matchesEvent_withEvent {row : OutboxRow} {other : MailDeliveryEvent}
    (hsame : event.emailId = other.emailId ∧ event.domainId = other.domainId)
    (h : row.matchesEvent other = true) (now : Timestamp) :
    (row.withEvent event now).matchesEvent other = true := by
  simp only [OutboxRow.matchesEvent, OutboxRow.withEvent, Bool.and_eq_true] at h ⊢
  obtain ⟨⟨hkind, hmessage⟩, hdomain⟩ := h
  refine ⟨⟨hkind, ?_⟩, ?_⟩
  · cases hknown : row.providerMessageId with
    | none => simpa using hsame.1
    | some id => simpa [hknown] using hmessage
  · cases hknown : row.providerDomainId with
    | none => simpa using hsame.2
    | some id => simpa [hknown] using hdomain

/-- A report that is not recorded yet changes what is known by what it says. -/
theorem standing_record (hmatches : t.row.matchesEvent event = true)
    (hlookup : t.events.lookup event.eventId = none) (now : Timestamp) :
    (t.record event now).standing = t.standing.report t.tested event := by
  rw [record_of_fresh hmatches hlookup]
  by_cases hlatest : event.latest t.row.lastEventAt = true <;>
    by_cases htested : event.eventType = .delivered ∧ t.tested = true <;>
      simp [standing, noted, Standing.report, OutboxRow.withEvent, hlatest, htested]

theorem After.record (hreports : s.Reports events) (h : s.After events seen t)
    (hevent : event ∈ events) (now : Timestamp) :
    ∃ after, s.After events after (t.record event now) ∧
      ∀ other, other ∈ after ↔ other ∈ seen ∨ other = event := by
  have hmatches := h.accepted event hevent
  have hrow : event.row t.row = event.row s.row := by
    simp only [MailDeliveryEvent.row, h.mail]
  by_cases hmem : event ∈ seen
  · rw [record_of_recorded hmatches (hrow ▸ h.recorded event hmem)]
    exact ⟨seen, h, fun other => ⟨Or.inl, fun hother => hother.elim id fun heq => heq ▸ hmem⟩⟩
  have hunused : ∀ other ∈ seen, other.eventId ≠ event.eventId := fun other hother heq =>
    hmem (List.inj_on_of_nodup_map hreports.ids (h.among other hother) hevent heq ▸ hother)
  have hlookup := (h.others _ hunused).trans (hreports.fresh event hevent)
  have hstanding := standing_record hmatches hlookup now
  rw [record_of_fresh hmatches hlookup] at hstanding ⊢
  refine ⟨seen ++ [event], ⟨?_, ?_, ?_, ?_, ?_, ?_, ?_, ?_⟩, by simp⟩
  · exact List.nodup_append_comm.mp (List.nodup_cons.mpr ⟨hmem, h.nodup⟩)
  · simpa [or_imp, forall_and] using ⟨h.among, hevent⟩
  · intro other hother
    dsimp only
    split
    · exact matchesEvent_withEvent (hreports.same event hevent other hother)
        (h.accepted other hother) now
    · exact h.accepted other hother
  · dsimp only
    split <;> exact h.mail
  · intro other hother
    rcases List.mem_append.mp hother with hother | hother
    · exact (AList.lookup_insert_ne (hunused other hother)).trans (h.recorded other hother)
    · obtain rfl := List.mem_singleton.mp hother
      rw [AList.lookup_insert, hrow]
  · intro id hothers
    have hne := hothers event (List.mem_append_right _ (List.mem_singleton_self _))
    exact (AList.lookup_insert_ne hne.symm).trans
      (h.others id fun other hother => hothers other (List.mem_append_left _ hother))
  · rw [← h.tested]
    unfold ReportTables.tested noted
    dsimp only
    split <;> split <;> rfl
  · rw [List.foldl_append, ← h.standing, ← h.tested]
    exact hstanding

/-- What a list of arrivals leaves is what its reports tell, each taken once. -/
theorem After.recordAll (hreports : s.Reports events)
    {arrivals : List (MailDeliveryEvent × Timestamp)} (h : s.After events seen t)
    (harrivals : ∀ arrival ∈ arrivals, arrival.1 ∈ events) :
    ∃ after, s.After events after (t.recordAll arrivals) ∧
      ∀ event, event ∈ after ↔ event ∈ seen ∨ event ∈ arrivals.map Prod.fst := by
  induction arrivals generalizing seen t with
  | nil => exact ⟨seen, h, by simp⟩
  | cons arrival arrivals ih =>
    obtain ⟨hfirst, hrest⟩ := List.forall_mem_cons.mp harrivals
    obtain ⟨next, hnext, hmem⟩ := h.record hreports hfirst arrival.2
    obtain ⟨after, hafter, hall⟩ := ih hnext hrest
    refine ⟨after, hafter, fun event => ?_⟩
    rw [hall, hmem, List.map_cons, List.mem_cons, or_assoc]

theorem After.start (hreports : s.Reports events) : s.After events [] s :=
  ⟨.nil, nofun, hreports.accepted, ⟨rfl, rfl⟩, nofun, fun _ _ => rfl, rfl, rfl⟩

/-- A mail that is on its way, with a domain that is tested by it. -/
def testMail : ReportTables where
  row := ⟨1, 2, .odooTransactional, .sending, 1, 0, none, .submitted, none, none, none⟩
  events := ∅
  suppression := none
  domain := ⟨some 1, 2, true, none, 0⟩

def occurred (time : Timestamp) (type : EventType) : MailDeliveryEvent :=
  ⟨BitVec.ofNat 128 time, 3, 4, 5, type, time⟩

theorem testMail_reports (first second : EventType) :
    testMail.Reports [occurred 1 first, occurred 2 second] where
  accepted := by simp [testMail, OutboxRow.matchesEvent]
  fresh _ _ := rfl
  same := by simp [occurred]
  ids := by simp [occurred]
  times := by simp [occurred]

/-- Two reports that suppress, and two of a delivery, leave what the order of their arrival
makes of them. -/
theorem standing_of_two_arrivals :
    (∀ first second, testMail.Reports [occurred 1 first, occurred 2 second]) ∧
    (testMail.recordAll [(occurred 1 .dropped, 8), (occurred 2 .spam, 9)]).standing.suppression =
      some (.spam, 2) ∧
    (testMail.recordAll [(occurred 2 .spam, 8), (occurred 1 .dropped, 9)]).standing.suppression =
      some (.dropped, 1) ∧
    (testMail.recordAll [(occurred 1 .delivered, 8),
      (occurred 2 .delivered, 9)]).standing.testDeliveredAt = some 1 ∧
    (testMail.recordAll [(occurred 2 .delivered, 8),
      (occurred 1 .delivered, 9)]).standing.testDeliveredAt = some 2 :=
  ⟨testMail_reports, by decide, by decide, by decide, by decide⟩

/-- The last arrival decides on the suppression, and each report can be the last. -/
theorem Leaves.suppression (h : s.Leaves events known)
    (hreports : s.Reports events) (hevent : event ∈ events) {reason : SuppressionReason}
    (hreason : event.eventType.suppressionReason = some reason) :
    known.suppression = some (reason, event.eventId) := by
  obtain ⟨others, hothers⟩ : ∃ others : List (MailDeliveryEvent × Timestamp),
      others = (events.filter (· ≠ event)).map (·, 0) := ⟨_, rfl⟩
  have hmem : ∀ other, other ∈ others.map Prod.fst ↔ other ∈ events ∧ other ≠ event := by
    simp [hothers]
  obtain ⟨seen, hseen, hseen_mem⟩ := (After.start hreports).recordAll hreports
    fun arrival harrival => ((hmem arrival.1).mp (List.mem_map_of_mem harrival)).1
  have hlookup : (s.recordAll others).events.lookup event.eventId = none := by
    refine (hseen.others _ fun other hother heq => ?_).trans (hreports.fresh event hevent)
    obtain ⟨hother, hne⟩ := (hmem other).mp
      (((hseen_mem other).mp hother).resolve_left List.not_mem_nil)
    exact hne (List.inj_on_of_nodup_map hreports.ids hother hevent heq)
  have hall := h (others ++ [(event, 0)]) fun other => by
    rw [List.map_append, List.mem_append, hmem]
    by_cases heq : other = event <;> simp [heq, hevent]
  have hlast : ((s.recordAll others).record event 0).standing.suppression =
      some (reason, event.eventId) := by
    rw [standing_record (hseen.accepted event hevent) hlookup]
    simp [Standing.report, hreason]
  rw [← hall, recordAll, List.foldl_append]
  exact hlast

theorem testDeliveredAt_recordAll {time : Timestamp} (h : t.domain.testDeliveredAt = some time)
    (arrivals : List (MailDeliveryEvent × Timestamp)) :
    (t.recordAll arrivals).domain.testDeliveredAt = some time := by
  induction arrivals generalizing t with
  | nil => exact h
  | cons arrival arrivals ih =>
    refine ih ?_
    unfold ReportTables.record noted
    grind

/-- The first arrival decides on the test of a domain that waits for it, and each report can
be the first. -/
theorem Leaves.testDeliveredAt (h : s.Leaves events known)
    (hreports : s.Reports events) (hevent : event ∈ events) (hawaited : s.awaited = true)
    (hdelivered : event.eventType = .delivered) :
    known.testDeliveredAt = some event.createdAt := by
  have hall := h ((event, 0) :: events.map (·, 0)) fun other => by
    by_cases heq : other = event <;> simp [heq, hevent]
  rw [awaited, Bool.and_eq_true, Option.isNone_iff_eq_none] at hawaited
  have hfirst : (s.record event 0).standing.testDeliveredAt = some event.createdAt := by
    rw [standing_record (hreports.accepted event hevent) (hreports.fresh event hevent)]
    simp [Standing.report, standing, hawaited, hdelivered]
  rw [← hall]
  exact testDeliveredAt_recordAll hfirst _

theorem Leaves.independent (h : s.Leaves events known)
    (hreports : s.Reports events) : events.Pairwise s.Independent := by
  have hnodup : events.Nodup := hreports.ids.of_map
  refine hnodup.pairwise_of_forall_ne fun event hevent other hother hne => ⟨?_, fun hawaited => ?_⟩
  · by_contra hboth
    push Not at hboth
    obtain ⟨reason, hreason⟩ := Option.ne_none_iff_exists'.mp hboth.1
    obtain ⟨reason', hreason'⟩ := Option.ne_none_iff_exists'.mp hboth.2
    have hsame := (h.suppression hreports hevent hreason).symm.trans
      (h.suppression hreports hother hreason')
    injection hsame with hsame
    exact hne (List.inj_on_of_nodup_map hreports.ids hevent hother (Prod.mk.inj hsame).2)
  · by_contra hboth
    push Not at hboth
    have hsame := (h.testDeliveredAt hreports hevent hawaited hboth.1).symm.trans
      (h.testDeliveredAt hreports hother hawaited hboth.2)
    exact hne (List.inj_on_of_nodup_map hreports.times hevent hother (Option.some.inj hsame))

/-- What the reports leave is what they tell in the order of their occurrence, exactly when
any two of them are independent. -/
theorem standing_of_arrivals (hreports : s.Reports events) :
    s.Leaves events ((inOrder events).foldl (Standing.report s.tested) s.standing) ↔
      events.Pairwise s.Independent := by
  refine ⟨fun h => h.independent hreports, fun honce arrivals harrivals => ?_⟩
  obtain ⟨seen, hseen, hmem⟩ := (After.start hreports).recordAll hreports
    fun arrival harrival => (harrivals arrival.1).mp (List.mem_map_of_mem harrival)
  have hperm : seen.Perm (inOrder events) := by
    refine ((List.perm_ext_iff_of_nodup hseen.nodup hreports.ids.of_map).mpr fun event => ?_).trans
      (List.perm_insertionSort _ _).symm
    rw [hmem, harrivals]
    simp
  rw [hseen.standing, foldl_report_awaited, foldl_report_awaited]
  refine hperm.foldl_eq' (fun event hevent other hother known => ?_) s.standing
  by_cases heq : event = other
  · rw [heq]
  · have htime : event.createdAt ≠ other.createdAt := fun htime => heq
      (List.inj_on_of_nodup_map hreports.times (hseen.among event hevent)
        (hseen.among other hother) htime)
    have : Std.Symm s.Independent := ⟨fun _ _ h => ⟨h.1.symm, fun hawaited => (h.2 hawaited).symm⟩⟩
    exact report_comm htime
      (honce.forall (hseen.among event hevent) (hseen.among other hother) heq) known

theorem standing_of_late_delivery :
    (testMail.recordAll [(occurred 2 .spam, 7), (occurred 1 .delivered, 8),
      (occurred 2 .spam, 9)]).standing =
    ⟨.complained, some 2, .sent, some (.spam, 2), some 1⟩ :=
  ((standing_of_arrivals (testMail_reports .delivered .spam)).mpr
    (by simp [Independent, occurred]; decide) _ (by simp)).trans (by decide)

/-! ## The outbox row -/

/-- What is known follows the report: its columns are stored, and the mail has left. -/
def Follows (latest : MailDeliveryEvent) (known : Standing) : Prop :=
  known.lastEventAt = some latest.createdAt ∧
    known.deliveryState = latest.eventType.deliveryState ∧ known.state ≠ .sending

theorem foldl_report_follows {latest : MailDeliveryEvent} {tested : Bool}
    (hlatest : ∀ event ∈ seen, event = latest ∨ event.createdAt < latest.createdAt)
    (h : latest ∈ seen ∧ latest.latest known.lastEventAt = true ∨ Follows latest known) :
    Follows latest (seen.foldl (Standing.report tested) known) := by
  induction seen generalizing known with
  | nil => simpa using h
  | cons event seen ih =>
    obtain ⟨hfirst, hrest⟩ := List.forall_mem_cons.mp hlatest
    refine ih hrest ?_
    have hold : latest.latest known.lastEventAt = true :=
      h.elim And.right fun hfollows => by simp [MailDeliveryEvent.latest, hfollows.1]
    rcases hfirst with rfl | hearlier
    · -- The latest report itself is always written.
      refine Or.inr ⟨?_, ?_, ?_⟩ <;> grind [Standing.report]
    · rcases h with ⟨hmem, -⟩ | hfollows
      · have hne : latest ≠ event := fun heq => absurd (heq ▸ hearlier) (lt_irrefl _)
        refine Or.inl ⟨(List.mem_cons.mp hmem).resolve_left hne, ?_⟩
        simp only [Standing.report]
        split
        · simpa [MailDeliveryEvent.latest] using hearlier.le
        · exact hold
      · -- An earlier one is not.
        have hskip : event.latest known.lastEventAt = false := by
          simpa [MailDeliveryEvent.latest, hfollows.1] using hearlier
        exact Or.inr (by simpa [Follows, Standing.report, hskip] using hfollows)

/-- In whatever order and how often the reports arrive, and also where they are not
independent, the outbox row ends at the report of the latest occurrence. -/
theorem outbox_follows_latest (hreports : s.Reports events)
    {arrivals : List (MailDeliveryEvent × Timestamp)}
    (harrivals : ∀ event, event ∈ arrivals.map Prod.fst ↔ event ∈ events)
    {latest : MailDeliveryEvent} (hmem : latest ∈ events)
    (hlatest : ∀ event ∈ events, event.createdAt ≤ latest.createdAt)
    (hnew : latest.latest s.row.lastEventAt = true) :
    Follows latest (s.recordAll arrivals).standing := by
  obtain ⟨seen, hseen, hseen_mem⟩ := (After.start hreports).recordAll hreports
    fun arrival harrival => (harrivals arrival.1).mp (List.mem_map_of_mem harrival)
  rw [hseen.standing]
  refine foldl_report_follows (fun event hevent => ?_) (Or.inl ⟨?_, hnew⟩)
  · have hevent := hseen.among event hevent
    rcases (hlatest event hevent).eq_or_lt with heq | hlt
    · exact Or.inl (List.inj_on_of_nodup_map hreports.times hevent hmem heq)
    · exact Or.inr hlt
  · exact (hseen_mem latest).mpr (Or.inr ((harrivals latest).mpr hmem))

theorem outbox_follows_latest_spam : Follows (occurred 2 .spam)
    (testMail.recordAll [(occurred 2 .spam, 8), (occurred 1 .dropped, 9)]).standing :=
  outbox_follows_latest (testMail_reports .dropped .spam) (by simp [or_comm])
    (List.mem_cons_of_mem _ (List.mem_singleton_self _)) (by simp [occurred]) rfl

end ReportTables

end ControlPlane.Mail
