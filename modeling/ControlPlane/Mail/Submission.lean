/-
# At most one accepted submission

An attempt that has claimed the row is busy until its transactional end, and so is a
request the gateway is still serving. Never are two of them busy at once, and none is
while the row can be claimed: that is the fence against a second submission. It breaks
in one place. The gateway reports an acceptance it could not read as a bad gateway, the
attempt takes that for a failure and puts the row back, and the mail is sent again.
When every acceptance is either read or timed out, the fence holds in every run.
-/

import ControlPlane.Mail.Delivery
import ControlPlane.Math.Transition

namespace ControlPlane.Mail

open Domain Math Table Persistence Worker

/-! ## What a step can do -/

/-- The steps an attempt takes from one stage to the next, with the row they leave. -/
inductive Goes (s : Delivery) (n : Nat) (handle : LeasedOperation) :
    DeliveryStep → Stage → Delivery → Prop
  | own (fault : Fault) : Goes s n handle (.own n fault) .leased (s.own n handle fault)
  | select (domain : Option Uuid) (fault : Fault) :
      Goes s n handle (.select n domain fault) .owned (s.select n handle domain fault)
  | prepareFails (domain : Option Uuid) : Goes s n handle (.prepareFails n) (.selected domain)
        (s.moveTo n handle (.returned (.error .contractDrift)))
  | claim (domain : Option Uuid) (fault : Fault) :
      Goes s n handle (.claim n fault) (.selected domain) (s.claim n handle domain fault)
  | connectFails (domain : Option Uuid) :
      Goes s n handle (.connectFails n) (.claimed domain) (s.moveTo n handle .unreachable)
  | defer (fault : Fault) : Goes s n handle (.defer n fault) .unreachable (s.defer n handle fault)
  | post (domain : Option Uuid) : Goes s n handle (.post n) (.claimed domain)
        { s.moveTo n handle (.calling domain) with
          requests := s.requests.insert n (.received domain) }
  | hear (domain : Option Uuid) (answer : GatewayAnswer) (body : ReplyBody)
      (hrequest : s.requests.lookup n = some (.answered answer)) :
      Goes s n handle (.hear n body) (.calling domain)
        (s.moveTo n handle (heard domain answer body))
  | loseAnswer (domain : Option Uuid) : Goes s n handle (.loseAnswer n) (.calling domain)
        (s.moveTo n handle (.returned (.error .unknownOutcome)))
  | recordRefusal (error : IntegrationError) (begun : Bool) (fault : Fault) :
      Goes s n handle (.recordRefusal n begun fault) (.refused error)
        (s.recordRefusal n handle error begun fault)
  | markSent (message domain : Uuid) (fault : Fault) :
      Goes s n handle (.markSent n fault) (.answered message domain)
        (s.markSent n handle message domain fault)
  | finish (result : Except IntegrationError Unit) (fault : Fault) :
      Goes s n handle (.finish n fault) (.returned result) (s.finish n handle result fault)

/-- Everything one step of the system can do. -/
inductive Taken (s : Delivery) : DeliveryStep → Delivery → Prop
  | lease (worker : String) (hdue : s.operation.leasable s.now .emailDelivery = true)
      (hroom : s.operation.attempt < integerMax) :
      Taken s (.lease worker) { s with
        operation := s.operation.leaseTo s.now worker
        attempts := s.attempts.insert (s.operation.attempt + 1)
          ⟨s.operation.handle s.row.id worker, .leased⟩ }
  | renew (n : Nat) (running : Attempt) (hrunning : s.attempts.lookup n = some running)
      (hheld : s.operation.heldBy s.now running.handle.leasedBy running.handle.attempt = true) :
      Taken s (.renew n) { s with operation := s.operation.renewed s.now }
  | goes (n : Nat) (running : Attempt) (hrunning : s.attempts.lookup n = some running)
      {event : DeliveryStep} {t : Delivery}
      (hgoes : Goes s n running.handle event running.stage t) :
      Taken s event t
  | crash (n : Nat) : Taken s (.crash n) { s with attempts := s.attempts.erase n }
  | refuse (n : Nat) (status : Nat) (domain : Option Uuid)
      (hrequest : s.requests.lookup n = some (.received domain))
      (hstatus : status ∈ gatewayRefusals) :
      Taken s (.refuse n status)
        { s with requests := s.requests.insert n (.answered ⟨status, none⟩) }
  | submit (n : Nat) (message : Uuid) (accepted : Bool) (answer : ProviderAnswer)
      (domain : Option Uuid) (hrequest : s.requests.lookup n = some (.received domain))
      (hconsistent : answer.consistent accepted = true) :
      Taken s (.submit n message accepted answer) (s.submit n domain message accepted answer)
  | gatewayCrash (n : Nat) (domain : Option Uuid)
      (hrequest : s.requests.lookup n = some (.received domain)) :
      Taken s (.gatewayCrash n) { s with requests := s.requests.insert n .abandoned }
  | event (event : MailDeliveryEvent) (haccepted : event.emailId ∈ s.accepted) :
      Taken s (.event event) (s.mailDeliveryEvent event)
  | foreignEvent (eventId : Uuid) (row : EventRow) (hother : row.outboxId ≠ s.row.id)
      (hfresh : s.events.lookup eventId = none) :
      Taken s (.foreignEvent eventId row) { s with events := s.events.insert eventId row }
  | lapse : Taken s .lapse { s with invitationLive := false }
  | advance (elapsed : Nat) : Taken s (.advance elapsed) { s with now := s.now + elapsed }

namespace Delivery

variable {s t : Delivery} {event : DeliveryStep} {n : Nat}

theorem attemptStep_eq_some {next : LeasedOperation → Stage → Option Delivery}
    (h : s.attemptStep n next = some t) :
    ∃ running, s.attempts.lookup n = some running ∧
      next running.handle running.stage = some t := by
  unfold attemptStep at h
  cases hrunning : s.attempts.lookup n with
  | none => simp [hrunning] at h
  | some running => exact ⟨running, rfl, by simpa [hrunning] using h⟩

theorem taken_of_attemptStep {next : LeasedOperation → Stage → Option Delivery}
    (h : s.attemptStep n next = some t)
    (hgoes : ∀ handle stage, next handle stage = some t → Goes s n handle event stage t) :
    Taken s event t := by
  obtain ⟨running, hrunning, hnext⟩ := attemptStep_eq_some h
  exact .goes n running hrunning (hgoes _ _ hnext)

theorem taken_of_step (h : s.step event = some t) : Taken s event t := by
  cases event with
  | lease worker =>
    simp only [step] at h
    split at h
    · rename_i hguard
      cases h
      exact .lease worker hguard.1 hguard.2
    · cases h
  | renew n =>
    simp only [step] at h
    obtain ⟨running, hrunning, hnext⟩ := attemptStep_eq_some h
    split at hnext
    · rename_i hheld
      cases hnext
      exact .renew n running hrunning hheld
    · cases hnext
  | own n fault | select n domain fault | prepareFails n | claim n fault | connectFails n
  | defer n fault | post n | loseAnswer n | recordRefusal n begun fault | markSent n fault
  | finish n fault =>
    simp only [step] at h
    refine taken_of_attemptStep h fun handle stage hnext => ?_
    cases stage <;> cases hnext
    constructor
  | refuse n status =>
    simp only [step] at h
    split at h
    · rename_i domain hrequest
      split at h
      · rename_i hstatus
        cases h
        exact .refuse n status domain hrequest hstatus
      · cases h
    · cases h
  | submit n message accepted answer =>
    simp only [step] at h
    split at h
    · rename_i domain hrequest
      split at h
      · rename_i hconsistent
        cases h
        exact .submit n message accepted answer domain hrequest hconsistent
      · cases h
    · cases h
  | gatewayCrash n =>
    simp only [step] at h
    split at h
    · rename_i domain hrequest
      cases h
      exact .gatewayCrash n domain hrequest
    · cases h
  | hear n body =>
    simp only [step] at h
    refine taken_of_attemptStep h fun handle stage hnext => ?_
    split at hnext
    · rename_i domain answer hrequest
      cases hnext
      exact .hear domain answer body hrequest
    · cases hnext
  | crash n =>
    simp only [step] at h
    obtain ⟨running, hrunning, hnext⟩ := attemptStep_eq_some h
    cases hnext
    exact .crash n
  | event event =>
    simp only [step] at h
    split at h
    · rename_i haccepted
      cases h
      exact .event event haccepted
    · cases h
  | foreignEvent eventId row =>
    simp only [step] at h
    split at h
    · rename_i hguard
      cases h
      exact .foreignEvent eventId row hguard.1 hguard.2
    · cases h
  | lapse =>
    cases h
    exact .lapse
  | advance elapsed =>
    cases h
    exact .advance elapsed

end Delivery

/-! ## The fence -/

/-- The stages between the claim and the write that ends it. -/
def Stage.busy : Stage → Bool
  | .claimed _ | .calling _ | .unreachable | .refused _ | .answered _ _ => true
  | _ => false

/-- The stages an attempt can be at while the gateway serves its request. -/
def Stage.posted : Stage → Bool
  | .calling _ | .returned _ => true
  | _ => false

namespace Delivery

/-- Attempt `n` can still write the row, or its request can still reach the provider. -/
def Live (s : Delivery) (n : Nat) : Prop :=
  (∃ running, s.attempts.lookup n = some running ∧ running.stage.busy = true) ∨
    ∃ domain, s.requests.lookup n = some (.received domain)

/-- The answers that do not make an attempt put the row back. -/
def Harmless (requests : Table Nat Request) (n : Nat) : Prop :=
  ∀ answer, requests.lookup n = some (.answered answer) →
    answer.status = 504 ∨ isSuccess answer.status = true

/-- The stages an attempt may be at once the mail was accepted. -/
def Settled (requests : Table Nat Request) (n : Nat) : Stage → Prop
  | .claimed _ | .unreachable | .refused _ => False
  | .calling _ => Harmless requests n
  | _ => True

/-- The fence, with what is known of a mail that was accepted. -/
structure Sound (s : Delivery) : Prop where
  attempt_le : ∀ n running, s.attempts.lookup n = some running →
    running.handle.attempt = n ∧ n ≤ s.operation.attempt
  request_le : ∀ n request, s.requests.lookup n = some request → n ≤ s.operation.attempt
  posted : ∀ n running domain, s.attempts.lookup n = some running →
    s.requests.lookup n = some (.received domain) → running.stage.posted = true
  alone : ∀ n m, s.Live n → s.Live m → n = m
  idle : s.row.state.selectable = true → s.accepted = [] ∧ ∀ n, ¬ s.Live n
  sending : ∀ n, s.Live n → s.accepted = [] → s.row.state = .sending
  once : s.accepted.length ≤ 1
  row_of_accepted : s.accepted ≠ [] → s.row.state = .sending ∨ s.row.state = .sent
  request_of_accepted : s.accepted ≠ [] → ∀ n domain, s.requests.lookup n ≠ some (.received domain)
  attempt_of_accepted : s.accepted ≠ [] →
    ∀ n running, s.attempts.lookup n = some running → Settled s.requests n running.stage

variable {s t : Delivery} {event : DeliveryStep} {n m : Nat} {running : Attempt}
  {handle : LeasedOperation} {stage : Stage}

theorem live_of_busy (hrunning : s.attempts.lookup n = some running)
    (hbusy : running.stage.busy = true) : s.Live n :=
  Or.inl ⟨running, hrunning, hbusy⟩

theorem settled_of_not_busy (hbusy : stage.busy = false) (requests : Table Nat Request) (n : Nat) :
    Settled requests n stage := by
  cases stage with
  | leased | owned | selected _ | answered _ _ | returned _ => exact trivial
  | claimed _ | calling _ | unreachable | refused _ => cases hbusy

theorem sound_initial (kind : MailKind) (outbox workshop gatewayDomain : Uuid) (payload : Json)
    (now : Timestamp) : (initial kind outbox workshop gatewayDomain payload now).Sound where
  attempt_le _ _ h := nomatch h
  request_le _ _ h := nomatch h
  posted _ _ _ h := nomatch h
  alone n m h := by
    rcases h with ⟨_, h, _⟩ | ⟨_, h⟩ <;> cases h
  idle _ := by
    refine ⟨rfl, fun n h => ?_⟩
    rcases h with ⟨_, h, _⟩ | ⟨_, h⟩ <;> cases h
  sending n h := by
    rcases h with ⟨_, h, _⟩ | ⟨_, h⟩ <;> cases h
  once := Nat.zero_le 1
  row_of_accepted h := absurd rfl h
  request_of_accepted h := absurd rfl h
  attempt_of_accepted h := absurd rfl h

/-- What is live after an attempt has moved was live before, unless the move made it busy. -/
theorem live_of_moveTo (h : (s.moveTo n handle stage).Live m) :
    s.Live m ∨ m = n ∧ stage.busy = true := by
  rcases h with ⟨running, hrunning, hbusy⟩ | hrequest
  · rcases lookup_insert_cases hrunning with ⟨rfl, rfl⟩ | ⟨_, hold⟩
    · exact Or.inr ⟨rfl, hbusy⟩
    · exact Or.inl (Or.inl ⟨running, hold, hbusy⟩)
  · exact Or.inl (Or.inr hrequest)

/-- After an attempt has moved to a stage that is not busy, it is live only by a request
that the gateway still serves. -/
theorem live_of_moveTo_idle (hidle : stage.busy = false) (h : (s.moveTo n handle stage).Live m) :
    s.Live m ∧ (m = n → ∃ domain, s.requests.lookup n = some (.received domain)) := by
  refine ⟨(live_of_moveTo h).resolve_right fun hn => by simp [hidle] at hn, ?_⟩
  rintro rfl
  rcases h with ⟨running, hrunning, hbusy⟩ | hrequest
  · rw [show (s.moveTo m handle stage).attempts.lookup m = some ⟨handle, stage⟩ from
      AList.lookup_insert _] at hrunning
    cases hrunning
    rw [hidle] at hbusy
    cases hbusy
  · exact hrequest

namespace Sound

/-- The row may be written when the state it gets fits what is known. -/
theorem write (h : s.Sound) (row : OutboxRow)
    (hidle : row.state.selectable = true → s.accepted = [] ∧ ∀ n, ¬ s.Live n)
    (hsending : ∀ n, s.Live n → s.accepted = [] → row.state = .sending)
    (haccepted : s.accepted ≠ [] → row.state = .sending ∨ row.state = .sent) :
    { s with row := row }.Sound :=
  { h with idle := hidle, sending := hsending, row_of_accepted := haccepted }

/-- A state that no attempt is live in may be written freely while nothing is accepted. -/
theorem write_of_quiet (h : s.Sound) (hquiet : ∀ n, ¬ s.Live n) (hnone : s.accepted = [])
    (row : OutboxRow) : { s with row := row }.Sound :=
  h.write row (fun _ => ⟨hnone, hquiet⟩) (fun n hn => absurd hn (hquiet n))
    fun haccepted => absurd hnone haccepted

variable {domain : Option Uuid} {answer : GatewayAnswer}

section attempt

variable (h : s.Sound) (hrunning : s.attempts.lookup n = some running)

include h hrunning

/-- An attempt that does not become busy may move when its new stage fits what is known. -/
theorem moveTo (hbusy : stage.busy = true → running.stage.busy = true)
    (hposted : ∀ domain, s.requests.lookup n = some (.received domain) → stage.posted = true)
    (hsettled : s.accepted ≠ [] → Settled s.requests n running.stage → Settled s.requests n stage) :
    (s.moveTo n running.handle stage).Sound := by
  have hlive : ∀ m, (s.moveTo n running.handle stage).Live m → s.Live m := fun m hm =>
    (live_of_moveTo hm).elim id fun ⟨hn, hstage⟩ => hn ▸ live_of_busy hrunning (hbusy hstage)
  refine { h with
    attempt_le := ?_, posted := ?_, alone := ?_, idle := ?_, sending := ?_,
    attempt_of_accepted := ?_ }
  · exact forall_insert h.attempt_le (h.attempt_le _ running hrunning)
  · intro m other domain hother hrequest
    rcases lookup_insert_cases hother with ⟨rfl, rfl⟩ | ⟨_, hold⟩
    · exact hposted domain hrequest
    · exact h.posted m other domain hold hrequest
  · exact fun m k hm hk => h.alone m k (hlive m hm) (hlive k hk)
  · exact fun hrow => ⟨(h.idle hrow).1, fun m hm => (h.idle hrow).2 m (hlive m hm)⟩
  · exact fun m hm => h.sending m (hlive m hm)
  · intro haccepted
    exact forall_insert (h.attempt_of_accepted haccepted)
      (hsettled haccepted (h.attempt_of_accepted haccepted _ running hrunning))

/-- The gateway serves no request of an attempt that has not posted one. -/
theorem unposted (hposted : running.stage.posted = false) (domain : Option Uuid) :
    s.requests.lookup n ≠ some (.received domain) := by
  intro hrequest
  have hstage := h.posted n running domain hrunning hrequest
  rw [hposted] at hstage
  cases hstage

theorem returns (result : Except IntegrationError Unit) :
    (s.moveTo n running.handle (.returned result)).Sound :=
  h.moveTo hrunning nofun (fun _ _ => rfl) fun _ _ => trivial

/-- When the only live attempt returns, nothing is live, if its request was not left behind. -/
theorem quiet_of_returns (hbusy : running.stage.busy = true)
    (hposted : running.stage.posted = false) (result : Except IntegrationError Unit) (m : Nat) :
    ¬ (s.moveTo n running.handle (.returned result)).Live m := by
  intro hm
  obtain ⟨hlive, hserved⟩ := live_of_moveTo_idle rfl hm
  obtain ⟨domain, hrequest⟩ := hserved (h.alone m n hlive (live_of_busy hrunning hbusy))
  exact h.unposted hrunning hposted domain hrequest

/-- A transaction keeps the fence when its stage and its row do, and the row alone does. -/
theorem perform {row : OutboxRow} {stage : Stage} (fault : Fault)
    (hdone : { s.moveTo n running.handle stage with row := row }.Sound)
    (hlost : { s.moveTo n running.handle (.returned (.error .unavailable)) with
      row := row }.Sound) : (s.perform row fault n running.handle stage).Sound := by
  cases fault with
  | none => exact hdone
  | failed => exact h.returns hrunning _
  | unacknowledged => exact hlost

theorem perform_read {stage : Stage} (fault : Fault)
    (hdone : (s.moveTo n running.handle stage).Sound) :
    (s.perform s.row fault n running.handle stage).Sound :=
  h.perform hrunning fault hdone (h.returns hrunning _)

/-- Before the claim an attempt moves freely, and so does its end. -/
theorem moveTo_unclaimed (hposted : running.stage.posted = false) (hbusy : stage.busy = false) :
    (s.moveTo n running.handle stage).Sound := by
  refine h.moveTo hrunning (fun hb => by simp [hbusy] at hb)
    (fun domain hrequest => absurd hrequest (h.unposted hrunning hposted domain)) fun _ _ => ?_
  exact settled_of_not_busy hbusy _ n

theorem own (hstage : running.stage = .leased) (fault : Fault) :
    (s.own n running.handle fault).Sound := by
  refine h.perform_read hrunning fault (h.moveTo_unclaimed hrunning (by rw [hstage]; rfl) ?_)
  split <;> rfl

theorem select (hstage : running.stage = .owned) (domain : Option Uuid) (fault : Fault) :
    (s.select n running.handle domain fault).Sound := by
  have hposted : running.stage.posted = false := by rw [hstage]; rfl
  unfold Delivery.select
  split
  · exact h.perform_read hrunning fault (h.moveTo_unclaimed hrunning hposted rfl)
  dsimp only
  split
  · -- Only a row that nothing is sending is written.
    rename_i hselectable
    obtain ⟨hnone, hquiet⟩ := h.idle hselectable.2
    have hquiet' : ∀ result m, ¬ (s.moveTo n running.handle (.returned result)).Live m :=
      fun result m hm => hquiet m (live_of_moveTo_idle rfl hm).1
    exact h.perform hrunning fault ((h.returns hrunning _).write_of_quiet (hquiet' _) hnone _)
      ((h.returns hrunning _).write_of_quiet (hquiet' _) hnone _)
  · exact h.perform_read hrunning fault (h.returns hrunning _)

theorem claims (hselectable : s.row.state.selectable = true) (domain : Option Uuid) :
    { s.moveTo n running.handle (.claimed domain) with row := s.row.claimed }.Sound := by
  obtain ⟨hnone, hquiet⟩ := h.idle hselectable
  have hlive : ∀ m, (s.moveTo n running.handle (.claimed domain)).Live m → m = n := fun m hm =>
    (live_of_moveTo hm).elim (fun hold => absurd hold (hquiet m)) And.left
  refine { h with
    attempt_le := ?_, posted := ?_, alone := ?_, idle := nofun, sending := fun _ _ _ => rfl,
    row_of_accepted := fun haccepted => absurd hnone haccepted
    attempt_of_accepted := fun haccepted => absurd hnone haccepted }
  · exact forall_insert h.attempt_le (h.attempt_le _ running hrunning)
  · intro m other served hother hrequest
    exact absurd (Or.inr ⟨served, hrequest⟩) (hquiet m)
  · exact fun m k hm hk => (hlive m hm).trans (hlive k hk).symm

theorem claim (domain : Option Uuid) (fault : Fault) :
    (s.claim n running.handle domain fault).Sound := by
  unfold Delivery.claim
  split
  · rename_i hdeliverable
    have hselectable : s.row.state.selectable = true := (Bool.and_eq_true _ _ ▸ hdeliverable).1
    obtain ⟨hnone, hquiet⟩ := h.idle hselectable
    refine h.perform hrunning fault (h.claims hrunning hselectable domain) ?_
    exact (h.returns hrunning _).write_of_quiet
      (fun m hm => hquiet m (live_of_moveTo_idle rfl hm).1) hnone _
  · exact h.perform_read hrunning fault (h.returns hrunning _)

/-- Nothing is accepted while an attempt is at a stage that acceptance rules out. -/
theorem none_accepted (hstage : ¬ Settled s.requests n running.stage) : s.accepted = [] := by
  by_contra haccepted
  exact hstage (h.attempt_of_accepted haccepted n running hrunning)

/-- The only live attempt may write any row when it returns before anything is accepted. -/
theorem returns_writing (hbusy : running.stage.busy = true) (hposted : running.stage.posted = false)
    (hnone : s.accepted = []) (row : OutboxRow) (result : Except IntegrationError Unit) :
    { s.moveTo n running.handle (.returned result) with row := row }.Sound :=
  (h.returns hrunning result).write_of_quiet
    (fun m => h.quiet_of_returns hrunning hbusy hposted result m) hnone row

theorem defer (hstage : running.stage = .unreachable) (fault : Fault) :
    (s.defer n running.handle fault).Sound := by
  have hnone := h.none_accepted hrunning (by rw [hstage]; exact id)
  have hbusy : running.stage.busy = true := by rw [hstage]; rfl
  have hposted : running.stage.posted = false := by rw [hstage]; rfl
  exact h.perform hrunning fault (h.returns_writing hrunning hbusy hposted hnone _ _)
    (h.returns_writing hrunning hbusy hposted hnone _ _)

theorem recordRefusal {error : IntegrationError} (hstage : running.stage = .refused error)
    (begun : Bool) (fault : Fault) :
    (s.recordRefusal n running.handle error begun fault).Sound := by
  have hnone := h.none_accepted hrunning (by rw [hstage]; exact id)
  have hbusy : running.stage.busy = true := by rw [hstage]; rfl
  have hposted : running.stage.posted = false := by rw [hstage]; rfl
  unfold Delivery.recordRefusal
  split
  · exact h.returns_writing hrunning hbusy hposted hnone _ _
  · exact h.returns hrunning _

theorem markSent {message domain : Uuid} (hstage : running.stage = .answered message domain)
    (fault : Fault) : (s.markSent n running.handle message domain fault).Sound := by
  have hbusy : running.stage.busy = true := by rw [hstage]; rfl
  have hposted : running.stage.posted = false := by rw [hstage]; rfl
  have hwrite : ∀ result, { s.moveTo n running.handle (.returned result) with
      row := s.row.sentAs s.now message domain }.Sound := fun result =>
    (h.returns hrunning result).write _ nofun
      (fun m hm => absurd hm (h.quiet_of_returns hrunning hbusy hposted result m))
      fun _ => Or.inr rfl
  unfold Delivery.markSent
  split
  · exact h.perform hrunning fault (hwrite _) (hwrite _)
  · exact h.perform_read hrunning fault (h.returns hrunning _)

theorem hear (hstage : running.stage = .calling domain)
    (hrequest : s.requests.lookup n = some (.answered answer)) (body : ReplyBody) :
    (s.moveTo n running.handle (heard domain answer body)).Sound := by
  refine h.moveTo hrunning (fun _ => by rw [hstage]; rfl) (fun _ hserved => ?_) fun _ hsettled => ?_
  · rw [hrequest] at hserved
    cases hserved
  rw [hstage] at hsettled
  -- An answer after acceptance is a timeout or a success, so it is not a refusal.
  unfold heard
  split
  · exact trivial
  rename_i htimeout
  rw [if_pos ((hsettled answer hrequest).resolve_left htimeout)]
  split
  · exact trivial
  · exact trivial
  · split <;> exact trivial
  · exact trivial

theorem post (hstage : running.stage = .claimed domain) :
    { s.moveTo n running.handle (.calling domain) with
      requests := s.requests.insert n (.received domain) }.Sound := by
  have hnone := h.none_accepted hrunning (by rw [hstage]; exact id)
  have hlive := live_of_busy hrunning (by rw [hstage]; rfl)
  have honly : ∀ m, Live { s.moveTo n running.handle (.calling domain) with
      requests := s.requests.insert n (.received domain) } m → m = n := by
    intro m hm
    rcases hm with ⟨other, hother, hbusy⟩ | ⟨served, hserved⟩
    · rcases lookup_insert_cases hother with ⟨rfl, _⟩ | ⟨_, hold⟩
      · rfl
      · exact h.alone m n (live_of_busy hold hbusy) hlive
    · rcases lookup_insert_cases hserved with ⟨rfl, _⟩ | ⟨_, hold⟩
      · rfl
      · exact h.alone m n (Or.inr ⟨served, hold⟩) hlive
  have hsending := h.sending n hlive hnone
  refine {
    attempt_le := ?_, request_le := ?_, posted := ?_
    alone := fun m k hm hk => (honly m hm).trans (honly k hk).symm
    idle := fun hselectable => ?_
    sending := fun _ _ _ => hsending
    once := h.once
    row_of_accepted := h.row_of_accepted
    request_of_accepted := fun haccepted => absurd hnone haccepted
    attempt_of_accepted := fun haccepted => absurd hnone haccepted }
  · exact forall_insert h.attempt_le (h.attempt_le _ running hrunning)
  · exact forall_insert h.request_le (h.attempt_le _ running hrunning).2
  · intro m other served hother hserved
    rcases lookup_insert_cases hother with ⟨rfl, rfl⟩ | ⟨hne, hold⟩
    · rfl
    · rcases lookup_insert_cases hserved with ⟨rfl, _⟩ | ⟨_, hold'⟩
      · exact absurd rfl hne
      · exact h.posted m other served hold hold'
  · have hrow : s.row.state.selectable = true := hselectable
    rw [hsending] at hrow
    cases hrow

end attempt

theorem ends (h : s.Sound) {operation : OperationRow}
    (hattempt : operation.attempt = s.operation.attempt) (n : Nat) :
    { s with operation := operation, attempts := s.attempts.erase n }.Sound := by
  have hlive : ∀ m, Live { s with operation := operation, attempts := s.attempts.erase n } m →
      s.Live m := by
    intro m hm
    rcases hm with ⟨other, hother, hbusy⟩ | hrequest
    · exact live_of_busy (lookup_of_erase hother) hbusy
    · exact Or.inr hrequest
  refine { h with
    attempt_le := ?_, request_le := ?_
    posted := fun m other served hother => h.posted m other served (lookup_of_erase hother)
    alone := fun m k hm hk => h.alone m k (hlive m hm) (hlive k hk)
    idle := fun hrow => ⟨(h.idle hrow).1, fun m hm => (h.idle hrow).2 m (hlive m hm)⟩
    sending := fun m hm => h.sending m (hlive m hm)
    attempt_of_accepted := fun haccepted m other hother =>
      h.attempt_of_accepted haccepted m other (lookup_of_erase hother) }
  · intro m other hother
    rw [hattempt]
    exact h.attempt_le m other (lookup_of_erase hother)
  · intro m request hrequest
    rw [hattempt]
    exact h.request_le m request hrequest

section

variable (h : s.Sound) (hserved : s.requests.lookup n = some (.received domain))

include h hserved

/-- The gateway answers or drops a request that was not accepted. -/
theorem replies (request : Request) (hrequest : ∀ domain, request ≠ .received domain) :
    { s with requests := s.requests.insert n request }.Sound := by
  have hnone : s.accepted = [] := by
    by_contra haccepted
    exact h.request_of_accepted haccepted n domain hserved
  have hlive : ∀ m, Live { s with requests := s.requests.insert n request } m → s.Live m := by
    intro m hm
    rcases hm with hattempt | ⟨served, hother⟩
    · exact Or.inl hattempt
    · rcases lookup_insert_cases hother with ⟨_, heq⟩ | ⟨_, hold⟩
      · exact absurd heq.symm (hrequest served)
      · exact Or.inr ⟨served, hold⟩
  refine { h with
    request_le := ?_, posted := ?_
    alone := fun m k hm hk => h.alone m k (hlive m hm) (hlive k hk)
    idle := fun hrow => ⟨(h.idle hrow).1, fun m hm => (h.idle hrow).2 m (hlive m hm)⟩
    sending := fun m hm => h.sending m (hlive m hm)
    request_of_accepted := fun haccepted => absurd hnone haccepted
    attempt_of_accepted := fun haccepted => absurd hnone haccepted }
  · exact forall_insert h.request_le (h.request_le _ _ hserved)
  · intro m other served hother hrequest'
    rcases lookup_insert_cases hrequest' with ⟨_, heq⟩ | ⟨_, hold⟩
    · exact absurd heq.symm (hrequest served)
    · exact h.posted m other served hother hold

/-- An acceptance that the gateway reads or times out on keeps the fence. -/
theorem accepts (hanswer : answer.status = 504 ∨ isSuccess answer.status = true) (message : Uuid) :
    { s with
      requests := s.requests.insert n (.answered answer)
      accepted := message :: s.accepted }.Sound := by
  have hnone : s.accepted = [] := by
    by_contra haccepted
    exact h.request_of_accepted haccepted n domain hserved
  have hlive : s.Live n := Or.inr ⟨domain, hserved⟩
  have hsending := h.sending n hlive hnone
  have hreplied := h.replies hserved (.answered answer) nofun
  refine { hreplied with
    idle := fun hselectable => ?_
    sending := fun _ _ hempty => nomatch hempty
    once := by simp [hnone]
    row_of_accepted := fun _ => Or.inl hsending
    request_of_accepted := fun _ m served hother => ?_
    attempt_of_accepted := fun _ m other hother => ?_ }
  · rw [hsending] at hselectable
    cases hselectable
  · rcases lookup_insert_cases hother with ⟨_, heq⟩ | ⟨hne, hold⟩
    · cases heq
    · exact hne (h.alone m n (Or.inr ⟨served, hold⟩) hlive)
  -- The attempt that posted is calling or has returned; no other one is busy.
  by_cases hm : m = n
  · subst hm
    have hposted := h.posted m other domain hother hserved
    cases hstage : other.stage <;> simp only [hstage, Stage.posted, Bool.false_eq_true] at hposted
    · intro found hfound
      rw [AList.lookup_insert] at hfound
      cases hfound
      exact hanswer
    · exact trivial
  · refine settled_of_not_busy (Bool.eq_false_iff.mpr fun hbusy => ?_) _ m
    exact hm (h.alone m n (live_of_busy hother hbusy) hlive)

end

theorem lease (h : s.Sound) (worker : String) :
    { s with
      operation := s.operation.leaseTo s.now worker
      attempts := s.attempts.insert (s.operation.attempt + 1)
        ⟨s.operation.handle s.row.id worker, .leased⟩ }.Sound := by
  have hlive : ∀ m, Live { s with
      operation := s.operation.leaseTo s.now worker
      attempts := s.attempts.insert (s.operation.attempt + 1)
        ⟨s.operation.handle s.row.id worker, .leased⟩ } m → s.Live m := by
    intro m hm
    rcases hm with ⟨other, hother, hbusy⟩ | hrequest
    · rcases lookup_insert_cases hother with ⟨_, rfl⟩ | ⟨_, hold⟩
      · cases hbusy
      · exact live_of_busy hold hbusy
    · exact Or.inr hrequest
  refine { h with
    attempt_le := ?_, request_le := ?_, posted := ?_
    alone := fun m k hm hk => h.alone m k (hlive m hm) (hlive k hk)
    idle := fun hrow => ⟨(h.idle hrow).1, fun m hm => (h.idle hrow).2 m (hlive m hm)⟩
    sending := fun m hm => h.sending m (hlive m hm)
    attempt_of_accepted := ?_ }
  · intro m other hother
    rcases lookup_insert_cases hother with ⟨rfl, rfl⟩ | ⟨_, hold⟩
    · exact ⟨rfl, le_refl _⟩
    · exact ⟨(h.attempt_le m other hold).1, Nat.le_succ_of_le (h.attempt_le m other hold).2⟩
  · exact fun m request hrequest => Nat.le_succ_of_le (h.request_le m request hrequest)
  · intro m other served hother hrequest
    rcases lookup_insert_cases hother with ⟨rfl, rfl⟩ | ⟨_, hold⟩
    · exact absurd (h.request_le _ _ hrequest) (Nat.not_succ_le_self _)
    · exact h.posted m other served hold hrequest
  · intro haccepted m other hother
    rcases lookup_insert_cases hother with ⟨rfl, rfl⟩ | ⟨_, hold⟩
    · exact trivial
    · exact h.attempt_of_accepted haccepted m other hold

end Sound

/-- An event changes the state of the row at most from being sent to sent. -/
theorem state_of_mailDeliveryEvent (s : Delivery) (event : MailDeliveryEvent) :
    (s.mailDeliveryEvent event).row.state = s.row.state ∨
      s.row.state = .sending ∧ (s.mailDeliveryEvent event).row.state = .sent := by
  unfold mailDeliveryEvent
  split
  swap
  · exact Or.inl rfl
  unfold recordTransactionalOutboxDeliveryEvent
  split
  swap
  · exact Or.inl rfl
  split
  · exact Or.inl rfl
  dsimp only
  split
  · by_cases hsending : s.row.state = .sending
    · exact Or.inr ⟨hsending, if_pos hsending⟩
    · exact Or.inl (if_neg hsending)
  · exact Or.inl rfl

theorem mailDeliveryEvent_eq (s : Delivery) (event : MailDeliveryEvent) :
    s.mailDeliveryEvent event = { s with
      row := (s.mailDeliveryEvent event).row
      events := (s.mailDeliveryEvent event).events } := by
  unfold mailDeliveryEvent
  split <;> rfl

theorem Sound.reported (h : s.Sound) {event : MailDeliveryEvent}
    (haccepted : event.emailId ∈ s.accepted) : (s.mailDeliveryEvent event).Sound := by
  have hne : s.accepted ≠ [] := List.ne_nil_of_mem haccepted
  have hrow : (s.mailDeliveryEvent event).row.state = .sending ∨
      (s.mailDeliveryEvent event).row.state = .sent := by
    rcases state_of_mailDeliveryEvent s event with hsame | ⟨_, hsent⟩
    · rw [hsame]
      exact h.row_of_accepted hne
    · exact Or.inr hsent
  have hselectable : (s.mailDeliveryEvent event).row.state.selectable = false := by
    rcases hrow with hrow | hrow <;> rw [hrow] <;> rfl
  have hwritten := h.write (s.mailDeliveryEvent event).row
    (fun hidle => by simp [hselectable] at hidle) (fun _ _ hnone => absurd hnone hne) fun _ => hrow
  rw [mailDeliveryEvent_eq]
  exact { hwritten with }

/-! ## Runs in which every acceptance is read or times out -/

end Delivery

/-- The provider's answers that the gateway reads as an acceptance or as a timeout. -/
def ProviderAnswer.legible : ProviderAnswer → Bool
  | .transportFailure timeout => timeout
  | .response _ (.emails [some _]) => true
  | .response _ _ => false

namespace Delivery

/-- An accepted submission is answered legibly. -/
def readable (_ : Delivery) : DeliveryStep → Bool
  | .submit _ _ true answer => answer.legible
  | _ => true

variable {s t : Delivery} {event : DeliveryStep} {n m : Nat} {running : Attempt}
  {handle : LeasedOperation} {stage : Stage}

theorem status_of_legible {answer : ProviderAnswer} (hlegible : answer.legible = true)
    (hconsistent : answer.consistent true = true) (senderDomain : Option Uuid)
    (gatewayDomain : Uuid) :
    (gatewayAnswer senderDomain gatewayDomain answer).status = 504 ∨
      isSuccess (gatewayAnswer senderDomain gatewayDomain answer).status = true := by
  cases answer with
  | transportFailure timeout =>
    left
    rw [show timeout = true from hlegible]
    rfl
  | response status body =>
    right
    have hsuccess : isSuccess status = true := beq_iff_eq.mp hconsistent
    simp only [gatewayAnswer, hsuccess, if_true]
    split
    · rfl
    rename_i hbody
    unfold ProviderAnswer.legible at hlegible
    split at hlegible
    · contradiction
    · rename_i id heq
      cases heq
      exact absurd rfl (hbody id)
    · cases hlegible

theorem Sound.goes (h : s.Sound) (hrunning : s.attempts.lookup n = some running)
    (hgoes : Goes s n running.handle event running.stage t) : t.Sound := by
  generalize hstage : running.stage = stage at hgoes
  cases hgoes with
  | own fault => exact h.own hrunning hstage fault
  | select domain fault => exact h.select hrunning hstage domain fault
  | prepareFails domain | loseAnswer domain => exact h.returns hrunning _
  | claim domain fault => exact h.claim hrunning domain fault
  | connectFails domain =>
    refine h.moveTo hrunning (fun _ => by rw [hstage]; rfl) (fun served hserved => ?_)
      fun _ hsettled => ?_
    · exact absurd hserved (h.unposted hrunning (by rw [hstage]; rfl) served)
    · rw [hstage] at hsettled
      exact hsettled
  | defer fault => exact h.defer hrunning hstage fault
  | post domain => exact h.post hrunning hstage
  | hear domain answer body hrequest => exact h.hear hrunning hstage hrequest body
  | recordRefusal error begun fault => exact h.recordRefusal hrunning hstage begun fault
  | markSent message domain fault => exact h.markSent hrunning hstage fault
  | finish result fault =>
    refine h.ends ?_ n
    split <;> rfl

theorem Sound.step (h : s.Sound) (hgood : readable s event = true)
    (hstep : s.step event = some t) : t.Sound := by
  cases taken_of_step hstep with
  | lease worker hdue hroom => exact h.lease worker
  | renew n running hrunning hheld =>
    have hattempt : (s.operation.renewed s.now).attempt = s.operation.attempt := by
      unfold OperationRow.renewed
      split <;> rfl
    exact { h with
      attempt_le := fun m other hother => hattempt ▸ h.attempt_le m other hother
      request_le := fun m request hrequest => hattempt ▸ h.request_le m request hrequest }
  | goes n running hrunning hgoes => exact h.goes hrunning hgoes
  | crash n => exact h.ends rfl n
  | refuse n status domain hrequest hstatus =>
    exact h.replies hrequest (.answered ⟨status, none⟩) nofun
  | submit n message accepted answer domain hrequest hconsistent =>
    cases accepted with
    | false => exact h.replies hrequest (.answered _) nofun
    | true =>
      exact h.accepts hrequest (status_of_legible hgood hconsistent domain s.gatewayDomain) message
  | gatewayCrash n domain hrequest => exact h.replies hrequest .abandoned nofun
  | event event haccepted => exact h.reported haccepted
  | foreignEvent eventId row hother hfresh | lapse | advance elapsed => exact { h with }

/-- The only write that does not look at the state of the row finds it being sent. -/
theorem Sound.terminal_goes (h : s.Sound) (hrunning : s.attempts.lookup n = some running)
    (hterminal : s.row.state.terminal = true)
    (hgoes : Goes s n running.handle event running.stage t) : t.row.state = s.row.state := by
  have hselectable : s.row.state.selectable = false := by
    cases hstate : s.row.state <;> rw [hstate] at hterminal <;> first | rfl | cases hterminal
  have hsending : s.row.state ≠ .sending := by
    intro hstate
    rw [hstate] at hterminal
    cases hterminal
  have hdeliverable : s.deliverable = false := by simp [deliverable, hselectable]
  have hread : ∀ fault stage, (s.perform s.row fault n running.handle stage).row.state =
      s.row.state := by
    intro fault stage
    cases fault <;> rfl
  generalize hstage : running.stage = stage at hgoes
  cases hgoes with
  | own fault => exact hread _ _
  | select domain fault =>
    simp only [Delivery.select, hdeliverable, hselectable, Bool.false_eq_true, and_false, if_false]
    exact hread _ _
  | claim domain fault =>
    simp only [Delivery.claim, hdeliverable, Bool.false_eq_true, if_false]
    exact hread _ _
  | defer fault =>
    simp only [Delivery.defer, hsending, if_false]
    exact hread _ _
  | recordRefusal error begun fault =>
    have hnone := h.none_accepted hrunning (by rw [hstage]; exact id)
    exact absurd (h.sending n (live_of_busy hrunning (by rw [hstage]; rfl)) hnone) hsending
  | markSent message domain fault =>
    simp only [Delivery.markSent, hsending, if_false]
    exact hread _ _
  | prepareFails domain | connectFails domain | post domain | hear domain answer body hrequest
  | loseAnswer domain | finish result fault => rfl

theorem Sound.terminal_step (h : s.Sound) (hterminal : s.row.state.terminal = true)
    (hstep : s.step event = some t) : t.row.state = s.row.state := by
  cases taken_of_step hstep with
  | goes n running hrunning hgoes => exact h.terminal_goes hrunning hterminal hgoes
  | event event haccepted =>
    refine (state_of_mailDeliveryEvent s event).resolve_right fun hsending => ?_
    rw [hsending.1] at hterminal
    cases hterminal
  | lease worker hdue hroom | renew n running hrunning hheld | crash n
  | refuse n status domain hrequest hstatus
  | submit n message accepted answer domain hrequest hconsistent
  | gatewayCrash n domain hrequest | foreignEvent eventId row hother hfresh | lapse
  | advance elapsed => rfl

/-- **When every acceptance is read or times out, the provider accepts at most one
submission of a mail, and a mail that is sent or dead stays so.** -/
theorem submitted_once_of_readable {kind : MailKind} {outbox workshop gatewayDomain : Uuid}
    {payload : Json} {now : Timestamp} {events : List DeliveryStep} {s : Delivery}
    (hrun : RunWhere Delivery.step (fun s event => readable s event = true)
      (initial kind outbox workshop gatewayDomain payload now) events s) :
    s.accepted.length ≤ 1 ∧ ∀ event t, s.step event = some t → s.row.state.terminal = true →
        t.row.state = s.row.state := by
  have hsound : s.Sound :=
    hrun.invariant (P := Sound) (fun _ _ _ h hgood hstep => h.step hgood hstep)
      (sound_initial kind outbox workshop gatewayDomain payload now)
  exact ⟨hsound.once, fun event t hstep hterminal => hsound.terminal_step hterminal hstep⟩

/-- One attempt that leases, claims and posts the mail. -/
def postedBy (n : Nat) : List DeliveryStep :=
  [.lease "worker", .own n .none, .select n none .none, .claim n .none, .post n]

/-- A mail whose first submission breaks off, and whose second one is accepted and read. -/
def deliveredSteps : List DeliveryStep :=
  postedBy 1 ++ [.submit 1 6 false (.transportFailure false), .hear 1 .whole,
    .recordRefusal 1 true .none, .finish 1 .none, .advance (seconds 60)] ++
    postedBy 2 ++ [.submit 2 7 true (.response 200 (.emails [some 7])), .hear 2 .whole,
      .markSent 2 .none, .finish 2 .none]

theorem submitted_once_of_delivered : ∃ s,
    RunWhere Delivery.step (fun s event => readable s event = true)
        (initial .invitation 1 2 3 .null 0) deliveredSteps s ∧
      s.row.state = .sent ∧ s.accepted = [7] ∧
      (s.accepted.length ≤ 1 ∧ ∀ event t, s.step event = some t → s.row.state.terminal = true →
        t.row.state = s.row.state) := by
  have hreplayed : (replayWhere Delivery.step readable
      (initial .invitation 1 2 3 .null 0) deliveredSteps).any (fun s =>
        decide (s.row.state = .sent ∧ s.accepted = [7])) = true := by decide +kernel
  obtain ⟨s, hs, hstate⟩ := (Option.any_eq_true _ _).mp hreplayed
  obtain ⟨hsent, haccepted⟩ := of_decide_eq_true hstate
  have hrun := runWhere_of_replayWhere hs
  exact ⟨s, hrun, hsent, haccepted, submitted_once_of_readable hrun⟩

/-- The provider accepts, the connection breaks, and its event comes before the attempt has
heard of the bad gateway. -/
def acceptedUnread : List DeliveryStep :=
  postedBy 1 ++ [.submit 1 7 true (.transportFailure false), .event ⟨10, 11, 7, 3, .queued, 0⟩]

/-- The attempt takes the bad gateway for a failure, and the next one submits again. -/
def submittedAgain : List DeliveryStep :=
  [.hear 1 .whole, .recordRefusal 1 true .none, .finish 1 .none, .advance (seconds 60)] ++
    postedBy 2 ++ [.submit 2 8 true (.response 200 (.emails [some 8]))]

/-- A mail leaves `sent` and is accepted twice, because the answer to its first submission
broke off. -/
theorem submitted_twice :
    ∃ s t, Run Delivery.step (initial .odooTransactional 1 2 3 .null 0) acceptedUnread s ∧
      s.row.state = .sent ∧ Run Delivery.step s submittedAgain t ∧
      t.row.state = .sending ∧ t.accepted = [8, 7] := by
  have hfirst : (replay Delivery.step (initial .odooTransactional 1 2 3 .null 0)
      acceptedUnread).any (fun s => decide (s.row.state = .sent) &&
        (replay Delivery.step s submittedAgain).any (fun t =>
          decide (t.row.state = .sending ∧ t.accepted = [8, 7]))) = true := by decide +kernel
  obtain ⟨s, hs, hstate⟩ := (Option.any_eq_true _ _).mp hfirst
  rw [Bool.and_eq_true] at hstate
  obtain ⟨t, ht, hend⟩ := (Option.any_eq_true _ _).mp hstate.2
  obtain ⟨hsending, haccepted⟩ := of_decide_eq_true hend
  exact ⟨s, t, run_of_replay hs, of_decide_eq_true hstate.1, run_of_replay ht, hsending, haccepted⟩

end Delivery

end ControlPlane.Mail
