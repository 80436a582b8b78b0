/-
# One owner

A workshop should have one active owner, and ownership should move only from that owner
by a transfer the owner offered. The transactions do not guarantee it. An acceptance
does not look at the creator's role, so of two transfers offered by one owner the second
acceptance makes a second owner, and lifts the creator to manager from whatever the
first new owner had left of its role. An accepted invitation rewrites a membership that
is there without a new version.

Both are excluded when a transfer is offered only while no other is open and an
invitation is accepted only by those it changes nothing for. In such runs the creator of
every open transfer is still the owner.
-/

import ControlPlane.Memberships.Transactions
import ControlPlane.Math.Transition

namespace ControlPlane.Memberships

open Domain Math Table ControlPlane.Memberships.Membership

/-! ## Owners in the membership table -/

/-- The user is an active owner of the workshop. -/
def owned (table : Table (Uuid × Uuid) Membership) (workshop user : Uuid) : Bool :=
  (table.lookup (workshop, user)).any owns

/-- Every workshop with members has one active owner. -/
structure OneOwner (table : Table (Uuid × Uuid) Membership) : Prop where
  some_owner : ∀ workshop user row, table.lookup (workshop, user) = some row →
    ∃ owner, owned table workshop owner = true
  same_owner : ∀ workshop first second, owned table workshop first = true →
    owned table workshop second = true → first = second

section Owners

variable {table : Table (Uuid × Uuid) Membership} {workshop user : Uuid} {row : Membership}

theorem owned_insert_self : owned (table.insert (workshop, user) row) workshop user = row.owns := by
  rw [owned, AList.lookup_insert, Option.any_some]

theorem owned_insert_of_ne {w u : Uuid} (hne : (w, u) ≠ (workshop, user)) :
    owned (table.insert (workshop, user) row) w u = owned table w u := by
  rw [owned, owned, AList.lookup_insert_ne hne]

theorem owned_of_lookup (hrow : table.lookup (workshop, user) = some row) :
    owned table workshop user = row.owns := by
  rw [owned, hrow, Option.any_some]

/-- A row that makes no owner leaves the owners as they are. -/
theorem owned_insert_of_not_owns (hrow : row.owns = false)
    (hbefore : owned table workshop user = false) (w u : Uuid) :
    owned (table.insert (workshop, user) row) w u = owned table w u := by
  by_cases hkey : (w, u) = (workshop, user)
  · obtain ⟨rfl, rfl⟩ := Prod.mk.inj hkey
    rw [owned_insert_self, hrow, hbefore]
  · exact owned_insert_of_ne hkey

theorem OneOwner.founded (h : OneOwner table)
    (hempty : ∀ member, table.lookup (workshop, member) = none) (hrow : row.owns = true) :
    OneOwner (table.insert (workshop, user) row) := by
  have hnone : ∀ member, owned table workshop member = false := by
    intro member
    rw [owned, hempty, Option.any_none]
  have honly : ∀ member, owned (table.insert (workshop, user) row) workshop member = true →
      member = user := by
    intro member hmember
    by_contra hne
    rw [owned_insert_of_ne (by simpa using hne), hnone] at hmember
    cases hmember
  refine ⟨fun w u value hvalue => ?_, fun w first second hfirst hsecond => ?_⟩
  · by_cases hw : w = workshop
    · subst w
      exact ⟨user, owned_insert_self.trans hrow⟩
    · have hne : ∀ member, (w, member) ≠ (workshop, user) := fun member heq => hw (Prod.mk.inj
        heq).1
      rw [AList.lookup_insert_ne (hne u)] at hvalue
      obtain ⟨owner, howner⟩ := h.some_owner w u value hvalue
      exact ⟨owner, (owned_insert_of_ne (hne owner)).trans howner⟩
  · by_cases hw : w = workshop
    · subst w
      rw [honly first hfirst, honly second hsecond]
    · have hne : ∀ member, (w, member) ≠ (workshop, user) := fun member heq => hw (Prod.mk.inj
        heq).1
      rw [owned_insert_of_ne (hne _)] at hfirst hsecond
      exact h.same_owner w first second hfirst hsecond

theorem OneOwner.changed (h : OneOwner table) (hrow : row.owns = false)
    (hbefore : owned table workshop user = false)
    (howner : ∃ owner, owned (table.insert (workshop, user) row) workshop owner = true) :
    OneOwner (table.insert (workshop, user) row) := by
  have hsame := owned_insert_of_not_owns hrow hbefore
  refine ⟨fun w u value hvalue => ?_, fun w first second hfirst hsecond => ?_⟩
  · obtain ⟨hkey, -⟩ | ⟨-, hold⟩ := lookup_insert_cases hvalue
    · rw [(Prod.mk.inj hkey).1]
      exact howner
    · obtain ⟨owner, howns⟩ := h.some_owner w u value hold
      exact ⟨owner, (hsame w owner).trans howns⟩
  · rw [hsame] at hfirst hsecond
    exact h.same_owner w first second hfirst hsecond

theorem OneOwner.handed (h : OneOwner table) {creator recipient : Uuid} {lower raised : Membership}
    (hlower : lower.owns = false) (hraised : raised.owns = true)
    (howner : owned table workshop creator = true) :
    OneOwner ((table.insert (workshop, creator) lower).insert (workshop, recipient) raised) := by
  have hfirst : ∀ member, owned (table.insert (workshop, creator) lower) workshop member =
    false := by
    intro member
    by_cases hmember : member = creator
    · rw [hmember, owned_insert_self, hlower]
    · rw [owned_insert_of_ne (by simpa using hmember), Bool.eq_false_iff]
      exact fun hother => hmember (h.same_owner workshop member creator hother howner)
  have honly : ∀ member, owned ((table.insert (workshop, creator) lower).insert
      (workshop, recipient) raised) workshop member = true → member = recipient := by
    intro member hmember
    by_contra hne
    rw [owned_insert_of_ne (by simpa using hne), hfirst] at hmember
    cases hmember
  have hother : ∀ w member, w ≠ workshop → ((table.insert (workshop, creator) lower).insert
      (workshop, recipient) raised).lookup (w, member) = table.lookup (w, member) := by
    intro w member hw
    rw [AList.lookup_insert_ne (fun heq => hw (Prod.mk.inj heq).1),
      AList.lookup_insert_ne (fun heq => hw (Prod.mk.inj heq).1)]
  refine ⟨fun w u value hvalue => ?_, fun w first second hleft hright => ?_⟩
  · by_cases hw : w = workshop
    · subst w
      exact ⟨recipient, owned_insert_self.trans hraised⟩
    · rw [hother w u hw] at hvalue
      obtain ⟨owner, howns⟩ := h.some_owner w u value hvalue
      refine ⟨owner, ?_⟩
      rw [owned, hother w owner hw]
      exact howns
  · by_cases hw : w = workshop
    · subst w
      rw [honly first hleft, honly second hright]
    · rw [owned, hother w _ hw] at hleft hright
      exact h.same_owner w first second hleft hright

end Owners

/-! ## What a transaction that commits has done -/

namespace Accounts

variable {s t : Accounts}

variable {workshop user : Uuid} {scope : WorkshopScope} {expected : Nat}

theorem hasOwner_iff :
    s.hasOwner workshop = true ↔ ∃ owner, owned s.memberships workshop owner = true := by
  simp only [hasOwner, owned, List.any_eq_true, Bool.and_eq_true, decide_eq_true_eq,
    Option.any_eq_true]
  constructor
  · rintro ⟨⟨⟨w, owner⟩, row⟩, hentry, rfl, howns⟩
    exact ⟨owner, row, AList.mem_lookup_iff.mpr hentry, howns⟩
  · rintro ⟨owner, row, hrow, howns⟩
    exact ⟨⟨(workshop, owner), row⟩, AList.mem_lookup_iff.mp hrow, rfl, howns⟩

theorem commit_eq_ok (h : s.commit workshop = .ok t) :
    (∃ owner, owned s.memberships workshop owner = true) ∧ t = s := by
  unfold commit at h
  split at h
  · rename_i howner
    cases h
    exact ⟨hasOwner_iff.mp howner, rfl⟩
  · cases h

theorem lookup_of_activeMembership {row : Membership}
    (h : s.activeMembership workshop user = some row) :
    s.memberships.lookup (workshop, user) = some row ∧ row.status = .active := by
  obtain ⟨hrow, hactive⟩ := Option.filter_eq_some_iff.mp h
  exact ⟨hrow, of_decide_eq_true hactive⟩

/-- A scope that may transfer ownership is the owner's. -/
theorem owned_of_revalidate (h : s.revalidateWorkshopScope scope .transferOwnership = .ok ()) :
    owned s.memberships scope.workshop scope.principal = true := by
  unfold revalidateWorkshopScope at h
  split at h
  · cases h
  rename_i row hrow
  obtain ⟨hlookup, hactive⟩ := lookup_of_activeMembership hrow
  split at h
  · rename_i hcurrent
    rw [owned_of_lookup hlookup, owns, hactive]
    exact Bool.and_eq_true_iff.mpr ⟨hcurrent.2.2, rfl⟩
  · cases h

theorem insertInitialWorkshopOwner_ok (h : s.insertInitialWorkshopOwner workshop user = .ok t) :
    (∀ member, s.memberships.lookup (workshop, member) = none) ∧
      t = s.writeMembership workshop user ⟨.owner, .active, 1, 1⟩ := by
  unfold insertInitialWorkshopOwner at h
  split at h
  · rename_i hfresh
    refine ⟨fun member => ?_, (commit_eq_ok h).2⟩
    cases hrow : s.memberships.lookup (workshop, member) with
    | none => rfl
    | some row => exact absurd rfl (of_decide_eq_true (allRows_iff.mp hfresh.2 _ _ hrow))
  · cases h

theorem acceptInvitationMembership_ok {id : Uuid} {tokenGeneration : Nat}
    (h : s.acceptInvitationMembership id user tokenGeneration = .ok t) :
    ∃ invitation, s.invitations.lookup id = some invitation ∧
      (∃ owner, owned t.memberships invitation.workshop owner = true) ∧
      t = s.joined id invitation user := by
  unfold acceptInvitationMembership at h
  split at h
  · cases h
  · rename_i invitation hinvitation
    split at h
    · obtain ⟨howner, rfl⟩ := commit_eq_ok h
      exact ⟨invitation, hinvitation, howner, rfl⟩
    · cases h

/-- The two commands that manage members rewrite a member that is not an owner. -/
def Rewritten (s : Accounts) (workshop user : Uuid) (change : Membership → Membership)
    (t : Accounts) : Prop :=
  ∃ row, s.memberships.lookup (workshop, user) = some row ∧ row.role ≠ .owner ∧
    (∃ owner, owned t.memberships workshop owner = true) ∧
    t = s.writeMembership workshop user (change row)

theorem updateMember_ok {role : WorkshopRole}
    (h : s.updateMember scope user role expected = .ok t) :
    role ≠ .owner ∧ s.Rewritten scope.workshop user (·.withRole role) t := by
  unfold updateMember at h
  split at h
  · cases h
  rename_i hrole
  split at h
  · cases h
  split at h
  · cases h
  rename_i row hrow
  split at h
  · cases h
  · rename_i hmember
    split at h
    · cases h
    · obtain ⟨howner, rfl⟩ := commit_eq_ok h
      exact ⟨hrole, row, (lookup_of_activeMembership hrow).1, hmember, howner, rfl⟩

theorem removeMember_ok (h : s.removeMember scope user expected = .ok t) :
    s.Rewritten scope.workshop user revoke t := by
  unfold removeMember at h
  split at h
  · cases h
  split at h
  · cases h
  rename_i row hrow
  split at h
  · cases h
  · rename_i hmember
    split at h
    · cases h
    · obtain ⟨howner, rfl⟩ := commit_eq_ok h
      exact ⟨row, (lookup_of_activeMembership hrow).1, hmember, howner, rfl⟩

theorem createOwnershipTransfer_ok {id toUser : Uuid}
    (h : s.createOwnershipTransfer scope id toUser expected = .ok t) :
    owned s.memberships scope.workshop scope.principal = true ∧ s.transfers.lookup id = none ∧
      ∃ workshops, ∃ distinct : scope.principal ≠ toUser, t = { s with
          workshops := workshops
          transfers := s.transfers.insert id (s.offered scope toUser distinct) } := by
  unfold createOwnershipTransfer at h
  split at h
  · cases h
  rename_i hscope
  split at h
  · cases h
  split at h
  · cases h
  rename_i workshops hworkshops
  split at h
  · rename_i hnew
    cases h
    exact ⟨owned_of_revalidate hscope, hnew.2, workshops, hnew.1, rfl⟩
  · cases h

/-- An acceptance reads an open transfer and two active members. -/
structure Acceptance (s : Accounts) (user id : Uuid) (clock : Timestamp)
    (transfer : OwnershipTransfer) (creator recipient : Membership) : Prop where
  found : s.transfers.lookup id = some transfer
  recipient_eq : transfer.toUser = user
  unaccepted : transfer.acceptedAt = none
  unrevoked : transfer.revokedAt = none
  unexpired : clock < transfer.expiresAt
  creator_row : s.memberships.lookup (transfer.workshop, transfer.fromUser) = some creator
  recipient_row : s.memberships.lookup (transfer.workshop, transfer.toUser) = some recipient
  recipient_active : recipient.status = .active

theorem acceptOwnershipTransfer_ok {id : Uuid} {clock : Timestamp}
    (h : s.acceptOwnershipTransfer user id clock expected = .ok t) :
    ∃ transfer creator recipient workshops, s.Acceptance user id clock transfer creator recipient ∧
      t = s.handedOver id transfer creator recipient workshops := by
  unfold acceptOwnershipTransfer at h
  split at h
  · cases h
  rename_i transfer htransfer
  split at h
  · cases h
  rename_i hrecipient
  split at h
  · cases h
  rename_i hopen
  simp only [not_or, not_le, Bool.not_eq_true, Option.isSome_eq_false_iff,
    Option.isNone_iff_eq_none] at hopen
  split at h
  · cases h
  rename_i workshops hworkshops
  split at h
  · rename_i creator recipient hcreator hactive
    obtain ⟨-, rfl⟩ := commit_eq_ok h
    obtain ⟨hrow, hstatus⟩ := lookup_of_activeMembership hactive
    exact ⟨transfer, creator, recipient, workshops,
      ⟨htransfer, not_not.mp hrecipient, hopen.1, hopen.2.1, hopen.2.2,
        (lookup_of_activeMembership hcreator).1, hrow, hstatus⟩, rfl⟩
  · cases h

/-! ## The laws of ownership -/

end Accounts

/-- The transfer can still be accepted by the database's time. -/
def OwnershipTransfer.isOpen (transfer : OwnershipTransfer) (now : Timestamp) : Bool :=
  transfer.acceptedAt.isNone && transfer.revokedAt.isNone && decide (now < transfer.expiresAt)

/-- A change of role or status comes with a new epoch and a new version. -/
def Membership.FollowedBy (before after : Membership) : Prop :=
  after.role ≠ before.role ∨ after.status ≠ before.status →
    before.authorityEpoch < after.authorityEpoch ∧ before.version < after.version

theorem Membership.followedBy_withRole (row : Membership) (role : WorkshopRole) :
    row.FollowedBy (row.withRole role) :=
  fun _ => ⟨Nat.lt_succ_self _, Nat.lt_succ_self _⟩

theorem Membership.followedBy_revoke (row : Membership) : row.FollowedBy row.revoke :=
  fun _ => ⟨Nat.lt_succ_self _, Nat.lt_succ_self _⟩

theorem Membership.owns_eq_false {row : Membership} (h : row.role ≠ .owner) : row.owns = false := by
  simp [owns, h]

namespace Accounts

/-- What holds of the tables after every commit. -/
structure Lawful (s : Accounts) : Prop where
  one_owner : ∀ workshop user row, s.memberships.lookup (workshop, user) = some row →
    ∃! owner, owned s.memberships workshop owner = true
  accepted_once : s.accepted.Nodup

/-- What holds of every commit. -/
structure LawfulStep (s : Accounts) (event : AccountEvent) (t : Accounts) : Prop where
  /-- A user becomes owner as the first owner, or by accepting a transfer of the owner. -/
  new_owner : ∀ workshop user, owned s.memberships workshop user = false →
    owned t.memberships workshop user = true → event = .insertInitialWorkshopOwner workshop user ∨
        ∃ id clock expected transfer, event = .acceptOwnershipTransfer user id clock expected ∧
          s.transfers.lookup id = some transfer ∧ transfer.workshop = workshop ∧
          transfer.toUser = user ∧ owned s.memberships workshop transfer.fromUser = true
  /-- An acceptance gives the creator no permission it did not have. -/
  not_raised : ∀ user id clock expected transfer before after,
    event = .acceptOwnershipTransfer user id clock expected →
    s.transfers.lookup id = some transfer →
    s.memberships.lookup (transfer.workshop, transfer.fromUser) = some before →
    t.memberships.lookup (transfer.workshop, transfer.fromUser) = some after →
    ∀ permission, after.role.allows permission = true → before.role.allows permission = true
  versioned : ∀ key before, s.memberships.lookup key = some before →
    ∃ after, t.memberships.lookup key = some after ∧ before.FollowedBy after

/-- Ownership is offered to one member at a time, acceptances are served by processes
whose clock is not behind the database, and an invitation is accepted only by somebody
who is not a member or has its role already. -/
def orderly (s : Accounts) : AccountEvent → Bool
  | .createOwnershipTransfer scope _ _ _ =>
    s.transfers.allRows fun _ transfer =>
      !(decide (transfer.workshop = scope.workshop) && transfer.isOpen s.now)
  | .acceptOwnershipTransfer _ _ clock _ => decide (s.now ≤ clock)
  | .acceptInvitation id user _ =>
    (s.invitations.lookup id).all fun invitation =>
      (s.memberships.lookup (invitation.workshop, user)).all fun row =>
        decide (row.role = invitation.role) && decide (row.status = .active)
  | _ => true

/-! ## Orderly runs -/

/-- In orderly runs every open transfer is the owner's, and no workshop has two. -/
structure Sound (s : Accounts) : Prop where
  owners : OneOwner s.memberships
  offered : ∀ id transfer, s.transfers.lookup id = some transfer →
    transfer.isOpen s.now = true →
    owned s.memberships transfer.workshop transfer.fromUser = true
  single : ∀ id other transfer transfer', s.transfers.lookup id = some transfer →
    s.transfers.lookup other = some transfer' → transfer.isOpen s.now = true →
    transfer'.isOpen s.now = true → transfer.workshop = transfer'.workshop → id = other
  accepted : ∀ id ∈ s.accepted, ∃ transfer, s.transfers.lookup id = some transfer ∧
    transfer.acceptedAt.isSome = true
  accepted_once : s.accepted.Nodup

variable {s t : Accounts}

theorem Sound.lawful (h : s.Sound) : s.Lawful := by
  refine ⟨fun workshop user row hrow => ?_, h.accepted_once⟩
  obtain ⟨owner, howner⟩ := h.owners.some_owner workshop user row hrow
  exact ⟨owner, howner, fun other hother => h.owners.same_owner workshop other owner hother howner⟩

theorem sound_initial (now : Timestamp) : (initial now).Sound where
  owners := ⟨nofun, nofun⟩
  offered := nofun
  single := nofun
  accepted := nofun
  accepted_once := List.nodup_nil

/-- Steps that leave the transfers alone and end nobody's ownership. -/
theorem Sound.of_same (h : s.Sound) (howners : OneOwner t.memberships)
    (hkept : ∀ workshop user, owned s.memberships workshop user = true →
      owned t.memberships workshop user = true)
    (htransfers : t.transfers = s.transfers) (haccepted : t.accepted = s.accepted)
    (hnow : s.now ≤ t.now) : t.Sound := by
  have hopen : ∀ transfer : OwnershipTransfer, transfer.isOpen t.now = true →
      transfer.isOpen s.now = true := by
    intro transfer h
    simp only [OwnershipTransfer.isOpen, Bool.and_eq_true, decide_eq_true_eq] at h ⊢
    exact ⟨h.1, lt_of_le_of_lt hnow h.2⟩
  constructor
  · exact howners
  · intro id transfer hfound hlive
    rw [htransfers] at hfound
    exact hkept _ _ (h.offered id transfer hfound (hopen _ hlive))
  · intro id other transfer transfer' hfound hfound' hlive hlive' hworkshop
    rw [htransfers] at hfound hfound'
    exact h.single id other transfer transfer' hfound hfound' (hopen _ hlive) (hopen _ hlive')
      hworkshop
  · rw [haccepted, htransfers]
    exact h.accepted
  · rw [haccepted]
    exact h.accepted_once

variable {event : AccountEvent} {workshop user : Uuid}

theorem LawfulStep.of_same (hsame : t.memberships = s.memberships)
    (hevent : ∀ user id clock expected, event ≠ .acceptOwnershipTransfer user id clock expected) :
    s.LawfulStep event t where
  new_owner := by
    intro workshop user hbefore hafter
    rw [hsame, hbefore] at hafter
    cases hafter
  not_raised := fun user id clock expected _ _ _ heq => absurd heq (hevent user id clock expected)
  versioned := fun key before hbefore => ⟨before, by rw [hsame, hbefore],
    fun hchanged => absurd hchanged (by simp)⟩

theorem LawfulStep.of_insert {row : Membership}
    (hwritten : t.memberships = s.memberships.insert (workshop, user) row)
    (hevent : ∀ user id clock expected, event ≠ .acceptOwnershipTransfer user id clock expected)
    (howns : row.owns = true → event = .insertInitialWorkshopOwner workshop user)
    (hversion : ∀ before, s.memberships.lookup (workshop, user) = some before →
      before.FollowedBy row) : s.LawfulStep event t where
  new_owner := by
    intro w u hbefore hafter
    rw [hwritten] at hafter
    by_cases hkey : (w, u) = (workshop, user)
    · obtain ⟨rfl, rfl⟩ := Prod.mk.inj hkey
      rw [owned_insert_self] at hafter
      exact Or.inl (howns hafter)
    · rw [owned_insert_of_ne hkey, hbefore] at hafter
      cases hafter
  not_raised := fun user id clock expected _ _ _ heq => absurd heq (hevent user id clock expected)
  versioned := by
    intro key before hbefore
    rw [hwritten]
    by_cases hkey : key = (workshop, user)
    · subst key
      exact ⟨row, AList.lookup_insert _, hversion before hbefore⟩
    · exact ⟨before, (AList.lookup_insert_ne hkey).trans hbefore,
        fun hchanged => absurd hchanged (by simp)⟩

theorem Sound.founded (h : s.Sound) (hstep : s.insertInitialWorkshopOwner workshop user = .ok t) :
    t.Sound ∧ s.LawfulStep (.insertInitialWorkshopOwner workshop user) t := by
  obtain ⟨hempty, rfl⟩ := insertInitialWorkshopOwner_ok hstep
  constructor
  · refine h.of_same (h.owners.founded hempty rfl) (fun w u howned => ?_) rfl rfl le_rfl
    have hne : (w, u) ≠ (workshop, user) := by
      intro heq
      rw [owned, heq, hempty] at howned
      cases howned
    exact (owned_insert_of_ne hne).trans howned
  · refine LawfulStep.of_insert rfl (by simp) (fun _ => rfl) (fun before hbefore => ?_)
    rw [hempty] at hbefore
    cases hbefore

/-- Somebody joins who is not a member yet, or has the role already. -/
theorem Sound.joined {id : Uuid} {tokenGeneration : Nat} (h : s.Sound)
    (horderly : s.orderly (.acceptInvitation id user tokenGeneration) = true)
    (hstep : s.acceptInvitationMembership id user tokenGeneration = .ok t) :
    t.Sound ∧ s.LawfulStep (.acceptInvitation id user tokenGeneration) t := by
  obtain ⟨invitation, hinvitation, howner, rfl⟩ := acceptInvitationMembership_ok hstep
  have hsettled : ∀ row, s.memberships.lookup (invitation.workshop, user) = some row →
      row.role = invitation.role ∧ row.status = .active := by
    intro row hrow
    simpa [orderly, hinvitation, hrow] using horderly
  have hrow : (invited invitation.role
      (s.memberships.lookup (invitation.workshop, user))).owns = false := by
    apply owns_eq_false
    cases s.memberships.lookup (invitation.workshop, user) with
    | none | some row => exact invitation.invitable
  have hbefore : owned s.memberships invitation.workshop user = false := by
    cases hmember : s.memberships.lookup (invitation.workshop, user) with
    | none => rw [owned, hmember, Option.any_none]
    | some row =>
      rw [owned_of_lookup hmember]
      apply owns_eq_false
      rw [(hsettled row hmember).1]
      exact invitation.invitable
  constructor
  · refine h.of_same (h.owners.changed hrow hbefore howner) (fun w u howned => ?_) rfl rfl le_rfl
    exact (owned_insert_of_not_owns hrow hbefore w u).trans howned
  refine LawfulStep.of_insert rfl (by simp) (fun howns => ?_) (fun before hmember hchanged => ?_)
  · rw [hrow] at howns
    cases howns
  · obtain ⟨hrole, hactive⟩ := hsettled before hmember
    rw [hmember, hrole, hactive] at hchanged
    simp [invited] at hchanged

/-- A member that is not an owner is rewritten, at a new epoch and version. -/
theorem Sound.rewritten {change : Membership → Membership} (h : s.Sound)
    (hstep : s.Rewritten workshop user change t)
    (hevent : ∀ user id clock expected, event ≠ .acceptOwnershipTransfer user id clock expected)
    (hrole : ∀ row : Membership, row.role ≠ .owner → (change row).role ≠ .owner)
    (hversion : ∀ row : Membership, row.FollowedBy (change row)) :
    t.Sound ∧ s.LawfulStep event t := by
  obtain ⟨row, hrow, hmember, howner, rfl⟩ := hstep
  have hafter := owns_eq_false (hrole row hmember)
  have hbefore : owned s.memberships workshop user = false := by
    rw [owned_of_lookup hrow]
    exact owns_eq_false hmember
  constructor
  · refine h.of_same (h.owners.changed hafter hbefore howner) (fun w u howned => ?_) rfl rfl le_rfl
    exact (owned_insert_of_not_owns hafter hbefore w u).trans howned
  refine LawfulStep.of_insert rfl hevent (fun howns => ?_) (fun before hfound => ?_)
  · rw [hafter] at howns
    cases howns
  · rw [hrow] at hfound
    cases hfound
    exact hversion row

/-- The owner offers the workshop while no other transfer of it is open. -/
theorem Sound.offers {scope : WorkshopScope} {id toUser : Uuid} {expected : Nat} (h : s.Sound)
    (horderly : s.orderly (.createOwnershipTransfer scope id toUser expected) = true)
    (hstep : s.createOwnershipTransfer scope id toUser expected = .ok t) :
    t.Sound ∧ s.LawfulStep (.createOwnershipTransfer scope id toUser expected) t := by
  obtain ⟨howner, hnew, workshops, distinct, rfl⟩ := createOwnershipTransfer_ok hstep
  have hnone : ∀ other transfer, s.transfers.lookup other = some transfer →
      transfer.isOpen s.now = true → transfer.workshop ≠ scope.workshop := by
    intro other transfer hfound hopen heq
    simp only [orderly, allRows_iff] at horderly
    have hclosed := horderly other transfer hfound
    simp [heq, hopen] at hclosed
  refine ⟨⟨h.owners, ?_, ?_, ?_, h.accepted_once⟩, LawfulStep.of_same rfl (by simp)⟩
  · exact forall_insert h.offered fun _ => howner
  · intro first second transfer transfer' hfirst hsecond hopen hopen' hworkshop
    obtain ⟨rfl, rfl⟩ | ⟨-, hold⟩ := lookup_insert_cases hfirst
    · obtain ⟨rfl, -⟩ | ⟨-, hold'⟩ := lookup_insert_cases hsecond
      · rfl
      · exact absurd hworkshop.symm (hnone second transfer' hold' hopen')
    · obtain ⟨rfl, rfl⟩ | ⟨-, hold'⟩ := lookup_insert_cases hsecond
      · exact absurd hworkshop (hnone first transfer hold hopen)
      · exact h.single first second transfer transfer' hold hold' hopen hopen' hworkshop
  · intro other hother
    obtain ⟨transfer, hfound, haccepted⟩ := h.accepted other hother
    exact ⟨transfer, le_insert hnew _ other transfer hfound, haccepted⟩

/-- In an orderly run an acceptance finds the creator still owner. -/
theorem Sound.owner_of_acceptance {id : Uuid} {clock : Timestamp} {transfer : OwnershipTransfer}
    {creator recipient : Membership} (h : s.Sound) (hclock : s.now ≤ clock)
    (hacceptance : s.Acceptance user id clock transfer creator recipient) :
    transfer.isOpen s.now = true ∧
      owned s.memberships transfer.workshop transfer.fromUser = true := by
  have hopen : transfer.isOpen s.now = true := by
    simp [OwnershipTransfer.isOpen, hacceptance.unaccepted, hacceptance.unrevoked,
      lt_of_le_of_lt hclock hacceptance.unexpired]
  exact ⟨hopen, h.offered id transfer hacceptance.found hopen⟩

section Accepting

variable {user id : Uuid} {clock : Timestamp} {transfer : OwnershipTransfer}
  {creator recipient : Membership} {workshops : Table Uuid Workshop}

theorem Sound.handedOver (h : s.Sound) (hclock : s.now ≤ clock)
    (hacceptance : s.Acceptance user id clock transfer creator recipient) :
    (s.handedOver id transfer creator recipient workshops).Sound := by
  obtain ⟨hopen, howner⟩ := h.owner_of_acceptance hclock hacceptance
  have hraised : (recipient.withRole .owner).owns = true := by
    simp [owns, withRole, hacceptance.recipient_active]
  -- An open transfer afterwards is an old one of another workshop.
  have hothers : ∀ other transfer', (s.handedOver id transfer creator recipient
      workshops).transfers.lookup other = some transfer' → transfer'.isOpen s.now = true →
      s.transfers.lookup other = some transfer' ∧ transfer'.workshop ≠ transfer.workshop := by
    intro other transfer' hfound hopen'
    obtain ⟨-, rfl⟩ | ⟨hne, hold⟩ := lookup_insert_cases hfound
    · cases hopen'
    · exact ⟨hold, fun heq => hne
        (h.single other id transfer' transfer hold hacceptance.found hopen' hopen heq)⟩
  constructor
  · exact h.owners.handed rfl hraised howner
  · intro other transfer' hfound hopen'
    obtain ⟨hold, hworkshop⟩ := hothers other transfer' hfound hopen'
    have hkey : ∀ member, (transfer'.workshop, transfer'.fromUser) ≠ (transfer.workshop, member) :=
      fun member heq => hworkshop (Prod.mk.inj heq).1
    exact ((owned_insert_of_ne (hkey _)).trans (owned_insert_of_ne (hkey _))).trans
      (h.offered other transfer' hold hopen')
  · intro first second transfer' transfer'' hfirst hsecond hopen' hopen'' hworkshop
    exact h.single first second transfer' transfer'' (hothers _ _ hfirst hopen').1
      (hothers _ _ hsecond hopen'').1 hopen' hopen'' hworkshop
  · intro other hother
    by_cases heq : other = id
    · subst other
      exact ⟨_, AList.lookup_insert _, rfl⟩
    · obtain ⟨transfer', hfound, haccepted⟩ :=
        h.accepted other ((List.mem_cons.mp hother).resolve_left heq)
      exact ⟨transfer', (AList.lookup_insert_ne heq).trans hfound, haccepted⟩
  · refine List.nodup_cons.mpr ⟨fun hmem => ?_, h.accepted_once⟩
    obtain ⟨transfer', hfound, haccepted⟩ := h.accepted id hmem
    rw [hacceptance.found] at hfound
    cases hfound
    rw [hacceptance.unaccepted] at haccepted
    cases haccepted

theorem lawfulStep_handedOver {expected : Nat}
    (howner : owned s.memberships transfer.workshop transfer.fromUser = true)
    (hacceptance : s.Acceptance user id clock transfer creator recipient) :
    s.LawfulStep (.acceptOwnershipTransfer user id clock expected)
      (s.handedOver id transfer creator recipient workshops) where
  new_owner := by
    intro workshop member hbefore hafter
    by_cases hrecipient : (workshop, member) = (transfer.workshop, transfer.toUser)
    · obtain ⟨rfl, rfl⟩ := Prod.mk.inj hrecipient
      rw [← hacceptance.recipient_eq]
      exact Or.inr ⟨id, clock, expected, transfer, rfl, hacceptance.found, rfl, rfl, howner⟩
    · have hlower := (owned_insert_of_ne hrecipient).symm.trans hafter
      by_cases hcreator : (workshop, member) = (transfer.workshop, transfer.fromUser)
      · obtain ⟨rfl, rfl⟩ := Prod.mk.inj hcreator
        rw [owned_insert_self] at hlower
        cases hlower
      · rw [owned_insert_of_ne hcreator, hbefore] at hlower
        cases hlower
  not_raised := by
    intro member other time version found before after heq hfound hbefore hafter permission
    cases heq
    rw [hacceptance.found] at hfound
    cases hfound
    rw [owned_of_lookup hbefore] at howner
    have hrole : before.role = .owner := of_decide_eq_true (Bool.and_eq_true_iff.mp howner).1
    intro _
    rw [hrole]
    cases permission <;> rfl
  versioned := by
    intro key before hbefore
    by_cases hrecipient : key = (transfer.workshop, transfer.toUser)
    · subst key
      rw [hacceptance.recipient_row] at hbefore
      cases hbefore
      exact ⟨_, AList.lookup_insert _, recipient.followedBy_withRole _⟩
    · have hlookup : (s.handedOver id transfer creator recipient workshops).memberships.lookup key =
          (s.memberships.insert (transfer.workshop, transfer.fromUser)
            (creator.withRole .studioManager)).lookup key := AList.lookup_insert_ne hrecipient
      rw [hlookup]
      by_cases hcreator : key = (transfer.workshop, transfer.fromUser)
      · subst key
        rw [hacceptance.creator_row] at hbefore
        cases hbefore
        exact ⟨_, AList.lookup_insert _, creator.followedBy_withRole _⟩
      · exact ⟨before, (AList.lookup_insert_ne hcreator).trans hbefore,
          fun hchanged => absurd hchanged (by simp)⟩

end Accepting

theorem toOption_eq_some {ε α : Type} {result : Except ε α} {value : α}
    (h : result.toOption = some value) : result = .ok value := by
  cases result with
  | error error => cases h
  | ok other =>
    cases h
    rfl

theorem Sound.step (h : s.Sound) (horderly : s.orderly event = true)
    (hstep : s.step event = some t) :
    t.Sound ∧ s.LawfulStep event t := by
  cases event with
  | insertInitialWorkshopOwner workshop user => exact h.founded (toOption_eq_some hstep)
  | acceptInvitation id user tokenGeneration => exact h.joined horderly (toOption_eq_some hstep)
  | updateMember scope user role expected =>
    obtain ⟨hrole, hrewritten⟩ := updateMember_ok (toOption_eq_some hstep)
    exact h.rewritten hrewritten (by simp) (fun _ _ => hrole)
      (fun row => row.followedBy_withRole role)
  | removeMember scope user expected =>
    exact h.rewritten (removeMember_ok (toOption_eq_some hstep)) (by simp) (fun _ hrow => hrow)
      followedBy_revoke
  | createOwnershipTransfer scope id toUser expected =>
    exact h.offers horderly (toOption_eq_some hstep)
  | acceptOwnershipTransfer user id clock expected =>
    obtain ⟨transfer, creator, recipient, workshops, hacceptance, rfl⟩ :=
      acceptOwnershipTransfer_ok (toOption_eq_some hstep)
    have hclock : s.now ≤ clock := of_decide_eq_true horderly
    exact ⟨h.handedOver hclock hacceptance,
      lawfulStep_handedOver (h.owner_of_acceptance hclock hacceptance).2 hacceptance⟩
  | addUser user email | writeWorkshop workshop row =>
    cases hstep
    exact ⟨h.of_same h.owners (fun _ _ => id) rfl rfl le_rfl, LawfulStep.of_same rfl (by simp)⟩
  | writeInvitation id invitation =>
    cases hstep
    exact ⟨h.of_same h.owners (fun _ _ howned => howned) rfl rfl le_rfl,
      LawfulStep.of_same rfl (by simp)⟩
  | advance elapsed =>
    cases hstep
    exact ⟨h.of_same h.owners (fun _ _ => id) rfl rfl (Nat.le_add_right _ _),
      LawfulStep.of_same rfl (by simp)⟩

/-- **One owner in orderly runs.** In every state an orderly run reaches each workshop
with members has one active owner and no transfer was accepted twice, and every orderly
commit from there makes an owner only of the first member or of the recipient of the
owner's transfer, raises no creator, and gives each changed membership a new epoch and
version. -/
theorem lawful_of_orderly {now : Timestamp} {events : List AccountEvent} {s : Accounts}
    (hrun : RunWhere step (fun s event => s.orderly event = true) (initial now) events s) :
    s.Lawful ∧ ∀ event t, s.orderly event = true → s.step event = some t →
      s.LawfulStep event t := by
  have hsound : s.Sound :=
    hrun.invariant (P := Sound) (fun _ _ _ h horderly hstep => (h.step horderly hstep).1)
      (sound_initial now)
  exact ⟨hsound.lawful, fun event t horderly hstep => (hsound.step horderly hstep).2⟩

/-- An owner, `1`, and two invited members of one workshop. -/
def threeMembers : List AccountEvent :=
  [.writeWorkshop 1 ⟨true, 1⟩, .insertInitialWorkshopOwner 1 1, .addUser 2 "b", .addUser 3 "c",
    .writeInvitation 10 ⟨1, "b", .viewer, 1, 1000, none, none, by decide⟩,
    .writeInvitation 11 ⟨1, "c", .viewer, 1, 1000, none, none, by decide⟩,
    .acceptInvitation 10 2 1, .acceptInvitation 11 3 1]

/-- One transfer after another: the owner hands over, and the new owner hands back. -/
theorem lawful_of_two_transfers :
    ∃ s, RunWhere step (fun s event => s.orderly event = true) (initial 0)
      (threeMembers ++ [.createOwnershipTransfer ⟨1, 1, .owner, 1⟩ 20 2 1,
        .acceptOwnershipTransfer 2 20 5 2, .createOwnershipTransfer ⟨1, 2, .owner, 2⟩ 21 1 3,
        .acceptOwnershipTransfer 1 21 5 4]) s ∧ s.Lawful ∧
      ∀ event t, s.orderly event = true → s.step event = some t → s.LawfulStep event t := by
  have hreplay : (replayWhere step orderly (initial 0)
      (threeMembers ++ [.createOwnershipTransfer ⟨1, 1, .owner, 1⟩ 20 2 1,
        .acceptOwnershipTransfer 2 20 5 2, .createOwnershipTransfer ⟨1, 2, .owner, 2⟩ 21 1 3,
        .acceptOwnershipTransfer 1 21 5 4])).isSome = true := by
    decide +kernel
  obtain ⟨s, hs⟩ := Option.isSome_iff_exists.mp hreplay
  have hrun := runWhere_of_replayWhere hs
  exact ⟨s, hrun, lawful_of_orderly hrun⟩

/-- The owner offers the workshop to both members; the first to accept makes the former
owner a viewer. -/
def twoOffers : List AccountEvent :=
  threeMembers ++ [.createOwnershipTransfer ⟨1, 1, .owner, 1⟩ 20 2 1,
    .createOwnershipTransfer ⟨1, 1, .owner, 1⟩ 21 3 2, .acceptOwnershipTransfer 2 20 5 3,
    .updateMember ⟨1, 2, .owner, 2⟩ 1 .viewer 2]

/-- A member is invited again, to another role. -/
def invitedAgain : List AccountEvent :=
  threeMembers ++ [.writeInvitation 12 ⟨1, "b", .artisan, 1, 1000, none, none, by decide⟩]

/-- The second acceptance makes a second owner, on the transfer of somebody who is not
owner, and lifts that creator from viewer to manager. And an invitation accepted again
changes a role without a new version. -/
theorem ownership_splits : (∃ s t, Run step (initial 0) twoOffers s ∧
      s.step (.acceptOwnershipTransfer 3 21 5 4) = some t ∧
      owned t.memberships 1 2 = true ∧ owned t.memberships 1 3 = true ∧
      owned s.memberships 1 1 = false ∧ owned s.memberships 1 3 = false ∧
      (s.transfers.lookup 21).map (fun transfer => (transfer.fromUser, transfer.toUser)) =
        some (1, 3) ∧
      (s.memberships.lookup (1, 1)).map role = some .viewer ∧
      (t.memberships.lookup (1, 1)).map role = some .studioManager) ∧
    ∃ s t, Run step (initial 0) invitedAgain s ∧ s.step (.acceptInvitation 12 2 1) = some t ∧
      (s.memberships.lookup (1, 2)).map (fun row => (row.role, row.version)) = some (.viewer, 1) ∧
      (t.memberships.lookup (1, 2)).map (fun row => (row.role, row.version)) =
        some (.artisan, 1) := by
  have hsplit : ((replay step (initial 0) twoOffers).any fun s =>
      (s.step (.acceptOwnershipTransfer 3 21 5 4)).any fun t => decide (
        owned t.memberships 1 2 = true ∧ owned t.memberships 1 3 = true ∧
        owned s.memberships 1 1 = false ∧ owned s.memberships 1 3 = false ∧
        (s.transfers.lookup 21).map (fun transfer => (transfer.fromUser, transfer.toUser)) =
          some (1, 3) ∧
        (s.memberships.lookup (1, 1)).map role = some .viewer ∧
        (t.memberships.lookup (1, 1)).map role = some .studioManager)) = true := by
    decide +kernel
  have hinvited : ((replay step (initial 0) invitedAgain).any fun s =>
      (s.step (.acceptInvitation 12 2 1)).any fun t => decide (
        (s.memberships.lookup (1, 2)).map (fun row => (row.role, row.version)) = some (.viewer, 1) ∧
        (t.memberships.lookup (1, 2)).map (fun row => (row.role, row.version)) =
          some (.artisan, 1))) = true := by
    decide +kernel
  obtain ⟨s, hs, hnext⟩ := (Option.any_eq_true _ _).mp hsplit
  obtain ⟨t, ht, hfacts⟩ := (Option.any_eq_true _ _).mp hnext
  obtain ⟨s', hs', hnext'⟩ := (Option.any_eq_true _ _).mp hinvited
  obtain ⟨t', ht', hfacts'⟩ := (Option.any_eq_true _ _).mp hnext'
  exact ⟨⟨s, t, run_of_replay hs, ht, of_decide_eq_true hfacts⟩,
    ⟨s', t', run_of_replay hs', ht', of_decide_eq_true hfacts'⟩⟩

end Accounts

end ControlPlane.Memberships
