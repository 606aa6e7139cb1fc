import UssdKernel.Core.Data
import UssdKernel.Core.Runs

/-!
# Owners of an application

`transfer_ownership` promotes one membership and demotes another by two updates
that do not look at each other: the promotion may find no row of the
application, and the demoted membership need not be the owner.
-/

namespace UssdKernel.Accounts.Ownership

open Runs

inductive MembershipType
  | owner
  | admin
  | member
  | guest
  | service
  deriving DecidableEq

/-- The columns of `app.account_membership` that the two functions read or that
its keys are on. -/
structure Membership where
  membershipId : Uuid
  applicationId : Uuid
  userIdentityId : Uuid
  membershipType : MembershipType
  deriving DecidableEq

/-- A call, with the answers of `check_permission`.  The row of an invitation
has the drawn identifier, and the rows that it refers to may not exist. -/
inductive Call
  | invite (new : Membership) (permitted referencesExist : Bool)
  | transfer (applicationId newOwner transferredBy : Uuid) (administers : Bool)

def InApplication (applicationId : Uuid) (table : List Membership) (id : Uuid) :
    Prop :=
  ∃ row ∈ table, row.membershipId = id ∧ row.applicationId = applicationId

def IsOwner (applicationId : Uuid) (table : List Membership) (id : Uuid) : Prop :=
  ∃ row ∈ table, row.membershipId = id ∧ row.applicationId = applicationId ∧
    row.membershipType = .owner

instance (applicationId : Uuid) (table : List Membership) (id : Uuid) :
    Decidable (IsOwner applicationId table id) :=
  inferInstanceAs (Decidable (∃ row ∈ table, _))

instance (applicationId : Uuid) (table : List Membership) (id : Uuid) :
    Decidable (InApplication applicationId table id) :=
  inferInstanceAs (Decidable (∃ row ∈ table, _))

/-- `UPDATE … SET membership_type WHERE membership_id AND application_id` -/
def setType (applicationId id : Uuid) (membershipType : MembershipType)
    (row : Membership) : Membership :=
  if row.membershipId = id ∧ row.applicationId = applicationId then
    { row with membershipType }
  else row

section Table

variable (table : List Membership)

def inviteMember (new : Membership) (permitted referencesExist : Bool) :
    Except String (List Membership) :=
  if permitted = false then
    .error "ISO 27001: Insufficient privileges to invite members"
  else if new.membershipType = .owner then
    .error "Use transfer_ownership() to assign owner role"
  else if ∃ row ∈ table, row.membershipId = new.membershipId ∨
      row.applicationId = new.applicationId ∧
        row.userIdentityId = new.userIdentityId then
    .error "duplicate key value violates unique constraint"
  else if referencesExist = false then
    .error "insert violates foreign key constraint"
  else .ok (table ++ [new])

def transferOwnership (applicationId newOwner transferredBy : Uuid)
    (administers : Bool) :
    Except String (List Membership) :=
  if ¬ IsOwner applicationId table transferredBy ∧ administers = false then
    .error "Only current owner or platform admin can transfer ownership"
  else
    .ok ((table.map (setType applicationId newOwner .owner)).map
      (setType applicationId transferredBy .admin))

def Call.perform :
    Call → Except String (List Membership)
  | .invite new permitted referencesExist =>
      inviteMember table new permitted referencesExist
  | .transfer applicationId newOwner transferredBy administers =>
      transferOwnership table applicationId newOwner transferredBy administers

/-- A call that fails has no effect. -/
def step (call : Call) : List Membership :=
  match call.perform table with
  | .ok after => after
  | .error _ => table

end Table

/-- Rows are identified by `membership_id`, the primary key. -/
def OneOwner (applicationId : Uuid) (table : List Membership) : Prop :=
  ∃! id, IsOwner applicationId table id

/-- A transfer that goes through is made by the owner to another membership of
the application, or by somebody else and promotes nobody that stays promoted
beside the owner. -/
def KeepsOwner (applicationId : Uuid) (table : List Membership) : Call → Prop
  | .invite _ _ _ => True
  | .transfer application newOwner transferredBy administers =>
      application = applicationId →
        (IsOwner applicationId table transferredBy ∧ newOwner ≠ transferredBy ∧
            InApplication applicationId table newOwner) ∨
          ¬ IsOwner applicationId table transferredBy ∧
            (administers = true → ¬ InApplication applicationId table newOwner ∨
              IsOwner applicationId table newOwner ∨ newOwner = transferredBy)

section Owners

variable {applicationId : Uuid} {table : List Membership}

variable (applicationId table) in
/-- The owners after the two updates. -/
theorem isOwner_updated (application newOwner transferredBy id : Uuid) :
    IsOwner applicationId ((table.map (setType application newOwner .owner)).map
        (setType application transferredBy .admin)) id ↔
      if application = applicationId then
        (IsOwner applicationId table id ∨
          id = newOwner ∧ InApplication applicationId table id) ∧
            id ≠ transferredBy
      else IsOwner applicationId table id := by
  simp only [IsOwner, InApplication, List.mem_map, exists_exists_and_eq_and]
  by_cases happlication : application = applicationId
  · rw [if_pos happlication]
    grind [setType]
  · rw [if_neg happlication]
    grind [setType]

/-- With one owner before it, a call keeps one owner exactly under the
condition. -/
theorem oneOwner_step_iff (howner : OneOwner applicationId table) (call : Call) :
    OneOwner applicationId (step table call) ↔
      KeepsOwner applicationId table call := by
  cases call with
  | invite new permitted referencesExist =>
      refine iff_of_true ?_ trivial
      rw [step, Call.perform, inviteMember]
      split_ifs with hpermitted htype hduplicate hreferences
      · exact howner
      · exact howner
      · exact howner
      · exact howner
      · simpa [OneOwner, IsOwner, or_and_right, exists_or, htype] using howner
  | transfer application newOwner transferredBy administers =>
      have hupdated := isOwner_updated applicationId table application newOwner
        transferredBy
      rw [step, Call.perform, transferOwnership, KeepsOwner]
      obtain ⟨owner, howns, hunique⟩ := howner
      by_cases happlication : application = applicationId
      · subst happlication
        rw [forall_prop_of_true rfl]
        by_cases hby : IsOwner application table transferredBy
        · -- the one owner is demoted, and the promoted membership is left
          obtain rfl := hunique transferredBy hby
          rw [if_neg fun hrefused => hrefused.1 hby]
          simp only [OneOwner, hupdated, if_true]
          constructor
          · rintro ⟨id, ⟨hid | ⟨rfl, hin⟩, hne⟩, -⟩
            · exact absurd (hunique id hid) hne
            · exact Or.inl ⟨hby, hne, hin⟩
          · rintro (⟨-, hne, hin⟩ | ⟨hnot, -⟩)
            · refine ⟨newOwner, ⟨Or.inr ⟨rfl, hin⟩, hne⟩, ?_⟩
              rintro id ⟨hid | ⟨rfl, -⟩, hother⟩
              · exact absurd (hunique id hid) hother
              · rfl
            · exact absurd hby hnot
        · have hne : owner ≠ transferredBy := fun heq => hby (heq ▸ howns)
          cases administers with
          | false =>
              rw [if_pos ⟨hby, rfl⟩]
              exact iff_of_true ⟨owner, howns, hunique⟩
                (Or.inr ⟨hby, fun hfalse => by cases hfalse⟩)
          | true =>
              simp only [Bool.true_eq_false, and_false, if_false, OneOwner,
                hupdated, if_true]
              -- the owner stays, alone unless somebody is promoted beside it
              constructor
              · rintro ⟨id, -, honly⟩
                refine Or.inr ⟨hby, fun _ => ?_⟩
                by_contra hbeside
                push Not at hbeside
                have hfirst := honly owner ⟨Or.inl howns, hne⟩
                have hsecond := honly newOwner
                  ⟨Or.inr ⟨rfl, hbeside.1⟩, hbeside.2.2⟩
                exact hbeside.2.1 (hsecond.trans hfirst.symm ▸ howns)
              · rintro (⟨hnot, -⟩ | ⟨-, hcondition⟩)
                · exact absurd hnot hby
                · refine ⟨owner, ⟨Or.inl howns, hne⟩, ?_⟩
                  rintro id ⟨hid | ⟨rfl, hidIn⟩, hother⟩
                  · exact hunique id hid
                  · rcases hcondition trivial with hout | hid | hsame
                    · exact absurd hidIn hout
                    · exact hunique id hid
                    · exact absurd hsame hother
      · rw [forall_prop_of_false happlication]
        refine iff_of_true ?_ trivial
        split_ifs with hrefused
        · exact ⟨owner, howns, hunique⟩
        · simp only [OneOwner, hupdated, if_neg happlication]
          exact ⟨owner, howns, hunique⟩

/-- An application with one owner keeps exactly one after every call exactly if
every transfer meets the condition. -/
theorem one_owner_after_every_call_iff (howner : OneOwner applicationId table)
    (calls : List Call) :
    Throughout step (fun table call =>
        OneOwner applicationId (step table call)) calls table ↔
      Throughout step (KeepsOwner applicationId) calls table := by
  have hassumed : Throughout step (fun _ _ => True) calls table :=
    throughout_of_forall (fun _ _ => trivial) calls table
  exact throughout_congr (fun _ call htable _ => oneOwner_step_iff htable call)
    (fun _ _ _ hone => hone) howner hassumed

end Owners

namespace Samples

/-- Application 1 with the owner 10 and the member 20, and application 2 with
the owner 30. -/
def memberships : List Membership :=
  [⟨10, 1, 100, .owner⟩, ⟨20, 1, 200, .member⟩, ⟨30, 2, 300, .owner⟩]

theorem oneOwner_memberships : OneOwner 1 memberships := by
  refine ⟨10, by decide, ?_⟩
  rintro id ⟨row, hrow, rfl, happlication, howner⟩
  simp only [memberships, List.mem_cons, List.not_mem_nil, or_false] at hrow
  rcases hrow with rfl | rfl | rfl
  · rfl
  · cases howner
  · exact absurd happlication (by decide)

end Samples

/-- The owner hands the application to its member. -/
theorem one_owner_after_transfer :
    Throughout step (fun table call => OneOwner 1 (step table call))
      [.transfer 1 20 10 false] Samples.memberships :=
  (one_owner_after_every_call_iff Samples.oneOwner_memberships _).mpr
    ⟨fun _ => Or.inl ⟨by decide, by decide, by decide⟩, trivial⟩

/-- Without an owner after the owner's transfer to itself or to a membership of
another application, and with two after an administrator's transfer. -/
theorem owners_lost_and_doubled :
    (∀ row ∈ step Samples.memberships (.transfer 1 10 10 false),
        ¬ (row.applicationId = 1 ∧ row.membershipType = .owner)) ∧
      (∀ row ∈ step Samples.memberships (.transfer 1 30 10 false),
        ¬ (row.applicationId = 1 ∧ row.membershipType = .owner)) ∧
        IsOwner 1 (step Samples.memberships (.transfer 1 20 99 true)) 10 ∧
          IsOwner 1 (step Samples.memberships (.transfer 1 20 99 true)) 20 := by
  decide +kernel

end UssdKernel.Accounts.Ownership
