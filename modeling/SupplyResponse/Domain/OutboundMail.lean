/-
Revisions and deliveries of the supplier email of a Decision.
-/
import SupplyResponse.Domain.Execution

namespace SupplyResponse

inductive SupplierEmailSendStatus
  | draft
  | submitting
  | accepted
  | sentConfirmed
  | failed
  | uncertain
  deriving DecidableEq, Repr

/-- `require_email_shape`, before lower-casing: a local part, an `@`, a domain,
no white space. -/
def IsEmailShape (address : String) : Prop :=
  ∃ i < address.toList.length, address.toList[i]? = some '@' ∧
    '@' ∉ address.toList.take i ∧ 0 < i ∧ i + 1 < address.toList.length ∧
    ∀ c ∈ address.toList, isSpace c = false

instance (address : String) : Decidable (IsEmailShape address) :=
  decidable_of_iff (∃ i < address.toList.length, address.toList[i]? = some '@' ∧
      '@' ∉ address.toList.take i ∧ 0 < i ∧ i + 1 < address.toList.length ∧
      address.toList.all (fun c => !isSpace c) = true)
    (by simp only [IsEmailShape, List.all_eq_true, Bool.not_eq_true'])

structure SupplierEmailRevision where
  emailId : String
  decisionId : String
  actionId : String
  revision : Nat
  subject : String
  body : String
  fromAddress : String
  toAddress : String
  editedBy : IdentitySnapshot
  editedAt : Instant
  reviewedBy : Option IdentitySnapshot
  reviewedAt : Option Instant
  valid : 0 < revision ∧ (∀ text ∈ [emailId, decisionId, actionId, subject, body, fromAddress,
      toAddress], Nonblank text) ∧
    subject.length ≤ 255 ∧ body.length ≤ 10000 ∧ fromAddress.length ≤ 320 ∧
    toAddress.length ≤ 320 ∧ IsEmailShape fromAddress ∧ IsEmailShape toAddress ∧
    (reviewedBy.isNone ↔ reviewedAt.isNone)
  deriving DecidableEq

structure SupplierEmailDelivery where
  emailId : String
  decisionId : String
  reviewedRevision : Option Nat
  sendStatus : SupplierEmailSendStatus
  providerMessageId : Option String
  internetMessageId : Option String
  correlationId : Option String
  statusUpdatedAt : Instant
  failureCode : Option String
  valid : Nonblank emailId ∧ Nonblank decisionId ∧ ∀ n ∈ reviewedRevision, 0 < n
  deriving DecidableEq

end SupplyResponse
