import Mathlib
import Dure.Library.Machine
import Dure.Orchestration.Store.Service
import Dure.Orchestration.Store.EventReads
import Dure.Orchestration.Store.Deadlines
import Dure.Orchestration.Store.Queries
import Dure.Orchestration.Store.Validation

/-! The store as a machine: any number of clients' requests, in the order in which they are
applied. A failed request leaves the snapshot as it was.
-/

namespace Dure.Orchestration

open Library Update

inductive Operation where
  | createRun (request : CreateRunRequest) (context : DispatchContextReceipt)
    (fingerprint : String)
  | openInteraction (request : OpenInteractionRequest) (fingerprint : String)
  | answer (request : AnswerDecisionRequest) (fingerprint : String)
  | complete (request : CompleteDispatchRequest) (fingerprint : String)
  | transitionDeliveryWake (request : TransitionDeliveryWakeRequest)
  | readEvents (request : ReadEventsRequest) (acknowledgementFingerprint : Option String)
    (clock : Option Nat)
  | readEventsBatch (authority : AuthorityScope)
    (requests : List (ReadEventsStoreRequest × Option Nat))
  | setDispatchDeadline (request : SetDispatchDeadlineRequest) (fingerprint : String)
  | expireDispatchDeadlines (nowMs : Int)
  | interaction (request : GetInteractionRequest)
  | interactionProgress (request : GetInteractionRequest)
  | inspectEvents (inspection : InspectEventsRequest)
  | dispatchDeadline (request : GetDispatchDeadlineRequest)

inductive Reply where
  | createRun (receipt : CreateRunReceipt)
  | openInteraction (receipt : OpenInteractionReceipt)
  | answer (receipt : AnswerDecisionReceipt)
  | complete (receipt : CompleteDispatchReceipt)
  | transitionDeliveryWake (receipt : TransitionDeliveryWakeReceipt)
  | readEvents (receipt : ReadEventsReceipt) (changed : Bool)
  | readEventsBatch (results : List (Except StoreError ReadEventsReceipt)) (changed : Bool)
  | deadline (receipt : DispatchDeadlineReceipt)
  | expired (count : Nat)
  | interaction (record : Option InteractionRecord)
  | interactionProgress (progress : Option InteractionProgressReceipt)
  | inspectEvents (receipt : ReadEventsReceipt)
  deriving DecidableEq

/-- The reply repeats an earlier one. -/
def Reply.idempotent : Reply → Bool
  | .createRun receipt => receipt.idempotent
  | .openInteraction receipt => receipt.idempotent
  | .answer receipt => receipt.idempotent
  | .complete receipt => receipt.idempotent
  | .deadline receipt => receipt.idempotent
  | _ => false

section Hash

variable (sha256 : String → String)

/-- The transition an operation applies to the snapshot. -/
def Operation.transition : Operation → StoreM Reply
  | .createRun request context fingerprint =>
    .createRun <$> Orchestration.createRun sha256 request context fingerprint
  | .openInteraction request fingerprint =>
    .openInteraction <$> Orchestration.openInteraction sha256 request fingerprint
  | .answer request fingerprint =>
    .answer <$> Orchestration.answer sha256 request fingerprint
  | .complete request fingerprint =>
    .complete <$> Orchestration.complete sha256 request fingerprint
  | .transitionDeliveryWake request =>
    .transitionDeliveryWake <$> Orchestration.transitionDeliveryWake request
  | .readEvents request fingerprint clock =>
    (fun (receipt, changed) => .readEvents receipt changed)
      <$> Orchestration.readEvents request fingerprint clock
  | .readEventsBatch authority requests =>
    (fun (results, changed) => .readEventsBatch results changed)
      <$> Orchestration.readEventsBatch authority requests
  | .setDispatchDeadline request fingerprint =>
    .deadline <$> Orchestration.setDispatchDeadline sha256 request fingerprint
  | .expireDispatchDeadlines nowMs =>
    .expired <$> Orchestration.expireDispatchDeadlines sha256 nowMs
  | .interaction request => (fun state => .interaction (state.interaction request)) <$> get
  | .interactionProgress request =>
    (fun state => .interactionProgress (state.interactionProgress request)) <$> get
  | .inspectEvents inspection => do
      .inspectEvents <$> check ((← get).inspectEvents inspection) id
  | .dispatchDeadline request => do
      .deadline <$> check ((← get).dispatchDeadline request) id

/-- The reference adapter: the transition runs on a candidate, which replaces the snapshot
only when it succeeds. -/
def StoreState.perform (state : StoreState) (operation : Operation)
    : Except StoreError Reply × StoreState :=
  match operation.transition sha256 state with
  | .ok reply candidate => (.ok reply, candidate)
  | .error error _ => (.error error, state)

def store : Machine StoreState Operation (Except StoreError Reply) :=
  ⟨StoreState.perform sha256⟩

end Hash

variable {operation : Operation} {state : StoreState}

theorem perform_ok
    : (state.perform sha256 operation).1 = .ok reply
      ↔ operation.transition sha256 state
          = .ok reply (state.perform sha256 operation).2 := by
  unfold StoreState.perform
  cases applied : operation.transition sha256 state <;> simp

/-- A request that fails changes nothing. -/
theorem perform_error (failed : (state.perform sha256 operation).1 = .error error)
    : (state.perform sha256 operation).2 = state := by
  unfold StoreState.perform at failed ⊢
  cases applied : operation.transition sha256 state <;> simp_all

/-- A request applies its transition or changes nothing. -/
theorem perform_cases (sha256 : String → String) (state : StoreState) (operation : Operation)
    : (∃ reply, operation.transition sha256 state
        = .ok reply (state.perform sha256 operation).2)
      ∨ (state.perform sha256 operation).2 = state := by
  unfold StoreState.perform
  cases applied : operation.transition sha256 state with
  | ok reply candidate => exact Or.inl ⟨reply, rfl⟩
  | error error partially => exact Or.inr rfl

/-- A property of a snapshot is kept by the machine when every successful transition keeps
it. -/
theorem perform_keeps {sha256 : String → String} {property : StoreState → Prop}
    (keeps
      : ∀ reply candidate,
          operation.transition sha256 state = .ok reply candidate → property candidate)
    (holds : property state)
    : property (state.perform sha256 operation).2 := by
  rcases perform_cases sha256 state operation with ⟨reply, applied⟩ | unchanged
  · exact keeps reply _ applied
  · rwa [unchanged]

/-- The SHA-256 digests of the texts the sample runs hash. -/
def sampleDigests : List (String × String) :=
  [
    ("1:coordinator",
      "38d58f84a1bc7a46979e847a2b7bdbfffaa07e36e26fdac989515c9dd4de2ddd"),
    ("2:coordinator",
      "769d608a77b9c947cf19c7ba605270397b6687b864127025ed4f0922934797f0"),
    ("2:worker",
      "a9bd4cd416124cb63a67d3eb3fa5b5a49e6531c73333ac0acbdff2849a5ca362"),
    ("3:coordinator",
      "9e15238a193a90af4d3d6625f47e05794a071651192d566ba67e15a381f7a99e"),
    ("3:worker",
      "218ce9e152a809675f3c70dc30b3fc30cbb9b35c7f2f9beb42456a68cf176c49"),
    ("4:coordinator",
      "e9bdafd6e1383212f4df273c3b9f09cf4b1265dcb31ee20da1f0c9105bdbccf2"),
    ("27:9:no-tenant0:11:workspace-11:1",
      "2e7c3a621cb12777f5758ce417bb4db316a79437a336c003b8f41f4a68cdc9fd"),
    ("27:9:no-tenant0:11:workspace-11:2",
      "7c8a2bb09b59a31dd4f2a52d589abb0d61c7ac5a6e33293659d8c85e1cdb9879")
  ]

/-- A permutation of all texts that agrees with SHA-256 on the texts listed. -/
def samplePermutation : Equiv.Perm String :=
  (sampleDigests.map (fun (text, digest) => Equiv.swap text digest)).prod

def sampleSha256 (text : String) : String := samplePermutation text

theorem sampleSha256_injective : Function.Injective sampleSha256 :=
  samplePermutation.injective

example : sampleDigests.all (fun (text, digest) => sampleSha256 text == digest) := by
  decide +kernel

/-- The fingerprint of the sample requests. -/
def sampleDigest : String := sampleSha256 "1:coordinator"

def sampleTarget : InteractionTarget :=
  {
    authority := { workspaceId := ⟨"workspace-1"⟩, tenantRef := none }
    runId := ⟨"run-1"⟩
    taskId := ⟨"task-1"⟩
    dispatchId := ⟨"dispatch-1"⟩
    generation := 7
  }

def sampleEndpoint : WorkerEndpoint :=
  {
    endpointRef := ⟨"endpoint-1"⟩
    participant := ⟨"worker"⟩
    sessionIdentity := ⟨"session-1"⟩
    generation := 7
    deliveryCapability := ⟨"inbox.worker"⟩
    acknowledgementCapability := ⟨"ack.worker"⟩
    wakeCapability := none
    integrationReceipt :=
      {
        installRootRef := ⟨"install-1"⟩
        version := ⟨"0.1.4"⟩
        digest := ⟨sampleDigest⟩
        channel := ⟨"dev-pane"⟩
        capabilities := [⟨"event_cursor_v1"⟩, ⟨"idempotent_delivery_receipt_v1"⟩]
      }
  }

def sampleFence : WorkerEndpointFence :=
  {
    endpointRef := sampleEndpoint.endpointRef
    sessionIdentity := sampleEndpoint.sessionIdentity
    generation := sampleEndpoint.generation
    deliveryCapability := sampleEndpoint.deliveryCapability
    acknowledgementCapability := sampleEndpoint.acknowledgementCapability
  }

def sampleGrant : AudienceGrant :=
  {
    membershipRef := ⟨"member-1"⟩
    participant := ⟨"coordinator"⟩
    roles := [⟨"role.coordinator"⟩]
    capabilities := [⟨"inbox"⟩, ⟨"reply"⟩]
    deliveryCapability := ⟨"inbox"⟩
  }

def sampleDispatch : DispatchRecord :=
  {
    coordinatorGrant := sampleGrant
    deadline := none
    target := sampleTarget
    revision := Revision.INITIAL
    state := .active
    blockedBy := none
    interactionCapability := ⟨"open"⟩
    completionCapability := ⟨"complete"⟩
    workerEndpoint := sampleEndpoint
  }

/-- A store seeded with one active dispatch. -/
def sampleSeed : StoreState :=
  {
    dispatches := [sampleDispatch]
    interactions := []
    events := []
    deliveries := []
    idempotency := .empty
    acknowledgementIdempotency := .empty
    nextCursor := 1
  }

theorem sampleSeed_seeded : StoreState.seeded [sampleDispatch] = .ok sampleSeed := by
  decide +kernel

/-- The worker sends its coordinator an update. -/
def sampleMessage (id : InteractionId) : OpenInteractionRequest :=
  {
    schemaVersion := 1
    idempotencyKey := "open-1"
    writeCapability := ⟨"open"⟩
    expectedDispatchRevision := 1
    openedAtMs := 1000
    interaction :=
      .message
        {
          id
          target := sampleTarget
          author := ⟨"worker"⟩
          audience := ⟨[sampleGrant]⟩
          title := "Update"
          descriptionMarkdown := ""
        }
        .update
  }

def sampleOpen : OpenInteractionRequest := sampleMessage ⟨"message-1"⟩

/-- The worker asks its coordinator for a decision. -/
def sampleDecision : OpenInteractionRequest :=
  { sampleOpen with
    idempotencyKey := "open-2"
    interaction :=
      .decision { sampleOpen.interaction.common with id := ⟨"decision-1"⟩ } (.text 0 100)
        ⟨"reply"⟩ }

/-- The worker's dispatch gets a deadline. -/
def sampleDeadline : SetDispatchDeadlineRequest :=
  {
    schemaVersion := 1
    target := sampleTarget
    writeCapability := ⟨"open"⟩
    expectedDispatchRevision := 1
    idempotencyKey := "deadline-1"
    dueAtMs := some 5000
    changedAtMs := 1001
  }

/-- The worker's fence asks for a wake of its coordinator's delivery, which has no endpoint. -/
def sampleWake : TransitionDeliveryWakeRequest :=
  {
    schemaVersion := 1
    authority := sampleTarget.authority
    receiptId := ⟨"delivery-" ++ sampleDigest⟩
    endpointFence := sampleFence
    wakeCapability := none
    transition := .request
    transitionedAtMs := 1001
  }

end Dure.Orchestration
