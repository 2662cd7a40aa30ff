import Dure.Checkout.Endings

/-! The authority's records can be read back: which of its writes every later read accepts.
-/

namespace Dure.Checkout

open Library Check List

section

variable {hash : String → String} {authority : Authority} {request : PreparedRequest}
  {current : Option State} {state next : State} {removal : PreparedRemoval}

theorem Reduction.revision (reduction : Reduction hash request current next)
    : next.revision = baseRevision current + 1 := by
  cases reduction <;> rfl

theorem RemovalWrite.revision {pass : RemovalPass}
    (write : RemovalWrite hash removal pass state next)
    : next.revision = state.revision + 1 := by
  cases write <;> rfl

/-- Every reduction but a retirement leaves a readable record. Witness: one case for each
transition. -/
theorem Reduction.valid (widths : Widths hash authority)
    (validPath : authority.validOid authority.pathDigest = true)
    (readable : ∀ state, current = some state → Valid hash authority state)
    (proper : request.Proper authority)
    (fresh : ∀ state, current = some state → state.Fresh request.operationId.value)
    (reduction : Reduction hash request current next)
    (kept : request.action ≠ .retireAbsent)
    : Valid hash authority next := by
  have same := proper.sameAuthority
  cases reduction with
  | reserve action ended bounded issued =>
    rw [same] at issued
    rw [same]
    exact reserve_valid validPath bounded proper widths issued
  | abortCreation action phase reserved consumed bounded =>
    exact abortCreation_valid (readable _ rfl) proper (fresh _ rfl) bounded phase reserved
  | startCreation action lifecycle consumed bounded =>
    subst consumed
    exact startCreation_valid (readable _ rfl) proper (fresh _ rfl) bounded lifecycle
  | activate action lifecycle consumed bounded =>
    have checkout := proper.checkout _ (by rw [action]; rfl)
    exact activate_valid (readable _ rfl) proper (fresh _ rfl) bounded checkout lifecycle
  | claimFirst action ended bounded =>
    have checkout := proper.checkout _ (by rw [action]; rfl)
    rw [same]
    exact claimFirst_valid validPath bounded proper checkout
  | claimNext action lifecycle capacity bounded =>
    exact claimNext_valid (readable _ rfl) proper (fresh _ rfl) bounded lifecycle capacity
  | release action lifecycle stored active bounded =>
    exact release_valid (readable _ rfl) proper (fresh _ rfl) bounded lifecycle stored
  | permitFirst action ended bounded issued =>
    have checkout := proper.checkout _ (by rw [action]; rfl)
    rw [same] at issued
    rw [same]
    exact permitFirst_valid validPath bounded proper widths checkout issued
  | permitNext action lifecycle retires named bounded issued =>
    rw [same] at issued
    exact permitNext_valid (readable _ rfl) proper (fresh _ rfl) bounded lifecycle widths
      issued
  | abortRemoval action lifecycle consumed bounded =>
    subst consumed
    refine aborted_valid (readable _ rfl) lifecycle request.operationId.valid proper.digest
      ?_ bounded
    intro operation member
    exact fresh _ rfl operation (abortedRecords_subset lifecycle member)
  | retireAbsent action lifecycle unused bounded issued => exact absurd action kept

theorem prepareRemoval_ok (prepared : prepareRemoval hash authority asked = .ok removal)
    : removal.authority = authority
      ∧ removal.request = asked
      ∧ digestInstance hash asked.checkout = .ok removal.instanceDigest
      ∧ physicalRequestDigest hash authority removal.instanceDigest asked
        = .ok removal.requestDigest := by
  simp only [prepareRemoval, bind_ok, pure_ok] at prepared
  obtain ⟨instanceDigest, digested, _, _, requestDigest, computed, rfl⟩ := prepared
  exact ⟨rfl, rfl, digested, computed⟩

/-- The derived id of a rollback is not used by a record that outlives the removal. -/
def PreparedRemoval.RollbackFits (removal : PreparedRemoval) (state : State) : Prop :=
  ∀ operation ∈ state.abortedRecords,
    operation.operationId ≠ "physical-abort-" ++ removal.requestDigest

theorem rollbackOperation_ok (widths : Widths hash authority)
    (derived : removal.rollbackOperation hash = .ok (abortId, abortDigest))
    : abortId.value = "physical-abort-" ++ removal.requestDigest
      ∧ authority.validOid abortDigest = true := by
  simp only [PreparedRemoval.rollbackOperation, bind_ok, pure_ok, Prod.mk.injEq] at derived
  obtain ⟨_, named, _, digested, rfl, rfl⟩ := derived
  refine ⟨?_, digestFields_valid widths digested⟩
  unfold storedId at named
  split at named
  · cases named
    rfl
  · simp at named

/-- A written record is readable and follows the one it was written over. -/
def ReadableNext (hash : String → String) (authority : Authority) (current : Option State)
    (next : State) : Prop :=
  validateState hash authority next = .ok () ∧ next.revision = baseRevision current + 1

/-- The authority never stores a record that it cannot read back, exactly as far as the ids
that it derives itself fit: over a readable record (or none) each of the reducer's writes and
of a physical removal's writes is readable and one revision later, a retirement if and only if
its two derived ids are short enough and new, a rollback if and only if its derived id is new.
-/
theorem written_records_readable {path : String}
    (trusted : Authority.fromTrusted hash path = .ok authority)
    (widths : Widths hash authority)
    (stored : ∀ state, current = some state → validateState hash authority state = .ok ())
    : (∀ request, Prepared hash authority request →
        ∀ plan next, reduceRequest hash current request = .ok plan → plan.state = some next →
          (ReadableNext hash authority current next
            ↔ (request.action = .retireAbsent →
              ∀ state, current = some state → request.RetirementFits state)))
      ∧ ∀ asked removal, prepareRemoval hash authority asked = .ok removal →
        (∀ next start, removal.startPhysicalRemoval hash current = .ok (.swap next start) →
          ReadableNext hash authority current next)
        ∧ (∀ next done,
          removal.rollbackRefusedPhysicalRemoval hash current = .ok (.swap next done) →
            (ReadableNext hash authority current next
              ↔ ∀ state, current = some state → removal.RollbackFits state))
        ∧ ∀ outcome next receipt,
          removal.terminalizePhysicalRemoval outcome current = .ok (.swap next receipt) →
            ReadableNext hash authority current next := by
  have validPath := fromTrusted_valid trusted widths
  have readable : ∀ state, current = some state → Valid hash authority state :=
    fun state present => validateState_ok.mp (stored state present)
  refine ⟨?_, ?_⟩
  · intro request prepared plan next reduced written
    have proper := prepared.proper widths
    obtain ⟨fresh, reduction⟩ := reduceRequest_reduction written reduced
    unfold ReadableNext
    rw [validateState_ok, and_iff_left reduction.revision]
    by_cases retires : request.action = .retireAbsent
    · cases reduction with
      | retireAbsent action lifecycle unused bounded issued =>
        rw [proper.sameAuthority] at issued
        have exact := retired_valid_iff (readable _ rfl) proper widths lifecycle bounded issued
        constructor
        · rintro valid _ other ⟨⟩
          exact exact.mp valid
        · intro fits
          exact exact.mpr (fits retires _ rfl)
      | _ => simp_all
    · exact iff_of_true
        (reduction.valid widths validPath readable proper fresh retires)
        (fun action => absurd action retires)
  · intro asked removal prepared
    obtain ⟨_, _, _, computed⟩ := prepareRemoval_ok prepared
    have digest := digestFields_valid widths computed
    refine ⟨?_, ?_, ?_⟩
    · intro next start started
      obtain ⟨_, state, rfl, write⟩ := startPhysicalRemoval_swap started
      refine ⟨validateState_ok.mpr ?_, write.revision⟩
      cases write with
      | start lifecycle holds fresh allowed bounded =>
        exact marker_valid (readable _ rfl) digest fresh lifecycle bounded
    · intro next done rolled
      obtain ⟨state, rfl, write⟩ := rollbackRefusedPhysicalRemoval_swap rolled
      have revision : next.revision = baseRevision (some state) + 1 := write.revision
      unfold ReadableNext
      rw [validateState_ok, and_iff_left revision]
      cases write with
      | rollback lifecycle holds marked derived bounded =>
        obtain ⟨named, abortDigest⟩ := rollbackOperation_ok widths derived
        rename_i abortId _
        constructor
        · rintro valid other ⟨⟩ operation member
          rw [← named]
          exact aborted_fresh lifecycle valid operation member
        · intro fits
          rw [← holds]
          refine aborted_valid (readable _ rfl) lifecycle abortId.valid abortDigest ?_ bounded
          intro operation member
          rw [named]
          exact fits state rfl operation member
    · intro outcome next receipt ended
      obtain ⟨state, rfl, write⟩ := terminalizePhysicalRemoval_swap hash ended
      refine ⟨validateState_ok.mpr ?_, write.revision⟩
      cases write with
      | terminal lifecycle holds marked bounded =>
        exact terminal_valid (readable _ rfl) lifecycle outcome bounded

/-- An unused active generation is retired, whatever ids that derives. -/
theorem reduceRequest_retires {instanceDigest token : String}
    {creation : Option CreationHistory} {removal : ActiveRemoval}
    (action : request.action = .retireAbsent)
    (unknown : state.findLifecycleOperation request.operationId.value = none)
    (lifecycle : state.lifecycle = .active instanceDigest creation removal)
    (unused : state.claims.entries.any (fun entry => entry.2.isActive) = false)
    (bounded : state.revision + 1 ≤ maxRevision)
    (issued : permitToken hash request.authority instanceDigest
      (request.operationId.value ++ ":permit") request.requestDigest (state.revision + 1)
      = .ok token)
    : reduceRequest hash (some state) request = .ok {
        state := some (state.removed
          (request.retirement instanceDigest token creation (state.revision + 1)))
        receipt := ⟨request.operationId, request.requestDigest, state.revision + 1, .removed,
          .absentCheckoutRetired instanceDigest⟩
        validateInstance := none
        validateAbsentTarget := true
      } := by
  have next : nextRevision state.revision = .ok (state.revision + 1) :=
    nextRevision_ok.mpr ⟨rfl, bounded⟩
  have named : storedId request.operationId.value "stored receipt operation id is invalid"
      = .ok request.operationId := by
    simp [storedId, request.operationId.valid]
  have counted : revisionValue (state.revision + 1) = .ok (state.revision + 1) := by
    simp [revisionValue, bounded]
  have receipt : useReceipt request.operationId.value request.requestDigest
      (state.revision + 1) .removed (.absentCheckoutRetired instanceDigest)
      = .ok ⟨request.operationId, request.requestDigest, state.revision + 1, .removed,
        .absentCheckoutRetired instanceDigest⟩ := by
    simp only [useReceipt, bind_ok, pure_ok]
    exact ⟨_, named, _, counted, rfl⟩
  simp only [reduceRequest, bind_ok, operationRecorded, unknown, pure_ok]
  refine ⟨false, rfl, ?_⟩
  simp only [Bool.false_eq_true, if_false, reduceNew, action, reduceRetireAbsent, bind_ok,
    orReject_ok]
  refine ⟨state, rfl, ?_⟩
  simp only [lifecycle, rejectIf_ok, unused, bind_ok]
  exact ⟨(), by simp, _, next, _, issued, _, receipt, rfl⟩

end

def samplePathDigest : String := "58e408817d7e968f30ac3dd29c1bf87844d4fee3"
def sampleInstanceDigest : String := "6fc8f21595ba72f32aad78645ce0b54ed1c73b2c"

def sampleAuthority : Authority := ⟨"/w/wt", samplePathDigest, 40⟩

/-- An id that is valid by itself, and too long once `:physical` is added to it. -/
def longId : OperationId := ⟨String.ofList (List.replicate 152 'r'), by decide +kernel⟩

def shortId : OperationId := ⟨"retire-1", by decide⟩

/-- What `git hash-object` returns for the texts of the samples, by the size of the text:
the path, and the request and permit of the retirement under each id. -/
def sampleDigests : List (Nat × String) :=
  [
    (32, samplePathDigest),
    (93, "59b319c216766101db7ebb89eccee197aed4da63"),
    (169, "b56f9980a7734812e32cf342658be9a10380c0f9"),
    (237, "4bc643cbef28e87a48abbdb6a015e480c50a163c"),
    (313, "4022c84896c857e48b2e8e57b05eb656434518c5")
  ]

def sampleHash (text : String) : String :=
  ((sampleDigests.find? (fun entry => entry.1 == text.utf8ByteSize)).map Prod.snd).getD
    samplePathDigest

theorem sampleHash_widths : Widths sampleHash sampleAuthority := by
  intro text
  have every : ∀ entry ∈ sampleDigests, sampleAuthority.validOid entry.2 = true := by
    decide +kernel
  unfold sampleHash
  cases found : sampleDigests.find? (fun entry => entry.1 == text.utf8ByteSize) with
  | none => exact every _ (mem_cons_self)
  | some entry => exact every entry (mem_of_find?_eq_some found)

/-- A checkout that was claimed and released. -/
def sampleRecord : State where
  revision := 2
  pathDigest := samplePathDigest
  lifecycle := .active sampleInstanceDigest none .idle
  claims := OrderedMap.empty.insert "claim-1" {
    ownerId := "agent-1"
    claimId := "claim-1"
    requestDigest := "7e65ca115d8ce90e9b1c268057c584a1fe89dddc"
    acquireRevision := 1
    state := .released ⟨"release-1", "7b4aa4709ce6acac69c3103dff5c615946a755e3", 2⟩
  }

theorem sampleAuthority_trusted
    : Authority.fromTrusted sampleHash "/w/wt" = .ok sampleAuthority := by
  decide +kernel

theorem sampleRecord_stored : validateState sampleHash sampleAuthority sampleRecord = .ok () := by
  decide +kernel

def sampleRetirement (operationId : OperationId) (digest : String) : PreparedRequest :=
  ⟨sampleAuthority, operationId, digest, .retireAbsent⟩

/-- The retirement of the sample is prepared and written, given the two digests. -/
theorem sampleRetirement_written {operationId : OperationId} {digest token : String}
    (hashed : sampleHash (framed requestDomain
      ["retire_absent", samplePathDigest, operationId.value]) = digest)
    (small : (framed requestDomain
      ["retire_absent", samplePathDigest, operationId.value]).utf8ByteSize ≤ maxRecordBytes)
    (granted : sampleHash (framed permitDomain
      [samplePathDigest, sampleInstanceDigest, operationId.value ++ ":permit", digest, "3"])
      = token)
    (smallGrant : (framed permitDomain [samplePathDigest, sampleInstanceDigest,
      operationId.value ++ ":permit", digest, "3"]).utf8ByteSize ≤ maxRecordBytes)
    (unknown : sampleRecord.findLifecycleOperation operationId.value = none)
    : prepareRequest sampleHash sampleAuthority operationId .retireAbsentCheckout
        = .ok (sampleRetirement operationId digest)
      ∧ reduceRequest sampleHash (some sampleRecord) (sampleRetirement operationId digest)
        = .ok {
            state := some (sampleRecord.removed
              ((sampleRetirement operationId digest).retirement sampleInstanceDigest token
                none 3))
            receipt := ⟨operationId, digest, 3, .removed,
              .absentCheckoutRetired sampleInstanceDigest⟩
            validateInstance := none
            validateAbsentTarget := true
          } := by
  have canonical (text : String) : (sampleHash text).toList.all isLowerHex = true := by
    have valid := sampleHash_widths text
    simp only [Authority.validOid, Bool.and_eq_true] at valid
    exact valid.2
  have idClean := validOperationId_unterminated operationId.valid
  have digestClean : Unterminated digest := hashed ▸ validOid_unterminated (sampleHash_widths _)
  have pathClean : Unterminated samplePathDigest := by decide +kernel
  have instanceClean : Unterminated sampleInstanceDigest := by decide +kernel
  constructor
  · have digested : digestFields sampleHash requestDomain
        ["retire_absent", samplePathDigest, operationId.value] = .ok digest := by
      refine digestFields_hashed hashed ?_ small (hashed ▸ canonical _)
      simp only [forall_mem_cons, not_mem_nil, false_implies, implies_true, and_true]
      exact ⟨by decide, pathClean, idClean⟩
    simp only [prepareRequest, prepareAction, bindRequest, bind_ok, pure_ok]
    exact ⟨_, rfl, digest, digested, rfl⟩
  · refine reduceRequest_retires rfl unknown rfl (by decide) (by decide) ?_
    refine digestFields_hashed granted ?_ smallGrant (granted ▸ canonical _)
    simp only [forall_mem_cons, not_mem_nil, false_implies, implies_true, and_true]
    exact ⟨pathClean, instanceClean, idClean.append (by decide), digestClean, by decide⟩

/-- The retirement of an absent checkout under an id of 152 bytes writes a record that no
later read accepts. -/
theorem long_retirement_unreadable
    : Authority.fromTrusted sampleHash "/w/wt" = .ok sampleAuthority
      ∧ Widths sampleHash sampleAuthority
      ∧ validateState sampleHash sampleAuthority sampleRecord = .ok ()
      ∧ ∃ request plan next,
        prepareRequest sampleHash sampleAuthority longId .retireAbsentCheckout = .ok request
        ∧ reduceRequest sampleHash (some sampleRecord) request = .ok plan
        ∧ plan.state = some next
        ∧ validateState sampleHash sampleAuthority next
          = .error (stateError
            "checkout-use lifecycle operation has invalid identity or revision") := by
  obtain ⟨prepared, reduced⟩ := @sampleRetirement_written longId
    "4bc643cbef28e87a48abbdb6a015e480c50a163c" "4022c84896c857e48b2e8e57b05eb656434518c5"
    (by decide +kernel) (by decide +kernel) (by decide +kernel) (by decide +kernel)
    (by decide +kernel)
  exact ⟨sampleAuthority_trusted, sampleHash_widths, sampleRecord_stored, _, _, _, prepared,
    reduced, rfl, by decide +kernel⟩

/-- Under a short id the retirement of the same checkout is read back. -/
theorem short_retirement_readable
    : ∃ request plan next,
        prepareRequest sampleHash sampleAuthority shortId .retireAbsentCheckout = .ok request
        ∧ reduceRequest sampleHash (some sampleRecord) request = .ok plan
        ∧ plan.state = some next
        ∧ request.RetirementFits sampleRecord
        ∧ ReadableNext sampleHash sampleAuthority (some sampleRecord) next := by
  obtain ⟨prepared, reduced⟩ := @sampleRetirement_written shortId
    "59b319c216766101db7ebb89eccee197aed4da63" "b56f9980a7734812e32cf342658be9a10380c0f9"
    (by decide +kernel) (by decide +kernel) (by decide +kernel) (by decide +kernel)
    (by decide +kernel)
  have stored : ∀ state, some sampleRecord = some state
      → validateState sampleHash sampleAuthority state = .ok () := by
    rintro state ⟨⟩
    exact sampleRecord_stored
  have fits : (sampleRetirement shortId
      "59b319c216766101db7ebb89eccee197aed4da63").RetirementFits sampleRecord := by
    decide +kernel
  refine ⟨_, _, _, prepared, reduced, rfl, fits, ?_⟩
  refine ((written_records_readable sampleAuthority_trusted sampleHash_widths stored).1 _
    (.asked prepared) _ _ reduced rfl).mpr ?_
  rintro _ state ⟨⟩
  exact fits

end Dure.Checkout
