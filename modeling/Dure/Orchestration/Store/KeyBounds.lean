import Dure.Library.FirstMatch
import Dure.Orchestration.Store.Keys

/-! The keys of valid requests fit the bound the store puts on its own keys. -/

namespace Dure.Orchestration

open Library Check List LengthPrefixed

/-- A text of at most `bound` bytes without control characters. -/
structure ShortText (bound : Nat) (text : String) : Prop where
  size : text.utf8ByteSize ≤ bound
  controlFree : ∀ character ∈ text.toList, isControl character = false

variable {authority : AuthorityScope} {fence : Option WorkerEndpointFence}
  {target : InteractionTarget} {character : Char} {key operation field : String} {bound : Nat}

/-- Both properties of a literal can be computed. -/
theorem ShortText.literal (size : text.utf8ByteSize ≤ bound)
    (plain : text.toList.any isControl = false)
    : ShortText bound text where
  size := size
  controlFree := fun character member => by
    rw [any_eq_false] at plain
    exact Bool.eq_false_iff.mpr (plain character member)

/-- The size of a part of at most `bound` bytes with its length written before it. -/
def framedSize (bound : Nat) : Nat := (Nat.toDigits 10 bound).length + 1 + bound

/-- The ASCII characters from the exclamation mark to the tilde. -/
theorem isControl_printable (lower : 33 ≤ character.toNat) (upper : character.toNat ≤ 126)
    : isControl character = false := by
  simp only [isControl, Bool.or_eq_false_iff, Bool.and_eq_false_iff, decide_eq_false_iff_not]
  omega

theorem isControl_digit (digit : character.isDigit)
    : isControl character = false := by
  rw [Char.isDigit_iff_toNat] at digit
  have lower : 48 ≤ character.toNat := digit.1
  have upper : character.toNat ≤ 57 := digit.2
  exact isControl_printable (by omega) (by omega)

theorem isControl_alpha (letter : character.isAlpha)
    : isControl character = false := by
  simp only [Char.isAlpha, Bool.or_eq_true] at letter
  rcases letter with upperCase | lowerCase
  · simp only [Char.isUpper, decide_eq_true_eq, ge_iff_le, UInt32.le_iff_toNat_le] at upperCase
    have lower : 65 ≤ character.toNat := upperCase.1
    have upper : character.toNat ≤ 90 := upperCase.2
    exact isControl_printable (by omega) (by omega)
  · simp only [Char.isLower, Bool.and_eq_true, decide_eq_true_eq, ge_iff_le,
      UInt32.le_iff_toNat_le] at lowerCase
    have lower : 97 ≤ character.toNat := lowerCase.1
    have upper : character.toNat ≤ 122 := lowerCase.2
    exact isControl_printable (by omega) (by omega)

theorem stableKey_short (short : List.Forall₂ ShortText bounds parts)
    : ShortText (bounds.map framedSize).sum (stableKey parts) := by
  constructor
  · induction short with
    | nil => exact Nat.le_refl 0
    | @cons bound part _ _ here _ ih =>
      have framed : (frame part).utf8ByteSize ≤ framedSize bound := by
        have positive : 0 < (Nat.toDigits 10 bound).length := Nat.length_toDigits_pos
        exact frame_size_le positive here.size
          ((Nat.length_toDigits_le_iff (by decide) positive).mp (Nat.le_refl _))
      simp only [stableKey, encode, String.utf8ByteSize_append, map_cons,
        sum_cons] at ih ⊢
      exact Nat.add_le_add framed ih
  · refine encode_all (fun _ => isControl_digit) (by decide) ?_
    intro part member
    obtain ⟨_, _, here⟩ := forall₂_mem_right short member
    exact here.controlFree

theorem stableKey_ne_empty (part : String) (parts : List String)
    : stableKey (part :: parts) ≠ "" := by
  intro empty
  have characters := congrArg String.toList empty
  simp only [stableKey, encode, String.toList_append] at characters
  exact frame_ne_nil part (append_eq_nil_iff.mp characters).1

theorem validateControlFree_ok (valid : validateControlFree field value false = .ok ())
    : ∀ character ∈ value.toList, isControl character = false := by
  simpa [validateControlFree] using valid

theorem BoundedReference.short {reference : BoundedReference field}
    (valid : reference.validate = .ok ())
    : ShortText maxReferenceBytes reference.value := by
  simp only [BoundedReference.validate, validateReference, seq_ok, rejectIf_ok, not_or,
    not_lt] at valid
  exact ⟨valid.1.2, validateControlFree_ok valid.2.1⟩

/-- The characters of an idempotency key are printable. -/
theorem validateIdempotencyKey_short (valid : validateIdempotencyKey key = .ok ())
    : ShortText maxIdempotencyKeyBytes key := by
  simp only [validateIdempotencyKey, rejectIf_ok, not_or, not_lt, not_not] at valid
  refine ⟨valid.2.1, fun character member => ?_⟩
  have allowed := all_eq_true.mp valid.2.2 character member
  simp only [isAsciiAlphanumeric, Bool.or_eq_true, contains_iff_mem, mem_cons,
    not_mem_nil, or_false] at allowed
  rcases allowed with (digit | letter) | rfl | rfl | rfl | rfl
  · exact isControl_digit digit
  · exact isControl_alpha letter
  all_goals decide

theorem toString_short (generation : Generation)
    : ShortText 20 (toString generation.toNat) := by
  refine ⟨toString_size_le (by decide) ?_, ?_⟩
  · exact Nat.lt_trans generation.toNat_lt (by decide)
  · exact fun character member => isControl_digit (digits_isDigit _ character member)

theorem scopeKey_short (valid : authority.validate = .ok ())
    : ShortText 531 (scopeKey authority) := by
  simp only [AuthorityScope.validate, seq_ok, whenSome_ok] at valid
  have kind : ShortText 9 (if authority.tenantRef.isSome then "tenant" else "no-tenant") := by
    split <;> exact .literal (by decide) (by decide)
  have tenant : ShortText maxReferenceBytes
      ((authority.tenantRef.map BoundedReference.value).getD "") := by
    cases present : authority.tenantRef with
    | none => exact .literal (by decide) (by decide)
    | some tenant => exact BoundedReference.short (valid.2 tenant present)
  exact stableKey_short (.cons kind (.cons tenant (.cons (BoundedReference.short valid.1) .nil)))

theorem dispatchKey_short (valid : target.validate = .ok ())
    : ShortText 1338 (dispatchKey target) := by
  simp only [InteractionTarget.validate, seq_ok] at valid
  obtain ⟨authority, run, task, dispatch, _⟩ := valid
  exact stableKey_short (.cons (scopeKey_short authority) (.cons (BoundedReference.short run)
    (.cons (BoundedReference.short task) (.cons (BoundedReference.short dispatch)
      (.cons (toString_short _) .nil)))))

/-- A key made of a short first part and a valid client key is a valid store key. -/
theorem operationKey_valid (short : ShortText bound operation) (fits : bound ≤ 1900)
    (valid : validateIdempotencyKey key = .ok ())
    : validStoreKey (operationKey operation key) = true := by
  have whole := stableKey_short (.cons short (.cons (validateIdempotencyKey_short valid) .nil))
  have digits : (Nat.toDigits 10 bound).length ≤ 4 :=
    (Nat.length_toDigits_le_iff (by decide) (by decide)).mpr (by omega)
  have size : (operationKey operation key).utf8ByteSize ≤ 2048 := by
    refine whole.size.trans ?_
    have client : framedSize maxIdempotencyKeyBytes = 132 := by decide
    have framed : framedSize bound ≤ 5 + bound := by
      unfold framedSize
      omega
    simp only [map_cons, map_nil, sum_cons, sum_nil, client]
    omega
  simp only [validStoreKey, Bool.and_eq_true, bne_iff_ne, ne_eq, decide_eq_true_eq,
    Bool.not_eq_true', any_eq_false, Bool.not_eq_true]
  exact ⟨⟨stableKey_ne_empty _ _, size⟩, whole.controlFree⟩

theorem authorityOperationKey_valid (name : ShortText 10 operation)
    (scope : authority.validate = .ok ()) (valid : validateIdempotencyKey key = .ok ())
    : validStoreKey (authorityOperationKey operation authority key) = true :=
  operationKey_valid (stableKey_short (.cons name (.cons (scopeKey_short scope) .nil)))
    (by decide) valid

theorem scopedOperationKey_valid (name : ShortText 10 operation)
    (scope : target.validate = .ok ()) (valid : validateIdempotencyKey key = .ok ())
    : validStoreKey (scopedOperationKey operation target key) = true :=
  operationKey_valid (stableKey_short (.cons name (.cons (dispatchKey_short scope) .nil)))
    (by decide) valid

theorem endpointKey_short (valid : ∀ present, fence = some present → present.validate = .ok ())
    : ShortText 543 (endpointKey fence) := by
  cases fence with
  | none => exact .literal (by decide) (by decide)
  | some fence =>
    have parts := valid fence rfl
    simp only [WorkerEndpointFence.validate, seq_ok] at parts
    exact stableKey_short (.cons (BoundedReference.short parts.1)
      (.cons (BoundedReference.short parts.2.1) (.cons (toString_short _) .nil)))

theorem acknowledgementKey_valid {participant : ParticipantRef}
    (scope : authority.validate = .ok ()) (reader : participant.validate = .ok ())
    (fenced : ∀ present, fence = some present → present.validate = .ok ())
    (valid : validateIdempotencyKey key = .ok ())
    : validStoreKey (acknowledgementKey authority participant fence key) = true := by
  have name : ShortText 3 "ack" := .literal (by decide) (by decide)
  exact operationKey_valid (stableKey_short (.cons name (.cons (scopeKey_short scope)
    (.cons (BoundedReference.short reader) (.cons (endpointKey_short fenced) .nil)))))
    (by decide) valid

/-! ### The operations behind a key -/

/-- What identifies the endpoint of an acknowledgement: none for a plain client, otherwise
the fields of the fence that its deliveries are addressed to. -/
def endpointIdentity (fence : Option WorkerEndpointFence)
    : Option (WorkerEndpointRef × SessionIdentityRef × Generation) :=
  fence.map (fun fence => (fence.endpointRef, fence.sessionIdentity, fence.generation))

/-- A bare word stands for a client; no encoded endpoint is that word. -/
theorem endpointKey_inj
    : endpointKey left = endpointKey right ↔ endpointIdentity left = endpointIdentity right := by
  have encoded (parts : List String) : stableKey parts ≠ "client" := by
    intro same
    have read := decode_encode parts
    have unread : decode "client" = none := by decide
    rw [← stableKey, same, unread] at read
    cases read
  cases left with
  | none =>
    cases right with
    | none => simp
    | some right => simpa [endpointIdentity, endpointKey] using (encoded _).symm
  | some left =>
    cases right with
    | none => simpa [endpointIdentity, endpointKey] using encoded _
    | some right =>
      simp only [endpointKey, endpointIdentity, stableKey_inj, cons.injEq, and_true,
        Option.map_some, Option.some.injEq, Prod.mk.injEq]
      refine and_congr ⟨reference_ext, congrArg _⟩ (and_congr ⟨reference_ext, congrArg _⟩ ?_)
      exact natToString_injective.eq_iff.trans UInt64.toNat_inj

/-- The requests that leave a receipt under a key: on a whole scope, on one dispatch, or the
acknowledgement of a read. -/
inductive KeyedRequest where
  | authority (operation : String) (authority : AuthorityScope) (idempotencyKey : String)
  | target (operation : String) (target : InteractionTarget) (idempotencyKey : String)
  | acknowledgement (authority : AuthorityScope) (participant : ParticipantRef)
    (fence : Option WorkerEndpointFence) (idempotencyKey : String)

namespace KeyedRequest

def storeKey : KeyedRequest → String
  | .authority operation authority idempotencyKey =>
    authorityOperationKey operation authority idempotencyKey
  | .target operation target idempotencyKey =>
    scopedOperationKey operation target idempotencyKey
  | .acknowledgement authority participant fence idempotencyKey =>
    acknowledgementKey authority participant fence idempotencyKey

/-- Two requests agree in everything but the capabilities of a fence. -/
def Alike : KeyedRequest → KeyedRequest → Prop
  | .acknowledgement authority participant fence idempotencyKey,
    .acknowledgement authority' participant' fence' idempotencyKey' =>
    authority = authority' ∧ participant = participant'
      ∧ endpointIdentity fence = endpointIdentity fence' ∧ idempotencyKey = idempotencyKey'
  | left, right => left = right

/-- The operation is one the store performs, and its references and key pass validation. -/
def Valid : KeyedRequest → Prop
  | .authority operation authority idempotencyKey =>
    operation = "create_run" ∧ authority.validate = .ok ()
      ∧ validateIdempotencyKey idempotencyKey = .ok ()
  | .target operation target idempotencyKey =>
    operation ∈ ["open", "answer", "complete", "deadline"] ∧ target.validate = .ok ()
      ∧ validateIdempotencyKey idempotencyKey = .ok ()
  | .acknowledgement authority participant fence idempotencyKey =>
    authority.validate = .ok () ∧ participant.validate = .ok ()
      ∧ (∀ present, fence = some present → present.validate = .ok ())
      ∧ validateIdempotencyKey idempotencyKey = .ok ()

variable {left right request : KeyedRequest}

/-- The parts of a key are a scope, a dispatch or the four parts of an acknowledgement, and
the number of parts tells them apart. -/
theorem storeKey_inj : left.storeKey = right.storeKey ↔ Alike left right := by
  cases left <;> cases right <;>
    simp [storeKey, Alike, authorityOperationKey, scopedOperationKey, acknowledgementKey,
      operationKey, stableKey_inj, scopeKey_injective.eq_iff, dispatchKey_injective.eq_iff,
      endpointKey_inj, scopeKey_ne_dispatchKey, (scopeKey_ne_dispatchKey _ _).symm, and_assoc]
  exact fun _ _ _ => ⟨reference_ext, congrArg _⟩

theorem storeKey_valid (valid : request.Valid) : validStoreKey request.storeKey = true := by
  cases request with
  | authority operation authority idempotencyKey =>
    obtain ⟨rfl, scope, client⟩ := valid
    exact authorityOperationKey_valid (.literal (by decide) (by decide)) scope client
  | target operation target idempotencyKey =>
    obtain ⟨name, scope, client⟩ := valid
    refine scopedOperationKey_valid ?_ scope client
    simp only [mem_cons, not_mem_nil, or_false] at name
    rcases name with rfl | rfl | rfl | rfl <;> exact .literal (by decide) (by decide)
  | acknowledgement authority participant fence idempotencyKey =>
    obtain ⟨scope, reader, fenced, client⟩ := valid
    exact acknowledgementKey_valid scope reader fenced client

end KeyedRequest

/-- No two requests share a store key unless they are alike, and the keys of valid requests
are valid. -/
theorem store_keys_determine_requests
    : Function.Injective stableKey ∧ Function.Injective scopeKey
      ∧ Function.Injective dispatchKey
      ∧ (∀ left right : KeyedRequest, left.storeKey = right.storeKey ↔ left.Alike right)
      ∧ (∀ request : KeyedRequest, request.Valid → validStoreKey request.storeKey = true) :=
  ⟨fun _ _ => stableKey_inj.mp, scopeKey_injective, dispatchKey_injective,
    fun _ _ => KeyedRequest.storeKey_inj, fun _ => KeyedRequest.storeKey_valid⟩

/-- Two valid fences of one endpoint session, for two inboxes, acknowledge under one key. -/
theorem fences_share_acknowledgement_key
    : ∃ left right : WorkerEndpointFence,
        left.validate = .ok () ∧ right.validate = .ok () ∧ left ≠ right
        ∧ acknowledgementKey ⟨⟨"w"⟩, none⟩ ⟨"p"⟩ (some left) "k"
          = acknowledgementKey ⟨⟨"w"⟩, none⟩ ⟨"p"⟩ (some right) "k" := by
  refine ⟨⟨⟨"e"⟩, ⟨"s"⟩, 1, ⟨"inbox"⟩, ⟨"ack"⟩⟩, ⟨⟨"e"⟩, ⟨"s"⟩, 1, ⟨"other"⟩, ⟨"ack"⟩⟩, ?_⟩
  exact ⟨by decide, by decide, by decide, rfl⟩

end Dure.Orchestration
