import Dure.Library.NulTerminated
import Dure.Orchestration.Domain.References

/-! Identities of the checkout-use authority: operation ids, Git object ids and the digests
of framed fields.
-/

namespace Dure.Checkout

open Library Check List

def maxIdBytes : Nat := 160
def maxRecordBytes : Nat := 256 * 1024
def maxActiveClaims : Nat := 128
def maxClaims : Nat := maxActiveClaims
def maxRevision : Nat := 9007199254740991

structure UseError where
  code : String
  message : String
  deriving DecidableEq, Repr

def requestError (message : String) : UseError := ⟨"checkout_use_request_invalid", message⟩

def stateError (message : String) : UseError := ⟨"checkout_use_state_invalid", message⟩

def isIdCharacter (character : Char) : Bool :=
  Orchestration.isAsciiAlphanumeric character || ['.', '_', ':', '-'].contains character

/-- The grammar of durable ids: bounded, first a letter or digit, then also `. _ : -`. -/
def validOperationId (value : String) : Bool :=
  value != "" && value.utf8ByteSize ≤ maxIdBytes
    && value.toList.head?.any Orchestration.isAsciiAlphanumeric
    && value.toList.all isIdCharacter

/-- Requests carry checked ids; stored records carry plain texts. -/
structure OperationId where
  value : String
  valid : validOperationId value = true
  deriving DecidableEq

variable {hash : String → String} {fields : List String} {domain digest value : String}
  {authority : Authority}

/-- An id may be continued by characters of its grammar up to its bound. -/
theorem validOperationId_append (valid : validOperationId value = true)
    (characters : suffix.toList.all isIdCharacter = true)
    : validOperationId (value ++ suffix) = true
      ↔ value.utf8ByteSize + suffix.utf8ByteSize ≤ maxIdBytes := by
  simp only [validOperationId, Bool.and_eq_true, bne_iff_ne, ne_eq, decide_eq_true_eq,
    String.toList_append, all_append, String.utf8ByteSize_append, characters] at valid ⊢
  obtain ⟨⟨⟨filled, _⟩, first⟩, every⟩ := valid
  have head : (value.toList ++ suffix.toList).head? = value.toList.head? := by
    cases listed : value.toList with
    | nil => simp [listed] at first
    | cons character rest => rfl
  have nonempty : ¬value ++ suffix = "" := by
    intro empty
    have listed := congrArg String.toList empty
    rw [String.toList_append] at listed
    have none : value.toList = [] := (append_eq_nil_iff.mp listed).1
    simp [none] at first
  simp [head, first, every, nonempty]

def isLowerHex (character : Char) : Bool :=
  character.isDigit || ('a' ≤ character && character ≤ 'f')

/-- The checkout whose ref is used: its path, the digest of that path and the width of the
repository's object ids. -/
structure Authority where
  canonicalPath : String
  pathDigest : String
  oidWidth : Nat
  deriving DecidableEq, Repr

def Authority.validOid (authority : Authority) (value : String) : Bool :=
  value.utf8ByteSize == authority.oidWidth && value.toList.all isLowerHex

/-- The domain and every field end in a NUL. -/
def framed (domain : String) (fields : List String) : String :=
  terminated (domain :: fields)

/-- `hash` is what `git hash-object` returns in the repository. -/
def digestFields (hash : String → String) (domain : String) (fields : List String)
    : Except UseError String := do
  rejectIf (fields.any (fun field => field.toList.contains '\x00'))
    (requestError "checkout-use digest fields must not contain NUL")
  rejectIf ((framed domain fields).utf8ByteSize > maxRecordBytes)
    ⟨"checkout_use_record_too_large",
      "checkout-use hash input exceeded the bounded record size"⟩
  rejectIf (¬(hash (framed domain fields)).toList.all isLowerHex)
    ⟨"checkout_use_git_failed", "git hash-object returned a non-canonical object id"⟩
  pure (hash (framed domain fields))

def pathDomain : String := "dure-checkout-use-path-v1"
def requestDomain : String := "dure-checkout-use-request-v1"
def reservationDomain : String := "dure-checkout-use-reservation-v1"
def permitDomain : String := "dure-checkout-use-permit-v1"

/-- The authority for a path; the width of object ids is that of the path's digest. -/
def Authority.fromTrusted (hash : String → String) (canonicalPath : String)
    : Except UseError Authority := do
  let pathDigest ← digestFields hash pathDomain [canonicalPath]
  rejectIf (pathDigest.utf8ByteSize ≠ 40 ∧ pathDigest.utf8ByteSize ≠ 64)
    ⟨"checkout_use_git_failed", "Git returned an unsupported object-id width"⟩
  pure ⟨canonicalPath, pathDigest, pathDigest.utf8ByteSize⟩

/-- The hash of the repository gives object ids of its width. -/
def Widths (hash : String → String) (authority : Authority) : Prop :=
  ∀ text, authority.validOid (hash text) = true

theorem digestFields_ok (computed : digestFields hash domain fields = .ok digest)
    : digest = hash (framed domain fields) := by
  simp only [digestFields, seq_ok, pure_ok] at computed
  exact computed.2.2.2.symm

/-- Fields without NUL that fit the bound have a digest. -/
theorem digestFields_hashed (hashed : hash (framed domain fields) = digest)
    (clean : ∀ field ∈ fields, Unterminated field)
    (small : (framed domain fields).utf8ByteSize ≤ maxRecordBytes)
    (canonical : digest.toList.all isLowerHex = true)
    : digestFields hash domain fields = .ok digest := by
  have unframed : ¬fields.any (fun field => field.toList.contains '\x00') = true := by
    simpa [Unterminated] using clean
  simp only [digestFields, seq_ok, rejectIf_ok, pure_ok, hashed, not_not]
  exact ⟨unframed, not_lt.mpr small, canonical, trivial⟩

/-- Two lists of fields with one digest are the same list. -/
theorem digestFields_injective (injective : Function.Injective hash)
    (clean : Unterminated domain) (left : digestFields hash domain fields = .ok digest)
    (right : digestFields hash domain others = .ok digest)
    : fields = others := by
  have same : framed domain fields = framed domain others :=
    injective ((digestFields_ok left).symm.trans (digestFields_ok right))
  simp only [digestFields, seq_ok, rejectIf_ok, any_eq_true, not_exists, not_and] at left right
  refine (cons.inj (terminated_injective ?_ ?_ same)).2
  · exact forall_mem_cons.mpr
      ⟨clean, fun field member => by simpa [Unterminated] using left.1 field member⟩
  · exact forall_mem_cons.mpr
      ⟨clean, fun field member => by simpa [Unterminated] using right.1 field member⟩

theorem digestFields_valid (widths : Widths hash authority)
    (computed : digestFields hash domain fields = .ok digest)
    : authority.validOid digest = true := by
  rw [digestFields_ok computed]
  exact widths _

theorem fromTrusted_valid (trusted : Authority.fromTrusted hash canonicalPath = .ok authority)
    (widths : Widths hash authority)
    : authority.validOid authority.pathDigest = true := by
  simp only [Authority.fromTrusted, bind_ok, pure_ok] at trusted
  obtain ⟨pathDigest, computed, _, _, rfl⟩ := trusted
  exact digestFields_valid widths computed

/-- Ids hold no NUL, so they can stand in a digest. -/
theorem validOperationId_unterminated (valid : validOperationId value = true)
    : Unterminated value := by
  simp only [validOperationId, Bool.and_eq_true, all_eq_true] at valid
  intro member
  exact absurd (valid.2 _ member) (by decide)

theorem validOid_unterminated (valid : authority.validOid value = true)
    : Unterminated value := by
  simp only [Authority.validOid, Bool.and_eq_true, all_eq_true] at valid
  intro member
  exact absurd (valid.2 _ member) (by decide)

def nextRevision (value : Nat) : Except UseError Nat :=
  if value + 1 ≤ maxRevision then
    pure (value + 1)
  else
    throw ⟨"checkout_use_revision_exhausted",
      "checkout-use revision exceeded the shared exact decimal bound"⟩

theorem nextRevision_ok {value next : Nat}
    : nextRevision value = .ok next ↔ next = value + 1 ∧ value + 1 ≤ maxRevision := by
  unfold nextRevision
  split_ifs with bounded
  · rw [pure_ok]
    exact ⟨fun same => ⟨same.symm, bounded⟩, fun ⟨same, _⟩ => same.symm⟩
  · simp [bounded]

end Dure.Checkout
