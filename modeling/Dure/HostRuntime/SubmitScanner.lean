import Dure.HostRuntime.ResourceBudget
import Mathlib

/-! The streaming classifier of controller input: which bytes submit the line and which
edits they make to it after the last submit.
-/

namespace Dure.HostRuntime

open List

/-- An edit to the unsubmitted line. -/
inductive ControllerDraftEdit where
  | inserted (count : Nat)
  | erased (count : Nat)
  | insertedUncounted
  | editedUncounted
  deriving DecidableEq, Repr

structure SubmitScan where
  submitted : Bool := false
  edits : List ControllerDraftEdit := []
  deriving DecidableEq, Repr

/-- The last edit with the next one merged into it, where they are of one kind. -/
def ControllerDraftEdit.merge : ControllerDraftEdit → ControllerDraftEdit
    → Option ControllerDraftEdit
  | .inserted run, .inserted count => some (.inserted (saturatingAdd run count))
  | .erased run, .erased count => some (.erased (saturatingAdd run count))
  | last, edit => if last = edit then some last else none

/-- The edits with one more. -/
def pushEdit (edits : List ControllerDraftEdit) (edit : ControllerDraftEdit)
    : List ControllerDraftEdit :=
  match edits.getLast? with
  | none => [edit]
  | some last =>
    match last.merge edit with
    | some merged => edits.dropLast ++ [merged]
    | none => edits ++ [edit]

/-- What one round of the scanning loop finds. -/
inductive ScanEffect where
  | none
  | submit
  | edit (edit : ControllerDraftEdit)
  deriving DecidableEq, Repr

/-- `SubmitScan::submit` and `SubmitScan::edit`. -/
def SubmitScan.apply (scan : SubmitScan) : ScanEffect → SubmitScan
  | .none => scan
  | .submit => ⟨true, []⟩
  | .edit edit => ⟨scan.submitted, pushEdit scan.edits edit⟩

def escape : UInt8 := 0x1b

/-- Whether the byte is a carriage return or a line feed. -/
def isNewline (byte : UInt8) : Bool := byte == 0x0d || byte == 0x0a

def pasteStart : List UInt8 := [0x1b, 0x5b, 0x32, 0x30, 0x30, 0x7e]

def pasteEnd : List UInt8 := [0x1b, 0x5b, 0x32, 0x30, 0x31, 0x7e]

def markerLen : Nat := pasteStart.length

def isContinuation (byte : UInt8) : Bool := 0x80 ≤ byte && byte ≤ 0xbf

def typedByteEdit (byte : UInt8) : Option ControllerDraftEdit :=
  if isContinuation byte then none
  else if byte == 0x7f || byte == 0x08 then some (.erased 1)
  else if 0x20 ≤ byte then some (.inserted 1)
  else some .insertedUncounted

def pastedByteEdit (byte : UInt8) : Option ControllerDraftEdit :=
  if isContinuation byte then none else some (.inserted 1)

structure SubmitScanner where
  inBracketedPaste : Bool := false
  carried : List UInt8 := []
  deriving DecidableEq, Repr

/-- What one round of the scanning loop does at the rest of its buffer. -/
inductive ScanStep where
  | deferred
  | advance (bytes : Nat) (inBracketedPaste : Bool) (effect : ScanEffect)
  deriving DecidableEq, Repr

/-- The buffer may end inside a paste marker. -/
def Unfinished (rest : List UInt8) : Prop :=
  rest.length < markerLen ∧ (rest <+: pasteStart ∨ rest <+: pasteEnd)

instance (rest : List UInt8) : Decidable (Unfinished rest) :=
  inferInstanceAs (Decidable (_ ∧ _))

/-- The effect of a byte that is no part of a marker or of Alt+Enter. -/
def byteEffect (inBracketedPaste : Bool) (byte : UInt8) : ScanEffect :=
  if !inBracketedPaste && isNewline byte then .submit
  else
    match if inBracketedPaste then pastedByteEdit byte else typedByteEdit byte with
    | some edit => .edit edit
    | none => .none

/-- One round of the loop; `fresh` says that the rest starts behind the carried bytes. -/
def scanStep (inBracketedPaste fresh : Bool) (byte : UInt8) (rest : List UInt8) : ScanStep :=
  if pasteStart <+: byte :: rest then .advance markerLen true .none
  else if pasteEnd <+: byte :: rest then .advance markerLen false .none
  else if byte = escape ∧ Unfinished (byte :: rest) then .deferred
  else if byte = escape ∧ fresh = true ∧ rest.head?.any isNewline = true then
    .advance 2 inBracketedPaste (.edit .insertedUncounted)
  else .advance 1 inBracketedPaste (byteEffect inBracketedPaste byte)

/-- The loop over the buffer, with the number of carried bytes still ahead. Every round
advances, so the buffer's length is fuel enough. -/
def scanLoop : Nat → Bool → Nat → List UInt8 → SubmitScan → SubmitScan × SubmitScanner
  | 0, inBracketedPaste, _, _, scan => (scan, ⟨inBracketedPaste, []⟩)
  | _ + 1, inBracketedPaste, _, [], scan => (scan, ⟨inBracketedPaste, []⟩)
  | fuel + 1, inBracketedPaste, carriedLen, byte :: rest, scan =>
    match scanStep inBracketedPaste (carriedLen = 0) byte rest with
    | .deferred => (scan, ⟨inBracketedPaste, byte :: rest⟩)
    | .advance bytes inside effect =>
      scanLoop fuel inside (carriedLen - bytes) ((byte :: rest).drop bytes)
        (scan.apply effect)

namespace SubmitScanner

def observeChunk (scanner : SubmitScanner) (bytes : List UInt8) (continuesFrame : Bool)
    : SubmitScan × SubmitScanner :=
  let buffer := scanner.carried ++ bytes
  let carriedLen := if continuesFrame then 0 else scanner.carried.length
  scanLoop buffer.length scanner.inBracketedPaste carriedLen buffer {}

def reset (_ : SubmitScanner) : SubmitScanner := {}

/-- The scanner states that calls can lead to. -/
inductive Reachable : SubmitScanner → Prop
  | default : Reachable {}
  | observed {scanner} (reachable : Reachable scanner) (bytes : List UInt8)
      (continuesFrame : Bool) : Reachable (scanner.observeChunk bytes continuesFrame).2
  | reset {scanner} (reachable : Reachable scanner) : Reachable scanner.reset

/-- The chunks of one frame, scanned in order. -/
def observeChunks : SubmitScanner → Bool → List (List UInt8) → List SubmitScan × SubmitScanner
  | scanner, _, [] => ([], scanner)
  | scanner, continuesFrame, chunk :: rest =>
    let observed := scanner.observeChunk chunk continuesFrame
    let later := observeChunks observed.2 true rest
    (observed.1 :: later.1, later.2)

end SubmitScanner

/-- The edits reported since the last submit: those of the last submitting chunk, which
come after its submit, and those of all later chunks. -/
def editsSinceSubmit : List SubmitScan → List ControllerDraftEdit
  | [] => []
  | scan :: rest =>
    if rest.any SubmitScan.submitted then editsSinceSubmit rest
    else scan.edits ++ editsSinceSubmit rest

/-- Merging is associative: a merged pair has the effect of its two edits. -/
theorem pushEdit_merge (merges : first.merge second = some merged)
    (edits : List ControllerDraftEdit)
    : pushEdit (pushEdit edits first) second = pushEdit edits merged := by
  have saturates (left middle right : Nat)
      : saturatingAdd (saturatingAdd left middle) right
        = saturatingAdd left (saturatingAdd middle right) := by
    unfold saturatingAdd
    omega
  cases found : edits.getLast? with
  | none =>
    rw [getLast?_eq_none_iff.mp found]
    simp [pushEdit, merges]
  | some last =>
    cases first <;> cases second <;>
      simp only [ControllerDraftEdit.merge, reduceCtorEq, if_true, if_false,
        Option.some.injEq] at merges <;> subst merges <;>
      cases last <;>
      simp [pushEdit, found, ControllerDraftEdit.merge, saturates]

/-- Pushing merged edits is pushing the edits. -/
theorem foldl_pushEdit (edits first second : List ControllerDraftEdit)
    : (second.foldl pushEdit first).foldl pushEdit edits
      = second.foldl pushEdit (first.foldl pushEdit edits) := by
  induction second generalizing first with
  | nil => rfl
  | cons edit rest ih =>
    have one : (pushEdit first edit).foldl pushEdit edits
        = pushEdit (first.foldl pushEdit edits) edit := by
      unfold pushEdit
      split
      · rename_i empty
        rw [getLast?_eq_none_iff.mp empty]
        rfl
      · rename_i last found
        obtain ⟨earlier, rfl⟩ := getLast?_eq_some_iff.mp found
        split
        · rename_i merged merges
          rw [dropLast_concat, foldl_append, foldl_append]
          exact (pushEdit_merge merges _).symm
        · rw [foldl_append]
          rfl
    rw [foldl_cons, ih, one, foldl_cons]

/-- The scan with the findings of the bytes that follow. -/
def SubmitScan.extend (scan next : SubmitScan) : SubmitScan :=
  if next.submitted then next else ⟨scan.submitted, next.edits.foldl pushEdit scan.edits⟩

theorem SubmitScan.extend_assoc (first second third : SubmitScan)
    : (first.extend second).extend third = first.extend (second.extend third) := by
  unfold extend
  cases last : third.submitted <;> cases middle : second.submitted <;>
    simp [last, middle, foldl_pushEdit]

theorem SubmitScan.apply_eq_extend (scan : SubmitScan) (effect : ScanEffect)
    : scan.apply effect = scan.extend (SubmitScan.apply {} effect) := by
  cases effect <;> simp [apply, extend, pushEdit]

/-! ### Scanning as a relation -/

/-- What scanning a buffer finds and where it leaves the scanner. -/
inductive Scans : Bool → Nat → List UInt8 → SubmitScan → SubmitScanner → Prop
  | done {inside carriedLen} : Scans inside carriedLen [] {} ⟨inside, []⟩
  | deferred {inside carriedLen byte rest}
      (unfinished : scanStep inside (carriedLen = 0) byte rest = .deferred)
      : Scans inside carriedLen (byte :: rest) {} ⟨inside, byte :: rest⟩
  | advanced {inside carriedLen byte rest bytes next effect scan final}
      (step : scanStep inside (carriedLen = 0) byte rest = .advance bytes next effect)
      (later : Scans next (carriedLen - bytes) ((byte :: rest).drop bytes) scan final)
      : Scans inside carriedLen (byte :: rest) ((SubmitScan.apply {} effect).extend scan) final

variable {inside fresh : Bool} {byte : UInt8} {rest buffer more : List UInt8}
  {carriedLen bytes : Nat} {found : SubmitScan} {final : SubmitScanner} {effect : ScanEffect}

/-- The cases of one round. -/
theorem scanStep_advance {next} (step : scanStep inside fresh byte rest = .advance bytes next effect)
    : 1 ≤ bytes ∧ bytes ≤ (byte :: rest).length := by
  unfold scanStep at step
  split at step
  · rename_i marker
    cases step
    exact ⟨by decide, marker.length_le⟩
  split at step
  · rename_i marker
    cases step
    exact ⟨by decide, marker.length_le⟩
  split at step
  · cases step
  split at step
  · rename_i pair
    cases step
    cases rest with
    | nil => simp at pair
    | cons second others => simp
  · cases step
    simp

theorem scanStep_deferred (step : scanStep inside fresh byte rest = .deferred)
    : Unfinished (byte :: rest) := by
  unfold scanStep at step
  split at step
  · cases step
  split at step
  · cases step
  split at step
  · rename_i unfinished
    exact unfinished.2
  split at step <;> cases step

/-- The loop finds what the relation says. -/
theorem scanLoop_scans (enough : buffer.length ≤ fuel) (inside : Bool) (carriedLen : Nat)
    : ∃ found final, Scans inside carriedLen buffer found final
      ∧ ∀ scan, scanLoop fuel inside carriedLen buffer scan = (scan.extend found, final) := by
  induction fuel generalizing buffer inside carriedLen with
  | zero =>
    rw [length_eq_zero_iff.mp (Nat.le_zero.mp enough)]
    exact ⟨_, _, .done, fun _ => rfl⟩
  | succ fuel ih =>
    cases buffer with
    | nil => exact ⟨_, _, .done, fun _ => rfl⟩
    | cons byte rest =>
      cases step : scanStep inside (carriedLen = 0) byte rest with
      | deferred => exact ⟨_, _, .deferred step, fun scan => by simp only [scanLoop, step]; rfl⟩
      | advance bytes next effect =>
        obtain ⟨positive, _⟩ := scanStep_advance step
        have shorter : ((byte :: rest).drop bytes).length ≤ fuel := by
          simp only [length_drop, length_cons] at enough ⊢
          omega
        obtain ⟨found, final, scans, loops⟩ := ih shorter next (carriedLen - bytes)
        refine ⟨_, final, .advanced step scans, fun scan => ?_⟩
        simp only [scanLoop, step, loops]
        rw [scan.apply_eq_extend, SubmitScan.extend_assoc]

section

variable (scans : Scans inside carriedLen buffer found final)
include scans

theorem Scans.unique (again : Scans inside carriedLen buffer other last)
    : found = other ∧ final = last := by
  induction scans generalizing other with
  | done =>
    cases again
    exact ⟨rfl, rfl⟩
  | deferred unfinished =>
    cases again with
    | deferred _ => exact ⟨rfl, rfl⟩
    | advanced step _ => cases unfinished.symm.trans step
  | advanced step _ ih =>
    cases again with
    | deferred unfinished => cases unfinished.symm.trans step
    | advanced step' later =>
      cases step.symm.trans step'
      obtain ⟨rfl, rfl⟩ := ih later
      exact ⟨rfl, rfl⟩

/-- The edits of a scan are merged already. -/
theorem Scans.merged
    : found.edits.foldl pushEdit [] = found.edits := by
  induction scans with
  | done | deferred _ => rfl
  | @advanced _ _ _ _ _ _ effect scan _ _ _ ih =>
    unfold SubmitScan.extend
    split
    · exact ih
    · have one : (SubmitScan.apply {} effect).edits.foldl pushEdit []
          = (SubmitScan.apply {} effect).edits := by cases effect <;> rfl
      rw [foldl_pushEdit, one]

theorem Scans.extend_default
    : SubmitScan.extend {} found = found := by
  unfold SubmitScan.extend
  cases submitted : found.submitted with
  | true => simp
  | false => simp [scans.merged, ← submitted]

end

theorem SubmitScanner.observeChunk_scans (scanner : SubmitScanner) (bytes : List UInt8)
    (continuesFrame : Bool)
    : Scans scanner.inBracketedPaste (if continuesFrame then 0 else scanner.carried.length)
        (scanner.carried ++ bytes) (scanner.observeChunk bytes continuesFrame).1
        (scanner.observeChunk bytes continuesFrame).2 := by
  obtain ⟨found, final, scans, loops⟩ := scanLoop_scans
    (Nat.le_refl (scanner.carried ++ bytes).length) scanner.inBracketedPaste
    (if continuesFrame then 0 else scanner.carried.length)
  unfold observeChunk
  dsimp only
  rw [loops, scans.extend_default]
  exact scans

/-! ### Cuts -/

/-- What a scan leaves to carry ends its buffer and is an unfinished marker. -/
theorem Scans.carried (scans : Scans inside carriedLen buffer found final)
    : final.carried <:+ buffer ∧ (final.carried = [] ∨ Unfinished final.carried) := by
  induction scans with
  | done => exact ⟨suffix_refl _, Or.inl rfl⟩
  | deferred unfinished => exact ⟨suffix_refl _, Or.inr (scanStep_deferred unfinished)⟩
  | advanced _ _ ih => exact ⟨ih.1.trans (drop_suffix _ _), ih.2⟩

/-- An unfinished marker is deferred. -/
theorem scanStep_unfinished (inside fresh : Bool) (starts : byte = escape)
    (unfinished : Unfinished (byte :: rest))
    : scanStep inside fresh byte rest = .deferred := by
  have short (marker : List UInt8) (long : markerLen ≤ marker.length)
      : ¬marker <+: byte :: rest :=
    fun starts => absurd starts.length_le (by have := unfinished.1; omega)
  unfold scanStep
  rw [if_neg (short pasteStart (by decide)), if_neg (short pasteEnd (by decide)),
    if_pos ⟨starts, unfinished⟩]

/-- A round that advances does not look past the bytes it has.
Witness: a marker that starts the longer buffer but not the shorter one is cut by its end,
and so is one that the longer buffer leaves unfinished; the round would have deferred.
-/
theorem scanStep_append {next} (step : scanStep inside fresh byte rest = .advance bytes next effect)
    (more : List UInt8)
    : scanStep inside fresh byte (rest ++ more) = .advance bytes next effect := by
  have finished : ¬(byte = escape ∧ Unfinished (byte :: rest)) := by
    rintro ⟨starts, unfinished⟩
    cases (scanStep_unfinished inside fresh starts unfinished).symm.trans step
  have marks {marker : List UInt8} (known : marker = pasteStart ∨ marker = pasteEnd)
      : marker <+: byte :: (rest ++ more) ↔ marker <+: byte :: rest := by
    have length : marker.length = markerLen := by rcases known with rfl | rfl <;> rfl
    constructor
    · intro starts
      rcases prefix_or_prefix_of_prefix starts (prefix_append (byte :: rest) more)
        with inFront | cut
      · exact inFront
      · by_cases short : (byte :: rest).length < markerLen
        · have head : byte = escape := by
            obtain ⟨tail, shape⟩ := cut
            rcases known with rfl | rfl <;> exact (cons.inj shape).1
          have unfinished : byte :: rest <+: pasteStart ∨ byte :: rest <+: pasteEnd := by
            rcases known with rfl | rfl
            · exact Or.inl cut
            · exact Or.inr cut
          exact absurd ⟨head, short, unfinished⟩ finished
        · exact (cut.eq_of_length_le (by omega)) ▸ prefix_refl _
    · exact fun starts => starts.trans (prefix_append (byte :: rest) more)
  have stays : ¬(byte = escape ∧ Unfinished (byte :: (rest ++ more))) := by
    rintro ⟨starts, short, unfinished⟩
    have front : byte :: rest <+: byte :: (rest ++ more) := prefix_append (byte :: rest) more
    exact finished ⟨starts, Nat.lt_of_le_of_lt front.length_le short,
      unfinished.imp front.trans front.trans⟩
  have second : (byte = escape ∧ fresh = true ∧ (rest ++ more).head?.any isNewline = true)
      ↔ (byte = escape ∧ fresh = true ∧ rest.head?.any isNewline = true) := by
    refine and_congr_right fun starts => ?_
    cases rest with
    | nil =>
      subst starts
      exact absurd ⟨rfl, by decide⟩ finished
    | cons first others => rfl
  unfold scanStep at step ⊢
  simp only [marks (Or.inl rfl), marks (Or.inr rfl), if_neg stays, if_neg finished, second]
    at step ⊢
  exact step

/-- Scanning goes on behind a cut from what was carried. -/
theorem Scans.append (scans : Scans inside carriedLen buffer found middle)
    (follows : Scans middle.inBracketedPaste
      (carriedLen - (buffer.length - middle.carried.length)) (middle.carried ++ more) later
      final)
    : Scans inside carriedLen (buffer ++ more) (found.extend later) final := by
  induction scans with
  | done =>
    rw [follows.extend_default]
    exact follows
  | @deferred inside carriedLen byte rest unfinished =>
    rw [follows.extend_default]
    simpa using follows
  | @advanced inside carriedLen byte rest bytes next effect scan final' step inner ih =>
    obtain ⟨_, within⟩ := scanStep_advance step
    have remaining : final'.carried.length ≤ (byte :: rest).length - bytes := by
      have ends := inner.carried.1.length_le
      rwa [length_drop] at ends
    have shifted : carriedLen - bytes
          - (((byte :: rest).drop bytes).length - final'.carried.length)
        = carriedLen - ((byte :: rest).length - final'.carried.length) := by
      rw [length_drop]
      omega
    have continued := ih (shifted.symm ▸ follows)
    rw [← drop_append_of_le_length within] at continued
    rw [SubmitScan.extend_assoc]
    exact .advanced (scanStep_append step more) continued

/-- A round does not depend on freshness unless it meets Alt+Enter. -/
theorem scanStep_fresh (unpaired : byte ≠ escape ∨ rest.head?.any isNewline = false)
    (first second : Bool)
    : scanStep inside first byte rest = scanStep inside second byte rest := by
  have never (fresh : Bool)
      : ¬(byte = escape ∧ fresh = true ∧ rest.head?.any isNewline = true) := by
    rintro ⟨starts, -, newline⟩
    rcases unpaired with other | none
    · exact other starts
    · simp [none] at newline
  simp only [scanStep, if_neg (never first), if_neg (never second)]

/-- Carried bytes that are no Escapes are scanned as fresh ones. -/
theorem Scans.plain (scans : Scans inside carriedLen buffer found final)
    (fresh : carriedLen = 0) (carried : Nat)
    (plain : ∀ byte ∈ buffer.take carried, byte ≠ escape)
    : Scans inside carried buffer found final := by
  induction scans generalizing carried with
  | done => exact .done
  | @deferred inside carriedLen byte rest unfinished =>
    cases carried with
    | zero => exact .deferred (fresh ▸ unfinished)
    | succ count =>
      have other := plain byte (by simp)
      exact .deferred ((scanStep_fresh (Or.inl other) _ _).trans unfinished)
  | @advanced inside carriedLen byte rest bytes next effect scan final step later ih =>
    cases carried with
    | zero =>
      subst fresh
      exact .advanced step later
    | succ count =>
      have other := plain byte (by simp)
      refine .advanced ((scanStep_fresh (Or.inl other) _ _).trans step) (ih (by omega) _ ?_)
      intro ahead member
      rw [← drop_take] at member
      exact plain ahead (mem_of_mem_drop member)

/-- An unfinished marker of two bytes or more starts no Alt+Enter and holds one Escape. -/
theorem Unfinished.shape (unfinished : Unfinished rest) (two : 2 ≤ rest.length)
    : rest.tail.head?.any isNewline = false ∧ rest.tail ≠ []
      ∧ ∀ byte ∈ rest.tail, byte ≠ escape := by
  obtain ⟨short, starts⟩ := unfinished
  have known : rest = pasteStart.take rest.length ∨ rest = pasteEnd.take rest.length :=
    starts.imp prefix_iff_eq_take.mp prefix_iff_eq_take.mp
  generalize rest.length = length at known short two
  have few : length = 2 ∨ length = 3 ∨ length = 4 ∨ length = 5 := by
    have six : markerLen = 6 := rfl
    omega
  rcases few with rfl | rfl | rfl | rfl <;> rcases known with rfl | rfl <;> decide +kernel

/-- An unfinished marker of two bytes or more is scanned as if it were fresh. -/
theorem Scans.unfinished (scans : Scans inside 0 (rest ++ more) found final)
    (unfinished : Unfinished rest) (two : 2 ≤ rest.length) {carried : Nat}
    (within : carried ≤ rest.length)
    : Scans inside carried (rest ++ more) found final := by
  obtain ⟨unpaired, longer, plain⟩ := unfinished.shape two
  cases rest with
  | nil => simp at two
  | cons byte tail =>
    have same : (tail ++ more).head?.any isNewline = false := by
      cases tail with
      | nil => exact absurd rfl longer
      | cons _ _ => exact unpaired
    cases scans with
    | deferred step => exact .deferred ((scanStep_fresh (Or.inr same) _ _).trans step)
    | @advanced _ _ _ _ bytes _ _ _ _ step later =>
      obtain ⟨positive, _⟩ := scanStep_advance step
      refine .advanced ((scanStep_fresh (Or.inr same) _ _).trans step)
        (later.plain (Nat.zero_sub _) _ ?_)
      intro ahead member
      have inFront : (byte :: tail.append more).take carried = (byte :: tail).take carried :=
        take_append_of_le_length within
      rw [← drop_take, inFront] at member
      refine plain ahead ?_
      obtain ⟨count, rfl⟩ : ∃ count, bytes = count + 1 := ⟨bytes - 1, by omega⟩
      cases carried with
      | zero => simp at member
      | succ carried =>
        exact mem_of_mem_take (mem_of_mem_drop (by simpa using member))

/-- A reachable scanner carries nothing or an unfinished marker. -/
theorem SubmitScanner.Reachable.carried {scanner : SubmitScanner} (reachable : scanner.Reachable)
    : scanner.carried = [] ∨ Unfinished scanner.carried := by
  cases reachable with
  | default | reset _ => exact Or.inl rfl
  | observed _ bytes continuesFrame =>
    exact (SubmitScanner.observeChunk_scans _ bytes continuesFrame).carried.2

theorem Unfinished.head (unfinished : Unfinished (byte :: rest))
    : byte = escape := by
  obtain ⟨-, ⟨tail, shape⟩ | ⟨tail, shape⟩⟩ := unfinished <;> exact (cons.inj shape).1

/-- The chunks of a frame are scanned as the frame. -/
theorem SubmitScanner.observeChunks_scans (chunks : List (List UInt8))
    (nonempty : ∀ chunk ∈ chunks, chunk ≠ []) (scanner : SubmitScanner)
    (carried : scanner.carried = [] ∨ Unfinished scanner.carried) (continuesFrame : Bool)
    : Scans scanner.inBracketedPaste (if continuesFrame then 0 else scanner.carried.length)
        (scanner.carried ++ chunks.flatten)
        ((scanner.observeChunks continuesFrame chunks).1.foldr SubmitScan.extend {})
        (scanner.observeChunks continuesFrame chunks).2 := by
  induction chunks generalizing scanner continuesFrame with
  | nil =>
    obtain ⟨inside, left⟩ := scanner
    cases left with
    | nil => exact .done
    | cons byte rest =>
      rcases carried with empty | unfinished
      · cases empty
      · simp only [flatten_nil, append_nil]
        exact .deferred (scanStep_unfinished _ _ unfinished.head unfinished)
  | cons chunk rest ih =>
    have first := scanner.observeChunk_scans chunk continuesFrame
    have later := ih (fun other member => nonempty other (by simp [member]))
      (scanner.observeChunk chunk continuesFrame).2 first.carried.2 true
    have some : 0 < chunk.length := length_pos_iff.mpr (nonempty chunk (by simp))
    simp only [observeChunks, foldr_cons, flatten_cons, ← append_assoc]
    refine first.append ?_
    obtain ⟨suffix, shape⟩ := first.carried
    have ends := suffix.length_le
    generalize (scanner.observeChunk chunk continuesFrame).2 = middle at later shape ends ⊢
    have fewer : (if continuesFrame = true then 0 else scanner.carried.length)
        ≤ scanner.carried.length := by split <;> omega
    generalize (if continuesFrame = true then 0 else scanner.carried.length) = left at fewer ⊢
    rw [length_append] at ends ⊢
    by_cases behind : left - (scanner.carried.length + chunk.length - middle.carried.length) = 0
    · rw [behind]
      exact later
    · rcases shape with empty | unfinished
      · simp only [empty, length_nil] at behind
        omega
      · exact later.unfinished unfinished (by omega) (by omega)

/-- The folded findings report a submit where some chunk does, and the merged edits since. -/
theorem foldr_extend {scans : List SubmitScan}
    (merged : ∀ scan ∈ scans, scan.edits.foldl pushEdit [] = scan.edits)
    : scans.foldr SubmitScan.extend {}
      = ⟨scans.any SubmitScan.submitted, (editsSinceSubmit scans).foldl pushEdit []⟩ := by
  induction scans with
  | nil => rfl
  | cons scan rest ih =>
    have own := merged scan (by simp)
    rw [foldr_cons, ih (fun other member => merged other (by simp [member]))]
    cases later : rest.any SubmitScan.submitted with
    | true => simp [SubmitScan.extend, editsSinceSubmit, later]
    | false => simp [SubmitScan.extend, editsSinceSubmit, later, foldl_pushEdit, own]

theorem SubmitScanner.observeChunks_merged (scanner : SubmitScanner) (continuesFrame : Bool)
    (chunks : List (List UInt8))
    : ∀ scan ∈ (scanner.observeChunks continuesFrame chunks).1,
        scan.edits.foldl pushEdit [] = scan.edits := by
  induction chunks generalizing scanner continuesFrame with
  | nil => nofun
  | cons chunk rest ih =>
    intro scan member
    rcases mem_cons.mp member with rfl | later
    · exact (scanner.observeChunk_scans chunk continuesFrame).merged
    · exact ih _ true scan later

/-- Submit detection does not depend on how a frame is cut: from every reachable scanner,
scanning the chunks leaves the scanner of the whole scan, reports a submit in some chunk
exactly when the whole scan does, and the edits since the last submit, merged in order, are
those of the whole scan. -/
theorem submit_scan_independent_of_cuts {scanner : SubmitScanner} (reachable : scanner.Reachable)
    {chunks : List (List UInt8)} (nonempty : ∀ chunk ∈ chunks, chunk ≠ [])
    : let whole := scanner.observeChunk chunks.flatten false
      let cut := scanner.observeChunks false chunks
      cut.2 = whole.2
      ∧ cut.1.any SubmitScan.submitted = whole.1.submitted
      ∧ (editsSinceSubmit cut.1).foldl pushEdit [] = whole.1.edits := by
  intro whole cut
  have scanned := scanner.observeChunks_scans chunks nonempty reachable.carried false
  obtain ⟨found, final⟩ := scanned.unique (scanner.observeChunk_scans chunks.flatten false)
  rw [foldr_extend (scanner.observeChunks_merged false chunks)] at found
  exact ⟨final, congrArg SubmitScan.submitted found, congrArg SubmitScan.edits found⟩

/-- An Escape carried from an earlier frame, then a frame cut inside an Alt+Enter pair, a
paste marker and a character. -/
theorem cut_alt_enter_not_submitted
    : let scanner := (SubmitScanner.observeChunk {} [0x1b] false).2
      let chunks := [[0x0d, 0x61, 0x1b], [0x0d, 0x1b, 0x5b], [0x32, 0x30, 0x30, 0x7e, 0xc3],
        [0xa9, 0x0d]]
      (scanner.observeChunks false chunks).1.any SubmitScan.submitted = true
      ∧ (scanner.observeChunks false chunks).2 = ⟨true, []⟩
      ∧ (scanner.observeChunks false chunks).2
        = (scanner.observeChunk chunks.flatten false).2 := by
  intro scanner chunks
  refine ⟨by decide +kernel, by decide +kernel, ?_⟩
  exact (submit_scan_independent_of_cuts (.observed .default [0x1b] false)
    (by decide : ∀ chunk ∈ chunks, chunk ≠ [])).1

end Dure.HostRuntime
