import Dure.Plugin.Interruptions

/-! Whole runs of the executor, stopped and started again at any point. -/

namespace Dure.Plugin

open Library Check List
open Progress

section

variable {sha256 : Sha256} {seen : Set TargetState} {first : Event} {started : Started}
  {journal : List Event} {progress : Progress}

theorem selectCommand_ok (selected : selectCommand commands expected = .ok entry)
    : entry.1.isMutation = true := by
  have chosen : entry ∈ commands.zipIdx.filter (fun entry => expected.matches entry.1) := by
    unfold selectCommand at selected
    split at selected
    · cases selected
    · rename_i only listed
      cases selected
      simp [listed]
    · cases selected
  have matched := (mem_filter.mp chosen).2
  cases expected <;> cases command : entry.1 <;>
    simp_all [MutationCommand.matches, Command.isMutation]

theorem lifecycleCommands_ok (chosen : lifecycleCommands kind commands = .ok selected)
    : ∀ command ∈ selected, command.isMutation = true := by
  unfold lifecycleCommands at chosen
  simp only [bind_ok, pure_ok] at chosen
  obtain ⟨earlier, first, later, second, _, _, rfl⟩ := chosen
  intro command member
  simp only [mem_cons, not_mem_nil, or_false] at member
  rcases member with rfl | rfl
  · exact selectCommand_ok first
  · exact selectCommand_ok second

/-- A started operation is a journal that the executor can take up. -/
theorem createStartedEvent_left {request : StartRequest} {event : Event}
    (created : createStartedEvent sha256 request = .ok event)
    : ∃ started, event.body = .started started
      ∧ Left sha256 seen event started [event]
        (.initial started event.recordedAtMs) := by
  unfold createStartedEvent at created
  simp only [bind_ok, mapError_ok, pure_ok] at created
  obtain ⟨commands, chosen, receipt, folded, rfl⟩ := created
  obtain ⟨first, started, progress, _, read, _, _⟩ := foldJournal_ok.mp folded
  obtain ⟨carried, rfl, rfl⟩ := readJournal_opened read
  cases carried
  refine ⟨_, rfl, ?_, read, ?_⟩
  · unfold readJournal openJournal Started.validate at read
    simp only [↓seq_ok, bind_ok, rejectIf_ok, not_or, distinct_ok] at read
    obtain ⟨_, _, ⟨_, _, ⟨_, ⟨_, bounded⟩, ⟨checked, _⟩, _⟩, _⟩, _⟩ := read
    refine ⟨?_, Nat.le_of_not_lt bounded, ?_⟩
    · intro step member
      obtain ⟨command, listed, rfl⟩ := mem_map.mp member
      exact lifecycleCommands_ok chosen command listed
    · intro step member
      have valid := (checked step member).1
      unfold Step.validate at valid
      simp only [↓seq_ok, rejectIf_ok, Bool.not_eq_true] at valid
      exact valid.2.2.1
  · have recorded : 0 ≤ request.recordedAtMs := by
      unfold readJournal openJournal Event.validateRecord at read
      simp only [↓seq_ok, bind_ok, rejectIf_ok, Int.not_lt] at read
      exact read.2.choose_spec.1.1.2
    exact {
      slots := by simp [Progress.initial]
      tried := by simp [Progress.initial]
      due := Nat.zero_le _
      past := recorded
      representable := request.representable
      phase := ⟨0, .idle rfl rfl rfl, by simp⟩
    }

/-- Witness: induction on the inputs; every pass keeps the journal sound and only appends. -/
theorem Left.after (left : Left sha256 seen first started journal progress)
    (known : ∀ input ∈ inputs, input.ObservesIn seen)
    : ∃ after, Left sha256 seen first started ((executor sha256).after journal inputs) after
      ∧ journal <+: (executor sha256).after journal inputs := by
  induction inputs generalizing journal progress with
  | nil => exact ⟨progress, left, prefix_refl _⟩
  | cons input rest ih =>
    have passes := executor_passes left (known input mem_cons_self)
    obtain ⟨middle, kept⟩ := passes.left
    obtain ⟨after, ended, grows⟩ := ih kept
      (fun other member => known other (mem_cons_of_mem _ member))
    exact ⟨after, ended, passes.grows.trans grows⟩

/-- A command is run again for a step only over a journal that records its earlier attempt as
not applied, or as resumed over an unchanged target.
-/
def RepeatsAllowed (sha256 : Sha256) (start : List Event) (inputs : List Input) : Prop :=
  ∀ earlier run between again later stepIndex attempt nextAttempt,
    (executor sha256).exchanges start inputs = earlier ++ run :: (between ++ again :: later)
    → run.2.2 = some (stepIndex, attempt)
    → again.2.2 = some (stepIndex, nextAttempt)
    → ∃ prior preparation rest before, again.1 = prior ++ preparation :: rest
      ∧ preparation.body = .stepPrepared stepIndex attempt before
      ∧ Released stepIndex attempt before rest

theorem Left.repeatsAllowed (left : Left sha256 seen first started journal progress)
    (known : ∀ input ∈ inputs, input.ObservesIn seen)
    : RepeatsAllowed sha256 journal inputs := by
  intro earlier run between again later stepIndex attempt nextAttempt split ran ranAgain
  obtain ⟨before, rest, rfl, met, follows⟩ := (executor sha256).exchanges_split split
  obtain ⟨middle, remaining, rfl, metAgain, _⟩ :=
    (executor sha256).exchanges_split follows.symm
  -- the journal that the first run met and left
  obtain ⟨runProgress, runLeft, _⟩ := left.after
    (fun input member => known input (mem_append_left _ member))
  rw [← met] at runLeft
  have runPasses := executor_passes runLeft (known run.2.1 (by simp))
  have runAnswer := (executor sha256).exchanges_answer
    (split ▸ mem_append_right _ mem_cons_self)
  obtain ⟨_, preparation, recorded, start, grown, prepares⟩ :=
    runPasses.command stepIndex attempt (runAnswer ▸ ran)
  obtain ⟨afterRun, afterLeft⟩ := runPasses.left
  -- the journal that the second run met
  have knownBetween : ∀ input ∈ middle, input.ObservesIn seen :=
    fun input member => known input (by simp [member])
  obtain ⟨againProgress, againLeft, grows⟩ := afterLeft.after knownBetween
  rw [← metAgain] at againLeft grows
  have againPasses := executor_passes againLeft (known again.2.1 (by simp))
  have againAnswer := (executor sha256).exchanges_answer
    (split ▸ mem_append_right _
      (mem_cons_of_mem _ (mem_append_right _ mem_cons_self)))
  obtain ⟨due, _⟩ := againPasses.command stepIndex nextAttempt (againAnswer ▸ ranAgain)
  obtain ⟨more, extends_⟩ := grows
  have journals : again.1 = run.1 ++ preparation :: (recorded ++ more) := by
    rw [← extends_, grown, append_assoc, cons_append]
  have read := againLeft.read
  rw [journals] at read
  exact ⟨run.1, preparation, recorded ++ more, start, journals, prepares,
    (standing_of_read againLeft.planned.mutations prepares read).released_of_due
      due.applying due.free due.settled due.next⟩

/-- Where an interrupted operation leads from its journal: a step that is left is prepared,
a checkpoint is reconciled exactly when its command was not seen to fail, and commands are
repeated only where that is allowed.
-/
structure Resumable (sha256 : Sha256) (seen : Set TargetState) (start : List Event)
    (inputs : List Input) : Prop where
  folds : ∃ receipt, foldJournal sha256 ((executor sha256).after start inputs) = .ok receipt
  continues
    : ∀ receipt stepIndex attempt,
      foldJournal sha256 ((executor sha256).after start inputs) = .ok receipt
      → receipt.recovery = .continue stepIndex attempt
      → stepIndex < receipt.steps.length
      → attempt ≤ maxStepAttempts
      → ∀ before : StateObservation, before.hasValidDigest sha256 → before.state ∈ seen
        → ∃ body, prepareApplyStep sha256 stepIndex attempt before = .ok body
          ∧ ∃ next, foldJournal sha256 ((executor sha256).after start inputs
              ++ [nextEvent sha256 receipt body]) = .ok next
  inspects
    : ∀ receipt checkpoint,
      foldJournal sha256 ((executor sha256).after start inputs) = .ok receipt
      → receipt.recovery = .inspectBeforeRetry checkpoint
      → ∃ step, receipt.steps[checkpoint.stepIndex]? = some step
        ∧ step.command.isMutation = true
        ∧ ∀ (ownership : ExistingOwnership) (observed : StateObservation),
          observed.hasValidDigest sha256 → observed.state ∈ seen
          → ((∃ body, reconcileApplyStep sha256 step.command receipt.pluginVersion ownership
                checkpoint observed = .ok body
              ∧ ∃ next, foldJournal sha256 ((executor sha256).after start inputs
                  ++ [nextEvent sha256 receipt body]) = .ok next)
            ↔ checkpoint.Inspectable)
  repeats : RepeatsAllowed sha256 start inputs

/-- The checkpoint of a directive is about a step of the plan. -/
theorem Left.planned_step (left : Left sha256 seen first started journal progress)
    {checkpoint : StepCheckpoint} (uncertain : progress.uncertain = .ok checkpoint)
    : ∃ step, started.steps[checkpoint.stepIndex]? = some step := by
  obtain ⟨_, phase, _⟩ := left.sound.phase
  cases phase with
  | prepared _ there settled due planned =>
    obtain rfl := uncertain_checkpoint there settled uncertain
    exact ⟨_, getElem?_eq_getElem (due ▸ planned)⟩
  | observed _ free there due planned =>
    obtain rfl := uncertain_pending free there uncertain
    exact ⟨_, getElem?_eq_getElem (due ▸ planned)⟩
  | idle _ free settled | failed _ free settled | closed _ free settled =>
    exact absurd uncertain (uncertain_none free settled)

/-- Whatever the commands and inspections answered and wherever the process was stopped, the
journal of a started operation is taken further from its directive.
-/
theorem interrupted_apply_resumable (collisionFree : CollisionFree sha256 seen)
    {request : StartRequest} {event : Event}
    (created : createStartedEvent sha256 request = .ok event) {inputs : List Input}
    (known : ∀ input ∈ inputs, input.ObservesIn seen)
    : Resumable sha256 seen [event] inputs := by
  obtain ⟨started, _, opened⟩ := @createStartedEvent_left sha256 seen _ _ created
  obtain ⟨progress, left, _⟩ := opened.after known
  obtain ⟨recovery, directed, folded⟩ := left.folded
  refine ⟨⟨_, folded⟩, ?_, ?_, opened.repeatsAllowed known⟩
  · intro receipt stepIndex attempt folds directs remains allowed before valid shown
    obtain rfl := Except.ok.inj (folded.symm.trans folds)
    cases directs
    exact left.prepares directed remains allowed valid shown
  · intro receipt checkpoint folds directs
    obtain rfl := Except.ok.inj (folded.symm.trans folds)
    cases directs
    have uncertain : progress.uncertain = .ok checkpoint := by
      cases directed with
      | prepared _ uncertain | observed _ uncertain => exact uncertain
      | closed closing => exact closing.elim
    obtain ⟨step, found⟩ := left.planned_step uncertain
    refine ⟨step, found, left.planned.mutations.step found, ?_⟩
    intro ownership observed valid shown
    exact left.inspects directed collisionFree found ownership valid shown

end

namespace Sample

def absent : TargetState := ⟨.absent, .absent⟩

/-- SHA-256 on the texts of the example; every other text is given one more digest. -/
def hash (text : String) : TargetStateDigest :=
  if text = absent.text then
    ⟨"893284586c6c4bca69a952a87158c75385b345c2fe7531d82519847d7cf09764", by decide⟩
  else if text = "dure-plugin-apply-start/v2\x00install-1" then
    ⟨"cb7446f387b5268d61ce11b0bcad3835f3baaf1f0c58f803d3b0fd8a44d48514", by decide⟩
  else if text = "dure-plugin-apply-event/v2\x00install-1\x002" then
    ⟨"f0cfe538c93889d009ac22e19f1ba269946c9cc89f013a431172758638ae4444", by decide⟩
  else if text = "dure-plugin-apply-event/v2\x00install-1\x003" then
    ⟨"72daf0fa83e2b2d4abc381c2c06540da9d1c8ea022610732c019e744508c6d26", by decide⟩
  else
    ⟨"0000000000000000000000000000000000000000000000000000000000000000", by decide⟩

def observation : StateObservation := .new hash absent

def selector : PluginSelector where
  plugin := ⟨"dure-beads", by decide⟩
  marketplace := ⟨"dure-bundled", by decide⟩

def identity : TargetStateDigest :=
  ⟨"aaaaaaaaaaaaaaaaaaaaaaaaaaaaaaaaaaaaaaaaaaaaaaaaaaaaaaaaaaaaaaaa", by decide⟩

def request : StartRequest where
  operationId := ⟨"install-1", by decide⟩
  idempotencyKey := "install-request-1"
  pluginId := ⟨"dure.beads", by decide⟩
  pluginVersion := ⟨"1.0.0", by decide⟩
  integrationId := ⟨"dure.beads.codex", by decide⟩
  targetBindings :=
    [{
      key := ⟨"profile", by decide⟩
      role := .profileRoot
      canonicalPathIdentity := identity
      filesystemObjectIdentity := identity
      authorityGenerationIdentity := identity
      authorityIdentity := identity
      bindingIdentity := identity
    }]
  operationKind := .install
  plan :=
    {
      adapter := ⟨"codex", by decide⟩
      executable := .codex
      cliVersion := ⟨"0.40.0", by decide⟩
      selector := selector
      registrationTarget := .managedProfile ⟨"profile", by decide⟩
      commands :=
        [.addMarketplace ⟨"./marketplace"⟩ .managed .json,
          .installPlugin selector .managed .json]
    }
  recordedAtMs := 100
  representable := by decide

/-- The command fails, the target is as before, and the process stops after `appends`
appends.
-/
def failure (appends : Nat) : Input :=
  .advance
    {
      ownership := some .unproven
      inspected := some observation
      outcome := some (.exitedNonzero (some 1))
      reinspected := some observation
      marketplaceSource := ⟨"./marketplace"⟩
      child := none
      appends := appends
    }

def event : Event where
  eventId :=
    ⟨"plugin-start-cb7446f387b5268d61ce11b0bcad3835f3baaf1f0c58f803d3b0fd8a44d48514",
      by decide⟩
  operationId := request.operationId
  sequence := 1
  body := .started
    {
      idempotencyKey := request.idempotencyKey
      pluginId := request.pluginId
      pluginVersion := request.pluginVersion
      compensationFor := none
      targetBindings := some request.targetBindings
      operationKind := .install
      steps := request.plan.commands.map (request.plan.step request.integrationId)
    }
  recordedAtMs := 100

/-- What the stopped process leaves to inspect. -/
def checkpoint : StepCheckpoint :=
  ⟨0, 1, observation, some (.exitedNonzero (some 1)), some observation⟩

end Sample

theorem Sample.created : createStartedEvent Sample.hash Sample.request = .ok Sample.event := by
  decide +kernel

/-- A failed command whose two events were recorded is taken further. -/
theorem failed_install_resumable
    : CollisionFree Sample.hash {Sample.absent}
      ∧ createStartedEvent Sample.hash Sample.request = .ok Sample.event
      ∧ Resumable Sample.hash {Sample.absent} [Sample.event] [Sample.failure 3] := by
  have collisionFree : CollisionFree Sample.hash {Sample.absent} := by
    simp [CollisionFree]
  have known : ∀ input ∈ [Sample.failure 3], input.ObservesIn {Sample.absent} := by
    simp [Sample.failure, Input.ObservesIn, Answers.ObservesIn, Sample.observation,
      StateObservation.new]
  exact ⟨collisionFree, Sample.created,
    interrupted_apply_resumable collisionFree Sample.created known⟩

/-- A stop between the two events of a failed command leaves a journal that directs an
inspection, and no inspection is ever accepted.
-/
theorem failed_install_stuck
    : createStartedEvent Sample.hash Sample.request = .ok Sample.event
      ∧ (foldJournal Sample.hash
          ((executor Sample.hash).after [Sample.event] [Sample.failure 2])).map Receipt.recovery
        = .ok (.inspectBeforeRetry Sample.checkpoint)
      ∧ Sample.observation.hasValidDigest Sample.hash
      ∧ reconcileApplyStep Sample.hash (.addMarketplace ⟨"./marketplace"⟩ .managed .json)
          Sample.request.pluginVersion .unproven Sample.checkpoint Sample.observation
        = .error (.reconciliation .unexpectedCheckpointOutcome)
      ∧ (executor Sample.hash).after [Sample.event]
          (Sample.failure 2 :: List.replicate 3 (Sample.failure 3))
        = (executor Sample.hash).after [Sample.event] [Sample.failure 2] := by
  refine ⟨Sample.created, ?_, rfl, ?_, ?_⟩ <;> decide +kernel

end Dure.Plugin
