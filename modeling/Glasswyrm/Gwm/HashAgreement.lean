import Glasswyrm.Gwm.ContractDispatch

namespace Glasswyrm.Gwm

open Lifecycle Wm Library

/-! The server and the window manager hash an accepted policy alike. -/

/-! ## Receiving -/

/-- The answer as `drain` collects it from the messages.  Its checks on the
order, the counts and the identifiers of the messages can only refuse an
answer. -/
def receive (result : PolicySnapshotResult) :
    PolicyMessage → Option PolicySnapshotResult
  | .snapshotBegin .. => some result
  | .snapshotEnd .. => some result
  | .windowState payload =>
      match Ipc.decodeWindowState payload with
      | .error _ => none
      | .ok state => some { result with windows := result.windows ++ [state] }
  | .bindings payload =>
      match Ipc.decodeBindings payload with
      | .error _ => none
      | .ok bindings =>
          if result.bindings.isSome then none
          else some { result with bindings := some bindings }
  | .acknowledged acknowledgement =>
      some { result with
        generation := acknowledgement.appliedGeneration
        hash := acknowledgement.policyHash }

/-- The operations by which a submission is staged, in the order it is
sent. -/
def stagingOperations (submission : PolicySnapshotSubmission)
    (screen : ScreenModel) : List Transaction.Operation :=
  [.beginSnapshot, .upsert (.context (policyContext submission screen))] ++
    submission.outputs.map (fun output => .upsert (.output output)) ++
    submission.windows.map (fun window => .upsert (.window window)) ++
    submission.outputHints.map (fun hint => .upsert (.hint hint)) ++
    [.endSnapshot]

/-! ## Staging -/

/-- Upserts of one kind file their records. -/
theorem staged_upserts {α : Type} {edit : α → Transaction.Edit}
    {file : RawState → α → RawState}
    (files : ∀ active pending record next,
      (edit record).apply active pending = some next →
        next = file pending record)
    {records : List α} {transaction staged : Transaction}
    (success : (records.map fun record =>
        Transaction.Operation.upsert (edit record)).foldlM
      Transaction.apply transaction = some staged) :
    staged.pending = records.foldl file transaction.pending := by
  induction records generalizing transaction with
  | nil =>
      obtain rfl := Option.some.inj success
      rfl
  | cons record rest ih =>
      rw [List.map_cons, List.foldlM_cons] at success
      obtain ⟨next, applied, later⟩ := Option.bind_eq_some_iff.mp success
      rw [ih later, List.foldl_cons]
      congr 1
      simp only [Transaction.apply, Transaction.upsert] at applied
      split at applied
      · cases applied
      · obtain ⟨pending, taken, rfl⟩ := Option.map_eq_some_iff.mp applied
        exact files _ _ _ _ taken

theorem foldl_outputs (records : List OutputContext) (pending : RawState) :
    records.foldl (fun pending output => { pending with
        outputs := pending.outputs.insert output.outputId output }) pending =
      { pending with
        outputs := KeyMap.file OutputContext.outputId pending.outputs
          records } := by
  induction records generalizing pending with
  | nil => rfl
  | cons record rest ih =>
      rw [List.foldl_cons, ih]
      rfl

theorem foldl_windows (records : List RawWindow) (pending : RawState) :
    records.foldl (fun pending window => { pending with
        windows := pending.windows.insert window.windowId window }) pending =
      { pending with
        windows := KeyMap.file RawWindow.windowId pending.windows
          records } := by
  induction records generalizing pending with
  | nil => rfl
  | cons record rest ih =>
      rw [List.foldl_cons, ih]
      rfl

theorem foldl_hints (records : List WindowOutputHint) (pending : RawState) :
    records.foldl (fun pending hint => { pending with
        outputHints := pending.outputHints.insert hint.windowId hint })
        pending =
      { pending with
        outputHints := KeyMap.file WindowOutputHint.windowId
          pending.outputHints records } := by
  induction records generalizing pending with
  | nil => rfl
  | cons record rest ih =>
      rw [List.foldl_cons, ih]
      rfl

theorem upsertOutput_some {pending next : RawState} {output : OutputContext}
    (taken : Transaction.upsertOutput pending output = some next) :
    next = { pending with
      outputs := pending.outputs.insert output.outputId output } := by
  unfold Transaction.upsertOutput at taken
  split at taken
  · cases taken
  · exact (Option.some.inj taken).symm

theorem upsertWindow_some {pending next : RawState} {window : RawWindow}
    (taken : Transaction.upsertWindow pending window = some next) :
    next = { pending with
      windows := pending.windows.insert window.windowId window } := by
  unfold Transaction.upsertWindow at taken
  split at taken
  · cases taken
  · exact (Option.some.inj taken).symm

theorem upsertHint_some {pending next : RawState} {hint : WindowOutputHint}
    (taken : Transaction.upsertHint pending hint = some next) :
    next = { pending with
      outputHints := pending.outputHints.insert hint.windowId hint } := by
  unfold Transaction.upsertHint at taken
  split at taken
  · cases taken
  · exact (Option.some.inj taken).symm

/-- A snapshot begins empty and takes the context. -/
theorem staged_context {context : Context}
    {transaction begun : Transaction}
    (success : ([.beginSnapshot, .upsert (.context context)] :
      List Transaction.Operation).foldlM Transaction.apply transaction =
        some begun) :
    begun.pending = { context, hasContext := true } := by
  simp only [List.foldlM_cons, List.foldlM_nil] at success
  obtain ⟨opened, began, success⟩ := Option.bind_eq_some_iff.mp success
  obtain ⟨filled, upserted, same⟩ := Option.bind_eq_some_iff.mp success
  obtain rfl := Option.some.inj same
  simp only [Transaction.apply, Transaction.beginSnapshot] at began
  split at began
  · cases began
  · obtain rfl := Option.some.inj began
    simp only [Transaction.apply, Transaction.upsert] at upserted
    split at upserted
    · cases upserted
    · obtain ⟨pending, taken, rfl⟩ := Option.map_eq_some_iff.mp upserted
      simp only [Transaction.Edit.apply, Transaction.upsertContext,
        Bool.and_false, Bool.false_eq_true, if_false] at taken
      exact (Option.some.inj taken).symm

/-- What a staged submission leaves to be evaluated. -/
theorem staged_candidate {submission : PolicySnapshotSubmission}
    {screen : ScreenModel} {transaction staged : Transaction}
    (success : (stagingOperations submission screen).foldlM
      Transaction.apply transaction = some staged) :
    staged.candidate submission.generation =
      rawState submission screen := by
  rw [stagingOperations, List.foldlM_append] at success
  obtain ⟨hinted, success, ended⟩ := Option.bind_eq_some_iff.mp success
  rw [List.foldlM_append] at success
  obtain ⟨windowed, success, hints⟩ := Option.bind_eq_some_iff.mp success
  rw [List.foldlM_append] at success
  obtain ⟨placed, success, windows⟩ := Option.bind_eq_some_iff.mp success
  rw [List.foldlM_append] at success
  obtain ⟨begun, context, outputs⟩ := Option.bind_eq_some_iff.mp success
  have filedOutputs := @staged_upserts _ .output _
    (fun _ _ _ _ taken => upsertOutput_some taken) _ _ _ outputs
  have filedWindows := @staged_upserts _ .window _
    (fun _ _ _ _ taken => upsertWindow_some taken) _ _ _ windows
  have filedHints := @staged_upserts _ .hint _
    (fun _ _ _ _ taken => upsertHint_some taken) _ _ _ hints
  rw [foldl_outputs, staged_context context] at filedOutputs
  rw [foldl_windows, filedOutputs] at filedWindows
  rw [foldl_hints, filedWindows] at filedHints
  have completed : staged.pending = { hinted.pending with complete := true } := by
    simp only [List.foldlM_cons, List.foldlM_nil, Transaction.apply,
      Transaction.endSnapshot] at ended
    obtain ⟨last, closed, same⟩ := Option.bind_eq_some_iff.mp ended
    obtain rfl := Option.some.inj same
    split at closed
    · cases closed
    · obtain rfl := Option.some.inj closed
      rfl
  rw [Transaction.candidate, completed, filedHints]
  rfl

/-! ## Outputs and hints -/

/-- Without duplicates it does not matter which record of a key is kept. -/
theorem recordMap_eq {key : α → Nat} {records : List α}
    (distinct : (records.map key).Nodup) :
    recordMap key records = KeyMap.file key ∅ records := by
  have loop : ∀ (records : List α) (map : KeyMap α),
      (records.map key).Nodup → (∀ record ∈ records, key record ∉ map) →
        records.foldl (fun map record => map.insertIfNew (key record) record)
          map = KeyMap.file key map records := by
    intro records
    induction records with
    | nil => exact fun _ _ _ => rfl
    | cons record rest ih =>
        intro map distinct fresh
        rw [List.map_cons, List.nodup_cons] at distinct
        have here := fresh record List.mem_cons_self
        have same : map.insertIfNew (key record) record =
            map.insert (key record) record := by
          apply Std.ExtTreeMap.ext_getElem?
          intro id
          rw [Std.ExtTreeMap.getElem?_insertIfNew, KeyMap.lookup_insert]
          by_cases equal : key record = id
          · subst equal
            simp [here]
          · simp [equal]
        rw [List.foldl_cons, same, ih _ distinct.2]
        · rfl
        · intro other member
          rw [Std.ExtTreeMap.mem_insert, not_or]
          refine ⟨?_, fresh other (List.mem_cons_of_mem _ member)⟩
          rw [Nat.compare_eq_eq]
          exact fun equal =>
            distinct.1 (equal ▸ List.mem_map_of_mem member)
  exact loop records ∅ distinct fun _ _ => Std.ExtTreeMap.not_mem_empty

theorem hashPolicyOutput_eq (output : OutputContext) (hash : UInt64) :
    hashPolicyOutput output hash = hashOutput output hash := rfl

theorem hashPolicyHint_eq (hint : WindowOutputHint) (hash : UInt64) :
    hashPolicyHint hint hash = hashHint hint hash := rfl

theorem hashPolicyContext_eq (context : Context) (hash : UInt64) :
    hashPolicyContext context hash = hashContext context hash := rfl

theorem hashSubmittedOutputs_eq {submission : PolicySnapshotSubmission}
    {policy : PolicyState}
    (outputs : policy.outputs =
      KeyMap.file OutputContext.outputId ∅ submission.outputs)
    (hints : policy.outputHints =
      KeyMap.file WindowOutputHint.windowId ∅ submission.outputHints)
    (distinctOutputs : (submission.outputs.map (·.outputId)).Nodup)
    (distinctHints : (submission.outputHints.map (·.windowId)).Nodup)
    (hash : UInt64) :
    hashSubmittedOutputs submission hash = hashOutputs policy hash := by
  rw [hashSubmittedOutputs, recordMap_eq distinctOutputs,
    recordMap_eq distinctHints, hashOutputs, outputs, hints]
  simp only [hashPolicyOutput_eq, hashPolicyHint_eq]

/-- A submission that fits its profile names every output and hint once. -/
theorem validSubmissionProfile_distinct
    {submission : PolicySnapshotSubmission} {outputModel : Bool}
    (valid : validSubmissionProfile submission outputModel = true) :
    (submission.outputs.map (·.outputId)).Nodup ∧
      (submission.outputHints.map (·.windowId)).Nodup := by
  unfold validSubmissionProfile at valid
  split at valid
  · simp only [Bool.and_eq_true, List.isEmpty_iff] at valid
    rw [valid.1, valid.2]
    exact ⟨List.nodup_nil, List.nodup_nil⟩
  · simp only [Bool.and_eq_true, decide_eq_true_eq] at valid
    exact ⟨valid.1.1.1.2, valid.1.2⟩

theorem file_isEmpty (records : List OutputContext) :
    (KeyMap.file OutputContext.outputId ∅ records).isEmpty =
      records.isEmpty := by
  have filled (map : KeyMap OutputContext) (record : OutputContext) :
      (map.insert record.outputId record).isEmpty = false := by simp
  have grows : ∀ (records : List OutputContext) (map : KeyMap OutputContext),
      map.isEmpty = false →
        (KeyMap.file OutputContext.outputId map records).isEmpty = false := by
    intro records
    induction records with
    | nil => exact fun _ filled => filled
    | cons record rest ih => exact fun map _ => ih _ (filled map record)
  cases records with
  | nil => rfl
  | cons record rest => exact grows rest _ (filled ∅ record)

/-! ## Window states -/

theorem flag_toNat (value : Bool) : Ipc.flag value.toNat = value.toNat := by
  cases value <;> rfl

/-- The wire form of a state is the form that is hashed. -/
theorem encodeWindowState_stateFrom (state : WindowState) :
    Ipc.encodeWindowState (stateFrom state) =
      encodePolicyWindowState state := by
  unfold Ipc.encodeWindowState encodePolicyWindowState
    Ipc.windowStateWidths stateFrom
  simp only [flag_toNat, List.zip_cons_cons, List.zip_nil_right,
    writeRecord_cons, writeRecord_nil, List.append_nil, List.append_assoc]

theorem windowStatePayload_some {policy : PolicyState} {id : Nat}
    {payload : List UInt8}
    (made : windowStatePayload policy id = some payload) :
    payload = encodePolicyWindowState (policy.windows[id]?.getD {}) ∧
      ∃ state, Ipc.decodeWindowState payload = .ok state := by
  obtain ⟨rfl, read⟩ := Ipc.makePayload_some made
  exact ⟨encodeWindowState_stateFrom _, read⟩

def hashWindowStates (policy : PolicyState) (order : List Nat)
    (hash : UInt64) : UInt64 :=
  order.foldl (fun hash id => hashBytes
    (encodePolicyWindowState (policy.windows[id]?.getD {})) hash) hash

theorem hashWindowStates_congr {first second : PolicyState}
    (same : first.windows = second.windows) (order : List Nat)
    (hash : UInt64) :
    hashWindowStates first order hash = hashWindowStates second order hash := by
  rw [hashWindowStates, hashWindowStates, same]

/-- The states are received in their order, and hash as they were sent. -/
theorem receive_windowStates {policy : PolicyState} {order : List Nat}
    {payloads : List (List UInt8)}
    (made : order.mapM (windowStatePayload policy) = some payloads)
    (result : PolicySnapshotResult) :
    ∃ states : List PolicyWindowState,
      (payloads.map PolicyMessage.windowState).foldlM receive result =
          some { result with windows := result.windows ++ states } ∧
      ∀ hash, states.foldl (fun hash state => hashPolicyState state hash)
        hash = hashWindowStates policy order hash := by
  induction order generalizing payloads result with
  | nil =>
      obtain rfl := Option.some.inj made
      exact ⟨[], by simp, fun _ => rfl⟩
  | cons id rest ih =>
      rw [List.mapM_cons] at made
      obtain ⟨payload, here, made⟩ := Option.bind_eq_some_iff.mp made
      obtain ⟨later, others, made⟩ := Option.bind_eq_some_iff.mp made
      obtain rfl := Option.some.inj made
      obtain ⟨bytes, state, decoded⟩ := windowStatePayload_some here
      obtain ⟨states, received, hashed⟩ := ih others
        { result with windows := result.windows ++ [state] }
      refine ⟨state :: states, ?_, fun hash => ?_⟩
      · have step : receive result (.windowState payload) =
            some { result with windows := result.windows ++ [state] } := by
          rw [receive, decoded]
        rw [List.map_cons, List.foldlM_cons, step]
        exact received.trans (by simp)
      · rw [List.foldl_cons, hashPolicyState_decoded decoded, hashed, bytes,
          hashWindowStates, hashWindowStates, List.foldl_cons]

theorem bindingsPayload_decoded {payload : List UInt8}
    (made : bindingsPayload = some payload) :
    Ipc.decodeBindings payload = .ok defaultBindings := by
  obtain ⟨rfl, _⟩ := Ipc.makePayload_some made
  rfl

/-! ## The whole answer -/

theorem commit_judge (transaction : Transaction) (generation : Nat)
    (preflight : PolicyState → Bool) :
    (transaction.commit generation preflight).2 =
      transaction.judge generation preflight := by
  simp only [Transaction.commit]
  split <;> rfl

theorem canonicalPolicyHash_bindings (result : PolicySnapshotResult)
    (bindings : PolicyBindingsUpsert) (submission : PolicySnapshotSubmission)
    (screen : ScreenModel) :
    canonicalPolicyHash { result with bindings := some bindings } submission
        screen =
      (hashBytes (tagBytes (if !submission.outputs.isEmpty then
          "glasswyrm-policy-v3" else "glasswyrm-policy-v2")) hashBasis
        |> hashLittle 8 (canonicalPolicyHash
            { result with bindings := none } submission screen).toNat
        |> hashPolicyBindings bindings) := rfl

theorem rawState_outputs_isEmpty (submission : PolicySnapshotSubmission)
    (screen : ScreenModel) :
    (rawState submission screen).outputs.isEmpty =
      submission.outputs.isEmpty := file_isEmpty submission.outputs

theorem unhashedPolicy_outputs_isEmpty (submission : PolicySnapshotSubmission)
    (screen : ScreenModel) (generation : Nat) :
    (unhashedPolicy (rawState submission screen) generation).outputs.isEmpty =
      submission.outputs.isEmpty := by
  have empty := rawState_outputs_isEmpty submission screen
  cases outputs : submission.outputs.isEmpty with
  | true => simp [unhashedPolicy, empty, outputs]
  | false =>
      rw [unhashedPolicy, empty, outputs, if_neg Bool.false_ne_true, empty,
        outputs]

section

variable {submission : PolicySnapshotSubmission} {screen : ScreenModel}
  {outputModel : Bool}
  (valid : validSubmissionProfile submission outputModel = true)
  {generation : Nat} {hash : UInt64} {states : List PolicyWindowState}
  (hashed : ∀ hash, states.foldl
    (fun hash state => hashPolicyState state hash) hash =
      hashWindowStates (unhashedPolicy (rawState submission screen) generation)
        (unhashedPolicy (rawState submission screen) generation).outputOrder
        hash)

include valid hashed

theorem canonicalPolicyHash_plain :
    canonicalPolicyHash { generation, hash, windows := states } submission
        screen =
      policyHash (unhashedPolicy (rawState submission screen) generation) := by
  have empty := rawState_outputs_isEmpty submission screen
  obtain ⟨distinctOutputs, distinctHints⟩ :=
    validSubmissionProfile_distinct valid
  have profile := unhashedPolicy_outputs_isEmpty submission screen generation
  have generation_eq :
      (unhashedPolicy (rawState submission screen) generation).generation =
        generation := rfl
  have context_eq :
      (unhashedPolicy (rawState submission screen) generation).context =
        policyContext submission screen := rfl
  simp only [canonicalPolicyHash, policyHash, profile, hashed,
    hashPolicyContext_eq, hashWindowStates, generation_eq, context_eq]
  cases outputs : submission.outputs.isEmpty with
  | true => simp
  | false =>
      have same := @hashSubmittedOutputs_eq submission
        (unhashedPolicy (rawState submission screen) generation)
        (by rw [unhashedPolicy, empty, outputs, if_neg Bool.false_ne_true]; rfl)
        (by rw [unhashedPolicy, empty, outputs]; rfl)
        distinctOutputs distinctHints
      simp [same]

/-- With bindings the hash of the policy is hashed once more. -/
theorem canonicalPolicyHash_interactive :
    canonicalPolicyHash
        { generation, hash
          windows := states
          bindings := some defaultBindings } submission screen =
      interactivePolicyHash
        { unhashedPolicy (rawState submission screen) generation with
          hash := policyHash
            (unhashedPolicy (rawState submission screen) generation) } {} := by
  have plain := @canonicalPolicyHash_plain submission screen outputModel valid
    generation hash states hashed
  have again := canonicalPolicyHash_bindings
    { generation, hash, windows := states } defaultBindings submission screen
  rw [plain] at again
  rw [again]
  simp only [interactivePolicyHash, unhashedPolicy_outputs_isEmpty,
    hashPolicyBindings, defaultBindings]
  cases submission.outputs.isEmpty <;> simp

end

/-- What the acknowledgement of an accepted policy says. -/
def acknowledgedHash (policy : PolicyState) (interactive : Bool) : UInt64 :=
  if interactive then interactivePolicyHash policy {} else policy.hash

@[simp] theorem acknowledgedPolicy_generation (policy : PolicyState)
    (interactive : Bool) :
    (acknowledgedPolicy policy interactive).generation =
      policy.generation := by
  rw [acknowledgedPolicy]
  split <;> rfl

@[simp] theorem acknowledgedPolicy_windows (policy : PolicyState)
    (interactive : Bool) :
    (acknowledgedPolicy policy interactive).windows = policy.windows := by
  rw [acknowledgedPolicy]
  split <;> rfl

@[simp] theorem acknowledgedPolicy_order (policy : PolicyState)
    (interactive : Bool) :
    (acknowledgedPolicy policy interactive).outputOrder =
      policy.outputOrder := by
  rw [acknowledgedPolicy]
  split <;> rfl

@[simp] theorem acknowledgedPolicy_hash (policy : PolicyState)
    (interactive : Bool) :
    (acknowledgedPolicy policy interactive).hash =
      acknowledgedHash policy interactive := by
  rw [acknowledgedPolicy, acknowledgedHash]
  split <;> rfl

theorem resultFrom_accepted {error : EvaluationError}
    (accepted : resultFrom error = .accepted) : error = .none := by
  cases error <;> first | rfl | cases accepted

theorem enqueueRejection_result {commit : PolicyCommit}
    {previous : PolicyState} {result : PolicyResult}
    {acknowledgement : PolicyAcknowledged}
    (member : .acknowledged acknowledgement ∈
      enqueueRejection commit previous result) :
    acknowledgement.result = result := by
  rw [enqueueRejection, List.mem_singleton] at member
  obtain rfl := PolicyMessage.acknowledged.inj member
  rfl

/-- A commit that is answered with an acceptance was evaluated, and its policy
is what is sent. -/
theorem dispatchCommit_accepted {peer next : PeerState}
    {interactive multiOutput : Bool} {commit : PolicyCommit}
    {messages : List PolicyMessage} {acknowledgement : PolicyAcknowledged}
    (dispatched : dispatchCommit peer interactive multiOutput commit =
      some (next, messages))
    (member : .acknowledged acknowledgement ∈ messages)
    (accepted : acknowledgement.result = .accepted) :
    let evaluation := evaluate
      (peer.transaction.candidate commit.producerGeneration)
      commit.producerGeneration
    evaluation.error = .none ∧
      enqueuePolicy commit (acknowledgedPolicy evaluation.policy interactive)
        interactive = some messages := by
  intro evaluation
  unfold dispatchCommit at dispatched
  generalize (if interactive then preflightInteractivePolicy
    else preflightPolicy) = preflight at dispatched
  simp only at dispatched
  split at dispatched
  · obtain ⟨_, rfl⟩ := Prod.mk.inj (Option.some.inj dispatched)
    cases (enqueueRejection_result member).symm.trans accepted
  · split at dispatched
    · obtain ⟨_, rfl⟩ := Prod.mk.inj (Option.some.inj dispatched)
      cases (enqueueRejection_result member).symm.trans accepted
    · split at dispatched
      · cases dispatched
      · split at dispatched
        · rename_i refused
          obtain ⟨_, rfl⟩ := Prod.mk.inj (Option.some.inj dispatched)
          exact absurd (resultFrom_accepted
            ((enqueueRejection_result member).symm.trans accepted)) refused
        · rename_i sound
          rw [commit_judge, ne_eq, Decidable.not_not] at sound
          have judged := Transaction.judge_accepted sound
          obtain ⟨sent, enqueued, same⟩ := Option.map_eq_some_iff.mp dispatched
          obtain ⟨_, rfl⟩ := Prod.mk.inj same
          rw [commit_judge, judged] at enqueued
          rw [judged] at sound
          exact ⟨sound, enqueued⟩

/-- The answer to an accepted commit is received whole. -/
theorem receive_enqueued {commit : PolicyCommit} {policy : PolicyState}
    {interactive : Bool} {messages : List PolicyMessage}
    (enqueued : enqueuePolicy commit policy interactive = some messages) :
    ∃ states : List PolicyWindowState,
      messages.foldlM receive { windows := [] } =
        some {
          generation := policy.generation
          hash := policy.hash
          windows := states
          bindings := if interactive then some defaultBindings else none } ∧
      ∀ hash, states.foldl (fun hash state => hashPolicyState state hash)
        hash = hashWindowStates policy policy.outputOrder hash := by
  obtain ⟨bindings, bound, enqueued⟩ := Option.bind_eq_some_iff.mp enqueued
  obtain ⟨payloads, made, rfl⟩ := Option.map_eq_some_iff.mp enqueued
  have opened : bindings.foldlM receive { windows := [] } =
      some {
        windows := []
        bindings := if interactive then some defaultBindings else none } := by
    cases interactive with
    | false =>
        obtain rfl := Option.some.inj bound
        rfl
    | true =>
        rw [if_pos rfl] at bound
        obtain ⟨payload, payloadMade, rfl⟩ := Option.map_eq_some_iff.mp bound
        have decoded := bindingsPayload_decoded payloadMade
        rw [List.foldlM_cons, receive, decoded]
        rfl
  obtain ⟨states, received, hashed⟩ := receive_windowStates made
    { windows := []
      bindings := if interactive then some defaultBindings else none }
  refine ⟨states, ?_, hashed⟩
  rw [List.foldlM_append, List.foldlM_append, List.foldlM_append]
  simp only [List.foldlM_cons, List.foldlM_nil, receive,
    Option.pure_def, Option.bind_eq_bind, Option.bind_some, opened, received,
    List.nil_append]

/-- The server never takes an accepted policy for a divergent one. -/
theorem policy_hash_agrees (submission : PolicySnapshotSubmission)
    (screen : ScreenModel) (transaction : Transaction) (peer next : PeerState)
    (outputModel interactive multiOutput : Bool)
    (messages : List PolicyMessage) (acknowledgement : PolicyAcknowledged)
    (valid : validSubmissionProfile submission outputModel = true)
    (staged : (stagingOperations submission screen).foldlM Transaction.apply
      transaction = some peer.transaction)
    (dispatched : dispatchCommit peer interactive multiOutput
        { commitId := submission.commitId
          producerGeneration := submission.generation } =
      some (next, messages))
    (answered : .acknowledged acknowledgement ∈ messages)
    (accepted : acknowledgement.result = .accepted) :
    let evaluation :=
      evaluate (rawState submission screen) submission.generation
    evaluation.error = .none ∧
      ∃ result, messages.foldlM receive { windows := [] } = some result ∧
        result.hash = acknowledgedHash evaluation.policy interactive ∧
        canonicalPolicyHash result submission screen = result.hash := by
  have evaluated := dispatchCommit_accepted dispatched answered accepted
  rw [staged_candidate staged] at evaluated
  obtain ⟨sound, enqueued⟩ := evaluated
  obtain ⟨_, _, policy⟩ := evaluate_accepted sound
  obtain ⟨states, received, hashed⟩ := receive_enqueued enqueued
  refine ⟨sound, _, received, ?_⟩
  have same : ∀ hash, states.foldl
      (fun hash state => hashPolicyState state hash) hash =
        hashWindowStates
          (unhashedPolicy (rawState submission screen) submission.generation)
          (unhashedPolicy (rawState submission screen)
            submission.generation).outputOrder hash := by
    intro hash
    rw [hashed, acknowledgedPolicy_order, policy]
    refine hashWindowStates_congr ?_ _ hash
    rw [acknowledgedPolicy_windows]
  rw [acknowledgedPolicy_generation, acknowledgedPolicy_hash, policy]
  cases interactive with
  | false =>
      simp only [acknowledgedHash, Bool.false_eq_true, if_false, true_and]
      exact canonicalPolicyHash_plain valid same
  | true =>
      simp only [acknowledgedHash, if_true, true_and]
      exact canonicalPolicyHash_interactive valid same

/-- Two windows, of which the first was mapped last and is above, and a hint
that the second is to be on the second of two outputs. -/
def pairSubmission : PolicySnapshotSubmission where
  commitId := 1
  generation := 1
  windows := [
    { windowId := 5
      parentWindowId := 1
      workspaceId := 1
      requestedWidth := 50
      requestedHeight := 50
      wantsMap := true
      creationSerial := 1
      mapSerial := 2 },
    { windowId := 6
      parentWindowId := 1
      workspaceId := 1
      requestedWidth := 30
      requestedHeight := 30
      wantsMap := true
      creationSerial := 2
      mapSerial := 1 }]
  outputs := [
    { outputId := 10
      logical := { width := 100, height := 100 }
      work := { width := 100, height := 100 }
      enabled := true
      primary := true },
    { outputId := 20
      logical := { x := 100, width := 100, height := 100 }
      work := { x := 100, width := 100, height := 100 }
      enabled := true }]
  outputHints := [{ windowId := 6, preferredOutputId := 20 }]

def pairPeer : PeerState where
  transaction := ((stagingOperations pairSubmission {}).foldlM
    Transaction.apply {}).getD {}

def pairAnswer : PeerState × List PolicyMessage :=
  (dispatchCommit pairPeer true true
    { commitId := 1, producerGeneration := 1 }).getD ({}, [])

theorem policy_hash_agrees_pair :
    let evaluation := evaluate (rawState pairSubmission {}) 1
    evaluation.policy.outputOrder = [6, 5] ∧
      ∃ acknowledgement, .acknowledged acknowledgement ∈ pairAnswer.2 ∧
        ∃ result, pairAnswer.2.foldlM receive { windows := [] } =
            some result ∧
          result.hash = acknowledgedHash evaluation.policy true ∧
          canonicalPolicyHash result pairSubmission {} = result.hash := by
  intro evaluation
  refine ⟨by decide +kernel, ?_⟩
  have answered : pairAnswer.2.any fun message =>
      match message with
      | .acknowledged acknowledgement => acknowledgement.result = .accepted
      | _ => false := by decide +kernel
  obtain ⟨message, member, isAnswer⟩ := List.any_eq_true.mp answered
  cases message with
  | acknowledged acknowledgement =>
      exact ⟨acknowledgement, member,
        (policy_hash_agrees pairSubmission {} {} pairPeer pairAnswer.1 true true
          true pairAnswer.2 acknowledgement (by decide) (by decide +kernel)
          (by decide +kernel) member (by simpa using isAnswer)).2⟩
  | _ => cases isAnswer

end Glasswyrm.Gwm
