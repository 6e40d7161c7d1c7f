import Glasswyrm.Library.Run
import Glasswyrm.Server.ConfigurationTransaction
import Glasswyrm.Server.OutputSceneProjection

namespace Glasswyrm.Server

open Output Compositor Library OutputConfigurationCoordinator
  OutputControlPeer

attribute [local irreducible] Output.validateLayout

/-! Runs of the control peers, with the commits that arrived and the answers
that were made. -/

/-- A well-formed commit of a connected peer. -/
def commitOf (server : OutputControlPeer) : ControlEvent → List (Nat × Nat)
  | .receive peerId sequence (.outputConfigurationCommit request) _ =>
      if server.peers.contains peerId && validCommit request then
        [(peerId, sequence)]
      else []
  | _ => []

/-- Whether the event's connection can queue an answer. -/
def ControlEvent.hasRoom : ControlEvent → Bool
  | .receive _ _ _ room | .policyRejected room | .rolledBack _ room |
    .committed room | .internalError room => room
  | _ => true

structure ControlLog where
  server : OutputControlPeer
  commits : List (Nat × Nat) := []
  answers : List Answer := []
deriving DecidableEq

namespace ControlLog

def start (inventory : OutputLayout) : ControlLog where
  server := .start inventory

def step (log : ControlLog) (event : ControlEvent) : ControlLog :=
  let (server, answer) := log.server.handle event
  { server
    commits := log.commits ++ commitOf log.server event
    answers := log.answers ++ answer.toList }

def committedLayout (log : ControlLog) : OutputLayout :=
  log.server.coordinator.committedLayout

end ControlLog

/-- How often a commit was answered. -/
def answered (answers : List Answer) (commit : Nat × Nat) : Nat :=
  answers.countP fun answer =>
    (answer.peerId, answer.sequence) = commit && answer.queued

/-- How often a commit is still owed an answer. -/
def owed (pendingReply : Option PendingReply) (commit : Nat × Nat) : Nat :=
  if pendingReply.any fun reply => (reply.peerId, reply.sequence) = commit then
    1
  else 0

/-- What the control peers are owed at one event. -/
structure ContractKept (inventory : OutputLayout) (log : ControlLog)
    (event : ControlEvent) : Prop where
  valid : (validateLayout (log.step event).committedLayout).valid = true
  /-- The committed layout changes with an accepting answer only, and to the
  next generation. -/
  generation :
    ((log.step event).committedLayout = log.committedLayout ∧
        ∀ answer ∈ (log.server.handle event).2,
          answer.acknowledged.result ≠ .accepted) ∨
      ((log.step event).committedLayout.generation =
          log.committedLayout.generation + 1 ∧
        ∃ answer ∈ (log.server.handle event).2,
          answer.acknowledged.result = .accepted ∧
          answer.acknowledged.appliedGeneration =
            (log.step event).committedLayout.generation)
  /-- Nothing but the committed layout outlives a request. -/
  forgets : (log.step event).server.coordinator.transaction = none →
    (log.step event).server.coordinator =
      .fresh inventory (log.step event).committedLayout
  /-- Every commit of a peer that is connected is answered once, or is the
  one whose transaction is pending. -/
  answers : ∀ peerId ∈ (log.step event).server.peers, ∀ sequence : Nat,
    (log.step event).commits.count (peerId, sequence) =
      answered (log.step event).answers (peerId, sequence) +
        owed (log.step event).server.pendingReply (peerId, sequence)
  pending : (log.step event).server.pendingReply.isSome =
    (log.step event).server.coordinator.transaction.isSome
  /-- A commit does not end its peer's connection. -/
  connected : event.hasRoom = true → ∀ commit ∈ commitOf log.server event,
    commit.1 ∈ (log.step event).server.peers

/-- No commit arrives while another is pending. -/
def NoCommitPending (log : ControlLog) (event : ControlEvent) : Prop :=
  event.hasRoom = true → commitOf log.server event ≠ [] →
    log.server.pendingReply = none

/-! ## The invariant -/

/-- A peer that was numbered already. -/
def Numbered (nextPeerId peerId : Nat) : Prop :=
  nextPeerId = 0 ∨ peerId < nextPeerId

/-- The answers of a coordinator that owes one. -/
inductive Owing (coordinator : OutputConfigurationCoordinator) :
    Option PendingReply → Prop
  | nothing (idle : coordinator.transaction = none) : Owing coordinator none
  | reply (transaction : OutputConfigurationTransaction)
      (pending : coordinator.transaction = some transaction)
      (identified : transaction.configurationId ≠ 0) {reply : PendingReply}
      (same : transaction.configurationId = reply.requestId) :
      Owing coordinator (some reply)

structure Accounted (inventory : OutputLayout) (log : ControlLog) : Prop where
  consistent : Consistent inventory log.server.coordinator
  owing : Owing log.server.coordinator log.server.pendingReply
  peers : ∀ peerId ∈ log.server.peers,
    Numbered log.server.nextPeerId peerId
  commits : ∀ commit ∈ log.commits, Numbered log.server.nextPeerId commit.1
  answers : ∀ answer ∈ log.answers,
    Numbered log.server.nextPeerId answer.peerId
  pending : ∀ reply ∈ log.server.pendingReply,
    Numbered log.server.nextPeerId reply.peerId
  bounded : log.server.nextPeerId ≤ generationMaximum
  balance : ∀ peerId ∈ log.server.peers, ∀ sequence : Nat,
    log.commits.count (peerId, sequence) =
      answered log.answers (peerId, sequence) +
        owed log.server.pendingReply (peerId, sequence)

variable {inventory : OutputLayout} {log : ControlLog} {event : ControlEvent}

theorem Owing.isSome {coordinator : OutputConfigurationCoordinator}
    {pendingReply : Option PendingReply}
    (owing : Owing coordinator pendingReply) :
    pendingReply.isSome = coordinator.transaction.isSome := by
  cases owing with
  | nothing idle => rw [idle]; rfl
  | reply _ pending _ _ => rw [pending]; rfl

theorem validAcknowledged_of_valid (inventory : OutputLayout)
    {committed : OutputLayout} (valid : ValidLayout committed) {requestId : Nat}
    (identified : requestId ≠ 0) (result : OutputConfigurationResult) :
    validAcknowledged ((fresh inventory committed).acknowledgement requestId
      result) = true := by
  have root := valid.root
  rw [validateRoot, LayoutValidationResult.require_valid (by decide)] at root
  simp only [Bool.and_eq_true, decide_eq_true_eq] at root
  obtain ⟨⟨⟨⟨⟨wide, high⟩, widthBound⟩, heightBound⟩, width⟩, height⟩ := root
  have some : 1 ≤ committed.enabledOutputCount := by
    rw [valid.count]
    obtain ⟨state, found, enabled, _⟩ := valid.primary_state
    exact List.length_pos_of_mem
      (List.mem_filter.mpr ⟨KeyMap.mem_toList.mpr found, enabled⟩)
  have few : committed.enabledOutputCount ≤ kMaximumOutputs := by
    rw [valid.count]
    refine (List.length_filter_le _ _).trans ?_
    rw [Std.ExtTreeMap.length_toList]
    exact (KeyMap.size_le_of_keys fun id => (valid.complete id).mp).trans
      valid.few
  have generation := valid.generation
  have primary := valid.primary_nonzero
  unfold validAcknowledged acknowledgement fresh
  simp only [Bool.and_eq_true, decide_eq_true_eq, ne_eq]
  refine ⟨⟨⟨⟨⟨⟨⟨⟨⟨identified, generation⟩, trivial⟩, primary⟩, ?_⟩, ?_⟩, ?_⟩, ?_⟩,
    some⟩, few⟩ <;> omega

/-! ## Counting -/

theorem answered_append (answers : List Answer) (answer : Answer)
    (commit : Nat × Nat) :
    answered (answers ++ [answer]) commit = answered answers commit +
      if (answer.peerId, answer.sequence) = commit ∧ answer.queued = true then 1
      else 0 := by
  unfold answered
  rw [List.countP_append, List.countP_singleton]
  simp only [Bool.and_eq_true, decide_eq_true_eq]

theorem count_concat (commits : List (Nat × Nat)) (commit other : Nat × Nat) :
    (commits ++ [commit]).count other = commits.count other +
      if commit = other then 1 else 0 := by
  rw [List.count_append, List.count_singleton]
  simp only [beq_iff_eq]

@[simp] theorem owed_none (commit : Nat × Nat) : owed none commit = 0 := rfl

theorem owed_some (reply : PendingReply) (commit : Nat × Nat) :
    owed (some reply) commit =
      if (reply.peerId, reply.sequence) = commit then 1 else 0 := by
  simp [owed]

theorem OutputControlPeer.mem_disconnect {server : OutputControlPeer}
    {peerId id : Nat} :
    id ∈ (server.disconnect peerId).peers ↔ id ≠ peerId ∧ id ∈ server.peers := by
  unfold disconnect
  rw [Std.ExtTreeMap.mem_erase, ne_eq, Nat.compare_eq_eq, eq_comm]

theorem OutputControlPeer.mem_stage {server : OutputControlPeer}
    {peerId id : Nat} {staged : StagedSnapshot} :
    id ∈ (server.stage peerId staged).peers ↔
      id = peerId ∨ id ∈ server.peers := by
  unfold stage
  rw [Std.ExtTreeMap.mem_insert, Nat.compare_eq_eq, eq_comm]

/-! ## Steps -/

/-- The numbers given out stay numbered when the counter moves on. -/
theorem Numbered.advance {nextPeerId peerId : Nat} (started : nextPeerId ≠ 0)
    (bounded : nextPeerId ≤ generationMaximum)
    (known : Numbered nextPeerId peerId ∨ peerId = nextPeerId) :
    Numbered ((nextPeerId + 1) % (generationMaximum + 1)) peerId := by
  have least : peerId < nextPeerId + 1 := by
    rcases known with (zero | less) | rfl
    · exact absurd zero started
    · omega
    · omega
  rcases Nat.lt_or_ge nextPeerId generationMaximum with small | large
  · rw [Nat.mod_eq_of_lt (by omega)]
    exact .inr least
  · rw [show nextPeerId = generationMaximum by omega, Nat.mod_self]
    exact .inl rfl

namespace Accounted

/-- A step that admits no new peer. -/
theorem update (accounted : Accounted inventory log) {next : ControlLog}
    (consistent : Consistent inventory next.server.coordinator)
    (owing : Owing next.server.coordinator next.server.pendingReply)
    (nextPeerId : next.server.nextPeerId = log.server.nextPeerId)
    (fewer : ∀ id : Nat, id ∈ next.server.peers → id ∈ log.server.peers)
    (commits : ∀ commit ∈ next.commits,
      commit ∈ log.commits ∨ commit.1 ∈ log.server.peers)
    (answers : ∀ answer ∈ next.answers, answer ∈ log.answers ∨
      Numbered log.server.nextPeerId answer.peerId)
    (pending : ∀ reply ∈ next.server.pendingReply,
      reply ∈ log.server.pendingReply ∨ reply.peerId ∈ log.server.peers)
    (balance : ∀ peerId ∈ next.server.peers, ∀ sequence : Nat,
      next.commits.count (peerId, sequence) =
        answered next.answers (peerId, sequence) +
          owed next.server.pendingReply (peerId, sequence)) :
    Accounted inventory next where
  consistent := consistent
  owing := owing
  peers peerId member := nextPeerId ▸ accounted.peers peerId (fewer peerId member)
  commits commit member := by
    rw [nextPeerId]
    rcases commits commit member with old | connected
    · exact accounted.commits commit old
    · exact accounted.peers _ connected
  answers answer member := by
    rw [nextPeerId]
    rcases answers answer member with old | numbered
    · exact accounted.answers answer old
    · exact numbered
  pending reply member := by
    rw [nextPeerId]
    rcases pending reply member with old | connected
    · exact accounted.pending reply old
    · exact accounted.peers _ connected
  bounded := nextPeerId ▸ accounted.bounded
  balance := balance

/-- A step of the transaction, or a change of the peers' snapshots. -/
theorem quiet (accounted : Accounted inventory log)
    {coordinator : OutputConfigurationCoordinator}
    (advances : coordinator = log.server.coordinator ∨
      Advances log.server.coordinator coordinator)
    {peers : KeyMap StagedSnapshot}
    (fewer : ∀ id : Nat, id ∈ peers → id ∈ log.server.peers)
    (nextSnapshotId : Nat) :
    Accounted inventory { log with
      server := { log.server with peers, coordinator, nextSnapshotId } } := by
  obtain ⟨consistent, _, same⟩ := accounted.consistent.advance advances
  refine accounted.update consistent ?_ rfl fewer (fun _ member => .inl member)
    (fun _ member => .inl member) (fun _ member => .inl member)
    fun other member => accounted.balance other (fewer other member)
  have owing := accounted.owing
  generalize log.server.pendingReply = pendingReply at owing ⊢
  cases owing with
  | nothing idle => exact .nothing (same.trans idle)
  | reply transaction pending identified here =>
      exact .reply transaction (same.trans pending) identified here

/-- The number of a new peer was never used. -/
theorem unused (accounted : Accounted inventory log)
    (started : log.server.nextPeerId ≠ 0) (sequence : Nat) :
    log.commits.count (log.server.nextPeerId, sequence) = 0 ∧
      answered log.answers (log.server.nextPeerId, sequence) = 0 ∧
      owed log.server.pendingReply (log.server.nextPeerId, sequence) = 0 := by
  have fresh : ∀ peerId, Numbered log.server.nextPeerId peerId →
      peerId ≠ log.server.nextPeerId := by
    rintro peerId (zero | less) same
    · exact started zero
    · omega
  refine ⟨?_, ?_, ?_⟩
  · rw [List.count_eq_zero]
    intro member
    exact fresh _ (accounted.commits _ member) rfl
  · unfold answered
    rw [List.countP_eq_zero]
    intro answer member same
    simp only [Bool.and_eq_true, decide_eq_true_eq] at same
    exact fresh _ (accounted.answers answer member) (Prod.mk.inj same.1).1
  · have owing := accounted.pending
    cases pending : log.server.pendingReply with
    | none => rfl
    | some reply =>
        rw [owed_some, if_neg]
        intro same
        exact fresh _ (owing reply (by rw [pending]; rfl)) (Prod.mk.inj same).1

theorem connect (accounted : Accounted inventory log) :
    Accounted inventory { log with server := log.server.acceptPeer } := by
  unfold acceptPeer
  split
  · exact accounted
  · rename_i admitted
    simp only [Bool.or_eq_true, decide_eq_true_eq, not_or] at admitted
    obtain ⟨_, started⟩ := admitted
    have bounded := accounted.bounded
    have grows := fun peerId (known : Numbered log.server.nextPeerId peerId) =>
      Numbered.advance started accounted.bounded (.inl known)
    refine ⟨accounted.consistent, accounted.owing, ?_, ?_, ?_, ?_, ?_, ?_⟩
    · intro peerId member
      rcases mem_stage.mp member with rfl | known
      · exact .advance started accounted.bounded (.inr rfl)
      · exact grows peerId (accounted.peers peerId known)
    · exact fun commit member => grows _ (accounted.commits commit member)
    · exact fun answer member => grows _ (accounted.answers answer member)
    · exact fun reply member => grows _ (accounted.pending reply member)
    · exact Nat.le_of_lt_succ (Nat.mod_lt _ (Nat.succ_pos _))
    · intro peerId member sequence
      rcases mem_stage.mp member with rfl | known
      · obtain ⟨commits, answers, pending⟩ := accounted.unused started sequence
        change _ = _ + owed log.server.pendingReply _
        rw [commits, answers, pending]
      · exact accounted.balance peerId known sequence

/-- A commit whose peer is dropped for it. -/
theorem dropped (accounted : Accounted inventory log) {peerId : Nat}
    (connected : peerId ∈ log.server.peers) (sequence : Nat) :
    Accounted inventory
      { server := log.server.disconnect peerId
        commits := log.commits ++ [(peerId, sequence)]
        answers := log.answers } := by
  refine accounted.update accounted.consistent accounted.owing rfl
    (fun _ member => (mem_disconnect.mp member).2) ?_
    (fun _ member => .inl member) (fun _ member => .inl member) ?_
  · intro commit member
    rcases List.mem_append.mp member with old | new
    · exact .inl old
    · obtain rfl := List.mem_singleton.mp new
      exact .inr connected
  · intro other member later
    obtain ⟨different, known⟩ := mem_disconnect.mp member
    change (log.commits ++ [(peerId, sequence)]).count (other, later) = _
    rw [count_concat, if_neg fun same => different (Prod.mk.inj same).1.symm]
    exact accounted.balance other known later

/-- A new answer is one to a numbered peer. -/
theorem answers_concat {answer : Answer}
    (numbered : Numbered log.server.nextPeerId answer.peerId) :
    ∀ other ∈ log.answers ++ [answer], other ∈ log.answers ∨
      Numbered log.server.nextPeerId other.peerId := by
  intro other member
  rcases List.mem_append.mp member with old | new
  · exact .inl old
  · obtain rfl := List.mem_singleton.mp new
    exact .inr numbered

/-- A new commit is one of a connected peer. -/
theorem commits_concat {peerId : Nat} (connected : peerId ∈ log.server.peers)
    (sequence : Nat) :
    ∀ commit ∈ log.commits ++ [(peerId, sequence)],
      commit ∈ log.commits ∨ commit.1 ∈ log.server.peers := by
  intro commit member
  rcases List.mem_append.mp member with old | new
  · exact .inl old
  · obtain rfl := List.mem_singleton.mp new
    exact .inr connected

/-- A commit that is answered at once; where the answer could not be queued
its peer is dropped. -/
theorem answeredAtOnce (accounted : Accounted inventory log) {peerId : Nat}
    (connected : peerId ∈ log.server.peers) (sequence : Nat)
    (acknowledged : OutputConfigurationAcknowledged) (queued : Bool)
    {coordinator : OutputConfigurationCoordinator}
    (consistent : Consistent inventory coordinator)
    (idle : coordinator.transaction = none)
    (nothing : log.server.pendingReply = none)
    {peers : KeyMap StagedSnapshot}
    (fewer : ∀ id : Nat, id ∈ peers → id ∈ log.server.peers)
    (gone : queued = false → peerId ∉ peers) :
    Accounted inventory
      { server := { log.server with peers, coordinator }
        commits := log.commits ++ [(peerId, sequence)]
        answers := log.answers ++
          [⟨peerId, sequence, acknowledged, queued⟩] } := by
  have owing : Owing coordinator log.server.pendingReply := by
    rw [nothing]
    exact .nothing idle
  refine accounted.update consistent owing rfl fewer
    (commits_concat connected sequence)
    (answers_concat (accounted.peers peerId connected))
    (fun _ member => .inl member) ?_
  intro other member later
  have before := accounted.balance other (fewer other member) later
  simp only
  rw [count_concat, answered_append, before]
  cases queued with
  | true =>
      simp only [and_true]
      exact Nat.add_right_comm _ _ _
  | false =>
      have different : (peerId, sequence) ≠ (other, later) := by
        intro same
        obtain rfl := (Prod.mk.inj same).1
        exact gone rfl member
      rw [if_neg different, if_neg (by simp)]
      rfl

/-- A commit that becomes a transaction. -/
theorem begun (accounted : Accounted inventory log) {peerId : Nat}
    (connected : peerId ∈ log.server.peers) (sequence : Nat)
    {coordinator : OutputConfigurationCoordinator}
    {transaction : OutputConfigurationTransaction}
    (consistent : Consistent inventory coordinator)
    (pending : coordinator.transaction = some transaction)
    (identified : transaction.configurationId ≠ 0)
    (nothing : log.server.pendingReply = none)
    {peers : KeyMap StagedSnapshot}
    (fewer : ∀ id : Nat, id ∈ peers → id ∈ log.server.peers) :
    Accounted inventory
      { server := { log.server with
          peers
          coordinator
          pendingReply :=
            some ⟨peerId, sequence, transaction.configurationId⟩ }
        commits := log.commits ++ [(peerId, sequence)]
        answers := log.answers } := by
  refine accounted.update consistent (.reply transaction pending identified rfl)
    rfl fewer (commits_concat connected sequence) (fun _ member => .inl member)
    ?_ ?_
  · intro reply member
    obtain rfl := Option.some.inj member
    exact .inr connected
  · intro other member later
    have before := accounted.balance other (fewer other member) later
    rw [nothing, owed_none, Nat.add_zero] at before
    simp only
    rw [count_concat, before, owed_some]

/-- The end of a transaction: its answer is queued, or its peer is gone. -/
theorem ended (accounted : Accounted inventory log) {reply : PendingReply}
    (pending : log.server.pendingReply = some reply)
    (acknowledged : OutputConfigurationAcknowledged) (queued : Bool)
    {coordinator : OutputConfigurationCoordinator}
    (consistent : Consistent inventory coordinator)
    (idle : coordinator.transaction = none)
    {peers : KeyMap StagedSnapshot}
    (fewer : ∀ id : Nat, id ∈ peers → id ∈ log.server.peers)
    (gone : queued = false → reply.peerId ∉ peers) :
    Accounted inventory
      { server :=
          { log.server with peers, coordinator, pendingReply := none }
        commits := log.commits
        answers := log.answers ++
          [⟨reply.peerId, reply.sequence, acknowledged, queued⟩] } := by
  refine accounted.update consistent (.nothing idle) rfl fewer
    (fun _ member => .inl member)
    (answers_concat (accounted.pending reply pending)) nofun ?_
  intro other member later
  have before := accounted.balance other (fewer other member) later
  rw [pending, owed_some] at before
  simp only
  rw [answered_append, before, owed_none, Nat.add_zero]
  cases queued with
  | true => simp only [and_true]
  | false =>
      have different : (reply.peerId, reply.sequence) ≠ (other, later) := by
        intro same
        obtain same := (Prod.mk.inj same).1
        exact gone rfl (same ▸ member)
      rw [if_neg different, if_neg (by simp)]

end Accounted

/-! ## What an event does -/

/-- The ways in which an event is handled, with what is known of each. -/
inductive Handled (inventory : OutputLayout) (server : OutputControlPeer)
    (event : ControlEvent) : OutputControlPeer × Option Answer → Prop
  | connected (silent : commitOf server event = []) :
      Handled inventory server event (server.acceptPeer, none)
  | quiet (silent : commitOf server event = [])
      {coordinator : OutputConfigurationCoordinator}
      (advances : coordinator = server.coordinator ∨
        Advances server.coordinator coordinator)
      {peers : KeyMap StagedSnapshot}
      (fewer : ∀ id : Nat, id ∈ peers → id ∈ server.peers)
      (nextSnapshotId : Nat) :
      Handled inventory server event
        ({ server with peers, coordinator, nextSnapshotId }, none)
  | dropped {peerId sequence : Nat} (member : peerId ∈ server.peers)
      (commit : commitOf server event = [(peerId, sequence)])
      (busy : server.pendingReply ≠ none) :
      Handled inventory server event (server.disconnect peerId, none)
  | refused {peerId sequence : Nat} (member : peerId ∈ server.peers)
      (commit : commitOf server event = [(peerId, sequence)])
      (free : server.pendingReply = none)
      (requestId : Nat) (result : OutputConfigurationResult)
      (fails : result ≠ .accepted) (queued : Bool)
      (sent : event.hasRoom = true → queued = true)
      {peers : KeyMap StagedSnapshot}
      (fewer : ∀ id : Nat, id ∈ peers → id ∈ server.peers)
      (stays : queued = true ↔ peerId ∈ peers) :
      Handled inventory server event
        ({ server with
          peers
          coordinator := .fresh inventory server.coordinator.committedLayout },
          some ⟨peerId, sequence,
            (fresh inventory server.coordinator.committedLayout).acknowledgement
              requestId result, queued⟩)
  | begun {peerId sequence : Nat} (member : peerId ∈ server.peers)
      (commit : commitOf server event = [(peerId, sequence)])
      (free : server.pendingReply = none)
      {coordinator : OutputConfigurationCoordinator}
      (same : coordinator.committedLayout = server.coordinator.committedLayout)
      (transaction : OutputConfigurationTransaction)
      (pending : coordinator.transaction = some transaction)
      (begun : PendingTransaction inventory
        server.coordinator.committedLayout coordinator transaction)
      {peers : KeyMap StagedSnapshot}
      (fewer : ∀ id : Nat, id ∈ peers → id ∈ server.peers)
      (stays : peerId ∈ peers) :
      Handled inventory server event
        ({ server with
          peers
          coordinator
          pendingReply :=
            some ⟨peerId, sequence, transaction.configurationId⟩ }, none)
  | ended (silent : commitOf server event = []) (reply : PendingReply)
      (pending : server.pendingReply = some reply)
      (acknowledged : OutputConfigurationAcknowledged)
      (coordinator : OutputConfigurationCoordinator)
      (verdict : Verdict inventory server.coordinator
        (some acknowledged, coordinator)) (queued : Bool)
      {peers : KeyMap StagedSnapshot}
      (fewer : ∀ id : Nat, id ∈ peers → id ∈ server.peers)
      (gone : queued = false → reply.peerId ∉ peers) :
      Handled inventory server event
        ({ server with peers, coordinator, pendingReply := none },
          some ⟨reply.peerId, reply.sequence, acknowledged, queued⟩)

theorem Verdict.idle {coordinator next : OutputConfigurationCoordinator}
    {acknowledged : OutputConfigurationAcknowledged}
    (verdict : Verdict inventory coordinator (some acknowledged, next)) :
    next.transaction = none := by
  cases verdict <;> rfl

/-- Handling an event keeps the accounts. -/
theorem Handled.accounted (accounted : Accounted inventory log)
    (handled : Handled inventory log.server event
      (log.server.handle event)) :
    Accounted inventory (log.step event) := by
  unfold ControlLog.step
  generalize log.server.handle event = result at handled ⊢
  cases handled with
  | connected silent =>
      simp only [silent, List.append_nil, Option.toList_none]
      exact accounted.connect
  | quiet silent advances fewer nextSnapshotId =>
      simp only [silent, List.append_nil, Option.toList_none]
      exact accounted.quiet advances fewer nextSnapshotId
  | dropped member commit busy =>
      simp only [commit, List.append_nil, Option.toList_none]
      exact accounted.dropped member _
  | refused member commit free requestId result fails queued sent fewer stays =>
      simp only [commit, Option.toList_some]
      have consistent : Consistent inventory
          (fresh inventory log.server.coordinator.committedLayout) :=
        .idle accounted.consistent.committedValid rfl
      have idle : (fresh inventory
        log.server.coordinator.committedLayout).transaction = none := rfl
      refine accounted.answeredAtOnce member _ _ queued consistent idle free
        fewer ?_
      rintro rfl inside
      exact absurd (stays.mpr inside) nofun
  | begun member commit free same transaction pending begun fewer stays =>
      simp only [commit, List.append_nil, Option.toList_none]
      refine accounted.begun member _ (.pending transaction ?_ ?_) pending
        begun.request free fewer
      · exact same ▸ accounted.consistent.committedValid
      · exact same ▸ begun
  | ended silent reply pending acknowledged coordinator verdict queued fewer
      gone =>
      simp only [silent, List.append_nil, Option.toList_some]
      exact accounted.ended pending acknowledged queued
        (accounted.consistent.verdict verdict) verdict.idle fewer gone

/-- The ends of a transaction. -/
theorem settle_handled (accounted : Accounted inventory log)
    {verdict : Option OutputConfigurationAcknowledged ×
      OutputConfigurationCoordinator}
    (judged : Verdict inventory log.server.coordinator verdict)
    (silent : commitOf log.server event = []) (room : Bool) :
    Handled inventory log.server event (log.server.settle verdict room) := by
  have owing := accounted.owing
  obtain ⟨result, coordinator⟩ := verdict
  unfold OutputControlPeer.settle finishTransaction
  cases result with
  | none =>
      cases judged
      exact .quiet silent (.inl rfl) (fun _ member => member) _
  | some acknowledged =>
      have identity : ∀ transaction,
          log.server.coordinator.transaction = some transaction →
          acknowledged.requestId = transaction.configurationId := by
        intro transaction pending
        cases judged with
        | refused other pending' => 
            obtain rfl := Option.some.inj (pending.symm.trans pending')
            rfl
        | committed other pending' =>
            obtain rfl := Option.some.inj (pending.symm.trans pending')
            rfl
      cases held : log.server.pendingReply with
      | none =>
          rw [held] at owing
          cases owing with
          | nothing idle =>
              cases judged with
              | refused _ pending =>
                  rw [idle] at pending
                  cases pending
              | committed _ pending =>
                  rw [idle] at pending
                  cases pending
      | some reply =>
          rw [held] at owing
          cases owing with
          | reply transaction pending _ same =>
              simp only
              rw [if_neg (not_not.mpr ((identity _ pending).trans same))]
              split
              · refine .ended silent reply held acknowledged coordinator judged
                  _ (fun _ member => (mem_disconnect.mp member).2) ?_
                intro _ member
                exact (mem_disconnect.mp member).1 rfl
              · rename_i kept
                refine .ended silent reply held acknowledged coordinator judged
                  _ (fun _ member => member) ?_
                intro unsent member
                rw [unsent, Std.ExtTreeMap.contains_iff_mem.mpr member] at kept
                exact kept rfl

/-- The messages that prepare a commit. -/
theorem consumed_handled {server : OutputControlPeer} {peerId : Nat}
    (silent : commitOf server event = []) {consumed : Consumed}
    (unanswered : consumed.answer = none)
    (quiet : ∃ peers nextSnapshotId,
      (∀ id : Nat, id ∈ peers → id ∈ server.peers) ∧
        consumed.server = { server with peers, nextSnapshotId }) :
    Handled inventory server event
      (if consumed.accepted then consumed.server
        else consumed.server.disconnect peerId, consumed.answer) := by
  obtain ⟨peers, nextSnapshotId, fewer, shape⟩ := quiet
  rw [unanswered, shape]
  split
  · exact .quiet silent (.inl rfl) fewer nextSnapshotId
  · exact .quiet silent (.inl rfl)
      (fun id member => fewer id (mem_disconnect.mp member).2) nextSnapshotId

theorem staged_members {server : OutputControlPeer} {peerId : Nat}
    (member : peerId ∈ server.peers) (staged : StagedSnapshot) (id : Nat)
    (found : id ∈ (server.stage peerId staged).peers) : id ∈ server.peers := by
  rcases mem_stage.mp found with rfl | known
  · exact member
  · exact known

theorem validCommit_identified {request : OutputConfigurationCommit}
    (wellFormed : validCommit request = true) :
    request.configurationId ≠ 0 := by
  simp only [validCommit, Bool.and_eq_true, decide_eq_true_eq] at wellFormed
  exact wellFormed.1.1.1

/-- A commit of a connected peer. -/
theorem commit_handled (accounted : Accounted inventory log)
    (valid : (validateLayout inventory).valid = true) {peerId : Nat}
    (member : peerId ∈ log.server.peers) (sequence : Nat)
    (staged : StagedSnapshot) (request : OutputConfigurationCommit)
    (room : Bool) :
    let event := ControlEvent.receive peerId sequence
      (.outputConfigurationCommit request) room
    let consumed :=
      log.server.consumeCommit peerId sequence staged request room
    Handled inventory log.server event
      (if consumed.accepted then consumed.server
        else consumed.server.disconnect peerId, consumed.answer) := by
  intro event consumed
  cases wellFormed : validCommit request with
  | false =>
      apply consumed_handled
      · simp [event, commitOf, wellFormed]
      · simp [consumed, consumeCommit, wellFormed]
      · refine ⟨log.server.peers, log.server.nextSnapshotId, fun _ => id, ?_⟩
        simp [consumed, consumeCommit, wellFormed]
  | true =>
      have commit : commitOf log.server event = [(peerId, sequence)] := by
        simp [event, commitOf, wellFormed, member]
      cases held : log.server.pendingReply with
      | some reply =>
          have refusal : consumed = { accepted := false, server := log.server } := by
            simp [consumed, consumeCommit, held]
          rw [refusal]
          exact .dropped member commit (by rw [held]; exact nofun)
      | none =>
          have idle : log.server.coordinator.transaction = none := by
            have owing := accounted.owing
            rw [held] at owing
            cases owing
            assumption
          have judged :=
            accounted.consistent.judge valid idle staged wellFormed
          simp only [consumed, consumeCommit, wellFormed, held]
          generalize judge log.server.coordinator staged request = verdict
            at judged ⊢
          cases judged with
          | refused result fails =>
              have encodable := validAcknowledged_of_valid inventory
                accounted.consistent.committedValid
                (validCommit_identified wellFormed) result
              simp only [Bool.not_true, Option.isSome_none, Bool.or_self,
                Bool.false_eq_true, if_false, encodable, Bool.and_true]
              cases room with
              | true =>
                  exact .refused member commit held _ result fails true
                    (fun _ => rfl) (staged_members member {})
                    (by simp [mem_stage])
              | false =>
                  exact .refused member commit held _ result fails false nofun
                    (fun id found => staged_members member {} id
                      (mem_disconnect.mp found).2)
                    ⟨nofun, fun found =>
                      absurd rfl (mem_disconnect.mp found).1⟩
          | accepted transaction begun identified =>
              simp only [Bool.not_true, Option.isSome_none, Bool.or_self,
                Bool.false_eq_true, if_false, if_true]
              rw [← identified]
              refine .begun member commit held ?_ transaction ?_ begun
                (staged_members member {}) (mem_stage.mpr (.inl rfl))
              · rfl
              · rfl

theorem handle_handled (accounted : Accounted inventory log)
    (valid : (validateLayout inventory).valid = true) (event : ControlEvent) :
    Handled inventory log.server event (log.server.handle event) := by
  cases event with
  | connect => exact .connected rfl
  | receive peerId sequence message room =>
      change Handled inventory log.server _
        (log.server.receive peerId sequence message room)
      unfold receive
      cases found : log.server.peers[peerId]? with
      | none =>
          have absent : peerId ∉ log.server.peers := fun member => by
            obtain ⟨staged, here⟩ := KeyMap.mem_iff.mp member
            rw [found] at here
            cases here
          have silent : commitOf log.server
              (.receive peerId sequence message room) = [] := by
            cases message <;> simp [commitOf, absent]
          exact .quiet silent (.inl rfl) (fun _ member => member) _
      | some staged =>
          have member : peerId ∈ log.server.peers := KeyMap.mem_of_lookup found
          have kept : ∀ staged, ∃ peers nextSnapshotId,
              (∀ id : Nat, id ∈ peers → id ∈ log.server.peers) ∧
                log.server.stage peerId staged =
                  { log.server with peers, nextSnapshotId } :=
            fun staged => ⟨_, log.server.nextSnapshotId,
              staged_members member staged, rfl⟩
          have same : ∃ peers nextSnapshotId,
              (∀ id : Nat, id ∈ peers → id ∈ log.server.peers) ∧
                log.server = { log.server with peers, nextSnapshotId } :=
            ⟨log.server.peers, log.server.nextSnapshotId, fun _ => id, rfl⟩
          cases message with
          | snapshotBegin value flags replyTo =>
              apply consumed_handled rfl
              · simp only [consumeBegin]
                split <;> rfl
              · simp only [consumeBegin]
                split
                · exact same
                · exact kept _
          | outputUpsert value flags replyTo =>
              apply consumed_handled rfl
              · simp only [consumeOutput]
                split <;> rfl
              · simp only [consumeOutput]
                split
                · exact same
                · exact kept _
          | snapshotEnd value flags replyTo =>
              apply consumed_handled rfl
              · simp only [consumeEnd]
                split <;> rfl
              · simp only [consumeEnd]
                split
                · exact same
                · exact kept _
          | outputStateQuery published =>
              apply consumed_handled rfl rfl
              simp only [consumeQuery, takeSnapshotId]
              split
              · exact same
              · exact ⟨log.server.peers, _, fun _ => id, rfl⟩
          | outputConfigurationCommit request =>
              exact commit_handled accounted valid member sequence staged
                request room
          | refused => exact consumed_handled rfl rfl same
  | close peerId =>
      exact .quiet rfl (.inl rfl)
        (fun _ member => (mem_disconnect.mp member).2) _
  | policyAccepted =>
      exact .quiet rfl accounted.consistent.acceptPolicy
        (fun _ member => member) _
  | policyRejected room =>
      exact settle_handled accounted accounted.consistent.rejectPolicy rfl room
  | compositorAccepted =>
      exact .quiet rfl accounted.consistent.acceptCompositor
        (fun _ member => member) _
  | compositorRejected result =>
      exact .quiet rfl (beginRollback_advances result)
        (fun _ member => member) _
  | rolledBack succeeded room =>
      exact settle_handled accounted
        (accounted.consistent.finishRollback succeeded) rfl room
  | committed room =>
      exact settle_handled accounted accounted.consistent.commit rfl room
  | internalError room =>
      exact settle_handled accounted accounted.consistent.failInternal rfl room

/-! ## The contract -/

/-- Every event keeps the accounts. -/
theorem Accounted.step (accounted : Accounted inventory log)
    (valid : (validateLayout inventory).valid = true) (event : ControlEvent) :
    Accounted inventory (log.step event) :=
  (handle_handled accounted valid event).accounted accounted

theorem Accounted.start (valid : (validateLayout inventory).valid = true) :
    Accounted inventory (.start inventory) where
  consistent := .idle (validateLayout_iff.mp valid) rfl
  owing := .nothing rfl
  peers := by simp [ControlLog.start, OutputControlPeer.start]
  commits := nofun
  answers := nofun
  pending := nofun
  bounded := show 1 ≤ generationMaximum by decide
  balance := by simp [ControlLog.start, OutputControlPeer.start]

/-- The committed layout changes with an accepting answer only. -/
theorem Handled.generation (accounted : Accounted inventory log)
    (handled : Handled inventory log.server event
      (log.server.handle event)) :
    ((log.step event).committedLayout = log.committedLayout ∧
        ∀ answer ∈ (log.server.handle event).2,
          answer.acknowledged.result ≠ .accepted) ∨
      ((log.step event).committedLayout.generation =
          log.committedLayout.generation + 1 ∧
        ∃ answer ∈ (log.server.handle event).2,
          answer.acknowledged.result = .accepted ∧
          answer.acknowledged.appliedGeneration =
            (log.step event).committedLayout.generation) := by
  unfold ControlLog.step ControlLog.committedLayout
  generalize log.server.handle event = result at handled ⊢
  cases handled with
  | connected silent =>
      refine .inl ⟨?_, nofun⟩
      simp only [acceptPeer]
      split <;> rfl
  | quiet silent advances fewer nextSnapshotId =>
      exact .inl ⟨(accounted.consistent.advance advances).2.1, nofun⟩
  | dropped member commit busy => exact .inl ⟨rfl, nofun⟩
  | refused member commit free requestId result fails queued sent fewer stays =>
      refine .inl ⟨rfl, ?_⟩
      rintro answer member
      obtain rfl := Option.some.inj member
      exact fails
  | begun member commit free same transaction pending begun fewer stays =>
      exact .inl ⟨same, nofun⟩
  | ended silent reply pending acknowledged coordinator verdict queued fewer
      gone =>
      cases verdict with
      | refused transaction pending result fails =>
          refine .inl ⟨rfl, ?_⟩
          rintro answer member
          obtain rfl := Option.some.inj member
          exact fails
      | committed transaction pending =>
          refine .inr ⟨?_, _, rfl, rfl, rfl⟩
          rcases accounted.consistent.cases_transaction with
            ⟨none, _⟩ | ⟨other, here, begun⟩
          · rw [pending] at none
            cases none
          · obtain rfl := Option.some.inj (pending.symm.trans here)
            exact begun.generation

/-- Only a commit that finds another pending ends its peer's connection. -/
theorem Handled.connected_iff
    (handled : Handled inventory log.server event
      (log.server.handle event)) :
    (event.hasRoom = true → ∀ commit ∈ commitOf log.server event,
        commit.1 ∈ (log.step event).server.peers) ↔
      NoCommitPending log event := by
  unfold ControlLog.step NoCommitPending
  generalize log.server.handle event = result at handled ⊢
  cases handled with
  | connected silent => simp [silent]
  | quiet silent advances fewer nextSnapshotId => simp [silent]
  | @dropped peerId sequence member commit busy =>
      simp only [commit, List.forall_mem_singleton, mem_disconnect, ne_eq,
        not_true_eq_false, false_and, List.cons_ne_nil, not_false_eq_true,
        forall_const]
      constructor
      · exact fun closed room => (closed room).elim
      · exact fun free room => busy (free room)
  | refused member commit free requestId result fails queued sent fewer stays =>
      simp only [commit, List.forall_mem_singleton, free, implies_true,
        iff_true]
      exact fun room => stays.mp (sent room)
  | begun member commit free same transaction pending begun fewer stays =>
      simp only [commit, List.forall_mem_singleton, free, implies_true,
        iff_true]
      exact fun _ => stays
  | ended silent reply pending acknowledged coordinator verdict queued fewer
      gone => simp [silent]

/-- The contract is kept at an event exactly if it is not a commit that finds
another pending. -/
theorem Accounted.contract_iff (accounted : Accounted inventory log)
    (valid : (validateLayout inventory).valid = true) :
    ContractKept inventory log event ↔ NoCommitPending log event := by
  have handled := handle_handled accounted valid event
  have next := accounted.step valid event
  constructor
  · exact fun kept => handled.connected_iff.mp kept.connected
  · intro free
    exact {
      valid := validateLayout_iff.mpr next.consistent.committedValid
      generation := handled.generation accounted
      forgets := fun idle => by
        rcases next.consistent.cases_transaction with
          ⟨_, clean⟩ | ⟨_, here, _⟩
        · exact clean
        · rw [idle] at here
          cases here
      answers := next.balance
      pending := next.owing.isSome
      connected := handled.connected_iff.mpr free }

theorem configuration_contract_iff (inventory : OutputLayout)
    (valid : (validateLayout inventory).valid = true)
    (events : List ControlEvent) :
    Guarded ControlLog.step (ContractKept inventory) (.start inventory)
        events ↔
      Guarded ControlLog.step NoCommitPending (.start inventory) events := by
  exact Guarded.congr (Accounted inventory)
    (fun log event accounted _ => accounted.contract_iff valid)
    (fun log event accounted _ _ => accounted.step valid event)
    (.start valid) (.always fun _ _ => trivial)

/-- The messages with which a peer proposes the layout that is in place, up to
its commit. -/
def proposal (peerId : Nat) : List ControlEvent :=
  [.receive peerId 1 (.snapshotBegin
      { snapshotId := 7
        generation := 1
        domain := .outputs
        expectedItemCount := 2 } 0 0) true,
    .receive peerId 2 (.outputUpsert (outputRecord (stateOf pairLayout 1))
      snapshotItemFlag 0) true,
    .receive peerId 3 (.outputUpsert (outputRecord (stateOf pairLayout 2))
      snapshotItemFlag 0) true,
    .receive peerId 4 (.snapshotEnd
      { snapshotId := 7, generation := 1, actualItemCount := 2 } 0 0) true]

def proposalCommit (peerId : Nat) : ControlEvent :=
  .receive peerId 5 (.outputConfigurationCommit
    { configurationId := 7, baseGeneration := 1, primaryOutputId := 1 }) true

/-- One peer's configuration is accepted and committed. -/
theorem configuration_contract_iff_pair :
    (validateLayout pairLayout).valid = true ∧
      (Guarded ControlLog.step (ContractKept pairLayout) (.start pairLayout)
          (.connect :: proposal 1 ++ [proposalCommit 1, .policyAccepted,
            .compositorAccepted, .committed true]) ↔
        Guarded ControlLog.step NoCommitPending (.start pairLayout)
          (.connect :: proposal 1 ++ [proposalCommit 1, .policyAccepted,
            .compositorAccepted, .committed true])) :=
  ⟨pairLayout_valid, configuration_contract_iff pairLayout pairLayout_valid _⟩

/-- Two peers propose; the one that commits while the other's transaction is
pending is disconnected. -/
theorem second_commit_disconnected :
    ¬∀ (inventory : OutputLayout) (events : List ControlEvent),
      (validateLayout inventory).valid = true →
        Guarded ControlLog.step (ContractKept inventory) (.start inventory)
          events := by
  intro alwaysKept
  have events := alwaysKept pairLayout
    (([.connect, .connect] ++ proposal 1 ++ proposal 2 ++ [proposalCommit 1]) ++
      [proposalCommit 2]) pairLayout_valid
  obtain ⟨_, kept, _⟩ := Guarded.append.mp events
  have sent : (2, 5) ∈ commitOf (run ControlLog.step (.start pairLayout)
      ([.connect, .connect] ++ proposal 1 ++ proposal 2 ++
        [proposalCommit 1])).server (proposalCommit 2) := by
    decide +kernel
  have connected := kept.connected rfl (2, 5) sent
  revert connected
  decide +kernel

end Glasswyrm.Server
