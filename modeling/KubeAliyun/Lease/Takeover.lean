import KubeAliyun.Lease.Election
import KubeAliyun.Remote.Sharing
import Mathlib.Algebra.Group.Int.Defs

/-!
# When the lease changes hands

An instance takes the lease from another one only after it has watched the same record
for its lease duration.  The resource version makes the record it has watched the one it
replaces, and as long as `LeaderTransitions` do not overflow records never return to an
earlier value, so that a record it finds unchanged has not been changed in between.
-/

namespace KubeAliyun.Lease

open KubeAliyun.Cloud KubeAliyun.Remote

/-! ## The order of records -/

theorem wholeSecond_le (time : Int) : wholeSecond time ≤ time := by
  unfold wholeSecond second
  omega

theorem le_wholeSecond {whole time : Int} (isWhole : wholeSecond whole = whole)
    (before : whole ≤ time) : whole ≤ wholeSecond time := by
  unfold wholeSecond second at *
  omega

theorem wholeSecond_idem (time : Int) : wholeSecond (wholeSecond time) = wholeSecond time := by
  unfold wholeSecond second
  omega

namespace LeaderElectionRecord

theorem stored_idem (record : LeaderElectionRecord) : record.stored.stored = record.stored := by
  simp only [stored, wholeSecond_idem]

end LeaderElectionRecord

namespace Endpoints

/-- The order in which the records of the object follow each other. -/
def Precedes (first second : Endpoints) : Prop :=
  first.transitions < second.transitions ∨
    first.transitions = second.transitions ∧ first.record.renewTime < second.record.renewTime

theorem Precedes.trans {first second third : Endpoints}
    (one : first.Precedes second) (two : second.Precedes third) : first.Precedes third := by
  unfold Precedes at *
  omega

/-- The record shows the transitions as far as 64 bits can. -/
structure Counted (endpoints : Endpoints) : Prop where
  shown : endpoints.record.leaderTransitions = Int64.ofInt endpoints.transitions
  least : -2 ^ 63 ≤ endpoints.transitions

def Fits (endpoints : Endpoints) : Prop := endpoints.transitions < 2 ^ 63

/-- A record that fits is not the same as an earlier one. -/
theorem Precedes.differs {first second : Endpoints} (precedes : first.Precedes second)
    (one : first.Counted) (two : second.Counted) (fits : second.Fits) :
    first.record ≠ second.record := by
  intro same
  have notLater : first.transitions ≤ second.transitions := by
    unfold Precedes at precedes
    omega
  have shown : Int64.ofInt first.transitions = Int64.ofInt second.transitions := by
    rw [← one.shown, ← two.shown, same]
  have counts : first.transitions = second.transitions := by
    rw [← Int64.toInt_ofInt_of_le one.least (Int.lt_of_le_of_lt notLater fits),
      ← Int64.toInt_ofInt_of_le two.least fits, shown]
  have renewed := congrArg LeaderElectionRecord.renewTime same
  unfold Precedes at precedes
  omega

end Endpoints

theorem Endpoints.annotation_of_holder {endpoints : Endpoints}
    (held : endpoints.record.holderIdentity ≠ "") :
    endpoints.annotation = some endpoints.record := by
  unfold Endpoints.record at *
  cases known : endpoints.annotation with
  | none =>
      rw [known] at held
      exact absurd rfl held
  | some record => rfl

/-! ## Sane objects -/

variable {ι : Type}

/-- The record was written by its holder, before now and by the holder's clock. -/
structure Kept (candidates : Candidates ι) (time : Int) (endpoints : Endpoints) : Prop where
  counted : endpoints.Counted
  past : endpoints.changed ≤ time
  whole : endpoints.record.stored = endpoints.record
  lease : ∀ index, endpoints.record.holderIdentity = (candidates.elector index).identity →
    endpoints.record.leaseDurationSeconds =
      (candidates.elector index).leaseDuration.tdiv second
  renewed : ∀ index, endpoints.record.holderIdentity = (candidates.elector index).identity →
    endpoints.record.renewTime ≤ endpoints.changed + (candidates.elector index).clockOffset

def Sane (candidates : Candidates ι) (server : Server) : Prop :=
  ∀ endpoints, server.object = some endpoints → Kept candidates server.time endpoints

/-- A record that an instance may write at a time. -/
structure Authored (le : LeaderElector) (time : Int) (record : LeaderElectionRecord) : Prop where
  holder : record.holderIdentity = le.identity
  lease : record.leaseDurationSeconds = le.leaseDuration.tdiv second
  whole : record.stored = record
  renewed : record.renewTime ≤ time + le.clockOffset

/-- How the record of an instance follows on the object: the instance renews its own, or takes
over one that has not changed for the lease duration, unless the count has overflowed. -/
inductive Succeeds (le : LeaderElector) (time : Int) (endpoints : Endpoints)
    (record : LeaderElectionRecord) : Prop
  | renewal (own : endpoints.record.holderIdentity = le.identity)
      (transitions : record.leaderTransitions = endpoints.record.leaderTransitions)
      (acquired : record.acquireTime = endpoints.record.acquireTime)
      (later : endpoints.record.renewTime ≤ record.renewTime)
  | takeover (other : endpoints.record.holderIdentity ≠ le.identity)
      (transitions : record.leaderTransitions = endpoints.record.leaderTransitions + 1)
      (expired : endpoints.Fits → endpoints.record.holderIdentity ≠ "" →
        endpoints.changed + le.leaseDuration ≤ time)

def Permitted (le : LeaderElector) (server : Server) : LockCall → Prop
  | .now => True
  | .tick => True
  | .get => True
  | .create record => Authored le server.time record
  | .update resourceVersion record => ∀ endpoints, server.object = some endpoints →
      endpoints.resourceVersion = resourceVersion →
        Authored le server.time record ∧ Succeeds le server.time endpoints record

/-! ## What a call does -/

theorem Authored.wait {le : LeaderElector} {time later : Int} {record : LeaderElectionRecord}
    (authored : Authored le time record) (passed : time ≤ later) :
    Authored le later record :=
  ⟨authored.holder, authored.lease, authored.whole, by have := authored.renewed; omega⟩

theorem Succeeds.wait {le : LeaderElector} {time later : Int} {endpoints : Endpoints}
    {record : LeaderElectionRecord} (succeeds : Succeeds le time endpoints record)
    (passed : time ≤ later) : Succeeds le later endpoints record := by
  cases succeeds with
  | renewal own transitions acquired renewed =>
      exact .renewal own transitions acquired renewed
  | takeover other transitions expired =>
      refine .takeover other transitions fun fits held => ?_
      have := expired fits held
      omega

/-- The object after a permitted call: as before, created, or with a new record. -/
inductive Written (le : LeaderElector) (time : Int) : Option Endpoints → Option Endpoints → Prop
  | same (object : Option Endpoints) : Written le time object object
  | created {record : LeaderElectionRecord} (authored : Authored le time record) :
      Written le time none (some ⟨some record, 1, time, record.leaderTransitions.toInt⟩)
  | replaced {endpoints : Endpoints} {record : LeaderElectionRecord}
      (authored : Authored le time record) (succeeds : Succeeds le time endpoints record)
      (changes : endpoints.annotation ≠ some record) :
      Written le time (some endpoints) (some (endpoints.next record time))

structure Effect (le : LeaderElector) (before after : Server) : Prop where
  time : before.time ≤ after.time
  object : Written le after.time before.object after.object

section Calls

variable {le : LeaderElector}

theorem le_wait (server : Server) (elapsed : Nat) : server.time ≤ (server.wait elapsed).time := by
  dsimp only [Server.wait]
  omega

theorem wait_effect (server : Server) (elapsed : Nat) : Effect le server (server.wait elapsed) :=
  ⟨le_wait server elapsed, .same _⟩

theorem Effect.waited {server after : Server} {elapsed : Nat}
    (effect : Effect le (server.wait elapsed) after) : Effect le server after :=
  ⟨Int.le_trans (le_wait server elapsed) effect.time, effect.object⟩

theorem create_effect {server : Server} {record : LeaderElectionRecord}
    (authored : Authored le server.time record) : Effect le server (server.create record).2 := by
  obtain ⟨time, object⟩ := server
  cases object with
  | some endpoints => exact ⟨Int.le_refl _, .same _⟩
  | none => exact ⟨Int.le_refl _, .created authored⟩

theorem update_effect {server : Server} {resourceVersion : Nat} {record : LeaderElectionRecord}
    (permitted : Permitted le server (.update resourceVersion record)) :
    Effect le server (server.update resourceVersion record).2 := by
  obtain ⟨time, object⟩ := server
  cases object with
  | none => exact ⟨Int.le_refl _, .same _⟩
  | some endpoints =>
      by_cases current : endpoints.resourceVersion = resourceVersion
      · obtain ⟨authored, succeeds⟩ := permitted endpoints rfl current
        simp only [Server.update, if_pos current, Server.put]
        split
        · exact ⟨Int.le_refl _, .same _⟩
        · rename_i changes
          exact ⟨Int.le_refl _, .replaced authored succeeds changes⟩
      · simp only [Server.update, if_neg current]
        exact ⟨Int.le_refl _, .same _⟩

theorem handled_effect {server : Server} {fate : Fate} {done : Except LockError Unit × Server}
    (effect : Effect le server done.2) : Effect le server (Server.handled fate server done).2 := by
  cases fate with
  | served => exact effect
  | refused => exact ⟨Int.le_refl _, .same _⟩
  | unanswered => exact effect

/-- Time passes before a call; the instance may still make it. -/
theorem Permitted.wait {server : Server} {request : LockCall}
    (permitted : Permitted le server request) (elapsed : Nat) :
    Permitted le (server.wait elapsed) request := by
  have passed := le_wait server elapsed
  cases request with
  | now => trivial
  | tick => trivial
  | get => trivial
  | create record => exact Authored.wait permitted passed
  | update resourceVersion record =>
      intro endpoints present current
      obtain ⟨authored, succeeds⟩ := permitted endpoints present current
      exact ⟨authored.wait passed, succeeds.wait passed⟩

theorem answer_effect {server : Server} {request : LockCall} (choice : LockChoice)
    (permitted : Permitted le server request) :
    Effect le server (Server.answer choice server request).2 := by
  have waited := permitted.wait choice.elapsed
  cases request with
  | now => exact wait_effect server choice.elapsed
  | tick => exact wait_effect server choice.elapsed
  | get => exact wait_effect server choice.elapsed
  | create record => exact (handled_effect (create_effect waited)).waited
  | update resourceVersion record => exact (handled_effect (update_effect waited)).waited

end Calls

/-! ## What the calls of an instance keep -/

section Keeping

variable {candidates : Candidates ι} {index : ι} {before after : Server}

/-- What the notes of the model say after a new record. -/
theorem Succeeds.next_transitions {le : LeaderElector} {endpoints : Endpoints} {time : Int}
    {record : LeaderElectionRecord} (authored : Authored le time record)
    (succeeds : Succeeds le time endpoints record) :
    record.leaderTransitions = endpoints.record.leaderTransitions ∧
        (endpoints.next record time).transitions = endpoints.transitions ∨
      record.leaderTransitions = endpoints.record.leaderTransitions + 1 ∧
        (endpoints.next record time).transitions = endpoints.transitions + 1 := by
  cases succeeds with
  | renewal own transitions acquired later =>
      exact Or.inl ⟨transitions, if_pos (authored.holder.trans own.symm)⟩
  | takeover other transitions expired =>
      refine Or.inr ⟨transitions, if_neg fun same => other ?_⟩
      exact same.symm.trans authored.holder

theorem Succeeds.counted {le : LeaderElector} {endpoints : Endpoints} {time : Int}
    {record : LeaderElectionRecord} (authored : Authored le time record)
    (succeeds : Succeeds le time endpoints record) (counted : endpoints.Counted) :
    (endpoints.next record time).Counted := by
  have least := counted.least
  rcases succeeds.next_transitions authored with ⟨shown, same⟩ | ⟨shown, more⟩
  · refine ⟨?_, by omega⟩
    rw [same, ← counted.shown]
    exact shown
  · refine ⟨?_, by omega⟩
    rw [more, Int64.ofInt_add, ← counted.shown]
    exact shown

/-- A new record of a sane object follows on the old one. -/
theorem Succeeds.precedes {endpoints : Endpoints} {time : Int} {record : LeaderElectionRecord}
    (kept : Kept candidates time endpoints)
    (authored : Authored (candidates.elector index) time record)
    (succeeds : Succeeds (candidates.elector index) time endpoints record)
    (changes : endpoints.annotation ≠ some record) :
    endpoints.Precedes (endpoints.next record time) := by
  rcases succeeds.next_transitions authored with ⟨-, same⟩ | ⟨-, more⟩
  case inr => exact Or.inl (by omega)
  cases succeeds with
  | takeover other transitions expired =>
      refine Or.inl ?_
      have counts : (endpoints.next record time).transitions = endpoints.transitions + 1 :=
        if_neg fun held => other (held.symm.trans authored.holder)
      omega
  | renewal own transitions acquired later =>
      refine Or.inr ⟨same.symm, Int.lt_iff_le_and_ne.mpr ⟨later, fun sameTime => changes ?_⟩⟩
      replace sameTime : endpoints.record.renewTime = record.renewTime := sameTime
      have held : endpoints.record.holderIdentity ≠ "" := by
        rw [own]
        exact (candidates.elector index).named
      rw [Endpoints.annotation_of_holder held]
      have holder : endpoints.record.holderIdentity = record.holderIdentity :=
        own.trans authored.holder.symm
      have lease : endpoints.record.leaseDurationSeconds = record.leaseDurationSeconds :=
        (kept.lease index own).trans authored.lease.symm
      generalize endpoints.record = old at *
      obtain ⟨oldHolder, oldLease, oldAcquired, oldRenewed, oldTransitions⟩ := old
      obtain ⟨newHolder, newLease, newAcquired, newRenewed, newTransitions⟩ := record
      dsimp only at *
      subst holder lease sameTime transitions acquired
      rfl

theorem Kept.wait {endpoints : Endpoints} {time later : Int}
    (kept : Kept candidates time endpoints) (passed : time ≤ later) :
    Kept candidates later endpoints :=
  ⟨kept.counted, Int.le_trans kept.past passed, kept.whole, kept.lease, kept.renewed⟩

/-- A record that its author has just written is sane. -/
theorem Authored.kept {time transitions : Int} {record : LeaderElectionRecord}
    {resourceVersion : Nat} (authored : Authored (candidates.elector index) time record)
    (counted : Endpoints.Counted ⟨some record, resourceVersion, time, transitions⟩) :
    Kept candidates time ⟨some record, resourceVersion, time, transitions⟩ := by
  have author : ∀ other, record.holderIdentity = (candidates.elector other).identity →
      other = index := fun other held =>
    candidates.distinct other index (held.symm.trans authored.holder)
  refine ⟨counted, Int.le_refl _, authored.whole, fun other held => ?_, fun other held => ?_⟩
  · cases author other held
    exact authored.lease
  · cases author other held
    exact authored.renewed

theorem Effect.sane (effect : Effect (candidates.elector index) before after)
    (sane : Sane candidates before) : Sane candidates after := by
  obtain ⟨passed, written⟩ := effect
  intro endpoints present
  generalize old : before.object = object at written
  rw [present] at written
  cases written with
  | same => exact (sane endpoints old).wait passed
  | created authored =>
      exact authored.kept ⟨(Int64.ofInt_toInt _).symm, Int64.le_toInt _⟩
  | replaced authored succeeds changes =>
      exact authored.kept (succeeds.counted authored (sane _ old).counted)

/-- The object is the one that was read, or a newer one with a later record. -/
def Since (endpoints : Endpoints) (server : Server) : Prop :=
  ∃ next, server.object = some next ∧
    (next = endpoints ∨ endpoints.resourceVersion < next.resourceVersion ∧
      endpoints.Precedes next)

def Follows (before after : Server) : Prop :=
  ∀ endpoints, before.object = some endpoints → Since endpoints after

theorem Since.same_version {endpoints current : Endpoints} (since : Since endpoints after)
    (present : after.object = some current)
    (sameVersion : current.resourceVersion = endpoints.resourceVersion) : current = endpoints := by
  obtain ⟨next, there, rfl | ⟨newer, -⟩⟩ := since
  · exact Option.some.inj (present.symm.trans there)
  · cases present.symm.trans there
    omega

theorem Since.follows {endpoints : Endpoints} (since : Since endpoints before)
    (move : Follows before after) : Since endpoints after := by
  obtain ⟨next, there, step⟩ := since
  obtain ⟨last, found, move⟩ := move next there
  refine ⟨last, found, ?_⟩
  rcases step with rfl | ⟨newer, precedes⟩
  · exact move
  · rcases move with rfl | ⟨newest, follows⟩
    · exact Or.inr ⟨newer, precedes⟩
    · exact Or.inr ⟨Nat.lt_trans newer newest, precedes.trans follows⟩

theorem Effect.follows (effect : Effect (candidates.elector index) before after)
    (sane : Sane candidates before) : Follows before after := by
  obtain ⟨passed, written⟩ := effect
  intro endpoints present
  rw [present] at written
  generalize new : after.object = object at written
  cases written with
  | same => exact ⟨endpoints, new, Or.inl rfl⟩
  | replaced authored succeeds changes =>
      refine ⟨_, new, Or.inr ⟨Nat.lt_succ_self _, ?_⟩⟩
      exact succeeds.precedes ((sane endpoints present).wait passed) authored changes

/-- What the other instances do between two calls of an instance. -/
structure Moved (le : LeaderElector) (before after : Server) : Prop where
  time : before.time ≤ after.time
  follows : Follows before after
  foreign : ∀ endpoints, after.object = some endpoints →
    endpoints.record.holderIdentity = le.identity → before.object = some endpoints

theorem Moved.refl (le : LeaderElector) (server : Server) : Moved le server server :=
  ⟨Int.le_refl _, fun endpoints present => ⟨endpoints, present, Or.inl rfl⟩,
    fun _ present _ => present⟩

theorem Moved.trans {le : LeaderElector} {first second third : Server}
    (one : Moved le first second) (two : Moved le second third) : Moved le first third :=
  ⟨Int.le_trans one.time two.time,
    fun endpoints present => (one.follows endpoints present).follows two.follows,
    fun endpoints present own =>
      one.foreign endpoints (two.foreign endpoints present own) own⟩

theorem Effect.moved {other : ι} (effect : Effect (candidates.elector index) before after)
    (sane : Sane candidates before) (different : other ≠ index) :
    Moved (candidates.elector other) before after := by
  refine ⟨effect.time, effect.follows sane, fun endpoints present own => ?_⟩
  obtain ⟨passed, written⟩ := effect
  have author : ∀ {time record},
      Authored (candidates.elector index) time record →
      record.holderIdentity ≠ (candidates.elector other).identity := fun authored held =>
    different (candidates.distinct other index (held.symm.trans authored.holder))
  generalize old : before.object = object at written
  rw [present] at written
  cases written with
  | same => rfl
  | created authored => exact absurd own (author authored)
  | replaced authored succeeds changes => exact absurd own (author authored)

end Keeping

/-! ## What an instance knows -/

/-- A record of somebody else that an instance has seen is there, unchanged since it was first
seen, or belongs to an earlier state of the object. -/
def Watched (le : LeaderElector) (seen : Observed) (server : Server) : Prop :=
  seen.observedRecord.holderIdentity ≠ le.identity → seen.observedRecord.holderIdentity ≠ "" →
    ∃ endpoints, server.object = some endpoints ∧
      (seen.observedRecord = endpoints.record ∧ endpoints.Counted ∧
          endpoints.changed + le.clockOffset ≤ seen.observedTime ∨
        ∃ earlier : Endpoints, seen.observedRecord = earlier.record ∧ earlier.Counted ∧
          earlier.Precedes endpoints)

/-- The time that an instance has read at the start of an attempt. -/
structure Clocked (le : LeaderElector) (now : Int) (server : Server) : Prop where
  past : now ≤ server.time + le.clockOffset
  own : ∀ endpoints, server.object = some endpoints →
    endpoints.record.holderIdentity = le.identity → endpoints.record.renewTime ≤ wholeSecond now

section Knowing

variable {le : LeaderElector} {seen : Observed} {before after : Server}

theorem Watched.follows (watched : Watched le seen before) (move : Follows before after) :
    Watched le seen after := by
  intro foreign held
  obtain ⟨endpoints, present, known⟩ := watched foreign held
  obtain ⟨next, there, step⟩ := move endpoints present
  refine ⟨next, there, ?_⟩
  rcases step with rfl | ⟨-, precedes⟩
  · exact known
  · rcases known with ⟨same, counted, -⟩ | ⟨earlier, same, counted, before⟩
    · exact Or.inr ⟨endpoints, same, counted, precedes⟩
    · exact Or.inr ⟨earlier, same, counted, before.trans precedes⟩

theorem Watched.of_own (own : seen.observedRecord.holderIdentity = le.identity)
    (server : Server) : Watched le seen server :=
  fun foreign _ => absurd own foreign

theorem Watched.nothing (le : LeaderElector) (server : Server) :
    Watched le .nothing server :=
  fun _ held => absurd rfl held

theorem Clocked.moved {now : Int} (clocked : Clocked le now before)
    (move : Moved le before after) : Clocked le now after :=
  ⟨by have := clocked.past; have := move.time; omega,
    fun endpoints present own => clocked.own endpoints (move.foreign endpoints present own) own⟩

theorem Sane.clocked {candidates : Candidates ι} {index : ι} {server : Server}
    (sane : Sane candidates server) :
    Clocked (candidates.elector index)
      (server.time + (candidates.elector index).clockOffset) server := by
  refine ⟨Int.le_refl _, fun endpoints present own => ?_⟩
  have kept := sane endpoints present
  refine le_wholeSecond (congrArg LeaderElectionRecord.renewTime kept.whole) ?_
  have := kept.renewed index own
  have := kept.past
  omega

end Knowing

/-! ## The records of an instance -/

section Records

variable (le : LeaderElector)

theorem leaderElectionRecord_authored {now time : Int} (past : now ≤ time + le.clockOffset) :
    Authored le time (le.leaderElectionRecord now).stored :=
  ⟨rfl, rfl, LeaderElectionRecord.stored_idem _, Int.le_trans (wholeSecond_le now) past⟩

theorem successor_authored (old : LeaderElectionRecord) {now time : Int}
    (past : now ≤ time + le.clockOffset) : Authored le time (le.successor old now).stored := by
  refine ⟨?_, ?_, LeaderElectionRecord.stored_idem _, ?_⟩
  · unfold LeaderElector.successor
    split <;> rfl
  · unfold LeaderElector.successor
    split <;> rfl
  · have renewed : (le.successor old now).stored.renewTime = wholeSecond now := by
      unfold LeaderElector.successor
      split <;> rfl
    rw [renewed]
    exact Int.le_trans (wholeSecond_le now) past

variable {le}

/-- The instance does not wait, or has waited long enough. -/
theorem successor_succeeds {seen : Observed} {now : Int} {server : Server}
    {endpoints : Endpoints} (present : server.object = some endpoints)
    (whole : endpoints.record.stored = endpoints.record) (counted : endpoints.Counted)
    (clocked : Clocked le now server)
    (watched : Watched le seen server)
    (observed : seen.observedRecord = endpoints.record)
    (go : ¬(seen.observedTime + le.leaseDuration > now ∧
      endpoints.record.holderIdentity ≠ le.identity)) :
    Succeeds le server.time endpoints (le.successor endpoints.record now).stored := by
  unfold LeaderElector.successor
  by_cases own : endpoints.record.holderIdentity = le.identity
  · rw [if_pos own]
    have acquired : endpoints.record.stored.acquireTime = endpoints.record.acquireTime := by
      rw [whole]
    exact .renewal own rfl acquired (clocked.own endpoints present own)
  · rw [if_neg own]
    refine .takeover own rfl fun fits held => ?_
    have waited : seen.observedTime + le.leaseDuration ≤ now := by
      by_contra early
      exact go ⟨by omega, own⟩
    rw [← observed] at own held
    obtain ⟨current, there, known⟩ := watched own held
    cases present.symm.trans there
    rcases known with ⟨-, -, since⟩ | ⟨earlier, same, shown, precedes⟩
    · have := clocked.past
      omega
    · exact absurd (same.symm.trans observed) (precedes.differs shown counted fits)

end Records

/-! ## Attempts -/

/-- The calls an instance makes and the answers it may get. -/
def electorContract (candidates : Candidates ι) (index : ι) :
    Contract Server LockCall LockReply :=
  Service.seen Server.answer id (fun _ => True) (Sane candidates)
    (Permitted (candidates.elector index))

section Attempts

variable {candidates : Candidates ι} {index : ι} {α : Type} {post : Option α → Server → Prop}
  {server : Server}

theorem wait_moved (le : LeaderElector) (server : Server) (elapsed : Nat) :
    Moved le server (server.wait elapsed) :=
  ⟨le_wait server elapsed, fun endpoints present => ⟨endpoints, present, Or.inl rfl⟩,
    fun _ present _ => present⟩

theorem Sane.wait (sane : Sane candidates server) (elapsed : Nat) :
    Sane candidates (server.wait elapsed) :=
  fun endpoints present => (sane endpoints present).wait (le_wait server elapsed)

theorem now_withstands {next : Int → LockProg α}
    (continues : ∀ state, Sane candidates state →
      Moved (candidates.elector index) server state →
      (next (state.time + (candidates.elector index).clockOffset)).Withstands
        (electorContract candidates index) (Moved (candidates.elector index)) post state) :
    ((candidates.elector index).now >>= next).Withstands
      (electorContract candidates index) (Moved (candidates.elector index)) post server := by
  refine Prog.Withstands.ask (fun _ _ => trivial) ?_
  intro choice state fair sane move
  exact continues (state.wait choice.elapsed) (sane.wait choice.elapsed)
    (move.trans (wait_moved _ state choice.elapsed))

theorem lockGet_withstands {next : Except LockError Endpoints → LockProg α}
    (fails : ∀ error state, Sane candidates state →
      Moved (candidates.elector index) server state →
      (next (.error error)).Withstands (electorContract candidates index)
        (Moved (candidates.elector index)) post state)
    (finds : ∀ endpoints state, Sane candidates state →
      Moved (candidates.elector index) server state → state.object = some endpoints →
      (next (.ok endpoints)).Withstands (electorContract candidates index)
        (Moved (candidates.elector index)) post state) :
    (LeaderElector.lockGet >>= next).Withstands
      (electorContract candidates index) (Moved (candidates.elector index)) post server := by
  refine Prog.Withstands.ask (fun _ _ => trivial) ?_
  intro choice state fair sane move
  have still := sane.wait choice.elapsed
  have moved := move.trans (wait_moved _ state choice.elapsed)
  have answered : Server.answer choice state .get =
      (Server.reported choice.fate (state.wait choice.elapsed).get,
        state.wait choice.elapsed) := rfl
  rw [answered]
  generalize state.wait choice.elapsed = current at *
  cases choice.fate with
  | refused => exact fails _ current still moved
  | unanswered => exact fails _ current still moved
  | served =>
      obtain ⟨time, object⟩ := current
      cases object with
      | none => exact fails _ _ still moved
      | some endpoints => exact finds endpoints _ still moved rfl

/-- A call that may write: whatever it does, records only follow on each other. -/
theorem write_withstands {request : LockCall} {next : LockReply request → LockProg α}
    (permitted : ∀ moved, Moved (candidates.elector index) server moved →
      Permitted (candidates.elector index) moved request)
    (continues : ∀ reply state, Follows server state →
      (next reply).Withstands (electorContract candidates index)
        (Moved (candidates.elector index)) post state) :
    (Prog.ask request next).Withstands
      (electorContract candidates index) (Moved (candidates.elector index)) post server := by
  refine Prog.Withstands.ask permitted ?_
  intro choice state fair sane move
  have effect := answer_effect choice (permitted state move)
  exact continues _ _ fun endpoints present =>
    (move.follows endpoints present).follows (effect.follows sane)

theorem observe_withstands {next : Observed → LockProg α} {seen : Observed}
    {endpoints : Endpoints} (counted : endpoints.Counted) (since : Since endpoints server)
    (watched : Watched (candidates.elector index) seen server)
    (continues : ∀ observed state, Moved (candidates.elector index) server state →
      observed.observedRecord = endpoints.record →
      Watched (candidates.elector index) observed state →
      (next observed).Withstands (electorContract candidates index)
        (Moved (candidates.elector index)) post state) :
    ((candidates.elector index).observe seen endpoints.record >>= next).Withstands
      (electorContract candidates index) (Moved (candidates.elector index)) post server := by
  unfold LeaderElector.observe
  split
  · rename_i same
    exact continues seen server (Moved.refl _ server) same watched
  · rw [Prog.bind_assoc]
    refine now_withstands fun state saneThen move => ?_
    refine continues _ state move rfl fun foreign held => ?_
    obtain ⟨next, there, step⟩ := since.follows move.follows
    refine ⟨next, there, ?_⟩
    rcases step with rfl | ⟨-, precedes⟩
    · exact Or.inl ⟨rfl, counted, Int.add_le_add_right (saneThen next there).past _⟩
    · exact Or.inr ⟨endpoints, rfl, counted, precedes⟩

def Attempted (le : LeaderElector) (outcome : Option (Bool × Observed)) (server : Server) : Prop :=
  ∃ succeeded seen, outcome = some (succeeded, seen) ∧ Watched le seen server

theorem attempted_withstands {seen : Observed} (succeeded : Bool)
    (watched : Watched (candidates.elector index) seen server) :
    (Prog.done (succeeded, seen) : LockProg (Bool × Observed)).Withstands
      (electorContract candidates index) (Moved (candidates.elector index))
      (Attempted (candidates.elector index)) server :=
  fun _ move => ⟨succeeded, seen, rfl, watched.follows move.follows⟩

theorem written_withstands {record : LeaderElectionRecord}
    (own : record.holderIdentity = (candidates.elector index).identity) :
    ((candidates.elector index).written record).Withstands
      (electorContract candidates index) (Moved (candidates.elector index))
      (Attempted (candidates.elector index)) server :=
  now_withstands fun _ _ _ => attempted_withstands true (Watched.of_own own _)

theorem successor_holder (le : LeaderElector) (old : LeaderElectionRecord) (now : Int) :
    (le.successor old now).holderIdentity = le.identity := by
  unfold LeaderElector.successor
  split <;> rfl

theorem tryAcquireOrRenew_withstands {seen : Observed}
    (watched : Watched (candidates.elector index) seen server) :
    ((candidates.elector index).tryAcquireOrRenew seen).Withstands
      (electorContract candidates index) (Moved (candidates.elector index))
      (Attempted (candidates.elector index)) server := by
  refine now_withstands fun started saneStart begun => ?_
  have clocked : Clocked (candidates.elector index) _ started := saneStart.clocked
  generalize started.time + (candidates.elector index).clockOffset = now at *
  refine lockGet_withstands ?_ ?_
  · intro error state sane move
    have seenStill := watched.follows (begun.trans move).follows
    cases error with
    | failed => exact attempted_withstands false seenStill
    | notFound =>
        refine write_withstands (fun moved later =>
          leaderElectionRecord_authored _ ((clocked.moved move).moved later).past) ?_
        intro reply after follows
        change Except LockError Unit at reply
        cases reply with
        | error _ => exact attempted_withstands false (seenStill.follows follows)
        | ok _ => exact written_withstands rfl
  · intro endpoints state sane move present
    have kept := sane endpoints present
    refine observe_withstands kept.counted ⟨endpoints, present, Or.inl rfl⟩
      (watched.follows (begun.trans move).follows) ?_
    intro observed looked passed same watching
    have timed := (clocked.moved move).moved passed
    have since := passed.follows endpoints present
    split
    · exact attempted_withstands false watching
    · rename_i go
      refine write_withstands (fun moved later current there sameVersion => ?_) ?_
      · cases (since.follows later.follows).same_version there sameVersion
        have timedThen := timed.moved later
        exact ⟨successor_authored _ _ timedThen.past, successor_succeeds there kept.whole
          kept.counted timedThen (watching.follows later.follows) same go⟩
      · intro reply after follows
        change Except LockError Unit at reply
        cases reply with
        | error _ => exact attempted_withstands false (watching.follows follows)
        | ok _ => exact written_withstands (successor_holder _ _ _)

/-! ## Whole lives -/

theorem renew_withstands (attempts : Nat) {seen : Observed}
    (watched : Watched (candidates.elector index) seen server) :
    ((candidates.elector index).renew attempts seen).Withstands
      (electorContract candidates index) (Moved (candidates.elector index))
      (fun _ _ => True) server := by
  induction attempts generalizing seen server with
  | zero => exact fun _ _ => trivial
  | succ attempts ih =>
      refine write_withstands (fun _ _ => trivial) fun stillOpen state follows => ?_
      change Prog.Withstands _ _ _
        ((candidates.elector index).tryAcquireOrRenew seen >>= fun _ => _) state
      refine Prog.Withstands.bind (fun _ => Moved.refl _ _)
        (tryAcquireOrRenew_withstands (watched.follows follows)) ?_ fun _ _ => trivial
      rintro ⟨succeeded, seen⟩ after ⟨_, _, same, watching⟩
      cases same
      dsimp only
      split
      · exact ih watching
      · exact fun _ _ => trivial

theorem acquire_withstands (attempts : Nat) {seen : Observed}
    (watched : Watched (candidates.elector index) seen server) :
    ((candidates.elector index).acquire attempts seen).Withstands
      (electorContract candidates index) (Moved (candidates.elector index))
      (fun _ _ => True) server := by
  induction attempts generalizing seen server with
  | zero => exact fun _ _ => trivial
  | succ attempts ih =>
      refine Prog.Withstands.bind (fun _ => Moved.refl _ _)
        (tryAcquireOrRenew_withstands watched) ?_ fun _ _ => trivial
      rintro ⟨succeeded, seen⟩ after ⟨_, _, same, watching⟩
      cases same
      dsimp only
      split
      · exact renew_withstands attempts watching
      · exact ih watching

theorem lives_withstands (attempts : List Nat) :
    ((candidates.elector index).lives attempts).Withstands
      (electorContract candidates index) (Moved (candidates.elector index))
      (fun _ _ => True) server := by
  induction attempts generalizing server with
  | nil => exact fun _ _ => trivial
  | cons first rest ih =>
      exact Prog.Withstands.bind (fun _ => Moved.refl _ _)
        (acquire_withstands first (Watched.nothing _ _)) (fun _ _ _ => ih) fun _ _ => trivial

end Attempts

/-! ## Every schedule -/

section Schedules

variable {candidates : Candidates ι}

/-- The instances tolerate each other. -/
theorem electors_shared (candidates : Candidates ι) :
    Shared Server.answer id (fun _ => True) (Sane candidates) (electorContract candidates)
      (fun index => Moved (candidates.elector index)) where
  refines _ :=
    { step := fun {choice state _} fair sane _ => ⟨choice, state, fair, sane, rfl, rfl, rfl⟩
      keeps := fun {choice _ _} _ sane permitted => (answer_effect choice permitted).sane sane }
  still _ server := Moved.refl _ server
  chains _ _ _ _ one two := one.trans two
  frame := fun {_ _ choice _ _} different _ sane permitted =>
    (answer_effect choice permitted).moved sane different

theorem start_holds (attempts : ι → List Nat) (choices : ι → Nat → LockChoice) {server : Server}
    (sane : Sane candidates server) :
    (candidates.start attempts choices server).Holds id (fun _ => True) (Sane candidates)
      (electorContract candidates) (fun index => Moved (candidates.elector index))
      (fun _ _ _ => True) :=
  ⟨sane, fun _ _ => trivial, fun index => lives_withstands (attempts index)⟩

variable [DecidableEq ι]

/-- The instances after some run from a sane start. -/
def Candidates.Reachable (candidates : Candidates ι)
    (pool : Pool ι LockChoice Server LockCall LockReply Unit) : Prop :=
  ∃ attempts choices server schedule, Sane candidates server ∧
    pool = (candidates.start attempts choices server).runs Server.answer schedule

variable {pool : Pool ι LockChoice Server LockCall LockReply Unit}

theorem Candidates.Reachable.step (reachable : candidates.Reachable pool) (index : ι) :
    candidates.Reachable (pool.step Server.answer index) := by
  obtain ⟨attempts, choices, server, schedule, sane, rfl⟩ := reachable
  refine ⟨attempts, choices, server, schedule ++ [index], sane, ?_⟩
  rw [Pool.runs_append]
  rfl

/-- In every run, a step of an instance has the effect of one of its calls. -/
theorem Candidates.Reachable.effect (reachable : candidates.Reachable pool) (index : ι) :
    Sane candidates pool.state ∧
      Effect (candidates.elector index) pool.state (pool.step Server.answer index).state := by
  obtain ⟨attempts, choices, server, schedule, sane, rfl⟩ := reachable
  have held := (start_holds attempts choices sane).runs (electors_shared candidates) schedule
  refine ⟨held.good, ?_⟩
  rcases held.moves (electors_shared candidates) index with
    same | ⟨choice, request, -, permitted, moved⟩
  · rw [same]
    exact ⟨Int.le_refl _, .same _⟩
  · rw [moved]
    exact answer_effect choice permitted

/-- Whenever the record changes hands, the newcomer has waited for its lease duration: the
record has not changed for that long, and the clock of the old holder has passed the renewal
it shows by that much. -/
theorem takeover_waits (reachable : candidates.Reachable pool) (index : ι) {old new : Endpoints}
    (before : pool.state.object = some old) (fits : old.Fits)
    (after : (pool.step Server.answer index).state.object = some new)
    (changed : new.record.holderIdentity ≠ old.record.holderIdentity) :
    new.record.holderIdentity = (candidates.elector index).identity ∧
      (old.record.holderIdentity ≠ "" →
        old.changed + (candidates.elector index).leaseDuration ≤
          (pool.step Server.answer index).state.time) ∧
      ∀ holder, old.record.holderIdentity = (candidates.elector holder).identity →
        old.record.renewTime + (candidates.elector index).leaseDuration ≤
          (pool.step Server.answer index).state.time +
            (candidates.elector holder).clockOffset := by
  obtain ⟨sane, passed, written⟩ := reachable.effect index
  have kept := sane old before
  rw [before, after] at written
  cases written with
  | same => exact absurd rfl changed
  | replaced authored succeeds changes =>
      cases succeeds with
      | renewal own transitions acquired later =>
          exact absurd (authored.holder.trans own.symm) changed
      | takeover other transitions expired =>
          refine ⟨authored.holder, expired fits, fun holder held => ?_⟩
          have waited := expired fits (by rw [held]; exact (candidates.elector holder).named)
          have renewed := kept.renewed holder held
          omega

/-- Two instances with the default lease duration and clocks that are a minute apart. -/
def twoCandidates : Candidates Bool where
  elector first :=
    if first then ⟨"a", 15 * second, 0, by decide⟩ else ⟨"b", 15 * second, 60 * second, by decide⟩
  distinct := by decide

/-- The calls of the first instance take no time, those of the second twenty seconds. -/
def sampleChoice (first : Bool) (_ : Nat) : LockChoice :=
  ⟨if first then 0 else 20000000000, .served, true⟩

/-- The first instance has the lease, and the second one has seen its record and has read it
again after the lease duration. -/
def contended : Pool Bool LockChoice Server LockCall LockReply Unit :=
  (twoCandidates.start (fun _ => [3]) sampleChoice ⟨2000 * second, none⟩).runs Server.answer
    [true, true, true, true, false, false, false, false, false]

theorem contended_reachable : twoCandidates.Reachable contended :=
  ⟨fun _ => [3], sampleChoice, ⟨2000 * second, none⟩,
    [true, true, true, true, false, false, false, false, false],
    fun _ present => absurd present (by simp), rfl⟩

def createdObject : Endpoints :=
  ⟨some ⟨"a", 15, 2000 * second, 2000 * second, 0⟩, 1, 2000 * second, 0⟩

def takenObject : Endpoints :=
  ⟨some ⟨"b", 15, 2140 * second, 2140 * second, 1⟩, 2, 2120 * second, 1⟩

theorem takeover_waits_contended :
    (contended.step Server.answer false).state.object = some takenObject ∧
      createdObject.changed + 15 * second ≤
        (contended.step Server.answer false).state.time := by
  have taken : (contended.step Server.answer false).state.object = some takenObject := by decide
  have waits := takeover_waits contended_reachable false
    (show contended.state.object = some createdObject by decide)
    (show createdObject.transitions < 2 ^ 63 by decide) taken (by decide)
  exact ⟨taken, waits.2.1 (by decide)⟩

/-- A step keeps the holder, with its acquisition, or counts the change. -/
theorem Written.counted {le : LeaderElector} {time : Int} {old : Endpoints}
    {object : Option Endpoints} (written : Written le time (some old) object) :
    ∃ new, object = some new ∧
      (new.record.holderIdentity = old.record.holderIdentity ∧
          new.record.acquireTime = old.record.acquireTime ∧
          new.record.leaderTransitions = old.record.leaderTransitions ∨
        new.record.holderIdentity ≠ old.record.holderIdentity ∧
          new.record.leaderTransitions = old.record.leaderTransitions + 1) := by
  cases written with
  | same => exact ⟨old, rfl, Or.inl ⟨rfl, rfl, rfl⟩⟩
  | replaced authored succeeds changes =>
      refine ⟨_, rfl, ?_⟩
      cases succeeds with
      | renewal own transitions acquired later =>
          exact Or.inl ⟨authored.holder.trans own.symm, acquired, transitions⟩
      | takeover other transitions expired =>
          refine Or.inr ⟨fun same => other ?_, transitions⟩
          exact same.symm.trans authored.holder

/-- The steps of a run in which the record changes hands. -/
def handovers (pool : Pool ι LockChoice Server LockCall LockReply Unit) : List ι → Nat
  | [] => 0
  | index :: rest =>
      let next := pool.step Server.answer index
      let holder := fun state : Server => state.object.map (·.record.holderIdentity)
      (if holder next.state = holder pool.state then 0 else 1) + handovers next rest

/-- A sum that fits is counted exactly. -/
theorem toInt_add_ofNat {count : Int64} {more : Nat} (fits : count.toInt + more < 2 ^ 63) :
    (count + Int64.ofNat more).toInt = count.toInt + more := by
  have least := count.le_toInt
  rw [← Int64.ofInt_toInt count, ← Int64.ofInt_eq_ofNat, ← Int64.ofInt_add,
    Int64.toInt_ofInt_of_le (by omega) fits, Int64.ofInt_toInt]

/-- The transitions of the record count the handovers modulo the size of a 64-bit integer. -/
theorem transitions_modulo (reachable : candidates.Reachable pool) {old : Endpoints}
    (before : pool.state.object = some old) (schedule : List ι) :
    ∃ new, (pool.runs Server.answer schedule).state.object = some new ∧
      new.record.leaderTransitions =
        old.record.leaderTransitions + Int64.ofNat (handovers pool schedule) ∧
      (handovers pool schedule = 0 →
        new.record.holderIdentity = old.record.holderIdentity ∧
          new.record.acquireTime = old.record.acquireTime) := by
  induction schedule generalizing pool old with
  | nil => exact ⟨old, before, by simp [handovers], fun _ => ⟨rfl, rfl⟩⟩
  | cons index rest ih =>
      obtain ⟨-, -, written⟩ := reachable.effect index
      rw [before] at written
      obtain ⟨next, there, step⟩ := written.counted
      obtain ⟨new, found, counted, kept⟩ := ih (reachable.step index) there
      rw [Pool.runs_cons, handovers]
      refine ⟨new, found, ?_⟩
      simp only [there, before, Option.map_some, Option.some.injEq]
      rcases step with ⟨holder, acquired, transitions⟩ | ⟨changed, transitions⟩
      · rw [if_pos holder, Nat.zero_add, ← holder, ← acquired, ← transitions]
        exact ⟨counted, kept⟩
      · rw [if_neg changed]
        refine ⟨?_, fun none => ?_⟩
        · rw [counted, transitions, Int64.ofNat_add, Int64.add_assoc]
          rfl
        · omega

/-- The transitions of the record count how often it has changed hands as long as the count
fits in 64 bits, and a holder that keeps it keeps the time at which it was acquired. -/
theorem transitions_count (reachable : candidates.Reachable pool) {old : Endpoints}
    (before : pool.state.object = some old) (schedule : List ι)
    (fits : old.record.leaderTransitions.toInt + handovers pool schedule < 2 ^ 63) :
    ∃ new, (pool.runs Server.answer schedule).state.object = some new ∧
      new.record.leaderTransitions.toInt =
        old.record.leaderTransitions.toInt + handovers pool schedule ∧
      (handovers pool schedule = 0 →
        new.record.holderIdentity = old.record.holderIdentity ∧
          new.record.acquireTime = old.record.acquireTime) := by
  obtain ⟨new, found, counted, kept⟩ := transitions_modulo reachable before schedule
  exact ⟨new, found, by rw [counted, toInt_add_ofNat fits], kept⟩

theorem transitions_count_contended :
    handovers contended [false] = 1 ∧ ∃ new, (contended.runs Server.answer [false]).state.object =
      some new ∧ new.record.leaderTransitions.toInt = 1 := by
  have once : handovers contended [false] = 1 := by decide
  obtain ⟨new, found, counted, -⟩ := transitions_count contended_reachable
    (show contended.state.object = some createdObject by decide) [false]
    (by rw [once]; decide)
  rw [once] at counted
  exact ⟨once, new, found, counted⟩

end Schedules

end KubeAliyun.Lease
