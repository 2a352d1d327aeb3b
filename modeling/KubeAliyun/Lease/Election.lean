import KubeAliyun.Cloud.Wire
import KubeAliyun.Remote.Pool

/-!
# Leader election

The instances of the controller elect a leader through a record that they keep in an
annotation of one Endpoints object.  Every instance watches the record by its own
clock and replaces it under a resource version, so that of several writers that have
read the same object one succeeds.
-/

namespace KubeAliyun.Lease

open KubeAliyun.Cloud KubeAliyun.Remote

/-! ## Records -/

/-- One second; times and durations are counted in nanoseconds, times from Go's zero time. -/
def second : Int := 1000000000

/-- A time as RFC 3339 text shows it, without the fraction of the second. -/
def wholeSecond (time : Int) : Int := time / second * second

structure LeaderElectionRecord where
  holderIdentity : String
  leaseDurationSeconds : Int
  acquireTime : Int
  renewTime : Int
  leaderTransitions : Int64
deriving DecidableEq, Repr

namespace LeaderElectionRecord

/-- The record that `Get` returns for an object without the annotation. -/
def zero : LeaderElectionRecord := ⟨"", 0, 0, 0, 0⟩

/-- The record that is read back after it has been written as JSON. -/
def stored (record : LeaderElectionRecord) : LeaderElectionRecord :=
  { record with
    acquireTime := wholeSecond record.acquireTime
    renewTime := wholeSecond record.renewTime }

end LeaderElectionRecord

/-! ## The API server -/

/-- The Endpoints object.  `changed` and `transitions` are notes of the model: the time when
the annotation received its present value, and its `LeaderTransitions` as they would be
counted without the bound of a 64-bit integer. -/
structure Endpoints where
  annotation : Option LeaderElectionRecord
  resourceVersion : Nat
  changed : Int
  transitions : Int
deriving DecidableEq, Repr

def Endpoints.record (endpoints : Endpoints) : LeaderElectionRecord :=
  endpoints.annotation.getD .zero

def Endpoints.next (endpoints : Endpoints) (record : LeaderElectionRecord) (time : Int) :
    Endpoints where
  annotation := some record
  resourceVersion := endpoints.resourceVersion + 1
  changed := time
  transitions :=
    if record.holderIdentity = endpoints.record.holderIdentity then endpoints.transitions
    else endpoints.transitions + 1

structure Server where
  time : Int
  object : Option Endpoints
deriving DecidableEq, Repr

inductive LockError where
  | notFound
  | failed
deriving DecidableEq, Repr

/-- What an instance asks its surroundings: the time, whether the channel of a poll is still
open, and the calls of the lock. -/
inductive LockCall where
  | now
  | tick
  | get
  | create (record : LeaderElectionRecord)
  | update (resourceVersion : Nat) (record : LeaderElectionRecord)
deriving DecidableEq, Repr

abbrev LockReply : LockCall → Type
  | .now => Int
  | .tick => Bool
  | .get => Except LockError Endpoints
  | .create _ => Except LockError Unit
  | .update _ _ => Except LockError Unit

/-- One call: the time that passes before it is handled, its fate, and what a tick shows. -/
structure LockChoice where
  elapsed : Nat
  fate : Fate
  stillOpen : Bool

namespace Server

def wait (server : Server) (elapsed : Nat) : Server :=
  { server with time := server.time + elapsed }

/-- Write the annotation; a value that is already there leaves the object alone. -/
def put (server : Server) (endpoints : Endpoints) (record : LeaderElectionRecord) : Server :=
  if endpoints.annotation = some record then server
  else { server with object := some (endpoints.next record server.time) }

/-- An error hides whether the call has been handled, except for a refused one. -/
def reported {α : Type} (fate : Fate) (result : Except LockError α) : Except LockError α :=
  match fate with
  | .served => result
  | .refused => .error .failed
  | .unanswered => .error .failed

def get (server : Server) : Except LockError Endpoints :=
  match server.object with
  | none => .error .notFound
  | some endpoints => .ok endpoints

def create (server : Server) (record : LeaderElectionRecord) : Except LockError Unit × Server :=
  match server.object with
  | some _ => (.error .failed, server)
  | none =>
      (.ok (), { server with
        object := some ⟨some record, 1, server.time, record.leaderTransitions.toInt⟩ })

def update (server : Server) (resourceVersion : Nat) (record : LeaderElectionRecord) :
    Except LockError Unit × Server :=
  match server.object with
  | none => (.error .notFound, server)
  | some endpoints =>
      if endpoints.resourceVersion = resourceVersion then (.ok (), server.put endpoints record)
      else (.error .failed, server)

/-- A call that is refused does not reach the object. -/
def handled (fate : Fate) (server : Server) (done : Except LockError Unit × Server) :
    Except LockError Unit × Server :=
  match fate with
  | .refused => (.error .failed, server)
  | fate => (reported fate done.1, done.2)

def answer : Service LockChoice Server LockCall LockReply
  | choice, before, .now => ((before.wait choice.elapsed).time, before.wait choice.elapsed)
  | choice, before, .tick => (choice.stillOpen, before.wait choice.elapsed)
  | choice, before, .get =>
      let server := before.wait choice.elapsed
      (reported choice.fate server.get, server)
  | choice, before, .create record =>
      let server := before.wait choice.elapsed
      handled choice.fate server (server.create record)
  | choice, before, .update resourceVersion record =>
      let server := before.wait choice.elapsed
      handled choice.fate server (server.update resourceVersion record)

end Server

/-! ## Electors -/

/-- The configuration of an instance.  Its clock differs from the others' by a constant. -/
structure LeaderElector where
  identity : String
  leaseDuration : Int
  clockOffset : Int
  named : identity ≠ ""

structure Observed where
  observedRecord : LeaderElectionRecord
  observedTime : Int

def Observed.nothing : Observed := ⟨.zero, 0⟩

abbrev LockProg := Prog LockCall LockReply

namespace LeaderElector

variable (le : LeaderElector)

def now : LockProg Int := do
  let time ← (Prog.call LockCall.now : LockProg Int)
  return time + le.clockOffset

def lockGet : LockProg (Except LockError Endpoints) := Prog.call LockCall.get

def lockCreate (record : LeaderElectionRecord) : LockProg (Except LockError Unit) :=
  Prog.call (LockCall.create record.stored)

def lockUpdate (endpoints : Endpoints) (record : LeaderElectionRecord) :
    LockProg (Except LockError Unit) :=
  Prog.call (LockCall.update endpoints.resourceVersion record.stored)

def leaderElectionRecord (now : Int) : LeaderElectionRecord where
  holderIdentity := le.identity
  leaseDurationSeconds := le.leaseDuration.tdiv second
  acquireTime := now
  renewTime := now
  leaderTransitions := 0

def successor (old : LeaderElectionRecord) (now : Int) : LeaderElectionRecord :=
  if old.holderIdentity = le.identity then
    { le.leaderElectionRecord now with
      acquireTime := old.acquireTime
      leaderTransitions := old.leaderTransitions }
  else
    { le.leaderElectionRecord now with leaderTransitions := old.leaderTransitions + 1 }

/-- Restart the observation if the record is not the one seen before. -/
def observe (seen : Observed) (old : LeaderElectionRecord) : LockProg Observed :=
  if seen.observedRecord = old then return seen
  else do
    let time ← le.now
    return ⟨old, time⟩

def written (record : LeaderElectionRecord) : LockProg (Bool × Observed) := do
  let time ← le.now
  return (true, ⟨record, time⟩)

def tryAcquireOrRenew (seen : Observed) : LockProg (Bool × Observed) := do
  let now ← le.now
  let obtained ← lockGet
  match obtained with
  | .error .failed => return (false, seen)
  | .error .notFound =>
      let created ← lockCreate (le.leaderElectionRecord now)
      match created with
      | .error _ => return (false, seen)
      | .ok _ => le.written (le.leaderElectionRecord now)
  | .ok endpoints =>
      let old := endpoints.record
      let seen ← le.observe seen old
      if seen.observedTime + le.leaseDuration > now ∧ old.holderIdentity ≠ le.identity then
        return (false, seen)
      else
        let updated ← lockUpdate endpoints (le.successor old now)
        match updated with
        | .error _ => return (false, seen)
        | .ok _ => le.written (le.successor old now)

/-- Where the loops of an instance stand when it is left after a number of attempts. -/
inductive Standing where
  | candidate
  | leading
  | stopped
deriving DecidableEq, Repr

/-- Polls that each end with a successful attempt, until one runs into its deadline.  The
channel of a poll closes at the deadline, and one attempt follows. -/
def renew : Nat → Observed → LockProg Standing
  | 0, _ => return .leading
  | attempts + 1, seen => do
      let stillOpen ← (Prog.call LockCall.tick : LockProg Bool)
      let (succeeded, seen) ← le.tryAcquireOrRenew seen
      if succeeded || stillOpen then renew attempts seen else return .stopped

def acquire : Nat → Observed → LockProg Standing
  | 0, _ => return .candidate
  | attempts + 1, seen => do
      let (succeeded, seen) ← le.tryAcquireOrRenew seen
      if succeeded then le.renew attempts seen else acquire attempts seen

/-- The lives of an instance that is started again whenever it has ended, each for as many
attempts as the list says. -/
def lives : List Nat → LockProg Unit
  | [] => return ()
  | attempts :: rest => do
      let _ ← le.acquire attempts .nothing
      lives rest

end LeaderElector

/-! ## Candidates -/

structure Candidates (ι : Type) where
  elector : ι → LeaderElector
  distinct : ∀ first second, (elector first).identity = (elector second).identity →
    first = second

variable {ι : Type}

def Candidates.start (candidates : Candidates ι) (attempts : ι → List Nat)
    (choices : ι → Nat → LockChoice) (server : Server) :
    Pool ι LockChoice Server LockCall LockReply Unit where
  process index := ⟨(candidates.elector index).lives (attempts index), choices index⟩
  state := server

end KubeAliyun.Lease
