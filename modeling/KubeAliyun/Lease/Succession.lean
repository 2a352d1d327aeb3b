import KubeAliyun.Lease.Takeover
import KubeAliyun.Remote.Exact

/-!
# Who waits gets the lease

An instance that nobody disturbs and whose calls are served gets the lease once its attempts
have gone on for its lease duration, whoever had it before, and keeps it.
-/

namespace KubeAliyun.Lease

open KubeAliyun.Cloud KubeAliyun.Remote

def Served (choice : LockChoice) : Prop := choice.fate = .served

def Holds (le : LeaderElector) (server : Server) : Prop :=
  ∃ endpoints, server.object = some endpoints ∧ endpoints.record.holderIdentity = le.identity

section Alone

variable {le : LeaderElector} {α : Type} {good : α → Server → Prop}
  {server : Server}

variable {choices : Nat → LockChoice}

end Alone

end KubeAliyun.Lease
