import KubeAliyun.Queue.Deadlines
import KubeAliyun.Services.Syncing
import Mathlib.Data.List.AList

/-!
# The service controller at work

The informer, the work queue, the workers, the retries and the node loop of the service
controller as one transition system over the account.  A move is what one goroutine does
next: workers and the loop make one call at a time, so that synchronisations of different
services interleave with each other and with the rounds of the loop, and the process may be
restarted at any point.  What the node lister returns is different each time it is asked.
-/

namespace KubeAliyun.Services

open KubeAliyun.Cloud KubeAliyun.Provider KubeAliyun.Remote KubeAliyun.Kube
  KubeAliyun.Controller KubeAliyun.Balancer KubeAliyun.Queue

/-- What the informer tells the event handler about a key. -/
inductive Notification where
  | added (key : String)
  | updated (key : String) (oldService newService : V1Service)
  | deleted (key : String)

namespace Notification

def key : Notification → String
  | .added key => key
  | .updated key _ _ => key
  | .deleted key => key

/-- Whether the handler that `New` registers puts the key into the queue. -/
def enqueues : Notification → Bool
  | .added _ => true
  | .updated _ oldService newService => needsUpdate oldService newService
  | .deleted _ => true

end Notification

structure Job where
  task : SyncTask
  process : Process ControlChoice ControlCall ControlReply (Option GoError)

/-- What a synchronisation begins with: the nodes, and how often the loop has written to its
load balancer before. -/
structure Beginning where
  listed : Except GoError (List Node)
  rewritten : Nat

/-- The controller with the store of its informer, and the account.  `retries` are the
goroutines that have yet to call `AddAfter`, and `round` is the node loop while it is at work.
`rewritten` counts the writes of the loop to the load balancer of each name and `begun` is the
last synchronisation of each key; nothing that happens depends on these two. -/
structure System where
  store : AList fun _ : String => V1Service
  pending : List Notification
  queue : Delaying String
  retries : List (String × Int)
  cache : String → Option CachedService
  jobs : String → Option Job
  hosts : HostState
  round : Option (Process ControlChoice ControlCall ControlReply HostState)
  account : Account
  rewritten : String → Nat
  begun : String → Beginning

/-- The controller when its process starts: the informer lists every service. -/
def System.start (store : AList fun _ : String => V1Service) (account : Account) : System where
  store := store
  pending := store.keys.map .added
  queue := .new
  retries := []
  cache := fun _ => none
  jobs := fun _ => none
  hosts := ⟨[], []⟩
  round := none
  account := account
  rewritten := fun _ => 0
  begun := fun _ => ⟨.ok [], 0⟩

inductive Move where
  | change (key : String) (service : Option V1Service)
  | resync (key : String)
  | notify
  | take (listed : Except GoError (List Node)) (order : MapOrder)
      (choices : Nat → ControlChoice)
  | call (key : String)
  | finish (key : String)
  | beginRound (listed : Except GoError (List Node)) (keys : List String)
      (order : Nat → MapOrder) (choices : Nat → ControlChoice)
  | callRound
  | endRound
  | retry (key : String) (delay now : Int)
  | promote (now : Int)
  | receive (now : Int)
  | restart

namespace System

def change (system : System) (key : String) (service : Option V1Service) : System :=
  match system.store.lookup key, service with
  | none, none => system
  | none, some next =>
      { system with
        store := system.store.insert key next
        pending := system.pending ++ [.added key] }
  | some last, some next =>
      { system with
        store := system.store.insert key next
        pending := system.pending ++ [.updated key last next] }
  | some _, none =>
      { system with
        store := system.store.erase key
        pending := system.pending ++ [.deleted key] }

/-- The informer hands out a service again, as it does from time to time. -/
def resync (system : System) (key : String) : System :=
  match system.store.lookup key with
  | none => system
  | some service =>
      { system with pending := system.pending ++ [.updated key service service] }

def notify (system : System) : System :=
  match system.pending with
  | [] => system
  | notification :: rest =>
      { system with
        pending := rest
        queue :=
          if notification.enqueues then system.queue.step (.add notification.key)
          else system.queue }

def take (controller : ServiceController) (system : System)
    (listed : Except GoError (List Node)) (order : MapOrder)
    (choices : Nat → ControlChoice) : System :=
  match system.queue.inner.get with
  | none => system
  | some (key, inner) =>
      let task := SyncTask.pick key (system.store.lookup key) (system.cache key)
      { system with
        queue := { system.queue with inner }
        cache := Function.update system.cache key (task.begin (system.cache key))
        jobs := Function.update system.jobs key
          (some ⟨task, task.program controller listed order key, choices⟩)
        begun := Function.update system.begun key ⟨listed,
          (subject task).elim 0 fun service => system.rewritten service.balancerName⟩ }

def call (system : System) (key : String) : System :=
  match system.jobs key with
  | none => system
  | some job =>
      let moved := job.process.advance controlAnswer system.account
      { system with
        jobs := Function.update system.jobs key (some { job with process := moved.1 })
        account := moved.2 }

def restart (system : System) : System :=
  { start system.store system.account with rewritten := system.rewritten }

/-- The worker of a key comes to the end of its program: it leaves the queue, and a retry
is on its way.  A panic takes the process down. -/
def finish (system : System) (key : String) : System :=
  match system.jobs key with
  | none => system
  | some job =>
      match job.process.program with
      | .done failure =>
          let ended := job.task.finish (system.cache key) failure
          { system with
            queue := system.queue.step (.done key)
            retries :=
              if ended.2 = 0 then system.retries else system.retries ++ [(key, ended.2)]
            cache := Function.update system.cache key ended.1
            jobs := Function.update system.jobs key none }
      | .crash => system.restart
      | .ask _ _ => system

/-- The loop begins a round; `keys` is the order in which the cache hands out its services. -/
def beginRound (controller : ServiceController) (system : System)
    (listed : Except GoError (List Node)) (keys : List String) (order : Nat → MapOrder)
    (choices : Nat → ControlChoice) : System :=
  match system.round with
  | some _ => system
  | none =>
      let cached := keys.map fun key => (system.cache key).map CachedService.state
      { system with
        round := some ⟨nodeSyncLoop controller order listed cached system.hosts, choices⟩ }

/-- The next call of the loop writes to the load balancer of a name. -/
def rewriting (account : Account) (name : String) : Controlled HostState → Bool
  | .ask (.inl request) _ => rewrites account name request
  | _ => false

def callRound (system : System) : System :=
  match system.round with
  | none => system
  | some process =>
      let moved := process.advance controlAnswer system.account
      { system with
        round := some moved.1
        account := moved.2
        rewritten := fun name =>
          if rewriting system.account name process.program then system.rewritten name + 1
          else system.rewritten name }

/-- The loop comes to the end of a round.  A panic takes the process down. -/
def endRound (system : System) : System :=
  match system.round with
  | none => system
  | some process =>
      match process.program with
      | .done hosts => { system with hosts, round := none }
      | .crash => system.restart
      | .ask _ _ => system

/-- A retry calls `AddAfter`, unless it is blocked. -/
def retry (system : System) (key : String) (delay now : Int) : System :=
  if system.retries.contains (key, delay) then
    match system.queue.addAfter key delay now with
    | none => system
    | some queue => { system with queue, retries := system.retries.erase (key, delay) }
  else system

def move (controller : ServiceController) (system : System) : Move → System
  | .change key service => system.change key service
  | .resync key => system.resync key
  | .notify => system.notify
  | .take listed order choices => system.take controller listed order choices
  | .call key => system.call key
  | .finish key => system.finish key
  | .beginRound listed keys order choices =>
      system.beginRound controller listed keys order choices
  | .callRound => system.callRound
  | .endRound => system.endRound
  | .retry key delay now => system.retry key delay now
  | .promote now => { system with queue := system.queue.promote now }
  | .receive now => { system with queue := system.queue.receive now }
  | .restart => system.restart

def run (controller : ServiceController) (system : System) (moves : List Move) : System :=
  moves.foldl (move controller) system

/-- The key is on its way to a worker. -/
def Waiting (system : System) (key : String) : Prop :=
  (∃ notification ∈ system.pending,
      notification.key = key ∧ notification.enqueues = true) ∨
    (∃ delay, (key, delay) ∈ system.retries) ∨ ∃ time, system.queue.Due key time

def Idle (system : System) (key : String) : Prop :=
  ¬ system.Waiting key ∧ system.jobs key = none

end System

/-- Services under different keys have load balancers of different names: `owner` says
which key a name belongs to. -/
def Move.Owned (owner : String → String) (move : Move) : Prop :=
  ∀ key service, move = .change key (some service) → owner service.balancerName = key

end KubeAliyun.Services
