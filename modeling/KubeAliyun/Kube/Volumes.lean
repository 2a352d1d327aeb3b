import KubeAliyun.Kube.Nodes
import KubeAliyun.Provider.Provision
import KubeAliyun.Remote.Beside
import Mathlib.Data.List.AList

/-!
# Volumes and claims of the cluster

The objects that the provision controller reads and writes, and the API server as the
controller meets it beside the storage of the account.
-/

namespace KubeAliyun.Kube

open KubeAliyun.Cloud KubeAliyun.Provider KubeAliyun.Remote

/-! ## Objects -/

inductive VolumePhase where
  | pending
  | available
  | bound
  | released
  | failed
deriving DecidableEq, Repr

structure V1Claim where
  nameSpace : String
  name : String
  uid : String
  annotations : String → Option String
  volumeName : String
  spec : PersistentVolumeClaim

/-- The parts of `v1.ObjectReference` that identify a claim. -/
structure ClaimReference where
  nameSpace : String
  name : String
  uid : String
deriving DecidableEq, Repr

structure V1Volume extends PersistentVolume where
  uid : String
  annotations : String → Option String
  claimRef : Option ClaimReference
  phase : VolumePhase

def V1Volume.disk? (volume : V1Volume) : Option String :=
  volume.flexVolume.bind fun source => source.options "diskId"

structure StorageClass where
  name : String
  provisioner : String
  parameters : Option (String → Option String)

inductive EventType where
  | normal
  | warning
deriving DecidableEq, Repr

structure RecordedEvent where
  subject : String
  type : EventType
  reason : String
  message : String
deriving DecidableEq, Repr

/-! ## The API server -/

inductive VolumeCall where
  | lookupClass (name : String)
  | getVolume (name : String)
  | createVolume (volume : V1Volume)
  | deleteVolume (name : String)
  | recordEvent (event : RecordedEvent)

def VolumeReply : VolumeCall → Type
  | .lookupClass _ => Option StorageClass
  | .getVolume _ => Except StatusError V1Volume
  | .createVolume _ => Option StatusError
  | .deleteVolume _ => Option StatusError
  | .recordEvent _ => Unit

/-- The choices of the storage with those of the API server: whether the storage reports the
deletion of a disk that does not exist as done, the fate of a call to the API server, the error
it would report, the uid of a new object, and the class that the cache of the controller
shows. -/
structure ProvisionChoice extends StorageChoice where
  ignoresMissing : Bool
  kubeFate : Fate
  kubeError : StatusError
  newUid : String
  storageClass : Option StorageClass

structure VolumeStore where
  volumes : AList fun _ : String => V1Volume
  events : List RecordedEvent

/-- A new object gets its uid, and its status is reset. -/
def V1Volume.admitted (volume : V1Volume) (uid : String) : V1Volume :=
  { volume with uid, phase := .pending }

namespace VolumeStore

def create (store : VolumeStore) (uid : String) (volume : V1Volume) : Option VolumeStore :=
  match store.volumes.lookup volume.name with
  | some _ => none
  | none => some { store with
      volumes := store.volumes.insert volume.name (volume.admitted uid) }

def delete (store : VolumeStore) (name : String) : Option VolumeStore :=
  match store.volumes.lookup name with
  | none => none
  | some _ => some { store with volumes := store.volumes.erase name }

def commit (choice : ProvisionChoice) (store : VolumeStore) (attempt : Option VolumeStore) :
    Option StatusError × VolumeStore :=
  match choice.kubeFate, attempt with
  | .served, some next => (none, next)
  | .unanswered, some next => (some choice.kubeError, next)
  | _, _ => (some choice.kubeError, store)

def get (choice : ProvisionChoice) (store : VolumeStore) (name : String) :
    Except StatusError V1Volume :=
  match choice.kubeFate, store.volumes.lookup name with
  | .served, some volume => .ok volume
  | _, _ => .error choice.kubeError

def answer : Service ProvisionChoice VolumeStore VolumeCall VolumeReply
  | choice, store, .lookupClass _ => (choice.storageClass, store)
  | choice, store, .getVolume name => (store.get choice name, store)
  | choice, store, .createVolume volume =>
      store.commit choice (store.create choice.newUid volume)
  | choice, store, .deleteVolume name => store.commit choice (store.delete name)
  | _, store, .recordEvent event => ((), { store with events := store.events ++ [event] })

end VolumeStore

abbrev ProvisionCall : Type := StorageCall ⊕ VolumeCall

abbrev ProvisionReply : ProvisionCall → Type := ReplyOf StorageReply VolumeReply

abbrev Inventory : Type := Ecs × VolumeStore

/-- The storage, which may or may not mind a missing disk. -/
def diskAnswer : Service ProvisionChoice Ecs StorageCall StorageReply
  | choice, ecs, .createDisk args => Ecs.storage choice.toStorageChoice ecs (.createDisk args)
  | choice, ecs, .deleteDisk diskId =>
      if choice.ignoresMissing && (ecs.disk? diskId).isNone then
        (none, ecs.settle choice.settles)
      else Ecs.storage choice.toStorageChoice ecs (.deleteDisk diskId)

def Inventory.answer : Service ProvisionChoice Inventory ProvisionCall ProvisionReply :=
  Service.beside diskAnswer VolumeStore.answer

abbrev Provisioned (α : Type) : Type := Prog ProvisionCall ProvisionReply α

def lookupClass (name : String) : Provisioned (Option StorageClass) :=
  Prog.call (Sum.inr (.lookupClass name) : ProvisionCall)

def getVolume (name : String) : Provisioned (Except StatusError V1Volume) :=
  Prog.call (Sum.inr (.getVolume name) : ProvisionCall)

def createVolume (volume : V1Volume) : Provisioned (Option StatusError) :=
  Prog.call (Sum.inr (.createVolume volume) : ProvisionCall)

def deleteVolume (name : String) : Provisioned (Option StatusError) :=
  Prog.call (Sum.inr (.deleteVolume name) : ProvisionCall)

def recordEvent (event : RecordedEvent) : Provisioned Unit :=
  Prog.call (Sum.inr (.recordEvent event) : ProvisionCall)

end KubeAliyun.Kube
