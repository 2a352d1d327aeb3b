import KubeAliyun.Cloud.Storage
import KubeAliyun.Provider.Instances
import KubeAliyun.Resource.Quantity
import KubeAliyun.Util.MapUtils

/-!
# Provisioning

The provisioner of persistent volumes (`Provision` and `Delete` in `volume.go`).
-/

namespace KubeAliyun.Provider

open KubeAliyun.Cloud KubeAliyun.Remote KubeAliyun.Resource KubeAliyun.Util

/-! ## Claims and volumes -/

/-- `v1.PersistentVolumeAccessMode`: a string, with three named values. -/
inductive AccessMode where
  | readWriteOnce
  | readOnlyMany
  | readWriteMany
  | other (text : String)
      (unnamed : text ∉ ["ReadWriteOnce", "ReadOnlyMany", "ReadWriteMany"])
deriving DecidableEq, Repr

/-- The parts of a claim's specification that the provisioner reads; of the selector
only whether there is one. -/
structure PersistentVolumeClaim where
  hasSelector : Bool
  accessModes : List AccessMode
  requests : String → Option Quantity
  storageClassName : Option String

structure ProvisionerOptions where
  reclaimPolicy : String
  pvName : String
  pvc : PersistentVolumeClaim
  parameters : Option (String → Option String)

structure FlexVolumeSource where
  driver : String
  fsType : String := ""
  options : String → Option String

structure PersistentVolume where
  name : String
  reclaimPolicy : String
  accessModes : List AccessMode
  capacity : Quantity
  storageClassName : String
  flexVolume : Option FlexVolumeSource

/-! ## Storage classes -/

def defaultFSType : String := "ext4"

def driverName : String := "aliyun/flexv"

structure StorageOptions where
  fsType : String
  category : String
deriving DecidableEq, Repr

namespace StorageOptions

def fields (options : StorageOptions) : List (Util.Field Empty) :=
  [⟨"FSType", "fsType", .string, true, .string options.fsType⟩,
    ⟨"Category", "diskCategory", .string, true, .string options.category⟩]

def ofFields (fields : List (Util.Field Empty)) : StorageOptions :=
  match fields.map Util.Field.value with
  | [.string fsType, .string category] => ⟨fsType, category⟩
  | _ => ⟨"", ""⟩

/-- The options of a storage class; the error of `MapToStruct` is dropped. -/
def ofParameters (parameters : Option (String → Option String)) : StorageOptions :=
  ofFields (mapToStruct ⟨fun _ _ => none, fun _ text => text, id⟩ parameters
    (fields ⟨defaultFSType, ""⟩) "").1

end StorageOptions

/-- The least size of a disk in GiB, by its category. -/
def minSizeTable : String → Option Int64
  | "cloud" => some 5
  | "ephemeral" => some 5
  | "ephemeral_ssd" => some 20
  | "cloud_efficiency" => some 20
  | "cloud_ssd" => some 20
  | _ => none

def minSize (category : String) : Int64 := (minSizeTable category).getD 5

/-! ## The provisioner -/

structure ProvisioningProvider extends AliyunProvider where
  zone : String
deriving DecidableEq, Repr

/-- The checks of `Provision`: its error, or the options of the storage class. -/
def checkClaim (options : ProvisionerOptions) : Except GoError StorageOptions :=
  if options.pvc.hasSelector then .error (.plain "claim.Spec.Selector is not supported")
  else if !options.pvc.accessModes.any (· == .readWriteOnce) then
    .error (.plain "Aliyun disk only supports ReadWriteOnce mounts")
  else
    let storageOptions := StorageOptions.ofParameters options.parameters
    if storageOptions.category = "" then
      .error (.plain "diskCategory must be specified in storageClass")
    else .ok storageOptions

/-- The requested storage; a missing entry reads as the zero quantity. -/
def ProvisionerOptions.request (options : ProvisionerOptions) : Quantity :=
  (options.pvc.requests "storage").getD {}

def diskSize (outOfRange : Nat → Int64) (request : Quantity) (category : String) : Int64 :=
  let size := request.scaledValue outOfRange giga
  if size < minSize category then minSize category else size

def volumeOn (options : ProvisionerOptions) (size : Int64) (diskId : String) :
    PersistentVolume where
  name := options.pvName
  reclaimPolicy := options.reclaimPolicy
  accessModes := [.readWriteOnce]
  capacity := Quantity.setScaled size giga
  storageClassName := options.pvc.storageClassName.getD ""
  flexVolume := some
    { driver := driverName
      options := fun key => if key = "diskId" then some diskId else none }

def provision (outOfRange : Nat → Int64) (provider : ProvisioningProvider)
    (options : ProvisionerOptions) : Stored (Except GoError PersistentVolume) :=
  match checkClaim options with
  | .error failure => return .error failure
  | .ok storageOptions => do
      let size := diskSize outOfRange options.request storageOptions.category
      match ← createDisk ⟨provider.region, provider.zone, storageOptions.category,
          options.pvName, size⟩ with
      | .error failure =>
          return .error (.plain ("Failed to call Aliyun CreateDisk: " ++ failure.text))
      | .ok diskId => return .ok (volumeOn options size diskId)

/-- `Delete`; the two texts are what `%+v` makes of the volume and of its source. -/
def delete (shownVolume shownSource : String) (volume : PersistentVolume) :
    Stored (Option GoError) :=
  match volume.flexVolume with
  | none => return some (.plain ("No flexvolume is provided: " ++ shownVolume))
  | some source =>
      let diskId := (source.options "diskId").getD ""
      if diskId = "" then
        return some (.plain ("No diskId in the flexvolume: " ++ shownSource))
      else do
        match ← deleteDisk diskId with
        | some failure => return some (.plain ("Error deleting disk: " ++ failure.text))
        | none => return none

end KubeAliyun.Provider
