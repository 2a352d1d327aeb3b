import KubeAliyun.Provider.Instances
import KubeAliyun.Text.Format

/-!
# Volume operations

The flex volume interface of the provider: attaching a disk to an instance,
detaching it, and the queries (`cloudprovider/volume.go`, `volume.go`, and the
ECS client's `WaitForDisk`).
-/

namespace KubeAliyun.Provider

open KubeAliyun.Cloud KubeAliyun.Remote KubeAliyun.Text

/-! ## Results and options -/

/-- The response of a volume operation (`flexvolume.DriverStatus`). -/
structure VolumeError where
  status : String
  message : String := ""
  devicePath : String := ""
  volumeName : String := ""
  attached : Bool := false
deriving DecidableEq, Repr

def statusSuccess : String := "Success"

def statusFailure : String := "Failed"

def statusNotSupported : String := "Not supported"

/-- `NewVolumeError` with operands; `message` is what `Sprintf` makes of them. -/
def newVolumeErrorf (message : String) : VolumeError :=
  { status := statusFailure, message }

/-- `NewVolumeError` without operands: the message is still a format string. -/
def newVolumeError (msg : String) : VolumeError := newVolumeErrorf (sprintf msg)

def newVolumeNotSupported (msg : String) : VolumeError :=
  { status := statusNotSupported, message := msg }

def newVolumeSuccess : VolumeError := { status := statusSuccess }

def volumeSuccess : VolumeError := newVolumeSuccess

/-- A decoded JSON value, as far as the type assertions tell values apart. -/
inductive JsonValue where
  | string (text : String)
  | bool (value : Bool)
  | other
deriving DecidableEq, Repr

abbrev VolumeOptions : Type := String → Option JsonValue

/-- `options[key].(string)`, the zero value when the assertion fails. -/
def VolumeOptions.string (options : VolumeOptions) (key : String) : String :=
  match options key with
  | some (.string text) => text
  | _ => ""

def VolumeOptions.bool (options : VolumeOptions) (key : String) : Bool :=
  match options key with
  | some (.bool value) => value
  | _ => false

def VolumeOptions.diskId (options : VolumeOptions) : String := options.string "diskId"

/-! ## Disks -/

/-- The API names `/dev/xvd?` what the system names `/dev/vd?`. -/
def deviceApi2Local (device : String) : String :=
  replaceFirst device "/dev/xvd" "/dev/vd" 1

def diskNotFound (diskId : String) : GoError :=
  .plain ("DiskId " ++ diskId ++ " is not found")

def getDiskById (provider : AliyunProvider) (diskId : String) :
    Aliyun (Except GoError DiskItem) := do
  match ← describeDisks ⟨provider.region, [diskId], "", ⟨0, 50⟩⟩ with
  | .error failure => return .error (.api failure)
  | .ok (disk :: _, _) => return .ok disk
  | .ok ([], _) => return .error (diskNotFound diskId)

def sameDevice (device other : String) : Bool :=
  deviceApi2Local device == deviceApi2Local other

def deviceNotFound (device : String) : GoError :=
  .plain ("Device " ++ device ++ " is not found in provider inventory")

/-- The loop of `getDiskByDevice` from a page on; nothing when it asks for more pages
than `fuel`. -/
def searchDevice (provider : AliyunProvider) (instanceId device : String) :
    Nat → Pagination → Aliyun (Option (Except GoError DiskItem))
  | 0, _ => return none
  | fuel + 1, page => do
      match ← describeDisks ⟨provider.region, [], instanceId, page⟩ with
      | .error failure => return some (.error (.api failure))
      | .ok (disks, counters) =>
          match disks.find? fun disk => sameDevice disk.device device with
          | some disk => return some (.ok disk)
          | none =>
              match counters.nextPage with
              | none => return some (.error (deviceNotFound device))
              | some next => searchDevice provider instanceId device fuel next

def getDiskByDevice (provider : AliyunProvider) (instanceId device : String) (fuel : Nat) :
    Aliyun (Option (Except GoError DiskItem)) :=
  searchDevice provider instanceId device fuel ⟨0, 50⟩

/-- The loop of `WaitForDisk`, by the polls its timeout leaves. -/
def pollDisk (region diskId : String) (status : DiskStatus) :
    Nat → Aliyun (Option ApiError)
  | 0 => return some (getClientErrorFromString "Timeout")
  | left + 1 => do
      match ← describeDisks ⟨region, [diskId], "", ⟨0, 0⟩⟩ with
      | .error failure => return some failure
      | .ok ([], _) => return some (getClientErrorFromString "Not found")
      | .ok (disk :: _, _) =>
          if disk.status = status then return none
          else pollDisk region diskId status left

def defaultTimeout : Nat := 60

def defaultWaitForInterval : Nat := 5

/-- `WaitForDisk`: every poll costs one interval of the timeout. -/
def waitForDisk (region diskId : String) (status : DiskStatus) (timeout : Nat) :
    Aliyun (Option ApiError) :=
  let seconds := if timeout = 0 then defaultTimeout else timeout
  pollDisk region diskId status
    ((seconds + defaultWaitForInterval - 1) / defaultWaitForInterval)

/-! ## Operations -/

def noInstance : VolumeError :=
  newVolumeError "Failed to attach. No ALIYUN_INSTANCE is set and no node is provided."

def unresolvedNode (node : String) (failure : GoError) : VolumeError :=
  newVolumeErrorf
    ("Can't not get instanceId for node: " ++ node ++ " " ++ failure.text)

def missingDiskId : VolumeError := newVolumeError "diskid is required"

def requireInstance (instanceId : String) : Except VolumeError String :=
  if instanceId = "" then .error noInstance else .ok instanceId

/-- The first lines of `Attach` and `Detach`: the instance of a named node, or
the instance the provider runs on. -/
def resolveInstance (provider : AliyunProvider) (node : String) :
    Aliyun (Except VolumeError String) :=
  if node ≠ "" then do
    match ← getInstanceByNodeName provider node with
    | .error failure => return .error (unresolvedNode node failure)
    | .ok found => return requireInstance found.instanceId
  else return requireInstance provider.defaultInstance

def volumeInit : Aliyun VolumeError := return volumeSuccess

def attachedAt (disk : DiskItem) : VolumeError :=
  { newVolumeSuccess with devicePath := deviceApi2Local disk.device }

/-- `Attach` from its look at the disk to the moment before `AttachDisk`: a
result that is returned early, or nothing when the attachment goes ahead. -/
def releaseDisk (provider : AliyunProvider) (instanceId diskId : String) :
    Aliyun (Option VolumeError) := do
  match ← getDiskById provider diskId with
  | .error failure =>
      return some (newVolumeErrorf ("Unable to get disk. " ++ failure.text))
  | .ok disk =>
      if disk.status = .inUse then
        if disk.instanceId = instanceId then return some (attachedAt disk)
        else
          match ← detachDisk disk.instanceId diskId with
          | some failure =>
              return some (newVolumeErrorf
                ("Unable to attach disk: need to detach first but failed: " ++
                  failure.text))
          | none =>
              let _ ← waitForDisk provider.region diskId .available 0
              return none
      else return none

/-- `Attach` up to an accepted `AttachDisk`: the early result, or the disk. -/
def requestAttachment (provider : AliyunProvider) (options : VolumeOptions)
    (node : String) : Aliyun (Except VolumeError String) := do
  match ← resolveInstance provider node with
  | .error failure => return .error failure
  | .ok instanceId =>
      if options.diskId = "" then return .error missingDiskId
      else
        match ← releaseDisk provider instanceId options.diskId with
        | some result => return .error result
        | none =>
            match ← attachDisk ⟨instanceId, options.diskId,
                options.bool "deleteWithInstance"⟩ with
            | some failure => return .error (newVolumeError failure.text)
            | none => return .ok options.diskId

/-- `Attach` after `AttachDisk`: the wait, whose result is dropped, and a last
look at the disk. -/
def confirmAttachment (provider : AliyunProvider) (diskId : String) :
    Aliyun VolumeError := do
  let _ ← waitForDisk provider.region diskId .inUse 0
  match ← getDiskById provider diskId with
  | .error failure => return newVolumeError failure.text
  | .ok disk => return attachedAt disk

def attach (provider : AliyunProvider) (options : VolumeOptions) (node : String) :
    Aliyun VolumeError := do
  match ← requestAttachment provider options node with
  | .error result => return result
  | .ok diskId => confirmAttachment provider diskId

/-- `Detach`; the device name is the volume name of `GetVolumeName`. -/
def detach (provider : AliyunProvider) (deviceName node : String) :
    Aliyun VolumeError := do
  match ← resolveInstance provider node with
  | .error failure => return failure
  | .ok instanceId =>
      match ← getDiskById provider (base deviceName) with
      | .error failure => return newVolumeError failure.text
      | .ok disk =>
          if disk.status = .detaching ∨ disk.status = .available then
            return volumeSuccess
          else if disk.instanceId ≠ instanceId then return volumeSuccess
          else
            match ← detachDisk instanceId disk.diskId with
            | some failure => return newVolumeError failure.text
            | none => return volumeSuccess

/-- `WaitForAttach`; the device argument is not used. -/
def waitForAttach (provider : AliyunProvider) (options : VolumeOptions) :
    Aliyun VolumeError := do
  if provider.authorized then
    match ← getDiskById provider options.diskId with
    | .error failure => return newVolumeError failure.text
    | .ok disk =>
        match ← waitForDisk provider.region disk.diskId .inUse 0 with
        | some failure => return newVolumeError failure.text
        | none => return volumeSuccess
  else return newVolumeNotSupported ""

/-- `GetVolumeName`; `shown` is what `%+v` makes of the options. -/
def getVolumeName (shown : String) (options : VolumeOptions) : Aliyun VolumeError :=
  if options.diskId = "" then
    return newVolumeErrorf ("diskId is required, options: " ++ shown)
  else return { newVolumeSuccess with volumeName := options.diskId }

def isAttached (provider : AliyunProvider) (options : VolumeOptions)
    (node : String) : Aliyun VolumeError := do
  if provider.authorized then
    let node := if node = "localhost" then provider.hostname else node
    match ← getInstanceByNodeName provider node with
    | .error failure => return unresolvedNode node failure
    | .ok found =>
        if options.diskId = "" then return missingDiskId
        else
          match ← getDiskById provider options.diskId with
          | .error failure => return newVolumeError failure.text
          | .ok disk =>
              return { newVolumeSuccess with
                attached := disk.instanceId = found.instanceId ∧ disk.status = .inUse }
  else
    return newVolumeNotSupported
      "Unable to check if a spec is attached without access key"

end KubeAliyun.Provider
