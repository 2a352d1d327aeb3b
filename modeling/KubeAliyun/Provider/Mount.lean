import KubeAliyun.Host.Commands
import KubeAliyun.Provider.Provision
import KubeAliyun.Provider.Volume

/-!
# Mounting a volume

From the source of a persistent volume to the mounted device: the options that kubelet
hands to the driver (`driver-call.go`), `MountDevice` (`volume.go`) and the mounter
behind it (`mount.go`, `mount_linux.go`).
-/

namespace KubeAliyun.Provider

open KubeAliyun.Host KubeAliyun.Remote KubeAliyun.Text

def optionFSType : String := "kubernetes.io/fsType"

def optionReadWrite : String := "kubernetes.io/readwrite"

/-- `NewOptionsForDriver` without extra options, as for the call of `mountdevice`; the
later entries of the source win. -/
def newOptionsForDriver (source : FlexVolumeSource) (readOnly : Bool) :
    String → Option String := fun key =>
  match source.options key with
  | some value => some value
  | none =>
      if key = optionReadWrite then some (if readOnly then "ro" else "rw")
      else if key = optionFSType then some source.fsType
      else none

def decodedOptions (options : String → Option String) : VolumeOptions := fun key =>
  (options key).map .string

/-! ## The mounter -/

def shownList (texts : List String) : String := "[" ++ " ".intercalate texts ++ "]"

/-- The mount command; the mounter has no path of its own. -/
def doMount (args : MountArgs) : OnHost (Option String) := do
  match ← mount args with
  | none => return none
  | some failure =>
      return some ("mount failed: " ++ failure.error ++ "\nMounting command: mount" ++
        "\nMounting arguments: " ++ args.source ++ " " ++ args.target ++ " " ++ args.fstype ++
        " " ++ shownList args.options ++ "\nOutput: " ++ failure.output ++ "\n")

/-- Whether a bind mount is requested, and the options of the remount that follows it. -/
def isBind (options : List String) : Bool × List String :=
  (options.any (· == "bind"),
    "remount" :: options.filter fun option => option != "bind" && option != "remount")

def mountAs (source target fstype : String) (options : List String) :
    OnHost (Option String) := do
  if (isBind options).1 then
    match ← doMount ⟨source, target, fstype, ["bind"]⟩ with
    | some failure => return some failure
    | none => doMount ⟨source, target, fstype, (isBind options).2⟩
  else doMount ⟨source, target, fstype, options⟩

/-- The type that `lsblk` shows, which is empty for a device without a file system. -/
def getDiskFormat (disk : String) : OnHost (Except String String) := do
  match ← lsblk disk with
  | .error failure => return .error failure
  | .ok output => return .ok (trimSpace (trimSpace output))

/-- `formatAndMount` after the mount of an unformatted device has failed. -/
def formatThenMount (source target fstype : String) (options : List String) :
    OnHost (Option String) := do
  let fstype := if fstype = "" then "ext4" else fstype
  match ← mkfs fstype source (fstype = "ext4" ∨ fstype = "ext3") with
  | some failure => return some failure
  | none => mountAs source target fstype options

section Formatting

-- what `%q` makes of a text
variable (quoted : String → String)

/-- `formatAndMount` after its first mount has failed. -/
def recoverMount (source target fstype : String) (options : List String)
    (mountError : String) : OnHost (Option String) := do
  match ← getDiskFormat source with
  | .error failure => return some failure
  | .ok existingFormat =>
      if existingFormat = "" then formatThenMount source target fstype options
      else if fstype = "" ∨ fstype = existingFormat then return some mountError
      else
        return some ("failed to mount the volume as " ++ quoted fstype ++
          ", it's already formatted with " ++ quoted existingFormat ++ ". Mount error: " ++
          mountError)

/-- `formatAndMount` after the check of the device. -/
def mountOrFormat (source target fstype : String) (options : List String) :
    OnHost (Option String) := do
  match ← mountAs source target fstype options with
  | none => return none
  | some failure => recoverMount quoted source target fstype options failure

/-- `formatAndMount`: only errors that `fsck` could not correct end it early. -/
def formatAndMount (source target fstype : String) (flags : List String) :
    OnHost (Option String) := do
  match ← fsck source with
  | .exit 4 output =>
      return some ("'fsck' found errors on device " ++ source ++
        " but could not correct them: " ++ output ++ ".")
  | _ => mountOrFormat quoted source target fstype (flags ++ ["defaults"])

/-- `FormatAndMount`: a read-only mount never formats. -/
def safeFormatAndMount (source target fstype : String) (options : List String) :
    OnHost (Option String) :=
  if options.any (· == "ro") then mountAs source target fstype options
  else formatAndMount quoted source target fstype options

end Formatting

/-! ## The driver -/

def ensureDirectory (dir : String) : OnHost (Option String) := do
  if ← stat dir then mkdirAll dir else return none

def mountFlags (options : VolumeOptions) : List String :=
  let flagstr := options.string "flags"
  let readwrite := options.string optionReadWrite
  (if flagstr = "" then [] else split flagstr ',') ++
    if readwrite = "" then [] else [readwrite]

def volumeResult : Option String → VolumeError
  | some failure => newVolumeError failure
  | none => volumeSuccess

def mountDevice (quoted : String → String) (dir device : String) (options : VolumeOptions) :
    OnHost VolumeError := do
  match ← ensureDirectory dir with
  | some failure => return volumeResult (some failure)
  | none =>
      volumeResult <$> safeFormatAndMount quoted device dir (options.string optionFSType)
        (mountFlags options)

end KubeAliyun.Provider
