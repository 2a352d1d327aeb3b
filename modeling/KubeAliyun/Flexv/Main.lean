import KubeAliyun.Provider.Volume
import KubeAliyun.Text.Json

/-!
# The flex volume driver

`cmd/aliyun-flexv/main.go`: the command line is dispatched to a volume
operation and its result is printed as JSON.
-/

namespace KubeAliyun.Flexv

open KubeAliyun.Cloud KubeAliyun.Provider KubeAliyun.Remote KubeAliyun.Text

/-! ## Printing -/

/-- The fields of a result as `json.Marshal` writes them: the status always, the
others unless they have their zero value. -/
def members (result : VolumeError) : List (String × Json.Scalar) :=
  let optional (key value : String) : List (String × Json.Scalar) :=
    if value = "" then [] else [(key, .text value)]
  ("status", .text result.status) ::
    (optional "message" result.message ++ optional "device" result.devicePath ++
      optional "volumeName" result.volumeName ++
      if result.attached then [("attached", .flag true)] else [])

def toJson (result : VolumeError) : String := Json.encodeObject (members result)

structure Exit where
  stdout : String
  code : Nat
deriving DecidableEq, Repr

def fatal (message : String) : Exit :=
  ⟨sprintf (toJson { status := "Failure", message }), 1⟩

inductive Returned where
  | nil
  | volume (result : VolumeError)
  | other (failure : GoError)
deriving DecidableEq, Repr

def printVolume (result : VolumeError) : Exit :=
  ⟨sprintf (toJson result), if result.status = "Success" then 0 else 1⟩

def printResult : Returned → Exit
  | .nil => printVolume volumeSuccess
  | .volume result => printVolume result
  | .other failure => fatal ("Unknown error: " ++ failure.text)

/-! ## Commands -/

inductive Command where
  | init
  | attach
  | isAttached
  | detach
  | mountDevice
  | unmountDevice
  | waitForAttach
  | getVolumeName
deriving DecidableEq, Repr

namespace Command

def name : Command → String
  | .init => "init"
  | .attach => "attach"
  | .isAttached => "isattached"
  | .detach => "detach"
  | .mountDevice => "mountdevice"
  | .unmountDevice => "unmountdevice"
  | .waitForAttach => "waitforattach"
  | .getVolumeName => "getvolumename"

def all : List Command :=
  [.init, .attach, .isAttached, .detach, .mountDevice, .unmountDevice,
    .waitForAttach, .getVolumeName]

/-- The `case` an operation name selects. -/
def ofName (op : String) : Option Command := all.find? fun command => command.name = op

theorem name_of_ofName {op : String} {command : Command}
    (found : ofName op = some command) : command.name = op := by
  simpa using List.find?_some found

end Command

/-- What the process takes from the Go runtime and its host: its own name, the
JSON decoder, the `%+v` text of decoded options, and the mount operations. -/
structure Host where
  program : String
  decodeOptions : String → Option VolumeOptions
  showOptions : VolumeOptions → String
  mountDevice : String → String → VolumeOptions → VolumeError
  unmountDevice : String → VolumeError

inductive Ending where
  | fatal (message : String)
  | result (value : Returned)
deriving DecidableEq, Repr

def Ending.exit : Ending → Exit
  | .fatal message => Flexv.fatal message
  | .result value => printResult value

def fatalf (msg : String) : Aliyun Ending := return .fatal (sprintf msg)

def reporting (operation : Aliyun VolumeError) : Aliyun Ending := do
  let result ← operation
  return .result (.volume result)

/-- `ensureVolumeOptions`, then the operation on the decoded options. -/
def withOptions (host : Host) (json : String)
    (operation : VolumeOptions → Aliyun VolumeError) : Aliyun Ending :=
  match host.decodeOptions json with
  | none => return .fatal ("Invalid json options: " ++ json)
  | some options => reporting (operation options)

/-- The body of the `switch` for a known command. -/
def perform (host : Host) (provider : AliyunProvider) :
    Command → List String → Aliyun Ending
  | .init, _ => reporting volumeInit
  | .attach, json :: node :: _ =>
      withOptions host json fun options => attach provider options node
  | .attach, _ => fatalf "attach requires options in json format and a node name"
  -- the command asks a question, and the source calls `Attach` here
  | .isAttached, json :: node :: _ =>
      withOptions host json fun options => attach provider options node
  | .isAttached, _ => fatalf "isattached requires options in json format and a node name"
  | .detach, device :: node :: _ => reporting (detach provider device node)
  | .detach, _ => fatalf "detach requires a device path and a node name"
  | .mountDevice, dir :: device :: json :: _ =>
      withOptions host json fun options => return host.mountDevice dir device options
  | .mountDevice, _ =>
      fatalf "mountdevice requires a mount path, a device path and mount options"
  | .unmountDevice, dir :: _ => reporting (return host.unmountDevice dir)
  | .unmountDevice, _ => fatalf "unmountdevice requires a mount path"
  | .waitForAttach, _ :: json :: _ =>
      withOptions host json fun options => waitForAttach provider options
  | .waitForAttach, _ =>
      fatalf "waitforattach requires a device path and options in json format"
  | .getVolumeName, json :: _ =>
      withOptions host json fun options =>
        getVolumeName (host.showOptions options) options
  | .getVolumeName, _ => fatalf "getvolumename requires options in json format"

/-- `main` on the arguments after the flags, up to its last call. -/
def dispatch (host : Host) (provider : AliyunProvider) :
    List String → Aliyun Ending
  | [] =>
      return .fatal ("Usage: " ++ host.program ++
        " init|attach|detach|mountdevice|unmountdevice|waitforattach|" ++
        "getvolumename|isattached")
  | op :: args =>
      match Command.ofName op with
      | some command => perform host provider command args
      | none => return .result (.volume (newVolumeNotSupported op))

def main (host : Host) (provider : AliyunProvider) (args : List String) :
    Aliyun Exit := do
  let ending ← dispatch host provider args
  return ending.exit

end KubeAliyun.Flexv
