import KubeAliyun.Remote.Program

/-!
# Commands on a node

The system calls and commands with which a device is formatted and mounted on the node
that the driver runs on, and a node that knows what each device holds.
-/

namespace KubeAliyun.Host

open KubeAliyun.Remote

/-! ## Commands -/

inductive Fsck where
  | clean
  | executableNotFound
  | exit (status : Nat) (output : String)
  | unknown
deriving DecidableEq, Repr

/-- The error of a command and what it printed. -/
structure CommandError where
  error : String
  output : String
deriving DecidableEq, Repr

structure MountArgs where
  source : String
  target : String
  fstype : String
  options : List String
deriving DecidableEq, Repr

inductive HostCall where
  | stat (path : String)
  | mkdirAll (path : String)
  | fsck (source : String)
  | mount (args : MountArgs)
  | lsblk (source : String)
  | mkfs (fstype source : String) (force : Bool)
deriving DecidableEq, Repr

/-- `stat` tells whether the path does not exist, `lsblk` the file system type. -/
def HostReply : HostCall → Type
  | .stat _ => Bool
  | .mkdirAll _ => Option String
  | .fsck _ => Fsck
  | .mount _ => Option CommandError
  | .lsblk _ => Except String String
  | .mkfs _ _ _ => Option String

abbrev OnHost (α : Type) : Type := Prog HostCall HostReply α

def stat (path : String) : OnHost Bool := Prog.call (HostCall.stat path)

def mkdirAll (path : String) : OnHost (Option String) := Prog.call (HostCall.mkdirAll path)

def fsck (source : String) : OnHost Fsck := Prog.call (HostCall.fsck source)

def mount (args : MountArgs) : OnHost (Option CommandError) := Prog.call (HostCall.mount args)

def lsblk (source : String) : OnHost (Except String String) :=
  Prog.call (HostCall.lsblk source)

def mkfs (fstype source : String) (force : Bool) : OnHost (Option String) :=
  Prog.call (HostCall.mkfs fstype source force)

/-! ## A node -/

structure Mounted where
  source : String
  target : String
  fstype : String
deriving DecidableEq, Repr

/-- The file system on each device, if it has one, and what is mounted. -/
structure Node where
  format : String → Option String
  mounts : List Mounted

/-- What the node does about one call: it may fail it, and `fsck` may report anything. -/
structure NodeChoice where
  failure : Option CommandError
  missing : Bool
  checked : Fsck

namespace Node

/-- A device can be mounted as what it holds; without a type the kernel finds out. -/
def mountable (node : Node) (args : MountArgs) : Option Mounted :=
  match node.format args.source with
  | none => none
  | some held =>
      if args.fstype = "" ∨ args.fstype = held then some ⟨args.source, args.target, held⟩
      else none

def wrongType : CommandError :=
  ⟨"exit status 32", "wrong fs type, bad option, bad superblock"⟩

def formatAs (node : Node) (fstype source : String) : Node :=
  { node with
    format := fun device => if device = source then some fstype else node.format device }

def answer : Service NodeChoice Node HostCall HostReply :=
  fun choice node request =>
    match request with
    | .stat _ => (choice.missing, node)
    | .mkdirAll _ => (choice.failure.map CommandError.error, node)
    | .fsck _ => (choice.checked, node)
    | .mount args =>
        match choice.failure, node.mountable args with
        | some failure, _ => (some failure, node)
        | none, none => (some wrongType, node)
        | none, some mounted => (none, { node with mounts := mounted :: node.mounts })
    | .lsblk source =>
        match choice.failure with
        | some failure => (.error failure.error, node)
        | none => (.ok ((node.format source).getD "" ++ "\n"), node)
    | .mkfs fstype source _ =>
        match choice.failure with
        | some failure => (some failure.error, node)
        | none => (none, node.formatAs fstype source)

section Answers

variable {choice : NodeChoice} (node : Node)

theorem answer_mount_failed {failure : CommandError} (failed : choice.failure = some failure)
    (args : MountArgs) :
    answer choice node (.mount args) = ((some failure : Option CommandError), node) := by
  simp only [answer, failed]
  rfl

theorem answer_mount_wrong (works : choice.failure = none) {args : MountArgs}
    (impossible : node.mountable args = none) :
    answer choice node (.mount args) = ((some wrongType : Option CommandError), node) := by
  simp only [answer, works, impossible]
  rfl

theorem answer_mount (works : choice.failure = none) {args : MountArgs} {entry : Mounted}
    (possible : node.mountable args = some entry) :
    answer choice node (.mount args) =
      ((none : Option CommandError), { node with mounts := entry :: node.mounts }) := by
  simp only [answer, works, possible]
  rfl

theorem answer_lsblk_failed {failure : CommandError} (failed : choice.failure = some failure)
    (source : String) :
    answer choice node (.lsblk source) =
      ((.error failure.error : Except String String), node) := by
  simp only [answer, failed]
  rfl

theorem answer_lsblk (works : choice.failure = none) (source : String) :
    answer choice node (.lsblk source) =
      ((.ok ((node.format source).getD "" ++ "\n") : Except String String), node) := by
  simp only [answer, works]
  rfl

theorem answer_mkfs_failed {failure : CommandError} (failed : choice.failure = some failure)
    (fstype source : String) (force : Bool) :
    answer choice node (.mkfs fstype source force) =
      ((some failure.error : Option String), node) := by
  simp only [answer, failed]
  rfl

theorem answer_mkfs (works : choice.failure = none) (fstype source : String) (force : Bool) :
    answer choice node (.mkfs fstype source force) =
      ((none : Option String), node.formatAs fstype source) := by
  simp only [answer, works]
  rfl

end Answers

end Node

end KubeAliyun.Host
