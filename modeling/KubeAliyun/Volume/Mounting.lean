import KubeAliyun.Provider.Mount
import KubeAliyun.Volume.Provisioning

/-!
# The file system of a provisioned volume

A new disk is blank, so its first mount formats it.  The mounter uses the type that it
is given; the question is what reaches it from the storage class.
-/

namespace KubeAliyun.Volume

open KubeAliyun.Cloud KubeAliyun.Host KubeAliyun.Provider KubeAliyun.Remote

/-! ## The mount command -/

/-- Every command works and no check finds errors that it cannot correct. -/
structure Working (choices : Nat → NodeChoice) : Prop where
  works : ∀ index, (choices index).failure = none
  sound : ∀ index output, (choices index).checked ≠ .exit 4 output

theorem Working.later {choices : Nat → NodeChoice} (working : Working choices) :
    Working (later choices) :=
  ⟨fun index => working.works (index + 1), fun index => working.sound (index + 1)⟩

/-- What a mount command may leave behind. -/
inductive MountResult (node : Node) (args : MountArgs) : Option String → Node → Prop
  | mounted {entry : Mounted} (possible : node.mountable args = some entry) :
      MountResult node args none { node with mounts := entry :: node.mounts }
  | failed (text : String) : MountResult node args (some text) node

theorem doMount_run (choices : Nat → NodeChoice) (node : Node) (args : MountArgs) :
    ∃ result log after, (doMount args).run Node.answer choices node =
        ⟨some result, log, after, later choices⟩ ∧
      MountResult node args result after ∧
      ((choices 0).failure = none → node.mountable args ≠ none → result = none) := by
  cases failure : (choices 0).failure with
  | some reason =>
      refine ⟨_, _, _, Prog.run_ask_of_answer (node.answer_mount_failed failure args),
        .failed _, ?_⟩
      intro works
      cases works
  | none =>
      cases possible : node.mountable args with
      | some entry =>
          exact ⟨_, _, _, Prog.run_ask_of_answer (node.answer_mount failure possible),
            .mounted possible, fun _ _ => rfl⟩
      | none =>
          refine ⟨_, _, _, Prog.run_ask_of_answer (node.answer_mount_wrong failure possible),
            .failed _, ?_⟩
          intro _ impossible
          exact absurd rfl impossible

theorem mountAs_plain {options : List String} (unbound : options.any (· == "bind") = false)
    (source target fstype : String) :
    mountAs source target fstype options = doMount ⟨source, target, fstype, options⟩ := by
  rw [mountAs, isBind, unbound]
  rfl

theorem mountable_held {node : Node} {source fstype : String}
    (held : node.format source = some fstype) (target : String) (options : List String) :
    node.mountable ⟨source, target, fstype, options⟩ = some ⟨source, target, fstype⟩ := by
  rw [Node.mountable, held]
  exact if_pos (Or.inr rfl)

theorem mountable_blank {node : Node} {args : MountArgs}
    (blank : node.format args.source = none) : node.mountable args = none := by
  rw [Node.mountable, blank]

/-- A blank device is not mounted. -/
theorem doMount_blank (choices : Nat → NodeChoice) {node : Node} {args : MountArgs}
    (blank : node.format args.source = none) :
    ∃ text log, (doMount args).run Node.answer choices node =
      ⟨some (some text), log, node, later choices⟩ := by
  obtain ⟨result, log, after, run, left, -⟩ := doMount_run choices node args
  cases left with
  | mounted possible =>
      rw [mountable_blank blank] at possible
      cases possible
  | failed text => exact ⟨text, log, run⟩

/-! ## Formatting -/

/-- Success means that the device is formatted and mounted as this type, and with
working commands there is success. -/
structure MountsAs (source target fstype : String) (choices : Nat → NodeChoice)
    (success : Prop) (after : Node) : Prop where
  formatted : success → after.format source = some fstype
  mounted : success → ⟨source, target, fstype⟩ ∈ after.mounts
  succeeds : Working choices → success

section Formatting

variable {node : Node} {source target fstype : String} {choices : Nat → NodeChoice}
  {options : List String}

/-- A reported failure, which working commands exclude. -/
theorem MountsAs.of_failure {success : Prop} {after : Node} (failed : ¬ success)
    (broken : ¬ Working choices) : MountsAs source target fstype choices success after :=
  ⟨fun good => absurd good failed, fun good => absurd good failed,
    fun working => absurd working broken⟩

theorem MountsAs.of_later {success : Prop} {after : Node}
    (mounts : MountsAs source target fstype (later choices) success after) :
    MountsAs source target fstype choices success after :=
  ⟨mounts.formatted, mounts.mounted, fun working => mounts.succeeds working.later⟩

theorem reported_ne {text : String} : ¬ (some (some text) = some none) := by
  intro same
  cases same

theorem not_working {failure : CommandError} (failed : (choices 0).failure = some failure) :
    ¬ Working choices := by
  intro working
  rw [working.works 0] at failed
  cases failed

/-- A device that holds the type. -/
theorem mountAs_held (unbound : options.any (· == "bind") = false)
    (held : node.format source = some fstype) :
    MountsAs source target fstype choices
      (((mountAs source target fstype options).run Node.answer choices node).outcome =
        some none)
      ((mountAs source target fstype options).run Node.answer choices node).state := by
  have possible := mountable_held held target options
  obtain ⟨result, log, after, run, left, works⟩ :=
    doMount_run choices node ⟨source, target, fstype, options⟩
  rw [mountAs_plain unbound, run]
  cases left with
  | mounted its =>
      cases possible.symm.trans its
      exact ⟨fun _ => held, fun _ => List.mem_cons_self, fun _ => rfl⟩
  | failed text =>
      apply MountsAs.of_failure reported_ne
      intro working
      have impossible := works (working.works 0) (by rw [possible]; exact Option.some_ne_none _)
      cases impossible

def effectiveType (fstype : String) : String := if fstype = "" then "ext4" else fstype

theorem formatThenMount_mounts (unbound : options.any (· == "bind") = false) :
    MountsAs source target (effectiveType fstype) choices
      (((formatThenMount source target fstype options).run Node.answer choices
        node).outcome = some none)
      ((formatThenMount source target fstype options).run Node.answer choices node).state := by
  cases failure : (choices 0).failure with
  | some reason =>
      have run : (formatThenMount source target fstype options).run Node.answer choices node =
          _ := Prog.run_ask_of_answer (node.answer_mkfs_failed failure _ _ _)
      rw [run]
      exact .of_failure reported_ne (not_working failure)
  | none =>
      have run : (formatThenMount source target fstype options).run Node.answer choices node =
          _ := Prog.run_ask_of_answer (node.answer_mkfs failure _ _ _)
      have held : (node.formatAs (effectiveType fstype) source).format source =
          some (effectiveType fstype) := if_pos rfl
      rw [run]
      exact .of_later (mountAs_held unbound held)

/-- A blank device is found to be blank, and formatted. -/
theorem recoverMount_blank (quoted : String → String)
    (unbound : options.any (· == "bind") = false) (blank : node.format source = none)
    (mountError : String) :
    MountsAs source target (effectiveType fstype) choices
      (((recoverMount quoted source target fstype options mountError).run Node.answer choices
        node).outcome = some none)
      ((recoverMount quoted source target fstype options mountError).run Node.answer choices
        node).state := by
  cases failure : (choices 0).failure with
  | some reason =>
      have run : (recoverMount quoted source target fstype options mountError).run Node.answer
          choices node = _ := Prog.run_ask_of_answer (node.answer_lsblk_failed failure source)
      rw [run]
      exact .of_failure reported_ne (not_working failure)
  | none =>
      have answered := node.answer_lsblk failure source
      rw [blank] at answered
      have run : (recoverMount quoted source target fstype options mountError).run Node.answer
          choices node = _ := Prog.run_ask_of_answer answered
      rw [run]
      exact .of_later (formatThenMount_mounts unbound)

theorem mountOrFormat_blank (quoted : String → String)
    (unbound : options.any (· == "bind") = false) (blank : node.format source = none) :
    MountsAs source target (effectiveType fstype) choices
      (((mountOrFormat quoted source target fstype options).run Node.answer choices
        node).outcome = some none)
      ((mountOrFormat quoted source target fstype options).run Node.answer choices
        node).state := by
  obtain ⟨text, log, run⟩ :=
    doMount_blank choices (show node.format
      (MountArgs.mk source target fstype options).source = none from blank)
  rw [mountOrFormat, mountAs_plain unbound, Prog.run_bind_of_run run]
  exact .of_later (recoverMount_blank quoted unbound blank text)

/-- The whole of `formatAndMount` on a blank device. -/
theorem formatAndMount_blank (quoted : String → String) {flags : List String}
    (unbound : flags.any (· == "bind") = false) (blank : node.format source = none) :
    MountsAs source target (effectiveType fstype) choices
      (((formatAndMount quoted source target fstype flags).run Node.answer choices
        node).outcome = some none)
      ((formatAndMount quoted source target fstype flags).run Node.answer choices node).state := by
  have plain : (flags ++ ["defaults"]).any (· == "bind") = false := by
    rw [List.any_append, unbound]
    rfl
  have checked : Node.answer (choices 0) node (.fsck source) = ((choices 0).checked, node) := rfl
  have run : (formatAndMount quoted source target fstype flags).run Node.answer choices node =
      _ := Prog.run_ask_of_answer checked
  rw [run]
  dsimp only [Prog.bind]
  split
  case h_1 output uncorrected =>
    exact .of_failure reported_ne fun working => working.sound 0 output uncorrected
  case h_2 => exact .of_later (mountOrFormat_blank quoted plain blank)

/-- A read-only mount of a blank device fails. -/
theorem safeFormatAndMount_readOnly (quoted : String → String) {flags : List String}
    (readOnly : flags.any (· == "ro") = true) (unbound : flags.any (· == "bind") = false)
    (blank : node.format source = none) :
    ((safeFormatAndMount quoted source target fstype flags).run Node.answer choices
      node).outcome ≠ some none := by
  obtain ⟨text, log, run⟩ :=
    doMount_blank choices (show node.format
      (MountArgs.mk source target fstype flags).source = none from blank)
  rw [safeFormatAndMount, if_pos readOnly, mountAs_plain unbound, run]
  exact reported_ne

end Formatting

/-! ## The driver -/

section Driver

theorem volumeResult_eq_success_iff (result : Option String) :
    volumeResult result = volumeSuccess ↔ result = none := by
  cases result with
  | none => exact ⟨fun _ => rfl, fun _ => rfl⟩
  | some failure =>
      constructor
      · intro same
        have status : statusFailure = statusSuccess := congrArg VolumeError.status same
        exact absurd status (by decide)
      · intro same
        cases same

variable (choices : Nat → NodeChoice) (node : Node) (dir : String)

theorem ensureDirectory_run :
    ∃ result log rest, (ensureDirectory dir).run Node.answer choices node =
        ⟨some result, log, node, rest⟩ ∧
      (Working choices → result = none ∧ Working rest) := by
  have looked : Node.answer (choices 0) node (.stat dir) = ((choices 0).missing, node) := rfl
  have run : (ensureDirectory dir).run Node.answer choices node = _ :=
    Prog.run_ask_of_answer looked
  cases missing : (choices 0).missing with
  | false =>
      rw [missing] at run
      exact ⟨none, _, later choices, run, fun working => ⟨rfl, working.later⟩⟩
  | true =>
      rw [missing] at run
      refine ⟨(choices 1).failure.map CommandError.error, _, later (later choices), run, ?_⟩
      intro working
      rw [working.works 1]
      exact ⟨rfl, working.later.later⟩

variable (quoted : String → String) (device : String) (options : VolumeOptions)

/-- The mounter behind `MountDevice`, once the directory exists. -/
def mounterRun (rest : Nat → NodeChoice) :
    Run NodeChoice Node HostCall HostReply (Option String) :=
  (safeFormatAndMount quoted device dir (options.string optionFSType)
    (mountFlags options)).run Node.answer rest node

theorem mountDevice_cases :
    let run := (mountDevice quoted dir device options).run Node.answer choices node
    (run.outcome ≠ some volumeSuccess ∧ ¬ Working choices) ∨
      ∃ rest, (Working choices → Working rest) ∧
        (run.outcome = some volumeSuccess ↔
          (mounterRun node dir quoted device options rest).outcome = some none) ∧
        run.state = (mounterRun node dir quoted device options rest).state := by
  obtain ⟨result, log, rest, run, working⟩ := ensureDirectory_run choices node dir
  rw [mountDevice, Prog.run_bind_of_run run]
  cases result with
  | some failure =>
      left
      constructor
      · intro success
        cases (volumeResult_eq_success_iff _).mp (Option.some.inj success)
      · intro works
        cases (working works).1
  | none =>
      right
      refine ⟨rest, fun works => (working works).2, ?_⟩
      simp only [Prog.map_eq, Prog.run_map]
      refine ⟨?_, rfl⟩
      rw [Option.map_eq_some_iff]
      constructor
      · rintro ⟨inner, outcome, success⟩
        rw [(volumeResult_eq_success_iff inner).mp success] at outcome
        exact outcome
      · intro outcome
        exact ⟨none, outcome, rfl⟩

end Driver

/-! ## From the storage class to the mount -/

/-- The source that `Provision` gives to a volume: it has no file system type. -/
def sourceOn (diskId : String) : FlexVolumeSource where
  driver := driverName
  options := fun key => if key = "diskId" then some diskId else none

/-- The options of `mountdevice` for such a volume. -/
def driverOptions (diskId : String) (readOnly : Bool) : VolumeOptions :=
  decodedOptions (newOptionsForDriver (sourceOn diskId) readOnly)

theorem driverOptions_fsType (diskId : String) (readOnly : Bool) :
    (driverOptions diskId readOnly).string optionFSType = "" := by
  cases readOnly <;> rfl

theorem mountFlags_driverOptions (diskId : String) (readOnly : Bool) :
    mountFlags (driverOptions diskId readOnly) = [if readOnly then "ro" else "rw"] := by
  cases readOnly <;> rfl

section Provisioned

variable (quoted : String → String) (diskId : String) {node : Node} {choices : Nat → NodeChoice}
  {dir device : String}

/-- A writable mount of a new volume formats its disk with the mounter's default. -/
theorem mountDevice_writable (blank : node.format device = none) :
    let run := (mountDevice quoted dir device (driverOptions diskId false)).run Node.answer
      choices node
    MountsAs device dir "ext4" choices (run.outcome = some volumeSuccess) run.state := by
  rcases mountDevice_cases choices node dir quoted device (driverOptions diskId false) with
    ⟨failed, broken⟩ | ⟨rest, working, success, state⟩
  · exact .of_failure failed broken
  · have mounts : MountsAs device dir (effectiveType "") rest
        ((mounterRun node dir quoted device (driverOptions diskId false) rest).outcome =
          some none)
        (mounterRun node dir quoted device (driverOptions diskId false) rest).state := by
      rw [mounterRun, driverOptions_fsType, mountFlags_driverOptions]
      exact formatAndMount_blank quoted (by decide) blank
    refine ⟨fun good => ?_, fun good => ?_, fun works => ?_⟩
    · rw [state]
      exact mounts.formatted (success.mp good)
    · rw [state]
      exact mounts.mounted (success.mp good)
    · exact success.mpr (mounts.succeeds (working works))

/-- A read-only mount of a new volume fails. -/
theorem mountDevice_readOnly (blank : node.format device = none) :
    ((mountDevice quoted dir device (driverOptions diskId true)).run Node.answer choices
      node).outcome ≠ some volumeSuccess := by
  rcases mountDevice_cases choices node dir quoted device (driverOptions diskId true) with
    ⟨failed, -⟩ | ⟨rest, -, success, -⟩
  · exact failed
  · intro good
    have inner := success.mp good
    rw [mounterRun, driverOptions_fsType, mountFlags_driverOptions] at inner
    exact safeFormatAndMount_readOnly quoted (by decide) (by decide) blank inner

end Provisioned

/-- The file system that a storage class asks for. -/
def wantedType (parameters : Option (String → Option String)) : String :=
  (parameter parameters "fsType").getD defaultFSType

/-- Every volume that is returned is formatted and mounted with the type of its storage
class by the first mount of its disk; a writable one is, where the commands work. -/
def TypeReachesMount (quoted : String → String) (outOfRange : Nat → Int64)
    (provider : ProvisioningProvider) (options : ProvisionerOptions) : Prop :=
  ∀ (ω σ : Type) (service : Service ω σ StorageCall StorageReply) (choices : Nat → ω)
    (state : σ) (volume : PersistentVolume),
    ((provision outOfRange provider options).run service choices state).outcome =
      some (.ok volume) →
    ∃ source, volume.flexVolume = some source ∧
      ∀ (readOnly : Bool) (dir device : String) (nodeChoices : Nat → NodeChoice) (node : Node),
        node.format device = none →
        let run := (mountDevice quoted dir device
          (decodedOptions (newOptionsForDriver source readOnly))).run Node.answer nodeChoices
            node
        (run.outcome = some volumeSuccess →
          run.state.format device = some (wantedType options.parameters) ∧
            ⟨device, dir, wantedType options.parameters⟩ ∈ run.state.mounts) ∧
        (readOnly = false → Working nodeChoices → run.outcome = some volumeSuccess)

def blankNode : Node := ⟨fun _ => none, []⟩

def workingChoices : Nat → NodeChoice := fun _ => ⟨none, false, .clean⟩

theorem workingChoices_working : Working workingChoices := by
  constructor
  · intro index
    rfl
  · intro index output same
    cases same

/-- The promise, for a volume of a granting service on this node. -/
theorem TypeReachesMount.wanted {quoted : String → String} {outOfRange : Nat → Int64}
    {provider : ProvisioningProvider} {options : ProvisionerOptions}
    (reaches : TypeReachesMount quoted outOfRange provider options)
    (accepted : Accepted options) : wantedType options.parameters = defaultFSType := by
  obtain ⟨after, run⟩ := provision_granted outOfRange provider accepted
  obtain ⟨source, its, mounts⟩ := reaches _ _ Ecs.storage (granting "d-3") twoDisks.ecs _
    (by rw [run])
  cases its
  obtain ⟨promise, succeeds⟩ :=
    mounts false "/mnt" "/dev/vdb" workingChoices blankNode rfl
  have success := succeeds rfl workingChoices_working
  have actual := (mountDevice_writable quoted "d-3" (rfl : blankNode.format "/dev/vdb" = none)
    ).formatted success
  exact Option.some.inj ((promise success).1.symm.trans actual)

/-- The type of the storage class reaches the mount if and only if it is the default. -/
theorem type_reaches_mount_iff (quoted : String → String) (outOfRange : Nat → Int64)
    (provider : ProvisioningProvider) (options : ProvisionerOptions) :
    TypeReachesMount quoted outOfRange provider options ↔
      (Accepted options → wantedType options.parameters = defaultFSType) := by
  constructor
  · intro reaches
    exact reaches.wanted
  · intro default ω σ service choices state volume returned
    obtain ⟨accepted, diskId, after, -, rfl⟩ := provision_ok outOfRange provider returned
    refine ⟨sourceOn diskId, rfl, ?_⟩
    intro readOnly dir device nodeChoices node blank
    rw [default accepted]
    cases readOnly with
    | true =>
        constructor
        · intro success
          exact absurd success (mountDevice_readOnly quoted diskId blank)
        · intro writable
          cases writable
    | false =>
        have mounts : MountsAs device dir "ext4" nodeChoices _ _ :=
          mountDevice_writable quoted diskId blank
        exact ⟨fun success => ⟨mounts.formatted success, mounts.mounted success⟩,
          fun _ => mounts.succeeds⟩

def xfsParameters (key : String) : Option String :=
  if key = "fsType" then some "xfs" else ssdParameters key

def xfsClaim : ProvisionerOptions :=
  { claiming [.readWriteOnce] ⟨⟨30, 9⟩, none⟩ with parameters := some xfsParameters }

theorem xfsClaim_accepted : Accepted xfsClaim where
  unselected := rfl
  writable := List.mem_singleton.mpr rfl
  categorised := by
    rw [ofParameters_eq]
    exact (by decide : (parameter (some xfsParameters) "diskCategory").getD "" ≠ "")

/-- A volume of such a class is formatted and mounted as ext4. -/
theorem xfs_class_gets_ext4 :
    (∃ volume source, ((provision (fun _ => 0) zoned xfsClaim).run Ecs.storage
        (granting "d-3") twoDisks.ecs).outcome = some (.ok volume) ∧
        volume.flexVolume = some source ∧
        ((mountDevice id "/mnt" "/dev/vdb" (decodedOptions (newOptionsForDriver source false))).run
          Node.answer workingChoices blankNode).state.mounts =
            [⟨"/dev/vdb", "/mnt", "ext4"⟩]) ∧
      ¬ TypeReachesMount id (fun _ => 0) zoned xfsClaim := by
  obtain ⟨after, run⟩ := provision_granted (fun _ => 0) zoned xfsClaim_accepted
  have mounted : ((mountDevice id "/mnt" "/dev/vdb" (driverOptions "d-3" false)).run
      Node.answer workingChoices blankNode).state.mounts = [⟨"/dev/vdb", "/mnt", "ext4"⟩] := rfl
  constructor
  · exact ⟨_, sourceOn "d-3", by rw [run], rfl, mounted⟩
  · intro reaches
    have same : wantedType xfsClaim.parameters = defaultFSType :=
      reaches.wanted xfsClaim_accepted
    revert same
    decide

end KubeAliyun.Volume
