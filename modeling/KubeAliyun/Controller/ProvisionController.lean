import KubeAliyun.Kube.Volumes

/-!
# The provision controller

The operations of the controller that provisions volumes for claims and deletes released
ones (`external-storage/lib/controller`).
-/

namespace KubeAliyun.Controller

open KubeAliyun.Cloud KubeAliyun.Provider KubeAliyun.Remote KubeAliyun.Kube

def annClass : String := "volume.beta.kubernetes.io/storage-class"

def annDynamicallyProvisioned : String := "pv.kubernetes.io/provisioned-by"

def createProvisionedPVRetryCount : Nat := 5

def persistentVolumeReclaimDelete : String := "Delete"

/-- The controller with its provisioner.  The last fields are what the conversion of an
overflowing quantity gives, what `%q` makes of a text, and what `%+v` makes of a volume and of
its source. -/
structure ProvisionController where
  provisionerName : String
  is1dot4 : Bool
  failedRetryThreshold : Int
  provisioner : ProvisioningProvider
  outOfRange : Nat → Int64
  quoted : String → String
  showVolume : PersistentVolume → String
  showSource : Option FlexVolumeSource → String

/-! ## Claims -/

def claimToClaimKey (claim : V1Claim) : String := claim.nameSpace ++ "/" ++ claim.name

def getClaimClass (claim : V1Claim) : String :=
  match claim.annotations annClass with
  | some name => name
  | none => claim.spec.storageClassName.getD ""

def getProvisionedVolumeNameForClaim (claim : V1Claim) : String := "pvc-" ++ claim.uid

def getStorageClass (ctrl : ProvisionController) (name : String) :
    Option StorageClass → Except GoError StorageClass
  | none => .error (.plain ("StorageClass " ++ ctrl.quoted name ++ " not found"))
  | some storageClass =>
      if storageClass.provisioner ≠ ctrl.provisionerName then
        .error (.plain ("Unknown provisioner " ++ ctrl.quoted storageClass.provisioner ++
          " requested in storage class " ++ ctrl.quoted name))
      else .ok storageClass

abbrev FailedClaims : Type := String → Option Int

def shouldProvision (ctrl : ProvisionController) (failedClaimsStats : FailedClaims)
    (cached : Option StorageClass) (claim : V1Claim) : Bool :=
  if claim.volumeName ≠ "" then false
  else if (failedClaimsStats claim.uid).any (ctrl.failedRetryThreshold ≤ ·) then false
  else
    match claim.annotations annDynamicallyProvisioned with
    | some provisioner => provisioner == ctrl.provisionerName
    | none => (getStorageClass ctrl (getClaimClass claim) cached).toOption.isSome

def updateStats (failedClaimsStats : FailedClaims) (claim : V1Claim) (err : Option GoError) :
    FailedClaims :=
  match err with
  | some _ =>
      Function.update failedClaimsStats claim.uid
        (some ((failedClaimsStats claim.uid).elim 1 (· + 1)))
  | none => Function.update failedClaimsStats claim.uid none

/-! ## Provisioning -/

def saveVolume (volume : V1Volume) : Nat → Option StatusError → Provisioned (Option StatusError)
  | 0, err => return err
  | attempts + 1, _ => do
      match ← createVolume volume with
      | none => return none
      | some failure => saveVolume volume attempts (some failure)

def deleteAsset (ctrl : ProvisionController) (volume : V1Volume) :
    Provisioned (Option GoError) :=
  (Provider.delete (ctrl.showVolume volume.toPersistentVolume) (ctrl.showSource volume.flexVolume)
    volume.toPersistentVolume).lift

def cleanVolume (ctrl : ProvisionController) (volume : V1Volume) :
    Nat → Option GoError → Provisioned (Option GoError)
  | 0, err => return err
  | attempts + 1, _ => do
      match ← deleteAsset ctrl volume with
      | none => return none
      | some failure => cleanVolume ctrl volume attempts (some failure)

def provisionedObject (ctrl : ProvisionController) (claim : V1Claim) (volume : PersistentVolume) :
    V1Volume :=
  { volume with
    uid := ""
    annotations := fun key =>
      if key = annClass then some (getClaimClass claim)
      else if key = annDynamicallyProvisioned then some ctrl.provisionerName
      else none
    claimRef := some ⟨claim.nameSpace, claim.name, claim.uid⟩
    phase := .pending }

def provisionerOptions (claim : V1Claim) (storageClass : StorageClass) : ProvisionerOptions where
  reclaimPolicy := persistentVolumeReclaimDelete
  pvName := getProvisionedVolumeNameForClaim claim
  pvc := claim.spec
  parameters := storageClass.parameters

/-- The end of `provisionClaimOperation`, with a volume that is not saved. -/
def cleanUp (ctrl : ProvisionController) (claim : V1Claim) (volume : V1Volume)
    (failure : StatusError) : Provisioned (Option GoError) := do
  let key := claimToClaimKey claim
  recordEvent ⟨key, .warning, "ProvisioningFailed",
    "Error creating provisioned PV object for claim " ++ key ++ ": " ++ failure.message ++
      ". Deleting the volume."⟩
  match ← cleanVolume ctrl volume createProvisionedPVRetryCount
      (some (.plain failure.message)) with
  | none => return none
  | some leftover =>
      recordEvent ⟨key, .warning, "ProvisioningCleanupFailed",
        "Error cleaning provisioned volume for claim " ++ key ++ ": " ++ leftover.text ++
          ". Please delete manually."⟩
      return none

/-- `provisionClaimOperation` from the new storage asset on. -/
def saveProvisioned (ctrl : ProvisionController) (claim : V1Claim) (volume : V1Volume) :
    Provisioned (Option GoError) := do
  match ← saveVolume volume createProvisionedPVRetryCount none with
  | none =>
      recordEvent ⟨claimToClaimKey claim, .normal, "ProvisioningSucceeded",
        "Successfully provisioned volume " ++ volume.name⟩
      return none
  | some failure => cleanUp ctrl claim volume failure

/-- `provisionClaimOperation`; `GetReference` does not fail on a claim. -/
def provisionClaimOperation (ctrl : ProvisionController) (claim : V1Claim) :
    Provisioned (Option GoError) := do
  let key := claimToClaimKey claim
  match ← getVolume (getProvisionedVolumeNameForClaim claim) with
  | .ok _ => return none
  | .error _ =>
      let cached ← lookupClass (getClaimClass claim)
      match getStorageClass ctrl (getClaimClass claim) cached with
      | .error _ => return none
      | .ok storageClass =>
          recordEvent ⟨key, .normal, "Provisioning",
            "External provisioner is provisioning volume for claim " ++ ctrl.quoted key⟩
          match ← (provision ctrl.outOfRange ctrl.provisioner
              (provisionerOptions claim storageClass)).lift with
          | .error failure =>
              recordEvent ⟨key, .warning, "ProvisioningFailed",
                "Failed to provision volume with StorageClass " ++
                  ctrl.quoted storageClass.name ++ ": " ++ failure.text⟩
              return some failure
          | .ok volume => saveProvisioned ctrl claim (provisionedObject ctrl claim volume)

/-! ## Deletion -/

def shouldDelete (ctrl : ProvisionController) (volume : V1Volume) : Bool :=
  (volume.phase == .released || ctrl.is1dot4 && volume.phase == .failed) &&
    volume.reclaimPolicy == persistentVolumeReclaimDelete &&
    volume.annotations annDynamicallyProvisioned == some ctrl.provisionerName

/-- `deleteVolumeOperation`; the provisioner never returns an `IgnoredError`. -/
def deleteVolumeOperation (ctrl : ProvisionController) (volume : V1Volume) :
    Provisioned (Option GoError) := do
  match ← getVolume volume.name with
  | .error _ => return none
  | .ok newVolume =>
      if shouldDelete ctrl newVolume then
        match ← deleteAsset ctrl volume with
        | some failure =>
            recordEvent ⟨volume.name, .warning, "VolumeFailedDelete", failure.text⟩
            return some failure
        | none =>
            let _ ← deleteVolume volume.name
            return none
      else return none

/-! ## Operation names -/

def provisionOpName (claim : V1Claim) : String :=
  "provision-" ++ claimToClaimKey claim ++ "[" ++ claim.uid ++ "]"

def deleteOpName (volume : V1Volume) : String :=
  "delete-" ++ volume.name ++ "[" ++ volume.uid ++ "]"

end KubeAliyun.Controller
