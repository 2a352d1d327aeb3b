import KubeAliyun.Cloud.Wire
import KubeAliyun.Util.Keyed

/-!
# The compute side of the account

Instances of the provider's VPC and data disks.  An accepted attachment or
detachment leaves the disk in a transitional status; it completes whenever the
service chooses, before any later call.
-/

namespace KubeAliyun.Cloud

/-! ## One disk -/

namespace DiskItem

def settle (disk : DiskItem) : DiskItem :=
  match disk.status with
  | .attaching => { disk with status := .inUse }
  | .detaching => { disk with status := .available, instanceId := "", device := "" }
  | _ => disk

@[simp] theorem settle_diskId (disk : DiskItem) : disk.settle.diskId = disk.diskId := by
  unfold settle
  split <;> rfl

theorem settle_settle (disk : DiskItem) : disk.settle.settle = disk.settle := by
  obtain ⟨diskId, status, instanceId, device⟩ := disk
  cases status <;> rfl

theorem settle_not_attaching (disk : DiskItem) : disk.settle.status ≠ .attaching := by
  obtain ⟨diskId, status, instanceId, device⟩ := disk
  cases status <;> simp [settle]

def attach (disk : DiskItem) (instanceId device : String) : Option DiskItem :=
  match disk.status with
  | .available => some { disk with status := .attaching, instanceId, device }
  | _ => none

def detach (disk : DiskItem) (instanceId : String) : Option DiskItem :=
  if disk.instanceId = instanceId ∧
      (disk.status = .inUse ∨ disk.status = .attaching) then
    some { disk with status := .detaching }
  else none

theorem attach_diskId {disk next : DiskItem} {instanceId device : String}
    (accepted : disk.attach instanceId device = some next) :
    next.diskId = disk.diskId := by
  unfold attach at accepted
  split at accepted
  · cases accepted
    rfl
  · cases accepted

theorem detach_diskId {disk next : DiskItem} {instanceId : String}
    (accepted : disk.detach instanceId = some next) :
    next.diskId = disk.diskId := by
  unfold detach at accepted
  split at accepted
  · cases accepted
    rfl
  · cases accepted

end DiskItem

/-! ## All disks and instances -/

/-- The state of ECS: the inventory, the disks under distinct ids, and the page
size used when a request leaves it open. -/
structure Ecs where
  instances : List InstanceAttributes
  disks : List DiskItem
  defaultPageSize : Nat
  idsDistinct : (disks.map DiskItem.diskId).Nodup
  defaultPageSize_pos : 0 < defaultPageSize

namespace Ecs

def disk? (ecs : Ecs) (diskId : String) : Option DiskItem :=
  ecs.disks.find? fun disk => disk.diskId = diskId

def mapDisks (ecs : Ecs) (change : DiskItem → DiskItem)
    (keepsId : ∀ disk, (change disk).diskId = disk.diskId) : Ecs :=
  { ecs with
    disks := ecs.disks.map change
    idsDistinct := by
      have same : DiskItem.diskId ∘ change = DiskItem.diskId := funext keepsId
      rw [List.map_map, same]
      exact ecs.idsDistinct }

def settle (ecs : Ecs) (which : String → Bool) : Ecs :=
  ecs.mapDisks (fun disk => if which disk.diskId then disk.settle else disk)
    (fun disk => by split <;> simp)

def put (ecs : Ecs) (next : DiskItem) : Ecs :=
  ecs.mapDisks (fun disk => if disk.diskId = next.diskId then next else disk)
    (fun disk => by
      split
      · rename_i same
        exact same.symm
      · rfl)

theorem mapDisks_disk? (ecs : Ecs) (change : DiskItem → DiskItem)
    (keepsId : ∀ disk, (change disk).diskId = disk.diskId) (diskId : String) :
    (ecs.mapDisks change keepsId).disk? diskId = (ecs.disk? diskId).map change :=
  Util.Keyed.find_map keepsId diskId

theorem disk?_diskId {ecs : Ecs} {diskId : String} {disk : DiskItem}
    (found : ecs.disk? diskId = some disk) : disk.diskId = diskId :=
  (Util.Keyed.find_key found).2

@[simp] theorem settle_instances (ecs : Ecs) (which : String → Bool) :
    (ecs.settle which).instances = ecs.instances := rfl

@[simp] theorem settle_defaultPageSize (ecs : Ecs) (which : String → Bool) :
    (ecs.settle which).defaultPageSize = ecs.defaultPageSize := rfl

@[simp] theorem put_instances (ecs : Ecs) (next : DiskItem) :
    (ecs.put next).instances = ecs.instances := rfl

@[simp] theorem put_defaultPageSize (ecs : Ecs) (next : DiskItem) :
    (ecs.put next).defaultPageSize = ecs.defaultPageSize := rfl

theorem settle_disk? (ecs : Ecs) (which : String → Bool) (diskId : String) :
    (ecs.settle which).disk? diskId =
      (ecs.disk? diskId).map fun disk =>
        if which diskId then disk.settle else disk := by
  rw [settle, mapDisks_disk?]
  cases found : ecs.disk? diskId with
  | none => rfl
  | some disk => simp [disk?_diskId found]

theorem settle_none (ecs : Ecs) {which : String → Bool}
    (nothing : ∀ diskId, which diskId = false) : ecs.settle which = ecs := by
  have same : (fun disk : DiskItem => if which disk.diskId then disk.settle else disk) = id := by
    funext disk
    simp [nothing]
  unfold settle mapDisks
  cases ecs
  simp [same]

theorem put_disk?_self {ecs : Ecs} {disk next : DiskItem} {diskId : String}
    (found : ecs.disk? diskId = some disk) (same : next.diskId = diskId) :
    (ecs.put next).disk? diskId = some next :=
  Util.Keyed.find_put_self found same

theorem put_disk?_other (ecs : Ecs) {next : DiskItem} {diskId : String}
    (different : next.diskId ≠ diskId) :
    (ecs.put next).disk? diskId = ecs.disk? diskId := by
  rw [put, mapDisks_disk?]
  cases found : ecs.disk? diskId with
  | none => rfl
  | some disk =>
      have apart : disk.diskId ≠ next.diskId := by
        rw [disk?_diskId found]
        exact different.symm
      simp [apart]

/-- Distinct ids leave at most one disk under each id. -/
theorem filter_diskId (ecs : Ecs) (diskId : String) :
    ecs.disks.filter (fun disk => decide (disk.diskId = diskId)) =
      (ecs.disk? diskId).toList :=
  Util.Keyed.filter_eq ecs.idsDistinct diskId

/-! ## Answers -/

def describedDisks (ecs : Ecs) (args : DescribeDisksArgs) : List DiskItem :=
  ecs.disks.filter fun disk =>
    (args.diskIds.isEmpty || decide (disk.diskId ∈ args.diskIds)) &&
      (args.instanceId == "" || disk.instanceId == args.instanceId)

/-- A request for one disk is answered with that disk, on a page of any size. -/
theorem paginate_describedDisks (ecs : Ecs) (regionId diskId : String) (size : Nat) :
    (paginate ecs.defaultPageSize ⟨0, size⟩
      (ecs.describedDisks ⟨regionId, [diskId], "", ⟨0, size⟩⟩)).1 =
      (ecs.disk? diskId).toList := by
  have one : ecs.describedDisks ⟨regionId, [diskId], "", ⟨0, size⟩⟩ =
      (ecs.disk? diskId).toList := by
    rw [← filter_diskId, describedDisks]
    simp
  have positive := ecs.defaultPageSize_pos
  rw [one, paginate]
  cases ecs.disk? diskId with
  | none => simp
  | some disk =>
      have room : 1 ≤ if size = 0 then ecs.defaultPageSize else size := by
        split <;> omega
      simpa using List.take_of_length_le (show [disk].length ≤ _ from room)

def answer (choice : Choice) (ecs : Ecs) :
    (request : EcsCall) → EcsReply request × Ecs
  | .describeInstances args =>
      (choice.read (some (paginate ecs.defaultPageSize args.pagination
        ecs.instances)), ecs)
  | .describeDisks args =>
      (choice.read (some (paginate ecs.defaultPageSize args.pagination
        (ecs.describedDisks args))), ecs)
  | .attachDisk args =>
      choice.commit ecs ((ecs.disk? args.diskId).bind fun disk =>
        (disk.attach args.instanceId choice.device).map ecs.put)
  | .detachDisk instanceId diskId =>
      choice.commit ecs ((ecs.disk? diskId).bind fun disk =>
        (disk.detach instanceId).map ecs.put)

/-- The instances a request without page size gets to see. -/
def visible (ecs : Ecs) : List InstanceAttributes :=
  (paginate ecs.defaultPageSize ⟨0, 0⟩ ecs.instances).1

end Ecs

end KubeAliyun.Cloud
