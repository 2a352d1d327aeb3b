import KubeAliyun.Cloud.Ecs
import KubeAliyun.Remote.Program

/-!
# Creating and deleting disks

The part of the ECS interface that the provisioner uses.  The service picks the id of
a new disk, which no other disk has.
-/

namespace KubeAliyun.Cloud

open KubeAliyun.Remote KubeAliyun.Util

/-! ## Wire types -/

/-- `ecs.CreateDiskArgs` with the fields that are set; the size is in GiB. -/
structure CreateDiskArgs where
  regionId : String
  zoneId : String
  diskCategory : String
  diskName : String
  size : Int64
deriving DecidableEq, Repr

inductive StorageCall where
  | createDisk (args : CreateDiskArgs)
  | deleteDisk (diskId : String)
deriving DecidableEq, Repr

def StorageReply : StorageCall → Type
  | .createDisk _ => Except ApiError String
  | .deleteDisk _ => Option ApiError

structure StorageChoice extends Choice where
  newDiskId : String

/-! ## The disks of the account -/

namespace Ecs

def diskIds (ecs : Ecs) : List String := ecs.disks.map DiskItem.diskId

theorem disk?_eq_none_iff (ecs : Ecs) (diskId : String) :
    ecs.disk? diskId = none ↔ diskId ∉ ecs.diskIds :=
  Keyed.find_eq_none_iff diskId

@[simp] theorem settle_diskIds (ecs : Ecs) (which : String → Bool) :
    (ecs.settle which).diskIds = ecs.diskIds := by
  rw [diskIds, settle, mapDisks, List.map_map]
  apply List.map_congr_left
  intro disk _
  rw [Function.comp_apply]
  split
  · exact disk.settle_diskId
  · rfl

theorem distinct_with_new {ecs : Ecs} {disk : DiskItem}
    (fresh : ecs.disk? disk.diskId = none) :
    ((ecs.disks ++ [disk]).map DiskItem.diskId).Nodup := by
  rw [List.map_append, List.nodup_append]
  refine ⟨ecs.idsDistinct, List.nodup_singleton _, ?_⟩
  intro first member second new same
  rw [List.map_singleton, List.mem_singleton] at new
  rw [same, new] at member
  exact (ecs.disk?_eq_none_iff disk.diskId).mp fresh member

def create (ecs : Ecs) (diskId : String) : Option Ecs :=
  if fresh : ecs.disk? diskId = none then
    some { ecs with
      disks := ecs.disks ++ [⟨diskId, .available, "", ""⟩]
      idsDistinct := distinct_with_new fresh }
  else none

/-- Only a free disk can be deleted. -/
def delete (ecs : Ecs) (diskId : String) : Option Ecs :=
  match ecs.disk? diskId with
  | some ⟨_, .available, _, _⟩ =>
      some { ecs with
        disks := ecs.disks.filter fun disk => disk.diskId ≠ diskId
        idsDistinct := ecs.idsDistinct.sublist (List.filter_sublist.map _) }
  | _ => none

theorem create_of_fresh {ecs : Ecs} {diskId : String} (fresh : diskId ∉ ecs.diskIds) :
    ∃ next, ecs.create diskId = some next := by
  rw [create, dif_pos ((ecs.disk?_eq_none_iff diskId).mpr fresh)]
  exact ⟨_, rfl⟩

theorem create_some {ecs next : Ecs} {diskId : String}
    (created : ecs.create diskId = some next) :
    diskId ∉ ecs.diskIds ∧ next.disks = ecs.disks ++ [⟨diskId, .available, "", ""⟩] := by
  rw [create] at created
  split at created
  case isTrue fresh =>
    cases created
    exact ⟨(ecs.disk?_eq_none_iff diskId).mp fresh, rfl⟩
  case isFalse => cases created

theorem create_diskIds {ecs next : Ecs} {diskId : String}
    (created : ecs.create diskId = some next) : next.diskIds = ecs.diskIds ++ [diskId] := by
  rw [diskIds, (create_some created).2, List.map_append]
  rfl

theorem create_disk? {ecs next : Ecs} {diskId : String}
    (created : ecs.create diskId = some next) :
    next.disk? diskId = some ⟨diskId, .available, "", ""⟩ := by
  obtain ⟨fresh, disks⟩ := create_some created
  have absent : (ecs.disks.find? fun disk => disk.diskId = diskId) = none :=
    (ecs.disk?_eq_none_iff diskId).mpr fresh
  rw [disk?, disks, List.find?_append, absent, Option.none_or, List.find?_singleton]
  exact if_pos (decide_eq_true rfl)

theorem delete_of_available {ecs : Ecs} {diskId : String} {disk : DiskItem}
    (found : ecs.disk? diskId = some disk) (free : disk.status = .available) :
    ∃ next, ecs.delete diskId = some next ∧
      next.diskIds = ecs.diskIds.filter fun other => other ≠ diskId := by
  obtain ⟨id, status, instanceId, device⟩ := disk
  cases free
  simp only [delete, found]
  refine ⟨_, rfl, ?_⟩
  rw [diskIds, diskIds, List.filter_map]
  rfl

theorem delete_some {ecs next : Ecs} {diskId : String}
    (deleted : ecs.delete diskId = some next) :
    diskId ∈ ecs.diskIds ∧ next.diskIds = ecs.diskIds.filter fun other => other ≠ diskId := by
  cases found : ecs.disk? diskId with
  | none =>
      simp only [delete, found] at deleted
      cases deleted
  | some disk =>
      obtain ⟨id, status, instanceId, device⟩ := disk
      cases status with
      | available =>
          obtain ⟨removed, same, ids⟩ := delete_of_available found rfl
          cases same.symm.trans deleted
          refine ⟨?_, ids⟩
          by_contra absent
          rw [(ecs.disk?_eq_none_iff diskId).mpr absent] at found
          cases found
      | _ =>
          simp only [delete, found] at deleted
          cases deleted

def storage : Service StorageChoice Ecs StorageCall StorageReply :=
  fun choice before request =>
    let ecs := before.settle choice.settles
    match request with
    | .createDisk _ =>
        let result := choice.commit ecs (ecs.create choice.newDiskId)
        (result.1.elim (.ok choice.newDiskId) .error, result.2)
    | .deleteDisk diskId => choice.commit ecs (ecs.delete diskId)

/-- A request for a disk that is served and can be met. -/
theorem storage_created {choice : StorageChoice} {ecs next : Ecs} (args : CreateDiskArgs)
    (served : choice.fate = .served)
    (created : (ecs.settle choice.settles).create choice.newDiskId = some next) :
    storage choice ecs (.createDisk args) =
      ((.ok choice.newDiskId : Except ApiError String), next) := by
  simp only [storage, created, Choice.commit_served served]
  rfl

theorem storage_deleted {choice : StorageChoice} {ecs next : Ecs} {diskId : String}
    (served : choice.fate = .served)
    (deleted : (ecs.settle choice.settles).delete diskId = some next) :
    storage choice ecs (.deleteDisk diskId) = ((none : Option ApiError), next) := by
  simp only [storage, deleted]
  exact Choice.commit_served served _ _

/-- A request for a disk whose answer can be trusted. -/
theorem storage_createDisk {choice : StorageChoice} (ecs : Ecs) (args : CreateDiskArgs)
    (answered : choice.fate ≠ .unanswered) :
    (∃ next, (ecs.settle choice.settles).create choice.newDiskId = some next ∧
      storage choice ecs (.createDisk args) =
        ((.ok choice.newDiskId : Except ApiError String), next)) ∨
      storage choice ecs (.createDisk args) =
        ((.error choice.error : Except ApiError String), ecs.settle choice.settles) := by
  rcases choice.commit_cases (ecs.settle choice.settles)
    ((ecs.settle choice.settles).create choice.newDiskId) with
    ⟨next, created, served, -⟩ | ⟨-, -, unanswered, -⟩ | refused
  · exact .inl ⟨next, created, storage_created args served created⟩
  · exact absurd unanswered answered
  · right
    simp only [storage, refused]
    rfl

end Ecs

abbrev Stored (α : Type) : Type := Prog StorageCall StorageReply α

def createDisk (args : CreateDiskArgs) : Stored (Except ApiError String) :=
  Prog.call (StorageCall.createDisk args)

def deleteDisk (diskId : String) : Stored (Option ApiError) :=
  Prog.call (StorageCall.deleteDisk diskId)

end KubeAliyun.Cloud
