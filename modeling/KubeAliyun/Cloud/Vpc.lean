import KubeAliyun.Cloud.Account
import KubeAliyun.Remote.Beside
import KubeAliyun.Util.Keyed

/-!
# The route tables of the VPC

The part of the ECS interface that `routes.go` uses besides the instances.  A
route table has at most one entry for a destination; the service decides where
among the others a new entry is listed.
-/

namespace KubeAliyun.Cloud

open KubeAliyun.Remote KubeAliyun.Util

/-! ## Wire types -/

def nextHopInstance : String := "Instance"

structure RouteEntry where
  destinationCidrBlock : String
  nextHopType : String
  nextHopId : String
  instanceId : String
deriving DecidableEq, Repr

structure RouteTableSet where
  vRouterId : String
  routeTableId : String
  routeEntrys : List RouteEntry
deriving DecidableEq, Repr

structure DescribeRouteTablesArgs where
  vRouterId : String
  routeTableId : String
  pagination : Pagination
deriving DecidableEq, Repr

structure CreateRouteEntryArgs where
  routeTableId : String
  destinationCidrBlock : String
  nextHopType : String
  nextHopId : String
deriving DecidableEq, Repr

structure DeleteRouteEntryArgs where
  routeTableId : String
  destinationCidrBlock : String
  nextHopId : String
deriving DecidableEq, Repr

inductive VpcCall where
  | describeRouteTables (args : DescribeRouteTablesArgs)
  | createRouteEntry (args : CreateRouteEntryArgs)
  | deleteRouteEntry (args : DeleteRouteEntryArgs)
deriving DecidableEq, Repr

def VpcReply : VpcCall → Type
  | .describeRouteTables _ => Except ApiError (List RouteTableSet × PaginationResult)
  | .createRouteEntry _ => Option ApiError
  | .deleteRouteEntry _ => Option ApiError

/-! ## One route table -/

/-- A route table: destinations are distinct, and an entry whose next hop is an
instance names that instance twice. -/
structure RouteTable where
  vRouterId : String
  routeTableId : String
  entries : List RouteEntry
  cidrsDistinct : (entries.map RouteEntry.destinationCidrBlock).Nodup
  hopsAgree : ∀ entry ∈ entries, entry.nextHopType = nextHopInstance →
    entry.instanceId = entry.nextHopId

namespace RouteTable

def describe (table : RouteTable) : RouteTableSet :=
  ⟨table.vRouterId, table.routeTableId, table.entries⟩

/-- Entries for one destination are the same. -/
theorem entry_unique (table : RouteTable) {first second : RouteEntry}
    (one : first ∈ table.entries) (two : second ∈ table.entries)
    (same : first.destinationCidrBlock = second.destinationCidrBlock) : first = second :=
  List.inj_on_of_nodup_map table.cidrsDistinct one two same

def create (table : RouteTable) (position : Nat) (cidr hop : String) : Option RouteTable :=
  if fresh : cidr ∉ table.entries.map RouteEntry.destinationCidrBlock then some
    { table with
      entries := table.entries.take position ++
        ⟨cidr, nextHopInstance, hop, hop⟩ :: table.entries.drop position
      cidrsDistinct := by
        have distinct := table.cidrsDistinct
        have whole := List.take_append_drop position table.entries
        rw [← whole, List.map_append] at distinct fresh
        rw [List.map_append, List.map_cons]
        exact (List.perm_middle.nodup_iff).mpr (List.nodup_cons.mpr ⟨fresh, distinct⟩)
      hopsAgree := by
        intro entry member toInstance
        rcases List.mem_append.mp member with before | after
        · exact table.hopsAgree entry (List.mem_of_mem_take before) toInstance
        · rcases List.mem_cons.mp after with rfl | later
          · rfl
          · exact table.hopsAgree entry (List.mem_of_mem_drop later) toInstance }
  else none

/-- The entry for a destination is deleted when its next hop is the given one. -/
def delete (table : RouteTable) (cidr hop : String) : Option RouteTable :=
  if ∃ entry ∈ table.entries, entry.destinationCidrBlock = cidr ∧ entry.nextHopId = hop then
    some
      { table with
        entries := table.entries.filter fun entry =>
          ¬(entry.destinationCidrBlock = cidr ∧ entry.nextHopId = hop)
        cidrsDistinct := table.cidrsDistinct.sublist (List.filter_sublist.map _)
        hopsAgree := fun entry member =>
          table.hopsAgree entry (List.mem_of_mem_filter member) }
  else none

theorem create_eq_some {table next : RouteTable} {position : Nat} {cidr hop : String}
    (created : table.create position cidr hop = some next) :
    next.vRouterId = table.vRouterId ∧ next.routeTableId = table.routeTableId ∧
      cidr ∉ table.entries.map RouteEntry.destinationCidrBlock ∧
      next.entries = table.entries.take position ++
        ⟨cidr, nextHopInstance, hop, hop⟩ :: table.entries.drop position := by
  unfold create at created
  split at created
  · rename_i fresh
    cases created
    exact ⟨rfl, rfl, fresh, rfl⟩
  · cases created

theorem create_isSome {table : RouteTable} {cidr : String}
    (fresh : cidr ∉ table.entries.map RouteEntry.destinationCidrBlock) (position : Nat)
    (hop : String) : (table.create position cidr hop).isSome := by
  unfold create
  rw [dif_pos fresh]
  rfl

/-- A deletion takes out the one entry for its destination. -/
theorem delete_eq_some {table next : RouteTable} {cidr hop : String}
    (deleted : table.delete cidr hop = some next) :
    next.vRouterId = table.vRouterId ∧ next.routeTableId = table.routeTableId ∧
      ∃ front entry back, table.entries = front ++ entry :: back ∧
        entry.destinationCidrBlock = cidr ∧ entry.nextHopId = hop ∧
        next.entries = front ++ back := by
  unfold delete at deleted
  split at deleted
  · rename_i found
    cases deleted
    refine ⟨rfl, rfl, ?_⟩
    obtain ⟨entry, member, sameCidr, sameHop⟩ := found
    obtain ⟨front, back, split⟩ := List.append_of_mem member
    refine ⟨front, entry, back, split, sameCidr, sameHop, ?_⟩
    have distinct := table.cidrsDistinct
    rw [split, List.map_append, List.map_cons] at distinct
    have others := List.nodup_cons.mp (List.perm_middle.nodup_iff.mp distinct)
    have kept : ∀ other ∈ front ++ back,
        ¬(other.destinationCidrBlock = cidr ∧ other.nextHopId = hop) := by
      rintro other present ⟨clash, -⟩
      apply others.1
      rw [← List.map_append, sameCidr, ← clash]
      exact List.mem_map_of_mem present
    simp only [split, List.filter_append, List.filter_cons]
    rw [if_neg (by simp [sameCidr, sameHop]), ← List.filter_append]
    exact List.filter_eq_self.mpr fun other present => decide_eq_true (kept other present)
  · cases deleted

theorem delete_isSome {table : RouteTable} {entry : RouteEntry} {cidr hop : String}
    (present : entry ∈ table.entries) (sameCidr : entry.destinationCidrBlock = cidr)
    (sameHop : entry.nextHopId = hop) : (table.delete cidr hop).isSome := by
  unfold delete
  rw [if_pos ⟨entry, present, sameCidr, sameHop⟩]
  rfl

end RouteTable

/-! ## All route tables -/

structure Vpc where
  tables : List RouteTable
  idsDistinct : (tables.map RouteTable.routeTableId).Nodup

/-- The service's side of one call, with the place of a new entry. -/
structure NetworkChoice extends Choice where
  position : Nat

namespace Vpc

def table? (vpc : Vpc) (routeTableId : String) : Option RouteTable :=
  Keyed.find RouteTable.routeTableId vpc.tables routeTableId

def put (vpc : Vpc) (next : RouteTable) : Vpc where
  tables := Keyed.put RouteTable.routeTableId vpc.tables next
  idsDistinct := by
    rw [Keyed.map_key_put]
    exact vpc.idsDistinct

def modify (vpc : Vpc) (routeTableId : String) (change : RouteTable → Option RouteTable) :
    Option Vpc :=
  (vpc.table? routeTableId).bind fun table => (change table).map vpc.put

/-- The tables a query asks for; an id that is left open asks for all. -/
def described (vpc : Vpc) (args : DescribeRouteTablesArgs) : List RouteTable :=
  vpc.tables.filter fun table =>
    (args.vRouterId == "" || table.vRouterId == args.vRouterId) &&
      (args.routeTableId == "" || table.routeTableId == args.routeTableId)

def answer (choice : NetworkChoice) (vpc : Vpc) :
    (request : VpcCall) → VpcReply request × Vpc
  | .describeRouteTables args =>
      (choice.read (some (paginate 10 args.pagination
        ((vpc.described args).map RouteTable.describe))), vpc)
  | .createRouteEntry args =>
      choice.commit vpc (vpc.modify args.routeTableId fun table =>
        -- the next hop is an instance unless the request says otherwise
        if args.nextHopType = "" ∨ args.nextHopType = nextHopInstance then
          table.create choice.position args.destinationCidrBlock args.nextHopId
        else none)
  | .deleteRouteEntry args =>
      choice.commit vpc (vpc.modify args.routeTableId fun table =>
        table.delete args.destinationCidrBlock args.nextHopId)

/-- A query for one table of a router is answered with that table. -/
theorem described_one {vpc : Vpc} {table : RouteTable} {args : DescribeRouteTablesArgs}
    (found : vpc.table? args.routeTableId = some table) (given : args.routeTableId ≠ "")
    (router : args.vRouterId = "" ∨ table.vRouterId = args.vRouterId) :
    vpc.described args = [table] := by
  have one : vpc.tables.filter
      (fun table => decide (table.routeTableId = args.routeTableId)) = [table] := by
    rw [Keyed.filter_eq vpc.idsDistinct]
    exact congrArg Option.toList found
  have split : vpc.described args =
      (vpc.tables.filter fun table => decide (table.routeTableId = args.routeTableId)).filter
        fun table => args.vRouterId == "" || table.vRouterId == args.vRouterId := by
    rw [List.filter_filter, described]
    refine List.filter_congr fun other _ => ?_
    simp [given, Bool.beq_eq_decide_eq]
  rw [split, one]
  rcases router with any | same
  · simp [any]
  · simp [same]

end Vpc

/-! ## The account with its network -/

abbrev NetworkCall : Type := Call ⊕ VpcCall

abbrev NetworkReply : NetworkCall → Type := ReplyOf Reply VpcReply

abbrev Network : Type := Account × Vpc

def Network.answer : Service NetworkChoice Network NetworkCall NetworkReply :=
  Service.beside (fun choice => Account.answer choice.toChoice) Vpc.answer

abbrev Networked (α : Type) : Type := Prog NetworkCall NetworkReply α

def invokeVpc (request : VpcCall) : Networked (VpcReply request) :=
  Prog.call (Sum.inr request : NetworkCall)

def describeRouteTables (args : DescribeRouteTablesArgs) :
    Networked (Except ApiError (List RouteTableSet × PaginationResult)) :=
  invokeVpc (.describeRouteTables args)

def createRouteEntry (args : CreateRouteEntryArgs) : Networked (Option ApiError) :=
  invokeVpc (.createRouteEntry args)

def deleteRouteEntry (args : DeleteRouteEntryArgs) : Networked (Option ApiError) :=
  invokeVpc (.deleteRouteEntry args)

end KubeAliyun.Cloud
