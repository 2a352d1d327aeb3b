import KubeAliyun.Balancer.Store
import Mathlib.Data.String.Basic

/-!
# Names of load balancers

The name of a load balancer is made of the UID of its service.  A UID in canonical
form has 32 hexadecimal digits, of which the name keeps 31: services whose UIDs differ
in the last digit only share their load balancer, and all others are kept apart.
-/

namespace KubeAliyun.Balancer

open KubeAliyun.Cloud KubeAliyun.Provider KubeAliyun.Remote KubeAliyun.Text

/-! ## Canonical UIDs -/

def HexDigit (letter : Char) : Prop :=
  ('0' ≤ letter ∧ letter ≤ '9') ∨ ('a' ≤ letter ∧ letter ≤ 'f')

instance (letter : Char) : Decidable (HexDigit letter) :=
  inferInstanceAs (Decidable (_ ∨ _))

/-- Hexadecimal digits in groups of 8, 4, 4, 4 and 12, joined by dashes. -/
def CanonicalUid (uid : String) : Prop :=
  ∃ groups : List (List Char), groups.map List.length = [8, 4, 4, 4, 12] ∧
    (∀ group ∈ groups, ∀ digit ∈ group, HexDigit digit) ∧
    uid.toList = ['-'].intercalate groups

theorem HexDigit.ne_dash {letter : Char} (digit : HexDigit letter) : letter ≠ '-' := by
  rintro rfl
  revert digit
  decide

/-- A hexadecimal digit is one byte. -/
theorem HexDigit.utf8Size {letter : Char} (digit : HexDigit letter) : letter.utf8Size = 1 := by
  rw [Char.utf8Size_eq_one_iff]
  rcases digit with ⟨-, bound⟩ | ⟨-, bound⟩
  · exact Nat.le_trans bound (by decide)
  · exact Nat.le_trans bound (by decide)

section Joined

variable {separator : Char}

theorem intercalate_cons (group : List Char) {groups : List (List Char)} (more : groups ≠ []) :
    [separator].intercalate (group :: groups) =
      group ++ separator :: [separator].intercalate groups := by
  cases groups with
  | nil => exact absurd rfl more
  | cons next rest => simp [List.intercalate]

/-- Without the separators, the groups stand one after the other. -/
theorem filter_intercalate {groups : List (List Char)}
    (apart : ∀ group ∈ groups, separator ∉ group) :
    ([separator].intercalate groups).filter (· ≠ separator) = groups.flatten := by
  induction groups with
  | nil => rfl
  | cons group rest ih =>
      obtain ⟨here, later⟩ := List.forall_mem_cons.mp apart
      have kept : group.filter (· ≠ separator) = group := by
        rw [List.filter_eq_self]
        intro letter member
        have differs : letter ≠ separator := fun same => here (same ▸ member)
        simpa using differs
      by_cases alone : rest = []
      · subst alone
        simpa [List.intercalate] using kept
      · rw [intercalate_cons group alone, List.filter_append, kept, List.flatten_cons,
          List.filter_cons_of_neg (by simp), ih later]

/-- The last rune of the last group is the last rune. -/
theorem intercalate_concat (groups : List (List Char)) (group : List Char) (last : Char) :
    [separator].intercalate (groups ++ [group ++ [last]]) =
      [separator].intercalate (groups ++ [group]) ++ [last] := by
  induction groups with
  | nil => simp [List.intercalate]
  | cons first rest ih =>
      rw [List.cons_append, List.cons_append, intercalate_cons first (by simp),
        intercalate_cons first (by simp), ih]
      simp

end Joined

/-- A canonical UID is its last digit behind 31 digits in groups. -/
theorem CanonicalUid.cut {uid : String} (canonical : CanonicalUid uid) :
    ∃ (groups : List (List Char)) (last : Char), groups.map List.length = [8, 4, 4, 4, 11] ∧
      (∀ group ∈ groups, ∀ digit ∈ group, HexDigit digit) ∧ HexDigit last ∧
      uid.toList = ['-'].intercalate groups ++ [last] := by
  obtain ⟨groups, sizes, digits, text⟩ := canonical
  obtain ⟨front, back, rfl, frontSizes, backSizes⟩ :=
    List.map_eq_append_iff.mp (show groups.map List.length = [8, 4, 4, 4] ++ [12] from sizes)
  obtain ⟨group, rfl, size⟩ : ∃ group, back = [group] ∧ group.length = 12 := by
    obtain ⟨group, rest, rfl, size, none⟩ := List.map_eq_cons_iff.mp backSizes
    exact ⟨group, by rw [List.map_eq_nil_iff.mp none], size⟩
  obtain ⟨start, last, rfl⟩ : ∃ start last, group = start ++ [last] := by
    have nonempty : group ≠ [] := by
      rintro rfl
      cases size
    exact ⟨_, _, (List.dropLast_append_getLast nonempty).symm⟩
  obtain ⟨frontDigits, backDigits⟩ := List.forall_mem_append.mp digits
  have whole := backDigits _ List.mem_cons_self
  refine ⟨front ++ [start], last, ?_, ?_, ?_, ?_⟩
  · have shorter : start.length = 11 := by simpa using size
    simp [frontSizes, shorter]
  · refine List.forall_mem_append.mpr ⟨frontDigits, List.forall_mem_singleton.mpr ?_⟩
    exact fun digit member => whole digit (List.mem_append_left _ member)
  · exact whole last (by simp)
  · rw [text, intercalate_concat]

/-! ## Names -/

theorem undashed {groups : List (List Char)}
    (digits : ∀ group ∈ groups, ∀ digit ∈ group, HexDigit digit) :
    ∀ group ∈ groups, '-' ∉ group :=
  fun group member dash => (digits group member '-' dash).ne_dash rfl

theorem utf8Len_of_single {letters : List Char}
    (single : ∀ letter ∈ letters, letter.utf8Size = 1) :
    String.utf8Len letters = letters.length := by
  induction letters with
  | nil => rfl
  | cons letter rest ih =>
      obtain ⟨one, others⟩ := List.forall_mem_cons.mp single
      rw [String.utf8Len_cons, ih others, one, List.length_cons]

theorem name_single {groups : List (List Char)}
    (digits : ∀ group ∈ groups, ∀ digit ∈ group, HexDigit digit) :
    ∀ letter ∈ 'a' :: groups.flatten, letter.utf8Size = 1 := by
  refine List.forall_mem_cons.mpr ⟨rfl, fun letter member => ?_⟩
  obtain ⟨group, present, inside⟩ := List.mem_flatten.mp member
  exact (digits group present letter inside).utf8Size

/-- The name keeps all digits but the last. -/
theorem getLoadBalancerName_cut {service : KubeService} {groups : List (List Char)}
    {last : Char} (sizes : groups.map List.length = [8, 4, 4, 4, 11])
    (digits : ∀ group ∈ groups, ∀ digit ∈ group, HexDigit digit) (digit : HexDigit last)
    (text : service.uid.toList = ['-'].intercalate groups ++ [last]) :
    getLoadBalancerName service = String.ofList ('a' :: groups.flatten) := by
  have kept : replaceAll ("a" ++ service.uid) "-" "" =
      String.ofList ('a' :: groups.flatten ++ [last]) := by
    rw [show ("-" : String) = String.singleton '-' from rfl, replaceAll_drop,
      String.toList_append, text, List.filter_append, List.filter_append,
      filter_intercalate (undashed digits)]
    have lastKept : [last].filter (· ≠ '-') = [last] := by simp [digit.ne_dash]
    rw [lastKept]
    rfl
  have size : ('a' :: groups.flatten).length = 32 := by
    rw [List.length_cons, List.length_flatten, sizes]
    rfl
  have single : ∀ letter ∈ 'a' :: groups.flatten ++ [last], letter.utf8Size = 1 :=
    List.forall_mem_append.mpr ⟨name_single digits, by simp [digit.utf8Size]⟩
  unfold getLoadBalancerName cutBytes
  simp only [kept, String.utf8ByteSize_ofList, String.toList_ofList]
  rw [utf8Len_of_single single, takeBytes_of_single single, List.length_append, size,
    if_pos (by simp), List.take_left' size]

section Canonical

variable {first second service : KubeService}

theorem name_size (canonical : CanonicalUid service.uid) :
    (getLoadBalancerName service).utf8ByteSize = 32 := by
  obtain ⟨groups, last, sizes, digits, digit, text⟩ := canonical.cut
  rw [getLoadBalancerName_cut sizes digits digit text, String.utf8ByteSize_ofList,
    utf8Len_of_single (name_single digits), List.length_cons, List.length_flatten, sizes]
  rfl

/-- Canonical UIDs give one name exactly when they agree up to the last digit. -/
theorem name_eq_iff (one : CanonicalUid first.uid) (two : CanonicalUid second.uid) :
    getLoadBalancerName first = getLoadBalancerName second ↔
      first.uid.toList.dropLast = second.uid.toList.dropLast := by
  obtain ⟨groups, last, sizes, digits, digit, text⟩ := one.cut
  obtain ⟨others, other, otherSizes, otherDigits, otherDigit, otherText⟩ := two.cut
  rw [getLoadBalancerName_cut sizes digits digit text,
    getLoadBalancerName_cut otherSizes otherDigits otherDigit otherText, text, otherText,
    List.dropLast_concat, List.dropLast_concat]
  constructor
  · intro same
    have flat := (List.cons.inj (String.ofList_injective same)).2
    rw [List.eq_iff_flatten_eq.mpr ⟨flat, sizes.trans otherSizes.symm⟩]
  · intro same
    have flat := congrArg (List.filter (· ≠ '-')) same
    rw [filter_intercalate (undashed digits), filter_intercalate (undashed otherDigits)] at flat
    rw [flat]

end Canonical

/-! ## Load balancers of other names -/

/-- In every state of the run the load balancer of the name is as before. -/
def Untouched {α : Type} (name : String) (account : Account)
    (run : Run Choice Account Call Reply α) : Prop :=
  (∀ event ∈ run.log, event.after.slb.named name = account.slb.named name) ∧
    run.state.slb.named name = account.slb.named name

section Others

variable {name other : String} {account : Account}

/-- A program that keeps to one name leaves the others alone. -/
theorem untouched_of_ensures {α : Type} {may : Call → Prop} {program : Aliyun α}
    {post : Option α → View → Prop} (sole : Sole account.slb name) (different : other ≠ name)
    (ensured : program.Ensures (contract name (fun _ => True) may) post (view name account))
    (choices : Nat → Choice) :
    Untouched other account (program.run Account.answer choices account) := by
  have refines : Refines Account.answer (view name) (fun _ => True)
      (fun current => Sole current.slb name ∧
        current.slb.named other = account.slb.named other)
      (contract name (fun _ => True) may) := by
    apply contract_refines
    · rintro choice current request ⟨alone, same⟩ permitted -
      have effect := (effect_of_answer choice permitted).2
      exact ⟨effect.sole alone, (effect.named_other different).trans same⟩
    · rintro - current ⟨alone, -⟩
      exact alone
  obtain ⟨covered, -, last⟩ := ensured.run refines (fun _ => trivial) ⟨sole, rfl⟩
  refine ⟨fun event member => ?_, last.2⟩
  obtain ⟨-, -, -, after⟩ := covered event member
  exact after.2

theorem operation_untouched {provider : AliyunProvider} {table : LowerTable}
    {service : KubeService} (sole : SoleNames account)
    (different : other ≠ getLoadBalancerName service) (operation : Operation)
    (choices : Nat → Choice) :
    Untouched other account
      ((operation.program provider table service).run Account.answer choices account) := by
  cases operation with
  | get =>
      exact untouched_of_ensures (sole _) different
        (getLoadBalancerForService_ensures _).map choices
  | ensure order nodes =>
      exact untouched_of_ensures (sole _) different
        (ensureLoadBalancer_ensures provider order service nodes _).map choices
  | update order nodes =>
      exact untouched_of_ensures (sole _) different
        (updateLoadBalancer_ensures provider order service nodes _).map choices
  | delete =>
      exact untouched_of_ensures (sole _) different
        (ensureLoadBalancerDeleted_ensures _).map choices

/-- A lookup returns the load balancer of the name it looks for. -/
theorem getLoadBalancer_named {provider : AliyunProvider} {choices : Nat → Choice}
    {lb : LoadBalancer}
    (found : ((getLoadBalancer provider name).run Account.answer choices account).outcome =
      some (.ok (some lb))) :
    ∃ balancer, account.slb.named name = some balancer ∧ lb = balancer.describe := by
  have refines : Refines Account.answer (view name) (fun _ => True) (fun _ => True)
      (contract name (fun _ => True) Reads) := by
    apply contract_refines
    · intros
      trivial
    · rintro ⟨id, reads⟩
      cases reads
  obtain ⟨-, ⟨-, reply, same, whole, -⟩, -⟩ :=
    (getLoadBalancer_ensures (fun _ reads => reads) provider (view name account)).run refines
      (fun _ => trivial) trivial
  rw [found] at same
  cases same
  obtain ⟨balancer, named, described⟩ := Option.map_eq_some_iff.mp (whole _ rfl).symm
  exact ⟨balancer, named, described.symm⟩

end Others

/-! ## Two services -/

/-- What is promised of two services: different names of at most 32 bytes, no lookup for
one returns the load balancer of the other, and no operation on one touches it. -/
structure Apart (provider : AliyunProvider) (table : LowerTable)
    (first second : KubeService) : Prop where
  names : getLoadBalancerName first ≠ getLoadBalancerName second
  short : (getLoadBalancerName first).utf8ByteSize ≤ 32 ∧
    (getLoadBalancerName second).utf8ByteSize ≤ 32
  handed : ∀ account, SoleNames account → ∀ choices lb,
    ((getLoadBalancer provider (getLoadBalancerName first)).run Account.answer choices
      account).outcome = some (.ok (some lb)) →
    ∀ balancer, account.slb.named (getLoadBalancerName second) = some balancer →
      lb.loadBalancerId ≠ balancer.id
  spared : ∀ account, SoleNames account → ∀ (operation : Operation) choices,
    Untouched (getLoadBalancerName second) account
      ((operation.program provider table first).run Account.answer choices account)

theorem apart_of_names {provider : AliyunProvider} {table : LowerTable}
    {first second : KubeService} (one : CanonicalUid first.uid) (two : CanonicalUid second.uid)
    (names : getLoadBalancerName first ≠ getLoadBalancerName second) :
    Apart provider table first second where
  names := names
  short := ⟨Nat.le_of_eq (name_size one), Nat.le_of_eq (name_size two)⟩
  handed := by
    intro account _ choices lb found balancer theirs same
    obtain ⟨own, named, rfl⟩ := getLoadBalancer_named found
    obtain ⟨member, itsName⟩ := named_mem named
    obtain ⟨present, otherName⟩ := named_mem theirs
    rw [balancer_unique account.slb member present same] at itsName
    exact names (itsName.symm.trans otherName)
  spared := by
    intro account sole operation choices
    exact operation_untouched sole names.symm operation choices

/-- Services with canonical UIDs are kept apart exactly when the UIDs differ before
their last digit. -/
theorem apart_iff (provider : AliyunProvider) (table : LowerTable)
    {first second : KubeService} (one : CanonicalUid first.uid)
    (two : CanonicalUid second.uid) :
    Apart provider table first second ↔
      first.uid.toList.dropLast ≠ second.uid.toList.dropLast := by
  rw [Ne, ← name_eq_iff one two]
  exact ⟨fun apart => apart.names, apart_of_names one two⟩

/-! Three services: the second UID differs from the first in its last digit, the third
in its first. -/

def serviceOf (uid : String) : KubeService := { sampleService with uid }

def firstUid : String := "0f1e2d3c-4b5a-6978-8796-a5b4c3d2e1f0"

def secondUid : String := "0f1e2d3c-4b5a-6978-8796-a5b4c3d2e1f1"

def thirdUid : String := "1f1e2d3c-4b5a-6978-8796-a5b4c3d2e1f0"

theorem canonical_of_groups {uid : String} (groups : List String)
    (sizes : groups.map String.length = [8, 4, 4, 4, 12])
    (digits : (groups.all fun group => group.toList.all fun digit => decide (HexDigit digit)) =
      true) (text : uid.toList = ['-'].intercalate (groups.map String.toList)) :
    CanonicalUid uid := by
  refine ⟨groups.map String.toList, ?_, ?_, text⟩
  · rw [List.map_map, ← sizes]
    exact List.map_congr_left fun group _ => String.length_toList
  · intro letters member digit inside
    obtain ⟨group, present, rfl⟩ := List.mem_map.mp member
    have all := List.all_eq_true.mp digits group present
    exact of_decide_eq_true (List.all_eq_true.mp all digit inside)

theorem firstUid_canonical : CanonicalUid firstUid :=
  canonical_of_groups ["0f1e2d3c", "4b5a", "6978", "8796", "a5b4c3d2e1f0"] rfl (by decide)
    (by decide)

theorem secondUid_canonical : CanonicalUid secondUid :=
  canonical_of_groups ["0f1e2d3c", "4b5a", "6978", "8796", "a5b4c3d2e1f1"] rfl (by decide)
    (by decide)

theorem thirdUid_canonical : CanonicalUid thirdUid :=
  canonical_of_groups ["1f1e2d3c", "4b5a", "6978", "8796", "a5b4c3d2e1f0"] rfl (by decide)
    (by decide)

theorem apart_sample : CanonicalUid firstUid ∧ CanonicalUid thirdUid ∧
    Apart sampleProvider .identity (serviceOf firstUid) (serviceOf thirdUid) := by
  refine ⟨firstUid_canonical, thirdUid_canonical, ?_⟩
  have differ : firstUid.toList.dropLast ≠ thirdUid.toList.dropLast := by decide
  exact (@apart_iff sampleProvider .identity (serviceOf firstUid) (serviceOf thirdUid)
    firstUid_canonical thirdUid_canonical).mpr differ

def madeForSecond : Account where
  ecs := sampleEcs
  slb := ⟨[⟨"lb-1", "a0f1e2d3c4b5a69788796a5b4c3d2e1f", "1.2.3.4", .empty⟩],
    List.nodup_singleton _⟩

theorem firstUid_name :
    getLoadBalancerName (serviceOf firstUid) = "a0f1e2d3c4b5a69788796a5b4c3d2e1f" := by
  unfold getLoadBalancerName
  rw [show ("-" : String) = String.singleton '-' from rfl, replaceAll_drop]
  decide +kernel

/-- The names of the first two services are the same, and deleting the load balancer of
the first deletes that of the second. -/
theorem last_digit_lost :
    let run := (ensureLoadBalancerDeleted sampleProvider (serviceOf firstUid)).run
      Account.answer sampleChoices madeForSecond
    CanonicalUid firstUid ∧ CanonicalUid secondUid ∧ firstUid ≠ secondUid ∧
      getLoadBalancerName (serviceOf firstUid) = getLoadBalancerName (serviceOf secondUid) ∧
      madeForSecond.slb.balancers.map Balancer.name =
        [getLoadBalancerName (serviceOf secondUid)] ∧
      run.outcome = some none ∧ run.state.slb.balancers.map Balancer.name = [] := by
  have same : getLoadBalancerName (serviceOf firstUid) =
      getLoadBalancerName (serviceOf secondUid) :=
    (name_eq_iff firstUid_canonical secondUid_canonical).mpr (by decide)
  unfold ensureLoadBalancerDeleted
  rw [← same, firstUid_name]
  exact ⟨firstUid_canonical, secondUid_canonical, by decide, rfl, rfl, by decide, by decide⟩

end KubeAliyun.Balancer
