import KubeAliyun.Volume.Reads

/-!
# Searching all pages

`getDiskByDevice` asks for the disks of an instance page by page until it has found
the device or `NextPage` says that there are no more pages.
-/

namespace KubeAliyun.Volume

open KubeAliyun.Cloud KubeAliyun.Provider KubeAliyun.Remote KubeAliyun.Text

/-! ## Pages -/

section Pages

variable {α : Type} (items : List α) (size : Nat)

/-- The items of a page; page 0 is read as page 1. -/
def pageOf (number : Nat) : List α :=
  (items.drop ((max 1 number - 1) * size)).take size

/-- The items of the pages before a page, which is not the first. -/
theorem take_page (number : Nat) :
    items.take ((number + 1) * size) =
      items.take (number * size) ++ pageOf items size (number + 1) := by
  have start : max 1 (number + 1) - 1 = number := by omega
  rw [pageOf, start, Nat.succ_mul, List.take_add]

end Pages

/-- In the states that `holds` describes the service has this list of disks of an
instance and answers with its pages. -/
def PagesDisks {ω σ : Type} (service : Service ω σ Call Reply) (holds : σ → Prop)
    (region instanceId : String) (disks : List DiskItem) : Prop :=
  ∀ choice state page, holds state → 1 ≤ page.pageSize →
    ∃ number after, (number = page.pageNumber ∨ number = max 1 page.pageNumber) ∧
      holds after ∧
      service choice state (.ecs (.describeDisks ⟨region, [], instanceId, page⟩)) =
        (.ok (pageOf disks page.pageSize page.pageNumber,
          ⟨disks.length, number, page.pageSize⟩), after)

/-! ## The loop -/

def located (disks : List DiskItem) (device : String) : Except GoError DiskItem :=
  (disks.find? fun disk => sameDevice disk.device device).elim
    (.error (deviceNotFound device)) .ok

section Search

variable {ω σ : Type} {service : Service ω σ Call Reply} {holds : σ → Prop}
  {provider : AliyunProvider} {instanceId : String} {disks : List DiskItem}

/-- A page with the device ends the loop. -/
theorem searchDevice_found
    (paged : PagesDisks service holds provider.region instanceId disks) {device : String}
    (fuel : Nat) {number size : Nat} (positive : 1 ≤ size) (choices : Nat → ω) {state : σ}
    (held : holds state) {disk : DiskItem}
    (found : (pageOf disks size number).find? (fun disk => sameDevice disk.device device) =
      some disk) :
    ((searchDevice provider instanceId device (fuel + 1) ⟨number, size⟩).run service choices
      state).outcome = some (some (.ok disk)) := by
  obtain ⟨reported, after, -, -, answered⟩ :=
    paged (choices 0) state ⟨number, size⟩ held positive
  have run : (searchDevice provider instanceId device (fuel + 1) ⟨number, size⟩).run service
      choices state = _ := Prog.run_ask_of_answer answered
  simp only [Prog.bind, found] at run
  rw [run]
  rfl

/-- A page without the device is followed by the next one, unless it is the last. -/
theorem searchDevice_missed
    (paged : PagesDisks service holds provider.region instanceId disks) {device : String}
    (fuel : Nat) {number size : Nat} (positive : 1 ≤ size) (choices : Nat → ω) {state : σ}
    (held : holds state)
    (missed : (pageOf disks size number).find? (fun disk => sameDevice disk.device device) =
      none) :
    ∃ reported after, (reported = number ∨ reported = max 1 number) ∧ holds after ∧
      ((searchDevice provider instanceId device (fuel + 1) ⟨number, size⟩).run service choices
          state).outcome =
        if reported * size ≥ disks.length then some (some (.error (deviceNotFound device)))
        else
          ((searchDevice provider instanceId device fuel ⟨reported + 1, size⟩).run service
            (later choices) after).outcome := by
  obtain ⟨reported, after, numbered, kept, answered⟩ :=
    paged (choices 0) state ⟨number, size⟩ held positive
  refine ⟨reported, after, numbered, kept, ?_⟩
  have run : (searchDevice provider instanceId device (fuel + 1) ⟨number, size⟩).run service
      choices state = _ := Prog.run_ask_of_answer answered
  simp only [Prog.bind, missed, PaginationResult.nextPage] at run
  rw [run]
  by_cases last : reported * size ≥ disks.length
  · simp only [if_pos last]
    rfl
  · simp only [if_neg last]

/-- A page without the device, after others without it. -/
theorem missed_page {device : String} {number : Nat}
    (before : ∀ disk ∈ disks.take (number * 50), sameDevice disk.device device = false)
    (missed : (pageOf disks 50 (number + 1)).find?
      (fun disk => sameDevice disk.device device) = none) :
    ∀ disk ∈ disks.take ((number + 1) * 50), sameDevice disk.device device = false := by
  intro disk member
  rw [take_page, List.mem_append] at member
  rcases member with earlier | here
  · exact before disk earlier
  · exact eq_false_of_ne_true (List.find?_eq_none.mp missed disk here)

theorem find_missed {list : List DiskItem} {device : String}
    (missed : ∀ disk ∈ list, sameDevice disk.device device = false) :
    list.find? (fun disk => sameDevice disk.device device) = none := by
  rw [List.find?_eq_none]
  intro disk member same
  rw [missed disk member] at same
  cases same

/-- The first page with the device holds the first such disk of the list. -/
theorem located_of_page {device : String} {number : Nat} {disk : DiskItem}
    (before : ∀ disk ∈ disks.take (number * 50), sameDevice disk.device device = false)
    (found : (pageOf disks 50 (number + 1)).find?
      (fun disk => sameDevice disk.device device) = some disk) :
    located disks device = .ok disk := by
  have split := List.take_append_drop ((number + 1) * 50) disks
  rw [take_page, List.append_assoc] at split
  rw [located, ← split, List.find?_append, find_missed before, List.find?_append, found]
  rfl

theorem located_of_all {device : String}
    (missed : ∀ disk ∈ disks, sameDevice disk.device device = false) :
    located disks device = .error (deviceNotFound device) := by
  rw [located, find_missed missed]
  rfl

/-- A round at page `number + 1`, when the pages before it do not hold the device: the
search is over, or it goes on at the next page. -/
theorem searchDevice_round
    (paged : PagesDisks service holds provider.region instanceId disks) {device : String}
    (fuel : Nat) {number : Nat} (choices : Nat → ω) {state : σ} (held : holds state)
    (before : ∀ disk ∈ disks.take (number * 50), sameDevice disk.device device = false) :
    ((searchDevice provider instanceId device (fuel + 1) ⟨number + 1, 50⟩).run service choices
        state).outcome = some (some (located disks device)) ∨
      (number + 1) * 50 < disks.length ∧
      (∀ disk ∈ disks.take ((number + 1) * 50), sameDevice disk.device device = false) ∧
      ∃ after, holds after ∧
        ((searchDevice provider instanceId device (fuel + 1) ⟨number + 1, 50⟩).run service
            choices state).outcome =
          ((searchDevice provider instanceId device fuel ⟨number + 2, 50⟩).run service
            (later choices) after).outcome := by
  cases search : (pageOf disks 50 (number + 1)).find?
      (fun disk => sameDevice disk.device device) with
  | some disk =>
      left
      rw [searchDevice_found paged fuel (by decide) choices held search,
        located_of_page before search]
  | none =>
      have all := missed_page before search
      obtain ⟨reported, after, numbered, kept, outcome⟩ :=
        searchDevice_missed paged fuel (by decide) choices held search
      obtain rfl : reported = number + 1 := by omega
      by_cases last : (number + 1) * 50 ≥ disks.length
      · left
        rw [List.take_of_length_le last] at all
        rw [outcome, if_pos last, located_of_all all]
      · right
        rw [if_neg last] at outcome
        exact ⟨by omega, all, after, kept, outcome⟩

/-- The rounds from page `number + 1` on, with fuel for the pages that are left. -/
theorem searchDevice_from
    (paged : PagesDisks service holds provider.region instanceId disks) {device : String}
    (fuel : Nat) {number : Nat} (choices : Nat → ω) {state : σ} (held : holds state)
    (before : ∀ disk ∈ disks.take (number * 50), sameDevice disk.device device = false)
    (enough : disks.length ≤ (number + 1 + fuel) * 50) :
    ((searchDevice provider instanceId device (fuel + 1) ⟨number + 1, 50⟩).run service choices
      state).outcome = some (some (located disks device)) := by
  induction fuel generalizing number choices state with
  | zero =>
      rcases searchDevice_round paged 0 choices held before with finished | ⟨more, -⟩
      · exact finished
      · omega
  | succ fuel ih =>
      rcases searchDevice_round paged (fuel + 1) choices held before with
        finished | ⟨-, missed, after, kept, next⟩
      · exact finished
      · rw [next]
        exact ih (later choices) kept missed (by omega)

/-- The whole search: page 0 is page 1, and the service may report it as either. -/
theorem getDiskByDevice_located
    (paged : PagesDisks service holds provider.region instanceId disks) (device : String)
    {fuel : Nat} (enough : disks.length / 50 + 2 ≤ fuel) (choices : Nat → ω) {state : σ}
    (held : holds state) :
    ((getDiskByDevice provider instanceId device fuel).run service choices state).outcome =
      some (some (located disks device)) := by
  obtain ⟨left, rfl⟩ : ∃ left, fuel = left + 1 + 1 := ⟨fuel - 2, by omega⟩
  have nothing : ∀ disk ∈ disks.take (0 * 50), sameDevice disk.device device = false := by
    simp
  rw [getDiskByDevice]
  cases search : (pageOf disks 50 0).find? (fun disk => sameDevice disk.device device) with
  | some disk =>
      rw [searchDevice_found paged (left + 1) (by decide) choices held search,
        located_of_page nothing search]
  | none =>
      obtain ⟨reported, after, numbered, kept, outcome⟩ :=
        searchDevice_missed paged (left + 1) (by decide) choices held search
      rw [outcome]
      by_cases last : reported * 50 ≥ disks.length
      · have all := missed_page nothing search
        rw [List.take_of_length_le (by omega)] at all
        rw [if_pos last, located_of_all all]
      · rw [if_neg last]
        rcases numbered with rfl | rfl
        · exact searchDevice_from paged left (later choices) kept nothing (by omega)
        · exact searchDevice_from paged left (later choices) kept
            (missed_page nothing search) (by omega)

end Search

/-! ## Device names -/

/-- The API name of a device and its name in the system are the same device. -/
theorem sameDevice_prefixes {suffix : String}
    (absent : ¬ "/dev/xvd".toList <:+: suffix.toList) :
    sameDevice ("/dev/xvd" ++ suffix) ("/dev/vd" ++ suffix) = true := by
  have api : deviceApi2Local ("/dev/xvd" ++ suffix) = "/dev/vd" ++ suffix := by
    rw [deviceApi2Local, replaceFirst, String.toList_append,
      replaceFrom_start (by decide), String.ofList_append, String.ofList_toList,
      String.ofList_toList]
  have inside : ¬ "/dev/xvd".toList <:+: ("/dev/vd" ++ suffix).toList := by
    rw [String.toList_append]
    simpa [List.infix_cons_iff] using absent
  have system : deviceApi2Local ("/dev/vd" ++ suffix) = "/dev/vd" ++ suffix := by
    rw [deviceApi2Local, replaceFirst, replaceFrom_absent _ _ _ inside, String.ofList_toList]
  rw [sameDevice, api, system]
  exact beq_self_eq_true _

/-- The search ends after at most one query a page and one more, with the first disk
at the device, on whichever page it is, or with a not-found error; and the two names of
a device are not told apart. -/
theorem getDiskByDevice_searches_all {ω σ : Type} {service : Service ω σ Call Reply}
    {holds : σ → Prop} {provider : AliyunProvider} {instanceId : String}
    {disks : List DiskItem}
    (paged : PagesDisks service holds provider.region instanceId disks) (device : String)
    {fuel : Nat} (enough : disks.length / 50 + 2 ≤ fuel) (choices : Nat → ω) {state : σ}
    (held : holds state) :
    (∀ front disk back, disks = front ++ disk :: back →
      (∀ other ∈ front, sameDevice other.device device = false) →
      sameDevice disk.device device = true →
      ((getDiskByDevice provider instanceId device fuel).run service choices state).outcome =
        some (some (.ok disk))) ∧
    ((∀ disk ∈ disks, sameDevice disk.device device = false) →
      ((getDiskByDevice provider instanceId device fuel).run service choices state).outcome =
        some (some (.error (deviceNotFound device)))) ∧
    ∀ suffix : String, ¬ "/dev/xvd".toList <:+: suffix.toList →
      ¬ "/dev/vd".toList <:+: suffix.toList →
      sameDevice ("/dev/xvd" ++ suffix) ("/dev/vd" ++ suffix) = true := by
  have outcome := getDiskByDevice_located paged device enough choices held
  refine ⟨?_, ?_, ?_⟩
  · intro front disk back split before here
    have first : disks.find? (fun disk => sameDevice disk.device device) = some disk := by
      rw [List.find?_eq_some_iff_append]
      exact ⟨here, front, back, split, fun other member => by simp [before other member]⟩
    rw [outcome, located, first]
    rfl
  · intro missed
    rw [outcome, located_of_all missed]
  · intro suffix absent _
    exact sameDevice_prefixes absent

/-- An account at rest pages the disks of each instance. -/
theorem account_pagesDisks (account : Account) (region instanceId : String) :
    PagesDisks (fun _ : Unit => Account.answer (serving fun _ => false)) (· = account) region
      instanceId (account.ecs.describedDisks ⟨region, [], instanceId, ⟨0, 50⟩⟩) := by
  rintro ⟨⟩ state page rfl positive
  refine ⟨max 1 page.pageNumber, state, Or.inr rfl, rfl, ?_⟩
  have size : (if page.pageSize = 0 then state.ecs.defaultPageSize else page.pageSize) =
      page.pageSize := if_neg (by omega)
  have quiet := settledFor_quiet state
    (show ∀ diskId, (serving fun _ => false).settles diskId = false from fun _ => rfl)
  calc
    Account.answer (serving fun _ => false) state
        (.ecs (.describeDisks ⟨region, [], instanceId, page⟩)) =
      (.ok (paginate (settledFor (serving fun _ => false) state).ecs.defaultPageSize page
        ((settledFor (serving fun _ => false) state).ecs.describedDisks
          ⟨region, [], instanceId, ⟨0, 50⟩⟩)), settledFor (serving fun _ => false) state) := rfl
    _ = _ := by
      rw [quiet, paginate, size]
      rfl

def numberedDisk (index : Nat) : DiskItem :=
  ⟨"d-" ++ toString index, .inUse, "i-2", "/dev/xvd" ++ toString index⟩

/-- More disks on the second node than a page of the search holds. -/
def twoPages : Account where
  ecs :=
    { twoDisks.ecs with
      disks := (List.range 52).map numberedDisk
      idsDistinct := by decide +kernel }
  slb := twoDisks.slb

theorem getDiskByDevice_sample :
    (twoPages.ecs.describedDisks ⟨twoNodes.region, [], "i-2", ⟨0, 50⟩⟩).length = 52 ∧
    ((getDiskByDevice twoNodes "i-2" "/dev/vd51" 3).run
      (fun _ : Unit => Account.answer (serving fun _ => false)) (fun _ => ())
      twoPages).outcome = some (some (.ok ⟨"d-51", .inUse, "i-2", "/dev/xvd51"⟩)) :=
  ⟨by decide +kernel,
    (getDiskByDevice_searches_all (account_pagesDisks twoPages twoNodes.region "i-2")
      "/dev/vd51" (by decide +kernel) (fun _ => ()) rfl).1
      ((List.range 51).map numberedDisk) _ []
      (by decide +kernel) (by decide +kernel) (by decide +kernel)⟩

end KubeAliyun.Volume
