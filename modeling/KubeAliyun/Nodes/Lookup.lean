import KubeAliyun.Volume.Reads

/-!
# Looking up nodes

`utils.go` finds the instance of a node by filtering the inventory.  The lookup
of several names filters what the name before has left, and the inventory is the
first page that the service returns.
-/

namespace KubeAliyun.Nodes

open KubeAliyun.Cloud KubeAliyun.Provider KubeAliyun.Remote KubeAliyun.Volume

/-! ## Lookups in an inventory -/

def matching (nodeNameType : NodeNameType) (inventory : List InstanceAttributes)
    (nodeName : String) : List InstanceAttributes :=
  inventory.filter (nodeNameType.by nodeName)

theorem theInstance_ok_iff (nodeName : String) (candidates : List InstanceAttributes)
    (found : InstanceAttributes) :
    theInstance nodeName candidates = .ok found ↔ candidates = [found] := by
  match candidates with
  | [] => simp [theInstance]
  | [only] => simp [theInstance]
  | first :: second :: rest => simp [theInstance]

/-- A single lookup succeeds when the name fits exactly one instance. -/
theorem instanceByNodeName_ok_iff (nodeNameType : NodeNameType)
    (inventory : List InstanceAttributes) (nodeName : String) (found : InstanceAttributes) :
    instanceByNodeName nodeNameType inventory nodeName = .ok found ↔
      matching nodeNameType inventory nodeName = [found] :=
  theInstance_ok_iff nodeName _ found

/-- Once one instance is left, the names to come have to fit it. -/
theorem instancesByNodeNames_left (nodeNameType : NodeNameType) (left : InstanceAttributes)
    (names : List String) (results : List InstanceAttributes) :
    instancesByNodeNames nodeNameType [left] names = .ok results ↔
      (∀ name ∈ names, nodeNameType.by name left) ∧ results = names.map fun _ => left := by
  induction names generalizing results with
  | nil =>
      rw [instancesByNodeNames, Except.ok.injEq, List.map_nil, eq_comm]
      simp
  | cons name rest ih =>
      rw [instancesByNodeNames]
      by_cases fits : nodeNameType.by name left
      · have kept : [left].filter (nodeNameType.by name) = [left] := by simp [fits]
        simp only [kept, theInstance]
        cases later : instancesByNodeNames nodeNameType [left] rest with
        | error failure =>
            simp only [later, reduceCtorEq, false_iff] at ih
            simp only [reduceCtorEq, List.map_cons, List.forall_mem_cons, false_iff]
            rintro ⟨⟨-, others⟩, -⟩
            exact ih _ ⟨others, rfl⟩
        | ok found =>
            obtain ⟨others, rfl⟩ := (ih found).mp later
            simp only [Except.ok.injEq, List.map_cons, List.forall_mem_cons]
            constructor
            · rintro rfl
              exact ⟨⟨fits, others⟩, rfl⟩
            · rintro ⟨-, rfl⟩
              rfl
      · have gone : [left].filter (nodeNameType.by name) = [] := by simp [fits]
        simp only [gone, theInstance, reduceCtorEq, List.forall_mem_cons, false_iff]
        rintro ⟨⟨fit, -⟩, -⟩
        exact fits fit

/-- A lookup of several names succeeds when the first one fits one instance and all
others fit it too; the result is that instance again and again. -/
theorem instancesByNodeNames_cons (nodeNameType : NodeNameType)
    (inventory : List InstanceAttributes) (first : String) (rest : List String)
    (results : List InstanceAttributes) :
    instancesByNodeNames nodeNameType inventory (first :: rest) = .ok results ↔
      ∃ found, matching nodeNameType inventory first = [found] ∧
        (∀ name ∈ rest, nodeNameType.by name found) ∧
        results = found :: rest.map fun _ => found := by
  rw [instancesByNodeNames]
  cases one : theInstance first (inventory.filter (nodeNameType.by first)) with
  | error failure =>
      simp only [reduceCtorEq, false_iff]
      rintro ⟨found, single, -⟩
      have found := (theInstance_ok_iff first _ found).mpr single
      exact absurd (one.symm.trans found) (by simp)
  | ok found =>
      have single : matching nodeNameType inventory first = [found] :=
        (theInstance_ok_iff first _ found).mp one
      have same : inventory.filter (nodeNameType.by first) = [found] := single
      simp only [same]
      constructor
      · intro succeeded
        cases later : instancesByNodeNames nodeNameType [found] rest with
        | error failure =>
            rw [later] at succeeded
            cases succeeded
        | ok others =>
            rw [later] at succeeded
            cases succeeded
            obtain ⟨fit, rfl⟩ := (instancesByNodeNames_left _ _ _ _).mp later
            exact ⟨found, single, fit, rfl⟩
      · rintro ⟨other, alone, fit, rfl⟩
        rw [single] at alone
        cases alone
        rw [(instancesByNodeNames_left _ _ _ _).mpr ⟨fit, rfl⟩]

/-! ## Runs -/

def Served (choices : Nat → Choice) : Prop := ∀ index, (choices index).fate = .served

def served : Nat → Choice := fun _ => serving fun _ => false

theorem served_served : Served served := fun _ => rfl

theorem getInstanceByNodeName_outcome (provider : AliyunProvider) (nodeName : String)
    {choices : Nat → Choice} (answered : (choices 0).fate = .served) (account : Account) :
    ((getInstanceByNodeName provider nodeName).run Account.answer choices account).outcome =
      some (instanceByNodeName provider.nodeNameType account.ecs.visible nodeName) := by
  obtain ⟨event, run⟩ := getInstanceByNodeName_run provider nodeName choices account
  rw [run, lookupNode, if_pos answered]

theorem getInstancesByNodeNames_outcome (provider : AliyunProvider) (names : List String)
    {choices : Nat → Choice} (answered : (choices 0).fate = .served) (account : Account) :
    ((getInstancesByNodeNames provider names).run Account.answer choices account).outcome =
      some (instancesByNodeNames provider.nodeNameType account.ecs.visible names) := by
  obtain ⟨event, run⟩ := getInstances_run provider choices account
  unfold getInstancesByNodeNames
  rw [Prog.run_bind_of_run run, inventoryFor, if_pos answered]
  rfl

/-! ## Several names at once -/

/-- Looking up names together succeeds when each lookup alone does, with the same
instances in the order of the names. -/
def BatchAgrees (provider : AliyunProvider) (account : Account) (names : List String) :
    Prop :=
  ∀ choices, Served choices →
    let single (name : String) :=
      ((getInstanceByNodeName provider name).run Account.answer choices account).outcome
    let batch :=
      ((getInstancesByNodeNames provider names).run Account.answer choices account).outcome
    ((∃ results, batch = some (.ok results)) ↔
        ∀ name ∈ names, ∃ found, single name = some (.ok found)) ∧
      ∀ results, batch = some (.ok results) →
        List.Forall₂ (fun name found => single name = some (.ok found)) names results

/-- The names after the first one add nothing that matters: either the first fits no
single instance, or all others fit just that instance, or one of the others fits
no single instance while one, perhaps another, does not fit that instance. -/
def FirstNameDecides (nodeNameType : NodeNameType) (inventory : List InstanceAttributes) :
    List String → Prop
  | [] => True
  | first :: rest => ∀ found, matching nodeNameType inventory first = [found] →
      (∀ name ∈ rest, matching nodeNameType inventory name = [found]) ∨
        ((∃ name ∈ rest, nodeNameType.by name found = false) ∧
          ∃ name ∈ rest, ∀ other, matching nodeNameType inventory name ≠ [other])

theorem mem_of_matching {nodeNameType : NodeNameType} {inventory : List InstanceAttributes}
    {name : String} {found : InstanceAttributes}
    (single : matching nodeNameType inventory name = [found]) : found ∈ inventory := by
  have member : found ∈ matching nodeNameType inventory name := by simp [single]
  exact (List.mem_filter.mp member).1

/-- An instance that a name fits is among those the name fits. -/
theorem eq_of_matching {nodeNameType : NodeNameType} {inventory : List InstanceAttributes}
    {first name : String} {found other : InstanceAttributes}
    (one : matching nodeNameType inventory first = [found])
    (single : matching nodeNameType inventory name = [other])
    (fits : nodeNameType.by name found) : other = found := by
  have member : found ∈ matching nodeNameType inventory name :=
    List.mem_filter.mpr ⟨mem_of_matching one, fits⟩
  rw [single] at member
  exact (List.mem_singleton.mp member).symm

theorem fits_of_matching {nodeNameType : NodeNameType} {inventory : List InstanceAttributes}
    {name : String} {found : InstanceAttributes}
    (single : matching nodeNameType inventory name = [found]) :
    nodeNameType.by name found := by
  have member : found ∈ matching nodeNameType inventory name := by simp [single]
  exact (List.mem_filter.mp member).2

def AgreesIn (nodeNameType : NodeNameType) (inventory : List InstanceAttributes)
    (names : List String) : Prop :=
  ((∃ results, instancesByNodeNames nodeNameType inventory names = .ok results) ↔
      ∀ name ∈ names, ∃ found, matching nodeNameType inventory name = [found]) ∧
    ∀ results, instancesByNodeNames nodeNameType inventory names = .ok results →
      List.Forall₂ (fun name found => matching nodeNameType inventory name = [found])
        names results

/-- The lookups agree when they do in the inventory that the service shows. -/
theorem batchAgrees_iff_inventory (provider : AliyunProvider) (account : Account)
    (names : List String) :
    BatchAgrees provider account names ↔
      AgreesIn provider.nodeNameType account.ecs.visible names := by
  have each : ∀ choices, Served choices →
      ((∀ name, ((getInstanceByNodeName provider name).run Account.answer choices
          account).outcome =
        some (instanceByNodeName provider.nodeNameType account.ecs.visible name)) ∧
      ((getInstancesByNodeNames provider names).run Account.answer choices account).outcome =
        some (instancesByNodeNames provider.nodeNameType account.ecs.visible names)) := by
    intro choices answered
    exact ⟨fun name => getInstanceByNodeName_outcome provider name (answered 0) account,
      getInstancesByNodeNames_outcome provider names (answered 0) account⟩
  constructor
  · intro agrees
    have here := agrees served served_served
    obtain ⟨single, batch⟩ := each served served_served
    simpa only [AgreesIn, single, batch, Option.some.injEq, instanceByNodeName_ok_iff] using here
  · intro agrees choices answered
    obtain ⟨single, batch⟩ := each choices answered
    simpa only [AgreesIn, single, batch, Option.some.injEq, instanceByNodeName_ok_iff]
      using agrees

section FirstName

variable {nodeNameType : NodeNameType} {inventory : List InstanceAttributes}
  {first : String} {rest : List String} {found : InstanceAttributes}

/-- The lookups agree on a failure that some name alone explains. -/
theorem agreesIn_of_fails {names : List String}
    (fails : ∀ results, instancesByNodeNames nodeNameType inventory names ≠ .ok results)
    (unresolved : ∃ name ∈ names, ∀ other, matching nodeNameType inventory name ≠ [other]) :
    AgreesIn nodeNameType inventory names := by
  obtain ⟨name, member, none⟩ := unresolved
  refine ⟨⟨fun ⟨results, succeeded⟩ => absurd succeeded (fails results), fun single => ?_⟩,
    fun results succeeded => absurd succeeded (fails results)⟩
  obtain ⟨other, alone⟩ := single name member
  exact absurd alone (none other)

/-- The lookup of several names after a first name that fits one instance. -/
theorem instancesByNodeNames_after (one : matching nodeNameType inventory first = [found])
    (results : List InstanceAttributes) :
    instancesByNodeNames nodeNameType inventory (first :: rest) = .ok results ↔
      (∀ name ∈ rest, nodeNameType.by name found) ∧
        results = found :: rest.map fun _ => found := by
  rw [instancesByNodeNames_cons, one]
  simp

theorem agreesIn_of_same (one : matching nodeNameType inventory first = [found])
    (all : ∀ name ∈ rest, matching nodeNameType inventory name = [found]) :
    AgreesIn nodeNameType inventory (first :: rest) := by
  have fit : ∀ name ∈ rest, nodeNameType.by name found :=
    fun name member => fits_of_matching (all name member)
  have single : ∀ name ∈ first :: rest, matching nodeNameType inventory name = [found] :=
    List.forall_mem_cons.mpr ⟨one, all⟩
  refine ⟨⟨fun _ name member => ⟨found, single name member⟩, fun _ =>
    ⟨_, (instancesByNodeNames_after one _).mpr ⟨fit, rfl⟩⟩⟩, fun results succeeded => ?_⟩
  obtain ⟨-, rfl⟩ := (instancesByNodeNames_after one _).mp succeeded
  refine List.Forall₂.cons one ?_
  rw [List.forall₂_map_right_iff, List.forall₂_same]
  exact all

theorem agreesIn_of_unfit (one : matching nodeNameType inventory first = [found])
    (unfit : ∃ name ∈ rest, nodeNameType.by name found = false)
    (unresolved : ∃ name ∈ rest, ∀ other, matching nodeNameType inventory name ≠ [other]) :
    AgreesIn nodeNameType inventory (first :: rest) := by
  obtain ⟨name, member, unfit⟩ := unfit
  obtain ⟨other, present, none⟩ := unresolved
  refine agreesIn_of_fails (fun results succeeded => ?_)
    ⟨other, List.mem_cons_of_mem _ present, none⟩
  obtain ⟨fit, -⟩ := (instancesByNodeNames_after one _).mp succeeded
  exact absurd (fit name member) (Bool.eq_false_iff.mp unfit)

theorem agreesIn_of_unresolved (none : ∀ other, matching nodeNameType inventory first ≠ [other]) :
    AgreesIn nodeNameType inventory (first :: rest) := by
  refine agreesIn_of_fails (fun results succeeded => ?_) ⟨first, List.mem_cons_self, none⟩
  obtain ⟨other, single, -⟩ := (instancesByNodeNames_cons _ _ _ _ _).mp succeeded
  exact none other single

theorem decides_of_agreesIn (agrees : AgreesIn nodeNameType inventory (first :: rest))
    (one : matching nodeNameType inventory first = [found]) :
    (∀ name ∈ rest, matching nodeNameType inventory name = [found]) ∨
      ((∃ name ∈ rest, nodeNameType.by name found = false) ∧
        ∃ name ∈ rest, ∀ other, matching nodeNameType inventory name ≠ [other]) := by
  by_cases fit : ∀ name ∈ rest, nodeNameType.by name found
  · -- the batch succeeds, so every name alone fits one instance, which is `found`
    refine Or.inl fun name member => ?_
    obtain ⟨other, single⟩ := agrees.1.mp ⟨_, (instancesByNodeNames_after one _).mpr ⟨fit, rfl⟩⟩
      name (List.mem_cons_of_mem _ member)
    rw [single, eq_of_matching one single (fit name member)]
  · -- the batch fails, so some name alone does, and it is not the first
    refine Or.inr ⟨by simpa using fit, ?_⟩
    by_contra alone
    push Not at alone
    obtain ⟨results, succeeded⟩ := agrees.1.mpr (List.forall_mem_cons.mpr ⟨⟨found, one⟩, alone⟩)
    exact fit ((instancesByNodeNames_after one _).mp succeeded).1

end FirstName

theorem batch_agrees_iff (provider : AliyunProvider) (account : Account)
    (names : List String) :
    BatchAgrees provider account names ↔
      FirstNameDecides provider.nodeNameType account.ecs.visible names := by
  rw [batchAgrees_iff_inventory]
  cases names with
  | nil => simp [AgreesIn, instancesByNodeNames, FirstNameDecides]
  | cons first rest =>
      refine ⟨fun agrees found one => decides_of_agreesIn agrees one, fun decides => ?_⟩
      by_cases one : ∃ found, matching provider.nodeNameType account.ecs.visible first = [found]
      · obtain ⟨found, one⟩ := one
        rcases decides found one with all | ⟨unfit, unresolved⟩
        · exact agreesIn_of_same one all
        · exact agreesIn_of_unfit one unfit unresolved
      · exact agreesIn_of_unresolved (not_exists.mp one)

/-- Two nodes, each of which is found, are not found together. -/
theorem two_nodes_not_found :
    (∀ name ∈ ["node-a", "node-b"], ∃ found,
      ((getInstanceByNodeName twoNodes name).run Account.answer served twoDisks).outcome =
        some (.ok found)) ∧
    ((getInstancesByNodeNames twoNodes ["node-a", "node-b"]).run Account.answer served
      twoDisks).outcome = some (.error (.plain "Unable to get instance of node:node-b")) ∧
    ¬BatchAgrees twoNodes twoDisks ["node-a", "node-b"] := by
  have single : ∀ name ∈ ["node-a", "node-b"], ∃ found,
      ((getInstanceByNodeName twoNodes name).run Account.answer served twoDisks).outcome =
        some (.ok found) := by
    intro name member
    rcases List.mem_cons.mp member with rfl | later
    · exact ⟨⟨"i-1", "node-a", ["10.0.0.1"]⟩, rfl⟩
    · rw [List.mem_singleton.mp later]
      exact ⟨⟨"i-2", "node-b", ["10.0.0.2"]⟩, rfl⟩
  have batch : ((getInstancesByNodeNames twoNodes ["node-a", "node-b"]).run Account.answer
      served twoDisks).outcome =
        some (.error (.plain "Unable to get instance of node:node-b")) := rfl
  refine ⟨single, batch, fun agrees => ?_⟩
  obtain ⟨results, found⟩ := (agrees served served_served).1.mpr single
  rw [batch] at found
  cases found

/-! ## The whole inventory -/

/-- The instances are all those of the inventory, and a node is found exactly when
one of them is its own. -/
def SeesInventory (provider : AliyunProvider) (account : Account) : Prop :=
  ∀ choices, Served choices →
    ((getInstances provider).run Account.answer choices account).outcome =
        some (.ok account.ecs.instances) ∧
      ∀ nodeName found,
        ((getInstanceByNodeName provider nodeName).run Account.answer choices
            account).outcome = some (.ok found) ↔
          matching provider.nodeNameType account.ecs.instances nodeName = [found]

theorem visible_eq (ecs : Ecs) : ecs.visible = ecs.instances.take ecs.defaultPageSize := by
  simp [Ecs.visible, paginate]

theorem visible_whole_iff (ecs : Ecs) :
    ecs.visible = ecs.instances ↔ ecs.instances.length ≤ ecs.defaultPageSize := by
  rw [visible_eq, List.take_eq_self_iff]

/-- The inventory is seen as a whole exactly when it fits on one page. -/
theorem sees_inventory_iff (provider : AliyunProvider) (account : Account) :
    SeesInventory provider account ↔
      account.ecs.instances.length ≤ account.ecs.defaultPageSize := by
  rw [← visible_whole_iff]
  constructor
  · intro sees
    obtain ⟨event, run⟩ := getInstances_run provider served account
    have whole := (sees served served_served).1
    rw [run, inventoryFor, if_pos (served_served 0)] at whole
    exact Except.ok.inj (Option.some.inj whole)
  · intro whole choices answered
    obtain ⟨event, run⟩ := getInstances_run provider choices account
    refine ⟨by rw [run, inventoryFor, if_pos (answered 0), whole], fun nodeName found => ?_⟩
    rw [getInstanceByNodeName_outcome provider nodeName (answered 0), whole,
      Option.some.injEq, instanceByNodeName_ok_iff]

def smallPages : Account :=
  { twoDisks with
    ecs := { twoDisks.ecs with defaultPageSize := 1, defaultPageSize_pos := Nat.one_pos } }

/-- The only instance of a node stands on the second page and is not found. -/
theorem second_page_unseen :
    matching .hostname smallPages.ecs.instances "node-b" =
      [⟨"i-2", "node-b", ["10.0.0.2"]⟩] ∧
    ((getInstances twoNodes).run Account.answer served smallPages).outcome =
      some (.ok [⟨"i-1", "node-a", ["10.0.0.1"]⟩]) ∧
    ((getInstanceByNodeName twoNodes "node-b").run Account.answer served
      smallPages).outcome = some (.error (.plain "Unable to get instance of node:node-b")) ∧
    ¬SeesInventory twoNodes smallPages := by
  have listed : ((getInstances twoNodes).run Account.answer served smallPages).outcome =
      some (.ok [⟨"i-1", "node-a", ["10.0.0.1"]⟩]) := rfl
  refine ⟨rfl, listed, rfl, fun sees => ?_⟩
  have whole := (sees served served_served).1
  rw [listed] at whole
  exact absurd (Except.ok.inj (Option.some.inj whole)) (by decide)

end KubeAliyun.Nodes
