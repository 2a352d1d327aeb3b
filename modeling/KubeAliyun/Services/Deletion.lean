import KubeAliyun.Services.Quiescence

/-!
# Deleted services

A service that asked for a load balancer all along leaves none behind once it is deleted
and its key is idle.  The cache is what the deletion goes by: a key whose cached version
asks for no load balancer is passed over, and whatever load balancer is left under its
names stays for good.
-/

namespace KubeAliyun.Services

open KubeAliyun.Cloud KubeAliyun.Provider KubeAliyun.Remote KubeAliyun.Kube
  KubeAliyun.Controller KubeAliyun.Balancer KubeAliyun.Queue

section Informer

variable {system : System} {key : String} {service : Option V1Service}

/-- What a change of the store leaves alone. -/
structure Changed (system : System) (key : String) (service : Option V1Service)
    (next : System) : Prop where
  same : ∃ store pending, next = { system with store, pending }
  listed : next.store.lookup key = service
  others : ∀ other, other ≠ key → next.store.lookup other = system.store.lookup other
  waits : ∀ other, system.Waiting other → next.Waiting other
  noted : service = none → system.store.lookup key = none ∨ next.Waiting key

theorem change_changed (system : System) (key : String) (service : Option V1Service) :
    Changed system key service (system.change key service) := by
  have waits (store : AList fun _ : String => V1Service) (notification : Notification) :
      ∀ other, system.Waiting other →
        System.Waiting { system with store, pending := system.pending ++ [notification] }
          other := by
    rintro other (⟨earlier, member, rest⟩ | rest)
    · exact Or.inl ⟨earlier, List.mem_append_left _ member, rest⟩
    · exact Or.inr rest
  unfold System.change
  cases listed : system.store.lookup key with
  | none =>
      cases service with
      | none =>
          exact ⟨⟨_, _, rfl⟩, listed, fun _ _ => rfl, fun _ => id, fun _ => Or.inl listed⟩
      | some next =>
          exact ⟨⟨_, _, rfl⟩, AList.lookup_insert _,
            fun other different => AList.lookup_insert_ne different, waits _ _,
            fun impossible => by cases impossible⟩
  | some last =>
      cases service with
      | none =>
          refine ⟨⟨_, _, rfl⟩, AList.lookup_erase _ _,
            fun other different => AList.lookup_erase_ne different, waits _ _,
            fun _ => Or.inr (Or.inl ?_)⟩
          exact ⟨.deleted key, List.mem_append_right _ (List.mem_singleton_self _), rfl, rfl⟩
      | some next =>
          exact ⟨⟨_, _, rfl⟩, AList.lookup_insert _,
            fun other different => AList.lookup_insert_ne different, waits _ _,
            fun impossible => by cases impossible⟩

end Informer

/-! ## Nothing is left behind -/

def panicked {α : Type} : Option (Controlled α) → Bool
  | some .crash => true
  | _ => false

/-- The process survives the move. -/
def System.survives (system : System) : Move → Bool
  | .restart => false
  | .finish key => !panicked ((system.jobs key).map fun job => job.process.program)
  | .endRound => !panicked (system.round.map Process.program)
  | _ => true

def System.survived (controller : ServiceController) : System → List Move → Bool
  | _, [] => true
  | system, move :: rest =>
      system.survives move && (system.move controller move).survived controller rest

/-- A version that asks for the load balancer of a name. -/
def Devoted (name : String) (service : V1Service) : Prop :=
  wantsLoadBalancer service = true ∧ service.balancerName = name

/-- What a worker of the key may be at, given the cache entry. -/
def TaskTended (name : String) (cached : Option CachedService) (task : SyncTask) : Prop :=
  match task with
  | .update service => Devoted name service ∧ cached.isSome
  | .delete service => Devoted name service ∧ cached.isSome
  | .ignore _ => cached = none

/-- The load balancer of the key is never out of sight: while it exists, its service is in
the cache. -/
structure Tended (key name : String) (system : System) : Prop where
  stored : ∀ service, system.store.lookup key = some service → Devoted name service
  cached : ∀ entry, system.cache key = some entry → Devoted name entry.state
  jobs : ∀ job, system.jobs key = some job → TaskTended name (system.cache key) job.task
  tracked : system.account.slb.named name ≠ none → (system.cache key).isSome
  released : system.jobs key = none →
    system.Waiting key ∨ (system.store.lookup key).isSome ∨ system.cache key = none

section Tending

variable {owner : String → String} {controller : ServiceController} {system next : System}
  {key name : String}

theorem Tended.requeued (tended : Tended key name system) (requeued : Requeued system next) :
    Tended key name next := by
  obtain ⟨⟨pending, queue, retries, rfl⟩, -, -, waits⟩ := requeued
  exact { tended with released := fun idle => (tended.released idle).imp (waits key) id }

theorem Tended.changed (tended : Tended key name system) {other : String}
    {service : Option V1Service} (changed : Changed system other service next)
    (devoted : other = key → ∀ version, service = some version → Devoted name version) :
    Tended key name next := by
  obtain ⟨⟨store, pending, rfl⟩, now, others, waits, noted⟩ := changed
  refine { tended with stored := fun version listed => ?_, released := fun idle => ?_ }
  · by_cases own : other = key
    · subst own
      exact devoted rfl version (now.symm.trans listed)
    · exact tended.stored version ((others key (Ne.symm own)).symm.trans listed)
  · rcases tended.released idle with waiting | listed | forgotten
    · exact Or.inl (waits key waiting)
    · by_cases own : other = key
      · subst own
        cases service with
        | some version => exact Or.inr (Or.inl (by rw [now]; rfl))
        | none =>
            rcases noted rfl with absent | waiting
            · rw [absent] at listed
              cases listed
            · exact Or.inl waiting
      · rw [others key (Ne.symm own)]
        exact Or.inr (Or.inl listed)
    · exact Or.inr (Or.inr forgotten)

/-- The task that is picked for the key, with the cache entry it begins with. -/
theorem pick_tended (tended : Tended key name system) :
    let task := SyncTask.pick key (system.store.lookup key) (system.cache key)
    TaskTended name (task.begin (system.cache key)) task ∧
      (∀ entry, task.begin (system.cache key) = some entry → Devoted name entry.state) ∧
      ((system.cache key).isSome → (task.begin (system.cache key)).isSome) := by
  unfold SyncTask.pick
  cases listed : system.store.lookup key with
  | some service =>
      have devoted := tended.stored service listed
      refine ⟨⟨devoted, rfl⟩, fun entry begun => ?_, fun _ => rfl⟩
      cases begun
      exact devoted
  | none =>
      cases known : system.cache key with
      | none => exact ⟨rfl, fun entry impossible => (by cases impossible), id⟩
      | some entry =>
          have devoted := tended.cached entry known
          dsimp only
          rw [devoted.1]
          refine ⟨⟨devoted, rfl⟩, fun other begun => ?_, fun _ => rfl⟩
          cases begun
          exact devoted

theorem Tended.taken (tended : Tended key name system)
    (orderly : Orderly owner controller system) {other : String}
    {listed : Except GoError (List Node)} {order : MapOrder} {choices : Nat → ControlChoice}
    {task : SyncTask} (taken : Taken controller system other listed order choices task next) :
    Tended key name next := by
  have waits : key ≠ other → system.Waiting key → next.Waiting key :=
    fun different => taken.waiting orderly different
  obtain ⟨-, rfl, rfl⟩ := taken
  by_cases own : key = other
  · subst own
    obtain ⟨task, devoted, kept⟩ := pick_tended tended
    refine ⟨tended.stored, ?_, ?_, ?_, ?_⟩
    · dsimp only
      rw [Function.update_self]
      exact devoted
    · dsimp only
      rw [Function.update_self, Function.update_self]
      intro job running
      cases running
      exact task
    · dsimp only
      rw [Function.update_self]
      exact fun present => kept (tended.tracked present)
    · dsimp only
      rw [Function.update_self]
      intro impossible
      cases impossible
  · refine ⟨tended.stored, ?_, ?_, ?_, ?_⟩
    · dsimp only
      rw [Function.update_of_ne own]
      exact tended.cached
    · dsimp only
      rw [Function.update_of_ne own, Function.update_of_ne own]
      exact tended.jobs
    · dsimp only
      rw [Function.update_of_ne own]
      exact tended.tracked
    · dsimp only
      rw [Function.update_of_ne own, Function.update_of_ne own]
      exact fun idle => (tended.released idle).imp (waits own) id

/-- A task that makes calls has its service in the cache. -/
theorem advance_tended (orderly : Orderly owner controller system)
    (tended : Tended key name system) {job : Job} (running : system.jobs key = some job) :
    (job.process.advance controlAnswer system.account).2 = system.account ∨
      (system.cache key).isSome := by
  have task := tended.jobs job running
  have sound := orderly.jobs key job running
  obtain ⟨task', ⟨program, choices⟩⟩ := job
  cases task' with
  | update service => exact Or.inr task.2
  | delete service => exact Or.inr task.2
  | ignore reason =>
      obtain ⟨failure, ended⟩ := sound
      dsimp only at ended
      subst ended
      exact Or.inl rfl

theorem Tended.call (tended : Tended key name system)
    (orderly : Orderly owner controller system) (owned : owner name = key) (other : String) :
    Tended key name (system.call other) := by
  unfold System.call
  cases running : system.jobs other with
  | none => exact tended
  | some job =>
      obtain ⟨called, -⟩ := (orderly.jobs other job running).advance orderly.sole system.jobs
      by_cases own : key = other
      · subst own
        refine ⟨tended.stored, tended.cached, ?_, ?_, ?_⟩
        · intro task busy
          dsimp only at busy
          rw [Function.update_self] at busy
          cases busy
          exact tended.jobs job running
        · intro present
          rcases advance_tended orderly tended running with same | known
          · dsimp only at present
            rw [same] at present
            exact tended.tracked present
          · exact known
        · dsimp only
          rw [Function.update_self]
          intro impossible
          cases impossible
      · have same := called.others name (owned ▸ own)
        refine ⟨tended.stored, tended.cached, ?_, ?_, ?_⟩
        · dsimp only
          rw [Function.update_of_ne own]
          exact tended.jobs
        · intro present
          refine tended.tracked fun absent => present ?_
          exact (congrArg View.own same).trans absent
        · dsimp only
          rw [Function.update_of_ne own]
          exact tended.released

/-- The cache entry and the key when a task ends: a deletion gives both up only with the
load balancer gone, and everything else keeps the entry or had none. -/
theorem finish_tended {task : SyncTask} {cached : Option CachedService}
    (tended : TaskTended name cached task) (failure : Option GoError) :
    (∃ service, task = .delete service ∧ failure = none) ∨
      (((task.finish cached failure).1.isSome ↔ cached.isSome) ∧
        ((task.finish cached failure).2 ≠ 0 ∨ (∃ service, task = .update service) ∨
          (task.finish cached failure).1 = none)) := by
  cases task with
  | update service =>
      cases failure with
      | none => exact Or.inr ⟨by simp [SyncTask.finish], Or.inr (Or.inl ⟨service, rfl⟩)⟩
      | some failure => exact Or.inr ⟨by simp [SyncTask.finish], Or.inr (Or.inl ⟨service, rfl⟩)⟩
  | delete service =>
      cases failure with
      | none => exact Or.inl ⟨service, rfl, rfl⟩
      | some failure =>
          exact Or.inr ⟨by simp [SyncTask.finish], Or.inl (Int.ne_of_gt (nextRetryDelay_pos _))⟩
  | ignore reason =>
      have none : cached = none := tended
      subst none
      cases failure with
      | none => exact Or.inr ⟨Iff.rfl, Or.inr (Or.inr rfl)⟩
      | some failure => exact Or.inr ⟨Iff.rfl, Or.inr (Or.inr rfl)⟩

/-- A successful deletion leaves no load balancer. -/
theorem deleted_absent {job : Job} {service : V1Service}
    (sound : JobSound owner controller system key job) (deletes : job.task = .delete service)
    (ended : job.process.program = .done none) :
    system.account.slb.named service.balancerName = none := by
  obtain ⟨task, process⟩ := job
  dsimp only at deletes ended
  subst deletes
  have withstands := sound.2.withstands
  dsimp only at withstands
  rw [ended] at withstands
  exact withstands _ (Altered.refl _) rfl

theorem Tended.finished (tended : Tended key name system)
    (orderly : Orderly owner controller system) {other : String} {job : Job}
    {failure : Option GoError} (finished : Finished system other job failure next) :
    Tended key name next := by
  have waits : system.Waiting key → next.Waiting key := finished.waiting orderly
  have retried := finished.retried
  obtain ⟨running, ended, rfl⟩ := finished
  by_cases own : key = other
  · subst own
    have task := tended.jobs job running
    refine ⟨tended.stored, ?_, ?_, ?_, fun _ => ?_⟩
    · dsimp only
      rw [Function.update_self]
      intro entry ended
      obtain ⟨former, known, same⟩ := finish_state ended
      exact same ▸ tended.cached former known
    · dsimp only
      rw [Function.update_self]
      intro job impossible
      cases impossible
    · dsimp only
      rw [Function.update_self]
      intro present
      rcases finish_tended task failure with ⟨service, deletes, rfl⟩ | ⟨kept, -⟩
      · rw [deletes] at task
        have absent := deleted_absent (orderly.jobs key job running) deletes ended
        rw [task.1.2] at absent
        exact absurd absent present
      · exact kept.mpr (tended.tracked present)
    · dsimp only
      rw [Function.update_self]
      rcases finish_tended task failure with ⟨service, deletes, rfl⟩ | ⟨-, later⟩
      · rw [deletes]
        exact Or.inr (Or.inr rfl)
      · rcases later with again | ⟨service, updates⟩ | forgotten
        · exact Or.inl (retried again)
        · rcases orderly.current key job running with waiting | current
          · exact Or.inl (waits waiting)
          · rw [updates] at current
            obtain ⟨version, listed, -⟩ := current
            exact Or.inr (Or.inl (by rw [listed]; rfl))
        · exact Or.inr (Or.inr forgotten)
  · refine ⟨tended.stored, ?_, ?_, ?_, ?_⟩
    · dsimp only
      rw [Function.update_of_ne own]
      exact tended.cached
    · dsimp only
      rw [Function.update_of_ne own, Function.update_of_ne own]
      exact tended.jobs
    · dsimp only
      rw [Function.update_of_ne own]
      exact tended.tracked
    · dsimp only
      rw [Function.update_of_ne own, Function.update_of_ne own]
      exact fun idle => (tended.released idle).imp waits id

/-- The loop neither creates nor deletes a load balancer. -/
theorem Tended.swept (tended : Tended key name system) (swept : Swept system next) :
    Tended key name next := by
  obtain ⟨⟨round, account, rewritten, rfl⟩, -, -, touched⟩ := swept
  refine { tended with tracked := fun present => tended.tracked fun absent => present ?_ }
  rcases touched name with ⟨same, -⟩ | ⟨altered, -⟩
  · exact (congrArg View.own same).trans absent
  · exact altered.none_iff.mpr absent

theorem Tended.beginRound (tended : Tended key name system)
    (listed : Except GoError (List Node)) (keys : List String) (order : Nat → MapOrder)
    (choices : Nat → ControlChoice) :
    Tended key name (system.beginRound controller listed keys order choices) := by
  unfold System.beginRound
  split
  · exact tended
  · exact { tended with }

theorem Tended.move (tended : Tended key name system)
    (orderly : Orderly owner controller system) (owned : owner name = key) {move : Move}
    (survives : system.survives move = true)
    (devoted : ∀ service, move = .change key (some service) → Devoted name service) :
    Tended key name (system.move controller move) := by
  cases move with
  | change other service =>
      refine tended.changed (change_changed system other service) ?_
      rintro rfl version rfl
      exact devoted version rfl
  | resync other => exact tended.requeued (resync_requeued orderly other)
  | notify => exact tended.requeued (notify_requeued orderly)
  | take listed order choices =>
      rw [System.move]
      rcases take_taken controller system listed order choices with same | ⟨other, task, taken⟩
      · rw [same]
        exact tended
      · exact tended.taken orderly taken
  | call other => exact tended.call orderly owned other
  | finish other =>
      rw [System.move]
      rcases finish_finished system other with
        same | ⟨job, running, crashed, -⟩ | ⟨job, failure, finished⟩
      · rw [same]
        exact tended
      · rw [System.survives, running, Option.map_some, crashed] at survives
        cases survives
      · exact tended.finished orderly finished
  | beginRound listed keys order choices => exact tended.beginRound listed keys order choices
  | callRound => exact tended.swept (callRound_swept orderly)
  | endRound =>
      rw [System.move]
      rcases endRound_cases system with
        same | ⟨process, running, crashed, -⟩ | ⟨-, hosts, -, -, ended⟩
      · rw [same]
        exact tended
      · rw [System.survives, running, Option.map_some, crashed] at survives
        cases survives
      · rw [ended]
        exact { tended with }
  | retry other delay now => exact tended.requeued (retry_requeued orderly other delay now)
  | promote now => exact tended.requeued (promote_requeued orderly now)
  | receive now => exact tended.requeued (receive_requeued orderly now)
  | restart => cases survives

theorem Tended.run (tended : Tended key name system)
    (orderly : Orderly owner controller system) (owned : owner name = key) {moves : List Move}
    (names : ∀ move ∈ moves, move.Owned owner) (survived : system.survived controller moves = true)
    (devoted : ∀ service, .change key (some service) ∈ moves → Devoted name service) :
    Tended key name (system.run controller moves) := by
  induction moves generalizing system with
  | nil => exact tended
  | cons move rest ih =>
      rw [System.survived, Bool.and_eq_true] at survived
      have first : Tended key name (system.move controller move) :=
        tended.move orderly owned survived.1 fun service same =>
          devoted service (same ▸ List.mem_cons_self)
      exact ih first (orderly.move (names move List.mem_cons_self))
        (fun other member => names other (List.mem_cons_of_mem _ member)) survived.2
        fun service member => devoted service (List.mem_cons_of_mem _ member)

end Tending

/-- A service that asked for one load balancer in all its versions leaves none when it is
deleted and its key is idle, whatever failed on the way, as long as the process lives. -/
theorem deleted_gone {owner : String → String} (controller : ServiceController)
    {store : AList fun _ : String => V1Service} {account : Account} {moves : List Move}
    (sole : SoleNames account)
    (stored : ∀ key service, store.lookup key = some service →
      owner service.balancerName = key)
    (owned : ∀ move ∈ moves, move.Owned owner)
    (survived : (System.start store account).survived controller moves = true) {key name : String}
    (own : owner name = key) (fresh : account.slb.named name = none)
    (listed : ∀ service, store.lookup key = some service → Devoted name service)
    (devoted : ∀ service, .change key (some service) ∈ moves → Devoted name service)
    (deleted : ((System.start store account).run controller moves).store.lookup key = none)
    (idle : ((System.start store account).run controller moves).Idle key) :
    ((System.start store account).run controller moves).account.slb.named name = none := by
  have orderly : Orderly owner controller (System.start store account) :=
    Orderly.start sole stored
  have begun : Tended key name (System.start store account) :=
    ⟨listed, fun entry impossible => (by cases impossible),
      fun job impossible => (by cases impossible), fun present => absurd fresh present,
      fun _ => Or.inr (Or.inr rfl)⟩
  have tended := begun.run orderly own owned survived devoted
  by_contra present
  rcases tended.released idle.2 with waiting | still | forgotten
  · exact idle.1 waiting
  · rw [deleted] at still
    cases still
  · have known := tended.tracked present
    rw [forgotten] at known
    cases known

def emptyRegion : Account where
  ecs := sampleEcs
  slb := ⟨[], List.nodup_nil⟩

theorem emptyRegion_sole : SoleNames emptyRegion := fun _ => Nat.zero_le 1

def refusing : Nat → ControlChoice := fun index =>
  ⟨{ sampleChoices index with fate := .refused }, none⟩

/-- The service gets its load balancer and is deleted while the loop is at work on it; the
first deletion fails. -/
def removed : List Move := List.flatten
  [[.notify, .take (.ok [nodeA]) .stored granting], calls 14,
    [.finish "default/web",
      .beginRound (.ok [nodeB]) ["default/web"] (fun _ => .stored) granting, .callRound,
      .change "default/web" none, .notify, .take (.ok [nodeA]) .stored refusing],
    calls 3, loopCalls 2,
    [.finish "default/web", .retry "default/web" 5000000000 0, .receive 1,
      .promote 5000000000, .take (.ok [nodeA]) .stored granting],
    calls 3, loopCalls 5, [.endRound, .finish "default/web"]]

theorem removed_changes {key : String} {service : V1Service}
    (member : .change key (some service) ∈ removed) : False := by
  simp [removed, calls, loopCalls] at member

theorem deleted_gone_removed :
    ((System.start webStore emptyRegion).run sampleController removed).Idle "default/web" ∧
      ((System.start webStore emptyRegion).run sampleController removed).account.slb.named
        "a12" = none := by
  have idle : ((System.start webStore emptyRegion).run sampleController removed).Idle
      "default/web" :=
    idle_of_empty (by decide +kernel) (by decide +kernel) (by decide +kernel)
      (by decide +kernel) (by decide +kernel) (by decide +kernel)
  have devoted : ∀ service, webStore.lookup "default/web" = some service →
      Devoted "a12" service := by
    intro service listed
    have same : web = service := Option.some.inj listed
    subst same
    exact ⟨rfl, by decide +kernel⟩
  have owned : ∀ move ∈ removed, move.Owned fun _ => "default/web" := by
    rintro move member key service rfl
    exact (removed_changes member).elim
  exact ⟨idle, deleted_gone sampleController emptyRegion_sole
    (fun key service listed => webStore_keys listed) owned (by decide +kernel) rfl rfl devoted
    (fun service member => (removed_changes member).elim)
    (Option.isNone_iff_eq_none.mp (by decide +kernel)) idle⟩

/-! ## What is forgotten stays -/

/-- The controller has lost sight of the key: its service is gone, and the cache knows no
version of it that asks for a load balancer. -/
structure Forgotten (key : String) (system : System) : Prop where
  deleted : system.store.lookup key = none
  cached : ∀ entry, system.cache key = some entry → wantsLoadBalancer entry.state = false
  jobs : ∀ job, system.jobs key = some job → ∃ reason, job.task = .ignore reason

/-- The load balancer of a name, or its absence, is left as it is, but for what the loop
writes. -/
structure Left (name : String) (system next : System) : Prop where
  altered : Altered (view name system.account) (view name next.account)
  counted : system.rewritten name ≤ next.rewritten name
  unwritten : next.rewritten name = system.rewritten name →
    view name next.account = view name system.account

section Forgetting

variable {owner : String → String} {controller : ServiceController} {system next : System}
  {key name : String}

theorem Left.same (seen : view name next.account = view name system.account)
    (counted : next.rewritten name = system.rewritten name) : Left name system next :=
  ⟨seen ▸ Altered.refl _, counted.ge, fun _ => seen⟩

theorem Left.refl (name : String) (system : System) : Left name system system :=
  Left.same rfl rfl

theorem Left.trans {last : System} (first : Left name system next)
    (second : Left name next last) : Left name system last := by
  refine ⟨first.altered.trans _ _ _ second.altered, first.counted.trans second.counted,
    fun same => ?_⟩
  have counted := first.counted
  have countedThen := second.counted
  exact (second.unwritten (by omega)).trans (first.unwritten (by omega))

theorem Left.swept (swept : Swept system next) : Left name system next := by
  rcases swept.touched name with ⟨same, counted⟩ | ⟨altered, counted⟩
  · exact Left.same same counted
  · exact ⟨altered, by omega, fun same => absurd same (by omega)⟩

/-- Only the worker of its key and the loop touch a load balancer. -/
theorem move_left (orderly : Orderly owner controller system) (move : Move)
    (own : owner name = key)
    (still : move = .call key → (system.call key).account = system.account) :
    Left name system (system.move controller move) := by
  have requeues {next : System} (requeued : Requeued system next) : Left name system next := by
    obtain ⟨⟨pending, queue, retries, rfl⟩, -⟩ := requeued
    exact Left.same rfl rfl
  cases move with
  | change other service =>
      obtain ⟨⟨store, pending, same⟩, -⟩ := change_changed system other service
      rw [System.move, same]
      exact Left.same rfl rfl
  | resync other => exact requeues (resync_requeued orderly other)
  | notify => exact requeues (notify_requeued orderly)
  | take listed order choices =>
      rw [System.move]
      rcases take_taken controller system listed order choices with same | ⟨other, task, taken⟩
      · rw [same]
        exact Left.refl name system
      · rw [taken.same]
        exact Left.same rfl rfl
  | call other =>
      rw [System.move]
      have counted : (system.call other).rewritten = system.rewritten := by
        unfold System.call
        split
        · rfl
        · rfl
      refine Left.same ?_ (congrFun counted name)
      by_cases its : key = other
      · subst its
        rw [still rfl]
      · unfold System.call
        cases running : system.jobs other with
        | none => rfl
        | some job =>
            obtain ⟨called, -⟩ :=
              (orderly.jobs other job running).advance orderly.sole system.jobs
            exact called.others name (own ▸ its)
  | finish other =>
      rw [System.move]
      rcases finish_finished system other with
        same | ⟨job, -, -, crashed⟩ | ⟨job, failure, finished⟩
      · rw [same]
        exact Left.refl name system
      · rw [crashed]
        exact Left.same rfl rfl
      · rw [finished.same]
        exact Left.same rfl rfl
  | beginRound listed keys order choices =>
      dsimp only [System.move, System.beginRound]
      split
      · exact Left.refl name system
      · exact Left.same rfl rfl
  | callRound => exact Left.swept (callRound_swept orderly)
  | endRound =>
      rw [System.move]
      rcases endRound_cases system with same | ⟨-, -, -, crashed⟩ | ⟨-, hosts, -, -, ended⟩
      · rw [same]
        exact Left.refl name system
      · rw [crashed]
        exact Left.same rfl rfl
      · rw [ended]
        exact Left.same rfl rfl
  | retry other delay now => exact requeues (retry_requeued orderly other delay now)
  | promote now => exact requeues (promote_requeued orderly now)
  | receive now => exact requeues (receive_requeued orderly now)
  | restart => exact Left.same rfl rfl

theorem Forgotten.pick (forgotten : Forgotten key system) :
    ∃ reason, SyncTask.pick key (system.store.lookup key) (system.cache key) =
      .ignore reason := by
  unfold SyncTask.pick
  rw [forgotten.deleted]
  cases known : system.cache key with
  | none => exact ⟨_, rfl⟩
  | some entry =>
      dsimp only
      rw [forgotten.cached entry known]
      exact ⟨none, rfl⟩

theorem Forgotten.restart (deleted : system.store.lookup key = none) :
    Forgotten key system.restart :=
  ⟨deleted, fun entry impossible => (by cases impossible),
    fun job impossible => (by cases impossible)⟩

theorem Forgotten.taken (forgotten : Forgotten key system) {other : String}
    {listed : Except GoError (List Node)} {order : MapOrder} {choices : Nat → ControlChoice}
    {task : SyncTask} (taken : Taken controller system other listed order choices task next) :
    Forgotten key next := by
  obtain ⟨-, rfl, rfl⟩ := taken
  refine ⟨forgotten.deleted, ?_, ?_⟩
  · dsimp only
    by_cases own : key = other
    · subst own
      obtain ⟨reason, task⟩ := forgotten.pick
      rw [Function.update_self, task]
      exact forgotten.cached
    · rw [Function.update_of_ne own]
      exact forgotten.cached
  · dsimp only
    by_cases own : key = other
    · subst own
      rw [Function.update_self]
      intro job running
      cases running
      exact forgotten.pick
    · rw [Function.update_of_ne own]
      exact forgotten.jobs

theorem Forgotten.finished (forgotten : Forgotten key system) {other : String} {job : Job}
    {failure : Option GoError} (finished : Finished system other job failure next) :
    Forgotten key next := by
  obtain ⟨-, -, rfl⟩ := finished
  refine ⟨forgotten.deleted, ?_, ?_⟩
  · dsimp only
    by_cases own : key = other
    · subst own
      rw [Function.update_self]
      intro entry ended
      obtain ⟨former, known, same⟩ := finish_state ended
      exact same ▸ forgotten.cached former known
    · rw [Function.update_of_ne own]
      exact forgotten.cached
  · dsimp only
    by_cases own : key = other
    · subst own
      rw [Function.update_self]
      intro job impossible
      cases impossible
    · rw [Function.update_of_ne own]
      exact forgotten.jobs

/-- The worker of a forgotten key makes no calls. -/
theorem Forgotten.still (forgotten : Forgotten key system)
    (orderly : Orderly owner controller system) :
    (system.call key).account = system.account := by
  unfold System.call
  cases running : system.jobs key with
  | none => rfl
  | some job =>
      obtain ⟨reason, task⟩ := forgotten.jobs job running
      have sound := orderly.jobs key job running
      obtain ⟨task', ⟨program, choices⟩⟩ := job
      cases task
      obtain ⟨failure, ended⟩ := sound
      cases ended
      rfl

theorem Forgotten.call (forgotten : Forgotten key system) (other : String) :
    Forgotten key (system.call other) := by
  unfold System.call
  cases running : system.jobs other with
  | none => exact forgotten
  | some job =>
      refine { forgotten with jobs := ?_ }
      dsimp only
      by_cases own : key = other
      · subst own
        rw [Function.update_self]
        intro task same
        cases same
        exact forgotten.jobs job running
      · rw [Function.update_of_ne own]
        exact forgotten.jobs

theorem Forgotten.move (forgotten : Forgotten key system)
    (orderly : Orderly owner controller system) {move : Move}
    (absent : ∀ service, move ≠ .change key (some service)) :
    Forgotten key (system.move controller move) := by
  have requeues {next : System} (requeued : Requeued system next) : Forgotten key next := by
    obtain ⟨⟨pending, queue, retries, rfl⟩, -⟩ := requeued
    exact { forgotten with }
  cases move with
  | change other service =>
      obtain ⟨⟨store, pending, same⟩, listed, others, -⟩ := change_changed system other service
      rw [System.move]
      rw [same] at listed others ⊢
      refine { forgotten with deleted := ?_ }
      by_cases own : key = other
      · subst own
        cases service with
        | none => exact listed
        | some version => exact absurd rfl (absent version)
      · exact (others key own).trans forgotten.deleted
  | resync other => exact requeues (resync_requeued orderly other)
  | notify => exact requeues (notify_requeued orderly)
  | take listed order choices =>
      rw [System.move]
      rcases take_taken controller system listed order choices with same | ⟨other, task, taken⟩
      · rw [same]
        exact forgotten
      · exact forgotten.taken taken
  | call other => exact forgotten.call other
  | finish other =>
      rw [System.move]
      rcases finish_finished system other with
        same | ⟨job, -, -, crashed⟩ | ⟨job, failure, finished⟩
      · rw [same]
        exact forgotten
      · rw [crashed]
        exact .restart forgotten.deleted
      · exact forgotten.finished finished
  | beginRound listed keys order choices =>
      dsimp only [System.move, System.beginRound]
      split
      · exact forgotten
      · exact { forgotten with }
  | callRound =>
      obtain ⟨⟨round, account, rewritten, same⟩, -⟩ := callRound_swept orderly
      rw [System.move, same]
      exact { forgotten with }
  | endRound =>
      rw [System.move]
      rcases endRound_cases system with same | ⟨-, -, -, crashed⟩ | ⟨-, hosts, -, -, ended⟩
      · rw [same]
        exact forgotten
      · rw [crashed]
        exact .restart forgotten.deleted
      · rw [ended]
        exact { forgotten with }
  | retry other delay now => exact requeues (retry_requeued orderly other delay now)
  | promote now => exact requeues (promote_requeued orderly now)
  | receive now => exact requeues (receive_requeued orderly now)
  | restart => exact .restart forgotten.deleted

theorem Forgotten.run (forgotten : Forgotten key system)
    (orderly : Orderly owner controller system) {moves : List Move}
    (owned : ∀ move ∈ moves, move.Owned owner)
    (absent : ∀ service, .change key (some service) ∉ moves) (own : owner name = key) :
    Left name system (system.run controller moves) := by
  induction moves generalizing system with
  | nil => exact Left.refl name system
  | cons move rest ih =>
      have stepped : Forgotten key (system.move controller move) :=
        forgotten.move orderly fun service this => absent service (this ▸ List.mem_cons_self)
      have left := move_left orderly move own fun _ => forgotten.still orderly
      exact left.trans (ih stepped (orderly.move (owned move List.mem_cons_self))
        (fun other member => owned other (List.mem_cons_of_mem _ member))
        fun service member => absent service (List.mem_cons_of_mem _ member))

end Forgetting

/-- The loop makes a round over the cache, the retry comes, and the process is restarted. -/
def retried : List Move := List.flatten
  [[.beginRound (.ok [nodeB]) ["default/web"] (fun _ => .stored) granting, .callRound,
      .endRound, .retry "default/web" 5000000000 0, .receive 1, .promote 5000000000,
      .take (.ok [nodeA]) .stored granting],
    calls 3, [.finish "default/web", .restart]]

end KubeAliyun.Services
