import KubeAliyun.Services.System

/-!
# Idle services are in effect

Whatever happens to the services, the calls and the process, a key that is not on its
way to a worker and not in the hands of one has been synchronised: its service has the
load balancer that it asks for, as the last synchronisation left it unless the node loop
has written to it since.
-/

namespace KubeAliyun.Services

open KubeAliyun.Cloud KubeAliyun.Provider KubeAliyun.Remote KubeAliyun.Kube
  KubeAliyun.Controller KubeAliyun.Balancer KubeAliyun.Queue

/-- A worker at the load balancer of a name succeeds only with the load balancer as its task
leaves it, and with its version in effect unless the loop has written since the worker began. -/
structure Working (controller : ServiceController) (begun : Beginning) (rewritten : Nat)
    (name : String) (job : Job) (seen : View) : Prop where
  counted : begun.rewritten ≤ rewritten
  withstands : job.process.program.Withstands (control name) Altered
    (fun outcome after => outcome = some none → TaskStands job.task after) seen
  ensures : rewritten = begun.rewritten → job.process.program.Ensures (control name)
    (fun outcome after => outcome = some none →
      TaskDone controller begun.listed job.task after) seen

/-- A version has its load balancer, or none, and is in effect unless the loop has written
since its synchronisation began. -/
structure Effective (controller : ServiceController) (begun : Beginning) (rewritten : Nat)
    (version : V1Service) (seen : View) : Prop where
  counted : begun.rewritten ≤ rewritten
  standing : Standing version seen
  inEffect : rewritten = begun.rewritten → InEffect controller begun.listed version seen

/-- A job keeps to the load balancer of its own key; a job without a service makes no
calls. -/
def JobSound (owner : String → String) (controller : ServiceController) (system : System)
    (key : String) (job : Job) : Prop :=
  match subject job.task with
  | some service =>
      owner service.balancerName = key ∧
        Working controller (system.begun key) (system.rewritten service.balancerName)
          service.balancerName job (view service.balancerName system.account)
  | none => ∃ failure, job.process.program = .done failure

/-- A task was picked for what the lister still says, up to changes that do not matter. -/
def Current (task : SyncTask) (listed : Option V1Service) : Prop :=
  match task with
  | .update service => ∃ version, listed = some version ∧ Alike service version
  | .delete _ => listed = none
  | .ignore _ => listed = none

/-- The cached version of a stored service differs from it in nothing that matters, and has
what it asks for. -/
def Settled (controller : ServiceController) (system : System) (key : String) : Prop :=
  ∀ service, system.store.lookup key = some service →
    ∃ entry, system.cache key = some entry ∧ Alike entry.state service ∧
      Effective controller (system.begun key) (system.rewritten entry.state.balancerName)
        entry.state (view entry.state.balancerName system.account)

/-- The loop keeps all load balancers and remembers services that share none. -/
structure RoundSound (program : Controlled HostState) : Prop where
  within : program.Within Sweeping
  gives : program.Gives fun hosts => Distinct (hosts.servicesToUpdate.map some)

/-- What holds at every moment of every run. -/
structure Orderly (owner : String → String) (controller : ServiceController)
    (system : System) : Prop where
  queue : system.queue.Running
  busy : ∀ key, key ∈ system.queue.inner.processing ↔ (system.jobs key).isSome
  sole : SoleNames system.account
  stored : ∀ key service, system.store.lookup key = some service →
    owner service.balancerName = key
  cached : ∀ key entry, system.cache key = some entry →
    owner entry.state.balancerName = key
  updating : ∀ key job service, system.jobs key = some job → job.task = .update service →
    ∃ entry, system.cache key = some entry ∧ entry.state = service
  jobs : ∀ key job, system.jobs key = some job → JobSound owner controller system key job
  current : ∀ key job, system.jobs key = some job →
    system.Waiting key ∨ Current job.task (system.store.lookup key)
  settled : ∀ key, system.jobs key = none →
    system.Waiting key ∨ Settled controller system key
  hosts : Distinct (system.hosts.servicesToUpdate.map some)
  round : ∀ process, system.round = some process → RoundSound process.program

section Steps

variable {owner : String → String} {controller : ServiceController} {system : System}

/-! ## The start -/

theorem restart_waiting {key : String} (listed : key ∈ system.store.keys) :
    system.restart.Waiting key :=
  Or.inl ⟨.added key, List.mem_map_of_mem listed, rfl, rfl⟩

theorem Orderly.restart (sole : SoleNames system.account)
    (stored : ∀ key service, system.store.lookup key = some service →
      owner service.balancerName = key) :
    Orderly owner controller system.restart where
  queue := ⟨Delaying.new_sound, rfl, rfl⟩
  busy key := by
    simp [System.restart, System.start, Delaying.new, WorkQueue.new]
  sole := sole
  stored := stored
  cached _ _ impossible := by cases impossible
  updating _ _ _ impossible := by cases impossible
  jobs _ _ impossible := by cases impossible
  current _ _ impossible := by cases impossible
  settled key _ := by
    cases listed : system.store.lookup key with
    | none =>
        refine Or.inr fun service found => ?_
        cases listed.symm.trans found
    | some service =>
        refine Or.inl (restart_waiting ?_)
        exact AList.mem_keys.mp (AList.lookup_isSome.mp (by rw [listed]; rfl))
  hosts _ _ impossible := by cases impossible
  round _ impossible := by cases impossible

theorem Orderly.start {store : AList fun _ : String => V1Service} {account : Account}
    (sole : SoleNames account)
    (stored : ∀ key service, store.lookup key = some service →
      owner service.balancerName = key) :
    Orderly owner controller (System.start store account) :=
  @Orderly.restart owner controller (System.start store account) sole stored

/-! ## The queue moves on -/

/-- Keys are only taken further on their way. -/
structure Requeued (system next : System) : Prop where
  same : ∃ pending queue retries, next = { system with pending, queue, retries }
  queue : next.queue.Running
  processing : next.queue.inner.processing = system.queue.inner.processing
  waits : ∀ key, system.Waiting key → next.Waiting key

theorem Requeued.refl (orderly : Orderly owner controller system) : Requeued system system :=
  ⟨⟨_, _, _, rfl⟩, orderly.queue, rfl, fun _ => id⟩

theorem Orderly.requeued (orderly : Orderly owner controller system) {next : System}
    (requeued : Requeued system next) : Orderly owner controller next := by
  obtain ⟨⟨pending, queue, retries, rfl⟩, running, processing, waits⟩ := requeued
  exact
    { orderly with
      queue := running
      busy := fun key => by rw [processing]; exact orderly.busy key
      current := fun key job at_work => (orderly.current key job at_work).imp (waits key) id
      settled := fun key idle => (orderly.settled key idle).imp (waits key) id }

/-- An operation of the queue that hands out nothing takes every key further. -/
theorem requeued_step (orderly : Orderly owner controller system) (op : Op String)
    (notGet : op ≠ .get) (notDone : ∀ item, op ≠ .done item) (stays : op ≠ .shutDown)
    {pending : List Notification} {retries : List (String × Int)}
    (passed : ∀ notification ∈ system.pending, notification.enqueues = true →
      notification ∈ pending ∨ (system.queue.step op).Due notification.key 0)
    (called : ∀ key delay, (key, delay) ∈ system.retries →
      (key, delay) ∈ retries ∨ ∃ time, (system.queue.step op).Due key time) :
    Requeued system { system with pending, retries, queue := system.queue.step op } := by
  refine ⟨⟨_, _, _, rfl⟩,
    orderly.queue.step stays fun item same => absurd same (notDone item),
    Delaying.step_processing notGet notDone, ?_⟩
  rintro key (⟨notification, member, rfl, enqueues⟩ | ⟨delay, member⟩ | ⟨time, due⟩)
  · rcases passed notification member enqueues with still | due
    · exact Or.inl ⟨notification, still, rfl, enqueues⟩
    · exact Or.inr (Or.inr ⟨0, due⟩)
  · rcases called key delay member with still | due
    · exact Or.inr (Or.inl ⟨delay, still⟩)
    · exact Or.inr (Or.inr due)
  · rcases due.step orderly.queue.sound orderly.queue.opened op with handed | due
    · exact absurd (Delaying.get_of_hands handed) notGet
    · exact Or.inr (Or.inr ⟨time, due⟩)

theorem notify_requeued (orderly : Orderly owner controller system) :
    Requeued system system.notify := by
  unfold System.notify
  cases shape : system.pending with
  | nil => exact .refl orderly
  | cons notification rest =>
      dsimp only
      split
      · refine requeued_step orderly (.add notification.key) (by simp) (by simp) (by simp) ?_
          (fun key delay member => Or.inl member)
        intro other member _
        rw [shape] at member
        rcases List.mem_cons.mp member with rfl | later
        · refine Or.inr (Or.inl ?_)
          exact (WorkQueue.mem_dirty_add _ _).mpr (Or.inr ⟨orderly.queue.opened, rfl⟩)
        · exact Or.inl later
      · rename_i ignored
        refine ⟨⟨_, _, _, rfl⟩, orderly.queue, rfl, ?_⟩
        rintro key (⟨other, member, same, enqueues⟩ | others)
        · rw [shape] at member
          rcases List.mem_cons.mp member with rfl | later
          · exact absurd enqueues ignored
          · exact Or.inl ⟨other, later, same, enqueues⟩
        · exact Or.inr others

theorem resync_requeued (orderly : Orderly owner controller system) (key : String) :
    Requeued system (system.resync key) := by
  unfold System.resync
  cases system.store.lookup key with
  | none => exact .refl orderly
  | some service =>
      refine ⟨⟨_, _, _, rfl⟩, orderly.queue, rfl, ?_⟩
      rintro other (⟨notification, member, rest⟩ | others)
      · exact Or.inl ⟨notification, List.mem_append_left _ member, rest⟩
      · exact Or.inr others

theorem promote_requeued (orderly : Orderly owner controller system) (now : Int) :
    Requeued system { system with queue := system.queue.promote now } :=
  requeued_step orderly (.promote now) (by simp) (by simp) (by simp)
    (fun _ member _ => Or.inl member) (fun _ _ member => Or.inl member)

theorem receive_requeued (orderly : Orderly owner controller system) (now : Int) :
    Requeued system { system with queue := system.queue.receive now } :=
  requeued_step orderly (.receive now) (by simp) (by simp) (by simp)
    (fun _ member _ => Or.inl member) (fun _ _ member => Or.inl member)

theorem retry_requeued (orderly : Orderly owner controller system) (key : String)
    (delay now : Int) : Requeued system (system.retry key delay now) := by
  unfold System.retry
  split
  · cases accepted : system.queue.addAfter key delay now with
    | none => exact .refl orderly
    | some queue =>
        have stepped : system.queue.step (.addAfter key delay now) = queue := by
          rw [Delaying.step, accepted]
          rfl
        dsimp only
        rw [← stepped]
        refine requeued_step orderly (.addAfter key delay now) (by simp) (by simp) (by simp)
          (fun _ member _ => Or.inl member) ?_
        intro other wait member
        by_cases own : (other, wait) = (key, delay)
        · cases own
          refine Or.inr ⟨now + delay, ?_⟩
          rw [stepped]
          exact Delaying.addAfter_due orderly.queue.opened accepted
        · exact Or.inl ((List.mem_erase_of_ne own).mpr member)
  · exact .refl orderly

/-! ## The informer -/

/-- The version under a key changes, and either its notification puts the key into the
queue or nothing that matters has changed. -/
theorem Orderly.restored (orderly : Orderly owner controller system)
    {store : AList fun _ : String => V1Service} {notification : Notification}
    (others : ∀ other, other ≠ notification.key →
      store.lookup other = system.store.lookup other)
    (owned : ∀ service, store.lookup notification.key = some service →
      owner service.balancerName = notification.key)
    (noted : notification.enqueues = true ∨ ∃ last next,
      system.store.lookup notification.key = some last ∧
        store.lookup notification.key = some next ∧ Alike last next) :
    Orderly owner controller
      { system with store, pending := system.pending ++ [notification] } := by
  have waits : ∀ other, system.Waiting other →
      System.Waiting { system with store, pending := system.pending ++ [notification] }
        other := by
    rintro other (⟨earlier, member, rest⟩ | rest)
    · exact Or.inl ⟨earlier, List.mem_append_left _ member, rest⟩
    · exact Or.inr rest
  have enqueued (enqueues : notification.enqueues = true) :
      System.Waiting { system with store, pending := system.pending ++ [notification] }
        notification.key :=
    Or.inl ⟨notification, List.mem_append_right _ (List.mem_singleton_self _), rfl, enqueues⟩
  refine ⟨orderly.queue, orderly.busy, orderly.sole, ?_, orderly.cached, orderly.updating,
    orderly.jobs, ?_, ?_, orderly.hosts, orderly.round⟩
  · intro key service listed
    by_cases own : key = notification.key
    · subst own
      exact owned service listed
    · exact orderly.stored key service ((others key own).symm.trans listed)
  · intro key job running
    rcases orderly.current key job running with waiting | current
    · exact Or.inl (waits key waiting)
    · by_cases own : key = notification.key
      · subst own
        rcases noted with enqueues | ⟨last, next, before, after, alike⟩
        · exact Or.inl (enqueued enqueues)
        · refine Or.inr ?_
          dsimp only
          rw [after]
          rw [before] at current
          cases task : job.task with
          | update service =>
              rw [task] at current
              obtain ⟨version, same, alikeToo⟩ := current
              cases same
              exact ⟨next, rfl, alikeToo.trans alike⟩
          | delete service =>
              rw [task] at current
              cases current
          | ignore failure =>
              rw [task] at current
              cases current
      · refine Or.inr ?_
        dsimp only
        rw [others key own]
        exact current
  · intro key idle
    rcases orderly.settled key idle with waiting | settled
    · exact Or.inl (waits key waiting)
    · by_cases own : key = notification.key
      · subst own
        rcases noted with enqueues | ⟨last, next, before, after, alike⟩
        · exact Or.inl (enqueued enqueues)
        · refine Or.inr fun service listed => ?_
          obtain ⟨entry, known, same, effective⟩ := settled last before
          have chosen : next = service := Option.some.inj (after.symm.trans listed)
          exact ⟨entry, known, same.trans (chosen ▸ alike), effective⟩
      · exact Or.inr fun service listed => settled service ((others key own).symm.trans listed)

theorem Orderly.change (orderly : Orderly owner controller system) {key : String}
    {service : Option V1Service}
    (owned : ∀ next, service = some next → owner next.balancerName = key) :
    Orderly owner controller (system.change key service) := by
  have inserted (next : V1Service) : ∀ other, other ≠ key →
      (system.store.insert key next).lookup other = system.store.lookup other :=
    fun other different => AList.lookup_insert_ne different
  unfold System.change
  cases listed : system.store.lookup key with
  | none =>
      cases service with
      | none => exact orderly
      | some next =>
          refine @Orderly.restored owner controller system orderly _ (.added key)
            (inserted next) ?_ (Or.inl rfl)
          intro found same
          cases (AList.lookup_insert system.store).symm.trans same
          exact owned next rfl
  | some last =>
      cases service with
      | none =>
          refine @Orderly.restored owner controller system orderly _ (.deleted key)
            (fun other different => AList.lookup_erase_ne different) ?_ (Or.inl rfl)
          intro found same
          cases (AList.lookup_erase key system.store).symm.trans same
      | some next =>
          refine @Orderly.restored owner controller system orderly _ (.updated key last next)
            (inserted next) ?_ ?_
          · intro found same
            cases (AList.lookup_insert system.store).symm.trans same
            exact owned next rfl
          · cases seen : needsUpdate last next with
            | true => exact Or.inl seen
            | false =>
                exact Or.inr ⟨last, next, listed, AList.lookup_insert _,
                  alike_of_needsUpdate seen⟩

/-! ## The workers -/

theorem pick_owned (orderly : Orderly owner controller system) {key : String}
    {service : V1Service}
    (handles : subject (SyncTask.pick key (system.store.lookup key) (system.cache key)) =
      some service) : owner service.balancerName = key := by
  unfold SyncTask.pick at handles
  cases listed : system.store.lookup key with
  | some version =>
      rw [listed] at handles
      cases handles
      exact orderly.stored key service listed
  | none =>
      cases known : system.cache key with
      | none =>
          rw [listed, known] at handles
          cases handles
      | some entry =>
          rw [listed, known] at handles
          dsimp only at handles
          split at handles
          · cases handles
          · cases handles
            exact orderly.cached key entry known

theorem pick_current (key : String) (listed : Option V1Service)
    (cached : Option CachedService) : Current (SyncTask.pick key listed cached) listed := by
  unfold SyncTask.pick
  cases listed with
  | some service => exact ⟨service, rfl, Alike.refl service⟩
  | none =>
      cases cached with
      | none => rfl
      | some entry =>
          dsimp only
          split <;> rfl

theorem begin_state {task : SyncTask} {cached : Option CachedService} {entry : CachedService}
    (begun : task.begin cached = some entry) :
    subject task = some entry.state ∨ cached = some entry := by
  cases task with
  | update service =>
      cases begun
      exact Or.inl rfl
  | delete service => exact Or.inr begun
  | ignore failure => exact Or.inr begun

/-- A task that is picked for an update has its service in the cache. -/
theorem begin_update {task : SyncTask} {service : V1Service} (updates : task = .update service)
    (cached : Option CachedService) :
    ∃ entry, task.begin cached = some entry ∧ entry.state = service := by
  subst updates
  exact ⟨_, rfl, rfl⟩

def beginning (system : System) (listed : Except GoError (List Node)) (task : SyncTask) :
    Beginning :=
  ⟨listed, (subject task).elim 0 fun service => system.rewritten service.balancerName⟩

/-- A task that begins is sound in the hands of a worker. -/
theorem working_begun (listed : Except GoError (List Node)) (order : MapOrder) (key : String)
    (choices : Nat → ControlChoice) {task : SyncTask} {service : V1Service}
    (handles : subject task = some service) :
    Working controller (beginning system listed task) (system.rewritten service.balancerName)
      service.balancerName ⟨task, task.program controller listed order key, choices⟩
      (view service.balancerName system.account) := by
  refine ⟨?_, task_withstands listed order key handles _, fun _ =>
    task_ensures listed order key handles _⟩
  rw [beginning, handles]
  rfl

/-- The system once a worker has got a key. -/
structure Taken (controller : ServiceController) (system : System) (key : String)
    (listed : Except GoError (List Node)) (order : MapOrder) (choices : Nat → ControlChoice)
    (task : SyncTask) (next : System) : Prop where
  got : ∃ inner, system.queue.inner.get = some (key, inner)
  picked : task = SyncTask.pick key (system.store.lookup key) (system.cache key)
  same : next = { system with
    queue := system.queue.step .get
    cache := Function.update system.cache key (task.begin (system.cache key))
    jobs := Function.update system.jobs key
      (some ⟨task, task.program controller listed order key, choices⟩)
    begun := Function.update system.begun key (beginning system listed task) }

theorem take_taken (controller : ServiceController) (system : System)
    (listed : Except GoError (List Node)) (order : MapOrder)
    (choices : Nat → ControlChoice) :
    system.take controller listed order choices = system ∨
      ∃ key task, Taken controller system key listed order choices task
        (system.take controller listed order choices) := by
  unfold System.take
  cases taken : system.queue.inner.get with
  | none => exact Or.inl rfl
  | some pair =>
      refine Or.inr ⟨pair.1, _, ⟨pair.2, taken⟩, rfl, ?_⟩
      simp [Delaying.step, taken, beginning]

section Taking

variable {key : String} {listed : Except GoError (List Node)} {order : MapOrder}
  {choices : Nat → ControlChoice} {task : SyncTask} {next : System}

/-- All keys but the one a worker got are still waiting. -/
theorem Taken.waiting (orderly : Orderly owner controller system)
    (taken : Taken controller system key listed order choices task next) {other : String}
    (different : other ≠ key) (waiting : system.Waiting other) : next.Waiting other := by
  obtain ⟨⟨inner, got⟩, -, rfl⟩ := taken
  rcases waiting with noted | called | ⟨time, due⟩
  · exact Or.inl noted
  · exact Or.inr (Or.inl called)
  · refine Or.inr (Or.inr ⟨time, ?_⟩)
    refine (due.step orderly.queue.sound orderly.queue.opened .get).resolve_left ?_
    intro handed
    simp only [Delaying.hands, got, Option.map_some, Option.some.injEq] at handed
    exact different handed.symm

/-- The worker that got the key is sound, and so are the others. -/
theorem Taken.jobSound (orderly : Orderly owner controller system)
    (taken : Taken controller system key listed order choices task next) {other : String}
    {job : Job} (running : next.jobs other = some job) :
    JobSound owner controller next other job := by
  obtain ⟨-, rfl, rfl⟩ := taken
  dsimp only at running
  by_cases own : other = key
  · subst own
    rw [Function.update_self] at running
    cases running
    unfold JobSound
    dsimp only
    rw [Function.update_self]
    cases handles : subject (SyncTask.pick other (system.store.lookup other)
        (system.cache other)) with
    | some service =>
        exact ⟨pick_owned orderly handles, working_begun listed order other choices handles⟩
    | none =>
        cases shape : SyncTask.pick other (system.store.lookup other) (system.cache other) with
        | update service =>
            rw [shape] at handles
            cases handles
        | delete service =>
            rw [shape] at handles
            cases handles
        | ignore failure => exact ⟨failure, rfl⟩
  · rw [Function.update_of_ne own] at running
    have sound := orderly.jobs other job running
    unfold JobSound at sound ⊢
    dsimp only
    rwa [Function.update_of_ne own]

theorem Orderly.taken (orderly : Orderly owner controller system)
    (taken : Taken controller system key listed order choices task next) :
    Orderly owner controller next := by
  have waits : ∀ other, other ≠ key → system.Waiting other → next.Waiting other :=
    fun other different => taken.waiting orderly different
  have sound : ∀ other job, next.jobs other = some job →
      JobSound owner controller next other job := fun other job => taken.jobSound orderly
  have queue : (system.queue.step .get).Running := orderly.queue.step (by simp) (by simp)
  obtain ⟨⟨inner, got⟩, rfl, rfl⟩ := taken
  refine ⟨queue, fun other => ?_, orderly.sole, orderly.stored, fun other entry known => ?_,
    fun other job service running updates => ?_, sound, fun other job running => ?_,
    fun other free => ?_, orderly.hosts, orderly.round⟩
  · obtain ⟨-, -, -, -, processing, -⟩ := WorkQueue.get_spec orderly.queue.sound.inner got
    have now : (system.queue.step .get).inner.processing =
        insert key system.queue.inner.processing := by
      rw [← processing]
      simp [Delaying.step, got]
    dsimp only
    rw [now, Finset.mem_insert, orderly.busy other]
    by_cases own : other = key
    · subst own
      simp
    · rw [Function.update_of_ne own]
      simp [own]
  · dsimp only at known
    by_cases own : other = key
    · subst own
      rw [Function.update_self] at known
      rcases begin_state known with handles | cached
      · exact pick_owned orderly handles
      · exact orderly.cached other entry cached
    · rw [Function.update_of_ne own] at known
      exact orderly.cached other entry known
  · dsimp only at running ⊢
    by_cases own : other = key
    · subst own
      rw [Function.update_self] at running
      cases running
      rw [Function.update_self]
      exact begin_update updates _
    · rw [Function.update_of_ne own] at running ⊢
      exact orderly.updating other job service running updates
  · dsimp only at running
    by_cases own : other = key
    · subst own
      rw [Function.update_self] at running
      cases running
      exact Or.inr (pick_current other _ _)
    · rw [Function.update_of_ne own] at running
      exact (orderly.current other job running).imp (waits other own) id
  · dsimp only at free
    by_cases own : other = key
    · subst own
      rw [Function.update_self] at free
      cases free
    · rw [Function.update_of_ne own] at free
      refine (orderly.settled other free).imp (waits other own) fun settled => ?_
      unfold Settled at settled ⊢
      dsimp only
      rwa [Function.update_of_ne own, Function.update_of_ne own]

end Taking

/-! ## Calls -/

/-- The account after a call that was made for one key: the load balancers of the other
keys are as before. -/
structure Called (owner : String → String) (key : String) (before after : Account) :
    Prop where
  sole : SoleNames after
  others : ∀ name, owner name ≠ key → view name after = view name before

theorem Called.jobSound {key other : String} {account : Account}
    (called : Called owner key system.account account) (different : other ≠ key) {job : Job}
    {jobs : String → Option Job} (sound : JobSound owner controller system other job) :
    JobSound owner controller { system with jobs, account } other job := by
  unfold JobSound at sound ⊢
  cases handles : subject job.task with
  | none =>
      rw [handles] at sound
      exact sound
  | some service =>
      rw [handles] at sound
      obtain ⟨rfl, working⟩ := sound
      refine ⟨rfl, ?_⟩
      dsimp only
      rwa [called.others service.balancerName different]

theorem Called.settled (orderly : Orderly owner controller system) {key other : String}
    {account : Account} (called : Called owner key system.account account)
    (different : other ≠ key) {jobs : String → Option Job}
    (settled : Settled controller system other) :
    Settled controller { system with jobs, account } other := by
  intro service listed
  obtain ⟨entry, known, alike, effective⟩ := settled service listed
  refine ⟨entry, known, alike, ?_⟩
  dsimp only
  rwa [called.others entry.state.balancerName (orderly.cached other entry known ▸ different)]

/-- A worker makes its next call: it is permitted, and the worker goes on. -/
theorem Working.advance {begun : Beginning} {rewritten : Nat} {name : String} {task : SyncTask}
    {request : ControlCall} {next : ControlReply request → Controlled (Option GoError)}
    {choices : Nat → ControlChoice} {account : Account}
    (working : Working controller begun rewritten name ⟨task, .ask request next, choices⟩
      (view name account)) (sole : SoleNames account) :
    (control name).permit (view name account) request ∧
      Working controller begun rewritten name
        ⟨task, next (controlAnswer (choices 0) account request).1, later choices⟩
        (view name (controlAnswer (choices 0) account request).2) := by
  obtain ⟨counted, withstands, ensures⟩ := working
  obtain ⟨permitted, answers⟩ := withstands _ (Altered.refl _)
  have stepped : (control name).step (view name account) request
      (controlAnswer (choices 0) account request).1
      (view name (controlAnswer (choices 0) account request).2) :=
    (control_refines name).step trivial sole permitted
  exact ⟨permitted, counted, answers _ _ stepped, fun same => ((ensures same).2 _ _ stepped).2⟩

/-- One call of a sound job: it keeps to its own load balancer and the job stays sound. -/
theorem JobSound.advance {key : String} {job : Job}
    (sound : JobSound owner controller system key job) (sole : SoleNames system.account)
    (jobs : String → Option Job) :
    Called owner key system.account (job.process.advance controlAnswer system.account).2 ∧
      JobSound owner controller
        { system with jobs, account := (job.process.advance controlAnswer system.account).2 } key
        { job with process := (job.process.advance controlAnswer system.account).1 } := by
  obtain ⟨task, ⟨program, choices⟩⟩ := job
  cases program with
  | done value => exact ⟨⟨sole, fun _ _ => rfl⟩, sound⟩
  | crash => exact ⟨⟨sole, fun _ _ => rfl⟩, sound⟩
  | ask request next =>
      unfold JobSound at sound ⊢
      dsimp only at sound ⊢
      cases handles : subject task with
      | none =>
          rw [handles] at sound
          obtain ⟨failure, impossible⟩ := sound
          cases impossible
      | some service =>
          rw [handles] at sound
          obtain ⟨owned, working⟩ := sound
          obtain ⟨permitted, goesOn⟩ := working.advance sole
          refine ⟨⟨?_, ?_⟩, owned, goesOn⟩
          · exact (control_refines service.balancerName).keeps trivial sole permitted
          · intro name elsewhere
            refine control_frame (choices 0) permitted fun same => elsewhere ?_
            rw [same, owned]

theorem Orderly.call (orderly : Orderly owner controller system) (key : String) :
    Orderly owner controller (system.call key) := by
  unfold System.call
  cases running : system.jobs key with
  | none => exact orderly
  | some job =>
      obtain ⟨called, sound⟩ := (orderly.jobs key job running).advance orderly.sole
        (Function.update system.jobs key (some
          { job with process := (job.process.advance controlAnswer system.account).1 }))
      have kept : ∀ other, other ≠ key → Function.update system.jobs key
          (some { job with process := (job.process.advance controlAnswer system.account).1 })
          other = system.jobs other := fun other different => Function.update_of_ne different _ _
      refine ⟨orderly.queue, fun other => ?_, called.sole, orderly.stored, orderly.cached,
        fun other task service busy => ?_, fun other task busy => ?_, fun other task busy => ?_,
        fun other free => ?_, orderly.hosts, orderly.round⟩
      · rw [orderly.busy other]
        dsimp only
        by_cases own : other = key
        · subst own
          rw [Function.update_self, running]
          simp
        · rw [kept other own]
      · dsimp only at busy
        by_cases own : other = key
        · subst own
          rw [Function.update_self] at busy
          cases busy
          exact orderly.updating other job service running
        · rw [kept other own] at busy
          exact orderly.updating other task service busy
      · dsimp only at busy
        by_cases own : other = key
        · subst own
          rw [Function.update_self] at busy
          cases busy
          exact sound
        · rw [kept other own] at busy
          exact called.jobSound own (orderly.jobs other task busy)
      · dsimp only at busy
        by_cases own : other = key
        · subst own
          rw [Function.update_self] at busy
          cases busy
          exact orderly.current other job running
        · rw [kept other own] at busy
          exact orderly.current other task busy
      · dsimp only at free
        by_cases own : other = key
        · subst own
          rw [Function.update_self] at free
          cases free
        · rw [kept other own] at free
          exact (orderly.settled other free).imp id (called.settled orderly own)

/-! ## The node loop -/

/-- What a call of the loop does to one name: it writes to its load balancer and counts that,
or leaves it alone. -/
def Touched (before after : View) (counted now : Nat) : Prop :=
  after = before ∧ now = counted ∨ Altered before after ∧ now = counted + 1

theorem Working.touched {begun : Beginning} {counted now : Nat} {name : String} {job : Job}
    {before after : View} (working : Working controller begun counted name job before)
    (touched : Touched before after counted now) :
    Working controller begun now name job after := by
  rcases touched with ⟨rfl, rfl⟩ | ⟨altered, rfl⟩
  · exact working
  · refine ⟨Nat.le_succ_of_le working.counted, working.withstands.moved Altered.trans altered,
      fun same => ?_⟩
    exact absurd working.counted (by omega)

theorem Effective.touched {begun : Beginning} {counted now : Nat} {version : V1Service}
    {before after : View} (effective : Effective controller begun counted version before)
    (touched : Touched before after counted now) :
    Effective controller begun now version after := by
  rcases touched with ⟨rfl, rfl⟩ | ⟨altered, rfl⟩
  · exact effective
  · refine ⟨Nat.le_succ_of_le effective.counted, ?_, fun same => ?_⟩
    · have standing := effective.standing
      unfold Standing at standing ⊢
      split at standing
      · rename_i wants
        rw [if_pos wants]
        exact fun gone => standing (altered.none_iff.mp gone)
      · rename_i unwanted
        rw [if_neg unwanted]
        exact altered.none_iff.mpr standing
    · exact absurd effective.counted (by omega)

/-- A call of the loop keeps all load balancers, and counts what it writes. -/
structure Swept (system next : System) : Prop where
  same : ∃ round account rewritten, next = { system with round, account, rewritten }
  round : ∀ process, next.round = some process → RoundSound process.program
  sole : SoleNames next.account
  touched : ∀ name, Touched (view name system.account) (view name next.account)
    (system.rewritten name) (next.rewritten name)

theorem sweeping_sole (choice : ControlChoice) {account : Account} {request : ControlCall}
    (sweeping : Sweeping request) (sole : SoleNames account) :
    SoleNames (controlAnswer choice account request).2 := by
  cases request with
  | inl inner => exact soleNames_of_identities (harmless_identities _ account sweeping) sole
  | inr inner => exact sole

theorem callRound_swept (orderly : Orderly owner controller system) :
    Swept system system.callRound := by
  unfold System.callRound
  cases running : system.round with
  | none => exact ⟨⟨_, _, _, rfl⟩, orderly.round, orderly.sole, fun _ => Or.inl ⟨rfl, rfl⟩⟩
  | some process =>
      have sound := orderly.round process running
      obtain ⟨program, choices⟩ := process
      cases program with
      | done hosts =>
          refine ⟨⟨_, _, _, rfl⟩, ?_, orderly.sole, fun _ => Or.inl ⟨rfl, rfl⟩⟩
          rintro _ ⟨⟩
          exact sound
      | crash =>
          refine ⟨⟨_, _, _, rfl⟩, ?_, orderly.sole, fun _ => Or.inl ⟨rfl, rfl⟩⟩
          rintro _ ⟨⟩
          exact sound
      | ask request next =>
          obtain ⟨within, gives⟩ := sound
          refine ⟨⟨_, _, _, rfl⟩, ?_, sweeping_sole _ within.1 orderly.sole, fun name => ?_⟩
          · rintro _ ⟨⟩
            exact ⟨within.2 _, gives _⟩
          · cases request with
            | inr inner => exact Or.inl ⟨rfl, rfl⟩
            | inl inner =>
                cases written : rewrites system.account name inner with
                | false =>
                    refine Or.inl ⟨harmless_view _ within.1 written, ?_⟩
                    simp [System.rewriting, written]
                | true =>
                    refine Or.inr ⟨altered_of_identities (harmless_identities _ _ within.1)
                      (harmless_visible _ _ within.1) name, ?_⟩
                    simp [System.rewriting, written]

theorem Orderly.swept (orderly : Orderly owner controller system) {next : System}
    (swept : Swept system next) : Orderly owner controller next := by
  obtain ⟨⟨round, account, rewritten, rfl⟩, sound, sole, touched⟩ := swept
  refine ⟨orderly.queue, orderly.busy, sole, orderly.stored, orderly.cached, orderly.updating,
    fun key job running => ?_, orderly.current, fun key free => ?_, orderly.hosts, sound⟩
  · have sound := orderly.jobs key job running
    unfold JobSound at sound ⊢
    cases handles : subject job.task with
    | none =>
        rw [handles] at sound
        exact sound
    | some service =>
        rw [handles] at sound
        exact ⟨sound.1, sound.2.touched (touched service.balancerName)⟩
  · refine (orderly.settled key free).imp id fun settled service listed => ?_
    obtain ⟨entry, known, alike, effective⟩ := settled service listed
    exact ⟨entry, known, alike, effective.touched (touched entry.state.balancerName)⟩

/-- The cached services share no load balancers. -/
theorem cached_distinct (orderly : Orderly owner controller system) (keys : List String) :
    Distinct (keys.map fun key => (system.cache key).map CachedService.state) := by
  intro one two first second same
  obtain ⟨key, -, known⟩ := List.mem_map.mp first
  obtain ⟨other, -, knownToo⟩ := List.mem_map.mp second
  obtain ⟨entry, cached, rfl⟩ := Option.map_eq_some_iff.mp known
  obtain ⟨another, cachedToo, rfl⟩ := Option.map_eq_some_iff.mp knownToo
  have keyed : key = other := by
    rw [← orderly.cached key entry cached, same, orderly.cached other another cachedToo]
  subst keyed
  rw [Option.some.inj (cached.symm.trans cachedToo)]

theorem Orderly.beginRound (orderly : Orderly owner controller system)
    (listed : Except GoError (List Node)) (keys : List String) (order : Nat → MapOrder)
    (choices : Nat → ControlChoice) :
    Orderly owner controller (system.beginRound controller listed keys order choices) := by
  unfold System.beginRound
  split
  · exact orderly
  · refine { orderly with round := ?_ }
    rintro _ ⟨⟩
    exact ⟨nodeSyncLoop_within order listed _ _,
      nodeSyncLoop_gives order listed (cached_distinct orderly keys) orderly.hosts⟩

theorem endRound_cases (system : System) :
    system.endRound = system ∨
      (∃ process, system.round = some process ∧ process.program = .crash ∧
        system.endRound = system.restart) ∨
      ∃ process hosts, system.round = some process ∧ process.program = .done hosts ∧
        system.endRound = { system with hosts, round := none } := by
  unfold System.endRound
  cases running : system.round with
  | none => exact Or.inl rfl
  | some process =>
      dsimp only
      cases ended : process.program with
      | crash => exact Or.inr (Or.inl ⟨process, rfl, ended, rfl⟩)
      | ask request next => exact Or.inl rfl
      | done hosts => exact Or.inr (Or.inr ⟨process, hosts, rfl, ended, rfl⟩)

theorem Orderly.endRound (orderly : Orderly owner controller system) :
    Orderly owner controller system.endRound := by
  rcases endRound_cases system with
    same | ⟨-, -, -, restarted⟩ | ⟨process, hosts, running, ended, same⟩
  · rw [same]
    exact orderly
  · rw [restarted]
    exact Orderly.restart orderly.sole orderly.stored
  · have gives := (orderly.round process running).gives
    rw [ended] at gives
    rw [same]
    exact { orderly with
      hosts := gives hosts rfl
      round := fun _ impossible => by cases impossible }

/-! ## The end of a synchronisation -/

theorem nextRetryDelay_pos (last : Int) : 0 < nextRetryDelay last := by
  unfold nextRetryDelay minRetryDelay maxRetryDelay second
  dsimp only
  split_ifs <;> omega

/-- The cache entry of a key stays with the same service when a task ends. -/
theorem finish_state {task : SyncTask} {cached : Option CachedService}
    {failure : Option GoError} {entry : CachedService}
    (ended : (task.finish cached failure).1 = some entry) :
    ∃ former, cached = some former ∧ former.state = entry.state := by
  have renewed {delay : Int}
      (same : cached.map (fun former => { former with lastRetryDelay := delay }) =
        some entry) : ∃ former, cached = some former ∧ former.state = entry.state := by
    obtain ⟨former, known, rfl⟩ := Option.map_eq_some_iff.mp same
    exact ⟨former, known, rfl⟩
  cases task with
  | update service =>
      cases failure with
      | none => exact renewed ended
      | some failure => exact renewed ended
  | delete service =>
      cases failure with
      | none => cases ended
      | some failure => exact renewed ended
  | ignore reason =>
      cases failure with
      | none => exact ⟨entry, ended, rfl⟩
      | some failure => exact ⟨entry, ended, rfl⟩

/-- A failed update is retried. -/
theorem update_retried (service : V1Service) (cached : Option CachedService)
    (failure : GoError) : ((SyncTask.update service).finish cached (some failure)).2 ≠ 0 :=
  Int.ne_of_gt (nextRetryDelay_pos _)

/-- The system once the worker of a key has come to its end. -/
structure Finished (system : System) (key : String) (job : Job) (failure : Option GoError)
    (next : System) : Prop where
  running : system.jobs key = some job
  ended : job.process.program = .done failure
  same : next = { system with
    queue := system.queue.step (.done key)
    retries :=
      if (job.task.finish (system.cache key) failure).2 = 0 then system.retries
      else system.retries ++ [(key, (job.task.finish (system.cache key) failure).2)]
    cache := Function.update system.cache key (job.task.finish (system.cache key) failure).1
    jobs := Function.update system.jobs key none }

/-- The end of a program, the crash of the process, or nothing. -/
theorem finish_finished (system : System) (key : String) :
    system.finish key = system ∨
      (∃ job, system.jobs key = some job ∧ job.process.program = .crash ∧
        system.finish key = system.restart) ∨
      ∃ job failure, Finished system key job failure (system.finish key) := by
  unfold System.finish
  cases running : system.jobs key with
  | none => exact Or.inl rfl
  | some job =>
      dsimp only
      cases ended : job.process.program with
      | crash => exact Or.inr (Or.inl ⟨job, rfl, ended, rfl⟩)
      | ask request next => exact Or.inl rfl
      | done failure => exact Or.inr (Or.inr ⟨job, failure, running, ended, rfl⟩)

section Finishing

variable {key : String} {job : Job} {failure : Option GoError} {next : System}

theorem Finished.waiting (orderly : Orderly owner controller system)
    (finished : Finished system key job failure next) {other : String}
    (waiting : system.Waiting other) : next.Waiting other := by
  obtain ⟨-, -, rfl⟩ := finished
  rcases waiting with noted | ⟨delay, called⟩ | ⟨time, due⟩
  · exact Or.inl noted
  · refine Or.inr (Or.inl ⟨delay, ?_⟩)
    dsimp only
    split
    · exact called
    · exact List.mem_append_left _ called
  · refine Or.inr (Or.inr ⟨time, ?_⟩)
    refine (due.step orderly.queue.sound orderly.queue.opened (.done key)).resolve_left ?_
    intro handed
    cases handed

/-- A worker that is not done retries. -/
theorem Finished.retried (finished : Finished system key job failure next)
    (again : (job.task.finish (system.cache key) failure).2 ≠ 0) : next.Waiting key := by
  obtain ⟨-, -, rfl⟩ := finished
  refine Or.inr (Or.inl ⟨(job.task.finish (system.cache key) failure).2, ?_⟩)
  dsimp only
  rw [if_neg again]
  exact List.mem_append_right _ (List.mem_singleton_self _)

/-- A task that ends without a retry leaves the key settled, as far as it is current. -/
theorem Finished.settled (orderly : Orderly owner controller system)
    (finished : Finished system key job failure next)
    (final : (job.task.finish (system.cache key) failure).2 = 0)
    (current : Current job.task (system.store.lookup key)) : Settled controller next key := by
  obtain ⟨running, ended, rfl⟩ := finished
  have sound := orderly.jobs key job running
  have updating := orderly.updating key job
  obtain ⟨task, process⟩ := job
  intro service listed
  dsimp only at listed current ended final updating ⊢
  cases task with
  | update version =>
      obtain ⟨stored, known, alike⟩ := current
      cases listed.symm.trans known
      cases failure with
      | some failure => exact absurd final (update_retried version (system.cache key) failure)
      | none =>
          obtain ⟨entry, cached, rfl⟩ := updating version running rfl
          obtain ⟨-, counted, withstands, ensures⟩ := sound
          dsimp only at withstands ensures
          rw [ended] at withstands ensures
          refine ⟨{ entry with lastRetryDelay := 0 }, ?_, alike, counted, ?_, fun same => ?_⟩
          · rw [Function.update_self, cached]
            rfl
          · exact withstands _ (Altered.refl _) rfl
          · exact ensures same rfl
  | delete version => cases listed.symm.trans current
  | ignore reason => cases listed.symm.trans current

theorem Orderly.finished (orderly : Orderly owner controller system)
    (finished : Finished system key job failure next) : Orderly owner controller next := by
  have waits : ∀ other, system.Waiting other → next.Waiting other :=
    fun other => finished.waiting orderly
  have settles : next.Waiting key ∨ Settled controller next key := by
    by_cases final : (job.task.finish (system.cache key) failure).2 = 0
    · exact (orderly.current key job finished.running).imp (waits key)
        (finished.settled orderly final)
    · exact Or.inl (finished.retried final)
  have queue : (system.queue.step (.done key)).Running := by
    refine orderly.queue.step (by simp) ?_
    rintro item ⟨⟩
    exact (orderly.busy key).mpr (by rw [finished.running]; rfl)
  obtain ⟨running, ended, rfl⟩ := finished
  have others : ∀ other task, Function.update system.jobs key none other = some task →
      other ≠ key ∧ system.jobs other = some task := by
    intro other task busy
    by_cases own : other = key
    · subst own
      rw [Function.update_self] at busy
      cases busy
    · rw [Function.update_of_ne own] at busy
      exact ⟨own, busy⟩
  refine ⟨queue, fun other => ?_, orderly.sole, orderly.stored, fun other entry known => ?_,
    fun other task service busy updates => ?_, fun other task busy => ?_,
    fun other task busy => ?_, fun other free => ?_, orderly.hosts, orderly.round⟩
  · have now : (system.queue.step (.done key)).inner.processing =
        system.queue.inner.processing.erase key := WorkQueue.done_processing key
    dsimp only
    rw [now, Finset.mem_erase, orderly.busy other]
    by_cases own : other = key
    · subst own
      simp
    · rw [Function.update_of_ne own]
      simp [own]
  · dsimp only at known
    by_cases own : other = key
    · subst own
      rw [Function.update_self] at known
      obtain ⟨former, cached, same⟩ := finish_state known
      exact same ▸ orderly.cached other former cached
    · rw [Function.update_of_ne own] at known
      exact orderly.cached other entry known
  · obtain ⟨own, busy⟩ := others other task busy
    dsimp only
    rw [Function.update_of_ne own]
    exact orderly.updating other task service busy updates
  · exact orderly.jobs other task (others other task busy).2
  · exact (orderly.current other task (others other task busy).2).imp (waits other) id
  · dsimp only at free
    by_cases own : other = key
    · subst own
      exact settles
    · rw [Function.update_of_ne own] at free
      refine (orderly.settled other free).imp (waits other) fun settled => ?_
      unfold Settled at settled ⊢
      dsimp only
      rwa [Function.update_of_ne own]

end Finishing

/-! ## Whole runs -/

theorem Orderly.move (orderly : Orderly owner controller system) {move : Move}
    (owned : move.Owned owner) : Orderly owner controller (system.move controller move) := by
  cases move with
  | change key service =>
      exact orderly.change fun next same => owned key next (same ▸ rfl)
  | resync key => exact orderly.requeued (resync_requeued orderly key)
  | notify => exact orderly.requeued (notify_requeued orderly)
  | take listed order choices =>
      rw [System.move]
      rcases take_taken controller system listed order choices with same | ⟨key, task, taken⟩
      · rw [same]
        exact orderly
      · exact orderly.taken taken
  | call key => exact orderly.call key
  | finish key =>
      rw [System.move]
      rcases finish_finished system key with
        same | ⟨job, -, -, crashed⟩ | ⟨job, failure, finished⟩
      · rw [same]
        exact orderly
      · rw [crashed]
        exact Orderly.restart orderly.sole orderly.stored
      · exact orderly.finished finished
  | beginRound listed keys order choices => exact orderly.beginRound listed keys order choices
  | callRound => exact orderly.swept (callRound_swept orderly)
  | endRound => exact orderly.endRound
  | retry key delay now => exact orderly.requeued (retry_requeued orderly key delay now)
  | promote now => exact orderly.requeued (promote_requeued orderly now)
  | receive now => exact orderly.requeued (receive_requeued orderly now)
  | restart => exact Orderly.restart orderly.sole orderly.stored

theorem Orderly.run (orderly : Orderly owner controller system) {moves : List Move}
    (owned : ∀ move ∈ moves, move.Owned owner) :
    Orderly owner controller (system.run controller moves) := by
  induction moves generalizing system with
  | nil => exact orderly
  | cons move rest ih =>
      exact ih (orderly.move (owned move List.mem_cons_self)) fun other member =>
        owned other (List.mem_cons_of_mem _ member)

end Steps

/-- With nothing on the way and no worker, a key is idle. -/
theorem idle_of_empty {system : System} {key : String} (pending : system.pending.length = 0)
    (retries : system.retries.length = 0) (dirty : key ∉ system.queue.inner.dirty)
    (channel : system.queue.waitingForAddCh.length = 0)
    (waiting : system.queue.waitingForAdd.length = 0) (free : (system.jobs key).isNone) :
    system.Idle key := by
  refine ⟨?_, Option.isNone_iff_eq_none.mp free⟩
  rintro (⟨notification, member, -⟩ | ⟨delay, member⟩ | ⟨time, due | ⟨entry, place, -⟩⟩)
  · rw [List.eq_nil_of_length_eq_zero pending] at member
    cases member
  · rw [List.eq_nil_of_length_eq_zero retries] at member
    cases member
  · exact dirty due
  · rw [List.eq_nil_of_length_eq_zero channel, List.eq_nil_of_length_eq_zero waiting] at place
    rcases place with sent | waits
    · cases sent
    · cases waits

/-! A service whose port is changed while a worker is at it; between the two synchronisations
the loop turns to another node. -/

def web : V1Service where
  nameSpace := "default"
  name := "web"
  uid := "1-2"
  annotations := none
  type := .loadBalancer
  ports := [⟨⟨"TCP", 80, 30080⟩, "http"⟩]
  sessionAffinity := "None"
  loadBalancerIP := ""
  loadBalancerSourceRanges := none
  externalIPs := []
  ingress := []

def sampleController : ServiceController := ⟨sampleProvider, .identity⟩

def nodeA : Node := ⟨"node-a", "", false, [⟨nodeReady, .isTrue, "", ""⟩]⟩

def nodeB : Node := ⟨"node-b", "", false, [⟨nodeReady, .isTrue, "", ""⟩]⟩

def granting : Nat → ControlChoice := fun index => ⟨sampleChoices index, none⟩

def webStore : AList fun _ : String => V1Service := AList.singleton "default/web" web

def calls (count : Nat) : List Move := List.replicate count (.call "default/web")

def loopCalls (count : Nat) : List Move := List.replicate count .callRound

theorem webStore_keys {key : String} {service : V1Service}
    (listed : webStore.lookup key = some service) : "default/web" = key := by
  have member : key ∈ webStore := AList.lookup_isSome.mp (by rw [listed]; rfl)
  exact (List.mem_singleton.mp member).symm

end KubeAliyun.Services
