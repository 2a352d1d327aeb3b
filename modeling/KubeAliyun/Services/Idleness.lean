import KubeAliyun.Services.Deletion

/-!
# Idle keys stay idle

Once nothing is going on with a key, only a change of its service or a new start of the
process sets a worker on it.  The informer hands the service out again from time to time,
but `needsUpdate` sees no difference between a version and itself, so that what the node loop
has done to the load balancer is not put right either.
-/

namespace KubeAliyun.Services

open KubeAliyun.Cloud KubeAliyun.Provider KubeAliyun.Remote KubeAliyun.Kube
  KubeAliyun.Controller KubeAliyun.Balancer KubeAliyun.Queue

/-! ## A version and itself -/

theorem portSlicesEqualForLB_self (ports : List NamedPort) :
    portSlicesEqualForLB ports ports = true := by
  have pairs : (ports.zip ports).all (fun pair => portEqualForLB pair.1 pair.2) = true := by
    induction ports with
    | nil => rfl
    | cons port rest ih =>
        rw [List.zip_cons_cons, List.all_cons, ih]
        simp [portEqualForLB]
  simp only [portSlicesEqualForLB, ne_eq, not_true_eq_false, if_false, pairs]

theorem any_zip_self (ips : List String) :
    ((ips.zip ips).any fun pair => pair.1 != pair.2) = false := by
  induction ips with
  | nil => rfl
  | cons ip rest ih => simp [ih]

/-- A version whose ports are of one protocol does not differ from itself. -/
theorem needsUpdate_self {service : V1Service} (uniform : (getPortsForLB service).isSome) :
    needsUpdate service service = false := by
  obtain ⟨ports, listed⟩ := Option.isSome_iff_exists.mp uniform
  have equal : portsEqualForLB service service = true := by
    simp only [portsEqualForLB, listed, portSlicesEqualForLB_self]
  simp [needsUpdate, equal, any_zip_self, loadBalancerIPsAreEqual]

/-! ## A key at rest -/

/-- Nothing is going on with the key, and its service may be handed out again. -/
structure Resting (key : String) (system : System) : Prop where
  quiet : ∀ notification ∈ system.pending, notification.key = key →
    notification.enqueues = false
  called : ∀ delay, (key, delay) ∉ system.retries
  unasked : system.queue.Unasked key
  free : system.jobs key = none
  uniform : ∀ service, system.store.lookup key = some service →
    (getPortsForLB service).isSome

section Resting

variable {owner : String → String} {controller : ServiceController} {system next : System}
  {key : String}

theorem Resting.idle (resting : Resting key system) : system.Idle key := by
  refine ⟨?_, resting.free⟩
  rintro (⟨notification, member, same, enqueues⟩ | ⟨delay, member⟩ | due)
  · rw [resting.quiet notification member same] at enqueues
    cases enqueues
  · exact resting.called delay member
  · exact Delaying.unasked_iff.mp resting.unasked due

theorem resting_of_idle (idle : system.Idle key)
    (uniform : ∀ service, system.store.lookup key = some service →
      (getPortsForLB service).isSome) : Resting key system := by
  refine ⟨fun notification member same => ?_, fun delay member => ?_, ?_, idle.2, uniform⟩
  · refine Bool.eq_false_iff.mpr fun enqueues => idle.1 (Or.inl ?_)
    exact ⟨notification, member, same, enqueues⟩
  · exact idle.1 (Or.inr (Or.inl ⟨delay, member⟩))
  · exact Delaying.unasked_iff.mpr fun due => idle.1 (Or.inr (Or.inr due))

/-- Another notification, of another key or without an effect. -/
theorem Resting.noted (resting : Resting key system) {notification : Notification}
    (ignored : notification.key = key → notification.enqueues = false)
    {store : AList fun _ : String => V1Service}
    (same : store.lookup key = system.store.lookup key) :
    Resting key { system with store, pending := system.pending ++ [notification] } := by
  refine { resting with quiet := fun other member own => ?_, uniform := ?_ }
  · rcases List.mem_append.mp member with earlier | last
    · exact resting.quiet other earlier own
    · rw [List.mem_singleton] at last
      subst last
      exact ignored own
  · dsimp only
    rw [same]
    exact resting.uniform

theorem Resting.change (resting : Resting key system) {other : String}
    (different : key ≠ other) (service : Option V1Service) :
    Resting key (system.change other service) := by
  have elsewhere {notification : Notification} (its : notification.key = other)
      {store : AList fun _ : String => V1Service}
      (same : store.lookup key = system.store.lookup key) :
      Resting key { system with store, pending := system.pending ++ [notification] } :=
    resting.noted (fun own => absurd (own.symm.trans its) different) same
  unfold System.change
  split
  · exact resting
  · exact elsewhere rfl (AList.lookup_insert_ne different)
  · exact elsewhere rfl (AList.lookup_insert_ne different)
  · exact elsewhere rfl (AList.lookup_erase_ne different)

theorem Resting.resync (resting : Resting key system) (other : String) :
    Resting key (system.resync other) := by
  unfold System.resync
  cases listed : system.store.lookup other with
  | none => exact resting
  | some service =>
      have ignored : (Notification.updated other service service).key = key →
          (Notification.updated other service service).enqueues = false := by
        rintro rfl
        exact needsUpdate_self (resting.uniform service listed)
      exact resting.noted ignored rfl

theorem Resting.notify (resting : Resting key system) (sound : system.queue.Sound) :
    Resting key system.notify := by
  unfold System.notify
  cases shape : system.pending with
  | nil => exact resting
  | cons notification rest =>
      have quiet := resting.quiet
      rw [shape] at quiet
      refine { resting with
        quiet := fun other member => quiet other (List.mem_cons_of_mem _ member)
        unasked := ?_ }
      dsimp only
      split
      · rename_i enqueues
        refine resting.unasked.step sound (fun same => ?_) (by simp)
        have own : notification.key = key := by injection same
        rw [quiet notification List.mem_cons_self own] at enqueues
        cases enqueues
      · exact resting.unasked

theorem Resting.taken (resting : Resting key system) (sound : system.queue.Sound)
    {other : String} {listed : Except GoError (List Node)} {order : MapOrder}
    {choices : Nat → ControlChoice} {task : SyncTask}
    (taken : Taken controller system other listed order choices task next) :
    Resting key next := by
  obtain ⟨⟨inner, got⟩, -, rfl⟩ := taken
  have different : key ≠ other := by
    rintro rfl
    exact (resting.unasked 0).1 (WorkQueue.get_spec sound.inner got).1
  refine { resting with unasked := resting.unasked.step sound (by simp) (by simp), free := ?_ }
  dsimp only
  rw [Function.update_of_ne different]
  exact resting.free

theorem Resting.finished (resting : Resting key system) (sound : system.queue.Sound)
    {other : String} {job : Job} {failure : Option GoError}
    (finished : Finished system other job failure next) : Resting key next := by
  obtain ⟨running, -, rfl⟩ := finished
  have different : key ≠ other := by
    rintro rfl
    rw [resting.free] at running
    cases running
  refine { resting with
    called := fun delay => ?_
    unasked := resting.unasked.step sound (by simp) (by simp)
    free := ?_ }
  · dsimp only
    split
    · exact resting.called delay
    · rw [List.mem_append, List.mem_singleton]
      rintro (earlier | last)
      · exact resting.called delay earlier
      · exact different (congrArg Prod.fst last)
  · dsimp only
    rw [Function.update_of_ne different]
    exact resting.free

theorem Resting.retry (resting : Resting key system) (sound : system.queue.Sound)
    (other : String) (delay now : Int) : Resting key (system.retry other delay now) := by
  unfold System.retry
  split
  · rename_i member
    have different : other ≠ key := by
      rintro rfl
      exact resting.called delay (List.contains_iff_mem.mp member)
    cases accepted : system.queue.addAfter other delay now with
    | none => exact resting
    | some queue =>
        have stepped : system.queue.step (.addAfter other delay now) = queue := by
          rw [Delaying.step, accepted]
          rfl
        dsimp only
        rw [← stepped]
        refine { resting with
          called := fun wait place => resting.called wait (List.mem_of_mem_erase place)
          unasked := resting.unasked.step sound (by simp) ?_ }
        rintro duration time ⟨⟩
        exact different rfl
  · exact resting

theorem Resting.call (resting : Resting key system) (other : String) :
    Resting key (system.call other) := by
  unfold System.call
  cases running : system.jobs other with
  | none => exact resting
  | some job =>
      have different : key ≠ other := by
        rintro rfl
        rw [resting.free] at running
        cases running
      refine { resting with free := ?_ }
      dsimp only
      rw [Function.update_of_ne different]
      exact resting.free

theorem Resting.move (resting : Resting key system)
    (orderly : Orderly owner controller system) {move : Move}
    (survives : system.survives move = true) (unchanged : ∀ service, move ≠ .change key service) :
    Resting key (system.move controller move) := by
  have sound := orderly.queue.sound
  cases move with
  | change other service =>
      exact resting.change (fun own => unchanged service (own ▸ rfl)) service
  | resync other => exact resting.resync other
  | notify => exact resting.notify sound
  | take listed order choices =>
      rw [System.move]
      rcases take_taken controller system listed order choices with same | ⟨other, task, taken⟩
      · rw [same]
        exact resting
      · exact resting.taken sound taken
  | call other => exact resting.call other
  | finish other =>
      rw [System.move]
      rcases finish_finished system other with
        same | ⟨job, running, crashed, -⟩ | ⟨job, failure, finished⟩
      · rw [same]
        exact resting
      · simp [System.survives, running, crashed, panicked] at survives
      · exact resting.finished sound finished
  | beginRound listed keys order choices =>
      dsimp only [System.move, System.beginRound]
      split
      · exact resting
      · exact { resting with }
  | callRound =>
      obtain ⟨⟨round, account, rewritten, same⟩, -⟩ := callRound_swept orderly
      rw [System.move, same]
      exact { resting with }
  | endRound =>
      rw [System.move]
      rcases endRound_cases system with
        same | ⟨process, running, crashed, -⟩ | ⟨-, hosts, -, -, ended⟩
      · rw [same]
        exact resting
      · simp [System.survives, running, crashed, panicked] at survives
      · rw [ended]
        exact { resting with }
  | retry other delay now => exact resting.retry sound other delay now
  | promote now =>
      have unasked : (system.queue.step (.promote now)).Unasked key :=
        resting.unasked.step sound (by simp) (by simp)
      exact { resting with unasked }
  | receive now =>
      have unasked : (system.queue.step (.receive now)).Unasked key :=
        resting.unasked.step sound (by simp) (by simp)
      exact { resting with unasked }
  | restart => cases survives

theorem Resting.run (resting : Resting key system)
    (orderly : Orderly owner controller system) {moves : List Move}
    (owned : ∀ move ∈ moves, move.Owned owner)
    (lives : system.survived controller moves = true)
    (unchanged : ∀ service, .change key service ∉ moves) :
    Resting key (system.run controller moves) ∧ ∀ name, owner name = key →
      Left name system (system.run controller moves) := by
  induction moves generalizing system with
  | nil => exact ⟨resting, fun name _ => Left.refl name system⟩
  | cons move rest ih =>
      rw [System.survived, Bool.and_eq_true] at lives
      have stepped : Resting key (system.move controller move) :=
        resting.move orderly lives.1 fun service this =>
          unchanged service (this ▸ List.mem_cons_self)
      have still : (system.call key).account = system.account := by
        rw [System.call, resting.free]
      obtain ⟨resting, left⟩ := ih stepped (orderly.move (owned move List.mem_cons_self))
        (fun other member => owned other (List.mem_cons_of_mem _ member)) lives.2
        fun service member => unchanged service (List.mem_cons_of_mem _ member)
      exact ⟨resting, fun name own =>
        (move_left orderly move own fun _ => still).trans (left name own)⟩

end Resting

/-- An idle key stays idle as long as the process lives and its service is not changed: the
retries of other keys, further versions of other services and everything the informer hands
out again set no worker on it, and only the node loop writes to its load balancers. -/
theorem idle_stays {owner : String → String} (controller : ServiceController)
    {store : AList fun _ : String => V1Service} {account : Account}
    {before after : List Move} (sole : SoleNames account)
    (stored : ∀ key service, store.lookup key = some service →
      owner service.balancerName = key)
    (owned : ∀ move ∈ before ++ after, move.Owned owner) {key : String}
    {system final : System}
    (reached : (System.start store account).run controller before = system)
    (ended : system.run controller after = final) (idle : system.Idle key)
    (uniform : ∀ service, system.store.lookup key = some service →
      (getPortsForLB service).isSome)
    (lives : system.survived controller after = true)
    (unchanged : ∀ service, .change key service ∉ after) :
    final.Idle key ∧ ∀ name, owner name = key → Left name system final := by
  subst reached ended
  have orderly : Orderly owner controller ((System.start store account).run controller before) :=
    (Orderly.start sole stored).run fun move member => owned move (List.mem_append_left _ member)
  obtain ⟨resting, left⟩ := (resting_of_idle idle uniform).run orderly
    (fun move member => owned move (List.mem_append_right _ member)) lives unchanged
  exact ⟨resting.idle, left⟩

end KubeAliyun.Services
