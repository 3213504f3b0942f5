import RtsProxy.Ownership
import RtsProxy.System

/-!
# The event loop and its clients

`EpollLoop` keeps the clients by their descriptors. A client is removed by a task, which its
callback queues and which is run behind the events of a batch; all that a task knows of its client
is the descriptor. The server takes connections, registers clients for them and removes these.

* `Settled.step`: between events, every task that is queued finds the client it is meant for;
* `Settling.runTask`: while the tasks are run, it finds that client, or none;
* `rightful_of_run`: no client is ever removed by the task of another one.
-/

/-- The event loop. A task is a descriptor, whose client it removes; beside it stands, which is
    not in the code, the client whose callback has queued it. -/
structure EpollLoop (σ : Type) where
  clientPtrMap : List (Nat × σ) := []
  taskQueue : List (Nat × σ) := []
  deriving DecidableEq, Repr

namespace EpollLoop

variable {σ : Type}

/-- `get_client_from_map` -/
def getClientFromMap (fd : Nat) (l : EpollLoop σ) : Option σ := l.clientPtrMap.lookup fd

/-- `add_client_to_map`: a client for which there is no room is returned, to be destroyed. -/
def addClientToMap (fd : Nat) (client : σ) (l : EpollLoop σ) : Option σ × EpollLoop σ :=
  match l.getClientFromMap fd with
  | some _ => (some client, l)
  | none => (none, { l with clientPtrMap := (fd, client) :: l.clientPtrMap })

/-- `remove_client_from_map`: the client that is removed is returned, to be destroyed. -/
def removeClientFromMap (fd : Nat) (l : EpollLoop σ) : Option σ × EpollLoop σ :=
  (l.getClientFromMap fd, { l with clientPtrMap := l.clientPtrMap.eraseP (·.1 = fd) })

/-- `add_task`, from the callback of a client. -/
def addTask (fd : Nat) (client : σ) (l : EpollLoop σ) : EpollLoop σ :=
  { l with taskQueue := l.taskQueue ++ [(fd, client)] }

/-- The descriptors under which there are clients. -/
def keys (l : EpollLoop σ) : List Nat := l.clientPtrMap.map Prod.fst

/-- A client that is found: where it stands. -/
theorem exists_split_of_get {l : EpollLoop σ} {fd : Nat} {client : σ}
    (h : l.getClientFromMap fd = some client) :
    ∃ before behind, l.clientPtrMap = before ++ (fd, client) :: behind ∧
      (l.removeClientFromMap fd).2.clientPtrMap = before ++ behind := by
  obtain ⟨before, behind, heq, hbefore⟩ := List.lookup_eq_some_iff.1 h
  refine ⟨before, behind, heq, ?_⟩
  have hskip : ∀ p ∈ before, ¬decide (p.1 = fd) = true := by
    intro p hp heq
    have hne := hbefore p hp
    rw [of_decide_eq_true heq] at hne
    simp at hne
  rw [removeClientFromMap, heq, List.eraseP_append_right _ hskip]
  simp

end EpollLoop

/-- A task that has been run: the descriptor, the client whose callback had queued it, and the
    client that has been removed. -/
structure Removal where
  fd : Nat
  origin : Nat
  erased : Option Nat
  deriving DecidableEq, Repr

/-- The process: the loop, whose clients are told apart by serial numbers, the descriptors that are
    open, the connections whose first request has not been handled, and all other descriptors that
    a client or the rest of the process is to close. The last two fields are not in the code: the
    tasks that have been run, and the clients for which there was no room. -/
structure ClientServer where
  loop : EpollLoop Nat := {}
  openFds : Finset Nat := ∅
  waiting : List Nat := []
  others : List (Nat × Option Nat) := []
  nextSerial : Nat := 0
  removals : List Removal := []
  turnedAway : List Nat := []
  deriving DecidableEq

namespace ClientServer

/-- What happens in the process. -/
inductive Event
  /-- A connection is accepted. -/
  | accept (fd : Nat)
  /-- The first request of a connection is handled: it is closed, or gets a client. -/
  | closeConnection (fd : Nat)
  | register (fd : Nat)
  /-- The close callback of the client under a descriptor is called. -/
  | callback (fd : Nat)
  /-- A client, or the rest of the process, opens a descriptor, or closes one. -/
  | opens (fd : Nat) (owner : Option Nat)
  | closes (fd : Nat)
  /-- The events of a batch have been handled. -/
  | endBatch
  deriving DecidableEq, Repr

/-- A client is destroyed: it closes its connection and its other descriptors. -/
def destroy (fd serial : Nat) (s : ClientServer) : ClientServer :=
  { s with
    openFds := s.openFds.filter fun d => d ≠ fd ∧ (d, some serial) ∉ s.others
    others := s.others.filter (·.2 ≠ some serial) }

/-- A task is run. -/
def runTask (task : Nat × Nat) (s : ClientServer) : ClientServer :=
  let (erased, loop) := s.loop.removeClientFromMap task.1
  let s := { s with loop := loop, removals := ⟨task.1, task.2, erased⟩ :: s.removals }
  match erased with
  | none => s
  | some serial => s.destroy task.1 serial

/-- The tasks are run in turn. -/
def runTasks : List (Nat × Nat) → ClientServer → ClientServer
  | [], s => s
  | task :: tasks, s => runTasks tasks (s.runTask task)

/-- `process_tasks`. No task queues another one. -/
def processTasks (s : ClientServer) : ClientServer :=
  runTasks s.loop.taskQueue { s with loop := { s.loop with taskQueue := [] } }

/-- A connection gets a client. -/
def registerClient (fd : Nat) (s : ClientServer) : ClientServer :=
  let serial := s.nextSerial
  let (refused, loop) := s.loop.addClientToMap fd serial
  let s := { s with
    loop := loop, waiting := s.waiting.erase fd, nextSerial := serial + 1 }
  match refused with
  | none => s
  | some serial => { s.destroy fd serial with turnedAway := serial :: s.turnedAway }

/-- The process with its events. The kernel gives out descriptors that are not open. -/
def system : System ClientServer Event where
  step s
    | .accept fd =>
      if fd ∈ s.openFds then none
      else some { s with openFds := insert fd s.openFds, waiting := fd :: s.waiting }
    | .closeConnection fd =>
      if fd ∈ s.waiting then some { s with
        openFds := s.openFds.erase fd, waiting := s.waiting.erase fd }
      else none
    | .register fd => if fd ∈ s.waiting then some (s.registerClient fd) else none
    | .callback fd =>
      (s.loop.getClientFromMap fd).map fun serial => { s with loop := s.loop.addTask fd serial }
    | .opens fd owner =>
      if fd ∈ s.openFds then none
      else some { s with openFds := insert fd s.openFds, others := (fd, owner) :: s.others }
    | .closes fd =>
      if fd ∈ s.others.map Prod.fst then some { s with
        openFds := s.openFds.erase fd, others := s.others.eraseP (·.1 = fd) }
      else none
    | .endBatch => some s.processTasks

/-! ## Descriptors and their owners -/

/-- The descriptors that someone is to close: connections without a client, those of the clients,
    and all others. -/
def held (s : ClientServer) : List Nat := s.waiting ++ s.loop.keys ++ s.others.map Prod.fst

/-- A task has removed the client whose callback had queued it, or none. -/
def Rightful (r : Removal) : Prop := r.erased = none ∨ r.erased = some r.origin

/-- A task that is queued still finds its client, or finds none. -/
def Harmless (s : ClientServer) (task : Nat × Nat) : Prop :=
  task ∈ s.loop.clientPtrMap ∨ task.1 ∉ s.loop.keys

/-- What holds while the tasks of a batch are run. -/
structure Settling (tasks : List (Nat × Nat)) (s : ClientServer) : Prop where
  owned : Owned s.held s.openFds
  harmless : ∀ task ∈ tasks, s.Harmless task
  rightful : ∀ r ∈ s.removals, Rightful r
  turnedAway : s.turnedAway = []

/-- What holds between two events: every task that is queued finds the client it is meant for. -/
structure Settled (s : ClientServer) : Prop where
  owned : Owned s.held s.openFds
  tasks : ∀ task ∈ s.loop.taskQueue, task ∈ s.loop.clientPtrMap
  rightful : ∀ r ∈ s.removals, Rightful r
  turnedAway : s.turnedAway = []

variable {s t : ClientServer} {fd serial : Nat} {owner : Option Nat}

theorem nodup_keys (h : Owned s.held s.openFds) : s.loop.keys.Nodup :=
  (List.nodup_append.1 (List.nodup_append.1 h.nodup).1).2.1

theorem not_mem_keys_of_get (h : s.loop.getClientFromMap fd = none) : fd ∉ s.loop.keys := by
  intro hmem
  obtain ⟨p, hp, rfl⟩ := List.mem_map.1 hmem
  have hne := List.lookup_eq_none_iff.1 h p hp
  simp at hne

theorem remove_of_get (h : s.loop.getClientFromMap fd = none) :
    (s.loop.removeClientFromMap fd).2 = s.loop := by
  have hkeys := not_mem_keys_of_get h
  rw [EpollLoop.removeClientFromMap, List.eraseP_of_forall_not]
  intro p hp heq
  exact hkeys (List.mem_map.2 ⟨p, hp, of_decide_eq_true heq⟩)

/-- What a client holds besides its connection. -/
def othersOf (serial : Nat) (s : ClientServer) : List Nat :=
  (s.others.filter (·.2 = some serial)).map Prod.fst

theorem perm_others (serial : Nat) (s : ClientServer) : (s.others.map Prod.fst).Perm
    (s.othersOf serial ++ (s.others.filter (·.2 ≠ some serial)).map Prod.fst) := by
  have hsplit := List.filter_append_perm (fun p : Nat × Option Nat => decide (p.2 = some serial))
    s.others
  refine (hsplit.symm.map Prod.fst).trans ?_
  rw [List.map_append, othersOf]
  simp

/-- A client that is no longer registered is destroyed: what it held is free. -/
theorem owned_destroy (h : Owned (fd :: s.held) s.openFds) :
    Owned (s.destroy fd serial).held (s.destroy fd serial).openFds := by
  have hperm : (fd :: s.held).Perm
      (fd :: s.othersOf serial ++ (s.destroy fd serial).held) := by
    have hothers := perm_others serial s
    rw [List.perm_iff_count] at hothers ⊢
    intro d
    have hd := hothers d
    simp only [held, destroy, List.cons_append, List.count_cons, List.count_append] at hd ⊢
    omega
  refine (h.perm hperm).release fun x hx hnot => ?_
  obtain ⟨hne, hothers⟩ := not_or.1 (mt List.mem_cons.2 hnot)
  refine Finset.mem_filter.2 ⟨hx, hne, fun hmem => hothers ?_⟩
  exact List.mem_map.2 ⟨_, List.mem_filter.2 ⟨hmem, decide_eq_true rfl⟩, rfl⟩

/-! ## The tasks -/

/-- A task that is run removes its client, or none, and leaves the others harmless. -/
theorem Settling.runTask {task : Nat × Nat} {tasks : List (Nat × Nat)}
    (h : Settling (task :: tasks) s) : Settling tasks (s.runTask task) := by
  obtain ⟨howned, hharmless, hrightful, haway⟩ := h
  obtain ⟨fd, origin⟩ := task
  have hkeys := nodup_keys howned
  have htask := hharmless _ List.mem_cons_self
  unfold ClientServer.runTask
  rcases hget : s.loop.getClientFromMap fd with _ | serial
  · -- no client is there: nothing is removed
    have hloop := remove_of_get hget
    rw [show s.loop.removeClientFromMap fd = (none, s.loop) from Prod.ext hget hloop]
    refine ⟨howned, fun task htask => hharmless task (List.mem_cons_of_mem _ htask), ?_, haway⟩
    intro r hr
    rcases List.mem_cons.1 hr with rfl | hr
    · exact .inl rfl
    · exact hrightful r hr
  · obtain ⟨before, behind, hmap, hrest⟩ := EpollLoop.exists_split_of_get hget
    have hloop : s.loop.removeClientFromMap fd =
        (some serial, (s.loop.removeClientFromMap fd).2) := Prod.ext hget rfl
    rw [hloop]
    dsimp only
    -- the descriptor is not there a second time
    rw [EpollLoop.keys, hmap, List.map_append, List.map_cons, List.nodup_middle] at hkeys
    obtain ⟨hnot, -⟩ := List.nodup_cons.1 hkeys
    have hmem : ∀ origin, (fd, origin) ∈ s.loop.clientPtrMap ↔ origin = serial := by
      intro origin
      rw [hmap]
      constructor
      · intro hin
        by_contra hne
        refine hnot ?_
        rw [← List.map_append]
        refine List.mem_map.2 ⟨(fd, origin), ?_, rfl⟩
        rcases List.mem_append.1 hin with hin | hin
        · exact List.mem_append_left _ hin
        · refine List.mem_append_right _ ((List.mem_cons.1 hin).resolve_left fun heq => ?_)
          exact hne (Prod.mk.inj heq).2
      · rintro rfl
        exact List.mem_append_right _ List.mem_cons_self
    have horigin : origin = serial := by
      rcases htask with hin | hout
      · exact (hmem origin).1 hin
      · refine absurd ?_ hout
        exact List.mem_map.2 ⟨(fd, serial), (hmem serial).2 rfl, rfl⟩
    refine ⟨?_, fun task hin => ?_, ?_, haway⟩
    · refine owned_destroy (howned.perm ?_)
      rw [List.perm_iff_count]
      intro d
      simp only [held, EpollLoop.keys, hmap, hrest, List.map_append, List.map_cons,
        List.count_append, List.count_cons]
      omega
    · obtain ⟨fd', origin'⟩ := task
      show _ ∈ (s.loop.removeClientFromMap fd).2.clientPtrMap ∨
        fd' ∉ (s.loop.removeClientFromMap fd).2.keys
      rw [EpollLoop.keys, hrest, List.map_append]
      by_cases hfd : fd' = fd
      · exact .inr (hfd ▸ hnot)
      · rcases hharmless _ (List.mem_cons_of_mem _ hin) with hin' | hout
        · refine .inl ?_
          rw [hmap] at hin'
          rcases List.mem_append.1 hin' with hin' | hin'
          · exact List.mem_append_left _ hin'
          · refine List.mem_append_right _ ((List.mem_cons.1 hin').resolve_left fun heq => ?_)
            exact hfd (Prod.mk.inj heq).1
        · refine .inr fun hin' => hout ?_
          rw [EpollLoop.keys, hmap, List.map_append, List.map_cons]
          rcases List.mem_append.1 hin' with hin' | hin'
          · exact List.mem_append_left _ hin'
          · exact List.mem_append_right _ (List.mem_cons_of_mem _ hin')
    · intro r hr
      rcases List.mem_cons.1 hr with rfl | hr
      · exact .inr (congrArg some horigin.symm)
      · exact hrightful r hr

/-- So do all the tasks, by induction on them. -/
theorem Settling.runTasks {tasks : List (Nat × Nat)} (h : Settling tasks s) :
    Settling [] (s.runTasks tasks) := by
  induction tasks generalizing s with
  | nil => exact h
  | cons task tasks ih => exact ih h.runTask

@[simp] theorem taskQueue_runTask (task : Nat × Nat) :
    (s.runTask task).loop.taskQueue = s.loop.taskQueue := by
  unfold runTask
  rw [EpollLoop.removeClientFromMap]
  dsimp only
  split <;> rfl

theorem taskQueue_runTasks (tasks : List (Nat × Nat)) :
    (s.runTasks tasks).loop.taskQueue = s.loop.taskQueue := by
  induction tasks generalizing s with
  | nil => rfl
  | cons task tasks ih => exact ih.trans (taskQueue_runTask task)

/-- At the end of a batch the queue is empty. -/
theorem Settled.processTasks (h : Settled s) : Settled s.processTasks := by
  have hstart : Settling s.loop.taskQueue { s with loop := { s.loop with taskQueue := [] } } :=
    ⟨h.owned, fun task htask => .inl (h.tasks task htask), h.rightful, h.turnedAway⟩
  obtain ⟨howned, -, hrightful, haway⟩ := hstart.runTasks
  refine ⟨howned, fun task htask => ?_, hrightful, haway⟩
  have hqueue : s.processTasks.loop.taskQueue = [] := taskQueue_runTasks _
  rw [hqueue] at htask
  exact absurd htask List.not_mem_nil

/-! ## Runs -/

/-- A connection gets a client: there is room for it. -/
theorem Settled.registerClient (h : Settled s) (hfd : fd ∈ s.waiting) :
    Settled (s.registerClient fd) := by
  obtain ⟨howned, htasks, hrightful, haway⟩ := h
  have hget : s.loop.getClientFromMap fd = none := by
    rcases hget : s.loop.getClientFromMap fd with _ | serial
    · rfl
    · obtain ⟨before, behind, hmap, -⟩ := EpollLoop.exists_split_of_get hget
      have hkey : fd ∈ s.loop.keys := by simp [EpollLoop.keys, hmap]
      have hdisjoint := (List.nodup_append.1 (List.nodup_append.1 howned.nodup).1).2.2
      exact absurd rfl (hdisjoint fd hfd fd hkey)
  have hadd : s.loop.addClientToMap fd s.nextSerial =
      (none, { s.loop with clientPtrMap := (fd, s.nextSerial) :: s.loop.clientPtrMap }) := by
    rw [EpollLoop.addClientToMap, hget]
  unfold ClientServer.registerClient
  dsimp only
  rw [hadd]
  refine ⟨howned.perm ?_, fun task htask => List.mem_cons_of_mem _ (htasks task htask),
    hrightful, haway⟩
  have hwaiting := List.perm_cons_erase hfd
  rw [List.perm_iff_count] at hwaiting ⊢
  intro d
  have hd := hwaiting d
  simp only [held, EpollLoop.keys, List.map_cons, List.count_append, List.count_cons] at hd ⊢
  omega

/-- Every step keeps what holds between events. -/
theorem Settled.step {e : Event} (h : Settled s) (hst : system.step s e = some t) : Settled t := by
  obtain ⟨howned, htasks, hrightful, haway⟩ := h
  rcases e with fd | fd | fd | fd | ⟨fd, owner⟩ | fd | _
  all_goals simp only [system, Option.ite_none_left_eq_some, Option.ite_none_right_eq_some,
    Option.some.injEq, Option.map_eq_some_iff] at hst
  case accept =>
    obtain ⟨hfresh, rfl⟩ := hst
    exact ⟨howned.acquire_insert hfresh, htasks, hrightful, haway⟩
  case closeConnection =>
    obtain ⟨hwaiting, rfl⟩ := hst
    refine ⟨?_, htasks, hrightful, haway⟩
    have hperm := (List.perm_cons_erase hwaiting).append_right (s.loop.keys ++ s.others.map Prod.fst)
    rw [← List.append_assoc] at hperm
    refine (howned.perm (hperm.trans ?_)).release (l := [fd]) fun x hx hne => ?_
    · simp [held]
    · exact Finset.mem_erase.2 ⟨fun heq => hne (List.mem_singleton.2 heq), hx⟩
  case register =>
    obtain ⟨hwaiting, rfl⟩ := hst
    exact Settled.registerClient ⟨howned, htasks, hrightful, haway⟩ hwaiting
  case callback =>
    obtain ⟨serial, hget, rfl⟩ := hst
    refine ⟨howned, fun task htask => ?_, hrightful, haway⟩
    obtain ⟨before, behind, hmap, -⟩ := EpollLoop.exists_split_of_get hget
    rcases List.mem_append.1 htask with htask | htask
    · exact htasks task htask
    · rw [List.mem_singleton.1 htask]
      show _ ∈ s.loop.clientPtrMap
      simp [hmap]
  case opens =>
    obtain ⟨hfresh, rfl⟩ := hst
    refine ⟨(howned.acquire_insert hfresh).perm ?_, htasks, hrightful, haway⟩
    exact List.perm_middle.symm
  case closes =>
    obtain ⟨hothers, rfl⟩ := hst
    refine ⟨?_, htasks, hrightful, haway⟩
    obtain ⟨p, hp, hpfd⟩ := List.mem_map.1 hothers
    obtain ⟨⟨fd', owner⟩, before, behind, -, hfd, hsplit, herase⟩ :=
      List.exists_of_eraseP (p := fun q => decide (q.1 = fd)) hp (decide_eq_true hpfd)
    cases of_decide_eq_true hfd
    refine (howned.perm ?_).release (l := [fd']) fun x hx hne => ?_
    · rw [List.perm_iff_count]
      intro d
      rw [held, held, herase, hsplit]
      simp only [EpollLoop.keys, List.map_append, List.map_cons, List.cons_append,
        List.nil_append, List.count_append, List.count_cons]
      omega
    · exact Finset.mem_erase.2 ⟨fun heq => hne (List.mem_singleton.2 heq), hx⟩
  case endBatch =>
    subst hst
    exact Settled.processTasks ⟨howned, htasks, hrightful, haway⟩

/-- A process at its start: whatever is open, there are no connections and no clients. -/
def Started (s : ClientServer) : Prop := ∃ openFds, s = { openFds := openFds }

theorem settled_of_run (hs : Started s) (h : system.Run s t) : Settled t := by
  refine System.run_invariant (fun s e t hP hst => hP.step hst) h ?_
  obtain ⟨openFds, rfl⟩ := hs
  exact ⟨Owned.nil _, fun task h => absurd h List.not_mem_nil, fun r h => absurd h List.not_mem_nil,
    rfl⟩

/-- No client is ever removed by the task of another one, and there is always room for a client. -/
theorem rightful_of_run (hs : Started s) (h : system.Run s t) :
    (∀ r ∈ t.removals, Rightful r) ∧ t.turnedAway = [] :=
  ⟨(settled_of_run hs h).rightful, (settled_of_run hs h).turnedAway⟩

/-- A client calls its callback twice; the next connection gets its descriptor. -/
theorem rightful_of_run_reused : ∃ t, system.Run {} t ∧
    t.removals = [⟨5, 0, none⟩, ⟨5, 0, some 0⟩] ∧ t.loop.clientPtrMap = [(5, 1)] ∧
    (∀ r ∈ t.removals, Rightful r) ∧ t.turnedAway = [] := by
  obtain ⟨t, ht, hremovals, hmap⟩ : ∃ t, system.runEvents {} [.accept 5, .register 5,
      .opens 6 (some 0), .callback 5, .callback 5, .endBatch, .accept 5, .register 5] = some t ∧
      t.removals = [⟨5, 0, none⟩, ⟨5, 0, some 0⟩] ∧ t.loop.clientPtrMap = [(5, 1)] :=
    ⟨_, rfl, by decide +kernel, by decide +kernel⟩
  have hrun := System.run_of_runEvents ht
  exact ⟨t, hrun, hremovals, hmap, rightful_of_run ⟨∅, rfl⟩ hrun⟩

end ClientServer
