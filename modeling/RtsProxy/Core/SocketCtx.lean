import RtsProxy.System
import Mathlib.Tactic.Tauto

/-!
# The contexts of watched descriptors

The kernel watches descriptors for the event loop and gives back, for each event, the address of
the context that the descriptor was registered with; its handler is called. Contexts belong to the
loop (`ctx_ptr_map`), which keeps those that are replaced or removed until the end of the batch
(`deferred_delete_ctx_`), or to sessions, which destroy theirs when they are destroyed themselves.

* `Sound`: what is watched, what waits in the batch and what is running exists;
* `Sound.step`: every step keeps that, whatever a handler does;
* `calls_of_run`: no handler of a context that has been destroyed is ever called, nor is a context
  destroyed while its handler is running.
-/

/-- A context that a session holds, and the descriptor it is for. The guard of the descriptor may
    know the loop (`FdGuard::loop_`). -/
structure Holding where
  session : Nat
  fd : Nat
  ctx : Nat
  guarded : Bool
  deriving DecidableEq, Repr

/-- The event loop and the sessions, as far as contexts go; contexts and sessions are told apart by
    serial numbers. `watched` is kept by the kernel. The fields from `batchStart` on are not in the
    code: which contexts have been created in this batch, the session whose constructor is running,
    and the handlers called, each with whether its context existed then. -/
structure SocketContexts where
  ctxPtrMap : List (Nat × Nat) := []
  deferredDeleteCtx : List Nat := []
  held : List Holding := []
  watched : List (Nat × Nat) := []
  events : List Nat := []
  inBatch : Bool := false
  running : Option Nat := none
  nextCtx : Nat := 0
  nextSession : Nat := 0
  batchStart : Nat := 0
  building : Option Nat := none
  calls : List (Nat × Bool) := []
  deriving DecidableEq, Repr

namespace SocketContexts

/-! ## The operations of the loop -/

/-- A context exists: the loop keeps it, or a session does. -/
def Exists (s : SocketContexts) (ctx : Nat) : Prop :=
  ctx ∈ s.ctxPtrMap.map Prod.snd ∨ ctx ∈ s.deferredDeleteCtx ∨ ctx ∈ s.held.map Holding.ctx

instance (s : SocketContexts) (ctx : Nat) : Decidable (s.Exists ctx) :=
  inferInstanceAs (Decidable (_ ∨ _ ∨ _))

/-- `epoll_ctl` with `EPOLL_CTL_ADD`, which may fail, or `EPOLL_CTL_MOD` of a descriptor that is
    watched already. It is all that `set` does for a context that a session holds. -/
def watch (fd ctx : Nat) (added : Bool) (s : SocketContexts) : SocketContexts :=
  { s with
    watched := if fd ∈ s.watched.map Prod.fst ∨ added then
        (fd, ctx) :: s.watched.filter (·.1 ≠ fd)
      else s.watched }

/-- `EPOLL_CTL_DEL`, or the descriptor is closed. -/
def unwatch (fd : Nat) (s : SocketContexts) : SocketContexts :=
  { s with watched := s.watched.filter (·.1 ≠ fd) }

/-- The context that the loop keeps for a descriptor is kept until the end of the batch. -/
def deferMapped (fd : Nat) (s : SocketContexts) : SocketContexts :=
  { s with
    ctxPtrMap := s.ctxPtrMap.filter (·.1 ≠ fd)
    deferredDeleteCtx := s.deferredDeleteCtx ++ (s.ctxPtrMap.filter (·.1 = fd)).map Prod.snd }

/-- `set` of a new context that the loop is to keep. -/
def setOwned (fd : Nat) (added : Bool) (s : SocketContexts) : SocketContexts :=
  let s := s.deferMapped fd
  { s with ctxPtrMap := (fd, s.nextCtx) :: s.ctxPtrMap, nextCtx := s.nextCtx + 1 }.watch fd
    s.nextCtx added

/-- `remove` -/
def remove (fd : Nat) (s : SocketContexts) : SocketContexts := (s.unwatch fd).deferMapped fd

/-- The end of an `FdGuard`. -/
def closeGuard (fd : Nat) (guarded : Bool) (s : SocketContexts) : SocketContexts :=
  let s := s.unwatch fd
  if guarded then s.deferMapped fd else s

/-! ## What sessions do -/

/-- A session makes a context for a descriptor, and has it watched. -/
def openContext (session fd : Nat) (guarded added : Bool) (s : SocketContexts) : SocketContexts :=
  { s with
    held := ⟨session, fd, s.nextCtx, guarded⟩ :: s.held
    nextCtx := s.nextCtx + 1 }.watch fd s.nextCtx added

/-- The context of a descriptor of a session is given to the loop (`defer_delete`), and the
    descriptor is closed, by a guard that does not know the loop. -/
def dropContext (session fd : Nat) (s : SocketContexts) : SocketContexts :=
  let mine := fun h : Holding => h.session = session ∧ h.fd = fd
  { s.unwatch fd with
    held := s.held.filter (¬mine ·)
    deferredDeleteCtx := s.deferredDeleteCtx ++ (s.held.filter (mine ·)).map Holding.ctx }

/-- The guards of a session that is destroyed. -/
def closeGuards : List Holding → SocketContexts → SocketContexts
  | [], s => s
  | h :: hs, s => closeGuards hs (s.closeGuard h.fd h.guarded)

/-- A session is destroyed, with its contexts. -/
def destroy (session : Nat) (s : SocketContexts) : SocketContexts :=
  closeGuards (s.held.filter (·.session = session))
    { s with held := s.held.filter (·.session ≠ session) }

/-- The tasks of a batch destroy sessions. -/
def destroyAll : List Nat → SocketContexts → SocketContexts
  | [], s => s
  | session :: rest, s => destroyAll rest (s.destroy session)

/-! ## The steps -/

/-- What happens. Between the calls of two handlers, or rather during the first one, anything that
    a handler does may happen any number of times. -/
inductive Event
  /-- `epoll_wait` returns, with events for some of the descriptors that are watched. -/
  | fetch (fds : List Nat)
  /-- The handler of the next event is called. -/
  | dispatch
  /-- A connection is accepted. -/
  | accept (fd : Nat) (added : Bool)
  /-- The constructor of a session takes over a connection. -/
  | adopt (fd : Nat) (added : Bool)
  /-- The session that is being constructed is destroyed: its constructor throws, or there is no
      room for it. -/
  | discard
  /-- A session opens a descriptor, has one watched for other events, or renews its timer. -/
  | opens (session fd : Nat) (guarded added : Bool)
  | rearms (holding : Holding) (added : Bool)
  | renews (session old new : Nat) (added : Bool)
  /-- A descriptor is closed that no session has a context for. -/
  | closes (fd : Nat) (guarded : Bool)
  /-- The events have been handled, and the tasks have destroyed some sessions
      (`process_tasks`). -/
  | endBatch (sessions : List Nat)
  deriving DecidableEq, Repr

/-- The contexts that are given back for the descriptors. -/
def fetched (fds : List Nat) (s : SocketContexts) : List Nat :=
  fds.filterMap fun fd => s.watched.lookup fd

/-- The loop with the handlers it calls. -/
def system : System SocketContexts Event where
  step s
    | .fetch fds =>
      if s.inBatch then none
      else some { s with
        events := s.fetched fds, inBatch := true, batchStart := s.nextCtx, building := none }
    | .dispatch =>
      match s.events with
      | [] => none
      | ctx :: rest => some { s with
          events := rest, running := some ctx, building := none
          calls := (ctx, decide (s.Exists ctx)) :: s.calls }
    | .accept fd added => if s.inBatch then some (s.setOwned fd added) else none
    | .adopt fd added =>
      if s.inBatch then
        some { (s.remove fd).openContext s.nextSession fd true added with
          nextSession := s.nextSession + 1, building := some s.nextSession }
      else none
    | .discard =>
      match s.building with
      | none => none
      | some session =>
        if s.inBatch then some { s.destroy session with building := none } else none
    | .opens session fd guarded added =>
      if s.inBatch ∧ session < s.nextSession then some (s.openContext session fd guarded added)
      else none
    | .rearms holding added =>
      if s.inBatch ∧ holding ∈ s.held then some (s.watch holding.fd holding.ctx added) else none
    | .renews session old new added =>
      if s.inBatch ∧ session < s.nextSession then
        some ((s.dropContext session old).openContext session new false added)
      else none
    | .closes fd guarded => if s.inBatch then some (s.closeGuard fd guarded) else none
    | .endBatch sessions =>
      if s.inBatch ∧ s.events = [] then
        some { ({ s with running := none, building := none } : SocketContexts).destroyAll sessions with
          deferredDeleteCtx := [], inBatch := false }
      else none

/-- The loop at its start: the context of the listening socket is registered. -/
def Started (s : SocketContexts) : Prop :=
  ∃ listenFd added, s = ({} : SocketContexts).setOwned listenFd added

/-! ## What is watched, and what exists -/

variable {s t u : SocketContexts} {e : Event} {fd ctx session : Nat} {guarded added : Bool}

/-- A context is kept for the descriptor it is registered for. -/
def Owns (s : SocketContexts) (p : Nat × Nat) : Prop :=
  p ∈ s.ctxPtrMap ∨ ∃ h ∈ s.held, h.fd = p.1 ∧ h.ctx = p.2

theorem Owns.exists {p : Nat × Nat} (h : s.Owns p) : s.Exists p.2 := by
  rcases h with h | ⟨h, hh, -, hctx⟩
  · exact .inl (List.mem_map_of_mem h)
  · exact .inr (.inr (hctx ▸ List.mem_map_of_mem hh))

/-- What is watched exists, and is new to nobody; so far no call has gone wrong. -/
structure Tidy (s : SocketContexts) : Prop where
  watched : ∀ p ∈ s.watched, s.Owns p
  sessions : ∀ h ∈ s.held, h.session < s.nextSession
  fresh : ∀ c, s.Exists c → c < s.nextCtx
  started : s.batchStart ≤ s.nextCtx
  called : ∀ call ∈ s.calls, call.2 = true

/-- What waits in the batch and what is running exists, too, and is older than the batch. Only
    contexts of this batch belong to a session that is being constructed. -/
structure Sound (s : SocketContexts) : Prop extends Tidy s where
  pending : ∀ c, c ∈ s.events ∨ c ∈ s.running → s.Exists c ∧ c < s.batchStart
  building : ∀ session ∈ s.building, ∀ h ∈ s.held, h.session = session → s.batchStart ≤ h.ctx

/-- The contexts that exist afterwards, and what is left as it was. -/
structure Keeps (s t : SocketContexts) : Prop where
  pending : t.events = s.events ∧ t.running = s.running ∧ t.batchStart = s.batchStart
  calls : t.calls = s.calls
  exists_iff : ∀ c, t.Exists c ↔ s.Exists c

theorem Keeps.refl (s : SocketContexts) : Keeps s s := ⟨⟨rfl, rfl, rfl⟩, rfl, fun _ => Iff.rfl⟩

theorem Keeps.trans (h : Keeps s t) (h' : Keeps t u) : Keeps s u := by
  obtain ⟨⟨hevents, hrunning, hstart⟩, hcalls, hexists⟩ := h
  obtain ⟨⟨hevents', hrunning', hstart'⟩, hcalls', hexists'⟩ := h'
  exact ⟨⟨hevents'.trans hevents, hrunning'.trans hrunning, hstart'.trans hstart⟩,
    hcalls'.trans hcalls, fun c => (hexists' c).trans (hexists c)⟩

theorem keeps_unwatch : Keeps s (s.unwatch fd) := ⟨⟨rfl, rfl, rfl⟩, rfl, fun _ => Iff.rfl⟩

theorem mem_map_snd_split {l : List (Nat × Nat)} {c : Nat} : c ∈ l.map Prod.snd ↔
    c ∈ (l.filter (·.1 ≠ fd)).map Prod.snd ∨ c ∈ (l.filter (·.1 = fd)).map Prod.snd := by
  simp only [List.mem_map, List.mem_filter, decide_eq_true_eq]
  constructor
  · rintro ⟨p, hp, rfl⟩
    by_cases hfd : p.1 = fd
    · exact .inr ⟨p, ⟨hp, hfd⟩, rfl⟩
    · exact .inl ⟨p, ⟨hp, hfd⟩, rfl⟩
  · rintro (⟨p, ⟨hp, -⟩, rfl⟩ | ⟨p, ⟨hp, -⟩, rfl⟩)
    · exact ⟨p, hp, rfl⟩
    · exact ⟨p, hp, rfl⟩

theorem keeps_deferMapped : Keeps s (s.deferMapped fd) := by
  refine ⟨⟨rfl, rfl, rfl⟩, rfl, fun c => ?_⟩
  simp only [Exists, deferMapped, List.mem_append]
  rw [@mem_map_snd_split fd s.ctxPtrMap]
  tauto

theorem keeps_closeGuard : Keeps s (s.closeGuard fd guarded) := by
  rw [closeGuard]
  rcases guarded with _ | _
  · exact keeps_unwatch
  · exact keeps_unwatch.trans keeps_deferMapped

theorem keeps_closeGuards (hs : List Holding) : Keeps s (s.closeGuards hs) := by
  induction hs generalizing s with
  | nil => exact .refl s
  | cons h hs ih => exact keeps_closeGuard.trans ih

/-- A context that its owner keeps may be registered. -/
theorem owns_watch (h : ∀ p ∈ s.watched, s.Owns p) (hp : s.Owns (fd, ctx)) :
    ∀ p ∈ (s.watch fd ctx added).watched, (s.watch fd ctx added).Owns p := by
  intro p hin
  change p ∈ ite _ _ _ at hin
  split at hin
  · rcases List.mem_cons.1 hin with rfl | hin
    · exact hp
    · exact h p (List.mem_filter.1 hin).1
  · exact h p hin

/-! ## Guards -/

theorem mem_watched_closeGuards {hs : List Holding} {p : Nat × Nat} :
    p ∈ (s.closeGuards hs).watched ↔ p ∈ s.watched ∧ ∀ h ∈ hs, h.fd ≠ p.1 := by
  induction hs generalizing s with
  | nil => simp [closeGuards]
  | cons h hs ih =>
    have hguard : (s.closeGuard h.fd h.guarded).watched = s.watched.filter (·.1 ≠ h.fd) := by
      rw [closeGuard]
      cases h.guarded <;> rfl
    rw [closeGuards, ih, hguard, List.mem_filter, decide_eq_true_eq, List.forall_mem_cons, and_assoc,
      ne_comm]

theorem mem_ctxPtrMap_closeGuards {hs : List Holding} {p : Nat × Nat} (hp : p ∈ s.ctxPtrMap)
    (hne : ∀ h ∈ hs, h.fd ≠ p.1) : p ∈ (s.closeGuards hs).ctxPtrMap := by
  induction hs generalizing s with
  | nil => exact hp
  | cons h hs ih =>
    obtain ⟨hh, hhs⟩ := List.forall_mem_cons.1 hne
    refine ih ?_ hhs
    rw [closeGuard]
    cases h.guarded
    · exact hp
    · exact List.mem_filter.2 ⟨hp, decide_eq_true hh.symm⟩

/-- What closing descriptors leaves alone. -/
theorem closeGuards_frame (hs : List Holding) : (s.closeGuards hs).held = s.held ∧
    (s.closeGuards hs).nextSession = s.nextSession ∧ (s.closeGuards hs).nextCtx = s.nextCtx ∧
    (s.closeGuards hs).building = s.building ∧ (s.closeGuards hs).inBatch = s.inBatch := by
  induction hs generalizing s with
  | nil => exact ⟨rfl, rfl, rfl, rfl, rfl⟩
  | cons h hs ih =>
    obtain ⟨hheld, hsession, hctx, hbuilding, hbatch⟩ := @ih (s.closeGuard h.fd h.guarded)
    rw [closeGuards, hheld, hsession, hctx, hbuilding, hbatch, closeGuard]
    cases h.guarded <;> exact ⟨rfl, rfl, rfl, rfl, rfl⟩

/-- What is watched behind a guard is owned, if it was before. -/
theorem owns_closeGuard (h : ∀ p ∈ s.watched, s.Owns p) :
    ∀ p ∈ (s.closeGuard fd guarded).watched, (s.closeGuard fd guarded).Owns p := by
  intro p hp
  have hone : s.closeGuard fd guarded = s.closeGuards [⟨0, fd, 0, guarded⟩] := rfl
  rw [hone, mem_watched_closeGuards] at hp
  obtain ⟨hin, hne⟩ := hp
  rw [hone, Owns, (closeGuards_frame _).1]
  exact (h p hin).imp_left fun hmap => mem_ctxPtrMap_closeGuards hmap hne

/-! ## Sessions -/

theorem exists_destroy {c : Nat} (hc : s.Exists c)
    (hother : ∀ h ∈ s.held, h.session = session → h.ctx ≠ c) : (s.destroy session).Exists c := by
  refine ((keeps_closeGuards _).exists_iff c).2 ?_
  rcases hc with hc | hc | hc
  · exact .inl hc
  · exact .inr (.inl hc)
  · obtain ⟨h, hh, rfl⟩ := List.mem_map.1 hc
    refine .inr (.inr (List.mem_map_of_mem (List.mem_filter.2 ⟨hh, decide_eq_true ?_⟩)))
    exact fun hsession => hother h hh hsession rfl

/-- A session is destroyed: with its contexts, their descriptors are no longer watched. -/
theorem Tidy.destroy (h : Tidy s) (session : Nat) : Tidy (s.destroy session) := by
  obtain ⟨hwatched, hsessions, hfresh, hstarted, hcalled⟩ := h
  have hkeeps := @keeps_closeGuards { s with held := s.held.filter (·.session ≠ session) }
    (s.held.filter (·.session = session))
  obtain ⟨hheld, hnext, hctx, -, -⟩ := @closeGuards_frame
    { s with held := s.held.filter (·.session ≠ session) } (s.held.filter (·.session = session))
  have hsub : ∀ h ∈ (s.destroy session).held, h ∈ s.held := by
    intro h hh
    rw [SocketContexts.destroy, hheld] at hh
    exact (List.mem_filter.1 hh).1
  refine ⟨fun p hp => ?_, fun h hh => hnext ▸ hsessions h (hsub h hh), fun c hc => ?_, ?_, ?_⟩
  · obtain ⟨hin, hne⟩ := mem_watched_closeGuards.1 hp
    rw [Owns, SocketContexts.destroy, hheld]
    rcases hwatched p hin with hmap | ⟨h, hh, hfd, hc⟩
    · exact .inl (mem_ctxPtrMap_closeGuards hmap hne)
    · refine .inr ⟨h, List.mem_filter.2 ⟨hh, decide_eq_true fun hsession => ?_⟩, hfd, hc⟩
      exact hne h (List.mem_filter.2 ⟨hh, decide_eq_true hsession⟩) hfd
  · rw [SocketContexts.destroy, hctx]
    refine hfresh c (((hkeeps.exists_iff c).1 hc).imp_right (Or.imp_right fun hin => ?_))
    obtain ⟨h, hh, rfl⟩ := List.mem_map.1 hin
    exact List.mem_map_of_mem (List.mem_filter.1 hh).1
  · rw [SocketContexts.destroy, hctx, hkeeps.pending.2.2]
    exact hstarted
  · rw [SocketContexts.destroy, hkeeps.calls]
    exact hcalled

theorem Tidy.destroyAll (h : Tidy s) (sessions : List Nat) : Tidy (s.destroyAll sessions) := by
  induction sessions generalizing s with
  | nil => exact h
  | cons session rest ih => exact ih (h.destroy session)

theorem destroyAll_frame (sessions : List Nat) : (s.destroyAll sessions).events = s.events ∧
    (s.destroyAll sessions).running = s.running ∧
    (s.destroyAll sessions).building = s.building := by
  induction sessions generalizing s with
  | nil => exact ⟨rfl, rfl, rfl⟩
  | cons session rest ih =>
    have hkeeps := @keeps_closeGuards { s with held := s.held.filter (·.session ≠ session) }
      (s.held.filter (·.session = session))
    obtain ⟨-, -, -, hbuilding, -⟩ := @closeGuards_frame
      { s with held := s.held.filter (·.session ≠ session) } (s.held.filter (·.session = session))
    obtain ⟨hevents, hrunning, hrest⟩ := @ih (s.destroy session)
    exact ⟨hevents.trans hkeeps.pending.1, hrunning.trans hkeeps.pending.2.1, hrest.trans hbuilding⟩

/-! ## Steps -/

theorem Tidy.closeGuard (h : Tidy s) : Tidy (s.closeGuard fd guarded) := by
  obtain ⟨hwatched, hsessions, hfresh, hstarted, hcalled⟩ := h
  have hkeeps := @keeps_closeGuard s fd guarded
  obtain ⟨hheld, hnext, hctx, -, -⟩ := @closeGuards_frame s [⟨0, fd, 0, guarded⟩]
  refine ⟨owns_closeGuard hwatched, ?_, fun c hc => ?_, ?_, ?_⟩
  · rw [show (s.closeGuard fd guarded).held = s.held from hheld,
      show (s.closeGuard fd guarded).nextSession = s.nextSession from hnext]
    exact hsessions
  · rw [show (s.closeGuard fd guarded).nextCtx = s.nextCtx from hctx]
    exact hfresh c ((hkeeps.exists_iff c).1 hc)
  · rw [show (s.closeGuard fd guarded).nextCtx = s.nextCtx from hctx, hkeeps.pending.2.2]
    exact hstarted
  · rw [hkeeps.calls]
    exact hcalled

theorem exists_openContext {c : Nat} : (s.openContext session fd guarded added).Exists c ↔
    c = s.nextCtx ∨ s.Exists c := by
  simp only [Exists, openContext, watch, List.map_cons, List.mem_cons]
  tauto

theorem Tidy.openContext (h : Tidy s) (hsession : session < s.nextSession) :
    Tidy (s.openContext session fd guarded added) := by
  obtain ⟨hwatched, hsessions, hfresh, hstarted, hcalled⟩ := h
  refine ⟨owns_watch (fun p hp => ?_) ?_, List.forall_mem_cons.2 ⟨hsession, hsessions⟩, ?_,
    Nat.le_succ_of_le hstarted, hcalled⟩
  · exact (hwatched p hp).imp_right fun ⟨h, hh, heq⟩ => ⟨h, List.mem_cons_of_mem _ hh, heq⟩
  · exact .inr ⟨_, List.mem_cons_self, rfl, rfl⟩
  · intro c hc
    rcases exists_openContext.1 hc with rfl | hc
    · exact Nat.lt_succ_self _
    · exact Nat.lt_succ_of_lt (hfresh c hc)

theorem exists_dropContext {c : Nat} : (s.dropContext session fd).Exists c ↔ s.Exists c := by
  have hsplit : c ∈ s.held.map Holding.ctx ↔
      c ∈ (s.held.filter fun h => ¬(h.session = session ∧ h.fd = fd)).map Holding.ctx ∨
        c ∈ (s.held.filter fun h => h.session = session ∧ h.fd = fd).map Holding.ctx := by
    simp only [List.mem_map, List.mem_filter, decide_eq_true_eq]
    constructor
    · rintro ⟨h, hh, rfl⟩
      by_cases hmine : h.session = session ∧ h.fd = fd
      · exact .inr ⟨h, ⟨hh, hmine⟩, rfl⟩
      · exact .inl ⟨h, ⟨hh, hmine⟩, rfl⟩
    · rintro (⟨h, ⟨hh, -⟩, rfl⟩ | ⟨h, ⟨hh, -⟩, rfl⟩)
      · exact ⟨h, hh, rfl⟩
      · exact ⟨h, hh, rfl⟩
  simp only [Exists, dropContext, unwatch, List.mem_append, hsplit]
  tauto

/-- The context of a descriptor is no longer watched when it leaves its session. -/
theorem Tidy.dropContext (h : Tidy s) : Tidy (s.dropContext session fd) := by
  obtain ⟨hwatched, hsessions, hfresh, hstarted, hcalled⟩ := h
  refine ⟨fun p hp => ?_, fun h hh => hsessions h (List.mem_filter.1 hh).1,
    fun c hc => hfresh c (exists_dropContext.1 hc), hstarted, hcalled⟩
  obtain ⟨hin, hne⟩ := List.mem_filter.1 hp
  refine (hwatched p hin).imp_right ?_
  rintro ⟨h, hh, hfd, hctx⟩
  refine ⟨h, List.mem_filter.2 ⟨hh, decide_eq_true ?_⟩, hfd, hctx⟩
  rintro ⟨-, hold⟩
  exact of_decide_eq_true hne (hfd.symm.trans hold)

theorem exists_setOwned {c : Nat} : (s.setOwned fd added).Exists c ↔
    c = s.nextCtx ∨ s.Exists c := by
  rw [← (@keeps_deferMapped s fd).exists_iff c]
  simp only [Exists, setOwned, deferMapped, watch, List.map_cons, List.mem_cons]
  tauto

theorem Tidy.setOwned (h : Tidy s) : Tidy (s.setOwned fd added) := by
  obtain ⟨hwatched, hsessions, hfresh, hstarted, hcalled⟩ := h
  refine ⟨fun p hp => ?_, hsessions, fun c hc => ?_, Nat.le_succ_of_le hstarted, hcalled⟩
  · -- a context that has been replaced is registered no longer, unless the kernel refuses
    change p ∈ ite _ _ _ at hp
    have hmap : ∀ p ∈ s.watched, p.1 ≠ fd → (s.setOwned fd added).Owns p := fun p hp hne =>
      (hwatched p hp).imp_left fun hin =>
        List.mem_cons_of_mem _ (List.mem_filter.2 ⟨hin, decide_eq_true hne⟩)
    split at hp
    case isTrue =>
      rcases List.mem_cons.1 hp with rfl | hp
      · exact .inl List.mem_cons_self
      · obtain ⟨hin, hne⟩ := List.mem_filter.1 hp
        exact hmap p hin (of_decide_eq_true hne)
    case isFalse hnone =>
      refine hmap p hp fun hfd => hnone (.inl ?_)
      exact hfd ▸ List.mem_map_of_mem hp
  · rcases exists_setOwned.1 hc with rfl | hc
    · exact Nat.lt_succ_self _
    · exact Nat.lt_succ_of_lt (hfresh c hc)

theorem Tidy.watch (h : Tidy s) (hp : s.Owns (fd, ctx)) : Tidy (s.watch fd ctx added) :=
  ⟨owns_watch h.watched hp, h.sessions, h.fresh, h.started, h.called⟩

/-- What waits and what runs goes on to exist, if nothing older than the batch is destroyed. -/
theorem pending_of {c : Nat} (h : Sound s)
    (hsame : t.events = s.events ∧ t.running = s.running ∧ t.batchStart = s.batchStart)
    (hexists : ∀ c, s.Exists c → c < s.batchStart → t.Exists c)
    (hc : c ∈ t.events ∨ c ∈ t.running) : t.Exists c ∧ c < t.batchStart := by
  obtain ⟨hevents, hrunning, hstart⟩ := hsame
  rw [hevents, hrunning] at hc
  obtain ⟨hin, hold⟩ := h.pending c hc
  exact ⟨hexists c hin hold, hstart ▸ hold⟩

/-- The contexts that are given back are those of watched descriptors. -/
theorem mem_fetched {fds : List Nat} {c : Nat} (h : c ∈ s.fetched fds) :
    ∃ fd, (fd, c) ∈ s.watched := by
  obtain ⟨fd, -, hlookup⟩ := List.mem_filterMap.1 h
  obtain ⟨before, behind, heq, -⟩ := List.lookup_eq_some_iff.1 hlookup
  exact ⟨fd, heq ▸ List.mem_append_right _ List.mem_cons_self⟩

/-- Every step keeps what is watched, waiting or running alive. -/
theorem Sound.step (h : Sound s) (hst : system.step s e = some t) : Sound t := by
  have htidy := h.toTidy
  cases e with
  | fetch fds =>
    obtain ⟨-, hst⟩ := Option.ite_none_left_eq_some.1 hst
    cases hst
    refine ⟨⟨h.watched, h.sessions, h.fresh, Nat.le_refl _, h.called⟩, fun c hc => ?_, nofun⟩
    have hin : s.Exists c := by
      rcases hc with hc | hc
      · obtain ⟨fd, hfd⟩ := mem_fetched hc
        exact (h.watched _ hfd).exists
      · exact (h.pending c (.inr hc)).1
    exact ⟨hin, h.fresh c hin⟩
  | dispatch =>
    simp only [system] at hst
    split at hst
    · cases hst
    case h_2 ctx rest hevents =>
      cases hst
      have hctx := h.pending ctx (.inl (hevents ▸ List.mem_cons_self))
      refine ⟨⟨h.watched, h.sessions, h.fresh, h.started, ?_⟩, fun c hc => ?_, nofun⟩
      · exact List.forall_mem_cons.2 ⟨decide_eq_true hctx.1, h.called⟩
      · rcases hc with hc | hc
        · exact h.pending c (.inl (hevents ▸ List.mem_cons_of_mem _ hc))
        · cases hc
          exact hctx
  | accept fd added =>
    obtain ⟨-, hst⟩ := Option.ite_none_right_eq_some.1 hst
    cases hst
    exact ⟨htidy.setOwned, fun c => pending_of h ⟨rfl, rfl, rfl⟩ fun c hc _ =>
      exists_setOwned.2 (.inr hc), h.building⟩
  | adopt fd added =>
    obtain ⟨-, hst⟩ := Option.ite_none_right_eq_some.1 hst
    cases hst
    have hguard : Tidy { s.closeGuard fd true with nextSession := s.nextSession + 1 } := by
      obtain ⟨hwatched, hsessions, hfresh, hstarted, hcalled⟩ := @Tidy.closeGuard s fd true htidy
      exact ⟨hwatched, fun h hh => Nat.lt_succ_of_lt (hsessions h hh), hfresh, hstarted, hcalled⟩
    obtain ⟨hwatched, hsessions, hfresh, hstarted, hcalled⟩ :=
      @Tidy.openContext _ fd s.nextSession true added hguard (Nat.lt_succ_self _)
    refine ⟨⟨hwatched, hsessions, hfresh, hstarted, hcalled⟩,
      fun c => pending_of h ⟨rfl, rfl, rfl⟩ fun c hc _ => ?_, ?_⟩
    · have hguarded := ((@keeps_closeGuard s fd true).exists_iff c).2 hc
      exact (@exists_openContext (s.closeGuard fd true) fd s.nextSession true added c).2 (.inr hguarded)
    · rintro _ ⟨⟩ h' hh' hsession
      rcases List.mem_cons.1 hh' with rfl | hh'
      · exact h.started
      · exact absurd hsession (Nat.ne_of_lt (h.sessions h' hh'))
  | discard =>
    simp only [system] at hst
    split at hst
    · cases hst
    case h_2 session hbuilding =>
      obtain ⟨-, hst⟩ := Option.ite_none_right_eq_some.1 hst
      cases hst
      have hkeeps := @keeps_closeGuards { s with held := s.held.filter (·.session ≠ session) }
        (s.held.filter (·.session = session))
      obtain ⟨hwatched, hsessions, hfresh, hstarted, hcalled⟩ := htidy.destroy session
      refine ⟨⟨hwatched, hsessions, hfresh, hstarted, hcalled⟩,
        fun c => pending_of h hkeeps.pending fun c hc hold => ?_, nofun⟩
      refine exists_destroy hc fun h' hh' hsession heq => ?_
      exact absurd hold (Nat.not_lt.2 (heq ▸ h.building session hbuilding h' hh' hsession))
  | opens session fd guarded added =>
    obtain ⟨⟨-, hsession⟩, hst⟩ := Option.ite_none_right_eq_some.1 hst
    cases hst
    refine ⟨htidy.openContext hsession, fun c => pending_of h ⟨rfl, rfl, rfl⟩ fun c hc _ =>
      exists_openContext.2 (.inr hc), fun n hn h' hh' heq => ?_⟩
    rcases List.mem_cons.1 hh' with rfl | hh'
    · exact h.started
    · exact h.building n hn h' hh' heq
  | rearms holding added =>
    obtain ⟨⟨-, hholding⟩, hst⟩ := Option.ite_none_right_eq_some.1 hst
    cases hst
    exact ⟨htidy.watch (.inr ⟨holding, hholding, rfl, rfl⟩),
      fun c => pending_of h ⟨rfl, rfl, rfl⟩ fun c hc _ => hc, h.building⟩
  | renews session old new added =>
    obtain ⟨⟨-, hsession⟩, hst⟩ := Option.ite_none_right_eq_some.1 hst
    cases hst
    refine ⟨htidy.dropContext.openContext hsession,
      fun c => pending_of h ⟨rfl, rfl, rfl⟩ fun c hc _ =>
        exists_openContext.2 (.inr (exists_dropContext.2 hc)), fun n hn h' hh' heq => ?_⟩
    rcases List.mem_cons.1 hh' with rfl | hh'
    · exact h.started
    · exact h.building n hn h' (List.mem_filter.1 hh').1 heq
  | closes fd guarded =>
    obtain ⟨-, hst⟩ := Option.ite_none_right_eq_some.1 hst
    cases hst
    have hkeeps := @keeps_closeGuard s fd guarded
    obtain ⟨hheld, -, -, hbuilding, -⟩ := @closeGuards_frame s [⟨0, fd, 0, guarded⟩]
    refine ⟨htidy.closeGuard, fun c => pending_of h hkeeps.pending fun c hc _ =>
      (hkeeps.exists_iff c).2 hc, ?_⟩
    rw [show (s.closeGuard fd guarded).held = s.held from hheld,
      show (s.closeGuard fd guarded).building = s.building from hbuilding, hkeeps.pending.2.2]
    exact h.building
  | endBatch sessions =>
    obtain ⟨⟨-, hevents⟩, hst⟩ := Option.ite_none_right_eq_some.1 hst
    cases hst
    have hnone : Tidy { s with running := none, building := none } :=
      ⟨h.watched, h.sessions, h.fresh, h.started, h.called⟩
    obtain ⟨hwatched, hsessions, hfresh, hstarted, hcalled⟩ := hnone.destroyAll sessions
    obtain ⟨hpending, hrunning, hbuilding⟩ :=
      @destroyAll_frame { s with running := none, building := none } sessions
    refine ⟨⟨hwatched, hsessions, fun c hc => ?_, hstarted, hcalled⟩, fun c hc => ?_, ?_⟩
    · exact hfresh c (hc.imp_right fun hc => hc.imp_left fun hc => absurd hc List.not_mem_nil)
    · change c ∈ (destroyAll sessions _).events ∨ c ∈ (destroyAll sessions _).running at hc
      rw [hpending, hrunning, hevents] at hc
      rcases hc with hc | hc
      · exact absurd hc List.not_mem_nil
      · cases hc
    · intro n hn
      change n ∈ (destroyAll sessions _).building at hn
      rw [hbuilding] at hn
      cases hn

/-! ## Runs -/

theorem sound_of_run (hs : Started s) (h : system.Run s t) : Sound t := by
  refine System.run_invariant (fun s e t hP hst => hP.step hst) h ?_
  obtain ⟨listenFd, added, rfl⟩ := hs
  have hempty : Tidy {} := ⟨nofun, nofun, fun c hc => by simp [Exists] at hc, Nat.le_refl _, nofun⟩
  exact ⟨hempty.setOwned, fun c hc => by simp [setOwned, watch, deferMapped] at hc, nofun⟩

/-- A step happens in a batch that goes on, or it starts or ends one. -/
theorem inBatch_of_step (hst : system.step s e = some t) :
    (s.inBatch = true ∧ t.inBatch = true) ∨
      (t.inBatch = s.inBatch ∧ t.deferredDeleteCtx = s.deferredDeleteCtx) ∨
      t.inBatch = true ∨ t.deferredDeleteCtx = [] := by
  cases e with
  | fetch fds =>
    obtain ⟨-, hst⟩ := Option.ite_none_left_eq_some.1 hst
    cases hst
    exact .inr (.inr (.inl rfl))
  | dispatch =>
    simp only [system] at hst
    split at hst
    · cases hst
    · cases hst
      exact .inr (.inl ⟨rfl, rfl⟩)
  | accept fd added =>
    obtain ⟨hin, hst⟩ := Option.ite_none_right_eq_some.1 hst
    cases hst
    exact .inl ⟨hin, hin⟩
  | adopt fd added =>
    obtain ⟨hin, hst⟩ := Option.ite_none_right_eq_some.1 hst
    cases hst
    exact .inl ⟨hin, hin⟩
  | discard =>
    simp only [system] at hst
    split at hst
    · cases hst
    · obtain ⟨hin, hst⟩ := Option.ite_none_right_eq_some.1 hst
      cases hst
      exact .inl ⟨hin, (closeGuards_frame _).2.2.2.2.trans hin⟩
  | opens session fd guarded added =>
    obtain ⟨⟨hin, -⟩, hst⟩ := Option.ite_none_right_eq_some.1 hst
    cases hst
    exact .inl ⟨hin, hin⟩
  | rearms holding added =>
    obtain ⟨⟨hin, -⟩, hst⟩ := Option.ite_none_right_eq_some.1 hst
    cases hst
    exact .inl ⟨hin, hin⟩
  | renews session old new added =>
    obtain ⟨⟨hin, -⟩, hst⟩ := Option.ite_none_right_eq_some.1 hst
    cases hst
    exact .inl ⟨hin, hin⟩
  | closes fd guarded =>
    obtain ⟨hin, hst⟩ := Option.ite_none_right_eq_some.1 hst
    cases hst
    have hone : s.closeGuard fd guarded = s.closeGuards [⟨0, fd, 0, guarded⟩] := rfl
    exact .inl ⟨hin, hone ▸ (closeGuards_frame _).2.2.2.2.trans hin⟩
  | endBatch sessions =>
    obtain ⟨-, hst⟩ := Option.ite_none_right_eq_some.1 hst
    cases hst
    exact .inr (.inr (.inr rfl))

/-- Between the batches nothing is left that nobody keeps. -/
theorem swept_of_run (hs : Started s) (h : system.Run s t) :
    t.inBatch = false → t.deferredDeleteCtx = [] := by
  refine System.run_invariant (P := fun s => s.inBatch = false → s.deferredDeleteCtx = [])
    (fun s e t hP hst hout => ?_) h ?_
  · rcases inBatch_of_step hst with ⟨-, hin⟩ | ⟨hsame, hdeferred⟩ | hin | hempty
    · exact absurd (hin.symm.trans hout) (Bool.false_ne_true ·.symm)
    · exact hdeferred.trans (hP (hsame.symm.trans hout))
    · exact absurd (hin.symm.trans hout) (Bool.false_ne_true ·.symm)
    · exact hempty
  · obtain ⟨listenFd, added, rfl⟩ := hs
    exact fun _ => rfl

/-- Whatever the handlers do, and in whatever order: a handler is called of a context that exists,
    and the context exists until the next handler is called or the batch ends. So do those that wait
    for their call, and those that are watched; and between the batches each of them has an owner. -/
theorem calls_of_run (hs : Started s) (h : system.Run s t) :
    (∀ call ∈ t.calls, call.2 = true) ∧ (∀ c, c ∈ t.running ∨ c ∈ t.events → t.Exists c) ∧
      (∀ p ∈ t.watched, t.Exists p.2) ∧ (t.inBatch = false → t.deferredDeleteCtx = []) :=
  have hsound := sound_of_run hs h
  ⟨hsound.called, fun c hc => (hsound.pending c hc.symm).1,
    fun p hp => (hsound.watched p hp).exists, swept_of_run hs h⟩

/-- A session takes over a connection. In the next batch it renews its timer, whose own event is
    still to come, and is destroyed. -/
theorem calls_of_run_session : ∃ s t, Started s ∧ system.Run s t ∧
    t.calls.map Prod.fst = [4, 2, 1, 0] ∧ t.watched = [(3, 0)] ∧ (∀ call ∈ t.calls, call.2 = true) := by
  obtain ⟨t, ht, hcalls, hwatched⟩ : ∃ t, system.runEvents (({} : SocketContexts).setOwned 3 true)
      [.fetch [3], .dispatch, .accept 5 true, .endBatch [], .fetch [5], .dispatch, .adopt 5 true,
        .opens 0 6 false true, .renews 0 7 7 true, .endBatch [], .fetch [5, 7], .dispatch,
        .renews 0 7 8 true, .dispatch, .endBatch [0]] = some t ∧
      t.calls.map Prod.fst = [4, 2, 1, 0] ∧ t.watched = [(3, 0)] :=
    ⟨_, rfl, by decide +kernel, by decide +kernel⟩
  have hstart : Started (({} : SocketContexts).setOwned 3 true) := ⟨3, true, rfl⟩
  have hrun := System.run_of_runEvents ht
  exact ⟨_, t, hstart, hrun, hcalls, hwatched, (calls_of_run hstart hrun).1⟩

end SocketContexts
