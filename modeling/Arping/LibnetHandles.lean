import Arping.Lib.Ledger
import Arping.LibnetInit
import Arping.Target

/-!
# The handle of libnet

`do_libnet_init` destroys the handle that the global `libnet` holds and makes a new one, if need be
on `lo`. Whatever `libnet_init` answers, and in whatever order the program initialises and uses
libnet, at every moment no handle is alive but the one in `libnet`, and a call that returns leaves
a live one there (`handles_lifecycle`).

A moment of a run is a prefix of its events. Handles are numbered in the order they are made.
-/

namespace Arping

open Ledger ScriptLoop

/-! ## Runs -/

/-- A handle: its number, the name it was made with, and the context. -/
structure Handle where
  id : ℕ
  ifname : Option String
  context : LibnetContext

/-- A call `libnet_init(LIBNET_LINK, ifname, ebuf)`. -/
structure InitRecord where
  lib : LibnetLib
  ifname : Option String
  before : Finset ℕ
  after : Finset ℕ
  result : Option ℕ

/-- What happens to handles and to the global. -/
inductive LibnetEvent
  /-- `libnet_destroy`. -/
  | destroy (h : ℕ)
  /-- `libnet = 0`. -/
  | clear
  /-- `libnet = libnet_init(..)`. -/
  | init (call : InitRecord)
  /-- The handle is passed to a function of libnet. -/
  | use (h : ℕ)

/-- The descriptors, the global `libnet`, and what has happened. -/
structure HandleState where
  fds : Finset ℕ
  libnet : Option Handle
  made : ℕ
  events : List LibnetEvent

namespace HandleState

def start (fds : Finset ℕ) : HandleState := ⟨fds, none, 0, []⟩

/-- "Probably going to switch interface from temp to real." -/
def destroyOld (s : HandleState) : HandleState :=
  match s.libnet with
  | none => s
  | some h =>
    { s with
      fds := libnetDestroy h.context s.fds
      libnet := none
      events := s.events ++ [.destroy h.id] ++ [.clear] }

/-- What `libnet_init` returned is stored in `libnet`. -/
def store (lib : LibnetLib) (ifname : Option String) (r : InitResult) (s : HandleState) :
    HandleState :=
  let handle : Option Handle := r.context.map fun context => ⟨s.made, ifname, context⟩
  { fds := r.fds
    libnet := handle
    made := if handle.isSome then s.made + 1 else s.made
    events := s.events ++ [.init ⟨lib, ifname, s.fds, r.fds, handle.map Handle.id⟩] }

/-- `do_libnet_init`. `libs` answers for libnet, the call with `recursive` set apart. -/
def doLibnetInit (env : StartupEnv) (libs : Bool → LibnetLib) (ifname : Option String)
    (recursive : Bool) (s : HandleState) : Ctl Exit HandleState :=
  let s := s.destroyOld
  let r := libnetInit (libs recursive) libnetLink ifname "" s.fds
  let s := s.store (libs recursive) ifname r
  let failed := Ctl.stop (.error (libnetInitMessage env ifname r.errBuf))
  if s.libnet.isSome then .next s
  else
    match ifname with
    | none =>
      match doLibnetInit env libs (some "lo") true s with
      | .next s => if s.libnet.isSome then .next s else failed s
      | .stop e s => .stop e s
    | some _ => if recursive then .next s else failed s
termination_by if ifname.isNone then 1 else 0

/-- `libnet` is passed to a function of libnet. -/
def useLibnet (s : HandleState) : HandleState :=
  match s.libnet with
  | none => s
  | some h => { s with events := s.events ++ [.use h.id] }

end HandleState

/-- What `arping_main` does with libnet: `do_libnet_init(ifname, 0)`, and calls with the handle. -/
inductive LibnetStep
  | init (ifname : Option String) (libs : Bool → LibnetLib)
  | use

def LibnetStep.run (env : StartupEnv) (step : LibnetStep) (s : HandleState) :
    Ctl Exit HandleState :=
  match step with
  | .init ifname libs => s.doLibnetInit env libs ifname false
  | .use => .next s.useLibnet

/-- A run from the start of the program on. -/
def runHandles (env : StartupEnv) (steps : List LibnetStep) (fds : Finset ℕ) :
    Ctl Exit HandleState :=
  drive (LibnetStep.run env) steps (.start fds)

/-! ## Moments -/

/-- What an event does with handles. -/
def LibnetEvent.entries : LibnetEvent → List (Entry ℕ)
  | destroy h => [.release h]
  | clear => []
  | init call => call.result.toList.map .acquire
  | use h => [.use h]

/-- What an event leaves in the global. -/
def LibnetEvent.assign (libnet : Option ℕ) : LibnetEvent → Option ℕ
  | clear => none
  | init call => call.result
  | _ => libnet

def ledger (es : List LibnetEvent) : List (Entry ℕ) := es.flatMap LibnetEvent.entries

/-- The handle in the global. -/
def stored (es : List LibnetEvent) : Option ℕ := es.foldl LibnetEvent.assign none

/-- At every moment no handle is alive but the one stored, and only that is destroyed or used. -/
structure Managed (es : List LibnetEvent) : Prop where
  sound : Sound (ledger es)
  moments : ∀ es', es' <+: es → ∀ h, Held (ledger es') h → stored es' = some h

section

variable {es : List LibnetEvent} {e : LibnetEvent} {h : ℕ}

@[simp] theorem ledger_append_singleton : ledger (es ++ [e]) = ledger es ++ e.entries := by
  simp [ledger]

@[simp] theorem stored_append_singleton : stored (es ++ [e]) = e.assign (stored es) := by
  simp [stored]

theorem Managed.nil : Managed [] where
  sound := sound_nil
  moments := fun es' hpre h hheld => by
    rw [List.prefix_nil.mp hpre] at hheld
    exact absurd hheld not_held_nil

theorem Managed.unique (hes : Managed es) (hheld : Held (ledger es) h) : stored es = some h :=
  hes.moments es (List.prefix_refl es) h hheld

theorem Managed.snoc (hes : Managed es) (hsound : Sound (ledger (es ++ [e])))
    (hlast : ∀ h, Held (ledger (es ++ [e])) h → stored (es ++ [e]) = some h) :
    Managed (es ++ [e]) where
  sound := hsound
  moments := fun es' hpre => by
    obtain rfl | hpre := List.prefix_concat_iff.mp hpre
    · exact hlast
    · exact hes.moments es' hpre

/-- Destroying the only handle. -/
theorem Managed.destroy (hes : Managed es) (hheld : Held (ledger es) h) :
    Managed (es ++ [.destroy h]) ∧ ∀ h', ¬ Held (ledger (es ++ [.destroy h])) h' := by
  have hnone : ∀ h', ¬ Held (ledger (es ++ [.destroy h])) h' := by
    intro h' hh'
    rw [ledger_append_singleton, LibnetEvent.entries, held_append_release] at hh'
    have heq := (hes.unique hh'.1).symm.trans (hes.unique hheld)
    exact hh'.2 (Option.some.inj heq)
  refine ⟨hes.snoc ?_ fun h' hh' => absurd hh' (hnone h'), hnone⟩
  rw [ledger_append_singleton]
  exact sound_append_singleton.mpr ⟨hes.sound, hheld⟩

theorem Managed.clear (hes : Managed es) (hnone : ∀ h, ¬ Held (ledger es) h) :
    Managed (es ++ [.clear]) ∧ ∀ h, ¬ Held (ledger (es ++ [.clear])) h := by
  have hledger : ledger (es ++ [.clear]) = ledger es := by simp [LibnetEvent.entries]
  rw [← hledger] at hnone
  exact ⟨hes.snoc (hledger ▸ hes.sound) fun h hh => absurd hh (hnone h), hnone⟩

/-- A handle is made where none is alive. -/
theorem Managed.init (hes : Managed es) (hnone : ∀ h, ¬ Held (ledger es) h) (call : InitRecord)
    (hfresh : ∀ h ∈ call.result, .acquire h ∉ ledger es) :
    Managed (es ++ [.init call]) ∧
      ∀ h, Held (ledger (es ++ [.init call])) h ↔ call.result = some h := by
  cases hresult : call.result with
  | none =>
    have hledger : ledger (es ++ [.init call]) = ledger es := by
      simp [LibnetEvent.entries, hresult]
    rw [← hledger] at hnone
    refine ⟨hes.snoc (hledger ▸ hes.sound) fun h hh => absurd hh (hnone h), fun h => ?_⟩
    exact iff_of_false (hnone h) (by simp)
  | some h₀ =>
    have hledger : ledger (es ++ [.init call]) = ledger es ++ [.acquire h₀] := by
      simp [LibnetEvent.entries, hresult]
    have hsound : Sound (ledger (es ++ [.init call])) := by
      rw [hledger]
      exact sound_append_singleton.mpr ⟨hes.sound, hfresh h₀ hresult⟩
    have hheld : ∀ h, Held (ledger (es ++ [.init call])) h ↔ some h₀ = some h := by
      intro h
      rw [hledger] at hsound ⊢
      rw [hsound.held_append_acquire, or_iff_right (hnone h), Option.some.injEq, eq_comm]
    refine ⟨hes.snoc hsound fun h hh => ?_, hheld⟩
    rw [stored_append_singleton, LibnetEvent.assign, hresult]
    exact (hheld h).mp hh

theorem Managed.use (hes : Managed es) (hheld : Held (ledger es) h) :
    Managed (es ++ [.use h]) ∧
      ∀ h', Held (ledger (es ++ [.use h])) h' ↔ Held (ledger es) h' := by
  have hsame : ∀ h', Held (ledger (es ++ [.use h])) h' ↔ Held (ledger es) h' := by
    intro h'
    rw [ledger_append_singleton, LibnetEvent.entries, held_append_use]
  refine ⟨hes.snoc ?_ fun h' hh' => ?_, hsame⟩
  · rw [ledger_append_singleton]
    exact sound_append_singleton.mpr ⟨hes.sound, hheld⟩
  · rw [stored_append_singleton]
    exact hes.unique ((hsame h').mp hh')

end

/-! ## The state -/

/-- The global holds the handle that is alive. -/
structure Owns (s : HandleState) : Prop where
  managed : Managed s.events
  stored : stored s.events = s.libnet.map Handle.id
  live : ∀ h ∈ s.libnet, Held (ledger s.events) h.id
  fresh : ∀ k, .acquire k ∈ ledger s.events → k < s.made

theorem Owns.start (fds : Finset ℕ) : Owns (.start fds) where
  managed := .nil
  stored := rfl
  live := fun h hh => by cases hh
  fresh := fun k hk => by simp [HandleState.start, ledger] at hk

section

variable {s : HandleState}

theorem Owns.not_held (h : Owns s) (hnone : s.libnet = none) (k : ℕ) :
    ¬ Held (ledger s.events) k := by
  intro hk
  have hstored := h.managed.unique hk
  rw [h.stored, hnone] at hstored
  cases hstored

theorem destroyOld_libnet (s : HandleState) : s.destroyOld.libnet = none := by
  unfold HandleState.destroyOld
  split
  · next h => exact h
  · rfl

theorem Owns.destroyOld (h : Owns s) : Owns s.destroyOld := by
  unfold HandleState.destroyOld
  split
  · exact h
  · next old hold =>
    obtain ⟨hdestroy, hnone⟩ := h.managed.destroy (h.live old hold)
    obtain ⟨hclear, -⟩ := hdestroy.clear hnone
    refine ⟨hclear, ?_, fun k hk => ?_, fun k hk => h.fresh k ?_⟩
    · rw [stored_append_singleton]
      rfl
    · cases hk
    · simpa only [ledger_append_singleton, LibnetEvent.entries, List.append_nil, List.mem_append,
        List.mem_singleton, reduceCtorEq, or_false] using hk

theorem Owns.store (h : Owns s) (hnone : s.libnet = none) (lib : LibnetLib)
    (ifname : Option String) (r : InitResult) : Owns (s.store lib ifname r) := by
  unfold HandleState.store
  cases r.context with
  | none =>
    obtain ⟨hmanaged, -⟩ := h.managed.init (h.not_held hnone)
      ⟨lib, ifname, s.fds, r.fds, none⟩ (by simp)
    refine ⟨hmanaged, ?_, fun k hk => ?_, fun k hk => h.fresh k ?_⟩
    · exact stored_append_singleton
    · cases hk
    · simpa [LibnetEvent.entries] using hk
  | some context =>
    obtain ⟨hmanaged, hheld⟩ := h.managed.init (h.not_held hnone)
      ⟨lib, ifname, s.fds, r.fds, some s.made⟩ fun k hk hacq => by
        obtain rfl := Option.some.inj hk
        exact Nat.lt_irrefl _ (h.fresh _ hacq)
    refine ⟨hmanaged, ?_, fun k hk => ?_, fun k hk => ?_⟩
    · exact stored_append_singleton
    · obtain rfl := Option.some.inj hk
      exact (hheld s.made).mpr rfl
    · simp only [Option.map_some, ledger_append_singleton, LibnetEvent.entries, Option.toList_some,
        List.map_cons, List.map_nil, List.mem_append, List.mem_singleton,
        Entry.acquire.injEq] at hk
      obtain hk | rfl := hk
      · exact Nat.lt_succ_of_lt (h.fresh k hk)
      · exact Nat.lt_succ_self s.made

theorem Owns.useLibnet (h : Owns s) : Owns s.useLibnet := by
  unfold HandleState.useLibnet
  split
  · exact h
  · next old hold =>
    obtain ⟨hmanaged, hheld⟩ := h.managed.use (h.live old hold)
    refine ⟨hmanaged, ?_, fun k hk => (hheld k.id).mpr (h.live k hk), fun k hk => h.fresh k ?_⟩
    · exact stored_append_singleton.trans h.stored
    · simpa [LibnetEvent.entries] using hk

end

/-! ## `do_libnet_init` -/

/-- What `libnet_init` answers to `do_libnet_init`. -/
def HandleState.initAnswer (lib : LibnetLib) (ifname : Option String) (s : HandleState) :
    InitResult :=
  libnetInit lib libnetLink ifname "" s.destroyOld.fds

/-- `do_libnet_init` up to the check of its result. -/
def HandleState.attempt (lib : LibnetLib) (ifname : Option String) (s : HandleState) :
    HandleState :=
  s.destroyOld.store lib ifname (s.initAnswer lib ifname)

section

variable {env : StartupEnv} {libs : Bool → LibnetLib} {s : HandleState}

/-- The retry returns in any case. -/
theorem doLibnetInit_retry (name : String) : s.doLibnetInit env libs (some name) true =
    .next (s.attempt (libs true) (some name)) := by
  rw [HandleState.doLibnetInit.eq_def]
  dsimp only
  rw [if_pos rfl, ite_self]
  rfl

theorem doLibnetInit_some (name : String) : s.doLibnetInit env libs (some name) false =
    let t := s.attempt (libs false) (some name)
    if t.libnet.isSome then .next t
    else .stop (.error (libnetInitMessage env (some name)
      (s.initAnswer (libs false) (some name)).errBuf)) t := by
  rw [HandleState.doLibnetInit.eq_def]
  dsimp only
  rw [if_neg Bool.false_ne_true]
  rfl

theorem doLibnetInit_none : s.doLibnetInit env libs none false =
    let t := s.attempt (libs false) none
    let t' := t.attempt (libs true) (some "lo")
    if t.libnet.isSome then .next t
    else if t'.libnet.isSome then .next t'
    else .stop (.error (libnetInitMessage env none
      (s.initAnswer (libs false) none).errBuf)) t' := by
  rw [HandleState.doLibnetInit.eq_def]
  dsimp only
  rw [doLibnetInit_retry]
  rfl

/-- The rule of `do_libnet_init`: what an attempt keeps is kept, and a call that returns leaves a
handle. -/
theorem doLibnetInit_ensures {I : HandleState → Prop}
    (hstep : ∀ recursive ifname s, I s → I (s.attempt (libs recursive) ifname))
    (ifname : Option String) (h : I s) :
    (s.doLibnetInit env libs ifname false).Ensures (fun s' => I s' ∧ s'.libnet.isSome)
      fun _ => I := by
  have hfirst := hstep false ifname s h
  cases ifname with
  | some name =>
    rw [doLibnetInit_some]
    dsimp only
    split
    · next hsome => exact ⟨hfirst, hsome⟩
    · exact hfirst
  | none =>
    have hretry := hstep true (some "lo") _ hfirst
    rw [doLibnetInit_none]
    dsimp only
    split
    · next hsome => exact ⟨hfirst, hsome⟩
    · split
      · next hsome => exact ⟨hretry, hsome⟩
      · exact hretry

theorem Owns.attempt (h : Owns s) (lib : LibnetLib) (ifname : Option String) :
    Owns (s.attempt lib ifname) :=
  h.destroyOld.store (destroyOld_libnet s) lib ifname _

/-- The rule of runs, for calls of which `P` is known. -/
theorem runHandles_inv {I : HandleState → Prop} {P : LibnetLib → Prop} {steps : List LibnetStep}
    {fds : Finset ℕ} (hattempt : ∀ lib ifname s, P lib → I s → I (s.attempt lib ifname))
    (huse : ∀ s, I s → I s.useLibnet)
    (hsteps : ∀ ifname libs, .init ifname libs ∈ steps → ∀ recursive, P (libs recursive))
    (hstart : I (.start fds)) : I (runHandles env steps fds).state := by
  refine drive_inv (fun step hstep s hs => ?_) hstart
  cases step with
  | init ifname libs =>
    have hlibs := hsteps ifname libs hstep
    exact (doLibnetInit_ensures (fun recursive ifname s => hattempt _ ifname s (hlibs recursive))
      ifname hs).state (fun _ h => h.1) fun _ _ h => h
  | use => exact huse s hs

theorem runHandles_owns (env : StartupEnv) (steps : List LibnetStep) (fds : Finset ℕ) :
    Owns (runHandles env steps fds).state :=
  runHandles_inv (P := fun _ => True) (fun lib ifname _ _ h => h.attempt lib ifname)
    (fun _ h => h.useLibnet) (fun _ _ _ _ => trivial) (.start fds)

/-- A call that returns leaves a handle. -/
theorem isSome_of_doLibnetInit {s' : HandleState} {ifname : Option String}
    (h : s.doLibnetInit env libs ifname false = .next s') : s'.libnet.isSome := by
  have hret : (s.doLibnetInit env libs ifname false).Ensures
      (fun s' => True ∧ s'.libnet.isSome) fun _ _ => True :=
    doLibnetInit_ensures (fun _ _ _ _ => trivial) ifname trivial
  rw [h] at hret
  exact hret.2

/-! ## The startup phase -/

/-- What the startup phase sees of a call: the name the handle was made with. -/
def ifnameOf : Ctl Exit HandleState → Except Exit (Option String)
  | .next s => .ok (s.libnet.bind Handle.ifname)
  | .stop e _ => .error e

/-- The answer of `libnet_init` as `StartupEnv` has it. -/
def InitResult.outcome (r : InitResult) : Except String Unit :=
  if r.context.isSome then .ok () else .error r.errBuf

theorem attempt_libnet (lib : LibnetLib) (ifname : Option String) :
    (s.attempt lib ifname).libnet = (s.initAnswer lib ifname).context.map
      fun context => ⟨s.destroyOld.made, ifname, context⟩ := rfl

/-- An attempt, as the startup phase sees it. -/
theorem attempt_outcome (lib : LibnetLib) (ifname : Option String) :
    (s.initAnswer lib ifname).outcome = .ok () ∧ (s.attempt lib ifname).libnet.isSome ∧
        (s.attempt lib ifname).libnet.bind Handle.ifname = ifname ∨
      (s.initAnswer lib ifname).outcome = .error (s.initAnswer lib ifname).errBuf ∧
        ¬ (s.attempt lib ifname).libnet.isSome := by
  rw [attempt_libnet]
  unfold InitResult.outcome
  cases (s.initAnswer lib ifname).context with
  | none => simp
  | some context => simp

/-- `do_libnet_init` on handles refines `do_libnet_init` on their names. -/
theorem doLibnetInit_refines (call : InitCall) (ifname : Option String)
    (hfirst : env.libnetInit call ifname = (s.initAnswer (libs false) ifname).outcome)
    (hretry : ifname = none → env.libnetInit call (some "lo") =
      ((s.attempt (libs false) none).initAnswer (libs true) (some "lo")).outcome) :
    ifnameOf (s.doLibnetInit env libs ifname false) = doLibnetInit env call ifname := by
  unfold doLibnetInit
  rw [hfirst]
  cases ifname with
  | some name =>
    rw [doLibnetInit_some]
    dsimp only
    obtain ⟨hok, hsome, hname⟩ | ⟨herror, hnone⟩ :=
      attempt_outcome (s := s) (libs false) (some name)
    · rw [hok, if_pos hsome, ifnameOf, hname]
    · rw [herror, if_neg hnone]
      rfl
  | none =>
    rw [doLibnetInit_none, hretry rfl]
    dsimp only
    obtain ⟨hok, hsome, hname⟩ | ⟨herror, hnone⟩ := attempt_outcome (s := s) (libs false) none
    · rw [hok, if_pos hsome, ifnameOf, hname]
    · rw [herror, if_neg hnone]
      dsimp only
      obtain ⟨hok, hsome, hname⟩ | ⟨herror, hnone⟩ :=
        attempt_outcome (s := s.attempt (libs false) none) (libs true) (some "lo")
      · rw [hok, if_pos hsome, ifnameOf, hname]
      · rw [herror, if_neg hnone]
        rfl

end

/-! ## Main result -/

theorem ledger_append (es es' : List LibnetEvent) : ledger (es ++ es') = ledger es ++ ledger es' :=
  List.flatMap_append

/-- **The life of handles.** In every run, at every moment, at most one handle that `libnet_init`
returned is alive, and it is the one in `libnet`; every earlier handle has been destroyed exactly
once and is not touched afterwards; and where `do_libnet_init(ifname, 0)` returns, `libnet` is a
live handle. -/
theorem handles_lifecycle (env : StartupEnv) (steps : List LibnetStep) (fds : Finset ℕ) :
    (∀ es, es <+: (runHandles env steps fds).state.events →
      (∀ h, Held (ledger es) h → stored es = some h) ∧
      (∀ h, .acquire h ∈ ledger es → stored es ≠ some h → (ledger es).count (.release h) = 1)) ∧
    (∀ es h es', (runHandles env steps fds).state.events = es ++ .destroy h :: es' →
      Held (ledger es) h ∧ ∀ e ∈ ledger es', e.resource ≠ h) ∧
    (∀ es h es', (runHandles env steps fds).state.events = es ++ .use h :: es' →
      Held (ledger es) h) ∧
    (∀ ifname libs s, runHandles env (steps ++ [.init ifname libs]) fds = .next s →
      ∃ handle, s.libnet = some handle ∧ Held (ledger s.events) handle.id) := by
  have howns := runHandles_owns env steps fds
  have hsound := howns.managed.sound
  refine ⟨fun es hpre => ⟨howns.managed.moments es hpre, fun h hacq hne => ?_⟩,
    fun es h es' heq => ?_, fun es h es' heq => ?_, fun ifname libs s hrun => ?_⟩
  · obtain ⟨es', heq⟩ := hpre
    rw [← heq, ledger_append] at hsound
    refine hsound.of_append.count_release hacq fun hheld => hne ?_
    exact howns.managed.moments es ⟨es', heq⟩ h hheld
  · rw [heq, ledger_append] at hsound
    exact ⟨hsound _ (.release h) _ rfl, hsound.resource_ne⟩
  · rw [heq, ledger_append] at hsound
    exact hsound _ (.use h) _ rfl
  · have hlast := runHandles_owns env (steps ++ [.init ifname libs]) fds
    obtain ⟨t, -, ht⟩ := drive_append_eq_next_iff.mp hrun
    rw [hrun] at hlast
    cases hinit : LibnetStep.run env (.init ifname libs) t with
    | next t' =>
      rw [drive_cons_next hinit] at ht
      cases ht
      obtain ⟨handle, hhandle⟩ := Option.isSome_iff_exists.mp (isSome_of_doLibnetInit hinit)
      exact ⟨handle, hhandle, hlast.live handle hhandle⟩
    | stop e t' =>
      rw [drive_cons_stop hinit] at ht
      cases ht

/-- No device is guessed; one that is named opens as the descriptor 3. -/
def namedDeviceLib : LibnetLib where
  malloc := true
  strdup := true
  selectDevice l fds := ⟨l.device.isNone, l, fds⟩
  openLink l fds := ⟨false, { l with fd := 3 }, insert 3 fds⟩
  openRaw4 l fds := ⟨true, { l with fd := -1 }, fds⟩
  openRaw6 l fds := ⟨true, { l with fd := -1 }, fds⟩

/-- The handle on `lo` gives way to the one on `eth0`. -/
theorem handles_lifecycle_two :
    ∃ s, runHandles workingEnv
        ([.init none fun _ => namedDeviceLib, .use] ++
          [.init (some "eth0") fun _ => namedDeviceLib]) {1, 2} = .next s ∧
      ∃ handle, s.libnet = some handle ∧ Held (ledger s.events) handle.id := by
  have hrun : ∃ s, runHandles workingEnv
      ([.init none fun _ => namedDeviceLib, .use] ++ [.init (some "eth0") fun _ => namedDeviceLib])
      {1, 2} = .next s := by
    unfold runHandles
    rw [List.cons_append, drive_cons_next (by rw [LibnetStep.run, doLibnetInit_none]; rfl),
      List.cons_append, drive_cons_next (by rfl), List.nil_append,
      drive_cons_next (by rw [LibnetStep.run, doLibnetInit_some]; rfl)]
    exact ⟨_, rfl⟩
  obtain ⟨s, hs⟩ := hrun
  exact ⟨s, hs, (handles_lifecycle workingEnv _ {1, 2}).2.2.2 (some "eth0") _ s hs⟩

end Arping
