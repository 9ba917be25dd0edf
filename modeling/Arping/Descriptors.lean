import Mathlib.Data.Finset.Lattice.Lemmas
import Arping.LibnetHandles

/-!
# The descriptors of a failed `libnet_init`

The calls of `libnet_init` in a run, the retry with `lo` included, are recorded with the open
descriptors before and after. A failed one leaves the descriptors alone unless it comes to `bad`
before it has opened anything, while 0 is open (`failedInit_fds_iff`): then it closes 0, which is
the standard input. More than that does not go wrong in any run (`runHandles_fds`).
-/

namespace Arping

open ScriptLoop

/-! ## Records -/

/-- The record is what `libnet_init` did. -/
structure InitRecord.Faithful (call : InitRecord) : Prop where
  after : call.after = (libnetInit call.lib libnetLink call.ifname "" call.before).fds
  result : call.result = none ↔
    (libnetInit call.lib libnetLink call.ifname "" call.before).context = none

/-- All calls are recorded faithfully. -/
def Recorded (s : HandleState) : Prop := ∀ call, .init call ∈ s.events → call.Faithful

section

variable {s : HandleState}

theorem Recorded.destroyOld (h : Recorded s) : Recorded s.destroyOld := by
  unfold HandleState.destroyOld
  split
  · exact h
  · intro call hcall
    refine h call ?_
    simpa using hcall

theorem Recorded.attempt (h : Recorded s) (lib : LibnetLib) (ifname : Option String) :
    Recorded (s.attempt lib ifname) := by
  intro call hcall
  obtain hcall | hcall := List.mem_append.mp hcall
  · exact h.destroyOld call hcall
  · cases List.mem_singleton.mp hcall
    refine ⟨rfl, ?_⟩
    rw [Option.map_eq_none_iff, Option.map_eq_none_iff]
    rfl

theorem Recorded.useLibnet (h : Recorded s) : Recorded s.useLibnet := by
  unfold HandleState.useLibnet
  split
  · exact h
  · intro call hcall
    refine h call ?_
    simpa using hcall

theorem runHandles_recorded (env : StartupEnv) (steps : List LibnetStep) (fds : Finset ℕ) :
    Recorded (runHandles env steps fds).state :=
  runHandles_inv (P := fun _ => True) (fun lib ifname _ _ h => h.attempt lib ifname)
    (fun _ h => h.useLibnet) (fun _ _ _ _ => trivial) fun call hcall => by cases hcall

end

/-! ## A whole run -/

/-- An open that succeeds makes one new descriptor. -/
def OpensOne (call : LibnetContext → Finset ℕ → LibCall) : Prop :=
  ∀ l fds, (call l fds).failed = false →
    ∃ fd : ℕ, fd ∉ fds ∧ (call l fds).l.fd = fd ∧ (call l fds).fds = insert fd fds

/-- The descriptor of a handle. -/
def Handle.descriptor (h : Handle) : Finset ℕ := {h.context.fd.toNat}

/-- Apart from 0, the open descriptors are those of the start and that of the handle. -/
structure Accounted (fds₀ : Finset ℕ) (s : HandleState) : Prop where
  kept : fds₀.erase 0 ⊆ s.fds
  bounded : s.fds ⊆ fds₀ ∪ s.libnet.elim ∅ Handle.descriptor
  own : ∀ h ∈ s.libnet, 0 ≤ h.context.fd ∧ h.context.fd.toNat ∉ fds₀.erase 0

section

variable {lib : LibnetLib} {fds₀ : Finset ℕ} {s : HandleState}

/-- What `libnet_init(LIBNET_LINK, ..)` does with descriptors. -/
theorem libnetInit_link (hlib : lib.Lawful) (hopen : OpensOne lib.openLink)
    (ifname : Option String) (fds : Finset ℕ) :
    (libnetInit lib libnetLink ifname "" fds).context = none ∧
        fds.erase 0 ⊆ (libnetInit lib libnetLink ifname "" fds).fds ∧
        (libnetInit lib libnetLink ifname "" fds).fds ⊆ fds ∨
      ∃ context, (libnetInit lib libnetLink ifname "" fds).context = some context ∧
        ∃ fd : ℕ, fd ∉ fds ∧ context.fd = fd ∧
          (libnetInit lib libnetLink ifname "" fds).fds = insert fd fds := by
  cases hcontext : (libnetInit lib libnetLink ifname "" fds).context with
  | none =>
    refine Or.inl ⟨rfl, ?_⟩
    by_cases h : FailsUnopened lib libnetLink ifname fds
    · rw [libnetInit_unopened hlib h]
      exact ⟨Finset.Subset.refl _, Finset.erase_subset 0 fds⟩
    · rw [libnetInit_opened hlib hcontext h]
      exact ⟨Finset.erase_subset 0 fds, Finset.Subset.refl _⟩
  | some context =>
    refine Or.inr ⟨context, rfl, ?_⟩
    unfold libnetInit at hcontext ⊢
    split at hcontext
    · cases hcontext
    · next hmalloc =>
      rw [if_neg hmalloc]
      simp only [true_or, if_true] at hcontext ⊢
      split at hcontext
      · cases hcontext
      · next hselected =>
        rw [if_neg hselected]
        obtain ⟨-, hfds⟩ := hlib.selectDevice (lib.newContext libnetLink ifname) fds
        unfold InitResult.ofOpen at hcontext ⊢
        split at hcontext
        · cases hcontext
        · next hopened =>
          rw [if_neg hopened]
          obtain ⟨fd, hnew, hfd, hinsert⟩ := hopen _ _ (Bool.not_eq_true _ ▸ hopened)
          rw [hfds] at hnew hinsert
          obtain rfl := Option.some.inj hcontext
          exact ⟨fd, hnew, hfds ▸ hfd, by rw [hfds]; exact hinsert⟩

theorem Accounted.start (fds₀ : Finset ℕ) : Accounted fds₀ (.start fds₀) where
  kept := Finset.erase_subset 0 fds₀
  bounded := Finset.subset_union_left
  own := fun h hh => by cases hh

theorem Accounted.destroyOld (h : Accounted fds₀ s) : Accounted fds₀ s.destroyOld := by
  unfold HandleState.destroyOld
  split
  · exact h
  · next old hold =>
    obtain ⟨hpos, hnot⟩ := h.own old hold
    have hfds : libnetDestroy old.context s.fds = s.fds.erase old.context.fd.toNat := if_pos hpos
    have hbounded := h.bounded
    rw [hold] at hbounded
    refine ⟨?_, ?_, fun h hh => by cases hh⟩
    · show fds₀.erase 0 ⊆ libnetDestroy old.context s.fds
      rw [hfds]
      exact Finset.subset_erase.mpr ⟨h.kept, hnot⟩
    · show libnetDestroy old.context s.fds ⊆ fds₀ ∪ ∅
      rw [hfds, Finset.union_empty]
      intro fd hfd
      obtain ⟨hne, hmem⟩ := Finset.mem_erase.mp hfd
      obtain hstart | hown := Finset.mem_union.mp (hbounded hmem)
      · exact hstart
      · exact absurd (Finset.mem_singleton.mp hown) hne

theorem Accounted.fds_subset (h : Accounted fds₀ s) (hnone : s.libnet = none) : s.fds ⊆ fds₀ := by
  have hbounded := h.bounded
  rwa [hnone, Option.elim_none, Finset.union_empty] at hbounded

theorem Accounted.attempt (hlib : lib.Lawful) (hopen : OpensOne lib.openLink)
    (h : Accounted fds₀ s) (ifname : Option String) : Accounted fds₀ (s.attempt lib ifname) := by
  have hold := h.destroyOld
  have hbounded := hold.fds_subset (destroyOld_libnet s)
  have hlibnet := attempt_libnet (s := s) lib ifname
  have hfds : (s.attempt lib ifname).fds = (s.initAnswer lib ifname).fds := rfl
  obtain ⟨hnone, hlow, hhigh⟩ | ⟨context, hsome, fd, hnew, hfd, hinsert⟩ :=
    libnetInit_link hlib hopen ifname s.destroyOld.fds
  · rw [HandleState.initAnswer, hnone] at hlibnet
    refine ⟨?_, ?_, fun h hh => ?_⟩
    · rw [hfds]
      exact (Finset.subset_erase.mpr ⟨hold.kept, Finset.notMem_erase 0 fds₀⟩).trans hlow
    · rw [hfds]
      exact (hhigh.trans hbounded).trans Finset.subset_union_left
    · rw [hlibnet] at hh
      cases hh
  · rw [HandleState.initAnswer, hsome] at hlibnet
    refine ⟨?_, ?_, fun h hh => ?_⟩
    · rw [hfds]
      exact (hold.kept.trans (Finset.subset_insert fd _)).trans hinsert.symm.subset
    · rw [hfds, hlibnet]
      refine hinsert.subset.trans (Finset.insert_subset ?_ ?_)
      · refine Finset.mem_union_right _ (Finset.mem_singleton.mpr ?_)
        rw [hfd, Int.toNat_natCast]
      · exact hbounded.trans Finset.subset_union_left
    · rw [hlibnet] at hh
      obtain rfl := Option.some.inj hh
      rw [hfd, Int.toNat_natCast]
      exact ⟨Int.natCast_nonneg fd, fun hmem => hnew (hold.kept hmem)⟩

theorem Accounted.useLibnet (h : Accounted fds₀ s) : Accounted fds₀ s.useLibnet := by
  unfold HandleState.useLibnet
  split
  · exact h
  · exact ⟨h.kept, h.bounded, h.own⟩

end

/-- No descriptor is leaked, however often libnet is initialised, and only 0 is ever lost. -/
theorem runHandles_fds (env : StartupEnv) (steps : List LibnetStep) (fds : Finset ℕ)
    (hlibs : ∀ ifname libs, .init ifname libs ∈ steps → ∀ recursive,
      (libs recursive).Lawful ∧ OpensOne (libs recursive).openLink) :
    Accounted fds (runHandles env steps fds).state :=
  runHandles_inv (P := fun lib => lib.Lawful ∧ OpensOne lib.openLink)
    (fun _ ifname _ hlib h => h.attempt hlib.1 hlib.2 ifname) (fun _ h => h.useLibnet) hlibs
    (.start fds)

/-! ## Main result -/

/-- **The descriptors of a failure.** A call of `libnet_init` that returns NULL leaves the open
descriptors as they were, unless 0 is open and no open was tried; so do the calls that
`do_libnet_init` makes, in every run. -/
theorem failedInit_fds_iff (fds : Finset ℕ) :
    (∀ (lib : LibnetLib) (injectionType : ℤ) (device : Option String) (errBuf : String),
      lib.Lawful → (libnetInit lib injectionType device errBuf fds).context = none →
      ((libnetInit lib injectionType device errBuf fds).fds = fds ↔
        ¬ (FailsUnopened lib injectionType device fds ∧ 0 ∈ fds))) ∧
    (∀ (env : StartupEnv) (steps : List LibnetStep) (call : InitRecord),
      .init call ∈ (runHandles env steps fds).state.events →
      call.lib.Lawful → call.result = none →
      (call.after = call.before ↔
        ¬ (FailsUnopened call.lib libnetLink call.ifname call.before ∧ 0 ∈ call.before))) := by
  refine ⟨fun lib injectionType device errBuf hlib hfail => libnetInit_fds_iff hlib hfail,
    fun env steps call hcall hlib hnone => ?_⟩
  have hrecord := runHandles_recorded env steps fds call hcall
  rw [hrecord.after]
  exact libnetInit_fds_iff hlib (hrecord.result.mp hnone)

theorem namedDeviceLib_lawful : namedDeviceLib.Lawful where
  selectDevice := fun l fds => ⟨rfl, rfl⟩
  openLink := fun l fds h => by cases h
  openRaw4 := fun l fds h => ⟨rfl, rfl⟩
  openRaw6 := fun l fds h => ⟨rfl, rfl⟩

/-- A raw socket that cannot be opened, and a device that is not found while 0 is closed. -/
theorem failedInit_fds_iff_two :
    (libnetInit namedDeviceLib libnetRaw4 none "" {0, 1, 2}).fds = {0, 1, 2} ∧
      ∃ call, .init call ∈
          (runHandles workingEnv [.init none fun _ => namedDeviceLib] {1, 2}).state.events ∧
        call.result = none ∧ call.after = call.before := by
  constructor
  · refine ((failedInit_fds_iff {0, 1, 2}).1 namedDeviceLib libnetRaw4 none ""
      namedDeviceLib_lawful rfl).mpr fun h => ?_
    obtain ⟨-, htype | ⟨hlink, -⟩⟩ := h.1
    · exact htype (by decide)
    · exact absurd hlink (by decide)
  · have hcall : .init ⟨namedDeviceLib, none, {1, 2}, {1, 2}, none⟩ ∈
        (runHandles workingEnv [.init none fun _ => namedDeviceLib] {1, 2}).state.events := by
      unfold runHandles
      rw [drive_cons_next (by rw [LibnetStep.run, doLibnetInit_none]; rfl), drive_nil]
      exact List.mem_cons_self
    refine ⟨_, hcall, rfl, ?_⟩
    exact ((failedInit_fds_iff {1, 2}).2 _ _ _ hcall namedDeviceLib_lawful rfl).mpr fun h =>
      absurd h.2 (by decide)

/-- Where no device is found, the standard input is closed. -/
theorem failedInit_closes_stdin :
    namedDeviceLib.Lawful ∧
      (libnetInit namedDeviceLib libnetLink none "" {0, 1, 2}).context = none ∧
      (libnetInit namedDeviceLib libnetLink none "" {0, 1, 2}).fds = {1, 2} :=
  ⟨namedDeviceLib_lawful, rfl, by decide⟩

end Arping
