import Arping.Lib.Integer
import Arping.Startup

/-!
# The group of `-g`

`drop_privileges` with what it does to the process. The group comes from `must_get_group` as the
result of a 64-bit `strtol` that is stored in a 32-bit `gid_t` without a check, and `drop_uid` takes
the group 0 for no group. `mustGetGroup_accepts_iff` says which arguments are accepted,
`installsGroup_iff` which of them are installed.
-/

namespace Arping

open CNumber Checks

/-! ## The process -/

/-- What `drop_privileges` may change. -/
structure Process where
  uid : UInt32
  gid : UInt32
  groups : List UInt32
  cwd : String
  root : String

/-- `struct passwd`, as far as it is read. -/
structure Passwd where
  uid : UInt32
  gid : UInt32
  dir : String

/-- The databases, and whether the system calls succeed. -/
structure PrivilegeEnv where
  getpwnam : String → Option Passwd
  getgrnam : String → Except (Option String) UInt32
  chdir : Process → String → Bool
  chroot : Process → String → Bool
  setgroups : Process → Bool
  setgid : Process → UInt32 → Bool
  setuid : Process → UInt32 → Bool

/-- All system calls succeed. -/
structure PrivilegeEnv.Succeeds (env : PrivilegeEnv) : Prop where
  chdir : ∀ p dir, env.chdir p dir = true
  chroot : ∀ p dir, env.chroot p dir = true
  setgroups : ∀ p, env.setgroups p = true
  setgid : ∀ p gid, env.setgid p gid = true
  setuid : ∀ p uid, env.setuid p uid = true

namespace Process

/-- `drop_fs_root`. -/
def dropFsRoot (env : PrivilegeEnv) (p : Process) : Process :=
  match env.getpwnam "sshd" with
  | none => p
  | some pw =>
    if env.chdir p pw.dir then
      let p := { p with cwd := pw.dir }
      if env.chroot p pw.dir then { p with root := pw.dir } else p
    else p

/-- `drop_uid`. A call that fails is only counted. -/
def dropUid (env : PrivilegeEnv) (uid gid : UInt32) (p : Process) : Process :=
  let p := if env.setgroups p then { p with groups := [] } else p
  let p := if gid ≠ 0 ∧ env.setgid p gid then { p with gid := gid } else p
  if uid ≠ 0 ∧ env.setuid p uid then { p with uid := uid } else p

/-- `drop_privileges`, with what it does to the process. -/
def dropPrivileges (env : PrivilegeEnv) (dropGroup : Option String) (p : Process) :
    Except Exit Process := do
  let pw := env.getpwnam "nobody"
  let uid := (pw.map Passwd.uid).getD 0
  -- "If group is supplied, use that gid instead."
  let gid ← readOption dropGroup ((pw.map Passwd.gid).getD 0) (mustGetGroup env.getgrnam)
  return (p.dropFsRoot env).dropUid env uid gid

end Process

section

variable {env : PrivilegeEnv} {p : Process}

theorem dropFsRoot_gid : (p.dropFsRoot env).gid = p.gid := by
  unfold Process.dropFsRoot
  split
  · rfl
  · dsimp only
    split_ifs <;> rfl

/-- 0 is no group. -/
theorem dropUid_gid (henv : env.Succeeds) (uid gid : UInt32) :
    (p.dropUid env uid gid).gid = if gid = 0 then p.gid else gid := by
  unfold Process.dropUid
  simp only [henv.setgroups, henv.setgid, henv.setuid, if_true, and_true]
  split_ifs <;> simp_all

/-- The startup phase sees the same exits. -/
theorem dropPrivileges_exits (startup : StartupEnv) (h : startup.getgrnam = env.getgrnam)
    (dropGroup : Option String) :
    (p.dropPrivileges env dropGroup).map (fun _ => ()) = dropPrivileges startup dropGroup := by
  unfold Process.dropPrivileges dropPrivileges
  rw [h]
  cases dropGroup with
  | none => rfl
  | some ident =>
    dsimp only [readOption]
    cases mustGetGroup env.getgrnam ident <;> rfl

/-! ## The argument of `-g` -/

/-- The number that the argument stands for: the group of that name, or an integer. -/
inductive MeansGroup (getgrnam : String → Except (Option String) UInt32) (ident : String) : ℤ → Prop
  | name (gid : UInt32) (hne : ident ≠ "") (h : getgrnam ident = .ok gid) :
      MeansGroup getgrnam ident gid.toNat
  | number (errno : Option String) (n : Integer) (h : getgrnam ident = .error errno)
      (htext : ident.toList = n.text) : MeansGroup getgrnam ident n.value

/-- An integer that is accepted is cut to a `long` and then to its low 32 bits. -/
theorem mustGetGroup_number {getgrnam : String → Except (Option String) UInt32} {ident : String}
    {errno : Option String} {n : Integer} (h : getgrnam ident = .error errno)
    (htext : ident.toList = n.text) : mustGetGroup getgrnam ident =
      .ok (UInt32.ofInt (max longMin (min longMax n.value))) := by
  have hne : ident ≠ "" := by
    rintro rfl
    exact n.text_ne_nil htext.symm
  unfold mustGetGroup
  rw [if_neg hne, h, htext, n.strtol_text]
  exact if_pos ⟨hne, rfl⟩

theorem mustGetGroup_name {getgrnam : String → Except (Option String) UInt32} {ident : String}
    {gid : UInt32} (hne : ident ≠ "") (h : getgrnam ident = .ok gid) :
    mustGetGroup getgrnam ident = .ok gid := by
  unfold mustGetGroup
  rw [if_neg hne, h]

/-- The arguments that are accepted are those that stand for a number. -/
theorem mustGetGroup_accepts_iff {getgrnam : String → Except (Option String) UInt32}
    {ident : String} :
    (∃ gid, mustGetGroup getgrnam ident = .ok gid) ↔ ∃ m, MeansGroup getgrnam ident m := by
  constructor
  · rintro ⟨gid, h⟩
    by_cases hempty : ident = ""
    · rw [hempty, mustGetGroup, if_pos rfl] at h
      cases h
    · cases hgroup : getgrnam ident with
      | ok gid => exact ⟨_, .name gid hempty hgroup⟩
      | error errno =>
        rw [mustGetGroup, if_neg hempty, hgroup] at h
        by_cases hnumber : ident ≠ "" ∧ (strtol 0 ident.toList).2 = []
        · have hlist : ident.toList ≠ [] := by
            rwa [ne_eq, String.toList_eq_nil_iff]
          obtain ⟨n, hn⟩ := exists_integer hlist hnumber.2
          exact ⟨_, .number errno n hgroup hn⟩
        · dsimp only at h
          rw [if_neg hnumber] at h
          cases errno <;> cases h
  · rintro ⟨m, hm⟩
    cases hm with
    | name gid hne h => exact ⟨_, mustGetGroup_name hne h⟩
    | number errno n h htext => exact ⟨_, mustGetGroup_number h htext⟩

/-- A group that a `gid_t` holds is accepted as it is. -/
theorem mustGetGroup_of_means {getgrnam : String → Except (Option String) UInt32} {ident : String}
    {m : ℤ} (h : MeansGroup getgrnam ident m) (hm : 0 ≤ m ∧ m < 2 ^ 32) :
    ∃ gid, mustGetGroup getgrnam ident = .ok gid ∧ (gid.toNat : ℤ) = m := by
  cases h with
  | name gid hne h => exact ⟨_, mustGetGroup_name hne h, rfl⟩
  | number errno n h htext =>
    have hlong : max longMin (min longMax n.value) = n.value := by
      unfold longMin longMax
      omega
    refine ⟨_, mustGetGroup_number h htext, ?_⟩
    rw [hlong, UInt32.ofInt, UInt32.toNat_ofNat']
    omega

/-! ## Main result -/

/-- **Installing the group.** A number that a `gid_t` holds is the group afterwards; any other is
rejected. -/
def InstallsGroup (env : PrivilegeEnv) (ident : String) (p : Process) (m : ℤ) : Prop :=
  (0 ≤ m ∧ m < 2 ^ 32 → ∃ p', p.dropPrivileges env (some ident) = .ok p' ∧ (p'.gid.toNat : ℤ) = m) ∧
  (¬ (0 ≤ m ∧ m < 2 ^ 32) → ∃ e, p.dropPrivileges env (some ident) = .error e)

/-- A run with an accepted group. -/
theorem dropPrivileges_gid (henv : env.Succeeds) {ident : String} {gid : UInt32}
    (h : mustGetGroup env.getgrnam ident = .ok gid) :
    ∃ p', p.dropPrivileges env (some ident) = .ok p' ∧
      p'.gid = if gid = 0 then p.gid else gid := by
  unfold Process.dropPrivileges
  dsimp only [readOption]
  rw [h, ok_bind]
  exact ⟨_, rfl, by rw [dropUid_gid henv, dropFsRoot_gid]⟩

end

/-- **The group of `-g`.** The arguments that `must_get_group` accepts are those that stand for a
number; and where all system calls succeed, such an argument installs its number if and only if it
is a `gid_t`, and not 0 unless the group is 0 already. -/
theorem installsGroup_iff (env : PrivilegeEnv) (ident : String) :
    ((∃ gid, mustGetGroup env.getgrnam ident = .ok gid) ↔ ∃ m, MeansGroup env.getgrnam ident m) ∧
    (env.Succeeds → ∀ (p : Process) (m : ℤ), MeansGroup env.getgrnam ident m →
      (InstallsGroup env ident p m ↔ (0 ≤ m ∧ m < 2 ^ 32) ∧ (m ≠ 0 ∨ p.gid = 0))) := by
  refine ⟨mustGetGroup_accepts_iff, fun henv p m h => ?_⟩
  by_cases hm : 0 ≤ m ∧ m < 2 ^ 32
  · obtain ⟨gid, hgid, rfl⟩ := mustGetGroup_of_means h hm
    obtain ⟨p', hp', hinstalled⟩ := dropPrivileges_gid (p := p) henv hgid
    have hzero : (gid.toNat : ℤ) = 0 ↔ gid = 0 := by
      rw [Int.natCast_eq_zero, ← UInt32.toNat_inj, UInt32.toNat_zero]
    have hinstalls : InstallsGroup env ident p gid.toNat ↔ p'.gid = gid := by
      constructor
      · intro hinstalls
        obtain ⟨q, hq, heq⟩ := hinstalls.1 hm
        obtain rfl := Except.ok.inj (hp'.symm.trans hq)
        exact UInt32.toNat_inj.mp (Int.natCast_inj.mp heq)
      · intro heq
        exact ⟨fun _ => ⟨p', hp', by rw [heq]⟩, fun hno => absurd hm hno⟩
    rw [hinstalls, hinstalled, ne_eq, hzero, and_iff_right hm]
    by_cases hgid0 : gid = 0
    · rw [if_pos hgid0, hgid0]
      exact (or_iff_right (not_not.mpr rfl)).symm
    · rw [if_neg hgid0]
      exact iff_of_true rfl (Or.inl hgid0)
  · refine iff_of_false (fun hinstalls => ?_) fun hno => hm hno.1
    obtain ⟨e, he⟩ := hinstalls.2 hm
    obtain ⟨gid, hgid⟩ := mustGetGroup_accepts_iff.mpr ⟨m, h⟩
    obtain ⟨p', hp', -⟩ := dropPrivileges_gid (p := p) henv hgid
    rw [hp'] at he
    cases he

/-- A superuser's machine, with one group. -/
def rootEnv : PrivilegeEnv where
  getpwnam _ := none
  getgrnam ident := if ident = "wheel" then .ok 10 else .error none
  chdir _ _ := true
  chroot _ _ := true
  setgroups _ := true
  setgid _ _ := true
  setuid _ _ := true

def rootProcess : Process := ⟨0, 0, [], "/", "/"⟩

theorem rootEnv_succeeds : rootEnv.Succeeds :=
  ⟨fun _ _ => rfl, fun _ _ => rfl, fun _ => rfl, fun _ _ => rfl, fun _ _ => rfl⟩

theorem installsGroup_iff_wheel :
    ∃ p', rootProcess.dropPrivileges rootEnv (some "wheel") = .ok p' ∧ (p'.gid.toNat : ℤ) = 10 := by
  have hmeans : MeansGroup rootEnv.getgrnam "wheel" 10 := .name 10 (by decide) rfl
  exact (((installsGroup_iff rootEnv "wheel").2 rootEnv_succeeds rootProcess 10 hmeans).mpr
    ⟨by decide, by decide⟩).1 (by decide)

/-- `-g 4294967297` is the group 1. -/
theorem not_installsGroup_overflow :
    rootEnv.Succeeds ∧ MeansGroup rootEnv.getgrnam "4294967297" 4294967297 ∧
      (∃ p', rootProcess.dropPrivileges rootEnv (some "4294967297") = .ok p' ∧ p'.gid = 1) ∧
      ¬ InstallsGroup rootEnv "4294967297" rootProcess 4294967297 := by
  let n : Integer := ⟨[], [], [], "4294967297".toList, List.all_eq_true.mp rfl, Or.inl rfl,
    Or.inl rfl, by decide, List.all_eq_true.mp rfl⟩
  have hvalue : n.value = 4294967297 := by decide
  have hmeans : MeansGroup rootEnv.getgrnam "4294967297" 4294967297 :=
    hvalue ▸ .number none n rfl (by decide)
  have hrun : ∃ p', rootProcess.dropPrivileges rootEnv (some "4294967297") = .ok p' ∧
      p'.gid = 1 := ⟨_, rfl, by decide⟩
  refine ⟨rootEnv_succeeds, hmeans, hrun, fun hinstalls => ?_⟩
  obtain ⟨e, he⟩ := hinstalls.2 (by decide)
  obtain ⟨p', hp', -⟩ := hrun
  rw [hp'] at he
  cases he

end Arping
