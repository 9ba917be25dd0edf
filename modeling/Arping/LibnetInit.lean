import Mathlib.Data.Finset.Erase
import Mathlib.Data.Finset.Insert
import Mathlib.Data.Int.Notation
import Mathlib.Tactic.Common

/-!
# `libnet_init` and its descriptors

The program brings its own `libnet_init` and `libnet_destroy`. Device selection and the opening of
sockets belong to libnet: they are the fields of `LibnetLib`, and what is known of them is
`LibnetLib.Lawful`. A set of open descriptors goes in and out.

All failures end at the label `bad`, which closes `l->fd`. Before a socket is opened that is the 0
of `memset`, a descriptor that `libnet_init` has never opened (`libnetInit_fds_iff`).
-/

namespace Arping

/-! ## libnet -/

def libnetLink : ℤ := 0x00
def libnetRaw4 : ℤ := 0x01
def libnetRaw6 : ℤ := 0x02
def libnetLinkAdv : ℤ := 0x08
def libnetRaw4Adv : ℤ := 0x09
def libnetRaw6Adv : ℤ := 0x0a

/-- `libnet_t`, as far as `libnet_init` writes it. -/
structure LibnetContext where
  fd : ℤ
  injectionType : ℤ
  ptagState : ℤ
  device : Option String
  label : String
  errBuf : String

/-- What a function of libnet does: whether it returns -1, the context, and the open descriptors. -/
structure LibCall where
  failed : Bool
  l : LibnetContext
  fds : Finset ℕ

/-- The functions that `libnet_init` calls. -/
structure LibnetLib where
  malloc : Bool
  strdup : Bool
  selectDevice : LibnetContext → Finset ℕ → LibCall
  openLink : LibnetContext → Finset ℕ → LibCall
  openRaw4 : LibnetContext → Finset ℕ → LibCall
  openRaw6 : LibnetContext → Finset ℕ → LibCall

/-- A failing open has closed its own descriptor, and leaves -1 behind. -/
def ClosesItsOwn (call : LibnetContext → Finset ℕ → LibCall) : Prop :=
  ∀ l fds, (call l fds).failed = true → (call l fds).l.fd = -1 ∧ (call l fds).fds = fds

structure LibnetLib.Lawful (lib : LibnetLib) : Prop where
  /-- Device selection has nothing to do with descriptors. -/
  selectDevice : ∀ l fds, (lib.selectDevice l fds).l.fd = l.fd ∧ (lib.selectDevice l fds).fds = fds
  openLink : ClosesItsOwn lib.openLink
  openRaw4 : ClosesItsOwn lib.openRaw4
  openRaw6 : ClosesItsOwn lib.openRaw6

/-! ## The functions -/

/-- `close`. -/
def closeFd (fd : ℤ) (fds : Finset ℕ) : Finset ℕ := if 0 ≤ fd then fds.erase fd.toNat else fds

/-- `libnet_destroy`, as far as descriptors go. -/
def libnetDestroy (l : LibnetContext) (fds : Finset ℕ) : Finset ℕ := closeFd l.fd fds

/-- The context behind `memset` and the assignments. -/
def LibnetLib.newContext (lib : LibnetLib) (injectionType : ℤ) (device : Option String) :
    LibnetContext where
  fd := 0
  injectionType := injectionType
  ptagState := 0
  device := if lib.strdup then device else none
  label := "cardshark"
  errBuf := ""

/-- What `libnet_init` returns and leaves in `err_buf`, and the open descriptors. -/
structure InitResult where
  context : Option LibnetContext
  errBuf : String
  fds : Finset ℕ

/-- The label `bad`. -/
def InitResult.bad (l : LibnetContext) (errBuf : String) (fds : Finset ℕ) : InitResult :=
  ⟨none, errBuf, libnetDestroy l fds⟩

/-- An open and the check behind it. -/
def InitResult.ofOpen (errBuf : String) (call : LibCall) : InitResult :=
  if call.failed then .bad call.l call.l.errBuf call.fds else ⟨some call.l, errBuf, call.fds⟩

/-- `libnet_init`. -/
def libnetInit (lib : LibnetLib) (injectionType : ℤ) (device : Option String) (errBuf : String)
    (fds : Finset ℕ) : InitResult :=
  if lib.malloc = false then ⟨none, errBuf, fds⟩
  else
    let l := lib.newContext injectionType device
    if injectionType = libnetLink ∨ injectionType = libnetLinkAdv then
      let selected := lib.selectDevice l fds
      if selected.failed then .bad selected.l selected.l.errBuf selected.fds
      else .ofOpen errBuf (lib.openLink selected.l selected.fds)
    else if injectionType = libnetRaw4 ∨ injectionType = libnetRaw4Adv then
      .ofOpen errBuf (lib.openRaw4 l fds)
    else if injectionType = libnetRaw6 ∨ injectionType = libnetRaw6Adv then
      .ofOpen errBuf (lib.openRaw6 l fds)
    else .bad l "libnet_init(): unsupported injection type\n" fds

/-! ## Descriptors -/

/-- `libnet_init` comes to `bad` with the descriptor 0 of `memset`: the injection type is not
supported, or no device is selected. -/
def FailsUnopened (lib : LibnetLib) (injectionType : ℤ) (device : Option String)
    (fds : Finset ℕ) : Prop :=
  lib.malloc = true ∧
    (injectionType ∉ [libnetLink, libnetLinkAdv, libnetRaw4, libnetRaw4Adv, libnetRaw6,
        libnetRaw6Adv] ∨
      (injectionType = libnetLink ∨ injectionType = libnetLinkAdv) ∧
        (lib.selectDevice (lib.newContext injectionType device) fds).failed = true)

section

variable {lib : LibnetLib} {injectionType : ℤ} {device : Option String} {errBuf : String}
  {fds : Finset ℕ}

theorem closeFd_neg (fds : Finset ℕ) : closeFd (-1) fds = fds := rfl

/-- A failing open is without effect. -/
theorem ofOpen_fds {call : LibnetContext → Finset ℕ → LibCall} (hcall : ClosesItsOwn call)
    {l : LibnetContext} (h : (InitResult.ofOpen errBuf (call l fds)).context = none) :
    (InitResult.ofOpen errBuf (call l fds)).fds = fds := by
  unfold InitResult.ofOpen at h ⊢
  split at h
  · next hfailed =>
    obtain ⟨hfd, hfds⟩ := hcall l fds hfailed
    rw [if_pos hfailed, InitResult.bad, libnetDestroy, hfd, hfds, closeFd_neg]
  · cases h

/-- Where nothing has been opened, 0 is closed. -/
theorem libnetInit_unopened (hlib : lib.Lawful) (h : FailsUnopened lib injectionType device fds) :
    (libnetInit lib injectionType device errBuf fds).fds = fds.erase 0 := by
  obtain ⟨hmalloc, h⟩ := h
  unfold libnetInit
  rw [if_neg (by simp [hmalloc])]
  dsimp only
  obtain htype | ⟨hlink, hfailed⟩ := h
  · simp only [List.mem_cons, List.not_mem_nil, or_false, not_or] at htype
    obtain ⟨h1, h2, h3, h4, h5, h6⟩ := htype
    rw [if_neg (not_or.mpr ⟨h1, h2⟩), if_neg (not_or.mpr ⟨h3, h4⟩), if_neg (not_or.mpr ⟨h5, h6⟩)]
    rfl
  · obtain ⟨hfd, hfds⟩ := hlib.selectDevice (lib.newContext injectionType device) fds
    rw [if_pos hlink, if_pos hfailed, InitResult.bad, libnetDestroy, hfd, hfds]
    rfl

/-- Any other failure leaves the descriptors as they were. -/
theorem libnetInit_opened (hlib : lib.Lawful)
    (hfail : (libnetInit lib injectionType device errBuf fds).context = none)
    (h : ¬ FailsUnopened lib injectionType device fds) :
    (libnetInit lib injectionType device errBuf fds).fds = fds := by
  unfold libnetInit at hfail ⊢
  by_cases hmalloc : lib.malloc = false
  · rw [if_pos hmalloc]
  · rw [if_neg hmalloc] at hfail ⊢
    rw [Bool.not_eq_false] at hmalloc
    dsimp only at hfail ⊢
    by_cases hlink : injectionType = libnetLink ∨ injectionType = libnetLinkAdv
    · rw [if_pos hlink] at hfail ⊢
      have hselected :
          ¬ (lib.selectDevice (lib.newContext injectionType device) fds).failed = true :=
        fun hfailed => h ⟨hmalloc, Or.inr ⟨hlink, hfailed⟩⟩
      rw [if_neg hselected] at hfail ⊢
      rw [ofOpen_fds hlib.openLink hfail]
      exact (hlib.selectDevice _ fds).2
    · rw [if_neg hlink] at hfail ⊢
      by_cases hraw4 : injectionType = libnetRaw4 ∨ injectionType = libnetRaw4Adv
      · rw [if_pos hraw4] at hfail ⊢
        exact ofOpen_fds hlib.openRaw4 hfail
      · rw [if_neg hraw4] at hfail ⊢
        by_cases hraw6 : injectionType = libnetRaw6 ∨ injectionType = libnetRaw6Adv
        · rw [if_pos hraw6] at hfail ⊢
          exact ofOpen_fds hlib.openRaw6 hfail
        · refine absurd ⟨hmalloc, Or.inl ?_⟩ h
          simp only [List.mem_cons, List.not_mem_nil, or_false]
          tauto

/-- A failure changes the set of open descriptors exactly where it closes an open 0. -/
theorem libnetInit_fds_iff (hlib : lib.Lawful)
    (hfail : (libnetInit lib injectionType device errBuf fds).context = none) :
    (libnetInit lib injectionType device errBuf fds).fds = fds ↔
      ¬ (FailsUnopened lib injectionType device fds ∧ 0 ∈ fds) := by
  by_cases h : FailsUnopened lib injectionType device fds
  · rw [libnetInit_unopened hlib h, Finset.erase_eq_self]
    tauto
  · exact iff_of_true (libnetInit_opened hlib hfail h) fun hno => h hno.1

end

end Arping
