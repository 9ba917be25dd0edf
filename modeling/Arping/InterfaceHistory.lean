import Arping.Lib.Checks
import Arping.LookupDev

/-!
# Interfaces over a history of calls

`arping_lookupdev` answers from a static buffer that only a non-zero mask writes, while any matching
interface makes it answer. A call whose matching interfaces all have the mask 0 therefore answers
with the name an earlier call has left there, or with the empty one. `lookupHistory_truthful_iff`
says for a whole history of calls when every answer is the name of a matching interface.
-/

namespace Arping

open Checks

/-! ## Calls -/

/-- What a call is given: the target, and what `getifaddrs` answers to it. -/
structure LookupCall where
  dstip : UInt32
  getifaddrs : Except String (List Ifaddrs)

/-- The interfaces of a call. -/
def LookupCall.interfaces (c : LookupCall) : List Ifaddrs := c.getifaddrs.toOption.getD []

/-- A call with what the calls before it have left in the static buffer. -/
def LookupCall.run (host : Endian) (ifname : List UInt8) (c : LookupCall) : LookupResult :=
  arpingLookupdev host c.dstip c.getifaddrs ifname

/-- The static buffer after a history of calls; it is empty before the first. -/
def bufferAfter (host : Endian) (calls : List LookupCall) : List UInt8 :=
  calls.foldl (fun ifname c => (c.run host ifname).ifname) []

/-- A name that is returned is the name of a matching interface. -/
def LookupCall.Truthful (c : LookupCall) (result : LookupResult) : Prop :=
  ∀ name ∈ result.ret, ∃ i ∈ c.interfaces, i.Matches c.dstip ∧ i.cutName = name

/-- The name that a call writes to the buffer: that of the matching interface with the greatest
mask, if some mask is not 0. -/
def LookupCall.written (host : Endian) (c : LookupCall) : Option (List UInt8) :=
  if ∃ i ∈ c.interfaces, i.Matches c.dstip ∧ i.mask ≠ 0 then
    ((c.interfaces.filter fun i => i.Matches c.dstip).argmax (maskOrder host)).map Ifaddrs.cutName
  else none

/-- No interface matches, or one matches with a mask other than 0, or with the name that the buffer
holds. -/
def LookupCall.Answerable (c : LookupCall) (ifname : List UInt8) : Prop :=
  (∀ i ∈ c.interfaces, ¬ i.Matches c.dstip) ∨
    ∃ i ∈ c.interfaces, i.Matches c.dstip ∧ (i.mask ≠ 0 ∨ i.cutName = ifname)

/-! ## One call -/

section

variable (host : Endian) (ifname : List UInt8) (c : LookupCall)

/-- A failing `getifaddrs` is an empty list, as far as the name and the buffer go. -/
theorem LookupCall.run_eq :
    (c.run host ifname).ret =
        (if (c.interfaces.filter fun i => i.Matches c.dstip) = [] then none
          else some (c.run host ifname).ifname) ∧
      (c.run host ifname).ifname =
        (Lookup.seeAll host ifname (c.interfaces.filter fun i => i.Matches c.dstip)).ifname := by
  obtain ⟨dstip, getifaddrs⟩ := c
  cases getifaddrs with
  | error e => exact ⟨rfl, rfl⟩
  | ok ifa =>
    obtain ⟨hret, hbuffer⟩ := arpingLookupdev_ok host dstip ifa ifname
    refine ⟨?_, hbuffer⟩
    rw [← hbuffer] at hret
    exact hret

theorem LookupCall.mem_matching {i : Ifaddrs} :
    i ∈ (c.interfaces.filter fun i => i.Matches c.dstip) ↔
      i ∈ c.interfaces ∧ i.Matches c.dstip := by
  rw [List.mem_filter, decide_eq_true_eq]

/-- The buffer changes only where a mask is not 0. -/
theorem LookupCall.run_ifname :
    (c.run host ifname).ifname = (c.written host).getD ifname := by
  rw [(c.run_eq host ifname).2, written]
  split
  · next h =>
    obtain ⟨i, hi, hmatch, hne⟩ := h
    obtain ⟨best, hbest, hname⟩ :=
      seeAll_ifname_of_ne host ifname (c.mem_matching.mpr ⟨hi, hmatch⟩) hne
    rw [hbest, hname]
    rfl
  · next h =>
    refine seeAll_ifname_of_zero fun i hi => ?_
    by_contra hne
    exact h ⟨i, (c.mem_matching.mp hi).1, (c.mem_matching.mp hi).2, hne⟩

/-- A name that a call writes is that of one of its matching interfaces, not all of them with the
mask 0. -/
theorem LookupCall.exists_of_written {name : List UInt8} (h : c.written host = some name) :
    (∃ i ∈ c.interfaces, i.Matches c.dstip ∧ i.mask ≠ 0) ∧
      ∃ i ∈ c.interfaces, i.Matches c.dstip ∧ i.cutName = name := by
  unfold written at h
  split at h
  · next hmask =>
    obtain ⟨i, hi, hname⟩ := Option.map_eq_some_iff.mp h
    have hmem := c.mem_matching.mp (List.argmax_mem hi)
    exact ⟨hmask, i, hmem.1, hmem.2, hname⟩
  · cases h

theorem LookupCall.mask_eq_zero_of_written {i : Ifaddrs} (h : c.written host = none)
    (hi : i ∈ c.interfaces) (hmatch : i.Matches c.dstip) : i.mask = 0 := by
  by_contra hne
  rw [written, if_pos ⟨i, hi, hmatch, hne⟩, Option.map_eq_none_iff, List.argmax_eq_none] at h
  exact List.not_mem_nil (h ▸ c.mem_matching.mpr ⟨hi, hmatch⟩)

theorem LookupCall.truthful_iff : c.Truthful (c.run host ifname) ↔ c.Answerable ifname := by
  have hret := (c.run_eq host ifname).1
  rw [c.run_ifname] at hret
  constructor
  · intro h
    by_cases hmatch : ∀ i ∈ c.interfaces, ¬ i.Matches c.dstip
    · exact Or.inl hmatch
    rw [if_neg (mt filter_matches_eq_nil_iff.mp hmatch)] at hret
    obtain ⟨i, hi, him, hname⟩ := h _ hret
    cases hwritten : c.written host with
    | none =>
      rw [hwritten] at hname
      exact Or.inr ⟨i, hi, him, Or.inr hname⟩
    | some name =>
      obtain ⟨⟨j, hj, hjm, hne⟩, -⟩ := c.exists_of_written host hwritten
      exact Or.inr ⟨j, hj, hjm, Or.inl hne⟩
  · intro h name hname
    split at hret
    · rw [hret] at hname
      cases hname
    · next hnil =>
      rw [hret, Option.mem_some_iff] at hname
      cases hwritten : c.written host with
      | none =>
        rw [hwritten] at hname
        obtain hmatch | ⟨i, hi, him, hne | hold⟩ := h
        · exact absurd (filter_matches_eq_nil_iff.mpr hmatch) hnil
        · exact absurd (c.mask_eq_zero_of_written host hwritten hi him) hne
        · exact ⟨i, hi, him, hold.trans hname⟩
      | some name' =>
        rw [hwritten] at hname
        obtain ⟨-, i, hi, him, hiname⟩ := c.exists_of_written host hwritten
        exact ⟨i, hi, him, hiname.trans hname⟩

end

/-! ## Histories -/

/-- The name that the calls have written last, empty before the first. -/
theorem bufferAfter_eq (host : Endian) (calls : List LookupCall) :
    bufferAfter host calls = (lastWrite (LookupCall.written host) calls).getD [] := by
  have hgen : ∀ ifname, calls.foldl (fun ifname c => (c.run host ifname).ifname) ifname =
      (lastWrite (LookupCall.written host) calls).getD ifname := by
    induction calls with
    | nil => exact fun ifname => rfl
    | cons c calls ih =>
      intro ifname
      rw [List.foldl_cons, ih, c.run_ifname, lastWrite_cons]
      cases lastWrite (LookupCall.written host) calls <;> rfl
  exact hgen []

/-- **Interfaces that are found match.** In a history of calls every name returned is that of an
interface of its call that is up, of IPv4, neither loopback nor point-to-point, and on the net of
the target, exactly if in each call no interface matches, or one with a mask other than 0, or one
with the name that the calls before have written last. -/
theorem lookupHistory_truthful_iff (host : Endian) (calls : List LookupCall) :
    (∀ before c after, calls = before ++ c :: after →
      c.Truthful (c.run host (bufferAfter host before))) ↔
    ∀ before c after, calls = before ++ c :: after →
      c.Answerable ((lastWrite (LookupCall.written host) before).getD []) := by
  simp only [LookupCall.truthful_iff, bufferAfter_eq]

/-- An interface with the mask 0 is answered with the empty name. -/
theorem not_truthful_maskZero :
    ¬ ∀ calls : List LookupCall, ∀ before c after, calls = before ++ c :: after →
      c.Truthful (c.run .little (bufferAfter .little before)) := by
  intro h
  obtain ⟨i, hi, -, hname⟩ := h
    [⟨0x0100000a, .ok [⟨some [101, 109, 48], iffUp, some ⟨afInet, 0x0200000a⟩, some ⟨afInet, 0⟩⟩]⟩]
    [] _ [] rfl [] (by decide)
  obtain rfl := List.mem_singleton.mp hi
  exact absurd hname (by decide)

end Arping
