import Arping.InterfaceStack
import Arping.Replies

/-!
# The address of an interface

`get_mac` asks rtslib for the address of an interface, or of the device under it where the name has
a dot. Its checks only print: it goes on with what the calls have left behind, and reads a message
also where there is none. So it returns an address, dies, or walks on for ever, and never returns
the NULL that `arping_main` looks for.

On its way it walks the interface stack, for the text that the walk prints. Neither its cookie nor
a message is given back (`getMac_held`), and the address does not depend on the walk.
-/

namespace Arping

open Ledger

/-! ## The function -/

/-- What rtslib and its companions answer to `get_mac`. -/
structure Rtslib where
  /-- Whether `rtslib_open` hands out a cookie. -/
  opens : Bool
  iflGetindexbyifname : String → ℤ
  /-- The return value of `ifl_get_device_name`, and what is in `dev` and `subunit` behind it. -/
  iflGetDeviceName : String → ℤ × String × ℕ
  /-- The return value of `rtslib_iflm_get_by_name`, and the `iflm_index` of the message. -/
  iflmGetByName : String → ℕ → ℤ × Option ℤ
  /-- The memory behind `LLADDR` of the message of `rtslib_ifdm_get_by_name`. -/
  ifdmGetByName : String → Option (ℕ → UInt8)
  /-- The same for the walk. -/
  walkOpens : Bool
  walkAnswers : List RtslibAnswer

/-- What is handed out to `get_mac` and to its walk. -/
inductive MacResource
  | cookie
  | iflm
  | ifdm
  | walk (r : RtslibResource)

/-- What a call of `get_mac` has done. -/
structure MacCall where
  printed : List String
  ledger : List (Entry MacResource)

namespace MacCall

def print (text : String) (s : MacCall) : MacCall := { s with printed := s.printed ++ [text] }

def enter (es : List (Entry MacResource)) (s : MacCall) : MacCall :=
  { s with ledger := s.ledger ++ es }

/-- `rtslib_open`. -/
def start (lib : Rtslib) : MacCall :=
  if lib.opens then ⟨[], [.acquire .cookie]⟩ else ⟨["ERRORINCOOKIE \n"], []⟩

/-- A call that hands out the message `r`, which is read next, or leaves NULL. -/
def ask (r : MacResource) (found : Bool) (s : MacCall) : MacCall :=
  s.enter (.use .cookie :: if found then [.acquire r, .use r] else [])

def walked (w : IflWalk) (s : MacCall) : MacCall where
  printed := s.printed ++ w.printed
  ledger := s.ledger ++ w.ledger.map (Entry.map .walk)

end MacCall

/-- `get_intf_mac`: what is in `src_mac_addr` behind it. -/
def getIntfMac (lladdr : ℕ → UInt8) : Mac := bytesAt lladdr 0 6

/-- The end of `get_mac`, with the address it returns, or none where it reads behind NULL. -/
def deviceMac (lib : Rtslib) (dev : String) (s : MacCall) : Option Mac × MacCall :=
  ((lib.ifdmGetByName dev).map getIntfMac, s.ask .ifdm (lib.ifdmGetByName dev).isSome)

/-- `strstr`. -/
def strstr (haystack needle : String) : Bool :=
  haystack.toList.tails.any needle.toList.isPrefixOf

/-- The branch for a name with a dot, up to the read of `iflm`: `dev`, and the index in `iflm`. -/
def askIflm (lib : Rtslib) (ifname : String) (s : MacCall) : String × Option ℤ × MacCall :=
  let s := s.print (toString (lib.iflGetindexbyifname ifname) ++ " \n")
  let (error, dev, subunit) := lib.iflGetDeviceName ifname
  let s := if error < 0 then s.print "ERROR\n" else s
  let (error, iflm) := lib.iflmGetByName dev subunit
  let s := s.ask .iflm iflm.isSome
  let s := if error > 0 then s.print "ERROR\n" else s
  (dev, iflm, s)

/-- `get_mac`; there is no result where the walk goes on for ever. -/
def getMac (lib : Rtslib) (ifname : String) : Option (Option Mac × MacCall) :=
  let s := MacCall.start lib
  if strstr ifname "irb." || strstr ifname "." then
    let (dev, iflm, s) := askIflm lib ifname s
    match iflm with
    | none => some (none, s)
    | some index =>
      (iflGetDeviceByifindex lib.walkOpens index lib.walkAnswers).map fun walk =>
        deviceMac lib dev (s.walked walk.2)
  else some (deviceMac lib ifname s)

/-! ## What is kept -/

theorem MacResource.walk_injective : MacResource.walk.Injective := fun _ _ h => by injection h

/-- Of what was handed out everything is held, except that of the walk there is only `left`. -/
structure Keeps (left : RtslibResource → Prop) (es : List (Entry MacResource)) : Prop where
  sound : Sound es
  held : ∀ r, Held es r ↔ .acquire r ∈ es ∧ ∀ r', r = .walk r' → left r'

section Keeps

variable {left : RtslibResource → Prop} {es : List (Entry MacResource)} {r : MacResource}

theorem keeps_cookie : Keeps left [.acquire .cookie] := by
  have hfresh : Admits [] (Entry.acquire MacResource.cookie) := List.not_mem_nil
  refine ⟨sound_append_singleton.mpr ⟨sound_nil, hfresh⟩, fun r => ?_⟩
  constructor
  · intro h
    refine ⟨h.1, fun r' hr => ?_⟩
    rw [hr] at h
    simpa using h.1
  · intro h
    exact ⟨h.1, by simp⟩

theorem Keeps.use (h : Keeps left es) (hr : Held es r) : Keeps left (es ++ [.use r]) := by
  refine ⟨sound_append_singleton.mpr ⟨h.sound, hr⟩, fun r' => ?_⟩
  rw [held_append_use, h.held, List.mem_append, or_iff_left (by simp)]

theorem Keeps.acquire (h : Keeps left es) (hfresh : .acquire r ∉ es)
    (hown : ∀ r', r ≠ .walk r') : Keeps left (es ++ [.acquire r]) := by
  have hsound : Sound (es ++ [.acquire r]) := sound_append_singleton.mpr ⟨h.sound, hfresh⟩
  refine ⟨hsound, fun r' => ?_⟩
  rw [hsound.held_append_acquire, h.held, List.mem_append, List.mem_singleton,
    Entry.acquire.injEq]
  constructor
  · rintro (⟨hacq, hleft⟩ | rfl)
    · exact ⟨Or.inl hacq, hleft⟩
    · exact ⟨Or.inr rfl, fun r'' hr => absurd hr (hown r'')⟩
  · rintro ⟨hacq | rfl, hleft⟩
    · exact Or.inl ⟨hacq, hleft⟩
    · exact Or.inr rfl

/-- A call of rtslib. -/
theorem Keeps.ask {s : MacCall} (h : Keeps left s.ledger) (hcookie : .acquire .cookie ∈ s.ledger)
    (hfresh : .acquire r ∉ s.ledger) (hown : ∀ r', r ≠ .walk r') (found : Bool) :
    Keeps left (s.ask r found).ledger := by
  have hheld : Held s.ledger .cookie := (h.held _).mpr ⟨hcookie, nofun⟩
  have huse := h.use hheld
  cases found with
  | false => exact huse
  | true =>
    have hfresh' : .acquire r ∉ s.ledger ++ [.use .cookie] := by
      rw [List.mem_append]
      exact not_or_intro hfresh (by simp)
    have hacq := huse.acquire hfresh' hown
    have hend := hacq.use (hacq.sound.held_append_acquire.mpr (Or.inr rfl))
    rw [List.append_assoc, List.append_assoc] at hend
    exact hend

/-- The walk deals with its own resources. -/
theorem resource_of_mem_walk {l : List (Entry RtslibResource)} {e : Entry MacResource}
    (he : e ∈ l.map (Entry.map .walk)) : ∃ r', e.resource = .walk r' := by
  obtain ⟨e', -, rfl⟩ := List.mem_map.mp he
  exact ⟨e'.resource, e'.resource_map⟩

theorem Keeps.walked {s : MacCall} {w : IflWalk} (h : Keeps left s.ledger)
    (hown : ∀ e ∈ s.ledger, ∀ r', e.resource ≠ .walk r') (hsound : Sound w.ledger)
    (hheld : ∀ r', Held w.ledger r' ↔ .acquire r' ∈ w.ledger ∧ left r') :
    Keeps left (s.walked w).ledger := by
  refine ⟨h.sound.append (hsound.map MacResource.walk_injective) fun e he e' he' => ?_,
    fun r => ?_⟩
  · obtain ⟨r', hr'⟩ := resource_of_mem_walk he'
    rw [hr']
    exact hown e he r'
  · by_cases hr : ∃ r', r = .walk r'
    · obtain ⟨r', rfl⟩ := hr
      have hbefore : .acquire (.walk r') ∉ s.ledger := fun hmem => hown _ hmem r' rfl
      have hacq : .acquire (.walk r') ∈ w.ledger.map (Entry.map MacResource.walk) ↔
          .acquire r' ∈ w.ledger := map_mem_map MacResource.walk_injective (.acquire r')
      unfold MacCall.walked
      rw [held_append_of_forall_ne' fun e he => hown e he r', held_map MacResource.walk_injective,
        hheld, List.mem_append, or_iff_right hbefore]
      refine and_congr hacq.symm ⟨fun hleft r'' heq => ?_, fun hleft => hleft r' rfl⟩
      rwa [← MacResource.walk_injective heq]
    · have hother : ∀ e ∈ w.ledger.map (Entry.map MacResource.walk), e.resource ≠ r := by
        rintro e he rfl
        exact hr (resource_of_mem_walk he)
      have hafter : Entry.acquire r ∉ w.ledger.map (Entry.map .walk) := fun hmem =>
        hother _ hmem rfl
      unfold MacCall.walked
      rw [held_append_of_forall_ne hother, h.held, List.mem_append, or_iff_left hafter]

end Keeps

/-! ## Main result -/

theorem walk_held {opened : Bool} {index ret : ℤ} {answers : List RtslibAnswer} {w : IflWalk}
    (h : iflGetDeviceByifindex opened index answers = some (ret, w)) :
    Sound w.ledger ∧ ∀ r, Held w.ledger r ↔
      .acquire r ∈ w.ledger ∧ r = .cookie ∧ MeetsNull index answers := by
  unfold iflGetDeviceByifindex at h
  cases opened with
  | false =>
    cases h
    exact ⟨sound_nil, fun r => iff_of_false not_held_nil fun hr => List.not_mem_nil hr.1⟩
  | true =>
    have hend : Ended (MeetsNull index answers) w := iflLoop_ended .start h
    refine ⟨hend.sound, fun r => ⟨fun hr => ⟨hr.1, (hend.held r).mp hr⟩, fun hr => ?_⟩⟩
    exact (hend.held r).mpr hr.2

/-- The walk of `get_mac` comes to an answer without a message. -/
def WalkMeetsNull (lib : Rtslib) (ifname : String) : Prop :=
  ∃ index, (askIflm lib ifname (.start lib)).2.1 = some index ∧ MeetsNull index lib.walkAnswers

section

variable {left : RtslibResource → Prop} {lib : Rtslib} {ifname : String} {address : Option Mac}
  {s : MacCall}

theorem ledger_askIflm (lib : Rtslib) (ifname : String) (s : MacCall) :
    (askIflm lib ifname s).2.2.ledger =
      (s.ask .iflm (askIflm lib ifname s).2.1.isSome).ledger := by
  have hprint : ∀ (c : Prop) [Decidable c] (s : MacCall) (text : String),
      (if c then s.print text else s).ledger = s.ledger := by
    intro c _ s text
    split <;> rfl
  unfold askIflm
  dsimp only
  rw [hprint]
  unfold MacCall.ask MacCall.enter
  rw [hprint]
  rfl

theorem ledger_start (hopen : lib.opens = true) :
    (MacCall.start lib).ledger = [.acquire .cookie] := by
  unfold MacCall.start
  rw [if_pos hopen]

/-- Up to the walk. -/
theorem keeps_askIflm (hopen : lib.opens = true) (ifname : String) :
    Keeps left (askIflm lib ifname (.start lib)).2.2.ledger := by
  have hstart := ledger_start hopen
  have hkeeps : Keeps left (MacCall.start lib).ledger := hstart ▸ keeps_cookie
  rw [ledger_askIflm]
  exact hkeeps.ask (by simp [hstart]) (by simp [hstart]) (by simp) _

theorem getMac_keeps (hopen : lib.opens = true) (h : getMac lib ifname = some (address, s)) :
    Keeps (fun r => r = .cookie ∧ WalkMeetsNull lib ifname) s.ledger := by
  have hstart := ledger_start hopen
  unfold getMac at h
  dsimp only at h
  split at h
  · split at h
    · cases h
      exact keeps_askIflm hopen ifname
    · rename_i index hindex
      obtain ⟨⟨ret, w⟩, hwalk, heq⟩ := Option.map_eq_some_iff.mp h
      cases heq
      have hbefore : (askIflm lib ifname (.start lib)).2.2.ledger =
          [.acquire .cookie, .use .cookie, .acquire .iflm, .use .iflm] := by
        rw [ledger_askIflm, hindex, MacCall.ask, MacCall.enter, hstart]
        rfl
      obtain ⟨hsound, hheld⟩ := walk_held hwalk
      have hmeets : WalkMeetsNull lib ifname ↔ MeetsNull index lib.walkAnswers := by
        unfold WalkMeetsNull
        simp [hindex]
      rw [← hmeets] at hheld
      have hkeeps := (keeps_askIflm hopen ifname).walked (by simp [hbefore, Entry.resource]) hsound
        hheld
      refine hkeeps.ask (List.mem_append_left _ (by simp [hbefore])) (fun hifdm => ?_) (by simp) _
      rcases List.mem_append.mp hifdm with hifdm | hifdm
      · rw [hbefore] at hifdm
        simp at hifdm
      · obtain ⟨r', hr'⟩ := resource_of_mem_walk hifdm
        cases hr'
  · cases h
    have hkeeps : Keeps (fun r => r = .cookie ∧ WalkMeetsNull lib ifname)
        (MacCall.start lib).ledger := hstart ▸ keeps_cookie
    exact hkeeps.ask (by simp [hstart]) (by simp [hstart]) (by simp) _

/-- The address that is asked for: that of the interface, or of the device under it. -/
def Rtslib.answer (lib : Rtslib) (ifname : String) : Option Mac :=
  if strstr ifname "irb." || strstr ifname "." then
    (askIflm lib ifname (.start lib)).2.1.bind fun _ =>
      (lib.ifdmGetByName (askIflm lib ifname (.start lib)).1).map getIntfMac
  else (lib.ifdmGetByName ifname).map getIntfMac

theorem getMac_address (h : getMac lib ifname = some (address, s)) :
    address = lib.answer ifname := by
  unfold getMac at h
  unfold Rtslib.answer
  dsimp only at h
  split at h
  · rename_i hdot
    rw [if_pos hdot]
    split at h
    · rename_i hnone
      cases h
      simp only [hnone, Option.bind_none]
    · rename_i index hindex
      obtain ⟨walk, -, heq⟩ := Option.map_eq_some_iff.mp h
      cases heq
      simp only [hindex, Option.bind_some]
  · rename_i hdot
    cases h
    exact (if_neg hdot).symm

/-- **What `get_mac` leaves behind.** If its `rtslib_open` succeeds, then whatever else rtslib
answers, where `get_mac` returns or dies it holds its cookie and every message it was handed, and of
its walk the cookie, if the walk came to an answer without a message. The address is the same for
every walk that comes to an end. -/
theorem getMac_held (hopen : lib.opens = true) (h : getMac lib ifname = some (address, s)) :
    Sound s.ledger ∧
      (∀ r, Held s.ledger r ↔
        .acquire r ∈ s.ledger ∧ ∀ r', r = .walk r' → r' = .cookie ∧ WalkMeetsNull lib ifname) ∧
      ∀ opens answers address' s',
        getMac { lib with walkOpens := opens, walkAnswers := answers } ifname =
          some (address', s') → address' = address := by
  have hkeeps := getMac_keeps hopen h
  refine ⟨hkeeps.sound, hkeeps.held, fun opens answers address' s' h' => ?_⟩
  exact (getMac_address h').trans (getMac_address h).symm

end

/-- An interface `ge-0/0/0.5` above the device `ge-0/0/0`. -/
def deviceLib : Rtslib where
  opens := true
  iflGetindexbyifname _ := 72
  iflGetDeviceName _ := (0, "ge-0/0/0", 5)
  iflmGetByName _ _ := (0, some 72)
  ifdmGetByName _ := some fun _ => 2
  walkOpens := true
  walkAnswers := [.message ⟨"ge-0/0/0.5", 0⟩]

theorem getMac_deviceLib :
    ∃ address s, getMac deviceLib "ge-0/0/0.5" = some (address, s) ∧
      .acquire .cookie ∈ s.ledger := by
  have hdot : (strstr "ge-0/0/0.5" "irb." || strstr "ge-0/0/0.5" ".") = true := by
    decide +kernel
  unfold getMac
  dsimp only
  rw [if_pos hdot]
  exact ⟨_, _, rfl, List.mem_cons_self⟩

/-- The cookie of `get_mac` is left open. -/
theorem getMac_held_device :
    ∃ address s, getMac deviceLib "ge-0/0/0.5" = some (address, s) ∧ Held s.ledger .cookie := by
  obtain ⟨address, s, h, hcookie⟩ := getMac_deviceLib
  exact ⟨address, s, h, ((getMac_held rfl h).2.1 .cookie).mpr ⟨hcookie, nofun⟩⟩

end Arping
