import Mathlib.Data.List.Induction
import Arping.Runs

/-!
# What `numsent` counts

`numsent` is to be the number of packets sent, and the loss at the end is computed from it. But a
sender reaches `numsent++` whether or not libnet has built and written the packet
(`sendAll_numsent`): `numsent` counts the calls of the senders, and is the number of packets sent
only where no call fails (`sendAll_countsTransmitted_iff`).
-/

namespace Arping

/-- A call of one of the senders. -/
inductive SendCall
  | pingip (env : SendEnv)
  | pingmac (id seq : UInt16) (env : SendEnv)

namespace SendCall

/-- libnet builds every layer of the packet. -/
def built : SendCall → Bool
  | pingip env => env.payloadOk && env.etherOk
  | pingmac _ _ env => env.payloadOk && env.ipv4Ok && env.etherOk

/-- `libnet_write` succeeds. -/
def written : SendCall → Bool
  | pingip env => env.writeOk
  | pingmac _ _ env => env.writeOk

def transmitted (c : SendCall) : Bool := c.built && c.written

def run (cfg : Config) (c : SendCall) (g : State) : State :=
  match c with
  | pingip env => pingipSend cfg env g
  | pingmac id seq env => pingmacSend cfg id seq env g

theorem run_numsent (cfg : Config) (c : SendCall) (g : State) :
    (c.run cfg g).numsent = g.numsent + 1 := by
  cases c with
  | pingip env => exact pingipSend_numsent cfg env g
  | pingmac id seq env => exact pingmacSend_numsent cfg id seq env g

end SendCall

/-- The senders are called one after the other. -/
def sendAll (cfg : Config) (calls : List SendCall) (g : State) : State :=
  calls.foldl (fun g c => c.run cfg g) g

theorem sendAll_append (cfg : Config) (calls calls' : List SendCall) (g : State) :
    sendAll cfg (calls ++ calls') g = sendAll cfg calls' (sendAll cfg calls g) :=
  List.foldl_append

theorem sendAll_snoc_numsent (cfg : Config) (calls : List SendCall) (c : SendCall) (g : State) :
    (sendAll cfg (calls ++ [c]) g).numsent = (sendAll cfg calls g).numsent + 1 := by
  rw [sendAll_append]
  exact c.run_numsent cfg _

/-- `numsent` counts calls. -/
theorem sendAll_numsent (cfg : Config) (calls : List SendCall) (g : State) :
    (sendAll cfg calls g).numsent = g.numsent + UInt32.ofNat calls.length := by
  induction calls using List.reverseRecOn with
  | nil => exact (UInt32.add_zero g.numsent).symm
  | append_singleton calls c ih =>
    rw [sendAll_snoc_numsent, ih, List.length_append, List.length_singleton, UInt32.ofNat_add,
      UInt32.add_assoc]
    rfl

/-- Every call counts if and only if its packet is transmitted, so that `numsent` is the number of
packets transmitted. -/
structure CountsTransmitted (cfg : Config) (calls : List SendCall) (g : State) : Prop where
  written : ∀ l c r, calls = l ++ c :: r → c.written = true →
    (sendAll cfg (l ++ [c]) g).numsent = (sendAll cfg l g).numsent + 1
  failed : ∀ l c r, calls = l ++ c :: r → c.built = false ∨ c.written = false →
    (sendAll cfg (l ++ [c]) g).numsent = (sendAll cfg l g).numsent
  total : (sendAll cfg calls g).numsent =
    g.numsent + UInt32.ofNat (calls.countP SendCall.transmitted)

theorem not_transmitted_iff (c : SendCall) :
    ¬ c.transmitted = true ↔ c.built = false ∨ c.written = false := by
  rw [SendCall.transmitted, Bool.not_eq_true, Bool.and_eq_false_iff]

/-- **Counting sent packets.** For every sequence of calls, failing calls are left out of `numsent`
exactly when there are none. -/
theorem sendAll_countsTransmitted_iff (cfg : Config) (calls : List SendCall) (g : State) :
    CountsTransmitted cfg calls g ↔ ∀ c ∈ calls, c.built = true ∧ c.written = true := by
  constructor
  · intro h c hc
    obtain ⟨l, r, heq⟩ := List.append_of_mem hc
    by_contra hfail
    rw [← Bool.and_eq_true, ← SendCall.transmitted, not_transmitted_iff] at hfail
    -- the failing call is counted like any other
    have hsame := h.failed l c r heq hfail
    rw [sendAll_snoc_numsent] at hsame
    exact absurd hsame (by simp)
  · intro h
    refine ⟨fun l c r _ _ => sendAll_snoc_numsent cfg l c g, fun l c r heq hfail => ?_, ?_⟩
    · obtain ⟨hbuilt, hwritten⟩ := h c (by simp [heq])
      rw [hbuilt, hwritten] at hfail
      simp at hfail
    · have hall : ∀ c ∈ calls, c.transmitted = true := fun c hc => by
        rw [SendCall.transmitted, Bool.and_eq_true]
        exact h c hc
      rw [sendAll_numsent, List.countP_eq_length.mpr hall]

/-- A request that libnet does not write is counted. -/
theorem sendAll_failing_write :
    let call := SendCall.pingip ⟨true, true, true, false, readingAt 1, readingAt 1, 0⟩
    (sendAll ipConfig [call] State.init).numsent = 1 ∧
      ¬ CountsTransmitted ipConfig [call] State.init := by
  intro call
  refine ⟨rfl, fun h => ?_⟩
  have hsame := h.failed [] call [] rfl (Or.inr rfl)
  exact absurd hsame (by decide)

end Arping
