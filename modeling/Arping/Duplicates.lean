import Arping.Lib.AdjacentWatch
import Arping.Runs

/-!
# Duplicate replies and the exit status

With `-d` the program is to tell whether more than one host answers for the address. It compares
each counted reply with the one before, and takes `numrecvd` for the sign that there is one: the
globals are a `Watch` on the source addresses of the counted replies (`State.watch_eq`). So
`dupfound` ends up set exactly when two of them, anywhere in the run, have different source
addresses (`finalReturn_eq`).
-/

namespace Arping

/-- The source addresses of the counted replies, in order. -/
def State.macs (g : State) : List Mac := g.counted.map Packet.srcmac

/-- The globals of duplicate detection: `numrecvd` says whether there is a previous reply. -/
def State.watch (g : State) : Watch Mac where
  last := if g.numrecvd = 0 then none else some g.lastreplymac
  broken := g.dupfound

/-- As long as `numrecvd` has not wrapped it is the number of counted replies, and the globals
have watched their addresses. -/
def Watches (g : State) : Prop :=
  g.counted.length < 2 ^ 32 →
    g.numrecvd.toNat = g.counted.length ∧ g.watch = Watch.watch (· = ·) g.macs

theorem watches_init : Watches State.init := fun _ => ⟨rfl, rfl⟩

theorem Watches.of_same {g g' : State} (hsame : SameReceived g g') (h : Watches g) :
    Watches g' := by
  unfold Watches State.watch State.macs at *
  rw [hsame.counted, hsame.numrecvd, hsame.lastreplymac, hsame.dupfound]
  exact h

/-- The state a rejected packet leaves. -/
theorem Watches.afterArrival {g : State} (h : Watches g) (p : Packet) (clk : ClockCall) :
    Watches (afterArrival p clk g) := by
  have harr := afterArrival_arrives p clk g
  unfold Watches State.watch State.macs at *
  rw [harr.counted, harr.numrecvd, harr.lastreplymac, harr.dupfound]
  exact h

/-- A counted reply is seen. -/
theorem watch_of_counts {cfg : Config} {p : Packet} {mac : Mac} {t : ℚ} {g g' : State}
    (h : CountsArp cfg p mac t g g') (hnum : g'.numrecvd ≠ 0) :
    g'.watch = (g.watch).see (· = ·) mac := by
  unfold State.watch Watch.see
  rw [h.lastreplymac, h.dupfound, if_neg hnum]
  by_cases h0 : g.numrecvd = 0
  · simp [h0]
  · simp [h0]

theorem Watches.counts {cfg : Config} {p : Packet} {t : ℚ} {g g' : State} (hg : Watches g)
    (h : CountsArp cfg p p.srcmac t g g') : Watches g' := by
  intro hlen
  rw [h.counted, List.length_append, List.length_singleton] at hlen
  obtain ⟨hnum, hwatch⟩ := hg (by omega)
  have hnum' : g'.numrecvd.toNat = g.counted.length + 1 := by
    rw [h.numrecvd, UInt32.toNat_add, hnum]
    exact Nat.mod_eq_of_lt hlen
  constructor
  · rw [hnum', h.counted, List.length_append, List.length_singleton]
  · have hmacs : g'.macs = g.macs ++ [p.srcmac] := by
      rw [State.macs, h.counted, List.map_append]
      rfl
    have hpos : g'.numrecvd ≠ 0 := by
      intro h0
      rw [h0] at hnum'
      cases hnum'
    rw [hmacs, Watch.watch_append_singleton, ← hwatch]
    exact watch_of_counts h hpos

/-- One call of the handler. -/
theorem recvHandler_watches {cfg : Config} (hmode : cfg.mode = .pingip) (hv : cfg.vlanTag < 0)
    (p : Packet) (clk : ClockCall) (g : State) (hg : Watches g) :
    Watches (recvHandler cfg p clk g) := by
  have harr := hg.afterArrival p clk
  have hrun := run_pingipAccept_untagged hv p
  rw [recvHandler_pingip hmode]
  split_ifs at hrun
  · exact harr.counts (pingipRecv_accept hrun clk g)
  · rw [pingipRecv_reject hrun]
    exact harr

theorem pingLoop_watches {cfg : Config} (hmode : cfg.mode = .pingip) (hv : cfg.vlanTag < 0)
    (env : RunEnv) : Watches (pingLoop cfg env State.init).state.2 :=
  pingLoop_inv (fun _ _ hsame => Watches.of_same hsame) cfg (recvHandler_watches hmode hv) env
    watches_init

section Final

variable {g : State} (hg : Watches g) (hlen : g.counted.length < 2 ^ 32)

include hg hlen

theorem Watches.dupfound_iff :
    g.dupfound = true ↔ ∃ p ∈ g.counted, ∃ q ∈ g.counted, p.srcmac ≠ q.srcmac := by
  have hwatch := (hg hlen).2
  have hdup : g.dupfound = (Watch.watch (· = ·) g.macs).broken := by
    rw [← hwatch]
    rfl
  rw [hdup, Watch.watch_eq_broken_iff]
  simp [State.macs]

theorem Watches.numrecvd_eq_zero_iff : g.numrecvd = 0 ↔ g.counted = [] := by
  rw [← UInt32.toNat_inj, (hg hlen).1]
  exact List.length_eq_zero_iff

end Final

/-- **Duplicates and exit status.** In a run of untagged IP mode that reaches the final `return`,
with less than `2 ^ 32` counted replies: with `-d` the exit status says whether two of them have
different source addresses, without whether there is none. -/
theorem finalReturn_eq {cfg : Config} (hmode : cfg.mode = .pingip) (hv : cfg.vlanTag < 0)
    {env : RunEnv} {status : ℕ}
    (hreturn : finalReturn cfg (pingLoop cfg env State.init) = some status)
    (hlen : (pingLoop cfg env State.init).state.2.counted.length < 2 ^ 32) :
    let counted := (pingLoop cfg env State.init).state.2.counted
    (cfg.finddup = true →
      status = if ∃ p ∈ counted, ∃ q ∈ counted, p.srcmac ≠ q.srcmac then 1 else 0) ∧
      (cfg.finddup = false → status = if counted ≠ [] then 0 else 1) := by
  intro counted
  have hg := pingLoop_watches hmode hv env
  have hstatus : status = exitStatus cfg (pingLoop cfg env State.init).state.2 := by
    unfold finalReturn at hreturn
    split at hreturn
    · rename_i heq
      rw [heq]
      exact (Option.some.inj hreturn).symm
    · cases hreturn
  rw [hstatus]
  unfold exitStatus
  constructor
  · intro hfind
    rw [if_pos hfind]
    exact if_congr (hg.dupfound_iff hlen) rfl rfl
  · intro hfind
    rw [hfind, if_neg Bool.false_ne_true, if_congr (hg.numrecvd_eq_zero_iff hlen) rfl rfl]
    exact (ite_not _ _ _).symm

/-- Pinging three times with `-d`. -/
def dupConfig : Config := { ipConfig with maxcount := 3, finddup := true }

theorem finalReturn_eq_aba :
    let counted := (pingLoop dupConfig
      (runOf [[arpReplyFrame 7, arpRequestFrame 9], [arpReplyFrame 8], [arpReplyFrame 7]])
      State.init).state.2.counted
    (dupConfig.finddup = true →
      1 = if ∃ p ∈ counted, ∃ q ∈ counted, p.srcmac ≠ q.srcmac then 1 else 0) ∧
      (dupConfig.finddup = false → 1 = if counted ≠ [] then 0 else 1) :=
  finalReturn_eq rfl (by decide) (by decide +kernel) (by decide +kernel)

end Arping
