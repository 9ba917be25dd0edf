import Arping.Lib.Checks
import Arping.Lib.CNumber
import Arping.Lib.Getopt
import Arping.MainLoop

/-!
# Command-line options

The option loop of `arping_main`. A pass of the loop is `Opts.step`; it changes the variables of
`Opts` or ends the program. Which options write a variable is said once (`Opts.Written`), and from
there on `Checks.lastWrite` and `List.any` tell the value of the variable behind the loop.
-/

namespace Arping

open CNumber Checks

/-- How `arping_main` ends before the ping loop: with both usage texts and status 0 (`--help`), with
the short usage text and a status, or with a message on standard error and status 1; or it is lost
in `get_mac`, which dies or goes on for ever. -/
inductive Exit
  | help
  | usage (ret : ℕ)
  | error (message : String)
  | lost
  deriving DecidableEq

/-- `ip_broadcast`. -/
def ipBroadcast : String := "255.255.255.255"

/-- A return value of `getopt`, by the option letter (`zero` is `-0`); `other` is what the `switch`
has no case for. -/
inductive Opt
  | zero
  | a
  | b
  | B
  | c (optarg : String)
  | C (optarg : String)
  | d
  | D
  | e
  | F
  | g (optarg : String)
  | h
  | i (optarg : String)
  | I (optarg : String)
  | m (optarg : String)
  | p
  | P
  | q
  | Q (optarg : String)
  | r
  | R
  | s (optarg : String)
  | S (optarg : String)
  | t (optarg : String)
  | T (optarg : String)
  | u
  | U
  | v
  | V (optarg : String)
  | w (optarg : String)
  | W (optarg : String)
  | other
  deriving DecidableEq

/-- The string handed to `getopt`. -/
def optstring : String := "0aAbBC:c:dDeFg:hi:I:m:pPqQ:rRs:S:t:T:uUvV:w:W:"

/-- The case of the `switch`. -/
def Opt.ofItem : Getopt.Item → Opt
  | .opt '0' _ => .zero
  | .opt 'a' _ => .a
  | .opt 'b' _ => .b
  | .opt 'B' _ => .B
  | .opt 'c' (some optarg) => .c optarg
  | .opt 'C' (some optarg) => .C optarg
  | .opt 'd' _ => .d
  | .opt 'D' _ => .D
  | .opt 'e' _ => .e
  | .opt 'F' _ => .F
  | .opt 'g' (some optarg) => .g optarg
  | .opt 'h' _ => .h
  | .opt 'i' (some optarg) => .i optarg
  | .opt 'I' (some optarg) => .I optarg
  | .opt 'm' (some optarg) => .m optarg
  | .opt 'p' _ => .p
  | .opt 'P' _ => .P
  | .opt 'q' _ => .q
  | .opt 'Q' (some optarg) => .Q optarg
  | .opt 'r' _ => .r
  | .opt 'R' _ => .R
  | .opt 's' (some optarg) => .s optarg
  | .opt 'S' (some optarg) => .S optarg
  | .opt 't' (some optarg) => .t optarg
  | .opt 'T' (some optarg) => .T optarg
  | .opt 'u' _ => .u
  | .opt 'U' _ => .U
  | .opt 'v' _ => .v
  | .opt 'V' (some optarg) => .V optarg
  | .opt 'w' (some optarg) => .w optarg
  | .opt 'W' (some optarg) => .W optarg
  | _ => .other

/-- The variables that the option loop writes: those of `Config`, and the local ones of
`arping_main`. -/
structure Opts where
  cfg : Config
  srcipOpt : Option String
  dstipOpt : Option String
  dstipGiven : Bool
  srcmacOpt : Option String
  dstmacOpt : Option String
  ifname : Option String
  optB : Bool
  optT : Bool
  optU : Bool
  dropGroup : Option String
  dontUseArpingLookupdev : Bool
  promisc : Bool
  timestampType : Option String

/-- Their values before the loop. -/
def Opts.init (host : Endian) : Opts where
  cfg := .init host
  srcipOpt := none
  dstipOpt := none
  dstipGiven := false
  srcmacOpt := none
  dstmacOpt := none
  ifname := none
  optB := false
  optT := false
  optU := false
  dropGroup := none
  dontUseArpingLookupdev := false
  promisc := false
  timestampType := none

/-! ## Messages -/

/-- `-i` with an interface alias. -/
def aliasMessage : String :=
  "arping: If you're trying to feed me an interface alias then you don't really\n" ++
  "know what this programs does, do you?\n" ++
  "Use -I if you really mean it (undocumented on purpose)\n"

def vlanPrioMessage (vlanPrio : Int16) : String :=
  "arping: 802.1p priority must be 0-7. It's " ++ toString vlanPrio.toInt ++ "\n"

def vlanTagMessage (vlanTag : Int16) : String :=
  "arping: vlan tag must 0-4095. Is " ++ toString vlanTag.toInt ++ "\n"

def tooManyArgsMessage : String :=
  "arping: Too many args on command line. Expected at most one.\n"

def modeConflictMessage : String :=
  "arping: -T can only be used to ping MAC and -BtU only to ping IPs"

def sameThingMessage : String :=
  "arping: -B can't be used with -T, since they set the same thing\n"

/-! ## The option loop -/

/-- One pass of the loop: the `switch`. -/
def Opts.step (s : Opts) : Opt → Except Exit Opts
  | .zero => .ok { s with srcipOpt := some "0.0.0.0" }
  | .a => .ok { s with cfg.beep := true }
  | .b => .ok { s with srcipOpt := some ipBroadcast }
  | .B => .ok { s with dstipOpt := some ipBroadcast, dstipGiven := true, optB := true }
  | .c optarg => .ok { s with cfg.maxcount := (atoi optarg.toList).toUInt32 }
  | .C optarg => .ok { s with cfg.maxReplies := (atoi optarg.toList).toUInt32 }
  | .d => .ok { s with cfg.finddup := true }
  | .D => .ok { s with cfg.display := .dot }
  | .e => .ok { s with cfg.reverseBeep := true }
  | .F => .ok { s with dontUseArpingLookupdev := true }
  | .h => .error (.usage 0)
  | .g optarg => .ok { s with dropGroup := some optarg }
  | .i optarg => do
    reject (optarg.toList.contains ':') (.error aliasMessage)
    return { s with ifname := some optarg }
  | .I optarg => .ok { s with ifname := some optarg }
  | .m optarg => .ok { s with timestampType := some optarg }
  | .p => .ok { s with promisc := true }
  | .P => .ok { s with cfg.sendReply := true }
  | .q => .ok { s with cfg.display := .quiet }
  | .Q optarg => do
    let vlanPrio := (atoi optarg.toList).toInt16
    reject (vlanPrio < 0 ∨ vlanPrio > 7) (.error (vlanPrioMessage vlanPrio))
    return { s with cfg.vlanPrio := vlanPrio }
  | .r => .ok { s with cfg.display := if s.cfg.display = .rraw then .rawraw else .raw }
  | .R => .ok { s with cfg.display := if s.cfg.display = .raw then .rawraw else .rraw }
  | .s optarg => .ok { s with srcmacOpt := some optarg }
  | .S optarg => .ok { s with srcipOpt := some optarg }
  | .t optarg => .ok { s with dstmacOpt := some optarg, cfg.mode := .pingip }
  | .T optarg => .ok { s with optT := true, dstipOpt := some optarg, cfg.mode := .pingmac }
  | .u => .ok { s with cfg.alsototal := true }
  | .U => .ok { s with optU := true, cfg.unsolicited := true, cfg.mode := .pingip }
  | .v => .ok { s with cfg.verbose := s.cfg.verbose + 1 }
  | .V optarg => do
    let vlanTag := (atoi optarg.toList).toInt16
    reject (vlanTag < 0 ∨ vlanTag > 4095) (.error (vlanTagMessage vlanTag))
    return { s with cfg.vlanTag := vlanTag }
  | .w optarg => .ok { s with cfg.deadline := atof optarg.toList }
  | .W optarg => .ok { s with cfg.packetwait := toUint32 (1000000 * atof optarg.toList) }
  | .other => .error (.usage 1)

/-- The option loop. -/
def parseOptions (host : Endian) (os : List Opt) : Except Exit Opts :=
  os.foldlM Opts.step (.init host)

/-- The conflict checks behind the loop. -/
def conflictChecks (s : Opts) : Except Exit Unit := do
  reject ((s.cfg.mode = .pingip ∧ s.optT) ∨
    (s.cfg.mode = .pingmac ∧ (s.optB ∨ s.dstmacOpt.isSome ∨ s.optU))) (.error modeConflictMessage)
  reject (s.optT ∧ s.optB) (.error sameThingMessage)

/-! ## What an option writes -/

namespace Opt

/-- The mode an option chooses. -/
def mode? : Opt → Option Mode
  | .t _ => some .pingip
  | .T _ => some .pingmac
  | .U => some .pingip
  | _ => none

/-- What an option writes to `dstip_opt`. -/
def dstip? : Opt → Option (Option String)
  | .B => some (some ipBroadcast)
  | .T optarg => some (some optarg)
  | _ => none

def isSmallT : Opt → Bool
  | .t _ => true
  | _ => false

def isT : Opt → Bool
  | .T _ => true
  | _ => false

/-- No error of the option by itself. -/
def Accepted : Opt → Prop
  | .h => False
  | .i optarg => ¬ optarg.toList.contains ':'
  | .Q optarg => ¬ ((atoi optarg.toList).toInt16 < 0 ∨ (atoi optarg.toList).toInt16 > 7)
  | .V optarg => ¬ ((atoi optarg.toList).toInt16 < 0 ∨ (atoi optarg.toList).toInt16 > 4095)
  | .other => False
  | _ => True

end Opt

namespace Opts

variable {s s' : Opts} {o : Opt}

/-- The pass that reads `o` takes `s` to `s'`, as far as mode and target go. -/
structure Written (s : Opts) (o : Opt) (s' : Opts) : Prop where
  mode : s'.cfg.mode = o.mode?.getD s.cfg.mode
  dstipOpt : s'.dstipOpt = o.dstip?.getD s.dstipOpt
  dstmacOpt : s'.dstmacOpt.isSome = (s.dstmacOpt.isSome || o.isSmallT)
  optB : s'.optB = (s.optB || o = .B)
  optT : s'.optT = (s.optT || o.isT)
  optU : s'.optU = (s.optU || o = .U)
  dstipGiven : s'.dstipGiven = (s.dstipGiven || o = .B)
  finddup : s'.cfg.finddup = (s.cfg.finddup || o = .d)
  dstip : s'.cfg.dstip = s.cfg.dstip

theorem step_written (h : s.step o = .ok s') : Written s o s' := by
  cases o
  case h | other => cases h
  case i optarg | Q optarg | V optarg =>
    -- behind the check of the argument
    obtain ⟨-, -, h⟩ := bind_eq_ok_iff.mp h
    cases h
    constructor <;> simp [Opt.mode?, Opt.dstip?, Opt.isSmallT, Opt.isT]
  all_goals
    cases h
    constructor <;> simp [Opt.mode?, Opt.dstip?, Opt.isSmallT, Opt.isT]

/-- Whether a pass ends the program depends on the option only. -/
theorem step_succeeds_iff (s : Opts) (o : Opt) : (∃ s', s.step o = .ok s') ↔ o.Accepted := by
  cases o
  case h | other =>
    refine iff_of_false ?_ id
    rintro ⟨s', h⟩
    cases h
  case i optarg | Q optarg | V optarg => exact reject_then_succeeds_iff
  all_goals exact iff_of_true ⟨_, rfl⟩ trivial

/-- The variables behind the loop, read off the options. -/
structure Parsed (os : List Opt) (s : Opts) : Prop where
  mode : s.cfg.mode = (lastWrite Opt.mode? os).getD .none
  dstipOpt : s.dstipOpt = (lastWrite Opt.dstip? os).getD none
  dstmacOpt : s.dstmacOpt.isSome = os.any Opt.isSmallT
  optB : s.optB = os.any (· = .B)
  optT : s.optT = os.any Opt.isT
  optU : s.optU = os.any (· = .U)
  dstipGiven : s.dstipGiven = os.any (· = .B)
  finddup : s.cfg.finddup = os.any (· = .d)
  dstip : s.cfg.dstip = 0xffffffff

end Opts

theorem parseOptions_parsed {host : Endian} {os : List Opt} {s : Opts}
    (h : parseOptions host os = .ok s) : Opts.Parsed os s where
  mode := foldlM_write (x := fun s => s.cfg.mode) h fun _ _ _ h => (Opts.step_written h).mode
  dstipOpt := foldlM_write (x := Opts.dstipOpt) h fun _ _ _ h => (Opts.step_written h).dstipOpt
  dstmacOpt := foldlM_flag (x := fun s => s.dstmacOpt.isSome) h
    fun _ _ _ h => (Opts.step_written h).dstmacOpt
  optB := foldlM_flag (x := Opts.optB) h fun _ _ _ h => (Opts.step_written h).optB
  optT := foldlM_flag (x := Opts.optT) h fun _ _ _ h => (Opts.step_written h).optT
  optU := foldlM_flag (x := Opts.optU) h fun _ _ _ h => (Opts.step_written h).optU
  dstipGiven := foldlM_flag (x := Opts.dstipGiven) h
    fun _ _ _ h => (Opts.step_written h).dstipGiven
  finddup := foldlM_flag (x := fun s => s.cfg.finddup) h
    fun _ _ _ h => (Opts.step_written h).finddup
  dstip := foldlM_frame (x := fun s => s.cfg.dstip) h fun _ _ _ h => (Opts.step_written h).dstip

theorem parseOptions_succeeds_iff {host : Endian} {os : List Opt} :
    (∃ s, parseOptions host os = .ok s) ↔ ∀ o ∈ os, o.Accepted :=
  foldlM_succeeds_iff Opts.step_succeeds_iff

end Arping
