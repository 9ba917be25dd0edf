import Arping.Target

/-!
# Ways to write a command line

Options may be joined, and their arguments attached. It makes no difference to the program how that
is done (`startup_groups`), except that the word `--help` is found wherever it stands, also as the
argument of an option. And every list of options has a command line, `written`, on which the program
does what the options say one after the other, up to the first that ends it (`startup_written`).
-/

namespace Arping

open Checks Getopt

/-- The option letter and its argument. -/
def Opt.item : Opt → Item
  | .zero => .opt '0' none
  | .a => .opt 'a' none
  | .b => .opt 'b' none
  | .B => .opt 'B' none
  | .c optarg => .opt 'c' (some optarg)
  | .C optarg => .opt 'C' (some optarg)
  | .d => .opt 'd' none
  | .D => .opt 'D' none
  | .e => .opt 'e' none
  | .F => .opt 'F' none
  | .g optarg => .opt 'g' (some optarg)
  | .h => .opt 'h' none
  | .i optarg => .opt 'i' (some optarg)
  | .I optarg => .opt 'I' (some optarg)
  | .m optarg => .opt 'm' (some optarg)
  | .p => .opt 'p' none
  | .P => .opt 'P' none
  | .q => .opt 'q' none
  | .Q optarg => .opt 'Q' (some optarg)
  | .r => .opt 'r' none
  | .R => .opt 'R' none
  | .s optarg => .opt 's' (some optarg)
  | .S optarg => .opt 'S' (some optarg)
  | .t optarg => .opt 't' (some optarg)
  | .T optarg => .opt 'T' (some optarg)
  | .u => .opt 'u' none
  | .U => .opt 'U' none
  | .v => .opt 'v' none
  | .V optarg => .opt 'V' (some optarg)
  | .w optarg => .opt 'w' (some optarg)
  | .W optarg => .opt 'W' (some optarg)
  -- getopt accepts `-A`, and the `switch` has no case for it
  | .other => .opt 'A' none

/-- The group of one option. -/
def Opt.group (o : Opt) : Group :=
  match o.item with
  | .opt letter none => ⟨[letter], .none⟩
  | .opt letter (some optarg) => ⟨[], .separate letter optarg⟩
  | .unknown => ⟨[], .none⟩

theorem Opt.ofItem_item (o : Opt) : Opt.ofItem o.item = o := by
  cases o <;> rfl

theorem Opt.items_group (o : Opt) : o.group.items = [o.item] := by
  cases o <;> rfl

theorem Opt.group_proper (o : Opt) : o.group.Proper optstring.toList := by
  have hflag : ∀ c : Char, takesArg optstring.toList c = some false →
      Group.Proper optstring.toList ⟨[c], .none⟩ := by
    intro c hc
    exact ⟨by simpa using hc, nofun, nofun, by simp⟩
  have harg : ∀ (c : Char) (optarg : String), takesArg optstring.toList c = some true →
      Group.Proper optstring.toList ⟨[], .separate c optarg⟩ := by
    intro c optarg hc
    refine ⟨nofun, nofun, fun c' optarg' h => ?_, nofun⟩
    cases h
    exact hc
  cases o
  case c | C | g | i | I | m | Q | s | S | t | T | V | w | W => exact harg _ _ rfl
  all_goals exact hflag _ rfl

theorem dash_notMem_optstring : '-' ∉ optstring.toList := by decide

/-! ## Groups -/

section

variable {env : StartupEnv} {gs gs' : List Group}

theorem options_groups (env : StartupEnv) (h : ∀ g ∈ gs, g.Proper optstring.toList)
    (argv : List String) :
    options env (gs.flatMap Group.words ++ argv) =
        (gs.flatMap Group.items).map Opt.ofItem ++ options env argv ∧
      operands env (gs.flatMap Group.words ++ argv) = operands env argv := by
  unfold options operands getopt
  rw [scan_groups dash_notMem_optstring h, List.map_append]
  exact ⟨rfl, rfl⟩

/-- No argument in a word of its own is `--help`. -/
def WithoutHelp (gs : List Group) : Prop :=
  ∀ g ∈ gs, ∀ c optarg, g.last = .separate c optarg → optarg ≠ "--help"

/-- A word of letters is not `--help`. -/
theorem help_notMem_words (h : ∀ g ∈ gs, g.Proper optstring.toList) (hhelp : WithoutHelp gs) :
    "--help" ∉ gs.flatMap Group.words := by
  intro hmem
  obtain ⟨g, hg, hword⟩ := List.mem_flatMap.mp hmem
  obtain ⟨c, cs, hletters, hc⟩ := (h g hg).letters dash_notMem_optstring
  unfold Group.words at hword
  rcases List.mem_cons.mp hword with hfirst | harg
  · have hlist : "--help".toList = '-' :: c :: cs := by
      rw [hfirst, hletters]
      exact String.toList_ofList
    exact hc (List.cons.inj (List.cons.inj hlist).2).1.symm
  · cases hlast : g.last with
    | none =>
      rw [hlast] at harg
      cases harg
    | attached c optarg =>
      rw [hlast] at harg
      cases harg
    | separate c optarg =>
      rw [hlast] at harg
      exact hhelp g hg c optarg hlast (List.mem_singleton.mp harg).symm

theorem startup_congr {argv argv' : List String} (hhelp : "--help" ∈ argv ↔ "--help" ∈ argv')
    (hoptions : options env argv = options env argv')
    (hoperands : operands env argv = operands env argv') :
    startup env argv = startup env argv' := by
  unfold startup
  rw [hoptions, hoperands]
  by_cases h : "--help" ∈ argv
  · simp only [reject_of h, reject_of (hhelp.mp h), error_bind]
  · rw [reject_of_not h, reject_of_not (mt hhelp.mpr h)]

/-- **Grouping makes no difference.** Two ways of writing the same options in front of the same rest
of the command line lead to the same end, or to the ping loop with the same parameters. -/
theorem startup_groups (h : ∀ g ∈ gs, g.Proper optstring.toList)
    (h' : ∀ g ∈ gs', g.Proper optstring.toList)
    (hitems : gs.flatMap Group.items = gs'.flatMap Group.items) (hhelp : WithoutHelp gs)
    (hhelp' : WithoutHelp gs') (argv : List String) :
    startup env (gs.flatMap Group.words ++ argv) =
      startup env (gs'.flatMap Group.words ++ argv) := by
  obtain ⟨hoptions, hoperands⟩ := options_groups env h argv
  obtain ⟨hoptions', hoperands'⟩ := options_groups env h' argv
  apply startup_congr
  · rw [List.mem_append, List.mem_append, or_iff_right (help_notMem_words h hhelp),
      or_iff_right (help_notMem_words h' hhelp')]
  · rw [hoptions, hoptions', hitems]
  · rw [hoperands, hoperands']

end

theorem startup_groups_count :
    startup workingEnv ["-qc", "1", "10.0.0.1"] = startup workingEnv ["-q", "-c1", "10.0.0.1"] := by
  let gs : List Group := [⟨['q'], .separate 'c' "1"⟩]
  let gs' : List Group := [⟨['q'], .none⟩, ⟨[], .attached 'c' ['1']⟩]
  have h : ∀ g ∈ gs, g.Proper optstring.toList := by
    intro g hg
    obtain rfl := List.mem_singleton.mp hg
    refine ⟨List.forall_mem_singleton.mpr rfl, nofun, fun c optarg hlast => ?_, nofun⟩
    cases hlast
    rfl
  have h' : ∀ g ∈ gs', g.Proper optstring.toList := by
    intro g hg
    rcases List.mem_pair.mp hg with rfl | rfl
    · exact ⟨List.forall_mem_singleton.mpr rfl, nofun, nofun, fun _ => List.cons_ne_nil _ _⟩
    · refine ⟨nofun, fun c optarg hlast => ?_, nofun, nofun⟩
      cases hlast
      exact ⟨rfl, List.cons_ne_nil _ _⟩
  refine startup_groups h h' rfl (fun g hg c optarg hlast => ?_) (fun g hg c optarg hlast => ?_)
    ["10.0.0.1"]
  · obtain rfl := List.mem_singleton.mp hg
    cases hlast
    decide
  · rcases List.mem_pair.mp hg with rfl | rfl <;> cases hlast

/-! ## Writing options -/

/-- Each option by itself, an argument as the next word, and `--` in front of the operands. -/
def written (os : List Opt) (operands : List String) : List String :=
  os.flatMap (fun o => o.group.words) ++ "--" :: operands

/-- What `getopt` reads of it. -/
theorem options_written (env : StartupEnv) (os : List Opt) (argv : List String) :
    options env (written os argv) = os ∧ operands env (written os argv) = argv := by
  have hproper : ∀ g ∈ os.map Opt.group, g.Proper optstring.toList := by
    intro g hg
    obtain ⟨o, -, rfl⟩ := List.mem_map.mp hg
    exact o.group_proper
  have hitems : ((os.map Opt.group).flatMap Group.items).map Opt.ofItem = os := by
    induction os with
    | nil => rfl
    | cons o os ih =>
      rw [List.map_cons, List.flatMap_cons, Opt.items_group, List.map_append, List.map_singleton,
        Opt.ofItem_item, ih fun g hg => hproper g (List.mem_cons_of_mem _ hg)]
      rfl
  obtain ⟨hoptions, hoperands⟩ := options_groups env hproper ("--" :: argv)
  have hrest : options env ("--" :: argv) = [] ∧ operands env ("--" :: argv) = argv := ⟨rfl, rfl⟩
  rw [List.flatMap_map, hrest.1, hitems, List.append_nil] at hoptions
  rw [List.flatMap_map, hrest.2] at hoperands
  exact ⟨hoptions, hoperands⟩

/-- `arping_main` behind the option loop, up to the ping loop. -/
def behindOptions (env : StartupEnv) (operands : List String) (s : Opts) :
    Except Exit Launch := do
  reject (operands.length > 1) (.error tooManyArgsMessage)
  conflictChecks s
  let s ← readArguments env s
  let chosen ← chooseTarget env s operands.head?
  launch env chosen.1 chosen.2

theorem startup_eq {env : StartupEnv} {argv : List String} (hhelp : "--help" ∉ argv) :
    startup env argv =
      parseOptions env.host (options env argv) >>= behindOptions env (operands env argv) := by
  unfold startup
  rw [reject_of_not hhelp, ok_bind]
  rfl

/-- **Every list of options has a command line.** If `--help` is none of its words, the option loop
takes the options one after the other, up to the first that ends the program. If there is none, it
takes them all, and the program goes on with the operands. -/
theorem startup_written (env : StartupEnv) (os : List Opt) (argv : List String)
    (hhelp : "--help" ∉ written os argv) :
    startup env (written os argv) = parseOptions env.host os >>= behindOptions env argv ∧
      ((∀ o ∈ os, o.Accepted) → ∃ s, parseOptions env.host os = .ok s ∧
        startup env (written os argv) = behindOptions env argv s) := by
  obtain ⟨hoptions, hoperands⟩ := options_written env os argv
  have hloop : startup env (written os argv) =
      parseOptions env.host os >>= behindOptions env argv := by
    rw [startup_eq hhelp, hoptions, hoperands]
  refine ⟨hloop, fun haccepted => ?_⟩
  obtain ⟨s, hs⟩ := parseOptions_succeeds_iff.mpr haccepted
  exact ⟨s, hs, by rw [hloop, hs, ok_bind]⟩

/-- `-q -c 1 -- 10.0.0.1`. -/
theorem startup_written_count :
    startup workingEnv (written [.q, .c "1"] ["10.0.0.1"]) =
      parseOptions .little [.q, .c "1"] >>= behindOptions workingEnv ["10.0.0.1"] :=
  (startup_written workingEnv [.q, .c "1"] ["10.0.0.1"] (by decide)).1

end Arping
