import Mathlib.Data.List.Basic

/-!
# `getopt`

Reading an argument vector, without its first word, by a string of option letters. Options may be
joined behind one dash, and the argument of an option is the rest of its word or else the next word.
`--` ends the options. The first operand ends them too, unless `getopt` moves operands behind the
options (`permute`).

A `Group` is a way of writing options: letters behind one dash, the last one perhaps with an
argument, in the same word or in the next. Groups in front of whatever else are read as the items
that they stand for (`scan_groups`), however these are grouped.
-/

namespace Getopt

/-- What a call of `getopt` returns: an option letter with `optarg`, or `?`. -/
inductive Item
  | opt (c : Char) (optarg : Option String)
  | unknown

/-- Whether a letter of the option string takes an argument; `none` for other characters. -/
def takesArg : List Char → Char → Option Bool
  | [], _ => none
  | o :: os, c => if o = c ∧ c ≠ ':' then some (os.head? = some ':') else takesArg os c

/-- The options of a word behind its dash, and the last one if its argument is the next word. -/
def cluster (optstring : List Char) : List Char → List Item × Option Char
  | [] => ([], none)
  | c :: cs =>
    let more := cluster optstring cs
    match takesArg optstring c with
    | none => (.unknown :: more.1, more.2)
    | some false => (.opt c none :: more.1, more.2)
    | some true =>
      if cs = [] then ([], some c) else ([.opt c (some (String.ofList cs))], none)

/-- The options and the operands of the words, where `pending` is an option that waits for its
argument. -/
def scan (optstring : List Char) (permute : Bool) (pending : Option Char) :
    List String → List Item × List String
  | [] => (if pending.isSome then [.unknown] else [], [])
  | w :: ws =>
    match pending with
    | some c =>
      let more := scan optstring permute none ws
      (.opt c (some w) :: more.1, more.2)
    | none =>
      if w = "--" then ([], ws)
      else if w.toList.head? = some '-' ∧ w ≠ "-" then
        let options := cluster optstring w.toList.tail
        let more := scan optstring permute options.2 ws
        (options.1 ++ more.1, more.2)
      else if permute then
        let more := scan optstring permute none ws
        (more.1, w :: more.2)
      else ([], w :: ws)

/-- All that `getopt` reads, and the operands from `optind` on. -/
def getopt (optstring : String) (permute : Bool) (argv : List String) : List Item × List String :=
  scan optstring.toList permute none argv

/-! ## Groups -/

/-- How the last option of a group gets its argument. -/
inductive Last
  | none
  | attached (c : Char) (optarg : List Char)
  | separate (c : Char) (optarg : String)

/-- Letters without an argument, and the last option. -/
structure Group where
  flags : List Char
  last : Last

namespace Group

/-- What a group stands for. -/
def items (g : Group) : List Item :=
  g.flags.map (.opt · none) ++ match g.last with
    | .none => []
    | .attached c optarg => [.opt c (some (String.ofList optarg))]
    | .separate c optarg => [.opt c (some optarg)]

/-- The letters behind the dash. -/
def letters (g : Group) : List Char :=
  g.flags ++ match g.last with
    | .none => []
    | .attached c optarg => c :: optarg
    | .separate c _ => [c]

/-- The words that it is written as. -/
def words (g : Group) : List String :=
  String.ofList ('-' :: g.letters) :: match g.last with
    | .separate _ optarg => [optarg]
    | _ => []

/-- The letters are used as the option string says. -/
structure Proper (optstring : List Char) (g : Group) : Prop where
  flags : ∀ c ∈ g.flags, takesArg optstring c = some false
  attached : ∀ c optarg, g.last = .attached c optarg →
    takesArg optstring c = some true ∧ optarg ≠ []
  separate : ∀ c optarg, g.last = .separate c optarg → takesArg optstring c = some true
  nonempty : g.last = .none → g.flags ≠ []

end Group

section

variable {optstring : List Char} {g : Group} {cs : List Char}

theorem cluster_flags (h : ∀ c ∈ g.flags, takesArg optstring c = some false) (cs : List Char) :
    cluster optstring (g.flags ++ cs) =
      (g.flags.map (.opt · none) ++ (cluster optstring cs).1, (cluster optstring cs).2) := by
  generalize g.flags = fs at h
  induction fs with
  | nil => rfl
  | cons c fs ih =>
    obtain ⟨hc, hfs⟩ := List.forall_mem_cons.mp h
    rw [List.cons_append, cluster, hc, ih hfs]
    rfl

/-- A letter of a group is in the option string, so the first one is no dash. -/
theorem dash_of_takesArg (hdash : '-' ∉ optstring) {c : Char} {b : Bool}
    (h : takesArg optstring c = some b) : c ≠ '-' := by
  rintro rfl
  induction optstring with
  | nil => cases h
  | cons o os ih =>
    rw [List.mem_cons, not_or] at hdash
    rw [takesArg, if_neg (fun heq => hdash.1 heq.1.symm)] at h
    exact ih hdash.2 h

theorem Group.Proper.letters (hdash : '-' ∉ optstring) (h : g.Proper optstring) :
    ∃ c cs, g.letters = c :: cs ∧ c ≠ '-' := by
  unfold Group.letters
  cases hflags : g.flags with
  | cons c fs =>
    have hc := h.flags c (by rw [hflags]; exact List.mem_cons_self)
    exact ⟨c, _, rfl, dash_of_takesArg hdash hc⟩
  | nil =>
    cases hlast : g.last with
    | none => exact absurd hflags (h.nonempty hlast)
    | attached c optarg =>
      exact ⟨c, optarg, rfl, dash_of_takesArg hdash (h.attached c optarg hlast).1⟩
    | separate c optarg =>
      exact ⟨c, [], rfl, dash_of_takesArg hdash (h.separate c optarg hlast)⟩

/-- A word of letters is read as such. -/
theorem scan_letters (permute : Bool) {c : Char} (hc : c ≠ '-') (cs : List Char)
    (ws : List String) :
    scan optstring permute none (String.ofList ('-' :: c :: cs) :: ws) =
      ((cluster optstring (c :: cs)).1 ++
          (scan optstring permute (cluster optstring (c :: cs)).2 ws).1,
        (scan optstring permute (cluster optstring (c :: cs)).2 ws).2) := by
  have hlist : (String.ofList ('-' :: c :: cs)).toList = '-' :: c :: cs := String.toList_ofList
  have hend : String.ofList ('-' :: c :: cs) ≠ "--" := by
    intro heq
    rw [heq] at hlist
    exact hc (List.cons.inj (List.cons.inj hlist).2).1.symm
  have hone : String.ofList ('-' :: c :: cs) ≠ "-" := by
    intro heq
    rw [heq] at hlist
    exact List.cons_ne_nil c cs (List.cons.inj hlist).2.symm
  rw [scan]
  dsimp only
  rw [if_neg hend, if_pos ⟨by rw [hlist]; rfl, hone⟩, hlist, List.tail_cons]

/-- A group is read as its items. -/
theorem scan_group (hdash : '-' ∉ optstring) (h : g.Proper optstring) (permute : Bool)
    (ws : List String) :
    scan optstring permute none (g.words ++ ws) =
      (g.items ++ (scan optstring permute none ws).1, (scan optstring permute none ws).2) := by
  obtain ⟨c, cs, hletters, hc⟩ := h.letters hdash
  have hflags := cluster_flags h.flags
  unfold Group.words
  rw [List.cons_append, hletters, scan_letters permute hc, ← hletters]
  unfold Group.letters Group.items
  cases hlast : g.last with
  | none =>
    rw [hflags, cluster]
    rfl
  | attached c' optarg =>
    obtain ⟨htakes, hne⟩ := h.attached c' optarg hlast
    rw [hflags, cluster, htakes]
    dsimp only
    rw [if_neg hne]
    rfl
  | separate c' optarg =>
    rw [hflags, cluster, h.separate c' optarg hlast]
    dsimp only
    rw [if_pos rfl, List.cons_append, List.nil_append, scan, List.append_nil, List.append_assoc]
    rfl

/-- **Groups are read as their items**, however these are grouped, and whatever comes behind. -/
theorem scan_groups (hdash : '-' ∉ optstring) {gs : List Group}
    (h : ∀ g ∈ gs, g.Proper optstring) (permute : Bool) (ws : List String) :
    scan optstring permute none (gs.flatMap Group.words ++ ws) =
      (gs.flatMap Group.items ++ (scan optstring permute none ws).1,
        (scan optstring permute none ws).2) := by
  induction gs with
  | nil => rfl
  | cons g gs ih =>
    obtain ⟨hg, hgs⟩ := List.forall_mem_cons.mp h
    rw [List.flatMap_cons, List.append_assoc, scan_group hdash hg, ih hgs, List.flatMap_cons,
      List.append_assoc]

end

end Getopt
