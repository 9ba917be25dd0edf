import Arping.MacNotation
import Arping.RoundTripTime
import Arping.Session
import Arping.Statistics

/-!
# What a run prints

The text of every output, and how the transcript of a run relates to the replies it counts: what is
printed for replies is what the journal of the run prints for them, in order and numbered from 0
(`reachable_transcript`). The display of `-r` is meant for scripts, and `get_mac_addr` reads it back
line by line (`reachable_rawText`).
-/

namespace Arping

/-! ## Texts -/

/-- `libnet_addr2name4` without names, and the `%.3f` of `printf`. -/
structure Printer where
  addr : UInt32 → List Char
  decimals : ℚ → List Char

/-- `%d` of an `unsigned int`. -/
def asIntText (x : UInt32) : List Char := (toString (asInt x)).toList

/-- What `ts2str` writes. -/
def RenderedTime.text (io : Printer) (t : RenderedTime) : List Char :=
  io.decimals t.number ++
    match t.unit with
    | .nsec => " nsec".toList
    | .usec => " usec".toList
    | .msec => " msec".toList
    | .sec => " sec".toList
    | .expSec exp => 'e' :: (toString exp).toList ++ " sec".toList

/-- `format_mac` with a buffer of 128 bytes. -/
def macText (mac : Mac) : List Char := (formatMac mac 128).toList

/-- The text of an output. -/
def Output.text (io : Printer) : Output → List Char
  | bell => [Char.ofNat 7]
  | dot => ['.']
  | bang => ['!']
  | timeout => "Timeout\n".toList
  | newline => ['\n']
  | ipReply len m a index total sent arrival =>
    asIntText len ++ " bytes from ".toList ++ macText m ++ " (".toList ++ io.addr a ++
      "): index=".toList ++ asIntText index ++
      (match total with
        | some n => '/' :: (toString n.toNat).toList
        | none => []) ++
      " time=".toList ++ (ts2str sent arrival).text io
  | macReply len a m seq sent arrival =>
    asIntText len ++ " bytes from ".toList ++ io.addr a ++ " (".toList ++ macText m ++
      "): icmp_seq=".toList ++ (toString seq.toNat).toList ++
      " time=".toList ++ (ts2str sent arrival).text io
  | mac m => macText m
  | ip a => io.addr a
  | macIp m a => macText m ++ ' ' :: io.addr a

@[simp] theorem Output.text_mac (io : Printer) (m : Mac) : (Output.mac m).text io = macText m := rfl

@[simp] theorem Output.text_newline (io : Printer) : Output.newline.text io = ['\n'] := rfl

/-- What the loop has written to standard output, the messages of `-v` apart. -/
def State.text (io : Printer) (g : State) : List Char := g.outputs.flatMap (Output.text io)

/-! ## Replies -/

instance : DecidablePred Output.ForReply := fun o => by
  cases o <;> unfold Output.ForReply <;> infer_instance

/-- What is printed for a sequence of replies. -/
def printedReplies (cfg : Config) (replies : List Reply) : List Output :=
  replies.zipIdx.flatMap fun x => replyOutputs cfg (x.1.line cfg x.2)

theorem printedReplies_append_singleton (cfg : Config) (replies : List Reply) (r : Reply) :
    printedReplies cfg (replies ++ [r]) =
      printedReplies cfg replies ++ replyOutputs cfg (r.line cfg replies.length) := by
  rw [printedReplies, List.zipIdx_append, List.flatMap_append, List.zipIdx_singleton, Nat.zero_add,
    List.flatMap_singleton]
  rfl

theorem replyOutputs_filter (cfg : Config) (index : ℕ) (r : Reply) :
    (replyOutputs cfg (r.line cfg index)).filter (fun o => o.ForReply) =
      replyOutputs cfg (r.line cfg index) :=
  List.filter_eq_self.mpr fun o ho =>
    decide_eq_true (replyOutputs_forReply cfg (r.line_forReply cfg index) o ho)

/-- Without `-e` an unanswered wait prints nothing that a reply prints. -/
theorem silenceOutputs_filter {cfg : Config} (hbeep : cfg.reverseBeep = false) :
    (silenceOutputs cfg).filter (fun o => o.ForReply) = [] := by
  unfold silenceOutputs
  rw [hbeep]
  cases cfg.display <;> rfl

/-- A filter that keeps the lines of the replies and drops the reports of silence. -/
theorem Session.printed_filter {cfg : Config} {q : Output → Bool}
    (hsilence : (silenceOutputs cfg).filter q = [])
    (hreply : ∀ index r, (replyOutputs cfg (Reply.line cfg index r)).filter q =
      replyOutputs cfg (r.line cfg index)) (js : List JournalEntry) :
    (run cfg js).printed.filter q = printedReplies cfg (run cfg js).replies := by
  induction js using List.reverseRecOn with
  | nil => rfl
  | append_singleton js j ih =>
    rw [run_append_singleton]
    cases j with
    | request stamp => exact ih
    | arrival p time =>
      rw [step]
      split
      · rw [printedReplies_append_singleton, List.filter_append, ih, hreply]
      · exact ih
    | silence => rw [step, List.filter_append, ih, hsilence, List.append_nil]

/-- **The transcript.** Without `-e`, every reachable situation is explained by a journal that also
says what is printed for replies: the outputs of one counted reply after the other. Those of the
reply number `i` have, in IP mode, the index `i` and, with `-u`, the number of requests in the
journal before it less one, and the times between which its sample is taken. -/
theorem reachable_transcript {cfg : Config} (hbeep : cfg.reverseBeep = false) {s : Point × State}
    (h : Reachable cfg s) :
    ∃ js, Explains cfg js s ∧
      s.2.outputs.filter (fun o => o.ForReply) =
        printedReplies cfg (Session.run cfg js).replies := by
  obtain ⟨js, hjs⟩ := reachable_explained h
  refine ⟨js, hjs, ?_⟩
  rw [hjs.outputs]
  exact Session.printed_filter (silenceOutputs_filter hbeep) (replyOutputs_filter cfg) js

theorem reachable_transcript_run :
    ∃ pt js, Explains ipConfig js
        (pt, (pingLoop ipConfig (runOf [[arpReplyFrame 7], []]) State.init).state.2) ∧
      (pingLoop ipConfig (runOf [[arpReplyFrame 7], []]) State.init).state.2.outputs.filter
          (fun o => o.ForReply) =
        printedReplies ipConfig (Session.run ipConfig js).replies := by
  obtain ⟨pt, hreach⟩ := pingLoop_reachable ipConfig (runOf [[arpReplyFrame 7], []])
  exact ⟨pt, reachable_transcript rfl hreach⟩

/-! ## The display of `-r` -/

/-- `-r` on an IP ping, no bell, and `-v` at most once: the loop prints no messages. -/
structure Config.Raw (cfg : Config) : Prop where
  mode : cfg.mode = .pingip
  display : cfg.display = .raw
  beep : cfg.beep = false
  reverseBeep : cfg.reverseBeep = false
  verbose : cfg.verbose ≤ 1

theorem Config.Raw.printed {cfg : Config} (h : cfg.Raw) (js : List JournalEntry) :
    (Session.run cfg js).printed = printedReplies cfg (Session.run cfg js).replies := by
  have hsilence : silenceOutputs cfg = [] := by
    unfold silenceOutputs
    rw [h.reverseBeep, h.display]
    rfl
  have hall := Session.printed_filter (q := fun _ => true)
    (show (silenceOutputs cfg).filter _ = [] by rw [hsilence, List.filter_nil])
    (fun _ _ => List.filter_true _) js
  rwa [List.filter_true] at hall

theorem Config.Raw.replyOutputs {cfg : Config} (h : cfg.Raw) (index : ℕ) (r : Reply) :
    replyOutputs cfg (r.line cfg index) = [.mac r.packet.srcmac, .newline] := by
  have hline : r.line cfg index = [.mac r.packet.srcmac] := by
    simp only [Reply.line, h.mode, h.display]
  simp [Arping.replyOutputs, hline, h.beep, h.display]

/-- A line for each reply: the source address. -/
theorem Config.Raw.text {cfg : Config} (h : cfg.Raw) (io : Printer) (replies : List Reply) :
    (printedReplies cfg replies).flatMap (Output.text io) =
      (replies.map fun r => macText r.packet.srcmac).flatMap (· ++ ['\n']) := by
  induction replies using List.reverseRecOn with
  | nil => rfl
  | append_singleton replies r ih =>
    rw [printedReplies_append_singleton, List.flatMap_append, ih, h.replyOutputs, List.map_append,
      List.flatMap_append, List.map_singleton, List.flatMap_cons, List.flatMap_singleton,
      List.flatMap_singleton, Output.text_mac, Output.text_newline]

theorem newline_notMem_macText (mac : Mac) : '\n' ∉ macText mac := by
  obtain ⟨fields, htext, hspells⟩ := joinedNotation_formatMac mac (show 17 < 128 by decide)
  rw [macText, htext]
  exact not_mem_intercalate (by decide) (by decide)
    fun ds hds => (forall_of_spells hspells ds hds).2

/-- Lines are read back by splitting. -/
theorem splitOn_lines {lines : List (List Char)} (h : ∀ l ∈ lines, '\n' ∉ l) :
    (lines.flatMap (· ++ ['\n'])).splitOn '\n' = lines ++ [[]] := by
  induction lines with
  | nil => rfl
  | cons l lines ih =>
    rw [List.flatMap_cons, List.append_assoc, List.singleton_append,
      List.splitOn_append_cons_self_of_not_mem (h l List.mem_cons_self),
      ih fun l' hl' => h l' (List.mem_cons_of_mem l hl')]
    rfl

/-- A line of text, read by `get_mac_addr`. -/
def readMac (line : List Char) : Option Mac := getMacAddr (String.ofList line)

theorem readMac_macText (mac : Mac) : readMac (macText mac) = some mac := by
  rw [readMac, macText, String.ofList_toList]
  exact getMacAddr_of_joinedNotation (Or.inl rfl) (joinedNotation_formatMac mac (by decide))

theorem map_readMac (macs : List Mac) : (macs.map macText).map readMac = macs.map some := by
  induction macs with
  | nil => rfl
  | cons mac macs ih => rw [List.map_cons, List.map_cons, readMac_macText, ih, List.map_cons]

/-- **The display of `-r` is read back.** With `-r`, no bell and no messages, in every reachable
situation, what is written is one line for each counted reply and nothing else: its source address,
as `get_mac_addr` reads the line. -/
theorem reachable_rawText {cfg : Config} (hraw : cfg.Raw) (io : Printer) {s : Point × State}
    (h : Reachable cfg s) :
    (s.2.text io).splitOn '\n' = s.2.macs.map macText ++ [[]] ∧
      (s.2.macs.map macText).map readMac = s.2.macs.map some := by
  obtain ⟨js, hjs⟩ := reachable_explained h
  have hmacs : (Session.run cfg js).replies.map (fun r => r.packet.srcmac) = s.2.macs := by
    rw [State.macs, hjs.counted, List.map_map]
    rfl
  have htext : s.2.text io = (s.2.macs.map macText).flatMap (· ++ ['\n']) := by
    rw [State.text, hjs.outputs, hraw.printed, hraw.text, ← hmacs, List.map_map]
    rfl
  have hlines : ∀ l ∈ s.2.macs.map macText, '\n' ∉ l := by
    intro l hl
    obtain ⟨mac, -, rfl⟩ := List.mem_map.mp hl
    exact newline_notMem_macText mac
  exact ⟨by rw [htext, splitOn_lines hlines], map_readMac s.2.macs⟩

theorem reachable_rawText_run :
    let cfg := { ipConfig with display := .raw }
    let g := (pingLoop cfg (runOf [[arpReplyFrame 7, arpRequestFrame 9]]) State.init).state.2
    (g.text ⟨fun _ => [], fun _ => []⟩).splitOn '\n' = g.macs.map macText ++ [[]] ∧
      g.macs = [#v[2, 0, 0, 0, 0, 7]] := by
  intro cfg g
  obtain ⟨pt, hreach⟩ :=
    pingLoop_reachable cfg (runOf [[arpReplyFrame 7, arpRequestFrame 9]])
  exact ⟨(reachable_rawText ⟨rfl, rfl, rfl, rfl, by decide⟩ _ hreach).1, by decide +kernel⟩

end Arping
