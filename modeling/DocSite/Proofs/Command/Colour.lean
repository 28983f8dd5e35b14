import Mathlib.Tactic.Common
import DocSite.Proofs.Command.Arguments
import DocSite.Proofs.Command.Effects
import DocSite.Proofs.Command.Search
import DocSite.Proofs.Files.Faults
import DocSite.Proofs.Json.Layout
import DocSite.Proofs.Text.Rendition
import DocSite.Proofs.Toml.Layout

/-!
# The choice of colours

A command line may ask for output without colours. The program reads the
choice and goes on as if it had not: two runs that differ in nothing else
are one and the same (`ran_colour`). What that means for the one who has
asked is said exactly. Nothing that is written out ever has an escape in
it, but everything that is said has colours in it, unless nothing is said
at all or the run ends in one of the failures that have none: all but the
report on a configuration, and the complaint about a text that brings a
rendition with it.

That a run shows colours as soon as it shows anything is an invariant of
its transcript, `Coloured`; plain lines only ever come behind a log line.
-/

namespace DocSite.Command

open Files (Workspace Fault Tree)
open Session (Meets on)
open Text (EscapeFree Styled escape withoutRenditions)

/-! ## Exports -/

/-- **No export has an escape in it**, whatever the configuration has. -/
theorem escapeFree_render (config : SiteConfig) (format : Export) :
    EscapeFree (Export.render config format) := by
  have hjson : ∀ doc level, EscapeFree (String.ofList (Json.write level doc)) := fun doc level =>
    Text.escapeFree_ofList (Json.all_isLaid_write doc level) (by decide)
  cases format with
  | json => exact hjson _ 0
  | toml => exact Text.escapeFree_ofList (Toml.ruled_write _).laid (by decide)
  | mjs =>
    have hsetting : ∀ name text, EscapeFree name → EscapeFree (Export.settingLine name text) := by
      intro name text hname
      cases text with
      | none =>
        show EscapeFree ""
        decide
      | some text =>
        have htext : EscapeFree (String.ofList (Json.encode text.toList)) :=
          Text.escapeFree_ofList (Json.all_isLaid_encode _) (by decide)
        have hblank : EscapeFree "  " := by decide
        exact (((hblank.append hname).append (by decide)).append htext).append (by decide)
    have hoptions : EscapeFree (String.ofList (Export.indented (Json.pretty config.options))) := by
      unfold Json.pretty
      rw [Json.indented_write]
      exact hjson _ _
    have hstart : EscapeFree Export.moduleStart := by decide +kernel
    exact ((((hstart.append (hsetting "site" _ (by decide))).append
      (hsetting "base" _ (by decide))).append (by decide)).append hoptions).append (by decide)

theorem escapeFree_withLineEnd {text : String} (h : EscapeFree text) :
    EscapeFree (withLineEnd text) := by
  unfold withLineEnd
  split_ifs
  · exact h
  · exact h.append (by decide)

theorem escapeFree_starterText : EscapeFree starterText := by
  have hcomment : EscapeFree ("# platforma docs configuration (" ++ programName ++ " v"
      ++ programVersion ++ ")\n\n") := by decide
  exact hcomment.append (escapeFree_render starter .toml)

/-! ## Failures -/

/-- **A failure that is told in colours**: a report on a configuration, or a
complaint about a text that has a rendition in it already. -/
def Failure.HasColours (wording : Wording) : Failure → Prop
  | rejected _ => True
  | unfit text why => Styled (wording.complaint text why).toList
  | _ => False

theorem escapeFree_text {fault : Fault} (h : fault.Usual) : EscapeFree fault.text := by
  cases fault with
  | other text => exact absurd rfl (h text)
  | _ => decide

/-- A text that is moved to the right keeps its renditions and gets no
others. -/
theorem styled_shifted_iff (text : String) :
    Styled (shifted text).toList ↔ Styled text.toList := by
  have hblanks : escape ∉ "    ".toList := by decide
  unfold shifted
  rw [String.toList_ofList, Text.styled_join_iff, Text.styled_iff_lines text.toList]
  simp only [List.mem_map, exists_exists_and_eq_and, Text.styled_append_iff hblanks]

section

variable {wording : Wording} {failure : Failure}

/-- A complaint has the renditions of its message, whatever is shown around
it. -/
theorem Wording.styled_complaint {mismatch : Mismatch} (h : Styled mismatch.message.toList)
    (text : String) : Styled (wording.complaint text (.data mismatch)).toList := by
  unfold Wording.complaint
  rw [String.toList_append, String.toList_append, String.toList_append]
  exact ((h.append_left _).append_right _).append_right _

/-- **A failure whose message has no escapes is as styled as its cause.** -/
theorem Failure.styled_shown_iff_cause (hmessage : EscapeFree failure.message) :
    Styled (failure.shown wording).toList
      ↔ ∃ cause, failure.cause? = some cause ∧ Styled (cause.shown wording).toList := by
  have herror : EscapeFree ("Error: " ++ failure.message) := EscapeFree.append (by decide) hmessage
  have hend : ∀ text : List Char, Styled (text ++ ['\n']) ↔ Styled text := fun text =>
    (Text.styled_lineEnd_iff text []).trans (or_iff_left Text.not_styled_nil)
  unfold Failure.shown
  rw [String.append_assoc, herror.styled_append_iff, String.toList_append,
    show "\n".toList = ['\n'] from rfl, hend]
  cases failure.cause? with
  | none => exact iff_of_false Text.not_styled_nil fun ⟨_, h, _⟩ => absurd h (by simp)
  | some cause =>
    have hcaused : EscapeFree "\n\nCaused by:\n" := by decide
    dsimp only
    rw [hcaused.styled_append_iff, styled_shifted_iff]
    exact ⟨fun h => ⟨cause, rfl, h⟩, fun ⟨_, hcause, h⟩ => Option.some.inj hcause ▸ h⟩

/-- **A report is told in colours.** -/
theorem Failure.styled_shown_rejected (report : Report) :
    Styled ((rejected report).shown wording).toList := by
  have hreport : Styled report.shown.toList := by
    unfold Report.shown
    rw [String.toList_append, String.toList_append, String.toList_append]
    exact (((Text.styled_bold _).append_right _).append_right _).append_right _
  unfold Failure.shown
  rw [String.toList_append, String.toList_append, String.toList_append]
  exact ((hreport.append_left _).append_right _).append_right _

/-- **A failure that brings no escapes in**: neither the path that it names
has any nor what its fault says. -/
def Failure.Plain : Failure → Prop
  | noConfig path => EscapeFree path
  | noContent path => EscapeFree path
  | present path => EscapeFree path
  | unreadable path fault => EscapeFree path ∧ fault.Usual
  | unwritable path fault => EscapeFree path ∧ fault.Usual
  | unwritableConfig path fault => EscapeFree path ∧ fault.Usual
  | unfit _ _ => True
  | rejected _ => True

namespace Failure.Plain

/-- Its wording has no escapes, unless it is a report. -/
theorem message (h : failure.Plain) (hreport : ∀ report, failure ≠ .rejected report) :
    EscapeFree failure.message := by
  have hnamed : ∀ {before path after : String}, EscapeFree path → EscapeFree before →
      EscapeFree after → EscapeFree (before ++ path ++ after) :=
    fun hpath hbefore hafter => (hbefore.append hpath).append hafter
  cases failure with
  | noConfig path => exact hnamed h (by decide) (by decide +kernel)
  | noContent path => exact hnamed h (by decide +kernel) (by decide)
  | present path => exact hnamed h (by decide) (by decide +kernel)
  | unreadable path fault => exact hnamed h.1 (by decide) (by decide)
  | unwritable path fault => exact hnamed h.1 (by decide) (by decide)
  | unwritableConfig path fault => exact hnamed h.1 (by decide) (by decide)
  | unfit text why =>
    show EscapeFree "Config file parsing error"
    decide
  | rejected report => exact absurd rfl (hreport report)

/-- **It is told in colours if it has them**, and never otherwise. -/
theorem styled_shown_iff (h : failure.Plain) :
    Styled (failure.shown wording).toList ↔ failure.HasColours wording := by
  -- a fault of the disk has no colours, and a failure without a cause has none either
  have hdisk : ∀ {fault : Fault}, fault.Usual → failure.cause? = some (.disk fault) →
      ¬∃ cause, failure.cause? = some cause ∧ Styled (cause.shown wording).toList := by
    rintro fault husual hdisk ⟨cause, hcause, hstyled⟩
    rw [hdisk] at hcause
    rw [← Option.some.inj hcause] at hstyled
    exact (escapeFree_text husual).not_styled hstyled
  have hnone : failure.cause? = none →
      ¬∃ cause, failure.cause? = some cause ∧ Styled (cause.shown wording).toList := by
    rintro hnone ⟨cause, hcause, -⟩
    exact absurd (hnone.symm.trans hcause) (by simp)
  cases failure with
  | rejected report => exact iff_of_true (styled_shown_rejected report) trivial
  | unfit text why =>
    rw [styled_shown_iff_cause (h.message nofun)]
    refine ⟨?_, fun hstyled => ⟨.text text why, rfl, hstyled⟩⟩
    rintro ⟨cause, hcause, hstyled⟩
    rw [← Option.some.inj hcause] at hstyled
    exact hstyled
  | noConfig _ | noContent _ | present _ =>
    rw [styled_shown_iff_cause (h.message nofun)]
    exact iff_of_false (hnone rfl) id
  | unreadable _ _ | unwritable _ _ | unwritableConfig _ _ =>
    rw [styled_shown_iff_cause (h.message nofun)]
    exact iff_of_false (hdisk h.2 rfl) id

end Failure.Plain

end

/-! ## Transcripts -/

section

variable {verbose : Bool} {here : List String} {t : Transcript} {w : Workspace}

/-- Nothing, or something with colours. -/
def NoneOrStyled (text : String) : Prop := text = "" ∨ Styled text.toList

theorem NoneOrStyled.append {first second : String} (h : NoneOrStyled first)
    (h' : NoneOrStyled second) : NoneOrStyled (first ++ second) := by
  rcases h with rfl | h
  · rwa [String.empty_append]
  · refine Or.inr ?_
    rw [String.toList_append]
    exact h.append_right _

/-- **Colours as soon as anything is said**, and no escape in what is written
out. -/
structure Coloured (verbose : Bool) (here : List String) (t : Transcript) (w : Workspace) :
    Prop where
  /-- One still works in the same directory. -/
  here : w.here = here
  /-- What has been written out. -/
  out : EscapeFree t.out
  /-- What has been said. -/
  shown : NoneOrStyled (t.shown verbose)

/-- The warnings about unknown keys have colours, for a log line comes
first. -/
theorem noneOrStyled_ignoredMessages (verbose : Bool) (path : String) (ignored : List String) :
    NoneOrStyled (String.join ((ignoredMessages path ignored).map (Message.shown verbose))) := by
  unfold ignoredMessages
  split_ifs
  · exact Or.inl rfl
  · refine Or.inr ?_
    rw [List.map_cons, String.join_cons, String.toList_append]
    exact (Text.styled_logLine _ _).append_right _

/-- The warnings of a report have colours, if there are any. -/
theorem noneOrStyled_warningText (report : Report) : NoneOrStyled report.warningText := by
  unfold Report.warningText
  split_ifs
  · exact Or.inl rfl
  · refine Or.inr ?_
    rw [String.toList_append]
    exact (Text.styled_logLine _ _).append_right _

namespace Coloured

theorem messages (h : Coloured verbose here t w) {messages : List Message}
    (hmessages : NoneOrStyled (String.join (messages.map (Message.shown verbose)))) :
    Coloured verbose here { t with messages := t.messages ++ messages } w where
  here := h.here
  out := h.out
  shown := by
    rw [shown_messages]
    exact h.shown.append hmessages

/-- A message that has colours keeps the colours. -/
theorem message (h : Coloured verbose here t w) {message : Message}
    (hmessage : NoneOrStyled (message.shown verbose)) :
    Coloured verbose here { t with messages := t.messages ++ [message] } w := by
  refine h.messages ?_
  rw [List.map_singleton, String.join_cons, String.join_nil, String.append_empty]
  exact hmessage

theorem print (h : Coloured verbose here t w) {text : String} (htext : EscapeFree text) :
    Coloured verbose here { t with out := t.out ++ text } w where
  here := h.here
  out := h.out.append htext
  shown := h.shown

theorem tree (h : Coloured verbose here t w) {w' : Workspace} (hhere : w'.here = w.here) :
    Coloured verbose here t w' where
  here := hhere.trans h.here
  out := h.out
  shown := h.shown

end Coloured

/-- Colours, and something has been said. -/
def Spoken (verbose : Bool) (here : List String) (t : Transcript) (w : Workspace) : Prop :=
  Coloured verbose here t w ∧ Styled (t.shown verbose).toList

/-- **A log line is said in colours**, whatever has been said before. -/
theorem Coloured.log (h : Coloured verbose here t w) (topic text : String) :
    Spoken verbose here { t with messages := t.messages ++ [.log topic text] } w := by
  have hline : Styled ((Message.log topic text).shown verbose).toList := Text.styled_logLine _ _
  refine ⟨h.message (Or.inr hline), ?_⟩
  rw [shown_messages, List.map_singleton, String.join_cons, String.join_nil, String.append_empty,
    String.toList_append]
  exact hline.append_left _

end

/-! ## The commands -/

section

variable {verbose : Bool} {here : List String}

/-- What holds where a session has failed: colours, and a failure that
brings no escapes in. -/
def Ended (verbose : Bool) (here : List String) (failure : Failure) (t : Transcript)
    (w : Workspace) : Prop :=
  Coloured verbose here t w ∧ failure.Plain

/-- A session that keeps the colours. -/
abbrev Keeps {α : Type} (verbose : Bool) (here : List String)
    (session : Session (StateM Workspace) α) (done : α → Transcript → Workspace → Prop) : Prop :=
  Meets (Coloured verbose here) session done (Ended verbose here)

theorem sayAll_keeps {messages : List Message}
    (h : NoneOrStyled (String.join (messages.map (Message.shown verbose)))) :
    Keeps verbose here (sayAll messages) fun _ => Coloured verbose here := by
  intro t w hbefore
  rw [sayAll_on]
  exact hbefore.messages h

theorem escapeFree_absolute {names : List String} (h : ∀ name ∈ names, EscapeFree name) :
    EscapeFree (Files.absolute names) := by
  unfold Files.absolute
  split_ifs
  · decide
  · refine EscapeFree.join fun text htext => ?_
    obtain ⟨name, hname, rfl⟩ := List.mem_map.mp htext
    have hslash : EscapeFree "/" := by decide
    exact hslash.append (h name hname)

/-- Reading a path from a directory brings no escape in. -/
theorem escapeFree_join {directory path : String} (h : EscapeFree directory)
    (h' : EscapeFree path) : EscapeFree (Files.join directory path) := by
  unfold Files.join
  split_ifs
  · exact h'
  · exact h'
  · exact h.append h'
  · exact (h.append (by decide)).append h'

/-- **The path of the configuration file has no escape in it** if neither
its name nor the directory one works in has. -/
theorem escapeFree_findConfig {w : Workspace} (hhere : ∀ name ∈ w.here, EscapeFree name)
    {name path : String} (hname : EscapeFree name)
    (h : ((findConfig name : StateM Workspace _).run w).1 = some path) : EscapeFree path := by
  by_cases habsolute : Files.isAbsolute name = true
  · rw [findConfig_of_absolute habsolute, firstPresent_run] at h
    split_ifs at h
    dsimp only at h
    rw [List.mem_singleton.mp (List.mem_of_find?_eq_some h)]
    exact hname
  · rw [findConfig_of_relative (Bool.eq_false_iff.mpr habsolute), firstPresent_run] at h
    split_ifs at h
    obtain ⟨directory, hdirectory, rfl⟩ := List.mem_map.mp (List.mem_of_find?_eq_some h)
    have habove := (Files.mem_ancestors_iff w.here directory).mp hdirectory
    exact escapeFree_join (escapeFree_absolute fun part hpart => hhere part (habove.subset hpart))
      hname

theorem readConfig_keeps {path : String} (hpath : EscapeFree path) :
    Keeps verbose here (readConfig path) fun _ => Coloured verbose here := by
  refine Meets.bind (fun result t w => Coloured verbose here t w
    ∧ ∀ fault, result = .error fault → fault.Usual) ?_ fun result => ?_
  · exact Meets.ask fun t w h => ⟨h, fun fault hfault => Workspace.usual_read hfault⟩
  · cases result with
    | error fault =>
      exact Meets.fail fun t w h => ⟨h.1, hpath, h.2 fault rfl⟩
    | ok text =>
      dsimp only
      cases SiteConfig.ofToml text with
      | error why => exact Meets.fail fun t w h => ⟨h.1, trivial⟩
      | ok read =>
        obtain ⟨config, ignored⟩ := read
        refine Meets.bind _ ((sayAll_keeps (noneOrStyled_ignoredMessages verbose path ignored)).imp
          fun t w h => h.1) fun _ => ?_
        exact Meets.pure fun t w h => h

theorem checkConfig_keeps (config : SiteConfig) :
    Keeps verbose here (checkConfig config) fun _ => Coloured verbose here := by
  refine Meets.bind (fun _ => Coloured verbose here) ?_ fun _ => ?_
  · exact Meets.say fun t w h => h.message (noneOrStyled_warningText _)
  · split
    · exact Meets.pure fun t w h => h
    · exact Meets.fail fun t w h => ⟨h, trivial⟩

/-- **Loading a configuration keeps the colours.** -/
theorem load_keeps (hhere : ∀ name ∈ here, EscapeFree name) {name : String}
    (hname : EscapeFree name) :
    Keeps verbose here (load name) fun _ => Coloured verbose here := by
  refine Meets.bind (fun found t w => Coloured verbose here t w
    ∧ ∀ path, found = some path → EscapeFree path) ?_ fun found => ?_
  · refine Meets.ask fun t w h => ⟨?_, fun path hpath => ?_⟩
    · rw [findConfig_still name w]
      exact h
    · exact escapeFree_findConfig (fun part hpart => hhere part (h.here ▸ hpart)) hname hpath
  · cases found with
    | none => exact Meets.fail fun t w h => ⟨h.1, hname⟩
    | some path =>
      refine Meets.bind (fun _ t w => Coloured verbose here t w ∧ EscapeFree path)
        ?_ fun _ => ?_
      · refine Meets.say fun t w h => ⟨h.1.message ?_, h.2 path rfl⟩
        unfold Message.shown
        split_ifs
        · exact Or.inr (Text.styled_logLine _ _)
        · exact Or.inl rfl
      · intro t w h
        refine Meets.bind _ (readConfig_keeps h.2) (fun config => ?_) t w h.1
        exact (checkConfig_keeps config).bind _ fun _ => Meets.pure fun t w h => h

theorem resolve_keeps (config : SiteConfig) {root : String} (hroot : EscapeFree root) :
    Keeps verbose here (resolve config root) fun _ => Coloured verbose here := by
  refine Meets.bind (fun _ => Coloured verbose here) ?_ fun kind => ?_
  · exact Meets.ask fun t w h => h
  · split
    · refine Meets.bind (fun _ => Coloured verbose here) ?_ fun missing => ?_
      · refine Meets.ask fun t w h => ?_
        rw [unmet_still _ w]
        exact h
      · dsimp only
        split
        · exact Meets.pure fun t w h => h
        · exact Meets.fail fun t w h => ⟨h, trivial⟩
    · exact Meets.fail fun t w h => ⟨h, hroot⟩

/-- What a check of a site says at its end. -/
theorem conclusion_keeps (config : SiteConfig) :
    Keeps verbose here (do
      Session.say (.log "check" (summary config))
      match config.servedBase? with
      | some base => Session.say (.log "check" ("served under " ++ base))
      | none => pure ()) fun _ => Spoken verbose here := by
  refine Meets.bind (fun _ => Spoken verbose here) ?_ fun _ => ?_
  · exact Meets.say fun t w h => h.log _ _
  · cases config.servedBase? with
    | none => exact Meets.pure fun t w h => h
    | some base => exact Meets.say fun t w h => h.1.log _ _

/-- **A check of a site that succeeds has said something in colours.** -/
theorem checkSite_keeps (config : SiteConfig) {content : Option String}
    (hcontent : ∀ root, content = some root → EscapeFree root) :
    Keeps verbose here (checkSite config content) fun _ => Spoken verbose here := by
  cases content with
  | none => exact conclusion_keeps config
  | some root =>
    refine (resolve_keeps config (hcontent root rfl)).bind _ fun _ => ?_
    refine Meets.bind (fun _ => Coloured verbose here) ?_ fun _ => ?_
    · exact Meets.say fun t w h => (h.log _ _).1
    · exact conclusion_keeps config

/-- Writing a text to a file, and the way one goes on. -/
theorem write_keeps {path text : String}
    {next : Except Fault Unit → Session (StateM Workspace) Unit}
    (hfail : ∀ fault, fault.Usual → ∃ failure : Failure, failure.Plain
      ∧ next (.error fault) = Session.fail failure)
    (hsay : ∃ topic text, next (.ok ()) = Session.say (.log topic text)) :
    Keeps verbose here (Session.ask (Disk.write path text) >>= next)
      fun _ => Spoken verbose here := by
  refine Meets.bind (fun result t w => Coloured verbose here t w
    ∧ ∀ fault, result = .error fault → fault.Usual) ?_ fun result => ?_
  · refine Meets.ask fun t w h => ?_
    cases hwrite : w.write path text with
    | error fault =>
      rw [Disk.write_error hwrite]
      refine ⟨h, fun other hother => ?_⟩
      injection hother with hother
      exact hother ▸ Workspace.usual_write hwrite
    | ok after =>
      rw [Disk.write_ok hwrite]
      exact ⟨h.tree (Workspace.sameBut_of_write hwrite).here, nofun⟩
  · cases result with
    | error fault =>
      intro t w h
      obtain ⟨failure, hplain, hfailure⟩ := hfail fault (h.2 fault rfl)
      rw [hfailure]
      exact ⟨h.1, hplain⟩
    | ok _ =>
      obtain ⟨topic, text, hmessage⟩ := hsay
      rw [hmessage]
      exact Meets.say fun t w h => h.1.log _ _

/-- An action that writes out what it comes to. -/
def Action.printsOut : Action → Bool
  | .init dry _ => dry
  | .check _ => false
  | .emit _ output => output.isNone

/-- What holds where an action has succeeded: colours, and something has
been said unless it was written out. -/
def Performed (verbose : Bool) (here : List String) (action : Action) (t : Transcript)
    (w : Workspace) : Prop :=
  Coloured verbose here t w ∧ (action.printsOut = false → Styled (t.shown verbose).toList)

theorem emit_keeps (config : SiteConfig) (format : Export) {output : Option String}
    (houtput : ∀ path, output = some path → EscapeFree path) :
    Keeps verbose here (emit config format output)
      fun _ => Performed verbose here (.emit format output) := by
  cases output with
  | none =>
    refine Meets.print fun t w h => ⟨h.print ?_, fun hout => absurd hout.symm Bool.false_ne_true⟩
    exact escapeFree_withLineEnd (escapeFree_render config format)
  | some path =>
    refine (write_keeps (fun fault hfault => ?_) ⟨_, _, rfl⟩).mono fun _ _ _ h => ⟨h.1, fun _ => h.2⟩
    exact ⟨.unwritable path fault, ⟨houtput path rfl, hfault⟩, rfl⟩

theorem init_keeps {name : String} (hname : EscapeFree name) (dry force : Bool) :
    Keeps verbose here (init name dry force)
      fun _ => Performed verbose here (.init dry force) := by
  cases dry with
  | true =>
    refine Meets.print fun t w h => ⟨h.print ?_, fun hout => absurd hout.symm Bool.false_ne_true⟩
    exact escapeFree_starterText
  | false =>
    refine Meets.bind (fun _ => Coloured verbose here) (Meets.ask fun t w h => h)
      fun found => ?_
    split
    · exact Meets.fail fun t w h => ⟨h, hname⟩
    · refine (write_keeps (fun fault hfault => ?_) ⟨_, _, rfl⟩).mono
        fun _ _ _ h => ⟨h.1, fun _ => h.2⟩
      exact ⟨.unwritableConfig _ fault, ⟨hname, hfault⟩, rfl⟩

/-- **What a command line asks for keeps the colours.** -/
theorem perform_keeps (hhere : ∀ name ∈ here, EscapeFree name) {arguments : Arguments}
    (hpaths : ∀ path ∈ arguments.paths, EscapeFree path) :
    Keeps verbose here (perform arguments)
      fun _ => Performed verbose here arguments.action := by
  obtain ⟨colour, config, verbose', action⟩ := arguments
  have hconfig : EscapeFree config := hpaths config List.mem_cons_self
  have haction : ∀ path ∈ action.paths, EscapeFree path := fun path hpath =>
    hpaths path (List.mem_cons_of_mem _ hpath)
  cases action with
  | init dry force => exact init_keeps hconfig dry force
  | check content =>
    refine (load_keeps hhere hconfig).bind _ fun found => ?_
    refine (checkSite_keeps found fun root hroot => ?_).mono fun _ _ _ h => ⟨h.1, fun _ => h.2⟩
    exact haction root (Option.mem_toList.mpr hroot)
  | emit format output =>
    refine (load_keeps hhere hconfig).bind _ fun found => ?_
    exact emit_keeps found format fun path hpath => haction path (Option.mem_toList.mpr hpath)

end

/-! ## Runs -/

/-- How what a command line asks for ends on a tree, and what has been said
then. -/
def Arguments.ending (arguments : Arguments) (w : Workspace) : Except Failure Unit × Transcript :=
  (on (perform arguments) {} w).1

/-- **The choice of colours has no effect.** Of two command lines that say
the same, but one that colours are never wanted and the other that they
always are, both runs end with the same exit code, write the same, say the
same, and leave the same tree behind. No escape is in what they write out.
What they say has a rendition in it, and so is not what is left of it
without renditions, exactly if anything is said before the end, the run
ends in a report, or it ends in a complaint about a text that has a
rendition in it, as it has if the data that does not fit brings one along.
Something is said by every run that succeeds and does not write out what it
comes to. -/
theorem ran_colour (wording : Wording) {words others : List String} {arguments : Arguments}
    (hnever : Arguments.ofWords words = .ok { arguments with colour := .never })
    (halways : Arguments.ofWords others = .ok { arguments with colour := .always })
    {w : Workspace} (hwords : ∀ word ∈ words, EscapeFree word)
    (hhere : ∀ name ∈ w.here, EscapeFree name) :
    ran wording words w = ran wording others w
      ∧ EscapeFree (ran wording words w).1.out
      ∧ (Styled (ran wording words w).1.err.toList
          ↔ (arguments.ending w).2.shown arguments.verbose ≠ ""
            ∨ ∃ failure, (arguments.ending w).1 = .error failure ∧ failure.HasColours wording)
      ∧ (∀ text mismatch, (arguments.ending w).1 = .error (.unfit text (.data mismatch)) →
          Styled mismatch.message.toList → Styled (ran wording words w).1.err.toList)
      ∧ ((ran wording words w).1.err.toList
            = withoutRenditions (ran wording others w).1.err.toList
          ↔ ¬Styled (ran wording words w).1.err.toList)
      ∧ ((ran wording words w).1.exit = 0 → arguments.action.printsOut = false →
          Styled (ran wording words w).1.err.toList) := by
  have hsame : ran wording words w = ran wording others w := by
    rw [ran_of_arguments hnever, ran_of_arguments halways]
    rfl
  have hname : EscapeFree configFileName := by decide
  have hpaths := made_of_ofWords hwords hname hnever
  change ∀ path ∈ arguments.paths, EscapeFree path at hpaths
  have hkeeps : Keeps arguments.verbose w.here (perform arguments)
    fun _ => Performed arguments.verbose w.here arguments.action := perform_keeps hhere hpaths
  have hkept := hkeeps {} w ⟨rfl, by decide, Or.inl rfl⟩
  have hran : (ran wording words w).1
      = .ofSession wording arguments.verbose (arguments.ending w) := by
    rw [ran_of_arguments hnever]
    rfl
  refine ⟨hsame, ?_⟩
  rw [← hsame, hran, eq_comm (b := withoutRenditions _), Text.withoutRenditions_eq_self_iff]
  unfold Arguments.ending
  rcases hend : on (perform arguments) {} w with ⟨⟨result, t'⟩, w'⟩
  rw [hend] at hkept
  -- nothing said has no colours, and anything else has
  have hshown : Coloured arguments.verbose w.here t' w' →
      (Styled (t'.shown arguments.verbose).toList ↔ t'.shown arguments.verbose ≠ "") := by
    intro h
    constructor
    · intro hstyled hempty
      rw [hempty] at hstyled
      exact Text.not_styled_nil hstyled
    · exact fun hne => h.shown.resolve_left hne
  cases result with
  | ok _ =>
    obtain ⟨hcoloured, hspoken⟩ := hkept
    refine ⟨hcoloured.out, ?_, nofun, Iff.rfl, fun _ => hspoken⟩
    rw [show Outcome.err _ = t'.shown arguments.verbose from rfl, hshown hcoloured]
    exact ⟨Or.inl, fun h => h.resolve_right fun ⟨_, h, _⟩ => absurd h (by simp)⟩
  | error failure =>
    obtain ⟨hcoloured, hplain⟩ := hkept
    have htold : Styled (t'.shown arguments.verbose ++ failure.shown wording).toList
        ↔ t'.shown arguments.verbose ≠ "" ∨ failure.HasColours wording := by
      rw [String.toList_append]
      constructor
      · intro hstyled
        by_cases hempty : t'.shown arguments.verbose = ""
        · rw [hempty] at hstyled
          exact Or.inr (hplain.styled_shown_iff.mp hstyled)
        · exact Or.inl hempty
      · rintro (hne | hcolours)
        · exact ((hshown hcoloured).mpr hne).append_right _
        · exact Styled.append_left (hplain.styled_shown_iff.mpr hcolours) _
    refine ⟨hcoloured.out, htold.trans (or_congr_right ?_), fun text mismatch hend hstyled => ?_,
      Iff.rfl, fun hexit => absurd hexit Nat.one_ne_zero⟩
    · simp
    · injection hend with hend
      exact htold.mpr (Or.inr (hend ▸ Wording.styled_complaint hstyled text))

/-- A directory with a configuration file. -/
def plainWorkspace : Workspace where
  tree := ⟨[(["site"], .directory), (["site", "docs.toml"], .file "title = \"t\"\n".toUTF8)]⟩
  here := ["site"]

theorem ran_colour_plainWorkspace :
    ran .plain ["--color", "never", "check"] plainWorkspace
        = ran .plain ["--color", "always", "check"] plainWorkspace
      ∧ Styled (ran .plain ["--color", "never", "check"] plainWorkspace).1.err.toList := by
  obtain ⟨hsame, -, -, -, -, hstyled⟩ := @ran_colour .plain ["--color", "never", "check"]
    ["--color", "always", "check"] ⟨.never, "docs.toml", false, .check none⟩ (by decide +kernel)
    (by decide +kernel) plainWorkspace (by decide) (by decide)
  exact ⟨hsame, hstyled (by decide +kernel) rfl⟩

/-- **Asking for no colours brings colours.** A check of a configuration
without defects says that it is in order with a rendition, and so does not
say what is left of it without. -/
theorem ran_never_styled :
    Arguments.ofWords ["--color", "never", "check"]
        = .ok ⟨.never, "docs.toml", false, .check none⟩
      ∧ (ran .plain ["--color", "never", "check"] plainWorkspace).1.exit = 0
      ∧ Styled (ran .plain ["--color", "never", "check"] plainWorkspace).1.err.toList
      ∧ (ran .plain ["--color", "never", "check"] plainWorkspace).1.err.toList
        ≠ withoutRenditions
            (ran .plain ["--color", "always", "check"] plainWorkspace).1.err.toList := by
  have hshown : (ran .plain ["--color", "never", "check"] plainWorkspace).1.err
      = Text.logLine "check"
        "`t` ok: 0 social link(s), 0 page(s) (0 package(s)), 0 link(s), 0 group(s)" := by
    decide +kernel
  have hsame : (ran .plain ["--color", "always", "check"] plainWorkspace).1.err
      = (ran .plain ["--color", "never", "check"] plainWorkspace).1.err := by
    decide +kernel
  have hstyled := Text.styled_logLine "check"
    "`t` ok: 0 social link(s), 0 page(s) (0 package(s)), 0 link(s), 0 group(s)"
  refine ⟨by decide +kernel, by decide +kernel, hshown ▸ hstyled, fun h => ?_⟩
  rw [hsame, hshown] at h
  exact (Text.withoutRenditions_eq_self_iff _).mp h.symm hstyled

end DocSite.Command
