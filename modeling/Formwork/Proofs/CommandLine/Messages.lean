import Formwork.Proofs.CommandLine.Ending
import Formwork.Proofs.CommandLine.Origin

/-!
# Texts in messages do not become markup

The main statement, `run_messages`, says which messages a run passes to the console and how a console
reads each of them.  All are escaped but one kind: the hint for a missing value has the name as it
stands.  A missing name is mentioned by a template, and then it is an identifier and needs no escape, or
it is the source of a rule that was described on the command line, and then it may be any text
(`Trouble.Traced`).  So a source that looks like a tag is obeyed as one (`run_hint_of_tag`).

A console may refuse a message, and it does so with a tag that ends what was never begun.  Nothing
catches this while a trouble is reported; then the run ends there, and the hints behind are not passed
(`Reports`).
-/

namespace Formwork.CommandLine

variable {host : Host} {env : Config.Environment} {d e : Disk} {r : RenderRequest}
  {t : Trouble} {described : List Text} {before : List Console.Entry} {left : Run} {command : Command}

/-! ## What is told -/

/-- How a trouble is reported, and how the run ends then: the whole report is passed, or it is cut off
behind a message that the console refuses. -/
inductive Reports (host : Host) (t : Trouble) : Outcome → List Console.Message → Prop
  | whole : Reports host t (.exit (Run.codeOf t)) (Run.troubleMessages t)
  | cut {told behind : List Console.Message} {m : Console.Message} {error : Foreign}
    (messages : Run.troubleMessages t = told ++ m :: behind)
    (refused : host.refuses (.message m) = some error) :
    Reports host t (.crash (.console error)) (told ++ [m])

lemma Reports.subset {outcome : Outcome} {report : List Console.Message}
    (h : Reports host t outcome report) : report ⊆ Run.troubleMessages t := by
  cases h with
  | whole => exact fun _ => id
  | @cut told behind m error messages refused =>
    rw [messages, List.append_cons told m behind]
    exact List.subset_append_left _ _

/-- What a run tells its user: listings are output, and messages end with the report of a trouble if
there is one to be reported. -/
structure Run.Tells (host : Host) (described : List Text) (left : Run) : Prop where
  listings : ∀ l, .listing l ∈ left.console → l.toOutput = true
  messages : ∃ before report, left.messages = before ++ report ∧
    (∀ m ∈ before, IsAnnouncement m) ∧
    (report = [] ∨ ∃ t : Trouble, t.Traced described ∧ Reports host t left.outcome report)

/-- A hint is for an identifier or for a source. -/
lemma Run.Tells.origin_of_hint (h : left.Tells host described) {name : Text}
    (hm : .hint name ∈ left.messages) : isIdentifier name = true ∨ IsSource described name := by
  obtain ⟨before, report, hmessages, hbefore, hreport⟩ := h.messages
  rw [hmessages, List.mem_append] at hm
  rcases hm with hm | hm
  · obtain ⟨text, he | he⟩ := hbefore _ hm
    · cases he
    · cases he
  rcases hreport with rfl | ⟨t, ht, hreports⟩
  · cases hm
  rcases List.mem_cons.1 (hreports.subset hm) with he | hm
  · cases he
  · obtain ⟨n, hn, he⟩ := List.mem_map.1 hm
    cases he
    exact ht name hn

/-! ## Stages of a run -/

lemma tells_of_plain (h : Plain left.console) : left.Tells host described :=
  ⟨h.listings, left.messages, [], (List.append_nil _).symm, h.messages, .inl rfl⟩

lemma tells_ofTrouble (ht : t.Traced described) (hbefore : Plain before) (e : Disk) :
    (Run.ofTrouble host e before t).Tells host described := by
  have hreported := Run.reported_ofTrouble host e before t
  generalize Run.ofTrouble host e before t = left at hreported ⊢
  have hlistings : ∀ (messages : List Console.Message) (l : Console.Listing),
      .listing l ∈ before ++ messages.map .message → l.toOutput = true := fun messages l hl =>
    hbefore.listings l ((List.mem_append.1 hl).resolve_right (listing_not_mem_map messages))
  cases hreported with
  | silent => exact tells_of_plain hbefore
  | whole =>
    refine ⟨hlistings _, _, _, ?_, hbefore.messages, .inr ⟨t, ht, .whole⟩⟩
    exact (messagesOf_append ..).trans (congrArg _ (messagesOf_map _))
  | cut reported messages refused =>
    refine ⟨hlistings _, _, _, ?_, hbefore.messages, .inr ⟨t, ht, .cut messages refused⟩⟩
    exact (messagesOf_append ..).trans (congrArg _ (messagesOf_map _))

/-- The rules that a command describes and applies. -/
def Command.derivations : Command → List Text
  | .render r => r.derivations
  | _ => []

lemma exists_render_of_isSource {arguments : List Text} {name : Text}
    (h : IsSource (((Command.read arguments).map Command.derivations).getD []) name) :
    ∃ r, Command.read arguments = some (.render r) ∧ IsSource r.derivations name := by
  cases hread : Command.read arguments with
  | none =>
    rw [hread] at h
    obtain ⟨a, ha, -⟩ := h
    cases ha
  | some command =>
    rw [hread] at h
    cases command with
    | render r => exact ⟨r, rfl, h⟩
    | help | presets | inspect =>
      obtain ⟨a, ha, -⟩ := h
      cases ha

/-- What is missing in a trouble can be traced wherever the trouble arises. -/
lemma Trouble.traced_of_arises (h : t.Arises host env d command) : t.Traced command.derivations := by
  cases h with
  | prepare unmade => exact failsWith_prepare t unmade
  | places _ made unplaced =>
    obtain ⟨-, -, hfrom⟩ := from_of_prepare made
    exact failsWith_places hfrom t unplaced
  | inspect unlisted => exact failsWith_inspect t unlisted
  | write | stdout | console => exact Trouble.traced_of_missing_eq_nil rfl

lemma tells_run (host : Host) (env : Config.Environment) (d : Disk) (arguments : List Text) :
    (run host env d arguments).Tells host
      (((Command.read arguments).map Command.derivations).getD []) := by
  cases hread : Command.read arguments with
  | none =>
    unfold run
    rw [hread]
    exact tells_of_plain plain_nil
  | some command =>
    have hending : Run.Ending host env d command (run host env d arguments) := Run.ending_run hread
    generalize run host env d arguments = left at hending
    cases hending with
    | success outcome plain => exact tells_of_plain plain
    | trouble arises plain e => exact tells_ofTrouble (Trouble.traced_of_arises arises) plain e

/-! ## The messages of a run -/

open Console (Message)
open Markup (read tags visible escape)

/-- **Texts in messages do not become markup, but for the hints for sources of rules.**  A run passes
announcements and warnings to the console, and then, if there is a trouble to be reported, an error
message and a hint for each missing name, up to the end or to the first of them that the console
refuses; a listing is never among them.  Every message is escaped, unless it is the hint for a source
that was given on the command line and is changed by escaping.  A console takes an escaped message for
marks with the message's own tags and no others, and all of them unless backslashes at the end of an
announcement take its closing tag.  If the text of the message is faithful to escaping, the characters
among the marks are those of the message without markup. -/
theorem run_messages {β : Type} (reader : Markup.Reader β) (host : Host) (env : Config.Environment)
    (d : Disk) (arguments : List Text) :
    (∀ l, .listing l ∈ (run host env d arguments).console → l.toOutput = true) ∧
    (∃ before report, (run host env d arguments).messages = before ++ report ∧
      (∀ m ∈ before, ∃ text, m = .success text ∨ m = .warning text) ∧
      (report = [] ∨ ∃ t : Trouble,
        (run host env d arguments).outcome = .exit (Run.codeOf t) ∧
          report = .error (Run.complaint t) :: t.missing.map .hint ∨
        ∃ told m behind error, .error (Run.complaint t) :: t.missing.map .hint = told ++ m :: behind ∧
          host.refuses (.message m) = some error ∧ report = told ++ [m] ∧
          (run host env d arguments).outcome = .crash (.console error))) ∧
    ∀ m ∈ (run host env d arguments).messages,
      (∃ r name, Command.read arguments = some (.render r) ∧ IsSource r.derivations name ∧
        m = .hint name ∧ escape name ≠ name) ∨
      m.markup = m.escaped ∧ ∃ marks, reader.shows m.markup = reader.ofMarks marks ∧
        ((¬ m.Swallows → tags marks = m.ownTags) ∧
          (m.Swallows → tags marks = m.ownTags.take 1)) ∧
        (m.IsFaithful → visible marks = m.plain) := by
  have htells := tells_run host env d arguments
  obtain ⟨before, report, hmessages, hbefore, hreport⟩ := htells.messages
  refine ⟨htells.listings, ⟨before, report, hmessages, hbefore, ?_⟩, fun m hm => ?_⟩
  · refine hreport.imp_right fun ⟨t, _, hreports⟩ => ⟨t, ?_⟩
    generalize (run host env d arguments).outcome = outcome at hreports ⊢
    cases hreports with
    | whole => exact .inl ⟨rfl, rfl⟩
    | cut messages refused => exact .inr ⟨_, _, _, _, messages, refused, rfl, rfl⟩
  by_cases hhint : ∃ name, m = .hint name ∧ escape name ≠ name
  · left
    obtain ⟨name, rfl, hname⟩ := hhint
    rcases htells.origin_of_hint hm with hidentifier | hsource
    · exact absurd (Markup.escape_of_isIdentifier hidentifier) hname
    · obtain ⟨r, hread, hsource⟩ := exists_render_of_isSource hsource
      exact ⟨r, name, hread, hsource, rfl, hname⟩
  · right
    have hescaped : m.markup = m.escaped := m.markup_eq_escaped fun name hm => by
      by_contra hname
      exact hhint ⟨name, hm, hname⟩
    rw [hescaped]
    exact ⟨rfl, _, reader.law _, m.tags_escaped, Message.visible_escaped⟩

/-- A template without placeholders. -/
def letterTemplate : Disk := { entries := [(["t.txt"], .file [120])] }

/-- The message about an output whose path looks like a tag. -/
def wroteTag : Message := .success "Wrote [/x]"

set_option maxRecDepth 8000 in
theorem run_messages_of_tag_path :
    (run .library .empty letterTemplate ["render", "t.txt", "-o", "[/x]"]).messages = [wroteTag] ∧
      wroteTag.markup = wroteTag.escaped ∧
      Markup.Reader.plain.shows wroteTag.markup =
        (("Wrote [/x]" : Text), [Console.openingTag "bold green", Console.closingTag "bold green"]) := by
  have hmessages : (run .library .empty letterTemplate ["render", "t.txt", "-o", "[/x]"]).messages =
      [wroteTag] := by cbv
  have hslash : '\\' ∉ wroteTag.text := (by simp : '\\' ∉ ("Wrote [/x]" : Text))
  obtain ⟨-, -, hread⟩ := run_messages Markup.Reader.plain .library .empty letterTemplate
    ["render", "t.txt", "-o", "[/x]"]
  rcases hread wroteTag (by rw [hmessages]; exact List.mem_singleton_self _) with
    ⟨_, _, -, -, he, -⟩ | ⟨hescaped, marks, hshows, ⟨htags, -⟩, hvisible⟩
  · cases he
  · refine ⟨hmessages, hescaped, hshows.trans (Prod.ext ?_ ?_)⟩
    · exact hvisible (Message.isFaithful_of_not_mem hslash)
    · exact htags (Message.not_swallows_of_not_mem hslash)

/-- A template with a placeholder. -/
def nameTemplate : Disk :=
  { entries := [(["t.txt"], .file [123, 123, 120, 125, 125])] }

/-- A request to derive the placeholder from what looks like a tag. -/
def deriveFromTag : RenderRequest where
  templates := ["t.txt"]
  presets := []
  derivations := ["x=[red]:lower"]
  encoding := none
  assignments := []
  valuesFile := none
  output := none
  force := false
  indent := false

set_option maxRecDepth 8000 in
/-- The source of a rule looks like a tag.  The hint for it is obeyed as one. -/
theorem run_hint_of_tag :
    ∃ m ∈ (run .library .empty nameTemplate ["render", "t.txt", "--derive", "x=[red]:lower"]).messages,
      m = .hint "[red]" ∧ (∀ m' : Message, m.markup ≠ m'.escaped) ∧
        tags (read 0 m.markup) = [Console.openingTag "bold", "[red]", Console.closingTag "bold"] := by
  have hread : Command.read ["render", "t.txt", "--derive", "x=[red]:lower"] =
      some (.render deriveFromTag) := by cbv
  have hprepare : prepare .library .empty nameTemplate deriveFromTag =
      .error (.engine (.missing ["[red]"])) := by cbv
  have htag : Markup.IsTag "[red]" := ⟨'r', "ed", by cbv, by decide, by simp [Markup.isBracket]⟩
  have hmessages :
      (run .library .empty nameTemplate ["render", "t.txt", "--derive", "x=[red]:lower"]).messages =
        Run.troubleMessages (.engine (.missing ["[red]"])) := by
    rw [run_of_read hread, runRender_of_error hprepare]
    rfl
  have htags : tags (read 0 "[red]") ≠ [] := by
    rw [Message.tags_read_of_isTag htag]
    exact List.cons_ne_nil _ _
  refine ⟨.hint "[red]", ?_, rfl, Message.markup_hint_ne_escaped htags, Message.tags_hint htag⟩
  rw [hmessages]
  exact List.mem_cons_of_mem _ (List.mem_singleton_self _)

end Formwork.CommandLine
