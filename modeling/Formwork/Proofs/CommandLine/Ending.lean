import Formwork.Proofs.CommandLine.Preparation

/-!
# How a run comes to its end

A run of a command ends well, with nothing on the console but announcements and listings, or it ends
with a trouble after such.  `Run.Ending` has these two cases, and `Trouble.Arises` lists where a trouble
may arise.  Both are about the whole run, so that what is said of every run needs a proof for each place
where trouble arises and no walk through the stages (`Run.ending_run`).
-/

namespace Formwork.CommandLine

variable {host : Host} {env : Config.Environment} {d e : Disk} {r : RenderRequest}
  {rendered : Rendered} {output : Text} {command : Command} {before entries : List Console.Entry}
  {left : Run}

/-! ## Announcements and listings -/

/-- The messages among entries. -/
def messagesOf (entries : List Console.Entry) : List Console.Message :=
  entries.filterMap fun
    | .message m => some m
    | .listing _ => none

@[simp] lemma messagesOf_append (xs ys : List Console.Entry) :
    messagesOf (xs ++ ys) = messagesOf xs ++ messagesOf ys :=
  List.filterMap_append

@[simp] lemma messagesOf_map (messages : List Console.Message) :
    messagesOf (messages.map .message) = messages := by
  unfold messagesOf
  rw [List.filterMap_map]
  exact List.filterMap_some

/-- The messages that a run passes to the console. -/
def Run.messages (left : Run) : List Console.Message := messagesOf left.console

/-- The message tells of something that was done, or warns. -/
def IsAnnouncement (m : Console.Message) : Prop := ∃ text, m = .success text ∨ m = .warning text

/-- Among the entries are announcements, and listings that are output. -/
structure Plain (entries : List Console.Entry) : Prop where
  messages : ∀ m ∈ messagesOf entries, IsAnnouncement m
  listings : ∀ l, .listing l ∈ entries → l.toOutput = true

lemma Plain.append {xs ys : List Console.Entry} (h : Plain xs) (h' : Plain ys) : Plain (xs ++ ys) where
  messages := by
    rw [messagesOf_append]
    exact List.forall_mem_append.2 ⟨h.messages, h'.messages⟩
  listings := fun l hl => (List.mem_append.1 hl).elim (h.listings l) (h'.listings l)

lemma Plain.of_append {xs ys : List Console.Entry} (h : Plain (xs ++ ys)) : Plain xs where
  messages := fun m hm => h.messages m (by
    rw [messagesOf_append]
    exact List.mem_append_left _ hm)
  listings := fun l hl => h.listings l (List.mem_append_left ys hl)

lemma listing_not_mem_map {l : Console.Listing} (messages : List Console.Message) :
    .listing l ∉ messages.map Console.Entry.message := by
  intro h
  obtain ⟨_, -, he⟩ := List.mem_map.1 h
  cases he

lemma plain_map {messages : List Console.Message} (h : ∀ m ∈ messages, IsAnnouncement m) :
    Plain (messages.map .message) where
  messages := by
    rw [messagesOf_map]
    exact h
  listings := fun _ hl => absurd hl (listing_not_mem_map messages)

lemma plain_nil : Plain [] := ⟨fun _ => nofun, fun _ => nofun⟩

lemma plain_warnings (rendered : Rendered) : Plain ((warnings rendered).map .message) := by
  refine plain_map fun m hm => ?_
  obtain ⟨text, -, rfl⟩ := List.mem_map.1 hm
  exact ⟨text, .inr rfl⟩

lemma plain_wrote (paths : List Path) : Plain (paths.map fun p => .message (wrote p)) := by
  have hwrote : ∀ m ∈ paths.map wrote, IsAnnouncement m := by
    intro m hm
    obtain ⟨p, -, rfl⟩ := List.mem_map.1 hm
    exact ⟨_, .inl rfl⟩
  have hplain := plain_map hwrote
  rw [List.map_map] at hplain
  exact hplain

lemma plain_listing (l : Console.Listing) : Plain [.listing { l with toOutput := true }] := by
  refine ⟨fun _ => nofun, fun l' hl => ?_⟩
  cases List.mem_singleton.1 hl
  rfl

/-! ## Ends -/

/-- A command comes to the trouble: what it should make or list cannot be made, there are no places for
it, it cannot be written, or the console or the output does not take it. -/
inductive Trouble.Arises (host : Host) (env : Config.Environment) (d : Disk) :
    Command → Trouble → Prop
  | prepare {r : RenderRequest} {t : Trouble} (unmade : prepare host env d r = .error t) :
    Arises host env d (.render r) t
  | places {r : RenderRequest} {output : Text} {rendered : Rendered} {t : Trouble}
    (asked : nonempty r.output = some output) (made : CommandLine.prepare host env d r = .ok rendered)
    (unplaced : places d output rendered = .error t) : Arises host env d (.render r) t
  | write {r : RenderRequest} {output : Text} {rendered : Rendered} {outputs : List (Path × Text)}
    {e : Disk} {cause : Output.Fault} (asked : nonempty r.output = some output)
    (made : CommandLine.prepare host env d r = .ok rendered)
    (placed : CommandLine.places d output rendered = .ok outputs)
    (unwritten : host.scheduler.write (rendered.manner host) d outputs = (e, .error cause)) :
    Arises host env d (.render r) (.output cause)
  | stdout {r : RenderRequest} {text : Text} {cause : Foreign}
    (rejected : host.rejects text = some cause) : Arises host env d (.render r) (.stdout cause)
  | inspect {q : InspectRequest} {t : Trouble} (unlisted : inspect host env d q = .error t) :
    Arises host env d (.inspect q) t
  | console {command : Command} {entry : Console.Entry} {cause : Foreign}
    (refused : host.refuses entry = some cause) : Arises host env d command (.console cause)

namespace Run

/-- How a run of a command ends: well, or with a trouble. -/
inductive Ending (host : Host) (env : Config.Environment) (d : Disk) (command : Command) : Run → Prop
  | success {left : Run} (outcome : left.outcome = .exit success) (plain : Plain left.console) :
    Ending host env d command left
  | trouble {t : Trouble} {before : List Console.Entry} (arises : t.Arises host env d command)
    (plain : Plain before) (e : Disk) : Ending host env d command (ofTrouble host e before t)

lemma ending_of_told {next : List Console.Entry → Run} (h : Told host e before entries next left)
    (hplain : Plain (before ++ entries)) (hnext : Ending host env d command (next (before ++ entries))) :
    Ending host env d command left := by
  cases h with
  | all => exact hnext
  | @cut told behind entry cause split refused =>
    rw [split, List.append_cons, ← List.append_assoc] at hplain
    exact .trouble (.console refused) hplain.of_append e

lemma ending_deliver (hasked : nonempty r.output = some output)
    (hprepare : prepare host env d r = .ok rendered) (hplain : Plain before) :
    Ending host env d (.render r) (deliver host d before output rendered) := by
  unfold deliver
  cases hplaces : places d output rendered with
  | error t => exact .trouble (.places hasked hprepare hplaces) hplain d
  | ok outputs =>
    dsimp only
    split
    · rename_i e cause hwrite
      exact .trouble (.write hasked hprepare hplaces hwrite) hplain e
    · rename_i e paths hwrite
      have hwrote := hplain.append (plain_wrote paths)
      exact ending_of_told (told_telling ..) hwrote (.success rfl hwrote)

lemma ending_ofOutput (hplain : Plain before) (text : Text) :
    Ending host env d (.render r) (ofOutput host d before text) := by
  unfold ofOutput
  cases hrejected : host.rejects text with
  | none => exact .success rfl hplain
  | some cause => exact .trouble (.stdout hrejected) hplain d

lemma ending_runRender (host : Host) (env : Config.Environment) (d : Disk) (r : RenderRequest) :
    Ending host env d (.render r) (runRender host env d r) := by
  cases hprepare : prepare host env d r with
  | error t =>
    rw [runRender_of_error hprepare]
    exact .trouble (.prepare hprepare) plain_nil d
  | ok rendered =>
    have hplain := plain_warnings rendered
    cases hasked : nonempty r.output with
    | some output =>
      exact ending_of_told (told_runRender_of_output hprepare hasked) hplain
        (ending_deliver hasked hprepare hplain)
    | none =>
      exact ending_of_told (told_runRender_of_none hprepare hasked) hplain (ending_ofOutput hplain _)

lemma ending_ofListing (host : Host) (env : Config.Environment) (d : Disk) (command : Command)
    (l : Console.Listing) : Ending host env d command (ofListing host d l) :=
  ending_of_told (told_telling ..) (plain_listing l) (.success rfl (plain_listing l))

theorem ending_run {arguments : List Text} (h : Command.read arguments = some command) :
    Ending host env d command (run host env d arguments) := by
  unfold run
  rw [h]
  cases command with
  | help => exact .success rfl plain_nil
  | render r => exact ending_runRender host env d r
  | inspect q =>
    change Ending host env d _ (runInspect host env d q)
    unfold runInspect
    cases hinspect : inspect host env d q with
    | error t => exact .trouble (.inspect hinspect) plain_nil d
    | ok l => exact ending_ofListing host env d _ l
  | presets => exact ending_ofListing host env d _ _

end Run

end Formwork.CommandLine
