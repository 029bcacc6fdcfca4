import Formwork.Proofs.CommandLine.Directory
import Formwork.Proofs.Encoding.LineEnds
import Formwork.Proofs.Render.Finished

/-!
# Templates that are copied

A template without a pair of opening braces is rendered as it is, whatever the values, the rules and
the options.  Yet its file is not always copied.  Reading makes the line ends of a template uniform,
and writing leaves them as they are, so every carriage return is lost on the way
(`run_carriageReturn`).  The main statement, `run_copies`, says what is written, and that the bytes are
those of the template exactly when there is no carriage return among them.

Three facts meet there.  Making line ends uniform loses carriage returns and nothing else
(`uniformLines_eq_self_iff`), it brings no braces together (`hasPair_of_uniformLines`), and what is
read in UTF-8 has the bytes that it was read from (`Encoding.encodeUtf8_of_decodeUtf8`).
-/

namespace Formwork

open Text (HasPair)

/-! ## Braces and line ends -/

variable {s : Text}

/-- Between the braces of a pair there is no room for a line end. -/
lemma hasPair_of_uniformLines (h : HasPair '{' (uniformLines s)) : HasPair '{' s := by
  induction s with
  | nil => exact h
  | cons c s ih =>
    rw [Text.hasPair_cons_iff]
    by_cases hc : c = '\r'
    · subst hc
      refine .inr (ih ?_)
      rcases uniformLines_cons_return s with ⟨_, -, he⟩ | he
      · exact he ▸ h
      · rw [he, Text.hasPair_cons_iff] at h
        exact h.resolve_left fun hpair => absurd hpair.1 (by decide)
    · rw [uniformLines_cons_of_ne hc, Text.hasPair_cons_iff, head?_uniformLines] at h
      refine h.imp (fun ⟨hfirst, hsecond⟩ => ⟨hfirst, ?_⟩) ih
      obtain ⟨e, he, hbrace⟩ := Option.map_eq_some_iff.1 hsecond
      split at hbrace
      · cases hbrace
      · rw [he, hbrace]

/-! ## Rendering a text without placeholders -/

lemma Engine.output_of_not_hasPair {α : Type} [Supplied α] {e : Engine} {source : Text}
    {supplied : Table α} {rules : RuleSet} {scaffold : Scaffold} (hpair : ¬ HasPair '{' source)
    (h : e.scaffold source supplied rules = .ok scaffold) : scaffold.output = source := by
  obtain ⟨hparse, _, -, -, houtput⟩ := scaffold_eq_ok_iff.1 h
  obtain ⟨t, ht, -, hwrite⟩ := Render.exists_parse_of_not_hasPair hpair
  cases hparse.symm.trans ht
  exact Except.ok.inj (houtput.symm.trans (hwrite _ _))

/-! ## Files by their paths -/

/-- The path leads to a file with these bytes. -/
def Disk.HasFile (d : Disk) (p : Path) (bytes : Bytes) : Prop :=
  ∃ l, d.locate p = .ok l ∧ d.standing l = some (.file bytes)

lemma Disk.HasFile.iff_eq {d : Disk} {p : Path} {bytes bytes' : Bytes} (h : d.HasFile p bytes) :
    d.HasFile p bytes' ↔ bytes = bytes' := by
  obtain ⟨l, hl, hfile⟩ := h
  constructor
  · rintro ⟨l', hl', hfile'⟩
    cases hl.symm.trans hl'
    exact Disk.Entry.file.inj (Option.some.inj (hfile.symm.trans hfile'))
  · rintro rfl
    exact ⟨l, hl, hfile⟩

namespace CommandLine

variable {host : Host} {env : Config.Environment} {d : Disk} {r : RenderRequest} {rendered : Rendered}
  {output : Text}

/-! ## A single file -/

/-- A single output that does not go into a directory is given the path itself. -/
lemma places_of_single {x : Job × Scaffold} {outputs : List (Path × Text)}
    (hone : rendered.results = [x]) (hfile : d.isDirectory (Path.ofText output) ≠ .ok true)
    (hend : endsAsDirectory output = false) (h : places d output rendered = .ok outputs) :
    outputs = [(Path.ofText output, x.2.output)] := by
  have hlength : rendered.results.length = 1 := by rw [hone]; rfl
  rcases places_cases d output rendered with
    ⟨_, -, -, hplaces⟩ | ⟨y, hone', -, -, hplaces⟩ | ⟨hthere, -⟩
  · cases hplaces.symm.trans h
  · cases hone.symm.trans hone'
    exact Except.ok.inj (h.symm.trans hplaces)
  · obtain ⟨there, hlook, hinto⟩ := hthere hlength
    rw [hend, Bool.or_false] at hinto
    exact absurd (hinto ▸ hlook) hfile

/-- When a single output has been written to its path, the path leads to a file that has received it. -/
lemma exists_file_of_deliver {before : List Console.Entry} {x : Job × Scaffold}
    (hone : rendered.results = [x]) (hfile : d.isDirectory (Path.ofText output) ≠ .ok true)
    (hend : endsAsDirectory output = false)
    (h : (deliver host d before output rendered).outcome = .exit Run.success) :
    ∃ bytes, (rendered.manner host).Writes x.2.output bytes ∧
      (deliver host d before output rendered).disk.HasFile (Path.ofText output) bytes := by
  obtain ⟨outputs, e, paths, hchosen, hwrite, hdeliver⟩ := exists_written_of_success h
  rw [places_of_single hone hfile hend hchosen] at hwrite
  obtain ⟨-, hwritten⟩ := Output.written_of_writeBy (host.scheduler.atRest _ _ _) hwrite
  obtain ⟨l, bytes, hl, hcontent, hwrites⟩ := hwritten.files 0 _ rfl
  have halone : Output.Alone d.setting [(Path.ofText output, x.2.output)] 0 l := by
    intro n o hn hne
    obtain ⟨hlt, -⟩ := List.getElem?_eq_some_iff.1 hn
    exact absurd (Nat.lt_one_iff.1 hlt) hne
  rw [hdeliver]
  exact ⟨bytes, hwrites halone, l, hl, hcontent⟩

lemma output_of_prepare {path text : Text} {bytes : Bytes}
    (hprepare : prepare host env d r = .ok rendered) (htemplates : r.templates = [path])
    (hpresets : r.presets = [])
    (hname : host.codecs.text rendered.config.encoding = .ok Encoding.utf8.codec)
    (hbytes : d.read (Path.ofText path) = .ok bytes) (htext : Encoding.decodeUtf8 bytes = .ok text)
    (hpair : ¬ HasPair '{' text) :
    ∃ x, rendered.results = [x] ∧ x.2.output = uniformLines text := by
  have hcount : r.templates.length + r.presets.length = 1 := by rw [htemplates, hpresets]; rfl
  obtain ⟨j, s, rules, hjobs, -, hone, hscaffold⟩ := exists_job_of_prepare hprepare hcount
  rw [htemplates, hpresets] at hjobs
  rcases jobsOf_eq_singleton_iff.1 hjobs with ⟨_, source, hpath, -, hsource, rfl⟩ | ⟨_, _, hnone, -⟩
  · cases hpath
    obtain ⟨_, e, hbytes', hname', hdecode⟩ := readTemplate_eq_ok_iff.1 hsource
    cases hbytes.symm.trans hbytes'
    cases hname.symm.trans hname'
    obtain ⟨text', hdecode, hlines⟩ := Except.map_eq_ok_iff.1 hdecode
    cases htext.symm.trans (Except.mapError_eq_ok_iff.1 hdecode)
    have hsame : uniformLines text = source := hlines
    refine ⟨_, hone, ?_⟩
    rw [hsame]
    refine Engine.output_of_not_hasPair (fun hin => hpair ?_) (Job.scaffold_eq_ok_iff.1 hscaffold).2
    rw [← hsame] at hin
    exact hasPair_of_uniformLines hin
  · cases hnone

/-- **A template without placeholders is copied, but for its carriage returns.**  Let a template file
hold a text in UTF-8 that has no pair of opening braces, and let a command that renders it to a file in
this encoding succeed.  Then the file that is written has the text with uniform line ends.  Its bytes
are those of the template exactly when there is no carriage return among them. -/
theorem run_copies {arguments : List Text} {path text : Text} {config : Config} {bytes : Bytes}
    (hread : Command.read arguments = some (.render r)) (htemplates : r.templates = [path])
    (hpresets : r.presets = []) (houtput : nonempty r.output = some output)
    (hfile : ¬ IntoDirectory d r output)
    (hconfig : configOf host env r.indent r.force r.encoding = .ok config)
    (hname : host.codecs.text config.encoding = .ok Encoding.utf8.codec)
    (hbytes : d.read (Path.ofText path) = .ok bytes)
    (htext : Encoding.decodeUtf8 bytes = .ok text) (hpair : ¬ HasPair '{' text)
    (h : (run host env d arguments).outcome = .exit Run.success) :
    (run host env d arguments).disk.HasFile (Path.ofText output)
        (Encoding.encodeUtf8 (uniformLines text)) ∧
      ((run host env d arguments).disk.HasFile (Path.ofText output) bytes ↔ 0x0d ∉ bytes) := by
  rw [run_of_read hread] at h ⊢
  obtain ⟨rendered, hprepare, htakes⟩ := exists_prepare_of_success h
  obtain ⟨hsame, -⟩ := prepare_eq_ok_iff.1 hprepare
  cases hconfig.symm.trans hsame
  obtain ⟨x, hone, hcontent⟩ :=
    output_of_prepare hprepare htemplates hpresets hname hbytes htext hpair
  have hdirectory : d.isDirectory (Path.ofText output) ≠ .ok true :=
    fun hthere => hfile (.inr (.inl hthere))
  have hend : endsAsDirectory output = false :=
    Bool.eq_false_iff.2 fun hthere => hfile (.inr (.inr hthere))
  rw [runRender_of_takes hprepare houtput htakes] at h ⊢
  obtain ⟨written, ⟨codec, hname', hencode⟩, hwritten⟩ :=
    exists_file_of_deliver hone hdirectory hend h
  cases hname.symm.trans hname'
  rw [hcontent] at hencode
  have hbytes' : written = Encoding.encodeUtf8 (uniformLines text) := (Except.ok.inj hencode).symm
  refine ⟨hbytes' ▸ hwritten, ?_⟩
  rw [hwritten.iff_eq, hbytes']
  exact Encoding.encodeUtf8_uniformLines_eq_iff htext

def oneTemplate (bytes : Bytes) : Disk := { entries := [(["t.txt"], .file bytes)] }

def toOut : RenderRequest where
  templates := ["t.txt"]
  presets := []
  derivations := []
  encoding := none
  assignments := []
  valuesFile := none
  output := some "out.txt"
  force := false
  indent := false

/-- A tab, a single brace, a letter, closing braces and a newline. -/
def strayBraces : Bytes := [9, 123, 97, 125, 125, 10]

set_option maxRecDepth 8000 in
theorem run_copies_strayBraces :
    Command.read ["render", "t.txt", "-o", "out.txt"] = some (.render toOut) ∧
    ¬ IntoDirectory (oneTemplate strayBraces) toOut "out.txt" ∧
    configOf .library .empty false false none = .ok {} ∧
    Host.library.codecs.text Config.defaultEncoding = .ok Encoding.utf8.codec ∧
    (oneTemplate strayBraces).read (Path.ofText "t.txt") = .ok strayBraces ∧
    Encoding.decodeUtf8 strayBraces = .ok "\t\x7ba\x7d\x7d\n" ∧ ¬ HasPair '{' "\t\x7ba\x7d\x7d\n" ∧
    (run .library .empty (oneTemplate strayBraces) ["render", "t.txt", "-o", "out.txt"]).outcome =
      .exit Run.success ∧
    (run .library .empty (oneTemplate strayBraces) ["render", "t.txt", "-o", "out.txt"]).disk.HasFile
      (Path.ofText "out.txt") strayBraces := by
  have hread : Command.read ["render", "t.txt", "-o", "out.txt"] = some (.render toOut) := by cbv
  have hfile : ¬ IntoDirectory (oneTemplate strayBraces) toOut "out.txt" := by
    unfold IntoDirectory
    decide
  have hconfig : configOf .library .empty false false none = .ok {} := by cbv
  have hname : Host.library.codecs.text Config.defaultEncoding = .ok Encoding.utf8.codec := by cbv
  have hbytes : (oneTemplate strayBraces).read (Path.ofText "t.txt") = .ok strayBraces := by cbv
  have htext : Encoding.decodeUtf8 strayBraces = .ok "\t\x7ba\x7d\x7d\n" := by cbv
  have hpair : ¬ HasPair '{' "\t\x7ba\x7d\x7d\n" := by
    change ¬ HasPair '{' ['\t', '{', 'a', '}', '}', '\n']
    simp [Text.hasPair_cons_iff]
  have hsuccess : (run .library .empty (oneTemplate strayBraces)
      ["render", "t.txt", "-o", "out.txt"]).outcome = .exit Run.success := by cbv
  have hcopied := (run_copies hread rfl rfl rfl hfile hconfig hname hbytes htext hpair hsuccess).2
  exact ⟨hread, hfile, hconfig, hname, hbytes, htext, hpair, hsuccess, hcopied.2 (by decide)⟩

/-- Two lines, the first of which ends with a carriage return and a newline. -/
def twoLineEnds : Bytes := [97, 13, 10, 98, 10]

set_option maxRecDepth 8000 in
/-- A template without placeholders whose file is not copied: the carriage return is lost. -/
theorem run_carriageReturn :
    Command.read ["render", "t.txt", "-o", "out.txt"] = some (.render toOut) ∧
    configOf .library .empty false false none = .ok {} ∧
    (oneTemplate twoLineEnds).read (Path.ofText "t.txt") = .ok twoLineEnds ∧
    Encoding.decodeUtf8 twoLineEnds = .ok "a\r\nb\n" ∧ ¬ HasPair '{' "a\r\nb\n" ∧
    (run .library .empty (oneTemplate twoLineEnds) ["render", "t.txt", "-o", "out.txt"]).outcome =
      .exit Run.success ∧
    (run .library .empty (oneTemplate twoLineEnds) ["render", "t.txt", "-o", "out.txt"]).disk.read
      (Path.ofText "out.txt") = .ok [97, 10, 98, 10] ∧
    (run .library .empty (oneTemplate twoLineEnds) ["render", "t.txt", "-o", "out.txt"]).disk.read
      (Path.ofText "out.txt") ≠ .ok twoLineEnds := by
  have hpair : ¬ HasPair '{' "a\r\nb\n" := by
    change ¬ HasPair '{' ['a', '\r', '\n', 'b', '\n']
    simp [Text.hasPair_cons_iff]
  have hwritten : (run .library .empty (oneTemplate twoLineEnds)
      ["render", "t.txt", "-o", "out.txt"]).disk.read (Path.ofText "out.txt") =
        .ok [97, 10, 98, 10] := by cbv
  refine ⟨by cbv, by cbv, by cbv, by cbv, hpair, by cbv, hwritten, ?_⟩
  rw [hwritten]
  decide

end CommandLine

end Formwork
