import Formwork.Config.File
import Formwork.Proofs.Config.Fields
import Formwork.Proofs.Disk.Reach
import Formwork.Proofs.Encoding.LineEnds
import Formwork.Proofs.Json.Written

/-!
# Options that are kept in a file

Options that are saved are loaded as they were.  On the way the name of the encoding goes through three
hands that could change it, and it may be almost anything, since a look-up that ignores punctuation
accepts many spellings: it is escaped as a JSON string, put into bytes, and read back with line ends made
uniform.  None does any harm.  What is escaped is scanned as it was (`scan_save`), there is no carriage
return in the written text (`carriageReturn_not_mem_save`), and bytes are read as the text that they
were made of.  Then the name is looked up once more, as when the options were accepted.

Which names are known is left open: the statements hold for every look-up that knows the default.  The
main one is `saved_options_are_loaded`.
-/

namespace Formwork.Config

variable {Codec : Type} {lookup : Text → Except Encoding.NameError Codec} {c : Config} {d e : Disk}
  {p q : Path} {members : List (Text × Json)}

/-! ## The text -/

lemma scan_save (c : Config) :
    Json.Token.scan c.save =
      [.openObject, .string "indent_multiline", .colon, .word (Json.writeBool c.indentMultiline), .comma,
        .string "encoding", .colon, .string c.encoding, .comma,
        .string "overwrite", .colon, .word (Json.writeBool c.overwrite), .closeObject] := by
  let written : List (Text × Text × Json.Token) :=
    [("indent_multiline", Json.writeBool c.indentMultiline, .word (Json.writeBool c.indentMultiline)),
      ("encoding", Json.writeText c.encoding, .string c.encoding),
      ("overwrite", Json.writeBool c.overwrite, .word (Json.writeBool c.overwrite))]
  have hspells : ∀ m ∈ written, Json.Spells m.2.1 m.2.2 := by
    simp only [written, List.forall_mem_cons]
    exact ⟨Json.spells_writeBool _, Json.spells_writeText _, Json.spells_writeBool _, nofun⟩
  exact Json.tokens_writeObject hspells

lemma carriageReturn_not_mem_save (c : Config) : '\r' ∉ c.save := by
  have hflag : ∀ b, '\r' ∉ Json.writeBool b := by decide
  have htext : '\r' ∉ Json.writeText c.encoding := fun h =>
    absurd (Json.le_toNat_of_mem_writeText h) (by decide)
  apply Json.carriageReturn_not_mem_writeObject
  simp only [List.forall_mem_cons]
  exact ⟨hflag _, htext, hflag _, nofun⟩

lemma ofTokens_scan_save (c : Config) :
    Json.ofTokens (Json.Token.scan c.save) = .ok (.object c.toMembers) := by
  obtain ⟨indent, encoding, overwrite⟩ := c
  rw [scan_save]
  cases indent <;> cases overwrite <;> rfl

lemma loadBy_save (h : ∃ codec, lookup c.encoding = .ok codec) : loadBy lookup c.save = .ok c := by
  have hshort : ∀ b, Fields.leadingSize (Json.writeBool b) ≤ Json.maxDigits := by decide
  have hlimits : (nesting 0 (Json.Token.scan c.save) ≤ maxNesting &&
      (Json.Token.scan c.save).all isShortNumber) = true := by
    rw [scan_save]
    simp [nesting, maxNesting, hshort, isShortNumber]
  unfold loadBy
  dsimp only
  rw [if_pos hlimits, ofTokens_scan_save]
  exact readFieldsBy_toMembers h

/-! ## The file -/

/-- The system lets the file be read and written that the path leads to. -/
def Accessible (d : Disk) (p : Path) : Prop :=
  ∀ l, d.setting.target p = some l → d.setting.refuses .read l = none ∧ d.setting.refuses .write l = none

/-- Saving succeeds when the directories can be provided and the file can be written. -/
lemma saveTo_eq_ok_iff :
    saveTo d p c = (e, .ok q) ↔ q = p ∧ ∃ f, d.provideAll p.root p.parent.names = (f, none) ∧
      f.write p (Encoding.encodeUtf8 c.save) = .ok e := by
  unfold saveTo
  rcases d.provideAll p.root p.parent.names with ⟨f, _ | error⟩
  · cases hwrite : f.write p (Encoding.encodeUtf8 c.save) <;> simp [hwrite, eq_comm, and_comm]
  · simp

/-- A file of options has the bytes of their text, and the directory that it lies in is there. -/
lemma stands_of_saveTo (h : saveTo d p c = (e, .ok q)) :
    d.Later e ∧ e.isDirectory p.parent = .ok true ∧
      ∃ l, e.locate p = .ok l ∧ e.standing l = some (.file (Encoding.encodeUtf8 c.save)) := by
  obtain ⟨-, f, hprovide, hwrite⟩ := saveTo_eq_ok_iff.1 h
  have hgrown := Disk.grown_of_provideAll hprovide
  obtain ⟨k, hk, hparent⟩ := Disk.isDirectory_eq_ok_true_iff.1 (Disk.isDirectory_of_provideAll hprovide)
  obtain ⟨hlater, l, hl, hfile, -⟩ := Disk.standing_write hwrite
  exact ⟨hgrown.toLater.trans hlater,
    Disk.isDirectory_eq_ok_true_iff.2 ⟨k, hlater.locate hk, hlater.directories k hparent⟩, l, hl, hfile⟩

lemma read_of_saveTo (haccess : Accessible d p) (h : saveTo d p c = (e, .ok q)) :
    e.read p = .ok (Encoding.encodeUtf8 c.save) := by
  obtain ⟨hlater, -, l, hl, hfile⟩ := stands_of_saveTo h
  have htarget := Disk.target_of_locate hl
  rw [hlater.setting] at htarget
  refine Disk.read_eq_ok_iff.2 ⟨l, hl, ?_, hfile⟩
  rw [hlater.setting]
  exact (haccess l htarget).1

lemma loadFromBy_of_saveTo (hlookup : ∃ codec, lookup c.encoding = .ok codec)
    (haccess : Accessible d p) (h : saveTo d p c = (e, .ok q)) : loadFromBy lookup e p = .ok c := by
  unfold loadFromBy
  rw [read_of_saveTo haccess h]
  change ((Encoding.utf8.decodeLines (Encoding.encodeUtf8 c.save)).mapError FileFault.undecodable >>= _) = _
  rw [Encoding.decodeLines_encodeUtf8 (carriageReturn_not_mem_save c)]
  change (loadBy lookup c.save).mapError FileFault.notAccepted = _
  rw [loadBy_save hlookup]
  rfl

/-- Saving options once more succeeds, and everything stands where it stood. -/
lemma exists_saveTo_again (haccess : Accessible d p) (h : saveTo d p c = (e, .ok q)) :
    ∃ f, saveTo e p c = (f, .ok p) ∧ ∀ l, f.standing l = e.standing l := by
  obtain ⟨hlater, hparent, l, hl, hfile⟩ := stands_of_saveTo h
  have htarget := Disk.target_of_locate hl
  rw [hlater.setting] at htarget
  have hopenable : e.openable l = .ok () := by
    refine Disk.openable_eq_ok_iff.2 (.inr ⟨⟨_, hfile⟩, ?_⟩)
    rw [hlater.setting]
    exact (haccess l htarget).2
  obtain ⟨f, hwrite⟩ := Disk.exists_write hl hopenable (Encoding.encodeUtf8 c.save)
  refine ⟨f, saveTo_eq_ok_iff.2 ⟨rfl, e, Disk.provideAll_of_isDirectory hparent, hwrite⟩, fun k => ?_⟩
  obtain ⟨hagain, l', hl', hfile', hother⟩ := Disk.standing_write hwrite
  cases hl'.symm.trans (hagain.locate hl)
  by_cases hk : k = l
  · rw [hk, hfile, hfile']
  · exact hother k hk

/-- Saving succeeds where a path aims at a location, if a file may be opened there. -/
lemma exists_saveTo_of_aims {l : Location} (haims : d.Aims p l) (hopenable : d.openable l = .ok ())
    (c : Config) : ∃ e, saveTo d p c = (e, .ok p) := by
  obtain ⟨f, hprovide, hl, hsame, -⟩ := haims.provideAll
  have hgrown := Disk.grown_of_provideAll hprovide
  obtain ⟨e, hwrite⟩ := Disk.exists_write hl
    ((Disk.openable_congr hgrown.setting hsame).trans hopenable) (Encoding.encodeUtf8 c.save)
  exact ⟨e, saveTo_eq_ok_iff.2 ⟨rfl, f, hprovide, hwrite⟩⟩

/-! ## The main statement -/

/-- Options are accepted exactly when their encoding can be looked up. -/
lemma exists_readFieldsBy_iff (hdefault : ∃ codec, lookup Config.defaultEncoding = .ok codec) :
    (∃ members, readFieldsBy lookup .wide members = .ok c) ↔
      ∃ codec, lookup c.encoding = .ok codec := by
  constructor
  · rintro ⟨members, h⟩
    exact exists_lookup_of_readFieldsBy hdefault h
  · intro h
    exact ⟨c.toMembers, readFieldsBy_toMembers h⟩

/-- **Options survive saving and loading.**  Take any look-up of encodings that knows the default.  The
options that it accepts are those whose encoding it finds, however the encoding is spelled.  They are
loaded from their text as they were.  When they have been saved to a file, the file has the bytes of the
text and they are loaded from it as they were; saving what has been loaded, to the same file, succeeds
and leaves everything as it stands, and saving it to any file gives the same bytes.  It is asked that the
system lets these files be read and written.  Saving succeeds wherever nothing is in the way. -/
theorem saved_options_are_loaded (lookup : Text → Except Encoding.NameError Codec)
    (hdefault : ∃ codec, lookup Config.defaultEncoding = .ok codec) (c : Config) :
    ((∃ members, readFieldsBy lookup .wide members = .ok c) ↔
      ∃ codec, lookup c.encoding = .ok codec) ∧
    ∀ members, readFieldsBy lookup .wide members = .ok c →
      loadBy lookup c.save = .ok c ∧
      (∀ (d e : Disk) (p q : Path), Accessible d p → saveTo d p c = (e, .ok q) →
        q = p ∧ loadFromBy lookup e q = .ok c ∧ e.read q = .ok (Encoding.encodeUtf8 c.save) ∧
        ∀ loaded, loadFromBy lookup e q = .ok loaded →
          (∃ f, saveTo e q loaded = (f, .ok q) ∧ ∀ l, f.standing l = e.standing l) ∧
          ∀ (d' e' : Disk) (p' q' : Path), Accessible d' p' → saveTo d' p' loaded = (e', .ok q') →
            e'.read q' = e.read q) ∧
      ∀ (d : Disk) (p : Path) (l : Location), d.Aims p l → d.openable l = .ok () →
        ∃ e, saveTo d p c = (e, .ok p) := by
  refine ⟨exists_readFieldsBy_iff hdefault, fun members haccepted => ?_⟩
  have hlookup := exists_lookup_of_readFieldsBy hdefault haccepted
  refine ⟨loadBy_save hlookup, fun d e p q haccess hsave => ?_,
    fun d p l haims hopenable => exists_saveTo_of_aims haims hopenable c⟩
  obtain rfl : q = p := (saveTo_eq_ok_iff.1 hsave).1
  have hload := loadFromBy_of_saveTo hlookup haccess hsave
  refine ⟨rfl, hload, read_of_saveTo haccess hsave, fun loaded hloaded => ?_⟩
  cases hload.symm.trans hloaded
  refine ⟨exists_saveTo_again haccess hsave, fun d' e' p' q' haccess' hsave' => ?_⟩
  obtain rfl : q' = p' := (saveTo_eq_ok_iff.1 hsave').1
  rw [read_of_saveTo haccess' hsave', read_of_saveTo haccess hsave]

/-- Options whose encoding is spelled with about everything that can go wrong in a file. -/
def spelledOptions : Config := ⟨true, " Utf\t-\"\\8\r\n\x01é\u2028", false⟩

theorem saved_options_are_loaded_spelled :
    readFields spelledOptions.toMembers = .ok spelledOptions ∧
    ∃ e, saveTo {} ⟨[], ["o.json", "conf"]⟩ spelledOptions = (e, .ok ⟨[], ["o.json", "conf"]⟩) ∧
      loadFrom e ⟨[], ["o.json", "conf"]⟩ = .ok spelledOptions ∧
      e.read ⟨[], ["o.json", "conf"]⟩ = .ok (Encoding.encodeUtf8 spelledOptions.save) ∧
      ∃ f, saveTo e ⟨[], ["o.json", "conf"]⟩ spelledOptions = (f, .ok ⟨[], ["o.json", "conf"]⟩) ∧
        ∀ l, f.standing l = e.standing l := by
  have hdefault : Encoding.ofName Config.defaultEncoding = .ok .utf8 := rfl
  have hspelled : Encoding.ofName spelledOptions.encoding = .ok .utf8 := rfl
  obtain ⟨-, hsaved⟩ := saved_options_are_loaded Encoding.ofName ⟨_, hdefault⟩ spelledOptions
  have hread : readFields spelledOptions.toMembers = .ok spelledOptions :=
    readFieldsBy_toMembers ⟨_, hspelled⟩
  obtain ⟨-, hfiles, hclear⟩ := hsaved _ hread
  have hrooted : ({} : Disk).Rooted := Disk.rooted_of_entries nofun fun _ => rfl
  obtain ⟨e, hsave⟩ := hclear {} ⟨[], ["o.json", "conf"]⟩ _
    (Disk.aims_of_clear hrooted ⟨fun _ => rfl, fun _ _ => rfl⟩ (by decide) (by decide) (by decide)
      (by decide)) (by decide)
  obtain ⟨-, hload, hbytes, hagain⟩ := hfiles _ _ _ _ (fun _ _ => ⟨rfl, rfl⟩) hsave
  exact ⟨hread, e, hsave, hload, hbytes, (hagain _ hload).1⟩

end Formwork.Config
