import Formwork.Preset.Basic
import Formwork.Proofs.Disk.Change
import Formwork.Proofs.Text.Words
import Mathlib.Data.List.TakeWhile

/-!
# Names of entries in a directory

A text is the name of an entry when the path that it spells leads from a directory to something in
it, and nowhere else (`IsEntry`, `Path.join_ofText`).  There are two sources of such names.  The last
name of a path to a file is one (`Disk.isEntry_name_of_isFile`): the names of a path hold no slash, and
what leads nowhere or outwards leads to a directory.  And a plain file name is one without backslashes
(`Preset.isPlainName_iff`).
-/

namespace Formwork

/-- The text is the name of an entry in a directory: it is not empty, means neither the directory nor
the one around it, and holds no slash. -/
structure IsEntry (s : Text) : Prop where
  nonempty : s ≠ []
  notHere : s ≠ ['.']
  notOutwards : s ≠ Disk.outwards
  noSlash : '/' ∉ s

lemma Preset.isPlainName_iff {s : Text} : isPlainName s = true ↔ IsEntry s ∧ '\\' ∉ s := by
  unfold isPlainName
  constructor
  · intro h
    simp only [Bool.and_eq_true, Bool.not_eq_true', List.contains_eq_mem, List.mem_cons,
      List.not_mem_nil, or_false, decide_eq_false_iff_not, not_or] at h
    obtain ⟨⟨⟨hempty, hhere, houtwards⟩, hslash⟩, hback⟩ := h
    exact ⟨⟨hempty, hhere, houtwards, hslash⟩, hback⟩
  · rintro ⟨⟨hempty, hhere, houtwards, hslash⟩, hback⟩
    have hparent : s ≠ ['.', '.'] := houtwards
    simp [hempty, hhere, hparent, hslash, hback]

namespace Path

/-- The pieces between separators hold none. -/
lemma not_mem_of_mem_splitOn {sep : Char} {s n : Text} (h : n ∈ s.splitOn sep) : sep ∉ n := by
  intro hsep
  simpa using Text.forall_mem_splitOnP h sep hsep

lemma mem_names_ofText {s n : Text} (h : n ∈ (ofText s).names) :
    n ≠ [] ∧ n ≠ ['.'] ∧ '/' ∉ n := by
  unfold ofText at h
  rw [List.mem_reverse, List.mem_filter] at h
  obtain ⟨hpiece, hname⟩ := h
  unfold isName at hname
  rw [Bool.and_eq_true, Bool.not_eq_true', List.isEmpty_eq_false_iff, bne_iff_ne] at hname
  exact ⟨hname.1, hname.2, not_mem_of_mem_splitOn hpiece⟩

/-- The name of an entry spells the path that leads there from where one is. -/
lemma ofText_of_isEntry {s : Text} (h : IsEntry s) : ofText s = ⟨[], [s]⟩ := by
  have hroot : s.takeWhile (· == '/') = [] := by
    rw [List.takeWhile_eq_nil_iff]
    intro hlength hfirst
    have hmem : s.get ⟨0, hlength⟩ ∈ s := List.get_mem ..
    rw [eq_of_beq hfirst] at hmem
    exact h.noSlash hmem
  have hname : isName s = true := by
    unfold isName
    simp [h.nonempty, h.notHere]
  unfold ofText rootOf
  rw [hroot, List.splitOn_eq_singleton h.noSlash]
  simp [hname]

lemma join_ofText {s : Text} (h : IsEntry s) (p : Path) :
    p.join (ofText s) = ⟨p.root, s :: p.names⟩ := by
  rw [ofText_of_isEntry h]
  rfl

end Path

/-- The last name of a path to a file is that of an entry. -/
lemma Disk.isEntry_name_of_isFile {d : Disk} {s : Text} (h : d.isFile (Path.ofText s) = .ok true) :
    IsEntry (Path.ofText s).name := by
  obtain ⟨l, content, hl, hfile⟩ := isFile_eq_ok_true_iff.1 h
  have hplace : d.standing l ≠ some .directory := by simp [hfile]
  have hspelled := fun n => Path.mem_names_ofText (s := s) (n := n)
  generalize Path.ofText s = p at hl hspelled ⊢
  obtain ⟨root, names⟩ := p
  cases names with
  | nil => exact absurd (standing_of_locate_nil hl) hplace
  | cons n names =>
    obtain ⟨hempty, hhere, hslash⟩ := hspelled n List.mem_cons_self
    exact ⟨hempty, hhere, ne_outwards_of_locate hl hplace, hslash⟩

end Formwork
