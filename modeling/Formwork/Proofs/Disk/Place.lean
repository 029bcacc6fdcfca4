import Formwork.Disk
import Formwork.Proofs.Stages
import Mathlib.Data.List.Infix
import Mathlib.Data.List.Basic

/-!
# Where paths lead

Names are looked up one after the other, and a link is replaced by the path it stands for.  What is
done to one name is said by `Setting.walk_cons`, and a walk that succeeds is a chain of such steps,
`Setting.Walks`.  So what is known of the location of a path is shown by induction on these steps.

A path leads through its parent: when it has a location, so has the parent, and there is a directory
(`Disk.exists_parent_of_locate`); and in a directory a name that is not that of a link leads to the
location with that name (`Setting.locate_cons`).

Where a path leads depends on the disk only in whether it leads anywhere.  The location is the same on
every disk of a setting on which the path has one, its `Setting.target`; this is where the path would
lead if everything were a directory.  There are directories on the way to it (`Disk.way_of_locate`).
-/

namespace Formwork.Disk

/-! ## Locations -/

/-- The first location is a directory that the second one lies in, at whatever depth. -/
def Above (l m : Location) : Prop := l <:+ m ∧ l ≠ m

instance (l m : Location) : Decidable (Above l m) := inferInstanceAs (Decidable (_ ∧ _))

section Locations

variable {d : Disk} {l m : Location} {n : Text}

lemma above_cons_iff : Above m (n :: l) ↔ m <:+ l := by
  constructor
  · rintro ⟨hm, hne⟩
    exact (List.suffix_cons_iff.1 hm).resolve_left hne
  · intro hm
    refine ⟨hm.trans (List.suffix_cons n l), fun he => ?_⟩
    have hlength := hm.length_le
    rw [he, List.length_cons] at hlength
    omega

lemma suffix_iff_eq_or_above : m <:+ l ↔ m = l ∨ Above m l := by
  constructor
  · intro h
    by_cases he : m = l
    · exact .inl he
    · exact .inr ⟨h, he⟩
  · rintro (rfl | h)
    · exact List.suffix_refl m
    · exact h.1

/-- What stands on the way to a location are directories. -/
def Way (d : Disk) (l : Location) : Prop := ∀ k, Above k l → d.standing k = some .directory

lemma way_cons_iff : d.Way (n :: l) ↔ d.standing l = some .directory ∧ d.Way l := by
  unfold Way
  simp only [above_cons_iff, suffix_iff_eq_or_above, forall_eq_or_imp]

instance (d : Disk) (l : Location) : Decidable (d.Way l) :=
  decidable_of_iff (∀ k ∈ l.tails, k ≠ l → d.standing k = some .directory)
    ⟨fun h k hk => h k ((List.mem_tails ..).2 hk.1) hk.2,
      fun h k hk hne => h k ⟨(List.mem_tails ..).1 hk, hne⟩⟩

lemma standing_of_isGiven (h : d.setting.isGiven l = true) : d.standing l = some .directory :=
  if_pos h

lemma isGiven_iff {s : Setting} : s.isGiven l = true ↔ l <:+ s.here := List.isSuffixOf_iff_suffix

/-- What is there without having been made lies in directories. -/
lemma way_of_isGiven (h : d.setting.isGiven l = true) : d.Way l :=
  fun _ hk => standing_of_isGiven (isGiven_iff.2 (hk.1.trans (isGiven_iff.1 h)))

lemma follow_of_ne (l : Location) (h : n ≠ outwards) : follow l n = n :: l := if_neg h

/-- A name leads on from a directory to a location in directories. -/
lemma way_follow (hway : d.Way l) (h : d.standing l = some .directory) : d.Way (follow l n) := by
  unfold follow
  split
  · cases l with
    | nil => exact hway
    | cons a l => exact (way_cons_iff.1 hway).2
  · exact way_cons_iff.2 ⟨h, hway⟩

/-- What lies outwards of a directory is a directory. -/
lemma standing_follow_outwards (hway : d.Way l) (h : d.standing l = some .directory) :
    d.standing (follow l outwards) = some .directory := by
  unfold follow
  rw [if_pos rfl]
  cases l with
  | nil => exact h
  | cons a l => exact (way_cons_iff.1 hway).1

end Locations

/-! ## Flaws -/

section Flaws

variable {root n : Text} {names : List Text}

lemma utf8Size_append (s t : Text) : utf8Size (s ++ t) = utf8Size s + utf8Size t := by
  simp [utf8Size, Encoding.encodeUtf8]

lemma intercalate_prefix_concat (sep : Text) (ls : List Text) (l : Text) :
    List.intercalate sep ls <+: List.intercalate sep (ls ++ [l]) := by
  induction ls with
  | nil => exact List.nil_prefix
  | cons a ls ih =>
    cases ls with
    | nil => simp [List.intercalate_cons_cons]
    | cons b ls =>
      rw [List.cons_append, List.cons_append, List.intercalate_cons_cons,
        List.intercalate_cons_cons, List.prefix_append_right_inj]
      exact ih

/-- The text of a path is not shorter than that of its parent, or else the parent is the working
directory. -/
lemma utf8Size_text_parent (root n : Text) (names : List Text) :
    utf8Size (Path.text ⟨root, names⟩) ≤ utf8Size (Path.text ⟨root, n :: names⟩) ∨
      Path.text ⟨root, names⟩ = ['.'] := by
  by_cases hhere : root.isEmpty && names.isEmpty
  · exact .inr (if_pos hhere)
  · have hparent : Path.text ⟨root, names⟩ = root ++ List.intercalate ['/'] names.reverse :=
      if_neg hhere
    have hchild : Path.text ⟨root, n :: names⟩ =
        root ++ List.intercalate ['/'] (n :: names).reverse := if_neg (by simp)
    have hbegin : List.intercalate ['/'] names.reverse <+:
        List.intercalate ['/'] (n :: names).reverse := by
      rw [List.reverse_cons]
      exact intercalate_prefix_concat _ _ _
    obtain ⟨rest, hrest⟩ := hbegin
    refine .inl ?_
    rw [hparent, hchild, ← hrest, ← List.append_assoc, utf8Size_append _ rest]
    exact Nat.le_add_right _ _

lemma flaw?_eq_none_iff {p : Path} :
    Setting.flaw? p = none ↔ (∀ n ∈ p.names, '\x00' ∉ n) ∧ utf8Size p.text < pathSizeLimit := by
  have hnull : (p.names.any fun n => n.contains '\x00') = true ↔ ¬ ∀ n ∈ p.names, '\x00' ∉ n := by
    simp
  unfold Setting.flaw?
  split
  · rename_i h
    exact ⟨nofun, fun hfine => absurd hfine.1 (hnull.1 h)⟩
  · rename_i h
    rw [hnull, not_not] at h
    split
    · rename_i hlong
      exact ⟨nofun, fun hfine => absurd hfine.2 (Nat.not_lt_of_le hlong)⟩
    · rename_i hshort
      exact ⟨fun _ => ⟨h, Nat.lt_of_not_le hshort⟩, fun _ => rfl⟩

/-- The parent of a path without flaws has none. -/
lemma flaw?_parent (h : Setting.flaw? ⟨root, n :: names⟩ = none) :
    Setting.flaw? ⟨root, names⟩ = none := by
  rw [flaw?_eq_none_iff] at h ⊢
  refine ⟨fun m hm => h.1 m (List.mem_cons_of_mem _ hm), ?_⟩
  rcases utf8Size_text_parent root n names with hle | hpoint
  · exact Nat.lt_of_le_of_lt hle h.2
  · rw [hpoint]
    decide

end Flaws

/-! ## Walking -/

namespace Setting

variable {s : Setting} {look look' : Location → Option Entry} {l m : Location} {n : Text}
  {names : List Text} {links : Nat} {r : Location × Nat}

lemma enter_eq_ok_iff :
    s.enter look l n = .ok m ↔ look l = some .directory ∧ s.refuses .search l = none ∧
      utf8Size n ≤ maxNameSize ∧ m = follow l n := by
  unfold enter
  cases look l with
  | none => simp
  | some e =>
    cases e with
    | file => simp
    | directory =>
      cases s.refuses .search l with
      | some reason => simp
      | none =>
        dsimp only
        split
        · rename_i hlong
          exact ⟨nofun, fun h => absurd h.2.2.1 (Nat.not_le_of_lt hlong)⟩
        · rename_i hshort
          rw [Except.ok.injEq]
          exact ⟨fun h => ⟨rfl, rfl, Nat.le_of_not_lt hshort, h.symm⟩, fun h => h.2.2.2.symm⟩

/-- Looking up a name: it leads on from a directory, or it is that of a link, which is followed as
long as there are links left to follow. -/
lemma walk_cons (s : Setting) (look : Location → Option Entry) (links : Nat) (l : Location)
    (n : Text) (names : List Text) :
    s.walk look links l (n :: names) = s.enter look l n >>= fun m =>
      match s.linkAt l n with
      | none => s.walk look links m names
      | some p =>
        match links with
        | 0 => .error .tooManyLinks
        | links + 1 => s.walk look links (startFrom l p.root) (p.names.reverse ++ names) := by
  cases links <;> rw [walk, walkBy] <;> cases s.enter look l n <;> cases s.linkAt l n <;> rfl

lemma walk_nil (links : Nat) (l : Location) : s.walk look links l [] = .ok (l, links) := by
  cases links <;> rfl

/-- What holds of no names, and of a name when it holds of what is looked up after it, holds of all
walks. -/
lemma walk_induction {P : Nat → Location → List Text → Prop} (nil : ∀ links l, P links l [])
    (cons : ∀ links l n names, P links (follow l n) names →
      (∀ p rest, s.linkAt l n = some p → links = rest + 1 →
        P rest (startFrom l p.root) (p.names.reverse ++ names)) → P links l (n :: names))
    (links : Nat) (l : Location) (names : List Text) : P links l names := by
  induction links generalizing l names with
  | zero =>
    induction names generalizing l with
    | nil => exact nil 0 l
    | cons n names ih => exact cons 0 l n names (ih _) fun _ _ _ h => absurd h.symm (Nat.succ_ne_zero _)
  | succ links ihLinks =>
    induction names generalizing l with
    | nil => exact nil _ l
    | cons n names ih =>
      refine cons _ l n names (ih _) fun p rest _ h => ?_
      cases h
      exact ihLinks _ _

lemma walk_append (s : Setting) (look : Location → Option Entry) (links : Nat) (l : Location)
    (a b : List Text) :
    s.walk look links l (a ++ b) =
      s.walk look links l a >>= fun r => s.walk look r.2 r.1 b := by
  induction links, l, a using walk_induction (s := s) with
  | nil links l => rw [walk_nil]; rfl
  | cons links l n a ih ihLink =>
    rw [List.cons_append, walk_cons, walk_cons]
    cases hm : s.enter look l n with
    | error cause => rfl
    | ok m =>
      obtain ⟨-, -, -, rfl⟩ := enter_eq_ok_iff.1 hm
      cases hp : s.linkAt l n with
      | none => exact ih
      | some p =>
        cases links with
        | zero => rfl
        | succ links =>
          have hrest := ihLink p links hp rfl
          rw [List.append_assoc] at hrest
          exact hrest

/-- A walk that succeeds: names lead on from directories, and links are followed. -/
inductive Walks (s : Setting) (look : Location → Option Entry) :
    Nat → Location → List Text → Location × Nat → Prop
  | stay (links : Nat) (l : Location) : Walks s look links l [] (l, links)
  | step {links : Nat} {l m : Location} {n : Text} {names : List Text} {r : Location × Nat}
    (enter : s.enter look l n = .ok m) (plain : s.linkAt l n = none)
    (rest : Walks s look links m names r) : Walks s look links l (n :: names) r
  | jump {links : Nat} {l m : Location} {n : Text} {names : List Text} {r : Location × Nat} {p : Path}
    (enter : s.enter look l n = .ok m) (link : s.linkAt l n = some p)
    (rest : Walks s look links (startFrom l p.root) (p.names.reverse ++ names) r) :
    Walks s look (links + 1) l (n :: names) r

lemma walk_eq_ok_iff : s.walk look links l names = .ok r ↔ s.Walks look links l names r := by
  constructor
  · intro h
    induction links, l, names using walk_induction (s := s) with
    | nil links l =>
      rw [walk_nil] at h
      cases h
      exact .stay links l
    | cons links l n names ih ihLink =>
      rw [walk_cons] at h
      obtain ⟨m, hm, h⟩ := Except.bind_eq_ok_iff.1 h
      obtain ⟨-, -, -, rfl⟩ := enter_eq_ok_iff.1 hm
      cases hp : s.linkAt l n with
      | none =>
        rw [hp] at h
        exact .step hm hp (ih h)
      | some p =>
        rw [hp] at h
        cases links with
        | zero => cases h
        | succ links => exact .jump hm hp (ihLink p links hp rfl h)
  · intro h
    induction h with
    | stay links l => exact walk_nil links l
    | step enter plain rest ih =>
      rw [walk_cons, enter]
      change (match s.linkAt _ _ with | none => _ | some p => _) = _
      rw [plain]
      exact ih
    | jump enter link rest ih =>
      rw [walk_cons, enter]
      change (match s.linkAt _ _ with | none => _ | some p => _) = _
      rw [link]
      exact ih

/-- A walk goes the same way wherever there are directories at least where there were. -/
lemma Walks.mono (hlook : ∀ k, look k = some .directory → look' k = some .directory)
    (h : s.Walks look links l names r) : s.Walks look' links l names r := by
  have henter : ∀ {l m : Location} {n : Text}, s.enter look l n = .ok m → s.enter look' l n = .ok m := by
    intro l m n h
    obtain ⟨hdirectory, hrest⟩ := enter_eq_ok_iff.1 h
    exact enter_eq_ok_iff.2 ⟨hlook l hdirectory, hrest⟩
  induction h with
  | stay links l => exact .stay links l
  | step enter plain _ ih => exact .step (henter enter) plain ih
  | jump enter link _ ih => exact .jump (henter enter) link ih

/-! ## Paths -/

variable {p : Path} {root : Text}

lemma lead_eq_ok_iff :
    s.lead look p = .ok r ↔
      flaw? p = none ∧ s.Walks look maxLinks (startFrom s.here p.root) p.names.reverse r := by
  unfold lead
  cases flaw? p with
  | some cause => simp
  | none => simp [walk_eq_ok_iff]

lemma locate_eq_ok_iff :
    s.locate look p = .ok l ↔ ∃ links, s.lead look p = .ok (l, links) := by
  unfold locate
  rw [Except.map_eq_ok_iff]
  exact ⟨fun ⟨r, hr, he⟩ => ⟨r.2, by rw [hr, ← he]⟩, fun ⟨links, h⟩ => ⟨_, h, rfl⟩⟩

lemma flaw?_of_locate (h : s.locate look p = .ok l) : flaw? p = none := by
  obtain ⟨links, h⟩ := locate_eq_ok_iff.1 h
  exact (lead_eq_ok_iff.1 h).1

lemma locate_mono (hlook : ∀ k, look k = some .directory → look' k = some .directory)
    (h : s.locate look p = .ok l) : s.locate look' p = .ok l := by
  obtain ⟨links, h⟩ := locate_eq_ok_iff.1 h
  obtain ⟨hflaw, hwalk⟩ := lead_eq_ok_iff.1 h
  exact locate_eq_ok_iff.2 ⟨links, lead_eq_ok_iff.2 ⟨hflaw, hwalk.mono hlook⟩⟩

/-- A path leads through its parent. -/
lemma lead_cons (s : Setting) (look : Location → Option Entry)
    (h : flaw? ⟨root, n :: names⟩ = none) :
    s.lead look ⟨root, n :: names⟩ =
      s.lead look ⟨root, names⟩ >>= fun r => s.walk look r.2 r.1 [n] := by
  unfold lead
  rw [h, flaw?_parent h]
  dsimp only
  rw [List.reverse_cons]
  exact walk_append s look _ _ _ _

/-- A path that has a location leads through a directory, in which its last name is looked up. -/
lemma exists_parent_of_locate (h : s.locate look ⟨root, n :: names⟩ = .ok m) :
    ∃ l, s.locate look ⟨root, names⟩ = .ok l ∧ s.enter look l n = .ok (follow l n) ∧
      (s.linkAt l n = none → m = follow l n) := by
  obtain ⟨links, hlead⟩ := locate_eq_ok_iff.1 h
  rw [lead_cons s look (flaw?_of_locate h)] at hlead
  obtain ⟨⟨l, rest⟩, hl, hlast⟩ := Except.bind_eq_ok_iff.1 hlead
  refine ⟨l, locate_eq_ok_iff.2 ⟨rest, hl⟩, ?_⟩
  rw [walk_cons] at hlast
  obtain ⟨k, hk, hlast⟩ := Except.bind_eq_ok_iff.1 hlast
  obtain ⟨-, -, -, rfl⟩ := enter_eq_ok_iff.1 hk
  refine ⟨hk, fun hplain => ?_⟩
  rw [hplain] at hlast
  change s.walk look rest _ [] = _ at hlast
  rw [walk_nil] at hlast
  cases hlast
  rfl

/-- In a directory, a name that is not that of a link leads to the location with that name. -/
lemma locate_cons (hflaw : flaw? ⟨root, n :: names⟩ = none) (hl : s.locate look ⟨root, names⟩ = .ok l)
    (henter : s.enter look l n = .ok m) (hplain : s.linkAt l n = none) :
    s.locate look ⟨root, n :: names⟩ = .ok m := by
  obtain ⟨links, hlead⟩ := locate_eq_ok_iff.1 hl
  refine locate_eq_ok_iff.2 ⟨links, ?_⟩
  rw [lead_cons s look hflaw, hlead]
  change s.walk look links l [n] = _
  rw [walk_cons, henter]
  change (match s.linkAt _ _ with | none => _ | some p => _) = _
  rw [hplain]
  exact walk_nil links m

/-- Where a path leads if it leads anywhere. -/
def target (s : Setting) (p : Path) : Option Location :=
  (s.locate (fun _ => some .directory) p).toOption

lemma target_eq_some_iff : s.target p = some l ↔ s.locate (fun _ => some .directory) p = .ok l := by
  unfold target
  cases s.locate (fun _ => some .directory) p <;> simp [Except.toOption]

end Setting

/-! ## Paths on a disk -/

section Paths

variable {d e : Disk} {l m : Location} {p : Path} {root n : Text} {names : List Text}

/-- A path leads to its target, on whatever disk. -/
lemma target_of_locate (h : d.locate p = .ok l) : d.setting.target p = some l :=
  Setting.target_eq_some_iff.2 (Setting.locate_mono (fun _ _ => rfl) h)

lemma way_of_walks {links : Nat} {r : Location × Nat}
    (h : d.setting.Walks d.standing links l names r) (hl : d.Way l) : d.Way r.1 := by
  induction h with
  | stay => exact hl
  | step enter plain rest ih =>
    obtain ⟨hdirectory, -, -, rfl⟩ := Setting.enter_eq_ok_iff.1 enter
    exact ih (way_follow hl hdirectory)
  | jump enter link rest ih =>
    refine ih ?_
    unfold Setting.startFrom
    split
    · exact hl
    · exact way_of_isGiven (isGiven_iff.2 List.nil_suffix)

/-- There are directories on the way to the location of a path. -/
lemma way_of_locate (h : d.locate p = .ok l) : d.Way l := by
  obtain ⟨links, hlead⟩ := Setting.locate_eq_ok_iff.1 h
  obtain ⟨-, hwalk⟩ := Setting.lead_eq_ok_iff.1 hlead
  refine way_of_walks hwalk (way_of_isGiven (isGiven_iff.2 ?_))
  unfold Setting.startFrom
  split
  · exact List.suffix_refl _
  · exact List.nil_suffix

/-- The directory of a path that has a location. -/
lemma exists_parent_of_locate (h : d.locate ⟨root, n :: names⟩ = .ok m) :
    ∃ l, d.locate ⟨root, names⟩ = .ok l ∧ d.standing l = some .directory ∧
      (d.setting.linkAt l n = none → m = follow l n) := by
  obtain ⟨l, hl, henter, hlast⟩ := Setting.exists_parent_of_locate h
  exact ⟨l, hl, (Setting.enter_eq_ok_iff.1 henter).1, hlast⟩

lemma standing_of_locate_nil (h : d.locate ⟨root, []⟩ = .ok l) : d.standing l = some .directory := by
  obtain ⟨links, hlead⟩ := Setting.locate_eq_ok_iff.1 h
  obtain ⟨-, hwalk⟩ := Setting.lead_eq_ok_iff.1 hlead
  cases hwalk
  refine standing_of_isGiven (isGiven_iff.2 ?_)
  unfold Setting.startFrom
  split
  · exact List.suffix_refl _
  · exact List.nil_suffix

/-- The last name of a path to anything but a directory does not lead outwards. -/
lemma ne_outwards_of_locate (h : d.locate ⟨root, n :: names⟩ = .ok m)
    (hm : d.standing m ≠ some .directory) : n ≠ outwards := by
  rintro rfl
  obtain ⟨l, hl, hdirectory, hlast⟩ := exists_parent_of_locate h
  rw [hlast (if_pos rfl)] at hm
  exact hm (standing_follow_outwards (way_of_locate hl) hdirectory)

end Paths

end Formwork.Disk
