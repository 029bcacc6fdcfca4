import Formwork.Proofs.Disk.Later

/-!
# Directories that can be provided

A path can be provided with a directory when it leads to one, or when its parent can be provided and
nothing is in the way of a new directory there (`Leads`).  In this case providing succeeds, and makes
exactly the directories that are missing (`Leads.provideAll`).  On a rooted disk there is no other
case for a path that never leads outwards (`Disk.leads_of_provideAll`).

A path aims at a location when it leads to something else than a directory there, or would if its
parent were provided first (`Aims`).  On a rooted disk without links and refusals these are notions
about single locations: what stands on the way from the start of the path to its place, the list of its
names, must be directories as far as it stands (`Disk.aims_of_clear`).
-/

namespace Formwork.Disk

variable {d e f : Disk} {k l m : Location} {root n : Text} {names : List Text}

/-- The path of these names leads to a directory at the location, or can be provided with one there:
names of it may be missing, if they can be made. -/
inductive Leads (d : Disk) (root : Text) : List Text → Location → Prop
  | there {names : List Text} {k : Location} (locate : d.locate ⟨root, names⟩ = .ok k)
    (directory : d.standing k = some .directory) : Leads d root names k
  | missing {n : Text} {names : List Text} {k : Location} (parent : Leads d root names k)
    (sound : Setting.flaw? ⟨root, n :: names⟩ = none) (inward : n ≠ outwards)
    (size : utf8Size n ≤ maxNameSize) (searched : d.setting.refuses .search k = none)
    (vacant : d.isVacant (n :: k) = true) (made : d.setting.refuses .make (n :: k) = none) :
    Leads d root (n :: names) (n :: k)

namespace Leads

lemma locate_of_directory (h : d.Leads root names k) (hk : d.standing k = some .directory) :
    d.locate ⟨root, names⟩ = .ok k := by
  cases h with
  | there locate => exact locate
  | missing _ _ _ _ _ vacant =>
    rw [(isVacant_iff.1 vacant).1] at hk
    cases hk

lemma free (h : d.Leads root names k) : d.standing k = none ∨ d.standing k = some .directory := by
  cases h with
  | there _ directory => exact .inr directory
  | missing _ _ _ _ _ vacant => exact .inl (isVacant_iff.1 vacant).1

end Leads

/-- A name that is not that of a link leads from a directory to a location with that name. -/
lemma locate_cons_of_vacant (hsound : Setting.flaw? ⟨root, n :: names⟩ = none)
    (hl : d.locate ⟨root, names⟩ = .ok k) (hk : d.standing k = some .directory) (hn : n ≠ outwards)
    (hsize : utf8Size n ≤ maxNameSize) (hsearched : d.setting.refuses .search k = none)
    (hplain : d.setting.links (n :: k) = none) :
    d.setting.enter d.standing k n = .ok (n :: k) ∧ d.locate ⟨root, n :: names⟩ = .ok (n :: k) := by
  have henter : d.setting.enter d.standing k n = .ok (n :: k) :=
    Setting.enter_eq_ok_iff.2 ⟨hk, hsearched, hsize, (follow_of_ne k hn).symm⟩
  refine ⟨henter, Setting.locate_cons hsound hl henter ?_⟩
  unfold Setting.linkAt
  rw [if_neg hn, hplain]

/-- In a directory that a path leads to, another one can be made where nothing is. -/
lemma exists_provideDirectory (hsound : Setting.flaw? ⟨root, n :: names⟩ = none)
    (hl : d.locate ⟨root, names⟩ = .ok k) (hk : d.standing k = some .directory) (hn : n ≠ outwards)
    (hsize : utf8Size n ≤ maxNameSize) (hsearched : d.setting.refuses .search k = none)
    (hvacant : d.isVacant (n :: k) = true) (hmade : d.setting.refuses .make (n :: k) = none) :
    ∃ e, d.provideDirectory ⟨root, n :: names⟩ = .ok e ∧ e.locate ⟨root, n :: names⟩ = .ok (n :: k) ∧
      e.standing (n :: k) = some .directory ∧ ∀ l, l ≠ n :: k → e.standing l = d.standing l := by
  obtain ⟨hnone, hplain⟩ := isVacant_iff.1 hvacant
  obtain ⟨henter, -⟩ := locate_cons_of_vacant hsound hl hk hn hsize hsearched hplain
  have hmake : d.makeDirectory ⟨root, n :: names⟩ = .ok (d.put (n :: k) .directory) :=
    makeDirectory_eq_ok_iff.2 ⟨_, nameplace_cons_eq_ok_iff.2 ⟨hsound, k, hl, henter⟩, hvacant, hmade,
      rfl⟩
  have hgrown := grown_makeDirectory hmake
  exact ⟨_, provideDirectory_eq_ok_iff.2 (.inl hmake),
    (locate_cons_of_vacant hsound (hgrown.locate hl) (hgrown.directories k hk) hn hsize hsearched
      hplain).2,
    standing_put_self (by simp [hnone]) _, fun l hne => standing_put_of_ne d hne _⟩

/-- Where the parent is missing, or leads nowhere for that reason, a path leads nowhere yet. -/
lemma locate_cons_of_absent (hsound : Setting.flaw? ⟨root, n :: names⟩ = none)
    (h : d.locate ⟨root, names⟩ = .error .absent ∨
      ∃ k, d.locate ⟨root, names⟩ = .ok k ∧ d.standing k = none) :
    d.locate ⟨root, n :: names⟩ = .error .absent ∧
      d.nameplace ⟨root, n :: names⟩ = .error .absent := by
  have hname : d.nameplace ⟨root, n :: names⟩ =
      d.locate ⟨root, names⟩ >>= fun l => d.setting.enter d.standing l n := by
    unfold nameplace
    rw [hsound]
  have hlast : d.locate ⟨root, n :: names⟩ =
      (d.setting.lead d.standing ⟨root, names⟩ >>= fun r =>
        d.setting.walk d.standing r.2 r.1 [n]).map Prod.fst := by
    unfold Disk.locate Setting.locate
    rw [Setting.lead_cons _ _ hsound]
  rw [hname, hlast]
  rcases h with habsent | ⟨k, hk, hnone⟩
  · rw [habsent]
    unfold Disk.locate Setting.locate at habsent
    rw [Except.map_eq_error_iff.1 habsent]
    exact ⟨rfl, rfl⟩
  · have henter : d.setting.enter d.standing k n = .error .absent := by
      unfold Setting.enter
      rw [hnone]
    obtain ⟨links, hlead⟩ := Setting.locate_eq_ok_iff.1 hk
    rw [hk, hlead]
    refine ⟨?_, henter⟩
    change (d.setting.walk d.standing links k [n]).map _ = _
    rw [Setting.walk_cons, henter]
    rfl

/-- What is made on the way to a location is not below it. -/
lemma standing_below (h : ∀ l, e.standing l = d.standing l ∨
    d.standing l = none ∧ e.standing l = some .directory ∧ l <:+ k) :
    e.standing (n :: k) = d.standing (n :: k) := by
  rcases h (n :: k) with hsame | ⟨-, -, hsuffix⟩
  · exact hsame
  · exact absurd rfl (above_cons_iff.2 hsuffix).2

namespace Leads

lemma locate (h : d.Leads root names k) :
    d.locate ⟨root, names⟩ = .ok k ∨ d.standing k = none ∧ d.locate ⟨root, names⟩ = .error .absent := by
  induction h with
  | there locate => exact .inl locate
  | missing parent sound inward size searched vacant made ih =>
    rcases parent.free with hnone | hdirectory
    · refine .inr ⟨(isVacant_iff.1 vacant).1, (locate_cons_of_absent sound ?_).1⟩
      exact ih.symm.imp And.right fun hl => ⟨_, hl, hnone⟩
    · exact .inl (locate_cons_of_vacant sound (parent.locate_of_directory hdirectory) hdirectory
        inward size searched (isVacant_iff.1 vacant).2).2

lemma locate_cons_of_missing (h : d.Leads root names k) (hk : d.standing k = none)
    (hsound : Setting.flaw? ⟨root, n :: names⟩ = none) :
    d.locate ⟨root, n :: names⟩ = .error .absent ∧
      d.nameplace ⟨root, n :: names⟩ = .error .absent :=
  locate_cons_of_absent hsound (h.locate.symm.imp And.right fun hl => ⟨k, hl, hk⟩)

lemma target (h : d.Leads root names k) : d.setting.target ⟨root, names⟩ = some k := by
  induction h with
  | there locate => exact target_of_locate locate
  | missing parent sound inward size searched vacant made ih =>
    rw [Setting.target_eq_some_iff] at ih ⊢
    refine Setting.locate_cons sound ih
      (Setting.enter_eq_ok_iff.2 ⟨rfl, searched, size, (follow_of_ne _ inward).symm⟩) ?_
    unfold Setting.linkAt
    rw [if_neg inward, (isVacant_iff.1 vacant).2]

/-- It stays so on a later disk, as long as nothing but directories has been made on the way. -/
lemma mono (h : d.Leads root names k) (hlater : d.Later e)
    (hfree : ∀ l, l <:+ k → d.standing l = none →
      e.standing l = none ∨ e.standing l = some .directory) : e.Leads root names k := by
  induction h with
  | there locate directory => exact .there (hlater.locate locate) (hlater.directories _ directory)
  | @missing n names k parent sound inward size searched vacant made ih =>
    have hparent := ih fun l hl => hfree l (hl.trans (List.suffix_cons n k))
    rw [← hlater.setting] at searched made
    obtain ⟨hnone, hplain⟩ := isVacant_iff.1 vacant
    rw [← hlater.setting] at hplain
    rcases hfree _ (List.suffix_refl _) hnone with hstill | hmade
    · exact .missing hparent sound inward size searched (isVacant_iff.2 ⟨hstill, hplain⟩) made
    · have hdirectory : e.standing k = some .directory :=
        (way_cons_iff.1 (hlater.ways _ hnone (by simp [hmade]))).1
      exact .there (locate_cons_of_vacant sound (hparent.locate_of_directory hdirectory) hdirectory
        inward size searched hplain).2 hmade

/-- What can be provided is provided, by making directories on the way that are missing. -/
lemma provideAll (h : d.Leads root names k) :
    ∃ e, d.provideAll root names = (e, none) ∧ e.locate ⟨root, names⟩ = .ok k ∧
      e.standing k = some .directory ∧ ∀ l, e.standing l = d.standing l ∨
        d.standing l = none ∧ e.standing l = some .directory ∧ l <:+ k := by
  induction h with
  | there locate directory =>
    exact ⟨d, provideAll_of_isDirectory (isDirectory_eq_ok_true_iff.2 ⟨_, locate, directory⟩), locate,
      directory, fun _ => .inl rfl⟩
  | @missing n names k parent sound inward size searched vacant made ih =>
    obtain ⟨hnone, hplain⟩ := isVacant_iff.1 vacant
    rcases parent.free with hmissing | hdirectory
    · obtain ⟨f, hf, hl, hk, hbetween⟩ := ih
      have hsetting : f.setting = d.setting := (grown_of_provideAll hf).setting
      have hvacant : f.isVacant (n :: k) = true :=
        isVacant_iff.2 ⟨(standing_below hbetween).trans hnone, hsetting ▸ hplain⟩
      obtain ⟨e, he, hlocate, hthere, hsame⟩ := exists_provideDirectory sound hl hk inward size
        (hsetting ▸ searched) hvacant (hsetting ▸ made)
      refine ⟨e, ?_, hlocate, hthere, fun l => ?_⟩
      · rw [Disk.provideAll,
          provideDirectory_of_absent (parent.locate_cons_of_missing hmissing sound).2]
        dsimp only
        rw [hf]
        dsimp only
        rw [he]
      · by_cases hlk : l = n :: k
        · subst hlk
          exact .inr ⟨hnone, hthere, List.suffix_refl _⟩
        · rw [hsame l hlk]
          refine (hbetween l).imp_right (And.imp_right (And.imp_right fun hsuffix => ?_))
          exact hsuffix.trans (List.suffix_cons n k)
    · obtain ⟨e, he, hlocate, hthere, hsame⟩ := exists_provideDirectory sound
        (parent.locate_of_directory hdirectory) hdirectory inward size searched vacant made
      refine ⟨e, by rw [Disk.provideAll, he], hlocate, hthere, fun l => ?_⟩
      by_cases hlk : l = n :: k
      · subst hlk
        exact .inr ⟨hnone, hthere, List.suffix_refl _⟩
      · exact .inl (hsame l hlk)

end Leads

/-- A directory that was made in another one, which led there. -/
lemma Leads.of_makeDirectory (h : d.makeDirectory ⟨root, n :: names⟩ = .ok e) (hn : n ≠ outwards) :
    ∃ k, d.Leads root (n :: names) (n :: k) := by
  obtain ⟨l, hl, hvacant, hmade, -⟩ := makeDirectory_eq_ok_iff.1 h
  obtain ⟨hsound, k, hk, henter⟩ := nameplace_cons_eq_ok_iff.1 hl
  obtain ⟨hdirectory, hsearched, hsize, rfl⟩ := Setting.enter_eq_ok_iff.1 henter
  rw [follow_of_ne k hn] at hvacant hmade
  exact ⟨k, .missing (.there hk hdirectory) hsound hn hsize hsearched hvacant hmade⟩

lemma exists_leads_of_isDirectory (h : d.isDirectory ⟨root, names⟩ = .ok true) :
    ∃ k, d.Leads root names k := by
  obtain ⟨k, hk, hdirectory⟩ := isDirectory_eq_ok_true_iff.1 h
  exact ⟨k, .there hk hdirectory⟩

/-- Where a name is looked up once the parent is provided, nothing was before: if anything had been, the
parent would have been a directory, and nothing missing. -/
lemma not_way_of_missing (hk : d.Leads root names k)
    (hmissing : d.nameplace ⟨root, n :: names⟩ = .error .absent) (hsetting : f.setting = d.setting)
    (hsound : Setting.flaw? ⟨root, n :: names⟩ = none)
    (henter : f.setting.enter f.standing k n = .ok m) : ¬ d.Way (n :: k) := by
  intro hway
  obtain ⟨-, hrest⟩ := Setting.enter_eq_ok_iff.1 henter
  rw [hsetting] at hrest
  have hk' : d.standing k = some .directory := (way_cons_iff.1 hway).1
  have hname := nameplace_cons_eq_ok_iff.2 ⟨hsound, k, hk.locate_of_directory hk',
    Setting.enter_eq_ok_iff.2 ⟨hk', hrest⟩⟩
  cases hmissing.symm.trans hname

/-- A directory that is provided after its parent could be provided before. -/
lemma leads_cons_of_provideDirectory (hrooted : d.Rooted) (hk : d.Leads root names k) (hn : n ≠ outwards)
    (hmissing : d.nameplace ⟨root, n :: names⟩ = .error .absent) (hsetting : f.setting = d.setting)
    (hlocate : f.locate ⟨root, names⟩ = .ok k) (hsame : f.standing (n :: k) = d.standing (n :: k))
    (h : f.provideDirectory ⟨root, n :: names⟩ = .ok e) : d.Leads root (n :: names) (n :: k) := by
  rcases provideDirectory_eq_ok_iff.1 h with hmake | ⟨-, hdirectory⟩
  · obtain ⟨l, hl, hvacant, hmade, -⟩ := makeDirectory_eq_ok_iff.1 hmake
    obtain ⟨hsound, k', hk', henter⟩ := nameplace_cons_eq_ok_iff.1 hl
    cases hlocate.symm.trans hk'
    obtain ⟨-, hsearched, hsize, rfl⟩ := Setting.enter_eq_ok_iff.1 henter
    rw [follow_of_ne k hn, isVacant_iff, hsame, hsetting, ← isVacant_iff] at hvacant
    rw [follow_of_ne k hn, hsetting] at hmade
    rw [hsetting] at hsearched
    exact .missing hk hsound hn hsize hsearched hvacant hmade
  · obtain ⟨m, hm, hthere⟩ := isDirectory_eq_ok_true_iff.1 hdirectory
    have hsound := Setting.flaw?_of_locate hm
    obtain ⟨k', hk', henter, hlast⟩ := Setting.exists_parent_of_locate hm
    cases hlocate.symm.trans hk'
    have hbefore := not_way_of_missing hk hmissing hsetting hsound henter
    cases hplain : f.setting.links (n :: k) with
    | some q =>
      rw [hsetting] at hplain
      exact absurd (hrooted.links _ (by simp [hplain])) hbefore
    | none =>
      have hm' : m = n :: k := by
        rw [hlast (by rw [Setting.linkAt, if_neg hn, hplain]), follow_of_ne k hn]
      rw [hm', hsame] at hthere
      exact absurd (hrooted.entries _ (by simp [hthere])) hbefore

/-- On a rooted disk a path that never leads outwards could be provided if it was. -/
lemma leads_of_provideAll (hrooted : d.Rooted) (hinward : outwards ∉ names)
    (h : d.provideAll root names = (e, none)) : ∃ k, d.Leads root names k := by
  induction names generalizing e with
  | nil =>
    rw [provideAll] at h
    split at h
    · rename_i hprovide
      rcases provideDirectory_eq_ok_iff.1 hprovide with hmake | ⟨-, hdirectory⟩
      · obtain ⟨l, hl, hvacant, -⟩ := makeDirectory_eq_ok_iff.1 hmake
        rw [isVacant_iff, standing_of_locate_nil hl] at hvacant
        cases hvacant.1
      · exact exists_leads_of_isDirectory hdirectory
    · cases h
  | cons n names ih =>
    obtain ⟨hne, hinward⟩ := not_or.1 (List.mem_cons.not.1 hinward)
    have hn : n ≠ outwards := fun he => hne he.symm
    have hprovides := provides_provideAll d root n names
    rw [h] at hprovides
    cases hprovides with
    | once provide =>
      rcases provideDirectory_eq_ok_iff.1 provide with hmake | ⟨-, hdirectory⟩
      · obtain ⟨k, hk⟩ := Leads.of_makeDirectory hmake hn
        exact ⟨_, hk⟩
      · exact exists_leads_of_isDirectory hdirectory
    | @after f _ parent missing provide =>
      obtain ⟨k, hk⟩ := ih hinward parent
      obtain ⟨f', hf, hlocate, -, hmade⟩ := hk.provideAll
      cases parent.symm.trans hf
      exact ⟨_, leads_cons_of_provideDirectory hrooted hk hn missing
        (grown_of_provideAll parent).setting hlocate (standing_below hmade) provide⟩

/-! ## Files that can be written -/

/-- The path leads to the location, where no directory stands, or it would if its parent were there. -/
inductive Aims (d : Disk) : Path → Location → Prop
  | found {p : Path} {l : Location} (locate : d.locate p = .ok l)
    (free : d.standing l ≠ some .directory) : Aims d p l
  | new {root n : Text} {names : List Text} {k : Location} (parent : d.Leads root names k)
    (absent : d.standing k = none) (sound : Setting.flaw? ⟨root, n :: names⟩ = none)
    (inward : n ≠ outwards) (size : utf8Size n ≤ maxNameSize)
    (searched : d.setting.refuses .search k = none) (vacant : d.isVacant (n :: k) = true) :
    Aims d ⟨root, n :: names⟩ (n :: k)

namespace Aims

variable {p : Path}

lemma target (h : d.Aims p l) : d.setting.target p = some l := by
  cases h with
  | found locate => exact target_of_locate locate
  | new parent absent sound inward size searched vacant =>
    have hparent := Setting.target_eq_some_iff.1 parent.target
    rw [Setting.target_eq_some_iff]
    refine Setting.locate_cons sound hparent
      (Setting.enter_eq_ok_iff.2 ⟨rfl, searched, size, (follow_of_ne _ inward).symm⟩) ?_
    unfold Setting.linkAt
    rw [if_neg inward, (isVacant_iff.1 vacant).2]

lemma holds (h : d.Aims p l) : d.holds p = .ok (d.standing l).isSome := by
  cases h with
  | found locate => exact holds_of_locate locate
  | new parent absent sound inward size searched vacant =>
    rw [(isVacant_iff.1 vacant).1]
    exact holds_of_absent (parent.locate_cons_of_missing absent sound).1

/-- It stays so on a later disk, as long as nothing but directories has been made on the way and the
location is as it was. -/
lemma mono (h : d.Aims p l) (hlater : d.Later e) (hsame : e.standing l = d.standing l)
    (hfree : ∀ k, Above k l → d.standing k = none →
      e.standing k = none ∨ e.standing k = some .directory) : e.Aims p l := by
  cases h with
  | found locate free => exact .found (hlater.locate locate) (hsame ▸ free)
  | @new root n names k parent absent sound inward size searched vacant =>
    have hparent := parent.mono hlater fun j hj => hfree j (above_cons_iff.2 hj)
    obtain ⟨hnone, hplain⟩ := isVacant_iff.1 vacant
    rw [← hlater.setting] at searched hplain
    rcases hfree k (above_cons_iff.2 (List.suffix_refl k)) absent with hstill | hmade
    · exact .new hparent hstill sound inward size searched
        (isVacant_iff.2 ⟨hsame.trans hnone, hplain⟩)
    · exact .found (locate_cons_of_vacant sound (hparent.locate_of_directory hmade) hmade inward size
        searched hplain).2 (by simp [hsame, hnone])

/-- Once the parent has been provided, for which no more than directories on the way are made, the path
leads to the location. -/
lemma provideAll (h : d.Aims p l) :
    ∃ e, d.provideAll p.root p.parent.names = (e, none) ∧ e.locate p = .ok l ∧
      e.standing l = d.standing l ∧ ∀ k, e.standing k = d.standing k ∨
        d.standing k = none ∧ e.standing k = some .directory ∧ Above k l := by
  cases h with
  | found locate free =>
    obtain ⟨root, names⟩ := p
    cases names with
    | nil => exact absurd (standing_of_locate_nil locate) free
    | cons n names =>
      obtain ⟨k, hk, hdirectory, -⟩ := exists_parent_of_locate locate
      exact ⟨d, provideAll_of_isDirectory (isDirectory_eq_ok_true_iff.2 ⟨k, hk, hdirectory⟩), locate,
        rfl, fun _ => .inl rfl⟩
  | @new root n names k parent absent sound inward size searched vacant =>
    obtain ⟨e, he, hlocate, hdirectory, hmade⟩ := parent.provideAll
    have hgrown := grown_of_provideAll he
    have hplain := (isVacant_iff.1 vacant).2
    rw [← hgrown.setting] at searched hplain
    refine ⟨e, he, (locate_cons_of_vacant sound hlocate hdirectory inward size searched hplain).2, ?_,
      fun j => (hmade j).imp_right fun ⟨hnone, hthere, hj⟩ => ⟨hnone, hthere, above_cons_iff.2 hj⟩⟩
    rcases hmade (n :: k) with hsame | ⟨-, -, hsuffix⟩
    · exact hsame
    · exact absurd rfl (above_cons_iff.2 hsuffix).2

end Aims

/-! ## Plain disks -/

/-- There are no links, and the system refuses nothing. -/
structure Setting.IsPlain (s : Setting) : Prop where
  links : ∀ l, s.links l = none
  refuses : ∀ a l, s.refuses a l = none

/-- Where a path leads that never leads outwards, if there are no links. -/
def Setting.place (s : Setting) (p : Path) : Location := p.names ++ startFrom s.here p.root

/-- Nothing but directories stands on the way to a location. -/
def Clear (d : Disk) (l : Location) : Prop :=
  ∀ k, Above k l → d.standing k = none ∨ d.standing k = some .directory

instance (d : Disk) (l : Location) : Decidable (d.Clear l) :=
  decidable_of_iff (∀ k ∈ l.tails, k ≠ l → d.standing k = none ∨ d.standing k = some .directory)
    ⟨fun h k hk => h k ((List.mem_tails ..).2 hk.1) hk.2,
      fun h k hk hne => h k ⟨(List.mem_tails ..).1 hk, hne⟩⟩

/-- No name of the path is too long, and none leads outwards. -/
def Inward (names : List Text) : Prop := ∀ n ∈ names, n ≠ outwards ∧ utf8Size n ≤ maxNameSize

instance (names : List Text) : Decidable (Inward names) := inferInstanceAs (Decidable (∀ _ ∈ _, _))

lemma leads_of_clear (hrooted : d.Rooted) (hplain : d.setting.IsPlain)
    (hsound : Setting.flaw? ⟨root, names⟩ = none) (hinward : Inward names)
    (hclear : ∀ k, k <:+ d.setting.place ⟨root, names⟩ →
      d.standing k = none ∨ d.standing k = some .directory) :
    d.Leads root names (d.setting.place ⟨root, names⟩) := by
  induction names with
  | nil =>
    have hstart : d.locate ⟨root, []⟩ = .ok (Setting.startFrom d.setting.here root) :=
      Setting.locate_eq_ok_iff.2 ⟨_, Setting.lead_eq_ok_iff.2 ⟨hsound, .stay _ _⟩⟩
    exact .there hstart (standing_of_locate_nil hstart)
  | cons n names ih =>
    obtain ⟨⟨hn, hsize⟩, hnames⟩ := List.forall_mem_cons.1 hinward
    have hplace : d.setting.place ⟨root, n :: names⟩ = n :: d.setting.place ⟨root, names⟩ := rfl
    have hparent := ih (flaw?_parent hsound) hnames fun k hk =>
      hclear k (hplace ▸ hk.trans (List.suffix_cons _ _))
    rw [hplace]
    rcases hclear _ (List.suffix_refl _) with hnone | hdirectory
    · exact .missing hparent hsound hn hsize (hplain.refuses _ _)
        (isVacant_iff.2 ⟨hnone, hplain.links _⟩) (hplain.refuses _ _)
    · have hk := (way_cons_iff.1 (hrooted.entries _ (by rw [← hplace, hdirectory]; simp))).1
      exact .there (locate_cons_of_vacant hsound (hparent.locate_of_directory hk) hk hn hsize
        (hplain.refuses _ _) (hplain.links _)).2 hdirectory

/-- On a plain disk a path aims at its place when nothing but directories stands on the way. -/
theorem aims_of_clear {p : Path} (hrooted : d.Rooted) (hplain : d.setting.IsPlain)
    (hsound : Setting.flaw? p = none) (hinward : Inward p.names)
    (hclear : d.Clear (d.setting.place p)) (hfree : d.standing (d.setting.place p) ≠ some .directory) :
    d.Aims p (d.setting.place p) := by
  obtain ⟨root, names⟩ := p
  cases names with
  | nil =>
    have hstart : d.locate ⟨root, []⟩ = .ok (Setting.startFrom d.setting.here root) :=
      Setting.locate_eq_ok_iff.2 ⟨_, Setting.lead_eq_ok_iff.2 ⟨hsound, .stay _ _⟩⟩
    exact absurd (standing_of_locate_nil hstart) hfree
  | cons n names =>
    obtain ⟨⟨hn, hsize⟩, hnames⟩ := List.forall_mem_cons.1 hinward
    have hplace : d.setting.place ⟨root, n :: names⟩ = n :: d.setting.place ⟨root, names⟩ := rfl
    rw [hplace] at hclear hfree ⊢
    have hparent := leads_of_clear hrooted hplain (flaw?_parent hsound) hnames fun k hk =>
      hclear k (above_cons_iff.2 hk)
    rcases hparent.free with hnone | hdirectory
    · refine .new hparent hnone hsound hn hsize (hplain.refuses _ _)
        (isVacant_iff.2 ⟨?_, hplain.links _⟩)
      by_contra hthere
      rw [(way_cons_iff.1 (hrooted.entries _ hthere)).1] at hnone
      cases hnone
    · exact .found (locate_cons_of_vacant hsound (hparent.locate_of_directory hdirectory) hdirectory hn
        hsize (hplain.refuses _ _) (hplain.links _)).2 hfree

end Formwork.Disk
