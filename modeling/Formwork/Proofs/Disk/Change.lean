import Formwork.Proofs.Disk.Place

/-!
# What operations do to a disk

Each operation that succeeds puts one entry somewhere, or none: a directory where nothing was
(`Disk.makeDirectory_eq_ok_iff`), or a file where no directory stood (`Disk.openFile_eq_ok_iff`).  So a
disk that comes out of operations is a *later* one (`Later`): directories have stayed, files have stayed
files, and what is new lies in directories.  On a later disk a path that had a location has it still
(`Later.locate`).

Providing directories may take several steps and may stop on the way.  Whatever happens, it makes
directories where nothing stood and does nothing else (`Grown`, `Disk.grown_provideAll`).  When it
succeeds the path leads to a directory, and doing it again does nothing
(`Disk.provideAll_of_isDirectory`).  When it fails, doing it again fails too and does nothing
(`Disk.exists_error_of_provideAll`): what it has made does not help it any further.
-/

namespace Formwork.Disk

variable {d e f : Disk} {l m : Location} {p q : Path} {root n : Text} {names : List Text}

/-! ## One entry -/

lemma standing_put_self (h : d.standing l ≠ some .directory) (entry : Entry) :
    (d.put l entry).standing l = some entry := by
  have hnew : d.setting.isGiven l ≠ true := fun hgiven => h (standing_of_isGiven hgiven)
  rw [standing_put, if_neg hnew, if_pos rfl]

lemma standing_put_of_ne (d : Disk) (h : m ≠ l) (entry : Entry) :
    (d.put l entry).standing m = d.standing m := by
  rw [standing_put, if_neg h]
  split
  · rename_i hgiven
    exact (standing_of_isGiven hgiven).symm
  · rfl

lemma permit_eq_ok_iff {a : Access} : d.permit a l = .ok () ↔ d.setting.refuses a l = none := by
  unfold permit
  cases d.setting.refuses a l <;> simp

lemma isVacant_iff : d.isVacant l = true ↔ d.standing l = none ∧ d.setting.links l = none := by
  unfold isVacant
  rw [Bool.and_eq_true, Option.isNone_iff_eq_none, Option.isNone_iff_eq_none]

lemma setting_fill (d : Disk) (l : Location) (bytes : Bytes) :
    (d.fill l bytes).setting = d.setting := by
  unfold fill
  split <;> rfl

lemma standing_fill_self {old : Bytes} (h : d.standing l = some (.file old)) (bytes : Bytes) :
    (d.fill l bytes).standing l = some (.file (bytes ++ old.drop bytes.length)) := by
  unfold fill
  rw [h]
  exact standing_put_self (by simp [h]) _

lemma standing_fill_of_ne (d : Disk) (h : m ≠ l) (bytes : Bytes) :
    (d.fill l bytes).standing m = d.standing m := by
  unfold fill
  split <;> exact standing_put_of_ne d h _

/-! ## Later disks -/

/-- The second disk may have come out of the first: the setting is the same, directories have stayed,
files have stayed files, and what is new lies in directories. -/
structure Later (d e : Disk) : Prop where
  setting : e.setting = d.setting
  directories : ∀ l, d.standing l = some .directory → e.standing l = some .directory
  files : ∀ l bytes, d.standing l = some (.file bytes) →
    ∃ bytes', e.standing l = some (.file bytes')
  ways : ∀ l, d.standing l = none → e.standing l ≠ none → e.Way l

lemma Later.refl (d : Disk) : d.Later d :=
  ⟨rfl, fun _ => id, fun _ bytes h => ⟨bytes, h⟩, fun _ hnone h => absurd hnone h⟩

lemma Later.way (h : d.Later e) (hl : d.Way l) : e.Way l :=
  fun k hk => h.directories k (hl k hk)

lemma Later.trans (h : d.Later e) (h' : e.Later f) : d.Later f where
  setting := h'.setting.trans h.setting
  directories := fun l hl => h'.directories l (h.directories l hl)
  files := by
    intro l bytes hl
    obtain ⟨bytes', hl'⟩ := h.files l bytes hl
    exact h'.files l bytes' hl'
  ways := by
    intro l hnone hl
    by_cases he : e.standing l = none
    · exact h'.ways l he hl
    · exact h'.way (h.ways l hnone he)

/-- A path that has a location has it on a later disk. -/
lemma Later.locate (h : d.Later e) (hl : d.locate p = .ok l) : e.locate p = .ok l := by
  unfold Disk.locate at hl ⊢
  rw [h.setting]
  exact Setting.locate_mono h.directories hl

lemma Later.enter (h : d.Later e) (hm : d.setting.enter d.standing l n = .ok m) :
    e.setting.enter e.standing l n = .ok m := by
  obtain ⟨hdirectory, hrest⟩ := Setting.enter_eq_ok_iff.1 hm
  rw [h.setting]
  exact Setting.enter_eq_ok_iff.2 ⟨h.directories l hdirectory, hrest⟩

lemma later_put_directory (hnone : d.standing l = none) (hway : d.Way l) :
    d.Later (d.put l .directory) := by
  have hfree : d.standing l ≠ some .directory := by simp [hnone]
  refine ⟨rfl, fun k hk => ?_, fun k bytes hk => ⟨bytes, ?_⟩, fun k hk hthere j hj => ?_⟩
  · rw [standing_put_of_ne d (by rintro rfl; exact hfree hk), hk]
  · rw [standing_put_of_ne d (by rintro rfl; simp [hnone] at hk), hk]
  · have hkl : k = l := by
      by_contra hne
      exact hthere ((standing_put_of_ne d hne _).trans hk)
    subst hkl
    rw [standing_put_of_ne d hj.2, hway j hj]

lemma later_put_file (hfree : d.standing l ≠ some .directory) (hway : d.Way l) (bytes : Bytes) :
    d.Later (d.put l (.file bytes)) := by
  have hself : (d.put l (.file bytes)).standing l = some (.file bytes) := standing_put_self hfree _
  have hother : ∀ {k}, k ≠ l → (d.put l (.file bytes)).standing k = d.standing k :=
    fun hne => standing_put_of_ne d hne _
  refine ⟨rfl, fun k hk => ?_, fun k old hk => ?_, fun k hk hthere j hj => ?_⟩
  · rw [hother (by rintro rfl; exact hfree hk), hk]
  · by_cases hkl : k = l
    · exact ⟨bytes, hkl ▸ hself⟩
    · exact ⟨old, (hother hkl).trans hk⟩
  · have hkl : k = l := by
      by_contra hne
      exact hthere ((hother hne).trans hk)
    subst hkl
    rw [hother hj.2, hway j hj]

lemma later_fill {old : Bytes} (h : d.standing l = some (.file old)) (bytes : Bytes) :
    d.Later (d.fill l bytes) := by
  have hself := standing_fill_self h bytes
  have hother : ∀ {k}, k ≠ l → (d.fill l bytes).standing k = d.standing k :=
    fun hne => standing_fill_of_ne d hne _
  refine ⟨setting_fill d l bytes, fun k hk => ?_, fun k was hk => ?_, fun k hk hthere => ?_⟩
  · rw [hother (by rintro rfl; simp [h] at hk), hk]
  · by_cases hkl : k = l
    · subst hkl
      exact ⟨_, hself⟩
    · exact ⟨was, (hother hkl).trans hk⟩
  · have hkl : k ≠ l := by
      rintro rfl
      simp [h] at hk
    exact absurd ((hother hkl).trans hk) hthere

/-! ## Looking and opening -/

lemma find_eq_ok_iff {entry : Entry} :
    d.find p = .ok entry ↔ ∃ l, d.locate p = .ok l ∧ d.standing l = some entry := by
  unfold find
  rw [Except.bind_eq_ok_iff]
  refine exists_congr fun l => and_congr_right fun _ => ?_
  cases d.standing l with
  | none => exact ⟨nofun, nofun⟩
  | some other =>
    change Except.ok other = _ ↔ _
    rw [Except.ok.injEq, Option.some_inj]

lemma find?_eq_ok_some_iff {entry : Entry} :
    d.find? p = .ok (some entry) ↔ ∃ l, d.locate p = .ok l ∧ d.standing l = some entry := by
  rw [← find_eq_ok_iff]
  unfold find?
  split
  · rename_i found h
    rw [h, Except.ok.injEq, Except.ok.injEq, Option.some_inj]
  · rename_i cause h
    rw [h]
    split <;> simp

lemma isDirectory_eq_ok_true_iff :
    d.isDirectory p = .ok true ↔ ∃ l, d.locate p = .ok l ∧ d.standing l = some .directory := by
  rw [← find?_eq_ok_some_iff]
  unfold isDirectory
  rw [Except.map_eq_ok_iff]
  constructor
  · rintro ⟨found, hfound, h⟩
    rw [hfound, eq_of_beq h]
  · exact fun h => ⟨_, h, rfl⟩

lemma isFile_eq_ok_true_iff :
    d.isFile p = .ok true ↔ ∃ l content, d.locate p = .ok l ∧
      d.standing l = some (.file content) := by
  unfold isFile
  rw [Except.map_eq_ok_iff, exists_comm]
  simp only [← find?_eq_ok_some_iff]
  constructor
  · rintro ⟨found, hfound, h⟩
    cases found with
    | none => cases h
    | some entry =>
      cases entry with
      | directory => cases h
      | file content => exact ⟨content, hfound⟩
  · rintro ⟨content, h⟩
    exact ⟨_, h, rfl⟩

lemma read_eq_ok_iff {content : Bytes} :
    d.read p = .ok content ↔ ∃ l, d.locate p = .ok l ∧ d.setting.refuses .read l = none ∧
      d.standing l = some (.file content) := by
  unfold read
  rw [Except.mapError_eq_ok_iff, Except.bind_eq_ok_iff]
  refine exists_congr fun l => and_congr_right fun _ => ?_
  unfold readAt
  rw [Except.bind_eq_ok_iff, ← permit_eq_ok_iff]
  cases d.standing l with
  | none => exact ⟨nofun, nofun⟩
  | some entry =>
    cases entry with
    | directory => exact ⟨nofun, nofun⟩
    | file old =>
      change (∃ _, _ ∧ Except.ok old = _) ↔ _
      rw [Except.ok.injEq, Option.some_inj, Entry.file.injEq]
      exact ⟨fun ⟨(), h⟩ => h, fun h => ⟨(), h⟩⟩

lemma openable_eq_ok_iff :
    d.openable l = .ok () ↔
      (d.standing l = none ∧ d.setting.refuses .make l = none) ∨
        (∃ bytes, d.standing l = some (.file bytes)) ∧ d.setting.refuses .write l = none := by
  unfold openable
  cases d.standing l with
  | none => simp [permit_eq_ok_iff]
  | some entry => cases entry <;> simp [permit_eq_ok_iff]

lemma openable_ne_directory (h : d.openable l = .ok ()) : d.standing l ≠ some .directory := by
  rcases openable_eq_ok_iff.1 h with ⟨hnone, -⟩ | ⟨⟨bytes, hfile⟩, -⟩
  · simp [hnone]
  · simp [hfile]

lemma openFile_eq_ok_iff :
    d.openFile p = .ok (e, l) ↔
      d.locate p = .ok l ∧ d.openable l = .ok () ∧ e = d.put l (.file []) := by
  unfold openFile
  rw [Except.mapError_eq_ok_iff, Except.bind_eq_ok_iff]
  constructor
  · rintro ⟨k, hk, h⟩
    obtain ⟨⟨⟩, hopen, h⟩ := Except.bind_eq_ok_iff.1 h
    cases h
    exact ⟨hk, hopen, rfl⟩
  · rintro ⟨hl, hopen, rfl⟩
    exact ⟨l, hl, Except.bind_eq_ok_iff.2 ⟨(), hopen, rfl⟩⟩

lemma later_openFile (h : d.openFile p = .ok (e, l)) : d.Later e := by
  obtain ⟨hl, hopen, rfl⟩ := openFile_eq_ok_iff.1 h
  exact later_put_file (openable_ne_directory hopen) (way_of_locate hl) []

lemma openable_congr (hsetting : e.setting = d.setting) (hl : e.standing l = d.standing l) :
    e.openable l = d.openable l := by
  unfold openable permit
  rw [hsetting, hl]

/-- What is written to a file is all that it has, and nothing else changes. -/
lemma standing_write {content : Bytes} (h : d.write p content = .ok e) :
    d.Later e ∧ ∃ l, e.locate p = .ok l ∧ e.standing l = some (.file content) ∧
      ∀ k, k ≠ l → e.standing k = d.standing k := by
  unfold write at h
  obtain ⟨⟨f, l⟩, hopen, rfl⟩ := Except.map_eq_ok_iff.1 h
  have hopened := later_openFile hopen
  obtain ⟨hl, hopenable, rfl⟩ := openFile_eq_ok_iff.1 hopen
  have hempty := standing_put_self (openable_ne_directory hopenable) (.file [])
  have hself := standing_fill_self hempty content
  rw [List.drop_nil, List.append_nil] at hself
  have hlater := hopened.trans (later_fill hempty content)
  exact ⟨hlater, l, hlater.locate hl, hself,
    fun k hk => (standing_fill_of_ne _ hk _).trans (standing_put_of_ne d hk _)⟩

lemma exists_write (hl : d.locate p = .ok l) (hopenable : d.openable l = .ok ()) (content : Bytes) :
    ∃ e, d.write p content = .ok e := by
  unfold write
  rw [openFile_eq_ok_iff.2 ⟨hl, hopenable, rfl⟩]
  exact ⟨_, rfl⟩

/-! ## Making directories -/

lemma nameplace_cons_eq_ok_iff :
    d.nameplace ⟨root, n :: names⟩ = .ok m ↔ Setting.flaw? ⟨root, n :: names⟩ = none ∧
      ∃ l, d.locate ⟨root, names⟩ = .ok l ∧ d.setting.enter d.standing l n = .ok m := by
  unfold nameplace
  dsimp only
  cases Setting.flaw? ⟨root, n :: names⟩ with
  | some cause => simp
  | none => simp [Except.bind_eq_ok_iff]

lemma way_of_nameplace (h : d.nameplace p = .ok l) : d.Way l := by
  obtain ⟨root, names⟩ := p
  cases names with
  | nil => exact way_of_locate h
  | cons n names =>
    obtain ⟨-, k, hk, henter⟩ := nameplace_cons_eq_ok_iff.1 h
    obtain ⟨hdirectory, -, -, rfl⟩ := Setting.enter_eq_ok_iff.1 henter
    exact way_follow (way_of_locate hk) hdirectory

/-- A path to a directory names something. -/
lemma exists_nameplace_of_isDirectory (h : d.isDirectory p = .ok true) :
    ∃ l, d.nameplace p = .ok l ∧ d.isVacant l = false := by
  obtain ⟨m, hm, hdirectory⟩ := isDirectory_eq_ok_true_iff.1 h
  obtain ⟨root, names⟩ := p
  cases names with
  | nil => exact ⟨m, hm, by simp [isVacant, hdirectory]⟩
  | cons n names =>
    obtain ⟨l, hl, henter, hlast⟩ := Setting.exists_parent_of_locate hm
    refine ⟨follow l n, nameplace_cons_eq_ok_iff.2
      ⟨Setting.flaw?_of_locate hm, l, hl, henter⟩, ?_⟩
    cases hlink : d.setting.linkAt l n with
    | none =>
      rw [← hlast hlink]
      simp [isVacant, hdirectory]
    | some q =>
      have hname : n ≠ outwards := by
        rintro rfl
        cases hlink
      have hlinks : d.setting.links (n :: l) = some q := by
        unfold Setting.linkAt at hlink
        rwa [if_neg hname] at hlink
      simp [isVacant, follow_of_ne l hname, hlinks]

lemma makeDirectory_eq_ok_iff :
    d.makeDirectory p = .ok e ↔ ∃ l, d.nameplace p = .ok l ∧ d.isVacant l = true ∧
      d.setting.refuses .make l = none ∧ e = d.put l .directory := by
  unfold makeDirectory
  rw [Except.mapError_eq_ok_iff, Except.bind_eq_ok_iff]
  refine exists_congr fun l => and_congr_right fun _ => ?_
  cases d.isVacant l with
  | false => simp [throw, throwThe, MonadExceptOf.throw]
  | true =>
    rw [if_pos rfl, Except.bind_eq_ok_iff, ← permit_eq_ok_iff]
    constructor
    · rintro ⟨⟨⟩, hpermit, h⟩
      cases h
      exact ⟨rfl, hpermit, rfl⟩
    · rintro ⟨-, hpermit, rfl⟩
      exact ⟨(), hpermit, rfl⟩

/-- Nothing is missing where a directory cannot be made, unless on the way to it. -/
lemma makeDirectory_eq_absent_iff :
    d.makeDirectory p = .error ⟨.absent, q⟩ ↔ d.nameplace p = .error .absent ∧ q = p := by
  unfold makeDirectory
  rw [Except.mapError_eq_error_iff]
  constructor
  · rintro ⟨cause, h, he⟩
    cases he
    refine ⟨?_, rfl⟩
    rcases Except.bind_eq_error_iff.1 h with h | ⟨l, -, h⟩
    · exact h
    · split at h
      · rcases Except.bind_eq_error_iff.1 h with h | ⟨-, -, h⟩
        · unfold permit at h
          split at h <;> cases h
        · cases h
      · cases h
  · rintro ⟨h, rfl⟩
    exact ⟨_, Except.bind_eq_error_iff.2 (.inl h), rfl⟩

/-- A directory is provided by making it, or it is there. -/
lemma provideDirectory_eq_ok_iff :
    d.provideDirectory p = .ok e ↔
      d.makeDirectory p = .ok e ∨ e = d ∧ d.isDirectory p = .ok true := by
  unfold provideDirectory
  cases hmake : d.makeDirectory p with
  | ok made =>
    obtain ⟨l, hl, hvacant, -⟩ := makeDirectory_eq_ok_iff.1 hmake
    have hno : d.isDirectory p ≠ .ok true := by
      intro h
      obtain ⟨k, hk, hthere⟩ := exists_nameplace_of_isDirectory h
      cases hl.symm.trans hk
      rw [hvacant] at hthere
      cases hthere
    simp [hno]
  | error error =>
    obtain ⟨cause, q⟩ := error
    cases cause with
    | absent =>
      have hno : d.isDirectory p ≠ .ok true := by
        intro h
        obtain ⟨k, hk, -⟩ := exists_nameplace_of_isDirectory h
        cases (makeDirectory_eq_absent_iff.1 hmake).1.symm.trans hk
      simp [hno]
    | _ =>
      cases d.isDirectory p with
      | error f => simp
      | ok there => cases there <;> simp [eq_comm]

lemma provideDirectory_of_absent (h : d.nameplace p = .error .absent) :
    d.provideDirectory p = .error ⟨.absent, p⟩ := by
  have hmake : d.makeDirectory p = .error ⟨.absent, p⟩ := makeDirectory_eq_absent_iff.2 ⟨h, rfl⟩
  unfold provideDirectory
  rw [hmake]

/-- A directory is provided only in a directory. -/
lemma isDirectory_parent_of_provideDirectory
    (h : d.provideDirectory ⟨root, n :: names⟩ = .ok e) :
    d.isDirectory ⟨root, names⟩ = .ok true := by
  rw [isDirectory_eq_ok_true_iff]
  rcases provideDirectory_eq_ok_iff.1 h with hmake | ⟨-, hthere⟩
  · obtain ⟨l, hl, -⟩ := makeDirectory_eq_ok_iff.1 hmake
    obtain ⟨-, k, hk, henter⟩ := nameplace_cons_eq_ok_iff.1 hl
    exact ⟨k, hk, (Setting.enter_eq_ok_iff.1 henter).1⟩
  · obtain ⟨l, hl, -⟩ := isDirectory_eq_ok_true_iff.1 hthere
    obtain ⟨k, hk, hdirectory, -⟩ := exists_parent_of_locate hl
    exact ⟨k, hk, hdirectory⟩

/-! ## More directories -/

/-- The second disk has more directories than the first, where nothing stood, and is the same
otherwise. -/
structure Grown (d e : Disk) : Prop extends Later d e where
  made : ∀ l, e.standing l = d.standing l ∨ d.standing l = none ∧ e.standing l = some .directory

lemma Grown.refl (d : Disk) : d.Grown d := ⟨.refl d, fun _ => .inl rfl⟩

lemma Grown.trans (h : d.Grown e) (h' : e.Grown f) : d.Grown f := by
  refine ⟨h.toLater.trans h'.toLater, fun l => ?_⟩
  rcases h'.made l with hsame | ⟨hfree, hmade⟩
  · rw [hsame]
    exact h.made l
  · rcases h.made l with hsame | ⟨-, hthere⟩
    · exact .inr ⟨hsame ▸ hfree, hmade⟩
    · rw [hfree] at hthere
      cases hthere

lemma grown_makeDirectory (h : d.makeDirectory p = .ok e) : d.Grown e := by
  obtain ⟨l, hl, hvacant, -, rfl⟩ := makeDirectory_eq_ok_iff.1 h
  have hnone := (isVacant_iff.1 hvacant).1
  refine ⟨later_put_directory hnone (way_of_nameplace hl), fun m => ?_⟩
  by_cases hm : m = l
  · rw [hm]
    exact .inr ⟨hnone, standing_put_self (by simp [hnone]) _⟩
  · exact .inl (standing_put_of_ne d hm _)

lemma grown_provideDirectory (h : d.provideDirectory p = .ok e) : d.Grown e := by
  rcases provideDirectory_eq_ok_iff.1 h with hmake | ⟨rfl, -⟩
  · exact grown_makeDirectory hmake
  · exact .refl _

lemma isDirectory_of_provideDirectory (h : d.provideDirectory p = .ok e) :
    e.isDirectory p = .ok true := by
  rcases provideDirectory_eq_ok_iff.1 h with hmake | ⟨rfl, hthere⟩
  · have hlater := (grown_makeDirectory hmake).toLater
    obtain ⟨l, hl, hvacant, -, rfl⟩ := makeDirectory_eq_ok_iff.1 hmake
    obtain ⟨hnone, hplain⟩ := isVacant_iff.1 hvacant
    have hself : (d.put l .directory).standing l = some .directory :=
      standing_put_self (by simp [hnone]) _
    refine isDirectory_eq_ok_true_iff.2 ⟨l, ?_, hself⟩
    obtain ⟨root, names⟩ := p
    cases names with
    | nil => exact hlater.locate hl
    | cons n names =>
      obtain ⟨hflaw, k, hk, henter⟩ := nameplace_cons_eq_ok_iff.1 hl
      obtain ⟨-, -, -, hfollow⟩ := Setting.enter_eq_ok_iff.1 henter
      refine Setting.locate_cons hflaw (hlater.locate hk) (hlater.enter henter) ?_
      unfold Setting.linkAt
      split
      · rfl
      · rename_i hname
        rw [hfollow, follow_of_ne k hname] at hplain
        exact hplain
  · exact hthere

/-! ## Providing directories -/

/-- What comes of providing directories: at once, after the parent has been provided, or not. -/
inductive Provides (d : Disk) (root n : Text) (names : List Text) : Disk → Option Error → Prop
  | once {e : Disk} (provide : d.provideDirectory ⟨root, n :: names⟩ = .ok e) :
    Provides d root n names e none
  | after {f e : Disk} (parent : d.provideAll root names = (f, none))
    (missing : d.nameplace ⟨root, n :: names⟩ = .error .absent)
    (provide : f.provideDirectory ⟨root, n :: names⟩ = .ok e) : Provides d root n names e none
  | failed {error : Error} (provide : d.provideDirectory ⟨root, n :: names⟩ = .error error)
    (present : error.cause ≠ .absent) : Provides d root n names d (some error)
  | parentFailed {f : Disk} {error : Error} (parent : d.provideAll root names = (f, some error))
    (missing : d.nameplace ⟨root, n :: names⟩ = .error .absent) :
    Provides d root n names f (some error)
  | afterFailed {f : Disk} {error : Error} (parent : d.provideAll root names = (f, none))
    (missing : d.nameplace ⟨root, n :: names⟩ = .error .absent)
    (provide : f.provideDirectory ⟨root, n :: names⟩ = .error error) :
    Provides d root n names f (some error)

lemma nameplace_of_provideDirectory (h : d.provideDirectory p = .error ⟨.absent, q⟩) :
    d.nameplace p = .error .absent := by
  unfold provideDirectory at h
  split at h
  · cases h
  · rename_i hmake
    exact (makeDirectory_eq_absent_iff.1 hmake).1
  · split at h
    · cases h
    · rename_i hpresent _ _ _
      cases h
      exact absurd rfl (hpresent q)
    · rename_i hlook
      cases h
      unfold isDirectory find? at hlook
      rw [Except.map_eq_error_iff] at hlook
      split at hlook
      · cases hlook
      · split at hlook
        · cases hlook
        · rename_i hmeans
          cases hlook
          exact absurd rfl hmeans

lemma provides_provideAll (d : Disk) (root n : Text) (names : List Text) :
    Provides d root n names (d.provideAll root (n :: names)).1
      (d.provideAll root (n :: names)).2 := by
  rw [provideAll]
  split
  · rename_i hprovide
    exact .once hprovide
  · rename_i hprovide
    have hmissing := nameplace_of_provideDirectory hprovide
    split
    · rename_i hparent
      exact .parentFailed hparent hmissing
    · rename_i hparent
      split
      · rename_i hagain
        exact .after hparent hmissing hagain
      · rename_i hagain
        exact .afterFailed hparent hmissing hagain
  · rename_i error hpresent hprovide
    refine .failed hprovide fun habsent => ?_
    obtain ⟨cause, q⟩ := error
    cases habsent
    exact hpresent q rfl

/-- Directories are provided up to a path, or else nothing but directories has come of it. -/
lemma grown_provideAll (d : Disk) (root : Text) (names : List Text) :
    d.Grown (d.provideAll root names).1 := by
  induction names with
  | nil =>
    rw [provideAll]
    split
    · rename_i hprovide
      exact grown_provideDirectory hprovide
    · exact .refl d
  | cons n names ih =>
    have hprovides := provides_provideAll d root n names
    generalize (d.provideAll root (n :: names)).1 = e at hprovides ⊢
    generalize (d.provideAll root (n :: names)).2 = result at hprovides
    cases hprovides with
    | once provide => exact grown_provideDirectory provide
    | after parent missing provide =>
      rw [parent] at ih
      exact ih.trans (grown_provideDirectory provide)
    | failed => exact .refl d
    | parentFailed parent | afterFailed parent =>
      rw [parent] at ih
      exact ih

lemma grown_of_provideAll {failed : Option Error} (h : d.provideAll root names = (e, failed)) :
    d.Grown e := by
  have hgrown := grown_provideAll d root names
  rw [h] at hgrown
  exact hgrown

lemma provideAll_of_isDirectory (h : d.isDirectory ⟨root, names⟩ = .ok true) :
    d.provideAll root names = (d, none) := by
  have hprovide : d.provideDirectory ⟨root, names⟩ = .ok d :=
    provideDirectory_eq_ok_iff.2 (.inr ⟨rfl, h⟩)
  cases names <;> rw [provideAll, hprovide]

lemma isDirectory_of_provideAll (h : d.provideAll root names = (e, none)) :
    e.isDirectory ⟨root, names⟩ = .ok true := by
  cases names with
  | nil =>
    rw [provideAll] at h
    split at h
    · rename_i hprovide
      cases h
      exact isDirectory_of_provideDirectory hprovide
    · cases h
  | cons n names =>
    have hprovides := provides_provideAll d root n names
    rw [h] at hprovides
    cases hprovides with
    | once provide | after _ _ provide => exact isDirectory_of_provideDirectory provide

/-- When directories could not be provided, doing it again fails too and does nothing. -/
lemma exists_error_of_provideAll {error : Error} (h : d.provideAll root names = (e, some error)) :
    ∃ error', e.provideAll root names = (e, some error') := by
  induction names generalizing d e error with
  | nil =>
    rw [provideAll] at h
    split at h
    · cases h
    · rename_i hprovide
      cases h
      exact ⟨_, by rw [provideAll, hprovide]⟩
  | cons n names ih =>
    -- It fails whenever the directory cannot be provided and the parent, once more, changes nothing.
    have hagain : ∀ {result}, e.provideAll root names = (e, result) →
        (∀ g, e.provideDirectory ⟨root, n :: names⟩ ≠ .ok g) →
        ∃ error', e.provideAll root (n :: names) = (e, some error') := by
      intro result hparent hnot
      have hprovides := provides_provideAll e root n names
      rcases hall : e.provideAll root (n :: names) with ⟨g, result'⟩
      rw [hall] at hprovides
      cases hprovides with
      | once provide => exact absurd provide (hnot _)
      | failed => exact ⟨_, rfl⟩
      | after parent missing provide =>
        cases hparent.symm.trans parent
        exact absurd provide (hnot _)
      | parentFailed parent | afterFailed parent =>
        cases hparent.symm.trans parent
        exact ⟨_, rfl⟩
    have hprovides := provides_provideAll d root n names
    rw [h] at hprovides
    cases hprovides with
    | failed => exact ⟨error, h⟩
    | parentFailed parent =>
      obtain ⟨error', hparent⟩ := ih parent
      refine hagain hparent fun g hg => ?_
      rw [provideAll_of_isDirectory (isDirectory_parent_of_provideDirectory hg)] at hparent
      cases hparent
    | afterFailed parent missing provide =>
      refine hagain (provideAll_of_isDirectory (isDirectory_of_provideAll parent)) fun g hg => ?_
      cases provide.symm.trans hg

end Formwork.Disk
