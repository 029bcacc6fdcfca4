import Formwork.Proofs.Disk.Later
import Formwork.Proofs.Output.Written

/-!
# A batch is refused as a whole

Unless files may be replaced, all places of a batch are looked at before anything is written.  If
something stands at one of them, the batch is refused, the complaint names all that are taken in the
order of the batch, and the disk is as before.  If nothing stands there the batch is begun, and when it
comes to its end all outputs have been written (`written_of_writeBy`).  Both halves are put together in
`writeBy_refused_or_written`.

There is one exception: the system may refuse to have a path looked at, as it does when a name is too
long.  Then it is that path, the first one of its kind, which is complained about, whatever stands at
the others (`takenPlaces_eq_error_iff`).  The disk is as before in this case too.
-/

namespace Formwork

/-- The system answers whether anything stands where the path leads. -/
def Disk.Visible (d : Disk) (p : Path) : Prop := ∃ there, d.holds p = .ok there

instance (d : Disk) (p : Path) : Decidable (d.Visible p) :=
  decidable_of_iff ((d.holds p).isOk = true) <| by
    unfold Disk.Visible
    cases d.holds p <;> simp [Except.isOk, Except.toBool]

namespace Output

variable {m : Manner} {d e : Disk} {outputs : List (Path × Text)} {schedule : List Nat}

/-! ## Looking at all places -/

/-- The paths of a batch at which something stands, in order. -/
def standingPaths (d : Disk) (outputs : List (Path × Text)) : List Path :=
  (outputs.map Prod.fst).filter fun p => d.Stands p

lemma mem_standingPaths_iff {p : Path} :
    p ∈ standingPaths d outputs ↔ p ∈ outputs.map Prod.fst ∧ d.Stands p := by
  rw [standingPaths, List.mem_filter, decide_eq_true_iff]

lemma standingPaths_cons (d : Disk) (o : Path × Text) (outputs : List (Path × Text)) :
    standingPaths d (o :: outputs) =
      if d.Stands o.1 then o.1 :: standingPaths d outputs else standingPaths d outputs := by
  rw [standingPaths, List.map_cons, List.filter_cons]
  simp [standingPaths]

/-- When all paths can be looked at, what is found is what stands there. -/
lemma takenPlaces_eq_ok_iff {paths : List Path} :
    takenPlaces d outputs = .ok paths ↔
      (∀ o ∈ outputs, d.Visible o.1) ∧ paths = standingPaths d outputs := by
  induction outputs generalizing paths with
  | nil =>
    rw [takenPlaces, Except.ok.injEq, eq_comm]
    exact ⟨fun h => ⟨List.forall_mem_nil _, h⟩, And.right⟩
  | cons o outputs ih =>
    rw [takenPlaces, Except.bind_eq_ok_iff, List.forall_mem_cons, standingPaths_cons]
    constructor
    · rintro ⟨there, hthere, h⟩
      obtain ⟨others, hothers, h⟩ := Except.bind_eq_ok_iff.1 h
      obtain ⟨hrest, rfl⟩ := ih.1 hothers
      refine ⟨⟨⟨there, hthere⟩, hrest⟩, (Except.ok.inj h).symm.trans ?_⟩
      simp only [Disk.stands_of_holds hthere]
    · rintro ⟨⟨⟨there, hthere⟩, hrest⟩, rfl⟩
      refine ⟨there, hthere, Except.bind_eq_ok_iff.2 ⟨_, ih.2 ⟨hrest, rfl⟩, ?_⟩⟩
      simp only [Disk.stands_of_holds hthere]
      rfl

/-- The look at the places ends at the first path that cannot be looked at. -/
lemma takenPlaces_eq_error_iff {error : Disk.Error} :
    takenPlaces d outputs = .error error ↔
      ∃ before o behind, outputs = before ++ o :: behind ∧ (∀ o' ∈ before, d.Visible o'.1) ∧
        d.holds o.1 = .error error := by
  induction outputs with
  | nil => simp [takenPlaces]
  | cons o outputs ih =>
    rw [takenPlaces, Except.bind_eq_error_iff]
    constructor
    · rintro (h | ⟨there, hthere, h⟩)
      · exact ⟨[], o, outputs, rfl, List.forall_mem_nil _, h⟩
      · rcases Except.bind_eq_error_iff.1 h with h | ⟨_, -, h⟩
        · obtain ⟨before, o', behind, rfl, hbefore, hunseen⟩ := ih.1 h
          exact ⟨o :: before, o', behind, rfl, List.forall_mem_cons.2 ⟨⟨there, hthere⟩, hbefore⟩,
            hunseen⟩
        · cases h
    · rintro ⟨before, o', behind, hsplit, hbefore, hunseen⟩
      cases before with
      | nil =>
        cases hsplit
        exact .inl hunseen
      | cons a before =>
        cases hsplit
        obtain ⟨⟨there, hthere⟩, hrest⟩ := List.forall_mem_cons.1 hbefore
        refine .inr ⟨there, hthere, ?_⟩
        exact Except.bind_eq_error_iff.2 (.inl (ih.2 ⟨before, o', behind, rfl, hrest, hunseen⟩))

/-! ## Refusing -/

lemma refusal?_eq_none_iff :
    refusal? m d outputs = none ↔ m.replace = true ∨ takenPlaces d outputs = .ok [] := by
  unfold refusal?
  cases m.replace with
  | true => simp
  | false =>
    rw [if_neg Bool.false_ne_true]
    rcases takenPlaces d outputs with error | paths
    · simp
    · cases paths <;> simp

lemma refusal?_of_standing (hkept : m.replace = false) (hseen : ∀ o ∈ outputs, d.Visible o.1)
    (hstands : ∃ o ∈ outputs, d.Stands o.1) :
    refusal? m d outputs = some (.allTaken (standingPaths d outputs)) := by
  have htaken : takenPlaces d outputs = .ok (standingPaths d outputs) :=
    takenPlaces_eq_ok_iff.2 ⟨hseen, rfl⟩
  have hsome : standingPaths d outputs ≠ [] := by
    obtain ⟨o, ho, hstands⟩ := hstands
    exact List.ne_nil_of_mem (mem_standingPaths_iff.2 ⟨List.mem_map_of_mem ho, hstands⟩)
  unfold refusal?
  rw [hkept, if_neg Bool.false_ne_true, htaken]
  split
  · rename_i h
    cases h
  · rename_i h
    exact absurd (Except.ok.inj h) hsome
  · rename_i h
    rw [Except.ok.inj h]

lemma refusal?_of_unseen (hkept : m.replace = false) {before behind : List (Path × Text)}
    {o : Path × Text} {error : Disk.Error} (hbefore : ∀ o' ∈ before, d.Visible o'.1)
    (hunseen : d.holds o.1 = .error error) :
    refusal? m d (before ++ o :: behind) = some (.disk error) := by
  have htaken : takenPlaces d (before ++ o :: behind) = .error error :=
    takenPlaces_eq_error_iff.2 ⟨before, o, behind, rfl, hbefore, hunseen⟩
  unfold refusal?
  rw [hkept, if_neg Bool.false_ne_true, htaken]

/-! ## Refused or written -/

/-- What is at the end of a batch whose paths lead to different places. -/
lemma written_of_success (hapart : outputs.Pairwise fun o o' => d.setting.Apart o.1 o'.1)
    (hrest : ((Batch.ofOutputs d outputs).run m schedule).AtRest) {paths : List Path}
    (h : writeBy schedule m d outputs = (e, .ok paths)) :
    paths = outputs.map Prod.fst ∧
    (∀ o ∈ outputs, ∃ l bytes, e.locate o.1 = .ok l ∧ e.standing l = some (.file bytes) ∧
      m.Writes o.2 bytes ∧ (m.Whole → m.Encodes o.2 bytes)) ∧
    ∀ l, (∀ o ∈ outputs, e.locate o.1 ≠ .ok l) →
      e.standing l = d.standing l ∨ d.standing l = none ∧ e.standing l = some .directory := by
  obtain ⟨hpaths, hwritten⟩ := written_of_writeBy hrest h
  refine ⟨hpaths, fun o ho => ?_, hwritten.elsewhere⟩
  obtain ⟨n, hn⟩ := List.mem_iff_getElem?.1 ho
  obtain ⟨l, bytes, hl, hfile, hwrites⟩ := hwritten.files n o hn
  have htarget : d.setting.target o.1 = some l := by
    rw [← hwritten.later.setting]
    exact Disk.target_of_locate hl
  have hbytes := hwrites (alone_of_apart hapart hn htarget)
  exact ⟨l, bytes, hl, hfile, hbytes, hbytes.encodes⟩

/-- **A batch is refused as a whole or written as a whole.**  When files may not be replaced and
something stands at one of the paths, the batch is refused with a complaint that names all such paths in
order, and the disk is as before.  If the system refuses to have a path looked at, its error for the
first such path is complained about instead.  When a batch whose paths lead to different places comes to
its end, by whatever schedule that leaves nothing under way, its paths are given back in order, each
leads to a file with what its text writes, and where none of them leads nothing has changed but that
directories were made.  What a text writes are its bytes, unless its codec holds some back. -/
theorem writeBy_refused_or_written (m : Manner) (d : Disk) (outputs : List (Path × Text))
    (schedule : List Nat) :
    (m.replace = false →
      ((∀ o ∈ outputs, d.Visible o.1) → (∃ o ∈ outputs, d.Stands o.1) →
        ∃ cause, writeBy schedule m d outputs = (d, .error cause) ∧
          cause = .allTaken (standingPaths d outputs) ∧
          cause.message = "Output files already exist: " ++
            Names.commaList ((standingPaths d outputs).map Path.text)) ∧
      ∀ before o behind error, outputs = before ++ o :: behind → (∀ o' ∈ before, d.Visible o'.1) →
        d.holds o.1 = .error error →
        writeBy schedule m d outputs = (d, .error (.disk error)) ∧ error.path = o.1 ∧
          (error.cause = .nameTooLong ∨ ∃ reason, error.cause = .refused reason)) ∧
    (outputs.Pairwise (fun o o' => d.setting.Apart o.1 o'.1) →
      ((Batch.ofOutputs d outputs).run m schedule).AtRest →
      ∀ e paths, writeBy schedule m d outputs = (e, .ok paths) →
        paths = outputs.map Prod.fst ∧
        (∀ o ∈ outputs, ∃ l bytes, e.locate o.1 = .ok l ∧ e.standing l = some (.file bytes) ∧
          m.Writes o.2 bytes ∧ (m.Whole → m.Encodes o.2 bytes)) ∧
        ∀ l, (∀ o ∈ outputs, e.locate o.1 ≠ .ok l) →
          e.standing l = d.standing l ∨ d.standing l = none ∧ e.standing l = some .directory) := by
  refine ⟨fun hkept => ⟨fun hseen hstands => ?_, ?_⟩, fun hapart hrest e paths h => ?_⟩
  · exact ⟨_, writeBy_of_refusal (refusal?_of_standing hkept hseen hstands) schedule, rfl, rfl⟩
  · rintro before o behind error rfl hbefore hunseen
    exact ⟨writeBy_of_refusal (refusal?_of_unseen hkept hbefore hunseen) schedule,
      Disk.holds_eq_error hunseen⟩
  · exact written_of_success hapart hrest h

/-- A directory and a file. -/
def takenDisk : Disk where
  entries := [(["a", "work"], .file [1]), (["d", "work"], .directory)]
  setting := { here := ["work"] }

/-- The file, a path that leads through a directory which is not there yet and out of it again, and the
directory. -/
def takenOutputs : List (Path × Text) :=
  [(⟨[], ["a"]⟩, "1"), (⟨[], ["b", "..", "new"]⟩, "2"), (⟨[], ["d"]⟩, "3")]

/-- The file again, from the root, the path through the directory that is not there, and one into it. -/
def freeOutputs : List (Path × Text) :=
  [(⟨[], ["b", "..", "new"]⟩, "2"), (⟨['/'], ["a", "work"]⟩, "1"), (⟨[], ["c", "new"]⟩, "3")]

/-- A name that is one byte too long. -/
def longName : Path := ⟨[], [List.replicate 256 'a']⟩

theorem writeBy_takenDisk :
    (writeBy (Batch.inTurn 3) {} takenDisk takenOutputs =
        (takenDisk, .error (.allTaken [⟨[], ["a"]⟩, ⟨[], ["d"]⟩])) ∧
      Fault.message (.allTaken [⟨[], ["a"]⟩, ⟨[], ["d"]⟩]) = "Output files already exist: a, d") ∧
    writeBy (Batch.inTurn 2) {} takenDisk [(⟨[], ["a"]⟩, "1"), (longName, "2")] =
      (takenDisk, .error (.disk ⟨.nameTooLong, longName⟩)) ∧
    ∃ e, writeBy [0, 2, 1, 0, 1, 2, 2, 0, 1, 1, 0, 2] { replace := true } takenDisk freeOutputs =
        (e, .ok (freeOutputs.map Prod.fst)) ∧
      ∀ o ∈ freeOutputs, ∃ l bytes, e.locate o.1 = .ok l ∧ e.standing l = some (.file bytes) ∧
        ({ replace := true } : Manner).Encodes o.2 bytes := by
  have hrefused := (writeBy_refused_or_written {} takenDisk takenOutputs (Batch.inTurn 3)).1 rfl
  obtain ⟨cause, htaken, rfl, hmessage⟩ := hrefused.1 (by decide) (by decide)
  have hunseen := (writeBy_refused_or_written {} takenDisk
    [(⟨[], ["a"]⟩, "1"), (longName, "2")] (Batch.inTurn 2)).1 rfl
  have hlong := hunseen.2 [(⟨[], ["a"]⟩, "1")] (longName, "2") [] ⟨.nameTooLong, longName⟩ rfl
    (by decide) (by decide +kernel)
  have hdone : (writeBy [0, 2, 1, 0, 1, 2, 2, 0, 1, 1, 0, 2] { replace := true } takenDisk
      freeOutputs).2 = .ok (freeOutputs.map Prod.fst) := by decide +kernel
  have hrest : Batch.IsInterleaving freeOutputs.length [0, 2, 1, 0, 1, 2, 2, 0, 1, 1, 0, 2] := by
    decide
  have hwhole : ({ replace := true } : Manner).Whole := by
    rintro codec content ⟨⟩
    rfl
  have hwritten := (writeBy_refused_or_written { replace := true } takenDisk freeOutputs
    [0, 2, 1, 0, 1, 2, 2, 0, 1, 1, 0, 2]).2 (by decide +kernel) (hrest.atRest _ _) _ _
      (Prod.ext rfl hdone)
  refine ⟨⟨htaken, hmessage⟩, hlong.1, _, Prod.ext rfl hdone, fun o ho => ?_⟩
  obtain ⟨l, bytes, hl, hfile, -, hencodes⟩ := hwritten.2.1 o ho
  exact ⟨l, bytes, hl, hfile, hencodes hwhole⟩

/-- A path that cannot be looked at comes before those at which something stands: the file `a` is there,
and yet no complaint is made about it. -/
theorem writeBy_standing_beside_longName :
    takenDisk.Stands ⟨[], ["a"]⟩ ∧
    (writeBy (Batch.inTurn 2) {} takenDisk [(⟨[], ["a"]⟩, "x"), (longName, "y")]).2 =
      .error (.disk ⟨.nameTooLong, longName⟩) ∧
    ∀ paths, (writeBy (Batch.inTurn 2) {} takenDisk [(⟨[], ["a"]⟩, "x"), (longName, "y")]).2 ≠
      .error (.allTaken paths) := by
  have hlong : (writeBy (Batch.inTurn 2) {} takenDisk [(⟨[], ["a"]⟩, "x"), (longName, "y")]).2 =
      .error (.disk ⟨.nameTooLong, longName⟩) := by decide +kernel
  refine ⟨by decide, hlong, fun paths h => ?_⟩
  rw [hlong] at h
  cases h

end Output

end Formwork
