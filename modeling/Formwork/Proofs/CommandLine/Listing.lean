import Formwork.Proofs.CommandLine.Preparation
import Formwork.Proofs.Template.Slots

/-!
# The listing of placeholders

A template is listed by its names, in order, each of which is looked up among the slots.  The slots
are a set: the names are looked up in a table that is made of them in whatever order they come, and
none is looked for in vain (`Template.get?_slotTable`).  So a listing depends on the template and on
the derived names alone (`slotRows_of_perm`), and a command that lists a template that can be read
succeeds (`inspect_of_parse`).

The main statement is `run_lists_placeholders`.
-/

namespace Formwork.CommandLine

variable {host : Host} {d : Disk} {env : Config.Environment} {arguments : List Text} {r : InspectRequest}
  {config : Config} {source : Text} {preset : Option Preset} {t : Template} {rules : List Rule}

/-- The listing of a template, with marks at the names that are derived. -/
def listingOf (t : Template) (derived : List Text) : Console.Listing where
  title := "Placeholders"
  columns := ["Placeholder", "Occurrences", "Derived"]
  rows := t.names.map fun n =>
    [n, Nat.toDigits 10 (t.occurrences n), if n ∈ derived then "yes" else []]

lemma map_slotRow_slots (t : Template) (derived : List Text) :
    (t.slots derived).map slotRow = (listingOf t derived).rows := by
  rw [Template.slots_eq, List.map_map]
  apply List.map_congr_left
  intro n _
  show [n, Nat.toDigits 10 (t.mentions.count n), if derived.contains n then "yes".toList else []] = _
  simp only [Template.count_mentions, List.contains_iff_mem]

/-- Every row has as many cells as there are columns, so that nothing is filled up. -/
lemma rectangle_listingOf (t : Template) (derived : List Text) :
    (listingOf t derived).rectangle = listingOf t derived := by
  have hwidth : ((listingOf t derived).rows.map List.length).foldl max
      (listingOf t derived).columns.length = 3 := by
    show ((t.names.map _).map List.length).foldl max 3 = 3
    induction t.names with
    | nil => rfl
    | cons n names ih => exact ih
  have hrows : (listingOf t derived).rows.map (Console.fillUp 3) = (listingOf t derived).rows := by
    show (t.names.map _).map (Console.fillUp 3) = t.names.map _
    rw [List.map_map]
    rfl
  unfold Console.Listing.rectangle
  rw [hwidth]
  show ({ listingOf t derived with
    columns := Console.fillUp 3 (listingOf t derived).columns
    rows := (listingOf t derived).rows.map (Console.fillUp 3) } : Console.Listing) = _
  rw [hrows]
  rfl

lemma derivationsOf_eq_ok_iff {described : List Text} :
    derivationsOf described = .ok rules ↔
      List.Forall₂ (fun a rule => readDerivation a = .ok rule) described rules := by
  unfold derivationsOf
  rw [Except.mapM_eq_ok_iff]
  constructor
  · exact fun h => h.imp fun a rule => Except.mapError_eq_ok_iff.1
  · exact fun h => h.imp fun a rule => Except.mapError_eq_ok_iff.2

/-- Once its template and its rules have been read, a command that lists placeholders succeeds. -/
lemma inspect_of_parse (hconfig : configOf host env false false r.encoding = .ok config)
    (htemplate : templateOf host d config.encoding r = .ok (source, preset))
    (hparse : Template.parse source = .ok t) (hrules : derivationsOf r.derivations = .ok rules) :
    inspect host env d r =
      .ok (listingOf t (((preset.map Preset.rules).getD [] ++ rules).map Rule.name)) := by
  unfold inspect
  rw [hconfig]
  show (templateOf host d config.encoding r >>= _) = _
  rw [htemplate]
  show ((Template.parse source).mapError _ >>= _) = _
  rw [hparse]
  show (derivationsOf r.derivations >>= _) = _
  rw [hrules]
  show Except.ok _ = _
  congr 1
  unfold listingOf
  congr 1
  rw [Option.get_of_eq_some _ (slotRows_of_perm (List.Perm.refl _)), map_slotRow_slots]
  rfl

lemma run_of_inspect {l : Console.Listing} (hread : Command.read arguments = some (.inspect r))
    (hinspect : inspect host env d r = .ok l) : run host env d arguments = .ofListing host d l := by
  unfold run
  rw [hread]
  show runInspect host env d r = _
  unfold runInspect
  rw [hinspect]

/-- A run that lists something passes it to the console, and succeeds if the console takes it. -/
lemma listed_ofListing (host : Host) (d : Disk) (l : Console.Listing) :
    (Run.ofListing host d l).disk = d ∧
      (Run.ofListing host d l).console.head? = some (.listing { l with toOutput := true }) ∧
      (host.refuses (.listing { l with toOutput := true }) = none →
        (Run.ofListing host d l).outcome = .exit Run.success ∧
          (Run.ofListing host d l).console = [.listing { l with toOutput := true }]) := by
  have htold := Run.told_telling host d [] [.listing { l with toOutput := true }] (Run.ofSuccess d)
  change Run.Told _ _ _ _ _ (Run.ofListing host d l) at htold
  generalize Run.ofListing host d l = left at htold ⊢
  cases htold with
  | all => exact ⟨rfl, rfl, fun _ => ⟨rfl, rfl⟩⟩
  | @cut told behind entry error split refused =>
    obtain ⟨rfl, rfl, rfl⟩ : told = [] ∧ behind = [] ∧ entry = .listing { l with toOutput := true } := by
      cases told with
      | nil =>
        cases split
        exact ⟨rfl, rfl, rfl⟩
      | cons =>
        obtain ⟨-, hrest⟩ := List.cons.inj split
        exact absurd hrest (by simp)
    refine ⟨Run.disk_ofTrouble host d _ _, ?_, fun htaken => ?_⟩
    · have hreported := Run.reported_ofTrouble host d [.listing { l with toOutput := true }]
        (.console error)
      change (Run.ofTrouble host d [.listing _] _).console.head? = _
      generalize Run.ofTrouble host d [.listing { l with toOutput := true }] (.console error) = left
        at hreported ⊢
      cases hreported <;> rfl
    · cases htaken.symm.trans refused

/-- **The listing of placeholders is complete and consistent.**  The names of a template are those of
its placeholders, each once, in the order of the first placeholders that ask for them.  It has one slot
for each name, which says how many placeholders ask for the name and whether it is derived; together
the slots count every placeholder.  In whatever order the slots come, each name finds its own.

So a command that lists placeholders passes a listing to the console when its template can be read and
its rules are described well, and succeeds if the console takes it.  The listing has one row for each
name, in order: the name, its count, and a mark if a rule of the preset or of the command line has that
name.  The rows do not depend on the order of the slots, and the listing is a rectangle as it stands. -/
theorem run_lists_placeholders :
    (∀ (t : Template) (derived : List Text),
      t.names.Nodup ∧ (∀ n, n ∈ t.names ↔ ∃ p, Segment.placeholder n p ∈ t.segments) ∧
      t.names.Pairwise (fun m n => t.firstPlace m < t.firstPlace n) ∧
      (t.slots derived).map Slot.name = t.names ∧
      (∀ s ∈ t.slots derived, s.count = t.occurrences s.name ∧ (s.derived = true ↔ s.name ∈ derived)) ∧
      ((t.slots derived).map Slot.count).sum = t.segments.countP (fun g => g.name?.isSome) ∧
      ∀ slots : List Slot, slots.Perm (t.slots derived) → ∀ n ∈ t.names,
        ∃ s ∈ slots, s.name = n ∧ (Template.slotTable slots).get? n = some s) ∧
    ∀ (host : Host) (env : Config.Environment) (d : Disk) (arguments : List Text) (r : InspectRequest)
      (config : Config) (source : Text) (preset : Option Preset) (t : Template) (rules : List Rule),
      Command.read arguments = some (.inspect r) →
      configOf host env false false r.encoding = .ok config →
      templateOf host d config.encoding r = .ok (source, preset) → Template.parse source = .ok t →
      List.Forall₂ (fun a rule => readDerivation a = .ok rule) r.derivations rules →
      (run host env d arguments).disk = d ∧
      ∃ l : Console.Listing,
        (run host env d arguments).console.head? = some (.listing { l with toOutput := true }) ∧
        (host.refuses (.listing { l with toOutput := true }) = none →
          (run host env d arguments).outcome = .exit Run.success ∧
            (run host env d arguments).console = [.listing { l with toOutput := true }]) ∧
        l.rectangle = l ∧ l.columns = ["Placeholder".toList, "Occurrences", "Derived"] ∧
        l.rows = t.names.map (fun n => [n, Nat.toDigits 10 (t.occurrences n),
          if ∃ rule ∈ (preset.map Preset.rules).getD [] ++ rules, rule.name = n then "yes" else []]) ∧
        ∀ slots : List Slot,
          slots.Perm (t.slots (((preset.map Preset.rules).getD [] ++ rules).map Rule.name)) →
          slotRows t.names slots = some l.rows := by
  constructor
  · intro t derived
    refine ⟨t.nodup_names, fun n => Template.mem_names_iff, t.pairwise_names, t.map_name_slots derived,
      ?_, t.sum_count_slots derived, ?_⟩
    · intro s hs
      obtain ⟨-, heq⟩ := Template.eq_of_mem_slots hs
      rw [heq]
      exact ⟨rfl, List.contains_iff_mem⟩
    · intro slots hperm n hn
      have hfound := Template.get?_slotTable hperm hn
      refine ⟨_, hperm.mem_iff.2 ?_, rfl, hfound⟩
      rw [Template.slots_eq]
      exact List.mem_map_of_mem hn
  · intro host env d arguments r config source preset t rules hread hconfig htemplate hparse hrules
    have hinspect := inspect_of_parse hconfig htemplate hparse (derivationsOf_eq_ok_iff.2 hrules)
    rw [run_of_inspect hread hinspect]
    obtain ⟨hdisk, hhead, htaken⟩ := listed_ofListing host d
      (listingOf t (((preset.map Preset.rules).getD [] ++ rules).map Rule.name))
    refine ⟨hdisk, _, hhead, htaken, rectangle_listingOf t _, rfl, ?_, ?_⟩
    · unfold listingOf
      simp only [List.mem_map]
    · intro slots hperm
      rw [slotRows_of_perm hperm, map_slotRow_slots]

/-- A template that asks for one of its two names twice. -/
def threePlaceholders : Disk :=
  { entries := [(["t.txt"],
      .file (Encoding.encodeUtf8 "\x7b\x7bb\x7d\x7d\n\x7b\x7b a \x7d\x7d\x7b\x7bb\x7d\x7d"))] }

theorem run_lists_derived_name :
    Command.read ["inspect", "t.txt", "--derive", "a=b:upper"] =
      some (.inspect ⟨some "t.txt", none, ["a=b:upper"], none⟩) ∧
    (run .library .empty threePlaceholders ["inspect", "t.txt", "--derive", "a=b:upper"]).outcome =
      .exit Run.success ∧
    ∃ l : Console.Listing,
      (run .library .empty threePlaceholders ["inspect", "t.txt", "--derive", "a=b:upper"]).console =
        [.listing { l with toOutput := true }] ∧
      l.rows = [["b".toList, "2", ""], ["a".toList, "1", "yes"]] := by
  have hread : Command.read ["inspect", "t.txt", "--derive", "a=b:upper"] =
      some (.inspect ⟨some "t.txt", none, ["a=b:upper"], none⟩) := by cbv
  have hconfig : configOf .library .empty false false none = .ok {} := by cbv
  have htemplate : templateOf .library threePlaceholders Config.defaultEncoding
      ⟨some "t.txt", none, ["a=b:upper"], none⟩ =
        .ok ("\x7b\x7bb\x7d\x7d\n\x7b\x7b a \x7d\x7d\x7b\x7bb\x7d\x7d", none) := by cbv
  have hparse : Template.parse "\x7b\x7bb\x7d\x7d\n\x7b\x7b a \x7d\x7d\x7b\x7bb\x7d\x7d" =
      .ok ⟨"\x7b\x7bb\x7d\x7d\n\x7b\x7b a \x7d\x7d\x7b\x7bb\x7d\x7d",
        [.placeholder "b" ⟨0, 1, 1⟩, .literal "\n", .placeholder "a" ⟨6, 2, 1⟩,
          .placeholder "b" ⟨13, 2, 8⟩]⟩ := by cbv
  have hrule : readDerivation "a=b:upper" = .ok (.ofStyle "a" "b" .upper "upper case of b") := rfl
  obtain ⟨-, l, -, htaken, -, -, hrows, -⟩ := run_lists_placeholders.2 .library .empty
    threePlaceholders ["inspect", "t.txt", "--derive", "a=b:upper"] _ _ _ _ _ _ hread hconfig htemplate
    hparse (.cons hrule .nil)
  obtain ⟨hsuccess, hconsole⟩ := htaken rfl
  refine ⟨hread, hsuccess, l, hconsole, ?_⟩
  rw [hrows]
  decide

end Formwork.CommandLine
