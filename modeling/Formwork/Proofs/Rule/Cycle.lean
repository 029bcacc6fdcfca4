import Formwork.Proofs.Rule.Needs
import Formwork.Proofs.Stages
import Formwork.Rule.Cycle
import Mathlib.Data.List.Permutation
import Mathlib.Data.List.TakeWhile

/-!
# The search for circles finds one exactly when there is one

The search carries two lists, and each has its invariant.

* The *path* is a chain of needs without repetition (`IsPath`).  So when a name on it is read again,
  the part of the path from that name on is a circle (`IsPath.isCircle_closedAt`).  This gives
  soundness.
* The names that are *done* are grounded: every chain of needs from them comes to an end.  A name is
  added when all that it needs is done, and such a name is grounded too (`Outcome.finish`).  This
  gives completeness, since the search through a whole registry ends with all names done.

`Outcome` states what a search from some names gives under these invariants.  It is shown for the
search from one name by induction on the derived names off the path, and inside of that for the
search from several names by induction on these.  The search itself is used only through its
equations, one for each thing that can happen to a name (`searchFrom_of_done`,
`searchFrom_of_onPath`, `searchFrom_of_not_mem`, `searchFrom_of_mem`).
-/

namespace Formwork.Registry

variable {g : Registry}

/-! ## Circles and paths -/

/-- A circle as the search gives it: a closed path on which only the first name is repeated, as the
last, and each name is needed by the one before it. -/
structure IsCircle (g : Registry) (cycle : List Text) : Prop where
  closed : ∃ first between, cycle = first :: (between ++ [first])
  distinct : cycle.dropLast.Nodup
  derived : ∀ name ∈ cycle, name ∈ g.names
  needed : cycle.IsChain g.Needs

lemma IsCircle.not_acyclic {cycle : List Text} (h : g.IsCircle cycle) : ¬ g.Acyclic := by
  obtain ⟨first, between, rfl⟩ := h.closed
  intro hacyclic
  exact hacyclic first (transGen_of_isChain h.needed)

/-- The path of a search, nearest name first: its names are derived and distinct, and each is needed
by the one it was reached from. -/
structure IsPath (g : Registry) (path : List Text) : Prop where
  distinct : path.Nodup
  derived : ∀ name ∈ path, name ∈ g.names
  needed : path.IsChain fun input name => g.Needs name input

lemma isPath_nil (g : Registry) : g.IsPath [] :=
  ⟨List.nodup_nil, fun _ h => absurd h List.not_mem_nil, .nil⟩

lemma IsPath.cons {path : List Text} {name : Text} (h : g.IsPath path)
    (hread : ∀ n ∈ path.head?, name ∈ g.inputs n) (hname : name ∈ g.names) (hoff : name ∉ path) :
    g.IsPath (name :: path) := by
  refine ⟨List.nodup_cons.2 ⟨hoff, h.distinct⟩, ?_, ?_⟩
  · intro n hn
    rcases List.mem_cons.1 hn with rfl | hn
    · exact hname
    · exact h.derived n hn
  · exact h.needed.cons fun n hn => ⟨hread n hn, contains_iff.2 hname⟩

lemma exists_eq_takeWhile_append {name : Text} {path : List Text} (h : name ∈ path) :
    ∃ rest, path = path.takeWhile (· != name) ++ name :: rest := by
  induction path with
  | nil => cases h
  | cons n path ih =>
    by_cases hn : n = name
    · exact ⟨path, by simp [hn]⟩
    · obtain ⟨rest, hrest⟩ := ih ((List.mem_cons.1 h).resolve_left fun e => hn e.symm)
      refine ⟨rest, ?_⟩
      rw [List.takeWhile_cons_of_pos (by simpa using hn), List.cons_append, ← hrest]

/-- When a name on the path is read again, the path from it on is a circle. -/
lemma IsPath.isCircle_closedAt {path : List Text} {name : Text} (h : g.IsPath path)
    (hread : ∀ n ∈ path.head?, name ∈ g.inputs n) (hon : name ∈ path) :
    g.IsCircle (closedAt path name) := by
  have hname : name ∈ g.names := h.derived name hon
  obtain ⟨rest, hpath⟩ := exists_eq_takeWhile_append hon
  have hdistinct : (path.takeWhile (· != name)).Nodup :=
    h.distinct.sublist (List.takeWhile_sublist _)
  have hoff : name ∉ path.takeWhile (· != name) := fun hm => by
    simpa using List.mem_takeWhile_imp hm
  have hlast : (closedAt path name).dropLast = name :: (path.takeWhile (· != name)).reverse := by
    unfold closedAt
    rw [List.dropLast_concat]
  refine ⟨⟨name, (path.takeWhile (· != name)).reverse, rfl⟩, ?_, ?_, ?_⟩
  · rw [hlast, List.nodup_cons, List.mem_reverse, List.nodup_reverse]
    exact ⟨hoff, hdistinct⟩
  · intro n hn
    unfold closedAt at hn
    rw [List.mem_append, List.mem_cons, List.mem_reverse, List.mem_singleton] at hn
    rcases hn with (rfl | hn) | rfl
    · exact hname
    · exact h.derived n ((List.takeWhile_sublist _).subset hn)
    · exact hname
  · -- Read backwards, the circle is the beginning of the path with the name once more in front.
    have hchain : (name :: path).IsChain fun input n => g.Needs n input :=
      h.needed.cons fun n hn => ⟨hread n hn, contains_iff.2 hname⟩
    have hbegin : name :: (path.takeWhile (· != name) ++ [name]) <+: name :: path := by
      refine ⟨rest, ?_⟩
      conv_rhs => rw [hpath]
      simp
    have hreverse :
        closedAt path name = (name :: (path.takeWhile (· != name) ++ [name])).reverse := by
      simp [closedAt]
    rw [hreverse, List.isChain_reverse]
    exact hchain.prefix hbegin

/-! ## What the search gives -/

/-- What a search from some names may give: a circle, or the names that are done after it.  These
are grounded, and they include those that were done before and the derived ones among the names
searched from. -/
def Outcome (g : Registry) (done names : List Text) : Except (List Text) (List Text) → Prop
  | .error cycle => g.IsCircle cycle
  | .ok done' =>
    done ⊆ done' ∧ (∀ n ∈ done', g.Grounded n) ∧ ∀ n ∈ names, n ∈ g.names → n ∈ done'

/-- One search after the other: what is done after the first is done before the second. -/
lemma Outcome.bind {done names : List Text} {name : Text}
    {first : Except (List Text) (List Text)} {next : List Text → Except (List Text) (List Text)}
    (h : g.Outcome done [name] first)
    (hnext : ∀ done', (∀ n ∈ done', g.Grounded n) → g.Outcome done' names (next done')) :
    g.Outcome done (name :: names) (first.bind next) := by
  cases first with
  | error cycle => exact h
  | ok done' =>
    obtain ⟨hsub, hgrounded, hcovers⟩ := h
    have hrest : g.Outcome done' names (next done') := hnext done' hgrounded
    show g.Outcome done (name :: names) (next done')
    cases hr : next done' with
    | error cycle =>
      rw [hr] at hrest
      exact hrest
    | ok done'' =>
      rw [hr] at hrest
      obtain ⟨hsub', hgrounded', hcovers'⟩ := hrest
      refine ⟨fun n hn => hsub' (hsub hn), hgrounded', ?_⟩
      intro n hn hderived
      rcases List.mem_cons.1 hn with rfl | hn
      · exact hsub' (hcovers n List.mem_cons_self hderived)
      · exact hcovers' n hn hderived

/-- A name is done after the search from its inputs: what it needs is done by then, so it is
grounded. -/
lemma Outcome.finish {done : List Text} {name : Text} {r : Except (List Text) (List Text)}
    (h : g.Outcome done (g.inputs name) r) : g.Outcome done [name] (r.map (name :: ·)) := by
  cases r with
  | error cycle => exact h
  | ok done' =>
    obtain ⟨hsub, hgrounded, hcovers⟩ := h
    have hground : g.Grounded name :=
      grounded_of_forall fun input hneeds =>
        hgrounded input (hcovers input hneeds.mem_inputs hneeds.target_mem)
    refine ⟨fun n hn => List.mem_cons_of_mem _ (hsub hn), ?_, ?_⟩
    · intro n hn
      rcases List.mem_cons.1 hn with rfl | hn
      · exact hground
      · exact hgrounded n hn
    · intro n hn _
      rw [List.mem_singleton.1 hn]
      exact List.mem_cons_self

/-! ## One step of the search -/

lemma searchFrom_of_done {path done : List Text} {name : Text} (h : name ∈ done) :
    g.searchFrom path done name = .ok done := by
  rw [searchFrom, if_pos (List.contains_iff_mem.2 h)]

/-- A name on the path closes a circle. -/
lemma searchFrom_of_onPath {path done : List Text} {name : Text} (hdone : name ∉ done)
    (h : name ∈ path) : g.searchFrom path done name = .error (closedAt path name) := by
  rw [searchFrom, if_neg (by simpa using hdone), dif_pos (by simpa using h)]

/-- A name without a rule is passed over. -/
lemma searchFrom_of_not_mem {path done : List Text} {name : Text} (hdone : name ∉ done)
    (hpath : name ∉ path) (h : name ∉ g.names) : g.searchFrom path done name = .ok done := by
  rw [searchFrom, if_neg (by simpa using hdone), dif_neg (by simpa using hpath)]
  split
  · rfl
  · rename_i hfind
    exact absurd (mem_names_of_find? hfind) h

/-- From a new derived name the search goes on to its inputs, and then the name is done. -/
lemma searchFrom_of_mem {path done : List Text} {name : Text} (hdone : name ∉ done)
    (hpath : name ∉ path) (h : name ∈ g.names) :
    g.searchFrom path done name =
      (g.searchAll (name :: path) done (g.inputs name)).map (name :: ·) := by
  rw [searchFrom, if_neg (by simpa using hdone), dif_neg (by simpa using hpath)]
  split
  · rename_i hfind
    exact absurd h (find?_eq_none_iff.1 hfind)
  · rename_i rule hfind
    rw [inputs_of_find? hfind]
    cases g.searchAll (name :: path) done rule.inputs <;> rfl

lemma searchAll_nil (path done : List Text) : g.searchAll path done [] = .ok done := by
  rw [searchAll]

lemma searchAll_cons (path done : List Text) (name : Text) (names : List Text) :
    g.searchAll path done (name :: names) =
      (g.searchFrom path done name).bind fun done' => g.searchAll path done' names := by
  rw [searchAll]
  rfl

/-! ## The whole search -/

lemma offPath_cons_lt_of_mem {path : List Text} {name : Text} (h : name ∈ g.names)
    (hpath : name ∉ path) : g.offPath (name :: path) < g.offPath path := by
  obtain ⟨rule, hfind⟩ := exists_find?_of_mem h
  exact offPath_cons_lt hfind (by simpa using hpath)

/-- The search from several names gives what it should when the search from each of them does. -/
lemma outcome_searchAll {path : List Text}
    (hfrom : ∀ done name, (∀ n ∈ path.head?, name ∈ g.inputs n) → (∀ n ∈ done, g.Grounded n) →
      g.Outcome done [name] (g.searchFrom path done name))
    (names done : List Text) (hread : ∀ n ∈ path.head?, ∀ name ∈ names, name ∈ g.inputs n)
    (hdone : ∀ n ∈ done, g.Grounded n) : g.Outcome done names (g.searchAll path done names) := by
  induction names generalizing done with
  | nil =>
    rw [searchAll_nil]
    exact ⟨fun _ h => h, hdone, fun n hn => absurd hn List.not_mem_nil⟩
  | cons name names ih =>
    rw [searchAll_cons]
    have hfirst := hfrom done name (fun n hn => hread n hn name List.mem_cons_self) hdone
    exact hfirst.bind fun done' hdone' =>
      ih done' (fun n hn m hm => hread n hn m (List.mem_cons_of_mem _ hm)) hdone'

/-- The search from a name that the nearest name of the path reads.  The induction is on the derived
names off the path, of which every step down uses one up. -/
lemma outcome_searchFrom {path : List Text} (hpath : g.IsPath path) (done : List Text)
    (name : Text) (hread : ∀ n ∈ path.head?, name ∈ g.inputs n)
    (hdone : ∀ n ∈ done, g.Grounded n) :
    g.Outcome done [name] (g.searchFrom path done name) := by
  induction hoff : g.offPath path using Nat.strong_induction_on generalizing path done name with
  | _ k ih =>
    by_cases hin : name ∈ done
    · rw [searchFrom_of_done hin]
      refine ⟨fun _ h => h, hdone, fun n hn _ => ?_⟩
      rw [List.mem_singleton.1 hn]
      exact hin
    by_cases hon : name ∈ path
    · rw [searchFrom_of_onPath hin hon]
      exact hpath.isCircle_closedAt hread hon
    by_cases hname : name ∈ g.names
    · rw [searchFrom_of_mem hin hon hname]
      have hnext : g.IsPath (name :: path) := hpath.cons hread hname hon
      have hless : g.offPath (name :: path) < k := hoff ▸ offPath_cons_lt_of_mem hname hon
      refine Outcome.finish (outcome_searchAll ?_ _ _ ?_ hdone)
      · intro done' name' hread' hdone'
        exact ih _ hless hnext done' name' hread' hdone' rfl
      · intro n hn input hinput
        rw [List.head?_cons, Option.mem_some_iff] at hn
        exact hn ▸ hinput
    · rw [searchFrom_of_not_mem hin hon hname]
      refine ⟨fun _ h => h, hdone, fun n hn hderived => ?_⟩
      rw [List.mem_singleton.1 hn] at hderived
      exact absurd hderived hname

lemma outcome_search (g : Registry) : g.Outcome [] g.names (g.searchAll [] [] g.names) :=
  outcome_searchAll (fun done name => outcome_searchFrom (isPath_nil g) done name) g.names []
    (fun _ hn => nomatch hn) (fun _ hn => absurd hn List.not_mem_nil)

/-- When no circle is found, every derived name is grounded. -/
lemma grounded_of_findCycle_eq_none (h : g.findCycle = none) :
    ∀ name ∈ g.names, g.Grounded name := by
  have hsearch := outcome_search g
  unfold findCycle at h
  cases hr : g.searchAll [] [] g.names with
  | error cycle =>
    rw [hr] at h
    cases h
  | ok done =>
    rw [hr] at hsearch
    intro name hname
    exact hsearch.2.1 name (hsearch.2.2 name hname hname)

lemma isCircle_of_findCycle {cycle : List Text} (h : g.findCycle = some cycle) :
    g.IsCircle cycle := by
  have hsearch := outcome_search g
  unfold findCycle at h
  cases hr : g.searchAll [] [] g.names with
  | error cycle' =>
    rw [hr] at h hsearch
    cases h
    exact hsearch
  | ok done =>
    rw [hr] at h
    cases h

lemma findCycle_eq_none_iff : g.findCycle = none ↔ g.Acyclic := by
  constructor
  · intro h
    exact acyclic_of_grounded (grounded_of_findCycle_eq_none h)
  · intro h
    cases hc : g.findCycle with
    | none => rfl
    | some cycle => exact absurd h (isCircle_of_findCycle hc).not_acyclic

lemma exists_findCycle_of_not_acyclic (h : ¬ g.Acyclic) :
    ∃ cycle, g.findCycle = some cycle ∧ g.IsCircle cycle := by
  cases hcycle : g.findCycle with
  | none => exact absurd (findCycle_eq_none_iff.1 hcycle) h
  | some cycle => exact ⟨cycle, rfl, isCircle_of_findCycle hcycle⟩

/-- Without circles, every chain of needs comes to an end. -/
lemma Acyclic.grounded (h : g.Acyclic) : ∀ name ∈ g.names, g.Grounded name :=
  grounded_of_findCycle_eq_none (findCycle_eq_none_iff.2 h)

/-- **The search for circles is sound and complete.**  It comes to an end on every registry, for the
path never holds a name twice.  It finds nothing if and only if no name needs itself, and what it
finds is a circle. -/
theorem findCycle_sound_and_complete (g : Registry) :
    (g.findCycle = none ↔ g.Acyclic) ∧ ∀ cycle, g.findCycle = some cycle → g.IsCircle cycle :=
  ⟨findCycle_eq_none_iff, fun _ h => isCircle_of_findCycle h⟩

/-- A rule that only has a name and inputs. -/
def bareRule (name : Text) (inputs : List Text) : Rule := ⟨name, inputs, fun _ => .other [], []⟩

theorem findCycle_behind_tail :
    ∃ g, RuleSet.registry (.list [bareRule ['c'] [['a']], bareRule ['a'] [['x'], ['b']],
        bareRule ['b'] [['a']]]) = .ok g ∧
      g.findCycle = some [['a'], ['b'], ['a']] ∧ g.IsCircle [['a'], ['b'], ['a']] ∧
      ¬ g.Acyclic := by
  have hsearch : (RuleSet.registry (.list [bareRule ['c'] [['a']], bareRule ['a'] [['x'], ['b']],
      bareRule ['b'] [['a']]])).map findCycle = .ok (some [['a'], ['b'], ['a']]) := by
    cbv
  obtain ⟨g, hg, hcycle⟩ := Except.map_eq_ok_iff.1 hsearch
  obtain ⟨-, hfound⟩ := findCycle_sound_and_complete g
  have hcircle := hfound _ hcycle
  exact ⟨g, hg, hcycle, hcircle, hcircle.not_acyclic⟩

end Formwork.Registry
