import Formwork.Proofs.Rule.Cycle
import Formwork.Rule.Order

/-!
# The order of derivation lists what is needed, and lists it in time

`Registry.order` lists derived names along a path, as the search for circles does.  Three things are
shown of the list: no name stands on it twice (`nodup_order`), it holds the names that the targets
reach and no others (`mem_order_iff`), and without circles every name comes after those that it
needs (`Acyclic.mem_before_of_needs`).

The first two hold for circular rules too, where the third must fail somewhere.  The invariant
`Ordered` therefore lets a needed name come late, or not at all as yet, provided that it is on a
circle; a name that is passed over because it stands on the path is always of this kind
(`IsPath.transGen_self`).  The induction is the one for the search, with `Listing` in the place of
`Outcome`.
-/

namespace Formwork.Registry

open Relation

variable {g : Registry}

/-! ## Lists in which names come after what they need -/

/-- Every name of the list comes after the names that it needs.  A needed name that does not come
before is on a circle; it is then on the list all the same, or it stands on the path. -/
def Ordered (g : Registry) (path list : List Text) : Prop :=
  ∀ before name behind, list = before ++ name :: behind → ∀ input, g.Needs name input →
    input ∈ before ∨ (TransGen g.Needs input input ∧ (input ∈ list ∨ input ∈ path))

lemma ordered_nil (path : List Text) : g.Ordered path [] := by
  intro before name behind h
  exact absurd h.symm (by simp)

lemma Ordered.cons_path {path list : List Text} (h : g.Ordered path list) (name : Text) :
    g.Ordered (name :: path) list := by
  intro before n behind hlist input hneeds
  rcases h before n behind hlist input hneeds with hbefore | ⟨hcircle, hlisted | hon⟩
  · exact .inl hbefore
  · exact .inr ⟨hcircle, .inl hlisted⟩
  · exact .inr ⟨hcircle, .inr (List.mem_cons_of_mem _ hon)⟩

/-- The nearest name of a path is needed by every other one, directly or through others. -/
lemma IsPath.transGen {path : List Text} {name : Text} (h : g.IsPath (name :: path)) :
    ∀ n ∈ path, TransGen g.Needs n name := by
  have hchain := h.needed
  clear h
  induction path generalizing name with
  | nil => exact fun n hn => absurd hn List.not_mem_nil
  | cons next path ih =>
    rw [List.isChain_cons_cons] at hchain
    intro n hn
    rcases List.mem_cons.1 hn with rfl | hn
    · exact .single hchain.1
    · exact (ih hchain.2 n hn).tail hchain.1

/-- A name on the path that the nearest one needs is on a circle. -/
lemma IsPath.transGen_self {path : List Text} {name input : Text} (h : g.IsPath (name :: path))
    (hneeds : g.Needs name input) (hon : input ∈ name :: path) : TransGen g.Needs input input := by
  rcases List.mem_cons.1 hon with rfl | hon
  · exact .single hneeds
  · exact (h.transGen input hon).tail hneeds

/-- A name may be added to the list when the names that it needs are listed or on its path. -/
lemma Ordered.concat {path list : List Text} {name : Text} (h : g.Ordered (name :: path) list)
    (hpath : g.IsPath (name :: path))
    (hneeded : ∀ input, g.Needs name input → input ∈ list ∨ input ∈ name :: path) :
    g.Ordered path (list ++ [name]) := by
  -- What was on the path with the name is on the list or on the path without it.
  have hmoved : ∀ input, input ∈ list ∨ input ∈ name :: path →
      input ∈ list ++ [name] ∨ input ∈ path := by
    intro input hin
    rw [List.mem_append, List.mem_singleton]
    rcases hin with hlist | hon
    · exact .inl (.inl hlist)
    · rcases List.mem_cons.1 hon with hname | hon
      · exact .inl (.inr hname)
      · exact .inr hon
  intro before n behind hsplit input hneeds
  rcases List.eq_nil_or_concat behind with rfl | ⟨behind, last, rfl⟩
  · obtain ⟨rfl, hn⟩ := List.append_inj' hsplit rfl
    cases hn
    rcases hneeded input hneeds with hlist | hon
    · exact .inl hlist
    · exact .inr ⟨hpath.transGen_self hneeds hon, hmoved input (.inr hon)⟩
  · rw [List.concat_eq_append, ← List.cons_append, ← List.append_assoc] at hsplit
    obtain ⟨hlist, -⟩ := List.append_inj' hsplit rfl
    rcases h before n behind hlist input hneeds with hbefore | ⟨hcircle, hin⟩
    · exact .inl hbefore
    · exact .inr ⟨hcircle, hmoved input hin⟩

/-! ## What the listing gives -/

/-- What a name's inputs reach is reached from the name. -/
lemma Reachable.of_inputs {name n : Text} (hname : name ∈ g.names)
    (h : g.Reachable (g.inputs name) n) : g.Reachable [name] n := by
  induction h with
  | target mentioned derived =>
    exact .input (.target List.mem_cons_self (contains_iff.2 hname)) ⟨mentioned, derived⟩
  | input _ needed ih => exact .input ih needed

/-- What has become of a list after some names were listed along a path. -/
structure Listing (g : Registry) (path listed names result : List Text) : Prop where
  /-- Nothing that was listed is moved. -/
  keeps : listed <+: result
  distinct : result.Nodup
  /-- What is new is reached from the names, and it is not on the path. -/
  fresh : ∀ n ∈ result, n ∈ listed ∨ n ∉ path ∧ g.Reachable names n
  /-- The derived ones among the names are listed unless they are on the path. -/
  covers : ∀ n ∈ names, n ∈ g.names → n ∈ result ∨ n ∈ path
  ordered : g.Ordered path result

/-- Nothing happens for a name that is listed, on the path or not derived. -/
lemma listing_self {path listed : List Text} {name : Text} (hlisted : listed.Nodup)
    (hordered : g.Ordered path listed) (hname : name ∈ g.names → name ∈ listed ∨ name ∈ path) :
    g.Listing path listed [name] listed := by
  refine ⟨List.prefix_rfl, hlisted, fun n hn => .inl hn, ?_, hordered⟩
  intro n hn hderived
  rw [List.mem_singleton.1 hn] at hderived ⊢
  exact hname hderived

/-- One listing after the other. -/
lemma Listing.trans {path listed result result' names : List Text} {name : Text}
    (h : g.Listing path listed [name] result) (h' : g.Listing path result names result') :
    g.Listing path listed (name :: names) result' := by
  refine ⟨h.keeps.trans h'.keeps, h'.distinct, ?_, ?_, h'.ordered⟩
  · intro n hn
    rcases h'.fresh n hn with hresult | ⟨hoff, hreach⟩
    · rcases h.fresh n hresult with hlisted | ⟨hoff, hreach⟩
      · exact .inl hlisted
      · exact .inr ⟨hoff, hreach.mono (by simp)⟩
    · exact .inr ⟨hoff, hreach.mono (List.subset_cons_self _ _)⟩
  · intro n hn hderived
    rcases List.mem_cons.1 hn with rfl | hn
    · rcases h.covers n List.mem_cons_self hderived with hresult | hon
      · exact .inl (h'.keeps.subset hresult)
      · exact .inr hon
    · exact h'.covers n hn hderived

/-- A name is listed after its inputs. -/
lemma Listing.finish {path listed result : List Text} {name : Text}
    (h : g.Listing (name :: path) listed (g.inputs name) result) (hpath : g.IsPath (name :: path))
    (hoff : name ∉ path) (hlisted : name ∉ listed) (hname : name ∈ g.names) :
    g.Listing path listed [name] (result ++ [name]) := by
  have hnew : name ∉ result := by
    intro hresult
    rcases h.fresh name hresult with hin | ⟨hon, -⟩
    · exact hlisted hin
    · exact hon List.mem_cons_self
  refine ⟨h.keeps.trans (List.prefix_append _ _), ?_, ?_, ?_, ?_⟩
  · rw [List.nodup_append]
    refine ⟨h.distinct, List.nodup_singleton _, ?_⟩
    intro a ha b hb hab
    rw [List.mem_singleton] at hb
    exact hnew (hb ▸ hab ▸ ha)
  · intro n hn
    rw [List.mem_append, List.mem_singleton] at hn
    rcases hn with hresult | rfl
    · rcases h.fresh n hresult with hin | ⟨hon, hreach⟩
      · exact .inl hin
      · exact .inr ⟨fun hn => hon (List.mem_cons_of_mem _ hn), hreach.of_inputs hname⟩
    · exact .inr ⟨hoff, .target List.mem_cons_self (contains_iff.2 hname)⟩
  · intro n hn _
    rw [List.mem_singleton.1 hn]
    exact .inl (List.mem_append_right _ List.mem_cons_self)
  · exact h.ordered.concat hpath fun input hneeds =>
      h.covers input hneeds.mem_inputs hneeds.target_mem

/-! ## One step of the listing -/

lemma listFrom_of_listed {path listed : List Text} {name : Text} (h : name ∈ listed) :
    g.listFrom path listed name = listed := by
  rw [listFrom, if_pos (List.contains_iff_mem.2 h)]

lemma listFrom_of_onPath {path listed : List Text} {name : Text} (hlisted : name ∉ listed)
    (h : name ∈ path) : g.listFrom path listed name = listed := by
  rw [listFrom, if_neg (by simpa using hlisted), dif_pos (by simpa using h)]

lemma listFrom_of_not_mem {path listed : List Text} {name : Text} (hlisted : name ∉ listed)
    (hpath : name ∉ path) (h : name ∉ g.names) : g.listFrom path listed name = listed := by
  rw [listFrom, if_neg (by simpa using hlisted), dif_neg (by simpa using hpath)]
  split
  · rfl
  · rename_i hfind
    exact absurd (mem_names_of_find? hfind) h

lemma listFrom_of_mem {path listed : List Text} {name : Text} (hlisted : name ∉ listed)
    (hpath : name ∉ path) (h : name ∈ g.names) :
    g.listFrom path listed name = g.listAll (name :: path) listed (g.inputs name) ++ [name] := by
  rw [listFrom, if_neg (by simpa using hlisted), dif_neg (by simpa using hpath)]
  split
  · rename_i hfind
    exact absurd h (find?_eq_none_iff.1 hfind)
  · rename_i rule hfind
    rw [inputs_of_find? hfind]

lemma listAll_nil (path listed : List Text) : g.listAll path listed [] = listed := by
  rw [listAll]

lemma listAll_cons (path listed : List Text) (name : Text) (names : List Text) :
    g.listAll path listed (name :: names) =
      g.listAll path (g.listFrom path listed name) names := by
  rw [listAll]

/-! ## The whole listing -/

/-- Names are listed as they should be when each of them is. -/
lemma listing_listAll {path : List Text}
    (hfrom : ∀ listed name, (∀ n ∈ path.head?, name ∈ g.inputs n) → listed.Nodup →
      g.Ordered path listed → g.Listing path listed [name] (g.listFrom path listed name))
    (names listed : List Text) (hread : ∀ n ∈ path.head?, ∀ name ∈ names, name ∈ g.inputs n)
    (hlisted : listed.Nodup) (hordered : g.Ordered path listed) :
    g.Listing path listed names (g.listAll path listed names) := by
  induction names generalizing listed with
  | nil =>
    rw [listAll_nil]
    exact ⟨List.prefix_rfl, hlisted, fun n hn => .inl hn, fun n hn => absurd hn List.not_mem_nil,
      hordered⟩
  | cons name names ih =>
    rw [listAll_cons]
    have hfirst :=
      hfrom listed name (fun n hn => hread n hn name List.mem_cons_self) hlisted hordered
    have hrest := ih (g.listFrom path listed name)
      (fun n hn m hm => hread n hn m (List.mem_cons_of_mem _ hm)) hfirst.distinct hfirst.ordered
    exact hfirst.trans hrest

/-- A name that the nearest name of the path reads is listed as it should be.  The induction is on
the derived names off the path, as for the search for circles. -/
lemma listing_listFrom {path : List Text} (hpath : g.IsPath path) (listed : List Text)
    (name : Text) (hread : ∀ n ∈ path.head?, name ∈ g.inputs n) (hlisted : listed.Nodup)
    (hordered : g.Ordered path listed) :
    g.Listing path listed [name] (g.listFrom path listed name) := by
  induction hoff : g.offPath path using Nat.strong_induction_on generalizing path listed name with
  | _ k ih =>
    by_cases hin : name ∈ listed
    · rw [listFrom_of_listed hin]
      exact listing_self hlisted hordered fun _ => .inl hin
    by_cases hon : name ∈ path
    · rw [listFrom_of_onPath hin hon]
      exact listing_self hlisted hordered fun _ => .inr hon
    by_cases hname : name ∈ g.names
    · rw [listFrom_of_mem hin hon hname]
      have hnext : g.IsPath (name :: path) := hpath.cons hread hname hon
      have hless : g.offPath (name :: path) < k := hoff ▸ offPath_cons_lt_of_mem hname hon
      refine Listing.finish (listing_listAll ?_ _ _ ?_ hlisted (hordered.cons_path name)) hnext hon
        hin hname
      · intro listed' name' hread' hlisted' hordered'
        exact ih _ hless hnext listed' name' hread' hlisted' hordered' rfl
      · intro n hn input hinput
        rw [List.head?_cons, Option.mem_some_iff] at hn
        exact hn ▸ hinput
    · rw [listFrom_of_not_mem hin hon hname]
      exact listing_self hlisted hordered fun h => absurd h hname

lemma listing_order (g : Registry) (targets : List Text) :
    g.Listing [] [] targets (g.order targets) :=
  listing_listAll (fun listed name => listing_listFrom (isPath_nil g) listed name) targets []
    (fun _ hn => nomatch hn) List.nodup_nil (ordered_nil [])

theorem nodup_order (g : Registry) (targets : List Text) : (g.order targets).Nodup :=
  (listing_order g targets).distinct

/-- The names listed are those that the targets mention or need. -/
theorem mem_order_iff {targets : List Text} {name : Text} :
    name ∈ g.order targets ↔ g.Reachable targets name := by
  have hlisting := listing_order g targets
  constructor
  · intro h
    rcases hlisting.fresh name h with hnil | ⟨-, hreach⟩
    · exact absurd hnil List.not_mem_nil
    · exact hreach
  · intro h
    induction h with
    | target mentioned derived =>
      exact (hlisting.covers _ mentioned (contains_iff.1 derived)).resolve_right List.not_mem_nil
    | input _ needed ih =>
      obtain ⟨before, behind, hsplit⟩ := List.append_of_mem ih
      rcases hlisting.ordered before _ behind hsplit _ needed with hbefore | ⟨-, hlisted | hon⟩
      · rw [hsplit]
        exact List.mem_append_left _ hbefore
      · exact hlisted
      · exact absurd hon List.not_mem_nil

/-- Without circles, what a listed name needs is listed before it. -/
lemma Acyclic.mem_before_of_needs (h : g.Acyclic) {targets before behind : List Text}
    {name input : Text} (hsplit : g.order targets = before ++ name :: behind)
    (hneeds : g.Needs name input) : input ∈ before := by
  rcases (listing_order g targets).ordered before name behind hsplit input hneeds with
    hbefore | ⟨hcircle, -⟩
  · exact hbefore
  · exact absurd hcircle (h input)

/-- **The order of derivation is complete and in time.**  Whatever the registry and the targets, the
listing comes to an end, for the path never holds a name twice.  No name is listed twice, and the
names listed are those derived names that the targets mention or need.  Without circles, every
derived name that a listed name reads is listed before it. -/
theorem order_complete_and_in_time (g : Registry) (targets : List Text) :
    (g.order targets).Nodup ∧ (∀ name, name ∈ g.order targets ↔ g.Reachable targets name) ∧
      (g.Acyclic → ∀ before name behind, g.order targets = before ++ name :: behind →
        ∀ input ∈ g.inputs name, input ∈ g.names → input ∈ before) := by
  refine ⟨nodup_order g targets, fun name => mem_order_iff, ?_⟩
  intro hacyclic before name behind hsplit input hinput hderived
  have hneeds : g.Needs name input := ⟨hinput, contains_iff.2 hderived⟩
  exact hacyclic.mem_before_of_needs hsplit hneeds

theorem order_of_shared_inputs :
    ∃ g, RuleSet.registry (.list [bareRule ['d'] [['b'], ['x'], ['c']], bareRule ['c'] [['b']],
        bareRule ['e'] [['d']], bareRule ['b'] [['a']]]) = .ok g ∧ g.Acyclic ∧
      g.order [['x'], ['d'], ['b'], ['d']] = [['b'], ['c'], ['d']] ∧
      ∀ input ∈ g.inputs ['d'], input ∈ g.names → input ∈ [['b'], ['c']] := by
  have hrun : (RuleSet.registry (.list [bareRule ['d'] [['b'], ['x'], ['c']],
      bareRule ['c'] [['b']], bareRule ['e'] [['d']], bareRule ['b'] [['a']]])).map
        (fun g => (g.findCycle, g.order [['x'], ['d'], ['b'], ['d']])) =
      .ok (none, [['b'], ['c'], ['d']]) := by
    cbv
  obtain ⟨g, hg, hresult⟩ := Except.map_eq_ok_iff.1 hrun
  obtain ⟨hcycle, horder⟩ := Prod.mk.inj hresult
  have hacyclic : g.Acyclic := findCycle_eq_none_iff.1 hcycle
  obtain ⟨-, -, hbefore⟩ := order_complete_and_in_time g [['x'], ['d'], ['b'], ['d']]
  exact ⟨g, hg, hacyclic, horder, hbefore hacyclic [['b'], ['c']] ['d'] [] horder⟩

end Formwork.Registry
