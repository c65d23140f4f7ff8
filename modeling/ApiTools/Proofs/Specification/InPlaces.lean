/-
  ApiTools.Proofs.Specification.InPlaces
  ──────────────────────────────────────
  **THE LIBRARY THAT IS USED REPLACES REFERENCES.**

  `inPlaces` does with the references of a value what a library has to do
  (`replaces_inPlaces`).  The lemmas go along its recursion over values: it
  looks up the references in the value (`expand_congr`), leaves a value without
  references as it is (`expand_of_free`), makes up nothing else than what
  references lead to (`fit_of_expand`), and puts that where they stood
  (`placed_of_expand`).
-/
import ApiTools.Proofs.Specification.Placing

namespace ApiTools.Specification

variable {follow other : Value → Except Fault Value} {loose : Value → Prop} {only : Bool}
variable {n : Option Nat} {es : Entries} {xs : List Value} {v : Value}

/-! ## §1. References that are looked up. -/

theorem forall_entryReferences {P : Value → Prop} {k : Value}
    (h : ∀ r ∈ entryReferences ((k, v) :: es), P r) :
    (k.isText "$ref" = true → P v) ∧ (∀ r ∈ references v, P r) ∧ ∀ r ∈ entryReferences es, P r := by
  rw [entryReferences, List.append_assoc] at h
  refine ⟨fun key => h v (List.mem_append_left _ ?_), fun r hr => h r ?_, fun r hr => h r ?_⟩
  · rw [if_pos key]
    exact List.mem_singleton_self v
  · exact List.mem_append_right _ (List.mem_append_left _ hr)
  · exact List.mem_append_right _ (List.mem_append_right _ hr)

mutual

theorem expand_congr (only : Bool) : ∀ v, (∀ r ∈ references v, follow r = other r) →
    expand follow only v = expand other only v
  | .mapping es, h => by
      rw [references] at h
      rw [expand, expand, expandEntries_congr _ es h]
  | .list xs, h => by
      rw [references] at h
      rw [expand, expand, expandItems_congr only xs h]
  | .tuple _, _ => by rw [expand, expand]
  | .null, _ => rfl
  | .bool _, _ => rfl
  | .int _, _ => rfl
  | .float _, _ => rfl
  | .str _, _ => rfl
  | .torn _, _ => rfl
  | .bytes _, _ => rfl
  | .date _, _ => rfl
  | .datetime _, _ => rfl
  | .set _, _ => rfl

theorem expandEntries_congr (only : Bool) : ∀ es : List (Value × Value),
    (∀ r ∈ entryReferences es, follow r = other r) →
    expandEntries follow only es = expandEntries other only es
  | [], _ => rfl
  | (k, v) :: es, h => by
      obtain ⟨own, inner, later⟩ := forall_entryReferences h
      rw [expandEntries, expandEntries, expandEntries_congr only es later, expand_congr only v inner]
      split
      next key => rw [own key]
      next => rfl

theorem expandItems_congr (only : Bool) : ∀ xs : List Value,
    (∀ r ∈ itemReferences xs, follow r = other r) →
    expandItems follow only xs = expandItems other only xs
  | [], _ => rfl
  | x :: xs, h => by
      rw [itemReferences, List.forall_mem_append] at h
      rw [expandItems, expandItems, expand_congr only x h.1, expandItems_congr only xs h.2]

end

/-! ## §2. Values without references. -/

theorem not_contains_of_plain (plain : Entries.get? "$ref" es = none) :
    Entries.contains "$ref" es = false := by
  rw [Entries.contains, plain]
  rfl

mutual

theorem expand_of_free : ∀ v, references v = [] → expand follow false v = .ok ⟨v, []⟩
  | .mapping es, h => by
      rw [references_mapping_eq_nil_iff] at h
      have plain : Entries.get? "$ref" es = none := get?_eq_none_iff.mpr fun e mem => (h e mem).1
      rw [expand, not_contains_of_plain plain]
      show expandEntries follow false es >>= _ = _
      rw [expandEntries_of_free es h]
      rfl
  | .list xs, h => by
      have made : ∀ xs : List Value, (xs.map fun x => (⟨x, []⟩ : Expanded)).map (·.value) = xs
          ∧ (xs.map fun x => (⟨x, []⟩ : Expanded)).flatMap (·.excess) = [] := fun xs => by
        simp [Function.comp_def]
      rw [expand, expandItems_of_free xs (references_list_eq_nil_iff.mp h), ok_bind, (made xs).1,
        (made xs).2]
  | .tuple xs, h => by
      have free : xs.all isFree = true := by
        rw [List.all_eq_true]
        exact fun x hx => isFree_eq_true_iff.mpr (references_list_eq_nil_iff.mp h x hx)
      rw [expand, if_pos free]
  | .null, _ => rfl
  | .bool _, _ => rfl
  | .int _, _ => rfl
  | .float _, _ => rfl
  | .str _, _ => rfl
  | .torn _, _ => rfl
  | .bytes _, _ => rfl
  | .date _, _ => rfl
  | .datetime _, _ => rfl
  | .set _, _ => rfl

theorem expandEntries_of_free : ∀ es : List (Value × Value),
    (∀ e ∈ es, e.1 ≠ .str "$ref" ∧ references e.2 = []) →
    expandEntries follow false es = .ok ⟨none, es, []⟩
  | [], _ => rfl
  | (k, v) :: es, h => by
      rw [List.forall_mem_cons] at h
      have key : ¬ k.isText "$ref" = true := fun key => h.1.1 (Value.isText_eq_true_iff.mp key)
      rw [expandEntries, if_neg key, expand_of_free v h.1.2, expandEntries_of_free es h.2]
      rfl

theorem expandItems_of_free : ∀ xs : List Value, (∀ x ∈ xs, references x = []) →
    expandItems follow false xs = .ok (xs.map fun x => ⟨x, []⟩)
  | [], _ => rfl
  | x :: xs, h => by
      rw [List.forall_mem_cons] at h
      rw [expandItems, expand_of_free x h.1, expandItems_of_free xs h.2]
      rfl

end

/-! ## §3. What is made of references. -/

/-- What is asked of what a value becomes and of what is left over. -/
structure Expanded.Fit (follow : Value → Except Fault Value) (loose : Value → Prop) (x : Expanded) :
    Prop where
  made : Made (fun r u => follow r = .ok u) x.value
  extra : ∀ e ∈ x.excess, Extra (fun r u => follow r = .ok u) loose e

/-- The same for the entries of a mapping. -/
structure ExpandedEntries.Fit (follow : Value → Except Fault Value) (loose : Value → Prop)
    (only : Bool) (es : Entries) (x : ExpandedEntries) : Prop where
  found : ∀ u, x.found = some u → ∃ r, Entries.get? "$ref" es = some r ∧ follow r = .ok u
  plain : x.found = none → Entries.get? "$ref" es = none
  names : ∀ e ∈ x.entries, e.1 ≠ .str "$ref"
  made : ∀ e ∈ x.entries, Made (fun r u => follow r = .ok u) e.2
  /-- entries that are alone with others of their kind have references -/
  refers : only = true → ∀ e ∈ x.entries, ∃ d ∈ es, d.1 = e.1 ∧ references d.2 ≠ []
  extra : ∀ e ∈ x.excess, Extra (fun r u => follow r = .ok u) loose e

/-- What is stored or left over for a mapping with a reference are extras. -/
theorem ExpandedEntries.Fit.extras {x : ExpandedEntries} (fit : x.Fit follow loose true es)
    (within : ∀ l ∈ besides (.mapping (p := n) es), loose l) {u : Value} (found : x.found = some u) :
    ∀ e ∈ x.entries ++ x.excess, Extra (fun r u => follow r = .ok u) loose e := by
  refine List.forall_mem_append.mpr ⟨fun e mem => ?_, fit.extra⟩
  obtain ⟨r, there, _⟩ := fit.found u found
  obtain ⟨d, hd, same, refers⟩ := fit.refers rfl e mem
  have here : Entries.contains "$ref" es = true := by rw [Entries.contains, there]; rfl
  refine ⟨within _ ?_, fit.names e mem, fit.made e mem⟩
  rw [besides, ← same]
  exact List.mem_append_left _
    (mem_keysBeside here hd (by rw [same]; exact fit.names e mem) refers)

/-- What a mapping becomes: without a reference its entries with what is left over, else what the
reference leads to, alone or with what stands beside it. -/
theorem ExpandedEntries.whole_cases {x : ExpandedEntries} {y : Expanded} (h : x.whole n = .ok y) :
    (x.found = none ∧ y = ⟨.mapping (p := n) (storeAll x.excess x.entries), []⟩)
      ∨ (∃ u, x.found = some u ∧ y = ⟨u, x.entries ++ x.excess⟩)
      ∨ ∃ m fs, x.found = some (.mapping (p := m) fs) ∧ fs ≠ []
        ∧ y = ⟨.mapping (p := m) (storeAll (x.entries ++ x.excess) fs), []⟩ := by
  unfold ExpandedEntries.whole at h
  split at h
  next none =>
    injection h with h
    exact Or.inl ⟨none, h.symm⟩
  next u found =>
    dsimp only at h
    split at h
    next =>
      injection h with h
      exact Or.inr (Or.inl ⟨u, found, h.symm⟩)
    next kept =>
      split at h
      next m fs =>
        injection h with h
        refine Or.inr (Or.inr ⟨m, fs, found, ?_, h.symm⟩)
        rintro rfl
        exact kept (by simp [Value.truthy])
      next => exact absurd h (by simp)

/-- So what a mapping becomes is fit if what its entries become is. -/
theorem ExpandedEntries.Fit.whole {x : ExpandedEntries} {y : Expanded}
    (fit : x.Fit follow loose (only || Entries.contains "$ref" es) es)
    (within : ∀ l ∈ besides (.mapping (p := n) es), loose l) (h : x.whole n = .ok y) :
    y.Fit follow loose := by
  have beside : ∀ {u}, x.found = some u →
      ∀ e ∈ x.entries ++ x.excess, Extra (fun r u => follow r = .ok u) loose e := by
    intro u found
    obtain ⟨r, there, _⟩ := fit.found u found
    have here : (only || Entries.contains "$ref" es) = true := by
      rw [Entries.contains, there, Option.isSome_some, Bool.or_true]
    rw [here] at fit
    exact fit.extras within found
  rcases whole_cases h with ⟨_, rfl⟩ | ⟨u, found, rfl⟩ | ⟨_, fs, found, _, rfl⟩
  · exact ⟨(Made.mapping fit.names fit.made).storeAll fit.extra,
      fun _ mem => absurd mem List.not_mem_nil⟩
  · obtain ⟨r, _, led⟩ := fit.found u found
    exact ⟨.led led, beside found⟩
  · obtain ⟨r, _, led⟩ := fit.found _ found
    exact ⟨(Made.led led).storeAll (beside found), fun _ mem => absurd mem List.not_mem_nil⟩

namespace ExpandedEntries.Fit

variable {x : ExpandedEntries} {k w : Value}

theorem nil : ExpandedEntries.Fit follow loose only [] ⟨none, [], []⟩ where
  found := fun _ found => by simp at found
  plain := fun _ => rfl
  names := fun _ mem => absurd mem List.not_mem_nil
  made := fun _ mem => absurd mem List.not_mem_nil
  refers := fun _ _ mem => absurd mem List.not_mem_nil
  extra := fun _ mem => absurd mem List.not_mem_nil

theorem refers_cons (fit : x.Fit follow loose only es) (f : Value × Value) (alone : only = true) :
    ∀ e ∈ x.entries, ∃ d ∈ f :: es, d.1 = e.1 ∧ references d.2 ≠ [] := by
  intro e mem
  obtain ⟨d, hd, found⟩ := fit.refers alone e mem
  exact ⟨d, List.mem_cons_of_mem _ hd, found⟩

/-- An entry in front that is left out. -/
theorem behind (fit : x.Fit follow loose only es) (name : k ≠ .str "$ref") (w : Value) :
    x.Fit follow loose only ((k, w) :: es) :=
  { fit with
    found := fun u same => by
      rw [Entries.get?_cons_of_ne name]
      exact fit.found u same
    plain := fun none => by
      rw [Entries.get?_cons_of_ne name]
      exact fit.plain none
    refers := fit.refers_cons _ }

/-- A reference in front: what it leads to is what is found. -/
theorem reference (fit : x.Fit follow loose only es) {u : Value} (led : follow w = .ok u) :
    ExpandedEntries.Fit follow loose only ((.str "$ref", w) :: es) { x with found := some u } :=
  { fit with
    found := fun _ same => ⟨w, Entries.get?_cons_self, by rw [led, Option.some.inj same]⟩
    plain := fun none => by simp at none
    refers := fit.refers_cons _ }

/-- An entry in front that is kept, as what its value becomes. -/
theorem entry (fit : x.Fit follow loose only es) (name : k ≠ .str "$ref") {y : Expanded}
    (own : y.Fit follow loose) (kept : only = true → references w ≠ []) :
    ExpandedEntries.Fit follow loose only ((k, w) :: es)
      ⟨x.found, (k, y.value) :: x.entries, y.excess ++ x.excess⟩ :=
  let passed := fit.behind name w
  { found := passed.found
    plain := passed.plain
    names := List.forall_mem_cons.mpr ⟨name, fit.names⟩
    made := List.forall_mem_cons.mpr ⟨own.made, fit.made⟩
    refers := fun alone => List.forall_mem_cons.mpr
      ⟨⟨(k, w), List.mem_cons_self, rfl, kept alone⟩, passed.refers alone⟩
    extra := List.forall_mem_append.mpr ⟨own.extra, fit.extra⟩ }

end ExpandedEntries.Fit

theorem fit_atom {x : Expanded} (free : references v = []) (h : ⟨v, []⟩ = x) :
    x.Fit follow loose := by
  rw [← h]
  exact ⟨.free free, fun _ mem => absurd mem List.not_mem_nil⟩

mutual

theorem fit_of_expand (only : Bool) : ∀ v, (∀ l ∈ besides v, loose l) → ∀ {x},
    expand follow only v = .ok x → x.Fit follow loose
  | .mapping es, within, x, h => by
      rw [expand] at h
      obtain ⟨y, entries, h⟩ := bind_eq_ok.mp h
      have inner : ∀ l ∈ entryBesides es, loose l := fun l hl =>
        within l (by rw [besides]; exact List.mem_append_right _ hl)
      exact (fit_of_expandEntries _ es inner entries).whole within h
  | .list xs, within, x, h => by
      rw [besides] at within
      rw [expand] at h
      obtain ⟨done, items, h⟩ := bind_eq_ok.mp h
      injection h with h
      have fit := fit_of_expandItems only xs within items
      rw [← h]
      refine ⟨.list fun u hu => ?_, fun e he => ?_⟩
      · obtain ⟨y, hy, rfl⟩ := List.mem_map.mp hu
        exact (fit y hy).made
      · obtain ⟨y, hy, he⟩ := List.mem_flatMap.mp he
        exact (fit y hy).extra e he
  | .tuple xs, _, x, h => by
      rw [expand] at h
      split at h
      next free =>
        injection h with h
        rw [List.all_eq_true] at free
        rw [← h]
        exact ⟨.free (references_list_eq_nil_iff.mpr fun x hx => isFree_eq_true_iff.mp (free x hx)),
          fun _ mem => absurd mem List.not_mem_nil⟩
      next => exact absurd h (by simp)
  | .null, _, _, h => fit_atom rfl (Except.ok.inj h)
  | .bool _, _, _, h => fit_atom rfl (Except.ok.inj h)
  | .int _, _, _, h => fit_atom rfl (Except.ok.inj h)
  | .float _, _, _, h => fit_atom rfl (Except.ok.inj h)
  | .str _, _, _, h => fit_atom rfl (Except.ok.inj h)
  | .torn _, _, _, h => fit_atom rfl (Except.ok.inj h)
  | .bytes _, _, _, h => fit_atom rfl (Except.ok.inj h)
  | .date _, _, _, h => fit_atom rfl (Except.ok.inj h)
  | .datetime _, _, _, h => fit_atom rfl (Except.ok.inj h)
  | .set _, _, _, h => fit_atom rfl (Except.ok.inj h)

theorem fit_of_expandEntries (only : Bool) : ∀ es : List (Value × Value),
    (∀ l ∈ entryBesides es, loose l) → ∀ {x}, expandEntries follow only es = .ok x →
    x.Fit follow loose only es
  | [], _, x, h => by
      injection h with h
      rw [← h]
      exact .nil
  | (k, v) :: es, within, x, h => by
      rw [entryBesides, List.forall_mem_append] at within
      have later : ∀ {y}, expandEntries follow only es = .ok y → y.Fit follow loose only es :=
        fit_of_expandEntries only es within.2
      rw [expandEntries] at h
      split at h
      next key =>
        obtain ⟨u, led, h⟩ := bind_eq_ok.mp h
        obtain ⟨y, others, h⟩ := bind_eq_ok.mp h
        injection h with h
        rw [Value.isText_eq_true_iff] at key
        rw [← h, key]
        exact (later others).reference led
      next key =>
        have name : k ≠ .str "$ref" := fun same => key (Value.isText_eq_true_iff.mpr same)
        split at h
        next => exact (later h).behind name v
        next kept =>
          obtain ⟨y, value, h⟩ := bind_eq_ok.mp h
          obtain ⟨z, others, h⟩ := bind_eq_ok.mp h
          injection h with h
          rw [← h]
          -- an entry without references is kept only if not just those with references are
          refine (later others).entry name (fit_of_expand only v within.1 value) ?_
          intro alone free
          exact kept (by rw [alone, isFree_eq_true_iff.mpr free]; rfl)

theorem fit_of_expandItems (only : Bool) : ∀ xs : List Value, (∀ l ∈ itemBesides xs, loose l) →
    ∀ {done}, expandItems follow only xs = .ok done → ∀ y ∈ done, y.Fit follow loose
  | [], _, done, h => by
      injection h with h
      rw [← h]
      exact fun _ mem => absurd mem List.not_mem_nil
  | x :: xs, within, done, h => by
      rw [itemBesides, List.forall_mem_append] at within
      rw [expandItems] at h
      obtain ⟨y, item, h⟩ := bind_eq_ok.mp h
      obtain ⟨others, items, h⟩ := bind_eq_ok.mp h
      injection h with h
      rw [← h]
      exact List.forall_mem_cons.mpr
        ⟨fit_of_expand only x within.1 item, fit_of_expandItems only xs within.2 items⟩

end

/-! ## §4. Places. -/

/-- A mapping with a reference gives way, one without stays, as its entries do. -/
theorem placed_of_whole {x : ExpandedEntries} {y : Expanded}
    (fit : x.Fit follow loose (Entries.contains "$ref" es) es)
    (within : ∀ l ∈ besides (.mapping (p := n) es), loose l)
    (keys : Entries.get? "$ref" es = none → x.entries.map (·.1) = es.map (·.1))
    (values : Entries.get? "$ref" es = none → ∀ (i : Nat) (d e : Value × Value),
      es[i]? = some d → x.entries[i]? = some e →
      Placed (fun r u => follow r = .ok u) loose d.2 e.2)
    (h : x.whole n = .ok y) :
    Placed (fun r u => follow r = .ok u) loose (.mapping (p := n) es) y.value := by
  rcases ExpandedEntries.whole_cases h with
    ⟨none, rfl⟩ | ⟨u, found, rfl⟩ | ⟨_, fs, found, some, rfl⟩
  · exact .mapping (fit.plain none) (keys (fit.plain none)) (values (fit.plain none)) fit.extra
  · obtain ⟨r, there, led⟩ := fit.found u found
    exact .reference there led
  · obtain ⟨r, there, led⟩ := fit.found _ found
    rw [Entries.contains, there] at fit
    exact .beside there led some (fit.extras within found)

mutual

theorem placed_of_expand : ∀ v, (∀ l ∈ besides v, loose l) → ∀ {x},
    expand follow false v = .ok x → Placed (fun r u => follow r = .ok u) loose v x.value
  | .mapping es, within, x, h => by
      rw [expand, Bool.false_or] at h
      obtain ⟨y, entries, h⟩ := bind_eq_ok.mp h
      have inner : ∀ l ∈ entryBesides es, loose l := fun l hl =>
        within l (by rw [besides]; exact List.mem_append_right _ hl)
      have placed : Entries.get? "$ref" es = none → _ := fun plain =>
        placed_of_expandEntries es (get?_eq_none_iff.mp plain) inner
          (by rwa [not_contains_of_plain plain] at entries)
      exact placed_of_whole (fit_of_expandEntries _ es inner entries) within
        (fun plain => (placed plain).1) (fun plain => (placed plain).2) h
  | .list xs, within, x, h => by
      rw [besides] at within
      rw [expand] at h
      obtain ⟨done, items, h⟩ := bind_eq_ok.mp h
      injection h with h
      obtain ⟨length, each⟩ := placed_of_expandItems xs within items
      rw [← h]
      refine .list (by rw [List.length_map, length]) fun i a b old new => ?_
      rw [List.getElem?_map] at new
      obtain ⟨y, item, rfl⟩ := Option.map_eq_some_iff.mp new
      exact each i a y old item
  | .tuple xs, _, x, h => by
      rw [expand] at h
      split at h
      next free =>
        injection h with h
        rw [List.all_eq_true] at free
        rw [← h]
        exact .free (references_list_eq_nil_iff.mpr fun x hx => isFree_eq_true_iff.mp (free x hx))
      next => exact absurd h (by simp)
  | .null, _, _, h => by rw [← Except.ok.inj h]; exact .free rfl
  | .bool _, _, _, h => by rw [← Except.ok.inj h]; exact .free rfl
  | .int _, _, _, h => by rw [← Except.ok.inj h]; exact .free rfl
  | .float _, _, _, h => by rw [← Except.ok.inj h]; exact .free rfl
  | .str _, _, _, h => by rw [← Except.ok.inj h]; exact .free rfl
  | .torn _, _, _, h => by rw [← Except.ok.inj h]; exact .free rfl
  | .bytes _, _, _, h => by rw [← Except.ok.inj h]; exact .free rfl
  | .date _, _, _, h => by rw [← Except.ok.inj h]; exact .free rfl
  | .datetime _, _, _, h => by rw [← Except.ok.inj h]; exact .free rfl
  | .set _, _, _, h => by rw [← Except.ok.inj h]; exact .free rfl

theorem placed_of_expandEntries : ∀ es : List (Value × Value), (∀ e ∈ es, e.1 ≠ .str "$ref") →
    (∀ l ∈ entryBesides es, loose l) → ∀ {x}, expandEntries follow false es = .ok x →
    x.entries.map (·.1) = es.map (·.1) ∧ ∀ (i : Nat) (d e : Value × Value),
      es[i]? = some d → x.entries[i]? = some e →
      Placed (fun r u => follow r = .ok u) loose d.2 e.2
  | [], _, _, x, h => by
      injection h with h
      rw [← h]
      exact ⟨rfl, fun i d e old => by simp at old⟩
  | (k, v) :: es, plain, within, x, h => by
      rw [List.forall_mem_cons] at plain
      rw [entryBesides, List.forall_mem_append] at within
      have key : ¬ k.isText "$ref" = true := fun key => plain.1 (Value.isText_eq_true_iff.mp key)
      rw [expandEntries, if_neg key, Bool.false_and, if_neg Bool.false_ne_true] at h
      obtain ⟨y, value, h⟩ := bind_eq_ok.mp h
      obtain ⟨z, others, h⟩ := bind_eq_ok.mp h
      injection h with h
      obtain ⟨keys, each⟩ := placed_of_expandEntries es plain.2 within.2 others
      rw [← h]
      refine ⟨congrArg (k :: ·) keys, fun i d e old new => ?_⟩
      cases i with
      | zero =>
          injection old with old
          injection new with new
          rw [← old, ← new]
          exact placed_of_expand v within.1 value
      | succ i => exact each i d e old new

theorem placed_of_expandItems : ∀ xs : List Value, (∀ l ∈ itemBesides xs, loose l) →
    ∀ {done}, expandItems follow false xs = .ok done →
    done.length = xs.length ∧ ∀ (i : Nat) (x : Value) (y : Expanded),
      xs[i]? = some x → done[i]? = some y →
      Placed (fun r u => follow r = .ok u) loose x y.value
  | [], _, done, h => by
      injection h with h
      rw [← h]
      exact ⟨rfl, fun i x y old => by simp at old⟩
  | x :: xs, within, done, h => by
      rw [itemBesides, List.forall_mem_append] at within
      rw [expandItems] at h
      obtain ⟨y, item, h⟩ := bind_eq_ok.mp h
      obtain ⟨others, items, h⟩ := bind_eq_ok.mp h
      injection h with h
      obtain ⟨length, each⟩ := placed_of_expandItems xs within.2 items
      rw [← h]
      refine ⟨congrArg (· + 1) length, fun i a b old new => ?_⟩
      cases i with
      | zero =>
          injection old with old
          injection new with new
          rw [← old, ← new]
          exact placed_of_expand x within.1 item
      | succ i => exact each i a b old new

end

/-- **THE LIBRARY THAT IS USED REPLACES REFERENCES.** -/
theorem replaces_inPlaces : Placing.Replaces inPlaces where
  placed := by
    intro follow v w h
    obtain ⟨x, done, h⟩ := bind_eq_ok.mp h
    injection h with h
    exact ⟨x, h.symm, placed_of_expand v (fun _ hl => hl) done,
      (fit_of_expand false v (fun _ hl => hl) done).extra⟩
  refused := by
    intro follow v e h free
    rw [inPlaces, expand_of_free v free] at h
    exact absurd h (by simp)
  inside := by
    intro follow other v same
    rw [inPlaces, inPlaces, expand_congr false v same]

end ApiTools.Specification
