/-
  ApiTools.Proofs.Specification.Placing
  ─────────────────────────────────────
  **WHAT A LIBRARY HAS TO DO WITH REFERENCES.**

  Resolving is the same for every library, except for how what references lead
  to is put in their places.  Of that three things are asked
  (`Placing.Replaces`): every mapping with a reference gives way to what this
  leads to (`Placed`), only references are refused, and no others are looked
  up.  Left open is what becomes of references that stand beside a reference:
  what they lead to may be stored around there, under the names that stand
  beside it (`besides`).

  From that it follows for one value that no reference is left if what they
  lead to has none (`Made.references`), that a value without references is not
  changed (`Placed.eq_of_free`), and what stands at the place of a reference
  (`Placed.exists_valueAt`).
-/
import ApiTools.Proofs.Specification.References
import ApiTools.Proofs.Value.Keyed

namespace ApiTools.Specification

variable {leads : Value → Value → Prop} {loose : Value → Prop} {es fs more : Entries}
variable {r k u v w : Value} {p : List Step}

/-! ## §1. What stands beside references. -/

/-- The keys beside the reference of a mapping under which there are other references. -/
def keysBeside (es : Entries) : List Value :=
  if Entries.contains "$ref" es then
    (es.filter fun e => !e.1.isText "$ref" && !isFree e.2).map (·.1)
  else []

mutual

/-- The keys, at whatever depth, that stand beside a reference and have other references. -/
def besides : Value → List Value
  | .mapping es => keysBeside es ++ entryBesides es
  | .list xs => itemBesides xs
  | .tuple xs => itemBesides xs
  | _ => []

def entryBesides : List (Value × Value) → List Value
  | [] => []
  | (_, v) :: es => besides v ++ entryBesides es

def itemBesides : List Value → List Value
  | [] => []
  | v :: vs => besides v ++ itemBesides vs

end

theorem mem_keysBeside (there : Entries.contains "$ref" es = true) {e : Value × Value}
    (mem : e ∈ es) (name : e.1 ≠ .str "$ref") (refers : references e.2 ≠ []) :
    e.1 ∈ keysBeside es := by
  rw [keysBeside, if_pos there]
  refine List.mem_map.mpr ⟨e, List.mem_filter.mpr ⟨mem, ?_⟩, rfl⟩
  rw [Bool.and_eq_true, Bool.not_eq_true', Bool.not_eq_true', Bool.eq_false_iff, Bool.eq_false_iff]
  exact ⟨fun key => name (Value.isText_eq_true_iff.mp key),
    fun free => refers (isFree_eq_true_iff.mp free)⟩

theorem mem_entryBesides {e : Value × Value} (mem : e ∈ es) : besides e.2 ⊆ entryBesides es := by
  induction es with
  | nil => exact absurd mem List.not_mem_nil
  | cons d es ih =>
      rw [entryBesides]
      rcases List.mem_cons.mp mem with rfl | mem
      · exact List.subset_append_left _ _
      · exact List.subset_append_of_subset_right _ (ih mem)

theorem mem_itemBesides {xs : List Value} {x : Value} (mem : x ∈ xs) :
    besides x ⊆ itemBesides xs := by
  induction xs with
  | nil => exact absurd mem List.not_mem_nil
  | cons y xs ih =>
      rw [itemBesides]
      rcases List.mem_cons.mp mem with rfl | mem
      · exact List.subset_append_left _ _
      · exact List.subset_append_of_subset_right _ (ih mem)

/-! ## §2. What is asked of a library. -/

/-- A value is put together from values without references and from what references lead to. -/
inductive Made (leads : Value → Value → Prop) : Value → Prop
  | free {v : Value} (h : references v = []) : Made leads v
  | led {r v : Value} (h : leads r v) : Made leads v
  | list {xs : List Value} (items : ∀ x ∈ xs, Made leads x) : Made leads (.list xs)
  | mapping {n : Option Nat} {es : Entries} (names : ∀ e ∈ es, e.1 ≠ .str "$ref")
      (values : ∀ e ∈ es, Made leads e.2) : Made leads (.mapping (p := n) es)
  | stored {n : Option Nat} {es : Entries} {k v : Value} (into : Made leads (.mapping (p := n) es))
      (name : k ≠ .str "$ref") (value : Made leads v) :
      Made leads (.mapping (p := n) (Entries.insert k v es))

/-- An entry that is stored for a reference that stands beside another one. -/
structure Extra (leads : Value → Value → Prop) (loose : Value → Prop) (e : Value × Value) :
    Prop where
  loose : loose e.1
  name : e.1 ≠ .str "$ref"
  made : Made leads e.2

/-- What references lead to has been put in their places: a mapping with a reference has given way
to what this leads to, everything else has stayed.  Only extras may have been stored, but none in
an empty mapping that a reference led to. -/
inductive Placed (leads : Value → Value → Prop) (loose : Value → Prop) : Value → Value → Prop
  | free {v : Value} (h : references v = []) : Placed leads loose v v
  | list {xs ys : List Value} (length : ys.length = xs.length)
      (items : ∀ (i : Nat) (x y : Value), xs[i]? = some x → ys[i]? = some y →
        Placed leads loose x y) :
      Placed leads loose (.list xs) (.list ys)
  | mapping {n : Option Nat} {es fs more : Entries} (plain : Entries.get? "$ref" es = none)
      (keys : fs.map (·.1) = es.map (·.1))
      (values : ∀ (i : Nat) (d e : Value × Value), es[i]? = some d → fs[i]? = some e →
        Placed leads loose d.2 e.2)
      (extra : ∀ e ∈ more, Extra leads loose e) :
      Placed leads loose (.mapping (p := n) es) (.mapping (p := n) (storeAll more fs))
  | reference {n : Option Nat} {es : Entries} {r w : Value}
      (there : Entries.get? "$ref" es = some r) (led : leads r w) :
      Placed leads loose (.mapping (p := n) es) w
  | beside {m n : Option Nat} {es fs more : Entries} {r : Value}
      (there : Entries.get? "$ref" es = some r) (led : leads r (.mapping (p := m) fs))
      (some : fs ≠ []) (extra : ∀ e ∈ more, Extra leads loose e) :
      Placed leads loose (.mapping (p := n) es) (.mapping (p := m) (storeAll more fs))

/-- **What a library has to do with the references of a value.** -/
structure Placing.Replaces (place : Placing) : Prop where
  /-- what references lead to is put in their places; extras may be stored in the whole -/
  placed : ∀ {follow v w}, place follow v = .ok w → ∃ x : Expanded, w = x.whole
    ∧ Placed (fun r u => follow r = .ok u) (· ∈ besides v) v x.value
    ∧ ∀ e ∈ x.excess, Extra (fun r u => follow r = .ok u) (· ∈ besides v) e
  /-- a value without references is not refused -/
  refused : ∀ {follow v e}, place follow v = .error e → references v ≠ []
  /-- no other references are looked up than those in the value -/
  inside : ∀ {follow follow' v}, (∀ r ∈ references v, follow r = follow' r) →
    place follow v = place follow' v

/-! ## §3. No reference is left. -/

theorem forall_mem_insert {A B : Value → Prop} (h : ∀ e ∈ es, A e.1 ∧ B e.2) (hk : A k) (hv : B v) :
    ∀ e ∈ Entries.insert k v es, A e.1 ∧ B e.2 := by
  induction es with
  | nil => exact List.forall_mem_singleton.mpr ⟨hk, hv⟩
  | cons e es ih =>
      rw [List.forall_mem_cons] at h
      rw [Entries.insert]
      split
      next => exact List.forall_mem_cons.mpr ⟨⟨h.1.1, hv⟩, h.2⟩
      next => exact List.forall_mem_cons.mpr ⟨h.1, ih h.2⟩

/-- **What is made of values without references has none.** -/
theorem Made.references (h : Made leads v) (led : ∀ r u, leads r u → references u = []) :
    Specification.references v = [] := by
  induction h with
  | free h => exact h
  | led h => exact led _ _ h
  | list _ ih => exact references_list_eq_nil_iff.mpr ih
  | mapping names _ ih =>
      exact references_mapping_eq_nil_iff.mpr fun e mem => ⟨names e mem, ih e mem⟩
  | stored _ name _ into value =>
      exact references_mapping_eq_nil_iff.mpr
        (forall_mem_insert (A := (· ≠ .str "$ref")) (B := fun v => Specification.references v = [])
          (references_mapping_eq_nil_iff.mp into) name value)

theorem Made.storeAll {n : Option Nat} (into : Made leads (.mapping (p := n) es))
    (extra : ∀ e ∈ more, Extra leads loose e) :
    Made leads (.mapping (p := n) (Specification.storeAll more es)) := by
  induction more generalizing es with
  | nil => exact into
  | cons e more ih =>
      rw [List.forall_mem_cons] at extra
      exact ih (.stored into extra.1.name extra.1.made) extra.2

theorem Made.whole {x : Expanded} (value : Made leads x.value)
    (extra : ∀ e ∈ x.excess, Extra leads loose e) : Made leads x.whole := by
  obtain ⟨v, excess⟩ := x
  cases v with
  | mapping es => exact value.storeAll extra
  | _ => exact value

theorem get?_eq_none_iff {name : String} :
    Entries.get? name es = none ↔ ∀ e ∈ es, e.1 ≠ .str name := by
  rw [Entries.get?, Entries.find?, Option.map_eq_none_iff, List.find?_eq_none]
  exact forall₂_congr fun e _ => not_congr Value.sameKey_str_iff

theorem Placed.made (h : Placed leads loose v w) : Made leads w := by
  induction h with
  | free h => exact .free h
  | @list xs ys length _ ih =>
      refine .list fun y hy => ?_
      obtain ⟨i, item⟩ := List.mem_iff_getElem?.mp hy
      have within : i < xs.length := by
        rw [← length]
        exact (List.getElem?_eq_some_iff.mp item).1
      exact ih i _ y (List.getElem?_eq_getElem within) item
  | @mapping _ es fs more plain keys _ extra ih =>
      refine (Made.mapping (fun e he => ?_) fun e he => ?_).storeAll extra
      · have key : e.1 ∈ es.map (·.1) := by
          rw [← keys]
          exact List.mem_map_of_mem he
        obtain ⟨d, hd, same⟩ := List.mem_map.mp key
        rw [← same]
        exact get?_eq_none_iff.mp plain d hd
      · obtain ⟨i, entry⟩ := List.mem_iff_getElem?.mp he
        have within : i < es.length := by
          rw [← List.length_map (·.1), ← keys, List.length_map]
          exact (List.getElem?_eq_some_iff.mp entry).1
        exact ih i _ e (List.getElem?_eq_getElem within) entry
  | reference _ led => exact .led led
  | beside _ led _ extra => exact (Made.led led).storeAll extra

/-! ## §4. Values without references. -/

mutual

theorem besides_of_free : ∀ v, references v = [] → besides v = []
  | .mapping es, h => by
      rw [references_mapping_eq_nil_iff] at h
      have absent : Entries.get? "$ref" es = none := get?_eq_none_iff.mpr fun e mem => (h e mem).1
      have own : Entries.contains "$ref" es = false := by rw [Entries.contains, absent]; rfl
      rw [besides, keysBeside, own, entryBesides_of_free es fun e mem => (h e mem).2]
      rfl
  | .list xs, h => by
      rw [besides]
      exact itemBesides_of_free xs (references_list_eq_nil_iff.mp h)
  | .tuple xs, h => by
      rw [besides]
      exact itemBesides_of_free xs (references_list_eq_nil_iff.mp h)
  | .null, _ => rfl
  | .bool _, _ => rfl
  | .int _, _ => rfl
  | .float _, _ => rfl
  | .str _, _ => rfl
  | .torn _, _ => rfl
  | .bytes _, _ => rfl
  | .date _, _ => rfl
  | .datetime _, _ => rfl
  | .set _, _ => rfl

theorem entryBesides_of_free : ∀ es : List (Value × Value),
    (∀ e ∈ es, references e.2 = []) → entryBesides es = []
  | [], _ => rfl
  | (k, v) :: es, h => by
      rw [List.forall_mem_cons] at h
      rw [entryBesides, besides_of_free v h.1, entryBesides_of_free es h.2]
      rfl

theorem itemBesides_of_free : ∀ xs : List Value, (∀ x ∈ xs, references x = []) →
    itemBesides xs = []
  | [], _ => rfl
  | x :: xs, h => by
      rw [List.forall_mem_cons] at h
      rw [itemBesides, besides_of_free x h.1, itemBesides_of_free xs h.2]
      rfl

end

theorem eq_nil_of_extra (none_loose : ∀ k, ¬ loose k) (extra : ∀ e ∈ more, Extra leads loose e) :
    more = [] :=
  List.eq_nil_iff_forall_not_mem.mpr fun e mem => none_loose e.1 (extra e mem).loose

/-- Nothing is put in the place of anything in a value without references. -/
theorem Placed.eq_of_free (h : Placed leads loose v w) (none_loose : ∀ k, ¬ loose k)
    (free : references v = []) : w = v := by
  have absurd_of_found : ∀ {n es r}, Entries.get? "$ref" es = some r →
      references (.mapping (p := n) es) = [] → False := fun found none_there =>
    (references_mapping_eq_nil_iff.mp none_there _ (Entries.mem_of_get? found)).1 rfl
  induction h with
  | free => rfl
  | @list xs ys length _ ih =>
      rw [references_list_eq_nil_iff] at free
      refine congrArg Value.list (List.ext_getElem length fun i new old => ?_)
      exact ih i _ _ (List.getElem?_eq_getElem old) (List.getElem?_eq_getElem new)
        (free _ (List.getElem_mem old))
  | @mapping _ es fs more _ keys _ extra ih =>
      rw [references_mapping_eq_nil_iff] at free
      rw [eq_nil_of_extra none_loose extra]
      have length : fs.length = es.length := by
        rw [← List.length_map (·.1), keys, List.length_map]
      refine congrArg Value.mapping (List.ext_getElem length fun i new old => ?_)
      have entry := List.getElem?_eq_getElem old
      have counterpart : fs[i]? = some fs[i] := List.getElem?_eq_getElem new
      have value := ih i _ _ entry counterpart (free _ (List.getElem_mem old)).2
      have key : fs[i].1 = es[i].1 := by
        have same := congrArg (·[i]?) keys
        rw [List.getElem?_map, List.getElem?_map, entry, counterpart] at same
        exact Option.some.inj same
      exact Prod.ext key value
  | reference there _ => exact (absurd_of_found there free).elim
  | beside there _ _ _ => exact (absurd_of_found there free).elim

/-! ## §5. Places of references. -/

/-- What stands at a place is out of reach for what is stored beside references. -/
structure Clear (v : Value) (p : List Step) : Prop where
  names : ∀ k, .key k ∈ p → k ≠ .str "$ref" ∧ ∀ l ∈ besides v, k.sameKey l = false
  whole : p = [] → besides v = []

theorem find?_storeAll (apart : ∀ e ∈ more, k.sameKey e.1 = false) (es : Entries) :
    Entries.find? k (storeAll more es) = Entries.find? k es := by
  induction more generalizing es with
  | nil => rfl
  | cons e more ih =>
      rw [List.forall_mem_cons] at apart
      exact (ih apart.2 _).trans (Entries.find?_insert_of_not_sameKey apart.1 e.2 es)

/-- Extras under other names than the first of a place change nothing there. -/
theorem valueAt_storeAll {step : Step} {n : Option Nat}
    (apart : ∀ k, step = .key k → ∀ e ∈ more, k.sameKey e.1 = false) :
    valueAt (step :: p) (.mapping (p := n) (storeAll more es))
      = valueAt (step :: p) (.mapping (p := n) es) := by
  cases step with
  | item i => rfl
  | key k =>
      show (Entries.find? k (storeAll more es)).bind _ = (Entries.find? k es).bind _
      rw [find?_storeAll (apart k rfl)]

/-- An entry has a counterpart among entries with the same keys. -/
theorem exists_counterpart_of_find? (keys : fs.map (·.1) = es.map (·.1))
    (found : Entries.find? k es = some u) :
    ∃ (i : Nat) (d e : Value × Value), es[i]? = some d ∧ fs[i]? = some e ∧ d.2 = u
      ∧ Entries.find? k fs = some e.2 := by
  induction es generalizing fs with
  | nil => exact absurd found (by simp [Entries.find?])
  | cons d es ih =>
      cases fs with
      | nil => exact absurd keys (by simp)
      | cons e fs =>
          obtain ⟨l, w⟩ := d
          obtain ⟨l', w'⟩ := e
          obtain ⟨same, others⟩ := List.cons.inj keys
          have same : l' = l := same
          subst same
          cases here : k.sameKey l' with
          | true =>
              rw [Entries.find?_cons_of_sameKey here, Option.some.injEq] at found
              exact ⟨0, _, _, rfl, rfl, found, Entries.find?_cons_of_sameKey here⟩
          | false =>
              rw [Entries.find?_cons_of_not_sameKey here] at found
              obtain ⟨i, d, e, old, new, value, found⟩ := ih others found
              exact ⟨i + 1, d, e, old, new, value,
                (Entries.find?_cons_of_not_sameKey here).trans found⟩

/-- No place of a reference lies beyond a reference: what stands beside one is loose. -/
theorem not_stands_beyond {step : Step} {n : Option Nat} (there : Entries.get? "$ref" es = some u)
    (within : ∀ l ∈ besides (.mapping (p := n) es), loose l)
    (names : ∀ k, step = .key k → k ≠ .str "$ref" ∧ ∀ l, loose l → k.sameKey l = false) :
    ¬ Stands r (step :: p) (.mapping (p := n) es) := by
  intro stands
  obtain ⟨x, first, rest⟩ := stands_cons_iff.mp stands
  obtain ⟨k, rfl, entry⟩ := stepAt_mapping first
  obtain ⟨other, apart⟩ := names k rfl
  obtain ⟨l, mem, same⟩ := Entries.exists_mem_of_find? entry
  have name : l ≠ .str "$ref" := by
    rintro rfl
    exact other (Value.sameKey_str_iff.mp (Value.sameKey_symm same))
  have here : Entries.contains "$ref" es = true := by rw [Entries.contains, there]; rfl
  have beside : l ∈ besides (.mapping (p := n) es) := by
    rw [besides]
    exact List.mem_append_left _
      (mem_keysBeside here mem name (List.ne_nil_of_mem rest.mem_references))
  rw [apart l (within l beside)] at same
  exact Bool.false_ne_true same

/-- **What stands at the place of a reference is what it leads to**, maybe with extras if that is a
mapping with entries. -/
theorem Placed.exists_valueAt (h : Placed leads loose v w) (within : ∀ l ∈ besides v, loose l)
    (names : ∀ k, .key k ∈ p → k ≠ .str "$ref" ∧ ∀ l, loose l → k.sameKey l = false)
    (stands : Stands r p v) :
    ∃ u, leads r u ∧ (valueAt p w = some u ∨ ∃ n fs more, u = .mapping (p := n) fs ∧ fs ≠ []
      ∧ (∀ e ∈ more, Extra leads loose e)
      ∧ valueAt p w = some (.mapping (p := n) (storeAll more fs))) := by
  -- along what has been put in the place of what; where a mapping gives way, the place must end
  induction h generalizing p with
  | free h => exact absurd stands.mem_references (by rw [h]; exact List.not_mem_nil)
  | @list xs ys length _ ih =>
      cases p with
      | nil =>
          obtain ⟨_, fs, same, _⟩ := stands
          exact absurd same (by simp [valueAt])
      | cons step p =>
          obtain ⟨x, first, rest⟩ := stands_cons_iff.mp stands
          obtain ⟨i, rfl, item⟩ := stepAt_list first
          have inside : i < ys.length := by
            rw [length]
            exact (List.getElem?_eq_some_iff.mp item).1
          have counterpart := List.getElem?_eq_getElem inside
          have deeper : ∀ l ∈ besides x, loose l := fun l hl =>
            within l (by rw [besides]; exact mem_itemBesides (List.mem_of_getElem? item) hl)
          rw [valueAt, stepAt, counterpart, Option.bind_some]
          exact ih i x _ item counterpart deeper
            (fun k mem => names k (List.mem_cons_of_mem _ mem)) rest
  | @mapping _ es fs more plain keys _ extra ih =>
      cases p with
      | nil =>
          rw [stands_nil_iff.mp stands] at plain
          exact absurd plain (by simp)
      | cons step p =>
          obtain ⟨x, first, rest⟩ := stands_cons_iff.mp stands
          obtain ⟨k, rfl, entry⟩ := stepAt_mapping first
          obtain ⟨i, d, e, old, new, rfl, counterpart⟩ := exists_counterpart_of_find? keys entry
          have deeper : ∀ l ∈ besides d.2, loose l := fun l hl => by
            refine within l ?_
            rw [besides]
            exact List.mem_append_right _ (mem_entryBesides (List.mem_of_getElem? old) hl)
          have apart : ∀ l, Step.key k = .key l → ∀ d ∈ more, l.sameKey d.1 = false := by
            rintro l ⟨⟩ d hd
            exact (names k List.mem_cons_self).2 d.1 (extra d hd).loose
          rw [valueAt_storeAll apart, valueAt, stepAt, counterpart, Option.bind_some]
          exact ih i d e old new deeper (fun l mem => names l (List.mem_cons_of_mem _ mem)) rest
  | reference there led =>
      cases p with
      | nil =>
          rw [stands_nil_iff.mp stands, Option.some.injEq] at there
          rw [there]
          exact ⟨_, led, Or.inl rfl⟩
      | cons step p =>
          exact absurd stands
            (not_stands_beyond there within fun k same => names k (same ▸ List.mem_cons_self))
  | beside there led some extra =>
      cases p with
      | nil =>
          rw [stands_nil_iff.mp stands, Option.some.injEq] at there
          rw [there]
          exact ⟨_, led, Or.inr ⟨_, _, _, rfl, some, extra, rfl⟩⟩
      | cons step p =>
          exact absurd stands
            (not_stands_beyond there within fun k same => names k (same ▸ List.mem_cons_self))

end ApiTools.Specification
