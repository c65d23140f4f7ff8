/-
  ApiTools.Proofs.Parameter.Merging
  ─────────────────────────────────
  **ONE PARAMETER FOR EACH NAME AND LOCATION.**

  `Parameter.merge` goes through the declarations of a path and of one of its
  operations.  `Merged` is what stays true of the declarations it keeps: each
  has a name and one of the four locations, and no two have the same ones.
  Considering one more declaration either passes it over or keeps it
  (`cases_of_consider`).  That preserves the invariant (`merged_consider`), so
  it holds of what is kept in the end (`exists_merged_of_merge`).

  A kept declaration is therefore read as a parameter without a fault
  (`mapM_ofOpenApi`), and the parameters of an operation inherit all of it
  (`Merged.distinct_parameters`, `Merged.located_parameters`).
-/
import ApiTools.Parameter
import ApiTools.Proofs.Value.Entries
import ApiTools.Proofs.Value.Key

namespace ApiTools.Parameter

/-! ## §1. What is kept. -/

/-- The name that a declaration states. -/
def declaredName (es : Entries) : Value := (Entries.get? "name" es).getD .null

/-- The location that a declaration states; the query if it states none. -/
def declaredLocation (es : Entries) : Value := (Entries.get? "in" es).getD (.str "query")

/-- Declarations stand under a key that says their name and location. -/
structure Kept.Sound (k : Kept) (es : Entries) : Prop where
  declaration_eq : ∃ p, k.declaration = .mapping (p := p) es
  named : (declaredName es).truthy = true
  /-- the key has the name of the first of the declarations that it stood for, which is this one's
  or the same key -/
  name_eq : declaredName es = k.name ∨ (declaredName es).sameKey k.name = true
  location_eq : declaredLocation es = k.location
  located : ∃ l ∈ locations, k.location = .str l

/-- What is true of the declarations that are kept. -/
structure Merged (kept : List Kept) : Prop where
  sound : ∀ k ∈ kept, ∃ es, k.Sound es
  distinct : kept.Pairwise fun a b => a.sameAs b = false

theorem merged_nil : Merged [] where
  sound := by
    intro k mem
    exact absurd mem (List.not_mem_nil)
  distinct := List.Pairwise.nil

theorem isSupported_eq_true_iff {location : Value} :
    isSupported location = true ↔ ∃ l ∈ locations, location = .str l := by
  unfold isSupported
  rw [List.any_eq_true]
  simp only [Value.isText_eq_true_iff]

/-- Two keys are the same if their names are the same key and their locations are equal. -/
theorem Kept.sameAs_iff {a b : Kept} (located : ∃ l ∈ locations, a.location = .str l) :
    a.sameAs b = true ↔ a.name.sameKey b.name = true ∧ a.location = b.location := by
  obtain ⟨l, _, location⟩ := located
  unfold sameAs
  rw [Bool.and_eq_true, location, Value.sameKey_str_iff, eq_comm (b := Value.str l)]

theorem Kept.sameAs_symm {a b : Kept} (h : a.sameAs b = true) : b.sameAs a = true := by
  unfold sameAs at h ⊢
  rw [Bool.and_eq_true] at h ⊢
  exact ⟨Value.sameKey_symm h.1, Value.sameKey_symm h.2⟩

/-! ## §2. Keeping one more. -/

/-- A newer declaration takes the place of one with the same name and location. -/
theorem Kept.Sound.replace {d e : Kept} {ds es : Entries} (hd : d.Sound ds) (he : e.Sound es)
    (same : d.sameAs e = true) : Sound { e with declaration := d.declaration } ds := by
  rw [sameAs_iff hd.located] at same
  obtain ⟨names, locations_eq⟩ := same
  constructor
  case declaration_eq => exact hd.declaration_eq
  case named => exact hd.named
  case name_eq =>
    right
    rcases hd.name_eq with equal | key
    · rw [equal]
      exact names
    · exact Value.sameKey_trans key names
  case location_eq => exact hd.location_eq.trans locations_eq
  case located => exact he.located

/-- Whatever is kept beside a new declaration was there or has its name and location. -/
theorem mem_keep {d k : Kept} {kept : List Kept} (h : k ∈ keep d kept) :
    k = d ∨ k ∈ kept
      ∨ ∃ e ∈ kept, d.sameAs e = true ∧ k = { e with declaration := d.declaration } := by
  induction kept with
  | nil => exact Or.inl (List.mem_singleton.mp h)
  | cons e rest ih =>
      rw [keep] at h
      split at h
      next same =>
        right
        rcases List.mem_cons.mp h with rfl | h
        · exact Or.inr ⟨e, List.mem_cons_self, same, rfl⟩
        · exact Or.inl (List.mem_cons_of_mem e h)
      next =>
        rcases List.mem_cons.mp h with rfl | h
        · exact Or.inr (Or.inl List.mem_cons_self)
        · rcases ih h with new | old | ⟨e', mem, same, replaced⟩
          · exact Or.inl new
          · exact Or.inr (Or.inl (List.mem_cons_of_mem e old))
          · exact Or.inr (Or.inr ⟨e', List.mem_cons_of_mem e mem, same, replaced⟩)

/-- Only the names and locations count, and those that stand stay. -/
theorem sameAs_keep {a d : Kept} {kept : List Kept} (other : ∀ k ∈ kept, a.sameAs k = false)
    (new : a.sameAs d = false) : ∀ k ∈ keep d kept, a.sameAs k = false := by
  intro k mem
  rcases mem_keep mem with rfl | old | ⟨e, he, _, rfl⟩
  · exact new
  · exact other k old
  · exact other e he

theorem pairwise_keep {d : Kept} {kept : List Kept}
    (distinct : kept.Pairwise fun a b => a.sameAs b = false) :
    (keep d kept).Pairwise fun a b => a.sameAs b = false := by
  induction kept with
  | nil => exact List.pairwise_singleton _ _
  | cons e rest ih =>
      rw [List.pairwise_cons] at distinct
      obtain ⟨first, rest_distinct⟩ := distinct
      rw [keep]
      split
      next => exact List.pairwise_cons.mpr ⟨first, rest_distinct⟩
      next other =>
        -- the newcomer was compared with `e` from its own side
        have new : e.sameAs d = false := by
          rw [Bool.eq_false_iff]
          exact fun same => other (Kept.sameAs_symm same)
        exact List.pairwise_cons.mpr ⟨sameAs_keep first new, ih rest_distinct⟩

theorem merged_keep {d : Kept} {ds : Entries} {kept : List Kept} (hd : d.Sound ds)
    (h : Merged kept) : Merged (keep d kept) where
  sound := by
    intro k mem
    rcases mem_keep mem with rfl | old | ⟨e, he, same, rfl⟩
    · exact ⟨ds, hd⟩
    · exact h.sound k old
    · obtain ⟨es, sound⟩ := h.sound e he
      exact ⟨ds, hd.replace sound same⟩
  distinct := pairwise_keep h.distinct

/-! ## §3. All declarations. -/

/-- Considering a declaration passes it over or keeps it, and keeps only what has a name that can
be a key and a location that there is. -/
theorem cases_of_consider {method path : String} {kept kept' : List Kept} {declaration : Value}
    (done : (consider method path kept declaration).outcome = .ok kept') :
    ∃ p es, declaration = .mapping (p := p) es
      ∧ (kept' = kept
        ∨ ((declaredName es).truthy = true ∧ isSupported (declaredLocation es) = true
          ∧ (declaredName es).hashable = true
          ∧ kept' = keep ⟨declaredName es, declaredLocation es, .mapping (p := p) es⟩ kept)) := by
  unfold consider at done
  simp only [Reported.outcome_bind, Reported.outcome_ofExcept] at done
  obtain ⟨name, stated, done⟩ := bind_eq_ok.mp done
  obtain ⟨p, es, rfl, rfl⟩ := Value.field_eq_ok_iff.mp stated
  have location : locationOf (.mapping (p := p) es) = .ok (declaredLocation es) := rfl
  rw [location, ok_bind] at done
  refine ⟨p, es, rfl, ?_⟩
  split at done
  next =>
    injection done with done
    exact Or.inl done.symm
  next named =>
    split at done
    next =>
      injection done with done
      exact Or.inl done.symm
    next supported =>
      split at done
      next => exact absurd done (by simp)
      next hashable =>
        injection done with done
        rw [Bool.not_eq_true', Bool.not_eq_false] at named supported hashable
        exact Or.inr ⟨named, supported, hashable, done.symm⟩

theorem merged_consider {method path : String} {kept kept' : List Kept} {declaration : Value}
    (h : Merged kept) (done : (consider method path kept declaration).outcome = .ok kept') :
    Merged kept' := by
  obtain ⟨p, es, rfl, rfl | ⟨named, supported, _, rfl⟩⟩ := cases_of_consider done
  · exact h
  · exact merged_keep ⟨⟨p, rfl⟩, named, Or.inl rfl, rfl, isSupported_eq_true_iff.mp supported⟩ h

theorem merged_considerAll {method path : String} {kept kept' : List Kept} {ds : List Value}
    (h : Merged kept) (done : (considerAll method path kept ds).outcome = .ok kept') :
    Merged kept' := by
  induction ds generalizing kept with
  | nil =>
      injection done with done
      exact done ▸ h
  | cons d ds ih =>
      rw [considerAll, Reported.outcome_bind] at done
      obtain ⟨next, first, done⟩ := bind_eq_ok.mp done
      exact ih (merged_consider h first) done

/-- **What is merged has one declaration for each name and location.** -/
theorem exists_merged_of_merge {common own path : Value} {method : String} {ds : List Value}
    (h : (merge common own method path).outcome = .ok ds) :
    ∃ kept, Merged kept ∧ ds = kept.map (·.declaration) := by
  unfold merge at h
  simp only [Reported.outcome_bind, Reported.outcome_ofExcept] at h
  obtain ⟨_, _, h⟩ := bind_eq_ok.mp h
  obtain ⟨_, _, h⟩ := bind_eq_ok.mp h
  obtain ⟨kept, considered, h⟩ := bind_eq_ok.mp h
  obtain ⟨_, _, h⟩ := bind_eq_ok.mp h
  refine ⟨kept, merged_considerAll merged_nil considered, ?_⟩
  split at h
  all_goals
    injection h with h
    exact h.symm

/-! ## §4. Where declarations come from. -/

/-- A declaration whose name can be a key. -/
def KeyNamed (declaration : Value) : Prop :=
  ∀ name, declaration.field "name" = .ok name → name.hashable = true

/-- A declaration is only kept if its name can be a key. -/
theorem forall_of_consider {P : Value → Prop} {method path : String} {kept kept' : List Kept}
    {declaration : Value} (before : ∀ k ∈ kept, P k.declaration)
    (new : KeyNamed declaration → P declaration)
    (done : (consider method path kept declaration).outcome = .ok kept') :
    ∀ k ∈ kept', P k.declaration := by
  obtain ⟨p, es, rfl, rfl | ⟨_, _, hashable, rfl⟩⟩ := cases_of_consider done
  · exact before
  · have key_named : KeyNamed (.mapping (p := p) es) := by
      intro other field
      have name : (Value.mapping (p := p) es).field "name" = .ok (declaredName es) := rfl
      rw [name] at field
      injection field with field
      exact field ▸ hashable
    intro k mem
    -- a declaration that takes the place of another is the new one
    rcases mem_keep mem with rfl | old | ⟨e, _, _, rfl⟩
    · exact new key_named
    · exact before k old
    · exact new key_named

theorem forall_of_considerAll {P : Value → Prop} {method path : String} {kept kept' : List Kept}
    {ds : List Value} (before : ∀ k ∈ kept, P k.declaration) (each : ∀ d ∈ ds, KeyNamed d → P d)
    (done : (considerAll method path kept ds).outcome = .ok kept') :
    ∀ k ∈ kept', P k.declaration := by
  induction ds generalizing kept with
  | nil =>
      injection done with done
      exact done ▸ before
  | cons d ds ih =>
      rw [considerAll, Reported.outcome_bind] at done
      obtain ⟨next, first, done⟩ := bind_eq_ok.mp done
      rw [List.forall_mem_cons] at each
      exact ih (forall_of_consider before each.1 first) each.2 done

/-- **What is merged was declared by the path or the operation, under a name that can be a
key.** -/
theorem declared_of_merge {common own path : Value} {method : String} {ds : List Value}
    (h : (merge common own method path).outcome = .ok ds) :
    ∃ declared added, common.elements = .ok declared ∧ own.elements = .ok added
      ∧ ∀ d ∈ ds, d ∈ declared ++ added ∧ KeyNamed d := by
  unfold merge at h
  simp only [Reported.outcome_bind, Reported.outcome_ofExcept] at h
  obtain ⟨declared, of_path, h⟩ := bind_eq_ok.mp h
  obtain ⟨added, of_operation, h⟩ := bind_eq_ok.mp h
  obtain ⟨kept, considered, h⟩ := bind_eq_ok.mp h
  obtain ⟨_, _, h⟩ := bind_eq_ok.mp h
  have from_both := forall_of_considerAll (P := fun d => d ∈ declared ++ added ∧ KeyNamed d)
    (fun k mem => absurd mem List.not_mem_nil) (fun d mem named => ⟨mem, named⟩) considered
  have ds_eq : ds = kept.map (·.declaration) := by
    split at h
    all_goals
      injection h with h
      exact h.symm
  refine ⟨declared, added, of_path, of_operation, fun d mem => ?_⟩
  rw [ds_eq] at mem
  obtain ⟨k, hk, rfl⟩ := List.mem_map.mp mem
  exact from_both k hk

/-! ## §5. Parameters. -/

/-- The parameter that a declaration stands for. -/
def ofEntries (es : Entries) : Parameter where
  name := declaredName es
  location := declaredLocation es
  required :=
    (declaredLocation es).isText "path" || ((Entries.get? "required" es).getD .null).truthy

/-- The parameter of a kept declaration. -/
def Kept.parameter (k : Kept) : Parameter := ofEntries k.declaration.entries

section Reading

variable {k : Kept} {es : Entries}

theorem Kept.Sound.parameter_eq (h : k.Sound es) : k.parameter = ofEntries es := by
  obtain ⟨_, declaration⟩ := h.declaration_eq
  unfold parameter
  rw [declaration]
  rfl

theorem Kept.Sound.part_name (h : k.Sound es) :
    k.declaration.part "name" = .ok k.parameter.name := by
  have stated : Entries.get? "name" es = some (declaredName es) := by
    have named := h.named
    unfold declaredName at named ⊢
    cases found : Entries.get? "name" es with
    | none =>
        rw [found] at named
        exact absurd named Bool.false_ne_true
    | some name => rfl
  obtain ⟨_, declaration⟩ := h.declaration_eq
  rw [h.parameter_eq, declaration, Value.part, stated]
  rfl

theorem Kept.Sound.ofOpenApi (h : k.Sound es) :
    Parameter.ofOpenApi k.declaration = .ok k.parameter := by
  obtain ⟨_, declaration⟩ := h.declaration_eq
  have location : locationOf k.declaration = .ok (declaredLocation es) := by
    rw [declaration]
    rfl
  have required : k.declaration.field "required"
      = .ok ((Entries.get? "required" es).getD .null) := by
    rw [declaration]
    rfl
  unfold Parameter.ofOpenApi
  rw [location, required, h.part_name, h.parameter_eq]
  unfold ofEntries
  simp only [ok_bind, map_ok]
  cases (declaredLocation es).isText "path" <;> rfl

end Reading

variable {kept : List Kept}

/-- Kept declarations are read without a fault. -/
theorem mapM_ofOpenApi (h : Merged kept) :
    (kept.map (·.declaration)).mapM ofOpenApi = .ok (kept.map (·.parameter)) := by
  have read : ∀ ks : List Kept, (∀ k ∈ ks, k ∈ kept) →
      (ks.map (·.declaration)).mapM ofOpenApi = .ok (ks.map (·.parameter)) := by
    intro ks
    induction ks with
    | nil => exact fun _ => rfl
    | cons k ks ih =>
        intro sub
        obtain ⟨es, sound⟩ := h.sound k (sub k List.mem_cons_self)
        rw [List.map_cons, List.mapM_cons, sound.ofOpenApi,
          ih fun k' mem => sub k' (List.mem_cons_of_mem k mem)]
        rfl
  exact read kept fun _ => id

/-- No two parameters have the same name and location. -/
theorem Merged.distinct_parameters (h : Merged kept) :
    (kept.map (·.parameter)).Pairwise fun p q =>
      p.name.sameKey q.name = true → p.location ≠ q.location := by
  rw [List.pairwise_map]
  refine h.distinct.imp_of_mem ?_
  intro a b ha hb other names locations_eq
  obtain ⟨es, a_sound⟩ := h.sound a ha
  obtain ⟨fs, b_sound⟩ := h.sound b hb
  rw [a_sound.parameter_eq, b_sound.parameter_eq] at names locations_eq
  -- the names of the parameters are those of the last declarations, and the names under which
  -- they are kept are those of the first; all four would be the same key
  have from_a : a.name.sameKey (declaredName fs) = true := by
    rcases a_sound.name_eq with equal | key
    · rw [← equal]
      exact names
    · exact Value.sameKey_trans (Value.sameKey_symm key) names
  have keys : a.name.sameKey b.name = true := by
    rcases b_sound.name_eq with equal | key
    · rw [← equal]
      exact from_a
    · exact Value.sameKey_trans from_a key
  have places : a.location = b.location := by
    rw [← a_sound.location_eq, ← b_sound.location_eq]
    exact locations_eq
  have same : a.sameAs b = true := (Kept.sameAs_iff a_sound.located).mpr ⟨keys, places⟩
  rw [other] at same
  exact Bool.false_ne_true same

theorem Merged.located_parameters (h : Merged kept) :
    ∀ p ∈ kept.map (·.parameter), ∃ l ∈ locations, p.location = .str l := by
  intro p mem
  obtain ⟨k, hk, rfl⟩ := List.mem_map.mp mem
  obtain ⟨es, sound⟩ := h.sound k hk
  rw [sound.parameter_eq]
  obtain ⟨l, hl, location⟩ := sound.located
  exact ⟨l, hl, sound.location_eq.trans location⟩

/-- A path parameter is required, whatever its declaration says. -/
theorem Kept.required_of_path (k : Kept) (h : k.parameter.location = .str "path") :
    k.parameter.required = true := by
  have location : declaredLocation k.declaration.entries = .str "path" := h
  unfold parameter ofEntries
  rw [location]
  rfl

end ApiTools.Parameter
