/-
  ApiTools.Proofs.Specification.Termination
  ─────────────────────────────────────────
  **RESOLVING REFERENCES ENDS.**

  References nest: what a reference leads to has references, files have
  references to files, and a reference may lead to what it stands in.  But a
  target that is being resolved is not resolved again below itself, and there
  are finitely many targets: the documents are the main one and the files, and
  the steps are those of URLs that are written in these documents
  (`Bounded`).  So every level that references lead to has one more target
  above it than the level before, and there are no more levels than targets
  (`Bounded.acc`, `Bounded.resolveIn_add`).

  That the documents are finitely many has a reason too: what can be read at a
  path without two points stands in the tree of files under the names of that
  path.
-/
import ApiTools.Proofs.Files
import ApiTools.Proofs.Specification.Placing

namespace ApiTools.Specification

/-! ## §1. Paths of URLs. -/

namespace Link

theorem mem_takeName {names : List String} {name n : String} (mem : n ∈ takeName names name) :
    (n = name ∧ n ≠ "..") ∨ n ∈ names := by
  unfold takeName at mem
  split at mem
  next => exact Or.inr (List.mem_of_mem_tail mem)
  next down =>
    rcases List.mem_cons.mp mem with rfl | mem
    · exact Or.inl ⟨rfl, down⟩
    · exact Or.inr mem

/-- A path without two points has some of the names of the path, and no two points. -/
theorem mem_normalNames {names : List String} {n : String} (mem : n ∈ normalNames names) :
    n ∈ names ∧ n ≠ ".." := by
  have run : ∀ (names acc : List String), n ∈ names.foldl takeName acc →
      (n ∈ names ∧ n ≠ "..") ∨ n ∈ acc := by
    intro names
    induction names with
    | nil => exact fun acc mem => Or.inr mem
    | cons name names ih =>
        intro acc mem
        rcases ih _ mem with ⟨later, down⟩ | now
        · exact Or.inl ⟨List.mem_cons_of_mem name later, down⟩
        · rcases mem_takeName now with ⟨rfl, down⟩ | before
          · exact Or.inl ⟨List.mem_cons_self, down⟩
          · exact Or.inr before
  rcases run names [] (List.mem_reverse.mp mem) with found | nothing
  · exact found
  · exact absurd nothing List.not_mem_nil

theorem steps_inDocument (base l : Link) : (inDocument base l).steps = l.steps := by
  unfold inDocument
  split
  next => rfl
  next =>
    split
    next => rfl
    next =>
      split
      next => rfl
      next => rfl

/-- The document of a URL of a file is the one that it stands in, or it is told by the path that is
written or by one that starts from the folder of that document. -/
theorem resource_inDocument {base l : Link} (h : (inDocument base l).scheme = "file") :
    (inDocument base l).resource = base.resource
      ∨ (inDocument base l).resource.host = l.host
        ∧ ((inDocument base l).resource.path = l.path
          ∨ (inDocument base l).resource.path
            = fromRoot (normalNames (folder base.resource ++ Files.pathNames l.path))) := by
  unfold inDocument at h ⊢
  split at h
  next foreign => exact absurd h foreign.2
  next own =>
    rw [if_neg own]
    split at h
    next empty =>
      rw [if_pos empty]
      exact Or.inl rfl
    next some_path =>
      rw [if_neg some_path]
      split at h
      next absolute =>
        rw [if_pos absolute]
        exact Or.inr ⟨rfl, Or.inl rfl⟩
      next relative =>
        rw [if_neg relative]
        exact Or.inr ⟨rfl, Or.inr rfl⟩

end Link

/-! ## §2. Objects in documents. -/

variable {s : Sources} {reference v w : Value}

theorem mem_of_itemAt {α : Type} {i : Int} {xs : List α} {x : α} (h : itemAt i xs = .ok x) :
    x ∈ xs := by
  unfold itemAt at h
  split at h
  next => exact absurd h (by simp)
  next =>
    split at h
    next found =>
      injection h with h
      rw [← h]
      exact List.mem_of_getElem? found
    next => exact absurd h (by simp)

/-- What a step leads to is a part of the value, or has no references: a character, an octet. -/
theorem references_subset_of_stepInto {step : String} (h : stepInto step v = .ok w) :
    references w ⊆ references v := by
  unfold stepInto at h
  dsimp only at h
  split at h
  next es =>
    split at h
    next found =>
      injection h with h
      rw [← h]
      exact references_subset_of_partOf (.value (Entries.mem_of_get? found) .self)
    next => exact absurd h (by simp)
  next xs =>
    split at h
    next => exact references_subset_of_partOf (.item (mem_of_itemAt h) .self)
    next => exact absurd h (by simp)
  next xs =>
    split at h
    next => exact references_subset_of_partOf (.tupleItem (mem_of_itemAt h) .self)
    next => exact absurd h (by simp)
  next =>
    obtain ⟨c, _, made⟩ := map_eq_ok.mp h
    rw [← made]
    exact List.nil_subset _
  next =>
    obtain ⟨b, _, made⟩ := map_eq_ok.mp h
    rw [← made]
    exact List.nil_subset _
  next => exact absurd h (by simp)

theorem references_subset_of_objectAt {steps : List String} (found : objectAt steps v = .ok w) :
    references w ⊆ references v := by
  induction steps generalizing v with
  | nil =>
      injection found with found
      rw [← found, Value.orElse]
      split
      next => exact List.Subset.refl _
      next => exact List.nil_subset _
  | cons step steps ih =>
      rw [objectAt] at found
      obtain ⟨u, into, found⟩ := bind_eq_ok.mp found
      exact List.Subset.trans (ih found) (references_subset_of_stepInto into)

/-- The references of an object are references of its document. -/
theorem references_subset_of_object {steps : List String} (found : object steps v = .ok w) :
    references w ⊆ references v := by
  unfold object at found
  split at found
  next =>
    injection found with found
    rw [found]
    exact List.Subset.refl _
  next => exact references_subset_of_objectAt found

/-! ## §3. Known documents. -/

/-- What is read from a file is in the list of documents. -/
theorem mem_documents_of_read {path : String} {doc : Value}
    (h : readResource s.parse s.files path = .ok doc) : doc ∈ s.documents := by
  unfold readResource at h
  split at h
  next octets opened =>
    obtain ⟨here, item⟩ := Files.exists_item_of_read opened
    refine List.mem_cons_of_mem _ (List.mem_flatMap.mpr ⟨_, item, ?_⟩)
    refine List.mem_filterMap.mpr ⟨isJsonFile path, ?_, by rw [h]; rfl⟩
    cases isJsonFile path <;> simp
  next => exact absurd h (by simp)
  next => exact absurd h (by simp)

/-- The document of a resource is the main one or is read from its file. -/
theorem fetch_cases {r : Resource} (h : s.fetch r = .ok v) :
    (r = s.main ∧ v = s.document) ∨ readResource s.parse s.files r.path = .ok v := by
  unfold Sources.fetch at h
  split at h
  next same =>
    injection h with h
    exact Or.inl ⟨same, h.symm⟩
  next => exact Or.inr h

theorem mem_documents_of_fetch {r : Resource} (h : s.fetch r = .ok v) : v ∈ s.documents := by
  rcases fetch_cases h with ⟨_, rfl⟩ | read
  · exact List.mem_cons_self
  · exact mem_documents_of_read read

theorem mem_links {doc : Value} {t : String} {l : Link} (mem : doc ∈ s.documents)
    (written : .str t ∈ references doc) (parsed : Link.parse? t = some l) : l ∈ s.links :=
  List.mem_flatMap.mpr ⟨doc, mem, List.mem_filterMap.mpr ⟨.str t, written, parsed⟩⟩

/-- The documents that references can lead to. -/
def Sources.Knows (s : Sources) (r : Resource) : Prop :=
  r = s.main ∨ (∃ l ∈ s.links, l.host = r.host) ∧ r.path ∈ s.paths

theorem linkOf_eq_ok {base link : Link} (h : linkOf base reference = .ok link) :
    ∃ t l, reference = .str t ∧ Link.parse? t = some l ∧ link = Link.inDocument base l
      ∧ link.scheme = "file" := by
  unfold linkOf at h
  split at h
  next t =>
    split at h
    next l parsed =>
      dsimp only at h
      split at h
      next scheme =>
        injection h with h
        subst h
        exact ⟨t, l, rfl, parsed, rfl, scheme⟩
      next => exact absurd h (by simp)
    next => exact absurd h (by simp)
  next =>
    split at h
    next => exact absurd h (by simp)
    next => exact absurd h (by simp)

/-- A path from the folder of a document from which something is read is that of a file. -/
theorem mem_paths_of_read {base : Resource} {path : String} {octets : List UInt8}
    (h : s.files.read (Link.fromRoot (Link.normalNames (Link.folder base ++ Files.pathNames path)))
      = .ok octets) :
    Link.fromRoot (Link.normalNames (Link.folder base ++ Files.pathNames path)) ∈ s.paths := by
  have plain : ∀ n ∈ Link.normalNames (Link.folder base ++ Files.pathNames path),
      Files.PlainName n := by
    intro n mem
    rcases List.mem_append.mp (Link.mem_normalNames mem).1 with outer | own
    · exact Files.plainName_of_mem_pathNames (List.dropLast_subset _ outer)
    · exact Files.plainName_of_mem_pathNames own
  have item := Files.mem_items_of_read plain (fun n mem => (Link.mem_normalNames mem).2) h
  exact List.mem_append_left _ (List.mem_map.mpr ⟨_, item, rfl⟩)

/-- **A reference in a known document leads to a known document**, if there is one. -/
theorem knows_of_inDocument {base l : Link} (known : s.Knows base.resource) (written : l ∈ s.links)
    (scheme : (Link.inDocument base l).scheme = "file")
    (h : s.fetch (Link.inDocument base l).resource = .ok v) :
    s.Knows (Link.inDocument base l).resource := by
  rcases fetch_cases h with ⟨main, _⟩ | read
  · exact Or.inl main
  · rcases Link.resource_inDocument scheme with same | ⟨host, asWritten | relative⟩
    · rw [same]
      exact known
    · refine Or.inr ⟨⟨l, written, host.symm⟩, ?_⟩
      rw [asWritten]
      exact List.mem_append_right _ (List.mem_map_of_mem written)
    · refine Or.inr ⟨⟨l, written, host.symm⟩, ?_⟩
      unfold readResource at read
      split at read
      next octets opened =>
        rw [relative] at opened ⊢
        exact mem_paths_of_read opened
      next => exact absurd read (by simp)
      next => exact absurd read (by simp)

/-! ## §4. Targets. -/

/-- All targets that references can lead to, and maybe more. -/
def Sources.targets (s : Sources) : List Target :=
  (s.main :: s.links.flatMap fun l => s.paths.map fun path => ⟨l.host, path⟩).flatMap fun r =>
    s.links.map fun l => ⟨r, l.steps⟩

theorem length_targets (s : Sources) : s.targets.length = s.targetCount := by
  have products : ∀ {α β γ : Type} (xs : List α) (ys : List β) (f : α → β → γ),
      (xs.flatMap fun x => ys.map (f x)).length = xs.length * ys.length := by
    intro α β γ xs ys f
    induction xs with
    | nil => simp
    | cons x xs ih => simp [ih, Nat.add_mul, Nat.add_comm]
  rw [Sources.targets, products, List.length_cons, products, Nat.add_comm _ 1]
  rfl

theorem mem_targets {t : Target} (known : s.Knows t.resource)
    (h : ∃ l ∈ s.links, l.steps = t.steps) : t ∈ s.targets := by
  obtain ⟨l, written, steps⟩ := h
  refine List.mem_flatMap.mpr ⟨t.resource, ?_, List.mem_map.mpr ⟨l, written, by rw [steps]⟩⟩
  rcases known with main | ⟨⟨l', written', host⟩, path⟩
  · rw [main]
    exact List.mem_cons_self
  · refine List.mem_cons_of_mem _
      (List.mem_flatMap.mpr ⟨l', written', List.mem_map.mpr ⟨_, path, ?_⟩⟩)
    rw [host]

/-! ## §5. Levels. -/

/-- A value whose references are resolved: the URL of the document that it stands in, and the
targets that are being resolved. -/
structure Level where
  base : Link
  above : List Target
  value : Value

variable {x y : Level}

/-- A reference in a value leads to another value, which is resolved in its place. -/
inductive Leads (s : Sources) (x : Level) (reference : Value) : Level → Prop
  | intro {link : Link} {document found : Value} (url : linkOf x.base reference = .ok link)
      (fresh : link.target ∉ x.above) (fetched : s.fetch link.target.resource = .ok document)
      (there : object link.target.steps document = .ok found) :
      Leads s x reference ⟨link, link.target :: x.above, found⟩

/-- What is resolved stands in a known document, and so does all that is above it. -/
structure Bounded (s : Sources) (x : Level) : Prop where
  known : s.Knows x.base.resource
  links : ∀ t l, .str t ∈ references x.value → Link.parse? t = some l → l ∈ s.links
  nodup : x.above.Nodup
  targets : x.above ⊆ s.targets

/-- There are no more targets above than there are. -/
theorem Bounded.length_le (h : Bounded s x) : x.above.length ≤ s.targetCount := by
  rw [← length_targets]
  exact List.Nodup.length_le_of_subset h.nodup h.targets

/-- **Every level has one more target above it**, and is bounded as the one before. -/
theorem Bounded.leads (h : Bounded s x) (mem : reference ∈ references x.value)
    (leads : Leads s x reference y) : Bounded s y ∧ y.above.length = x.above.length + 1 := by
  cases leads with
  | @intro link document found url fresh fetched there =>
      obtain ⟨t, l, rfl, parsed, rfl, scheme⟩ := linkOf_eq_ok url
      have written : l ∈ s.links := h.links t l mem parsed
      have known := knows_of_inDocument h.known written scheme fetched
      refine ⟨⟨known, ?_, List.nodup_cons.mpr ⟨fresh, h.nodup⟩, ?_⟩, List.length_cons⟩
      case refine_1 =>
        intro t' l' mem' parsed'
        exact mem_links (mem_documents_of_fetch fetched) (references_subset_of_object there mem')
          parsed'
      case refine_2 =>
        exact List.cons_subset.mpr
          ⟨mem_targets known ⟨l, written, (Link.steps_inDocument x.base l).symm⟩, h.targets⟩

/-- The document that resolving starts with. -/
theorem bounded_start (s : Sources) (base : Link) (main : base.resource = s.main) :
    Bounded s ⟨base, [], s.document⟩ :=
  { known := Or.inl main
    links := fun _ _ mem parsed => mem_links List.mem_cons_self mem parsed
    nodup := List.nodup_nil
    targets := List.nil_subset _ }

/-! ## §6. The end. -/

/-- One value is resolved in the course of resolving another one. -/
def Expands (s : Sources) (y x : Level) : Prop :=
  ∃ reference ∈ references x.value, Leads s x reference y

/-- **Resolving gets to no level without end**: no value is the start of an infinite chain of values
each of which is resolved in the course of resolving the one before. -/
theorem Bounded.acc (h : Bounded s x) : Acc (Expands s) x := by
  induction left : s.targetCount - x.above.length using Nat.strongRecOn generalizing x with
  | ind n ih =>
      -- the targets that are not above get fewer
      refine Acc.intro x fun y expands => ?_
      obtain ⟨reference, mem, leads⟩ := expands
      obtain ⟨bounded, deeper⟩ := h.leads mem leads
      have room := bounded.length_le
      exact ih _ (by omega) bounded rfl

variable {place : Placing} {placeholder : Value}
variable {resolved resolved' : Link → List Target → Value → Except Fault Value}

/-- What a reference becomes: the placeholder if its target is above, else what the value that it
leads to becomes. -/
theorem follow_eq_ok (h : follow s placeholder resolved x.base x.above reference = .ok v) :
    (∃ link, linkOf x.base reference = .ok link ∧ link.target ∈ x.above ∧ v = placeholder)
      ∨ ∃ y, Leads s x reference y ∧ resolved y.base y.above y.value = .ok v := by
  unfold follow at h
  obtain ⟨link, url, h⟩ := bind_eq_ok.mp h
  dsimp only at h
  split at h
  next met =>
    injection h with h
    exact Or.inl ⟨link, url, List.contains_iff_mem.mp met, h.symm⟩
  next fresh =>
    obtain ⟨document, fetched, h⟩ := bind_eq_ok.mp h
    obtain ⟨found, there, h⟩ := bind_eq_ok.mp h
    exact Or.inr ⟨_,
      .intro url (fun met => fresh (List.contains_iff_mem.mpr met)) fetched there, h⟩

/-- What a reference becomes depends on nothing but what the value that it leads to becomes. -/
theorem follow_congr
    (same : ∀ y, Leads s x reference y →
      resolved y.base y.above y.value = resolved' y.base y.above y.value) :
    follow s placeholder resolved x.base x.above reference
      = follow s placeholder resolved' x.base x.above reference := by
  unfold follow
  cases url : linkOf x.base reference with
  | error e => rfl
  | ok link =>
      rw [ok_bind, ok_bind]
      dsimp only
      split
      next => rfl
      next fresh =>
        have fresh : link.target ∉ x.above := fun met => fresh (List.contains_iff_mem.mpr met)
        cases fetched : s.fetch link.target.resource with
        | error e => rfl
        | ok document =>
            rw [ok_bind, ok_bind]
            cases there : object link.target.steps document with
            | error e => rfl
            | ok found =>
                rw [ok_bind, ok_bind]
                exact same _ (.intro url fresh fetched there)

/-- **More fuel than targets changes nothing**, whichever library puts things in their places. -/
theorem Bounded.resolveIn_add (replaces : place.Replaces) (h : Bounded s x) {fuel : Nat}
    (enough : s.targetCount < fuel + x.above.length) (more : Nat) :
    resolveIn place s placeholder (fuel + more) x.base x.above x.value
      = resolveIn place s placeholder fuel x.base x.above x.value := by
  induction fuel generalizing x with
  | zero =>
      have room := h.length_le
      omega
  | succ fuel ih =>
      rw [Nat.add_right_comm, resolveIn, resolveIn]
      refine replaces.inside fun reference mem => follow_congr fun y leads => ?_
      obtain ⟨bounded, deeper⟩ := h.leads mem leads
      exact ih bounded (by rw [deeper]; omega)

end ApiTools.Specification
