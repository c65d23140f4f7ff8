/-
  ApiTools.Proofs.Specification.Dereferencing
  ───────────────────────────────────────────
  **WHAT RESOLVING REFERENCES GIVES.**

  Resolving ends, and if it has an answer then no reference is left in it, at
  whatever depth (`referenceFree_of_resolve`).  A reference that leads to what
  is being resolved already is cut off and has become an empty mapping
  (`valueAt_of_selfReference`).  A document without references stays as it is.

  That is put together in `Dereferenced`, for every library that replaces
  references; the one that is used does (`replaces_inPlaces`).  Since libraries
  are free to store around there what references beside a reference lead to, a
  place counts only if none of its names stands beside a reference (`Clear`).
  The one that is used does so, and at places that are not clear a reference
  that is cut off need not become an empty mapping (§5).
-/
import ApiTools.Proofs.Specification.InPlaces
import ApiTools.Proofs.Specification.Termination
import ApiTools.Specification.Load

namespace ApiTools.Specification

variable {place : Placing} {s : Sources} {x y : Level} {reference v w : Value} {p q : List Step}
variable {fuel : Nat}

/-! ## §1. No reference is left. -/

/-- **Resolving leaves no reference**: by induction on the levels, what a value becomes is made of
nothing but values without references. -/
theorem references_of_resolveIn (replaces : place.Replaces)
    (done : resolveIn place s placeholder fuel x.base x.above x.value = .ok w) :
    references w = [] := by
  induction fuel generalizing x w with
  | zero => exact absurd done (by simp [resolveIn])
  | succ fuel ih =>
      rw [resolveIn] at done
      obtain ⟨e, rfl, placed, extra⟩ := replaces.placed done
      refine (placed.made.whole extra).references fun r u led => ?_
      rcases follow_eq_ok led with ⟨_, _, _, rfl⟩ | ⟨y, _, inner⟩
      · rfl
      · exact ih inner

theorem referenceFree_of_resolve (replaces : place.Replaces) {parse : Parser} {files : Files}
    {file : String} {document : Value}
    (done : resolve place parse placeholder files file document = .ok w) : ReferenceFree w :=
  referenceFree_iff.mpr (references_of_resolveIn (x := ⟨_, [], document⟩) replaces done)

/-- **What is compiled has no reference.** -/
theorem referenceFree_of_resolvedFile (replaces : place.Replaces) {library : Library}
    {parse : Parser} (resolves : library.resolve = resolve place parse) {files : Files}
    {f : SpecificationFile} (h : Loaded.resolvedFile library files f = .ok w) :
    ReferenceFree w := by
  unfold Loaded.resolvedFile at h
  obtain ⟨document, _, h⟩ := bind_eq_ok.mp h
  obtain ⟨resolved, done, h⟩ := bind_eq_ok.mp h
  split at h
  next => exact absurd h (by simp)
  next =>
    injection h with h
    rw [resolves] at done
    rw [← h]
    exact referenceFree_of_resolve replaces done

/-! ## §2. References that are cut off. -/

theorem leads_unique {y' : Level} (h : Leads s x reference y) (h' : Leads s x reference y') :
    y = y' := by
  cases h with
  | intro url _ fetched there =>
      cases h' with
      | intro url' _ fetched' there' =>
          rw [url, Except.ok.injEq] at url'
          subst url'
          rw [fetched, Except.ok.injEq] at fetched'
          subst fetched'
          rw [there, Except.ok.injEq] at there'
          rw [there']

/-- A reference to what is being resolved leads to nothing else. -/
theorem not_leads_of_met {link : Link} (url : linkOf x.base reference = .ok link)
    (met : link.target ∈ x.above) : ¬ Leads s x reference y := by
  intro leads
  cases leads with
  | intro url' fresh _ _ =>
      rw [url, Except.ok.injEq] at url'
      subst url'
      exact fresh met

/-- At a place there is a reference to something that is being resolved, in the value itself or in
what a reference in it leads to; in each of these values, what is left of the place is as `fit`
says. -/
inductive SelfReference (s : Sources) (fit : Value → List Step → Prop) : Level → List Step → Prop
  | here {x : Level} {p : List Step} {reference : Value} {link : Link}
      (stands : Stands reference p x.value) (fits : fit x.value p)
      (url : linkOf x.base reference = .ok link) (met : link.target ∈ x.above) :
      SelfReference s fit x p
  | within {x y : Level} {p q : List Step} {reference : Value}
      (stands : Stands reference p x.value) (fits : fit x.value (p ++ q))
      (leads : Leads s x reference y) (inner : SelfReference s fit y q) :
      SelfReference s fit x (p ++ q)

/-- What is left over in the end changes nothing at a clear place. -/
theorem valueAt_whole {leads : Value → Value → Prop} {e : Expanded} (clear : Clear v p)
    (extra : ∀ d ∈ e.excess, Extra leads (· ∈ besides v) d) :
    valueAt p e.whole = valueAt p e.value := by
  obtain ⟨u, excess⟩ := e
  cases u with
  | mapping es =>
      cases p with
      | nil =>
          have none_loose : ∀ k, k ∉ besides v := fun k mem => by
            rw [clear.whole rfl] at mem
            exact List.not_mem_nil mem
          rw [show excess = [] from eq_nil_of_extra none_loose extra]
          rfl
      | cons step p =>
          exact valueAt_storeAll fun k same d hd =>
            (clear.names k (same ▸ List.mem_cons_self)).2 d.1 (extra d hd).loose
  | _ => rfl

/-- **A self-reference at a clear place becomes an empty mapping**, whichever library resolves
it. -/
theorem valueAt_of_selfReference (replaces : place.Replaces) (self : SelfReference s Clear x p)
    (done : resolveIn place s placeholder fuel x.base x.above x.value = .ok w) :
    valueAt p w = some (.mapping (p := none) []) := by
  induction self generalizing fuel w with
  | here stands clear url met =>
      cases fuel with
      | zero => exact absurd done (by simp [resolveIn])
      | succ fuel =>
          rw [resolveIn] at done
          obtain ⟨e, rfl, placed, extra⟩ := replaces.placed done
          rw [valueAt_whole clear extra]
          obtain ⟨u, led, there⟩ := placed.exists_valueAt (fun _ hl => hl) clear.names stands
          -- the target is being resolved already, so what stands there is the placeholder
          have empty : u = .mapping (p := none) [] := by
            rcases follow_eq_ok led with ⟨_, _, _, rfl⟩ | ⟨y, leads, _⟩
            · rfl
            · exact absurd leads (not_leads_of_met url met)
          rcases there with there | ⟨_, fs, _, same, some, _⟩
          · rw [there, empty]
          · rw [empty] at same
            cases same
            exact absurd rfl some
  | @within x y p q reference stands clear leads _ ih =>
      cases fuel with
      | zero => exact absurd done (by simp [resolveIn])
      | succ fuel =>
          rw [resolveIn] at done
          obtain ⟨e, rfl, placed, extra⟩ := replaces.placed done
          rw [valueAt_whole clear extra, valueAt_append]
          obtain ⟨u, led, there⟩ := placed.exists_valueAt (fun _ hl => hl)
            (fun k mem => clear.names k (List.mem_append_left q mem)) stands
          -- the rest of the place lies in what the reference leads to, where `ih` holds
          have inner : valueAt q u = some (.mapping (p := none) []) := by
            rcases follow_eq_ok led with ⟨_, url, met, _⟩ | ⟨y', leads', inner⟩
            · exact absurd leads (not_leads_of_met url met)
            · rw [leads_unique leads' leads] at inner
              exact ih inner
          rcases there with there | ⟨_, fs, more, rfl, some, stored, there⟩
          · rw [there]
            exact inner
          · -- what was stored beside has other names than the rest of the place
            rw [there]
            cases q with
            | nil =>
                cases inner
                exact absurd rfl some
            | cons step q =>
                refine (valueAt_storeAll fun k same d hd => ?_).trans inner
                exact (clear.names k (List.mem_append_right p (same ▸ List.mem_cons_self))).2 d.1
                  (stored d hd).loose

/-! ## §3. Resolving a document. -/

/-- The documents around one that stands in a file. -/
def sources (parse : Parser) (files : Files) (file : String) (document : Value) : Sources :=
  ⟨parse, files, (Link.ofFile files file).resource, document⟩

/-- What resolving a document that stands in a file starts with. -/
def start (files : Files) (file : String) (document : Value) : Level :=
  ⟨Link.ofFile files file, [], document⟩

/-- What is to be expected of resolving the references of a document. -/
structure Dereferenced (place : Placing) (parse : Parser) (files : Files) (file : String)
    (document : Value) : Prop where
  /-- references do not lead on without end, … -/
  ends : Acc (Expands (sources parse files file document)) (start files file document)
  /-- … so that more fuel gives nothing else -/
  settled : ∀ more, resolveIn place (sources parse files file document) placeholder
      ((sources parse files file document).targetCount + 1 + more) (Link.ofFile files file) []
      document
    = resolve place parse placeholder files file document
  /-- no mapping in an answer has a reference -/
  referenceFree : ∀ v, resolve place parse placeholder files file document = .ok v →
    ReferenceFree v
  /-- a reference that leads to what is being resolved has become an empty mapping, if its place is
  clear -/
  cutOff : ∀ v p, resolve place parse placeholder files file document = .ok v →
    SelfReference (sources parse files file document) Clear (start files file document) p →
      valueAt p v = some (.mapping (p := none) [])
  /-- a document without references is the answer -/
  unchanged : ReferenceFree document →
    resolve place parse placeholder files file document = .ok document

/-- A library leaves a value without references as it is. -/
theorem Placing.Replaces.unchanged (replaces : place.Replaces) (follow : Value → Except Fault Value)
    (free : references v = []) : place follow v = .ok v := by
  have none_beside : ∀ k, k ∉ besides v := fun k mem => by
    rw [besides_of_free v free] at mem
    exact List.not_mem_nil mem
  cases done : place follow v with
  | error e => exact absurd free (replaces.refused done)
  | ok w =>
      obtain ⟨⟨u, excess⟩, rfl, placed, extra⟩ := replaces.placed done
      have nothing : excess = [] := eq_nil_of_extra none_beside extra
      have same : u = v := placed.eq_of_free none_beside free
      rw [nothing, same]
      cases v <;> rfl

/-- **RESOLVING ENDS AND LEAVES NO REFERENCE**, whatever references lead to: the document itself,
other files, each other, or what they stand in. -/
theorem dereferenced_of_replaces (replaces : place.Replaces) (parse : Parser) (files : Files)
    (file : String) (document : Value) : Dereferenced place parse files file document := by
  have bounded : Bounded (sources parse files file document) (start files file document) :=
    bounded_start (sources parse files file document) (Link.ofFile files file) rfl
  constructor
  case ends => exact bounded.acc
  case settled => exact bounded.resolveIn_add replaces (Nat.lt_succ_self _)
  case referenceFree => exact fun v done => referenceFree_of_resolve replaces done
  case cutOff =>
    intro v p done self
    exact valueAt_of_selfReference replaces self done
  case unchanged =>
    intro free
    show resolveIn place _ placeholder (_ + 1) _ _ document = _
    rw [resolveIn]
    exact replaces.unchanged _ (referenceFree_iff.mp free)

/-! ## §4. A node that refers to itself. -/

/-- A mapping that refers to something. -/
def referenceTo (url : String) : Value := .object [("$ref", .str url)]

/-- A node whose next node is a reference to itself, with a reference to a leaf beside it. -/
def nodeWithLeaf : Value :=
  .object [("next", .object [("$ref", .str "#/Node"), ("x", referenceTo "#/Leaf")])]

/-- A document with a node and a reference to it. -/
def documentAround (node : Value) : Value :=
  .object [("Leaf", .object [("v", .int 1)]), ("Node", node), ("s", referenceTo "#/Node")]

/-- The URL of the node. -/
def nodeLink : Link :=
  { scheme := "file", host := "", path := "/tree.json", parameters := "", query := ""
    fragment := "/Node" }

theorem nodeLink_resource : nodeLink.resource = (Link.ofFile Files.empty "tree.json").resource := by
  decide +kernel

theorem leads_node (parse : Parser) {node : Value} (some : node.orElse .null = node) :
    Leads (sources parse Files.empty "tree.json" (documentAround node))
      (start Files.empty "tree.json" (documentAround node)) (.str "#/Node")
      ⟨nodeLink, [nodeLink.target], node⟩ :=
  .intro rfl List.not_mem_nil (if_pos nodeLink_resource) (congrArg Except.ok some)

theorem clear_of_names (names : List String) (other : "$ref" ∉ names ∧ "x" ∉ names)
    (some : names ≠ []) (loose : besides v = [.str "x"]) :
    Clear v (names.map fun n => .key (.str n)) := by
  refine ⟨fun k mem => ?_, fun none => absurd none (by simpa using some)⟩
  obtain ⟨n, hn, same⟩ := List.mem_map.mp mem
  injection same with same
  rw [← same, loose]
  refine ⟨?_, List.forall_mem_singleton.mpr (Bool.eq_false_iff.mpr ?_)⟩
  · rintro ⟨⟩
    exact other.1 hn
  · intro clash
    rw [Value.sameKey_str_iff, Value.str.injEq] at clash
    exact other.2 (clash ▸ hn)

theorem selfReference_node (parse : Parser) :
    SelfReference (sources parse Files.empty "tree.json" (documentAround nodeWithLeaf)) Clear
      (start Files.empty "tree.json" (documentAround nodeWithLeaf))
      [.key (.str "s"), .key (.str "next")] := by
  have self : SelfReference
      (sources parse Files.empty "tree.json" (documentAround nodeWithLeaf)) Clear
      ⟨nodeLink, [nodeLink.target], nodeWithLeaf⟩ [.key (.str "next")] :=
    .here ⟨_, _, rfl, rfl⟩ (clear_of_names ["next"] (by decide) (by simp) rfl) rfl
      (List.mem_singleton_self _)
  exact .within (p := [.key (.str "s")]) ⟨_, _, rfl, rfl⟩
    (clear_of_names ["s", "next"] (by decide) (by simp) rfl) (leads_node _ rfl) self

/-- What the document becomes: the node in the node is empty, and what stood beside it is stored
around it. -/
def textWithNode : String :=
  "\x7b'Leaf': \x7b'v': 1\x7d, "
    ++ "'Node': \x7b'next': \x7b'next': \x7b\x7d, 'x': \x7b'v': 1\x7d\x7d\x7d, "
    ++ "'s': \x7b'next': \x7b\x7d, 'x': \x7b'v': 1\x7d\x7d\x7d"

/-- The library that is used, on a node that refers to itself. -/
theorem dereferenced_of_replaces_node :
    Placing.Replaces inPlaces ∧ ∃ v,
      resolve inPlaces (readEither 900) placeholder Files.empty "tree.json"
          (documentAround nodeWithLeaf) = .ok v
        ∧ v.quoted = textWithNode ∧ ReferenceFree v
        ∧ valueAt [.key (.str "s"), .key (.str "next")] v = some (.mapping (p := none) []) := by
  have text : ((resolve inPlaces (readEither 900) placeholder Files.empty "tree.json"
      (documentAround nodeWithLeaf)).map Value.quoted).toOption = some textWithNode := by
    decide +kernel
  have expected := dereferenced_of_replaces replaces_inPlaces (readEither 900) Files.empty
    "tree.json" (documentAround nodeWithLeaf)
  cases done : resolve inPlaces (readEither 900) placeholder Files.empty "tree.json"
    (documentAround nodeWithLeaf) with
  | error e =>
      rw [done] at text
      exact absurd text (by simp)
  | ok v =>
      rw [done, map_ok, toOption_ok, Option.some.injEq] at text
      exact ⟨replaces_inPlaces, v, rfl, text, expected.referenceFree v done,
        expected.cutOff v _ done (selfReference_node _)⟩

/-! ## §5. Places that are not clear. -/

/-- The library that is used resolves a document, but a self-reference at a place of it has not
become an empty mapping. -/
def NotEmptied (document : Value) (p : List Step) : Prop :=
  SelfReference (sources (readEither 900) Files.empty "tree.json" document) (fun _ _ => True)
      (start Files.empty "tree.json" document) p
    ∧ ∃ v, resolve inPlaces (readEither 900) placeholder Files.empty "tree.json" document = .ok v
      ∧ valueAt p v ≠ some (.mapping (p := none) [])

theorem notEmptied_of_quoted {document : Value} (text : String)
    (self : SelfReference (sources (readEither 900) Files.empty "tree.json" document)
      (fun _ _ => True) (start Files.empty "tree.json" document) p)
    (there : ((resolve inPlaces (readEither 900) placeholder Files.empty "tree.json"
      document).toOption.bind (valueAt p)).map Value.quoted = some text)
    (more : (Value.mapping (p := none) []).quoted ≠ text) : NotEmptied document p := by
  refine ⟨self, ?_⟩
  cases done : resolve inPlaces (readEither 900) placeholder Files.empty "tree.json" document with
  | error e =>
      rw [done] at there
      exact absurd there (by simp)
  | ok v =>
      refine ⟨v, rfl, fun empty => more ?_⟩
      rw [done, toOption_ok, Option.bind_some, empty] at there
      exact Option.some.inj there

/-- A node that is a reference to itself, with a reference to a leaf beside it. -/
def nodeOfItself : Value := .object [("$ref", .str "#/Node"), ("x", referenceTo "#/Leaf")]

/-- A node with two references to itself; what stands beside the second has the name of the
first. -/
def nodeWithNamesake : Value :=
  .object [("a", referenceTo "#/Node"),
    ("b", .object [("$ref", .str "#/Node"), ("a", referenceTo "#/Leaf")])]

/-- **At other places something may be stored into the empty mapping**, or in its place: what a
reference beside the self-reference leads to, and likewise under a name on the way. -/
theorem notEmptied_of_beside :
    NotEmptied (documentAround nodeOfItself) [.key (.str "s")]
      ∧ NotEmptied (documentAround nodeWithNamesake) [.key (.str "s"), .key (.str "a")] := by
  constructor
  · refine notEmptied_of_quoted "\x7b'x': \x7b'v': 1\x7d\x7d" ?_ (by decide +kernel)
      (by decide +kernel)
    exact .within (p := [.key (.str "s")]) (q := []) ⟨_, _, rfl, rfl⟩ trivial (leads_node _ rfl)
      (.here ⟨_, _, rfl, rfl⟩ trivial rfl (List.mem_singleton_self _))
  · refine notEmptied_of_quoted "\x7b'v': 1\x7d" ?_ (by decide +kernel)
      (by decide +kernel)
    exact .within (p := [.key (.str "s")]) ⟨_, _, rfl, rfl⟩ trivial (leads_node _ rfl)
      (.here (p := [.key (.str "a")]) ⟨_, _, rfl, rfl⟩ trivial rfl (List.mem_singleton_self _))

end ApiTools.Specification
