/-
  ApiTools.Proofs.Proxy.Query
  ───────────────────────────
  **WHAT A DOWNSTREAM URL CARRIES.**

  The query of a downstream URL is said here without its encoding: a query
  parameter whose value counts as present carries its name and the value as
  text (`carried`), in the order of declaration.  The URL is the server's URL
  and the resolved path, and where something is carried a question mark and a
  query string from which exactly that is read back.  There is such a URL
  exactly if the values that go into it can be said and those in its query have
  octets (`Writable`, `carries_url`).

  A value without octets is possible: an escape can name half of a character
  (`not_carries_url_of_half`).
-/
import ApiTools.Proofs.Http.FormReading
import ApiTools.Proofs.Proxy.Path

namespace ApiTools.Downstream

/-! ## §1. The pairs. -/

/-- A query parameter of a request has a value that counts as present. -/
structure Bears (r : Request) (es : Entries) (p : Parameter) (v : Value) : Prop where
  declared : p ∈ r.parameters
  location : p.location = .str "query"
  value : Entries.find? p.name es = some v
  present : v.truthy = true

/-- The name of a parameter and its value, if it has one that counts as present. -/
def borneBy (es : Entries) (p : Parameter) : Option (Value × Value) :=
  ((Entries.find? p.name es).filter Value.truthy).map fun v => (p.name, v)

/-- Names and values of the query parameters that have one that counts as present. -/
def borne (r : Request) (es : Entries) : List (Value × Value) :=
  r.queryParameters.filterMap (borneBy es)

/-- A name and a value as texts. -/
def asTexts (pair : Value × Value) : String × String := (pair.1.text, pair.2.inUrl)

/-- What the query of a request carries, in the order of declaration. -/
def carried (r : Request) (es : Entries) : List (String × String) := (borne r es).map asTexts

variable {m : Option Nat} {r : Request} {es : Entries}

theorem mem_borne_iff {pair : Value × Value} :
    pair ∈ borne r es ↔ ∃ p, Bears r es p pair.2 ∧ p.name = pair.1 := by
  unfold borne borneBy Request.queryParameters
  simp only [List.mem_filterMap, List.mem_filter, Option.map_eq_some_iff, Option.filter_eq_some_iff,
    Value.isText_eq_true_iff]
  constructor
  · rintro ⟨p, ⟨declared, location⟩, v, ⟨value, present⟩, rfl⟩
    exact ⟨p, ⟨declared, location, value, present⟩, rfl⟩
  · rintro ⟨p, bears, name⟩
    exact ⟨p, ⟨bears.declared, bears.location⟩, pair.2, ⟨bears.value, bears.present⟩,
      Prod.ext name rfl⟩

theorem queryPair?_mapping {p : Parameter} (text : p.name.IsText) :
    queryPair? (.mapping (p := m) es) p
      = if (borneBy es p).all (·.2.isSayable) then .ok (borneBy es p)
        else .error (.refused .notWritten) := by
  have value : Value.fieldAt? p.name (.mapping (p := m) es) = .ok (Entries.find? p.name es) := by
    rcases text with ⟨s, name⟩ | ⟨t, name⟩
    · rw [name]
      rfl
    · rw [name]
      rfl
  unfold queryPair? borneBy
  rw [value, ok_bind]
  dsimp only
  cases Entries.find? p.name es with
  | none => rfl
  | some v =>
      rw [Option.getD_some, Option.filter, Value.sayInUrl]
      cases v.truthy with
      | false => rfl
      | true =>
          simp only [if_true, Option.map_some, Option.all_some]
          cases v.isSayable <;> rfl

theorem queryPairs_mapping {ps : List Parameter} (texts : ∀ p ∈ ps, p.name.IsText) :
    queryPairs (.mapping (p := m) es) ps
      = if (ps.filterMap (borneBy es)).all (·.2.isSayable) then .ok (ps.filterMap (borneBy es))
        else .error (.refused .notWritten) := by
  induction ps with
  | nil => rfl
  | cons p ps ih =>
      rw [List.forall_mem_cons] at texts
      rw [queryPairs, queryPair?_mapping texts.1, ih texts.2, List.filterMap_cons]
      cases borneBy es p with
      | none =>
          rw [Option.all_none, if_pos rfl, ok_bind]
          cases (ps.filterMap (borneBy es)).all (·.2.isSayable) <;> rfl
      | some pair =>
          rw [Option.all_some, List.all_cons]
          cases pair.2.isSayable with
          | false => rfl
          | true =>
              rw [if_pos rfl, ok_bind, Bool.true_and]
              cases (ps.filterMap (borneBy es)).all (·.2.isSayable) <;> rfl

/-- Is a pair torn? -/
def isTorn (pair : Value × Value) : Bool := pair.1.isTornInUrl || pair.2.isTornInUrl

/-- The pairs of texts are written if none is torn. -/
theorem mapM_pairTexts {pairs : List (Value × Value)} (texts : ∀ pair ∈ pairs, pair.1.IsText) :
    pairs.mapM pairTexts
      = if pairs.any isTorn then .error .torn else .ok (pairs.map asTexts) := by
  induction pairs with
  | nil => rfl
  | cons pair pairs ih =>
      rw [List.forall_mem_cons] at texts
      have sayable : pair.1.isSayable = true := by
        rcases texts.1 with ⟨s, name⟩ | ⟨t, name⟩
        · rw [name]
          rfl
        · rw [name]
          rfl
      have first : pairTexts pair = if isTorn pair then .error .torn else .ok (asTexts pair) := by
        rw [pairTexts, sayable]
        rfl
      rw [List.mapM_cons, first, ih texts.2, List.any_cons, List.map_cons]
      cases isTorn pair with
      | true => rfl
      | false =>
          rw [if_neg Bool.false_ne_true, ok_bind, Bool.false_or]
          cases pairs.any isTorn <;> rfl

/-- A query parameter of the request has a value that counts as present. -/
def HasQuery (r : Request) (es : Entries) : Prop := ∃ p v, Bears r es p v

theorem carried_ne_nil_iff : carried r es ≠ [] ↔ HasQuery r es := by
  unfold carried
  rw [Ne, List.map_eq_nil_iff]
  constructor
  · intro some_pair
    obtain ⟨pair, mem⟩ := List.exists_mem_of_ne_nil _ some_pair
    obtain ⟨p, bears, _⟩ := mem_borne_iff.mp mem
    exact ⟨p, pair.2, bears⟩
  · rintro ⟨p, v, bears⟩ nothing
    have mem : (p.name, v) ∈ borne r es := mem_borne_iff.mpr ⟨p, bears, rfl⟩
    rw [nothing] at mem
    exact List.not_mem_nil mem

/-! ## §2. The query. -/

theorem texts_of_borne (texts : ∀ p ∈ r.parameters, p.name.IsText) :
    ∀ pair ∈ borne r es, pair.1.IsText := by
  intro pair mem
  obtain ⟨p, bears, name⟩ := mem_borne_iff.mp mem
  rw [← name]
  exact texts p bears.declared

theorem queryString_mapping (texts : ∀ p ∈ r.parameters, p.name.IsText) :
    queryString r (.mapping (p := m) es)
      = if (borne r es).all (·.2.isSayable) then
          if (borne r es).any isTorn then .error .torn else .ok (Http.Form.encode (carried r es))
        else .error (.refused .notWritten) := by
  have declared : ∀ p ∈ r.queryParameters, p.name.IsText :=
    fun p mem => texts p (List.mem_of_mem_filter mem)
  have pairs : r.queryParameters.filterMap (borneBy es) = borne r es := rfl
  rw [queryString, queryPairs_mapping declared, pairs]
  cases (borne r es).all (·.2.isSayable) with
  | false => rfl
  | true =>
      rw [if_pos rfl, if_pos rfl, ok_bind, mapM_pairTexts (texts_of_borne texts)]
      cases (borne r es).any isTorn <;> rfl

/-! ## §3. The URL. -/

/-- What a URL in front of its query starts with. -/
def start (r : Request) (path : String) : String := (r.baseUrl.orElse (.str "")).text ++ path

/-- Can a URL be written: can all values that go into it be said, and have names and values in its
query octets? -/
structure Writable (r : Request) (es : Entries) : Prop where
  path : ∀ n ∈ Template.names r.path, said es n = true
  values : ∀ p v, Bears r es p v → v.isSayable = true
  whole : ∀ p v, Bears r es p v → p.name.isTornInUrl = false ∧ v.isTornInUrl = false

theorem queryString_of_writable (texts : ∀ p ∈ r.parameters, p.name.IsText)
    (writable : Writable r es) :
    queryString r (.mapping (p := m) es) = .ok (Http.Form.encode (carried r es)) := by
  have sayable : (borne r es).all (·.2.isSayable) = true := by
    rw [List.all_eq_true]
    intro pair mem
    obtain ⟨p, bears, _⟩ := mem_borne_iff.mp mem
    exact writable.values p _ bears
  have whole : (borne r es).any isTorn = false := by
    rw [List.any_eq_false]
    intro pair mem
    obtain ⟨p, bears, name⟩ := mem_borne_iff.mp mem
    obtain ⟨name_whole, value_whole⟩ := writable.whole p _ bears
    rw [isTorn, ← name, name_whole, value_whole]
    exact Bool.false_ne_true
  rw [queryString_mapping texts, sayable, whole]
  rfl

/-- **Building a downstream URL that can be written**, with its notices. -/
theorem url_of_writable (texts : ∀ p ∈ r.parameters, p.name.IsText) (writable : Writable r es) :
    url r (.mapping (p := m) es)
      = ⟨(missing es (Template.names r.path)).map (.pathValueMissing · r.path),
          .ok (if carried r es = [] then start r (Template.substitute (standsFor es) r.path)
            else start r (Template.substitute (standsFor es) r.path) ++ "?"
              ++ Http.Form.encode (carried r es))⟩ := by
  unfold url
  rw [resolvePath_mapping, saying_of_said writable.path, Reported.ok_bind,
    queryString_of_writable texts writable]
  show (⟨_ ++ [], .ok (if Http.Form.encode (carried r es) = "" then _ else _)⟩
    : Reported String) = _
  simp only [List.append_nil, Http.Form.encode_eq_empty_iff]
  rfl

/-- A URL that is built can be written. -/
theorem writable_of_url (texts : ∀ p ∈ r.parameters, p.name.IsText) {u : String}
    (built : (url r (.mapping (p := m) es)).outcome = .ok u) : Writable r es := by
  unfold url at built
  rw [resolvePath_mapping, Reported.outcome_bind] at built
  obtain ⟨path, said, built⟩ := bind_eq_ok.mp built
  rw [Reported.outcome_bind] at built
  obtain ⟨query, written, _⟩ := bind_eq_ok.mp built
  rw [Reported.outcome_ofExcept, queryString_mapping texts] at written
  split at written
  next sayable =>
    split at written
    next => exact absurd written (by simp)
    next whole =>
      rw [Bool.not_eq_true, List.any_eq_false] at whole
      rw [List.all_eq_true] at sayable
      refine ⟨(saying_eq_ok said).2, ?_, ?_⟩
      · intro p v bears
        exact sayable (p.name, v) (mem_borne_iff.mpr ⟨p, bears, rfl⟩)
      · intro p v bears
        have not_torn := whole (p.name, v) (mem_borne_iff.mpr ⟨p, bears, rfl⟩)
        rw [isTorn, Bool.not_eq_true, Bool.or_eq_false_iff] at not_torn
        exact not_torn
  next => exact absurd written (by simp)

/-- What a downstream URL is made of, given the resolved path. -/
structure Carries (r : Request) (es : Entries) (path u : String) : Prop where
  /-- without a value for the query the URL ends with the path … -/
  plain : ¬ HasQuery r es → u = start r path
  /-- … and otherwise with a query string from which all that is carried is read back -/
  query : HasQuery r es → ∃ q, u = start r path ++ "?" ++ q
    ∧ Http.Form.decode q = some (carried r es)

/-- **A DOWNSTREAM URL CARRIES EXACTLY THE DECLARED QUERY VALUES**, whatever characters are in names
and values: no pair is added, lost or changed.  There is one exactly if it can be written. -/
theorem carries_url (r : Request) (texts : ∀ p ∈ r.parameters, p.name.IsText) (es : Entries) :
    (Writable r es → ∃ path u, (resolvePath r.path (.mapping (p := m) es)).outcome = .ok path
        ∧ (url r (.mapping (p := m) es)).outcome = .ok u ∧ Carries r es path u)
      ∧ ∀ u, (url r (.mapping (p := m) es)).outcome = .ok u → Writable r es := by
  refine ⟨fun writable => ?_, fun u built => writable_of_url texts built⟩
  refine ⟨Template.substitute (standsFor es) r.path, _,
    by rw [resolvePath_mapping, saying_of_said writable.path],
    by rw [url_of_writable texts writable], ?_⟩
  constructor
  case plain =>
    intro without
    have nothing : carried r es = [] := by
      by_contra some_pair
      exact without (carried_ne_nil_iff.mp some_pair)
    rw [if_pos nothing]
  case query =>
    intro with_query
    have some_pair := carried_ne_nil_iff.mpr with_query
    rw [if_neg some_pair]
    exact ⟨_, rfl, Http.Form.decode_encode some_pair⟩

/-! ## §4. Names and values full of separators. -/

/-- A search whose first parameter and its value hold every sign that a query gives a meaning. -/
def searchRequest : Request where
  method := "get"
  path := "/users/\x7bid\x7d/orders"
  parameters := [
    ⟨.str "q&=#+% é", .str "query", true⟩,
    ⟨.str "id", .str "path", true⟩,
    ⟨.str "tags", .str "query", false⟩,
    ⟨.str "page", .str "query", false⟩,
    ⟨.str "blank", .str "query", false⟩]
  baseUrl := .str "https://shop.test"

/-- The page has no value that counts as present; the list of one empty text has, and is empty as
text. -/
def searchEntries : Entries := [
  (.str "page", .int 0), (.str "blank", .list [.str ""]), (.str "id", .str "a/b"),
  (.str "q&=#+% é", .str "1&page=2#+%26 ü€😀"), (.str "tags", .list [.bool true, .str "x,y"]),
  (.str "other", .str "z")]

theorem texts_searchRequest : ∀ p ∈ searchRequest.parameters, p.name.IsText := by
  intro p mem
  simp only [searchRequest, List.mem_cons, List.not_mem_nil, or_false] at mem
  rcases mem with rfl | rfl | rfl | rfl | rfl <;> exact Or.inl ⟨_, rfl⟩

/-- All that goes into the URL of the search are texts, truth values and lists of them. -/
theorem writable_search : Writable searchRequest searchEntries := by
  have pairs : (borne searchRequest searchEntries).all
      (fun pair => pair.2.isSayable && !isTorn pair) = true := by rfl
  have fit : ∀ p v, Bears searchRequest searchEntries p v →
      v.isSayable = true ∧ isTorn (p.name, v) = false := by
    intro p v bears
    have mem := List.all_eq_true.mp pairs (p.name, v) (mem_borne_iff.mpr ⟨p, bears, rfl⟩)
    rw [Bool.and_eq_true, Bool.not_eq_true'] at mem
    exact mem
  refine ⟨?_, fun p v bears => (fit p v bears).1, fun p v bears => ?_⟩
  · have names : Template.names searchRequest.path = ["id"] := by decide +kernel
    rw [names, List.forall_mem_singleton]
    rfl
  · have whole := (fit p v bears).2
    rw [isTorn, Bool.or_eq_false_iff] at whole
    exact whole

theorem carries_url_search :
    (∀ p ∈ searchRequest.parameters, p.name.IsText) ∧ Writable searchRequest searchEntries
      ∧ ∃ q, (url searchRequest (.mapping (p := none) searchEntries)).outcome
            = .ok ("https://shop.test/users/a/b/orders" ++ "?" ++ q)
          ∧ Http.Form.decode q = some [
            ("q&=#+% é", "1&page=2#+%26 ü€😀"), ("tags", "true,x,y"), ("blank", "")] := by
  refine ⟨texts_searchRequest, writable_search, ?_⟩
  obtain ⟨path, u, resolved, built, carries⟩ :=
    (carries_url searchRequest texts_searchRequest searchEntries).1 writable_search
  have path_eq : (resolvePath searchRequest.path (.mapping (p := none) searchEntries)).outcome
      = .ok "/users/a/b/orders" := by
    rfl
  have pairs : carried searchRequest searchEntries = [
      ("q&=#+% é", "1&page=2#+%26 ü€😀"), ("tags", "true,x,y"), ("blank", "")] := by
    rfl
  have with_query : HasQuery searchRequest searchEntries := by
    rw [← carried_ne_nil_iff, pairs]
    exact List.cons_ne_nil _ _
  obtain ⟨q, whole, read⟩ := carries.query with_query
  rw [path_eq] at resolved
  injection resolved with resolved
  refine ⟨q, ?_, by rw [read, pairs]⟩
  rw [built, whole, ← resolved]
  rfl

/-! ## §5. Half of a character. -/

/-- A request with one query parameter. -/
def halfRequest : Request where
  method := "get"
  path := "/x"
  parameters := [⟨.str "q", .str "query", false⟩]
  baseUrl := .null

/-- The first half of a pair, alone. -/
def halfEntries : Entries := [(.str "q", .torn ⟨[.half ⟨0, by decide⟩], rfl⟩)]

/-- **NOT EVERY VALUE GETS INTO A URL**: half of a character has no octets. -/
theorem not_carries_url_of_half :
    ¬ ∀ (r : Request), (∀ p ∈ r.parameters, p.name.IsText) → ∀ es : Entries,
        ∃ path u, (resolvePath r.path (.mapping (p := none) es)).outcome = .ok path
          ∧ (url r (.mapping (p := none) es)).outcome = .ok u ∧ Carries r es path u := by
  intro claimed
  have texts : ∀ p ∈ halfRequest.parameters, p.name.IsText := by
    intro p mem
    rw [List.mem_singleton.mp mem]
    exact Or.inl ⟨"q", rfl⟩
  obtain ⟨path, u, _, built, _⟩ := claimed halfRequest texts halfEntries
  have failed : (url halfRequest (.mapping (p := none) halfEntries)).outcome = .error .torn := by rfl
  rw [failed] at built
  exact absurd built (by simp)

end ApiTools.Downstream
