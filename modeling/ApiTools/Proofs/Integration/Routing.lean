/-
  ApiTools.Proofs.Integration.Routing
  ───────────────────────────────────
  **WHERE THE ACTIONS OF A FILE ARE SENT.**

  A file is matched to an integration in one way and named in another, and the
  route of an action follows the name: `custom.` at its start makes a custom
  route with the integration's id, and any other name is a route of its own.
  So an action goes where its integration's requests go exactly if the file
  keeps the route (`KeepsRoute`): a custom file starts with `custom.` and its
  integration has an id that is not empty, and a standard file is named after
  the type and nothing else.

  Main result: `actionRoute_of_discover`.  `actionRoute_of_versioned_file`
  shows a file that does not keep its route.
-/
import ApiTools.Proofs.Integration.Ownership
import ApiTools.Proofs.Specification.FileName

namespace ApiTools

namespace Integration

/-! ## §1. Integrations that were read. -/

/-- Was the integration read from its loosely typed form? -/
def Read (i : Integration) : Prop := ∃ data, ofValue data = .ok i

/-- A custom integration that was read has a text as its id, and the type of a standard one is not
the word for custom ones. -/
theorem cases_of_read {i : Integration} (h : Read i) :
    (∃ name id, i = custom name (.str id))
      ∨ ∃ type id, i = standard type id ∧ type.isText "custom" = false := by
  obtain ⟨data, h⟩ := h
  rw [ofValue, bind_eq_ok] at h
  obtain ⟨kind, _, h⟩ := h
  split at h
  next => simp at h
  next =>
    split at h
    next =>
      rw [bind_eq_ok] at h
      obtain ⟨name, _, h⟩ := h
      split at h
      next =>
        rw [bind_eq_ok] at h
        obtain ⟨_, _, h⟩ := h
        simp at h
      next =>
        rw [bind_eq_ok] at h
        obtain ⟨id, _, h⟩ := h
        injection h with h
        exact Or.inl ⟨name, id.text, h.symm⟩
    next other =>
      rw [bind_eq_ok] at h
      obtain ⟨id, _, h⟩ := h
      injection h with h
      exact Or.inr ⟨kind, _, h.symm, by simpa using other⟩

/-! ## §2. Routes by name. -/

/-- What the routes of a project start with. -/
def routeStart (base project : String) : String :=
  base ++ "/projects/" ++ project ++ "/sdk/proxy/"

theorem route_custom (base project : String) (name id : Value) :
    route base project (custom name id)
      = .ok (routeStart base project ++ ("custom/" ++ id.text)) := by
  have cut : "/sdk/proxy/custom/" = "/sdk/proxy/" ++ "custom/" := by decide
  rw [route, cut]
  simp only [routeStart, String.append_assoc]

theorem route_standard (base project : String) (type id : Value) :
    route base project (standard type id) = .ok (routeStart base project ++ type.text) := rfl

end Integration

namespace SpecificationFile

open Integration

/-- The route of an action with the integration name and the id of a file's tools. -/
def actionRoute (base project : String) (f : SpecificationFile) : Except Fault String :=
  forAction (.str f.integrationName) f.integration.id >>= route base project

/-- The name of the file leads to the route of its integration. -/
def KeepsRoute (f : SpecificationFile) : Prop :=
  match f.integration with
  | .custom _ key =>
    Text.startsWith customMark f.integrationName = true ∧ key.truthy = true
  | .standard type _ => type = .str f.integrationName
  | .unknown => False

/-- The route of an action follows the name of the file. -/
theorem actionRoute_eq (base project : String) (f : SpecificationFile) :
    actionRoute base project f
      = if Text.startsWith customMark f.integrationName then
          if f.integration.id.truthy then
            .ok (routeStart base project ++ ("custom/" ++ f.integration.id.text))
          else .error (.refused (.customWithoutId f.integrationName))
        else .ok (routeStart base project ++ f.integrationName) := by
  rw [actionRoute, forAction]
  by_cases marked : Text.startsWith customMark f.integrationName = true
  · rw [if_pos marked, if_pos marked]
    cases f.integration.id.truthy with
    | false => rfl
    | true =>
        exact route_custom base project
          (.str (String.ofList (f.integrationName.toList.drop customMark.length))) f.integration.id
  · rw [if_neg marked, if_neg marked]
    rfl

/-! ## §3. Names of discovered files. -/

section Discovered

variable {files : Files} {folder : String} {integrations : List Integration}
  {found : List SpecificationFile} {f : SpecificationFile}

/-- The integration name of a discovered file starts its name, and a point follows. -/
theorem toList_name_of_discover (h : (discover files folder integrations).outcome = .ok found)
    (hf : f ∈ found) : ∃ rest, f.name.toList = f.integrationName.toList ++ '.' :: rest := by
  obtain ⟨stem, final, parts, _, _, _, cut⟩ :=
    parts_of_ending (ending_ne_empty (mem_of_discover h hf).1)
  refine ⟨final, ?_⟩
  rw [parts, integrationName, cut, String.toList_ofList]

theorem integration_of_discover (h : (discover files folder integrations).outcome = .ok found)
    (hf : f ∈ found) : f.integration ∈ integrations ∧ ownsFile f.name f.integration = .ok true := by
  obtain ⟨before, after, split, owns, _⟩ := split_of_findFor (mem_of_discover h hf).2
  refine ⟨?_, owns⟩
  rw [split]
  exact List.mem_append_right before List.mem_cons_self

/-- A name that starts with the mark of custom integrations has `custom` up to its first point. -/
theorem upTo_of_startsWith_mark {name rest : List Char} (marked : customMark.toList <+: name) :
    (name ++ rest).takeWhile (· != '.') = "custom".toList := by
  obtain ⟨others, rfl⟩ := marked
  have mark : customMark.toList = ['c', 'u', 's', 't', 'o', 'm', '.'] := by decide
  rw [mark]
  simp

/-- The type of a standard integration is the text up to the first point of its files. -/
theorem type_of_discover {type id : Value}
    (h : (discover files folder integrations).outcome = .ok found) (hf : f ∈ found)
    (standard : f.integration = .standard type id) : type = .str (Text.upTo '.' f.name) := by
  have owns := (integration_of_discover h hf).2
  rw [standard, ownsFile, Except.ok.injEq] at owns
  cases type <;> simp_all [Value.isText]

/-- A discovered file with the mark in front belongs to a custom integration. -/
theorem not_marked_of_standard {type id : Value}
    (h : (discover files folder integrations).outcome = .ok found) (hf : f ∈ found)
    (standard : f.integration = .standard type id) (other : type.isText "custom" = false) :
    Text.startsWith customMark f.integrationName ≠ true := by
  intro marked
  obtain ⟨rest, name⟩ := toList_name_of_discover h hf
  rw [Text.startsWith_eq_true_iff] at marked
  have custom : Text.upTo '.' f.name = "custom" := by
    rw [Text.upTo, name, upTo_of_startsWith_mark marked, String.ofList_toList]
  rw [type_of_discover h hf standard, custom] at other
  simp [Value.isText] at other

/-! ## §4. Where actions are sent. -/

/-- **WHERE THE ACTIONS OF A DISCOVERED FILE ARE SENT.**  The integration of the file always has a
route.  An action goes by the name of the file alone: the custom route with the integration's id
if the mark starts the name, which only files of custom integrations have, and a fault if that id
is empty; else a route of that name.  The two routes are one if the file keeps its route, and, as
no slash stands in the name of a file, only then. -/
theorem actionRoute_of_discover (h : (discover files folder integrations).outcome = .ok found)
    (read : ∀ i ∈ integrations, i.Read) (hf : f ∈ found) (base project : String) :
    (∃ url, route base project f.integration = .ok url)
      ∧ (Text.startsWith customMark f.integrationName = true →
          (∃ name id, f.integration = .custom name (.str id))
            ∧ actionRoute base project f
                = if f.integration.id.truthy then route base project f.integration
                  else .error (.refused (.customWithoutId f.integrationName)))
      ∧ (Text.startsWith customMark f.integrationName = false →
          actionRoute base project f = .ok (routeStart base project ++ f.integrationName))
      ∧ (KeepsRoute f → actionRoute base project f = route base project f.integration)
      ∧ ('/' ∉ f.name.toList →
          actionRoute base project f = route base project f.integration → KeepsRoute f) := by
  obtain ⟨rest, parts⟩ := toList_name_of_discover h hf
  -- a custom integration may own a file without the mark in front, a standard one none with it
  rcases cases_of_read (read _ (integration_of_discover h hf).1) with
    ⟨name, id, custom⟩ | ⟨type, id, standard, other⟩
  · rw [actionRoute_eq, KeepsRoute, custom, route_custom]
    refine ⟨⟨_, rfl⟩, ?_, ?_, ?_, ?_⟩
    · intro marked
      rw [if_pos marked]
      exact ⟨⟨name, id, rfl⟩, rfl⟩
    · intro unmarked
      rw [unmarked]
      rfl
    · rintro ⟨marked, present⟩
      rw [if_pos marked]
      exact if_pos present
    · intro plain same
      by_cases marked : Text.startsWith customMark f.integrationName = true
      · refine ⟨marked, ?_⟩
        by_contra absent
        rw [if_pos marked] at same
        have fault := (if_neg absent).symm.trans same
        exact absurd fault (by simp)
      · rw [if_neg marked, Except.ok.injEq, String.append_right_inj] at same
        -- the name would have the slash of the custom route
        refine absurd ?_ plain
        rw [parts, same]
        simp
  · have unmarked := not_marked_of_standard h hf standard other
    rw [actionRoute_eq, KeepsRoute, standard, route_standard, if_neg unmarked]
    refine ⟨⟨_, rfl⟩, fun marked => absurd marked unmarked, fun _ => rfl, ?_, ?_⟩
    · rintro rfl
      rfl
    · intro _ same
      rw [Except.ok.injEq, String.append_right_inj] at same
      rw [type_of_discover h hf standard] at same ⊢
      exact congrArg Value.str same.symm

end Discovered

/-! ## §5. A file with a version in its name. -/

/-- A file of the custom integration `Acme` and a file that states a version. -/
def versionedFiles : Files :=
  ⟨[(["openapi"], .folder), (["openapi", "custom.acme.yml"], .file []),
    (["openapi", "hubspot.v2.yml"], .file [])], []⟩

def versionedIntegrations : List Integration :=
  [.standard (.str "hubspot") (.str "1"), .custom (.str "Acme") (.str "2")]

theorem read_versionedIntegrations : ∀ i ∈ versionedIntegrations, i.Read := by
  intro i hi
  simp only [versionedIntegrations, List.mem_cons, List.not_mem_nil, or_false] at hi
  rcases hi with rfl | rfl
  · exact ⟨.object [("type", .str "hubspot"), ("id", .str "1")], rfl⟩
  · exact ⟨acmeRecord, rfl⟩

theorem list_versionedFiles :
    versionedFiles.list "openapi" = [("custom.acme.yml", .file []), ("hubspot.v2.yml", .file [])] :=
  List.mergeSort_of_pairwise (by simp; decide)

theorem discover_versionedFiles :
    (discover versionedFiles "openapi" versionedIntegrations).outcome
      = .ok [⟨"openapi", "custom.acme.yml", .custom (.str "Acme") (.str "2")⟩,
          ⟨"openapi", "hubspot.v2.yml", .standard (.str "hubspot") (.str "1")⟩] := by
  have path : Files.normalPath "openapi" = "openapi" := by decide +kernel
  have folder : versionedFiles.isFolder "openapi" = true := by decide +kernel
  have names : candidates versionedFiles "openapi" = ["custom.acme.yml", "hubspot.v2.yml"] := by
    rw [candidates, list_versionedFiles]
    decide +kernel
  have acme : findFor "custom.acme.yml" versionedIntegrations
      = .ok (some (.custom (.str "Acme") (.str "2"))) := by
    have left : ownsFile "custom.acme.yml" (.standard (.str "hubspot") (.str "1")) = .ok false :=
      congrArg Except.ok (by decide +kernel)
    have owns : ownsFile "custom.acme.yml" (.custom (.str "Acme") (.str "2")) = .ok true := by
      rw [ownsFile, normalizeName_acme]
      exact congrArg Except.ok (by decide +kernel)
    rw [versionedIntegrations, findFor, left]
    exact findFor_cons_of_true owns []
  have hubspot : findFor "hubspot.v2.yml" versionedIntegrations
      = .ok (some (.standard (.str "hubspot") (.str "1"))) := by
    have owns : ownsFile "hubspot.v2.yml" (.standard (.str "hubspot") (.str "1")) = .ok true :=
      congrArg Except.ok (by decide +kernel)
    exact findFor_cons_of_true owns _
  simp only [discover, path, folder, if_true, names, owned, acme, hubspot]
  rfl

/-- The actions of a file of `Acme` go to the custom route of `Acme`. -/
theorem actionRoute_of_discover_acme :
    actionRoute "https://proxy" "p" ⟨"openapi", "custom.acme.yml", .custom (.str "Acme") (.str "2")⟩
      = .ok "https://proxy/projects/p/sdk/proxy/custom/2" := by
  obtain ⟨_, _, _, agrees, _⟩ := actionRoute_of_discover discover_versionedFiles
    read_versionedIntegrations List.mem_cons_self "https://proxy" "p"
  rw [agrees ⟨by decide +kernel, by decide +kernel⟩]
  exact congrArg Except.ok (by decide +kernel)

/-- The actions of a file with a version in its name go to a route of that version, not to the
route of the integration that owns the file. -/
theorem actionRoute_of_versioned_file :
    ¬ ∀ (files : Files) (folder : String) (integrations : List Integration)
        (found : List SpecificationFile) (f : SpecificationFile) (base project : String),
        (discover files folder integrations).outcome = .ok found →
        (∀ i ∈ integrations, i.Read) → f ∈ found →
        ∃ url, actionRoute base project f = .ok url
          ∧ route base project f.integration = .ok url := by
  intro claim
  obtain ⟨url, action, own⟩ := claim versionedFiles "openapi" versionedIntegrations _
    ⟨"openapi", "hubspot.v2.yml", .standard (.str "hubspot") (.str "1")⟩ "" ""
    discover_versionedFiles read_versionedIntegrations (by simp)
  have differ : (actionRoute "" "" ⟨"openapi", "hubspot.v2.yml",
        .standard (.str "hubspot") (.str "1")⟩).toOption
      ≠ (route "" "" (.standard (.str "hubspot") (.str "1"))).toOption := by decide +kernel
  rw [action, own] at differ
  exact differ rfl

end SpecificationFile

end ApiTools
