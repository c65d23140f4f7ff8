/-
  ApiTools.Proofs.Specification.Discovery
  ───────────────────────────────────────
  **WHAT DISCOVERY FINDS, AND IN WHICH ORDER.**

  Three notions of an ending meet at the name of a file: discovery asks for
  what is cut off at the last point, the name of the integration is what
  stands in front of the cut, and the reader looks at how the name ends.  All
  three are one (`Parted`): a name has at most one cut with text on both
  sides, `splitEnding` makes this cut (`splitEnding_eq_iff`), and a name that
  is cut ends in a given ending only if that is its own
  (`endsWith_iff_of_parted`).

  Discovery goes through the files of a folder in the order of their names.
  What it finds is described without that walk (`IsSpecification`): a file of
  the folder, one of three endings, and the first integration that owns the
  file.

  Main result: `discover_exact`.
-/
import ApiTools.Proofs.Files.Enumeration
import ApiTools.Proofs.Specification.Isolation
import ApiTools.Specification.Text

namespace ApiTools

namespace SpecificationFile

/-! ## §1. The ending of a name. -/

/-- A name is a stem and an ending: the ending starts at the last point, and there is text on both
sides of the point. -/
structure Parted (name stem ending : String) : Prop where
  whole : stem ++ ending = name
  before : stem ≠ ""
  behind : ∃ final, ending.toList = '.' :: final ∧ final ≠ [] ∧ '.' ∉ final

variable {name stem ending : String}

theorem Parted.ending_ne_empty (h : Parted name stem ending) : ending ≠ "" := by
  rintro rfl
  obtain ⟨final, point, _⟩ := h.behind
  exact absurd point (by simp)

/-- **Names are cut at their last point**, if they are cut at all. -/
theorem splitEnding_eq_iff :
    splitEnding name = (stem, ending) ∧ ending ≠ "" ↔ Parted name stem ending := by
  constructor
  · rintro ⟨cut, some_ending⟩
    have cut_ending : (splitEnding name).2 ≠ "" := by
      rw [cut]
      exact some_ending
    obtain ⟨before, final, parts, before_ne, final_ne, plain, same⟩ := parts_of_ending cut_ending
    rw [cut] at same
    injection same with hstem hending
    subst hstem
    subst hending
    refine ⟨?_, ?_, final, String.toList_ofList, final_ne, plain⟩
    · rw [← String.ofList_append, ← parts, String.ofList_toList]
    · intro none_before
      exact before_ne (String.ofList_injective none_before)
  · intro h
    obtain ⟨final, point, final_ne, plain⟩ := h.behind
    have parts : name.toList = stem.toList ++ '.' :: final := by
      rw [← h.whole, String.toList_append, point]
    have before_ne : stem.toList ≠ [] := fun none => h.before (String.toList_eq_nil_iff.mp none)
    refine ⟨?_, h.ending_ne_empty⟩
    rw [splitEnding_of_parts parts plain, if_pos ⟨before_ne, final_ne⟩, ← point,
      String.ofList_toList, String.ofList_toList]

/-- A name ends in a point and a text without points only if this is its ending. -/
theorem endsWith_iff_of_parted (h : Parted name stem ending) {last : String} {final : List Char}
    (point : last.toList = '.' :: final) (plain : '.' ∉ final) :
    Text.endsWith last name = true ↔ ending = last := by
  obtain ⟨own, hown, _, own_plain⟩ := h.behind
  rw [Text.endsWith, List.isSuffixOf_iff_suffix]
  constructor
  · rintro ⟨before, parts⟩
    have same : before ++ '.' :: final = stem.toList ++ '.' :: own := by
      rw [← point, parts, ← h.whole, String.toList_append, hown]
    -- behind its last point a text is the same however it was put together
    have behind : final = own := by
      have cut : ((before ++ '.' :: final).reverse.takeWhile (· != '.')).reverse = final :=
        reverse_takeWhile_ne_point plain
      rw [← cut, same, reverse_takeWhile_ne_point own_plain]
    rw [← String.toList_inj, hown, point, behind]
  · rintro rfl
    exact ⟨stem.toList, by rw [← h.whole, String.toList_append]⟩

/-- **A file is read as YAML if its ending is one of the two for YAML**, and only then. -/
theorem isYamlFile_iff_of_parted (h : Parted name stem ending) :
    Specification.isYamlFile name = true ↔ ending = ".yml" ∨ ending = ".yaml" := by
  have yaml_text : ".yaml".toList = ['.', 'y', 'a', 'm', 'l'] := by decide
  have yml_text : ".yml".toList = ['.', 'y', 'm', 'l'] := by decide
  have yaml := endsWith_iff_of_parted h yaml_text (by decide)
  have yml := endsWith_iff_of_parted h yml_text (by decide)
  rw [Specification.isYamlFile, Bool.or_eq_true, yaml, yml, or_comm]

/-- What a text denotes is what the reader for the file's name makes of it. -/
theorem readValue_eq_ok_iff (library : Library) (text file : String) (v : Value) :
    Specification.readValue library text file = .ok v
      ↔ if Specification.isYamlFile file = true then library.yaml text = .ok v
        else Json.read library.reading text = .ok v := by
  unfold Specification.readValue
  by_cases yaml : Specification.isYamlFile file = true
  · rw [if_pos yaml, if_pos yaml]
    cases read : library.yaml text with
    | ok w => simp
    | error problem => cases problem <;> simp
  · rw [if_neg yaml, if_neg yaml]
    cases read : Json.read library.reading text with
    | ok w => simp
    | error problem => cases problem <;> simp

/-! ## §2. What there is to find. -/

/-- An integration owns a file, and none before it in a list does. -/
def FirstOwner (integrations : List Integration) (file : String) (i : Integration) : Prop :=
  ∃ before after, integrations = before ++ i :: after
    ∧ Integration.ownsFile file i = .ok true
    ∧ ∀ j ∈ before, Integration.ownsFile file j = .ok false

theorem findFor_eq_some_iff {integrations : List Integration} {file : String} {i : Integration} :
    Integration.findFor file integrations = .ok (some i) ↔ FirstOwner integrations file i := by
  constructor
  · intro h
    exact Integration.split_of_findFor h
  · rintro ⟨before, after, rfl, owns, others⟩
    rw [Integration.findFor_append_of_false others]
    exact Integration.findFor_cons_of_true owns after

/-- A file of a folder with one of the three endings, and the first integration that owns it. -/
structure IsSpecification (files : Files) (folder : String) (integrations : List Integration)
    (f : SpecificationFile) : Prop where
  place : f.folder = folder
  held : ∃ octets, files.Holds folder f.name (.file octets)
  parted : ∃ stem ending, Parted f.name stem ending ∧ ending ∈ [".json", ".yml", ".yaml"]
  owner : FirstOwner integrations f.name f.integration

/-- The name of the integration and an ending are the name of the file, and the ending tells how
its text is read. -/
structure NamedAfter (f : SpecificationFile) (ending : String) : Prop where
  name : f.integrationName ++ ending = f.name
  yaml : Specification.isYamlFile f.name = true ↔ ending = ".yml" ∨ ending = ".yaml"
  value : ∀ (library : Library) (text : String) (v : Value),
    Specification.readValue library text f.name = .ok v
      ↔ if ending = ".yml" ∨ ending = ".yaml" then library.yaml text = .ok v
        else Json.read library.reading text = .ok v

theorem namedAfter_of_parted {f : SpecificationFile} (h : Parted f.name stem ending) :
    NamedAfter f ending := by
  have yaml := isYamlFile_iff_of_parted h
  refine ⟨?_, yaml, ?_⟩
  · rw [integrationName, (splitEnding_eq_iff.mpr h).1]
    exact h.whole
  · intro library text v
    rw [readValue_eq_ok_iff]
    by_cases written : ending = ".yml" ∨ ending = ".yaml"
    · rw [if_pos written, if_pos (yaml.mpr written)]
    · rw [if_neg written, if_neg fun e => written (yaml.mp e)]

/-! ## §3. What is found. -/

section Found

variable {files : Files} {folder : String} {integrations : List Integration}
  {names : List String} {found : List SpecificationFile} {f : SpecificationFile}

/-- The candidates of a folder are its files with one of the three endings. -/
theorem mem_candidates_iff :
    name ∈ candidates files folder
      ↔ (∃ octets, files.Holds folder name (.file octets))
        ∧ ∃ stem ending, Parted name stem ending ∧ ending ∈ [".json", ".yml", ".yaml"] := by
  unfold candidates
  rw [List.mem_filterMap]
  constructor
  · rintro ⟨⟨listed, item⟩, mem, kept⟩
    cases item with
    | folder => exact absurd kept (by simp)
    | file octets =>
        dsimp only at kept
        split at kept
        next ending =>
          injection kept with same
          subst same
          exact ⟨⟨octets, Files.mem_list_iff.mp mem⟩, (splitEnding listed).1,
            (splitEnding listed).2, splitEnding_eq_iff.mp ⟨rfl, ending_ne_empty ending⟩,
            List.contains_iff_mem.mp ending⟩
        next => exact absurd kept (by simp)
  · rintro ⟨⟨octets, held⟩, stem, ending, parted, mem⟩
    have fits : endings.contains ending = true := List.contains_iff_mem.mpr mem
    refine ⟨(name, .file octets), Files.mem_list_iff.mpr held, ?_⟩
    dsimp only
    rw [(splitEnding_eq_iff.mpr parted).1, if_pos fits]

/-- The candidates stand in strictly increasing order. -/
theorem pairwise_lt_candidates (distinct : files.Distinct) (folder : String) :
    (candidates files folder).Pairwise (· < ·) := by
  unfold candidates
  refine List.Pairwise.filterMap _ ?_ (Files.pairwise_lt_list distinct folder)
  rintro ⟨a, item⟩ ⟨b, other⟩ lt x hx y hy
  cases item with
  | folder => exact absurd hx (by simp)
  | file octets =>
      cases other with
      | folder => exact absurd hy (by simp)
      | file octets' =>
          simp only [Option.ite_none_right_eq_some, Option.some.injEq] at hx hy
          rw [← hx.2, ← hy.2]
          exact lt

theorem folder_of_owned (h : (owned integrations folder names).outcome = .ok found) (hf : f ∈ found) :
    f.folder = folder := by
  induction names generalizing found with
  | nil =>
      injection h with h
      subst h
      exact absurd hf List.not_mem_nil
  | cons name names ih =>
      rw [owned, Reported.outcome_bind, Reported.outcome_ofExcept, bind_eq_ok] at h
      obtain ⟨owner, _, h⟩ := h
      cases owner with
      | none =>
          rw [Reported.outcome_bind, Reported.outcome_say, ok_bind] at h
          exact ih h hf
      | some integration =>
          rw [Reported.outcome_bind, bind_eq_ok] at h
          obtain ⟨others, hothers, h⟩ := h
          injection h with h
          subst h
          rcases List.mem_cons.mp hf with rfl | hf
          · rfl
          · exact ih hothers hf

/-- No file that an integration owns is left out. -/
theorem mem_owned_of_findFor (h : (owned integrations folder names).outcome = .ok found)
    {i : Integration} (mem : name ∈ names)
    (owner : Integration.findFor name integrations = .ok (some i)) :
    ⟨folder, name, i⟩ ∈ found := by
  induction names generalizing found with
  | nil => exact absurd mem List.not_mem_nil
  | cons first names ih =>
      rw [owned, Reported.outcome_bind, Reported.outcome_ofExcept, bind_eq_ok] at h
      obtain ⟨first_owner, hfirst, h⟩ := h
      cases first_owner with
      | none =>
          rw [Reported.outcome_bind, Reported.outcome_say, ok_bind] at h
          rcases List.mem_cons.mp mem with rfl | mem
          · rw [owner] at hfirst
            exact absurd hfirst (by simp)
          · exact ih h mem
      | some integration =>
          rw [Reported.outcome_bind, bind_eq_ok] at h
          obtain ⟨others, hothers, h⟩ := h
          injection h with h
          subst h
          rcases List.mem_cons.mp mem with rfl | mem
          · rw [owner] at hfirst
            injection hfirst with hfirst
            injection hfirst with hfirst
            rw [hfirst]
            exact List.mem_cons_self
          · exact List.mem_cons_of_mem _ (ih hothers mem)

/-- What is owned among names. -/
theorem mem_owned_iff (h : (owned integrations folder names).outcome = .ok found) :
    f ∈ found ↔ f.folder = folder ∧ f.name ∈ names
      ∧ Integration.findFor f.name integrations = .ok (some f.integration) := by
  constructor
  · intro hf
    exact ⟨folder_of_owned h hf, mem_of_owned h hf⟩
  · rintro ⟨rfl, mem, owner⟩
    exact mem_owned_of_findFor h mem owner

/-- Items held in another order are found all the same, with the same notices. -/
theorem discover_of_perm {other : Files} (distinct : files.Distinct)
    (same : other.Rearranges files) (folder : String) (integrations : List Integration) :
    discover other folder integrations = discover files folder integrations := by
  simp only [discover, candidates, Files.isFolder_of_perm distinct same,
    Files.list_of_perm distinct same]

/-- **WHAT DISCOVERY FINDS.**  Among integrations that can be asked for their files, discovery
finds the same whatever the order in which the items of the tree are held.  In a folder that is
there it finds exactly the files with one of the three endings that some integration owns, each
with the first one that owns it, in strictly increasing order of their names; and the name of the
file is the name of the integration with the ending that tells how its text is read. -/
theorem discover_exact (distinct : files.Distinct) (folder : String)
    (asked : ∀ i ∈ integrations, ¬ i.Unasked) :
    (∀ other : Files, other.Rearranges files →
        discover other folder integrations = discover files folder integrations)
      ∧ (files.isFolder (Files.normalPath folder) = true →
          ∃ found, (discover files folder integrations).outcome = .ok found
            ∧ (found.map (·.name)).Pairwise (· < ·)
            ∧ (∀ f, f ∈ found ↔ IsSpecification files (Files.normalPath folder) integrations f)
            ∧ ∀ f ∈ found, ∃ ending, Parted f.name f.integrationName ending
                ∧ ending ∈ [".json", ".yml", ".yaml"] ∧ NamedAfter f ending) := by
  refine ⟨fun other same => discover_of_perm distinct same folder integrations, ?_⟩
  intro there
  cases h : (owned integrations (Files.normalPath folder)
      (candidates files (Files.normalPath folder))).outcome with
  | error e =>
      obtain ⟨i, mem, unasked⟩ := Loaded.exists_unasked_of_owned h
      exact absurd unasked (asked i mem)
  | ok found =>
      have exact_found : ∀ f, f ∈ found
          ↔ IsSpecification files (Files.normalPath folder) integrations f := by
        intro f
        rw [mem_owned_iff h, mem_candidates_iff, findFor_eq_some_iff]
        exact ⟨fun ⟨place, ⟨held, parted⟩, owner⟩ => ⟨place, held, parted, owner⟩,
          fun s => ⟨s.place, ⟨s.held, s.parted⟩, s.owner⟩⟩
      refine ⟨found, ?_, ?_, exact_found, ?_⟩
      · simp only [discover, there, if_true, h]
      · exact (pairwise_lt_candidates distinct _).sublist (sublist_of_owned h)
      · intro f hf
        obtain ⟨stem, ending, parted, mem⟩ := ((exact_found f).mp hf).parted
        have stem_eq : f.integrationName = stem := by
          rw [integrationName, (splitEnding_eq_iff.mpr parted).1]
        exact ⟨ending, stem_eq ▸ parted, mem, namedAfter_of_parted parted⟩

end Found

/-! ## §4. A folder of odd names. -/

/-- Files with a version, with nothing in front of or behind the only point, and with an ending in
capitals, beside a folder that is named like a file. -/
def oddFiles : Files :=
  ⟨[(["openapi"], .folder), (["openapi", "hubspot.v2.yaml"], .file []),
    (["openapi", ".yml"], .file []), (["openapi", "hubspot."], .file []),
    (["openapi", "hubspot.JSON"], .file []), (["openapi", "hubspot.json"], .folder)], []⟩

/-- Two integrations that own the same files. -/
def twinIntegrations : List Integration :=
  [.standard (.str "hubspot") (.str "1"), .standard (.str "hubspot") (.str "2")]

/-- Of the odd names only the one with a version is found, for the first of the twins and in any
order of the items. -/
theorem discover_exact_oddFiles :
    oddFiles.Distinct ∧ (∀ i ∈ twinIntegrations, ¬ i.Unasked)
      ∧ discover ⟨oddFiles.items.reverse, []⟩ "openapi" twinIntegrations
          = discover oddFiles "openapi" twinIntegrations
      ∧ ∃ found, (discover oddFiles "openapi" twinIntegrations).outcome = .ok found
          ∧ ⟨"openapi", "hubspot.v2.yaml", .standard (.str "hubspot") (.str "1")⟩ ∈ found
          ∧ ∀ f ∈ found, f.name ≠ ".yml" ∧ f.name ≠ "hubspot.JSON" ∧ f.name ≠ "hubspot.json" := by
  have distinct : oddFiles.Distinct := by
    unfold Files.Distinct oddFiles
    decide
  have asked : ∀ i ∈ twinIntegrations, ¬ i.Unasked := by
    intro i hi
    simp only [twinIntegrations, List.mem_cons, List.not_mem_nil, or_false] at hi
    rcases hi with rfl | rfl <;> exact id
  have place : Files.normalPath "openapi" = "openapi" := by decide +kernel
  have walked : oddFiles.walk (oddFiles.origin "openapi") (Files.pathNames "openapi")
      = .ok ["openapi"] := by
    have names : Files.pathNames "openapi" = ["openapi"] := by decide +kernel
    rw [names]
    rfl
  obtain ⟨same, finds⟩ := discover_exact distinct "openapi" asked
  rw [place] at finds
  obtain ⟨found, ends, _, exact_found, named⟩ := finds (by decide +kernel)
  refine ⟨distinct, asked, same _ ⟨List.reverse_perm _, rfl⟩, found, ends, ?_, ?_⟩
  · refine (exact_found _).mpr ⟨rfl, ⟨[], _, walked, by simp [oddFiles]⟩, ?_, ?_⟩
    · exact ⟨"hubspot.v2", ".yaml", splitEnding_eq_iff.mp (by decide +kernel), by simp⟩
    · exact ⟨[], _, rfl, congrArg Except.ok (by decide +kernel), by simp⟩
  · intro f hf
    obtain ⟨ending, parted, mem, _⟩ := named f hf
    obtain ⟨octets, here, walked', held⟩ := ((exact_found f).mp hf).held
    rw [walked] at walked'
    injection walked' with walked'
    subst walked'
    have cut := (splitEnding_eq_iff.mpr parted).1
    have no_ending : (splitEnding ".yml").2 = "" := by decide +kernel
    have capitals : (splitEnding "hubspot.JSON").2 = ".JSON" := by decide +kernel
    refine ⟨?_, ?_, ?_⟩
    · intro name
      rw [name] at cut
      rw [cut] at no_ending
      exact parted.ending_ne_empty no_ending
    · intro name
      rw [name] at cut
      rw [cut] at capitals
      rw [show ending = ".JSON" from capitals] at mem
      exact absurd mem (by decide)
    · intro name
      rw [name] at held
      exact absurd held (by simp [oddFiles])

end SpecificationFile

end ApiTools
