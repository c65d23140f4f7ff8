/-
  ApiTools.Proofs.Tool.Naming
  ───────────────────────────
  **WHICH OPERATIONS SHARE A TOOL.**

  The name of a tool keeps of the display name what is left when spaces become
  underscores and letters become capitals: its `label`.  Under one integration
  two tools have one name exactly if their operations have one label
  (`name_eq_iff_of_compile`), so operations with different display names can
  share a tool, as `List users` and `list_users` do.

  Of the operations with one label the last stays.  A document therefore keeps
  the operations that none with their label follows, each with its own request,
  and no others (`apart_of_document`).
-/
import ApiTools.Proofs.Tool.Operations

namespace ApiTools

open Compile

/-! ## §1. Labels. -/

/-- What the name of a tool keeps of the display name. -/
def Operation.label (o : Operation) : String :=
  Text.toUpper (Text.swapChar ' ' '_' o.displayName.text)

theorem Value.textFor_eq_ok {feature s : String} {v : Value} (h : v.textFor feature = .ok s) :
    v.IsText ∧ v.text = s := by
  cases v with
  | str t =>
      injection h with h
      exact ⟨Or.inl ⟨t, rfl⟩, h⟩
  | torn t =>
      injection h with h
      exact ⟨Or.inr ⟨t, rfl⟩, h⟩
  | _ => exact absurd h (by simp [textFor, lacks])

/-- Names begin with the integration and end with the label. -/
theorem name_of_displayName {integrationName : Value} {o : Operation} {name : String}
    (h : Tool.nameFor integrationName o.displayName = .ok name) :
    o.displayName.IsText
      ∧ name = Text.toUpper (Text.swapChar '.' '_' integrationName.text) ++ "_" ++ o.label := by
  unfold Tool.nameFor at h
  obtain ⟨i, integration, h⟩ := bind_eq_ok.mp h
  obtain ⟨s, display, h⟩ := bind_eq_ok.mp h
  injection h with h
  obtain ⟨is_text, display_eq⟩ := Value.textFor_eq_ok display
  refine ⟨is_text, ?_⟩
  unfold Operation.label
  rw [← h, display_eq, (Value.textFor_eq_ok integration).2]

/-- Tools of one integration have one name if their operations have one label. -/
theorem name_eq_iff_of_compile {c : Context} {o o' : Operation} {p p' : Tool × Request}
    (h : o.compile c = .ok p) (h' : o'.compile c = .ok p') :
    p.1.name = p'.1.name ↔ o.label = o'.label := by
  obtain ⟨_, _, _, _, built⟩ := Operation.exists_built_of_compile h
  obtain ⟨_, _, _, _, built'⟩ := Operation.exists_built_of_compile h'
  rw [(name_of_displayName built.name_eq).2, (name_of_displayName built'.name_eq).2]
  exact String.append_right_inj _

/-! ## §2. The operations that stay. -/

/-- An operation with the tool and the request that it is compiled to. -/
abbrev Compilation := Operation × Tool × Request

/-- What a compiled document keeps of the operations it was compiled from. -/
structure Apart (cs : List Compilation) (compiled : Compiled) : Prop where
  /-- display names are texts, and a request is that of its operation -/
  leads : ∀ c ∈ cs, c.1.displayName.IsText
    ∧ c.2.2.method = c.1.method ∧ c.2.2.path = c.1.path.text
  /-- tools have one name exactly if their operations have one label -/
  name_eq_iff : ∀ c ∈ cs, ∀ d ∈ cs, c.2.1.name = d.2.1.name ↔ c.1.label = d.1.label
  /-- an operation that none with its label follows stays, with its own request … -/
  stays : ∀ before c after, cs = before ++ c :: after → (∀ d ∈ after, d.1.label ≠ c.1.label) →
    c.2.1 ∈ compiled.tools ∧ Table.get? c.2.1.name compiled.requests = some c.2.2
  /-- … and nothing else does -/
  only : ∀ t ∈ compiled.tools, ∃ before c after, cs = before ++ c :: after
    ∧ (∀ d ∈ after, d.1.label ≠ c.1.label) ∧ c.2.1 = t

theorem leads_of_compile {ctx : Context} {o : Operation} {p : Tool × Request}
    (h : o.compile ctx = .ok p) :
    o.displayName.IsText ∧ p.2.method = o.method ∧ p.2.path = o.path.text := by
  obtain ⟨_, _, _, _, built⟩ := Operation.exists_built_of_compile h
  obtain ⟨text, _⟩ := name_of_displayName built.name_eq
  rw [built.request_eq]
  exact ⟨text, rfl, rfl⟩

theorem apart_of_compile {ctx : Context} {cs : List Compilation} (integrationName : Value)
    (h : ∀ c ∈ cs, c.1.compile ctx = .ok c.2) :
    Apart cs (Compiled.ofPairs integrationName (cs.map (·.2))) := by
  have names : ∀ c ∈ cs, ∀ d ∈ cs, c.2.1.name = d.2.1.name ↔ c.1.label = d.1.label := by
    intro c hc d hd
    exact name_eq_iff_of_compile (h c hc) (h d hd)
  -- the last pair of a name belongs to the last operation of a label
  have last_pairs : lastBy pairName (cs.map (·.2))
      = (lastBy (fun c => pairName c.2) cs).map (·.2) := lastBy_map pairName (·.2) cs
  constructor
  case leads => exact fun c hc => leads_of_compile (h c hc)
  case name_eq_iff => exact names
  case stays =>
    rintro before c after rfl last
    have fresh : pairName c.2 ∉ after.map fun d => pairName d.2 := by
      intro mem
      obtain ⟨d, hd, same⟩ := List.mem_map.mp mem
      have later : d ∈ before ++ c :: after := by simp [hd]
      have this : c ∈ before ++ c :: after := by simp
      exact last d hd ((names d later c this).mp same)
    have kept : c.2 ∈ lastBy pairName ((before ++ c :: after).map (·.2)) := by
      rw [last_pairs]
      exact List.mem_map_of_mem (mem_lastBy_of_split fresh before)
    exact Operation.kept_of_mem_lastBy kept
  case only =>
    intro t mem
    rw [Compiled.tools_ofPairs, last_pairs] at mem
    obtain ⟨p, hp, rfl⟩ := List.mem_map.mp mem
    obtain ⟨c, hc, rfl⟩ := List.mem_map.mp hp
    obtain ⟨before, after, rfl, last⟩ := exists_split_of_mem_lastBy hc
    refine ⟨before, c, after, rfl, ?_, rfl⟩
    intro d hd same
    have later : d ∈ before ++ c :: after := by simp [hd]
    have this : c ∈ before ++ c :: after := by simp
    exact last (List.mem_map.mpr ⟨d, hd, (names d later c this).mpr same⟩)

/-- The first two operations have different summaries and one label. -/
def listingDocument : Value :=
  .object [("paths", .object [
    ("/a", .object [("get", .object [("summary", .str "List users")])]),
    ("/b", .object [("get", .object [("summary", .str "list_users")])]),
    ("/c", .object [("get", .object [("summary", .str "Get user")])])])]

theorem displayNames_listing :
    (Operation.ofDocument listingDocument).map (·.displayName)
      = [.str "List users", .str "list_users", .str "Get user"] :=
  rfl

theorem exists_pairs_listing :
    ∃ ps, pairs listingDocument (.str "shop") .null = .ok ps
      ∧ ps.map pairName = ["SHOP_LIST_USERS", "SHOP_LIST_USERS", "SHOP_GET_USER"] := by
  have names : ((pairs listingDocument (.str "shop") .null).map (List.map pairName)).toOption
      = some ["SHOP_LIST_USERS", "SHOP_LIST_USERS", "SHOP_GET_USER"] := by
    decide +kernel
  cases listed : pairs listingDocument (.str "shop") .null with
  | error e =>
      rw [listed] at names
      exact absurd names (by simp)
  | ok ps =>
      rw [listed] at names
      exact ⟨ps, rfl, Option.some.inj names⟩

end ApiTools
