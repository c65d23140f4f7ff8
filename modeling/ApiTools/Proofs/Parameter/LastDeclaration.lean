/-
  ApiTools.Proofs.Parameter.LastDeclaration
  ─────────────────────────────────────────
  **THE LAST DECLARATION OF EACH NAME AND LOCATION.**

  Merging goes through the declarations of a path and then through those of
  one operation.  What comes of it can be told from the two lists at once.  A
  declaration is accepted if it has a name and one of the four locations; of
  the accepted ones with one name and location the last is kept, and it stands
  where the first of them stood (`LastDeclared.in_turn`).  So an operation's
  declaration takes the place of its path's, and another location has a
  declaration of its own.  A declaration with a name that is not accepted is
  reported, each one once, and nothing else is reported of locations.

  The list of what is kept changes in two ways only, at its end and in one of
  its places.  The first ones of the accepted declarations do the same
  (`eraseDupsBy_concat`), so the two go side by side, and what is kept is
  related to the first ones one by one (`forall₂_keep`).
-/
import ApiTools.Proofs.Lists
import ApiTools.Proofs.Parameter.Undeclared

namespace ApiTools.Parameter

/-! ## §1. Declarations. -/

/-- A declaration is a mapping: its number, if it has one, and its entries. -/
structure Declaration where
  number : Option Nat
  entries : Entries

namespace Declaration

def value (d : Declaration) : Value := .mapping (p := d.number) d.entries

def name (d : Declaration) : Value := declaredName d.entries

def location (d : Declaration) : Value := declaredLocation d.entries

end Declaration

/-- Does a declaration have a name, and a location that a parameter can have? -/
def isAccepted (d : Declaration) : Bool := d.name.truthy && isSupported d.location

/-- Does a declaration have a name without being accepted? -/
def isRefused (d : Declaration) : Bool := d.name.truthy && !isAccepted d

/-- The accepted ones of declarations. -/
def accepted (ds : List Declaration) : List Declaration := ds.filter isAccepted

/-- Do two declarations state one name and one location? -/
def sameParameter (a b : Declaration) : Bool :=
  a.name.sameKey b.name && a.location.sameKey b.location

/-- A declaration and the key under which it is kept. -/
def Kept.ofDeclaration (d : Declaration) : Kept := ⟨d.name, d.location, d.value⟩

/-- What is kept, as a declaration. -/
def Kept.held (k : Kept) : Declaration :=
  match k.declaration with
  | .mapping (p := p) es => ⟨p, es⟩
  | _ => ⟨none, []⟩

variable {a b c d : Declaration} {ds : List Declaration}

theorem sameParameter_symm (h : sameParameter a b = true) : sameParameter b a = true :=
  Kept.sameAs_symm (a := .ofDeclaration a) (b := .ofDeclaration b) h

theorem sameParameter_trans (hab : sameParameter a b = true) (hbc : sameParameter b c = true) :
    sameParameter a c = true := by
  unfold sameParameter at hab hbc ⊢
  rw [Bool.and_eq_true] at hab hbc ⊢
  exact ⟨Value.sameKey_trans hab.1 hbc.1, Value.sameKey_trans hab.2 hbc.2⟩

theorem exists_location_of_isAccepted (h : isAccepted a = true) :
    ∃ l ∈ locations, a.location = .str l :=
  isSupported_eq_true_iff.mp (Bool.and_eq_true_iff.mp h).2

theorem sameParameter_iff (h : isAccepted a = true) :
    sameParameter a b = true
      ↔ a.name.sameKey b.name = true
        ∧ a.location = b.location :=
  Kept.sameAs_iff (a := .ofDeclaration a) (b := .ofDeclaration b) (exists_location_of_isAccepted h)

/-- An accepted declaration is found again under its own name and location. -/
theorem sameParameter_self (h : isAccepted a = true) (keyed : a.name.hashable = true) :
    sameParameter a a = true :=
  (sameParameter_iff h).mpr ⟨Value.sameKey_self keyed, rfl⟩

/-! ## §2. The last declaration. -/

/-- The last one of declarations that states the name and location of a given one. -/
structure IsLast (ds : List Declaration) (d last : Declaration) : Prop where
  same : sameParameter last d = true
  unfollowed : ∃ before after, ds = before ++ last :: after
    ∧ ∀ e ∈ after, sameParameter e d = false

namespace IsLast

variable {x last : Declaration}

/-- A newer declaration of the name and location is the last one … -/
theorem concat_same (h : sameParameter x d = true) : IsLast (ds ++ [x]) d x where
  same := h
  unfollowed := ⟨ds, [], rfl, fun _ mem => absurd mem List.not_mem_nil⟩

/-- … and any other one does not matter. -/
theorem concat_other (h : IsLast ds d last) (other : sameParameter x d = false) :
    IsLast (ds ++ [x]) d last where
  same := h.same
  unfollowed := by
    obtain ⟨before, after, rfl, unfollowed⟩ := h.unfollowed
    refine ⟨before, after ++ [x], by rw [List.append_assoc, List.cons_append], ?_⟩
    exact List.forall_mem_append.mpr ⟨unfollowed, List.forall_mem_singleton.mpr other⟩

/-- Only the name and location that are asked for count. -/
theorem congr (h : IsLast ds d last) (same : sameParameter d c = true) : IsLast ds c last where
  same := sameParameter_trans h.same same
  unfollowed := by
    obtain ⟨before, after, split, unfollowed⟩ := h.unfollowed
    refine ⟨before, after, split, fun e mem => ?_⟩
    rw [← Bool.not_eq_true]
    intro same'
    have found := sameParameter_trans same' (sameParameter_symm same)
    rw [unfollowed e mem] at found
    exact Bool.false_ne_true found

theorem mem (h : IsLast ds d last) : last ∈ ds := by
  obtain ⟨before, after, rfl, _⟩ := h.unfollowed
  exact List.mem_append_right _ List.mem_cons_self

/-- If one of the later declarations states the name and location, then so does the last one of
them. -/
theorem of_append {xs ys : List Declaration} (h : IsLast (xs ++ ys) d last) {y : Declaration}
    (mem : y ∈ ys) (same : sameParameter y d = true) : IsLast ys d last where
  same := h.same
  unfollowed := by
    obtain ⟨before, after, split, unfollowed⟩ := h.unfollowed
    rcases List.append_eq_append_iff.mp split with ⟨rest, rfl, rfl⟩ | ⟨rest, rfl, tail⟩
    · exact ⟨rest, after, rfl, unfollowed⟩
    · -- the last one would stand among `xs` and `y` behind it
      cases rest with
      | nil => exact ⟨[], after, tail.symm, unfollowed⟩
      | cons z rest =>
          obtain ⟨rfl, rfl⟩ := List.cons.inj tail
          have found := unfollowed y (List.mem_append_right _ mem)
          rw [same] at found
          exact absurd found (by simp)

/-- There is one last declaration. -/
theorem unique {last' : Declaration} (h : IsLast ds d last) (h' : IsLast ds d last') :
    last' = last := by
  obtain ⟨before, after, rfl, unfollowed⟩ := h.unfollowed
  have from_there : IsLast (last :: after) d last' := h'.of_append List.mem_cons_self h.same
  obtain ⟨between, after', split, _⟩ := from_there.unfollowed
  cases between with
  | nil => exact (List.cons.inj split).1.symm
  | cons z between =>
      -- it would stand behind the last one
      obtain ⟨rfl, rfl⟩ := List.cons.inj split
      have found := unfollowed last' (List.mem_append_right _ List.mem_cons_self)
      rw [h'.same] at found
      exact absurd found (by simp)

end IsLast

/-! ## §3. What is kept. -/

/-- What is kept stands for the first declaration of a name and location, and holds the last. -/
structure Stands (ds : List Declaration) (first : Declaration) (k : Kept) : Prop where
  name_eq : k.name = first.name
  location_eq : k.location = first.location
  declaration_eq : k.declaration = k.held.value
  is_last : IsLast ds first k.held

namespace Stands

variable {first : Declaration} {k : Kept}

theorem sameAs_eq (h : Stands ds first k) (d : Declaration) :
    (Kept.ofDeclaration d).sameAs k = sameParameter d first := by
  unfold Kept.sameAs sameParameter
  rw [h.name_eq, h.location_eq]
  rfl

/-- A declaration of another name or location does not touch what is kept. -/
theorem concat_other (h : Stands ds first k) (other : sameParameter d first = false) :
    Stands (ds ++ [d]) first k where
  name_eq := h.name_eq
  location_eq := h.location_eq
  declaration_eq := h.declaration_eq
  is_last := h.is_last.concat_other other

/-- A newer declaration is held in the place of the older one. -/
theorem concat_same (h : Stands ds first k) (same : sameParameter d first = true) :
    Stands (ds ++ [d]) first { k with declaration := d.value } where
  name_eq := h.name_eq
  location_eq := h.location_eq
  declaration_eq := rfl
  is_last := IsLast.concat_same same

/-- A declaration of a new name or location is the first and the last one. -/
theorem concat_new (self : sameParameter d d = true) : Stands (ds ++ [d]) d (.ofDeclaration d) where
  name_eq := rfl
  location_eq := rfl
  declaration_eq := rfl
  is_last := IsLast.concat_same self

end Stands

/-- **Keeping one more declaration** does to what is kept what the declaration does to the first
ones. -/
theorem forall₂_keep {firsts : List Declaration} {kept : List Kept}
    (h : List.Forall₂ (Stands ds) firsts kept)
    (apart : firsts.Pairwise fun a b => sameParameter b a = false)
    (self : sameParameter d d = true) :
    List.Forall₂ (Stands (ds ++ [d]))
      (if firsts.any (sameParameter d) then firsts else firsts ++ [d])
      (keep (.ofDeclaration d) kept) := by
  induction h with
  | nil => exact .cons (Stands.concat_new self) .nil
  | @cons first k firsts kept stands rest ih =>
      obtain ⟨others, apart⟩ := List.pairwise_cons.mp apart
      rw [keep, stands.sameAs_eq, List.any_cons]
      cases same : sameParameter d first with
      | true =>
          refine .cons (stands.concat_same same) ?_
          -- the other first ones are unlike this one, so they are unlike the newcomer
          have unlike : ∀ f ∈ firsts, sameParameter d f = false := by
            intro f hf
            rw [← Bool.not_eq_true]
            intro alike
            have both := sameParameter_trans (sameParameter_symm alike) same
            rw [others f hf] at both
            exact Bool.false_ne_true both
          have with_unlike := (List.forall₂_and_left _ _).mpr ⟨unlike, rest⟩
          exact with_unlike.imp fun f k both => both.2.concat_other both.1
      | false =>
          have later := ih apart
          rw [Bool.false_or]
          cases found : firsts.any (sameParameter d) with
          | true =>
              rw [found] at later
              exact .cons (stands.concat_other same) later
          | false =>
              rw [found] at later
              exact .cons (stands.concat_other same) later

/-- Keeps declarations, one after the other. -/
def keepAll (kept : List Kept) (ds : List Declaration) : List Kept :=
  ds.foldl (fun kept d => keep (.ofDeclaration d) kept) kept

/-- **What is kept in the end** stands for the first declarations, in their order. -/
theorem forall₂_keepAll (self : ∀ d ∈ ds, sameParameter d d = true) :
    List.Forall₂ (Stands ds) (ds.eraseDupsBy sameParameter) (keepAll [] ds) := by
  induction ds using List.reverseRecOn with
  | nil => exact .nil
  | append_singleton ds d ih =>
      rw [List.forall_mem_append, List.forall_mem_singleton] at self
      rw [eraseDupsBy_concat, keepAll, List.foldl_concat]
      exact forall₂_keep (ih self.1) (pairwise_eraseDupsBy ds) self.2

/-- The declarations that are kept in the end are the last ones. -/
theorem forall₂_isLast (self : ∀ d ∈ ds, sameParameter d d = true) :
    List.Forall₂ (IsLast ds) (ds.eraseDupsBy sameParameter)
      ((keepAll [] ds).map (·.held)) := by
  rw [List.forall₂_map_right_iff]
  exact (forall₂_keepAll self).imp fun _ _ stands => stands.is_last

/-! ## §4. Considering declarations. -/

/-- The report on a declaration that is refused. -/
def refusal (method path : String) (d : Declaration) : Notice :=
  .locationSkipped d.name (Text.toUpper method) path d.location

variable {method path : String} {kept : List Kept}

/-- A declaration whose name can be a key is kept, reported or passed over. -/
theorem consider_mapping (keyed : d.name.hashable = true) :
    consider method path kept d.value
      = ⟨([d].filter isRefused).map (refusal method path),
          .ok (keepAll kept (accepted [d]))⟩ := by
  have name : d.value.field "name" = .ok d.name := rfl
  have location : locationOf d.value = .ok d.location := rfl
  unfold consider
  rw [name, location, Reported.ofExcept_ok_bind, Reported.ofExcept_ok_bind, keyed]
  unfold accepted isRefused
  rw [List.filter_singleton, List.filter_singleton]
  unfold isAccepted
  cases d.name.truthy with
  | false => rfl
  | true =>
      cases isSupported d.location with
      | false => rfl
      | true => rfl

/-- **Considering declarations** keeps the accepted ones and reports the refused ones. -/
theorem considerAll_mappings (keyed : ∀ d ∈ ds, d.name.hashable = true) :
    considerAll method path kept (ds.map (·.value))
      = ⟨(ds.filter isRefused).map (refusal method path), .ok (keepAll kept (accepted ds))⟩ := by
  induction ds generalizing kept with
  | nil => rfl
  | cons d ds ih =>
      obtain ⟨first, others⟩ := List.forall_mem_cons.mp keyed
      have refused : (d :: ds).filter isRefused = [d].filter isRefused ++ ds.filter isRefused :=
        List.filter_append [d] ds
      have kept_on : accepted (d :: ds) = accepted [d] ++ accepted ds := List.filter_append [d] ds
      rw [List.map_cons, considerAll, consider_mapping first, Reported.ok_bind, ih others, refused,
        kept_on, List.map_append]
      unfold keepAll
      rw [List.foldl_append]

/-! ## §5. Merging. -/

/-- What merging the declarations of a path and of an operation should leave. -/
structure LastDeclared (common own result : List Declaration) : Prop where
  /-- in the order of the first accepted declarations of each name and location, the last ones -/
  in_turn : List.Forall₂ (IsLast (accepted (common ++ own)))
    ((accepted (common ++ own)).eraseDupsBy sameParameter) result
  /-- each name and location once -/
  once : result.Pairwise fun a b => sameParameter b a = false
  /-- exactly the accepted declarations that are the last of their own name and location -/
  mem_iff : ∀ d, d ∈ result ↔ IsLast (accepted (common ++ own)) d d
  /-- what the operation declares takes the place of what its path does -/
  overrides : ∀ o ∈ accepted own, ∃ d ∈ result, IsLast (accepted own) o d
  /-- a name keeps a declaration at each location where one was accepted -/
  apart : ∀ a ∈ accepted (common ++ own), ∃ d ∈ result,
    d.name.sameKey a.name = true ∧ d.location = a.location

/-- Nothing else can be left: each place has one last declaration. -/
theorem LastDeclared.unique {common own result result' : List Declaration}
    (h : LastDeclared common own result) (h' : LastDeclared common own result') :
    result' = result := by
  have one_last : Relator.RightUnique (IsLast (accepted (common ++ own))) :=
    fun _ _ _ is_last is_last' => is_last'.unique is_last
  exact one_last.forall₂ h'.in_turn h.in_turn

/-- What is left of declarations, related to the first ones, one by one. -/
theorem lastDeclared_of_forall₂ {common own result : List Declaration}
    (self : ∀ d ∈ accepted (common ++ own), sameParameter d d = true)
    (h : List.Forall₂ (IsLast (accepted (common ++ own)))
      ((accepted (common ++ own)).eraseDupsBy sameParameter) result) :
    LastDeclared common own result := by
  have exists_last : ∀ a ∈ accepted (common ++ own), ∃ d ∈ result,
      IsLast (accepted (common ++ own)) a d := by
    intro a ha
    obtain ⟨first, hf, same⟩ := exists_mem_eraseDupsBy ha (self a ha)
    obtain ⟨d, hd, is_last⟩ := exists_of_mem_left h hf
    exact ⟨d, hd, is_last.congr (sameParameter_symm same)⟩
  constructor
  case in_turn => exact h
  case once =>
    refine pairwise_of_counterparts h (pairwise_eraseDupsBy _) ?_
    intro first first' d d' is_last is_last' unlike
    rw [← Bool.not_eq_true] at unlike ⊢
    intro alike
    -- if the last ones were alike, the first ones would be
    exact unlike (sameParameter_trans (sameParameter_symm is_last'.same)
      (sameParameter_trans alike is_last.same))
  case mem_iff =>
    intro d
    constructor
    · intro hd
      obtain ⟨first, _, is_last⟩ := exists_of_mem_right h hd
      exact is_last.congr (sameParameter_symm is_last.same)
    · intro is_last
      obtain ⟨e, he, is_last'⟩ := exists_last d is_last.mem
      exact is_last'.unique is_last ▸ he
  case overrides =>
    intro o ho
    have both : accepted (common ++ own) = accepted common ++ accepted own := List.filter_append ..
    have mem : o ∈ accepted (common ++ own) := both ▸ List.mem_append_right _ ho
    obtain ⟨d, hd, is_last⟩ := exists_last o mem
    rw [both] at is_last
    exact ⟨d, hd, is_last.of_append ho (self o mem)⟩
  case apart =>
    intro a ha
    obtain ⟨d, hd, is_last⟩ := exists_last a ha
    have accepted_d := (List.mem_filter.mp is_last.mem).2
    exact ⟨d, hd, (sameParameter_iff accepted_d).mp is_last.same⟩

/-- **MERGING KEEPS THE LAST DECLARATION OF EACH NAME AND LOCATION**, in the order of the first
ones, and reports each declaration with a name that it does not accept. -/
theorem lastDeclared_of_merge {common own : List Declaration} (method template : String)
    (keyed : ∀ d ∈ common ++ own, d.name.hashable = true) :
    ∃ result undeclared,
      merge (.list (common.map (·.value))) (.list (own.map (·.value))) method (.str template)
          = ⟨((common ++ own).filter isRefused).map (refusal method template)
              ++ undeclaredNotice method template undeclared,
            .ok (result.map (·.value))⟩
        ∧ LastDeclared common own result := by
  have self : ∀ d ∈ accepted (common ++ own), sameParameter d d = true := by
    intro d hd
    obtain ⟨mem, is_accepted⟩ := List.mem_filter.mp hd
    exact sameParameter_self is_accepted (keyed d mem)
  have considered : considerAll method template [] (common.map (·.value) ++ own.map (·.value))
      = ⟨((common ++ own).filter isRefused).map (refusal method template),
          .ok (keepAll [] (accepted (common ++ own)))⟩ := by
    rw [← List.map_append, considerAll_mappings keyed]
  have listed : ∀ ds : List Declaration,
      (Value.list (ds.map (·.value))).elements = .ok (ds.map (·.value)) := fun _ => rfl
  have read : (Value.str template).template = .ok template := rfl
  have merged := merge_eq (listed common) (listed own) read
    (congrArg Reported.outcome considered)
  rw [considered] at merged
  have declarations : (keepAll [] (accepted (common ++ own))).map (·.declaration)
      = ((keepAll [] (accepted (common ++ own))).map (·.held)).map (·.value) := by
    rw [List.map_map]
    refine List.map_congr_left fun k hk => ?_
    obtain ⟨_, _, stands⟩ := exists_of_mem_right (forall₂_keepAll self) hk
    exact stands.declaration_eq
  rw [declarations] at merged
  exact ⟨_, _, merged, lastDeclared_of_forall₂ self (forall₂_isLast self)⟩

/-! ## §6. A path and its operation. -/

/-- A path declares `id`, and `limit` for the query. -/
def ticketDeclarations : List Declaration :=
  [⟨none, [(.str "name", .str "id"), (.str "in", .str "path")]⟩,
    ⟨none, [(.str "name", .str "limit")]⟩]

/-- One of its operations declares `limit` for the query and for a header, something without a
name, and `to` for a location that there is not. -/
def movingDeclarations : List Declaration :=
  [⟨none, [(.str "name", .str "limit"), (.str "in", .str "header")]⟩,
    ⟨none, [(.str "in", .str "query")]⟩,
    ⟨none, [(.str "name", .str "to"), (.str "in", .str "body")]⟩,
    ⟨some 7, [(.str "name", .str "limit"), (.str "in", .str "query"), (.str "required", .bool true)]⟩]

/-- The `limit` of the query is the operation's, in the place of the path's. -/
def mergedDeclarations : List Declaration :=
  [⟨none, [(.str "name", .str "id"), (.str "in", .str "path")]⟩,
    ⟨some 7, [(.str "name", .str "limit"), (.str "in", .str "query"), (.str "required", .bool true)]⟩,
    ⟨none, [(.str "name", .str "limit"), (.str "in", .str "header")]⟩]

theorem lastDeclared_of_merge_tickets :
    (∀ d ∈ ticketDeclarations ++ movingDeclarations, d.name.hashable = true)
      ∧ ∃ undeclared,
        merge (.list (ticketDeclarations.map (·.value))) (.list (movingDeclarations.map (·.value)))
            "put" (.str "/tickets")
            = ⟨[.locationSkipped (.str "to") "PUT" "/tickets" (.str "body")]
                ++ undeclaredNotice "put" "/tickets" undeclared,
              .ok (mergedDeclarations.map (·.value))⟩
          ∧ LastDeclared ticketDeclarations movingDeclarations mergedDeclarations := by
  have keyed : ∀ d ∈ ticketDeclarations ++ movingDeclarations, d.name.hashable = true := by
    decide
  obtain ⟨result, undeclared, merged, last⟩ := lastDeclared_of_merge "put" "/tickets" keyed
  have self : ∀ d ∈ accepted (ticketDeclarations ++ movingDeclarations),
      sameParameter d d = true := by
    decide
  have expected : LastDeclared ticketDeclarations movingDeclarations mergedDeclarations :=
    lastDeclared_of_forall₂ self (forall₂_isLast self)
  obtain rfl := expected.unique last
  exact ⟨keyed, undeclared, merged, last⟩

end ApiTools.Parameter
