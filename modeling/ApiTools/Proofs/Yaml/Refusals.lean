/-
  ApiTools.Proofs.Yaml.Refusals
  ─────────────────────────────
  **WHY A YAML TEXT IS REFUSED.**

  A text that is not called malformed is refused for one of three causes: an
  escape asks for a character that does not exist, a scalar says that it is a
  number, a truth value or a time and is none (`Scalar.Unfit`), or an alias
  stands inside the node that it names (`Refused`, `refused_of_read`).

  The causes in the nodes are collected twice: merging moves entries from one
  mapping to others and leaves the scalars as they are (`carries_ofNode`), and
  making a value gives the problems of its parts and no refusals of its own
  (`make_bears`).
-/
import ApiTools.Yaml.Reader
import ApiTools.Proofs.Yaml.Keyed
import ApiTools.Proofs.Yaml.Parsing

namespace ApiTools.Yaml

/-! ## §1. Scalars. -/

namespace Scalar

/-- **Scalars that are refused**: their tag says number, truth value or time, and their text is
none. -/
inductive Unfit (text : String) : Tag → Fault → Prop
  | emptyInt (none : ∀ c ∈ text.toList, c = '_' ∨ c = '+' ∨ c = '-') : Unfit text .int .emptyText
  | emptyFloat (none : Text.lower (withoutBars text.toList) = []) : Unfit text .float .emptyText
  | int {base : Nat} {part : List Char} (none : Number.readInt base part = .error .notANumber) :
      Unfit text .int (.refused (.notAnInteger base (String.ofList part)))
  | longInt {n : Nat} (long : Number.digitLimit < n) :
      Unfit text .int (.refused (.tooManyDigits n))
  | float {part : List Char} (none : Number.readDouble? part = none) :
      Unfit text .float (.refused (.notADecimal (String.ofList part)))
  | bool (other : Text.toLower text ∉ ["yes", "true", "on", "no", "false", "off"]) :
      Unfit text .bool (.missingKey (.str (Text.toLower text)))
  | calendar {t : Timestamp} {p : CalendarProblem}
      (form : Timestamp.read? (Tag.withoutFinalBreak text.toList) = some t)
      (missing : t.value = .error p) : Unfit text .timestamp (.refused (.calendar p))
  | timestamp (none : Timestamp.read? (Tag.withoutFinalBreak text.toList) = none) :
      Unfit text .timestamp (.noFeature "NoneType" "groupdict")

/-- Why a text is no whole number. -/
inductive NoWhole : Fault → Prop
  | other {base : Nat} {part : List Char} (none : Number.readInt base part = .error .notANumber) :
      NoWhole (.refused (.notAnInteger base (String.ofList part)))
  | long {n : Nat} (long : Number.digitLimit < n) : NoWhole (.refused (.tooManyDigits n))

theorem noWhole_of_whole {base : Nat} {cs : List Char} {f : Fault}
    (h : Number.whole base cs = .error f) : NoWhole f := by
  unfold Number.whole at h
  split at h
  next => exact absurd h (by simp)
  next none =>
    injection h with h
    rw [← h]
    exact .other none
  next n failed =>
    injection h with h
    rw [← h]
    refine .long ?_
    unfold Number.readInt at failed
    dsimp only at failed
    split at failed
    next => exact absurd failed (by simp)
    next ds _ =>
      split at failed
      next long =>
        injection failed with failed
        injection failed with failed
        rw [← failed]
        exact long.2
      next => exact absurd failed (by simp)

/-- Parts that do not all give a number: one of them is none. -/
theorem exists_of_mapM_eq_error {α β : Type} {g : α → Except Fault β} {xs : List α} {f : Fault}
    (h : xs.mapM g = .error f) : ∃ x ∈ xs, g x = .error f := by
  induction xs with
  | nil => exact absurd h (by simp [List.mapM_nil, pure, Except.pure])
  | cons x xs ih =>
      rw [List.mapM_cons] at h
      cases first : g x with
      | error e =>
          rw [first, error_bind] at h
          injection h with h
          exact ⟨x, List.mem_cons_self, by rw [first, h]⟩
      | ok y =>
          rw [first, ok_bind] at h
          cases others : xs.mapM g with
          | error e =>
              rw [others, error_bind] at h
              obtain ⟨x', mem, failed⟩ := ih (others.trans h)
              exact ⟨x', List.mem_cons_of_mem x mem, failed⟩
          | ok ys =>
              rw [others, ok_bind] at h
              exact absurd h (by simp [pure, Except.pure])

theorem noWhole_of_wholeBody {body : List Char} {f : Fault} (some_body : body ≠ [])
    (h : wholeBody .v11 body = .error f) : NoWhole f := by
  unfold wholeBody at h
  split at h
  next => exact absurd rfl some_body
  next => exact absurd h (by simp)
  next => exact noWhole_of_whole h
  next => exact noWhole_of_whole h
  next => exact noWhole_of_whole h
  next =>
    split at h
    next =>
      obtain ⟨part, -, failed⟩ := exists_of_mapM_eq_error (map_eq_error.mp h)
      exact noWhole_of_whole failed
    next => exact noWhole_of_whole h

theorem unfit_of_int {text : String} {f : Fault} (h : int .v11 text = .error f) :
    Unfit text .int f := by
  -- underscores do not count
  have signs : ∀ {cs}, withoutBars text.toList = cs → (∀ c ∈ cs, c = '+' ∨ c = '-') →
      ∀ c ∈ text.toList, c = '_' ∨ c = '+' ∨ c = '-' := by
    rintro cs rfl only c mem
    by_cases bar : c = '_'
    · exact Or.inl bar
    · exact Or.inr (only c (List.mem_filter.mpr ⟨mem, by simpa using bar⟩))
  unfold int at h
  dsimp only at h
  split at h
  next empty =>
    injection h with h
    rw [← h]
    refine .emptyInt (signs (List.isEmpty_iff.mp empty) ?_)
    exact fun _ mem => absurd mem List.not_mem_nil
  next =>
    have failed := map_eq_error.mp h
    by_cases none : (Number.splitSign (withoutBars text.toList)).2 = []
    case pos =>
      rw [none] at failed
      injection failed with failed
      rw [← failed]
      refine .emptyInt (signs rfl ?_)
      unfold Number.splitSign at none
      split at none
      next rest same => simp [same, show rest = [] from none]
      next rest same => simp [same, show rest = [] from none]
      next => simp [show withoutBars text.toList = [] from none]
    case neg =>
      cases noWhole_of_wholeBody none failed with
      | other none => exact .int none
      | long long => exact .longInt long

theorem unfit_of_float {text : String} {f : Fault} (h : float .v11 text = .error f) :
    Unfit text .float f := by
  have noDecimal : ∀ {cs}, Number.decimal cs = .error f → Unfit text .float f := by
    intro cs failed
    unfold Number.decimal at failed
    split at failed
    next => exact absurd failed (by simp)
    next none =>
      injection failed with failed
      rw [← failed]
      exact .float none
  unfold float at h
  dsimp only at h
  split at h
  next empty =>
    injection h with h
    rw [← h]
    exact .emptyFloat (List.isEmpty_iff.mp empty)
  next =>
    have failed := map_eq_error.mp h
    unfold decimalBody at failed
    split at failed
    next => exact absurd failed (by simp)
    next => exact absurd failed (by simp)
    next =>
      split at failed
      next =>
        obtain ⟨part, -, failed⟩ := exists_of_mapM_eq_error (map_eq_error.mp failed)
        exact noDecimal failed
      next => exact noDecimal failed

theorem unfit_of_bool {text : String} {f : Fault} (h : bool text = .error f) :
    Unfit text .bool f := by
  unfold bool at h
  dsimp only at h
  split at h
  next => exact absurd h (by simp)
  next not_true =>
    split at h
    next => exact absurd h (by simp)
    next not_false =>
      injection h with h
      rw [← h]
      rw [List.contains_iff_mem] at not_true not_false
      refine .bool fun mem => ?_
      have either : Text.toLower text ∈ ["yes", "true", "on"] ++ ["no", "false", "off"] := mem
      exact (List.mem_append.mp either).elim not_true not_false

theorem unfit_of_timestamp {text : String} {f : Fault}
    (h : timestamp .v11 text = .error (.refused f)) : Unfit text .timestamp f := by
  unfold timestamp at h
  split at h
  next t form =>
    split at h
    next => exact absurd h (by simp)
    next p missing =>
      injection h with h
      injection h with h
      rw [← h]
      exact .calendar form missing
  next form =>
    injection h with h
    injection h with h
    rw [← h]
    exact .timestamp form

/-- The change of an answer that is a fault. -/
theorem refusing_map_eq_error {α : Type} {x : Except Fault α} {g : α → Value} {f : Fault}
    (h : (refusing x).map g = .error (.refused f)) : x = .error f := by
  cases x with
  | ok a => exact absurd h (by simp [refusing, Except.map])
  | error e =>
      injection h with h
      injection h with h
      rw [h]

/-- **A scalar is refused only if its text is not what its tag says.** -/
theorem unfit_of_value {tag : Tag} {text : String} {f : Fault}
    (h : value .v11 tag text = .error (.refused f)) : Unfit text tag f := by
  cases tag with
  | bool => exact unfit_of_bool (refusing_map_eq_error h)
  | int => exact unfit_of_int (refusing_map_eq_error h)
  | float => exact unfit_of_float (refusing_map_eq_error h)
  | timestamp => exact unfit_of_timestamp h
  | binary =>
      simp only [value, binary] at h
      split at h
      next => exact absurd h (by simp)
      next => split at h <;> exact absurd h (by simp)
  | _ => exact absurd h (by simp [value])

end Scalar

/-! ## §2. Nodes. -/

namespace Node

/-- **The parts of a node**, itself among them. -/
inductive Part : Node → Node → Prop
  | self (n : Node) : Part n n
  | item {n m : Node} {tag : Tag} {items : List Node} (mem : m ∈ items) (part : Part n m) :
      Part n (.sequence tag items)
  | key {n : Node} {p : Option Nat} {tag : Tag} {entries : List (Node × Node)} {e : Node × Node}
      (mem : e ∈ entries) (part : Part n e.1) : Part n (.mapping (p := p) tag entries)
  | value {n : Node} {p : Option Nat} {tag : Tag} {entries : List (Node × Node)} {e : Node × Node}
      (mem : e ∈ entries) (part : Part n e.2) : Part n (.mapping (p := p) tag entries)

/-- **Why a node is refused**: a scalar in it is not what its tag says, a mapping that stands for a
scalar holds one that is not what the tag of the mapping says, or an alias stands inside the node
that it names. -/
inductive Cause (n : Node) : Fault → Prop
  | scalar {tag : Tag} {text : String} {f : Fault} (part : Part (.scalar tag text) n)
      (unfit : Scalar.Unfit text tag f) : Cause n f
  | standIn {p : Option Nat} {tag own : Tag} {text : String} {entries : List (Node × Node)}
      {k : Node} {f : Fault} (part : Part (.mapping (p := p) tag entries) n)
      (mem : (k, .scalar own text) ∈ entries) (unfit : Scalar.Unfit text tag f) : Cause n f
  | loop (part : Part .loop n) : Cause n .endless

end Node

/-! ## §3. Merging. -/

namespace Merged

/-- A node without merge keys whose refusals are among the given faults. -/
inductive Carries (faults : Fault → Prop) : Merged → Prop
  | scalar {tag : Tag} {text : String} (unfit : ∀ f, Scalar.Unfit text tag f → faults f) :
      Carries faults (.scalar tag text)
  | sequence {tag : Tag} {items : List Merged} (all : ∀ m ∈ items, Carries faults m) :
      Carries faults (.sequence tag items)
  | mapping {p : Option Nat} {tag : Tag} {taken own : List (Merged × Merged)}
      (keys : ∀ e ∈ taken ++ own, Carries faults e.1)
      (values : ∀ e ∈ taken ++ own, Carries faults e.2)
      (standIn : ∀ k t text, (k, .scalar t text) ∈ own → ∀ f, Scalar.Unfit text tag f → faults f) :
      Carries faults (.mapping (p := p) tag taken own)
  | unmergeable : Carries faults .unmergeable
  | loop (endless : faults .endless) : Carries faults .loop

/-- Entries of which each key and each value carries no other refusals. -/
def CarryAll (faults : Fault → Prop) (es : List (Merged × Merged)) : Prop :=
  ∀ e ∈ es, Carries faults e.1 ∧ Carries faults e.2

variable {faults : Fault → Prop}

/-- No text is unfit for a text. -/
theorem not_unfit_str {text : String} {f : Fault} : ¬ Scalar.Unfit text .str f := nofun

theorem Carries.withTag_str {m : Merged} (h : Carries faults m) :
    Carries faults (m.withTag .str) := by
  cases h with
  | scalar unfit => exact .scalar fun f unfit => absurd unfit not_unfit_str
  | sequence all => exact .sequence all
  | mapping keys values standIn =>
      exact .mapping keys values fun _ _ _ _ f unfit => absurd unfit not_unfit_str
  | unmergeable => exact .unmergeable
  | loop endless => exact .loop endless

theorem carryAll_of_entries? {m : Merged} {es : List (Merged × Merged)} (h : Carries faults m)
    (entries : m.entries? = some es) : CarryAll faults es := by
  cases h with
  | mapping keys values standIn =>
      injection entries with entries
      rw [← entries]
      exact fun e mem => ⟨keys e mem, values e mem⟩
  | _ => exact absurd entries (by simp [entries?])

/-- The answers of a traversal are answers for what is traversed. -/
theorem exists_of_mem_mapM {α β : Type} {g : α → Option β} {xs : List α} {ys : List β} {y : β}
    (h : xs.mapM g = some ys) (mem : y ∈ ys) : ∃ x ∈ xs, g x = some y := by
  induction xs generalizing ys with
  | nil =>
      injection h with h
      rw [← h] at mem
      exact absurd mem List.not_mem_nil
  | cons x xs ih =>
      simp only [List.mapM_cons, Option.bind_eq_bind, Option.bind_eq_some_iff, Option.pure_def,
        Option.some.injEq] at h
      obtain ⟨first, found, others, rest, rfl⟩ := h
      rcases List.mem_cons.mp mem with rfl | later
      · exact ⟨x, List.mem_cons_self, found⟩
      · obtain ⟨x', mem', found'⟩ := ih rest later
        exact ⟨x', List.mem_cons_of_mem x mem', found'⟩

theorem carryAll_of_offered? {m : Merged} {es : List (Merged × Merged)} (h : Carries faults m)
    (offered : m.offered? = some es) : CarryAll faults es := by
  cases h with
  | mapping keys values standIn =>
      injection offered with offered
      rw [← offered]
      exact fun e mem => ⟨keys e mem, values e mem⟩
  | @sequence tag items all =>
      simp only [offered?, Option.map_eq_some_iff] at offered
      obtain ⟨parts, found, rfl⟩ := offered
      intro e mem
      obtain ⟨part, mem_part, mem⟩ := List.mem_flatten.mp mem
      obtain ⟨m, mem_item, entries⟩ := exists_of_mem_mapM found (List.mem_reverse.mp mem_part)
      exact carryAll_of_entries? (all m mem_item) entries e mem
  | _ => exact absurd offered (by simp [offered?])

/-- What the entries of a mapping come to when merge keys are carried out: the entries that are
taken over and its own, of which the values are those that were there. -/
theorem carryAll_of_split {es : List (Merged × Merged)} {s : Split} (h : CarryAll faults es)
    (done : split es = some s) :
    CarryAll faults s.taken ∧ CarryAll faults s.own ∧ ∀ e ∈ s.own, ∃ k, (k, e.2) ∈ es := by
  induction es generalizing s with
  | nil =>
      injection done with done
      rw [← done]
      exact ⟨nofun, nofun, nofun⟩
  | cons e es ih =>
      obtain ⟨k, v⟩ := e
      obtain ⟨first, rest⟩ := List.forall_mem_cons.mp h
      simp only [split, Option.bind_eq_bind, Option.bind_eq_some_iff] at done
      obtain ⟨others, found, done⟩ := done
      obtain ⟨taken, own, values⟩ := ih rest found
      split at done
      next =>
        simp only [Option.bind_eq_some_iff, Option.some.injEq] at done
        obtain ⟨offered, offers, rfl⟩ := done
        refine ⟨List.forall_mem_append.mpr ⟨carryAll_of_offered? first.2 offers, taken⟩, own, ?_⟩
        intro e mem
        obtain ⟨k', mem'⟩ := values e mem
        exact ⟨k', List.mem_cons_of_mem _ mem'⟩
      next =>
        injection done with done
        rw [← done]
        refine ⟨taken, List.forall_mem_cons.mpr ⟨⟨?_, first.2⟩, own⟩, ?_⟩
        · split
          · exact first.1.withTag_str
          · exact first.1
        · intro e mem
          rcases List.mem_cons.mp mem with rfl | later
          · exact ⟨k, List.mem_cons_self⟩
          · obtain ⟨k', mem'⟩ := values e later
            exact ⟨k', List.mem_cons_of_mem _ mem'⟩

theorem carries_ofEntries {p : Option Nat} {tag : Tag} {es : List (Merged × Merged)}
    (h : CarryAll faults es)
    (standIn : ∀ k t text, (k, .scalar t text) ∈ es → ∀ f, Scalar.Unfit text tag f → faults f) :
    Carries faults (ofEntries p tag es) := by
  unfold ofEntries
  split
  · split
    next s done =>
      obtain ⟨taken, own, values⟩ := carryAll_of_split h done
      refine .mapping (fun e mem => ?_) (fun e mem => ?_) ?_
      · exact (List.mem_append.mp mem).elim (fun mem => (taken e mem).1) fun mem => (own e mem).1
      · exact (List.mem_append.mp mem).elim (fun mem => (taken e mem).2) fun mem => (own e mem).2
      · -- a mapping stands for one of its own values, never for one that has been taken over
        intro k t text mem
        obtain ⟨k', mem'⟩ := values _ mem
        exact standIn k' t text mem'
    next => exact .unmergeable
  · exact .mapping (fun e mem => (h e mem).1) (fun e mem => (h e mem).2) standIn

/-- A merged node is a scalar only if the node is one. -/
theorem eq_scalar_of_ofNode {n : Node} {tag : Tag} {text : String}
    (h : ofNode n = .scalar tag text) : n = .scalar tag text := by
  cases n with
  | scalar t s =>
      injection h with tag_eq text_eq
      rw [tag_eq, text_eq]
  | sequence t items => exact absurd h (by simp [ofNode])
  | mapping t entries =>
      rw [ofNode, ofEntries] at h
      split at h
      · split at h <;> exact absurd h (by simp)
      · exact absurd h (by simp)
  | loop => exact absurd h (by simp [ofNode])

theorem mem_ofMembers {es : List (Node × Node)} {e : Merged × Merged} (h : e ∈ ofMembers es) :
    ∃ k v, (k, v) ∈ es ∧ e = (ofNode k, ofNode v) := by
  induction es with
  | nil =>
      rw [ofMembers] at h
      exact absurd h List.not_mem_nil
  | cons first es ih =>
      obtain ⟨k, v⟩ := first
      rw [ofMembers] at h
      rcases List.mem_cons.mp h with rfl | later
      · exact ⟨k, v, List.mem_cons_self, rfl⟩
      · obtain ⟨k', v', mem, same⟩ := ih later
        exact ⟨k', v', List.mem_cons_of_mem _ mem, same⟩

/-- The scalars that a mapping may stand for are among its values. -/
theorem exists_of_mem_ofMembers {es : List (Node × Node)} {k : Merged} {t : Tag} {text : String}
    (h : (k, .scalar t text) ∈ ofMembers es) : ∃ k', (k', Node.scalar t text) ∈ es := by
  obtain ⟨k', v, mem, same⟩ := mem_ofMembers h
  have value_eq := eq_scalar_of_ofNode (Prod.mk.inj same).2.symm
  rw [value_eq] at mem
  exact ⟨k', mem⟩

mutual

/-- **Merging leaves the causes as they are.** -/
theorem carries_ofNode {root : Node} : ∀ n : Node, (∀ m, Node.Part m n → Node.Part m root) →
    Carries root.Cause (ofNode n)
  | .scalar tag text, parts => by
      rw [ofNode]
      exact .scalar fun f unfit => .scalar (parts _ (.self _)) unfit
  | .sequence tag items, parts => by
      rw [ofNode]
      refine .sequence ?_
      split
      · exact carries_ofPairs items fun i mem m part => parts m (.item mem part)
      · exact carries_ofItems items fun i mem m part => parts m (.item mem part)
  | .mapping tag entries, parts => by
      rw [ofNode]
      refine carries_ofEntries (carries_ofMembers entries
        (fun e mem m part => parts m (.key mem part))
        (fun e mem m part => parts m (.value mem part))) ?_
      intro k t text mem f unfit
      obtain ⟨k', mem'⟩ := exists_of_mem_ofMembers mem
      exact .standIn (parts _ (.self _)) mem' unfit
  | .loop, parts => by
      rw [ofNode]
      exact .loop (.loop (parts _ (.self _)))

theorem carries_ofItems {root : Node} : ∀ ns : List Node,
    (∀ i ∈ ns, ∀ m, Node.Part m i → Node.Part m root) →
      ∀ m ∈ ofItems ns, Carries root.Cause m
  | [], _ => by
      rw [ofItems]
      exact nofun
  | n :: ns, parts => by
      rw [ofItems]
      exact List.forall_mem_cons.mpr ⟨carries_ofNode n (parts n List.mem_cons_self),
        carries_ofItems ns fun i mem => parts i (List.mem_cons_of_mem n mem)⟩

theorem carries_ofPairs {root : Node} : ∀ ns : List Node,
    (∀ i ∈ ns, ∀ m, Node.Part m i → Node.Part m root) →
      ∀ m ∈ ofPairs ns, Carries root.Cause m
  | [], _ => by
      rw [ofPairs]
      exact nofun
  | n :: ns, parts => by
      have others := carries_ofPairs ns fun i mem => parts i (List.mem_cons_of_mem n mem)
      have here := parts n List.mem_cons_self
      cases n with
      | mapping tag entries =>
          rw [ofPairs]
          have members := carries_ofMembers entries
            (fun e mem m part => here m (.key mem part))
            (fun e mem m part => here m (.value mem part))
          refine List.forall_mem_cons.mpr ⟨.mapping ?_ ?_ ?_, others⟩
          · exact fun e mem => (members e mem).1
          · exact fun e mem => (members e mem).2
          · intro k t text mem f unfit
            obtain ⟨k', mem'⟩ := exists_of_mem_ofMembers mem
            exact .standIn (here _ (.self _)) mem' unfit
      | _ =>
          rw [ofPairs]
          · exact List.forall_mem_cons.mpr ⟨carries_ofNode _ here, others⟩
          · simp

theorem carries_ofMembers {root : Node} : ∀ es : List (Node × Node),
    (∀ e ∈ es, ∀ m, Node.Part m e.1 → Node.Part m root) →
    (∀ e ∈ es, ∀ m, Node.Part m e.2 → Node.Part m root) → CarryAll root.Cause (ofMembers es)
  | [], _, _ => by
      rw [ofMembers]
      exact nofun
  | (k, v) :: es, keys, values => by
      rw [ofMembers]
      exact List.forall_mem_cons.mpr
        ⟨⟨carries_ofNode k (keys (k, v) List.mem_cons_self),
          carries_ofNode v (values (k, v) List.mem_cons_self)⟩,
        carries_ofMembers es (fun e mem => keys e (List.mem_cons_of_mem _ mem))
          fun e mem => values e (List.mem_cons_of_mem _ mem)⟩

end

end Merged

/-! ## §4. Making values. -/

namespace Made

/-- All refusals among problems are among the given faults. -/
def Bears (faults : Fault → Prop) (ps : List (Option Problem)) : Prop :=
  ∀ f, some (.refused f) ∈ ps → faults f

variable {faults : Fault → Prop}

theorem bears_nil : Bears faults [] := fun _ mem => absurd mem List.not_mem_nil

/-- Of two problems on one level the first one stays, and none comes in. -/
theorem bears_both {ps qs : List (Option Problem)} (hp : Bears faults ps) (hq : Bears faults qs) :
    Bears faults (both ps qs) := by
  fun_induction both ps qs with
  | case1 qs => exact hq
  | case2 ps => exact hp
  | case3 p ps q qs ih =>
      have others := ih (fun f mem => hp f (List.mem_cons_of_mem p mem))
        fun f mem => hq f (List.mem_cons_of_mem q mem)
      intro f mem
      rcases List.mem_cons.mp mem with first | later
      · cases p with
        | none => exact hq f (List.mem_cons.mpr (Or.inl first))
        | some p => exact hp f (List.mem_cons.mpr (Or.inl first))
      · exact others f later

theorem bears_foldl_both {pss : List (List (Option Problem))} {ps : List (Option Problem)}
    (start : Bears faults ps) (h : ∀ qs ∈ pss, Bears faults qs) :
    Bears faults (pss.foldl both ps) := by
  induction pss generalizing ps with
  | nil => exact start
  | cons qs pss ih =>
      rw [List.forall_mem_cons] at h
      exact ih (bears_both start h.1) h.2

theorem bears_all {ms : List Made} (h : ∀ m ∈ ms, Bears faults m.problems) :
    Bears faults (all ms) := by
  refine bears_foldl_both bears_nil fun qs mem => ?_
  obtain ⟨m, hm, rfl⟩ := List.mem_map.mp mem
  exact h m hm

theorem bears_deeper {ps : List (Option Problem)} (h : Bears faults ps) :
    Bears faults (deeper ps) := by
  unfold deeper
  split
  · exact bears_nil
  · intro f mem
    exact h f ((List.mem_cons.mp mem).resolve_left (by simp))

theorem bears_failed_malformed : Bears faults (failed .malformed).problems := by
  intro f mem
  exact absurd mem (by simp [failed])

theorem bears_failedLater (v : Value) : Bears faults (failedLater v).problems := by
  intro f mem
  exact absurd mem (by simp [failedLater])

theorem mem_of_firstProblem? {ps : List (Option Problem)} {p : Problem}
    (h : firstProblem? ps = some p) : some p ∈ ps := by
  induction ps with
  | nil => exact absurd h (by simp [firstProblem?, List.firstM, failure, Alternative.failure])
  | cons q ps ih =>
      cases q with
      | none => exact List.mem_cons_of_mem _ (ih h)
      | some q =>
          have same : some q = some p := h
          rw [same]
          exact List.mem_cons_self

end Made

open Made (Bears)

variable {faults : Fault → Prop} {tag : Tag}

theorem bears_scalar {text : String} (unfit : ∀ f, Scalar.Unfit text tag f → faults f) :
    Bears faults (Made.ofExcept (Scalar.value .v11 tag text)).problems := by
  intro f mem
  cases read : Scalar.value .v11 tag text with
  | ok v =>
      rw [read] at mem
      exact absurd mem List.not_mem_nil
  | error p =>
      rw [read] at mem
      injection List.mem_singleton.mp mem with same
      rw [← same] at read
      exact unfit f (Scalar.unfit_of_value read)

/-- A value that is no tuple. -/
def Untupled (v : Value) : Prop := ∀ vs, v ≠ .tuple vs

/-- A pair of made values with no other refusals, of which the key is no tuple. -/
structure BearEntry (faults : Fault → Prop) (e : Made × Made) : Prop where
  key : Bears faults e.1.problems
  value : Bears faults e.2.problems
  untupled : Untupled e.1.value

theorem bears_entryProblems {k v : Made} (h : BearEntry faults (k, v)) :
    Bears faults (entryProblems k v) := by
  unfold entryProblems
  split
  · exact Made.bears_both h.key h.value
  · -- only a tuple that is no key would bring a refusal of its own
    split
    next same => exact absurd same (h.untupled _)
    next =>
      refine Made.bears_both (Made.bears_both h.key ?_) h.value
      exact fun f mem => absurd mem (by simp)

theorem bears_madeEntries {taken own : List (Made × Made)}
    (h : ∀ e ∈ taken ++ own, BearEntry faults e) :
    Bears faults (madeEntries .v11 taken own).2 := by
  refine Made.bears_both (Made.bears_foldl_both Made.bears_nil fun qs mem => ?_) Made.bears_nil
  obtain ⟨e, he, rfl⟩ := List.mem_map.mp mem
  obtain ⟨e', he', rfl⟩ := List.mem_map.mp he
  exact bears_entryProblems (h e' he')

theorem bears_madeMapping {p : Option Nat} {taken own : List (Made × Made)}
    (h : ∀ e ∈ taken ++ own, BearEntry faults e) :
    Bears faults (madeMapping .v11 p tag taken own).problems := by
  have entries := bears_madeEntries h
  unfold madeMapping
  dsimp only
  split
  · exact Made.bears_deeper entries
  · exact Made.bears_deeper entries
  · exact Made.bears_failedLater _
  · exact Made.bears_failedLater _
  · exact Made.bears_failedLater _
  · exact Made.bears_failed_malformed

theorem bears_madePair {taken own : List (Made × Made)}
    (h : ∀ e ∈ taken ++ own, BearEntry faults e) :
    Bears faults (madePair taken own).problems := by
  unfold madePair
  split
  next k v only =>
    have entry := h (k, v) (by rw [only]; exact List.mem_cons_self)
    exact Made.bears_both entry.key entry.value
  next => exact Made.bears_failed_malformed

theorem bears_madeSequence {items pairs : List Made} (hi : ∀ m ∈ items, Bears faults m.problems)
    (hp : ∀ m ∈ pairs, Bears faults m.problems) :
    Bears faults (madeSequence tag items pairs).problems := by
  unfold madeSequence
  split
  · exact Made.bears_deeper (Made.bears_all hi)
  · exact Made.bears_deeper (Made.bears_all hp)
  · exact Made.bears_deeper (Made.bears_all hp)
  · exact Made.bears_failedLater _
  · exact Made.bears_failedLater _
  · exact Made.bears_failed_malformed

theorem bears_standIn? {es : List (Merged × Merged)} {m : Made}
    (standIn : ∀ k t text, (k, .scalar t text) ∈ es → ∀ f, Scalar.Unfit text tag f → faults f)
    (h : standIn? .v11 tag es = some m) : Bears faults m.problems := by
  fun_induction standIn? .v11 tag es with
  | case1 => exact absurd h (by simp)
  | case2 k t text rest _ =>
      injection h with h
      rw [← h]
      exact bears_scalar (standIn k t text List.mem_cons_self)
  | case3 _ _ _ _ _ ih =>
      exact ih (fun k t text mem => standIn k t text (List.mem_cons_of_mem _ mem)) h
  | case4 _ _ _ ih =>
      exact ih (fun k t text mem => standIn k t text (List.mem_cons_of_mem _ mem)) h

theorem untupled_scalar (tag : Tag) (text : String) :
    Untupled (Made.ofExcept (Scalar.value .v11 tag text)).value := by
  intro vs same
  cases read : Scalar.value .v11 tag text with
  | ok v =>
      rw [read] at same
      have atom := isAtom_of_value read
      rw [show v = .tuple vs from same] at atom
      exact absurd atom (by simp [Value.isAtom])
  | error p =>
      rw [read] at same
      exact absurd same (by simp [Made.ofExcept, Made.failed])

theorem untupled_madeSequence (tag : Tag) (items pairs : List Made) :
    Untupled (madeSequence tag items pairs).value := by
  unfold madeSequence
  split
  all_goals
    intro vs same
    cases same

theorem untupled_madeMapping (p : Option Nat) (tag : Tag) (taken own : List (Made × Made)) :
    Untupled (madeMapping .v11 p tag taken own).value := by
  unfold madeMapping
  dsimp only
  split
  all_goals
    intro vs same
    cases same

theorem untupled_standIn? {es : List (Merged × Merged)} {m : Made}
    (h : standIn? .v11 tag es = some m) : Untupled m.value := by
  fun_induction standIn? .v11 tag es with
  | case1 => exact absurd h (by simp)
  | case2 =>
      injection h with h
      rw [← h]
      exact untupled_scalar _ _
  | case3 _ _ _ _ _ ih => exact ih h
  | case4 _ _ _ ih => exact ih h

/-- Only pairs are tuples, and a pair is no node of its own. -/
theorem untupled_make (n : Merged) : Untupled (make .v11 n).value := by
  cases n with
  | scalar tag text =>
      unfold make
      split
      case h_6 => exact untupled_scalar tag text
      all_goals
        intro vs same
        cases same
  | sequence tag items =>
      rw [make]
      exact untupled_madeSequence _ _ _
  | mapping tag taken own =>
      unfold make
      split
      · exact untupled_madeMapping _ _ _ _
      next stands => exact untupled_standIn? stands
      · exact untupled_madeMapping _ _ _ _
  | unmergeable =>
      rw [make]
      intro vs same
      cases same
  | loop =>
      rw [make]
      intro vs same
      cases same

mutual

/-- **Making a value refuses what its node carries, and nothing else.** -/
theorem make_bears : ∀ n : Merged, n.Carries faults → Bears faults (make .v11 n).problems
  | .scalar tag text, .scalar unfit => by
      unfold make
      split
      case h_6 => exact bears_scalar unfit
      all_goals exact Made.bears_failedLater _
  | .sequence tag items, .sequence all => by
      rw [make]
      exact bears_madeSequence (makeItems_bears items all) (makePairs_bears items all)
  | .mapping tag taken own, .mapping keys values standIn => by
      have entries := List.forall_mem_append.mpr
        ⟨makeMembers_bears taken
          (fun e mem => keys e (List.mem_append_left own mem))
          (fun e mem => values e (List.mem_append_left own mem)),
        makeMembers_bears own
          (fun e mem => keys e (List.mem_append_right taken mem))
          (fun e mem => values e (List.mem_append_right taken mem))⟩
      unfold make
      split
      · exact bears_madeMapping entries
      next stands => exact bears_standIn? standIn stands
      · exact bears_madeMapping entries
  | .unmergeable, _ => by
      rw [make]
      exact Made.bears_failedLater _
  | .loop, .loop endless => by
      rw [make]
      intro f mem
      injection List.mem_singleton.mp mem with same
      injection same with same
      rw [same]
      exact endless

theorem makeItems_bears : ∀ ns : List Merged, (∀ n ∈ ns, n.Carries faults) →
    ∀ m ∈ makeItems .v11 ns, Bears faults m.problems
  | [], _ => by
      rw [makeItems]
      exact nofun
  | n :: ns, carry => by
      rw [makeItems]
      exact List.forall_mem_cons.mpr ⟨make_bears n (carry n List.mem_cons_self),
        makeItems_bears ns fun m mem => carry m (List.mem_cons_of_mem n mem)⟩

theorem makePairs_bears : ∀ ns : List Merged, (∀ n ∈ ns, n.Carries faults) →
    ∀ m ∈ makePairs .v11 ns, Bears faults m.problems
  | [], _ => by
      rw [makePairs]
      exact nofun
  | n :: ns, carry => by
      have others := makePairs_bears ns fun m mem => carry m (List.mem_cons_of_mem n mem)
      have here := carry n List.mem_cons_self
      cases n with
      | mapping tag taken own =>
          cases here with
          | mapping keys values standIn =>
              rw [makePairs]
              refine List.forall_mem_cons.mpr ⟨bears_madePair (List.forall_mem_append.mpr
                ⟨makeMembers_bears taken
                  (fun e mem => keys e (List.mem_append_left own mem))
                  (fun e mem => values e (List.mem_append_left own mem)),
                makeMembers_bears own
                  (fun e mem => keys e (List.mem_append_right taken mem))
                  (fun e mem => values e (List.mem_append_right taken mem))⟩), others⟩
      | _ =>
          rw [makePairs]
          · exact List.forall_mem_cons.mpr ⟨Made.bears_failed_malformed, others⟩
          · simp

theorem makeMembers_bears : ∀ es : List (Merged × Merged), (∀ e ∈ es, e.1.Carries faults) →
    (∀ e ∈ es, e.2.Carries faults) → ∀ e ∈ makeMembers .v11 es, BearEntry faults e
  | [], _, _ => by
      rw [makeMembers]
      exact nofun
  | (k, v) :: es, keys, values => by
      rw [makeMembers]
      exact List.forall_mem_cons.mpr
        ⟨⟨make_bears k (keys (k, v) List.mem_cons_self),
          make_bears v (values (k, v) List.mem_cons_self), untupled_make k⟩,
        makeMembers_bears es (fun e mem => keys e (List.mem_cons_of_mem _ mem))
          fun e mem => values e (List.mem_cons_of_mem _ mem)⟩

end

/-! ## §5. Texts. -/

/-- **Why a text is refused**: it asks for a character that does not exist, or its document holds a
cause. -/
inductive Refused (text : String) : Fault → Prop
  | beyond {f : Fault} (asks : Beyond text.toList f) : Refused text f
  | document {n : Node} {f : Fault}
      (found : Node.ofTokens .v11 (Lexer.tokens text.toList) = .ok (some n))
      (cause : n.Cause f) : Refused text f

/-- **A text that is not malformed is refused for a cause.** -/
theorem refused_of_read {text : String} {f : Fault}
    (h : read .v11 text = .error (.refused f)) : Refused text f := by
  unfold read at h
  dsimp only at h
  split at h
  next => exact absurd h (by simp)
  next =>
    split at h
    next p failed =>
      injection h with h
      rw [h] at failed
      exact .beyond (Lexer.beyond_of_broken (Node.broken_of_ofTokens failed))
    next => exact absurd h (by simp)
    next n found =>
      unfold Node.value at h
      dsimp only at h
      split at h
      next p first =>
        injection h with h
        rw [h] at first
        exact .document found (make_bears _ (Merged.carries_ofNode n fun _ part => part) f
          (Made.mem_of_firstProblem? first))
      next => exact absurd h (by simp)

end ApiTools.Yaml
