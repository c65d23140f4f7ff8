/-
  ApiTools.Proofs.Tool.ServerUrl
  ──────────────────────────────
  **THE VARIABLES OF A SERVER'S URL.**

  The variables of a server are filled in one after the other, each in the
  text that the ones before have left (`FilledInTurn`).  To fill them in all
  at once is another thing, and is described apart from any order (`Filled`):
  at every token of a declared variable stands its default, everything else
  stands as in the URL, and no default is looked at again.  If names have no
  braces, this is at most one text (`Filled.unique`), and every token is
  filled in wherever it stands (`Filled.append_token`).

  The two agree as long as no default makes a new token (`Settled`): then the
  tokens that one replacement meets are those of the URL (`Filled.replace`),
  so that in turn is all at once (`FilledInTurn.filled`) and the order does
  not matter.  URLs in which every opening brace starts a declared token are
  of that kind if no default has an opening brace (`settled_of_closed`).

  Main result: `baseUrl_in_turn`.  `baseUrl_of_chained` shows a default that
  is the token of another variable: it is replaced in turn, or not, by the
  order in which the two are declared.
-/
import Mathlib.Data.List.Nodup
import ApiTools.Tool.Server
import ApiTools.Proofs.Path.Occurrence
import ApiTools.Proofs.Text.Replacing

namespace ApiTools.Server

open Template (tokenText tokenText_append)
open Text (occurrences replaceFrom)

/-! ## §1. Variables and their tokens. -/

/-- A variable of a server: its name and its default as text. -/
structure Variable where
  name : String
  text : String

/-- The variable's name between braces. -/
def Variable.token (v : Variable) : List Char := tokenText v.name.toList

/-- The name has no braces. -/
def Variable.Plain (v : Variable) : Prop := '{' ∉ v.name.toList ∧ '}' ∉ v.name.toList

/-- The variable that an entry declares; it is empty if it has no default. -/
def variableOf (e : Value × Value) : Variable :=
  ⟨e.1.text, ((e.2.get? "default").getD (.str "")).text⟩

def declarations (es : Entries) : List Variable := es.map variableOf

variable {v w : Variable} {declared done : List Variable} {url out rest : List Char}

theorem Variable.token_append (v : Variable) (rest : List Char) :
    v.token ++ rest = '{' :: ((v.name.toList ++ ['}']) ++ rest) := by
  rw [token, tokenText_append, List.append_assoc]
  rfl

theorem Variable.Plain.no_brace (h : v.Plain) : '{' ∉ v.name.toList ++ ['}'] := by
  rw [List.mem_append, not_or]
  exact ⟨h.1, by decide⟩

/-- Tokens at one place are of one name. -/
theorem Variable.Plain.name_eq (hv : v.Plain) (hw : w.Plain) {rest rest' : List Char}
    (same : v.token ++ rest = w.token ++ rest') : v.name = w.name := by
  have upTo : ∀ u : Variable, u.Plain → ∀ cs : List Char,
      (u.name.toList ++ '}' :: cs).takeWhile (· != '}') = u.name.toList := by
    intro u hu cs
    rw [Template.takeWhile_append_stop (by simp), List.takeWhile_eq_self_iff]
    intro c hc
    rw [bne_iff_ne]
    rintro rfl
    exact hu.2 hc
  unfold token at same
  rw [tokenText_append, tokenText_append] at same
  injection same with _ same
  rw [← String.toList_inj, ← upTo v hv rest, same, upTo w hw]

theorem prefix_of_append_stop {stop : Char} {part cs : List Char} (h : stop ∉ part)
    (starts : part <+: cs ++ stop :: rest) : part <+: cs := by
  induction part generalizing cs with
  | nil => exact List.nil_prefix
  | cons d part ih =>
      rw [List.mem_cons, not_or] at h
      cases cs with
      | nil => exact absurd (List.cons_prefix_cons.mp starts).1.symm h.1
      | cons c cs =>
          obtain ⟨same, starts⟩ := List.cons_prefix_cons.mp starts
          exact List.cons_prefix_cons.mpr ⟨same, ih h.2 starts⟩

/-- A token does not reach over an opening brace. -/
theorem Variable.Plain.prefix_of_append_brace (h : v.Plain) {c : Char} {cs : List Char}
    (starts : v.token <+: c :: (cs ++ '{' :: rest)) : v.token <+: c :: cs := by
  have token : v.token = '{' :: (v.name.toList ++ ['}']) := rfl
  rw [token] at starts ⊢
  obtain ⟨same, starts⟩ := List.cons_prefix_cons.mp starts
  exact List.cons_prefix_cons.mpr ⟨same, prefix_of_append_stop h.no_brace starts⟩

/-- A text without opening braces adds no token. -/
theorem Variable.occurrences_append {cs : List Char} (h : '{' ∉ cs) (v : Variable)
    (rest : List Char) : occurrences v.token (cs ++ rest) = occurrences v.token rest :=
  Text.occurrences_append_of_not_mem h _ rest

/-- Nor does the token of a variable with another name. -/
theorem Variable.Plain.occurrences_token (hv : v.Plain) (hw : w.Plain) (other : w.name ≠ v.name)
    (rest : List Char) : occurrences v.token (w.token ++ rest) = occurrences v.token rest := by
  have missed : ¬ v.token <+: w.token ++ rest := by
    rintro ⟨rest', same⟩
    exact other (hv.name_eq hw same).symm
  rw [w.token_append] at missed ⊢
  rw [Text.occurrences_cons_of_not_prefix missed, v.occurrences_append hw.no_brace]

/-! ## §2. Replacing all at once. -/

/-- A text with the default of a declared variable at every token, cut from left to right, and
everything else as it is. -/
inductive Filled (declared : List Variable) : List Char → List Char → Prop
  | nil : Filled declared [] []
  | token {v : Variable} {rest out : List Char} (mem : v ∈ declared)
      (behind : Filled declared rest out) : Filled declared (v.token ++ rest) (v.text.toList ++ out)
  | other {c : Char} {rest out : List Char} (none : ∀ v ∈ declared, ¬ v.token <+: c :: rest)
      (behind : Filled declared rest out) : Filled declared (c :: rest) (c :: out)

/-- What is filled in at the start of a text. -/
theorem Filled.cons_cases {c : Char} (h : Filled declared (c :: rest) out) :
    (∃ v ∈ declared, ∃ rest' out', c :: rest = v.token ++ rest' ∧ out = v.text.toList ++ out'
        ∧ Filled declared rest' out')
      ∨ (∀ v ∈ declared, ¬ v.token <+: c :: rest)
        ∧ ∃ out', out = c :: out' ∧ Filled declared rest out' := by
  generalize whole : c :: rest = url at h
  cases h with
  | nil => exact absurd whole (by simp)
  | token mem behind => exact Or.inl ⟨_, mem, _, _, rfl, rfl, behind⟩
  | other none behind =>
      injection whole with first others
      subst first
      subst others
      exact Or.inr ⟨none, _, rfl, behind⟩

theorem Filled.nil_cases (h : Filled declared [] out) : out = [] := by
  generalize whole : ([] : List Char) = url at h
  cases h with
  | nil => rfl
  | token mem behind => exact absurd whole (by simp [Variable.token_append])
  | other none behind => exact absurd whole (by simp)

/-- Text without opening braces stays. -/
theorem filled_append_iff {cs : List Char} (h : '{' ∉ cs) :
    Filled declared (cs ++ rest) out ↔ ∃ out', out = cs ++ out' ∧ Filled declared rest out' := by
  induction cs generalizing out with
  | nil => simp
  | cons c cs ih =>
      rw [List.mem_cons, not_or] at h
      have no_token : ∀ v : Variable, ¬ v.token <+: c :: (cs ++ rest) := by
        intro v starts
        exact h.1 (List.cons_prefix_cons.mp starts).1
      constructor
      · intro filled
        rcases filled.cons_cases with ⟨v, _, rest', _, whole, _⟩ | ⟨_, out', rfl, behind⟩
        · exact absurd ⟨rest', whole.symm⟩ (no_token v)
        · obtain ⟨out'', rfl, filled'⟩ := (ih h.2).mp behind
          exact ⟨out'', rfl, filled'⟩
      · rintro ⟨out', rfl, behind⟩
        exact .other (fun v _ => no_token v) ((ih h.2).mpr ⟨out', rfl, behind⟩)

/-- Only which variables are declared counts. -/
theorem Filled.congr (h : Filled declared url out) (same : ∀ v, v ∈ declared ↔ v ∈ done) :
    Filled done url out := by
  induction h with
  | nil => exact .nil
  | token mem _ ih => exact .token ((same _).mp mem) ih
  | other none _ ih => exact .other (fun v mem => none v ((same v).mpr mem)) ih

/-- Without variables a text stays. -/
theorem filled_of_none (url : List Char) : Filled [] url url := by
  induction url with
  | nil => exact .nil
  | cons c cs ih => exact .other (fun v mem => absurd mem List.not_mem_nil) ih

/-- **At most one text is filled in**, if the declared names are distinct and have no braces. -/
theorem Filled.unique (plain : ∀ v ∈ declared, v.Plain) (names : (declared.map (·.name)).Nodup)
    (h : Filled declared url out) {other : List Char} (h' : Filled declared url other) :
    out = other := by
  induction h generalizing other with
  | nil => exact h'.nil_cases.symm
  | token mem behind ih =>
      rename_i v rest out
      have starts : v.token <+: v.token ++ rest := List.prefix_append _ _
      rw [v.token_append] at h' starts
      rcases h'.cons_cases with ⟨w, hw, rest', out', whole, rfl, behind'⟩ | ⟨none, _⟩
      · rw [← v.token_append] at whole
        have same : v = w :=
          List.inj_on_of_nodup_map names mem hw ((plain v mem).name_eq (plain w hw) whole)
        subst same
        rw [← List.append_cancel_left whole] at behind'
        rw [ih behind']
      · exact absurd starts (none v mem)
  | other none behind ih =>
      rcases h'.cons_cases with ⟨w, hw, rest', _, whole, _⟩ | ⟨_, out', rfl, behind'⟩
      · exact absurd ⟨rest', whole.symm⟩ (none w hw)
      · rw [ih behind']

/-- No token reaches over an opening brace, so the text in front of one is filled in on its own. -/
theorem Filled.append_brace (plain : ∀ v ∈ declared, v.Plain) {before out' : List Char}
    (h : Filled declared before out) (behind : Filled declared ('{' :: rest) out') :
    Filled declared (before ++ '{' :: rest) (out ++ out') := by
  induction h with
  | nil => exact behind
  | token mem _ ih =>
      rw [List.append_assoc, List.append_assoc]
      exact .token mem ih
  | other none _ ih =>
      exact .other (fun v mem starts => none v mem ((plain v mem).prefix_of_append_brace starts)) ih

/-- **Every token of a declared variable is filled in, wherever it stands.** -/
theorem Filled.append_token (plain : ∀ v ∈ declared, v.Plain) (mem : v ∈ declared)
    {before out' : List Char} (h : Filled declared before out)
    (behind : Filled declared rest out') :
    Filled declared (before ++ (v.token ++ rest)) (out ++ (v.text.toList ++ out')) := by
  have first := Filled.token mem behind
  rw [v.token_append] at first ⊢
  exact h.append_brace plain first

/-! ## §3. Replacing one more. -/

section Step

variable (plain : v.Plain) (plain_done : ∀ w ∈ done, w.Plain) (new : ∀ w ∈ done, w.name ≠ v.name)

include plain plain_done new

/-- The token of a variable that has not been filled in is still there. -/
theorem Filled.token_cases (h : Filled done (v.token ++ rest) out) :
    ∃ out', out = v.token ++ out' ∧ Filled done rest out' := by
  rw [v.token_append] at h
  rcases h.cons_cases with ⟨w, hw, rest', _, whole, _⟩ | ⟨_, out', rfl, behind⟩
  · rw [← v.token_append] at whole
    exact absurd (plain.name_eq (plain_done w hw) whole).symm (new w hw)
  · obtain ⟨out'', rfl, behind'⟩ := (filled_append_iff plain.no_brace).mp behind
    exact ⟨out'', (v.token_append out'').symm, behind'⟩

theorem Filled.occurrences_le (h : Filled done url out) :
    occurrences v.token url ≤ occurrences v.token out := by
  induction h with
  | nil => exact Nat.le_refl _
  | token mem behind ih =>
      rw [plain.occurrences_token (plain_done _ mem) (new _ mem)]
      exact Nat.le_trans ih (Text.occurrences_le_append _ _ _)
  | other none behind ih =>
      rename_i c rest out
      by_cases starts : v.token <+: c :: rest
      · obtain ⟨rest', whole⟩ := starts
        have filled : Filled done (v.token ++ rest') (c :: out) := whole ▸ .other none behind
        obtain ⟨out', same, _⟩ := filled.token_cases plain plain_done new
        rw [Text.occurrences_cons_of_prefix ⟨rest', whole⟩,
          Text.occurrences_cons_of_prefix ⟨out', same.symm⟩]
        exact Nat.add_le_add_left ih 1
      · rw [Text.occurrences_cons_of_not_prefix starts]
        exact Nat.le_trans ih (Text.occurrences_le_cons _ _ _)

/-- **Replacing one variable more fills it in**, if what has been filled in made no new token
of it. -/
theorem Filled.replace (h : Filled done url out)
    (no_more : occurrences v.token out ≤ occurrences v.token url) :
    Filled (v :: done) url (replaceFrom v.token v.text.toList 0 out) := by
  induction h with
  | nil => exact .nil
  | token mem behind ih =>
      rename_i w rest out
      have still := behind.occurrences_le plain plain_done new
      have added := Text.occurrences_le_append v.token w.text.toList out
      rw [plain.occurrences_token (plain_done _ mem) (new _ mem)] at no_more
      -- the counts leave no room for a token that starts in the default
      rw [Text.replaceFrom_append_of_free (by omega)]
      exact .token (List.mem_cons_of_mem v mem) (ih (by omega))
  | other none behind ih =>
      rename_i c rest out
      by_cases starts : v.token <+: c :: rest
      · obtain ⟨rest', whole⟩ := starts
        have filled : Filled done (v.token ++ rest') (c :: out) := whole ▸ .other none behind
        obtain ⟨out', same, _⟩ := filled.token_cases plain plain_done new
        rw [Text.occurrences_cons_of_prefix ⟨rest', whole⟩,
          Text.occurrences_cons_of_prefix ⟨out', same.symm⟩] at no_more
        have behind' := ih (by omega)
        rw [v.token_append] at whole same
        injection whole with first others
        injection same with _ same
        subst first
        subst others
        subst same
        -- behind the opening brace the token has none, and is left as it is
        have free := v.occurrences_append plain.no_brace out'
        rw [Text.replaceFrom_append_of_free free] at behind'
        obtain ⟨out'', same, behind'⟩ := (filled_append_iff plain.no_brace).mp behind'
        rw [← List.append_cancel_left same] at behind'
        have token_first := Text.replaceFrom_append_part '{' (v.name.toList ++ ['}'])
          v.text.toList out'
        rw [← v.token_append]
        exact token_first ▸ v.token_append rest' ▸ .token List.mem_cons_self behind'
      · have still := behind.occurrences_le plain plain_done new
        rw [Text.occurrences_cons_of_not_prefix starts] at no_more
        have missed : ¬ v.token <+: c :: out := by
          intro found
          rw [Text.occurrences_cons_of_prefix found] at no_more
          omega
        rw [Text.occurrences_cons_of_not_prefix missed] at no_more
        rw [Text.replaceFrom_cons_of_not_prefix missed]
        refine .other (fun w mem => ?_) (ih no_more)
        rcases List.mem_cons.mp mem with rfl | mem
        · exact starts
        · exact none w mem

end Step

/-- One variable alone is always filled in by replacing it. -/
theorem filled_replaceFrom (plain : v.Plain) (s : List Char) :
    Filled [v] s (replaceFrom v.token v.text.toList 0 s) :=
  (filled_of_none s).replace plain (fun _ mem => absurd mem List.not_mem_nil)
    (fun _ mem => absurd mem List.not_mem_nil) (Nat.le_refl _)

theorem Filled.unique_of_single (plain : v.Plain) {s t u : List Char} (h : Filled [v] s t)
    (h' : Filled [v] s u) : t = u :=
  h.unique (fun _ mem => List.mem_singleton.mp mem ▸ plain) (List.nodup_singleton _) h'

/-! ## §4. One variable after the other. -/

/-- Each variable in its turn is filled in alone, in the text that those before it have left. -/
inductive FilledInTurn : List Variable → List Char → List Char → Prop
  | nil {s : List Char} : FilledInTurn [] s s
  | cons {v : Variable} {vs : List Variable} {s t u : List Char} (first : Filled [v] s t)
      (others : FilledInTurn vs t u) : FilledInTurn (v :: vs) s u

theorem FilledInTurn.unique {vs : List Variable} (plain : ∀ v ∈ vs, v.Plain) {s t u : List Char}
    (h : FilledInTurn vs s t) (h' : FilledInTurn vs s u) : t = u := by
  induction h with
  | nil =>
      cases h'
      rfl
  | cons first others ih =>
      rw [List.forall_mem_cons] at plain
      cases h' with
      | cons first' others' =>
          rw [← first.unique_of_single plain.1 first'] at others'
          exact ih plain.2 others'

/-- A definition that is a mapping has its variable replaced. -/
theorem replaceVariable_of_mapping {e : Value × Value} (h : e.2.isMapping = true) (s : String) :
    replaceVariable (.str s) e.1 e.2
      = .ok (.str (String.ofList (replaceFrom (variableOf e).token (variableOf e).text.toList 0
          s.toList))) := by
  obtain ⟨key, definition⟩ := e
  have token : ("\x7b" ++ key.text ++ "\x7d").toList = tokenText key.text.toList := by
    rw [String.toList_append, String.toList_append, tokenText]
    rfl
  cases definition with
  | mapping fields =>
      show Except.ok (Value.str (Text.replaceAll _ _ s)) = _
      rw [Text.replaceAll, token]
      rfl
  | _ => exact absurd h (by simp [Value.isMapping])

/-- **A server's variables are filled in in turn**, in the order in which they are declared. -/
theorem exists_replaceVariables {es : Entries} (definitions : ∀ e ∈ es, e.2.isMapping = true)
    (plain : ∀ v ∈ declarations es, v.Plain) (s : String) :
    ∃ out, replaceVariables (.str s) es = .ok (.str out)
      ∧ FilledInTurn (declarations es) s.toList out.toList := by
  induction es generalizing s with
  | nil => exact ⟨s, rfl, .nil⟩
  | cons e es ih =>
      rw [List.forall_mem_cons] at definitions
      have plain' : ∀ v ∈ variableOf e :: declarations es, v.Plain := plain
      rw [List.forall_mem_cons] at plain'
      have first := filled_replaceFrom plain'.1 s.toList
      rw [← String.toList_ofList (l := replaceFrom _ _ 0 s.toList)] at first
      obtain ⟨out, replaced, others⟩ := ih definitions.2 plain'.2 (String.ofList _)
      rw [replaceVariables, replaceVariable_of_mapping definitions.1, ok_bind]
      exact ⟨out, replaced, .cons first others⟩

/-- No default makes a token: the names are distinct, and whichever variables have been filled in,
no other one has more tokens than in the URL. -/
structure Settled (declared : List Variable) (url : List Char) : Prop where
  names : (declared.map (·.name)).Nodup
  no_more : ∀ (done : List Variable) (v : Variable) (out : List Char),
    (∀ w ∈ done, w ∈ declared) → v ∈ declared → v ∉ done → Filled done url out →
    occurrences v.token out ≤ occurrences v.token url

/-- **In turn is all at once if no default makes a token**, from a text in which other variables
have been filled in. -/
theorem FilledInTurn.filled (plain : ∀ v ∈ declared, v.Plain) (settled : Settled declared url)
    {vs : List Variable} {s : List Char} (h : FilledInTurn vs s out)
    (perm : (vs ++ done).Perm declared) (filled : Filled done url s) : Filled declared url out := by
  induction h generalizing done with
  | nil => exact filled.congr fun v => perm.mem_iff
  | @cons v vs s t out first others ih =>
      have declared_of_mem : ∀ w ∈ done, w ∈ declared := fun w hw =>
        perm.mem_iff.mp (List.mem_append_right _ hw)
      have mem : v ∈ declared := perm.mem_iff.mp List.mem_cons_self
      have names := ((perm.map (·.name)).nodup_iff).mpr settled.names
      rw [List.cons_append, List.map_cons, List.nodup_cons] at names
      have new : ∀ w ∈ done, w.name ≠ v.name := by
        intro w hw same
        exact names.1 (List.mem_map.mpr ⟨w, List.mem_append_right _ hw, same⟩)
      have no_more := settled.no_more done v s declared_of_mem mem (fun again => new _ again rfl)
        filled
      have next := filled.replace (plain v mem) (fun w hw => plain w (declared_of_mem w hw)) new
        no_more
      rw [(filled_replaceFrom (plain v mem) s).unique_of_single (plain v mem) first] at next
      exact ih (List.perm_middle.trans perm) next

/-! ## §5. URLs whose defaults make no tokens. -/

/-- Every opening brace of a text starts the token of a declared variable. -/
def Closed (declared : List Variable) (url : List Char) : Prop :=
  ∀ rest, '{' :: rest <:+ url → ∃ v ∈ declared, v.token <+: '{' :: rest

/-- **Defaults without opening braces make no tokens** in a URL in which every opening brace starts
a declared token. -/
theorem settled_of_closed (plain : ∀ v ∈ declared, v.Plain)
    (names : (declared.map (·.name)).Nodup) (closed : Closed declared url)
    (texts : ∀ v ∈ declared, '{' ∉ v.text.toList) : Settled declared url := by
  refine ⟨names, ?_⟩
  intro done v out sub mem new filled
  have plain_done : ∀ w ∈ done, w.Plain := fun w hw => plain w (sub w hw)
  have other_name : ∀ w ∈ done, w.name ≠ v.name := by
    intro w hw same
    have : w = v := List.inj_on_of_nodup_map names (sub w hw) mem same
    exact new (this ▸ hw)
  -- tokens of the filled text start at opening braces of the URL, and these have tokens of their own
  clear new
  induction filled with
  | nil => exact Nat.le_refl _
  | token mem_done behind ih =>
      rename_i w rest out
      rw [v.occurrences_append (texts w (sub w mem_done))]
      refine Nat.le_trans (ih fun r hr => closed r ?_) (Text.occurrences_le_append _ _ _)
      exact hr.trans (List.suffix_append _ _)
  | other none behind ih =>
      rename_i c rest out
      have below := ih fun r hr => closed r (hr.trans (List.suffix_cons c rest))
      by_cases brace : c = '{'
      · subst brace
        obtain ⟨w, hw, rest', whole⟩ := closed rest (List.suffix_refl _)
        have new_w : ∀ u ∈ done, u.name ≠ w.name := by
          intro u hu same
          have : u = w := List.inj_on_of_nodup_map names (sub u hu) hw same
          exact none w (this ▸ hu) ⟨rest', whole⟩
        have filled : Filled done (w.token ++ rest') ('{' :: out) := whole ▸ .other none behind
        obtain ⟨out', same, _⟩ := filled.token_cases (plain w hw) plain_done new_w
        by_cases starts : v.token <+: '{' :: rest
        · rw [Text.occurrences_cons_of_prefix starts]
          by_cases found : v.token <+: '{' :: out
          · rw [Text.occurrences_cons_of_prefix found]
            exact Nat.add_le_add_left below 1
          · rw [Text.occurrences_cons_of_not_prefix found]
            exact Nat.le_trans below (Nat.le_add_left _ 1)
        · have missed : ¬ v.token <+: '{' :: out := by
            rintro ⟨rest'', found⟩
            have name := (plain v mem).name_eq (plain w hw) (found.trans same)
            have : v = w := List.inj_on_of_nodup_map names mem hw name
            exact starts ⟨rest', this ▸ whole⟩
          rw [Text.occurrences_cons_of_not_prefix missed,
            Text.occurrences_cons_of_not_prefix starts]
          exact below
      · have missed : ∀ cs, ¬ v.token <+: c :: cs := by
          intro cs starts
          exact brace (List.cons_prefix_cons.mp starts).1.symm
        rw [Text.occurrences_cons_of_not_prefix (missed out),
          Text.occurrences_cons_of_not_prefix (missed rest)]
        exact below

/-! ## §6. The URL of a document. -/

/-- A document states a URL with variables for its first server. -/
def States (document : Value) (url : String) (es : Entries) : Prop :=
  ∃ servers server stated, document.field "servers" = .ok servers
    ∧ servers.truthy = true ∧ servers.firstPart = .ok server
    ∧ server.field "url" = .ok (.str url) ∧ server.field "variables" = .ok stated
    ∧ (stated.orElse (.mapping (p := none) [])).pairs = .ok es

theorem States.baseUrl_eq_of_replaced {document : Value} {url out : String} {es : Entries}
    (h : States document url es) (replaced : replaceVariables (.str url) es = .ok (.str out)) :
    baseUrl document = .ok (if url = "" then .null else .str out) := by
  obtain ⟨servers, server, stated, hservers, some_server, first, hurl, hstated, pairs⟩ := h
  rw [baseUrl, hservers, ok_bind, if_neg (by rw [some_server]; decide), first, ok_bind, hurl,
    ok_bind]
  by_cases empty : url = ""
  · rw [empty]
    rfl
  · have present : (Value.str url).truthy = true := bne_iff_ne.mpr empty
    rw [if_neg (by rw [present]; decide), if_neg empty, hstated, ok_bind, pairs, ← replaced]
    rfl

/-- **THE URL OF A SERVER.**  The base URL of a document is the URL of its first server with each
variable in its turn filled in, and none without a URL.  If no default makes a token, it has the
default of a declared variable at each token of the URL and is else as the URL, and is the same for
every order in which the variables are declared. -/
theorem baseUrl_in_turn {document : Value} {url : String} {es : Entries}
    (states : States document url es) (definitions : ∀ e ∈ es, e.2.isMapping = true)
    (plain : ∀ v ∈ declarations es, v.Plain) :
    ∃ out : String, baseUrl document = .ok (if url = "" then .null else .str out)
      ∧ FilledInTurn (declarations es) url.toList out.toList
      ∧ (∀ other, FilledInTurn (declarations es) url.toList other → other = out.toList)
      ∧ (Settled (declarations es) url.toList →
          Filled (declarations es) url.toList out.toList
            ∧ (∀ other, Filled (declarations es) url.toList other → other = out.toList)
            ∧ ∀ document' es', States document' url es' → es'.Perm es →
                baseUrl document' = baseUrl document) := by
  obtain ⟨out, replaced, in_turn⟩ := exists_replaceVariables definitions plain url
  have is_out := states.baseUrl_eq_of_replaced replaced
  refine ⟨out, is_out, in_turn, fun other h => h.unique plain in_turn, fun settled => ?_⟩
  have filled := in_turn.filled plain settled (List.append_nil _ ▸ List.Perm.refl _)
    (filled_of_none _)
  refine ⟨filled, fun other h => h.unique plain settled.names filled, ?_⟩
  intro document' es' states' perm
  have perm' : (declarations es' ++ []).Perm (declarations es) := by
    rw [List.append_nil]
    exact perm.map variableOf
  obtain ⟨out', replaced', in_turn'⟩ := exists_replaceVariables
    (fun e mem => definitions e (perm.mem_iff.mp mem))
    (fun v mem => plain v (perm'.mem_iff.mp (List.mem_append_left _ mem))) url
  have filled' := in_turn'.filled plain settled perm' (filled_of_none _)
  rw [states'.baseUrl_eq_of_replaced replaced', is_out,
    String.toList_inj.mp (filled'.unique plain settled.names filled)]

/-- A document with a server and variables. -/
def serverDocument (url : String) (es : Entries) : Value :=
  .object [("servers", .list [.object [("url", .str url), ("variables", .mapping (p := none) es)]])]

/-- An entry that declares a variable with a default. -/
def withDefault (name text : String) : Value × Value :=
  (.str name, .object [("default", .str text)])

theorem states_serverDocument (url : String) (es : Entries) :
    States (serverDocument url es) url es := by
  refine ⟨_, _, _, rfl, rfl, rfl, rfl, rfl, ?_⟩
  cases es <;> rfl

theorem declarations_withDefault (name text : String) (es : Entries) :
    declarations (withDefault name text :: es) = ⟨name, text⟩ :: declarations es := rfl

/-- A host that is one token and a path that is another, filled in. -/
theorem filled_host_and_path {declared : List Variable} (plain : ∀ v ∈ declared, v.Plain)
    {v w : Variable} (hv : v ∈ declared) (hw : w ∈ declared) :
    Filled declared ("https://".toList ++ (v.token ++ (".test/".toList ++ (w.token ++ []))))
      ("https://".toList ++ (v.text.toList ++ (".test/".toList ++ (w.text.toList ++ [])))) := by
  have scheme_plain : '{' ∉ "https://".toList := by decide
  have between_plain : '{' ∉ ".test/".toList := by decide
  have scheme : Filled declared "https://".toList "https://".toList :=
    (filled_append_iff scheme_plain).mpr ⟨[], rfl, .nil⟩
  have path : Filled declared (w.token ++ []) (w.text.toList ++ []) := .token hw .nil
  have behind := (filled_append_iff between_plain).mpr ⟨_, rfl, path⟩
  exact scheme.append_token plain hv behind

/-- A URL in which every opening brace starts a token. -/
def regionalUrl : String := "https://\x7bregion\x7d.test/\x7bv\x7d"

def regional : Entries := [withDefault "region" "eu", withDefault "v" "2"]

theorem baseUrl_in_turn_regional :
    States (serverDocument regionalUrl regional) regionalUrl regional
      ∧ (∀ e ∈ regional, e.2.isMapping = true) ∧ (∀ v ∈ declarations regional, v.Plain)
      ∧ Settled (declarations regional) regionalUrl.toList
      ∧ baseUrl (serverDocument regionalUrl regional) = .ok (.str "https://eu.test/2")
      ∧ baseUrl (serverDocument regionalUrl regional.reverse) = .ok (.str "https://eu.test/2") := by
  have states := states_serverDocument regionalUrl regional
  have definitions : ∀ e ∈ regional, e.2.isMapping = true := by decide
  have plain : ∀ v ∈ declarations regional, v.Plain := by
    simp only [regional, declarations_withDefault, List.forall_mem_cons]
    exact ⟨⟨by decide, by decide⟩, ⟨by decide, by decide⟩, fun v mem => absurd mem List.not_mem_nil⟩
  have closed : Closed (declarations regional) regionalUrl.toList := by
    have all : ∀ t ∈ regionalUrl.toList.tails, t.head? = some '{' →
        ∃ v ∈ declarations regional, v.token <+: t := by decide
    exact fun rest suffix => all _ ((List.mem_tails _ _).mpr suffix) rfl
  have settled := settled_of_closed plain (by decide) closed (by decide)
  obtain ⟨out, is_out, _, _, all_at_once⟩ := baseUrl_in_turn states definitions plain
  obtain ⟨filled, _, orders⟩ := all_at_once settled
  have whole : out.toList = "https://eu.test/2".toList :=
    filled.unique plain settled.names (filled_host_and_path plain List.mem_cons_self
      (List.mem_cons_of_mem _ List.mem_cons_self))
  rw [String.toList_inj.mp whole, if_neg (by decide)] at is_out
  refine ⟨states, definitions, plain, settled, is_out, ?_⟩
  rw [orders _ regional.reverse (states_serverDocument _ _) (List.reverse_perm _), is_out]

/-- The default of `a` is the token of `b`. -/
def chainedUrl : String := "https://\x7ba\x7d.test/\x7bb\x7d"

def chained : Entries := [withDefault "a" "\x7bb\x7d", withDefault "b" "x"]

theorem plain_chained : ∀ v ∈ declarations chained, v.Plain := by
  simp only [chained, declarations_withDefault, List.forall_mem_cons]
  exact ⟨⟨by decide, by decide⟩, ⟨by decide, by decide⟩, fun v mem => absurd mem List.not_mem_nil⟩

theorem names_chained : ((declarations chained).map (·.name)).Nodup := by decide

/-- All at once, `a` is replaced by its default and `b` by its own. -/
theorem filled_chained :
    Filled (declarations chained) chainedUrl.toList "https://\x7bb\x7d.test/x".toList :=
  filled_host_and_path plain_chained List.mem_cons_self (List.mem_cons_of_mem _ List.mem_cons_self)

/-- One after the other, what comes of `a` is replaced again. -/
theorem baseUrl_chained :
    baseUrl (serverDocument chainedUrl chained) = .ok (.str "https://x.test/x") := by
  have replaced : Text.replaceAll "\x7bb\x7d" "x" (Text.replaceAll "\x7ba\x7d" "\x7bb\x7d" chainedUrl)
      = "https://x.test/x" := by decide +kernel
  exact congrArg (fun s => Except.ok (Value.str s)) replaced

/-- In the other order it is not. -/
theorem baseUrl_chained_reverse :
    baseUrl (serverDocument chainedUrl chained.reverse)
      = .ok (.str "https://\x7bb\x7d.test/x") := by
  have replaced : Text.replaceAll "\x7ba\x7d" "\x7bb\x7d" (Text.replaceAll "\x7bb\x7d" "x" chainedUrl)
      = "https://\x7bb\x7d.test/x" := by decide +kernel
  exact congrArg (fun s => Except.ok (Value.str s)) replaced

/-- **A default that holds the token of another variable** is replaced in turn if that variable is
declared behind its own, so variables are not replaced all at once, nor alike in every order. -/
theorem baseUrl_of_chained :
    (¬ ∀ (document : Value) (url : String) (es : Entries), States document url es →
        (∀ e ∈ es, e.2.isMapping = true) → (∀ v ∈ declarations es, v.Plain) →
        ((declarations es).map (·.name)).Nodup →
        ∃ out : String, Filled (declarations es) url.toList out.toList
          ∧ baseUrl document = .ok (if url = "" then .null else .str out))
      ∧ ¬ ∀ (document document' : Value) (url : String) (es es' : Entries),
          States document url es → States document' url es' → es'.Perm es →
          (∀ e ∈ es, e.2.isMapping = true) → (∀ v ∈ declarations es, v.Plain) →
          ((declarations es).map (·.name)).Nodup → baseUrl document' = baseUrl document := by
  have definitions : ∀ e ∈ chained, e.2.isMapping = true := by decide
  constructor
  · intro claim
    obtain ⟨out, filled, is_out⟩ := claim _ chainedUrl chained (states_serverDocument _ _)
      definitions plain_chained names_chained
    rw [baseUrl_chained, if_neg (by decide)] at is_out
    injection is_out with is_out
    injection is_out with is_out
    subst is_out
    exact absurd (filled.unique plain_chained names_chained filled_chained) (by decide)
  · intro claim
    have same := claim _ _ chainedUrl chained chained.reverse (states_serverDocument _ _)
      (states_serverDocument _ _) (List.reverse_perm _) definitions plain_chained names_chained
    rw [baseUrl_chained, baseUrl_chained_reverse] at same
    injection same with same
    injection same with same
    exact absurd same (by decide)

end ApiTools.Server
