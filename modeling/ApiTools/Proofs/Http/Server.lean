/-
  ApiTools.Proofs.Http.Server
  ───────────────────────────
  **THE SERVER OF A URL IS DECIDED BY WHAT STANDS IN FRONT OF ITS PATH.**

  A URL names its server, that is scheme, host and port, in front of the
  first slash of its path, and nothing behind that slash has a say in it.
  Two texts that agree up to there name the same server, whatever signs stand
  behind: at signs, colons, two slashes, question marks or number signs.

  That a client reads URLs in this way is what is asked of it
  (`Client.EndsAuthority`); the one that is used does.

  Main results:
    • `splitScheme_append_slash`, `splitAuthority_append_slash` — cutting a text
      in front of a slash does not look behind it,
    • `front_append` — so texts with a common front that is followed by a slash
      have one scheme and one authority,
    • `endsAuthority_standard` — and `Client.standard` reads them as URLs of one
      server.
-/
import ApiTools.Http.Message

namespace ApiTools.Http

/-- Do two URLs name the same server? -/
structure Url.SameServer (u w : Url) : Prop where
  scheme_eq : u.scheme = w.scheme
  host_eq : u.host = w.host
  port_eq : u.port = w.port

namespace Url

/-! ## §1. Cutting in front of a slash. -/

/-- Nothing behind a character that stops is looked at. -/
theorem before_append_stop {stop : Char → Bool} {c : Char} (h : stop c = true)
    (cs rest : List Char) :
    before stop (cs ++ c :: rest) = ((before stop cs).1, (before stop cs).2 ++ c :: rest) := by
  induction cs with
  | nil => simp [before, h]
  | cons d cs ih =>
      unfold before at ih ⊢
      rw [Prod.mk.injEq] at ih
      cases passes : stop d with
      | true => simp [passes]
      | false => simp [passes, ih]

/-- The scheme ends in front of a slash. -/
theorem splitScheme_append_slash (cs rest : List Char) :
    splitScheme (cs ++ '/' :: rest) = ((splitScheme cs).1, (splitScheme cs).2 ++ '/' :: rest) := by
  have stops : (fun c => !isSchemeChar c) '/' = true := by decide
  unfold splitScheme
  rw [before_append_stop stops]
  generalize before (fun c => !isSchemeChar c) cs = found
  obtain ⟨scheme, after⟩ := found
  -- what follows the scheme starts as it does without the slash, unless nothing followed
  cases after with
  | nil => rfl
  | cons d after =>
      by_cases colon : d = ':'
      · subst colon
        show (if (scheme.isEmpty || scheme.head?.any Char.isAlpha) = true then _ else _) = _
        cases named : scheme.isEmpty || scheme.head?.any Char.isAlpha with
        | true => simp [named]
        | false => simp [named]
      · dsimp only [List.cons_append]
        split
        next given =>
          injection given with same
          exact absurd same colon
        next =>
          split
          next given =>
            injection given with same
            exact absurd same colon
          next => rfl

/-- The authority ends in front of a slash, once two characters have told whether there is one. -/
theorem splitAuthority_append_slash (a b : Char) (cs rest : List Char) :
    splitAuthority (a :: b :: cs ++ '/' :: rest)
      = ((splitAuthority (a :: b :: cs)).1, (splitAuthority (a :: b :: cs)).2 ++ '/' :: rest) := by
  by_cases slashes : a = '/' ∧ b = '/'
  · obtain ⟨rfl, rfl⟩ := slashes
    exact before_append_stop rfl cs rest
  · have none_given : ∀ ds, splitAuthority (a :: b :: ds) = ([], a :: b :: ds) := by
      intro ds
      unfold splitAuthority
      split
      next given =>
        injection given with ha given
        injection given with hb _
        exact absurd ⟨ha, hb⟩ slashes
      next => rfl
    rw [List.cons_append, List.cons_append, none_given, none_given]
    rfl

/-! ## §2. The server. -/

/-- The authority of a text: what stands behind two slashes, up to the first slash, question mark or
number sign. -/
def authorityIn (text : List Char) : List Char := (splitAuthority (splitScheme text).2).1

/-- Scheme and authority of a text. -/
def front (text : String) : List Char × List Char :=
  ((splitScheme text.toList).1, authorityIn text.toList)

/-- What a URL names as its server follows from scheme and authority of its text. -/
structure ServedBy (scheme authority : List Char) (u : Url) : Prop where
  scheme_eq : u.scheme = Text.lower scheme
  host_ok : normalHost (splitHost (splitUser authority).2).1 = .ok u.host
  port_ok : normalPort scheme (splitHost (splitUser authority).2).2 = .ok u.port

theorem servedBy_of_ofParts {text : List Char} {u : Url} (h : ofParts text = .ok u) :
    ServedBy (splitScheme text).1 (authorityIn text) u := by
  unfold ofParts at h
  dsimp only at h
  cases host : normalHost (splitHost (splitUser (authorityIn text)).2).1 with
  | error p =>
      unfold authorityIn at host
      simp [host, bind, Except.bind] at h
  | ok normal =>
      cases port : normalPort (splitScheme text).1
          (splitHost (splitUser (authorityIn text)).2).2 with
      | error p =>
          unfold authorityIn at host port
          simp [host, port, bind, Except.bind] at h
      | ok number =>
          unfold authorityIn at host port
          simp only [host, port, bind, Except.bind] at h
          split at h
          next => simp at h
          next =>
            injection h with h
            subst h
            exact ⟨rfl, host, port⟩

theorem servedBy_of_parse {text : String} {u : Url} (h : parse text = .ok u) :
    ServedBy (front text).1 (front text).2 u := by
  unfold parse at h
  dsimp only at h
  split at h
  next => simp at h
  next =>
    split at h
    next => simp at h
    next => exact servedBy_of_ofParts h

theorem ServedBy.sameServer {scheme authority : List Char} {u w : Url}
    (hu : ServedBy scheme authority u) (hw : ServedBy scheme authority w) : u.SameServer w := by
  constructor
  case scheme_eq => rw [hu.scheme_eq, hw.scheme_eq]
  case host_eq => exact Except.ok.inj (hu.host_ok.symm.trans hw.host_ok)
  case port_eq => exact Except.ok.inj (hu.port_ok.symm.trans hw.port_ok)

/-- Scheme and authority of a text stand in front of the second slash that ends a folder. -/
theorem scheme_and_authority (base : List Char) (c : Char) (folder rest : List Char) :
    (splitScheme (base ++ '/' :: c :: folder ++ '/' :: rest)).1 = (splitScheme base).1
      ∧ authorityIn (base ++ '/' :: c :: folder ++ '/' :: rest)
        = authorityIn (base ++ '/' :: c :: folder) := by
  unfold authorityIn
  rw [List.append_assoc, List.cons_append, splitScheme_append_slash, splitScheme_append_slash]
  refine ⟨rfl, ?_⟩
  dsimp only
  -- of what follows the scheme, the slash and the first character of the folder are left at least
  cases (splitScheme base).2 with
  | nil =>
      show (splitAuthority ('/' :: c :: folder ++ '/' :: rest)).1 = _
      rw [splitAuthority_append_slash]
      rfl
  | cons a left =>
      cases left with
      | nil =>
          show (splitAuthority (a :: '/' :: (c :: folder) ++ '/' :: rest)).1 = _
          rw [splitAuthority_append_slash]
          rfl
      | cons b left =>
          have regrouped : a :: b :: left ++ '/' :: (c :: folder ++ '/' :: rest)
              = a :: b :: (left ++ '/' :: c :: folder) ++ '/' :: rest := by simp
          rw [regrouped, splitAuthority_append_slash]
          rfl

/-- **A COMMON FRONT**: texts that start with the same base and the same folder below it have one
scheme and one authority, whatever follows. -/
theorem front_append {base folder : String} (some_folder : folder ≠ "") (t₁ t₂ : String) :
    front (base ++ "/" ++ folder ++ "/" ++ t₁) = front (base ++ "/" ++ folder ++ "/" ++ t₂) := by
  obtain ⟨c, cs, chars⟩ : ∃ c cs, folder.toList = c :: cs := by
    cases chars : folder.toList with
    | nil => exact absurd (String.toList_eq_nil_iff.mp chars) some_folder
    | cons c cs => exact ⟨c, cs, rfl⟩
  have cut : ∀ t : String, (base ++ "/" ++ folder ++ "/" ++ t).toList
      = base.toList ++ '/' :: c :: cs ++ '/' :: t.toList := by
    intro t
    simp [String.toList_append, chars]
  unfold front
  rw [cut, cut, (scheme_and_authority _ _ _ t₁.toList).1, (scheme_and_authority _ _ _ t₁.toList).2,
    (scheme_and_authority _ _ _ t₂.toList).1, (scheme_and_authority _ _ _ t₂.toList).2]

end Url

/-! ## §3. Clients. -/

/-- **A client ends the authority of a URL at the first slash, question mark or number sign**: texts
with one scheme and one authority lead to one server, and the server alone is what messages name as
their host. -/
structure Client.EndsAuthority (client : Client) : Prop where
  server : ∀ {t₁ t₂ u₁ u₂}, Url.front t₁ = Url.front t₂ → client.parse t₁ = .ok u₁ →
    client.parse t₂ = .ok u₂ → u₁.SameServer u₂
  named : ∀ {u₁ u₂ : Url}, u₁.SameServer u₂ → client.host u₁ = client.host u₂

theorem endsAuthority_standard : Client.standard.EndsAuthority where
  server := by
    intro t₁ t₂ u₁ u₂ same h₁ h₂
    have served₁ := Url.servedBy_of_parse h₁
    rw [same] at served₁
    exact served₁.sameServer (Url.servedBy_of_parse h₂)
  named := by
    intro u₁ u₂ server
    show (if u₁.host.isEmpty then none else some u₁.hostText)
      = if u₂.host.isEmpty then none else some u₂.hostText
    rw [Url.hostText, Url.hostText, server.host_eq, server.port_eq]

end ApiTools.Http
