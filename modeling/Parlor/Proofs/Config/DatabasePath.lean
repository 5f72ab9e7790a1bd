import Parlor.Config.Load

/-!
# How often the path of the database is expanded

Loading expands the path of the database and keeps the result, and asking for the file of the database
expands what was kept once more. The two expansions agree with a single one exactly if the first result
is what it expands to itself. A text that every environment leaves as it is has neither a tilde in front
nor a dollar sign that begins something, and so the result may not have them either.
-/

namespace Parlor

/-- An environment without variables, in which there is a home directory. -/
def Environment.bare : Environment where
  accountHome := some "/root"

@[simp] theorem Environment.value?_bare (name : String) : bare.value? name = none := by
  simp [value?, bare]

namespace Path

/-! ## Texts that stay as they are -/

/-- Tests what follows a dollar sign: the sign stands for itself if neither a sign nor a name follows. -/
def standsAlone : List Char → Bool
  | [] => true
  | c :: rest =>
    if c = '$' then false
    else if c = '\x7b' then !rest.contains '\x7d'
    else !Text.isNameChar c

/-- Tests whether every dollar sign of a text stands for itself. -/
def dollarsAlone : List Char → Bool
  | [] => true
  | c :: rest => (c ≠ '$' || standsAlone rest) && dollarsAlone rest

/-- Tests for a tilde that is a component of its own, in front. -/
def startsAtHome : List Char → Bool
  | ['~'] => true
  | '~' :: '/' :: _ => true
  | _ => false

/-- A text in which there is nothing to expand. -/
structure Settled (cs : List Char) : Prop where
  tilde : startsAtHome cs = false
  dollars : dollarsAlone cs = true

/-- The fallback of a variable is shorter than what stands between its braces. -/
theorem length_splitFallback (cs fallback : List Char) (h : (splitFallback cs).2 = some fallback) :
    fallback.length < cs.length := by
  have hgo (cs : List Char) : (splitFallback.go cs).2 = some fallback → fallback.length < cs.length := by
    fun_induction splitFallback.go cs with
    | case1 rest =>
      intro hsome
      obtain rfl : rest = fallback := by simpa using hsome
      simp only [List.length_cons]
      omega
    | case2 c rest _ ih =>
      intro hsome
      have hshort := ih hsome
      simp only [List.length_cons]
      omega
    | case3 => simp
  cases cs with
  | nil => simp [splitFallback] at h
  | cons c rest =>
    simp only [splitFallback] at h
    split at h
    · simp at h
    · have hshort := hgo rest h
      simp only [List.length_cons]
      omega

/--
A dollar sign is read as itself, with what cannot begin anything behind it; or it begins something, and
that stands for less than was read wherever no variable has a value.
-/
theorem afterDollar_cases (rest : List Char) :
    (standsAlone rest = true ∧ ∃ taken, taken ++ (afterDollar rest).rest = rest ∧ '$' ∉ taken ∧
        (afterDollar rest).pieces = ('$' :: taken).map .plain) ∨
      (standsAlone rest = false ∧ ∀ text, fill? .bare (afterDollar rest).pieces = some text →
        text.length + (afterDollar rest).rest.length ≤ rest.length) := by
  unfold afterDollar
  split
  · rename_i rest
    refine .inr ⟨rfl, fun text htext => ?_⟩
    obtain rfl : ['$'] = text := by simpa [fill?, Piece.text?] using htext
    simp [Nat.add_comm]
  · rename_i rest
    by_cases hclosed : rest.contains '\x7d' = true
    · rw [if_pos hclosed]
      refine .inr ⟨by simpa [standsAlone] using hclosed, fun text htext => ?_⟩
      have hfallback : (splitFallback (rest.takeWhile (· ≠ '\x7d'))).2 = some text := by
        simpa [fill?, Piece.text?] using htext
      have hshort := length_splitFallback _ _ hfallback
      have hsplit := congrArg List.length (List.takeWhile_append_dropWhile (p := (· ≠ '\x7d')) (l := rest))
      simp only [List.length_append, List.length_drop, List.length_cons] at hsplit ⊢
      omega
    · rw [if_neg hclosed]
      exact .inl ⟨by simpa [standsAlone] using hclosed, ['\x7b'], rfl, by decide, rfl⟩
  · rename_i c rest hdollar hbrace
    have hdollar : c ≠ '$' := fun hc => hdollar (by rw [hc])
    have hbrace : c ≠ '\x7b' := fun hc => hbrace (by rw [hc])
    by_cases hname : Text.isNameChar c = true
    · rw [if_pos hname]
      refine .inr ⟨by simp [standsAlone, hdollar, hbrace, hname], fun text htext => ?_⟩
      simp [fill?, Piece.text?] at htext
    · rw [if_neg hname]
      exact .inl ⟨by simp [standsAlone, hdollar, hbrace, hname], [], rfl, by simp, rfl⟩
  · exact .inl ⟨rfl, [], rfl, by simp, rfl⟩

theorem fill?_plain (env : Environment) (cs : List Char) : fill? env (cs.map .plain) = some cs := by
  induction cs with
  | nil => rfl
  | cons c rest ih => simp [fill?, Piece.text?, ih]

theorem fill?_append (env : Environment) (before after : List Piece) :
    fill? env (before ++ after) =
      (fill? env before).bind fun text => (fill? env after).map fun others => text ++ others := by
  induction before with
  | nil => simp [fill?]
  | cons piece rest ih =>
    simp only [List.cons_append, fill?, ih, Option.bind_eq_bind]
    cases piece.text? env <;> cases fill? env rest <;> cases fill? env after <;> simp

theorem dollarsAlone_append (before after : List Char) (hnone : '$' ∉ before) :
    dollarsAlone (before ++ after) = dollarsAlone after := by
  induction before with
  | nil => rfl
  | cons c rest ih =>
    obtain ⟨hc, hrest⟩ : c ≠ '$' ∧ '$' ∉ rest := by simpa [eq_comm] using hnone
    simp [dollarsAlone, hc, ih hrest]

/-- A text whose dollar signs stand for themselves is read as its characters. -/
theorem pieces_of_dollarsAlone (cs : List Char) (halone : dollarsAlone cs = true) :
    pieces cs = cs.map .plain := by
  induction cs using pieces.induct with
  | case1 => simp [pieces]
  | case2 rest ih =>
    simp only [dollarsAlone, Bool.and_eq_true] at halone
    rcases afterDollar_cases rest with ⟨-, taken, htaken, hnone, hpieces⟩ | ⟨hbegins, -⟩
    · have hbehind : dollarsAlone (afterDollar rest).rest = true := by
        rw [← dollarsAlone_append taken _ hnone, htaken]
        exact halone.2
      rw [pieces, if_pos rfl, hpieces, ih hbehind, ← List.map_append, List.cons_append, htaken]
    · simp [hbegins] at halone
  | case3 c rest hc ih =>
    simp only [dollarsAlone, Bool.and_eq_true] at halone
    rw [pieces, if_neg hc, ih halone.2, List.map_cons]

/--
Where no variable has a value, a text is filled by nothing longer, and by something as long only if it
has no dollar sign that begins something.
-/
theorem length_fill?_nil (cs text : List Char) (hfill : fill? .bare (pieces cs) = some text) :
    text.length < cs.length ∨ text = cs ∧ dollarsAlone cs = true := by
  induction cs using pieces.induct generalizing text with
  | case1 =>
    obtain rfl : [] = text := by simpa [pieces, fill?] using hfill
    exact .inr ⟨rfl, rfl⟩
  | case2 rest ih =>
    rw [pieces, if_pos rfl, fill?_append] at hfill
    obtain ⟨read, hread, others, hothers, rfl⟩ :
        ∃ read, fill? .bare (afterDollar rest).pieces = some read ∧
          ∃ others, fill? .bare (pieces (afterDollar rest).rest) = some others ∧ read ++ others = text := by
      simpa [Option.bind_eq_some_iff] using hfill
    have hle : others.length ≤ (afterDollar rest).rest.length := by
      rcases ih others hothers with hlt | ⟨hsame, -⟩
      · exact Nat.le_of_lt hlt
      · exact Nat.le_of_eq (congrArg List.length hsame)
    rcases afterDollar_cases rest with ⟨halone, taken, htaken, hnone, hpieces⟩ | ⟨-, hless⟩
    · obtain rfl : '$' :: taken = read := by
        rw [hpieces, fill?_plain] at hread
        exact Option.some.inj hread
      have hlength := congrArg List.length htaken
      simp only [List.length_append] at hlength
      rcases ih others hothers with hlt | ⟨rfl, hbehind⟩
      · refine .inl ?_
        simp only [List.length_append, List.length_cons]
        omega
      · refine .inr ⟨by rw [List.cons_append, htaken], ?_⟩
        rw [dollarsAlone, halone, Bool.or_true, Bool.true_and, ← htaken, dollarsAlone_append taken _ hnone]
        exact hbehind
    · have hread := hless read hread
      refine .inl ?_
      simp only [List.length_append, List.length_cons]
      omega
  | case3 c rest hc ih =>
    rw [pieces, if_neg hc] at hfill
    obtain ⟨others, hothers, rfl⟩ :
        ∃ others, fill? .bare (pieces rest) = some others ∧ c :: others = text := by
      simpa [fill?, Piece.text?, Option.bind_eq_some_iff] using hfill
    rcases ih others hothers with hlt | ⟨rfl, hrest⟩
    · exact .inl (by simpa using hlt)
    · exact .inr ⟨rfl, by simp [dollarsAlone, hc, hrest]⟩

/-- The home directory takes the place of a tilde that is a component of its own. -/
theorem expandTilde_eq (env : Environment) (cs : List Char) :
    expandTilde env cs =
      if startsAtHome cs then (home? env).elim cs fun home => home.toList ++ cs.drop 1 else cs := by
  cases hhome : home? env <;> unfold expandTilde startsAtHome <;> split <;> simp_all

theorem home?_bare : home? .bare = some "/root" := by
  rw [home?, Environment.filled?, Environment.value?_bare]
  rfl

/-- A settled text expands to itself everywhere. -/
theorem Settled.expand? {path : String} (h : Settled path.toList) (env : Environment) :
    expand? env path = some path := by
  simp [Path.expand?, pieces_of_dollarsAlone _ h.dollars, fill?_plain, expandTilde_eq, h.tilde]

/-- A text is settled exactly if every environment leaves it as it is. -/
theorem settled_iff (path : String) : Settled path.toList ↔ ∀ env, expand? env path = some path := by
  refine ⟨fun h env => h.expand? env, fun hsame => ?_⟩
  obtain ⟨filled, hfill, hresult⟩ := Option.bind_eq_some_iff.mp (hsame .bare)
  have hpath := congrArg String.toList (Option.some.inj hresult)
  rw [String.toList_ofList] at hpath
  -- A tilde that was replaced would have left a slash in front of the result.
  have hfilled : filled = path.toList ∧ startsAtHome path.toList = false := by
    by_cases htilde : path.toList.head? = some '~'
    · rw [if_pos htilde, expandTilde_eq, home?_bare, Option.elim_some] at hpath
      split at hpath
      · rw [← hpath] at htilde
        simp at htilde
      · rename_i hstart
        exact ⟨hpath, by rw [← hpath]; simpa using hstart⟩
    · rw [if_neg htilde] at hpath
      refine ⟨hpath, ?_⟩
      unfold startsAtHome
      split <;> simp_all
  rcases length_fill?_nil path.toList filled hfill with hless | ⟨-, halone⟩
  · simp [hfilled.1] at hless
  · exact ⟨hfilled.2, halone⟩

end Path

namespace Config

/-! ## The configured path -/

open Json (Bytes)

/-- The path of the database that the sources say, before anything is expanded. -/
def configuredPath? (env : Environment) (content? : Option Bytes) : Option String :=
  (ofSources? [defaultEntries, (content?.bind ofFile?).getD [], ofEnvironment env]).bind (·.database.path)

/-- Settings that were loaded keep what the configured path expands to. -/
theorem load_path {env : Environment} {path : String} {content? : Option Bytes} {settings : Settings}
    {text : String} (hload : load env path content? = .ok settings)
    (htext : configuredPath? env content? = some text) :
    ∃ once, Path.expand? env text = some once ∧ settings.database.path = some once := by
  obtain ⟨sources, hsources, hpath⟩ := Option.bind_eq_some_iff.mp htext
  have hfile : (content?.map ofFile?).join = content?.bind ofFile? := by cases content? <;> rfl
  unfold load at hload
  split at hload
  · contradiction
  · rw [hfile, hsources] at hload
    simp only [expandDatabase?, hpath] at hload
    cases hexpand : Path.expand? env text with
    | none => simp [hexpand] at hload
    | some once =>
      simp only [hexpand, Option.map_some, Except.ok.injEq] at hload
      exact ⟨once, rfl, by rw [← hload]⟩

/--
Whatever the file, the configured path and the environment are: settings that were loaded keep the
single expansion of the configured path, and the file of the database is that expansion expanded once
more. So it is the single expansion exactly if this expands to itself; whatever the variables are by
then, it is so exactly if nothing in the single expansion is left to expand.
-/
theorem databaseFile_of_load (env : Environment) (path : String) (content? : Option Bytes)
    (settings : Settings) (text : String) (hload : load env path content? = .ok settings)
    (htext : configuredPath? env content? = some text) :
    ∃ once, Path.expand? env text = some once ∧ settings.database.path = some once ∧
      settings.databaseFile? env = Path.expand? env once ∧
      (settings.databaseFile? env = Path.expand? env text ↔ Path.expand? env once = some once) ∧
      ((∀ later, settings.databaseFile? later = Path.expand? env text) ↔ Path.Settled once.toList) := by
  obtain ⟨once, honce, hkept⟩ := load_path hload htext
  have htwice (later : Environment) : settings.databaseFile? later = Path.expand? later once := by
    simp only [Settings.databaseFile?, hkept]
  refine ⟨once, honce, hkept, htwice env, ?_, ?_⟩
  · rw [htwice, honce]
  · rw [Path.settled_iff]
    simp only [htwice, honce]

/-- The variables of a user with a home directory. -/
def tester : Environment where
  vars := [("HOME", "/home/tester")]

/-- A file of settings that says where the database is. -/
def databaseAt (path : String) : Bytes :=
  Json.encodeUtf8 ("[database]\npath = \"" ++ path ++ "\"\n")

theorem eq_ok_of_toOption {ε α : Type} {result : Except ε α} {a : α} (h : result.toOption = some a) :
    result = .ok a := by
  cases result with
  | error e => simp [Except.toOption] at h
  | ok b => rw [Option.some.inj h]

/-- A path from the home directory is expanded for good when it is loaded. -/
theorem home_path_settled :
    ∃ settings, load tester "config.toml" (some (databaseAt "~/a.db")) = .ok settings ∧
      ∃ once, Path.expand? tester "~/a.db" = some once ∧ settings.database.path = some once ∧
        settings.databaseFile? tester = Path.expand? tester once ∧
        (settings.databaseFile? tester = Path.expand? tester "~/a.db" ↔
          Path.expand? tester once = some once) ∧
        ((∀ later, settings.databaseFile? later = Path.expand? tester "~/a.db") ↔
          Path.Settled once.toList) := by
  have hload : load tester "config.toml" (some (databaseAt "~/a.db")) =
      .ok { database := ⟨some "/home/tester/a.db"⟩ } := eq_ok_of_toOption (by decide +kernel)
  have htext : configuredPath? tester (some (databaseAt "~/a.db")) = some "~/a.db" := by decide +kernel
  exact ⟨_, hload, databaseFile_of_load _ _ _ _ _ hload htext⟩

/--
A doubled dollar sign means a directory whose name begins with a dollar sign. The settings that are
loaded say so, but the file of the database is looked for where the variable of that name leads.
-/
theorem doubled_dollar_twice :
    configuredPath? tester (some (databaseAt "$$HOME/a.db")) = some "$$HOME/a.db" ∧
      Path.expand? tester "$$HOME/a.db" = some "$HOME/a.db" ∧
      ∃ settings, load tester "config.toml" (some (databaseAt "$$HOME/a.db")) = .ok settings ∧
        settings.database.path = some "$HOME/a.db" ∧
        settings.databaseFile? tester = some "/home/tester/a.db" := by
  have hload : load tester "config.toml" (some (databaseAt "$$HOME/a.db")) =
      .ok { database := ⟨some "$HOME/a.db"⟩ } := eq_ok_of_toOption (by decide +kernel)
  exact ⟨by decide +kernel, by decide +kernel, _, hload, rfl, by decide +kernel⟩

end Config

end Parlor
