import Mathlib.Data.List.Induction
import Mathlib.Data.List.Pairwise
import Mathlib.Data.Nat.Find
import Parlor.Chat.Mention

/-!
# Who is mentioned

A text is searched for mentions from left to right, and each search goes on behind the mention before
it. Nothing is missed in that way, since no at sign stands within a name. The names that are found are
those behind all at signs, each once and in the order of their first places, and the users are those
who bear these names.
-/

namespace Parlor.Chat

namespace Mention

/-! ## Where a name is mentioned -/

/-- The characters of a name are the letters, the digits and the underscore of ASCII. -/
def IsWordChar (c : Char) : Prop :=
  ('A' ≤ c ∧ c ≤ 'Z') ∨ ('a' ≤ c ∧ c ≤ 'z') ∨ ('0' ≤ c ∧ c ≤ '9') ∨ c = '_'

/--
A text begins with a name: the first 32 characters of the longest run of word characters, which has at
least two.
-/
def BeginsWith (cs name : List Char) : Prop :=
  ∃ run after : List Char, cs = run ++ after ∧ (∀ c ∈ run, IsWordChar c) ∧ (∀ c ∈ after.head?, ¬ IsWordChar c) ∧
    2 ≤ run.length ∧ name = run.take 32

/-- What follows the at sign at a place of a text begins with a name, given here in lower case. -/
def MentionedAt (text name : String) (place : Nat) : Prop :=
  ∃ before behind word : List Char, text.toList = before ++ '@' :: behind ∧ before.length = place ∧
    BeginsWith behind word ∧ name.toList = word.map Char.toLower

/-- A user is the last of the participants whose names agree with a name in lower case. -/
def LastNamed (participants : List Participant) (name : String) (user : UserId) : Prop :=
  ∃ before p after, participants = before ++ p :: after ∧ Text.lowercase p.name = name ∧ p.user = user ∧
    ∀ q ∈ after, Text.lowercase q.name ≠ name

/-- At a place of a text, someone else than the sender is mentioned by name. -/
def AddressedAt (text : String) (sender : UserId) (participants : List Participant) (user : UserId) (place : Nat) :
    Prop :=
  user ≠ sender ∧ ∃ name, MentionedAt text name place ∧ LastNamed participants name user

/--
A list of all that is mentioned: each once, and one before another if it is mentioned in front of all
mentions of the other.
-/
structure ListsInOrder {α : Type} (mentioned : α → Nat → Prop) (as : List α) : Prop where
  once : as.Nodup
  mem_iff (a : α) : a ∈ as ↔ ∃ place, mentioned a place
  ordered : as.Pairwise fun a b => ∃ place, mentioned a place ∧ ∀ other, mentioned b other → place < other

/-! ## Names at the front of a text -/

theorem isNameChar_iff (c : Char) : isNameChar c = true ↔ IsWordChar c := by
  have hranges : isNameChar c = (decide ('A' ≤ c ∧ c ≤ 'Z') || (decide ('a' ≤ c) && decide (c ≤ 'z')) ||
      (decide ('0' ≤ c) && decide (c ≤ '9')) || decide (c = '_')) := rfl
  simp only [hranges, Bool.or_eq_true, Bool.and_eq_true, decide_eq_true_eq, or_assoc, IsWordChar]

/-- A property of every word character in the first half of a byte is a property of all word characters. -/
theorem IsWordChar.of_ascii {P : Char → Prop} {c : Char} (h : IsWordChar c)
    (hascii : ∀ n < 128, isNameChar (Char.ofNat n) = true → P (Char.ofNat n)) : P c := by
  have hsmall : c.toNat < 128 := by
    obtain h | h | h | rfl := h
    · exact Nat.lt_of_le_of_lt (UInt32.le_iff_toNat_le.mp h.2) (by decide)
    · exact Nat.lt_of_le_of_lt (UInt32.le_iff_toNat_le.mp h.2) (by decide)
    · exact Nat.lt_of_le_of_lt (UInt32.le_iff_toNat_le.mp h.2) (by decide)
    · decide
  have hc := hascii c.toNat hsmall
  rw [Char.ofNat_toNat] at hc
  exact hc ((isNameChar_iff c).mpr h)

/-- The character that ends a run of word characters is the first one that is none. -/
theorem takeWhile_run {run after : List Char} (hrun : ∀ c ∈ run, IsWordChar c)
    (hafter : ∀ c ∈ after.head?, ¬ IsWordChar c) : (run ++ after).takeWhile isNameChar = run := by
  rw [List.takeWhile_append_of_pos fun c hc => (isNameChar_iff c).mpr (hrun c hc)]
  cases after with
  | nil => simp
  | cons c rest => simp [mt (isNameChar_iff c).mp (hafter c rfl)]

/-- The name that a mention takes is the one that the rest of the text begins with. -/
theorem nameAt?_eq_some_iff (cs name : List Char) : nameAt? cs = some name ↔ BeginsWith cs name := by
  have hcut : (cs.take maxLength).takeWhile isNameChar = (cs.takeWhile isNameChar).take 32 :=
    List.take_takeWhile.symm
  rw [nameAt?, hcut]
  constructor
  · intro h
    split at h
    case isTrue hlong =>
      refine ⟨cs.takeWhile isNameChar, cs.dropWhile isNameChar, List.takeWhile_append_dropWhile.symm, ?_, ?_, ?_, ?_⟩
      · exact fun c hc => (isNameChar_iff c).mp (List.all_eq_true.mp List.all_takeWhile c hc)
      · intro c hc hword
        have hnot := List.head?_dropWhile_not isNameChar cs
        rw [Option.mem_def.mp hc] at hnot
        simp [(isNameChar_iff c).mpr hword] at hnot
      · rw [List.length_take] at hlong
        exact Nat.le_trans hlong (Nat.min_le_right _ _)
      · exact (Option.some.inj h).symm
    case isFalse => contradiction
  · rintro ⟨run, after, rfl, hrun, hafter, hlong, rfl⟩
    have hmin : minLength ≤ (run.take 32).length := by
      rw [List.length_take]
      exact Nat.le_min.mpr ⟨by decide, hlong⟩
    rw [takeWhile_run hrun hafter, if_pos hmin]

/-- A name consists of word characters, and stands at the front. -/
theorem BeginsWith.take_eq {cs name : List Char} (h : BeginsWith cs name) :
    cs.take name.length = name ∧ ∀ c ∈ name, IsWordChar c := by
  obtain ⟨run, after, rfl, hrun, -, -, rfl⟩ := h
  refine ⟨?_, fun c hc => hrun c (List.mem_of_mem_take hc)⟩
  rw [List.length_take, List.take_append_of_le_length (Nat.min_le_right _ _), ← List.take_take, List.take_length]

/-- The lower case of a name, character by character. -/
theorem lowercaseChars_word (before word : List Char) (h : ∀ c ∈ word, IsWordChar c) :
    Text.lowercaseChars before word = word.map Char.toLower := by
  induction word generalizing before with
  | nil => rfl
  | cons c rest ih =>
    rw [List.forall_mem_cons] at h
    have hsimple : c.toNat ≠ 0x3a3 ∧ Text.lowercaseChar c = [c.toLower] :=
      h.1.of_ascii (P := fun c => c.toNat ≠ 0x3a3 ∧ Text.lowercaseChar c = [c.toLower]) (by decide +kernel)
    simp only [Text.lowercaseChars, if_neg hsimple.1, hsimple.2, ih (c :: before) h.2, List.map_cons,
      List.singleton_append]

/-- The lower case of a name as a text. -/
theorem lowercase_eq_iff {word : List Char} (h : ∀ c ∈ word, IsWordChar c) (name : String) :
    Text.lowercase (String.ofList word) = name ↔ name.toList = word.map Char.toLower := by
  rw [Text.lowercase, String.toList_ofList, lowercaseChars_word [] word h]
  exact ⟨fun heq => heq ▸ String.toList_ofList, fun heq => heq ▸ String.ofList_toList⟩

/-! ## The names behind all at signs -/

/-- The names behind the at signs of a text with their places, where `start` characters stand in front of it. -/
def placed (start : Nat) : List Char → List (Nat × List Char)
  | [] => []
  | c :: rest =>
    ((if c = '@' then nameAt? rest else none).map (start, ·)).toList ++ placed (start + 1) rest

/-- To pass over characters without an at sign misses no name. -/
theorem scan_eq (start passed : Nat) (cs : List Char) (h : ∀ c ∈ cs.take passed, c ≠ '@') :
    scan passed cs = (placed start cs).map (·.2) := by
  induction cs generalizing start passed with
  | nil => rfl
  | cons c rest ih =>
    cases passed with
    | succ passed =>
      rw [List.take_succ_cons, List.forall_mem_cons] at h
      simpa [scan, placed, h.1] using ih (start + 1) passed h.2
    | zero =>
      simp only [scan, placed]
      split
      case isTrue hat =>
        cases hname : nameAt? rest with
        | none => simpa using ih (start + 1) 0 (by simp)
        | some name =>
          obtain ⟨hfront, hword⟩ := ((nameAt?_eq_some_iff rest name).mp hname).take_eq
          have hnone : ∀ c ∈ rest.take name.length, c ≠ '@' := by
            rw [hfront]
            rintro c hc rfl
            exact absurd (hword '@' hc) (by simp [← isNameChar_iff, isNameChar])
          simp [ih (start + 1) name.length hnone]
      case isFalse hat => simpa using ih (start + 1) 0 (by simp)

/-- What is found behind the at signs of a text. -/
theorem mem_placed_iff (start : Nat) (cs : List Char) (place : Nat) (name : List Char) :
    (place, name) ∈ placed start cs ↔
      ∃ before behind, cs = before ++ '@' :: behind ∧ start + before.length = place ∧ BeginsWith behind name := by
  induction cs generalizing start with
  | nil => simp [placed]
  | cons c rest ih =>
    have hfront : (place, name) ∈ ((if c = '@' then nameAt? rest else none).map (start, ·)).toList ↔
        c = '@' ∧ start = place ∧ BeginsWith rest name := by
      by_cases hat : c = '@'
      · simp [hat, ← nameAt?_eq_some_iff, and_comm]
      · simp [hat]
    rw [placed, List.mem_append, hfront, ih]
    constructor
    · rintro (⟨rfl, hplace, hname⟩ | ⟨before, behind, rfl, hplace, hname⟩)
      · exact ⟨[], rest, rfl, hplace, hname⟩
      · exact ⟨c :: before, behind, rfl, by rw [← hplace, List.length_cons]; omega, hname⟩
    · rintro ⟨before, behind, hcs, hplace, hname⟩
      cases before with
      | nil =>
        obtain ⟨hat, hrest⟩ := List.cons.inj hcs
        exact .inl ⟨hat, hplace, hrest ▸ hname⟩
      | cons _ before =>
        refine .inr ⟨before, behind, (List.cons.inj hcs).2, ?_, hname⟩
        rw [List.length_cons] at hplace
        omega

/-- The places grow from left to right. -/
theorem placed_increasing (start : Nat) (cs : List Char) :
    (placed start cs).Pairwise fun a b => a.1 < b.1 := by
  induction cs generalizing start with
  | nil => exact .nil
  | cons c rest ih =>
    rw [placed, List.pairwise_append]
    refine ⟨by simp, ih (start + 1), fun a ha b hb => ?_⟩
    obtain ⟨name, -, rfl⟩ := Option.map_eq_some_iff.mp (Option.mem_toList.mp ha)
    obtain ⟨before, -, -, hplace, -⟩ := (mem_placed_iff (start + 1) rest b.1 b.2).mp hb
    omega

/-! ## Each once, in the order of their first places -/

/-- One stands in a list in front of all places of another. -/
def InFront {α : Type} (as : List α) (a b : α) : Prop :=
  ∃ before after, as = before ++ a :: after ∧ b ∉ before ∧ b ≠ a

/-- An element in front changes nothing for others. -/
theorem InFront.cons {α : Type} {as : List α} {a b c : α} (h : InFront as a b) (hne : b ≠ c) :
    InFront (c :: as) a b := by
  obtain ⟨before, after, rfl, hbefore, hb⟩ := h
  exact ⟨c :: before, after, rfl, by simp [hne, hbefore], hb⟩

/--
One result stands in front of another: something that it is made of stands in front of all that the other is
made of.
-/
theorem InFront.of_filterMap {α β : Type} {f : α → Option β} {as : List α} {b c : β}
    (h : InFront (as.filterMap f) b c) :
    ∃ before a after, as = before ++ a :: after ∧ f a = some b ∧ ∀ d ∈ as, f d = some c → d ∈ after := by
  obtain ⟨bs, cs, hsplit, hnone, hne⟩ := h
  obtain ⟨front, back, rfl, rfl, hback⟩ := List.filterMap_eq_append_iff.mp hsplit
  obtain ⟨skipped, a, after, rfl, hskipped, ha, -⟩ := List.filterMap_eq_cons_iff.mp hback
  refine ⟨front ++ skipped, a, after, (List.append_assoc _ _ _).symm, ha, fun d hd hc => ?_⟩
  simp only [List.mem_append, List.mem_cons] at hd
  obtain hd | hd | rfl | hd := hd
  · exact absurd (List.mem_filterMap.mpr ⟨d, hd, hc⟩) hnone
  · exact absurd (hc.symm.trans (hskipped d hd)) (Option.some_ne_none c)
  · exact absurd (Option.some.inj (hc.symm.trans ha)) hne
  · exact hd

section Firsts

variable {α : Type} [DecidableEq α]

theorem mem_firsts_iff (seen as : List α) (a : α) : a ∈ firsts seen as ↔ a ∈ as ∧ a ∉ seen := by
  induction as generalizing seen with
  | nil => simp [firsts]
  | cons b rest ih =>
    rw [firsts]
    split
    case isTrue hseen =>
      rw [ih, List.mem_cons]
      exact ⟨fun h => ⟨.inr h.1, h.2⟩, fun h => ⟨h.1.resolve_left fun heq => h.2 (heq ▸ hseen), h.2⟩⟩
    case isFalse hnew =>
      rw [List.mem_cons, ih, List.mem_cons, List.mem_cons, not_or]
      by_cases heq : a = b
      · simp [heq, hnew]
      · simp [heq]

theorem nodup_firsts (seen as : List α) : (firsts seen as).Nodup := by
  induction as generalizing seen with
  | nil => exact .nil
  | cons b rest ih =>
    rw [firsts]
    split
    case isTrue => exact ih seen
    case isFalse => exact List.nodup_cons.mpr ⟨by simp [mem_firsts_iff], ih (b :: seen)⟩

/-- What is left of a list stands in the order of the first places in it. -/
theorem firsts_pairwise_inFront (seen as : List α) : (firsts seen as).Pairwise (InFront as) := by
  induction as generalizing seen with
  | nil => exact .nil
  | cons b rest ih =>
    have hlater (seen : List α) (hseen : b ∈ seen) : (firsts seen rest).Pairwise (InFront (b :: rest)) := by
      refine (ih seen).imp_of_mem fun {a c} _ hc h => h.cons ?_
      rintro rfl
      exact ((mem_firsts_iff seen rest c).mp hc).2 hseen
    rw [firsts]
    split
    case isTrue hseen => exact hlater seen hseen
    case isFalse =>
      refine List.pairwise_cons.mpr ⟨fun c hc => ⟨[], rest, rfl, List.not_mem_nil, ?_⟩, hlater _ List.mem_cons_self⟩
      rintro rfl
      exact ((mem_firsts_iff _ rest c).mp hc).2 List.mem_cons_self

end Firsts

/-- What is made of the things that are mentioned is listed in the order of the first mentions, if these are. -/
theorem listsInOrder_firsts {α β : Type} [DecidableEq β] {mentioned : α → Nat → Prop} {as : List α}
    (hmentioned : ∀ a ∈ as, ∃ place, mentioned a place)
    (hordered : as.Pairwise fun a b => ∃ place, mentioned a place ∧ ∀ other, mentioned b other → place < other)
    (f : α → Option β) :
    ListsInOrder (fun b place => ∃ a ∈ as, f a = some b ∧ mentioned a place) (firsts [] (as.filterMap f)) where
  once := nodup_firsts [] _
  mem_iff b := by
    rw [mem_firsts_iff, List.mem_filterMap]
    constructor
    · rintro ⟨⟨a, ha, hb⟩, -⟩
      obtain ⟨place, hplace⟩ := hmentioned a ha
      exact ⟨place, a, ha, hb, hplace⟩
    · rintro ⟨-, a, ha, hb, -⟩
      exact ⟨⟨a, ha, hb⟩, List.not_mem_nil⟩
  ordered := by
    refine (firsts_pairwise_inFront [] _).imp_of_mem fun {b c} _ hmem hfront => ?_
    obtain ⟨before, a, after, rfl, ha, hafter⟩ := hfront.of_filterMap
    have hlater : ∀ other, (∃ d ∈ before ++ a :: after, f d = some c ∧ mentioned d other) →
        ∃ place < other, mentioned a place := by
      rintro other ⟨d, hd, hc, hother⟩
      have hpairs := (List.pairwise_append.mp hordered).2.1
      obtain ⟨place, hplace, hbefore⟩ := (List.pairwise_cons.mp hpairs).1 d (hafter d hd hc)
      exact ⟨place, hbefore other hother, hplace⟩
    have hsome : ∃ other, ∃ d ∈ before ++ a :: after, f d = some c ∧ mentioned d other := by
      obtain ⟨d, hd, hc⟩ := List.mem_filterMap.mp ((mem_firsts_iff _ _ c).mp hmem).1
      obtain ⟨other, hother⟩ := hmentioned d hd
      exact ⟨other, d, hd, hc, hother⟩
    -- in front of the first mention of `c`, and so of all others
    classical
    obtain ⟨place, hplace, hmention⟩ := hlater _ (Nat.find_spec hsome)
    refine ⟨place, ⟨a, by simp, ha, hmention⟩, fun other hother => ?_⟩
    exact Nat.lt_of_lt_of_le hplace (Nat.find_min' hsome hother)

/-! ## Whom the names belong to -/

/-- The directory of names knows the last participant with a name. -/
theorem get?_byName (participants : List Participant) (name : String) (user : UserId) :
    (byName participants).get? name = some user ↔ LastNamed participants name user := by
  induction participants using List.reverseRecOn with
  | nil => simp [byName, Table.get?, LastNamed]
  | append_singleton before p ih =>
    rw [byName, List.foldl_append, List.foldl_cons, List.foldl_nil, Table.get?_insert, ← byName]
    constructor
    · intro h
      split at h
      case isTrue hname => exact ⟨before, p, [], rfl, hname, Option.some.inj h, by simp⟩
      case isFalse hname =>
        obtain ⟨front, q, back, rfl, hq, huser, hback⟩ := ih.mp h
        refine ⟨front, q, back ++ [p], by simp, hq, huser, ?_⟩
        simpa [or_imp, forall_and] using ⟨hback, hname⟩
    · rintro ⟨front, q, back, hsplit, hq, rfl, hback⟩
      obtain rfl | ⟨back, last, rfl⟩ := List.eq_nil_or_concat back
      · obtain ⟨-, rfl⟩ := List.append_singleton_inj.mp hsplit
        rw [if_pos hq]
      · rw [List.concat_eq_append] at hsplit hback
        rw [← List.cons_append, ← List.append_assoc] at hsplit
        obtain ⟨rfl, rfl⟩ := List.append_singleton_inj.mp hsplit
        rw [if_neg (hback p (by simp))]
        exact ih.mpr ⟨front, q, back, rfl, hq, rfl, fun r hr => hback r (List.mem_append_left _ hr)⟩

/-- Nobody mentions themselves. -/
theorem sender_notMem_users (text : String) (sender : UserId) (participants : List Participant) :
    sender ∉ users text sender participants := by
  intro hsender
  rw [users, mem_firsts_iff, List.mem_filter, decide_eq_true_eq] at hsender
  exact hsender.1.2 rfl

/-- No name behind an at sign is missed by the search from left to right. -/
theorem listsInOrder_names (text : String) : ListsInOrder (MentionedAt text) (names text) := by
  let lowered (found : Nat × List Char) : Option String := some (Text.lowercase (String.ofList found.2))
  have hnames : names text = firsts [] ((placed 0 text.toList).filterMap lowered) := by
    rw [names, scan_eq 0 0 text.toList (by simp), List.map_map]
    exact congrArg (firsts []) (congrFun List.filterMap_eq_map _).symm
  have hmentioned : MentionedAt text =
      fun name place => ∃ found ∈ placed 0 text.toList, lowered found = some name ∧ found.1 = place := by
    funext name place
    refine propext ⟨?_, ?_⟩
    · rintro ⟨before, behind, word, htext, hplace, hword, hname⟩
      have hfound : (place, word) ∈ placed 0 text.toList :=
        (mem_placed_iff 0 _ _ _).mpr ⟨before, behind, htext, by rw [Nat.zero_add, hplace], hword⟩
      exact ⟨(place, word), hfound, congrArg some ((lowercase_eq_iff hword.take_eq.2 name).mpr hname), rfl⟩
    · rintro ⟨⟨place, word⟩, hfound, hname, rfl⟩
      obtain ⟨before, behind, htext, hplace, hword⟩ := (mem_placed_iff 0 _ _ _).mp hfound
      refine ⟨before, behind, word, htext, by rw [← hplace, Nat.zero_add], hword, ?_⟩
      exact (lowercase_eq_iff hword.take_eq.2 name).mp (Option.some.inj hname)
  rw [hnames, hmentioned]
  refine listsInOrder_firsts (fun found _ => ⟨found.1, rfl⟩) ?_ lowered
  exact (placed_increasing 0 text.toList).imp fun {a b} hlt => ⟨a.1, rfl, fun other hother => hother ▸ hlt⟩

/--
The names of a text are those behind its at signs, and its users are the others than the sender who bear
these names; both are listed once and in the order of their first mentions.
-/
theorem mentions_exact (text : String) (sender : UserId) (participants : List Participant) :
    ListsInOrder (MentionedAt text) (names text) ∧
      ListsInOrder (AddressedAt text sender participants) (users text sender participants) := by
  have hnames := listsInOrder_names text
  refine ⟨hnames, ?_⟩
  let found (name : String) : Option UserId := ((byName participants).get? name).filter (· ≠ sender)
  have husers : users text sender participants = firsts [] ((names text).filterMap found) := by
    rw [users, List.filter_filterMap]
  have haddressed : AddressedAt text sender participants =
      fun user place => ∃ name ∈ names text, found name = some user ∧ MentionedAt text name place := by
    funext user place
    simp only [AddressedAt, found, Option.filter_eq_some_iff, get?_byName, decide_eq_true_eq]
    refine propext ⟨?_, ?_⟩
    · rintro ⟨hother, name, hmention, hnamed⟩
      exact ⟨name, (hnames.mem_iff name).mpr ⟨place, hmention⟩, ⟨hnamed, hother⟩, hmention⟩
    · rintro ⟨name, -, ⟨hnamed, hother⟩, hmention⟩
      exact ⟨hother, name, hmention, hnamed⟩
  rw [husers, haddressed]
  exact listsInOrder_firsts (fun name hname => (hnames.mem_iff name).mp hname) hnames.ordered found

-- an at sign ends a name and begins another, and one character is no name
example : names "a@Bob@alice, mail@x @bob @ann_2" = ["bob", "alice", "ann_2"] := by decide +kernel

end Mention

end Parlor.Chat
