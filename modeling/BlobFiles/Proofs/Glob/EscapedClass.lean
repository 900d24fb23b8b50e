import BlobFiles.Proofs.Glob.LastStar

/-! # Escaped characters in a class

A class is written with a `\` in front of every character of its items. The first character of an
item is read as it is meant, whatever it is. The upper end of a range is not: the range ends at the
`\` in front of it, and the end that was meant becomes a member of its own.
-/
namespace BlobFiles.Glob

/-! ## Items -/

inductive ClassItem where
  | single (c : Char)
  /-- All characters from one to another, both included. -/
  | range (lo hi : Char)

namespace ClassItem

/-- What an item means. -/
def Holds : ClassItem → Char → Prop
  | single x, c => c = x
  | range lo hi, c => lo ≤ c ∧ c ≤ hi

/-- What the matcher makes of an escaped item. -/
def Read : ClassItem → Char → Prop
  | single x, c => c = x
  | range lo hi, c => lo ≤ c ∧ c ≤ '\\' ∨ c = hi

/-- Where the two differ: a range loses what lies between `\` and its end, or gains what lies
between its end and `\`, or its end when it is empty. -/
def Misread : ClassItem → Char → Prop
  | single _, _ => False
  | range lo hi, c => lo ≤ c ∧ '\\' < c ∧ c < hi ∨ lo ≤ c ∧ c ≤ '\\' ∧ hi < c ∨ c = hi ∧ hi < lo

def escaped : ClassItem → List Char
  | single x => ['\\', x]
  | range lo hi => ['\\', lo, '-', '\\', hi]

/-- The members that an escaped item is read as. -/
def members : ClassItem → List (Char × Char)
  | single x => [(x, x)]
  | range lo hi => [(lo, '\\'), (hi, hi)]

theorem read_iff_holds_iff {item : ClassItem} {c : Char} :
    (item.Read c ↔ item.Holds c) ↔ ¬ item.Misread c := by
  cases item with
  | single x => simp [Read, Holds, Misread]
  | range lo hi =>
    -- characters are ordered as their numbers are
    simp only [Read, Holds, Misread, Char.le_def, Char.lt_def, Char.ext_iff, UInt32.le_iff_toNat_le,
      UInt32.lt_iff_toNat_lt, ← UInt32.toNat_inj]
    omega

end ClassItem

/-- The items, escaped, and the bracket that closes their class. -/
def classBody (items : List ClassItem) : List Char := items.flatMap ClassItem.escaped ++ [']']

def negationSign (negated : Bool) : List Char := if negated then ['!'] else []

def classPattern (negated : Bool) (items : List ClassItem) : List Char :=
  '[' :: (negationSign negated ++ classBody items)

/-- No range ends in a character that a class gives a meaning to. -/
def PlainEnds (items : List ClassItem) : Prop :=
  ∀ lo hi, ClassItem.range lo hi ∈ items → hi ≠ ']' ∧ hi ≠ '\\'

theorem PlainEnds.of_cons {item : ClassItem} {items : List ClassItem}
    (h : PlainEnds (item :: items)) : PlainEnds items :=
  fun lo hi hMem => h lo hi (List.mem_cons_of_mem item hMem)

theorem PlainEnds.head {item : ClassItem} {items : List ClassItem}
    (h : PlainEnds (item :: items)) : PlainEnds [item] :=
  fun lo hi hMem => h lo hi (List.mem_singleton.mp hMem ▸ List.mem_cons_self)

/-! ## The members that are read -/

/-- Text inside a class that goes on with another member or ends. -/
def Continues (cs : List Char) : Prop := ∃ c rest, cs = c :: rest ∧ (c = ']' ∨ c = '\\')

theorem Continues.not_opensRange {cs : List Char} (h : Continues cs) : ¬ OpensRange cs := by
  obtain ⟨c, rest, rfl, hHead⟩ := h
  rintro ⟨hi, rest', hCons, -⟩
  cases hCons
  rcases hHead with h | h <;> cases h

theorem continues_escaped {cs : List Char} (h : Continues cs) (items : List ClassItem) :
    Continues (items.flatMap ClassItem.escaped ++ cs) := by
  cases items with
  | nil => exact h
  | cons item items => cases item <;> exact ⟨'\\', _, rfl, .inr rfl⟩

theorem continues_classBody (items : List ClassItem) : Continues (classBody items) :=
  continues_escaped ⟨']', [], rfl, .inl rfl⟩ items

theorem members_iff_of_firstMember {first : Bool} {cs rest rest' : List Char}
    {member : Char × Char} {members : List (Char × Char)}
    (hOpen : first = true ∨ cs.head? ≠ some ']') (hMember : FirstMember cs member rest) :
    Members first cs members rest' ↔ ∃ more, members = member :: more ∧
      Members false rest more rest' := by
  constructor
  · intro h
    cases h with
    | close => simp at hOpen
    | member _ hOther hMore =>
      obtain ⟨rfl, rfl⟩ := hMember.unique hOther
      exact ⟨_, rfl, hMore⟩
  · rintro ⟨more, rfl, hMore⟩
    exact .member hOpen hMember hMore

theorem members_item_iff {first : Bool} {item : ClassItem} {cs rest : List Char}
    {members : List (Char × Char)} (hEnd : PlainEnds [item]) (hNext : Continues cs) :
    Members first (item.escaped ++ cs) members rest ↔
      ∃ more, members = item.members ++ more ∧ Members false cs more rest := by
  have hOne := hNext.not_opensRange
  cases item with
  | single x =>
    apply members_iff_of_firstMember
    · exact .inr (by simp [ClassItem.escaped])
    · exact .one .escaped hOne
  | range lo hi =>
    obtain ⟨hBracket, hEscape⟩ := hEnd lo hi (List.mem_singleton_self _)
    have hRange : FirstMember (ClassItem.escaped (.range lo hi) ++ cs) (lo, '\\') (hi :: cs) :=
      .range .escaped (by decide)
    have hSingle : FirstMember (hi :: cs) (hi, hi) cs := .one (.plain hEscape) hOne
    have hOpen : false = true ∨ (hi :: cs).head? ≠ some ']' := .inr (by simpa using hBracket)
    rw [members_iff_of_firstMember (.inr (by simp [ClassItem.escaped])) hRange]
    constructor
    · rintro ⟨inner, rfl, hInner⟩
      obtain ⟨more, rfl, hMore⟩ := (members_iff_of_firstMember hOpen hSingle).mp hInner
      exact ⟨more, rfl, hMore⟩
    · rintro ⟨more, rfl, hMore⟩
      exact ⟨_, rfl, (members_iff_of_firstMember hOpen hSingle).mpr ⟨more, rfl, hMore⟩⟩

/-- Items in front are read one by one, whatever comes after them. -/
theorem members_escaped_iff {first : Bool} {items : List ClassItem} {cs rest : List Char}
    {members : List (Char × Char)} (hEnds : PlainEnds items) (hNext : Continues cs) :
    Members first (items.flatMap ClassItem.escaped ++ cs) members rest ↔
      ∃ more, members = items.flatMap ClassItem.members ++ more ∧
        Members (first && items.isEmpty) cs more rest := by
  induction items generalizing first members with
  | nil => simp
  | cons item items ih =>
    rw [List.flatMap_cons, List.flatMap_cons, List.append_assoc, List.isEmpty_cons, Bool.and_false,
      members_item_iff hEnds.head (continues_escaped hNext items)]
    constructor
    · rintro ⟨inner, rfl, hInner⟩
      obtain ⟨more, rfl, hMore⟩ := (ih hEnds.of_cons).mp hInner
      exact ⟨more, (List.append_assoc _ _ _).symm, hMore⟩
    · rintro ⟨more, rfl, hMore⟩
      exact ⟨_, List.append_assoc _ _ _, (ih hEnds.of_cons).mpr ⟨more, rfl, hMore⟩⟩

theorem covers_members_iff {items : List ClassItem} {c : Char} :
    covers (items.flatMap ClassItem.members) c = true ↔ ∃ item ∈ items, item.Read c := by
  have hItem : ∀ item : ClassItem,
      (item.members.any fun m => m.1 ≤ c && c ≤ m.2) = true ↔ item.Read c := by
    intro item
    cases item with
    | single x =>
      rw [ClassItem.members, List.any_cons, List.any_nil, Bool.or_false, holds_self_iff,
        decide_eq_true_eq, ClassItem.Read, eq_comm]
    | range lo hi =>
      rw [ClassItem.members, List.any_cons, List.any_cons, List.any_nil, Bool.or_false,
        holds_self_iff, ClassItem.Read, eq_comm (a := c)]
      simp
  rw [covers, List.any_flatMap, List.any_eq_true]
  simp only [hItem]

/-! ## A pattern that is one class -/

/-- What is left of a text that ends in `]` is no row of stars. -/
theorem eq_nil_of_suffix_bracket {front rest : List Char} (hSuffix : rest <:+ front ++ [']'])
    (hStars : rest.all (· = '*') = true) : rest = [] := by
  rcases List.suffix_concat_iff.mp hSuffix with hNil | ⟨before, rfl, -⟩
  · exact hNil
  · simp at hStars

theorem matchSegment_bracket_iff {front : List Char} {c : Char} :
    matchSegment ('[' :: (front ++ [']'])) [c] = true ↔ ∃ negated members,
      CharClass (front ++ [']']) negated members [] ∧ covers members c = !negated := by
  rw [matchSegment_iff]
  constructor
  · intro hMatches
    by_cases hClass : ∃ negated members rest, CharClass (front ++ [']']) negated members rest
    · obtain ⟨negated, members, rest, hClass⟩ := hClass
      rw [matches_of_firstToken_ne_star (.oneOf hClass) (by simp)] at hMatches
      obtain ⟨c', back, hText, hTakes, hBack⟩ := hMatches
      cases hText
      obtain rfl := eq_nil_of_suffix_bracket hClass.suffix (matches_nil_iff.mp hBack)
      exact ⟨negated, members, hClass, by simpa [Token.takes_oneOf_iff] using hTakes⟩
    · -- a bracket that opens no class is a character, and the closing one is left over
      have hOpen : ∀ negated members rest, ¬ CharClass (front ++ [']']) negated members rest :=
        fun negated members rest hSome => hClass ⟨negated, members, rest, hSome⟩
      rw [matches_of_firstToken_ne_star (.bracket hOpen) (by simp)] at hMatches
      obtain ⟨c', back, hText, -, hBack⟩ := hMatches
      cases hText
      have hStars := matches_nil_iff.mp hBack
      simp at hStars
  · rintro ⟨negated, members, hClass, hCovers⟩
    rw [matches_of_firstToken_ne_star (.oneOf hClass) (by simp)]
    refine ⟨c, [], rfl, Token.takes_oneOf_iff.mpr (by simpa using hCovers), ?_⟩
    exact matches_nil_left_iff.mpr rfl

theorem charClass_classBody_iff {negated negated' : Bool} {items : List ClassItem}
    {members : List (Char × Char)} :
    CharClass (negationSign negated ++ classBody items) negated' members [] ↔
      negated' = negated ∧ Members true (classBody items) members [] := by
  cases negated with
  | true =>
    constructor
    · intro hClass
      cases hClass with
      | negated _ hMembers => exact ⟨rfl, hMembers⟩
      | plain hSign _ => cases hSign
    · rintro ⟨rfl, hMembers⟩
      exact .negated rfl hMembers
  | false =>
    obtain ⟨c, cs, hBody, hHead⟩ := continues_classBody items
    have hSign : isNegation c = false := by
      rcases hHead with rfl | rfl <;> rfl
    change CharClass (classBody items) _ _ _ ↔ _
    rw [hBody]
    constructor
    · intro hClass
      cases hClass with
      | negated hOther _ => cases hSign.symm.trans hOther
      | plain _ hMembers => exact ⟨rfl, hMembers⟩
    · rintro ⟨rfl, hMembers⟩
      exact .plain hSign hMembers

theorem matchSegment_classPattern_iff {negated : Bool} {items : List ClassItem} {c : Char} :
    matchSegment (classPattern negated items) [c] = true ↔
      ∃ members, Members true (classBody items) members [] ∧ covers members c = !negated := by
  have hPattern : classPattern negated items =
      '[' :: (negationSign negated ++ items.flatMap ClassItem.escaped ++ [']']) := by
    rw [List.append_assoc]
    rfl
  rw [hPattern, matchSegment_bracket_iff, List.append_assoc]
  constructor
  · rintro ⟨negated', members, hClass, hCovers⟩
    obtain ⟨rfl, hMembers⟩ := charClass_classBody_iff.mp hClass
    exact ⟨members, hMembers, hCovers⟩
  · rintro ⟨members, hMembers, hCovers⟩
    exact ⟨negated, members, charClass_classBody_iff.mpr ⟨rfl, hMembers⟩, hCovers⟩

theorem members_close_iff {rest : List Char} {members : List (Char × Char)} :
    Members false (']' :: rest) members [] ↔ members = [] ∧ rest = [] := by
  constructor
  · intro h
    cases h with
    | close => exact ⟨rfl, rfl⟩
    | member hOpen _ _ => simp at hOpen
  · rintro ⟨rfl, rfl⟩
    exact .close

theorem members_classBody_iff {items : List ClassItem} {members : List (Char × Char)}
    (hItems : items ≠ []) (hEnds : PlainEnds items) :
    Members true (classBody items) members [] ↔ members = items.flatMap ClassItem.members := by
  have hFirst : (true && items.isEmpty) = false := by simpa using hItems
  rw [classBody, members_escaped_iff hEnds ⟨']', [], rfl, .inl rfl⟩, hFirst]
  simp [members_close_iff]

/-- A range that ends in `]` closes the class before its last bracket. -/
theorem not_members_of_bracket {before after : List ClassItem} {lo : Char}
    {members : List (Char × Char)} (hEnds : PlainEnds before) :
    ¬ Members true (classBody (before ++ .range lo ']' :: after)) members [] := by
  have hBody : classBody (before ++ .range lo ']' :: after) = before.flatMap ClassItem.escaped ++
      '\\' :: lo :: '-' :: '\\' :: ']' :: classBody after := by
    simp [classBody, ClassItem.escaped]
  have hRange : FirstMember ('\\' :: lo :: '-' :: '\\' :: ']' :: classBody after) (lo, '\\')
      (']' :: classBody after) := .range .escaped (by decide)
  rw [hBody, members_escaped_iff hEnds ⟨'\\', _, rfl, .inr rfl⟩]
  rintro ⟨more, -, hMore⟩
  obtain ⟨left, -, hLeft⟩ := (members_iff_of_firstMember (.inr (by simp)) hRange).mp hMore
  obtain ⟨c, cs, hAfter, -⟩ := continues_classBody after
  rw [hAfter] at hLeft
  cases (members_close_iff.mp hLeft).2

/-- A last range that ends in `\` takes the bracket for an escaped character. -/
theorem not_members_of_escape {before : List ClassItem} {lo : Char}
    {members : List (Char × Char)} (hEnds : PlainEnds before) :
    ¬ Members true (classBody (before ++ [.range lo '\\'])) members [] := by
  have hBody : classBody (before ++ [.range lo '\\']) = before.flatMap ClassItem.escaped ++
      ['\\', lo, '-', '\\', '\\', ']'] := by
    simp [classBody, ClassItem.escaped]
  have hRange : FirstMember ['\\', lo, '-', '\\', '\\', ']'] (lo, '\\') ['\\', ']'] :=
    .range .escaped (by decide)
  have hBracket : FirstMember ['\\', ']'] (']', ']') [] := by
    refine .one .escaped ?_
    rintro ⟨hi, rest, hNil, -⟩
    cases hNil
  rw [hBody, members_escaped_iff hEnds ⟨'\\', _, rfl, .inr rfl⟩]
  rintro ⟨more, -, hMore⟩
  obtain ⟨left, -, hLeft⟩ := (members_iff_of_firstMember (.inr (by simp)) hRange).mp hMore
  obtain ⟨none, -, hNone⟩ := (members_iff_of_firstMember (.inr (by simp)) hBracket).mp hLeft
  exact hNone.ne_nil rfl

/-- A class with escaped characters accepts one character of text by the members that it is read
as. When no range ends in `]` or `\`, these are the items, but for ranges, which go up to `\` and
have their end as a member besides; so the items mean what they say for every character that none of
them is misread at. A range that ends in `]`, and a last one that ends in `\`, refuse everything. -/
theorem matchSegment_escaped_class (negated : Bool) (items : List ClassItem) (hItems : items ≠ [])
    (c : Char) :
    (matchSegment (classPattern negated items) [c] = true ↔
      ∃ members, Members true (classBody items) members [] ∧ covers members c = !negated) ∧
    (PlainEnds items → (matchSegment (classPattern negated items) [c] = true ↔
      ((∃ item ∈ items, item.Read c) ↔ negated = false))) ∧
    (PlainEnds items → (∀ item ∈ items, ¬ item.Misread c) →
      (matchSegment (classPattern negated items) [c] = true ↔
        ((∃ item ∈ items, item.Holds c) ↔ negated = false))) ∧
    ∀ before lo after, PlainEnds before →
      (items = before ++ .range lo ']' :: after ∨ items = before ++ [.range lo '\\']) →
      matchSegment (classPattern negated items) [c] = false := by
  have hRead : PlainEnds items → (matchSegment (classPattern negated items) [c] = true ↔
      ((∃ item ∈ items, item.Read c) ↔ negated = false)) := by
    intro hEnds
    rw [matchSegment_classPattern_iff, ← covers_members_iff]
    simp only [members_classBody_iff hItems hEnds, exists_eq_left]
    cases negated <;> simp
  refine ⟨matchSegment_classPattern_iff, hRead, fun hEnds hClear => ?_, ?_⟩
  · have hSame : (∃ item ∈ items, item.Read c) ↔ ∃ item ∈ items, item.Holds c :=
      exists_congr fun item =>
        and_congr_right fun hMem => ClassItem.read_iff_holds_iff.mpr (hClear item hMem)
    rw [hRead hEnds, hSame]
  · intro before lo after hEnds hEnd
    rw [Bool.eq_false_iff, ne_eq, matchSegment_classPattern_iff]
    rintro ⟨members, hMembers, -⟩
    rcases hEnd with rfl | rfl
    · exact not_members_of_bracket hEnds hMembers
    · exact not_members_of_escape hEnds hMembers

/-! The letters from `a` to `z`, and five characters that a class gives a meaning to. -/

def letters : List ClassItem := [.range 'a' 'z']

def brackets : List ClassItem := [.single ']', .single '-', .single '!', .single '^', .single '\\']

theorem matchSegment_escaped_class_letters :
    (letters ≠ [] ∧ PlainEnds letters ∧ brackets ≠ [] ∧ PlainEnds brackets ∧
      ∀ item ∈ brackets, ¬ item.Misread '-') ∧
    (∃ item ∈ letters, item.Holds 'm') ∧
    matchSegment (classPattern false letters) ['m'] = false ∧
    matchSegment (classPattern false brackets) ['-'] = true := by
  have hEnds : PlainEnds letters := by
    intro lo hi hMem
    cases List.mem_singleton.mp hMem
    decide
  have hBrackets : PlainEnds brackets := by
    intro lo hi hMem
    simp [brackets] at hMem
  have hClear : ∀ item ∈ brackets, ¬ item.Misread '-' := by
    intro item hMem
    simp only [brackets, List.mem_cons, List.not_mem_nil, or_false] at hMem
    rcases hMem with rfl | rfl | rfl | rfl | rfl <;> exact not_false
  obtain ⟨-, hLetters, -⟩ := matchSegment_escaped_class false letters (by decide) 'm'
  obtain ⟨-, -, hSingles, -⟩ := matchSegment_escaped_class false brackets (by decide) '-'
  refine ⟨⟨by decide, hEnds, by decide, hBrackets, hClear⟩,
    ⟨_, List.mem_singleton_self _, by decide, by decide⟩, ?_, ?_⟩
  · rw [Bool.eq_false_iff, ne_eq, hLetters hEnds]
    simp [letters, ClassItem.Read]
  · exact (hSingles hBrackets hClear).mpr (iff_of_true ⟨.single '-', by simp [brackets], rfl⟩ rfl)

end BlobFiles.Glob
